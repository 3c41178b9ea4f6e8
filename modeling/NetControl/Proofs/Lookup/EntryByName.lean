import Mathlib.Data.List.Induction
import NetControl.Lookup.HostResolver
import NetControl.Proofs.Lookup.ReplyStream

/-!
# The entry of a host by its name

The host's library may find any addresses for a name, of either family and more than once, and any
of them may come with the canonical name; or it may fail with any code. `lookupByName_cases` tells
where the entry of the host is put together from what it has found, and `entryOf_cases` what the
entry is then. `entries_by_name` says of all libraries that an entry is as it should be and reaches
the client as it is, and which codes stand in the place of one.
-/

namespace NetControl.Lookup

open Command Net

/-! ## The first of equal items -/

section Distinct

variable {a b : Bytes} {items : List Bytes}

theorem distinct_concat (items : List Bytes) (a : Bytes) :
    distinct (items ++ [a]) =
      if a ∈ distinct items then distinct items else distinct items ++ [a] := by
  unfold distinct
  rw [List.foldl_append]
  rfl

theorem mem_distinct_iff : a ∈ distinct items ↔ a ∈ items := by
  induction items using List.reverseRecOn generalizing a with
  | nil => exact Iff.rfl
  | append_singleton items b ih =>
    rw [distinct_concat, List.mem_append, List.mem_singleton]
    split
    · next old =>
      rw [ih]
      refine ⟨Or.inl, fun either => either.elim id fun same => ?_⟩
      rw [same]
      exact ih.mp old
    · rw [List.mem_append, List.mem_singleton, ih]

/-- What is kept stands in the order in which it first occurs. -/
theorem pairwise_distinct (items : List Bytes) :
    (distinct items).Pairwise fun a b => items.idxOf a < items.idxOf b := by
  induction items using List.reverseRecOn with
  | nil => exact .nil
  | append_singleton items c ih =>
    have before : ∀ a ∈ distinct items, (items ++ [c]).idxOf a = items.idxOf a :=
      fun a member => List.idxOf_append_of_mem (mem_distinct_iff.mp member)
    have kept : (distinct items).Pairwise fun a b =>
        (items ++ [c]).idxOf a < (items ++ [c]).idxOf b := by
      refine ih.imp_of_mem fun {a b} left right earlier => ?_
      rw [before a left, before b right]
      exact earlier
    rw [distinct_concat]
    split
    · exact kept
    · next new =>
      refine List.pairwise_append.mpr ⟨kept, List.pairwise_singleton _ _, fun a left b last => ?_⟩
      obtain rfl := List.mem_singleton.mp last
      have absent : b ∉ items := fun inside => new (mem_distinct_iff.mpr inside)
      rw [before a left, List.idxOf_append_of_notMem absent]
      have inside := List.idxOf_lt_length_of_mem (mem_distinct_iff.mp left)
      omega

theorem idxOf_lt_of_filter {p : Bytes → Bool} (left : p a) (right : p b)
    (earlier : (items.filter p).idxOf a < (items.filter p).idxOf b) :
    items.idxOf a < items.idxOf b := by
  induction items with
  | nil => exact earlier
  | cons c items ih =>
    by_cases keeps : p c
    · rw [List.filter_cons_of_pos keeps] at earlier
      grind
    · rw [List.filter_cons_of_neg keeps] at earlier
      have first : c ≠ a := fun same => keeps (same ▸ left)
      have second : c ≠ b := fun same => keeps (same ▸ right)
      rw [List.idxOf_cons_ne _ first, List.idxOf_cons_ne _ second]
      exact Nat.succ_lt_succ (ih earlier)

end Distinct

/-! ## Entries -/

variable {requested : String} {family : Int32} {size : Nat} {found : List AddressInfo}
  {l : HostLibrary} {name : Option String}

/-- The octets of the addresses, in the order in which they were found. -/
def octetsOf (found : List AddressInfo) : List Bytes :=
  found.map (·.address.ip.bytes)

/-- Among the octets of all that was found, these are the different ones of the size, in the order
in which they first occur. -/
structure FirstsOfSize (size : Nat) (octets addresses : List Bytes) : Prop where
  mem_iff : ∀ a, a ∈ addresses ↔ a ∈ octets ∧ a.length = size
  nodup : addresses.Nodup
  ordered : addresses.Pairwise fun a b => octets.idxOf a < octets.idxOf b

/-- The canonical name that was found first, or the one that was asked for if none was found. -/
def IsName (requested : String) (found : List AddressInfo) (s : String) : Prop :=
  (∃ before i after, found = before ++ i :: after ∧ (∀ j ∈ before, j.canonicalName = none) ∧
    i.canonicalName = some s) ∨
  (∀ i ∈ found, i.canonicalName = none) ∧ s = requested

/-- The entry of the family, whose addresses have the size, for what was found when the name was
asked for. -/
structure IsEntry (requested : String) (family : Int32) (size : Nat) (found : List AddressInfo)
    (h : HostEntry) : Prop where
  addressType : h.addressType = family
  length : h.length.toInt = size
  aliases : h.aliases = []
  name : ∃ s, h.name = some s ∧ IsName requested found s
  present : h.addresses ≠ []
  addresses : FirstsOfSize size (octetsOf found) h.addresses

theorem mem_addressesOfSize_iff {a : Bytes} :
    a ∈ addressesOfSize size found ↔ a ∈ octetsOf found ∧ a.length = size := by
  rw [addressesOfSize, mem_distinct_iff, List.mem_filter, decide_eq_true_iff, octetsOf]

theorem firstsOfSize_addressesOfSize (size : Nat) (found : List AddressInfo) :
    FirstsOfSize size (octetsOf found) (addressesOfSize size found) := by
  have ordered : (addressesOfSize size found).Pairwise fun a b =>
      (octetsOf found).idxOf a < (octetsOf found).idxOf b := by
    refine (pairwise_distinct _).imp_of_mem fun {a b} left right earlier => ?_
    have leftSize := (mem_addressesOfSize_iff.mp left).2
    have rightSize := (mem_addressesOfSize_iff.mp right).2
    exact idxOf_lt_of_filter (decide_eq_true leftSize) (decide_eq_true rightSize) earlier
  refine ⟨fun a => mem_addressesOfSize_iff, ?_, ordered⟩
  exact ordered.imp fun earlier same => absurd (same ▸ earlier) (Nat.lt_irrefl _)

theorem addressesOfSize_eq_nil_iff :
    addressesOfSize size found = [] ↔ ∀ i ∈ found, i.address.ip.bytes.length ≠ size := by
  simp only [List.eq_nil_iff_forall_not_mem, mem_addressesOfSize_iff, octetsOf, List.mem_map,
    not_and, forall_exists_index, and_imp, forall_apply_eq_imp_iff₂, ne_eq]

theorem isName_getD (requested : String) (found : List AddressInfo) :
    IsName requested found ((found.findSome? (·.canonicalName)).getD requested) := by
  cases first : found.findSome? (·.canonicalName) with
  | none => exact Or.inr ⟨List.findSome?_eq_none_iff.mp first, rfl⟩
  | some s =>
    obtain ⟨before, i, after, split, named, unnamed⟩ := List.findSome?_eq_some_iff.mp first
    exact Or.inl ⟨before, i, after, split, unnamed, named⟩

/-- An address of either family is of one size. -/
theorem addressSize_eq_some_iff :
    addressSize family = some size ↔
      family = afInet ∧ size = 4 ∨ family = afInet6 ∧ size = 16 := by
  unfold addressSize
  have different : afInet ≠ afInet6 := by decide
  split
  · next ipv4 => simp [ipv4, different, eq_comm]
  · next other =>
    split
    · next ipv6 => simp [ipv6, different.symm, eq_comm]
    · next neither => simp [other, neither]

/-- There is an entry if an address of the size was found, and it is made of what was found. -/
theorem entryOf_cases (sized : addressSize family = some size) (requested : String)
    (found : List AddressInfo) :
    entryOf requested family size found = .error (.host noData) ∧
        (∀ i ∈ found, i.address.ip.bytes.length ≠ size) ∨
      ∃ h, entryOf requested family size found = .ok h ∧ IsEntry requested family size found h := by
  unfold entryOf
  have firsts := firstsOfSize_addressesOfSize size found
  cases kept : addressesOfSize size found with
  | nil => exact Or.inl ⟨rfl, addressesOfSize_eq_nil_iff.mp kept⟩
  | cons a addresses =>
    rw [kept] at firsts
    refine Or.inr ⟨_, rfl, rfl, ?_, rfl, ⟨_, rfl, isName_getD requested found⟩,
      List.cons_ne_nil a addresses, firsts⟩
    rcases addressSize_eq_some_iff.mp sized with ⟨-, rfl⟩ | ⟨-, rfl⟩ <;> rfl

theorem IsEntry.exists_ofSize {h : HostEntry} (entry : IsEntry requested family size found h) :
    ∃ i ∈ found, i.address.ip.bytes.length = size := by
  obtain ⟨a, member⟩ := List.exists_mem_of_ne_nil _ entry.present
  obtain ⟨inside, length⟩ := (entry.addresses.mem_iff a).mp member
  obtain ⟨i, among, rfl⟩ := List.mem_map.mp inside
  exact ⟨i, among, length⟩

/-- An entry can be written and read if its name can. -/
theorem IsEntry.wellFormed {h : HostEntry} (sized : addressSize family = some size)
    (entry : IsEntry requested family size found h) (fits : ∀ s ∈ h.name, TextFits s) :
    h.WellFormed where
  name := fits
  aliases := by
    rw [entry.aliases]
    exact List.forall_mem_nil _
  addresses a member := by
    have bounds : 0 < size ∧ size < 2 ^ 31 := by
      rcases addressSize_eq_some_iff.mp sized with ⟨-, rfl⟩ | ⟨-, rfl⟩ <;> decide
    have length := ((entry.addresses.mem_iff a).mp member).2
    refine ⟨List.ne_nil_of_length_pos (by omega), by omega, ?_⟩
    rw [length, entry.length]

/-! ## Lookups -/

/-- The library is asked for the addresses of the name in the family, which have the size. -/
structure Asks (name : Option String) (family : Int32) (requested : String) (size : Nat) :
    Prop where
  name : name = some requested
  plain : Text.IsPlain requested
  sized : family = afInet ∧ size = 4 ∨ family = afInet6 ∧ size = 16

theorem isPassable_iff {s : String} : isPassable (some s) = true ↔ Text.IsPlain s := by
  rw [isPassable, Bool.not_eq_true', Text.IsPlain, List.contains_eq_mem, decide_eq_false_iff_not]

/-- The codes of host lookups. -/
def hostCodes : List Int32 :=
  [hostNotFound, tryAgain, noRecovery, noData]

theorem hostCode_mem (code : Int32) : hostCode code ∈ hostCodes := by
  unfold hostCode
  split
  · decide
  · split <;> decide

namespace HostLibrary

theorem lookupByName_of_asks (asks : Asks name family requested size) :
    l.lookupByName name family =
      match l.addresses (some requested) none (some (entryHints family)) with
      | .error code => .error (.host (hostCode code))
      | .ok found => entryOf requested family size found := by
  obtain ⟨rfl, plain, sized⟩ := asks
  unfold lookupByName
  rw [addressSize_eq_some_iff.mpr sized]
  exact if_pos (isPassable_iff.mpr plain)

/-- A lookup for which the library is not asked fails. -/
theorem lookupByName_cases (l : HostLibrary) (name : Option String) (family : Int32) :
    (∃ code ∈ hostCodes, l.lookupByName name family = .error (.host code)) ∨
      ∃ requested size, Asks name family requested size := by
  unfold lookupByName
  cases name with
  | none => exact Or.inl ⟨hostNotFound, by decide, rfl⟩
  | some requested =>
    cases sized : addressSize family with
    | none => exact Or.inl ⟨noRecovery, by decide, rfl⟩
    | some size =>
      by_cases plain : Text.IsPlain requested
      · exact Or.inr ⟨requested, size, rfl, plain, addressSize_eq_some_iff.mp sized⟩
      · exact Or.inl ⟨hostNotFound, by decide,
          if_neg fun passable => plain (isPassable_iff.mp passable)⟩

theorem lookupByName_of_found (asks : Asks name family requested size)
    (answer : l.addresses (some requested) none (some (entryHints family)) = .ok found) :
    l.lookupByName name family = .error (.host noData) ∧
        (∀ i ∈ found, i.address.ip.bytes.length ≠ size) ∨
      ∃ h, l.lookupByName name family = .ok h ∧ IsEntry requested family size found h := by
  rw [lookupByName_of_asks asks, answer]
  exact entryOf_cases (addressSize_eq_some_iff.mpr asks.sized) requested found

theorem lookupByName_of_failed (asks : Asks name family requested size) {code : Int32}
    (answer : l.addresses (some requested) none (some (entryHints family)) = .error code) :
    l.lookupByName name family = .error (.host (hostCode code)) := by
  rw [lookupByName_of_asks asks, answer]

/-- Whatever the library answers, a lookup of a host by its name fails with one of the codes of host
lookups, or it has the entry of the host, which the client reads as it is. It has one just if the
library was asked and found an address of the size; where the library finds none of the size or
fails, the code says so. -/
theorem entries_by_name (l : HostLibrary) (name : Option String) (family : Int32)
    (interface : Option String) :
    ((∃ code ∈ hostCodes, l.resolver.hostByName name family interface = .error (.host code)) ∨
      ∃ requested size found h, Asks name family requested size ∧
        l.addresses (some requested) none (some (entryHints family)) = .ok found ∧
        l.resolver.hostByName name family interface = .ok h ∧
        IsEntry requested family size found h ∧
        ((∀ s ∈ h.name, TextFits s) → ∃ body,
          (Answer.host h).encode = Bytes.ofString "222" ++ [0] ++ body ∧
            decodeHost body = .ok (h, []))) ∧
      ∀ requested size, Asks name family requested size →
        (∀ found, l.addresses (some requested) none (some (entryHints family)) = .ok found →
          ((∃ h, l.resolver.hostByName name family interface = .ok h) ↔
              ∃ i ∈ found, i.address.ip.bytes.length = size) ∧
            (l.resolver.hostByName name family interface = .error (.host noData) ↔
              ∀ i ∈ found, i.address.ip.bytes.length ≠ size)) ∧
        ∀ code, l.addresses (some requested) none (some (entryHints family)) = .error code →
          l.resolver.hostByName name family interface =
            .error (.host (hostCode (Failure.addresses code).code.toInt32)) := by
  have resolves : l.resolver.hostByName name family interface = l.lookupByName name family := rfl
  rw [resolves]
  refine ⟨?_, fun requested size asks => ⟨fun found answer => ?_, fun code answer => ?_⟩⟩
  · rcases lookupByName_cases l name family with failed | ⟨requested, size, asks⟩
    · exact Or.inl failed
    · cases answer : l.addresses (some requested) none (some (entryHints family)) with
      | error code => exact Or.inl ⟨_, hostCode_mem code, lookupByName_of_failed asks answer⟩
      | ok found =>
        rcases lookupByName_of_found asks answer with ⟨missing, -⟩ | ⟨h, looked, entry⟩
        · exact Or.inl ⟨noData, by decide, missing⟩
        · refine Or.inr ⟨requested, size, found, h, asks, answer, looked, entry, fun fits => ?_⟩
          have sized := addressSize_eq_some_iff.mpr asks.sized
          have whole := decodeHost_encode (entry.wellFormed sized fits) []
          rw [List.append_nil] at whole
          exact ⟨h.encode, by rw [Answer.encode, encodeCode_lookupResult], whole⟩
  · rcases lookupByName_of_found asks answer with ⟨missing, others⟩ | ⟨h, looked, entry⟩
    · rw [missing]
      refine ⟨iff_of_false ?_ ?_, iff_of_true rfl others⟩
      · rintro ⟨_, impossible⟩
        cases impossible
      · rintro ⟨i, member, same⟩
        exact others i member same
    · rw [looked]
      have known := entry.exists_ofSize
      refine ⟨iff_of_true ⟨h, rfl⟩ known, iff_of_false (fun failed => ?_) fun others => ?_⟩
      · cases failed
      · obtain ⟨i, member, same⟩ := known
        exact others i member same
  · rw [lookupByName_of_failed asks answer, Failure.code, Int32.toInt32_toUInt32]

/-- Addresses of both families, one of them twice, and two canonical names, neither of them at the
first. -/
def mixedFindings : List AddressInfo :=
  [⟨2, afInet6, 1, 6, .v6 ⟨[32, 1, 13, 184, 0, 0, 0, 0, 0, 0, 0, 0, 0, 0, 0, 9], rfl⟩ 0 0 0, none⟩,
    ⟨2, afInet, 1, 6, .v4 ⟨[192, 0, 2, 31], rfl⟩ 0, some "a.example"⟩,
    ⟨2, afInet, 1, 6, .v4 ⟨[192, 0, 2, 30], rfl⟩ 0, none⟩,
    ⟨2, afInet, 2, 17, .v4 ⟨[192, 0, 2, 31], rfl⟩ 0, some "b.example"⟩]

/-- A library that finds them for every name, and no name for any address. -/
def mixedLibrary : HostLibrary where
  addresses := fun _ _ _ => .ok mixedFindings
  nameOf := fun _ _ => .error eaiNoName

theorem entry_of_mixedFindings :
    Asks (some "a") afInet "a" 4 ∧
      ∃ h, mixedLibrary.resolver.hostByName (some "a") afInet none = .ok h ∧
        h.name = some "a.example" ∧ h.addresses = [[192, 0, 2, 31], [192, 0, 2, 30]] ∧
        ∃ body, (Answer.host h).encode = Bytes.ofString "222" ++ [0] ++ body ∧
          decodeHost body = .ok (h, []) := by
  have asks : Asks (some "a") afInet "a" 4 := ⟨rfl, by decide, Or.inl ⟨rfl, rfl⟩⟩
  have made : mixedLibrary.resolver.hostByName (some "a") afInet none =
      .ok ⟨some "a.example", [], afInet, 4, [[192, 0, 2, 31], [192, 0, 2, 30]]⟩ := by decide +kernel
  have either := (entries_by_name mixedLibrary (some "a") afInet none).1
  rcases either with ⟨code, -, failed⟩ | ⟨requested, size, found, h, -, -, looked, -, reads⟩
  · rw [made] at failed
    cases failed
  · rw [made] at looked
    cases looked
    exact ⟨asks, _, made, rfl, rfl, reads (by decide +kernel)⟩

end HostLibrary

end NetControl.Lookup
