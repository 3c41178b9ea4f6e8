import NetControl.Proofs.Text.Lines
import NetControl.Tether.Frame
import NetControl.Tether.Setting

/-!
# What the daemon reads in a frame

A frame is text for the controller and bytes for the daemon. `Frame.read?` is the daemon's side: it
takes the bytes up to a closing NUL and cuts them at the bars. `Frame.bytes_fill` says which bytes a
filled frame has; the daemon reads the fields back just if there is no bar in any of them
(`Frame.read?_eq_iff`).
-/

namespace NetControl.Tether

namespace Frame

/-- The byte between fields. -/
def bar : UInt8 := 124

/-- The fields that the daemon reads in a frame: what stands before the one NUL at its end, cut at
the bars. -/
def read? (b : Bytes) : Option (List Bytes) :=
  let line := b.takeWhile (· ≠ 0)
  if b = line ++ [0] then some (line.splitOn bar) else none

/-- The first field of a frame. -/
def command (b : Bytes) : Bytes :=
  b.takeWhile fun x => x ≠ 0 ∧ x ≠ bar

/-! ## Fields between bars -/

/-- Fields with a bar before each. -/
def barred (fields : List String) : Bytes :=
  fields.flatMap fun field => bar :: Bytes.ofString field

@[simp] theorem barred_nil : barred [] = [] := rfl

@[simp] theorem barred_cons (field : String) (fields : List String) :
    barred (field :: fields) = bar :: (Bytes.ofString field ++ barred fields) := rfl

/-- A head and barred fields are the fields with bars between them. -/
theorem ofString_append_barred (head : String) (fields : List String) :
    Bytes.ofString head ++ barred fields =
      [bar].intercalate ((head :: fields).map Bytes.ofString) := by
  induction fields generalizing head with
  | nil => simp
  | cons field rest ih =>
    rw [List.map_cons, List.map_cons, List.intercalate_cons_cons, ← List.map_cons, ← ih field]
    simp

theorem bar_mem_ofString {s : String} : bar ∈ Bytes.ofString s ↔ '|' ∈ s.toList :=
  Bytes.mem_ofString_of_ascii (c := '|') (by decide)

theorem nul_mem_ofString {s : String} : 0 ∈ Bytes.ofString s ↔ '\x00' ∈ s.toList :=
  Bytes.mem_ofString_of_ascii (c := '\x00') (by decide)

theorem mem_barred {b : UInt8} {fields : List String} :
    b ∈ barred fields ↔ ∃ field ∈ fields, b = bar ∨ b ∈ Bytes.ofString field := by
  unfold barred
  rw [List.mem_flatMap]
  simp only [List.mem_cons]

/-- The daemon reads a line without a NUL as a whole. -/
theorem read?_of_clean {line : Bytes} (clean : 0 ∉ line) :
    read? (line ++ [0]) = some (line.splitOn bar) := by
  have whole : (line ++ [0]).takeWhile (· ≠ 0) = line := by
    rw [List.takeWhile_append_of_pos]
    · simp
    · intro b inside
      simp only [ne_eq, decide_eq_true_eq]
      rintro rfl
      exact clean inside
  unfold read?
  rw [whole]
  exact if_pos rfl

/-- The first field is what stands before the first bar. -/
theorem command_eq {head : Bytes} (clean : ∀ b ∈ head, b ≠ 0 ∧ b ≠ bar) (fields : List String) :
    command (head ++ barred fields ++ [0]) = head := by
  unfold command
  rw [List.append_assoc, List.takeWhile_append_of_pos]
  · cases fields with
    | nil => simp
    | cons field rest => simp
  · intro b inside
    exact decide_eq_true (clean b inside)

/-- Fields without a NUL are read back from between their bars just if there is no bar in them. -/
theorem read?_eq_iff {head : String} {fields : List String}
    (clean : ∀ field ∈ head :: fields, '\x00' ∉ field.toList) :
    read? (Bytes.ofString head ++ barred fields ++ [0]) =
        some ((head :: fields).map Bytes.ofString) ↔
      ∀ field ∈ head :: fields, '|' ∉ field.toList := by
  have line : 0 ∉ Bytes.ofString head ++ barred fields := by
    rw [List.mem_append, not_or, mem_barred]
    refine ⟨fun inside => clean head List.mem_cons_self (nul_mem_ofString.mp inside), ?_⟩
    rintro ⟨field, member, other | inside⟩
    · cases other
    · exact clean field (List.mem_cons_of_mem _ member) (nul_mem_ofString.mp inside)
  rw [read?_of_clean line, ofString_append_barred, Option.some_inj]
  constructor
  · intro same field member inside
    have piece := List.mem_map_of_mem (f := Bytes.ofString) member
    rw [← same] at piece
    exact not_mem_of_mem_splitOn piece (bar_mem_ofString.mpr inside)
  · intro free
    apply List.splitOn_intercalate
    · intro piece member
      obtain ⟨field, inside, rfl⟩ := List.mem_map.mp member
      exact fun found => free field inside (bar_mem_ofString.mp found)
    · exact List.cons_ne_nil _ _

/-! ## Filling a frame -/

theorem eq_of_push? {f longer : Frame} {field : String} (pushed : f.push? field = some longer) :
    longer = ⟨f.text ++ separator ++ field⟩ := by
  unfold push? at pushed
  dsimp only at pushed
  split at pushed
  · exact (Option.some.inj pushed).symm
  · cases pushed

theorem ofString_of_push? {f longer : Frame} {field : String}
    (pushed : f.push? field = some longer) :
    Bytes.ofString longer.text = Bytes.ofString f.text ++ barred [field] := by
  have separated : Bytes.ofString separator = [bar] := rfl
  rw [eq_of_push? pushed, Bytes.ofString_append, Bytes.ofString_append, separated,
    List.append_assoc, barred_cons, barred_nil, List.append_nil, List.singleton_append]

theorem push?_of_fits {f : Frame} {field : String}
    (fits : (Bytes.ofString f.text ++ barred [field]).length + 1 < sizeLimit) :
    ∃ longer, f.push? field = some longer := by
  have size : (f.text ++ separator ++ field).utf8ByteSize =
      (Bytes.ofString f.text ++ barred [field]).length := by
    rw [← Bytes.length_ofString, Bytes.ofString_append, Bytes.ofString_append, List.append_assoc,
      barred_cons, barred_nil, List.append_nil]
    rfl
  rw [← size] at fits
  exact ⟨_, if_pos fits⟩

theorem utf8ByteSize_of_push? {f longer : Frame} {field : String}
    (pushed : f.push? field = some longer) : longer.text.utf8ByteSize + 1 < sizeLimit := by
  unfold push? at pushed
  dsimp only at pushed
  split at pushed
  · next fits =>
    cases pushed
    exact fits
  · cases pushed

variable {acceptable : String → Bool} {f longer : Frame} {field : String}
  {fields rest : List String}

theorem fill_of_rejected (rejected : acceptable field = false) :
    fill acceptable f (field :: rest) = ⟨f, [], .rejected field⟩ := by
  rw [fill, if_neg (ne_true_of_eq_false rejected)]

theorem fill_of_full (accepted : acceptable field = true) (full : f.push? field = none) :
    fill acceptable f (field :: rest) = ⟨f, [], .full⟩ := by
  rw [fill, if_pos accepted, full]

theorem fill_of_pushed (accepted : acceptable field = true) (pushed : f.push? field = some longer) :
    fill acceptable f (field :: rest) =
      { fill acceptable longer rest with
        added := field :: (fill acceptable longer rest).added } := by
  rw [fill, if_pos accepted, pushed]

/-- A filled frame has the bytes that it had before, and then the fields that were added. -/
theorem ofString_fill : Bytes.ofString (fill acceptable f fields).frame.text =
    Bytes.ofString f.text ++ barred (fill acceptable f fields).added := by
  induction fields generalizing f with
  | nil => simp [fill]
  | cons field rest ih =>
    unfold fill
    split
    · split
      · simp
      · next longer pushed =>
        rw [ih, ofString_of_push? pushed]
        simp
    · simp

/-- The fields that were added are the first ones. -/
theorem added_fill_prefix : (fill acceptable f fields).added <+: fields := by
  induction fields generalizing f with
  | nil => exact List.prefix_rfl
  | cons field rest ih =>
    unfold fill
    split
    · split
      · exact List.nil_prefix
      · exact (List.prefix_cons_inj field).mpr ih
    · exact List.nil_prefix

theorem acceptable_of_mem_added
    (member : field ∈ (fill acceptable f fields).added) : acceptable field = true := by
  induction fields generalizing f with
  | nil => cases member
  | cons next rest ih =>
    unfold fill at member
    split at member
    · next accepted =>
      split at member
      · cases member
      · rcases List.mem_cons.mp member with rfl | later
        · exact accepted
        · exact ih later
    · cases member

end Frame

/-! ## The two kinds of frames -/

/-- A frame with name servers has the mark and the servers as its fields. -/
theorem bytes_of_updateServers {mark : Mark} {servers : List String} {update : ServerUpdate}
    (accepted : updateServers mark servers = .ok update) :
    update.frame.bytes =
        Bytes.ofString "update_dns" ++ Frame.barred (("0x" ++ mark.hex) :: update.servers) ++ [0] ∧
      update.servers <+: servers := by
  unfold updateServers at accepted
  dsimp only at accepted
  split at accepted
  · cases accepted
  · cases accepted
    refine ⟨?_, Frame.added_fill_prefix⟩
    have separated : Bytes.ofString Frame.separator = [Frame.bar] := rfl
    unfold Frame.bytes fillServers
    dsimp only
    rw [Frame.ofString_fill]
    simp [serversHead, separated]

theorem isNumericHost_of_updateServers {mark : Mark} {servers : List String}
    {update : ServerUpdate} (accepted : updateServers mark servers = .ok update) :
    ∀ server ∈ update.servers, isNumericHost server = true := by
  unfold updateServers at accepted
  dsimp only at accepted
  split at accepted
  · cases accepted
  · cases accepted
    exact fun server member => Frame.acceptable_of_mem_added member

/-- A frame with interfaces has some of the interfaces as its fields. -/
theorem bytes_of_updateInterfaces {interfaces : List String} {f : Frame}
    (framed : updateInterfaces interfaces = some f) :
    ∃ first rest, (first :: rest) <+: interfaces ∧
      f.bytes = Bytes.ofString "update_ifaces" ++ Frame.barred (first :: rest) ++ [0] := by
  unfold updateInterfaces at framed
  dsimp only at framed
  split at framed
  · cases framed
  · next some =>
    cases framed
    obtain ⟨first, rest, added⟩ := List.exists_cons_of_ne_nil some
    refine ⟨first, rest, ?_, ?_⟩
    · rw [← added]
      exact Frame.added_fill_prefix
    · unfold Frame.bytes
      rw [← added]
      unfold fillInterfaces
      rw [Frame.ofString_fill]

/-- The characters that a name of an interface may have. -/
def isInterfaceChar (c : Char) : Bool :=
  isAlphanumeric c || c = '_' || c = '-' || c = ':'

theorem not_mem_of_isInterfaceName {i : String} (valid : isInterfaceName i = true) {c : Char}
    (other : isInterfaceChar c = false) : c ∉ i.toList := by
  unfold isInterfaceName at valid
  generalize i.toList = characters at valid ⊢
  match characters, valid with
  | first :: rest, valid =>
    simp only [isInterfaceChars, Bool.and_eq_true, List.all_eq_true] at valid
    obtain ⟨⟨start, -⟩, others⟩ := valid
    intro inside
    rcases List.mem_cons.mp inside with rfl | later
    · simp [isInterfaceChar, start] at other
    · exact Bool.false_ne_true (other.symm.trans (others c later))

/-- Names of interfaces are short. -/
theorem utf8ByteSize_of_isInterfaceName {i : String} (valid : isInterfaceName i = true) :
    i.utf8ByteSize ≤ 64 := by
  have short : i.toList.length ≤ 16 := by
    unfold isInterfaceName at valid
    generalize i.toList = characters at valid
    match characters, valid with
    | first :: rest, valid =>
      simp only [isInterfaceChars, Bool.and_eq_true, decide_eq_true_eq] at valid
      exact valid.1.2
  have size := Bytes.utf8ByteSize_le i
  omega

/-- If the first interface has a name of one, there is a frame. -/
theorem updateInterfaces_of_isInterfaceName {first : String}
    (valid : isInterfaceName first = true) (rest : List String) :
    ∃ f, updateInterfaces (first :: rest) = some f := by
  have small := utf8ByteSize_of_isInterfaceName valid
  have head : ("update_ifaces" ++ Frame.separator).utf8ByteSize = 14 := rfl
  have fits : ("update_ifaces" ++ Frame.separator ++ first).utf8ByteSize + 1 < Frame.sizeLimit := by
    rw [String.utf8ByteSize_append, head, Frame.sizeLimit]
    omega
  have pushed : Frame.push? ⟨"update_ifaces"⟩ first =
      some ⟨"update_ifaces" ++ Frame.separator ++ first⟩ := if_pos fits
  have added : (fillInterfaces (first :: rest)).added ≠ [] := by
    unfold fillInterfaces Frame.fill
    rw [if_pos rfl, pushed]
    exact List.cons_ne_nil _ _
  exact ⟨_, if_neg added⟩

end NetControl.Tether
