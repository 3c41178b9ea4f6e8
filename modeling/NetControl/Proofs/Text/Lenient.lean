import Mathlib.Data.List.TakeWhile
import NetControl.Proofs.Text.Digits
import NetControl.Proofs.Text.Utf8

/-!
# Numbers at the start of texts

A lenient number is read from blanks, a sign and digits, and its value is held at a bound from digit
to digit. `boundedValue_eq` says that this comes to the same as to hold the value of all digits at
the bound, so that the number is the exact one, brought into range once at the end
(`NumberParts.toInt_lenientInt32`). Read octet by octet, with words of 64 bits for every number on
the way, a text gives the same number: no word overflows and no text is cut within a character
(`octetsInt32?_eq`).
-/

namespace NetControl.Text

section Lists

variable {α : Type} {p : α → Bool} {l r : List α}

theorem dropWhile_append_of_stops (all : ∀ x ∈ l, p x = true)
    (stops : ∀ x ∈ r.head?, p x = false) : (l ++ r).dropWhile p = r := by
  rw [List.dropWhile_append_of_pos all]
  cases r with
  | nil => rfl
  | cons x rest => rw [List.dropWhile_cons, stops x rfl, if_neg Bool.false_ne_true]

theorem takeWhile_append_of_stops (all : ∀ x ∈ l, p x = true)
    (stops : ∀ x ∈ r.head?, p x = false) : (l ++ r).takeWhile p = l := by
  have parts := List.takeWhile_append_dropWhile (p := p) (l := l ++ r)
  rw [dropWhile_append_of_stops all stops] at parts
  exact List.append_cancel_right parts

theorem stops_dropWhile : ∀ x ∈ (l.dropWhile p).head?, p x = false := by
  intro x first
  have stops := List.head?_dropWhile_not p l
  rw [first] at stops
  exact stops

end Lists

/-! ## The parts of a text -/

/-- A text taken apart: blanks, at most one sign, digits and whatever follows them. The blanks and
the digits go as far as they can, and a sign is taken where there is one. -/
structure NumberParts (s : List Char) where
  blanks : List Char
  sign : Option Char
  digits : List Char
  rest : List Char
  whole : blanks ++ (sign.toList ++ (digits ++ rest)) = s
  blank : ∀ c ∈ blanks, isBlank c = true
  afterBlanks : ∀ c ∈ (sign.toList ++ (digits ++ rest)).head?, isBlank c = false
  signed : ∀ c ∈ sign, c = '+' ∨ c = '-'
  unsigned : sign = none → ∀ c ∈ (digits ++ rest).head?, ¬(c = '+' ∨ c = '-')
  digit : ∀ c ∈ digits, isDigit c = true
  afterDigits : ∀ c ∈ rest.head?, isDigit c = false

namespace NumberParts

variable {s : List Char}

/-- The number that the sign and the digits denote, in range or not. -/
def value (p : NumberParts s) : Int :=
  if p.sign = some '-' then -(digitsValue p.digits : Int) else digitsValue p.digits

/-- The parts of a text, given its sign and what follows that. -/
def ofSign (sign : Option Char) (tail : List Char)
    (after : s.dropWhile isBlank = sign.toList ++ tail) (signed : ∀ c ∈ sign, c = '+' ∨ c = '-')
    (unsigned : sign = none → ∀ c ∈ tail.head?, ¬(c = '+' ∨ c = '-')) : NumberParts s where
  blanks := s.takeWhile isBlank
  sign := sign
  digits := tail.takeWhile isDigit
  rest := tail.dropWhile isDigit
  whole := by rw [List.takeWhile_append_dropWhile, ← after, List.takeWhile_append_dropWhile]
  blank _ member := List.mem_takeWhile_imp member
  afterBlanks := by
    rw [List.takeWhile_append_dropWhile, ← after]
    exact stops_dropWhile
  signed := signed
  unsigned := by
    rw [List.takeWhile_append_dropWhile]
    exact unsigned
  digit _ member := List.mem_takeWhile_imp member
  afterDigits := stops_dropWhile

/-- Every text can be taken apart. -/
theorem nonempty (s : List Char) : Nonempty (NumberParts s) := by
  cases after : s.dropWhile isBlank with
  | nil => exact ⟨ofSign none [] after nofun nofun⟩
  | cons c tail =>
    by_cases sign : c = '+' ∨ c = '-'
    · exact ⟨ofSign (some c) tail after (by simpa using sign) nofun⟩
    · exact ⟨ofSign none (c :: tail) after nofun (by simpa using sign)⟩

theorem dropWhile_isBlank (p : NumberParts s) :
    s.dropWhile isBlank = p.sign.toList ++ (p.digits ++ p.rest) := by
  have stops := dropWhile_append_of_stops p.blank p.afterBlanks
  rw [p.whole] at stops
  exact stops

theorem takeWhile_isDigit (p : NumberParts s) : (p.digits ++ p.rest).takeWhile isDigit = p.digits :=
  takeWhile_append_of_stops p.digit p.afterDigits

end NumberParts

/-! ## The value -/

/-- To hold a value at the bound on the way is to hold it there in the end. -/
theorem boundedValue_eq (digits : List Char) :
    boundedValue digits = min (digitsValue digits) lenientBound := by
  -- From any value: once at the bound, each further digit leaves both sides there.
  have held (n : Nat) :
      digits.foldl (fun n c => min (n * 10 + digitValue c) lenientBound) (min n lenientBound) =
        min (digits.foldl (fun n c => n * 10 + digitValue c) n) lenientBound := by
    induction digits generalizing n with
    | nil => rfl
    | cons c rest ih =>
      have step : min (min n lenientBound * 10 + digitValue c) lenientBound =
          min (n * 10 + digitValue c) lenientBound := by omega
      rw [List.foldl_cons, List.foldl_cons, step, ih]
  exact held 0

/-- The number brought into the range of 32 bits. -/
def clamped (n : Int) : Int :=
  max (-2147483648) (min n 2147483647)

theorem toInt_ofInt_clamped (n : Int) : (Int32.ofInt (clamped n)).toInt = clamped n := by
  unfold clamped
  exact Int32.toInt_ofInt_of_le (by omega) (by omega)

namespace NumberParts

variable {s : String} (p : NumberParts s.toList)

/-- The number that the sign and the digits denote, with its magnitude held at the bound. -/
def held : Int :=
  if p.sign = some '-' then -(boundedValue p.digits : Int) else boundedValue p.digits

/-- A magnitude at the bound or beyond it is out of range, with either sign. -/
theorem clamped_held : clamped p.held = clamped p.value := by
  unfold held value clamped
  rw [boundedValue_eq, lenientBound]
  split <;> omega

theorem lenientInt32_eq : lenientInt32 s = Int32.ofInt (clamped p.held) := by
  have digits := p.takeWhile_isDigit
  unfold lenientInt32 held
  rw [p.dropWhile_isBlank]
  cases sign : p.sign with
  | none =>
    have unsigned := p.unsigned sign
    rw [Option.toList_none, List.nil_append, if_neg nofun]
    generalize p.digits ++ p.rest = tail at digits unsigned
    dsimp only
    split
    · exact absurd (.inr rfl) (unsigned '-' rfl)
    · exact absurd (.inl rfl) (unsigned '+' rfl)
    · rw [digits, clamped]
  | some c =>
    have value : boundedValue p.digits = boundedValue ((p.digits ++ p.rest).takeWhile isDigit) := by
      rw [digits]
    rw [Option.toList_some, List.singleton_append, value]
    rcases p.signed c sign with rfl | rfl
    · rw [if_neg (by decide)]
      rfl
    · rw [if_pos rfl]
      rfl

/-- The lenient number of a text is that of its parts, brought into range. -/
theorem toInt_lenientInt32 : (lenientInt32 s).toInt = clamped p.value := by
  rw [p.lenientInt32_eq, toInt_ofInt_clamped, p.clamped_held]

end NumberParts

/-! ## Decimal texts -/

/-- A digit is neither a blank nor a sign. -/
theorem isDigit_of_mem_toDigits {n : Nat} {c : Char} (member : c ∈ Nat.toDigits 10 n) :
    isDigit c = true ∧ isBlank c = false ∧ ¬(c = '+' ∨ c = '-') := by
  have digits : ∀ d < 10, isDigit (Nat.digitChar d) = true ∧ isBlank (Nat.digitChar d) = false ∧
      ¬(Nat.digitChar d = '+' ∨ Nat.digitChar d = '-') := by decide
  obtain ⟨d, below, rfl⟩ := exists_digitChar_of_mem_toDigits (by decide) member
  exact digits d below

/-- A sign and the digits of a number. -/
def NumberParts.ofDigits (sign : Option Char) (signed : ∀ c ∈ sign, c = '+' ∨ c = '-') (n : Nat) :
    NumberParts (sign.toList ++ Nat.toDigits 10 n) where
  blanks := []
  sign := sign
  digits := Nat.toDigits 10 n
  rest := []
  whole := by rw [List.nil_append, List.append_nil]
  blank := nofun
  afterBlanks := by
    intro c first
    rw [List.append_nil] at first
    rcases List.mem_append.mp (List.mem_of_head? first) with inSign | digit
    · rcases signed c (Option.mem_toList.mp inSign) with rfl | rfl <;> rfl
    · exact (isDigit_of_mem_toDigits digit).2.1
  signed := signed
  unsigned := by
    intro _ c first
    rw [List.append_nil] at first
    exact (isDigit_of_mem_toDigits (List.mem_of_head? first)).2.2
  digit _ member := (isDigit_of_mem_toDigits member).1
  afterDigits := nofun

theorem toList_decimal (n : Int) : (decimal n).toList =
    (if 0 ≤ n then none else some '-').toList ++ Nat.toDigits 10 n.natAbs := by
  unfold decimal
  rw [Int.toString_eq_repr, Int.repr_eq_if]
  split
  · next positive =>
    rw [← Int.toNat_of_nonneg positive, Int.natAbs_natCast, Int.toNat_natCast]
    exact String.toList_ofList
  · next negative =>
    rw [← Int.natAbs_neg, ← Int.toNat_of_nonneg (by omega : 0 ≤ -n), Int.natAbs_natCast,
      Int.toNat_natCast, String.toList_append]
    exact congrArg _ String.toList_ofList

/-- The decimal text of a number is taken apart into its sign and its digits. -/
theorem exists_parts_decimal (n : Int) :
    ∃ p : NumberParts (decimal n).toList, p.value = n := by
  have digits : digitsValue (Nat.toDigits 10 n.natAbs) = n.natAbs := by
    rw [digitsValue_eq_ofDigitChars, Nat.ofDigitChars_toDigits (by decide) (by decide)]
  rw [toList_decimal]
  by_cases positive : 0 ≤ n
  · rw [if_pos positive]
    refine ⟨.ofDigits none nofun n.natAbs, ?_⟩
    rw [NumberParts.value, NumberParts.ofDigits, if_neg nofun, digits]
    omega
  · rw [if_neg positive]
    refine ⟨.ofDigits (some '-') (by simp) n.natAbs, ?_⟩
    rw [NumberParts.value, NumberParts.ofDigits, if_pos rfl, digits]
    omega

/-- The decimal text of a number of 32 bits is read as the number. -/
theorem lenientInt32_decimal (n : Int32) : lenientInt32 (decimal n.toInt) = n := by
  obtain ⟨p, value⟩ := exists_parts_decimal n.toInt
  have low := n.le_toInt
  have high := n.toInt_lt
  apply Int32.toInt_inj.mp
  rw [p.toInt_lenientInt32, value, clamped]
  omega

/-! ## Octet by octet -/

/-- A number that a word of 64 bits can hold. -/
def word? (n : Int) : Option Int :=
  if -9223372036854775808 ≤ n ∧ n < 9223372036854775808 then some n else none

def isDigitOctet (b : UInt8) : Bool :=
  48 ≤ b && b ≤ 57

/-- How far an octet is above that of the digit zero, if it is not below it. -/
def octetValue? (b : UInt8) : Option Int :=
  if 48 ≤ b then some (b.toNat - 48) else none

/-- The value with one digit more. Every number on the way must be in a word. -/
def countOn? (n : Int) (b : UInt8) : Option Int :=
  (word? (n * 10)).bind fun shifted =>
    (octetValue? b).bind fun digit =>
      (word? (shifted + digit)).map fun sum => min sum lenientBound

/-- The text from an octet on, if the octet is in the text and no character is cut there. -/
def dropOctets? (n : Nat) (s : String) : Option String :=
  if n ≤ (Bytes.ofString s).length then Bytes.toString? ((Bytes.ofString s).drop n) else none

/-- What follows the sign, which is an octet, if there is one. -/
def afterSign? (s : String) : Option String :=
  let first := (Bytes.ofString s).head?
  if first = some 45 ∨ first = some 43 then dropOctets? 1 s else some s

/-- The lenient number of a text, read octet by octet: there is none where a word overflows or a
character is cut. -/
def octetsInt32? (s : String) : Option Int32 :=
  let text := String.ofList (s.toList.dropWhile isBlank)
  (afterSign? text).bind fun digits =>
    (((Bytes.ofString digits).takeWhile isDigitOctet).foldlM countOn? 0).bind fun n =>
      (if (Bytes.ofString text).head? = some 45 then word? (-n) else some n).map fun signed =>
        Int32.ofInt (clamped signed)

theorem isDigitOctet_iff {b : UInt8} : isDigitOctet b = true ↔ 48 ≤ b.toNat ∧ b.toNat ≤ 57 := by
  unfold isDigitOctet
  rw [Bool.and_eq_true, decide_eq_true_iff, decide_eq_true_iff]
  exact and_congr UInt8.le_iff_toNat_le UInt8.le_iff_toNat_le

/-- The octets of a character are its code, or they begin with one that is no code. -/
theorem exists_firstOctet (c : Char) : ∃ b rest, String.utf8EncodeChar c = b :: rest ∧
    (c.toNat < 128 ∧ b.toNat = c.toNat ∧ rest = [] ∨ 128 ≤ c.toNat ∧ 128 ≤ b.toNat) := by
  by_cases ascii : c.toNat < 128
  · refine ⟨_, [], Bytes.utf8EncodeChar_of_ascii ascii, .inl ⟨ascii, ?_, rfl⟩⟩
    rw [UInt8.toNat_ofNat']
    omega
  · have other : 128 ≤ c.toNat := Nat.not_lt.mp ascii
    have present : String.utf8EncodeChar c ≠ [] := String.utf8EncodeChar_ne_nil
    obtain ⟨b, rest, octets⟩ := List.exists_cons_of_ne_nil present
    refine ⟨b, rest, octets, .inr ⟨other, ?_⟩⟩
    exact Bytes.le_of_mem_utf8EncodeChar other (octets ▸ List.mem_cons_self)

/-- The digits at the start of a text are as many octets. -/
theorem takeWhile_isDigitOctet (characters : List Char) :
    (characters.flatMap String.utf8EncodeChar).takeWhile isDigitOctet =
      (characters.takeWhile isDigit).map fun c => UInt8.ofNat c.toNat := by
  induction characters with
  | nil => rfl
  | cons c others ih =>
    obtain ⟨b, rest, octets, first⟩ := exists_firstOctet c
    rw [List.flatMap_cons, octets, List.cons_append, List.takeWhile_cons, List.takeWhile_cons]
    by_cases digit : isDigit c = true
    · have range := isDigit_iff.mp digit
      obtain ⟨-, code, rfl⟩ | ⟨other, -⟩ := first
      · have same : b = UInt8.ofNat c.toNat := by
          rw [← code, UInt8.ofNat_toNat]
        rw [if_pos (isDigitOctet_iff.mpr (code ▸ range)), if_pos digit, List.nil_append, ih, same,
          List.map_cons]
      · omega
    · have stops : ¬isDigitOctet b = true := by
        rw [isDigitOctet_iff]
        rw [isDigit_iff] at digit
        omega
      rw [if_neg stops, if_neg digit, List.map_nil]

theorem word?_eq_some {n : Int} (low : -9223372036854775808 ≤ n)
    (high : n < 9223372036854775808) : word? n = some n :=
  if_pos ⟨low, high⟩

theorem octetValue?_digit {c : Char} (digit : isDigit c = true) :
    octetValue? (UInt8.ofNat c.toNat) = some (digitValue c : Int) := by
  obtain ⟨low, high⟩ := isDigit_iff.mp digit
  have code : (UInt8.ofNat c.toNat).toNat = c.toNat := by
    rw [UInt8.toNat_ofNat']
    omega
  have above : 48 ≤ UInt8.ofNat c.toNat := by
    rw [UInt8.le_iff_toNat_le, code]
    exact low
  have value : digitValue c = c.toNat - 48 := rfl
  rw [octetValue?, if_pos above, code, value, Int.ofNat_sub low]
  rfl

theorem countOn?_digit {n : Nat} {c : Char} (digit : isDigit c = true)
    (bounded : n ≤ lenientBound) : countOn? n (UInt8.ofNat c.toNat) =
      some ((min (n * 10 + digitValue c) lenientBound : Nat) : Int) := by
  have small : digitValue c ≤ 9 := Nat.sub_le_sub_right (isDigit_iff.mp digit).2 48
  unfold lenientBound at bounded
  have shifted : word? (n * 10) = some (n * 10 : Int) := word?_eq_some (by omega) (by omega)
  have sum : word? (n * 10 + digitValue c) = some (n * 10 + digitValue c : Int) :=
    word?_eq_some (by omega) (by omega)
  have held : min (n * 10 + digitValue c : Int) lenientBound =
      (min (n * 10 + digitValue c) lenientBound : Nat) := by omega
  rw [countOn?, shifted, Option.bind_some, octetValue?_digit digit, Option.bind_some, sum,
    Option.map_some, held]

/-- No word overflows on the way through the digits of a text, however many they are. -/
theorem foldlM_countOn? {digits : List Char} (all : ∀ c ∈ digits, isDigit c = true) :
    (digits.map fun c => UInt8.ofNat c.toNat).foldlM countOn? 0 =
      some (boundedValue digits : Int) := by
  have counted (n : Nat) (bounded : n ≤ lenientBound) :
      (digits.map fun c => UInt8.ofNat c.toNat).foldlM countOn? (n : Int) = some
        ((digits.foldl (fun n c => min (n * 10 + digitValue c) lenientBound) n : Nat) : Int) := by
    induction digits generalizing n with
    | nil => rfl
    | cons c rest ih =>
      obtain ⟨digit, others⟩ := List.forall_mem_cons.mp all
      rw [List.map_cons, List.foldlM_cons, countOn?_digit digit bounded, List.foldl_cons]
      exact ih others _ (Nat.min_le_right _ _)
  exact counted 0 (Nat.zero_le _)

theorem head?_ofString {s : String} {c : Char} (ascii : c.toNat < 128) :
    (Bytes.ofString s).head? = some (UInt8.ofNat c.toNat) ↔ s.toList.head? = some c := by
  rw [Bytes.ofString_eq_flatMap]
  cases s.toList with
  | nil => simp
  | cons d others =>
    obtain ⟨b, rest, octets, first⟩ := exists_firstOctet d
    rw [List.flatMap_cons, octets, List.cons_append, List.head?_cons, List.head?_cons,
      Option.some.injEq, Option.some.injEq, ← UInt8.toNat_inj, ← Char.toNat_inj,
      UInt8.toNat_ofNat']
    omega

theorem dropOctets?_one {c : Char} (ascii : c.toNat < 128) (rest : List Char) :
    dropOctets? 1 (String.ofList (c :: rest)) = some (String.ofList rest) := by
  have octets : Bytes.ofString (String.ofList (c :: rest)) =
      UInt8.ofNat c.toNat :: Bytes.ofString (String.ofList rest) := by
    rw [Bytes.ofString_eq_flatMap, Bytes.ofString_eq_flatMap, String.toList_ofList,
      String.toList_ofList, List.flatMap_cons, Bytes.utf8EncodeChar_of_ascii ascii]
    rfl
  unfold dropOctets?
  rw [octets, if_pos (by simp), List.drop_one, List.tail_cons, Bytes.toString?_ofString]

theorem word?_neg_boundedValue (digits : List Char) :
    word? (-boundedValue digits) = some (-boundedValue digits : Int) := by
  have bounded : boundedValue digits ≤ lenientBound := by
    rw [boundedValue_eq]
    exact Nat.min_le_right _ _
  unfold lenientBound at bounded
  exact word?_eq_some (by omega) (by omega)

/-- The digits at the start of a text, counted octet by octet. -/
theorem foldlM_takeWhile_ofString (l : List Char) :
    ((Bytes.ofString (String.ofList l)).takeWhile isDigitOctet).foldlM countOn? 0 =
      some (boundedValue (l.takeWhile isDigit) : Int) := by
  rw [Bytes.ofString_eq_flatMap, String.toList_ofList, takeWhile_isDigitOctet]
  exact foldlM_countOn? fun c member => List.mem_takeWhile_imp member

section Sign

variable {s : String} (p : NumberParts s.toList)

theorem NumberParts.head?_eq_iff {c : Char} (sign : c = '+' ∨ c = '-') :
    (p.sign.toList ++ (p.digits ++ p.rest)).head? = some c ↔ p.sign = some c := by
  cases found : p.sign with
  | none => exact iff_of_false (fun first => p.unsigned found c first sign) nofun
  | some d => rw [Option.toList_some, List.singleton_append, List.head?_cons]

/-- The first octet behind the blanks is a sign just if the text has one. -/
theorem NumberParts.head?_octets_iff {c : Char} (sign : c = '+' ∨ c = '-') :
    (Bytes.ofString (String.ofList (s.toList.dropWhile isBlank))).head? =
      some (UInt8.ofNat c.toNat) ↔ p.sign = some c := by
  have ascii : c.toNat < 128 := by rcases sign with rfl | rfl <;> decide
  rw [head?_ofString ascii, String.toList_ofList, p.dropWhile_isBlank, p.head?_eq_iff sign]

theorem NumberParts.afterSign?_eq :
    afterSign? (String.ofList (s.toList.dropWhile isBlank)) =
      some (String.ofList (p.digits ++ p.rest)) := by
  have octets := or_congr (p.head?_octets_iff (c := '-') (.inr rfl))
    (p.head?_octets_iff (c := '+') (.inl rfl))
  unfold afterSign?
  cases found : p.sign with
  | none =>
    have unsigned : ¬(p.sign = some '-' ∨ p.sign = some '+') := by simp [found]
    refine (if_neg (mt octets.mp unsigned)).trans ?_
    rw [p.dropWhile_isBlank, found, Option.toList_none, List.nil_append]
  | some c =>
    have sign := p.signed c found
    have ascii : c.toNat < 128 := by rcases sign with rfl | rfl <;> decide
    have signed : p.sign = some '-' ∨ p.sign = some '+' := by simp [found, sign.symm]
    refine (if_pos (octets.mpr signed)).trans ?_
    rw [p.dropWhile_isBlank, found, Option.toList_some, List.singleton_append]
    exact dropOctets?_one ascii _

end Sign

/-- Reading a text octet by octet, in words of 64 bits, no word overflows and no character is cut,
and the number is the lenient one. -/
theorem octetsInt32?_eq (s : String) : octetsInt32? s = some (lenientInt32 s) := by
  obtain ⟨p⟩ := NumberParts.nonempty s.toList
  have minus := p.head?_octets_iff (c := '-') (.inr rfl)
  change _ = some 45 ↔ _ at minus
  rw [octetsInt32?, p.afterSign?_eq, Option.bind_some, foldlM_takeWhile_ofString,
    p.takeWhile_isDigit, Option.bind_some, word?_neg_boundedValue, p.lenientInt32_eq,
    NumberParts.held]
  by_cases negative : p.sign = some '-'
  · rw [if_pos (minus.mpr negative), if_pos negative, Option.map_some]
  · rw [if_neg (mt minus.mp negative), if_neg negative, Option.map_some]

/-- Every text can be taken apart into blanks, at most one sign, digits and the rest. However it is,
its lenient number is the exact value of the sign and the digits, brought into the range of 32 bits,
and to read it octet by octet in words of 64 bits leads there without an overflow and without a cut
within a character. The decimal text of a number of 32 bits is read as that number. -/
theorem lenient_numbers_exact :
    (∀ s : String, Nonempty (NumberParts s.toList) ∧
      (∀ p : NumberParts s.toList,
        (lenientInt32 s).toInt = max (-2147483648) (min p.value 2147483647)) ∧
      octetsInt32? s = some (lenientInt32 s)) ∧
      ∀ n : Int32, lenientInt32 (decimal n.toInt) = n :=
  ⟨fun s => ⟨NumberParts.nonempty s.toList, fun p => p.toInt_lenientInt32, octetsInt32?_eq s⟩,
    lenientInt32_decimal⟩

end NetControl.Text
