import NetControl.Yaml.Document

/-!
What the scalars of a document mean: nothing, or a count. Any scalar means its text.
-/

namespace NetControl.Yaml

/-- The words that mean nothing. -/
def nullWords : List String := ["null", "Null", "NULL", "~"]

/-- The tag of the scalar that means nothing. -/
def nullTag : String := "tag:yaml.org,2002:null"

/-- The tag of whole numbers. -/
def intTag : String := "tag:yaml.org,2002:int"

/-- The base that a letter after a zero names. -/
def baseOf? : Char → Option Nat
  | 'x' => some 16
  | 'o' => some 8
  | 'b' => some 2
  | _ => none

/-- The number that digits denote: those of the base that the first two characters name, else decimal
digits without a zero before them. -/
def magnitude? (digits : List Char) : Option Nat :=
  match digits with
  | '0' :: c :: rest =>
    match baseOf? c with
    | some base => naturalIn? base rest
    | none => none
  | _ => naturalIn? 10 digits

/-- The count below `2 ^ 64` that a text denotes: perhaps a plus sign, then digits. -/
def readCount (text : List Char) : Option UInt64 :=
  let unsigned := match text with
    | '+' :: rest => rest
    | all => all
  ((magnitude? unsigned).filter (· < UInt64.size)).map UInt64.ofNat

namespace Scalar

/-- Whether a scalar means nothing. There is no answer where its tag says so and its text does
not. -/
def isNull? (s : Scalar) : Option Bool :=
  if s.style ≠ .plain then some false
  else
    match s.tag with
    | none => some (s.text = "" || nullWords.contains s.text)
    | some t =>
      if t ≠ nullTag then some false
      else if nullWords.contains s.text then some true
      else none

/-- The count that a scalar means. A scalar that is not plain means one only as a literal block with
the tag of whole numbers. -/
def count? (s : Scalar) : Option UInt64 :=
  if s.style = .plain || (s.style = .literal && s.tag = some intTag) then readCount s.text.toList
  else none

end Scalar

/-- The entries of a document, if it is a mapping or means nothing. The root may also be an empty
plain scalar with a tag. -/
def Document.entries? : Document → Option (List (Scalar × Scalar))
  | .void => some []
  | .mapping entries => some entries
  | .scalar s => do
    if ← s.isNull? then some []
    else
      guard (s.style = .plain && s.text = "")
      some []

end NetControl.Yaml
