import DryRun.Text.Word

/-!
# Reading numbers

Digits are decimal digits of any script, and one underscore may stand between two of them. An
integer has at most `digitLimit` digits, leading zeros included; a longer one is not converted, in
either direction. A float has an integral part or a fraction or both, perhaps an exponent, or is
one of the words for infinity and for no number.
-/

set_option autoImplicit false

namespace DryRun.Numeral

/-- The longest integer that is converted from or to text, in digits. -/
def digitLimit : Nat := 4300

/-- The number that digits write, most significant first. -/
def value (digits : List Nat) : Nat := digits.foldl (fun n d => 10 * n + d) 0

/-- The values of digits that may be grouped by single underscores: every group has a digit. -/
def groupedDigits? (s : Text) : Option (List Nat) :=
  let groups := Text.pieces (· == '_') s
  if groups.any List.isEmpty then none else groups.flatten.mapM Text.digitValue?

/-- Whether a sign says minus, and the text after it. -/
def splitSign : Text → Bool × Text
  | '+' :: rest => (false, rest)
  | '-' :: rest => (true, rest)
  | s => (false, s)

def int? (s : Text) : Option Int :=
  let (negative, body) := splitSign (Text.strip s)
  match groupedDigits? body with
  | none => none
  | some digits =>
    if digitLimit < digits.length then none
    else some (if negative then -(value digits : Int) else value digits)

/-- The text of an integer, unless it has too many digits. -/
def intText? (i : Int) : Option Text :=
  let digits := Nat.toDigits 10 i.natAbs
  if digitLimit < digits.length then none else some (if i < 0 then '-' :: digits else digits)

/-- The float nearest to `mantissa * 10 ^ exponent`. -/
def scale (mantissa : Nat) (exponent : Int) : Float :=
  let size := ((Nat.toDigits 10 mantissa).length : Int) + exponent
  if mantissa = 0 || size < -400 then 0.0
  else if 400 < size then 1.0 / 0.0
  else Float.ofScientific mantissa (exponent < 0) exponent.natAbs

/-- The values of the digits of a part that may be missing. -/
def part? (s : Text) : Option (List Nat) := if s.isEmpty then some [] else groupedDigits? s

def exponent? (s : Text) : Option Int :=
  let (negative, body) := splitSign s
  (groupedDigits? body).map fun digits =>
    if negative then -(value digits : Int) else value digits

/-- The float that a text without sign, infinities apart, writes. -/
def unsignedFloat? (s : Text) : Option Float :=
  let isMark := fun c => c == 'e' || c == 'E'
  let significand := s.takeWhile fun c => !isMark c
  let exponent := match s.dropWhile fun c => !isMark c with
    | [] => some 0
    | _ :: rest => exponent? rest
  let whole := significand.takeWhile (· != '.')
  let fraction := (significand.dropWhile (· != '.')).drop 1
  match part? whole, part? fraction, exponent with
  | some wholeDigits, some fractionDigits, some power =>
    if wholeDigits.isEmpty && fractionDigits.isEmpty then none
    else some (scale (value (wholeDigits ++ fractionDigits)) (power - fractionDigits.length))
  | _, _, _ => none

def float? (s : Text) : Option Float :=
  let (negative, body) := splitSign (Text.strip s)
  let word := body.map Char.toLower
  let magnitude :=
    if word == "inf".toList || word == "infinity".toList then some (1.0 / 0.0)
    else if word == "nan".toList then some (0.0 / 0.0)
    else unsignedFloat? body
  magnitude.map fun x => if negative then -x else x

end DryRun.Numeral
