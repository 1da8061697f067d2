import DryRun.Text.Basic

/-!
# The text of a float

A float is written with the digits of its shortest decimal. From `0.0001` on and below ten to the
sixteenth it is written out with a point and at least one digit on either side of it; outside of
that range it has one digit before the point and an exponent of at least two digits with its sign.
-/

set_option autoImplicit false

/-!
## Shortest decimal of a float

A finite float is `mantissa * 2 ^ exponent`. The reals that round to it form an interval around it,
whose ends belong to it exactly when the mantissa is even. Among the decimals in this interval the
shortest are those with the fewest digits, and of these the nearest to the float is its shortest
decimal; halfway between two, the one with the even last digit.

All arithmetic is exact: the float, the ends of the interval and the decimals are fractions with
one common denominator.
-/

namespace DryRun

/-- A float taken apart. -/
inductive FloatParts where
  | nan
  | infinite (negative : Bool)
  /-- The number `± mantissa * 2 ^ exponent`. -/
  | finite (negative : Bool) (mantissa : Nat) (exponent : Int)
  deriving DecidableEq, Repr

namespace FloatParts

def ofFloat (x : Float) : FloatParts :=
  let bits := x.toBits.toNat
  let negative := Nat.pow 2 63 ≤ bits
  let exponent : Nat := bits / Nat.pow 2 52 % 2048
  let fraction : Nat := bits % Nat.pow 2 52
  if exponent = 2047 then
    if fraction = 0 then .infinite negative else .nan
  else if exponent = 0 then .finite negative fraction (-1074)
  else .finite negative (fraction + Nat.pow 2 52) ((exponent : Int) - 1075)

end FloatParts

namespace Shortest

/-- A positive fraction with the ends of the interval of reals that round to the same float, all
three over the same denominator. -/
structure Target where
  value : Nat
  low : Nat
  high : Nat
  denominator : Nat
  /-- Whether the ends round to the value. -/
  closed : Bool

/-- The target of `mantissa * 2 ^ exponent`. Below a power of two the neighbour is only half as far
away as above it, unless that neighbour is subnormal. -/
def Target.ofParts (mantissa : Nat) (exponent : Int) : Target :=
  let shift := exponent - 2
  let numerator := fun n : Nat => n * Nat.pow 2 shift.toNat
  let lowerGap := if mantissa = Nat.pow 2 52 && exponent > -1074 then 1 else 2
  { value := numerator (4 * mantissa)
    low := numerator (4 * mantissa - lowerGap)
    high := numerator (4 * mantissa + 2)
    denominator := Nat.pow 2 (-shift).toNat
    closed := mantissa % 2 = 0 }

/-- A decimal `digits * 10 ^ exponent`. -/
structure Decimal where
  /-- The digits, read as a number. -/
  digits : Nat
  exponent : Int
  deriving DecidableEq, Repr

/-- Twice the distance of a decimal from a target, and whether the decimal lies in the interval,
over a common denominator. -/
def measure (t : Target) (d : Decimal) : Nat × Bool :=
  let up := Nat.pow 10 d.exponent.toNat
  let down := Nat.pow 10 (-d.exponent).toNat
  let point := d.digits * up * t.denominator
  let scaled := fun n : Nat => n * down
  let inside :=
    if t.closed then scaled t.low ≤ point && point ≤ scaled t.high
    else scaled t.low < point && point < scaled t.high
  (((point : Int) - (scaled t.value : Int)).natAbs, inside)

/-- The nearer of the two neighbours of a target on the grid of multiples of `10 ^ exponent`, if it
lies in the interval. -/
def onGrid? (t : Target) (exponent : Int) : Option Decimal :=
  let floor :=
    t.value * Nat.pow 10 (-exponent).toNat / (t.denominator * Nat.pow 10 exponent.toNat)
  let below : Decimal := ⟨floor, exponent⟩
  let above : Decimal := ⟨floor + 1, exponent⟩
  let (farBelow, belowIn) := measure t below
  let (farAbove, aboveIn) := measure t above
  if belowIn && aboveIn then
    -- Of two that are equally near, the one with the even last digit is taken.
    if farBelow < farAbove || (farBelow = farAbove && floor % 2 = 0) then some below
    else some above
  else if belowIn then some below
  else if aboveIn then some above
  else none

/-- The decimal digits of a number, most significant first. -/
def digitsOf (n : Nat) : List Char := Nat.toDigits 10 n

/-- The power of ten of the first digit of a positive target. -/
def leadingPower (t : Target) : Int :=
  if t.denominator ≤ t.value then ((digitsOf (t.value / t.denominator)).length : Int) - 1
  else
    match (List.range 400).find? fun k => t.denominator ≤ t.value * Nat.pow 10 k with
    | some k => -(k : Int)
    | none => -400

/-- The shortest decimal of a positive target; seventeen digits always suffice. -/
def decimal (t : Target) : Decimal :=
  let top := leadingPower t
  match (List.range 17).findSome? fun (k : Nat) => onGrid? t (top - (k : Int)) with
  | some d => d
  | none => ⟨t.value / t.denominator, 0⟩

end Shortest

end DryRun

namespace DryRun.FloatText

/-- A list of digits without the zeros at its end. -/
def trimZeros (digits : Text) : Text := Text.dropWhileEnd (· == '0') digits

/-- An exponent with its sign and at least two digits. -/
def exponentText (power : Int) : Text :=
  let digits := Shortest.digitsOf power.natAbs
  (if power < 0 then '-' else '+') :: (if digits.length < 2 then '0' :: digits else digits)

/-- The number `0.d₁d₂… * 10 ^ point` with the given digits, written out. -/
def positional (digits : Text) (point : Int) : Text :=
  if point ≤ 0 then '0' :: '.' :: List.replicate (-point).toNat '0' ++ digits
  else
    let whole := digits.take point.toNat
    let rest := digits.drop point.toNat
    Text.padRight '0' point.toNat whole ++ '.' :: (if rest.isEmpty then ['0'] else rest)

/-- The number `d₁.d₂… * 10 ^ power` with the given digits, written with its exponent. -/
def scientific (digits : Text) (power : Int) : Text :=
  let point := if digits.length ≤ 1 then [] else '.' :: digits.drop 1
  digits.take 1 ++ point ++ 'e' :: exponentText power

def ofDecimal (d : Shortest.Decimal) : Text :=
  let all := Shortest.digitsOf d.digits
  let point := (all.length : Int) + d.exponent
  let digits := trimZeros all
  if -4 < point && point ≤ 16 then positional digits point else scientific digits (point - 1)

/-- The text of a float that has been taken apart. -/
def ofParts : FloatParts → Text
  | .nan => "nan".toList
  | .infinite negative => (if negative then ['-'] else []) ++ "inf".toList
  | .finite negative mantissa exponent =>
    (if negative then ['-'] else []) ++
      (if mantissa = 0 then "0.0".toList
        else ofDecimal (Shortest.decimal (.ofParts mantissa exponent)))

def ofFloat (x : Float) : Text := ofParts (.ofFloat x)

end DryRun.FloatText
