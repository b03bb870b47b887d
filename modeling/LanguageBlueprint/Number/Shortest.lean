/-
  LanguageBlueprint/Number/Shortest.lean
  ======================================
  **The shortest decimal that reads back.**  Among the decimals that round to a
  given magnitude, the one with the fewest digits is chosen, and of those the
  nearest to it.  For one, two, … digits the two neighbours of the magnitude on
  that decimal grid are tested, all in exact arithmetic; seventeen digits always
  suffice.
-/
import LanguageBlueprint.Number.Binary64

namespace LanguageBlueprint.Number

/-- The decimal `0.d₁d₂… · 10 ^ point` with the digits `d₁d₂…`, the first of which is not zero. -/
structure Decimal where
  digits : List Char
  point : Int
deriving DecidableEq, Repr

/-- Which of two decimals of equal length and distance is chosen. -/
inductive Tie where
  | toEven | upward
deriving DecidableEq, Repr

namespace Decimal

/-- Compares `c · 10 ^ s` with `h · 2 ^ q`. -/
def compareScaled (c : Nat) (s : Int) (h : Nat) (q : Int) : Ordering :=
  compare ((c * Nat.pow 10 s.toNat) <<< (-q).toNat) ((h * Nat.pow 10 (-s).toNat) <<< q.toNat)

/-- Whether the decimal `c · 10 ^ s` rounds to the magnitude. -/
def roundsTo (d : Magnitude) (c : Nat) (s : Int) : Bool :=
  -- the interval reaches half way to both neighbours, and just above a power of two the neighbour
  -- below is half as far away
  let below := if d.mantissa = 1 <<< 52 ∧ d.exponent > -1074 then 1 else 2
  let low := compareScaled c s (4 * d.mantissa - below) (d.exponent - 2)
  let high := compareScaled c s (4 * d.mantissa + 2) (d.exponent - 2)
  -- a half is rounded to the even mantissa
  let ends := d.mantissa % 2 == 0
  (low == .gt || (ends && low == .eq)) && (high == .lt || (ends && high == .eq))

/-- The exponent of the leading decimal digit of a positive magnitude. -/
def leadingExponent (d : Magnitude) : Int :=
  if d.num ≥ d.den then (Nat.toDigits 10 (d.num / d.den)).length - 1
  else -((Nat.toDigits 10 ((d.den + d.num - 1) / d.num - 1)).length : Int)

/-- The neighbour of the magnitude on the grid of multiples of `10 ^ s` that rounds to it, the
nearer one if both do. -/
def onGrid (tie : Tie) (d : Magnitude) (s : Int) : Option Nat :=
  let lower := d.num * Nat.pow 10 (-s).toNat / (d.den * Nat.pow 10 s.toNat)
  match roundsTo d lower s, roundsTo d (lower + 1) s with
  | false, false => none
  | true, false => some lower
  | false, true => some (lower + 1)
  | true, true =>
      match compareScaled (2 * lower + 1) s (2 * d.mantissa) d.exponent with
      | .gt => some lower
      | .lt => some (lower + 1)
      | .eq =>
          match tie with
          | .upward => some (lower + 1)
          | .toEven => some (if lower % 2 = 0 then lower else lower + 1)

/-- The first hit on the grids with `count`, `count + 1`, … digits, of `fuel` grids. -/
def search (tie : Tie) (d : Magnitude) (leading : Int) : Nat → Nat → Option (Nat × Int)
  | 0, _ => none
  | fuel + 1, count =>
      let s := leading - (count : Int) + 1
      match onGrid tie d s with
      | some c => some (c, s)
      | none => search tie d leading fuel (count + 1)

/-- The decimal with these digits and this exponent, without zeros at the end. -/
def normalise (c : Nat) (s : Int) : Decimal :=
  let digits := Nat.toDigits 10 c
  ⟨(digits.reverse.dropWhile (· == '0')).reverse, s + digits.length⟩

/-- The shortest decimal that rounds to a positive magnitude. -/
def shortest (tie : Tie) (d : Magnitude) : Decimal :=
  match search tie d (leadingExponent d) 17 1 with
  | some (c, s) => normalise c s
  | none => ⟨['0'], 1⟩

/-- The decimal without an exponent; `whole` is written after an integer. -/
def positional (d : Decimal) (whole : String) : String :=
  let count : Int := d.digits.length
  if d.point ≤ 0 then
    String.ofList ("0.".toList ++ List.replicate (-d.point).toNat '0' ++ d.digits)
  else if d.point ≥ count then
    String.ofList (d.digits ++ List.replicate (d.point - count).toNat '0') ++ whole
  else
    String.ofList (d.digits.take d.point.toNat ++ '.' :: d.digits.drop d.point.toNat)

/-- The decimal in the form `d.ddde±x`: the exponent has a sign, and no zeros before its digits. -/
def scientific (d : Decimal) : String :=
  let exponent := d.point - 1
  let fraction := d.digits.drop 1
  String.ofList (d.digits.take 1 ++ (if fraction.isEmpty then [] else '.' :: fraction) ++
    'e' :: (if exponent < 0 then '-' else '+') :: Nat.toDigits 10 exponent.natAbs)

end Decimal

namespace Binary64

/-- A double without an exponent: the shortest digits that read back, a tie going up. -/
def plainText : Binary64 → String
  | .nan => "NaN"
  | .infinite negative => if negative then "-inf" else "inf"
  | .finite negative magnitude =>
      (if negative then "-" else "") ++
      (if magnitude.isZero then "0"
       else (Decimal.shortest .upward magnitude).positional "")

/-- A double with a point or an exponent: the shortest digits that read back, a tie going to the
even digit; positional from `10 ^ -5` below `10 ^ 16`. -/
def pointedText : Binary64 → String
  | .nan => "NaN"
  | .infinite negative => if negative then "-inf" else "inf"
  | .finite negative magnitude =>
      (if negative then "-" else "") ++
      (if magnitude.isZero then "0.0"
       else
        let decimal := Decimal.shortest .toEven magnitude
        if -5 < decimal.point ∧ decimal.point ≤ 16 then decimal.positional ".0"
        else decimal.scientific)

end Binary64

end LanguageBlueprint.Number
