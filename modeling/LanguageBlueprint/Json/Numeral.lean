/-
  LanguageBlueprint/Json/Numeral.lean
  ===================================
  **Numbers as they are written in JSON.**  A numeral keeps the digits of a JSON
  number.  Its value is an integer when it has neither a fraction nor an exponent
  and fits in 64 bits; otherwise it is a double, found in two steps: the leading
  digits that fit in 64 bits form a significand, and the significand, rounded to
  a double, is multiplied or divided by a power of ten that is itself a double.
  The result is the nearest double for short numerals and may be off in the last
  place for long ones.

    * an integer of 64 bits is found again in its numeral — `value?_ofInt`.
-/
import LanguageBlueprint.Number.IntegerText
import LanguageBlueprint.Number.Shortest

namespace LanguageBlueprint

open Number

/-- A JSON number: its sign, the digits before and after the point, and its exponent. -/
structure Numeral where
  negative : Bool
  whole : List Char
  fraction : List Char
  exponent : Option Int
deriving DecidableEq, Repr

inductive NumeralValue where
  | integer (n : Int)
  | double (d : Binary64)
deriving DecidableEq, Repr

namespace Numeral

def ofInt (n : Int) : Numeral := ⟨n < 0, Nat.toDigits 10 n.natAbs, [], none⟩

/-- The digits of an exponent, after its letter. -/
def scanExponent (cs : List Char) : Option (Int × List Char) :=
  let (negative, digits) := match cs with
    | '+' :: more => (false, more)
    | '-' :: more => (true, more)
    | _ => (false, cs)
  (natural? (digits.takeWhile Char.isDigit)).map (fun n =>
    (if negative then -(n : Int) else (n : Int), digits.dropWhile Char.isDigit))

/-- The exponent at the beginning of a text, if it has one; none when it has no digits. -/
def scanOptionalExponent : List Char → Option (Option Int × List Char)
  | [] => some (none, [])
  | c :: cs =>
      if c == 'e' || c == 'E' then (scanExponent cs).map (fun (e, rest) => (some e, rest))
      else some (none, c :: cs)

/-- The digits after the point at the beginning of a text, if it has one; none when the point has
no digits behind it. -/
def scanFraction : List Char → Option (List Char × List Char)
  | '.' :: cs =>
      let digits := cs.takeWhile Char.isDigit
      if digits.isEmpty then none else some (digits, cs.dropWhile Char.isDigit)
  | cs => some ([], cs)

/-- The unsigned number at the beginning of a text: no digit follows a leading zero. -/
def scanUnsigned (negative : Bool) (cs : List Char) : Option (Numeral × List Char) :=
  let whole := cs.takeWhile Char.isDigit
  if whole.isEmpty || (whole.head? == some '0' && whole.length > 1) then none
  else do
    let (fraction, afterFraction) ← scanFraction (cs.dropWhile Char.isDigit)
    let (exponent, rest) ← scanOptionalExponent afterFraction
    return (⟨negative, whole, fraction, exponent⟩, rest)

def scan : List Char → Option (Numeral × List Char)
  | '-' :: cs => scanUnsigned true cs
  | cs => scanUnsigned false cs

/-! ### The value -/

/-- Appends digits to a significand as long as it stays below `2 ^ 64`; the second component
counts the digits taken. -/
def absorb : Nat → List Char → Nat × Nat
  | significand, [] => (significand, 0)
  | significand, c :: cs =>
      let next := significand * 10 + (c.toNat - '0'.toNat)
      if fitsUInt64 next then
        let (final, taken) := absorb next cs
        (final, taken + 1)
      else (significand, 0)

def powerOfTen (k : Nat) : Magnitude := (Magnitude.ofRatio? (Nat.pow 10 k) 1).getD .zero

/-- Divides by `10 ^ 308` until the exponent is in reach of one division. -/
def scaleDown : Nat → Magnitude → Nat → Option Magnitude
  | 0, _, _ => some .zero
  | fuel + 1, d, k =>
      if k ≤ 308 then d.div? (powerOfTen k)
      else if d.isZero then some .zero
      else (d.div? (powerOfTen 308)).bind (fun e => scaleDown fuel e (k - 308))

/-- The significand times a power of ten; none when it is too large for a double. -/
def scale (significand : Nat) (exponent : Int) : Option Magnitude :=
  (Magnitude.ofRatio? significand 1).bind (fun d =>
    if exponent < 0 then scaleDown 3 d exponent.natAbs
    else if exponent ≤ 308 then d.mul? (powerOfTen exponent.natAbs)
    else if d.isZero then some .zero
    else none)

/-- The numeral as a double; none when it is too large. -/
def toDouble? (numeral : Numeral) : Option Binary64 :=
  let (leading, taken) := absorb 0 numeral.whole
  let (significand, places) := absorb leading numeral.fraction
  let exponent : Int := (numeral.whole.length - taken : Nat) - places + numeral.exponent.getD 0
  (scale significand exponent).map (.finite numeral.negative)

/-- The integer that a numeral without fraction and exponent writes, if it fits in 64 bits.  A
negative zero is no integer. -/
def toInteger? (numeral : Numeral) : Option Int :=
  if numeral.fraction.isEmpty && numeral.exponent.isNone then
    let n := Nat.ofDigitChars 10 numeral.whole 0
    if numeral.negative then
      if 0 < n && fitsInt64 (-n) then some (-(n : Int)) else none
    else if fitsUInt64 n then some n
    else none
  else none

def value? (numeral : Numeral) : Option NumeralValue :=
  match numeral.toInteger? with
  | some n => some (.integer n)
  | none => numeral.toDouble?.map .double

def chars (numeral : Numeral) : List Char :=
  (if numeral.negative then ['-'] else []) ++ numeral.whole ++
  (if numeral.fraction.isEmpty then [] else '.' :: numeral.fraction) ++
  (match numeral.exponent with
   | none => []
   | some e =>
       'e' :: (if e < 0 then ['-'] else []) ++ Nat.toDigits 10 e.natAbs)

/-! ### Integers -/

/-- Whether a text cannot continue the digits of an integer. -/
def EndsInteger (rest : List Char) : Prop :=
  ∀ c ∈ rest.head?, c.isDigit = false ∧ c ≠ '.' ∧ c ≠ 'e' ∧ c ≠ 'E'

/-- An integer of 64 bits, with a sign or without, is found again in its numeral. -/
theorem value?_ofInt {n : Int} (hlow : Int64.minValue.toInt ≤ n) (hhigh : n < UInt64.size) :
    (ofInt n).value? = some (.integer n) := by
  have hdigits : Nat.ofDigitChars 10 (Nat.toDigits 10 n.natAbs) 0 = n.natAbs :=
    Nat.ofDigitChars_ten_toDigits
  have hinteger : (ofInt n).toInteger? = some n := by
    unfold toInteger? ofInt
    by_cases hn : n < 0
    · have hpositive : 0 < n.natAbs := by omega
      have hback : -(n.natAbs : Int) = n := by omega
      have hfits : fitsInt64 n = true := by
        have htop : n ≤ Int64.maxValue.toInt := by rw [Int64.toInt_maxValue]; omega
        simp only [fitsInt64, hlow, htop, decide_true, Bool.and_self]
      rw [hdigits, if_pos (by rfl), if_pos (by simpa using hn)]
      rw [hback, if_pos (by simp only [hpositive, hfits, decide_true, Bool.and_self])]
    · have hrange : n.natAbs < UInt64.size := by omega
      have hback : (n.natAbs : Int) = n := by omega
      rw [hdigits, if_pos (by rfl), if_neg (by simpa using hn)]
      rw [if_pos (by simpa only [fitsUInt64, decide_eq_true_eq] using hrange), hback]
  simp [value?, hinteger]

end Numeral

/-- How a message shows the value of a number. -/
def NumeralValue.text : NumeralValue → String
  | .integer n => toString n
  | .double d => d.pointedText

end LanguageBlueprint
