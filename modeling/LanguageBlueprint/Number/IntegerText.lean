/-
  LanguageBlueprint/Number/IntegerText.lean
  =========================================
  **Integers and decimals written as text.**  Blueprints and settings accept
  numbers that arrive as text: an optional sign and digits for an integer, a
  decimal with an optional point and exponent, or a name of infinity or of "not
  a number" for a double.  A decimal is read to the nearest double.

    * the digits of a number are read as that number — `natural?_toDigits`.
-/
import LanguageBlueprint.Number.Binary64

namespace LanguageBlueprint.Number

/-- The natural number that a non-empty run of decimal digits is. -/
def natural? (cs : List Char) : Option Nat :=
  if cs.isEmpty || !cs.all Char.isDigit then none else some (Nat.ofDigitChars 10 cs 0)

/-- The natural number written as digits, perhaps after a plus sign. -/
def signedNatural? : List Char → Option Nat
  | '+' :: cs => natural? cs
  | cs => natural? cs

/-- The integer written as digits, perhaps after a sign. -/
def integer? : List Char → Option Int
  | '+' :: cs => (natural? cs).map Int.ofNat
  | '-' :: cs => (natural? cs).map (fun n => -(n : Int))
  | cs => (natural? cs).map Int.ofNat

theorem all_isDigit_toDigits (n : Nat) : ∀ c ∈ Nat.toDigits 10 n, c.isDigit = true :=
  fun _ hc => Nat.isDigit_of_mem_toDigits (by decide) (by decide) hc

theorem natural?_toDigits (n : Nat) : natural? (Nat.toDigits 10 n) = some n := by
  have hall : (Nat.toDigits 10 n).all Char.isDigit = true :=
    List.all_eq_true.mpr (all_isDigit_toDigits n)
  have hne : (Nat.toDigits 10 n).isEmpty = false := by
    simp [Nat.toDigits_ne_nil]
  simp [natural?, hall, hne, Nat.ofDigitChars_ten_toDigits]

theorem toDigits_head?_ne_zero {n : Nat} (h : 0 < n) : (Nat.toDigits 10 n).head? ≠ some '0' := by
  induction n using Nat.strongRecOn with
  | _ n ih =>
      by_cases hn : n < 10
      · rw [Nat.toDigits_of_lt_base hn]
        simp
        omega
      · rw [Nat.toDigits_of_base_le (by decide) (by omega)]
        have := ih (n / 10) (by omega) (by omega)
        cases hd : Nat.toDigits 10 (n / 10) with
        | nil => exact absurd hd Nat.toDigits_ne_nil
        | cons c cs => simpa [hd] using this

def fitsInt64 (n : Int) : Bool := Int64.minValue.toInt ≤ n && n ≤ Int64.maxValue.toInt

def fitsUInt64 (n : Nat) : Bool := n < UInt64.size

/-- The double nearest to `± digits · 10 ^ exponent`. -/
def Binary64.ofDecimal (negative : Bool) (digits : List Char) (exponent : Int) : Binary64 :=
  let significant := digits.dropWhile (· == '0')
  let size : Int := significant.length + exponent
  -- far outside the range of doubles the size decides, and the power is not computed
  if significant.isEmpty then .finite negative .zero
  else if size > 400 then .infinite negative
  else if size < -400 then .finite negative .zero
  else
    let c := Nat.ofDigitChars 10 significant 0
    Binary64.ofRatio negative (c * Nat.pow 10 exponent.toNat) (Nat.pow 10 (-exponent).toNat)

/-- The exponent part of a decimal: absent, or a letter `e` and an integer. -/
def exponentPart? : List Char → Option Int
  | [] => some 0
  | c :: cs => if c == 'e' || c == 'E' then integer? cs else none

/-- The unsigned decimal: digits, perhaps a point and digits, perhaps an exponent, with a digit
before or after the point. -/
def unsignedDecimal? (cs : List Char) : Option (List Char × Int) :=
  let whole := cs.takeWhile Char.isDigit
  let rest := cs.dropWhile Char.isDigit
  let fraction := match rest with
    | '.' :: more => more.takeWhile Char.isDigit
    | _ => []
  let tail := match rest with
    | '.' :: more => more.dropWhile Char.isDigit
    | _ => rest
  if whole.isEmpty && fraction.isEmpty then none
  else (exponentPart? tail).map (fun e => (whole ++ fraction, e - fraction.length))

/-- The unsigned double: a decimal, or a name in any mixture of capitals. -/
def unsignedDouble? (negative : Bool) (cs : List Char) : Option Binary64 :=
  let name := String.ofList (cs.map Char.toLower)
  if name == "inf" || name == "infinity" then some (.infinite negative)
  else if name == "nan" then some .nan
  else (unsignedDecimal? cs).map (fun (digits, e) => Binary64.ofDecimal negative digits e)

def double? : List Char → Option Binary64
  | '+' :: cs => unsignedDouble? false cs
  | '-' :: cs => unsignedDouble? true cs
  | cs => unsignedDouble? false cs

end LanguageBlueprint.Number
