/-
  LanguageBlueprint/Number/Binary64.lean
  ======================================
  **Double precision numbers, exactly.**  A finite double is a sign and a
  magnitude `mantissa · 2 ^ exponent` with a mantissa below `2 ^ 53`.  All
  arithmetic is done on natural numbers: a quotient of two naturals is rounded to
  the nearest magnitude, a half going to the even mantissa, and products and
  quotients of magnitudes are quotients of naturals again.
-/

namespace LanguageBlueprint.Number

/-- The number `mantissa · 2 ^ exponent`. -/
structure Magnitude where
  mantissa : Nat
  exponent : Int
deriving DecidableEq, Repr

inductive Binary64 where
  | finite (negative : Bool) (magnitude : Magnitude)
  | infinite (negative : Bool)
  | nan
deriving DecidableEq, Repr

/-- The nearest integer to `num / den`; a half goes to the even neighbour. -/
def divHalfEven (num den : Nat) : Nat :=
  let whole := num / den
  let twice := 2 * (num % den)
  if twice > den then whole + 1
  else if twice = den ∧ whole % 2 = 1 then whole + 1
  else whole

namespace Magnitude

def zero : Magnitude := ⟨0, -1074⟩

/-- The numerator of the number as a fraction over a power of two. -/
def num (d : Magnitude) : Nat := d.mantissa <<< d.exponent.toNat

def den (d : Magnitude) : Nat := 1 <<< (-d.exponent).toNat

def isZero (d : Magnitude) : Bool := d.mantissa == 0

def toNat? (d : Magnitude) : Option Nat :=
  if d.num % d.den = 0 then some (d.num / d.den) else none

/-- The integer nearest to the number; a half is rounded up. -/
def roundHalfUp (d : Magnitude) : Nat := (2 * d.num + d.den) / (2 * d.den)

/-- The exponent at which the mantissa of `num / den` has 53 binary digits, or the least exponent
that a double has. -/
def exponentFor (num den : Nat) : Int :=
  let estimate : Int := (num.log2 : Int) - (den.log2 : Int) - 52
  -- the estimate is right or one too great
  let wide := num <<< (-estimate).toNat ≥ den <<< (52 + estimate.toNat)
  max (if wide then estimate else estimate - 1) (-1074)

/-- The magnitude nearest to `num / den`, a half going to the even mantissa; none when it is too
large for a double. -/
def ofRatio? (num den : Nat) : Option Magnitude :=
  if num = 0 then some zero
  else
    let exponent := exponentFor num den
    let mantissa := divHalfEven (num <<< (-exponent).toNat) (den <<< exponent.toNat)
    let rounded : Magnitude :=
      if mantissa = 1 <<< 53 then ⟨1 <<< 52, exponent + 1⟩ else ⟨mantissa, exponent⟩
    if rounded.exponent > 971 then none else some rounded

def mul? (a b : Magnitude) : Option Magnitude := ofRatio? (a.num * b.num) (a.den * b.den)

def div? (a b : Magnitude) : Option Magnitude := ofRatio? (a.num * b.den) (a.den * b.num)

end Magnitude

namespace Binary64

/-- The double nearest to `± num / den`. -/
def ofRatio (negative : Bool) (num den : Nat) : Binary64 :=
  match Magnitude.ofRatio? num den with
  | some magnitude => .finite negative magnitude
  | none => .infinite negative

def toInt? : Binary64 → Option Int
  | .finite negative magnitude =>
      magnitude.toNat?.map (fun n => if negative then -(n : Int) else (n : Int))
  | _ => none

end Binary64

end LanguageBlueprint.Number
