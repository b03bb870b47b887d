/-
  LanguageBlueprint/Configuration/Setting.lean
  ============================================
  **Single settings.**  A setting comes from a file, as JSON, or from the
  environment, as text.  A text of the environment that writes a truth value, an
  integer or a decimal counts as that value.  Where a text is wanted, such a value
  is written in its usual form; where a count is wanted, a text may write one.
-/
import LanguageBlueprint.Json.Read
import LanguageBlueprint.Number.IntegerText
import LanguageBlueprint.Number.Shortest

namespace LanguageBlueprint

open Number

/-- The value of a setting; of a list or a table only the kind is known. -/
inductive Setting where
  | null
  | bool (b : Bool)
  | integer (n : Int)
  | double (d : Binary64)
  | text (s : String)
  | composite
deriving DecidableEq, Repr

namespace Setting

/-- The setting that a value in a file is.  Integers that do not fit in 64 bits, with or without a
sign, are doubles. -/
def ofJson : Json → Setting
  | .null => .null
  | .bool b => .bool b
  | .number numeral =>
      match numeral.value? with
      | some (.integer n) =>
          if fitsInt64 n || (0 ≤ n && fitsUInt64 n.toNat) then .integer n
          else .double (.ofRatio (n < 0) n.natAbs 1)
      | some (.double d) => .double d
      | none => .null
  | .text s => .text s
  | _ => .composite

/-- The text in lower case, as far as ASCII goes. -/
def lower (s : String) : String := String.ofList (s.toList.map Char.toLower)

def ofEnvironment (s : String) : Setting :=
  if lower s = "true" then .bool true
  else if lower s = "false" then .bool false
  else
    match (integer? s.toList).filter fitsInt64 with
    | some n => .integer n
    | none =>
        match double? s.toList with
        | some d => .double d
        | none => .text s

def toText? : Setting → Option String
  | .bool b => some (if b then "true" else "false")
  | .integer n => some (toString n)
  | .double d => some d.plainText
  | .text s => some s
  | .null => none
  | .composite => none

def maxCount : Nat := UInt64.size - 1

/-- The double rounded to a count: a half goes up, and what is out of range goes to its nearest
end. -/
def countOfDouble : Binary64 → Nat
  | .nan => 0
  | .infinite negative => if negative then 0 else maxCount
  | .finite negative magnitude => if negative then 0 else min magnitude.roundHalfUp maxCount

/-- The count that a text writes: a word for one or zero, or digits. -/
def countOfText? (s : String) : Option Nat :=
  let word := lower s
  if word = "true" || word = "on" || word = "yes" then some 1
  else if word = "false" || word = "off" || word = "no" then some 0
  else (signedNatural? s.toList).filter fitsUInt64

def toCount? : Setting → Option Nat
  | .bool b => some (if b then 1 else 0)
  | .integer n => if 0 ≤ n then some n.toNat else none
  | .double d => some (countOfDouble d)
  | .text s => countOfText? s
  | .null => none
  | .composite => none

end Setting

end LanguageBlueprint
