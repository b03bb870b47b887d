/-
  LanguageBlueprint/Json/Fault.lean
  =================================
  **Why a JSON text is refused.**  Either the text is not JSON where a value is
  wanted, or it is and the value does not fit.  Each way of not fitting is a
  cause of its own; the wording stands in one place, `Misfit.message`.
-/
import LanguageBlueprint.Json.Basic
import LanguageBlueprint.Text.Quoted
import LanguageBlueprint.Vocabulary

namespace LanguageBlueprint

open Text

/-- A way in which a point in time fails to be read. -/
inductive BadInstant where
  | outOfRange
  | tooShort
  | invalid
  | trailing
  | impossible
deriving DecidableEq, Repr

def BadInstant.message : BadInstant → String
  | .outOfRange => "input is out of range"
  | .tooShort => "premature end of input"
  | .invalid => "input contains invalid characters"
  | .trailing => "trailing input"
  | .impossible => "no possible date and time matching input"

/-- A way in which a well-formed JSON value does not fit. -/
inductive Misfit where
  | wrongType (found wanted : String)
  | wrongInteger (n : Int)
  | duplicateField (name : String)
  | missingField (name : String)
  | wrongLength (read : Nat) (record : String) (size : Nat)
  | unknownWord (unknown : UnknownWord)
  | badInstant (reason : BadInstant)
deriving DecidableEq, Repr

/-- What is wanted where a record is read from a list. -/
def recordWithElements (record : String) (size : Nat) : String :=
  "struct " ++ record ++ " with " ++ toString size ++ (if size = 1 then " element" else " elements")

def Misfit.message : Misfit → String
  | .wrongType found wanted => "invalid type: " ++ found ++ ", expected " ++ wanted
  | .wrongInteger n => "invalid value: integer `" ++ toString n ++ "`, expected i64"
  | .duplicateField name => "duplicate field `" ++ name ++ "`"
  | .missingField name => "missing field `" ++ name ++ "`"
  | .wrongLength read record size =>
      "invalid length " ++ toString read ++ ", expected " ++ recordWithElements record size
  | .unknownWord unknown => unknown.message
  | .badInstant reason => reason.message

/-- Why a JSON text is refused. -/
inductive DecodeFault where
  | malformed
  | unfit (misfit : Misfit)
deriving DecidableEq, Repr

/-- How a complaint names the value that was found; the value has to be readable so far. -/
def Json.found : Json → Except DecodeFault String
  | .null => .ok "null"
  | .bool b => .ok ("boolean `" ++ (if b then "true" else "false") ++ "`")
  | .number numeral =>
      match numeral.value? with
      | some (.integer n) => .ok ("integer `" ++ toString n ++ "`")
      | some (.double d) => .ok ("floating point `" ++ d.pointedText ++ "`")
      | none => .error .malformed
  | .text s => .ok ("string " ++ quote s)
  | .illegible => .error .malformed
  | .list _ _ => .ok "sequence"
  | .object _ _ => .ok "map"
  | .broken => .error .malformed

end LanguageBlueprint
