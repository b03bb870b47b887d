/-
  LanguageBlueprint/Json/Basic.lean
  =================================
  **What a JSON text holds, as far as it can be read.**  Reading never fails: it
  stops at the first place that is not JSON and keeps what came before.  A value
  that breaks off is `broken`, a list or an object that is not brought to its
  closing bracket is marked so, and a string with an escape of half a surrogate
  pair, or with bytes that are not UTF-8, stands for no text.  The decoders walk
  this tree from left to right, so that of two faults the first one is reported.
-/
import LanguageBlueprint.Json.Numeral

namespace LanguageBlueprint

/-- A JSON value as far as it could be read.  A string that stands for no text is illegible; the key
of a member is absent when it is such a string. -/
inductive Json where
  | null
  | bool (b : Bool)
  | number (numeral : Numeral)
  | text (s : String)
  | illegible
  | list (items : List Json) (closed : Bool)
  | object (members : List (Option String × Json)) (closed : Bool)
  | broken
deriving Repr

namespace Json

def ofList (items : List Json) : Json := .list items true

def ofMembers (members : List (String × Json)) : Json :=
  .object (members.map (fun (key, value) => (some key, value))) true

def ofInt (n : Int) : Json := .number (.ofInt n)

def ofNat (n : Nat) : Json := .ofInt n

/-- A text, or null. -/
def ofOption (encode : α → Json) : Option α → Json
  | none => .null
  | some a => encode a

/-! ### How much of a value is there -/

mutual

/-- Whether the value was read to its end. -/
def isComplete : Json → Bool
  | .null => true
  | .bool _ => true
  | .number _ => true
  | .text _ => true
  | .illegible => true
  | .list items closed => allComplete items && closed
  | .object members closed => allMembersComplete members && closed
  | .broken => false

def allComplete : List Json → Bool
  | [] => true
  | item :: items => item.isComplete && allComplete items

def allMembersComplete : List (Option String × Json) → Bool
  | [] => true
  | (_, value) :: members => value.isComplete && allMembersComplete members

end

mutual

/-- Whether a reader can keep the value: it was read to its end, its strings are texts, its numbers
are in the range of doubles, and at most `depth` lists and objects are nested in it. -/
def isKeepable (depth : Nat) : Json → Bool
  | .null => true
  | .bool _ => true
  | .number numeral => numeral.value?.isSome
  | .text _ => true
  | .illegible => false
  | .list items closed => 0 < depth && allKeepable (depth - 1) items && closed
  | .object members closed => 0 < depth && allMembersKeepable (depth - 1) members && closed
  | .broken => false

def allKeepable (depth : Nat) : List Json → Bool
  | [] => true
  | item :: items => item.isKeepable depth && allKeepable depth items

def allMembersKeepable (depth : Nat) : List (Option String × Json) → Bool
  | [] => true
  | (key, value) :: members =>
      key.isSome && value.isKeepable depth && allMembersKeepable depth members

end

/-! ### Members in the order of their keys -/

/-- Puts a member into a list of members in ascending order of their keys, in place of a member
with the same key. -/
def insertMember (key : Option String) (value : Json) :
    List (Option String × Json) → List (Option String × Json)
  | [] => [(key, value)]
  | (other, otherValue) :: members =>
      if key == other then (key, value) :: members
      else if key.getD "" < other.getD "" then
        (key, value) :: (other, otherValue) :: members
      else (other, otherValue) :: insertMember key value members

mutual

/-- The value with the members of each object in ascending order of their keys; of several members
with one key the last is kept. -/
def sortKeys : Json → Json
  | .list items closed => .list (sortKeysInItems items) closed
  | .object members closed => .object (sortKeysInMembers [] members) closed
  | .null => .null
  | .bool b => .bool b
  | .number numeral => .number numeral
  | .text s => .text s
  | .illegible => .illegible
  | .broken => .broken

def sortKeysInItems : List Json → List Json
  | [] => []
  | item :: items => item.sortKeys :: sortKeysInItems items

/-- Inserts the members, with sorted keys inside, into members in ascending order. -/
def sortKeysInMembers (sorted : List (Option String × Json)) :
    List (Option String × Json) → List (Option String × Json)
  | [] => sorted
  | (key, value) :: members => sortKeysInMembers (insertMember key value.sortKeys sorted) members

end

/-- The value of the first member with the key, if this is an object that has one. -/
def member? (key : String) : Json → Option Json
  | .object members _ => (members.find? (fun m => m.1 == some key)).map Prod.snd
  | _ => none

end Json

end LanguageBlueprint
