/-
  LanguageBlueprint/Json/Write.lean
  =================================
  **Writing JSON.**  The compact form has no blanks.  The pretty form puts every
  item and every member on a line of its own, indented by two spaces for each
  level, and writes an empty list or object as its two brackets.  A value that is
  read, kept and written again has one spelling: its members are in ascending order
  of their keys, the last of several members with one key, and each number has its
  shortest form.
-/
import LanguageBlueprint.Json.Basic
import LanguageBlueprint.Json.Strings

namespace LanguageBlueprint

namespace Json

/-- Characters that the two forms write alike. -/
def scalarChars : Json → List Char
  | .null => ['n', 'u', 'l', 'l']
  | .bool true => ['t', 'r', 'u', 'e']
  | .bool false => ['f', 'a', 'l', 's', 'e']
  | .number numeral => numeral.chars
  | .text s => stringChars s
  | _ => []

def keyChars (key : Option String) : List Char := stringChars (key.getD "")

mutual

/-- The compact form, as characters. -/
def compactChars : Json → List Char
  | .list items _ => '[' :: (compactItems items ++ [']'])
  | .object members _ => '\x7b' :: (compactMembers members ++ ['\x7d'])
  | .null => scalarChars .null
  | .bool b => scalarChars (.bool b)
  | .number numeral => scalarChars (.number numeral)
  | .text s => scalarChars (.text s)
  | .illegible => []
  | .broken => []

def compactItems : List Json → List Char
  | [] => []
  | item :: items => item.compactChars ++ compactMoreItems items

/-- The items after the first in the compact form. -/
def compactMoreItems : List Json → List Char
  | [] => []
  | item :: items => ',' :: (item.compactChars ++ compactMoreItems items)

def compactMembers : List (Option String × Json) → List Char
  | [] => []
  | (key, value) :: members =>
      keyChars key ++ ':' :: (value.compactChars ++ compactMoreMembers members)

def compactMoreMembers : List (Option String × Json) → List Char
  | [] => []
  | (key, value) :: members =>
      ',' :: (keyChars key ++ ':' :: (value.compactChars ++ compactMoreMembers members))

end

def compact (json : Json) : String := String.ofList json.compactChars

def newLine (level : Nat) : List Char := '\n' :: List.replicate (2 * level) ' '

mutual

/-- The pretty form at a level of indentation, as characters. -/
def prettyChars (level : Nat) : Json → List Char
  | .list [] _ => ['[', ']']
  | .list (item :: items) _ =>
      '[' :: (newLine (level + 1) ++ item.prettyChars (level + 1) ++
        prettyMoreItems (level + 1) items ++ newLine level ++ [']'])
  | .object [] _ => ['\x7b', '\x7d']
  | .object ((key, value) :: members) _ =>
      '\x7b' :: (newLine (level + 1) ++ keyChars key ++ ':' :: ' ' ::
        (value.prettyChars (level + 1) ++ prettyMoreMembers (level + 1) members ++
          newLine level ++ ['\x7d']))
  | .null => scalarChars .null
  | .bool b => scalarChars (.bool b)
  | .number numeral => scalarChars (.number numeral)
  | .text s => scalarChars (.text s)
  | .illegible => []
  | .broken => []

def prettyMoreItems (level : Nat) : List Json → List Char
  | [] => []
  | item :: items =>
      ',' :: (newLine level ++ item.prettyChars level ++ prettyMoreItems level items)

def prettyMoreMembers (level : Nat) : List (Option String × Json) → List Char
  | [] => []
  | (key, value) :: members =>
      ',' :: (newLine level ++ keyChars key ++ ':' :: ' ' ::
        (value.prettyChars level ++ prettyMoreMembers level members))

end

def pretty (json : Json) : String := String.ofList (json.prettyChars 0)

end Json

/-! ### One spelling for equal values -/

/-- The shortest numeral with the same value; a numeral that is too large is left as it is. -/
def Numeral.canonical (numeral : Numeral) : Numeral :=
  match numeral.value? with
  | some value =>
      match Numeral.scan value.text.toList with
      | some (shortest, _) => shortest
      | none => numeral
  | none => numeral

namespace Json

mutual

/-- The value with every number in its shortest form. -/
def shortenNumbers : Json → Json
  | .number numeral => .number numeral.canonical
  | .list items closed => .list (shortenInItems items) closed
  | .object members closed => .object (shortenInMembers members) closed
  | .null => .null
  | .bool b => .bool b
  | .text s => .text s
  | .illegible => .illegible
  | .broken => .broken

def shortenInItems : List Json → List Json
  | [] => []
  | item :: items => item.shortenNumbers :: shortenInItems items

def shortenInMembers : List (Option String × Json) → List (Option String × Json)
  | [] => []
  | (key, value) :: members => (key, value.shortenNumbers) :: shortenInMembers members

end

/-- The value in its one spelling. -/
def canonical (json : Json) : Json := json.sortKeys.shortenNumbers

end Json

end LanguageBlueprint
