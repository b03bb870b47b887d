/-
  LanguageBlueprint/Unicode/CodeTable.lean
  ========================================
  **Tables of properties of characters.**  A table lists ranges of code points in
  ascending order, and for each what the characters in it have in common.  It is
  written as a text: `300-36F` is a range, `AD` one code point, and what follows an
  equals sign is the value of the property.

    * a found range holds the code point — `find?_spec`.
-/

namespace LanguageBlueprint.Unicode

/-- The code points from `first` to `last`, and what they have in common. -/
structure CodeRange where
  first : Nat
  last : Nat
  value : List Char
deriving DecidableEq, Repr

/-- A property of characters: ranges in ascending order. -/
abbrev CodeTable := List CodeRange

def hexValue (c : Char) : Nat := if c.isDigit then c.toNat - 48 else c.toNat - 55

def hexNumber (digits : List Char) : Nat := digits.foldl (fun n c => n * 16 + hexValue c) 0

def hexNumbers (cs : List Char) : List Nat :=
  if cs.isEmpty then [] else (cs.splitOn ',').map hexNumber

def CodeRange.ofChars (cs : List Char) : CodeRange :=
  let range := cs.takeWhile (· != '=')
  let first := hexNumber (range.takeWhile (· != '-'))
  let last := match range.dropWhile (· != '-') with
    | _ :: digits => hexNumber digits
    | [] => first
  ⟨first, last, (cs.dropWhile (· != '=')).drop 1⟩

namespace CodeTable

/-- A table as it is written: its ranges stand between spaces and line breaks. -/
def ofText (text : String) : CodeTable :=
  let words := (text.toList.map (fun c => if c == '\n' then ' ' else c)).splitOn ' '
  (words.filter (fun word => !word.isEmpty)).map CodeRange.ofChars

def find? : CodeTable → Nat → Option CodeRange
  | [], _ => none
  | range :: ranges, n =>
      if n < range.first then none
      else if n ≤ range.last then some range
      else find? ranges n

def contains (table : CodeTable) (n : Nat) : Bool := (table.find? n).isSome

/-- The value of the property, or nothing when no range holds the code point. -/
def valueAt (table : CodeTable) (n : Nat) : List Char :=
  match table.find? n with
  | some range => range.value
  | none => []

theorem find?_spec {table : CodeTable} {n : Nat} {range : CodeRange}
    (h : table.find? n = some range) : range ∈ table ∧ range.first ≤ n ∧ n ≤ range.last := by
  induction table with
  | nil => simp [find?] at h
  | cons head ranges ih =>
      unfold find? at h
      split at h
      · simp at h
      · split at h
        · next hfirst hlast =>
            have : head = range := by simpa using h
            subst this
            exact ⟨by simp, by omega, hlast⟩
        · have := ih h
          exact ⟨by simp [this.1], this.2⟩

end CodeTable

end LanguageBlueprint.Unicode
