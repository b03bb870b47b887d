/-
  LanguageBlueprint/Json/Strings.lean
  ===================================
  **Strings of JSON.**  A string is read as a run of pieces, characters and
  UTF-16 units written as escapes, up to the closing quote; then units that form
  a surrogate pair are joined.  A unit of half a pair has no character: the whole
  string then stands for no text.  Writing escapes the quote, the backslash and
  the characters below U+0020 only.

    * a written text is read back — `textOfPieces?_written`.
-/
import LanguageBlueprint.Text.Quoted

namespace LanguageBlueprint

open Text

namespace Json

/-- A piece of a string: a character, or a UTF-16 unit written in hexadecimal. -/
inductive Piece where
  | char (c : Char)
  | unit (n : Nat)
deriving DecidableEq, Repr

def hexValue? (c : Char) : Option Nat :=
  if '0' ≤ c && c ≤ '9' then some (c.toNat - 48)
  else if 'a' ≤ c && c ≤ 'f' then some (c.toNat - 87)
  else if 'A' ≤ c && c ≤ 'F' then some (c.toNat - 55)
  else none

def hexUnit? (a b c d : Char) : Option Nat := do
  return (((← hexValue? a) * 16 + (← hexValue? b)) * 16 + (← hexValue? c)) * 16 + (← hexValue? d)

/-- The character that a letter after a backslash stands for. -/
def shortEscape? (c : Char) : Option Char :=
  if c = '"' then some '"'
  else if c = '\\' then some '\\'
  else if c = '/' then some '/'
  else if c = 'b' then some '\x08'
  else if c = 'f' then some '\x0c'
  else if c = 'n' then some '\n'
  else if c = 'r' then some '\r'
  else if c = 't' then some '\t'
  else none

/-- The pieces up to the closing quote and what follows it; none when a control character stands
in the string, an escape is none, or the quote is missing. -/
def scanPieces : List Char → Option (List Piece × List Char)
  | [] => none
  | '"' :: rest => some ([], rest)
  | '\\' :: 'u' :: a :: b :: c :: d :: rest =>
      match hexUnit? a b c d with
      | some n => (scanPieces rest).map (fun (pieces, after) => (.unit n :: pieces, after))
      | none => none
  | '\\' :: e :: rest =>
      match shortEscape? e with
      | some c => (scanPieces rest).map (fun (pieces, after) => (.char c :: pieces, after))
      | none => none
  | c :: rest =>
      if c = '\\' ∨ c.toNat < 0x20 then none
      else (scanPieces rest).map (fun (pieces, after) => (.char c :: pieces, after))

def isHighSurrogate (n : Nat) : Bool := 0xD800 ≤ n && n ≤ 0xDBFF

def isLowSurrogate (n : Nat) : Bool := 0xDC00 ≤ n && n ≤ 0xDFFF

/-- The characters of the pieces; none when a surrogate is not part of a pair. -/
def joinPieces : List Piece → Option (List Char)
  | [] => some []
  | .char c :: pieces => (joinPieces pieces).map (c :: ·)
  | .unit high :: .unit low :: pieces =>
      if isHighSurrogate high then
        if isLowSurrogate low then
          (joinPieces pieces).map
            (Char.ofNat (0x10000 + (high - 0xD800) * 0x400 + (low - 0xDC00)) :: ·)
        else none
      else if isLowSurrogate high then none
      else (joinPieces (.unit low :: pieces)).map (Char.ofNat high :: ·)
  | .unit n :: pieces =>
      if isHighSurrogate n || isLowSurrogate n then none
      else (joinPieces pieces).map (Char.ofNat n :: ·)

def textOfPieces? (pieces : List Piece) : Option String := (joinPieces pieces).map String.ofList

/-! ### Writing -/

/-- How a string shows one character. -/
def escapeChar (c : Char) : List Char :=
  if c = '"' then ['\\', '"']
  else if c = '\\' then ['\\', '\\']
  else if c = '\x08' then ['\\', 'b']
  else if c = '\x0c' then ['\\', 'f']
  else if c = '\n' then ['\\', 'n']
  else if c = '\r' then ['\\', 'r']
  else if c = '\t' then ['\\', 't']
  else if c.toNat < 0x20 then
    ['\\', 'u', '0', '0', hexDigit (c.toNat / 16), hexDigit (c.toNat % 16)]
  else [c]

def stringChars (s : String) : List Char := '"' :: (s.toList.flatMap escapeChar ++ ['"'])

/-! ### Reading what was written -/

/-- How the reader sees a character that was written: some controls come back as units. -/
def writtenPiece (c : Char) : Piece :=
  if c = '"' ∨ c = '\\' ∨ c = '\x08' ∨ c = '\x0c' ∨ c = '\n' ∨ c = '\r' ∨ c = '\t' then .char c
  else if c.toNat < 0x20 then .unit c.toNat
  else .char c

theorem hexUnit?_control {n : Nat} (h : n < 0x20) :
    hexUnit? '0' '0' (hexDigit (n / 16)) (hexDigit (n % 16)) = some n := by
  have all : ∀ n < 0x20, hexUnit? '0' '0' (hexDigit (n / 16)) (hexDigit (n % 16)) = some n := by
    decide
  exact all n h

theorem joinPieces_unit_cons {n : Nat} (hhigh : isHighSurrogate n = false)
    (hlow : isLowSurrogate n = false) (pieces : List Piece) :
    joinPieces (.unit n :: pieces) = (joinPieces pieces).map (Char.ofNat n :: ·) := by
  cases pieces with
  | nil => simp [joinPieces, hhigh, hlow]
  | cons piece pieces => cases piece <;> simp [joinPieces, hhigh, hlow]

theorem joinPieces_writtenPiece_cons (c : Char) (pieces : List Piece) :
    joinPieces (writtenPiece c :: pieces) = (joinPieces pieces).map (c :: ·) := by
  unfold writtenPiece
  split
  · simp [joinPieces]
  · split
    · have hhigh : isHighSurrogate c.toNat = false := by simp [isHighSurrogate]; omega
      have hlow : isLowSurrogate c.toNat = false := by simp [isLowSurrogate]; omega
      rw [joinPieces_unit_cons hhigh hlow, Char.ofNat_toNat]
    · simp [joinPieces]

theorem joinPieces_written (cs : List Char) : joinPieces (cs.map writtenPiece) = some cs := by
  induction cs with
  | nil => rfl
  | cons c cs ih => simp [joinPieces_writtenPiece_cons, ih]

/-- A written text is read back. -/
theorem textOfPieces?_written (s : String) :
    textOfPieces? (s.toList.map writtenPiece) = some s := by
  simp [textOfPieces?, joinPieces_written]

end Json

end LanguageBlueprint
