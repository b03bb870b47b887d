/-
  LanguageBlueprint/Json/Read.lean
  ================================
  **Reading JSON.**  A text is read from left to right up to the end of its first
  value or to the first place that is not JSON.  In the second case nothing is
  left to read, and the tree shows how far the reader came.

  Bytes need not be a text.  A byte that is part of no character ends the reading
  between the tokens, and in a string it is passed over; but such a string stands
  for no text.

    * the bytes of a text are read as the text — `readBytes_toUTF8`.
-/
import LanguageBlueprint.Json.Basic
import LanguageBlueprint.Json.Strings

namespace LanguageBlueprint

namespace Json

/-- Whether a character may stand between the tokens of JSON. -/
def isSpace (c : Char) : Bool := c == ' ' || c == '\n' || c == '\t' || c == '\r'

def skipSpace (cs : List Char) : List Char := cs.dropWhile isSpace

def isAllSpace (cs : List Char) : Bool := (skipSpace cs).isEmpty

def readNumber (cs : List Char) : Json × Option (List Char) :=
  match Numeral.scan cs with
  | some (numeral, rest) => (.number numeral, some rest)
  | none => (.broken, none)

/-- The string whose opening quote has been read. -/
def readString (cs : List Char) : Json × Option (List Char) :=
  match scanPieces cs with
  | none => (.broken, none)
  | some (pieces, rest) =>
      match textOfPieces? pieces with
      | some s => (.text s, some rest)
      | none => (.illegible, some rest)

mutual

/-- The value at the beginning of a text, and what follows it unless the reader had to stop. -/
def readValue : Nat → List Char → Json × Option (List Char)
  | 0, _ => (.broken, none)
  | fuel + 1, cs =>
      match skipSpace cs with
      | 'n' :: 'u' :: 'l' :: 'l' :: rest => (.null, some rest)
      | 't' :: 'r' :: 'u' :: 'e' :: rest => (.bool true, some rest)
      | 'f' :: 'a' :: 'l' :: 's' :: 'e' :: rest => (.bool false, some rest)
      | '"' :: rest => readString rest
      | '[' :: rest =>
          match skipSpace rest with
          | ']' :: after => (.list [] true, some after)
          | start =>
              let (items, after) := readItems fuel start
              (.list items after.isSome, after)
      | '\x7b' :: rest =>
          match skipSpace rest with
          | '\x7d' :: after => (.object [] true, some after)
          | start =>
              let (members, after) := readMembers fuel start
              (.object members after.isSome, after)
      | start => readNumber start

def readItems : Nat → List Char → List Json × Option (List Char)
  | 0, _ => ([], none)
  | fuel + 1, cs =>
      match readValue fuel cs with
      | (item, none) => ([item], none)
      | (item, some rest) =>
          match skipSpace rest with
          | ']' :: after => ([item], some after)
          | ',' :: more =>
              let (items, after) := readItems fuel more
              (item :: items, after)
          | _ => ([item], none)

def readMembers : Nat → List Char → List (Option String × Json) × Option (List Char)
  | 0, _ => ([], none)
  | fuel + 1, cs =>
      match skipSpace cs with
      | '"' :: start =>
          match scanPieces start with
          | none => ([], none)
          | some (pieces, rest) =>
              let key := textOfPieces? pieces
              match skipSpace rest with
              | ':' :: valueStart =>
                  match readValue fuel valueStart with
                  | (value, none) => ([(key, value)], none)
                  | (value, some rest) =>
                      match skipSpace rest with
                      | '\x7d' :: after => ([(key, value)], some after)
                      | ',' :: more =>
                          let (members, after) := readMembers fuel more
                          ((key, value) :: members, after)
                      | _ => ([(key, value)], none)
              | _ => ([(key, .broken)], none)
      | _ => ([], none)

end

/-- The first value of a text, and what follows it unless the reader had to stop.  Each step that
uses up fuel also uses up a character or ends a value, so twice the length of the text is enough. -/
def readChars (cs : List Char) : Json × Option (List Char) := readValue (2 * cs.length + 2) cs

def read (text : String) : Json × Option (List Char) := readChars text.toList

/-! ### Reading bytes -/

/-- The characters of bytes from a place on, at most `count` of them.  A byte that is part of no
character is taken for the character `stray`. -/
def charsFrom (stray : Char) (bytes : ByteArray) : (count place : Nat) → List Char
  | 0, _ => []
  | count + 1, place =>
      if place < bytes.size then
        match bytes.utf8DecodeChar? place with
        | some c => c :: charsFrom stray bytes count (place + c.utf8Size)
        | none => stray :: charsFrom stray bytes count (place + 1)
      else []

mutual

/-- What two readings have in common: a string that is not the same in both stands for no text. -/
def common : Json → Json → Json
  | .text s, .text t => if s = t then .text s else .illegible
  | .list items closed, .list others _ => .list (commonItems items others) closed
  | .object members closed, .object others _ => .object (commonMembers members others) closed
  | json, _ => json

def commonItems : List Json → List Json → List Json
  | item :: items, other :: others => item.common other :: commonItems items others
  | items, _ => items

def commonMembers :
    List (Option String × Json) → List (Option String × Json) → List (Option String × Json)
  | (key, value) :: members, (otherKey, other) :: others =>
      (if key = otherKey then key else none, value.common other) :: commonMembers members others
  | members, _ => members

end

/-- The first value of bytes.  What stands for a byte that is part of no character matters in
strings only, so two readings with different characters in its place show which strings have one. -/
def readBytes (bytes : ByteArray) : Json :=
  let readWith := fun stray => (readChars (charsFrom stray bytes bytes.size 0)).1
  (readWith '\ufffd').common (readWith '\ufffe')

mutual

theorem common_self : ∀ json : Json, json.common json = json
  | .null => rfl
  | .bool _ => rfl
  | .number _ => rfl
  | .text _ => if_pos rfl
  | .illegible => rfl
  | .list items closed => congrArg (Json.list · closed) (commonItems_self items)
  | .object members closed => congrArg (Json.object · closed) (commonMembers_self members)
  | .broken => rfl

theorem commonItems_self : ∀ items : List Json, commonItems items items = items
  | [] => rfl
  | item :: items => by rw [commonItems, common_self item, commonItems_self items]

theorem commonMembers_self :
    ∀ members : List (Option String × Json), commonMembers members members = members
  | [] => rfl
  | (key, value) :: members => by
      rw [commonMembers, if_pos rfl, common_self value, commonMembers_self members]

end

theorem utf8DecodeChar?_behind (front : List Char) (c : Char) (cs : List Char) :
    (front ++ c :: cs).utf8Encode.utf8DecodeChar? front.utf8Encode.size = some c := by
  rw [ByteArray.utf8DecodeChar?_eq_utf8DecodeChar?_extract, List.utf8Encode_append,
    ByteArray.extract_append_eq_right rfl ByteArray.size_append,
    List.utf8DecodeChar?_utf8Encode_cons]

theorem size_utf8Encode_cons (c : Char) (cs : List Char) :
    (c :: cs).utf8Encode.size = c.utf8Size + cs.utf8Encode.size := by
  rw [List.utf8Encode_cons, ByteArray.size_append, List.utf8Encode_singleton, List.size_toByteArray,
    String.length_utf8EncodeChar]

/-- The characters of a text are found from any of them on. -/
theorem charsFrom_utf8Encode (stray : Char) (front cs : List Char) {count : Nat}
    (h : cs.utf8Encode.size ≤ count) :
    charsFrom stray (front ++ cs).utf8Encode count front.utf8Encode.size = cs := by
  induction cs generalizing front count with
  | nil =>
      cases count with
      | zero => rfl
      | succ count => rw [charsFrom, List.append_nil, if_neg (Nat.lt_irrefl _)]
  | cons c cs ih =>
      have hsize := size_utf8Encode_cons c cs
      have hpos := c.utf8Size_pos
      cases count with
      | zero => omega
      | succ count =>
          have hbehind : (front ++ [c]).utf8Encode.size = front.utf8Encode.size + c.utf8Size := by
            rw [List.utf8Encode_append, ByteArray.size_append, size_utf8Encode_cons]
            rfl
          have hinside : front.utf8Encode.size < (front ++ c :: cs).utf8Encode.size := by
            rw [List.utf8Encode_append, ByteArray.size_append]
            omega
          have hrest := @ih (front ++ [c]) count (by omega)
          rw [List.append_assoc, List.singleton_append, hbehind] at hrest
          rw [charsFrom, if_pos hinside, utf8DecodeChar?_behind]
          exact congrArg (c :: ·) hrest

/-- The bytes of a text are read as the text is. -/
theorem readBytes_toUTF8 (text : String) : readBytes text.toUTF8 = (read text).1 := by
  have hutf8 : text.toUTF8 = text.toList.utf8Encode := by
    rw [String.toUTF8_eq_toByteArray, String.utf8Encode_toList]
  have hchars : ∀ stray, charsFrom stray text.toUTF8 text.toUTF8.size 0 = text.toList := by
    intro stray
    rw [hutf8]
    exact charsFrom_utf8Encode stray [] text.toList (Nat.le_refl _)
  simp only [readBytes, hchars, common_self]
  rfl

/-- A byte that is part of no character: in a string, in a member, and between the tokens. -/
example :
    readBytes ⟨#[0x5B, 0x22, 0x61, 0xFF, 0x22, 0x2C, 0x37, 0x5D]⟩ =
        .list [.illegible, .ofInt 7] true ∧
      readBytes ⟨#[0x5B, 0x37, 0xFF, 0x5D]⟩ = .list [.ofInt 7] false := by
  constructor
  · cbv
  · cbv

end Json

end LanguageBlueprint
