/-
  LanguageBlueprint/Json/Codec.lean
  =================================
  **Codecs.**  A codec writes the values of a type as JSON and reads them back.
  Reading walks the tree from left to right and reports the first fault.  It
  carries a supply of fresh numbers, from which an identifier is made where one
  is left out, and the number of lists and objects that may still be nested.

  A record is described once, by its schema: its fields in their fixed order,
  each with its name, what is written for it, how it is read into the record,
  and what holds when it is left out.  A record is read from an object, in any
  order of the members and with unknown members skipped, or from the list of its
  fields.
-/
import LanguageBlueprint.Json.Fault
import LanguageBlueprint.Json.Read
import LanguageBlueprint.Json.Write

namespace LanguageBlueprint

/-- Reading, with a supply of fresh numbers. -/
abbrev Decode (α : Type) := StateT Nat (Except DecodeFault) α

namespace Decode

/-- The text is not JSON at this place. -/
def malformed {α : Type} : Decode α := throw .malformed

def unfit {α : Type} (misfit : Misfit) : Decode α := throw (.unfit misfit)

/-- The value is of another type than the one wanted. -/
def wrongType {α : Type} (json : Json) (wanted : String) : Decode α := do
  let found ← (json.found : Except DecodeFault String)
  unfit (.wrongType found wanted)

def fresh : Decode Nat := do
  let n ← get
  set (n + 1)
  return n

end Decode

/-- Writes the values of a type and reads them back; `depth` lists and objects may be nested in
the value that is read. -/
structure Codec (α : Type) where
  encode : α → Json
  decode (depth : Nat) (json : Json) : Decode α

namespace Codec

def text : Codec String where
  encode s := .text s
  decode _ json :=
    match json with
    | .text s => return s
    | other => Decode.wrongType other "a string"

def bool : Codec Bool where
  encode b := .bool b
  decode _ json :=
    match json with
    | .bool b => return b
    | other => Decode.wrongType other "a boolean"

def int64 : Codec Int64 where
  encode n := .ofInt n.toInt
  decode _ json :=
    match json with
    | .number numeral =>
        match numeral.value? with
        | some (.integer n) =>
            if Number.fitsInt64 n then return Int64.ofInt n else Decode.unfit (.wrongInteger n)
        | _ => Decode.wrongType json "i64"
    | other => Decode.wrongType other "i64"

/-- Values that may be absent, written as null. -/
def option {α : Type} (codec : Codec α) : Codec (Option α) where
  encode := Json.ofOption codec.encode
  decode depth json :=
    match json with
    | .null => return none
    | other => some <$> codec.decode depth other

def decodeItems {α : Type} (codec : Codec α) (depth : Nat) : List Json → Decode (List α)
  | [] => return []
  | item :: items => do
      let first ← codec.decode depth item
      let others ← decodeItems codec depth items
      return first :: others

def list {α : Type} (codec : Codec α) : Codec (List α) where
  encode as := .ofList (as.map codec.encode)
  decode depth json :=
    match json with
    | .list items closed =>
        match depth with
        | 0 => Decode.malformed
        | depth + 1 => do
            let as ← decodeItems codec depth items
            if closed then return as else Decode.malformed
    | other => Decode.wrongType other "a sequence"

/-- The codec of a type that is written like another one. -/
def map {α β : Type} (codec : Codec α) (view : β → α) (make : α → β) : Codec β where
  encode b := codec.encode (view b)
  decode depth json := make <$> codec.decode depth json

def word {α : Type} [Vocabulary α] : Codec α where
  encode a := .text (Vocabulary.word a)
  decode depth json := do
    match Vocabulary.ofText (← text.decode depth json) with
    | .ok a => return a
    | .error unknown => Decode.unfit (.unknownWord unknown)

/-- Optional words of a vocabulary; a blank text chooses nothing. -/
def optionalWord {α : Type} [Vocabulary α] : Codec (Option α) where
  encode := Json.ofOption (fun a => .text (Vocabulary.word a))
  decode depth json := do
    match ← (option text).decode depth json with
    | none => return none
    | some s =>
        match Vocabulary.ofOptionalText s with
        | .ok choice => return choice
        | .error unknown => Decode.unfit (.unknownWord unknown)

end Codec

/-! ### Records -/

/-- What holds for a field that is left out. -/
inductive Absence (ρ : Type) where
  /-- The record is refused. -/
  | refused
  /-- The field has the value of the blank record. -/
  | blank
  /-- The field is made from a fresh number. -/
  | filled (fill : Nat → ρ → ρ)

/-- A field of a record: its name, what is written for it, how its value changes the record that
is being read, and what holds when it is left out. -/
structure Field (ρ : Type) where
  name : String
  write : ρ → Json
  read (depth : Nat) (json : Json) : Decode (ρ → ρ)
  absence : Absence ρ

/-- A field that holds a value with a codec. -/
def Field.of {ρ α : Type} (name : String) (codec : Codec α) (get : ρ → α) (put : α → ρ → ρ)
    (absence : Absence ρ) : Field ρ where
  name := name
  write r := codec.encode (get r)
  read depth json := put <$> codec.decode depth json
  absence := absence

/-- The description of a record type: what complaints call it, the record before anything is read,
and the fields in their order. -/
structure Schema (ρ : Type) where
  name : String
  blank : ρ
  fields : List (Field ρ)

namespace Schema

variable {ρ : Type}

def encode (schema : Schema ρ) (r : ρ) : Json :=
  .ofMembers (schema.fields.map (fun field => (field.name, field.write r)))

/-- Completes a record in which the named fields have been read. -/
def complete (seen : List String) : List (Field ρ) → ρ → Decode ρ
  | [], r => return r
  | field :: fields, r =>
      if seen.contains field.name then complete seen fields r
      else
        match field.absence with
        | .refused => Decode.unfit (.missingField field.name)
        | .blank => complete seen fields r
        | .filled fill => do complete seen fields (fill (← Decode.fresh) r)

def decodeMembers (schema : Schema ρ) (depth : Nat) (closed : Bool) (seen : List String) (r : ρ) :
    List (Option String × Json) → Decode ρ
  | [] => if closed then complete seen schema.fields r else Decode.malformed
  | (none, _) :: _ => Decode.malformed
  | (some key, value) :: members =>
      match schema.fields.find? (fun field => field.name == key) with
      | some field =>
          if seen.contains key then Decode.unfit (.duplicateField key)
          else do
            let change ← field.read depth value
            decodeMembers schema depth closed (key :: seen) (change r) members
      | none =>
          if value.isComplete then decodeMembers schema depth closed seen r members
          else Decode.malformed

/-- Completes a record of which only the first fields stood in the list; `index` is the place of
the next field. -/
def completeTail (schema : Schema ρ) : Nat → List (Field ρ) → ρ → Decode ρ
  | _, [], r => return r
  | index, field :: fields, r =>
      match field.absence with
      | .refused => Decode.unfit (.wrongLength index schema.name schema.fields.length)
      | .blank => completeTail schema (index + 1) fields r
      | .filled fill => do completeTail schema (index + 1) fields (fill (← Decode.fresh) r)

/-- Reads the items of a list as the fields in their order; `index` is the place of the next
field. -/
def decodeItems (schema : Schema ρ) (depth : Nat) (closed : Bool) :
    Nat → List (Field ρ) → List Json → ρ → Decode ρ
  | index, fields, [], r =>
      if closed then completeTail schema index fields r else Decode.malformed
  | _, [], _ :: _, _ => Decode.malformed
  | index, field :: fields, item :: items, r => do
      let change ← field.read depth item
      decodeItems schema depth closed (index + 1) fields items (change r)

/-- Reads a record from an object or from a list. -/
def decode (schema : Schema ρ) (depth : Nat) (json : Json) : Decode ρ :=
  match json, depth with
  | .object members closed, depth + 1 =>
      schema.decodeMembers depth closed [] schema.blank members
  | .list items closed, depth + 1 =>
      schema.decodeItems depth closed 0 schema.fields items schema.blank
  | .object _ _, 0 => Decode.malformed
  | .list _ _, 0 => Decode.malformed
  | other, _ => Decode.wrongType other ("struct " ++ schema.name)

def codec (schema : Schema ρ) : Codec ρ where
  encode := schema.encode
  decode := schema.decode

end Schema

/-! ### Whole texts -/

namespace Codec

/-- How many lists and objects may be nested in a value that is kept. -/
def maxDepth : Nat := 127

/-- Reads a value that is already a tree. -/
def ofJson {α : Type} (codec : Codec α) (json : Json) : Decode α := codec.decode maxDepth json

/-- Reads the first value of bytes, whatever follows it. -/
def ofBytesStart {α : Type} (codec : Codec α) (bytes : ByteArray) : Decode α :=
  codec.ofJson (Json.readBytes bytes)

/-- Reads a text that holds one value and nothing else. -/
def ofText {α : Type} (codec : Codec α) (text : String) : Decode α := do
  let (json, rest) := Json.read text
  let a ← codec.ofJson json
  if (rest.map Json.isAllSpace).getD false then return a else Decode.malformed

def compact {α : Type} (codec : Codec α) (a : α) : String := (codec.encode a).compact

end Codec

end LanguageBlueprint
