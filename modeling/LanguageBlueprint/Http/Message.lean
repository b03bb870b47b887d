/-
  LanguageBlueprint/Http/Message.lean
  ===================================
  **Requests and responses.**  A request asks for a target, the path and perhaps
  a query, with one of the methods, and may carry a body with its media type.  A
  response has a status and a body: JSON, an archive under the name it is to be
  saved as, or any other text.

  A media type is a type and a subtype with a slash between them, and perhaps
  parameters behind semicolons.  A body counts as JSON when its type is
  `application` and its subtype, or the suffix of the subtype behind the last plus
  sign, is `json`, in any case.
-/
import LanguageBlueprint.Exchange.Message

namespace LanguageBlueprint

namespace Http

/-- What a request wants done. -/
inductive Method where
  | get | head | post | put | delete | options | other
deriving DecidableEq, Repr

structure Request where
  method : Method
  target : List Char
  mediaType : Option String := none
  body : ByteArray := .empty
deriving DecidableEq

inductive Body where
  | json (text : String)
  | archive (disposition : String) (content : ArchiveContent)
  | plain (text : String)
deriving DecidableEq

structure Response where
  status : Nat
  body : Body
deriving DecidableEq

def Response.isSuccess (response : Response) : Bool :=
  200 ≤ response.status && response.status < 300

/-- The text of a body; that of an archive is of no use. -/
def Body.text : Body → String
  | .json text => text
  | .archive _ _ => ""
  | .plain text => text

def Body.archiveContent : Body → ArchiveContent
  | .json text => .bytes text.toUTF8
  | .archive _ content => content
  | .plain text => .bytes text.toUTF8

def jsonType : String := "application/json"

/-! ### Media types -/

def isTokenChar (c : Char) : Bool :=
  c.isAlphanum || "!#$%&'*+-.^_\x60|~".toList.contains c

/-- Whether a character of a header can be shown: ASCII and no control, or a tab. -/
def isHeaderChar (c : Char) : Bool := c == '\t' || (32 ≤ c.toNat && c.toNat < 127)

def isQuotedChar (c : Char) : Bool := 31 < c.toNat && c.toNat != 127

/-- What is left of the parameters behind a quoted value: nothing, or what follows a semicolon. -/
def afterQuoted (cs : List Char) : Option (List Char) :=
  match cs.dropWhile (· == ' ') with
  | [] => some []
  | ';' :: rest => some rest
  | _ => none

/-- The end of a quoted value that has begun: its closing quote is not its first character. -/
def skipQuoted : (first : Bool) → List Char → Option (List Char)
  | _, [] => none
  | first, c :: cs =>
      if c == '"' && !first then afterQuoted cs
      else if isQuotedChar c then skipQuoted false cs
      else none

/-- The end of a value: it is a token or a quoted text. -/
def skipValue (cs : List Char) : Option (List Char) :=
  match cs with
  | '"' :: rest => skipQuoted true rest
  | _ =>
      let value := cs.takeWhile isTokenChar
      match cs.dropWhile isTokenChar with
      | [] => some []
      | ';' :: rest => if value.isEmpty then none else some rest
      | _ => none

/-- The end of one parameter, a name and a value. -/
def skipParameter (cs : List Char) : Option (List Char) :=
  let name := cs.takeWhile isTokenChar
  match cs.dropWhile isTokenChar with
  | '=' :: rest => if name.isEmpty then none else skipValue rest
  | _ => none

/-- Whether parameters are well-formed; blanks may stand before each name.  `fuel` bounds their
number. -/
def areParameters : Nat → List Char → Bool
  | _, [] => true
  | 0, _ => false
  | fuel + 1, cs =>
      match cs.dropWhile (· == ' ') with
      | [] => true
      | start =>
          match skipParameter start with
          | some rest => areParameters fuel rest
          | none => false

/-- The subtype before its last plus sign, and the suffix behind it.  A plus sign at the beginning
is part of the name. -/
def splitSuffix (subtype : List Char) : List Char × Option (List Char) :=
  let reversed := subtype.reverse
  let suffix := (reversed.takeWhile (· != '+')).reverse
  match reversed.dropWhile (· != '+') with
  | [] => (subtype, none)
  | [_] => (subtype, none)
  | _ :: before => (before.reverse, some suffix)

def isJsonType (mediaType : String) : Bool :=
  let cs := mediaType.toList.map Char.toLower
  let type := cs.takeWhile isTokenChar
  match cs.dropWhile isTokenChar with
  | '/' :: rest =>
      let subtype := rest.takeWhile isTokenChar
      let parameters := rest.dropWhile isTokenChar
      let wellFormed := match parameters with
        | [] => true
        | ';' :: more => !subtype.isEmpty && areParameters more.length more
        | _ => false
      let (name, suffix) := splitSuffix subtype
      cs.all isHeaderChar && wellFormed && type == "application".toList &&
        (name == "json".toList || suffix == some "json".toList)
  | _ => false

end Http

end LanguageBlueprint
