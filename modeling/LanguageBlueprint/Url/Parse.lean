/-
  LanguageBlueprint/Url/Parse.lean
  ================================
  **Reading addresses.**  An address is read from left to right: the scheme, the
  authority behind its slashes, the path up to a question mark or a number sign,
  the query and the fragment.  Blanks and controls at the ends are taken off, and
  tabs and line breaks are passed over wherever they stand.
-/
import LanguageBlueprint.Url.Host
import LanguageBlueprint.Url.Path

namespace LanguageBlueprint

open Text

namespace Url

/-- The text without controls and blanks at its ends. -/
def trimControls (cs : List Char) : List Char :=
  let isOuter := fun c : Char => c.toNat ≤ 0x20
  ((cs.dropWhile isOuter).reverse.dropWhile isOuter).reverse

def isSchemeChar (c : Char) : Bool := c.isAlphanum || c == '+' || c == '-' || c == '.'

/-- The scheme in lower case, and what follows its colon. -/
def splitScheme (cs : List Char) : Option (List Char × List Char) :=
  match cs with
  | [] => none
  | first :: _ =>
      if first.isAlpha then
        let isPart := fun c => isSchemeChar c || isPassedOver c
        match cs.dropWhile isPart with
        | ':' :: rest => some ((passOver (cs.takeWhile isPart)).map Char.toLower, rest)
        | _ => none
      else none

def endsAuthority (special : Bool) (c : Char) : Bool :=
  isSlash special c || c == '?' || c == '#'

/-! ### What follows the path -/

/-- What stands before the query and the fragment, the query, and the fragment. -/
def splitTail (kind : SchemeKind) (cs : List Char) :
    List Char × Option (List Char) × Option (List Char) :=
  let beforeFragment := cs.takeWhile (· != '#')
  let fragment := match cs.dropWhile (· != '#') with
    | _ :: rest => some (percentEncode keepInFragment (passOver rest))
    | [] => none
  let query := match beforeFragment.dropWhile (· != '?') with
    | _ :: rest => some (percentEncode (keepInQuery kind) (passOver rest))
    | [] => none
  (beforeFragment.takeWhile (· != '?'), query, fragment)

/-! ### The authority -/

def splitLast (mark : Char) (cs : List Char) : Option (List Char × List Char) :=
  let reversed := cs.reverse
  match reversed.dropWhile (· != mark) with
  | [] => none
  | _ :: before => some (before.reverse, (reversed.takeWhile (· != mark)).reverse)

/-- The user name and the password with their marks, encoded. -/
def userChars (cs : List Char) : List Char :=
  let name := percentEncode keepInUser (cs.takeWhile (· != ':'))
  let password := percentEncode keepInUser ((cs.dropWhile (· != ':')).drop 1)
  if name.isEmpty && password.isEmpty then []
  else name ++ (if password.isEmpty then [] else ':' :: password) ++ ['@']

/-- Divides a host from its port at the first colon outside brackets. -/
def splitPort (inside : Bool) : List Char → List Char × Option (List Char)
  | [] => ([], none)
  | c :: cs =>
      if c == ':' && !inside then ([], some cs)
      else
        let within := if c == '[' then true else if c == ']' then false else inside
        let (host, port) := splitPort within cs
        (c :: host, port)

/-- The port, unless it is the usual one of the scheme. -/
def portOf (scheme cs : List Char) : Except UrlFault (Option Nat) :=
  if cs.isEmpty then .ok none
  else if !cs.all Char.isDigit then .error .invalidPort
  else
    let n := Nat.ofDigitChars 10 cs 0
    if n > 65535 then .error .invalidPort
    else .ok (if defaultPort scheme = some n then none else some n)

/-- Divides a port from a path that begins with a backslash. -/
def splitBackslash (cs : List Char) : List Char × List Char :=
  (cs.takeWhile (· != '\\'), cs.dropWhile (· != '\\'))

/-- Reads an authority, and what stands behind its port; `followed` tells whether anything stands
behind the text. -/
def authorityOf (scheme : List Char) (kind : SchemeKind) (followed : Bool) (cs : List Char) :
    Except UrlFault (Authority × List Char) := do
  let (user, hostAndPort) := (splitLast '@' cs).getD ([], cs)
  let bareMark := user.isEmpty && (splitLast '@' cs).isSome
  -- a user needs a host, and so does a mark for a user in front of a path
  if hostAndPort.isEmpty && (!(userChars user).isEmpty || (bareMark && followed)) then
    throw .emptyHost
  let (hostText, port) := splitPort false hostAndPort
  if hostText.isEmpty && (kind.isSpecial || port.isSome) then throw .emptyHost
  let host ← if kind.isSpecial then webHost hostText else otherHost hostText
  let (digits, rest) := splitBackslash (port.getD [])
  let port ← portOf scheme digits
  return (⟨userChars user, host, port⟩, rest)

/-- The host of a file address: the local host is not written. -/
def fileAuthority (cs : List Char) : Except UrlFault Authority :=
  if cs.isEmpty then .ok { host := [] }
  else
    match webHost cs with
    | .ok host => .ok { host := if host = "localhost".toList then [] else host }
    | .error fault => .error fault

/-! ### Addresses -/

/-- An address whose authority begins here. -/
def afterSlashes (scheme : List Char) (kind : SchemeKind) (cs : List Char) :
    Except UrlFault Url := do
  let (place, query, fragment) := splitTail kind cs
  let ends := endsAuthority kind.isSpecial
  let path := place.dropWhile (fun c => !ends c)
  let followed := !path.isEmpty || query.isSome || fragment.isSome
  let (authority, rest) ← authorityOf scheme kind followed (place.takeWhile (fun c => !ends c))
  let segments := pathOf kind (rest ++ path)
  return { scheme := scheme, authority := some authority, segments := segments,
           query := query, fragment := fragment }

/-- The host and the path of a file whose address goes on behind two slashes. -/
def filePlace (cs : List Char) : Except UrlFault (Authority × FilePath) := do
  let host := passOver (cs.takeWhile (fun c => !isSlash true c))
  if isDrive host then return ({ host := [] }, resolveFilePath cs)
  let authority ← fileAuthority host
  let rest := cs.dropWhile (fun c => !isSlash true c)
  -- the path of a local file begins with the slash behind the host
  let path := resolveFilePath (if authority.host.isEmpty then rest else rest.drop 1)
  return (if path.onDrive then { host := [] } else authority, path)

/-- An address of a file: two slashes stand before a host, other slashes before the path. -/
def fileUrl (cs : List Char) : Except UrlFault Url := do
  let (place, query, fragment) := splitTail .file cs
  let start := place.dropWhile isPassedOver
  let (authority, path) ←
    match start with
    | [] => pure ({ host := [] }, resolveFilePath [])
    | c :: rest =>
        if !isSlash true c then pure ({ host := [] }, resolveFilePath start)
        else
          match rest.dropWhile isPassedOver with
          | [] => pure ({ host := [] }, resolveFilePath [])
          | d :: more =>
              if isSlash true d then filePlace more
              else pure ({ host := [] }, resolveFilePath (d :: more))
  return { scheme := "file".toList, authority := some authority, segments := path.segments,
           query := query, fragment := fragment }

/-- An address of a scheme that is not of the web: without slashes there is no hierarchy. -/
def otherUrl (scheme cs : List Char) : Except UrlFault Url :=
  match cs with
  | '/' :: '/' :: rest => afterSlashes scheme .other rest
  | '/' :: rest =>
      let (place, query, fragment) := splitTail .other rest
      .ok { scheme := scheme, authority := none, segments := resolvePath .other place,
            query := query, fragment := fragment }
  | _ =>
      let (place, query, fragment) := splitTail .other cs
      .error (.notABase (String.ofList (scheme ++ ':' :: (percentEncode keepInHost place ++
        markedChars '?' query ++ markedChars '#' fragment))))

def parse (text : String) : Except UrlFault Url :=
  match splitScheme (trimControls text.toList) with
  | none => .error .relative
  | some (scheme, rest) =>
      match SchemeKind.of scheme with
      | .web => afterSlashes scheme .web ((passOver rest).dropWhile (isSlash true))
      | .file => fileUrl rest
      | .other => otherUrl scheme (passOver rest)

/-! ### Longer paths -/

/-- The path without an empty last segment, unless that is all of it. -/
def dropTrailingSlash (segments : List (List Char)) : List (List Char) :=
  if segments.length > 1 && segments.getLast? = some [] then segments.dropLast else segments

/-- Appends a name as one segment.  A name of one or two dots appends nothing. -/
def appendName (kind : SchemeKind) (segments : List (List Char)) (name : String) :
    List (List Char) :=
  if name = "." || name = ".." then segments
  else
    let encode := percentEncode (keepInSegment kind)
    let start := if segments = [[]] then [] else segments
    -- what is left of the name without tabs and line breaks may still be dots
    match kind with
    | .file => dropEmptySegments (FilePath.push encode true ⟨start, false⟩ name.toList).segments
    | _ => pushSegment true start (encode (passOver name.toList))

/-- The address of a resource below a base address. -/
def endpoint (base : Url) (names : List String) : Url :=
  { base with segments :=
      names.foldl (appendName (SchemeKind.of base.scheme)) (dropTrailingSlash base.segments) }

end Url

end LanguageBlueprint
