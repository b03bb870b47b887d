/-
  LanguageBlueprint/Url/Basic.lean
  ================================
  **Service addresses.**  The address of a service is a URL with a hierarchical
  path: a scheme, perhaps an authority, the segments of the path, and perhaps a
  query and a fragment, each part in its encoded form.  Each part has its own set
  of characters that have to be percent-encoded; each set holds the controls and
  everything outside ASCII.
-/
import LanguageBlueprint.Text.Percent

namespace LanguageBlueprint

/-- Why a text is not the address of a service.  An address without a hierarchical path is given in
its usual form. -/
inductive UrlFault where
  | relative
  | emptyHost
  | invalidPort
  | invalidDomain
  | invalidHostCharacter
  | invalidIpv4
  | invalidIpv6
  | notABase (address : String)
deriving DecidableEq, Repr

def UrlFault.message : UrlFault → String
  | .relative => "relative URL without a base"
  | .emptyHost => "empty host"
  | .invalidPort => "invalid port number"
  | .invalidDomain => "invalid international domain name"
  | .invalidHostCharacter => "invalid domain character"
  | .invalidIpv4 => "invalid IPv4 address"
  | .invalidIpv6 => "invalid IPv6 address"
  | .notABase _ => "cannot be a base"

/-- Who is addressed: the user, the host and the port, each as it is written. -/
structure Authority where
  user : List Char := []
  host : List Char
  port : Option Nat := none
deriving DecidableEq, Repr

structure Url where
  scheme : List Char
  authority : Option Authority
  segments : List (List Char)
  query : Option (List Char) := none
  fragment : Option (List Char) := none
deriving DecidableEq, Repr

/-- How a scheme treats its addresses. -/
inductive SchemeKind where
  | web | file | other
deriving DecidableEq, Repr

def SchemeKind.of (scheme : List Char) : SchemeKind :=
  if ["http", "https", "ws", "wss", "ftp"].contains (String.ofList scheme) then .web
  else if String.ofList scheme = "file" then .file
  else .other

/-- Whether a backslash separates segments like a slash. -/
def SchemeKind.isSpecial : SchemeKind → Bool
  | .other => false
  | _ => true

def defaultPort (scheme : List Char) : Option Nat :=
  match String.ofList scheme with
  | "http" => some 80
  | "ws" => some 80
  | "https" => some 443
  | "wss" => some 443
  | "ftp" => some 21
  | _ => none

namespace Url

/-- The path: a slash before every segment. -/
def pathChars (url : Url) : List Char := url.segments.flatMap ('/' :: ·)

def authorityChars (authority : Authority) : List Char :=
  authority.user ++ authority.host ++
  (match authority.port with
   | some port => ':' :: Nat.toDigits 10 port
   | none => [])

/-- A part behind its mark, if there is one. -/
def markedChars (mark : Char) : Option (List Char) → List Char
  | some part => mark :: part
  | none => []

/-- The path and the query, as a server is asked for them. -/
def targetChars (url : Url) : List Char := url.pathChars ++ markedChars '?' url.query

/-- The whole address. -/
def text (url : Url) : String :=
  let path := url.pathChars
  let place := match url.authority with
    | some authority => '/' :: '/' :: authorityChars authority
    | none => match path with
      -- a dot keeps the path from being taken for an authority
      | '/' :: '/' :: _ => ['/', '.']
      | _ => []
  String.ofList (url.scheme ++ ':' :: (place ++ path ++ markedChars '?' url.query ++
    markedChars '#' url.fragment))

/-! ### Characters that stand for themselves -/

/-- Whether a character is ASCII and no control. -/
def keepInHost (c : Char) : Bool := 0x20 ≤ c.toNat && c.toNat < 0x7F

def keepInFragment (c : Char) : Bool :=
  keepInHost c && !([' ', '"', '<', '>', '\x60'].contains c)

def keepInPath (c : Char) : Bool :=
  keepInFragment c && !(['#', '?', '\x7b', '\x7d'].contains c)

def keepInUser (c : Char) : Bool :=
  keepInPath c && !(['/', ':', ';', '=', '@', '[', '\\', ']', '^', '|'].contains c)

def keepInQuery (kind : SchemeKind) (c : Char) : Bool :=
  keepInHost c && !([' ', '"', '#', '<', '>'].contains c) && !(kind.isSpecial && c == '\'')

/-- Whether a character may stand in a segment that is pushed onto a path as a whole. -/
def keepInSegment (kind : SchemeKind) (c : Char) : Bool :=
  keepInPath c && !(['/', '%'].contains c) && !(kind.isSpecial && c == '\\')

/-- Whether a character is passed over wherever it stands: tabs and line breaks are. -/
def isPassedOver (c : Char) : Bool := c == '\t' || c == '\n' || c == '\r'

def passOver (cs : List Char) : List Char := cs.filter (fun c => !isPassedOver c)

end Url

end LanguageBlueprint
