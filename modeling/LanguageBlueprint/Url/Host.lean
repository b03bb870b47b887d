/-
  LanguageBlueprint/Url/Host.lean
  ===============================
  **Hosts.**  The host of an address is a domain in lower case, an address of the
  fourth version of the Internet Protocol in any of its spellings, or one of the
  sixth version between brackets.  Schemes that are not of the web take any other
  host as it is.
-/
import LanguageBlueprint.Url.Domain
import LanguageBlueprint.Url.Basic

namespace LanguageBlueprint

namespace Url

def ofDigits (base : Nat) (digits : List Char) : Option Nat :=
  digits.foldl (fun sofar c => do
    let n ← sofar
    let d ← Text.percentDigit? c
    if d < base then some (n * base + d) else none) (some 0)

/-! ### Version four -/

/-- A part of a version four address: decimal, octal after a zero, hexadecimal after `0x`. -/
def ipv4Part (part : List Char) : Option Nat :=
  match part with
  | [] => none
  | '0' :: 'x' :: digits => ofDigits 16 digits
  | '0' :: 'X' :: digits => ofDigits 16 digits
  | '0' :: d :: digits => ofDigits 8 (d :: digits)
  | digits => ofDigits 10 digits

/-- The parts of a host between its dots, without an empty last one. -/
def dottedParts (host : List Char) : List (List Char) :=
  let parts := host.splitOn '.'
  if parts.getLast? = some [] && parts.length > 1 then parts.dropLast else parts

/-- Whether the last part of a host is a number, so that the host has to be an address. -/
def endsInNumber (host : List Char) : Bool :=
  match (dottedParts host).getLast? with
  | some part => (!part.isEmpty && part.all Char.isDigit) || (ipv4Part part).isSome
  | none => false

/-- The address written by at most four numbers, the last of which fills what is left. -/
def ipv4Value (parts : List (List Char)) : Option Nat := do
  let numbers ← parts.mapM ipv4Part
  let last ← numbers.getLast?
  let leading := numbers.dropLast
  let room := Nat.pow 256 (4 - leading.length)
  if numbers.length ≤ 4 && leading.all (· ≤ 255) && last < room then
    some (leading.foldl (fun sofar n => sofar * 256 + n) 0 * room + last)
  else none

def ipv4Chars (address : Nat) : List Char :=
  ['.'].intercalate
    ([16777216, 65536, 256, 1].map (fun unit => Nat.toDigits 10 (address / unit % 256)))

/-! ### Version six -/

def splitDoubleColon : List Char → Option (List Char × List Char)
  | ':' :: ':' :: rest => some ([], rest)
  | c :: rest => (splitDoubleColon rest).map (fun (left, right) => (c :: left, right))
  | [] => none

def ipv6Group (group : List Char) : Option Nat :=
  if group.isEmpty || group.length > 4 then none else ofDigits 16 group

/-- A decimal number below 256 without a leading zero. -/
def ipv4Byte (digits : List Char) : Option Nat :=
  if digits.isEmpty || !digits.all Char.isDigit || (digits.head? = some '0' && digits.length > 1)
  then none
  else (ofDigits 10 digits).filter (· ≤ 255)

/-- The last groups of a version six address, written as a version four address. -/
def embeddedIpv4 (group : List Char) : Option (List Nat) :=
  match (group.splitOn '.').mapM ipv4Byte with
  | some [a, b, c, d] => some [a * 256 + b, c * 256 + d]
  | _ => none

/-- The groups between single colons; only the last ones may be written as version four. -/
def ipv6Groups (final : Bool) : List (List Char) → Option (List Nat)
  | [] => some []
  | [group] =>
      if final && group.contains '.' then embeddedIpv4 group
      else (ipv6Group group).map ([·])
  | group :: groups => do
      let first ← ipv6Group group
      let others ← ipv6Groups final groups
      return first :: others

/-- The groups of a part of an address, which may be empty beside two colons. -/
def ipv6Side (final : Bool) (cs : List Char) : Option (List Nat) :=
  if cs.isEmpty then some [] else ipv6Groups final (cs.splitOn ':')

/-- The eight groups of a version six address; two colons stand for at least one group of zero. -/
def ipv6Value (cs : List Char) : Option (List Nat) :=
  match splitDoubleColon cs with
  | some (left, right) => do
      let before ← ipv6Side false left
      let after ← ipv6Side true right
      let missing := 8 - (before.length + after.length)
      if missing ≥ 1 then return before ++ List.replicate missing 0 ++ after else none
  | none => (ipv6Groups true (cs.splitOn ':')).filter (fun groups => groups.length == 8)

def zeroRun (groups : List Nat) : Nat := (groups.takeWhile (· == 0)).length

/-- The place and length of the first longest run of zeros from a place on. -/
def longestZeroRun (place : Nat) : List Nat → Nat × Nat
  | [] => (place, 0)
  | group :: groups =>
      let (later, length) := longestZeroRun (place + 1) groups
      let here := zeroRun (group :: groups)
      if here ≥ length then (place, here) else (later, length)

def groupChars (groups : List Nat) : List Char := [':'].intercalate (groups.map (Nat.toDigits 16))

/-- A version six address with its first longest run of at least two zero groups as two colons. -/
def ipv6Chars (groups : List Nat) : List Char :=
  let (place, length) := longestZeroRun 0 groups
  if length < 2 then groupChars groups
  else groupChars (groups.take place) ++ ':' :: ':' :: groupChars (groups.drop (place + length))

/-! ### Hosts -/

def bracketHost (cs : List Char) : Except UrlFault (List Char) :=
  if cs.getLast? ≠ some ']' then .error .invalidIpv6
  else
    match ipv6Value (cs.drop 1).dropLast with
    | some groups => .ok ('[' :: (ipv6Chars groups ++ [']']))
    | none => .error .invalidIpv6

def webHost (cs : List Char) : Except UrlFault (List Char) :=
  if cs.head? = some '[' then bracketHost cs
  else
    match (Text.percentDecode? cs).bind (fun name => domain? name.toList) with
    | none => .error .invalidDomain
    | some [] => .error .emptyHost
    | some host =>
        if endsInNumber host then
          match ipv4Value (dottedParts host) with
          | some address => .ok (ipv4Chars address)
          | none => .error .invalidIpv4
        else .ok host

def isHostBreaker (c : Char) : Bool :=
  ['\x00', '\t', '\n', '\r', ' ', '#', '/', ':', '<', '>', '?', '@', '[', '\\', ']', '^',
    '|'].contains c

def otherHost (cs : List Char) : Except UrlFault (List Char) :=
  if cs.head? = some '[' then bracketHost cs
  else if cs.any isHostBreaker then .error .invalidHostCharacter
  else .ok (Text.percentEncode keepInHost cs)

end Url

end LanguageBlueprint
