/-
  LanguageBlueprint/Url/Domain.lean
  =================================
  **Domains.**  A domain is compared in its plain form: each character stands for
  itself or for others, the whole is composed, and the labels between the dots are
  written in ASCII.  A label with characters outside ASCII is written in Punycode
  behind `xn--`.  It does not begin with a mark, uses the invisible joiners only
  where they change a shape, and goes in one direction if the domain holds
  characters from right to left.

    * a label in ASCII without `xn--` is written as it is — `ofChars?_of_ascii`.
-/
import LanguageBlueprint.Unicode.Direction
import LanguageBlueprint.Unicode.Joining
import LanguageBlueprint.Unicode.Mark
import LanguageBlueprint.Unicode.Composition
import LanguageBlueprint.Url.DomainChar
import LanguageBlueprint.Url.Punycode

namespace LanguageBlueprint

open Unicode

namespace Url

/-! ### Labels -/

/-- A label: the characters that it stands for, and how it is written. -/
structure Label where
  shown : List Char
  written : List Char
deriving DecidableEq, Repr

def isAscii (c : Char) : Bool := c.toNat < 0x80

/-! ### Joiners -/

/-- Whether the first of some characters that is not transparent is joined to a side. -/
def joinsTo (side : Joining) (cs : List Char) : Bool :=
  match (cs.map (fun c => joining c.toNat)).dropWhile (· == .transparent) with
  | found :: _ => found == side || found == .dual
  | [] => false

/-- Whether every joiner follows a virama, or in the case of the one that parts letters stands
between letters that would be joined.  `before` is what stands before, in reverse. -/
def joinersFit (before : List Char) : List Char → Bool
  | [] => true
  | c :: cs =>
      (if c == '\u200c' || c == '\u200d' then
        match before with
        | [] => false
        | b :: _ =>
            isVirama b.toNat ||
            (c == '\u200c' && joinsTo .left before && joinsTo .right cs)
      else true) && joinersFit (c :: before) cs

/-! ### Directions -/

/-- Whether a text may stand in a label from left to right, from its second character on. -/
def leftToRightFits (cs : List Direction) : Bool :=
  cs.all (fun d => d == .left || d == .europeanDigit || d == .mark || d == .neutral) &&
  (match cs.reverse.dropWhile (· == .mark) with
   | last :: _ => last == .left || last == .europeanDigit
   | [] => true)

/-- Whether a text may stand in a label from right to left, from its second character on. -/
def rightToLeftFits (cs : List Direction) : Bool :=
  cs.all (fun d => d != .left) && !(cs.contains .europeanDigit && cs.contains .arabicDigit) &&
  (match cs.reverse.dropWhile (· == .mark) with
   | last :: _ => last == .right || last == .europeanDigit || last == .arabicDigit
   | [] => true)

namespace Label

def directions (label : Label) : List Direction := label.shown.map (fun c => direction c.toNat)

def goesLeft (label : Label) : Bool :=
  label.shown.any (fun c => !isAscii c &&
    (direction c.toNat == .right || direction c.toNat == .arabicDigit))

/-- Whether the characters of a label go in one direction, which its first one tells. -/
def isDirected (label : Label) : Bool :=
  match label.directions with
  | [] => true
  | .left :: others => leftToRightFits others
  | .right :: others => rightToLeftFits others
  | _ => false

def isFit (cs : List Char) : Bool :=
  !(cs.head?.any (fun c => isMark c.toNat)) && joinersFit [] cs

/-- The characters that are left when `xn--` is taken off. -/
def encodedPart? : List Char → Option (List Char)
  | 'x' :: 'n' :: '-' :: '-' :: cs => some cs
  | _ => none

/-- What a label in Punycode stands for: characters that stand for themselves, in their composed
form and not all in ASCII. -/
def decode? (cs : List Char) : Option (List Char) :=
  if !cs.all isAscii || cs.length > 2000 then none
  else
    match ofPunycode? cs with
    | none => none
    | some codes =>
        let shown := codes.map Char.ofNat
        if shown.all isPlain && composedForm shown == shown && !shown.all isAscii && isFit shown
        then some shown
        else none

/-- The label that characters in their plain and composed form are. -/
def ofChars? (cs : List Char) : Option Label :=
  match encodedPart? cs with
  | some encoded => (decode? encoded).map (fun shown => ⟨shown, cs⟩)
  | none =>
      if cs.all isAscii then some ⟨cs, cs⟩
      else if isFit cs && cs.length ≤ 1000 then some ⟨cs, "xn--".toList ++ punycode cs⟩
      else none

theorem ofChars?_of_ascii {cs : List Char} (h : ∀ c ∈ cs, c.toNat < 0x80)
    (hplain : encodedPart? cs = none) : ofChars? cs = some ⟨cs, cs⟩ := by
  have hall : cs.all isAscii = true :=
    List.all_eq_true.mpr (fun c hc => by simpa [isAscii] using h c hc)
  simp [ofChars?, hplain, hall]

end Label

/-! ### Domains -/

def isDomainBreaker (c : Char) : Bool :=
  c.toNat ≤ 0x20 || c.toNat = 0x7F ||
  ['#', '%', '/', ':', '<', '>', '?', '@', '[', '\\', ']', '^', '|'].contains c

/-- The labels of a domain, if all its characters may occur in one. -/
def labels? (name : List Char) : Option (List Label) :=
  match name.mapM plainForm? with
  | none => none
  | some forms =>
      let plain := composedForm forms.flatten
      if plain.any isDomainBreaker then none else (plain.splitOn '.').mapM Label.ofChars?

/-- A domain in ASCII and in lower case.  If a label goes from right to left, then each has to go
in one direction. -/
def domain? (name : List Char) : Option (List Char) :=
  match labels? name with
  | none => none
  | some labels =>
      if !labels.any Label.goesLeft || labels.all Label.isDirected then
        some (['.'].intercalate (labels.map Label.written))
      else none

end Url

end LanguageBlueprint
