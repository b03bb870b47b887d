/-
  LanguageBlueprint/Url/Path.lean
  ===============================
  **Paths.**  A path is a list of segments.  A segment of one dot stands for the
  directory it is in, one of two dots for the directory above; neither leads out of
  a drive, which is a letter and a colon or a bar.

  The path of a file begins with at most one drive, always with a colon, and then
  belongs to no host.

    * dots lead nowhere above a drive                 — `shorten_drive`;
    * a segment that is not written as dots is kept   — `pushSegment_of_plain`.
-/
import LanguageBlueprint.Url.Basic

namespace LanguageBlueprint

open Text

namespace Url

/-! ### Dots -/

/-- A segment with its encoded dots, in either case, as dots. -/
def decodeDots : List Char → List Char
  | '%' :: '2' :: e :: rest =>
      if e == 'e' || e == 'E' then '.' :: decodeDots rest else '%' :: '2' :: decodeDots (e :: rest)
  | c :: rest => c :: decodeDots rest
  | [] => []

/-- Whether a segment stands for the directory it is in. -/
def isSingleDot (segment : List Char) : Bool := decodeDots segment == ['.']

/-- Whether a segment stands for the directory above. -/
def isDoubleDot (segment : List Char) : Bool := decodeDots segment == ['.', '.']

/-! ### Segments -/

/-- Whether a segment begins with a drive letter and its mark, and nothing else but a backslash
follows them. -/
def namesDrive (segment : List Char) : Bool :=
  match segment with
  | letter :: mark :: rest =>
      letter.isAlpha && (mark == ':' || mark == '|') && (rest.isEmpty || rest.head? == some '\\')
  | _ => false

/-- The path without its last segment, unless that names a drive. -/
def shorten (segments : List (List Char)) : List (List Char) :=
  if segments.getLast?.any namesDrive then segments else segments.dropLast

/-- A path after one more segment, in its encoded form; `last` tells whether it ends the path. -/
def pushSegment (last : Bool) (segments : List (List Char)) (segment : List Char) :
    List (List Char) :=
  if isDoubleDot segment then shorten segments ++ (if last then [[]] else [])
  else if isSingleDot segment then segments ++ (if last then [[]] else [])
  else segments ++ [segment]

theorem shorten_drive {segments : List (List Char)} {segment : List Char}
    (h : namesDrive segment = true) :
    shorten (segments ++ [segment]) = segments ++ [segment] := by
  simp [shorten, h]

theorem pushSegment_of_plain {last : Bool} {segments : List (List Char)} {segment : List Char}
    (hdouble : isDoubleDot segment = false) (hsingle : isSingleDot segment = false) :
    pushSegment last segments segment = segments ++ [segment] := by
  simp [pushSegment, hdouble, hsingle]

/-- Pushes segments, the last of which ends the path. -/
def pushEach {Path : Type} (push : Bool → Path → List Char → Path) (path : Path) :
    List (List Char) → Path
  | [] => path
  | [segment] => push true path segment
  | segment :: others => pushEach push (push false path segment) others

/-! ### Paths of files -/

def isDrive (segment : List Char) : Bool := segment.length == 2 && namesDrive segment

/-- A drive letter with its colon and what follows it, if only characters that are passed over keep
them apart. -/
def splitDrive (segment : List Char) : Option (List Char × List Char) :=
  match segment.dropWhile isPassedOver with
  | letter :: more =>
      match more.dropWhile isPassedOver with
      | ':' :: gap :: rest =>
          if letter.isAlpha && isPassedOver gap && rest.any (fun c => !isPassedOver c) then
            some ([letter, ':'], rest)
          else none
      | _ => none
  | [] => none

/-- The path of a file so far, and whether it begins with a drive; then it belongs to no host. -/
structure FilePath where
  segments : List (List Char) := []
  onDrive : Bool := false
deriving DecidableEq, Repr

/-- The path of a file after one more segment, as it is written.  Only the first can be a drive. -/
def FilePath.push (encode : List Char → List Char) (last : Bool) (path : FilePath)
    (written : List Char) : FilePath :=
  let segment := encode (passOver written)
  if path.segments.isEmpty then
    match splitDrive written with
    | some (drive, rest) =>
        -- the drive stays with its host, and what follows is a name even if it is written as dots
        { path with segments := [drive, encode (passOver rest)] }
    | none =>
        if isDrive segment then ⟨[segment.take 1 ++ [':']], true⟩
        else { path with segments := pushSegment last [] segment }
  else { path with segments := pushSegment last path.segments segment }

/-- The path of a file has no empty segments at its beginning. -/
def dropEmptySegments : List (List Char) → List (List Char)
  | [] => [[]]
  | [segment] => [segment]
  | segment :: segments =>
      if segment.isEmpty then dropEmptySegments segments else segment :: segments

/-! ### Written paths -/

/-- Whether a character is a slash, or a backslash where that counts as one. -/
def isSlash (special : Bool) (c : Char) : Bool := c == '/' || (special && c == '\\')

def splitPath (special : Bool) (cs : List Char) : List (List Char) :=
  (cs.map (fun c => if isSlash special c then '/' else c)).splitOn '/'

/-- The segments of a path without its first slash, after dots are resolved. -/
def resolvePath (kind : SchemeKind) (cs : List Char) : List (List Char) :=
  pushEach pushSegment [] ((splitPath kind.isSpecial cs).map (percentEncode keepInPath))

/-- The path of a file without its first slash, after dots are resolved. -/
def resolveFilePath (cs : List Char) : FilePath :=
  let path := pushEach (FilePath.push (percentEncode keepInPath)) {} (splitPath true cs)
  { path with segments := dropEmptySegments path.segments }

/-- The path of an address, whose scheme may ask for a path even if none is written. -/
def pathOf (kind : SchemeKind) (cs : List Char) : List (List Char) :=
  match cs with
  | [] => if kind.isSpecial then [[]] else []
  | c :: rest => resolvePath kind (if isSlash kind.isSpecial c then rest else cs)

end Url

end LanguageBlueprint
