/-
  LanguageBlueprint/Generation/Pack.lean
  ======================================
  **Packing a language.**  The files of a language are packed under one root
  directory, the slug of its name.  A path has to stay below the root and may be
  packed once; the first file in order that breaks a rule is reported.
-/
import LanguageBlueprint.Exchange.Message
import LanguageBlueprint.Text.Slug

namespace LanguageBlueprint

open Text

namespace Archive

/-- What a file system takes a path to be made of. -/
inductive PathComponent where
  | root
  | here
  | above
  | name (chars : List Char)
deriving Repr

namespace PathComponent

def isName : PathComponent → Bool
  | name _ => true
  | _ => false

/-- The component for a piece between slashes; nothing and a single dot are passed over. -/
def ofPiece? : List Char → Option PathComponent
  | [] => none
  | ['.'] => none
  | ['.', '.'] => some above
  | piece => some (name piece)

/-- The component that only the beginning of a path can give. -/
def ofStart : List (List Char) → List PathComponent
  | [] :: _ :: _ => [root]
  | ['.'] :: _ => [here]
  | _ => []

end PathComponent

/-- The components of a path: repeated slashes and slashes at the end do not count, nor do single
dots but at the beginning. -/
def components (path : String) : List PathComponent :=
  let pieces := path.toList.splitOn '/'
  PathComponent.ofStart pieces ++ pieces.filterMap PathComponent.ofPiece?

/-- Whether a path has only plain names between its slashes, and no backslash, and a file system
sees only names in it too. -/
def isRelativePath (path : String) : Bool :=
  !path.toList.contains '\\' &&
  (path.toList.splitOn '/').all
    (fun part => !part.isEmpty && part != ['.'] && part != ['.', '.']) &&
  (components path).all PathComponent.isName

/-- The name of a file inside the archive. -/
def entryPath (language path : String) : String := slug language ++ "/" ++ path

/-- The entries for the files, after entries with the given paths. -/
def entriesAfter (language : String) (packed : List String) :
    List Artifact → Except Failure (List Artifact)
  | [] => .ok []
  | artifact :: artifacts =>
      let path := entryPath language artifact.path
      if !isRelativePath artifact.path then .error (.generation (.escapingPath artifact.path))
      else if packed.contains path then .error (.generation (.repeatedEntry path))
      else do
        let entries ← entriesAfter language (path :: packed) artifacts
        return ⟨path, artifact.contents⟩ :: entries

def pack (language : String) (artifacts : List Artifact) : Except Failure Archive :=
  if artifacts.isEmpty then .error (.emptyArchive language)
  else do
    let entries ← entriesAfter language [] artifacts
    return ⟨nameFor language, .entries entries⟩

end Archive

end LanguageBlueprint
