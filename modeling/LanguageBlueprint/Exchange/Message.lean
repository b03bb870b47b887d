/-
  LanguageBlueprint/Exchange/Message.lean
  =======================================
  **What a client and a service tell each other.**  Acknowledgements, the lines of
  a listing, the request for a generation and its result, archives of generated
  files, and the report of a failure.

  There are seven requests, and each has its own kind of answer.  A service answers
  a request or fails, and either way goes over into a next state.  Any service can
  be made to write down what it is asked; it answers as before.

    * a service with a record  — `recorded_answer`, `recorded_state`.
-/
import LanguageBlueprint.Failure
import LanguageBlueprint.Time.Instant

namespace LanguageBlueprint

/-! ### Generated files -/

/-- Contents are compared byte by byte. -/
instance decidableEqContents : DecidableEq ByteArray := ByteArray.decEq

/-- A file addressed by its path below the root of the generated language. -/
structure Artifact where
  path : String
  contents : ByteArray
deriving DecidableEq

/-- A file that holds a text in UTF-8. -/
def Artifact.ofText (path text : String) : Artifact := ⟨path, text.toUTF8⟩

/-! ### Messages -/

structure Acknowledgement where
  message : String
deriving DecidableEq, Repr

/-- One line of the listing of stored blueprints. -/
structure Summary where
  name : String
  version : String
  description : String := ""
  execution : Execution
  updatedAt : Option Instant := none
deriving DecidableEq, Repr

/-- The line for a blueprint, without a time. -/
def Summary.ofBlueprint (b : Blueprint) : Summary where
  name := b.name
  version := b.version
  description := b.description
  execution := b.execution

/-- What is generated beside the description of the language. -/
structure GenerateOptions where
  examples : Bool := true
  documentation : Bool := true
deriving DecidableEq, Repr

structure GenerateRequest where
  blueprint : Blueprint
  options : GenerateOptions := {}
deriving DecidableEq, Repr

/-- What was generated: the paths in the order in which they were made. -/
structure GenerationResult where
  name : String
  execution : Execution
  files : List String
deriving DecidableEq, Repr

/-- What an archive holds: packed files, or bytes as a service sent them. -/
inductive ArchiveContent where
  | entries (artifacts : List Artifact)
  | bytes (data : ByteArray)
deriving DecidableEq

structure Archive where
  fileName : String
  content : ArchiveContent
deriving DecidableEq

namespace Archive

def nameFor (language : String) : String := language ++ ".zip"

/-- Whether the archive is empty.  A file of packed entries never is. -/
def isEmpty (archive : Archive) : Bool :=
  match archive.content with
  | .entries _ => false
  | .bytes data => data.isEmpty

end Archive

structure FailureReport where
  detail : String
  code : String
  violations : List Violation := []
deriving DecidableEq, Repr

def FailureReport.ofFailure (failure : Failure) : FailureReport where
  detail := failure.message
  code := failure.code
  violations := failure.violations

/-! ### Services -/

/-- What can be asked of a service. -/
inductive Request where
  | save (b : Blueprint)
  | fetch (name : String)
  | list
  | update (name : String) (b : Blueprint)
  | delete (name : String)
  | generate (request : GenerateRequest)
  | download (name : String)

abbrev Request.Answer : Request → Type
  | .save _ => Acknowledgement
  | .fetch _ => Blueprint
  | .list => List Summary
  | .update _ _ => Acknowledgement
  | .delete _ => Acknowledgement
  | .generate _ => GenerationResult
  | .download _ => Archive

/-- A service with states of type `σ`. -/
abbrev Service (σ : Type) := (request : Request) → σ → Except Failure request.Answer × σ

/-! ### Records of what is asked -/

/-- A request and its answer. -/
structure Turn where
  request : Request
  answer : Except Failure request.Answer

variable {σ : Type}

/-- The service with a record of what it receives, in the order in which it comes. -/
def recorded (service : Service σ) : Service (σ × List Turn) := fun request (s, turns) =>
  let outcome := service request s
  (outcome.1, (outcome.2, turns ++ [⟨request, outcome.1⟩]))

@[simp] theorem recorded_answer (service : Service σ) (request : Request) (s : σ)
    (turns : List Turn) : (recorded service request (s, turns)).1 = (service request s).1 := rfl

@[simp] theorem recorded_state (service : Service σ) (request : Request) (s : σ)
    (turns : List Turn) :
    (recorded service request (s, turns)).2 =
      ((service request s).2, turns ++ [⟨request, (service request s).1⟩]) := rfl

end LanguageBlueprint
