/-
  LanguageBlueprint/Failure.lean
  ==============================
  **Why an operation fails.**  Every way of failing is a cause of its own, with
  what it concerns.  A cause that another service reported is kept as its text.
  Each failure has a short code for programs and a message for people.
-/
import LanguageBlueprint.Review.Violation

namespace LanguageBlueprint

inductive Missing where
  | language (name : String)
  | generatedLanguage (name : String)
  | reported (text : String)
deriving DecidableEq, Repr

/-- Why nothing could be generated or packed. -/
inductive GenerationFault where
  | nameless
  | badExtension (extension : String)
  | escapingPath (path : String)
  | repeatedEntry (path : String)
  | reported (text : String)
deriving DecidableEq, Repr

/-- Why a service address or a setting is refused. -/
inductive ConfigFault where
  | invalidAddress (address reason : String)
  | baselessAddress (address : String)
  | unreadableFile
  | unfitSetting (key : String)
  | reported (text : String)
deriving DecidableEq, Repr

/-- Why the store could not write. -/
inductive StoreFault where
  | repeatedArtifact
  | reported (text : String)
deriving DecidableEq, Repr

/-- What is wrong with a record of the store. -/
inductive Corruption where
  | digestMismatch (name : String)
  | unknownExecution (name : String) (unknown : UnknownWord)
  | reported (text : String)
deriving DecidableEq, Repr

inductive Failure where
  | invalid (violations : List Violation)
  | generationInProgress (name : String)
  | notFound (missing : Missing)
  | nameTaken (name : String)
  | service (status : Nat) (detail : String)
  | transport (text : String)
  | generation (fault : GenerationFault)
  | emptyArchive (name : String)
  | config (fault : ConfigFault)
  | persistence (fault : StoreFault)
  | corruption (corruption : Corruption)
  | serialization (text : String)
  | invariant (text : String)
  | lock (text : String)
deriving DecidableEq, Repr

def Missing.message : Missing → String
  | .language name => "language '" ++ name ++ "'"
  | .generatedLanguage name => "generated language '" ++ name ++ "'"
  | .reported text => text

def GenerationFault.message : GenerationFault → String
  | .nameless => "cannot generate a language without a name"
  | .badExtension extension => "file extension '" ++ extension ++ "' is not a plain extension"
  | .escapingPath path => "artifact path '" ++ path ++ "' would escape the archive root"
  | .repeatedEntry path => "invalid Zip archive: Duplicate filename: " ++ path
  | .reported text => text

def ConfigFault.message : ConfigFault → String
  | .invalidAddress address reason => "invalid api url '" ++ address ++ "': " ++ reason
  | .baselessAddress address => "api url '" ++ address ++ "' cannot be a base"
  | .unreadableFile => "the configuration file cannot be read"
  | .unfitSetting key => "the value of '" ++ key ++ "' does not fit"
  | .reported text => text

def StoreFault.message : StoreFault → String
  | .repeatedArtifact => "UNIQUE constraint failed: Artifact.Language, Artifact.Path"
  | .reported text => text

def Corruption.message : Corruption → String
  | .digestMismatch name => "stored body of '" ++ name ++ "' does not match its digest"
  | .unknownExecution name unknown => "specification '" ++ name ++ "': " ++ unknown.message
  | .reported text => text

namespace Failure

/-- The short stable name of the failure. -/
def code : Failure → String
  | .invalid _ => "StructuralViolation"
  | .generationInProgress _ => "GenerationInProgress"
  | .notFound _ => "NotFound"
  | .nameTaken _ => "NameTaken"
  | .service _ _ => "CollaboratorError"
  | .transport _ => "TransportError"
  | .generation _ => "GenerationError"
  | .emptyArchive _ => "EmptyArchive"
  | .config _ => "ConfigError"
  | .persistence _ => "PersistenceError"
  | .corruption _ => "DataCorruption"
  | .serialization _ => "SerializationError"
  | .invariant _ => "InternalError"
  | .lock _ => "InternalError"

def message : Failure → String
  | .invalid violations =>
      "Specification rejected with " ++ toString violations.length ++ " violation(s): " ++
      String.intercalate "; " (violations.map Violation.detail)
  | .generationInProgress name => "Generation already in progress for '" ++ name ++ "'"
  | .notFound missing => "Not found: " ++ missing.message
  | .nameTaken name => "Name already taken: " ++ name
  | .service status detail => "Collaborator error " ++ toString status ++ ": " ++ detail
  | .transport text => "Transport error: " ++ text
  | .generation fault => "Generation error: " ++ fault.message
  | .emptyArchive name => "Empty archive returned for '" ++ name ++ "'"
  | .config fault => "Config error: " ++ fault.message
  | .persistence fault => "Persistence error: " ++ fault.message
  | .corruption cause => "Data corruption: " ++ cause.message
  | .serialization text => "Serialization error: " ++ text
  | .invariant text => "Internal invariant violated: " ++ text
  | .lock text => "Lock poisoned: " ++ text

/-- The findings that the failure carries. -/
def violations : Failure → List Violation
  | .invalid violations => violations
  | _ => []

/-- The HTTP status with which a service answers the failure. -/
def status : Failure → Nat
  | .invalid _ => 422
  | .notFound _ => 404
  | .generationInProgress _ => 409
  | .nameTaken _ => 409
  | _ => 500

end Failure

end LanguageBlueprint
