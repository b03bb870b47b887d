/-
  LanguageBlueprint/Exchange/Wire.lean
  ====================================
  **Messages as JSON.**  The schemas of the messages.  A generation request puts
  its options beside the blueprint, so it is read from an object only; a failure
  report is read without its findings.
-/
import LanguageBlueprint.Blueprint.Wire
import LanguageBlueprint.Exchange.Message

namespace LanguageBlueprint

def Acknowledgement.schema : Schema Acknowledgement where
  name := "Ack"
  blank := ⟨""⟩
  fields := [.of "message" .text (·.message) (fun x r => { r with message := x }) .refused]

/-- Lines of a listing; only the description and the time may be left out. -/
def Summary.schema : Schema Summary where
  name := "SpecificationSummary"
  blank := { name := "", version := "", execution := .interpreted }
  fields := [
    .of "name" .text (·.name) (fun x r => { r with name := x }) .refused,
    .of "version" .text (·.version) (fun x r => { r with version := x }) .refused,
    .of "description" .text (·.description) (fun x r => { r with description := x }) .blank,
    .of "language_type" .word (·.execution) (fun x r => { r with execution := x }) .refused,
    .of "updated_at" (.option Instant.codec) (·.updatedAt) (fun x r => { r with updatedAt := x })
      .blank]

/-- Options of a generation; what is left out is wanted. -/
def GenerateOptions.schema : Schema GenerateOptions where
  name := "GenerateOptions"
  blank := {}
  fields := [
    .of "include_examples" .bool (·.examples) (fun x r => { r with examples := x }) .blank,
    .of "include_documentation" .bool (·.documentation)
      (fun x r => { r with documentation := x }) .blank]

def GenerationResult.schema : Schema GenerationResult where
  name := "GenerationResult"
  blank := ⟨"", .interpreted, []⟩
  fields := [
    .of "language_name" .text (·.name) (fun x r => { r with name := x }) .refused,
    .of "language_type" .word (·.execution) (fun x r => { r with execution := x }) .refused,
    .of "files_generated" (.list .text) (·.files) (fun x r => { r with files := x }) .refused]

/-! ### Generation requests -/

namespace GenerateRequest

/-- The request as an object: the blueprint, then the options. -/
def encode (request : GenerateRequest) : Json :=
  .ofMembers (("specification", Blueprint.codec.encode request.blueprint) ::
    GenerateOptions.schema.fields.map (fun field => (field.name, field.write request.options)))

/-- Reads the members of a request; those other than the blueprint are kept in reverse. -/
def decodeMembers (depth : Nat) (closed : Bool) (blueprint : Option Blueprint)
    (others : List (Option String × Json)) :
    List (Option String × Json) → Decode GenerateRequest
  | [] =>
      if closed then
        match blueprint with
        | none => Decode.unfit (.missingField "specification")
        | some b => do
            -- the options are read among the members that were kept
            let options ← GenerateOptions.schema.decodeMembers depth true []
              GenerateOptions.schema.blank others.reverse
            return ⟨b, options⟩
      else Decode.malformed
  | (none, _) :: _ => Decode.malformed
  | (some key, value) :: members =>
      if key = "specification" then
        match blueprint with
        | some _ => Decode.unfit (.duplicateField key)
        | none => do
            let b ← Blueprint.codec.decode depth value
            decodeMembers depth closed (some b) others members
      else if value.isKeepable depth then
        decodeMembers depth closed blueprint ((some key, value) :: others) members
      else Decode.malformed

def decode (depth : Nat) (json : Json) : Decode GenerateRequest :=
  match json, depth with
  | .object members closed, depth + 1 => decodeMembers depth closed none [] members
  | .object _ _, 0 => Decode.malformed
  | other, _ => Decode.wrongType other "struct GenerateRequest"

def codec : Codec GenerateRequest := ⟨encode, decode⟩

end GenerateRequest

/-! ### Failure reports -/

def Violation.encode (violation : Violation) : Json :=
  .ofMembers [("code", .text violation.code), ("severity", .text violation.severity.text),
    ("detail", .text violation.detail)]

namespace FailureReport

/-- What is read of a failure report. -/
def schema : Schema FailureReport where
  name := "ErrorBody"
  blank := ⟨"", "", []⟩
  fields := [
    .of "detail" .text (·.detail) (fun x r => { r with detail := x }) .refused,
    .of "code" .text (·.code) (fun x r => { r with code := x }) .refused]

/-- The report as an object; findings are written only if there are any. -/
def encode (report : FailureReport) : Json :=
  .ofMembers (schema.fields.map (fun field => (field.name, field.write report)) ++
    if report.violations.isEmpty then []
    else [("violations", .ofList (report.violations.map Violation.encode))])

def codec : Codec FailureReport := ⟨encode, schema.decode⟩

end FailureReport

end LanguageBlueprint
