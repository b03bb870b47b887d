/-
  LanguageBlueprint/Http/Router.lean
  ==================================
  **The studio over HTTP.**  A request is answered in a fixed order: an unknown
  path is 404 and another method on a known one 405; a name in the path that is
  not UTF-8 is 400; a body without a JSON media type is 415, one that is not JSON
  400, and one that does not fit 422; then the studio answers.  The paths are
  matched segment by segment as they are written, and only then is a name decoded.

  What the studio does not answer itself is told as plain text.  The words in which
  a body is refused are those of its reader, and are a parameter here.
-/
import LanguageBlueprint.Exchange.Wire
import LanguageBlueprint.Http.Message
import LanguageBlueprint.Studio
import LanguageBlueprint.Text.Percent

namespace LanguageBlueprint

open Text

namespace Http

/-- The resources of the studio, with the name in the path as it is written. -/
inductive Route where
  | welcome
  | languages
  | language (written : List Char)
  | generate
  | download (written : List Char)
deriving DecidableEq, Repr

/-- The resource at the segments of a path; a name in it is not empty. -/
def Route.ofSegments (segments : List (List Char)) : Option Route :=
  match segments.map String.ofList with
  | [""] => some .welcome
  | ["api", "languages"] => some .languages
  | ["api", "generate"] => some .generate
  | ["api", "languages", name] => if name.isEmpty then none else some (.language name.toList)
  | ["api", "download", name] => if name.isEmpty then none else some (.download name.toList)
  | _ => none

/-- The segments of the path of a target, which begins with a slash. -/
def targetSegments (target : List Char) : Option (List (List Char)) :=
  match (target.takeWhile (fun c => c != '?' && c != '#')).splitOn '/' with
  | [] :: segments => some segments
  | _ => none

def Route.ofTarget (target : List Char) : Option Route :=
  (targetSegments target).bind Route.ofSegments

/-! ### Responses -/

/-- What the reader of bodies says of a fault: at which field and at which place it stopped, and
why. -/
abbrev Wording := Request → DecodeFault → String

/-- The reason alone. -/
def Wording.reason : Wording := fun _ fault =>
  match fault with
  | .malformed => "malformed text"
  | .unfit misfit => misfit.message

def plain (status : Nat) (text : String) : Response := ⟨status, .plain text⟩

def success (json : Json) : Response := ⟨200, .json json.compact⟩

def failed (failure : Failure) : Response :=
  ⟨failure.status, .json (FailureReport.codec.compact (.ofFailure failure))⟩

def respond {α : Type} (encode : α → Response) : Except Failure α → Response
  | .ok a => encode a
  | .error failure => failed failure

/-- Whether a text may be the value of a header. -/
def isHeaderText (text : String) : Bool :=
  text.toList.all (fun c => c == '\t' || (0x20 ≤ c.toNat && c.toNat != 0x7F))

/-- An archive as a response, to be saved under its name; a name that no header holds is an
error. -/
def archiveResponse (archive : Archive) : Response :=
  let disposition := "attachment; filename=" ++ archive.fileName
  if isHeaderText disposition then ⟨200, .archive disposition archive.content⟩
  else plain 500 "failed to parse header value"

/-- A body that cannot be read, as a response. -/
def refusedBody (wording : Wording) (request : Request) (fault : DecodeFault) : Response :=
  match fault with
  | .malformed =>
      plain 400 ("Failed to parse the request body as JSON: " ++ wording request fault)
  | .unfit _ =>
      plain 422 ("Failed to deserialize the JSON body into the target type: " ++
        wording request fault)

def welcome : Json :=
  .ofMembers [
    ("message", .text "Welcome to Illiterate Wizard - Programming Language Builder"),
    ("version", .text "0.1.0")]

/-! ### Handlers -/

/-- Goes on with the name in a path. -/
def withName (written : List Char) (studio : Studio) (go : String → Response × Studio) :
    Response × Studio :=
  match percentDecode? written with
  | some name => go name
  | none => (plain 400 "Invalid URL: Invalid UTF-8 in `name`", studio)

/-- Goes on with the value in the body of a request; what follows it is not read. -/
def withBody {α : Type} (wording : Wording) (codec : Codec α) (request : Request) (studio : Studio)
    (go : α → Studio → Response × Studio) : Response × Studio :=
  if !(request.mediaType.map isJsonType).getD false then
    (plain 415 "Expected request with `Content-Type: application/json`", studio)
  else
    match (codec.ofBytesStart request.body).run studio.supply with
    | .ok (a, supply) => go a { studio with supply := supply }
    | .error fault => (refusedBody wording request fault, studio)

def ask (request : LanguageBlueprint.Request) (encode : request.Answer → Response)
    (studio : Studio) : Response × Studio :=
  let (answer, after) := Studio.serve request studio
  (respond encode answer, after)

def answerRoute (wording : Wording) (request : Request) (studio : Studio) :
    Route → Method → Response × Studio
  | .welcome, .get => (success welcome, studio)
  | .languages, .get =>
      ask .list (fun lines => success ((Codec.list Summary.schema.codec).encode lines)) studio
  | .languages, .post =>
      withBody wording Blueprint.codec request studio (fun b studio =>
        ask (.save b) (fun ack => success (Acknowledgement.schema.encode ack)) studio)
  | .language written, .get =>
      withName written studio (fun name =>
        ask (.fetch name) (fun b => success (Blueprint.codec.encode b)) studio)
  | .language written, .put =>
      withName written studio (fun name =>
        withBody wording Blueprint.codec request studio (fun b studio =>
          ask (.update name b) (fun ack => success (Acknowledgement.schema.encode ack)) studio))
  | .language written, .delete =>
      withName written studio (fun name =>
        ask (.delete name) (fun ack => success (Acknowledgement.schema.encode ack)) studio)
  | .generate, .post =>
      withBody wording GenerateRequest.codec request studio (fun wanted studio =>
        ask (.generate wanted) (fun result => success (GenerationResult.schema.encode result))
          studio)
  | .download written, .get =>
      withName written studio (fun name => ask (.download name) archiveResponse studio)
  | _, _ => (plain 405 "", studio)

/-- The response to a question for the head only. -/
def withoutBody (response : Response) : Response := ⟨response.status, .plain ""⟩

def handle (wording : Wording) (request : Request) (studio : Studio) : Response × Studio :=
  match request.method with
  | .options => (plain 200 "", studio)
  | method =>
      match Route.ofTarget request.target with
      | none => (plain 404 "", studio)
      | some route =>
          if method = .head then
            let (response, after) := answerRoute wording request studio route .get
            (withoutBody response, after)
          else answerRoute wording request studio route method

end Http

end LanguageBlueprint
