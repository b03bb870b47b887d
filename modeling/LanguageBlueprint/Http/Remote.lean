/-
  LanguageBlueprint/Http/Remote.lean
  ==================================
  **A studio elsewhere.**  The seven requests are sent as HTTP requests to the
  resources below a base address, and the responses are read back.  A response
  that does not tell of success becomes a failure with the detail that the other
  side reported, or else with the whole text of its body.
-/
import LanguageBlueprint.Exchange.Message
import LanguageBlueprint.Exchange.Wire
import LanguageBlueprint.Http.Message
import LanguageBlueprint.Url.Parse

namespace LanguageBlueprint

namespace Http

/-- Carries requests over, with states of type `σ`; it fails when there is no response. -/
abbrev Transport (σ : Type) := Request → σ → Except String Response × σ

def offline {σ : Type} : Transport σ := fun _ s => (.error "no connection", s)

/-- A remote studio: its base address, and the next fresh number. -/
structure Remote where
  base : Url
  supply : Nat := 0

namespace Remote

def at? (address : String) : Except Failure Remote :=
  match Url.parse address with
  | .ok base => .ok { base := base }
  | .error (.notABase usual) => .error (.config (.baselessAddress usual))
  | .error fault => .error (.config (.invalidAddress address fault.message))

/-- A request to the resource with these names below the base. -/
def requestTo (remote : Remote) (method : Method) (names : List String) : Request :=
  { method := method, target := (remote.base.endpoint names).targetChars }

def requestWith (remote : Remote) (method : Method) (names : List String) (body : Json) :
    Request :=
  { remote.requestTo method names with mediaType := some jsonType, body := body.compact.toUTF8 }

/-- The failure that a response without success tells of. -/
def reported (response : Response) : Failure :=
  let text := response.body.text
  let detail := match (FailureReport.codec.ofText text).run 0 with
    | .ok (report, _) => report.detail
    | .error _ => text
  if response.status = 404 then .notFound (.reported detail)
  else .service response.status detail

def readJson {α : Type} (codec : Codec α) (remote : Remote) :
    Except String Response → Except Failure α × Remote
  | .error text => (.error (.transport text), remote)
  | .ok response =>
      if !response.isSuccess then (.error (reported response), remote)
      else
        match (codec.ofText response.body.text).run remote.supply with
        | .ok (a, supply) => (.ok a, { remote with supply := supply })
        | .error _ => (.error (.transport "unreadable response"), remote)

def readArchive (name : String) : Except String Response → Except Failure Archive
  | .error text => .error (.transport text)
  | .ok response =>
      if !response.isSuccess then .error (reported response)
      else .ok ⟨Archive.nameFor name, response.body.archiveContent⟩

/-- Sends a request and reads the response as a value. -/
def exchange {σ α : Type} (transport : Transport σ) (codec : Codec α) (request : Request) :
    Remote × σ → Except Failure α × (Remote × σ)
  | (remote, s) =>
      let (response, s) := transport request s
      let (answer, remote) := readJson codec remote response
      (answer, (remote, s))

def serve {σ : Type} (transport : Transport σ) : Service (Remote × σ)
  | .save b, (remote, s) =>
      exchange transport Acknowledgement.schema.codec
        (remote.requestWith .post ["api", "languages"] (Blueprint.codec.encode b)) (remote, s)
  | .fetch name, (remote, s) =>
      exchange transport Blueprint.codec
        (remote.requestTo .get ["api", "languages", name]) (remote, s)
  | .list, (remote, s) =>
      exchange transport (Codec.list Summary.schema.codec)
        (remote.requestTo .get ["api", "languages"]) (remote, s)
  | .update name b, (remote, s) =>
      exchange transport Acknowledgement.schema.codec
        (remote.requestWith .put ["api", "languages", name] (Blueprint.codec.encode b)) (remote, s)
  | .delete name, (remote, s) =>
      exchange transport Acknowledgement.schema.codec
        (remote.requestTo .delete ["api", "languages", name]) (remote, s)
  | .generate request, (remote, s) =>
      exchange transport GenerationResult.schema.codec
        (remote.requestWith .post ["api", "generate"] (GenerateRequest.encode request)) (remote, s)
  | .download name, (remote, s) =>
      let (response, s) := transport (remote.requestTo .get ["api", "download", name]) s
      (readArchive name response, (remote, s))

end Remote

end Http

end LanguageBlueprint
