/-
  LanguageBlueprint/Studio.lean
  =============================
  **The studio.**  The studio keeps blueprints, generates languages and packs
  them.  It trusts nobody: a blueprint with blocking findings is not stored, and
  one with any finding is not generated, whoever asks.  The store is what its
  transactions leave, whether they are committed or rolled back.
-/
import LanguageBlueprint.Exchange.Message
import LanguageBlueprint.Generation.Pack
import LanguageBlueprint.Generation.Scaffold
import LanguageBlueprint.Review.Check
import LanguageBlueprint.Store.Basic

namespace LanguageBlueprint

/-- A studio: its store, its engine, the present time, and the next fresh number. -/
structure Studio where
  store : Store := {}
  engine : Engine := Scaffold.generate
  now : Instant
  supply : Nat := 0

namespace Studio

def languageMissing (name : String) : Failure := .notFound (.language name)

def save (studio : Studio) (b : Blueprint) : Except Failure Acknowledgement × Studio :=
  if !b.permitsSave then (.error (.invalid b.blocking), studio)
  else
    let message :=
      if studio.store.contains b.name then "Language specification overwritten"
      else "Language specification created"
    (.ok ⟨message⟩, { studio with store := studio.store.persist b studio.now })

def fetch (studio : Studio) (name : String) : Except Failure Blueprint × Studio :=
  match studio.store.restore name studio.supply with
  | .ok (some b, supply) => (.ok b, { studio with supply := supply })
  | .ok (none, _) => (.error (languageMissing name), studio)
  | .error failure => (.error failure, studio)

def update (studio : Studio) (name : String) (b : Blueprint) :
    Except Failure Acknowledgement × Studio :=
  if !b.permitsSave then (.error (.invalid b.blocking), studio)
  else
    let (replaced, store) := studio.store.replace name b studio.now
    let answer := match replaced with
      | .ok true => .ok ⟨"Language specification updated"⟩
      | .ok false => .error (languageMissing name)
      | .error failure => .error failure
    (answer, { studio with store := store })

def delete (studio : Studio) (name : String) : Except Failure Acknowledgement × Studio :=
  match studio.store.remove name with
  | (true, store) => (.ok ⟨"Language specification deleted"⟩, { studio with store := store })
  | (false, _) => (.error (languageMissing name), studio)

/-- Generates a language and keeps its files. -/
def generate (studio : Studio) (request : GenerateRequest) :
    Except Failure GenerationResult × Studio :=
  let b := request.blueprint
  if !b.permitsGenerate then (.error (.invalid b.review), studio)
  else
    match studio.engine b request.options with
    | .error failure => (.error failure, studio)
    | .ok artifacts =>
        let (kept, store) := studio.store.keepArtifacts b.name artifacts
        (kept.map (fun _ => ⟨b.name, b.execution, artifacts.map Artifact.path⟩),
          { studio with store := store })

def download (studio : Studio) (name : String) : Except Failure Archive :=
  let artifacts := studio.store.artifacts name
  if artifacts.isEmpty then .error (.notFound (.generatedLanguage name))
  else Archive.pack name artifacts

def serve : Service Studio
  | .save b, studio => studio.save b
  | .fetch name, studio => studio.fetch name
  | .list, studio => (studio.store.summaries, studio)
  | .update name b, studio => studio.update name b
  | .delete name, studio => studio.delete name
  | .generate request, studio => studio.generate request
  | .download name, studio => (studio.download name, studio)

end Studio

end LanguageBlueprint
