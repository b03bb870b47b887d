/-
  LanguageBlueprint/Proofs/Studio/Downloads.lean
  ==============================================
  **What was generated can be downloaded from then on.**  A transcript lists the
  requests made of a studio, each with its answer.  The files that a studio keeps
  for a language are those of the latest generation in the transcript that has
  succeeded for that name, and no other request touches them.  Since the scaffold
  of a language can always be packed, a download finds exactly these files.

    * transcripts                          — `transcript`, `generations`;
    * what any requests leave              — `keepsLatest_after`;
    * downloads                            — `download_latest_generation`.
-/
import LanguageBlueprint.Exchange.Message
import LanguageBlueprint.Proofs.Generation.Packing
import LanguageBlueprint.Proofs.Studio.Catalogue
import LanguageBlueprint.Proofs.Studio.Change

namespace LanguageBlueprint.Studio

open Text

/-! ### Transcripts -/

/-- The requests made of a studio, each at a time of its own, with their answers. -/
def transcript : Studio → List (Instant × Request) → List Turn
  | _, [] => []
  | studio, call :: calls =>
      let outcome := serve call.2 (studio.waitUntil call.1)
      ⟨call.2, outcome.1⟩ :: transcript outcome.2 calls

/-- The generation of a language with a name, if the turn is one that has succeeded. -/
def generation? (name : String) : Turn → Option (GenerateRequest × GenerationResult)
  | ⟨.generate request, .ok result⟩ =>
      if request.blueprint.name = name then some (request, result) else none
  | _ => none

/-- The generations of a language with a name that have succeeded, in their order. -/
def generations (name : String) (turns : List Turn) : List (GenerateRequest × GenerationResult) :=
  turns.filterMap (generation? name)

theorem after_append (studio : Studio) (calls more : List (Instant × Request)) :
    studio.after (calls ++ more) = (studio.after calls).after more :=
  List.foldl_append

/-! ### Any requests in a row -/

/-- The files kept for a language are those of its latest generation, if there was one. -/
structure KeepsLatest (name : String) (latest : Option (GenerateRequest × GenerationResult))
    (studio : Studio) : Prop where
  engine : studio.engine = Scaffold.generate
  never : latest = none → studio.store.artifacts name = []
  made : ∀ request result, latest = some (request, result) →
    Scaffold.generate request.blueprint request.options = .ok (studio.store.artifacts name) ∧
    result.files = (studio.store.artifacts name).map Artifact.path

variable {name : String} {latest : Option (GenerateRequest × GenerationResult)} {studio : Studio}

theorem KeepsLatest.of_rows (h : KeepsLatest name latest studio) {studio' : Studio}
    (hengine : studio'.engine = studio.engine)
    (hfiles : studio'.store.artifacts name = studio.store.artifacts name) :
    KeepsLatest name latest studio' where
  engine := hengine.trans h.engine
  never hnone := hfiles.trans (h.never hnone)
  made request result hsome := hfiles ▸ h.made request result hsome

theorem KeepsLatest.artifacts_eq (h : KeepsLatest name latest studio) {studio' : Studio}
    (h' : KeepsLatest name latest studio') :
    studio.store.artifacts name = studio'.store.artifacts name := by
  cases hlatest : latest with
  | none => rw [h.never hlatest, h'.never hlatest]
  | some generation =>
      have hmade := (h.made generation.1 generation.2 hlatest).1
      rw [(h'.made generation.1 generation.2 hlatest).1] at hmade
      exact (Except.ok.inj hmade).symm

/-- One turn: a generation that succeeds for the name is the latest from then on. -/
theorem keepsLatest_serve (h : KeepsLatest name latest studio) (request : Request) :
    KeepsLatest name ((generation? name ⟨request, (serve request studio).1⟩).or latest)
      (serve request studio).2 := by
  by_cases hgenerate : ∃ wanted, request = .generate wanted
  · obtain ⟨wanted, rfl⟩ := hgenerate
    rcases generate_cases wanted studio with
      ⟨failure, hserve⟩ | ⟨artifacts, hengine, -, -, hserve⟩
    · rw [hserve]
      exact h
    · rw [h.engine] at hengine
      have hfiles := Store.artifacts_replaceRows studio.store wanted.blueprint.name name artifacts
      rw [hserve]
      by_cases hname : wanted.blueprint.name = name
      · rw [if_pos hname.symm] at hfiles
        simp only [generation?, hname, if_true, Option.some_or]
        refine ⟨h.engine, ?_, ?_⟩
        · intro hnone
          cases hnone
        · intro request result hsome
          cases hsome
          rw [← hname] at hfiles ⊢
          rw [hfiles]
          exact ⟨hengine, rfl⟩
      · rw [if_neg (Ne.symm hname)] at hfiles
        simp only [generation?, hname, if_false, Option.none_or]
        exact h.of_rows rfl hfiles
  · have hother : ∀ wanted, request ≠ .generate wanted := by
      intro wanted heq
      exact hgenerate ⟨wanted, heq⟩
    have hnone : generation? name ⟨request, (serve request studio).1⟩ = none := by
      cases request with
      | generate wanted => exact absurd rfl (hother wanted)
      | save b => rfl
      | fetch name => rfl
      | list => rfl
      | update name b => rfl
      | delete name => rfl
      | download name => rfl
    rw [hnone, Option.none_or]
    refine h.of_rows (engine_serve request studio) ?_
    rw [Store.artifacts, rows_serve hother]
    rfl

theorem keepsLatest_after (calls : List (Instant × Request)) :
    ∀ {latest : Option (GenerateRequest × GenerationResult)} {studio : Studio},
      KeepsLatest name latest studio →
      KeepsLatest name ((generations name (transcript studio calls)).getLast?.or latest)
        (studio.after calls) := by
  induction calls with
  | nil =>
      intro latest studio h
      exact h
  | cons call calls ih =>
      intro latest studio h
      -- the time of the call is no part of what is kept
      have hwait : KeepsLatest name latest (studio.waitUntil call.1) := h.of_rows rfl rfl
      have hrest := ih (keepsLatest_serve hwait call.2)
      rw [transcript, generations, List.filterMap_cons]
      cases hfirst : generation? name ⟨call.2, (serve call.2 (studio.waitUntil call.1)).1⟩ with
      | none =>
          rw [hfirst, Option.none_or] at hrest
          exact hrest
      | some generation =>
          rw [hfirst, Option.some_or] at hrest
          have hlatest : (generation :: generations name
              (transcript (serve call.2 (studio.waitUntil call.1)).2 calls)).getLast?.or latest =
              (generations name
                (transcript (serve call.2 (studio.waitUntil call.1)).2 calls)).getLast?.or
                (some generation) := by
            rw [List.getLast?_cons]
            cases (generations name
              (transcript (serve call.2 (studio.waitUntil call.1)).2 calls)).getLast? <;> rfl
          exact hlatest ▸ hrest

/-! ### Downloads -/

/-- Packable files that are kept for a language are found by a download. -/
theorem download_of_packable {artifacts : List Artifact}
    (hkept : studio.store.artifacts name = artifacts) (h : Archive.Packable artifacts) :
    studio.download name =
      .ok ⟨Archive.nameFor name, .entries (artifacts.map (Archive.entry name))⟩ := by
  have hsome : artifacts.isEmpty = false := by
    simpa using h.nonempty
  simp only [download, hkept, hsome, Bool.false_eq_true, if_false]
  exact Archive.pack_of_packable h name

theorem KeepsLatest.download_never (h : KeepsLatest name none studio) :
    studio.download name = .error (.notFound (.generatedLanguage name)) := by
  have hnone : studio.store.artifacts name = [] := h.never rfl
  simp only [download, hnone, List.isEmpty_nil, if_true]

theorem KeepsLatest.download_made {request : GenerateRequest} {result : GenerationResult}
    (h : KeepsLatest name (some (request, result)) studio) :
    ∃ artifacts, Scaffold.generate request.blueprint request.options = .ok artifacts ∧
      result.files = artifacts.map Artifact.path ∧
      studio.download name =
        .ok ⟨Archive.nameFor name, .entries (artifacts.map (Archive.entry name))⟩ := by
  obtain ⟨hmade, hfiles⟩ := h.made request result rfl
  exact ⟨studio.store.artifacts name, hmade, hfiles,
    download_of_packable rfl (Scaffold.packable_of_generate hmade)⟩

theorem KeepsLatest.download_eq (h : KeepsLatest name latest studio) {studio' : Studio}
    (h' : KeepsLatest name latest studio') : studio.download name = studio'.download name := by
  simp only [download, h.artifacts_eq h']

/-- **What was generated can be downloaded from then on, exactly.**  After any requests, a
download finds the files of the latest generation that has succeeded for the name, each below the
root with the contents that the engine made, and nothing if there was none; and requests that
bring no generation for the name do not change what a download finds. -/
theorem download_latest_generation (start now : Instant) (supply : ℕ)
    (calls : List (Instant × Request)) (name : String) :
    let first := Studio.opened Scaffold.generate start supply
    let studio := (first.after calls).waitUntil now
    (generations name (transcript first calls) = [] →
      studio.download name = .error (.notFound (.generatedLanguage name))) ∧
    (∀ request result,
      (generations name (transcript first calls)).getLast? = some (request, result) →
      ∃ artifacts, Scaffold.generate request.blueprint request.options = .ok artifacts ∧
        result.files = artifacts.map Artifact.path ∧
        studio.download name = .ok ⟨name ++ ".zip", .entries (artifacts.map (fun artifact =>
          ⟨slug name ++ "/" ++ artifact.path, artifact.contents⟩))⟩) ∧
    (∀ more later, generations name (transcript (first.after calls) more) = [] →
      ((first.after (calls ++ more)).waitUntil later).download name = studio.download name) := by
  intro first studio
  have hopened : KeepsLatest name none first := ⟨rfl, fun _ => rfl, by simp⟩
  have hkept := keepsLatest_after calls hopened
  rw [Option.or_none] at hkept
  have hnow : KeepsLatest name (generations name (transcript first calls)).getLast? studio :=
    hkept.of_rows rfl rfl
  refine ⟨?_, ?_, ?_⟩
  · intro hnever
    rw [hnever] at hnow
    exact hnow.download_never
  · intro request result hlatest
    rw [hlatest] at hnow
    exact hnow.download_made
  · intro more later hnone
    have hmore := keepsLatest_after more hkept
    rw [hnone, List.getLast?_nil, Option.none_or] at hmore
    have hlater : KeepsLatest name (generations name (transcript first calls)).getLast?
        (((first.after calls).after more).waitUntil later) := hmore.of_rows rfl rfl
    rw [after_append]
    exact hlater.download_eq hnow

/-- A language is generated and saved, is refused under a name that is blank, is saved under another
name, and is deleted. -/
def generatedAndDeleted : List (Instant × Request) :=
  let noon : Instant := ⟨⟨2024, 1, 1⟩, 12, 0, 0, 0⟩
  [(noon, .generate ⟨.named "Toy", {}⟩), (noon, .save (.named "Toy")),
    (noon, .generate ⟨.named " ", {}⟩), (noon, .update "Toy" (.named "Tiny")),
    (noon, .delete "Tiny")]

theorem download_latest_generation_deleted :
    let noon : Instant := ⟨⟨2024, 1, 1⟩, 12, 0, 0, 0⟩
    let first := Studio.opened Scaffold.generate noon 0
    let result : GenerationResult := ⟨"Toy", .interpreted,
      ["manifest.json", "grammar.ebnf", "lexicon.json", "semantics.json", "docs/README.md",
        "docs/LANGUAGE_REFERENCE.md", "examples/hello.prog", "toy_specification.json"]⟩
    generations "Toy" (transcript first generatedAndDeleted) = [(⟨.named "Toy", {}⟩, result)] ∧
    ∃ artifacts, Scaffold.generate (.named "Toy") {} = .ok artifacts ∧
      result.files = artifacts.map Artifact.path ∧
      ((first.after generatedAndDeleted).waitUntil noon).download "Toy" =
        .ok ⟨"Toy.zip", .entries (artifacts.map (fun artifact =>
          ⟨"toy/" ++ artifact.path, artifact.contents⟩))⟩ := by
  intro noon first result
  have hgenerations : generations "Toy" (transcript first generatedAndDeleted) =
      [(⟨.named "Toy", {}⟩, result)] := by
    decide +kernel
  have hlatest := congrArg List.getLast? hgenerations
  have hslug : slug "Toy" ++ "/" = "toy/" := by
    decide
  have hdownload :=
    (download_latest_generation noon noon 0 generatedAndDeleted "Toy").2.1 _ _ hlatest
  rw [hslug] at hdownload
  exact ⟨hgenerations, hdownload⟩

end LanguageBlueprint.Studio
