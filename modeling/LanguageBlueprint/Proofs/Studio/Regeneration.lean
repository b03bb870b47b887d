/-
  LanguageBlueprint/Proofs/Studio/Regeneration.lean
  =================================================
  **Generated files are replaced as a whole.**  The files of a language are replaced
  in one transaction, which removes those that were kept and then inserts the others
  one by one.  A path that is repeated stops it in the middle, with the old files
  gone and some of the new ones there; the journal takes both back.

  Generations overlap in their first halves only: a blueprint is reviewed and its
  files are made without a look at the store, and only then they are filed.  In a
  workroom any number of generations are between the two, each made by the engine as
  it was at that moment, and they are filed in any order, with other requests in
  between.  Every filing is written down with its answer, so that the files kept for
  a language are told from that list: they are those of the last filing that was
  answered with success.

    * one transaction                          — `replacesWhole`;
    * a generation is its halves in a row      — `generatesWhole`;
    * what one event does                      — `holdsLatest_step`, `accounted_step`;
    * what any events leave                    — `holdsLatest_run`, `accounted_run`;
    * generations that overlap                 — `neverMixed`;
    * the whole                                — `files_replaced_as_a_whole`.
-/
import LanguageBlueprint.Proofs.Studio.Catalogue
import LanguageBlueprint.Proofs.Studio.Change

namespace LanguageBlueprint

/-! ### One transaction -/

namespace Store

/-- What is promised when files are kept for a language: they are there, all of them and nothing
else, or the store is as it was. -/
structure ReplacesWhole (store : Store) (language : String) (artifacts : List Artifact) : Prop where
  refused : (∃ failure, (store.keepArtifacts language artifacts).1 = .error failure) ↔
    ¬ (artifacts.map Artifact.path).Nodup
  /-- A repeated path comes after files that are in the tables already, in place of those that were
  kept before, and nothing of that stays. -/
  undone : ¬ (artifacts.map Artifact.path).Nodup → ∃ front artifact back,
    artifacts = front ++ artifact :: back ∧ (front.map Artifact.path).Nodup ∧
    artifact.path ∈ front.map Artifact.path ∧
    (Transaction.replaceFiles language artifacts { store := store }).2.store =
      { store with rows := replaceRows language front store.rows } ∧
    (store.keepArtifacts language artifacts).2 = store
  kept : (artifacts.map Artifact.path).Nodup →
    (store.keepArtifacts language artifacts).2.artifacts language = artifacts
  others : ∀ other, other ≠ language →
    (store.keepArtifacts language artifacts).2.artifacts other = store.artifacts other
  records : (store.keepArtifacts language artifacts).2.records = store.records

theorem replacesWhole (store : Store) (language : String) (artifacts : List Artifact) :
    store.ReplacesWhole language artifacts := by
  have hkeep := keepArtifacts_eq store language artifacts
  by_cases hdistinct : (artifacts.map Artifact.path).Nodup
  · rw [if_pos hdistinct] at hkeep
    constructor
    case refused =>
      rw [hkeep]
      constructor
      · rintro ⟨failure, hfailure⟩
        cases hfailure
      · intro hrepeated
        exact absurd hdistinct hrepeated
    case undone =>
      intro hrepeated
      exact absurd hdistinct hrepeated
    case kept =>
      intro _
      rw [hkeep, artifacts_replaceRows, if_pos rfl]
    case others =>
      intro other hother
      rw [hkeep, artifacts_replaceRows, if_neg hother]
    case records => rw [hkeep]
  · rw [if_neg hdistinct] at hkeep
    constructor
    case refused =>
      rw [hkeep]
      exact ⟨fun _ => hdistinct, fun _ => ⟨_, rfl⟩⟩
    case undone =>
      intro _
      rcases replaceFiles_cases store language artifacts with
        ⟨hall, -⟩ | ⟨front, artifact, back, hfront, hbefore, hrepeated, -, hreached⟩
      · exact absurd hall hdistinct
      · exact ⟨front, artifact, back, hfront, hbefore, hrepeated, hreached, by rw [hkeep]⟩
    case kept =>
      intro hall
      exact absurd hall hdistinct
    case others =>
      intro other _
      rw [hkeep]
    case records => rw [hkeep]

/-- A file that comes twice: by then the old file is gone, and in the end it is there again. -/
example :
    let old : Store := { rows := [⟨"Toy", 0, .ofText "old.txt" "1"⟩] }
    let repeated : List Artifact := [.ofText "a.txt" "1", .ofText "b.txt" "2", .ofText "a.txt" "3"]
    (Transaction.replaceFiles "Toy" repeated { store := old }).2.store.rows =
        [⟨"Toy", 0, .ofText "a.txt" "1"⟩, ⟨"Toy", 1, .ofText "b.txt" "2"⟩] ∧
      (old.keepArtifacts "Toy" repeated).2 = old := by
  decide +kernel

end Store

/-! ### The halves of a generation -/

/-- The files made for a request. -/
structure Draft where
  request : GenerateRequest
  artifacts : List Artifact

namespace Draft

def name (draft : Draft) : String := draft.request.blueprint.name

def result (draft : Draft) : GenerationResult :=
  ⟨draft.name, draft.request.blueprint.execution, draft.artifacts.map Artifact.path⟩

end Draft

namespace Studio

/-- The first half of a generation: the blueprint is reviewed, and the engine makes the files. -/
def draft (engine : Engine) (request : GenerateRequest) : Except Failure Draft :=
  if !request.blueprint.permitsGenerate then .error (.invalid request.blueprint.review)
  else (engine request.blueprint request.options).map (Draft.mk request)

/-- The second half of a generation: the files are kept. -/
def file (draft : Draft) (studio : Studio) : Except Failure GenerationResult × Studio :=
  let (kept, store) := studio.store.keepArtifacts draft.name draft.artifacts
  (kept.map (fun _ => draft.result), { studio with store := store })

theorem file_eq (draft : Draft) (studio : Studio) :
    studio.file draft =
      if (draft.artifacts.map Artifact.path).Nodup then
        (.ok draft.result, { studio with store := { studio.store with
          rows := Store.replaceRows draft.name draft.artifacts studio.store.rows } })
      else (.error (.persistence .repeatedArtifact), studio) := by
  rw [file, Store.keepArtifacts_eq]
  by_cases hdistinct : (draft.artifacts.map Artifact.path).Nodup
  · rw [if_pos hdistinct, if_pos hdistinct]
    rfl
  · rw [if_neg hdistinct, if_neg hdistinct]
    rfl

/-- What is promised of one generation. -/
structure GeneratesWhole (studio : Studio) (request : GenerateRequest) : Prop where
  halves : studio.generate request =
    match draft studio.engine request with
    | .error failure => (.error failure, studio)
    | .ok made => studio.file made
  refused : ∀ failure, (studio.generate request).1 = .error failure →
    (studio.generate request).2 = studio

theorem generatesWhole (studio : Studio) (request : GenerateRequest) :
    studio.GeneratesWhole request := by
  constructor
  · rw [generate, draft]
    cases request.blueprint.permitsGenerate with
    | false => rfl
    | true => cases studio.engine request.blueprint request.options <;> rfl
  · intro failure hfailure
    exact @serve_refused (.generate request) studio failure hfailure

end Studio

/-! ### Generations that overlap -/

/-- A draft that was filed, and what was answered. -/
structure Filing where
  draft : Draft
  answer : Except Failure GenerationResult

/-- The filing was one for the language, and was answered with success. -/
def Filing.Keeps (filing : Filing) (name : String) : Prop :=
  filing.draft.name = name ∧ ∃ result, filing.answer = .ok result

/-- A filing changes the files of one language at most, and only if it is answered with success. -/
theorem Studio.artifacts_file (draft : Draft) (studio : Studio) (name : String) :
    (Filing.Keeps ⟨draft, (studio.file draft).1⟩ name →
      (studio.file draft).2.store.artifacts name = draft.artifacts) ∧
    (¬ Filing.Keeps ⟨draft, (studio.file draft).1⟩ name →
      (studio.file draft).2.store.artifacts name = studio.store.artifacts name) := by
  rw [Studio.file_eq]
  by_cases hdistinct : (draft.artifacts.map Artifact.path).Nodup
  · rw [if_pos hdistinct, Store.artifacts_replaceRows]
    constructor
    · rintro ⟨hname, -⟩
      exact if_pos hname.symm
    · intro hnot
      exact if_neg (fun hname => hnot ⟨hname.symm, draft.result, rfl⟩)
  · rw [if_neg hdistinct]
    refine ⟨?_, fun _ => rfl⟩
    rintro ⟨-, result, hresult⟩
    cases hresult

/-- A studio with the drafts that were made but not yet filed, and all filings, both in their
order. -/
structure Workroom where
  studio : Studio
  pending : List Draft := []
  filings : List Filing := []

namespace Workroom

/-- What happens in a workroom.  Drafts that are pending are told apart by their places. -/
inductive Event where
  /-- The first half of a generation, with the engine as it is at that moment. -/
  | drafted (engine : Engine) (request : GenerateRequest)
  /-- The second half of a generation. -/
  | filed (place : ℕ)
  /-- Any other request. -/
  | served (now : Instant) (request : Request) (other : ∀ wanted, request ≠ .generate wanted)

def step (room : Workroom) : Event → Workroom
  | .drafted engine request =>
      match Studio.draft engine request with
      | .ok draft => { room with pending := room.pending ++ [draft] }
      | .error _ => room
  | .filed place =>
      match room.pending[place]? with
      | none => room
      | some draft =>
          let (answer, studio) := room.studio.file draft
          ⟨studio, room.pending.eraseIdx place, room.filings ++ [⟨draft, answer⟩]⟩
  | .served now request _ =>
      { room with studio := (Studio.serve request (room.studio.waitUntil now)).2 }

/-- The workroom of a studio after some events. -/
def run (start : Studio) (events : List Event) : Workroom := events.foldl step { studio := start }

theorem run_append (start : Studio) (events : List Event) (event : Event) :
    run start (events ++ [event]) = (run start events).step event :=
  List.foldl_concat step { studio := start } event events

/-- The draft that an event brings. -/
def Event.made? : Event → Option Draft
  | .drafted engine request => (Studio.draft engine request).toOption
  | .filed _ => none
  | .served _ _ _ => none

/-- The drafts that the events bring, whatever becomes of them. -/
def made (events : List Event) : List Draft := events.filterMap Event.made?

theorem made_append (events : List Event) (event : Event) :
    made (events ++ [event]) = made events ++ event.made?.toList := by
  rw [made, made, List.filterMap_append]
  cases hmade : event.made? <;> simp [hmade]

theorem mem_made {events : List Event} {draft : Draft} :
    draft ∈ made events ↔
      ∃ engine request, .drafted engine request ∈ events ∧
        Studio.draft engine request = .ok draft := by
  rw [made, List.mem_filterMap]
  constructor
  · rintro ⟨event, hevent, hmade⟩
    cases event with
    | drafted engine request =>
        refine ⟨engine, request, hevent, ?_⟩
        cases hdraft : Studio.draft engine request with
        | error failure => simp [Event.made?, hdraft, Except.toOption] at hmade
        | ok made => simpa [Event.made?, hdraft, Except.toOption] using hmade
    | filed place => cases hmade
    | served now request other => cases hmade
  · rintro ⟨engine, request, hevent, hdraft⟩
    exact ⟨_, hevent, by rw [Event.made?, hdraft]; rfl⟩

variable {start : Studio} {room : Workroom}

/-! ### What one event does -/

/-- A pending draft is filed. -/
theorem step_filed {place : ℕ} {draft : Draft} (h : room.pending[place]? = some draft) :
    room.step (.filed place) = ⟨(room.studio.file draft).2, room.pending.eraseIdx place,
      room.filings ++ [⟨draft, (room.studio.file draft).1⟩]⟩ := by
  rw [step, h]

/-- Where no draft is pending, nothing is filed. -/
theorem step_filed_none {place : ℕ} (h : room.pending[place]? = none) :
    room.step (.filed place) = room := by
  rw [step, h]

/-- A draft is no longer pending when it is filed, and none is lost or filed twice. -/
theorem accounted_step (room : Workroom) (event : Event) :
    ((room.step event).pending ++ (room.step event).filings.map Filing.draft).Perm
      (room.pending ++ room.filings.map Filing.draft ++ event.made?.toList) := by
  cases event with
  | drafted engine request =>
      rw [step, Event.made?]
      cases Studio.draft engine request with
      | error failure => simp [Except.toOption]
      | ok draft =>
          simp only [Except.toOption, Option.toList_some, List.append_assoc]
          exact List.perm_append_comm.append_left room.pending
  | filed place =>
      rw [Event.made?, Option.toList_none, List.append_nil]
      cases hplace : room.pending[place]? with
      | none => rw [step_filed_none hplace]
      | some draft =>
          obtain ⟨hlt, hdraft⟩ := List.getElem?_eq_some_iff.mp hplace
          have htaken : (draft :: room.pending.eraseIdx place).Perm room.pending := by
            rw [← hdraft]
            exact List.getElem_cons_eraseIdx_perm hlt
          rw [step_filed hplace, List.map_append, List.map_singleton, ← List.append_assoc]
          exact List.perm_append_comm.trans (htaken.append_right _)
  | served now request other => simp [step, Event.made?]

/-- Every filing was answered with success exactly if no path is repeated. -/
def Answered (room : Workroom) : Prop :=
  ∀ filing ∈ room.filings, filing.answer =
    if (filing.draft.artifacts.map Artifact.path).Nodup then .ok filing.draft.result
    else .error (.persistence .repeatedArtifact)

theorem answered_step (h : room.Answered) (event : Event) : (room.step event).Answered := by
  cases event with
  | drafted engine request =>
      rw [step]
      split <;> exact h
  | filed place =>
      cases hplace : room.pending[place]? with
      | none =>
          rw [step_filed_none hplace]
          exact h
      | some draft =>
          rw [step_filed hplace]
          intro filing hfiling
          rcases List.mem_append.mp hfiling with hold | hnew
          · exact h filing hold
          · rw [List.mem_singleton.mp hnew, Studio.file_eq]
            split <;> rfl
  | served now request other => exact h

/-- The files of a language are those of the last filing for it that was answered with success, all
of them and nothing else; where there was none, they are those from the start. -/
structure HoldsLatest (start : Studio) (room : Workroom) : Prop where
  untouched : ∀ name, (∀ filing ∈ room.filings, ¬ filing.Keeps name) →
    room.studio.store.artifacts name = start.store.artifacts name
  last : ∀ name before filing later, room.filings = before ++ filing :: later →
    filing.Keeps name → (∀ other ∈ later, ¬ other.Keeps name) →
    room.studio.store.artifacts name = filing.draft.artifacts

theorem HoldsLatest.of_artifacts (h : HoldsLatest start room) {next : Workroom}
    (hfilings : next.filings = room.filings)
    (hfiles : ∀ name, next.studio.store.artifacts name = room.studio.store.artifacts name) :
    HoldsLatest start next where
  untouched name hnone := (hfiles name).trans (h.untouched name (hfilings ▸ hnone))
  last name before filing later hsplit hkeeps hlater :=
    (hfiles name).trans (h.last name before filing later (hfilings ▸ hsplit) hkeeps hlater)

theorem holdsLatest_filed (h : HoldsLatest start room) (draft : Draft) (place : ℕ) :
    HoldsLatest start ⟨(room.studio.file draft).2, room.pending.eraseIdx place,
      room.filings ++ [⟨draft, (room.studio.file draft).1⟩]⟩ := by
  constructor
  · intro name hnone
    simp only [List.forall_mem_append, List.forall_mem_singleton] at hnone
    exact ((Studio.artifacts_file draft room.studio name).2 hnone.2).trans
      (h.untouched name hnone.1)
  · intro name before filing later hsplit hkeeps hlater
    -- the filing is the new one, or the new one comes later and does not keep anything
    rcases later.eq_nil_or_concat with rfl | ⟨middle, new, rfl⟩
    · obtain ⟨-, hnew⟩ := List.append_inj' hsplit rfl
      cases hnew
      exact (Studio.artifacts_file draft room.studio name).1 hkeeps
    · rw [List.concat_eq_append, ← List.cons_append, ← List.append_assoc] at hsplit
      obtain ⟨hold, hnew⟩ := List.append_inj' hsplit rfl
      cases hnew
      simp only [List.concat_eq_append, List.forall_mem_append, List.forall_mem_singleton] at hlater
      exact ((Studio.artifacts_file draft room.studio name).2 hlater.2).trans
        (h.last name before filing middle hold hkeeps hlater.1)

theorem holdsLatest_step (h : HoldsLatest start room) (event : Event) :
    HoldsLatest start (room.step event) := by
  cases event with
  | drafted engine request =>
      rw [step]
      split
      · exact h.of_artifacts rfl (fun _ => rfl)
      · exact h
  | filed place =>
      cases hplace : room.pending[place]? with
      | none =>
          rw [step_filed_none hplace]
          exact h
      | some draft =>
          rw [step_filed hplace]
          exact holdsLatest_filed h draft place
  | served now request other =>
      have hfiles : ∀ name, (room.step (.served now request other)).studio.store.artifacts name =
          room.studio.store.artifacts name := by
        intro name
        rw [step, Store.artifacts, Studio.rows_serve other]
        rfl
      exact h.of_artifacts rfl hfiles

/-- Of a generation that is filed as soon as its files are made, the halves are the call. -/
theorem step_generate (room : Workroom) (request : GenerateRequest) :
    ((room.step (.drafted room.studio.engine request)).step (.filed room.pending.length)).studio =
      (room.studio.generate request).2 := by
  rw [(Studio.generatesWhole room.studio request).halves, step]
  cases hdraft : Studio.draft room.studio.engine request with
  | error failure =>
      have hnone : room.pending[room.pending.length]? = none :=
        List.getElem?_eq_none (le_refl _)
      dsimp only
      rw [step_filed_none hnone]
  | ok draft =>
      have hlast : (room.pending ++ [draft])[room.pending.length]? = some draft :=
        List.getElem?_concat_length
      dsimp only
      rw [step_filed hlast]

/-! ### What any events leave -/

theorem accounted_run (start : Studio) (events : List Event) :
    ((run start events).pending ++ (run start events).filings.map Filing.draft).Perm
      (made events) := by
  induction events using List.reverseRecOn with
  | nil => exact .refl _
  | append_singleton events event ih =>
      rw [run_append, made_append]
      exact (accounted_step _ event).trans (ih.append_right _)

theorem answered_run (start : Studio) (events : List Event) : (run start events).Answered := by
  induction events using List.reverseRecOn with
  | nil =>
      intro filing hfiling
      cases hfiling
  | append_singleton events event ih =>
      rw [run_append]
      exact answered_step ih event

theorem holdsLatest_run (start : Studio) (events : List Event) :
    HoldsLatest start (run start events) := by
  induction events using List.reverseRecOn with
  | nil => exact ⟨fun _ _ => rfl, by simp [run]⟩
  | append_singleton events event ih =>
      rw [run_append]
      exact holdsLatest_step ih event

/-- What is promised of generations that overlap. -/
structure NeverMixed (start : Studio) (events : List Event) : Prop where
  /-- Each draft was made by one engine for one request. -/
  origin : ∀ draft, draft ∈ made events ↔ ∃ engine request,
    .drafted engine request ∈ events ∧ Studio.draft engine request = .ok draft
  /-- Each draft that was made is pending or was filed, and only once. -/
  accounted : ((run start events).pending ++ (run start events).filings.map Filing.draft).Perm
    (made events)
  /-- Any pending draft can be filed next, and is pending no longer. -/
  filed : ∀ place draft, (run start events).pending[place]? = some draft →
    ∃ answer, (run start (events ++ [.filed place])).filings =
        (run start events).filings ++ [⟨draft, answer⟩] ∧
      (run start (events ++ [.filed place])).pending = (run start events).pending.eraseIdx place
  /-- A draft that is filed at once is a generation that does not overlap. -/
  alone : ∀ request, (run start (events ++ [.drafted (run start events).studio.engine request,
      .filed (run start events).pending.length])).studio =
    ((run start events).studio.generate request).2
  served : ∀ now request other, (run start (events ++ [.served now request other])).studio =
    (Studio.serve request ((run start events).studio.waitUntil now)).2
  answered : (run start events).Answered
  latest : HoldsLatest start (run start events)

theorem neverMixed (start : Studio) (events : List Event) : NeverMixed start events := by
  constructor
  case origin =>
    intro draft
    exact mem_made
  case accounted => exact accounted_run start events
  case filed =>
    intro place draft hplace
    rw [run_append, step_filed hplace]
    exact ⟨_, rfl, rfl⟩
  case alone =>
    intro request
    rw [List.append_cons, run_append, run_append]
    exact step_generate (run start events) request
  case served =>
    intro now request other
    rw [run_append, step]
  case answered => exact answered_run start events
  case latest => exact holdsLatest_run start events

end Workroom

/-! ### The whole -/

/-- **Generated files are replaced as a whole.**  Keeping files for a language fails exactly if a
path is repeated among them, and then nothing has changed, although the transaction had removed the
old files and inserted some of the new ones; otherwise the files are there as they were given, and
all else is as it was.  A generation keeps what it has made in this way.  However generations for
any names overlap, what is kept for a language in the end are the files that one engine made for one
request, those of the last filing for it that was answered with success. -/
theorem files_replaced_as_a_whole :
    (∀ (store : Store) language artifacts, store.ReplacesWhole language artifacts) ∧
    (∀ (studio : Studio) request, studio.GeneratesWhole request) ∧
    (∀ start events, Workroom.NeverMixed start events) :=
  ⟨Store.replacesWhole, Studio.generatesWhole, Workroom.neverMixed⟩

end LanguageBlueprint
