/-
  LanguageBlueprint/Proofs/Http/Integrity.lean
  ============================================
  **The service never holds an invalid language.**  Whoever sends requests, and
  whatever their methods, targets and bodies are, a record is written only for a
  blueprint that may be stored, and files are kept only if the engine made them
  for a blueprint without findings.  What is read of a record later is the
  blueprint it was written for, since encoding loses nothing.  A request that is
  not answered with success leaves both tables as they were.

    * what a request makes of the tables   — `wholesome_serve`;
    * what a request over HTTP comes to    — `tended_handle`;
    * any requests in a row                — `wholesome_after`;
    * the whole                            — `service_holds_valid`.
-/
import LanguageBlueprint.Http.Router
import LanguageBlueprint.Proofs.Review.Verdict
import LanguageBlueprint.Proofs.Studio.Catalogue
import LanguageBlueprint.Proofs.Studio.Change

namespace LanguageBlueprint

open Text

/-! ### What the tables hold -/

namespace Store

theorem insertRow_ne_nil (row : ArtifactRow) (rows : List ArtifactRow) :
    insertRow row rows ≠ [] := by
  cases rows with
  | nil => exact List.cons_ne_nil row []
  | cons other others =>
      rw [insertRow]
      split
      · exact List.cons_ne_nil row _
      · exact List.cons_ne_nil other _

/-- A language with a row has files. -/
theorem artifacts_ne_nil {store : Store} {row : ArtifactRow} (h : row ∈ store.rows) :
    store.artifacts row.language ≠ [] := by
  have hrow : row ∈ store.rows.filter (fun other => other.language == row.language) :=
    List.mem_filter.mpr ⟨h, beq_self_eq_true row.language⟩
  rw [artifacts, Ne, List.map_eq_nil_iff]
  cases hrows : store.rows.filter (fun other => other.language == row.language) with
  | nil =>
      rw [hrows] at hrow
      cases hrow
  | cons other others => exact insertRow_ne_nil other _

/-- A language with files has a row. -/
theorem exists_row_of_artifacts {store : Store} {language : String}
    (h : store.artifacts language ≠ []) : ∃ row ∈ store.rows, row.language = language := by
  by_contra hnone
  have hrows : store.rows.filter (fun row => row.language == language) = [] := by
    rw [List.filter_eq_nil_iff]
    intro row hrow hlanguage
    exact hnone ⟨row, hrow, beq_iff_eq.mp hlanguage⟩
  apply h
  rw [artifacts, hrows]
  rfl

theorem mem_replaceRows {language : String} {artifacts : List Artifact} {rows : List ArtifactRow}
    {row : ArtifactRow} (h : row ∈ replaceRows language artifacts rows) :
    (row ∈ rows ∧ row.language ≠ language) ∨ row.language = language := by
  rcases List.mem_append.mp h with hold | hnew
  · left
    rw [List.mem_filter, bne_iff_ne] at hold
    exact hold
  · exact .inr (mem_rowsFor hnew).1

/-- Records are written for blueprints that may be stored, and files are what the engine made for
blueprints without findings. -/
structure Wholesome (engine : Engine) (store : Store) : Prop where
  ascending : Ascending store.records
  records : ∀ record ∈ store.records, ∃ b created now,
    b.permitsSave = true ∧ record = Record.ofBlueprint b created now
  files : ∀ row ∈ store.rows, ∃ b options,
    b.permitsGenerate = true ∧ b.name = row.language ∧
    engine b options = .ok (store.artifacts row.language) ∧
    ((store.artifacts row.language).map Artifact.path).Nodup

variable {engine : Engine} {store : Store}

theorem wholesome_empty (engine : Engine) : Wholesome engine {} where
  ascending := .nil
  records _ h := by cases h
  files _ h := by cases h

/-- The blueprint of a record is what its body is read as, and what is found under its name. -/
theorem Wholesome.readable (h : Wholesome engine store) {record : Record}
    (hrecord : record ∈ store.records) :
    ∃ b, (∀ supply, (Blueprint.codec.ofText record.body).run supply = .ok (b, supply)) ∧
      (∀ supply, store.restore record.name supply = .ok (some b, supply)) ∧
      b.blocking = [] ∧ isBlank b.name = false ∧ b.name = record.name := by
  obtain ⟨b, created, now, hpermits, hof⟩ := h.records record hrecord
  have hfound : find? record.name store.records = some (.ofBlueprint b created now) := by
    rw [find?_of_mem h.ascending hrecord, hof]
  have hclean : b.blocking = [] := List.isEmpty_iff.mp hpermits
  have hname : isBlank b.name = false :=
    Review.isBlank_eq_false.mpr (Blueprint.blocking_eq_nil.mp hclean).name
  refine ⟨b, ?_, restore_of_find? hfound, hclean, hname, ?_⟩
  · intro supply
    rw [hof, Record.ofBlueprint, Blueprint.ofText_compact]
    rfl
  · rw [hof]
    rfl

end Store

/-! ### One request to the studio -/

namespace Studio

variable {engine : Engine} {studio after : Studio} {request : Request}

theorem Change.wholesome (hchange : Change studio request after)
    (h : studio.store.Wholesome studio.engine) : after.store.Wholesome studio.engine := by
  refine ⟨hchange.ascending h.ascending, hchange.forall_records h.records ?_, ?_⟩
  · intro b created hpermits
    exact ⟨b, created, studio.now, hpermits, rfl⟩
  · cases hchange with
    | generated wanted hengine hpermits hpaths =>
        intro row hrow
        rw [Store.artifacts_replaceRows]
        rcases Store.mem_replaceRows hrow with ⟨hold, hother⟩ | hlanguage
        · rw [if_neg hother]
          exact h.files row hold
        · rw [if_pos hlanguage, hlanguage]
          exact ⟨wanted.blueprint, wanted.options, hpermits, rfl, hengine, hpaths⟩
    | _ => exact h.files

/-- A request, whatever it is, leaves the tables wholesome. -/
theorem wholesome_serve (h : studio.store.Wholesome studio.engine) (request : Request) :
    (serve request studio).2.store.Wholesome studio.engine :=
  (change_serve request studio).wholesome h

end Studio

/-! ### One request over HTTP -/

namespace Http

/-- A request whose answer does not change the tables. -/
def IsReading (request : LanguageBlueprint.Request) : Prop :=
  ∀ studio, (Studio.serve request studio).2.store = studio.store

/-- What has become of a studio: the tables are as they were or as the answer to one request of
its own has left them, and they are as they were if the response is no success. -/
structure Tended (studio : Studio) (outcome : Response × Studio) : Prop where
  engine : outcome.2.engine = studio.engine
  tables : outcome.2.store = studio.store ∨
    ∃ request supply,
      outcome.2.store = (Studio.serve request { studio with supply := supply }).2.store
  refused : outcome.1.isSuccess = false → outcome.2.store = studio.store

variable {studio : Studio}

theorem tended_plain (response : Response) : Tended studio (response, studio) :=
  ⟨rfl, .inl rfl, fun _ => rfl⟩

/-- The studio is asked, and its answer is a success or changes nothing. -/
theorem tended_ask {request : LanguageBlueprint.Request} {encode : request.Answer → Response}
    (h : (∀ answer, (encode answer).isSuccess = true) ∨ IsReading request) (supply : ℕ) :
    Tended studio (ask request encode { studio with supply := supply }) := by
  refine ⟨Studio.engine_serve request _, .inr ⟨request, supply, rfl⟩, ?_⟩
  intro hrefused
  rcases h with hsuccess | hreading
  · rw [ask] at hrefused ⊢
    cases hanswer : (Studio.serve request { studio with supply := supply }).1 with
    | ok answer =>
        simp only [hanswer, respond, hsuccess answer] at hrefused
        cases hrefused
    | error failure => rw [Studio.serve_refused hanswer]
  · exact hreading { studio with supply := supply }

theorem tended_success {request : LanguageBlueprint.Request} (encode : request.Answer → Json)
    (supply : ℕ) :
    Tended studio (ask request (fun answer => success (encode answer))
      { studio with supply := supply }) :=
  tended_ask (.inl fun _ => rfl) supply

theorem tended_withName {written : List Char} {go : String → Response × Studio}
    (h : ∀ name, Tended studio (go name)) : Tended studio (withName written studio go) := by
  rw [withName]
  split
  · exact h _
  · exact tended_plain _

/-- The body is read before the studio is asked; that draws fresh numbers at most. -/
theorem tended_withBody {α : Type} {wording : Wording} {codec : Codec α} {request : Request}
    {go : α → Studio → Response × Studio}
    (h : ∀ a supply, Tended studio (go a { studio with supply := supply })) :
    Tended studio (withBody wording codec request studio go) := by
  rw [withBody]
  split
  · exact tended_plain _
  · split
    · exact h _ _
    · exact tended_plain _

theorem tended_answerRoute (wording : Wording) (request : Request) (studio : Studio)
    (route : Route) (method : Method) :
    Tended studio (answerRoute wording request studio route method) := by
  rw [answerRoute.eq_def]
  split
  · exact tended_plain _
  · exact tended_success _ studio.supply
  · exact tended_withBody fun b supply => tended_success _ supply
  · exact tended_withName fun name => tended_success _ studio.supply
  · exact tended_withName fun name => tended_withBody fun b supply => tended_success _ supply
  · exact tended_withName fun name => tended_success _ studio.supply
  · exact tended_withBody fun wanted supply => tended_success _ supply
  · -- an archive whose name no header holds is no success, but a download changes nothing
    exact tended_withName fun name => tended_ask (.inr fun _ => rfl) studio.supply
  · exact tended_plain _

/-- **A request comes to one request of the studio's own at most**, whatever its method, its
target and its body are. -/
theorem tended_handle (wording : Wording) (request : Request) (studio : Studio) :
    Tended studio (handle wording request studio) := by
  rw [handle]
  split
  · exact tended_plain _
  · split
    · exact tended_plain _
    · split
      · have h := tended_answerRoute wording request studio ‹Route› .get
        exact ⟨h.engine, h.tables, h.refused⟩
      · exact tended_answerRoute _ _ _ _ _

theorem wholesome_handle (wording : Wording) (h : studio.store.Wholesome studio.engine)
    (request : Request) :
    (handle wording request studio).2.store.Wholesome
      (handle wording request studio).2.engine := by
  have htended := tended_handle wording request studio
  rw [htended.engine]
  rcases htended.tables with hsame | ⟨asked, supply, hserved⟩
  · rw [hsame]
    exact h
  · rw [hserved]
    exact @Studio.wholesome_serve { studio with supply := supply } h asked

/-! ### Any requests in a row -/

/-- The studio after some requests, each made at a time of its own. -/
def after (wording : Wording) (studio : Studio) (calls : List (Instant × Request)) : Studio :=
  calls.foldl (fun studio call => (handle wording call.2 (studio.waitUntil call.1)).2) studio

theorem wholesome_after (wording : Wording) (calls : List (Instant × Request)) :
    ∀ {studio : Studio}, studio.store.Wholesome studio.engine →
      (after wording studio calls).store.Wholesome (after wording studio calls).engine ∧
      (after wording studio calls).engine = studio.engine := by
  induction calls with
  | nil => exact fun h => ⟨h, rfl⟩
  | cons call calls ih =>
      intro studio h
      have hwaited : (studio.waitUntil call.1).store.Wholesome (studio.waitUntil call.1).engine := h
      obtain ⟨hrest, hengine⟩ := ih (wholesome_handle wording hwaited call.2)
      exact ⟨hrest, hengine.trans (tended_handle wording call.2 (studio.waitUntil call.1)).engine⟩

/-- **The service never holds an invalid language.**  After any requests, with any methods,
targets and bodies, every record is read as a blueprint without blocking findings that has the
record's name, which is not blank; the files of a language are those that the engine made for a
blueprint of that name without any finding, at least one and no two with one path; and a request
that is not answered with success leaves both tables as they were. -/
theorem service_holds_valid (wording : Wording) (engine : Engine) (start : Instant) (supply : ℕ)
    (calls : List (Instant × Request)) :
    let studio := after wording (Studio.opened engine start supply) calls
    (∀ record ∈ studio.store.records, ∃ b,
      (∀ supply, (Blueprint.codec.ofText record.body).run supply = .ok (b, supply)) ∧
      (∀ supply, studio.store.restore record.name supply = .ok (some b, supply)) ∧
      b.blocking = [] ∧ isBlank b.name = false ∧ b.name = record.name) ∧
    (∀ row ∈ studio.store.rows, ∃ b options,
      b.review = [] ∧ b.name = row.language ∧
      engine b options = .ok (studio.store.artifacts row.language) ∧
      studio.store.artifacts row.language ≠ [] ∧
      ((studio.store.artifacts row.language).map Artifact.path).Nodup) ∧
    ∀ now request, (handle wording request (studio.waitUntil now)).1.isSuccess = false →
      (handle wording request (studio.waitUntil now)).2.store = studio.store := by
  intro studio
  obtain ⟨hwholesome, hengine⟩ : studio.store.Wholesome studio.engine ∧ studio.engine = engine :=
    @wholesome_after wording calls (.opened engine start supply) (Store.wholesome_empty engine)
  clear_value studio
  rw [hengine] at hwholesome
  refine ⟨fun record hrecord => hwholesome.readable hrecord, ?_, ?_⟩
  · intro row hrow
    obtain ⟨b, options, hpermits, hname, hmade, hpaths⟩ := hwholesome.files row hrow
    exact ⟨b, options, List.isEmpty_iff.mp hpermits, hname, hmade, Store.artifacts_ne_nil hrow,
      hpaths⟩
  · intro now request hrefused
    exact (tended_handle wording request (studio.waitUntil now)).refused hrefused

end Http

end LanguageBlueprint
