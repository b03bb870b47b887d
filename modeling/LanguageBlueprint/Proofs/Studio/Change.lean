/-
  LanguageBlueprint/Proofs/Studio/Change.lean
  ===========================================
  **What one request does to a studio.**  Six things can become of a studio, and
  each of them is written down once, with what has been checked before.  What the
  requests do to the engine, to the records and to the generated files is read
  off from that.

    * what becomes of a studio      — `Change`, `change_serve`;
    * generations and updates       — `generate_cases`, `update_cases`;
    * requests that are refused     — `serve_refused`.
-/
import LanguageBlueprint.Proofs.Store.Tables
import LanguageBlueprint.Studio

namespace LanguageBlueprint.Studio

/-- What a request makes of a studio. -/
inductive Change (studio : Studio) : Request → Studio → Prop
  | none (request : Request) : Change studio request studio
  | drawn (name : String) (supply : Nat) :
      Change studio (.fetch name) { studio with supply := supply }
  | saved (b : Blueprint) (hpermits : b.permitsSave = true) (created : Instant) :
      Change studio (.save b)
        { studio with store := studio.store.written studio.store.records b created studio.now }
  | updated (name : String) (b : Blueprint) (hpermits : b.permitsSave = true) {kept : List Record}
      (hkept : kept = studio.store.records ∨ kept = Store.removeName name studio.store.records)
      (created : Instant) :
      Change studio (.update name b)
        { studio with store := studio.store.written kept b created studio.now }
  | deleted (name : String) :
      Change studio (.delete name) { studio with
        store := { studio.store with records := Store.removeName name studio.store.records } }
  | generated (request : GenerateRequest) {artifacts : List Artifact}
      (hengine : studio.engine request.blueprint request.options = .ok artifacts)
      (hpermits : request.blueprint.permitsGenerate = true)
      (hpaths : (artifacts.map Artifact.path).Nodup) :
      Change studio (.generate request) { studio with store := { studio.store with
        rows := Store.replaceRows request.blueprint.name artifacts studio.store.rows } }

variable {studio after : Studio} {request : Request}

/-! ### The requests -/

/-- A generation fails and changes nothing, or the blueprint is without findings and its files, no
two of which have one path, take the place of those that were kept for the language. -/
theorem generate_cases (request : GenerateRequest) (studio : Studio) :
    (∃ failure, serve (.generate request) studio = (.error failure, studio)) ∨
    (∃ artifacts, studio.engine request.blueprint request.options = .ok artifacts ∧
      request.blueprint.permitsGenerate = true ∧ (artifacts.map Artifact.path).Nodup ∧
      serve (.generate request) studio =
        (.ok ⟨request.blueprint.name, request.blueprint.execution, artifacts.map Artifact.path⟩,
          { studio with store := { studio.store with
            rows := Store.replaceRows request.blueprint.name artifacts studio.store.rows } })) := by
  simp only [serve, generate, Store.keepArtifacts_eq]
  cases hpermits : request.blueprint.permitsGenerate with
  | false => exact .inl ⟨_, rfl⟩
  | true =>
      cases hengine : studio.engine request.blueprint request.options with
      | error failure => exact .inl ⟨_, rfl⟩
      | ok artifacts =>
          by_cases hpaths : (artifacts.map Artifact.path).Nodup
          · right
            refine ⟨artifacts, rfl, rfl, hpaths, ?_⟩
            simp only [Bool.not_true, Bool.false_eq_true, if_false, hpaths, if_true, Except.map]
          · left
            simp only [Bool.not_true, Bool.false_eq_true, if_false, hpaths, Except.map]
            exact ⟨_, rfl⟩

/-- An update fails and changes nothing, or the blueprint is written over the record with the name,
or with that record taken out. -/
theorem update_cases (name : String) (b : Blueprint) (studio : Studio) :
    (∃ failure, serve (.update name b) studio = (.error failure, studio)) ∨
    (∃ kept created, b.permitsSave = true ∧
      (kept = studio.store.records ∨ kept = Store.removeName name studio.store.records) ∧
      serve (.update name b) studio = (.ok ⟨"Language specification updated"⟩,
        { studio with store := studio.store.written kept b created studio.now })) := by
  simp only [serve, update]
  cases hpermits : b.permitsSave with
  | false => exact .inl ⟨_, rfl⟩
  | true =>
      rw [Bool.not_true, if_neg Bool.false_ne_true]
      rcases studio.store.replace_cases name b studio.now with ⟨-, hreplace⟩ | ⟨-, -, hreplace⟩ |
        ⟨-, -, hreplace⟩ | ⟨-, -, hreplace⟩
      · rw [hreplace]
        exact .inl ⟨_, rfl⟩
      · rw [hreplace]
        exact .inl ⟨_, rfl⟩
      · rw [hreplace]
        exact .inr ⟨_, _, rfl, .inl rfl, rfl⟩
      · rw [hreplace]
        exact .inr ⟨_, _, rfl, .inr rfl, rfl⟩

theorem change_serve (request : Request) (studio : Studio) :
    Change studio request (serve request studio).2 := by
  cases request with
  | save b =>
      simp only [serve, save]
      cases hpermits : b.permitsSave with
      | false => exact .none _
      | true => exact .saved b hpermits _
  | fetch name =>
      simp only [serve, fetch]
      split
      · exact .drawn name _
      · exact .none _
      · exact .none _
  | list => exact .none _
  | update name b =>
      rcases update_cases name b studio with
        ⟨failure, hserve⟩ | ⟨kept, created, hpermits, hkept, hserve⟩
      · rw [hserve]
        exact .none _
      · rw [hserve]
        exact .updated name b hpermits hkept created
  | delete name =>
      simp only [serve, delete, Store.remove]
      cases studio.store.contains name with
      | false => exact .none _
      | true => exact .deleted name
  | generate wanted =>
      rcases generate_cases wanted studio with
        ⟨failure, hserve⟩ | ⟨artifacts, hengine, hpermits, hpaths, hserve⟩
      · rw [hserve]
        exact .none _
      · rw [hserve]
        exact .generated wanted hengine hpermits hpaths
  | download name => exact .none _

/-- A request that is refused changes nothing. -/
theorem serve_refused {request : Request} {studio : Studio} {failure : Failure}
    (h : (serve request studio).1 = .error failure) : (serve request studio).2 = studio := by
  cases request with
  | save b =>
      simp only [serve, save] at h ⊢
      split at h
      · rename_i hblocking
        rw [if_pos hblocking]
      · cases h
  | fetch name =>
      simp only [serve, fetch] at h ⊢
      split at h
      · cases h
      · rfl
      · rfl
  | list => rfl
  | update name b =>
      rcases update_cases name b studio with ⟨failure, hserve⟩ | ⟨kept, created, -, -, hserve⟩
      · rw [hserve]
      · rw [hserve] at h
        cases h
  | delete name =>
      simp only [serve, delete] at h ⊢
      split at h
      · cases h
      · rfl
  | generate wanted =>
      rcases generate_cases wanted studio with ⟨failure, hserve⟩ | ⟨artifacts, -, -, -, hserve⟩
      · rw [hserve]
      · rw [hserve] at h
        cases h
  | download name => rfl

/-! ### What follows for each part -/

theorem Change.engine_eq (h : Change studio request after) : after.engine = studio.engine := by
  cases h <;> rfl

theorem engine_serve (request : Request) (studio : Studio) :
    (serve request studio).2.engine = studio.engine :=
  (change_serve request studio).engine_eq

/-- Only a generation changes the generated files. -/
theorem Change.rows_eq (h : Change studio request after)
    (hother : ∀ wanted, request ≠ .generate wanted) : after.store.rows = studio.store.rows := by
  cases h with
  | generated wanted => exact absurd rfl (hother wanted)
  | _ => rfl

theorem rows_serve (h : ∀ wanted, request ≠ .generate wanted) (studio : Studio) :
    (serve request studio).2.store.rows = studio.store.rows :=
  (change_serve request studio).rows_eq h

/-- The records stay in order. -/
theorem Change.ascending (h : Change studio request after)
    (hbefore : Store.Ascending studio.store.records) : Store.Ascending after.store.records := by
  cases h with
  | none => exact hbefore
  | drawn => exact hbefore
  | saved b => exact Store.ascending_upsert _ hbefore
  | updated name b _ hkept =>
      rcases hkept with rfl | rfl
      · exact Store.ascending_upsert _ hbefore
      · exact Store.ascending_upsert _ (Store.ascending_removeName name hbefore)
  | deleted name => exact Store.ascending_removeName name hbefore
  | generated => exact hbefore

/-- What is true of the records, and of those that are written for blueprints that may be stored,
stays true of the records. -/
theorem Change.forall_records {p : Record → Prop} (h : Change studio request after)
    (hbefore : ∀ record ∈ studio.store.records, p record)
    (hwritten : ∀ (b : Blueprint) created, b.permitsSave = true →
      p (.ofBlueprint b created studio.now)) :
    ∀ record ∈ after.store.records, p record := by
  have hupsert : ∀ {b : Blueprint} {kept : List Record} {created : Instant},
      b.permitsSave = true → (∀ record ∈ kept, p record) →
      ∀ record ∈ Store.upsert (.ofBlueprint b created studio.now) kept, p record := by
    intro b kept created hpermits hkept record hrecord
    rcases Store.mem_upsert hrecord with rfl | hold
    · exact hwritten b created hpermits
    · exact hkept record hold
  have hremoved : ∀ name, ∀ record ∈ Store.removeName name studio.store.records, p record :=
    fun name record hrecord => hbefore record (List.mem_of_mem_filter hrecord)
  cases h with
  | none => exact hbefore
  | drawn => exact hbefore
  | saved b hpermits => exact hupsert hpermits hbefore
  | updated name b hpermits hkept =>
      rcases hkept with rfl | rfl
      · exact hupsert hpermits hbefore
      · exact hupsert hpermits (hremoved name)
  | deleted name => exact hremoved name
  | generated => exact hbefore

end LanguageBlueprint.Studio
