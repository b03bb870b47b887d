/-
  LanguageBlueprint/Proofs/Store/Tampering.lean
  =============================================
  **A changed body is never served.**  Whatever is done to a store, each of its
  records was written with the digest of its body, whichever step wrote it last.
  So a body that is overwritten behind the store's back no longer matches its
  digest, be it the text of a blueprint or not, and it is refused until a step
  writes the name again.  Such a step writes body and digest together, and what
  it has written is found.  Nothing else is read differently.

    * what a step does to the records        — `Step`, `perform_cases`;
    * digests belong to their bodies         — `Sealed`, `sealed_performAll`;
    * bodies that are refused                — `Spoilt`, `spoilt_performAll`;
    * reading after an overwriting           — `restore_tamperBody`, `summaries_tamperBody`;
    * the whole                              — `changed_body_never_served`.
-/
import LanguageBlueprint.Proofs.Store.Tables

namespace LanguageBlueprint.Store

/-! ### Steps -/

/-- What can be done to a store. -/
inductive Step where
  | persist (b : Blueprint) (now : Instant)
  | replace (name : String) (b : Blueprint) (now : Instant)
  | remove (name : String)
  | keepArtifacts (language : String) (artifacts : List Artifact)

/-- The step writes a record under the name, if it writes one. -/
def Step.Writes (name : String) : Step → Prop
  | persist b _ => b.name = name
  | replace _ b _ => b.name = name
  | remove _ => False
  | keepArtifacts _ _ => False

/-- The store after a step, whatever the step has answered. -/
def perform (store : Store) : Step → Store
  | .persist b now => store.persist b now
  | .replace name b now => (store.replace name b now).2
  | .remove name => (store.remove name).2
  | .keepArtifacts language artifacts => (store.keepArtifacts language artifacts).2

def performAll (store : Store) (steps : List Step) : Store := steps.foldl perform store

variable {store : Store} {name : String}

/-- The records are kept, all or all but those with one name, and at most one is written. -/
theorem perform_cases (store : Store) (step : Step) :
    ∃ kept, (kept = store.records ∨ ∃ name, kept = removeName name store.records) ∧
      ((store.perform step).records = kept ∨
        ∃ b created now, step.Writes b.name ∧
          (store.perform step).records = upsert (.ofBlueprint b created now) kept) := by
  cases step with
  | persist b now =>
      rw [perform, persist_eq]
      exact ⟨_, .inl rfl, .inr ⟨b, _, now, rfl, rfl⟩⟩
  | replace name b now =>
      rw [perform]
      rcases replace_cases store name b now with ⟨-, hreplace⟩ | ⟨-, -, hreplace⟩ |
        ⟨-, -, hreplace⟩ | ⟨-, -, hreplace⟩
      · rw [hreplace]
        exact ⟨_, .inl rfl, .inl rfl⟩
      · rw [hreplace]
        exact ⟨_, .inl rfl, .inl rfl⟩
      · rw [hreplace]
        exact ⟨_, .inl rfl, .inr ⟨b, _, now, rfl, rfl⟩⟩
      · rw [hreplace]
        exact ⟨_, .inr ⟨name, rfl⟩, .inr ⟨b, _, now, rfl, rfl⟩⟩
  | remove name => exact ⟨_, .inr ⟨name, rfl⟩, .inl rfl⟩
  | keepArtifacts language artifacts =>
      refine ⟨_, .inl rfl, .inl ?_⟩
      rw [perform, keepArtifacts_eq]
      split <;> rfl

/-! ### Digests belong to their bodies -/

/-- Every record has the digest of its body. -/
def Sealed (store : Store) : Prop := ∀ record ∈ store.records, record.digest = .of record.body

theorem sealed_empty : Sealed {} := by
  intro record hrecord
  cases hrecord

theorem sealed_perform (h : store.Sealed) (step : Step) : (store.perform step).Sealed := by
  obtain ⟨kept, hkept, hrecords⟩ := perform_cases store step
  have hsealed : ∀ record ∈ kept, record.digest = .of record.body := by
    intro record hrecord
    rcases hkept with rfl | ⟨name, rfl⟩
    · exact h record hrecord
    · exact h record (List.mem_filter.mp hrecord).1
  intro record hrecord
  rcases hrecords with hsame | ⟨b, created, now, -, hwritten⟩
  · rw [hsame] at hrecord
    exact hsealed record hrecord
  · rw [hwritten] at hrecord
    rcases mem_upsert hrecord with rfl | hold
    · rfl
    · exact hsealed record hold

theorem sealed_performAll (h : store.Sealed) (steps : List Step) :
    (store.performAll steps).Sealed := by
  induction steps generalizing store with
  | nil => exact h
  | cons step steps ih => exact ih (sealed_perform h step)

/-! ### Bodies that are refused -/

/-- What is stored under the name, if anything is, does not match its digest. -/
def Spoilt (name : String) (store : Store) : Prop :=
  ∀ record, find? name store.records = some record → Digest.of record.body ≠ record.digest

/-- What is spoilt stays so until a step writes under the name. -/
theorem spoilt_perform (h : store.Spoilt name) {step : Step} (hother : ¬ step.Writes name) :
    (store.perform step).Spoilt name := by
  obtain ⟨kept, hkept, hrecords⟩ := perform_cases store step
  have hfound : ∀ record,
      find? name kept = some record → find? name store.records = some record := by
    intro record hrecord
    rcases hkept with rfl | ⟨removed, rfl⟩
    · exact hrecord
    · rw [find?_removeName] at hrecord
      exact (Option.ite_none_left_eq_some.mp hrecord).2
  intro record hrecord
  rcases hrecords with hsame | ⟨b, created, now, hwrites, hwritten⟩
  · rw [hsame] at hrecord
    exact h record (hfound record hrecord)
  · have hname : (Record.ofBlueprint b created now).name ≠ name := by
      rintro rfl
      exact hother hwrites
    rw [hwritten, find?_upsert, if_neg hname] at hrecord
    exact h record (hfound record hrecord)

theorem spoilt_performAll (h : store.Spoilt name) {steps : List Step}
    (hothers : ∀ step ∈ steps, ¬ step.Writes name) : (store.performAll steps).Spoilt name := by
  induction steps generalizing store with
  | nil => exact h
  | cons step steps ih =>
      rw [List.forall_mem_cons] at hothers
      exact ih (spoilt_perform h hothers.1) hothers.2

/-- What is spoilt is not served. -/
theorem restore_of_spoilt (h : store.Spoilt name) (supply : ℕ) :
    store.restore name supply = .ok (none, supply) ∨
      store.restore name supply = .error (.corruption (.digestMismatch name)) := by
  rw [restore]
  cases hfound : find? name store.records with
  | none => exact .inl rfl
  | some record => exact .inr (if_pos (h record hfound))

/-! ### What is written is found -/

theorem restore_written (store : Store) (records : List Record) (b : Blueprint)
    (created now : Instant) (supply : ℕ) :
    (store.written records b created now).restore b.name supply = .ok (some b, supply) :=
  restore_of_find? (find?_written store records b created now) supply

theorem restore_replace (hstored : store.contains name = true) {b : Blueprint}
    (hfree : b.name = name ∨ store.contains b.name = false) (now : Instant) :
    ∃ after, store.replace name b now = (.ok true, after) ∧
      ∀ supply, after.restore b.name supply = .ok (some b, supply) := by
  rcases replace_cases store name b now with ⟨hnone, -⟩ | ⟨-, ⟨hother, htaken⟩, -⟩ |
    ⟨-, -, hreplace⟩ | ⟨-, -, hreplace⟩
  · rw [hstored] at hnone
    cases hnone
  · rw [hfree.resolve_left hother] at htaken
    cases htaken
  · exact ⟨_, hreplace, restore_written _ _ b _ now⟩
  · exact ⟨_, hreplace, restore_written _ _ b _ now⟩

/-! ### A body is overwritten -/

theorem find?_alter (store : Store) (name other : String) {change : Record → Record}
    (hname : ∀ record, (change record).name = record.name) :
    find? other (store.alter name change).2.records =
      (find? other store.records).map
        (fun record => if record.name = name then change record else record) := by
  have hsame : ∀ record : Record,
      (if record.name = name then change record else record).name = record.name := by
    intro record
    split
    · exact hname record
    · rfl
  simp only [find?, alter, List.find?_map, Function.comp_def, hsame]

/-- Under the name the body alone is another one, and under other names nothing is. -/
theorem find?_tamperBody (store : Store) (name other text : String) :
    find? other (store.tamperBody name text false).2.records =
      (find? other store.records).map
        (fun record => if record.name = name then { record with body := text } else record) :=
  find?_alter store name other (fun _ => rfl)

theorem name_of_find? {record : Record} (h : find? name store.records = some record) :
    record.name = name := by
  have hfound := List.find?_some h
  exact beq_iff_eq.mp hfound

/-- Under the name there is a record that is spoilt. -/
theorem spoilt_tamperBody (h : store.Sealed) {body text : String}
    (hstored : store.storedBody name = some body) (hdiffers : text ≠ body) :
    (store.tamperBody name text false).2.contains name = true ∧
      (store.tamperBody name text false).2.Spoilt name := by
  obtain ⟨record, hfound, rfl⟩ := Option.map_eq_some_iff.mp hstored
  have hchanged : find? name (store.tamperBody name text false).2.records =
      some { record with body := text } := by
    rw [find?_tamperBody, hfound, Option.map_some, if_pos (name_of_find? hfound)]
  constructor
  · rw [contains, hchanged]
    rfl
  · intro other hother
    rw [hchanged, Option.some_inj] at hother
    subst hother
    have hdigest : record.digest = .of record.body := h record (List.mem_of_find?_eq_some hfound)
    intro hmatches
    -- the digests of two bodies are the same only if the bodies are
    exact hdiffers (Digest.mk.inj (hmatches.trans hdigest))

theorem restore_tamperBody (store : Store) {other : String} (hother : other ≠ name)
    (text : String) (supply : ℕ) :
    (store.tamperBody name text false).2.restore other supply = store.restore other supply := by
  have hsame : find? other (store.tamperBody name text false).2.records =
      find? other store.records := by
    rw [find?_tamperBody]
    cases hfound : find? other store.records with
    | none => rfl
    | some record =>
        have hname : ¬ record.name = name := name_of_find? hfound ▸ hother
        rw [Option.map_some, if_neg hname]
  rw [restore, restore, hsame]

/-- A listing does not look at bodies. -/
theorem summaries_tamperBody (store : Store) (name text : String) :
    (store.tamperBody name text false).2.summaries = store.summaries := by
  have hlisted : ∀ records : List Record, summariesOf (records.map (fun record =>
      if record.name = name then { record with body := text } else record)) =
      summariesOf records := by
    intro records
    induction records with
    | nil => rfl
    | cons record records ih =>
        have hsummary : summary (if record.name = name then { record with body := text }
            else record) = summary record := by
          split <;> rfl
        rw [List.map_cons, summariesOf, summariesOf, hsummary, ih]
  exact hlisted store.records

/-- What is promised when the body that a store holds under a name has been overwritten. -/
structure Withholds (before tampered : Store) (name : String) : Prop where
  refused : ∀ supply, tampered.restore name supply = .error (.corruption (.digestMismatch name))
  others : ∀ other, other ≠ name →
    ∀ supply, tampered.restore other supply = before.restore other supply
  listing : tampered.summaries = before.summaries
  /-- Whatever else is done, nothing is served under the name that was not written since. -/
  unserved : ∀ steps : List Step, (∀ step ∈ steps, ¬ step.Writes name) →
    ∀ supply b next, (tampered.performAll steps).restore name supply ≠ .ok (some b, next)
  persisted : ∀ (steps : List Step) (b : Blueprint) now, b.name = name →
    ∀ supply, ((tampered.performAll steps).persist b now).restore name supply =
      .ok (some b, supply)
  stored : tampered.contains name = true
  replaced : ∀ steps : List Step, (tampered.performAll steps).contains name = true →
    ∀ (b : Blueprint) now,
      (b.name = name ∨ (tampered.performAll steps).contains b.name = false) →
      ∃ after, (tampered.performAll steps).replace name b now = (.ok true, after) ∧
        ∀ supply, after.restore b.name supply = .ok (some b, supply)

/-- **A changed body is never served.**  After any steps from an empty store, let the body alone
that is stored under a name be overwritten with another text, whatever it is: the name is refused,
the other names and the listing are read as before, and what is written under the name from then on
is found. -/
theorem changed_body_never_served (steps : List Step) {name body text : String}
    (hstored : (performAll {} steps).storedBody name = some body) (hdiffers : text ≠ body) :
    Withholds (performAll {} steps) ((performAll {} steps).tamperBody name text false).2 name := by
  have hsealed := sealed_performAll sealed_empty steps
  obtain ⟨hcontains, hspoilt⟩ := spoilt_tamperBody hsealed hstored hdiffers
  constructor
  case refused =>
    intro supply
    obtain ⟨record, hfound⟩ := Option.isSome_iff_exists.mp hcontains
    rw [restore, hfound]
    exact if_pos (hspoilt record hfound)
  case others =>
    intro other hother supply
    exact restore_tamperBody _ hother text supply
  case listing => exact summaries_tamperBody _ name text
  case unserved =>
    intro more hmore supply b next hserved
    rcases restore_of_spoilt (spoilt_performAll hspoilt hmore) supply with hnone | hrefused
    · rw [hnone] at hserved
      cases hserved
    · rw [hrefused] at hserved
      cases hserved
  case persisted =>
    rintro more b now rfl supply
    rw [persist_eq]
    exact restore_written _ _ b _ now supply
  case stored => exact hcontains
  case replaced =>
    intro more hthere b now hfree
    exact restore_replace hthere hfree now

/-- A language that is stored, and then renamed. -/
def savedAndRenamed : List Step :=
  let now : Instant := ⟨⟨2024, 1, 1⟩, 0, 0, 0, 0⟩
  [.persist { name := "Toy" } now, .replace "Toy" { name := "Tiny" } now]

theorem changed_body_never_served_renamed :
    (performAll {} savedAndRenamed).storedBody "Tiny" =
      some (Blueprint.codec.compact { name := "Tiny" }) ∧
    "\x7b\x7d" ≠ Blueprint.codec.compact { name := "Tiny" } ∧
    Withholds (performAll {} savedAndRenamed)
      ((performAll {} savedAndRenamed).tamperBody "Tiny" "\x7b\x7d" false).2 "Tiny" := by
  have hstored : (performAll {} savedAndRenamed).storedBody "Tiny" =
      some (Blueprint.codec.compact { name := "Tiny" }) := by
    rfl
  have hdiffers : "\x7b\x7d" ≠ Blueprint.codec.compact { name := "Tiny" } := by
    decide +kernel
  exact ⟨hstored, hdiffers, changed_body_never_served savedAndRenamed hstored hdiffers⟩

end LanguageBlueprint.Store
