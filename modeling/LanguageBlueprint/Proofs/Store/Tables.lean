/-
  LanguageBlueprint/Proofs/Store/Tables.lean
  ==========================================
  **What the tables hold.**  Records stay in ascending order of their names, so
  that a record is found under its own name only.  What is read of a record that
  was written for a blueprint, be it the body or a line of the listing, is that
  blueprint again.

    * the order of the records       — `ascending_upsert`, `ascending_removeName`;
    * what is written of a record    — `replace_cases`, `createdAt_persist`, `createdAt_replace`;
    * what is read of a record       — `restore_of_find?`, `summary_ofBlueprint`;
    * how far insertions come        — `insertFiles_cases`, `rollBack_insertFiles`;
    * the files of a language        — `keepArtifacts_eq`, `artifacts_replaceRows`.
-/
import LanguageBlueprint.Proofs.Exchange.RoundTrip
import LanguageBlueprint.Store.Basic
import Mathlib.Data.List.Nodup
import Mathlib.Data.String.Basic
import Mathlib.Tactic.Tauto

namespace LanguageBlueprint.Store

variable {records : List Record} {record : Record}

/-! ### The order of the records -/

/-- The records stand in ascending order of their names. -/
def Ascending (records : List Record) : Prop := (records.map Record.name).Pairwise (· < ·)

theorem Ascending.nodup (h : Ascending records) : (records.map Record.name).Nodup :=
  List.Pairwise.imp (fun hlt => hlt.ne) h

theorem ascending_cons :
    Ascending (record :: records) ↔ (∀ other ∈ records, record.name < other.name) ∧
      Ascending records := by
  rw [Ascending, List.map_cons, List.pairwise_cons, List.forall_mem_map]
  rfl

theorem mem_upsert {other : Record} (h : other ∈ upsert record records) :
    other = record ∨ other ∈ records := by
  induction records with
  | nil => exact .inl (List.mem_singleton.mp h)
  | cons first others ih =>
      rw [upsert] at h
      split at h
      · exact (List.mem_cons.mp h).imp_right (List.mem_cons_of_mem first)
      · split at h
        · exact List.mem_cons.mp h
        · rcases List.mem_cons.mp h with rfl | hother
          · exact .inr List.mem_cons_self
          · exact (ih hother).imp_right (List.mem_cons_of_mem first)

theorem ascending_upsert (record : Record) (h : Ascending records) :
    Ascending (upsert record records) := by
  induction records with
  | nil => exact List.pairwise_singleton _ _
  | cons first others ih =>
      obtain ⟨hfirst, hothers⟩ := ascending_cons.mp h
      rw [upsert]
      split
      · rename_i hsame
        exact ascending_cons.mpr ⟨hsame ▸ hfirst, hothers⟩
      · rename_i hdiffer
        split
        · rename_i hlt
          refine ascending_cons.mpr ⟨fun other hother => ?_, h⟩
          rcases List.mem_cons.mp hother with rfl | hin
          · exact hlt
          · exact hlt.trans (hfirst other hin)
        · rename_i hnot
          have hgt : first.name < record.name := lt_of_le_of_ne (not_lt.mp hnot) (Ne.symm hdiffer)
          refine ascending_cons.mpr ⟨fun other hother => ?_, ih hothers⟩
          rcases mem_upsert hother with rfl | hin
          · exact hgt
          · exact hfirst other hin

theorem ascending_removeName (name : String) (h : Ascending records) :
    Ascending (removeName name records) :=
  h.sublist (List.filter_sublist.map Record.name)

theorem find?_of_mem (h : Ascending records) (hrecord : record ∈ records) :
    find? record.name records = some record :=
  find?_key h.nodup hrecord

/-! ### What is written of a record -/

/-- The store with a blueprint written over some of its records. -/
def written (store : Store) (records : List Record) (b : Blueprint) (created now : Instant) :
    Store :=
  { store with records := upsert (.ofBlueprint b created now) records }

theorem persist_eq (store : Store) (b : Blueprint) (now : Instant) :
    store.persist b now =
      store.written store.records b (createdAt b.name store.records now) now := rfl

/-- A blueprint takes the place of the record with a name, unless there is no such record, or its
own name is that of another one.  It is as old as that record. -/
theorem replace_cases (store : Store) (name : String) (b : Blueprint) (now : Instant) :
    (store.contains name = false ∧ store.replace name b now = (.ok false, store)) ∨
    (store.contains name = true ∧ (b.name ≠ name ∧ store.contains b.name = true) ∧
      store.replace name b now = (.error (.nameTaken b.name), store)) ∨
    (store.contains name = true ∧ b.name = name ∧
      store.replace name b now =
        (.ok true, store.written store.records b (createdAt name store.records now) now)) ∨
    (store.contains name = true ∧ (b.name ≠ name ∧ store.contains b.name = false) ∧
      store.replace name b now =
        (.ok true, store.written (removeName name store.records) b
          (createdAt name store.records now) now)) := by
  cases hfind : find? name store.records with
  | none => exact .inl ⟨by rw [contains, hfind]; rfl, by rw [replace, hfind]; rfl⟩
  | some record =>
      have hcontains : store.contains name = true := by
        rw [contains, hfind]
        rfl
      have hcreated : createdAt name store.records now = record.createdAt := by
        rw [createdAt, hfind]
        rfl
      have hreplace : store.replace name b now =
          if name = b.name then
            (.ok true, store.written store.records b
              (createdAt b.name store.records record.createdAt) now)
          else if store.contains b.name then (.error (.nameTaken b.name), store)
          else
            (.ok true, store.written (removeName name store.records) b
              (createdAt b.name (removeName name store.records) record.createdAt) now) := by
        rw [replace, hfind]
        rfl
      right
      by_cases hname : name = b.name
      · subst hname
        have hsame : createdAt b.name store.records record.createdAt = record.createdAt := by
          rw [createdAt, hfind]
          rfl
        rw [hreplace, if_pos rfl, hsame, hcreated]
        exact .inr (.inl ⟨hcontains, rfl, rfl⟩)
      · rw [hreplace, if_neg hname, hcreated]
        cases htaken : store.contains b.name with
        | true => exact .inl ⟨hcontains, ⟨Ne.symm hname, rfl⟩, rfl⟩
        | false =>
            -- no record has the new name, so the time of creation is that of the old record
            have hnone : find? b.name store.records = none := by
              rw [contains, Option.isSome_eq_false_iff, Option.isNone_iff_eq_none] at htaken
              exact htaken
            have hkept : createdAt b.name (removeName name store.records) record.createdAt =
                record.createdAt := by
              rw [createdAt, find?_removeName, if_neg hname, hnone]
              rfl
            rw [hkept]
            exact .inr (.inr ⟨hcontains, ⟨Ne.symm hname, rfl⟩, rfl⟩)

theorem find?_written (store : Store) (records : List Record) (b : Blueprint)
    (created now : Instant) :
    find? b.name (store.written records b created now).records =
      some (.ofBlueprint b created now) := by
  rw [written, find?_upsert]
  exact if_pos rfl

/-- However often a blueprint is saved, it stays as old as it was. -/
theorem createdAt_persist (store : Store) (b : Blueprint) (now later : Instant) :
    createdAt b.name (store.persist b now).records later = createdAt b.name store.records now := by
  rw [persist_eq, createdAt, find?_written]
  rfl

/-- A blueprint that takes the place of another one is as old as that, whatever its name is. -/
theorem createdAt_replace {store after : Store} {name : String} {b : Blueprint} {now : Instant}
    (h : store.replace name b now = (.ok true, after)) (later : Instant) :
    createdAt b.name after.records later = createdAt name store.records now := by
  rcases replace_cases store name b now with ⟨-, hreplace⟩ | ⟨-, -, hreplace⟩ |
    ⟨-, -, hreplace⟩ | ⟨-, -, hreplace⟩
  · rw [hreplace] at h
    cases h
  · rw [hreplace] at h
    cases h
  · rw [hreplace] at h
    cases h
    rw [createdAt, find?_written]
    rfl
  · rw [hreplace] at h
    cases h
    rw [createdAt, find?_written]
    rfl

/-! ### What is read of a record -/

theorem restore_of_find? {store : Store} {name : String} {b : Blueprint} {created now : Instant}
    (h : find? name store.records = some (.ofBlueprint b created now)) (supply : ℕ) :
    store.restore name supply = .ok (some b, supply) := by
  have hbody : (Blueprint.codec.ofText (Record.ofBlueprint b created now).body).run supply =
      .ok (b, supply) := by
    rw [Record.ofBlueprint, Blueprint.ofText_compact]
    rfl
  rw [restore, h]
  dsimp only
  rw [if_neg (fun hdiffer => hdiffer rfl), hbody]

theorem summary_ofBlueprint (b : Blueprint) (created now : Instant) :
    summary (.ofBlueprint b created now) =
      .ok { Summary.ofBlueprint b with updatedAt := some now } := by
  rw [summary, Record.ofBlueprint, Vocabulary.ofText_word]
  rfl

/-! ### The files of a language -/

theorem hasPath_append (language path : String) (position : ℕ) (rows : List ArtifactRow)
    (artifact : Artifact) :
    hasPath language path (rows ++ [⟨language, position, artifact⟩]) =
      (hasPath language path rows || artifact.path == path) := by
  simp [hasPath]

/-- The rows for files of a language, from a position on. -/
def rowsFor (language : String) : ℕ → List Artifact → List ArtifactRow
  | _, [] => []
  | position, artifact :: artifacts =>
      ⟨language, position, artifact⟩ :: rowsFor language (position + 1) artifacts

theorem map_artifact_rowsFor (language : String) (position : ℕ) (artifacts : List Artifact) :
    (rowsFor language position artifacts).map ArtifactRow.artifact = artifacts := by
  induction artifacts generalizing position with
  | nil => rfl
  | cons artifact artifacts ih => rw [rowsFor, List.map_cons, ih]

theorem mem_rowsFor {language : String} {position : ℕ} {artifacts : List Artifact}
    {row : ArtifactRow} (h : row ∈ rowsFor language position artifacts) :
    row.language = language ∧ position ≤ row.position := by
  induction artifacts generalizing position with
  | nil => cases h
  | cons artifact artifacts ih =>
      rcases List.mem_cons.mp h with rfl | hmore
      · exact ⟨rfl, le_refl position⟩
      · obtain ⟨hlanguage, hposition⟩ := ih hmore
        exact ⟨hlanguage, by omega⟩

/-- The rows stand in the order of their positions already. -/
theorem sortRows_rowsFor (language : String) (position : ℕ) (artifacts : List Artifact) :
    sortRows (rowsFor language position artifacts) = rowsFor language position artifacts := by
  induction artifacts generalizing position with
  | nil => rfl
  | cons artifact artifacts ih =>
      rw [sortRows, rowsFor, List.foldr_cons, ← sortRows, ih]
      cases hrows : rowsFor language (position + 1) artifacts with
      | nil => rfl
      | cons row rows =>
          have hfirst : row ∈ rowsFor language (position + 1) artifacts := by simp [hrows]
          have hposition := (mem_rowsFor hfirst).2
          rw [insertRow, if_pos (Nat.le_of_succ_le hposition)]

theorem filter_rowsFor (language other : String) (position : ℕ) (artifacts : List Artifact) :
    (rowsFor language position artifacts).filter (fun row => row.language == other) =
      if other = language then rowsFor language position artifacts else [] := by
  split_ifs with h
  · apply List.filter_eq_self.mpr
    intro row hrow
    rw [(mem_rowsFor hrow).1, h, beq_self_eq_true]
  · apply List.filter_eq_nil_iff.mpr
    intro row hrow
    rw [(mem_rowsFor hrow).1, beq_iff_eq]
    exact Ne.symm h

/-- Files that can be inserted: no path is repeated among them, and none is there already. -/
structure Fits (language : String) (rows : List ArtifactRow) (artifacts : List Artifact) :
    Prop where
  distinct : (artifacts.map Artifact.path).Nodup
  fresh : ∀ artifact ∈ artifacts, hasPath language artifact.path rows = false

/-- The row of a file blocks the path for the files that follow. -/
theorem fits_cons {language : String} {rows : List ArtifactRow} {artifact : Artifact}
    {artifacts : List Artifact} (position : ℕ) :
    Fits language rows (artifact :: artifacts) ↔ hasPath language artifact.path rows = false ∧
      Fits language (rows ++ [⟨language, position, artifact⟩]) artifacts := by
  constructor
  · rintro ⟨hdistinct, hfresh⟩
    rw [List.map_cons, List.nodup_cons] at hdistinct
    rw [List.forall_mem_cons] at hfresh
    refine ⟨hfresh.1, hdistinct.2, fun other hother => ?_⟩
    rw [hasPath_append, hfresh.2 other hother, Bool.false_or, beq_eq_false_iff_ne]
    intro hsame
    exact hdistinct.1 (hsame ▸ List.mem_map_of_mem hother)
  · rintro ⟨hfree, hdistinct, hfresh⟩
    simp only [hasPath_append, Bool.or_eq_false_iff, beq_eq_false_iff_ne] at hfresh
    constructor
    · rw [List.map_cons, List.nodup_cons]
      refine ⟨?_, hdistinct⟩
      rw [List.mem_map]
      rintro ⟨other, hother, hsame⟩
      exact (hfresh other hother).2 hsame.symm
    · rw [List.forall_mem_cons]
      exact ⟨hfree, fun other hother => (hfresh other hother).1⟩

/-- The store with rows for files of a language at the end. -/
def withFiles (store : Store) (language : String) (position : ℕ) (artifacts : List Artifact) :
    Store :=
  { store with rows := store.rows ++ rowsFor language position artifacts }

theorem withFiles_cons (store : Store) (language : String) (position : ℕ) (artifact : Artifact)
    (artifacts : List Artifact) :
    withFiles { store with rows := store.rows ++ [⟨language, position, artifact⟩] } language
        (position + 1) artifacts =
      store.withFiles language position (artifact :: artifacts) := by
  rw [withFiles, withFiles, List.append_assoc]
  rfl

/-- Files are inserted one by one.  Either all of them fit and are there then, or one of them does
not fit to those before it, and these are there then. -/
theorem insertFiles_cases (language : String) (artifacts : List Artifact) (position : ℕ)
    (transaction : Transaction) :
    let outcome := transaction.insertFiles language position artifacts
    (Fits language transaction.store.rows artifacts ∧ outcome.1 = .ok () ∧
      outcome.2.store = transaction.store.withFiles language position artifacts) ∨
    ∃ front artifact back, artifacts = front ++ artifact :: back ∧
      Fits language transaction.store.rows front ∧
      ¬ Fits language transaction.store.rows (front ++ [artifact]) ∧
      outcome.1 = .error (.persistence .repeatedArtifact) ∧
      outcome.2.store = transaction.store.withFiles language position front := by
  induction artifacts generalizing position transaction with
  | nil =>
      refine .inl ⟨⟨.nil, by simp⟩, rfl, ?_⟩
      rw [withFiles, rowsFor, List.append_nil]
      rfl
  | cons artifact artifacts ih =>
      rw [Transaction.insertFiles]
      cases hpath : hasPath language artifact.path transaction.store.rows with
      | true =>
          refine .inr ⟨[], artifact, artifacts, rfl, ⟨.nil, by simp⟩, ?_, rfl, ?_⟩
          · intro hfits
            rw [hfits.fresh artifact List.mem_cons_self] at hpath
            cases hpath
          · rw [withFiles, rowsFor, List.append_nil]
            rfl
      | false =>
          rw [if_neg Bool.false_ne_true]
          rcases ih (position + 1) (transaction.writeRows
              (transaction.store.rows ++ [⟨language, position, artifact⟩])) with
            ⟨hfits, hok, hstore⟩ | ⟨front, other, back, rfl, hfits, hblocked, herror, hstore⟩
          · refine .inl ⟨(fits_cons position).mpr ⟨hpath, hfits⟩, hok, ?_⟩
            rw [hstore]
            exact withFiles_cons transaction.store language position artifact artifacts
          · refine .inr ⟨artifact :: front, other, back, rfl,
              (fits_cons position).mpr ⟨hpath, hfits⟩, ?_, herror, ?_⟩
            · intro hall
              exact hblocked ((fits_cons position).mp hall).2
            · rw [hstore]
              exact withFiles_cons transaction.store language position artifact front

/-- Whatever was inserted is undone with the rest. -/
theorem rollBack_insertFiles (language : String) (artifacts : List Artifact) (position : ℕ)
    (transaction : Transaction) :
    (transaction.insertFiles language position artifacts).2.rollBack = transaction.rollBack := by
  induction artifacts generalizing position transaction with
  | nil => rfl
  | cons artifact artifacts ih =>
      rw [Transaction.insertFiles]
      split
      · rfl
      · rw [ih, Transaction.rollBack_writeRows]

/-- The rows with other files for a language. -/
def replaceRows (language : String) (artifacts : List Artifact) (rows : List ArtifactRow) :
    List ArtifactRow :=
  rows.filter (fun row => row.language != language) ++ rowsFor language 0 artifacts

/-- Where no file of a language is left, only a path among the files themselves can be repeated. -/
theorem fits_others {language : String} {rows : List ArtifactRow} {artifacts : List Artifact} :
    Fits language (rows.filter (fun row => row.language != language)) artifacts ↔
      (artifacts.map Artifact.path).Nodup := by
  refine ⟨Fits.distinct, fun hdistinct => ⟨hdistinct, fun artifact _ => ?_⟩⟩
  simp +contextual [hasPath]

/-- The statements that replace the files of a language: they go through if no path is repeated, and
otherwise the files kept before are gone and those up to the repetition are there. -/
theorem replaceFiles_cases (store : Store) (language : String) (artifacts : List Artifact) :
    let outcome := Transaction.replaceFiles language artifacts { store := store }
    ((artifacts.map Artifact.path).Nodup ∧ outcome.1 = .ok () ∧
      outcome.2.store = { store with rows := replaceRows language artifacts store.rows }) ∨
    ∃ front artifact back, artifacts = front ++ artifact :: back ∧
      (front.map Artifact.path).Nodup ∧ artifact.path ∈ front.map Artifact.path ∧
      outcome.1 = .error (.persistence .repeatedArtifact) ∧
      outcome.2.store = { store with rows := replaceRows language front store.rows } := by
  rcases insertFiles_cases language artifacts 0
      (Transaction.deleteFiles language { store := store }) with
    ⟨hfits, hok, hstore⟩ | ⟨front, artifact, back, hfront, hfits, hblocked, herror, hstore⟩
  · exact .inl ⟨fits_others.mp hfits, hok, hstore⟩
  · refine .inr ⟨front, artifact, back, hfront, fits_others.mp hfits, ?_, herror, hstore⟩
    by_contra hnew
    apply hblocked
    apply fits_others.mpr
    rw [List.map_append, List.map_singleton, List.nodup_append]
    refine ⟨fits_others.mp hfits, List.nodup_singleton _, ?_⟩
    rintro path hpath other hother rfl
    rw [List.mem_singleton] at hother
    exact hnew (hother ▸ hpath)

/-- The files of a language are replaced by others, no two of which have one path; otherwise the
store is as it was. -/
theorem keepArtifacts_eq (store : Store) (language : String) (artifacts : List Artifact) :
    store.keepArtifacts language artifacts =
      if (artifacts.map Artifact.path).Nodup then
        (.ok (), { store with rows := replaceRows language artifacts store.rows })
      else (.error (.persistence .repeatedArtifact), store) := by
  rw [keepArtifacts]
  rcases replaceFiles_cases store language artifacts with
    ⟨hdistinct, hok, hstore⟩ | ⟨front, artifact, back, rfl, -, hrepeated, herror, -⟩
  · rw [Transaction.close_of_ok hok, Transaction.commit, hstore, if_pos hdistinct]
  · have hnot : ¬ ((front ++ artifact :: back).map Artifact.path).Nodup := by
      rw [List.map_append, List.map_cons]
      intro hdistinct
      exact List.disjoint_of_nodup_append hdistinct hrepeated List.mem_cons_self
    rw [Transaction.close_of_error herror, if_neg hnot, Transaction.replaceFiles,
      rollBack_insertFiles, Transaction.deleteFiles, Transaction.rollBack_writeRows,
      Transaction.rollBack_start]

theorem artifacts_replaceRows (store : Store) (language other : String)
    (artifacts : List Artifact) :
    Store.artifacts { store with rows := replaceRows language artifacts store.rows } other =
      if other = language then artifacts else store.artifacts other := by
  simp only [Store.artifacts, replaceRows, List.filter_append, List.filter_filter, filter_rowsFor]
  split_ifs with h
  · subst h
    have hgone : store.rows.filter
        (fun row => row.language == other && row.language != other) = [] := by
      simp
    rw [hgone, List.nil_append, sortRows_rowsFor, map_artifact_rowsFor]
  · have hkeep : ∀ row : ArtifactRow, (row.language == other && row.language != language) =
        (row.language == other) := by
      intro row
      by_cases hrow : row.language = other <;> simp [hrow, h]
    simp only [hkeep, List.append_nil]

end LanguageBlueprint.Store
