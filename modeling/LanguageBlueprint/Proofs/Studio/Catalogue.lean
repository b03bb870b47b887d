/-
  LanguageBlueprint/Proofs/Studio/Catalogue.lean
  ==============================================
  **The studio as a finite map.**  A catalogue binds names to blueprints, and knows
  the generated files of every language.  It has no columns, no bodies and no
  digests; a studio answers as a catalogue does, since every record is the one
  that would be written for the blueprint bound to its name.

    * what relates a catalogue to a store       — `Represents`;
    * one request                               — `save_agrees`, …, `serve_agrees`;
    * any requests in a row                     — `represents_after`;
    * the answers of a studio                   — `studio_refines_catalogue`.
-/
import LanguageBlueprint.Proofs.Store.Tables
import LanguageBlueprint.Proofs.Text.ByteOrder
import LanguageBlueprint.Studio
import Mathlib.Data.Finmap
import Mathlib.Data.Finset.Sort

namespace LanguageBlueprint

open Text

/-! ### Catalogues -/

/-- The blueprints bound to names, and the generated files of every language. -/
structure Catalogue where
  blueprints : Finmap (fun _ : String => Blueprint) := ∅
  files : String → List Artifact := fun _ => []

namespace Catalogue

/-- The lines for the blueprints, in the order of the names. -/
def listing (catalogue : Catalogue) : List Summary :=
  (catalogue.blueprints.keys.sort (· ≤ ·)).filterMap
    (fun name => (catalogue.blueprints.lookup name).map Summary.ofBlueprint)

/-- How a catalogue answers a request, given an engine. -/
def serve (engine : Engine) : Service Catalogue
  | .save b, catalogue =>
      if !b.permitsSave then (.error (.invalid b.blocking), catalogue)
      else
        (.ok ⟨if b.name ∈ catalogue.blueprints then "Language specification overwritten"
            else "Language specification created"⟩,
          { catalogue with blueprints := catalogue.blueprints.insert b.name b })
  | .fetch name, catalogue =>
      match catalogue.blueprints.lookup name with
      | some b => (.ok b, catalogue)
      | none => (.error (.notFound (.language name)), catalogue)
  | .list, catalogue => (.ok catalogue.listing, catalogue)
  | .update name b, catalogue =>
      if !b.permitsSave then (.error (.invalid b.blocking), catalogue)
      else if name ∉ catalogue.blueprints then (.error (.notFound (.language name)), catalogue)
      else if b.name ≠ name ∧ b.name ∈ catalogue.blueprints then
        (.error (.nameTaken b.name), catalogue)
      else
        (.ok ⟨"Language specification updated"⟩,
          { catalogue with blueprints := (catalogue.blueprints.erase name).insert b.name b })
  | .delete name, catalogue =>
      if name ∉ catalogue.blueprints then (.error (.notFound (.language name)), catalogue)
      else
        (.ok ⟨"Language specification deleted"⟩,
          { catalogue with blueprints := catalogue.blueprints.erase name })
  | .generate request, catalogue =>
      if !request.blueprint.permitsGenerate then
        (.error (.invalid request.blueprint.review), catalogue)
      else
        match engine request.blueprint request.options with
        | .error failure => (.error failure, catalogue)
        | .ok artifacts =>
            if (artifacts.map Artifact.path).Nodup then
              (.ok ⟨request.blueprint.name, request.blueprint.execution,
                  artifacts.map Artifact.path⟩,
                { catalogue with
                  files := Function.update catalogue.files request.blueprint.name artifacts })
            else (.error (.persistence .repeatedArtifact), catalogue)
  | .download name, catalogue =>
      if (catalogue.files name).isEmpty then
        (.error (.notFound (.generatedLanguage name)), catalogue)
      else (Archive.pack name (catalogue.files name), catalogue)

def after (engine : Engine) (catalogue : Catalogue) (requests : List Request) : Catalogue :=
  requests.foldl (fun catalogue request => (serve engine request catalogue).2) catalogue

end Catalogue

namespace Studio

/-- A studio with an empty store. -/
def opened (engine : Engine) (start : Instant) (supply : ℕ) : Studio :=
  { engine := engine, now := start, supply := supply }

/-- The studio at another time. -/
def waitUntil (studio : Studio) (now : Instant) : Studio := { studio with now := now }

/-- The studio after some requests, each made at a time of its own. -/
def after (studio : Studio) (calls : List (Instant × Request)) : Studio :=
  calls.foldl (fun studio call => (serve call.2 (studio.waitUntil call.1)).2) studio

/-- An answer without the times that a listing tells. -/
def timeless : (request : Request) → Except Failure request.Answer → Except Failure request.Answer
  | .list, answer => answer.map (List.map (fun line => { line with updatedAt := none }))
  | .save _, answer => answer
  | .fetch _, answer => answer
  | .update _ _, answer => answer
  | .delete _, answer => answer
  | .generate _, answer => answer
  | .download _, answer => answer

end Studio

/-! ### One request -/

/-- The store holds the blueprints and the files of the catalogue, and nothing else. -/
structure Catalogue.Represents (catalogue : Catalogue) (store : Store) : Prop where
  ascending : Store.Ascending store.records
  records : ∀ name,
    Option.Rel (fun record b => ∃ created now, record = Record.ofBlueprint b created now)
      (Store.find? name store.records) (catalogue.blueprints.lookup name)
  files : ∀ language, store.artifacts language = catalogue.files language

namespace Catalogue

variable {catalogue : Catalogue} {store : Store}

theorem represents_empty : Represents {} {} where
  ascending := .nil
  records name := by
    rw [Finmap.lookup_empty]
    exact .none
  files _ := rfl

theorem Represents.cases (h : catalogue.Represents store) (name : String) :
    (∃ b created now, Store.find? name store.records = some (Record.ofBlueprint b created now) ∧
      catalogue.blueprints.lookup name = some b) ∨
    (Store.find? name store.records = none ∧ catalogue.blueprints.lookup name = none) := by
  have hrel := h.records name
  generalize Store.find? name store.records = record? at hrel ⊢
  generalize catalogue.blueprints.lookup name = b? at hrel ⊢
  cases hrel with
  | @some record b hrecord =>
      obtain ⟨created, now, rfl⟩ := hrecord
      exact .inl ⟨b, created, now, rfl, rfl⟩
  | none => exact .inr ⟨rfl, rfl⟩

theorem Represents.contains (h : catalogue.Represents store) (name : String) :
    store.contains name = true ↔ name ∈ catalogue.blueprints := by
  rw [Store.contains, Finmap.mem_iff]
  rcases h.cases name with ⟨b, created, now, hfind, hlookup⟩ | ⟨hfind, hlookup⟩
  · simp [hfind, hlookup]
  · simp [hfind, hlookup]

theorem Represents.not_contains (h : catalogue.Represents store) (name : String) :
    store.contains name = false ↔ name ∉ catalogue.blueprints := by
  rw [← Bool.not_eq_true, h.contains]

theorem Represents.written (h : catalogue.Represents store) (b : Blueprint)
    (created now : Instant) :
    Represents { catalogue with blueprints := catalogue.blueprints.insert b.name b }
      (store.written store.records b created now) where
  ascending := Store.ascending_upsert _ h.ascending
  records name := by
    rw [Store.written, Store.find?_upsert]
    have hname : (Record.ofBlueprint b created now).name = b.name := rfl
    rw [hname]
    split
    · rename_i hsame
      rw [← hsame, Finmap.lookup_insert]
      exact .some ⟨created, now, rfl⟩
    · rename_i hdiffer
      rw [Finmap.lookup_insert_of_ne _ (Ne.symm hdiffer)]
      exact h.records name
  files := h.files

theorem Represents.removeName (h : catalogue.Represents store) (name : String) :
    Represents { catalogue with blueprints := catalogue.blueprints.erase name }
      { store with records := Store.removeName name store.records } where
  ascending := Store.ascending_removeName name h.ascending
  records other := by
    rw [Store.find?_removeName]
    split
    · rename_i hsame
      rw [← hsame, Finmap.lookup_erase]
      exact .none
    · rename_i hdiffer
      rw [Finmap.lookup_erase_ne (Ne.symm hdiffer)]
      exact h.records other
  files := h.files

/-- The answers to a request agree, so do the states it leads to, and a refusal leads nowhere. -/
structure Agree (request : Request) (studio : Studio) (catalogue : Catalogue) : Prop where
  answer : Studio.timeless request (Studio.serve request studio).1 =
    (Catalogue.serve studio.engine request catalogue).1
  represents : (Catalogue.serve studio.engine request catalogue).2.Represents
    (Studio.serve request studio).2.store
  engine : (Studio.serve request studio).2.engine = studio.engine
  refused : ∀ failure, (Studio.serve request studio).1 = .error failure →
    (Studio.serve request studio).2 = studio ∧
    (Catalogue.serve studio.engine request catalogue).2 = catalogue

variable {studio : Studio}

theorem agree_of_answered {request : Request} {answer : request.Answer} {studio' : Studio}
    {catalogue' : Catalogue} (hserve : Studio.serve request studio = (.ok answer, studio'))
    (hmap : Catalogue.serve studio.engine request catalogue =
      (Studio.timeless request (.ok answer), catalogue'))
    (hrepresents : catalogue'.Represents studio'.store) (hengine : studio'.engine = studio.engine) :
    Agree request studio catalogue := by
  constructor
  · rw [hserve, hmap]
  · rw [hserve, hmap]
    exact hrepresents
  · rw [hserve]
    exact hengine
  · intro failure hfailure
    rw [hserve] at hfailure
    cases hfailure

theorem timeless_error (request : Request) (failure : Failure) :
    Studio.timeless request (.error failure) = .error failure := by
  cases request <;> rfl

/-- Where both refuse for one reason, nothing changes. -/
theorem agree_of_refused {request : Request} (failure : Failure)
    (h : catalogue.Represents studio.store)
    (hserve : Studio.serve request studio = (.error failure, studio))
    (hmap : Catalogue.serve studio.engine request catalogue = (.error failure, catalogue)) :
    Agree request studio catalogue := by
  constructor
  · rw [hserve, hmap, timeless_error]
  · rw [hserve, hmap]
    exact h
  · rw [hserve]
  · intro _ _
    rw [hserve, hmap]
    exact ⟨rfl, rfl⟩

theorem save_agrees (h : catalogue.Represents studio.store) (b : Blueprint) :
    Agree (.save b) studio catalogue := by
  cases hpermits : b.permitsSave with
  | false =>
      apply agree_of_refused (.invalid b.blocking) h
      · simp only [Studio.serve, Studio.save, hpermits, Bool.not_false, if_true]
      · simp only [serve, hpermits, Bool.not_false, if_true]
  | true =>
      have hserve : Studio.serve (.save b) studio =
          (.ok ⟨if studio.store.contains b.name then "Language specification overwritten"
              else "Language specification created"⟩,
            { studio with store := studio.store.persist b studio.now }) := by
        simp only [Studio.serve, Studio.save, hpermits, Bool.not_true, Bool.false_eq_true, if_false]
      refine agree_of_answered hserve ?_ (h.written b _ studio.now) rfl
      simp only [serve, hpermits, Bool.not_true, Bool.false_eq_true, if_false, Studio.timeless,
        h.contains]

theorem fetch_agrees (h : catalogue.Represents studio.store) (name : String) :
    Agree (.fetch name) studio catalogue := by
  rcases h.cases name with ⟨b, created, now, hfind, hlookup⟩ | ⟨hfind, hlookup⟩
  · have hserve : Studio.serve (.fetch name) studio = (.ok b, studio) := by
      simp only [Studio.serve, Studio.fetch, Store.restore_of_find? hfind]
    refine agree_of_answered hserve ?_ h rfl
    simp only [serve, hlookup, Studio.timeless]
  · apply agree_of_refused (.notFound (.language name)) h
    · simp only [Studio.serve, Studio.fetch, Store.restore, hfind, Studio.languageMissing]
    · simp only [serve, hlookup]

theorem insert_erase (blueprints : Finmap (fun _ : String => Blueprint)) (name : String)
    (b : Blueprint) : (blueprints.erase name).insert name b = blueprints.insert name b := by
  apply Finmap.ext_lookup
  intro other
  by_cases hsame : other = name
  · rw [hsame, Finmap.lookup_insert, Finmap.lookup_insert]
  · rw [Finmap.lookup_insert_of_ne _ hsame, Finmap.lookup_insert_of_ne _ hsame,
      Finmap.lookup_erase_ne hsame]

/-- What the store makes of an update is what the map makes of it. -/
theorem replace_agrees (h : catalogue.Represents store) (name : String) (b : Blueprint)
    (now : Instant) :
    (name ∉ catalogue.blueprints ∧ store.replace name b now = (.ok false, store)) ∨
    (name ∈ catalogue.blueprints ∧ (b.name ≠ name ∧ b.name ∈ catalogue.blueprints) ∧
      store.replace name b now = (.error (.nameTaken b.name), store)) ∨
    (name ∈ catalogue.blueprints ∧ ¬(b.name ≠ name ∧ b.name ∈ catalogue.blueprints) ∧
      ∃ store', store.replace name b now = (.ok true, store') ∧
        Represents
          { catalogue with blueprints := (catalogue.blueprints.erase name).insert b.name b }
          store') := by
  simp only [← h.contains, Bool.not_eq_true]
  rcases store.replace_cases name b now with ⟨hmissing, hreplace⟩ | ⟨hthere, htaken, hreplace⟩ |
    ⟨hthere, hsame, hreplace⟩ | ⟨hthere, ⟨-, hfree⟩, hreplace⟩
  · exact .inl ⟨hmissing, hreplace⟩
  · exact .inr (.inl ⟨hthere, htaken, hreplace⟩)
  · -- the record is written over, which is the same as unbinding its name and binding it again
    refine .inr (.inr ⟨hthere, fun htaken => htaken.1 hsame, _, hreplace, ?_⟩)
    rw [← hsame, insert_erase]
    exact h.written b _ now
  · refine .inr (.inr ⟨hthere, fun htaken => ?_, _, hreplace, (h.removeName name).written b _ now⟩)
    rw [htaken.2] at hfree
    cases hfree

theorem update_agrees (h : catalogue.Represents studio.store) (name : String) (b : Blueprint) :
    Agree (.update name b) studio catalogue := by
  cases hpermits : b.permitsSave with
  | false =>
      apply agree_of_refused (.invalid b.blocking) h
      · simp only [Studio.serve, Studio.update, hpermits, Bool.not_false, if_true]
      · simp only [serve, hpermits, Bool.not_false, if_true]
  | true =>
      rcases replace_agrees h name b studio.now with
        ⟨hmissing, hreplace⟩ | ⟨hbound, htaken, hreplace⟩ |
        ⟨hbound, hfree, store', hreplace, hrepresents⟩
      · apply agree_of_refused (.notFound (.language name)) h
        · simp only [Studio.serve, Studio.update, hpermits, Bool.not_true, Bool.false_eq_true,
            if_false, hreplace, Studio.languageMissing]
        · simp only [serve, hpermits, Bool.not_true, Bool.false_eq_true, if_false, hmissing,
            not_false_eq_true, if_true]
      · apply agree_of_refused (.nameTaken b.name) h
        · simp only [Studio.serve, Studio.update, hpermits, Bool.not_true, Bool.false_eq_true,
            if_false, hreplace]
        · simp only [serve, hpermits, Bool.not_true, Bool.false_eq_true, if_false, hbound,
            not_true_eq_false, if_pos htaken]
      · have hserve : Studio.serve (.update name b) studio =
            (.ok ⟨"Language specification updated"⟩, { studio with store := store' }) := by
          simp only [Studio.serve, Studio.update, hpermits, Bool.not_true, Bool.false_eq_true,
            if_false, hreplace]
        refine agree_of_answered hserve ?_ hrepresents rfl
        simp only [serve, hpermits, Bool.not_true, Bool.false_eq_true, if_false, hbound,
          not_true_eq_false, if_neg hfree, Studio.timeless]

theorem delete_agrees (h : catalogue.Represents studio.store) (name : String) :
    Agree (.delete name) studio catalogue := by
  cases hbound : studio.store.contains name with
  | false =>
      apply agree_of_refused (.notFound (.language name)) h
      · simp only [Studio.serve, Studio.delete, Store.remove, hbound, Studio.languageMissing]
      · simp only [serve, (h.not_contains name).mp hbound, not_false_eq_true, if_true]
  | true =>
      have hserve : Studio.serve (.delete name) studio =
          (.ok ⟨"Language specification deleted"⟩,
            { studio with store :=
              { studio.store with records := Store.removeName name studio.store.records } }) := by
        simp only [Studio.serve, Studio.delete, Store.remove, hbound]
      refine agree_of_answered hserve ?_ (h.removeName name) rfl
      simp only [serve, (h.contains name).mp hbound, not_true_eq_false, if_false, Studio.timeless]

theorem generate_agrees (h : catalogue.Represents studio.store) (request : GenerateRequest) :
    Agree (.generate request) studio catalogue := by
  cases hpermits : request.blueprint.permitsGenerate with
  | false =>
      apply agree_of_refused (.invalid request.blueprint.review) h
      · simp only [Studio.serve, Studio.generate, hpermits, Bool.not_false, if_true]
      · simp only [serve, hpermits, Bool.not_false, if_true]
  | true =>
      cases hengine : studio.engine request.blueprint request.options with
      | error failure =>
          apply agree_of_refused failure h
          · simp only [Studio.serve, Studio.generate, hpermits, Bool.not_true, Bool.false_eq_true,
              if_false, hengine]
          · simp only [serve, hpermits, Bool.not_true, Bool.false_eq_true, if_false, hengine]
      | ok artifacts =>
          by_cases hpaths : (artifacts.map Artifact.path).Nodup
          · have hserve : Studio.serve (.generate request) studio =
                (.ok ⟨request.blueprint.name, request.blueprint.execution,
                    artifacts.map Artifact.path⟩,
                  { studio with store := { studio.store with
                    rows := Store.replaceRows request.blueprint.name artifacts
                      studio.store.rows } }) := by
              simp only [Studio.serve, Studio.generate, hpermits, Bool.not_true,
                Bool.false_eq_true, if_false, hengine, Store.keepArtifacts_eq, hpaths, if_true,
                Except.map]
            have hkept : Represents
                { catalogue with
                  files := Function.update catalogue.files request.blueprint.name artifacts }
                { studio.store with
                  rows := Store.replaceRows request.blueprint.name artifacts
                    studio.store.rows } := by
              refine ⟨h.ascending, h.records, fun language => ?_⟩
              simp only [Store.artifacts_replaceRows, Function.update_apply, h.files]
            refine agree_of_answered hserve ?_ hkept rfl
            simp only [serve, hpermits, Bool.not_true, Bool.false_eq_true, if_false, hengine,
              hpaths, if_true, Studio.timeless]
          · apply agree_of_refused (.persistence .repeatedArtifact) h
            · simp only [Studio.serve, Studio.generate, hpermits, Bool.not_true,
                Bool.false_eq_true, if_false, hengine, Store.keepArtifacts_eq, hpaths, Except.map]
            · simp only [serve, hpermits, Bool.not_true, Bool.false_eq_true, if_false, hengine,
                hpaths]

theorem download_agrees (h : catalogue.Represents studio.store) (name : String) :
    Agree (.download name) studio catalogue := by
  refine ⟨?_, ?_, rfl, fun _ _ => ⟨rfl, ?_⟩⟩
  · simp only [Studio.serve, serve, Studio.download, Studio.timeless, h.files]
    split_ifs <;> rfl
  · simp only [serve]
    split_ifs <;> exact h
  · simp only [serve]
    split_ifs <;> rfl

/-! ### The listing -/

theorem mem_names (h : catalogue.Represents store) (name : String) :
    name ∈ store.records.map Record.name ↔ name ∈ catalogue.blueprints := by
  rw [← h.contains, Store.contains, Store.find?, List.find?_isSome, List.mem_map]
  simp only [beq_iff_eq]

theorem sort_keys (h : catalogue.Represents store) :
    catalogue.blueprints.keys.sort (· ≤ ·) = store.records.map Record.name := by
  have hkeys : catalogue.blueprints.keys = (store.records.map Record.name).toFinset := by
    ext name
    rw [Finmap.mem_keys, List.mem_toFinset, mem_names h]
  rw [hkeys, List.toFinset_sort (· ≤ ·) h.ascending.nodup]
  exact h.ascending.imp le_of_lt

theorem Represents.of_mem (h : catalogue.Represents store) {record : Record}
    (hrecord : record ∈ store.records) :
    ∃ b created now, record = Record.ofBlueprint b created now ∧
      catalogue.blueprints.lookup record.name = some b := by
  have hfound := Store.find?_of_mem h.ascending hrecord
  rcases h.cases record.name with ⟨b, created, now, hfind, hlookup⟩ | ⟨hfind, -⟩
  · rw [hfound] at hfind
    exact ⟨b, created, now, Option.some.inj hfind, hlookup⟩
  · rw [hfound] at hfind
    cases hfind

/-- Reading the listing never fails, and tells of the blueprints what the catalogue tells. -/
theorem summariesOf_agrees {records : List Record}
    (h : ∀ record ∈ records, ∃ b created now, record = Record.ofBlueprint b created now ∧
      catalogue.blueprints.lookup record.name = some b) :
    ∃ lines, Store.summariesOf records = .ok lines ∧
      lines.map (fun line => { line with updatedAt := none }) =
        (records.map Record.name).filterMap
          (fun name => (catalogue.blueprints.lookup name).map Summary.ofBlueprint) := by
  induction records with
  | nil => exact ⟨[], rfl, rfl⟩
  | cons record records ih =>
      obtain ⟨b, created, now, hrecord, hlookup⟩ := h record List.mem_cons_self
      obtain ⟨lines, hlines, hsame⟩ := ih (fun other hother => h other (by simp [hother]))
      have hline : Store.summary record =
          .ok { Summary.ofBlueprint b with updatedAt := some now } := by
        rw [hrecord, Store.summary_ofBlueprint]
      refine ⟨{ Summary.ofBlueprint b with updatedAt := some now } :: lines, ?_, ?_⟩
      · rw [Store.summariesOf, hline, hlines]
        rfl
      · rw [List.map_cons, List.map_cons, List.filterMap_cons, hlookup, hsame]
        rfl

theorem list_agrees (h : catalogue.Represents studio.store) : Agree .list studio catalogue := by
  obtain ⟨lines, hlines, hsame⟩ := summariesOf_agrees (fun _ hrecord => h.of_mem hrecord)
  have hserve : Studio.serve .list studio = (.ok lines, studio) := by
    simp only [Studio.serve, Store.summaries, hlines]
  refine agree_of_answered hserve ?_ h rfl
  simp only [serve, listing, sort_keys h, ← hsame, Studio.timeless, Except.map]

/-- The names in the listing are the names that are bound, in the order in which they are kept. -/
theorem names_listing (h : catalogue.Represents store) :
    catalogue.listing.map Summary.name = store.records.map Record.name := by
  have hname : ∀ record ∈ store.records,
      ((catalogue.blueprints.lookup record.name).map Summary.ofBlueprint).map Summary.name =
        some record.name := by
    intro record hrecord
    obtain ⟨b, created, now, hof, hlookup⟩ := h.of_mem hrecord
    rw [hlookup, hof]
    rfl
  rw [listing, sort_keys h, List.filterMap_map, List.map_filterMap]
  exact (List.filterMap_congr hname).trans (congrFun List.filterMap_eq_map _)

theorem listing_ascending (h : catalogue.Represents store) :
    (catalogue.listing.map Summary.name).Pairwise (fun s t => bytes s < bytes t) := by
  rw [names_listing h]
  exact h.ascending.imp lt_iff_bytes_lt.mp

/-! ### Any requests in a row -/

theorem serve_agrees (h : catalogue.Represents studio.store) (request : Request) :
    Agree request studio catalogue := by
  cases request with
  | save b => exact save_agrees h b
  | fetch name => exact fetch_agrees h name
  | list => exact list_agrees h
  | update name b => exact update_agrees h name b
  | delete name => exact delete_agrees h name
  | generate request => exact generate_agrees h request
  | download name => exact download_agrees h name

theorem represents_after (calls : List (Instant × Request)) :
    ∀ {studio : Studio} {catalogue : Catalogue}, catalogue.Represents studio.store →
      (catalogue.after studio.engine (calls.map Prod.snd)).Represents (studio.after calls).store ∧
      (studio.after calls).engine = studio.engine := by
  induction calls with
  | nil => exact fun h => ⟨h, rfl⟩
  | cons call calls ih =>
      intro studio catalogue h
      -- the time of the call is no part of what the catalogue represents
      have hfirst := @serve_agrees catalogue (studio.waitUntil call.1) h call.2
      obtain ⟨hrest, hengine⟩ := ih hfirst.represents
      rw [hfirst.engine] at hrest hengine
      exact ⟨hrest, hengine⟩

/-- **A studio answers as a finite map does**, whatever was asked of it before and whenever: its
answers are those of the catalogue, apart from the times of a listing; a request that fails leaves
both as they were; and a listing tells of every bound name once, in ascending order of the bytes. -/
theorem studio_refines_catalogue (engine : Engine) (start now : Instant) (supply : ℕ)
    (calls : List (Instant × Request)) (request : Request) :
    let studio := ((Studio.opened engine start supply).after calls).waitUntil now
    let catalogue := after engine {} (calls.map Prod.snd)
    Studio.timeless request (Studio.serve request studio).1 =
        (serve engine request catalogue).1 ∧
    (∀ failure, (Studio.serve request studio).1 = .error failure →
      (Studio.serve request studio).2 = studio ∧
      (serve engine request catalogue).2 = catalogue) ∧
    (catalogue.listing.map Summary.name).Pairwise (fun s t => bytes s < bytes t) ∧
    ∀ name, name ∈ catalogue.listing.map Summary.name ↔ name ∈ catalogue.blueprints := by
  intro studio catalogue
  obtain ⟨hrepresents, hengine⟩ : catalogue.Represents studio.store ∧ studio.engine = engine :=
    @represents_after calls (.opened engine start supply) {} represents_empty
  clear_value studio catalogue
  obtain ⟨hanswer, -, -, hrefused⟩ := serve_agrees hrepresents request
  rw [hengine] at hanswer hrefused
  refine ⟨hanswer, hrefused, listing_ascending hrepresents, fun name => ?_⟩
  rw [names_listing hrepresents]
  exact mem_names hrepresents name

end Catalogue

end LanguageBlueprint
