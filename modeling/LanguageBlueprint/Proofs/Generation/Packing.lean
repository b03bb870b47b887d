/-
  LanguageBlueprint/Proofs/Generation/Packing.lean
  ================================================
  **What is generated can be packed.**  A list of files is packable when there is
  a file, every path stays below the root of the archive, and no path occurs twice.
  Packing then cannot fail, and every file is found again below the root.  The
  scaffold of a language is always packable: its own paths are fixed but for the
  extension of the first program, which is plain, and for the slug in the name of
  the last file, which no slash and no backslash can be in.

    * packing              — `entriesAfter_append`, `pack_of_packable`;
    * paths                — `isRelativePath_iff_pieces`, `isRelativePath_iff`;
    * plain extensions     — `isPlainExtension_iff`, `mem_of_isPlainExtension`;
    * the scaffold         — `generate_eq_ok_iff`, `packable_of_generate`.
-/
import LanguageBlueprint.Generation.Pack
import LanguageBlueprint.Generation.Scaffold
import LanguageBlueprint.Proofs.Text.Tokens
import Mathlib.Data.List.Nodup

namespace LanguageBlueprint

open Text

namespace Archive

/-- There are files, all below the root, and no two of them have one path. -/
structure Packable (artifacts : List Artifact) : Prop where
  nonempty : artifacts ≠ []
  relative : ∀ artifact ∈ artifacts, isRelativePath artifact.path = true
  distinct : (artifacts.map Artifact.path).Nodup

/-- The entry of a file in the archive of a language. -/
def entry (language : String) (artifact : Artifact) : Artifact :=
  ⟨entryPath language artifact.path, artifact.contents⟩

theorem entryPath_injective (language : String) : Function.Injective (entryPath language) := by
  intro path other heq
  have hchars := congrArg String.toList heq
  simp only [entryPath, String.toList_append, List.append_cancel_left_eq] at hchars
  exact String.toList_injective hchars

/-- The entries that stand in the archive after some files, the latest first. -/
def packedAfter (language : String) (packed : List String) (artifacts : List Artifact) :
    List String :=
  (artifacts.map (fun artifact => entryPath language artifact.path)).reverse ++ packed

theorem packedAfter_cons (language : String) (packed : List String) (artifact : Artifact)
    (artifacts : List Artifact) :
    packedAfter language packed (artifact :: artifacts) =
      packedAfter language (entryPath language artifact.path :: packed) artifacts := by
  simp [packedAfter]

/-- Files that can be packed are packed in their order, and then come those after them. -/
theorem entriesAfter_append {language : String} {packed : List String}
    {front rest : List Artifact}
    (hrelative : ∀ artifact ∈ front, isRelativePath artifact.path = true)
    (hdistinct : (front.map Artifact.path).Nodup)
    (hfresh : ∀ artifact ∈ front, entryPath language artifact.path ∉ packed) :
    entriesAfter language packed (front ++ rest) =
      (entriesAfter language (packedAfter language packed front) rest).map
        (front.map (entry language) ++ ·) := by
  induction front generalizing packed with
  | nil =>
      change entriesAfter language packed rest = (entriesAfter language packed rest).map _
      cases entriesAfter language packed rest <;> rfl
  | cons artifact front ih =>
      have hpath : isRelativePath artifact.path = true := hrelative artifact List.mem_cons_self
      have hnew : packed.contains (entryPath language artifact.path) = false := by
        simpa using hfresh artifact List.mem_cons_self
      rw [List.map_cons, List.nodup_cons] at hdistinct
      have hrest : entriesAfter language (entryPath language artifact.path :: packed)
          (front ++ rest) =
          (entriesAfter language (packedAfter language packed (artifact :: front)) rest).map
            (front.map (entry language) ++ ·) := by
        rw [packedAfter_cons]
        apply ih
        · intro other hother
          exact hrelative other (List.mem_cons_of_mem artifact hother)
        · exact hdistinct.2
        · intro other hother hin
          rcases List.mem_cons.mp hin with hsame | hold
          · have hpaths := entryPath_injective language hsame
            exact hdistinct.1 (hpaths ▸ List.mem_map_of_mem hother)
          · exact hfresh other (List.mem_cons_of_mem artifact hother) hold
      simp only [List.cons_append, entriesAfter, hpath, hnew, hrest, Bool.not_true,
        Bool.false_eq_true, if_false]
      cases entriesAfter language (packedAfter language packed (artifact :: front)) rest <;> rfl

/-- Packable files are packed in their order, each below the root with its own contents. -/
theorem pack_of_packable {artifacts : List Artifact} (h : Packable artifacts) (language : String) :
    pack language artifacts =
      .ok ⟨nameFor language, .entries (artifacts.map (entry language))⟩ := by
  have hsome : artifacts.isEmpty = false := by
    simpa using h.nonempty
  have hentries : entriesAfter language [] artifacts = .ok (artifacts.map (entry language)) := by
    have hrun := @entriesAfter_append language [] artifacts [] h.relative h.distinct
      (fun artifact _ hin => by cases hin)
    simpa [entriesAfter, Except.map] using hrun
  simp only [pack, hsome, hentries, Bool.false_eq_true, if_false]
  rfl

/-- The name of something in a directory: no text that stands for the directory itself or for the
one above it, and no path. -/
structure IsName (part : List Char) : Prop where
  nonempty : part ≠ []
  noSlash : '/' ∉ part
  notHere : part ≠ ['.']
  notAbove : part ≠ ['.', '.']

/-- The path is one or more names with a slash between them, and has no backslash. -/
structure StaysBelow (path : String) : Prop where
  names : ∃ parts : List (List Char), parts ≠ [] ∧ path.toList = ['/'].intercalate parts ∧
    ∀ part ∈ parts, IsName part
  noBackslash : '\\' ∉ path.toList

/-- A piece between slashes that is a name. -/
def IsPlainPiece (piece : List Char) : Prop := piece ≠ [] ∧ piece ≠ ['.'] ∧ piece ≠ ['.', '.']

/-- Where every piece between slashes is a name, a file system sees nothing but names. -/
theorem isName_of_mem_components {path : String}
    (h : ∀ piece ∈ path.toList.splitOn '/', IsPlainPiece piece) {component : PathComponent}
    (hcomponent : component ∈ components path) : component.isName = true := by
  rw [components, List.mem_append, List.mem_filterMap] at hcomponent
  rcases hcomponent with hstart | ⟨piece, hpiece, hnamed⟩
  · -- a root needs an empty first piece, and the directory itself a dot
    unfold PathComponent.ofStart at hstart
    split at hstart
    · rename_i hpieces
      exact absurd rfl (h [] (hpieces ▸ List.mem_cons_self)).1
    · rename_i hpieces
      exact absurd rfl (h ['.'] (hpieces ▸ List.mem_cons_self)).2.1
    · cases hstart
  · obtain ⟨-, -, habove⟩ := h piece hpiece
    unfold PathComponent.ofPiece? at hnamed
    split at hnamed
    · cases hnamed
    · cases hnamed
    · exact absurd rfl habove
    · cases hnamed
      rfl

/-- Of the two looks at a path, the one at its pieces decides. -/
theorem isRelativePath_iff_pieces {path : String} : isRelativePath path = true ↔
    (∀ piece ∈ path.toList.splitOn '/', IsPlainPiece piece) ∧ '\\' ∉ path.toList := by
  simp only [isRelativePath, Bool.and_eq_true, Bool.not_eq_true', List.all_eq_true,
    List.isEmpty_eq_false_iff, bne_iff_ne, ne_eq]
  constructor
  · rintro ⟨⟨hback, hpieces⟩, -⟩
    refine ⟨fun piece hpiece => ?_, by simpa using hback⟩
    obtain ⟨⟨hempty, hhere⟩, habove⟩ := hpieces piece hpiece
    exact ⟨hempty, hhere, habove⟩
  · rintro ⟨hpieces, hback⟩
    refine ⟨⟨by simpa using hback, fun piece hpiece => ?_⟩, ?_⟩
    · obtain ⟨hempty, hhere, habove⟩ := hpieces piece hpiece
      exact ⟨⟨hempty, hhere⟩, habove⟩
    · intro component hcomponent
      exact isName_of_mem_components hpieces hcomponent

theorem isRelativePath_iff {path : String} : isRelativePath path = true ↔ StaysBelow path := by
  rw [isRelativePath_iff_pieces]
  constructor
  · rintro ⟨hpieces, hback⟩
    obtain ⟨hchars, hsome, hslash⟩ := splitOn_eq_iff.mp (rfl : path.toList.splitOn '/' = _)
    refine ⟨⟨path.toList.splitOn '/', hsome, hchars, fun piece hpiece => ?_⟩, hback⟩
    obtain ⟨hempty, hhere, habove⟩ := hpieces piece hpiece
    exact ⟨hempty, hslash piece hpiece, hhere, habove⟩
  · rintro ⟨⟨parts, hsome, hchars, hnames⟩, hback⟩
    refine ⟨?_, hback⟩
    rw [splitOn_eq_iff.mpr ⟨hchars, hsome, fun part hpart => (hnames part hpart).noSlash⟩]
    intro part hpart
    have hname := hnames part hpart
    exact ⟨hname.nonempty, hname.notHere, hname.notAbove⟩

/-- A character that stands in names and nowhere else. -/
def IsNameChar (c : Char) : Prop := c ≠ '/' ∧ c ≠ '\\'

theorem isNameChar_of {p : Char → Bool} (hslash : p '/' = false) (hback : p '\\' = false) {c : Char}
    (h : p c = true) : IsNameChar c := by
  constructor
  · rintro rfl
    rw [hslash] at h
    cases h
  · rintro rfl
    rw [hback] at h
    cases h

/-- A path of one name is below the root. -/
theorem isRelativePath_name {name : String} (hchars : ∀ c ∈ name.toList, IsNameChar c)
    (hlong : 2 < name.toList.length) : isRelativePath name = true := by
  have hslash : '/' ∉ name.toList := fun hin => (hchars '/' hin).1 rfl
  have hback : '\\' ∉ name.toList := fun hin => (hchars '\\' hin).2 rfl
  have hnames : ∀ other : List Char, other.length ≤ 2 → name.toList ≠ other := by
    intro other hshort heq
    rw [heq] at hlong
    omega
  refine isRelativePath_iff.mpr ⟨⟨[name.toList], by simp, by simp [List.intercalate], ?_⟩, hback⟩
  rw [List.forall_mem_singleton]
  exact ⟨hnames [] (by decide), hslash, hnames ['.'] (by decide), hnames ['.', '.'] (by decide)⟩

/-- A name in a directory is below the root, if the directory is. -/
theorem isRelativePath_append {directory name : String}
    (hdirectory : isRelativePath directory = true) (hname : isRelativePath name = true) :
    isRelativePath (directory ++ "/" ++ name) = true := by
  rw [isRelativePath_iff_pieces] at hdirectory hname ⊢
  have hchars : (directory ++ "/" ++ name).toList = directory.toList ++ '/' :: name.toList := by
    simp
  rw [hchars, List.splitOn_append_cons_self, List.forall_mem_append]
  exact ⟨⟨hdirectory.1, hname.1⟩, by simpa using ⟨hdirectory.2, hname.2⟩⟩

end Archive

/-! ### Plain extensions -/

theorem isExtensionChar_iff {c : Char} :
    isExtensionChar c = true ↔ c.isAlphanum = true ∨ c = '_' ∨ c = '+' ∨ c = '-' := by
  delta isExtensionChar Char.isAlphanum Char.isAlpha Char.isUpper Char.isLower Char.isDigit
  simp only [Bool.or_eq_true, Bool.and_eq_true, decide_eq_true_eq, beq_iff_eq, Char.le_def,
    or_assoc]

/-- An extension is plain exactly when it is a run of segments with a point before each. -/
theorem isPlainExtension_iff {extension : String} : isPlainExtension extension = true ↔
    ∃ segments : List (List Char), extension.toList = segments.flatMap ('.' :: ·) ∧
      ∀ segment ∈ segments, segment ≠ [] ∧ ∀ c ∈ segment, isExtensionChar c = true := by
  obtain ⟨first, segments, hpieces⟩ :=
    List.exists_cons_of_ne_nil (List.splitOn_ne_nil '.' extension.toList)
  rw [isPlainExtension, hpieces]
  constructor
  · intro h
    simp only [Bool.and_eq_true, List.all_eq_true, List.isEmpty_iff] at h
    obtain ⟨rfl, hsegments⟩ := h
    refine ⟨segments, (splitOn_eq_nil_cons_iff.mp hpieces).1, fun segment hsegment => ?_⟩
    simpa using hsegments segment hsegment
  · rintro ⟨others, hchars, hothers⟩
    have hpoint : ∀ segment ∈ others, '.' ∉ segment :=
      fun segment hsegment hin => absurd ((hothers segment hsegment).2 '.' hin) (by decide)
    rw [splitOn_eq_nil_cons_iff.mpr ⟨hchars, hpoint⟩, List.cons.injEq] at hpieces
    obtain ⟨rfl, rfl⟩ := hpieces
    simpa using hothers

theorem mem_of_isPlainExtension {extension : String} (h : isPlainExtension extension = true)
    {c : Char} (hc : c ∈ extension.toList) : c = '.' ∨ isExtensionChar c = true := by
  obtain ⟨segments, hchars, hsegments⟩ := isPlainExtension_iff.mp h
  rw [hchars] at hc
  obtain ⟨segment, hsegment, hin⟩ := List.mem_flatMap.mp hc
  exact (List.mem_cons.mp hin).imp_right ((hsegments segment hsegment).2 c)

/-! ### The scaffold -/

namespace Scaffold

variable {b : Blueprint} {options : GenerateOptions} {artifacts : List Artifact}

theorem mem_slug {name : String} {c : Char} (h : c ∈ (slug name).toList) :
    isSlugChar c = true ∨ c = '_' := by
  rw [slug, String.toList_ofList] at h
  exact collapseRuns_alphabet h

theorem mem_blueprintPath {c : Char} (h : c ∈ (blueprintPath b).toList) :
    Archive.IsNameChar c := by
  rw [blueprintPath, String.toList_append, List.mem_append] at h
  rcases h with hslug | hsuffix
  · rcases mem_slug hslug with hplain | rfl
    · exact Archive.isNameChar_of (by decide) (by decide) hplain
    · exact ⟨by decide, by decide⟩
  · exact ⟨ne_of_mem_of_not_mem hsuffix (by decide), ne_of_mem_of_not_mem hsuffix (by decide)⟩

theorem length_blueprintPath (b : Blueprint) : 19 ≤ (blueprintPath b).toList.length := by
  rw [blueprintPath, String.toList_append, List.length_append]
  have hsuffix : "_specification.json".toList.length = 19 := by decide
  omega

/-- The paths that do not depend on the blueprint. -/
def fixedPaths : List String := [
  "manifest.json", "grammar.ebnf", "lexicon.json", "semantics.json",
  "docs/README.md", "docs/LANGUAGE_REFERENCE.md"]

def helloPath (b : Blueprint) : String := "examples/hello" ++ b.fileExtension

/-- The files of a blueprint, of which the options choose. -/
def files (b : Blueprint) (options : GenerateOptions) : List Artifact :=
  baseArtifacts b ++ (if options.documentation then documentation b else []) ++
    (if options.examples then examples b else []) ++ [blueprintArtifact b]

/-- What a generation needs in order to succeed, and what it makes then. -/
theorem generate_eq_ok_iff : generate b options = .ok artifacts ↔
    (isBlank b.name = false ∧ (options.examples = true → isPlainExtension b.fileExtension = true)) ∧
      artifacts = files b options := by
  unfold generate
  split
  case isTrue hblank => simp [hblank]
  case isFalse hname =>
    split
    case isTrue hbad =>
      simp only [Bool.and_eq_true, Bool.not_eq_true'] at hbad
      simp [hbad.1, hbad.2]
    case isFalse hextension =>
      have hplain : options.examples = true → isPlainExtension b.fileExtension = true := by
        intro hexamples
        simpa [hexamples] using hextension
      simp only [Except.ok.injEq, eq_comm (a := artifacts), files, iff_and_self]
      exact fun _ => ⟨Bool.eq_false_iff.mpr hname, hplain⟩

theorem paths_sublist (h : generate b options = .ok artifacts) :
    (artifacts.map Artifact.path).Sublist (fixedPaths ++ [helloPath b, blueprintPath b]) := by
  rw [(generate_eq_ok_iff.mp h).2, files]
  -- an option that is off only leaves paths out
  have hdocs : ((if options.documentation then documentation b else []).map
      Artifact.path).Sublist (fixedPaths.drop 4) := by
    split
    · exact List.Sublist.refl _
    · exact List.nil_sublist _
  have hexamples : ((if options.examples then examples b else []).map
      Artifact.path).Sublist [helloPath b] := by
    split
    · exact List.Sublist.refl _
    · exact List.nil_sublist _
  have hbase : (baseArtifacts b).map Artifact.path = fixedPaths.take 4 := rfl
  have hall := ((List.Sublist.refl (fixedPaths.take 4)).append hdocs).append
    (hexamples.append (List.Sublist.refl [blueprintPath b]))
  rw [List.map_append, List.map_append, List.map_append, hbase]
  simpa [blueprintArtifact, Artifact.ofText, fixedPaths] using hall

theorem helloPath_not_mem (b : Blueprint) : helloPath b ∉ fixedPaths := by
  intro hin
  have hheads : ∀ path ∈ fixedPaths, path.toList.head? ≠ some 'e' := by decide
  apply hheads (helloPath b) hin
  simp [helloPath]

theorem blueprintPath_not_mem (b : Blueprint) : blueprintPath b ∉ fixedPaths := by
  intro hin
  -- of the fixed paths, those without a slash are too short
  have hforms : ∀ path ∈ fixedPaths, '/' ∈ path.toList ∨ path.toList.length < 19 := by decide
  rcases hforms (blueprintPath b) hin with hslash | hshort
  · exact (mem_blueprintPath hslash).1 rfl
  · have hlong := length_blueprintPath b
    omega

theorem paths_nodup (b : Blueprint) : (fixedPaths ++ [helloPath b, blueprintPath b]).Nodup := by
  have hfixed : fixedPaths.Nodup := by decide
  have hdiffer : helloPath b ≠ blueprintPath b := by
    intro heq
    have hslash : '/' ∈ (helloPath b).toList := by simp [helloPath]
    rw [heq] at hslash
    exact (mem_blueprintPath hslash).1 rfl
  have hmade : [helloPath b, blueprintPath b].Nodup := by simpa using hdiffer
  refine hfixed.append hmade ?_
  intro path hin hmade
  rcases List.mem_cons.mp hmade with rfl | hlast
  · exact helloPath_not_mem b hin
  · rw [List.mem_singleton] at hlast
    exact blueprintPath_not_mem b (hlast ▸ hin)

theorem isRelativePath_helloPath (h : isPlainExtension b.fileExtension = true) :
    Archive.isRelativePath (helloPath b) = true := by
  have hname : Archive.isRelativePath ("hello" ++ b.fileExtension) = true := by
    apply Archive.isRelativePath_name
    · intro c hc
      rw [String.toList_append, List.mem_append] at hc
      rcases hc with hhello | hextension
      · exact ⟨ne_of_mem_of_not_mem hhello (by decide), ne_of_mem_of_not_mem hhello (by decide)⟩
      · rcases mem_of_isPlainExtension h hextension with rfl | hchar
        · exact ⟨by decide, by decide⟩
        · exact Archive.isNameChar_of (by decide) (by decide) hchar
    · rw [String.toList_append, List.length_append]
      have hhello : "hello".toList.length = 5 := by decide
      omega
  have hdirectory : Archive.isRelativePath "examples" = true := by decide
  have hsplit : helloPath b = "examples" ++ "/" ++ ("hello" ++ b.fileExtension) := by
    rw [helloPath, ← String.append_assoc]
    rfl
  rw [hsplit]
  exact Archive.isRelativePath_append hdirectory hname

theorem isRelativePath_blueprintPath (b : Blueprint) :
    Archive.isRelativePath (blueprintPath b) = true := by
  apply Archive.isRelativePath_name (fun c hc => mem_blueprintPath hc)
  have hlong := length_blueprintPath b
  omega

/-- **The scaffold of a language can always be packed.** -/
theorem packable_of_generate (h : generate b options = .ok artifacts) :
    Archive.Packable artifacts := by
  have hpaths : (artifacts.map Artifact.path).Nodup := (paths_nodup b).sublist (paths_sublist h)
  obtain ⟨⟨-, hextension⟩, hartifacts⟩ := generate_eq_ok_iff.mp h
  rw [files] at hartifacts
  refine ⟨?_, ?_, hpaths⟩
  · rw [hartifacts]
    simp
  · intro artifact hin
    have hfixed : ∀ path ∈ fixedPaths, Archive.isRelativePath path = true := by decide
    rw [hartifacts, List.mem_append, List.mem_append, List.mem_append] at hin
    rcases hin with ((hbase | hdocs) | hexample) | hlast
    · have hpath : artifact.path ∈ fixedPaths.take 4 := List.mem_map_of_mem hbase
      exact hfixed artifact.path (List.mem_of_mem_take hpath)
    · split at hdocs
      · have hpath : artifact.path ∈ fixedPaths.drop 4 := List.mem_map_of_mem hdocs
        exact hfixed artifact.path (List.mem_of_mem_drop hpath)
      · cases hdocs
    · split at hexample
      · rename_i hwanted
        rw [examples, List.mem_singleton] at hexample
        rw [hexample]
        exact isRelativePath_helloPath (hextension hwanted)
      · cases hexample
    · rw [List.mem_singleton] at hlast
      rw [hlast]
      exact isRelativePath_blueprintPath b

end Scaffold

end LanguageBlueprint
