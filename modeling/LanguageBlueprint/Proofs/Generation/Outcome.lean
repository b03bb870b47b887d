/-
  LanguageBlueprint/Proofs/Generation/Outcome.lean
  ================================================
  **When there is a scaffold, and which files are in it.**  The scaffold is made
  of every blueprint that has a name and, when a first program is wanted, an
  extension that can end the name of a file.  Its paths then differ from each
  other and stay below the root, so it can be packed under any name.  An option
  decides about its own files: without it they are left out, and the files before
  and after them stay as they are.

    * what is needed            — `PlainExtension`, `Blueprint.FitFor`, `Blueprint.fitFor_iff`;
    * files of one option       — `filter_own`, `Engine.Adds`, `adds_files`;
    * the promise of an engine  — `Engine.Dependable`, `generate_dependable`.
-/
import LanguageBlueprint.Proofs.Generation.Packing

namespace LanguageBlueprint

open Text

/-- The text is a run of segments, each a point and then letters and digits of ASCII, underscores,
plus signs and hyphens, at least one of them. -/
def PlainExtension (extension : String) : Prop :=
  ∃ segments : List (List Char), extension.toList = segments.flatMap ('.' :: ·) ∧
    ∀ segment ∈ segments, segment ≠ [] ∧
      ∀ c ∈ segment, c.isAlphanum = true ∨ c = '_' ∨ c = '+' ∨ c = '-'

/-- The blueprint has a name and, if a first program is wanted, a plain extension. -/
structure Blueprint.FitFor (b : Blueprint) (options : GenerateOptions) : Prop where
  named : trim b.name ≠ ""
  plain : options.examples = true → PlainExtension b.fileExtension

/-- The files can be packed under any name, and are then found below its root. -/
structure Archive.PacksAnywhere (artifacts : List Artifact) : Prop where
  distinct : (artifacts.map Artifact.path).Nodup
  below : ∀ artifact ∈ artifacts, StaysBelow artifact.path
  packed : ∀ language, pack language artifacts =
    .ok ⟨nameFor language, .entries (artifacts.map (entry language))⟩

namespace Engine

/-- The files at the given paths, all of them, are there when the first options are chosen, and with
the second options there are all the others, in the same order and with the same bytes. -/
def Adds (engine : Engine) (b : Blueprint) (own : List String) (on off : GenerateOptions) : Prop :=
  ∀ artifacts, engine b on = .ok artifacts →
    (artifacts.filter (fun artifact => artifact.path ∈ own)).map Artifact.path = own ∧
    engine b off = .ok (artifacts.filter (fun artifact => artifact.path ∉ own))

/-- What can be relied on when files are generated. -/
structure Dependable (engine : Engine) : Prop where
  succeeds : ∀ (b : Blueprint) (options : GenerateOptions),
    (∃ artifacts, engine b options = .ok artifacts) ↔ b.FitFor options
  packs : ∀ (b : Blueprint) (options : GenerateOptions) (artifacts : List Artifact),
    engine b options = .ok artifacts → Archive.PacksAnywhere artifacts
  documentation : ∀ (b : Blueprint) (options : GenerateOptions),
    engine.Adds b ["docs/README.md", "docs/LANGUAGE_REFERENCE.md"]
      { options with documentation := true } { options with documentation := false }
  examples : ∀ (b : Blueprint) (options : GenerateOptions),
    engine.Adds b ["examples/hello" ++ b.fileExtension]
      { options with examples := true } { options with examples := false }

end Engine

/-! ### What is needed -/

theorem plainExtension_iff {extension : String} :
    isPlainExtension extension = true ↔ PlainExtension extension := by
  simp only [isPlainExtension_iff, isExtensionChar_iff, PlainExtension]

theorem Blueprint.fitFor_iff {b : Blueprint} {options : GenerateOptions} : b.FitFor options ↔
    isBlank b.name = false ∧
      (options.examples = true → isPlainExtension b.fileExtension = true) := by
  have hname : trim b.name ≠ "" ↔ isBlank b.name = false := by
    rw [ne_eq, ← isBlank_iff_trim, Bool.not_eq_true]
  rw [← hname, plainExtension_iff]
  exact ⟨fun h => ⟨h.named, h.plain⟩, fun h => ⟨h.1, h.2⟩⟩

/-! ### Files of one option -/

theorem filter_part {p : Artifact → Bool} {before own after : List Artifact}
    (hbefore : ∀ artifact ∈ before, p artifact = false) (hown : ∀ artifact ∈ own, p artifact = true)
    (hafter : ∀ artifact ∈ after, p artifact = false) :
    (before ++ own ++ after).filter p = own ∧
    (before ++ own ++ after).filter (fun artifact => !p artifact) = before ++ after := by
  have houtside : ∀ part : List Artifact, (∀ artifact ∈ part, p artifact = false) →
      part.filter p = [] ∧ part.filter (fun artifact => !p artifact) = part := by
    intro part hpart
    exact ⟨List.filter_eq_nil_iff.mpr (by simpa using hpart),
      List.filter_eq_self.mpr (by simpa using hpart)⟩
  have hinside : own.filter p = own ∧ own.filter (fun artifact => !p artifact) = [] :=
    ⟨List.filter_eq_self.mpr hown, List.filter_eq_nil_iff.mpr (by simpa using hown)⟩
  obtain ⟨hbefore, hbefore'⟩ := houtside before hbefore
  obtain ⟨hafter, hafter'⟩ := houtside after hafter
  simp only [List.filter_append, hbefore, hbefore', hafter, hafter', hinside, List.nil_append,
    List.append_nil, and_self]

/-- Where no two files have one path, the files of a part are found again by their paths. -/
theorem filter_own {before own after : List Artifact}
    (h : ((before ++ own ++ after).map Artifact.path).Nodup) :
    (before ++ own ++ after).filter (fun artifact => artifact.path ∈ own.map Artifact.path) = own ∧
    (before ++ own ++ after).filter (fun artifact => artifact.path ∉ own.map Artifact.path) =
      before ++ after := by
  simp only [List.map_append, List.nodup_append'] at h
  obtain ⟨⟨-, -, hbefore⟩, -, hafter⟩ := h
  simp only [decide_not]
  apply filter_part
  · intro artifact hin
    exact decide_eq_false (hbefore (List.mem_map_of_mem hin))
  · intro artifact hin
    exact decide_eq_true (List.mem_map_of_mem hin)
  · intro artifact hin
    exact decide_eq_false fun hsame =>
      hafter (List.mem_append_right _ hsame) (List.mem_map_of_mem hin)

namespace Scaffold

variable {b : Blueprint} {on off : GenerateOptions} {before own after : List Artifact}

/-- An option adds its own files, if whoever can do with it can do without it. -/
theorem adds_files (hfit : b.FitFor on → b.FitFor off)
    (hon : files b on = before ++ own ++ after) (hoff : files b off = before ++ after) :
    Engine.Adds generate b (own.map Artifact.path) on off := by
  intro artifacts hgenerate
  have hdistinct := (packable_of_generate hgenerate).distinct
  obtain ⟨hneeded, rfl⟩ := generate_eq_ok_iff.mp hgenerate
  rw [hon] at hdistinct ⊢
  obtain ⟨hown, hothers⟩ := filter_own hdistinct
  rw [hown, hothers]
  have hfits : b.FitFor off := hfit (Blueprint.fitFor_iff.mpr hneeded)
  exact ⟨rfl, generate_eq_ok_iff.mpr ⟨Blueprint.fitFor_iff.mp hfits, hoff.symm⟩⟩

/-- **The scaffold is made when it should be, and it can always be packed.**  It is refused for want
of a name or of an extension only; no two of its paths are equal and none leaves the root; and what
an option adds stands beside what would be there without it. -/
theorem generate_dependable : Engine.Dependable generate := by
  constructor
  case succeeds =>
    intro b options
    rw [Blueprint.fitFor_iff]
    constructor
    · rintro ⟨artifacts, hgenerate⟩
      exact (generate_eq_ok_iff.mp hgenerate).1
    · intro hneeded
      exact ⟨files b options, generate_eq_ok_iff.mpr ⟨hneeded, rfl⟩⟩
  case packs =>
    intro b options artifacts hgenerate
    have hpackable := packable_of_generate hgenerate
    constructor
    · exact hpackable.distinct
    · intro artifact hin
      exact Archive.isRelativePath_iff.mp (hpackable.relative artifact hin)
    · exact Archive.pack_of_packable hpackable
  case documentation =>
    intro b options
    let rest := (if options.examples then examples b else []) ++ [blueprintArtifact b]
    apply @adds_files b _ _ (baseArtifacts b) (documentation b) rest
    · exact fun h => ⟨h.named, h.plain⟩
    · simp [files, rest]
    · simp [files, rest]
  case examples =>
    intro b options
    let others := baseArtifacts b ++ (if options.documentation then documentation b else [])
    apply @adds_files b _ _ others (examples b) [blueprintArtifact b]
    · exact fun h => ⟨h.named, by simp⟩
    · simp [files, others]
    · simp [files, others]

end Scaffold

end LanguageBlueprint
