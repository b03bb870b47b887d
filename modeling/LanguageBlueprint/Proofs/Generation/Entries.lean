/-
  LanguageBlueprint/Proofs/Generation/Entries.lean
  ================================================
  **Exactly what packing does.**  Files are packed one after the other, and the
  first one that cannot follow those before it decides: it would leave the root,
  or its path is there already.  If there is no such file, every file becomes an
  entry below the root directory of the language.  That directory is the slug of
  the language, which is a name unless the language is blank; the entries of a
  blank language begin at the root of whatever they are unpacked into.

    * the first file that is refused     — `clean_or_firstRefused`;
    * when packing succeeds              — `pack_eq_ok_iff`;
    * packing in full                    — `pack_exact`;
    * where the entries are              — `isRelativePath_entryPath`, `entries_below_root`.
-/
import LanguageBlueprint.Proofs.Generation.Packing
import Mathlib.Data.List.Induction

namespace LanguageBlueprint.Archive

open Text

/-! ### The first file that is refused -/

/-- Every path stays below the root, and no path occurs twice. -/
structure Clean (artifacts : List Artifact) : Prop where
  below : ∀ artifact ∈ artifacts, StaysBelow artifact.path
  distinct : (artifacts.map Artifact.path).Nodup

/-- Why a file cannot follow those before it. -/
inductive Refuses (language : String) (before : List Artifact) (artifact : Artifact) :
    GenerationFault → Prop
  | escaping (hpath : ¬ StaysBelow artifact.path) :
      Refuses language before artifact (.escapingPath artifact.path)
  | repeated (hpath : StaysBelow artifact.path)
      (hbefore : artifact.path ∈ before.map Artifact.path) :
      Refuses language before artifact (.repeatedEntry (slug language ++ "/" ++ artifact.path))

/-- The first file in order that is refused, and why. -/
def FirstRefused (language : String) (artifacts : List Artifact) (refused : Artifact)
    (fault : GenerationFault) : Prop :=
  ∃ before after, artifacts = before ++ refused :: after ∧ Clean before ∧
    Refuses language before refused fault

variable {language : String} {artifacts before : List Artifact} {artifact : Artifact}
  {fault : GenerationFault}

theorem clean_nil : Clean [] :=
  ⟨by simp, List.nodup_nil⟩

theorem clean_append_singleton_iff : Clean (before ++ [artifact]) ↔
    Clean before ∧ StaysBelow artifact.path ∧ artifact.path ∉ before.map Artifact.path := by
  constructor
  · rintro ⟨hbelow, hdistinct⟩
    rw [List.map_append, List.map_singleton, List.nodup_append'] at hdistinct
    obtain ⟨hbefore, -, hapart⟩ := hdistinct
    refine ⟨⟨fun other hother => hbelow other (List.mem_append_left _ hother), hbefore⟩, ?_, ?_⟩
    · exact hbelow artifact (List.mem_append_right _ (List.mem_singleton_self _))
    · intro hin
      exact hapart hin (List.mem_singleton_self _)
  · rintro ⟨⟨hbelow, hdistinct⟩, hpath, hfresh⟩
    constructor
    · rw [List.forall_mem_append, List.forall_mem_singleton]
      exact ⟨hbelow, hpath⟩
    · rw [List.map_append, List.map_singleton, List.nodup_append']
      refine ⟨hdistinct, List.nodup_singleton _, ?_⟩
      rw [List.disjoint_singleton]
      exact hfresh

/-- A file can follow those before it, or there is a reason why not. -/
theorem clean_or_refuses (language : String) (hbefore : Clean before) (artifact : Artifact) :
    Clean (before ++ [artifact]) ∨ ∃ fault, Refuses language before artifact fault := by
  by_cases hpath : StaysBelow artifact.path
  · by_cases hold : artifact.path ∈ before.map Artifact.path
    · exact .inr ⟨_, .repeated hpath hold⟩
    · exact .inl (clean_append_singleton_iff.mpr ⟨hbefore, hpath, hold⟩)
  · exact .inr ⟨_, .escaping hpath⟩

/-- All files can be packed, or there is a first one that cannot. -/
theorem clean_or_firstRefused (language : String) (artifacts : List Artifact) :
    Clean artifacts ∨ ∃ refused fault, FirstRefused language artifacts refused fault := by
  -- from the end: what comes later is no reason to refuse a file
  induction artifacts using List.reverseRecOn with
  | nil => exact .inl clean_nil
  | append_singleton front last ih =>
      rcases ih with hclean | ⟨refused, fault, before, after, rfl, hbefore, hrefused⟩
      · rcases clean_or_refuses language hclean last with hall | ⟨fault, hrefused⟩
        · exact .inl hall
        · exact .inr ⟨last, fault, front, [], rfl, hclean, hrefused⟩
      · refine .inr ⟨refused, fault, before, after ++ [last], ?_, hbefore, hrefused⟩
        rw [List.append_assoc, List.cons_append]

/-! ### Packing -/

/-- The fault is that of the file which stands first among the remaining ones. -/
theorem entriesAfter_of_refuses (h : Refuses language before artifact fault)
    (after : List Artifact) :
    entriesAfter language (packedAfter language [] before) (artifact :: after) =
      .error (.generation fault) := by
  cases h with
  | escaping hpath =>
      have hrefused : isRelativePath artifact.path = false := by
        rw [← Bool.not_eq_true, isRelativePath_iff]
        exact hpath
      simp only [entriesAfter, hrefused, Bool.not_false, if_true]
  | repeated hpath hbefore =>
      have hpassed : isRelativePath artifact.path = true := isRelativePath_iff.mpr hpath
      have hpacked : (packedAfter language [] before).contains
          (entryPath language artifact.path) = true := by
        obtain ⟨other, hother, hsame⟩ := List.mem_map.mp hbefore
        simp only [packedAfter, List.append_nil, List.contains_eq_mem, List.mem_reverse,
          List.mem_map, decide_eq_true_eq]
        exact ⟨other, hother, by rw [hsame]⟩
      simp only [entriesAfter, hpassed, hpacked, Bool.not_true, Bool.false_eq_true, if_false,
        if_true]
      rfl

/-- The first file that is refused is the one that is reported. -/
theorem pack_of_firstRefused {refused : Artifact}
    (h : FirstRefused language artifacts refused fault) :
    pack language artifacts = .error (.generation fault) := by
  obtain ⟨before, after, rfl, hbefore, hrefused⟩ := h
  have hsome : (before ++ refused :: after).isEmpty = false := by simp
  have hrun := @entriesAfter_append language [] before (refused :: after)
    (fun artifact hin => isRelativePath_iff.mpr (hbefore.below artifact hin)) hbefore.distinct
    (fun artifact _ hin => by cases hin)
  rw [entriesAfter_of_refuses hrefused] at hrun
  simp only [pack, hsome, hrun, Bool.false_eq_true, if_false]
  rfl

theorem packable_iff : Packable artifacts ↔ artifacts ≠ [] ∧ Clean artifacts := by
  constructor
  · intro h
    exact ⟨h.nonempty, fun artifact hin => isRelativePath_iff.mp (h.relative artifact hin),
      h.distinct⟩
  · rintro ⟨hsome, hbelow, hdistinct⟩
    exact ⟨hsome, fun artifact hin => isRelativePath_iff.mpr (hbelow artifact hin), hdistinct⟩

theorem pack_nil (language : String) : pack language [] = .error (.emptyArchive language) := rfl

/-- What packing needs in order to succeed, and what it makes then. -/
theorem pack_eq_ok_iff {archive : Archive} : pack language artifacts = .ok archive ↔
    (artifacts ≠ [] ∧ Clean artifacts) ∧
      archive = ⟨nameFor language, .entries (artifacts.map (entry language))⟩ := by
  constructor
  · intro h
    by_cases hsome : artifacts = []
    · rw [hsome, pack_nil] at h
      cases h
    · rcases clean_or_firstRefused language artifacts with hclean | ⟨refused, fault, hrefused⟩
      · rw [pack_of_packable (packable_iff.mpr ⟨hsome, hclean⟩)] at h
        cases h
        exact ⟨⟨hsome, hclean⟩, rfl⟩
      · rw [pack_of_firstRefused hrefused] at h
        cases h
  · rintro ⟨hclean, rfl⟩
    exact pack_of_packable (packable_iff.mpr hclean) language

theorem infix_between (front text back : String) :
    text.toList <:+: (front ++ text ++ back).toList := by
  rw [String.toList_append, String.toList_append]
  exact List.infix_append _ _ _

theorem infix_end (front text : String) : text.toList <:+: (front ++ text).toList := by
  rw [String.toList_append]
  exact (List.suffix_append _ _).isInfix

/-- Whoever reads the fault finds the path of the file that was refused. -/
theorem Refuses.path_infix_message (h : Refuses language before artifact fault) :
    artifact.path.toList <:+: (Failure.generation fault).message.toList := by
  have hfault : artifact.path.toList <:+: fault.message.toList := by
    cases h with
    | escaping hpath => exact infix_between "artifact path '" artifact.path _
    | repeated hpath hbefore =>
        have hentry := infix_end (slug language ++ "/") artifact.path
        exact hentry.trans (infix_end "invalid Zip archive: Duplicate filename: " _)
  exact hfault.trans (infix_end "Generation error: " fault.message)

/-- **Packing is exact.**  Without files there is nothing to pack.  Otherwise packing succeeds
exactly when every path stays below the root and none occurs twice, and the archive then has one
entry for each file, in order, with its bytes.  If it does not succeed, the first file in order that
leaves the root or repeats a path is reported by its path. -/
theorem pack_exact (language : String) (artifacts : List Artifact) :
    (∀ name, pack language artifacts = .error (.emptyArchive name) ↔
      artifacts = [] ∧ name = language) ∧
    (artifacts ≠ [] → ((∃ archive, pack language artifacts = .ok archive) ↔ Clean artifacts)) ∧
    (∀ archive, pack language artifacts = .ok archive →
      archive = ⟨language ++ ".zip", .entries (artifacts.map (fun artifact =>
        ⟨slug language ++ "/" ++ artifact.path, artifact.contents⟩))⟩) ∧
    (artifacts ≠ [] → ¬ Clean artifacts → ∃ refused fault,
      FirstRefused language artifacts refused fault ∧
      pack language artifacts = .error (.generation fault) ∧
      refused.path.toList <:+: (Failure.generation fault).message.toList) := by
  refine ⟨?_, ?_, ?_, ?_⟩
  · intro name
    constructor
    · intro hempty
      by_cases hsome : artifacts = []
      · rw [hsome, pack_nil] at hempty
        cases hempty
        exact ⟨hsome, rfl⟩
      · rcases clean_or_firstRefused language artifacts with hclean | ⟨refused, fault, hrefused⟩
        · rw [pack_eq_ok_iff.mpr ⟨⟨hsome, hclean⟩, rfl⟩] at hempty
          cases hempty
        · rw [pack_of_firstRefused hrefused] at hempty
          cases hempty
    · rintro ⟨rfl, rfl⟩
      exact pack_nil name
  · intro hsome
    constructor
    · rintro ⟨archive, harchive⟩
      exact (pack_eq_ok_iff.mp harchive).1.2
    · intro hclean
      exact ⟨_, pack_eq_ok_iff.mpr ⟨⟨hsome, hclean⟩, rfl⟩⟩
  · intro archive harchive
    exact (pack_eq_ok_iff.mp harchive).2
  · intro hsome hunclean
    rcases clean_or_firstRefused language artifacts with hclean | ⟨refused, fault, hrefused⟩
    · exact absurd hclean hunclean
    · have hpath : refused.path.toList <:+: (Failure.generation fault).message.toList := by
        obtain ⟨before, after, -, -, hwhy⟩ := hrefused
        exact hwhy.path_infix_message
      exact ⟨refused, fault, hrefused, pack_of_firstRefused hrefused, hpath⟩

/-! ### Where the entries are -/

theorem not_mem_slug {c : Char} (hchar : isSlugChar c = false) (hline : c ≠ '_') (name : String) :
    c ∉ (slug name).toList := by
  intro hin
  rcases Scaffold.mem_slug hin with hplain | hsame
  · rw [hchar] at hplain
    cases hplain
  · exact hline hsame

/-- The pieces of an entry are the slug of its language and the pieces of its path. -/
theorem splitOn_entryPath (language path : String) :
    (entryPath language path).toList.splitOn '/' =
      (slug language).toList :: path.toList.splitOn '/' := by
  have hslug : (slug language).toList.splitOn '/' = [(slug language).toList] := by
    have hslash := @not_mem_slug '/' (by decide) (by decide) language
    exact splitOn_eq_iff.mpr ⟨by simp [List.intercalate], by simp, by simpa using hslash⟩
  have hchars : (entryPath language path).toList =
      (slug language).toList ++ '/' :: path.toList := by
    simp [entryPath]
  rw [hchars, List.splitOn_append_cons_self, hslug, List.singleton_append]

theorem isPlainPiece_slug {name : String} (h : trim name ≠ "") :
    IsPlainPiece (slug name).toList := by
  have hdot := @not_mem_slug '.' (by decide) (by decide) name
  refine ⟨?_, ?_, ?_⟩
  · intro hnone
    have hempty : slug name = "" := String.toList_inj.mp hnone
    exact h (isBlank_iff_trim.mp (slug_eq_empty_iff.mp hempty))
  · intro hhere
    rw [hhere] at hdot
    exact hdot List.mem_cons_self
  · intro habove
    rw [habove] at hdot
    exact hdot List.mem_cons_self

/-- Below a directory that has a name, a path that stays below is found again as such. -/
theorem isRelativePath_entryPath {path : String} (hname : trim language ≠ "")
    (hpath : StaysBelow path) : isRelativePath (entryPath language path) = true := by
  obtain ⟨hpieces, hback⟩ := isRelativePath_iff_pieces.mp (isRelativePath_iff.mpr hpath)
  rw [isRelativePath_iff_pieces, splitOn_entryPath, List.forall_mem_cons]
  refine ⟨⟨isPlainPiece_slug hname, hpieces⟩, ?_⟩
  have hslug := @not_mem_slug '\\' (by decide) (by decide) language
  simpa [entryPath, hslug] using hback

theorem entryPath_of_blank {path : String} (hblank : trim language = "") :
    entryPath language path = "/" ++ path := by
  rw [entryPath, slug_eq_empty_iff.mpr (isBlank_iff_trim.mpr hblank), String.empty_append]

/-- **Where the entries of an archive are.**  An entry of a language with a name is a relative path:
between its slashes there is no empty piece, no dot and no pair of dots, and there is no backslash
in it.  The entries of a blank language are all absolute, and behind the root they stay below. -/
theorem entries_below_root {archive : Archive} (h : pack language artifacts = .ok archive) :
    ∃ entries, archive.content = .entries entries ∧ entries ≠ [] ∧
      (trim language ≠ "" → ∀ entry ∈ entries,
        (∀ piece ∈ entry.path.toList.splitOn '/', piece ≠ [] ∧ piece ≠ ['.'] ∧ piece ≠ ['.', '.']) ∧
        '\\' ∉ entry.path.toList) ∧
      (trim language = "" → ∀ entry ∈ entries,
        ∃ path, entry.path = "/" ++ path ∧ StaysBelow path) := by
  obtain ⟨⟨hsome, hclean⟩, rfl⟩ := pack_eq_ok_iff.mp h
  refine ⟨_, rfl, by simpa using hsome, ?_, ?_⟩
  · intro hname
    rw [List.forall_mem_map]
    intro artifact hin
    exact isRelativePath_iff_pieces.mp (isRelativePath_entryPath hname (hclean.below artifact hin))
  · intro hblank
    rw [List.forall_mem_map]
    intro artifact hin
    exact ⟨artifact.path, entryPath_of_blank hblank, hclean.below artifact hin⟩

/-- A name that is a path itself gives one directory. -/
theorem entries_below_root_parent :
    let archive : Archive := ⟨"../x.zip", .entries [.ofText "_x/docs/a.txt" "hello"]⟩
    pack "../x" [.ofText "docs/a.txt" "hello"] = .ok archive ∧ trim "../x" ≠ "" ∧
      ∃ entries, archive.content = .entries entries ∧ entries ≠ [] ∧
        ∀ entry ∈ entries, (∀ piece ∈ entry.path.toList.splitOn '/',
          piece ≠ [] ∧ piece ≠ ['.'] ∧ piece ≠ ['.', '.']) ∧ '\\' ∉ entry.path.toList := by
  intro archive
  have hpack : pack "../x" [.ofText "docs/a.txt" "hello"] = .ok archive := by decide +kernel
  have hname : trim "../x" ≠ "" := by decide
  obtain ⟨entries, hcontent, hsome, hbelow, -⟩ := entries_below_root hpack
  exact ⟨hpack, hname, entries, hcontent, hsome, hbelow hname⟩

/-- A blank language is packed into absolute paths. -/
theorem blank_language_absolute :
    pack " " [.ofText "a.txt" "hello"] = .ok ⟨" .zip", .entries [.ofText "/a.txt" "hello"]⟩ ∧
      [] ∈ "/a.txt".toList.splitOn '/' := by
  decide +kernel

end LanguageBlueprint.Archive
