/-
  LanguageBlueprint/Proofs/Text/Slugs.lean
  ========================================
  **Slugs are safe and canonical.**  A slug consists of small letters, digits and
  underscores, and no two underscores stand side by side.  The texts of this form are
  the slugs, and each is its own slug.  A slug shows the letters and digits of the
  trimmed text in lower case, and an underscore for every gap between them, that is,
  for every run of other characters that is not part of a longer one.

    * collapsing a text in pieces   — `collapseRuns_append`, `collapseRuns_others`;
    * underscores and gaps          — `collapseRuns_of_gap`, `exists_gap`, `underscore_iff_gap`;
    * lower case                    — `lowerCaseAt_alike`, `toList_slug`;
    * the form of a slug            — `IsSlug`, `isSlug_slugChars`, `slug_eq_self_iff`;
    * the whole                     — `slug_safe_canonical`.
-/
import LanguageBlueprint.Text.Slug
import LanguageBlueprint.Unicode.LowerCase
import Mathlib.Data.List.Chain
import Mathlib.Data.List.TakeWhile

namespace LanguageBlueprint.Text

open Unicode

variable {c : Char} {cs front gap back left right : List Char} {inRun : Bool}

/-! ### Collapsing a text in pieces -/

/-- Whether the text ends inside a run of other characters. -/
def inRunAfter (inRun : Bool) (cs : List Char) : Bool :=
  (cs.getLast?.map (fun c => !isSlugChar c)).getD inRun

theorem inRunAfter_cons (inRun : Bool) (c : Char) (cs : List Char) :
    inRunAfter inRun (c :: cs) = inRunAfter (!isSlugChar c) cs := by
  unfold inRunAfter
  rw [List.getLast?_cons]
  cases cs.getLast? <;> rfl

/-- What stands behind a text is collapsed as the text leaves it off. -/
theorem collapseRuns_append (inRun : Bool) (front back : List Char) :
    collapseRuns inRun (front ++ back) =
      collapseRuns inRun front ++ collapseRuns (inRunAfter inRun front) back := by
  induction front generalizing inRun with
  | nil => rfl
  | cons c front ih =>
      rw [inRunAfter_cons, List.cons_append]
      by_cases hc : isSlugChar c = true
      · simp [collapseRuns, hc, ih]
      · cases inRun <;> simp [collapseRuns, hc, ih]

/-- Some characters, and a slug keeps none of them. -/
structure IsOthers (cs : List Char) : Prop where
  nonempty : cs ≠ []
  others : ∀ c ∈ cs, isSlugChar c = false

theorem isOthers_singleton (h : isSlugChar c = false) : IsOthers [c] :=
  ⟨List.cons_ne_nil _ _, by simpa using h⟩

theorem IsOthers.inRunAfter (h : IsOthers cs) (inRun : Bool) :
    inRunAfter inRun cs = true := by
  have hlast := h.others (cs.getLast h.nonempty) (List.getLast_mem h.nonempty)
  simp [Text.inRunAfter, List.getLast?_eq_some_getLast h.nonempty, hlast]

/-- The run that is open ends where a letter or digit stands. -/
theorem collapseRuns_true (cs : List Char) :
    collapseRuns true cs = collapseRuns false (cs.dropWhile (fun c => !isSlugChar c)) := by
  induction cs with
  | nil => rfl
  | cons c cs ih => by_cases hc : isSlugChar c = true <;> simp [collapseRuns, hc, ih]

theorem collapseRuns_true_of_others (h : ∀ c ∈ cs, isSlugChar c = false) :
    collapseRuns true cs = [] := by
  rw [collapseRuns_true, dropWhile_eq_nil_iff_all.mpr (by simpa using h)]
  rfl

/-- A run of other characters is one underscore. -/
theorem collapseRuns_others (h : IsOthers cs) (inRun : Bool) :
    collapseRuns inRun cs = if inRun then [] else ['_'] := by
  cases inRun with
  | true => exact collapseRuns_true_of_others h.others
  | false =>
      obtain ⟨hsome, hothers⟩ := h
      obtain ⟨c, rest, rfl⟩ := List.exists_cons_of_ne_nil hsome
      rw [List.forall_mem_cons] at hothers
      simp [collapseRuns, hothers.1, collapseRuns_true_of_others hothers.2]

/-! ### Underscores and gaps -/

theorem isSlugChar_underscore : isSlugChar '_' = false := by decide

theorem ne_underscore (h : isSlugChar c = true) : c ≠ '_' := by
  rintro rfl
  rw [isSlugChar_underscore] at h
  cases h

/-- A run of other characters, with none of them right before it or behind it. -/
structure IsGap (front gap back : List Char) : Prop where
  isOthers : IsOthers gap
  begins : ∀ c ∈ front.getLast?, isSlugChar c = true
  ends : ∀ c ∈ back.head?, isSlugChar c = true

theorem inRunAfter_of_kept (h : ∀ c ∈ front.getLast?, isSlugChar c = true) :
    inRunAfter false front = false := by
  unfold inRunAfter
  cases hlast : front.getLast? with
  | none => rfl
  | some c => simp [h c hlast]

/-- A gap is written as one underscore, between what is written for the text before and behind. -/
theorem collapseRuns_of_gap (h : IsGap front gap back) :
    collapseRuns false (front ++ gap ++ back) =
      collapseRuns false front ++ '_' :: collapseRuns false back := by
  have hback : back.dropWhile (fun c => !isSlugChar c) = back :=
    dropWhile_eq_self (fun c hc => by simp [h.ends c hc])
  rw [List.append_assoc, collapseRuns_append, collapseRuns_append, inRunAfter_of_kept h.begins,
    h.isOthers.inRunAfter, collapseRuns_others h.isOthers, collapseRuns_true, hback]
  rfl

theorem IsGap.cons (h : IsGap front gap back) (hc : front = [] → isSlugChar c = true) :
    IsGap (c :: front) gap back := by
  refine ⟨h.isOthers, ?_, h.ends⟩
  by_cases hfront : front = []
  · simpa [hfront] using hc hfront
  · rw [List.getLast?_cons_of_ne_nil hfront]
    exact h.begins

/-- The other characters at the beginning of a text are a gap. -/
theorem isGap_takeWhile (hc : isSlugChar c = false) (cs : List Char) :
    IsGap [] (c :: cs.takeWhile (fun c => !isSlugChar c))
      (cs.dropWhile (fun c => !isSlugChar c)) := by
  refine ⟨⟨List.cons_ne_nil _ _, ?_⟩, by simp, ?_⟩
  · rw [List.forall_mem_cons]
    refine ⟨hc, fun other hother => ?_⟩
    simpa using List.mem_takeWhile_imp hother
  · intro other hother
    have hfirst := List.head?_dropWhile_not (fun c => !isSlugChar c) cs
    rw [Option.mem_def.mp hother] at hfirst
    simpa using hfirst

/-- An underscore stands behind what is written for the first character, or it is written for it. -/
theorem underscore_cases (h : collapseRuns inRun (c :: cs) = left ++ '_' :: right) :
    (∃ later, left = collapseRuns inRun [c] ++ later ∧
      collapseRuns (!isSlugChar c) cs = later ++ '_' :: right) ∨
    (inRun = false ∧ isSlugChar c = false ∧ left = [] ∧ collapseRuns true cs = right) := by
  by_cases hc : isSlugChar c = true
  · rw [collapseRuns, if_pos hc, List.cons_eq_append_iff] at h
    rcases h with ⟨-, hsame⟩ | ⟨later, rfl, hlater⟩
    · exact absurd (List.cons.inj hsame).1.symm (ne_underscore hc)
    · exact .inl ⟨later, by simp [collapseRuns, hc], by simpa [hc] using hlater⟩
  · have hother : isSlugChar c = false := by simpa using hc
    cases inRun with
    | true =>
        have hopen : collapseRuns true cs = left ++ '_' :: right := by
          simpa [collapseRuns, hother] using h
        exact .inl ⟨left, by simp [collapseRuns, hother], by simpa [hother] using hopen⟩
    | false =>
        have hopen : '_' :: collapseRuns true cs = left ++ '_' :: right := by
          simpa [collapseRuns, hother] using h
        rw [List.cons_eq_append_iff] at hopen
        rcases hopen with ⟨rfl, hsame⟩ | ⟨later, rfl, hlater⟩
        · exact .inr ⟨rfl, hother, rfl, (List.cons.inj hsame).2.symm⟩
        · exact .inl ⟨later, by simp [collapseRuns, hother], by simpa [hother] using hlater⟩

/-- An underscore is written for a gap.  In an open run there is a letter or digit before it. -/
theorem exists_gap (h : collapseRuns inRun cs = left ++ '_' :: right) :
    ∃ front gap back, cs = front ++ gap ++ back ∧ IsGap front gap back ∧
      (inRun = true → front ≠ []) ∧
      collapseRuns inRun front = left ∧ collapseRuns false back = right := by
  induction cs generalizing inRun left with
  | nil => simp [collapseRuns] at h
  | cons c cs ih =>
      rcases underscore_cases h with ⟨later, rfl, hlater⟩ | ⟨rfl, hother, rfl, rfl⟩
      · obtain ⟨front, gap, back, rfl, hgap, hfront, rfl, hright⟩ := ih hlater
        have hkept : front = [] → isSlugChar c = true := by
          intro hnone
          by_contra hother
          exact hfront (by simpa using hother) hnone
        exact ⟨c :: front, gap, back, rfl, hgap.cons hkept, fun _ => List.cons_ne_nil c front,
          collapseRuns_append inRun [c] front, hright⟩
      · refine ⟨[], _, _, ?_, isGap_takeWhile hother cs, by simp, rfl, ?_⟩
        · simp
        · rw [← collapseRuns_true]

/-- Between the same letters and digits, an underscore is written exactly where a gap stands. -/
theorem underscore_iff_gap (cs kept rest : List Char) :
    (∃ left right, collapseRuns false cs = left ++ '_' :: right ∧
      left.filter isSlugChar = kept ∧ right.filter isSlugChar = rest) ↔
    ∃ front gap back, cs = front ++ gap ++ back ∧ IsGap front gap back ∧
      front.filter isSlugChar = kept ∧ back.filter isSlugChar = rest := by
  constructor
  · rintro ⟨left, right, hcollapsed, hleft, hright⟩
    obtain ⟨front, gap, back, hchars, hgap, -, rfl, rfl⟩ := exists_gap hcollapsed
    rw [filter_collapseRuns] at hleft hright
    exact ⟨front, gap, back, hchars, hgap, hleft, hright⟩
  · rintro ⟨front, gap, back, rfl, hgap, hfront, hback⟩
    refine ⟨_, _, collapseRuns_of_gap hgap, ?_, ?_⟩
    · rw [filter_collapseRuns, hfront]
    · rw [filter_collapseRuns, hback]

/-! ### Lower case -/

theorem isSlugChar_iff : isSlugChar c = true ↔
    (97 ≤ c.toNat ∧ c.toNat ≤ 122) ∨ (48 ≤ c.toNat ∧ c.toNat ≤ 57) := by
  simp only [isSlugChar, Bool.or_eq_true, Bool.and_eq_true, decide_eq_true_eq, Char.le_def,
    UInt32.le_iff_toNat_le]
  rfl

theorem isSlugChar_eq_false_iff : isSlugChar c = false ↔
    ¬ ((97 ≤ c.toNat ∧ c.toNat ≤ 122) ∨ (48 ≤ c.toNat ∧ c.toNat ≤ 57)) := by
  rw [← Bool.not_eq_true, isSlugChar_iff]

theorem isCapital_iff : ('A' ≤ c ∧ c ≤ 'Z') ↔ 65 ≤ c.toNat ∧ c.toNat ≤ 90 := by
  rw [Char.le_def, Char.le_def, UInt32.le_iff_toNat_le, UInt32.le_iff_toNat_le]
  rfl

theorem holds_iff {range : CapitalRange} {n : Nat} : range.holds n = true ↔
    range.first ≤ n ∧ n ≤ range.last ∧ (n - range.first) % range.step = 0 := by
  simp [CapitalRange.holds, and_assoc]

/-- Only the capitals of the Latin alphabet and the sign for kelvin have a small letter that a slug
keeps. -/
theorem capitals_apart : ∀ range ∈ capitals, range = ⟨65, 90, 1, 97⟩ ∨
    range = ⟨0x212A, 0x212A, 1, 107⟩ ∨
    (122 < range.first ∧ 122 < range.small ∧ range.holds 0x212A = false) := by
  decide +kernel

/-- What a slug can show of a small letter. -/
inductive SmallLetter (n : Nat) : Nat → Prop
  | latin (h : 65 ≤ n ∧ n ≤ 90) : SmallLetter n (n + 32)
  | kelvin (h : n = 0x212A) : SmallLetter n 107
  | far {m : Nat} (h : 122 < n ∧ n ≠ 0x212A) (hsmall : 122 < m) : SmallLetter n m
  | same (h : ¬ (65 ≤ n ∧ n ≤ 90) ∧ n ≠ 0x212A) : SmallLetter n n

theorem smallLetter_spec (n : Nat) : SmallLetter n (smallLetter n) := by
  rcases smallLetter_cases n with ⟨range, hrange, hholds, hsmall⟩ | ⟨hnone, hsame⟩
  · rcases capitals_apart range hrange with rfl | rfl | ⟨hfirst, hfar, hkelvin⟩
    · have hin := holds_iff.mp hholds
      simp only at hin hsmall
      have hshift : smallLetter n = n + 32 := by omega
      rw [hshift]
      exact .latin ⟨hin.1, hin.2.1⟩
    · have hin := holds_iff.mp hholds
      simp only at hin hsmall
      have hk : smallLetter n = 107 := by omega
      rw [hk]
      exact .kelvin (by omega)
    · have hin := holds_iff.mp hholds
      have hne : n ≠ 0x212A := by
        rintro rfl
        rw [hkelvin] at hholds
        cases hholds
      exact .far ⟨by omega, hne⟩ (by omega)
  · have hlatin := hnone ⟨65, 90, 1, 97⟩ List.mem_cons_self
    have hkelvin := hnone ⟨0x212A, 0x212A, 1, 107⟩ (by decide +kernel)
    rw [← Bool.not_eq_true, holds_iff] at hlatin hkelvin
    simp only at hlatin hkelvin
    rw [hsame]
    exact .same ⟨by omega, by omega⟩

theorem isSlugChar_ofNat_of_lt {n : Nat} (h : 122 < n) : isSlugChar (Char.ofNat n) = false := by
  by_cases hvalid : n.isValidChar
  · have hcode : (Char.ofNat n).toNat = n := by
      rw [Char.ofNat, dif_pos hvalid]
      rfl
    rw [isSlugChar_eq_false_iff, hcode]
    omega
  · rw [Char.ofNat, dif_neg hvalid]
    decide

/-- The characters give the same in a slug: they are the same, or a slug keeps none of them. -/
def AlikeInSlugs (cs ds : List Char) : Prop := cs = ds ∨ (IsOthers cs ∧ IsOthers ds)

theorem collapseRuns_append_alike {ds es fs : List Char} (h : AlikeInSlugs cs ds)
    (hrest : ∀ inRun, collapseRuns inRun es = collapseRuns inRun fs) (inRun : Bool) :
    collapseRuns inRun (cs ++ es) = collapseRuns inRun (ds ++ fs) := by
  rw [collapseRuns_append, collapseRuns_append, hrest]
  rcases h with rfl | ⟨hcs, hds⟩
  · rfl
  · rw [hcs.inRunAfter, hds.inRunAfter, collapseRuns_others hcs, collapseRuns_others hds]

theorem lowerForSlug_of_capital (h : 65 ≤ c.toNat ∧ c.toNat ≤ 90) :
    lowerForSlug c = [Char.ofNat (c.toNat + 32)] := by
  simp [lowerForSlug, isCapital_iff, h]

theorem lowerForSlug_of_other (hcapital : ¬ (65 ≤ c.toNat ∧ c.toNat ≤ 90))
    (hkelvin : c ≠ '\u212A') (hdotted : c ≠ '\u0130') : lowerForSlug c = [c] := by
  simp [lowerForSlug, isCapital_iff, hcapital, hkelvin, hdotted]

/-- A character has the same in its lower case that a slug shows, wherever it stands. -/
theorem lowerCaseAt_alike (before : List Char) (c : Char) (after : List Char) :
    AlikeInSlugs (lowerCaseAt before c after) (lowerForSlug c) := by
  by_cases hsigma : c = '\u03A3'
  · subst hsigma
    refine .inr ⟨?_, isOthers_singleton (by decide)⟩
    rw [lowerCaseAt, if_pos (beq_self_eq_true _)]
    split
    · exact isOthers_singleton (by decide)
    · exact isOthers_singleton (by decide)
  by_cases hdotted : c = '\u0130'
  · subst hdotted
    exact .inl rfl
  have hsmall : lowerCaseAt before c after = [Char.ofNat (smallLetter c.toNat)] := by
    simp [lowerCaseAt, hsigma, hdotted]
  rw [hsmall]
  have hspec := smallLetter_spec c.toNat
  generalize smallLetter c.toNat = n at hspec
  cases hspec with
  | latin h => exact .inl (lowerForSlug_of_capital h).symm
  | kelvin h =>
      have hkelvin : c = '\u212A' := Char.toNat_inj.mp h
      subst hkelvin
      exact .inl rfl
  | far h hfar =>
      have hkept : isSlugChar c = false := by
        rw [isSlugChar_eq_false_iff]
        omega
      rw [lowerForSlug_of_other (by omega) (fun hkelvin => h.2 (by rw [hkelvin]; rfl)) hdotted]
      exact .inr ⟨isOthers_singleton (isSlugChar_ofNat_of_lt hfar), isOthers_singleton hkept⟩
  | same h =>
      rw [lowerForSlug_of_other h.1 (fun hkelvin => h.2 (by rw [hkelvin]; rfl)) hdotted,
        Char.ofNat_toNat]
      exact .inl rfl

theorem collapseRuns_lowerCaseAfter (before cs : List Char) (inRun : Bool) :
    collapseRuns inRun (lowerCaseAfter before cs) =
      collapseRuns inRun (cs.flatMap lowerForSlug) := by
  induction cs generalizing before inRun with
  | nil => rfl
  | cons c cs ih =>
      rw [lowerCaseAfter, List.flatMap_cons]
      exact collapseRuns_append_alike (lowerCaseAt_alike before c cs) (fun _ => ih _ _) inRun

/-- A slug is the trimmed text in lower case with its runs collapsed. -/
theorem toList_slug (text : String) :
    (slug text).toList = collapseRuns false (lowerCase (trim text)).toList := by
  rw [slug, trim, lowerCase, String.toList_ofList, String.toList_ofList, String.toList_ofList,
    slugChars, collapseRuns_lowerCaseAfter]

/-- The lower case of a capital with a dot is a letter and a mark; the mark and the space behind it
are one gap. -/
example : slug " \u0130 X! " = "i_x_" := by decide +kernel

/-! ### The form of a slug -/

/-- Small letters, digits and underscores, and no two underscores side by side. -/
structure IsSlug (cs : List Char) : Prop where
  alphabet : ∀ c ∈ cs, isSlugChar c = true ∨ c = '_'
  apart : cs.IsChain (fun a b => ¬ (a = '_' ∧ b = '_'))

/-- In an open run no underscore comes first. -/
theorem head_collapseRuns_true (cs : List Char) :
    ∀ c ∈ (collapseRuns true cs).head?, c ≠ '_' := by
  induction cs with
  | nil => simp [collapseRuns]
  | cons first cs ih =>
      by_cases hfirst : isSlugChar first = true
      · simpa [collapseRuns, hfirst] using ne_underscore hfirst
      · simpa [collapseRuns, hfirst] using ih

theorem isChain_collapseRuns (inRun : Bool) (cs : List Char) :
    (collapseRuns inRun cs).IsChain (fun a b => ¬ (a = '_' ∧ b = '_')) := by
  induction cs generalizing inRun with
  | nil => exact .nil
  | cons c cs ih =>
      by_cases hc : isSlugChar c = true
      · rw [collapseRuns, if_pos hc, List.isChain_cons]
        exact ⟨fun next _ hboth => ne_underscore hc hboth.1, ih false⟩
      · cases inRun with
        | true => simpa [collapseRuns, hc] using ih true
        | false =>
            have hopen : collapseRuns false (c :: cs) = '_' :: collapseRuns true cs := by
              simp [collapseRuns, hc]
            rw [hopen, List.isChain_cons]
            exact ⟨fun next hnext hboth => head_collapseRuns_true cs next hnext hboth.2, ih true⟩

theorem isSlug_slugChars (name : List Char) : IsSlug (slugChars name) :=
  ⟨fun _ hc => collapseRuns_alphabet hc, isChain_collapseRuns _ _⟩

/-- A text in which every underscore stands alone has nothing to collapse. -/
theorem collapseRuns_of_isSlug (h : IsSlug cs)
    (hfirst : inRun = true → ∀ c ∈ cs.head?, c ≠ '_') : collapseRuns inRun cs = cs := by
  induction cs generalizing inRun with
  | nil => rfl
  | cons c cs ih =>
      obtain ⟨halphabet, hapart⟩ := h
      rw [List.forall_mem_cons] at halphabet
      rw [List.isChain_cons] at hapart
      have hrest : IsSlug cs := ⟨halphabet.2, hapart.2⟩
      rcases halphabet.1 with hc | rfl
      · have hkept := @ih false hrest (by simp)
        simp [collapseRuns, hc, hkept]
      · have hclosed : inRun = false := by
          rw [← Bool.not_eq_true]
          exact fun hopen => hfirst hopen '_' rfl rfl
        have hkept := @ih true hrest (fun _ next hnext hsame => hapart.1 next hnext ⟨rfl, hsame⟩)
        simp [collapseRuns, isSlugChar_underscore, hclosed, hkept]

theorem IsSlug.code (h : IsSlug cs) (hc : c ∈ cs) :
    c.toNat = 95 ∨ (97 ≤ c.toNat ∧ c.toNat ≤ 122) ∨ (48 ≤ c.toNat ∧ c.toNat ≤ 57) := by
  rcases h.alphabet c hc with hkept | rfl
  · exact .inr (isSlugChar_iff.mp hkept)
  · exact .inl rfl

theorem IsSlug.not_blank (h : IsSlug cs) (hc : c ∈ cs) : isBlankChar c = false := by
  have hcode := h.code hc
  simp only [isBlankChar]
  simp
  omega

theorem IsSlug.trimChars (h : IsSlug cs) : trimChars cs = cs :=
  trimChars_eq_self (fun _ hc => h.not_blank (List.mem_of_mem_head? hc))
    (fun _ hc => h.not_blank (List.mem_of_mem_getLast? hc))

theorem IsSlug.lowerForSlug (h : IsSlug cs) (hc : c ∈ cs) : lowerForSlug c = [c] := by
  have hcode := h.code hc
  refine lowerForSlug_of_other (by omega) ?_ ?_
  · rintro rfl
    exact absurd hcode (by decide)
  · rintro rfl
    exact absurd hcode (by decide)

/-- A text of the form of a slug is its own slug. -/
theorem slugChars_of_isSlug (h : IsSlug cs) : slugChars cs = cs := by
  have hlower : cs.flatMap Text.lowerForSlug = cs := by
    rw [List.flatMap_congr (fun c hc => h.lowerForSlug hc), List.flatMap_singleton']
  rw [slugChars, h.trimChars, hlower]
  exact collapseRuns_of_isSlug h (by simp)

theorem slug_eq_self_iff {text : String} : slug text = text ↔ IsSlug text.toList := by
  rw [slug, ← String.toList_inj, String.toList_ofList]
  constructor
  · intro h
    rw [← h]
    exact isSlug_slugChars text.toList
  · exact slugChars_of_isSlug

/-- **Slugs are safe and canonical.**  For every text, the slug consists of small letters `a`-`z`,
digits and underscores, no two underscores stand side by side, and it is empty exactly when the text
is blank.  It has the letters and digits of the trimmed text in lower case, in their order, and
between them an underscore exactly where a gap stands, a run of other characters that is not part of
a longer one.  A slug is its own slug, and trimming does not change the slug of a text. -/
theorem slug_safe_canonical (text : String) :
    (∀ c ∈ (slug text).toList, ('a' ≤ c ∧ c ≤ 'z') ∨ ('0' ≤ c ∧ c ≤ '9') ∨ c = '_') ∧
    (slug text).toList.IsChain (fun a b => ¬ (a = '_' ∧ b = '_')) ∧
    (slug text = "" ↔ isBlank text = true) ∧
    (slug text).toList.filter isSlugChar = (lowerCase (trim text)).toList.filter isSlugChar ∧
    (∀ kept rest : List Char,
      (∃ left right, (slug text).toList = left ++ '_' :: right ∧
        left.filter isSlugChar = kept ∧ right.filter isSlugChar = rest) ↔
      ∃ front gap back, (lowerCase (trim text)).toList = front ++ gap ++ back ∧
        IsGap front gap back ∧
        front.filter isSlugChar = kept ∧ back.filter isSlugChar = rest) ∧
    slug (slug text) = slug text ∧ slug (trim text) = slug text := by
  have hform : IsSlug (slug text).toList := by
    rw [slug, String.toList_ofList]
    exact isSlug_slugChars text.toList
  refine ⟨?_, hform.apart, slug_eq_empty_iff, ?_, ?_, slug_eq_self_iff.mpr hform, ?_⟩
  · intro c hc
    simpa [isSlugChar, or_assoc] using hform.alphabet c hc
  · rw [toList_slug, filter_collapseRuns]
  · rw [toList_slug]
    exact underscore_iff_gap _
  · rw [slug, slug, slugChars, slugChars, trim, String.toList_ofList, trimChars_trimChars]

end LanguageBlueprint.Text
