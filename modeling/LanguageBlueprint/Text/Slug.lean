/-
  LanguageBlueprint/Text/Slug.lean
  ================================
  **Directory-safe names.**  The slug of a language name is the trimmed,
  lower-cased name in which every run of characters other than `a`-`z` and
  `0`-`9` has become one underscore.

  Lower-casing is needed only as far as a slug can show it.  Beside the capitals
  `A`-`Z`, two characters have a lower-case form with a letter of the slug
  alphabet: KELVIN SIGN (`k`) and LATIN CAPITAL LETTER I WITH DOT ABOVE (`i` and
  a combining dot).  Every other character stands outside the alphabet before
  and after lower-casing.
-/
import LanguageBlueprint.Text.Blank

namespace LanguageBlueprint.Text

/-- The letters and digits that a slug keeps. -/
def isSlugChar (c : Char) : Bool :=
  ('a' ≤ c && c ≤ 'z') || ('0' ≤ c && c ≤ '9')

/-- The lower-case form of a character, as far as slugs tell characters apart. -/
def lowerForSlug (c : Char) : List Char :=
  if 'A' ≤ c && c ≤ 'Z' then [Char.ofNat (c.toNat + 32)]
  else if c == '\u212A' then ['k']
  else if c == '\u0130' then ['i', '\u0307']
  else [c]

/-- Writes one underscore for every run of characters outside the alphabet; `inRun` tells whether
the underscore of the current run is already written. -/
def collapseRuns (inRun : Bool) : List Char → List Char
  | [] => []
  | c :: cs =>
      if isSlugChar c then c :: collapseRuns false cs
      else if inRun then collapseRuns true cs
      else '_' :: collapseRuns true cs

def slugChars (name : List Char) : List Char :=
  collapseRuns false ((trimChars name).flatMap lowerForSlug)

def slug (name : String) : String := String.ofList (slugChars name.toList)

/-- A collapsed text consists of letters and digits of the alphabet and underscores. -/
theorem collapseRuns_alphabet {inRun : Bool} {cs : List Char} {c : Char}
    (h : c ∈ collapseRuns inRun cs) : isSlugChar c = true ∨ c = '_' := by
  induction cs generalizing inRun with
  | nil => simp [collapseRuns] at h
  | cons d ds ih =>
      unfold collapseRuns at h
      by_cases hd : isSlugChar d
      · simp only [hd, if_true, List.mem_cons] at h
        cases h with
        | inl h => exact .inl (h ▸ hd)
        | inr h => exact ih h
      · cases inRun with
        | true => simp only [hd] at h; exact ih h
        | false =>
            simp only [hd, Bool.false_eq_true, if_false, List.mem_cons] at h
            cases h with
            | inl h => exact .inr h
            | inr h => exact ih h

/-- Collapsing keeps the letters and digits of the alphabet, in order. -/
theorem filter_collapseRuns (inRun : Bool) (cs : List Char) :
    (collapseRuns inRun cs).filter isSlugChar = cs.filter isSlugChar := by
  induction cs generalizing inRun with
  | nil => rfl
  | cons c cs ih =>
      unfold collapseRuns
      by_cases hc : isSlugChar c
      · simp [hc, ih]
      · have hu : isSlugChar '_' = false := by decide
        cases inRun <;> simp [hc, ih, hu]

/-! ### Empty slugs -/

theorem collapseRuns_eq_nil_iff {cs : List Char} : collapseRuns false cs = [] ↔ cs = [] := by
  cases cs with
  | nil => simp [collapseRuns]
  | cons c cs => by_cases hc : isSlugChar c <;> simp [collapseRuns, hc]

theorem lowerForSlug_ne_nil (c : Char) : lowerForSlug c ≠ [] := by
  unfold lowerForSlug
  split
  · simp
  · split
    · simp
    · split <;> simp

theorem slugChars_eq_nil_iff {name : List Char} : slugChars name = [] ↔ trimChars name = [] := by
  rw [slugChars, collapseRuns_eq_nil_iff, List.flatMap_eq_nil_iff]
  constructor
  · intro h
    rw [List.eq_nil_iff_forall_not_mem]
    intro c hc
    exact lowerForSlug_ne_nil c (h c hc)
  · intro h
    simp [h]

/-- Only a blank name has an empty slug. -/
theorem slug_eq_empty_iff {name : String} : slug name = "" ↔ isBlank name = true := by
  have hchars : slug name = "" ↔ slugChars name.toList = [] := by
    rw [slug, ← String.toList_inj, String.toList_ofList, String.toList_empty]
  rw [hchars, slugChars_eq_nil_iff, trimChars_eq_nil_iff, isBlank]

end LanguageBlueprint.Text
