/-
  LanguageBlueprint/Text/TokenList.lean
  =====================================
  **Comma separated token lists.**  An author types the tokens of a rule in one
  line; the list holds what stands between the commas, trimmed, without the
  entries of which nothing is left.

    * every token is non-empty, trimmed and free of commas — `tokenChars_spec`;
    * splitting distributes over a comma                   — `tokenChars_append_comma`.
-/
import LanguageBlueprint.Text.Blank

namespace LanguageBlueprint.Text

/-- The tokens of a comma separated line, as characters. -/
def tokenChars (line : List Char) : List (List Char) :=
  ((line.splitOn ',').map trimChars).filter (fun token => !token.isEmpty)

def splitTokens (text : String) : List String := (tokenChars text.toList).map String.ofList

theorem not_mem_of_mem_splitOn {sep : Char} {cs piece : List Char}
    (h : piece ∈ cs.splitOn sep) : sep ∉ piece := by
  induction cs generalizing piece with
  | nil => simp_all
  | cons c cs ih =>
      rw [List.splitOn_cons_eq_if_modifyHead] at h
      by_cases hc : c == sep
      · simp only [hc, if_true, List.mem_cons] at h
        cases h with
        | inl h => simp [h]
        | inr h => exact ih h
      · simp only [hc] at h
        cases hs : cs.splitOn sep with
        | nil => exact absurd hs (List.splitOn_ne_nil _ _)
        | cons first others =>
            rw [hs] at h ih
            simp only [List.modifyHead_cons, Bool.false_eq_true, if_false, List.mem_cons] at h
            cases h with
            | inl h =>
                subst h
                have : sep ∉ first := ih (by simp)
                have hne : sep ≠ c := fun e => hc (by simp [e])
                simp [hne, this]
            | inr h => exact ih (by simp [h])

theorem mem_of_mem_trimChars {c : Char} {cs : List Char} (h : c ∈ trimChars cs) : c ∈ cs := by
  unfold trimChars at h
  rw [List.mem_reverse] at h
  have h' := (List.dropWhile_sublist _).subset h
  rw [List.mem_reverse] at h'
  exact (List.dropWhile_sublist _).subset h'

/-- Every token is non-empty, has no blank at an end, and holds no comma. -/
theorem tokenChars_spec {line token : List Char} (h : token ∈ tokenChars line) :
    token ≠ [] ∧ trimChars token = token ∧ ',' ∉ token := by
  unfold tokenChars at h
  rw [List.mem_filter, List.mem_map] at h
  obtain ⟨⟨piece, hpiece, rfl⟩, hne⟩ := h
  refine ⟨by simpa using hne, trimChars_trimChars piece, ?_⟩
  intro hcomma
  exact not_mem_of_mem_splitOn hpiece (mem_of_mem_trimChars hcomma)

/-- The tokens of two lines joined by a comma are those of the first, then those of the second. -/
theorem tokenChars_append_comma (a b : List Char) :
    tokenChars (a ++ ',' :: b) = tokenChars a ++ tokenChars b := by
  unfold tokenChars
  rw [List.splitOn_append_cons_self, List.map_append, List.filter_append]

end LanguageBlueprint.Text
