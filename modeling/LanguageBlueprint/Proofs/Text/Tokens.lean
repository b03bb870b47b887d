/-
  LanguageBlueprint/Proofs/Text/Tokens.lean
  =========================================
  **Token lists are a normal form.**  The tokens of a line are texts that are not
  empty, have no blank at an end, and hold no comma.  Every list of such texts is the
  token list of a line: that in which they are joined by commas, with blanks beside the
  commas or without.

    * texts cut at a separator       — `splitOn_eq_iff`, `splitOn_eq_nil_cons_iff`;
    * blanks at the ends of a text   — `trim_blank_append`, `trim_append_blank`;
    * a line without commas          — `tokenChars_of_noComma`;
    * lines of several tokens        — `splitTokens_append_comma`, `splitTokens_intercalate`;
    * the whole                      — `tokens_normal_form`.
-/
import LanguageBlueprint.Text.TokenList
import Mathlib.Data.List.Basic
import Mathlib.Data.List.TakeWhile

namespace LanguageBlueprint.Text

variable {sep : Char} {cs : List Char} {pieces : List (List Char)}
variable {entry before after : String} {entries : List String}

/-! ### Texts cut into pieces -/

theorem splitOn_eq_iff : cs.splitOn sep = pieces ↔
    cs = [sep].intercalate pieces ∧ pieces ≠ [] ∧ ∀ piece ∈ pieces, sep ∉ piece := by
  constructor
  · rintro rfl
    exact ⟨(List.intercalate_splitOn sep).symm, List.splitOn_ne_nil sep cs,
      fun piece hpiece => not_mem_of_mem_splitOn hpiece⟩
  · rintro ⟨rfl, hsome, hfree⟩
    exact List.splitOn_intercalate sep hfree hsome

/-- The separator stands before each piece but the first. -/
theorem intercalate_cons (sep : Char) (first : List Char) (pieces : List (List Char)) :
    [sep].intercalate (first :: pieces) = first ++ pieces.flatMap (sep :: ·) := by
  induction pieces generalizing first with
  | nil => simp [List.intercalate]
  | cons second pieces ih =>
      have hrest := ih second
      simp only [List.intercalate, List.intersperse_cons_cons, List.flatten_cons] at hrest ⊢
      rw [hrest]
      rfl

theorem splitOn_eq_nil_cons_iff : cs.splitOn sep = [] :: pieces ↔
    cs = pieces.flatMap (sep :: ·) ∧ ∀ piece ∈ pieces, sep ∉ piece := by
  rw [splitOn_eq_iff, intercalate_cons, List.nil_append, List.forall_mem_cons]
  simp

/-! ### Tokens -/

/-- A text that can stand in a list of tokens. -/
structure IsToken (token : String) : Prop where
  nonempty : token ≠ ""
  trimmed : trim token = token
  noComma : ',' ∉ token.toList

/-! ### Blanks at the ends of a text -/

theorem trim_blank_append (h : isBlank before = true) (entry : String) :
    trim (before ++ entry) = trim entry := by
  rw [trim, String.toList_append, trimChars_blank_append (List.all_eq_true.mp h), trim]

theorem trim_append_blank (h : isBlank after = true) (entry : String) :
    trim (entry ++ after) = trim entry := by
  rw [trim, String.toList_append, trimChars_append_blank (List.all_eq_true.mp h), trim]

theorem mem_dropWhile_of_not {p : Char → Bool} {c : Char} (hc : c ∈ cs) (hkept : p c = false) :
    c ∈ cs.dropWhile p := by
  rw [← List.takeWhile_append_dropWhile (p := p) (l := cs), List.mem_append] at hc
  rcases hc with htaken | hleft
  · rw [List.mem_takeWhile_imp htaken] at hkept
    cases hkept
  · exact hleft

/-- Only blanks are taken off. -/
theorem mem_trimChars {c : Char} (hc : c ∈ cs) (hblank : isBlankChar c = false) :
    c ∈ trimChars cs := by
  rw [trimChars, List.mem_reverse]
  refine mem_dropWhile_of_not ?_ hblank
  rw [List.mem_reverse]
  exact mem_dropWhile_of_not hc hblank

/-! ### Lines of tokens -/

/-- A line without commas has one token, if it is not blank. -/
theorem tokenChars_of_noComma (hcomma : ',' ∉ cs) (hsome : trimChars cs ≠ []) :
    tokenChars cs = [trimChars cs] := by
  rw [tokenChars, List.splitOn_eq_singleton hcomma]
  simpa using hsome

/-- An entry that is a token once it is trimmed gives this token. -/
theorem splitTokens_of_isToken (h : IsToken (trim entry)) : splitTokens entry = [trim entry] := by
  have hcomma : ',' ∉ entry.toList := by
    intro hin
    have hkept := mem_trimChars hin (by decide)
    exact h.noComma (by rwa [trim, String.toList_ofList])
  have hsome : trimChars entry.toList ≠ [] := by
    intro hnone
    exact h.nonempty (by rw [trim, hnone])
  rw [splitTokens, tokenChars_of_noComma hcomma hsome, List.map_singleton, trim]

theorem isToken_of_mem_splitTokens {text token : String} (h : token ∈ splitTokens text) :
    IsToken token := by
  obtain ⟨chars, hchars, rfl⟩ := List.mem_map.mp h
  obtain ⟨hsome, htrimmed, hcomma⟩ := tokenChars_spec hchars
  refine ⟨?_, by rw [trim, String.toList_ofList, htrimmed], by rwa [String.toList_ofList]⟩
  intro hempty
  rw [← String.toList_inj, String.toList_ofList] at hempty
  exact hsome hempty

theorem splitTokens_append_comma (a b : String) :
    splitTokens (a ++ "," ++ b) = splitTokens a ++ splitTokens b := by
  have hline : (a ++ "," ++ b).toList = a.toList ++ ',' :: b.toList := by
    simp
  rw [splitTokens, hline, tokenChars_append_comma, List.map_append, splitTokens, splitTokens]

/-- Blank entries give nothing. -/
example : splitTokens " if , (, ,expr,) ," = ["if", "(", "expr", ")"] := by decide +kernel

/-- Entries that are tokens once they are trimmed are read back from a line in which they are joined
by commas with blanks around them. -/
theorem splitTokens_intercalate_cons (hbefore : isBlank before = true)
    (hafter : isBlank after = true) {first : String} {others : List String}
    (hfirst : IsToken (trim first)) (hothers : ∀ entry ∈ others, IsToken (trim entry)) :
    splitTokens ((before ++ "," ++ after).intercalate (first :: others)) =
      trim first :: others.map trim := by
  -- the blanks behind a comma go to the entry there, and those before it to the entry here
  induction others generalizing first with
  | nil => rw [String.intercalate_singleton, splitTokens_of_isToken hfirst, List.map_nil]
  | cons second rest ih =>
      rw [List.forall_mem_cons] at hothers
      have hline : (before ++ "," ++ after).intercalate (first :: second :: rest) =
          (first ++ before) ++ "," ++
            (before ++ "," ++ after).intercalate ((after ++ second) :: rest) := by
        rw [String.intercalate_cons_cons, String.intercalate_cons_append]
        simp only [String.append_assoc]
      have hhere : trim (first ++ before) = trim first := trim_append_blank hbefore first
      have hthere : trim (after ++ second) = trim second := trim_blank_append hafter second
      have hrest := @ih (after ++ second) (by rw [hthere]; exact hothers.1) hothers.2
      rw [hline, splitTokens_append_comma, splitTokens_of_isToken (by rw [hhere]; exact hfirst),
        hrest, hhere, hthere]
      rfl

theorem splitTokens_intercalate (hbefore : isBlank before = true) (hafter : isBlank after = true)
    (h : ∀ entry ∈ entries, IsToken (trim entry)) :
    splitTokens ((before ++ "," ++ after).intercalate entries) = entries.map trim := by
  cases entries with
  | nil =>
      rw [String.intercalate_nil]
      decide
  | cons first others =>
      rw [List.forall_mem_cons] at h
      exact splitTokens_intercalate_cons hbefore hafter h.1 h.2

/-- Tokens joined by commas are read back as they are. -/
theorem splitTokens_join {tokens : List String} (h : ∀ token ∈ tokens, IsToken token) :
    splitTokens (",".intercalate tokens) = tokens := by
  have htrimmed : tokens.map trim = tokens := by
    rw [List.map_congr_left (fun token htoken => (h token htoken).trimmed), List.map_id']
  have hpadded : ∀ token ∈ tokens, IsToken (trim token) := by
    intro token htoken
    rw [(h token htoken).trimmed]
    exact h token htoken
  have hread := @splitTokens_intercalate "" "" tokens rfl rfl hpadded
  rwa [String.empty_append, String.append_empty, htrimmed] at hread

/-- **Token lists are a normal form.**  Every token of a line is not empty, equal to its own trim,
and free of commas, and every list of such texts is the token list of some line.  The tokens of a
line, joined by commas, give the same list again; so do they with blanks around the commas, the same
at every comma or others at each.  Two lines joined by a comma have the tokens of the first and then
those of the second. -/
theorem tokens_normal_form :
    (∀ text, ∀ token ∈ splitTokens text, IsToken token) ∧
    (∀ text, splitTokens (",".intercalate (splitTokens text)) = splitTokens text) ∧
    (∀ text before after entries, isBlank before = true → isBlank after = true →
      entries.map trim = splitTokens text →
      splitTokens ((before ++ "," ++ after).intercalate entries) = splitTokens text) ∧
    (∀ a b, splitTokens (a ++ "," ++ b) = splitTokens a ++ splitTokens b) ∧
    (∀ tokens, (∀ token ∈ tokens, IsToken token) → ∃ text, splitTokens text = tokens) := by
  refine ⟨fun text token htoken => isToken_of_mem_splitTokens htoken, ?_, ?_,
    splitTokens_append_comma, ?_⟩
  · intro text
    exact splitTokens_join (fun token htoken => isToken_of_mem_splitTokens htoken)
  · intro text before after entries hbefore hafter hentries
    rw [← hentries]
    apply splitTokens_intercalate hbefore hafter
    intro entry hentry
    have htoken : trim entry ∈ splitTokens text := by
      rw [← hentries]
      exact List.mem_map_of_mem hentry
    exact isToken_of_mem_splitTokens htoken
  · intro tokens htokens
    exact ⟨_, splitTokens_join htokens⟩

/-- Spaces, a tab and an ideographic space around the commas. -/
theorem tokens_normal_form_spaced :
    ["if ", " (", "\u3000expr"].map trim = splitTokens "if,(,expr" ∧
      splitTokens ((" " ++ "," ++ "\t").intercalate ["if ", " (", "\u3000expr"]) =
        splitTokens "if,(,expr" := by
  have hentries : ["if ", " (", "\u3000expr"].map trim = splitTokens "if,(,expr" := by
    decide +kernel
  obtain ⟨-, -, hspaced, -, -⟩ := tokens_normal_form
  exact ⟨hentries, hspaced _ " " "\t" _ (by decide) (by decide) hentries⟩

end LanguageBlueprint.Text
