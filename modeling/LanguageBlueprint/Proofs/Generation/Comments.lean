/-
  LanguageBlueprint/Proofs/Generation/Comments.lean
  =================================================
  **What a reader of the grammar file sees.**  A reader takes out every comment,
  from an opening marker to the next closing one.  The lines of the file are
  productions and comments, and a reader of one line is never still inside a
  comment at its end; so the file can be read line by line.  A production without
  an opening marker is read as it stands.  Of a text between markers nothing is
  read if it has no closing marker of its own; if it has one, what follows it is
  read, unless a comment is opened again at once.

    * reading past comments            — `withoutComments`;
    * one line                         — `withoutComments_comment`, `withoutComments_plain`;
    * texts that stay in a comment     — `StaysInside`, `leftOver_iff`;
    * lines in a row                   — `withoutComments_lines`, `withoutBreaks_left_iff`;
    * the lines of the grammar file    — `grammarText_eq_lines`, `grammarLines_faithful_iff`;
    * the grammar file                 — `comments_hide_all_but_productions`.
-/
import LanguageBlueprint.Generation.Document
import LanguageBlueprint.Proofs.Text.Digits
import LanguageBlueprint.Review.Check
import Mathlib.Data.List.Infix

namespace LanguageBlueprint

open Text

namespace Ebnf

/-! ### Reading past comments -/

/-- What is left of a text without its comments; `inside` tells whether a comment is open. -/
def withoutComments : Bool → List Char → List Char
  | false, '(' :: '*' :: rest => withoutComments true rest
  | false, c :: rest => c :: withoutComments false rest
  | true, '*' :: ')' :: rest => withoutComments false rest
  | true, _ :: rest => withoutComments true rest
  | _, [] => []

/-- A line break is as good as any other, or none. -/
def withoutBreaks (cs : List Char) : List Char := cs.filter (· != '\n')

variable {text front back rest : List Char}

/-- Outside of comments, a character that begins none is left. -/
theorem withoutComments_left {c : Char} (h : ¬ ['(', '*'] <+: c :: rest) :
    withoutComments false (c :: rest) = c :: withoutComments false rest := by
  rw [withoutComments]
  rintro more rfl rfl
  exact h ⟨more, rfl⟩

/-- In a comment, a character that does not begin its end is passed over. -/
theorem withoutComments_passed {c : Char} (h : ¬ ['*', ')'] <+: c :: rest) :
    withoutComments true (c :: rest) = withoutComments true rest := by
  rw [withoutComments]
  rintro more rfl rfl
  exact h ⟨more, rfl⟩

/-! ### Markers in texts -/

section Markers

variable {a b c d : Char}

theorem not_pair_prefix (h : ∀ more, c = a → rest = b :: more → False) :
    ¬ [a, b] <+: c :: rest := by
  rintro ⟨more, hmore⟩
  obtain ⟨rfl, rfl⟩ := List.cons_eq_cons.mp hmore
  exact h more rfl rfl

/-- A marker at the beginning does not reach up to a character that it does not end in. -/
theorem pair_prefix_append_cons (hb : b ≠ d) :
    [a, b] <+: c :: (front ++ d :: back) ↔ [a, b] <+: c :: front := by
  cases front with
  | nil => simp [List.cons_prefix_cons, hb]
  | cons e front => simp [List.cons_prefix_cons]

/-- A marker does not reach over a character that it does not hold. -/
theorem pair_infix_append_cons (ha : a ≠ d) (hb : b ≠ d) :
    [a, b] <:+: front ++ d :: back ↔ [a, b] <:+: front ∨ [a, b] <:+: back := by
  induction front with
  | nil => simp [List.infix_cons_iff, ha]
  | cons c front ih =>
      rw [List.cons_append, List.infix_cons_iff, List.infix_cons_iff, pair_prefix_append_cons hb,
        ih, or_assoc]

/-- A text in which a marker occurs has a first place where it does. -/
theorem exists_first_pair (h : [a, b] <:+: text) :
    ∃ front back, text = front ++ a :: b :: back ∧ ¬ [a, b] <:+: front := by
  induction text with
  | nil => simp at h
  | cons c text ih =>
      by_cases hhere : [a, b] <+: c :: text
      · obtain ⟨back, hback⟩ := hhere
        exact ⟨[], back, hback.symm, by simp⟩
      · obtain ⟨front, back, rfl, hfront⟩ := ih ((List.infix_cons_iff.mp h).resolve_left hhere)
        refine ⟨c :: front, back, rfl, ?_⟩
        rw [List.infix_cons_iff]
        rintro (hstart | hinside)
        · exact hhere (hstart.trans (List.prefix_append (c :: front) (a :: b :: back)))
        · exact hfront hinside

end Markers

/-! ### One line -/

/-- A production in which no comment begins is read as it stands. -/
theorem withoutComments_plain (h : ¬ ['(', '*'] <:+: text) (rest : List Char) :
    withoutComments false (text ++ '\n' :: rest) = text ++ '\n' :: withoutComments false rest := by
  induction text with
  | nil => exact withoutComments_left (by simp)
  | cons c text ih =>
      rw [List.infix_cons_iff, not_or] at h
      have hhead : ¬ ['(', '*'] <+: c :: (text ++ '\n' :: rest) := by
        rw [pair_prefix_append_cons (by decide)]
        exact h.1
      rw [List.cons_append, withoutComments_left hhead, ih h.2, List.cons_append]

/-- What is read of a text that stands between the markers of a comment, the last of them behind a
space. -/
def leftOver (text : List Char) : List Char := withoutComments true (text ++ [' ', '*', ')'])

/-- At the end of the line no comment is open, whatever the text was. -/
theorem withoutComments_closed (inside : Bool) (text rest : List Char) :
    withoutComments inside (text ++ ' ' :: '*' :: ')' :: '\n' :: rest) =
      withoutComments inside (text ++ [' ', '*', ')']) ++ '\n' :: withoutComments false rest := by
  fun_induction withoutComments inside text with
  | case1 more ih => exact ih
  | case2 c more hopen ih =>
      have hhead := not_pair_prefix hopen
      rw [List.cons_append, List.cons_append, withoutComments_left, withoutComments_left, ih,
        List.cons_append]
      · exact (pair_prefix_append_cons (by decide)).not.mpr hhead
      · exact (pair_prefix_append_cons (by decide)).not.mpr hhead
  | case3 more ih => exact ih
  | case4 c more hclose ih =>
      have hhead := not_pair_prefix hclose
      rw [List.cons_append, List.cons_append, withoutComments_passed, withoutComments_passed, ih]
      · exact (pair_prefix_append_cons (by decide)).not.mpr hhead
      · exact (pair_prefix_append_cons (by decide)).not.mpr hhead
  | case5 inside => cases inside <;> rfl

/-- Of a comment there is read what is read of its text. -/
theorem withoutComments_comment (text rest : List Char) :
    withoutComments false ('(' :: '*' :: ' ' :: text ++ ' ' :: '*' :: ')' :: '\n' :: rest) =
      leftOver text ++ '\n' :: withoutComments false rest :=
  withoutComments_closed true text rest

/-! ### Texts that stay in a comment -/

/-- The text between the markers of a comment stays there: it has no closing marker, or behind its
first one there is nothing but line breaks up to an opening marker, and so on. -/
inductive StaysInside : List Char → Prop
  | closing {text : List Char} (h : ¬ ['*', ')'] <:+: text) : StaysInside text
  | reopened {front breaks back : List Char} (hfront : ¬ ['*', ')'] <:+: front)
      (hbreaks : ∀ c ∈ breaks, c = '\n') (hback : StaysInside back) :
      StaysInside (front ++ '*' :: ')' :: (breaks ++ '(' :: '*' :: back))

/-- In a comment, everything up to the first closing marker is passed over. -/
theorem withoutComments_first (h : ¬ ['*', ')'] <:+: front) (rest : List Char) :
    withoutComments true (front ++ '*' :: ')' :: rest) = withoutComments false rest := by
  induction front with
  | nil => rfl
  | cons c front ih =>
      rw [List.infix_cons_iff, not_or] at h
      have hhead : ¬ ['*', ')'] <+: c :: (front ++ '*' :: ')' :: rest) := by
        rw [pair_prefix_append_cons (by decide)]
        exact h.1
      rw [List.cons_append, withoutComments_passed hhead, ih h.2]

theorem withoutComments_breaks {breaks : List Char} (h : ∀ c ∈ breaks, c = '\n')
    (rest : List Char) :
    withoutComments false (breaks ++ rest) = breaks ++ withoutComments false rest := by
  induction breaks with
  | nil => rfl
  | cons c breaks ih =>
      rw [List.forall_mem_cons] at h
      obtain ⟨rfl, hbreaks⟩ := h
      rw [List.cons_append, withoutComments_left (by simp), ih hbreaks, List.cons_append]

theorem leftOver_of_closing (h : ¬ ['*', ')'] <:+: text) : leftOver text = [] := by
  have hspace : ¬ ['*', ')'] <:+: text ++ [' '] := by
    rw [pair_infix_append_cons (by decide) (by decide)]
    simpa using h
  have hfirst := withoutComments_first hspace []
  rw [List.append_assoc] at hfirst
  exact hfirst

/-- A text of which only line breaks are read, outside of comments, opens a comment. -/
theorem exists_reopened (h : withoutBreaks (withoutComments false (text ++ [' ', '*', ')'])) = []) :
    ∃ breaks back, text = breaks ++ '(' :: '*' :: back ∧ ∀ c ∈ breaks, c = '\n' := by
  induction text with
  | nil => simp [withoutBreaks, withoutComments] at h
  | cons c text ih =>
      by_cases hopen : ['(', '*'] <+: c :: text
      · obtain ⟨back, hback⟩ := hopen
        exact ⟨[], back, hback.symm, by simp⟩
      · have hhead : ¬ ['(', '*'] <+: c :: (text ++ ' ' :: ['*', ')']) := by
          rw [pair_prefix_append_cons (by decide)]
          exact hopen
        rw [List.cons_append, withoutComments_left hhead, withoutBreaks, List.filter_cons] at h
        -- a character that is read must be a line break
        by_cases hbreak : c = '\n'
        · subst hbreak
          rw [if_neg (by decide)] at h
          obtain ⟨breaks, back, rfl, hbreaks⟩ := ih h
          exact ⟨'\n' :: breaks, back, rfl, by simpa using hbreaks⟩
        · simp [hbreak] at h

/-- Exactly of the texts that stay inside there is nothing left but line breaks. -/
theorem leftOver_iff : withoutBreaks (leftOver text) = [] ↔ StaysInside text := by
  constructor
  · intro h
    induction hlength : text.length using Nat.strong_induction_on generalizing text with
    | _ n ih =>
        by_cases hclosed : ['*', ')'] <:+: text
        · obtain ⟨front, rest, rfl, hfront⟩ := exists_first_pair hclosed
          rw [leftOver, List.append_assoc, List.cons_append, List.cons_append,
            withoutComments_first hfront] at h
          obtain ⟨breaks, back, rfl, hbreaks⟩ := exists_reopened h
          refine .reopened hfront hbreaks (ih back.length ?_ ?_ rfl)
          · subst hlength
            simp only [List.length_append, List.length_cons]
            omega
          · rw [List.append_assoc, withoutComments_breaks hbreaks, withoutBreaks,
              List.filter_append, List.append_eq_nil_iff] at h
            exact h.2
        · exact .closing hclosed
  · intro h
    induction h with
    | closing hclosed => rw [leftOver_of_closing hclosed]; rfl
    | @reopened front breaks back hfront hbreaks hback ih =>
        have hlines : withoutBreaks breaks = [] := by
          rw [withoutBreaks, List.filter_eq_nil_iff]
          intro c hc
          simp [hbreaks c hc]
        have hleft : leftOver (front ++ '*' :: ')' :: (breaks ++ '(' :: '*' :: back)) =
            breaks ++ leftOver back := by
          rw [leftOver, List.append_assoc, List.cons_append, List.cons_append,
            withoutComments_first hfront, List.append_assoc, withoutComments_breaks hbreaks]
          rfl
        rw [hleft, withoutBreaks, List.filter_append]
        exact List.append_eq_nil_iff.mpr ⟨hlines, ih⟩

/-! ### Lines in a row -/

/-- A line of a grammar file: one that is a comment, and one that is to be read. -/
inductive Line where
  | comment (text : String)
  | plain (text : String)

namespace Line

def written : Line → String
  | comment text => "(* " ++ text ++ " *)"
  | plain text => text

/-- What is left of the line without comments. -/
def left : Line → List Char
  | comment text => leftOver text.toList
  | plain text => text.toList

/-- What a reader is meant to read of the line. -/
def meant : Line → List Char
  | comment _ => []
  | plain text => text.toList

/-- Of the line there is read what is meant, up to line breaks. -/
def IsFaithful : Line → Prop
  | comment text => StaysInside text.toList
  | plain _ => True

def IsOpenFree : Line → Prop
  | comment _ => True
  | plain text => ¬ ['(', '*'] <:+: text.toList

end Line

/-- The lines, each with what is shown of it and a line break. -/
def inLines (shown : Line → List Char) (lines : List Line) : List Char :=
  lines.flatMap (fun line => shown line ++ ['\n'])

theorem inLines_cons (shown : Line → List Char) (line : Line) (lines : List Line) :
    inLines shown (line :: lines) = shown line ++ '\n' :: inLines shown lines := by
  simp [inLines]

theorem withoutComments_line {line : Line} (h : line.IsOpenFree) (rest : List Char) :
    withoutComments false (line.written.toList ++ '\n' :: rest) =
      line.left ++ '\n' :: withoutComments false rest := by
  cases line with
  | comment text =>
      have hchars : (Line.comment text).written.toList ++ '\n' :: rest =
          '(' :: '*' :: ' ' :: text.toList ++ ' ' :: '*' :: ')' :: '\n' :: rest := by
        simp [Line.written]
      rw [hchars]
      exact withoutComments_comment text.toList rest
  | plain text => exact withoutComments_plain h rest

/-- The lines can be read one by one. -/
theorem withoutComments_lines {lines : List Line} (h : ∀ line ∈ lines, line.IsOpenFree) :
    withoutComments false (inLines (fun line => line.written.toList) lines) =
      inLines Line.left lines := by
  induction lines with
  | nil => rfl
  | cons line lines ih =>
      rw [List.forall_mem_cons] at h
      rw [inLines_cons, inLines_cons, withoutComments_line h.1, ih h.2]

theorem withoutBreaks_inLines (shown : Line → List Char) (lines : List Line) :
    withoutBreaks (inLines shown lines) =
      lines.flatMap (fun line => withoutBreaks (shown line)) := by
  simp [withoutBreaks, inLines, List.filter_flatMap]

theorem withoutBreaks_inLines_cons (shown : Line → List Char) (line : Line) (lines : List Line) :
    withoutBreaks (inLines shown (line :: lines)) =
      withoutBreaks (shown line) ++ withoutBreaks (inLines shown lines) := by
  rw [withoutBreaks_inLines, withoutBreaks_inLines, List.flatMap_cons]

/-- What is meant to be read is read, and perhaps more. -/
theorem meant_sublist_left (lines : List Line) :
    (withoutBreaks (inLines Line.meant lines)).Sublist
      (withoutBreaks (inLines Line.left lines)) := by
  induction lines with
  | nil => exact List.Sublist.refl _
  | cons line lines ih =>
      rw [withoutBreaks_inLines_cons, withoutBreaks_inLines_cons]
      cases line with
      | comment text => exact ih.trans (List.sublist_append_right _ _)
      | plain text => exact (List.Sublist.refl _).append ih

/-- Nothing more is read exactly when every line is faithful. -/
theorem withoutBreaks_left_iff {lines : List Line} :
    withoutBreaks (inLines Line.left lines) = withoutBreaks (inLines Line.meant lines) ↔
      ∀ line ∈ lines, line.IsFaithful := by
  induction lines with
  | nil => simp [inLines]
  | cons line lines ih =>
      rw [withoutBreaks_inLines_cons, withoutBreaks_inLines_cons, List.forall_mem_cons, ← ih]
      cases line with
      | comment text =>
          change withoutBreaks (leftOver text.toList) ++ _ = [] ++ _ ↔ StaysInside text.toList ∧ _
          rw [← leftOver_iff, List.nil_append]
          constructor
          · intro h
            have hshort := (meant_sublist_left lines).length_le
            rw [← h, List.length_append] at hshort
            have hnothing : withoutBreaks (leftOver text.toList) = [] :=
              List.length_eq_zero_iff.mp (by omega)
            rw [hnothing, List.nil_append] at h
            exact ⟨hnothing, h⟩
          · rintro ⟨hnothing, hrest⟩
            rw [hnothing, hrest, List.nil_append]
      | plain text =>
          change _ ++ _ = _ ++ _ ↔ True ∧ _
          rw [true_and]
          exact List.append_right_inj _

end Ebnf

/-! ### The grammar file -/

namespace Blueprint

open Ebnf

/-- What the comment for a syntax rule says. -/
def syntaxRuleText (rule : SyntaxRule) : String :=
  Vocabulary.word rule.kind ++ " [" ++ toString rule.precedence.toInt ++ " " ++
  Vocabulary.word rule.associativity ++ "] : " ++ rule.identity

def production (rule : GrammarRule) : String := rule.name ++ " = " ++ rule.pattern ++ " ;"

def grammarRuleLines (rule : GrammarRule) : List Line :=
  rule.description.toList.map Line.comment ++ [.plain (production rule)]

def syntaxLines (rules : List SyntaxRule) : List Line :=
  if rules.isEmpty then []
  else [.plain "", .comment "syntax rules"] ++
    rules.map (fun rule => .comment (syntaxRuleText rule))

def grammarLines (b : Blueprint) : List Line :=
  [.comment (b.name ++ " " ++ b.version), .plain ""] ++
    b.grammarRules.flatMap grammarRuleLines ++ syntaxLines b.syntaxRules

variable {b : Blueprint}

theorem productionLines_eq (rule : GrammarRule) :
    productionLines rule = (grammarRuleLines rule).map Line.written := by
  cases hdescription : rule.description <;>
    simp [productionLines, grammarRuleLines, hdescription, Line.written, production]

theorem toList_unlines (lines : List Line) :
    (unlines (lines.map Line.written)).toList =
      inLines (fun line => line.written.toList) lines := by
  simp [unlines, inLines, List.flatMap_map]

theorem syntaxRuleLine_eq (rule : SyntaxRule) :
    syntaxRuleLine rule = (Line.comment (syntaxRuleText rule)).written := by
  apply String.toList_injective
  simp only [syntaxRuleLine, syntaxRuleText, Line.written, String.toList_append,
    List.append_assoc]

/-- The grammar file consists of its lines. -/
theorem grammarText_eq_lines (b : Blueprint) :
    b.grammarText.toList = inLines (fun line => line.written.toList) b.grammarLines := by
  have hrules : b.grammarRules.flatMap productionLines =
      (b.grammarRules.flatMap grammarRuleLines).map Line.written := by
    rw [List.map_flatMap]
    exact congrArg (List.flatMap · b.grammarRules) (funext productionLines_eq)
  have hsyntax : (if b.syntaxRules.isEmpty then []
      else ["", "(* syntax rules *)"] ++ b.syntaxRules.map syntaxRuleLine) =
      (syntaxLines b.syntaxRules).map Line.written := by
    unfold syntaxLines
    split
    · rfl
    · rw [funext syntaxRuleLine_eq]
      simp [Line.written]
  have hheading : "(* " ++ b.name ++ " " ++ b.version ++ " *)" =
      (Line.comment (b.name ++ " " ++ b.version)).written := by
    simp only [Line.written, String.append_assoc]
  rw [← toList_unlines, grammarText, hrules, hsyntax, hheading, grammarLines, List.map_append,
    List.map_append]
  rfl

/-- The texts that the grammar file puts between the markers of comments. -/
def commentTexts (b : Blueprint) : List String :=
  (b.name ++ " " ++ b.version) :: b.grammarRules.filterMap (·.description) ++
    b.syntaxRules.map syntaxRuleText

theorem mem_commentTexts {text : String} : text ∈ b.commentTexts ↔
    text = b.name ++ " " ++ b.version ∨ (∃ rule ∈ b.grammarRules, rule.description = some text) ∨
      ∃ rule ∈ b.syntaxRules, syntaxRuleText rule = text := by
  simp [commentTexts]

theorem mem_grammarLines {line : Line} : line ∈ b.grammarLines ↔
    line = .comment (b.name ++ " " ++ b.version) ∨ line = .plain "" ∨
    (∃ rule ∈ b.grammarRules, line ∈ grammarRuleLines rule) ∨ line ∈ syntaxLines b.syntaxRules := by
  simp [grammarLines]

theorem mem_grammarRuleLines {line : Line} {rule : GrammarRule} : line ∈ grammarRuleLines rule ↔
    (∃ text, rule.description = some text ∧ line = .comment text) ∨
      line = .plain (production rule) := by
  simp [grammarRuleLines, eq_comm]

theorem mem_syntaxLines {line : Line} {rules : List SyntaxRule} (h : line ∈ syntaxLines rules) :
    line = .plain "" ∨ line = .comment "syntax rules" ∨
      ∃ rule ∈ rules, line = .comment (syntaxRuleText rule) := by
  unfold syntaxLines at h
  split at h
  · cases h
  · simpa [eq_comm] using h

theorem mem_syntaxLines_of {rule : SyntaxRule} {rules : List SyntaxRule} (h : rule ∈ rules) :
    .comment (syntaxRuleText rule) ∈ syntaxLines rules := by
  have hsome : rules.isEmpty = false := List.isEmpty_eq_false_iff.mpr (List.ne_nil_of_mem h)
  rw [syntaxLines, hsome, if_neg Bool.false_ne_true]
  exact List.mem_append_right _ (List.mem_map_of_mem h)

/-- The lines of the file are faithful when the texts of its comments stay inside. -/
theorem grammarLines_faithful_iff (b : Blueprint) :
    (∀ line ∈ b.grammarLines, line.IsFaithful) ↔
      ∀ text ∈ b.commentTexts, StaysInside text.toList := by
  constructor
  · intro h text htext
    have hcomment : ∀ text, .comment text ∈ b.grammarLines → StaysInside text.toList :=
      fun text hin => h (.comment text) hin
    apply hcomment
    rw [mem_grammarLines]
    rcases mem_commentTexts.mp htext with rfl | ⟨rule, hrule, htext⟩ | ⟨rule, hrule, rfl⟩
    · exact .inl rfl
    · have hline := mem_grammarRuleLines.mpr (.inl ⟨text, htext, rfl⟩)
      exact .inr (.inr (.inl ⟨rule, hrule, hline⟩))
    · exact .inr (.inr (.inr (mem_syntaxLines_of hrule)))
  · intro h line hline
    rcases mem_grammarLines.mp hline with rfl | rfl | ⟨rule, hrule, hin⟩ | hin
    · exact h _ (mem_commentTexts.mpr (.inl rfl))
    · trivial
    · rcases mem_grammarRuleLines.mp hin with ⟨text, htext, rfl⟩ | rfl
      · exact h text (mem_commentTexts.mpr (.inr (.inl ⟨rule, hrule, htext⟩)))
      · trivial
    · rcases mem_syntaxLines hin with rfl | rfl | ⟨rule, hrule, rfl⟩
      · trivial
      · exact .closing (by decide)
      · exact h _ (mem_commentTexts.mpr (.inr (.inr ⟨rule, hrule, rfl⟩)))

/-- What is meant to be read of a grammar file are its productions. -/
theorem meant_grammarLines (b : Blueprint) :
    withoutBreaks (inLines Line.meant b.grammarLines) =
      withoutBreaks (b.grammarRules.flatMap (fun rule => (production rule).toList)) := by
  have hrule : ∀ rule, (grammarRuleLines rule).flatMap (fun line => withoutBreaks line.meant) =
      withoutBreaks (production rule).toList := by
    intro rule
    cases hdescription : rule.description <;>
      simp [grammarRuleLines, hdescription, Line.meant, withoutBreaks]
  have hsyntax :
      (syntaxLines b.syntaxRules).flatMap (fun line => withoutBreaks line.meant) = [] := by
    rw [List.flatMap_eq_nil_iff]
    intro line hline
    rcases mem_syntaxLines hline with rfl | rfl | ⟨rule, -, rfl⟩ <;> rfl
  rw [withoutBreaks_inLines, grammarLines, List.flatMap_append, List.flatMap_append, hsyntax,
    List.flatMap_assoc, withoutBreaks, List.filter_flatMap, List.append_nil]
  simp only [hrule]
  rfl

/-- No comment begins in a production, if none begins in the name or in the pattern of its rule. -/
theorem production_openFree {rule : GrammarRule} (hname : ¬ ['(', '*'] <:+: rule.name.toList)
    (hpattern : ¬ ['(', '*'] <:+: rule.pattern.toList) :
    ¬ ['(', '*'] <:+: (production rule).toList := by
  have hchars : (production rule).toList = rule.name.toList ++
      ' ' :: ([] ++ '=' :: ([] ++ ' ' :: (rule.pattern.toList ++ ' ' :: [';']))) := by
    simp [production]
  have hend : ¬ ['(', '*'] <:+: [';'] := by decide
  rw [hchars, pair_infix_append_cons (by decide) (by decide),
    pair_infix_append_cons (by decide) (by decide), pair_infix_append_cons (by decide) (by decide),
    pair_infix_append_cons (by decide) (by decide)]
  simp [hname, hpattern, hend]

theorem grammarLines_openFree (h : ∀ rule ∈ b.grammarRules,
    ¬ ['(', '*'] <:+: rule.name.toList ∧ ¬ ['(', '*'] <:+: rule.pattern.toList) :
    ∀ line ∈ b.grammarLines, line.IsOpenFree := by
  have hempty : (Line.plain "").IsOpenFree := by
    intro hinside
    simp at hinside
  intro line hline
  rcases mem_grammarLines.mp hline with rfl | rfl | ⟨rule, hrule, hin⟩ | hin
  · trivial
  · exact hempty
  · rcases mem_grammarRuleLines.mp hin with ⟨text, -, rfl⟩ | rfl
    · trivial
    · exact production_openFree (h rule hrule).1 (h rule hrule).2
  · rcases mem_syntaxLines hin with rfl | rfl | ⟨rule, -, rfl⟩
    · exact hempty
    · trivial
    · trivial

/-- Nothing that the blueprint puts into a comment has a closing marker. -/
structure ClosesNoComment (b : Blueprint) : Prop where
  name : ¬ ['*', ')'] <:+: b.name.toList
  version : ¬ ['*', ')'] <:+: b.version.toList
  descriptions : ∀ rule ∈ b.grammarRules, ∀ text, rule.description = some text →
    ¬ ['*', ')'] <:+: text.toList
  patterns : ∀ rule ∈ b.syntaxRules, ¬ ['*', ')'] <:+: rule.pattern.toList

theorem trimChars_within (cs : List Char) : trimChars cs <:+: cs := by
  have hback := (List.dropWhile_suffix isBlankChar : _ <:+ (cs.dropWhile isBlankChar).reverse)
  have hfront : trimChars cs <+: cs.dropWhile isBlankChar := by
    rw [trimChars, ← List.reverse_suffix, List.reverse_reverse]
    exact hback
  exact hfront.isInfix.trans (List.dropWhile_suffix isBlankChar).isInfix

/-- A closing marker in the text for a syntax rule comes from its pattern. -/
theorem syntaxRuleText_closing {rule : SyntaxRule}
    (h : ['*', ')'] <:+: (syntaxRuleText rule).toList) : ['*', ')'] <:+: rule.pattern.toList := by
  let front := Vocabulary.word rule.kind ++ " [" ++ toString rule.precedence.toInt ++ " " ++
    Vocabulary.word rule.associativity ++ "] :"
  have hchars : (syntaxRuleText rule).toList = front.toList ++ ' ' :: rule.identity.toList := by
    have hmark : "] : ".toList = "] :".toList ++ [' '] := by decide
    simp only [syntaxRuleText, front, String.toList_append, hmark, List.append_assoc,
      List.singleton_append]
  have hfront : ')' ∉ front.toList := by
    have hkind : ∀ kind : RuleKind, ')' ∉ (Vocabulary.word kind).toList := by
      intro kind
      cases kind <;> decide
    have hside : ∀ side : Associativity, ')' ∉ (Vocabulary.word side).toList := by
      intro side
      cases side <;> decide
    have hnumber := Number.not_mem_toString (c := ')') rfl (by decide) rule.precedence.toInt
    simp only [front, String.toList_append, List.mem_append, not_or]
    exact ⟨⟨⟨⟨⟨hkind _, by decide⟩, hnumber⟩, by decide⟩, hside _⟩, by decide⟩
  rw [hchars, pair_infix_append_cons (by decide) (by decide)] at h
  rcases h with hinside | hinside
  · exact absurd (hinside.mem (by simp)) hfront
  · rw [SyntaxRule.identity, trim, String.toList_ofList] at hinside
    exact hinside.trans (trimChars_within _)

theorem ClosesNoComment.staysInside (h : b.ClosesNoComment) {text : String}
    (htext : text ∈ b.commentTexts) : StaysInside text.toList := by
  apply StaysInside.closing
  rcases mem_commentTexts.mp htext with rfl | ⟨rule, hrule, htext⟩ | ⟨rule, hrule, rfl⟩
  · have hchars : (b.name ++ " " ++ b.version).toList =
        b.name.toList ++ ' ' :: b.version.toList := by
      simp
    rw [hchars, pair_infix_append_cons (by decide) (by decide), not_or]
    exact ⟨h.name, h.version⟩
  · exact h.descriptions rule hrule text htext
  · intro hinside
    exact h.patterns rule hrule (syntaxRuleText_closing hinside)

/-- **What is read of a grammar file beside its comments.**  If no comment begins in a rule's name
or pattern, then the productions are read, in order, and nothing else but line breaks, exactly when
the texts of all comments stay inside; and they do if the name, the version, the descriptions and
the patterns of the syntax rules have no closing marker. -/
theorem comments_hide_all_but_productions (b : Blueprint)
    (h : ∀ rule ∈ b.grammarRules,
      ¬ ['(', '*'] <:+: rule.name.toList ∧ ¬ ['(', '*'] <:+: rule.pattern.toList) :
    (withoutBreaks (withoutComments false b.grammarText.toList) =
        withoutBreaks (b.grammarRules.flatMap (fun rule =>
          (rule.name ++ " = " ++ rule.pattern ++ " ;").toList)) ↔
      ∀ text ∈ b.commentTexts, StaysInside text.toList) ∧
    (b.ClosesNoComment →
      withoutBreaks (withoutComments false b.grammarText.toList) =
        withoutBreaks (b.grammarRules.flatMap (fun rule =>
          (rule.name ++ " = " ++ rule.pattern ++ " ;").toList))) := by
  have hread : withoutBreaks (withoutComments false b.grammarText.toList) =
      withoutBreaks (b.grammarRules.flatMap (fun rule => (production rule).toList)) ↔
      ∀ text ∈ b.commentTexts, StaysInside text.toList := by
    rw [grammarText_eq_lines, withoutComments_lines (grammarLines_openFree h),
      ← meant_grammarLines, withoutBreaks_left_iff, grammarLines_faithful_iff]
  refine ⟨hread, ?_⟩
  intro hcloses
  exact hread.mpr (fun text htext => hcloses.staysInside htext)

/-- A grammar with a described rule, and with brackets and stars that are no markers. -/
def sumsGrammar : Blueprint where
  name := "Sums (*small*"
  grammarRules := [⟨"sum", "NUMBER ( '+' NUMBER )*", some "addition (of numbers)", ⟨"n1"⟩⟩]
  syntaxRules := [{ kind := .expression, pattern := "a + b" }]

theorem comments_hide_all_but_productions_sums :
    (∀ rule ∈ sumsGrammar.grammarRules,
      ¬ ['(', '*'] <:+: rule.name.toList ∧ ¬ ['(', '*'] <:+: rule.pattern.toList) ∧
    sumsGrammar.permitsGenerate = true ∧
    withoutBreaks (withoutComments false sumsGrammar.grammarText.toList) =
      "sum = NUMBER ( '+' NUMBER )* ;".toList := by
  have hrules : ∀ rule ∈ sumsGrammar.grammarRules,
      ¬ ['(', '*'] <:+: rule.name.toList ∧ ¬ ['(', '*'] <:+: rule.pattern.toList := by
    decide
  have hcloses : sumsGrammar.ClosesNoComment := by
    constructor
    · decide
    · decide
    · simp [sumsGrammar]
      decide
    · decide
  refine ⟨hrules, by decide, ?_⟩
  rw [(comments_hide_all_but_productions sumsGrammar hrules).2 hcloses]
  decide

/-- A pattern in which a repetition stands before a closing bracket ends the comment it is put
into. -/
theorem repetition_ends_comment :
    let b : Blueprint :=
      { name := "Toy", syntaxRules := [{ kind := .expression, pattern := "(item*)" }] }
    b.permitsGenerate = true ∧ b.grammarRules = [] ∧
      withoutBreaks (withoutComments false b.grammarText.toList) = " *)".toList := by
  decide +kernel

end Blueprint

end LanguageBlueprint
