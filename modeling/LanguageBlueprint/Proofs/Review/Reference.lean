/-
  LanguageBlueprint/Proofs/Review/Reference.lean
  ==============================================
  **Places, first occurrences and references.**  The review tells the places of
  parts that fail, and tells a value once, where it occurs first.  The rules for
  syntax rules and for semantic actions do both at once: each is a pass over
  parts that refer to other things by name, and it keeps in mind which names it
  has told.  The two kinds of finding of a pass do not disturb each other.

    * places                                   — `placesFrom_cons`, `placesWhere_concat`;
    * each value once, in the order of first
      occurrence                               — `eraseDups_ordered`, `eraseDups_filter`;
    * what is new in a longer list             — `news_append`;
    * both rules are such a pass               — `checkSyntaxRules_eq_pass`,
      `checkSemanticActions_eq_pass`;
    * the findings of a pass, kind by kind     — `filter_passFrom_places`,
      `filter_passFrom_names`;
    * a pass that knows one name more          — `passFrom_learned`.
-/
import LanguageBlueprint.Proofs.Review.Verdict
import Mathlib.Data.List.Induction

namespace LanguageBlueprint.Review

open Text

/-! ### Places -/

section Places

variable {α : Type} {fails : α → Bool} {parts : List α} {part : α} {index : Nat}

/-- The places of the parts that fail a test, when the first part stands at a given place. -/
def placesFrom (fails : α → Bool) (index : Nat) (parts : List α) : List Nat :=
  (parts.zipIdx index).filterMap (fun (part, place) => if fails part then some place else none)

theorem placesFrom_cons :
    placesFrom fails index (part :: parts) =
      (if fails part then [index] else []) ++ placesFrom fails (index + 1) parts := by
  rw [placesFrom, List.zipIdx_cons, List.filterMap_cons]
  cases h : fails part with
  | true => simp [h, placesFrom]
  | false => simp [h, placesFrom]

/-- A part that passes the test adds no place at the end. -/
theorem placesWhere_concat (h : fails part = false) :
    placesWhere fails (parts ++ [part]) = placesWhere fails parts := by
  rw [placesWhere, List.zipIdx_append, List.filterMap_append, List.zipIdx_singleton]
  simp [h, placesWhere]

theorem mem_placesWhere {place : Nat} :
    place ∈ placesWhere fails parts ↔ ∃ part, parts[place]? = some part ∧ fails part = true := by
  rw [placesWhere, List.mem_filterMap]
  constructor
  · rintro ⟨⟨part, index⟩, hpart, hplace⟩
    rcases Option.ite_none_right_eq_some.mp hplace with ⟨hfails, hindex⟩
    cases hindex
    exact ⟨part, List.mem_zipIdx_iff_getElem?.mp hpart, hfails⟩
  · rintro ⟨part, hpart, hfails⟩
    exact ⟨(part, place), List.mem_zipIdx_iff_getElem?.mpr hpart, if_pos hfails⟩

theorem placesWhere_ascending : (placesWhere fails parts).Pairwise (· < ·) := by
  have hplaces : parts.zipIdx.Pairwise (fun first second => first.2 < second.2) := by
    rw [← List.pairwise_map, List.zipIdx_map_snd]
    exact List.pairwise_lt_range'
  apply hplaces.filterMap
  intro first second hlt place hplace next hnext
  rcases Option.ite_none_right_eq_some.mp hplace with ⟨-, hplace⟩
  rcases Option.ite_none_right_eq_some.mp hnext with ⟨-, hnext⟩
  cases hplace
  cases hnext
  exact hlt

theorem map_placesWhere {β : Type} (f : Nat → β) :
    (placesWhere fails parts).map f =
      parts.zipIdx.flatMap (fun place => if fails place.1 then [f place.2] else []) := by
  rw [placesWhere, List.filterMap_eq_flatMap_toList, List.map_flatMap]
  apply List.flatMap_congr
  intro place _
  cases h : fails place.1 with
  | true => simp [h]
  | false => simp [h]

/-- How many places there are does not depend on where the parts stand. -/
theorem length_placesWhere : (placesWhere fails parts).length = parts.countP fails := by
  have hfrom : ∀ index, (placesFrom fails index parts).length = parts.countP fails := by
    induction parts with
    | nil => exact fun _ => rfl
    | cons part parts ih =>
        intro index
        rw [placesFrom_cons, List.length_append, ih, List.countP_cons, Nat.add_comm]
        cases fails part with
        | true => rfl
        | false => rfl
  exact hfrom 0

end Places

/-! ### First occurrences -/

/-- A value at the end of a list is listed only if it is not listed before. -/
theorem eraseDups_concat (values : List String) (value : String) :
    (values ++ [value]).eraseDups =
      values.eraseDups ++ if value ∈ values then [] else [value] := by
  rw [List.eraseDups_append]
  by_cases h : value ∈ values
  · simp [h, List.removeAll]
  · simp [h, List.removeAll, List.eraseDups_cons]

theorem eraseDups_ordered (values : List String) :
    values.eraseDups.Pairwise (fun value next => values.idxOf value < values.idxOf next) := by
  -- from the end, since a value that comes later leaves the earlier indices as they are
  induction values using List.reverseRecOn with
  | nil => exact List.Pairwise.nil
  | append_singleton values last ih =>
      have hindex : ∀ value ∈ values.eraseDups,
          (values ++ [last]).idxOf value = values.idxOf value := by
        intro value hvalue
        exact List.idxOf_append_of_mem (List.mem_eraseDups.mp hvalue)
      have hkept : values.eraseDups.Pairwise (fun value next =>
          (values ++ [last]).idxOf value < (values ++ [last]).idxOf next) := by
        apply ih.imp_of_mem
        intro value next hvalue hnext hlt
        rw [hindex value hvalue, hindex next hnext]
        exact hlt
      rw [eraseDups_concat]
      by_cases hlast : last ∈ values
      · rw [if_pos hlast, List.append_nil]
        exact hkept
      · rw [if_neg hlast]
        apply List.pairwise_append.mpr
        refine ⟨hkept, List.pairwise_singleton _ _, ?_⟩
        intro value hvalue next hnext
        rw [List.mem_singleton.mp hnext, hindex value hvalue,
          List.idxOf_append_of_notMem hlast]
        have hbelow := List.idxOf_lt_length_of_mem (List.mem_eraseDups.mp hvalue)
        omega

theorem nodup_eraseDups (values : List String) : values.eraseDups.Nodup :=
  (eraseDups_ordered values).imp (fun hlt heq => by simp [heq] at hlt)

theorem eraseDups_filter (keep : String → Bool) (values : List String) :
    (values.filter keep).eraseDups = values.eraseDups.filter keep := by
  induction values using List.reverseRecOn with
  | nil => rfl
  | append_singleton values last ih =>
      rw [List.filter_append, eraseDups_concat, List.filter_append, ← ih]
      cases hlast : keep last with
      | false =>
          have hdropped : (if last ∈ values then [] else [last]).filter keep = [] := by
            split <;> simp [hlast]
          rw [hdropped, List.filter_cons_of_neg (by simp [hlast]), List.filter_nil,
            List.append_nil, List.append_nil]
      | true =>
          have hkept : (if last ∈ values then [] else [last]).filter keep =
              if last ∈ values.filter keep then [] else [last] := by
            simp only [List.mem_filter, hlast, and_true]
            split <;> simp [hlast]
          rw [hkept, List.filter_cons_of_pos hlast, List.filter_nil, eraseDups_concat]

/-! ### What is new -/

theorem news_eq_filter (known reported values : List String) :
    news known reported values =
      values.eraseDups.filter (fun value => !known.contains value && !reported.contains value) := by
  rw [news, eraseDups_filter]

theorem mem_news {known reported values : List String} {value : String} :
    value ∈ news known reported values ↔
      value ∈ values ∧ value ∉ known ∧ value ∉ reported := by
  simp [news]

theorem nodup_news (known reported values : List String) : (news known reported values).Nodup :=
  nodup_eraseDups _

/-- What is new in a longer list is what is new in its first part, and then what is new in the
rest after that. -/
theorem news_append (known reported first rest : List String) :
    news known reported (first ++ rest) =
      news known reported first ++ news known (reported ++ news known reported first) rest := by
  rw [news, List.filter_append, List.eraseDups_append, List.removeAll, List.filter_filter]
  congr 2
  apply List.filter_congr
  intro value _
  by_cases hknown : value ∈ known <;> by_cases hreported : value ∈ reported <;>
    by_cases hfirst : value ∈ first <;> simp [news, hknown, hreported, hfirst]

/-- Where one name more is known, just this name is no longer new. -/
theorem news_learned {known learned reported told values : List String} {name : String}
    (hlearned : ∀ other, other ∈ learned ↔ other ∈ known ∨ other = name)
    (htold : ∀ other, other ≠ name → (other ∈ told ↔ other ∈ reported)) :
    news learned told values = (news known reported values).filter (fun other => other ≠ name) := by
  rw [news_eq_filter, news_eq_filter, List.filter_filter]
  apply List.filter_congr
  intro other _
  by_cases hname : other = name
  · simp [hname, hlearned]
  · simp [hname, hlearned, htold other hname]

/-! ### Names in a list of texts -/

theorem namesIn_append (texts more : List String) :
    namesIn (texts ++ more) = namesIn texts ++ namesIn more := by
  simp [namesIn]

theorem namesIn_singleton {text : String} (h : trim text ≠ "") : namesIn [text] = [trim text] := by
  simp [namesIn, h]

theorem namesIn_flatMap {α : Type} (texts : α → List String) (parts : List α) :
    namesIn (parts.flatMap texts) = parts.flatMap (fun part => namesIn (texts part)) := by
  simp [namesIn, List.map_flatMap, List.filter_flatMap]

/-! ### Parts that refer to others -/

/-- What a rule about references looks at, and which findings it makes. -/
structure Referring (α : Type) where
  /-- Whether something is missing that every part has. -/
  incomplete : α → Bool
  /-- The names by which a part refers to others. -/
  names : α → List String
  atPlace : Nat → Violation
  unknown : String → Violation
  unknown_injective : ∀ name other, unknown name = unknown other → name = other
  apart : ∀ place name, atPlace place ≠ unknown name

namespace Referring

/-- One pass over the parts from a place on: a part that is incomplete is told by its place, and a
name that is not known is told once. -/
def passFrom {α : Type} (kind : Referring α) (known reported : List String) (index : Nat) :
    List α → List Violation
  | [] => []
  | part :: parts =>
      let fresh := news known reported (kind.names part)
      (if kind.incomplete part then [kind.atPlace index] else []) ++ fresh.map kind.unknown ++
      passFrom kind known (reported ++ fresh) (index + 1) parts

/-- Syntax rules refer by their tokens to keywords and operators. -/
def syntaxRule : Referring SyntaxRule where
  incomplete := fun rule => isBlank rule.pattern
  names := fun rule => namesIn rule.tokens
  atPlace := .incompleteSyntaxRule
  unknown := .unresolvedToken
  unknown_injective := fun _ _ h => Violation.unresolvedToken.inj h
  apart := fun _ _ h => nomatch h

/-- Semantic actions refer by a name to a grammar rule or a syntax rule. -/
def semanticAction : Referring SemanticAction where
  incomplete := fun action => isBlank action.ruleName || isBlank action.code
  names := fun action => namesIn [action.ruleName]
  atPlace := .incompleteSemanticAction
  unknown := .danglingActionReference
  unknown_injective := fun _ _ h => Violation.danglingActionReference.inj h
  apart := fun _ _ h => nomatch h

end Referring

theorem checkSyntaxRulesFrom_eq_passFrom (declared : List String) (rules : List SyntaxRule) :
    ∀ reported index, checkSyntaxRulesFrom declared reported index rules =
      Referring.syntaxRule.passFrom declared reported index rules := by
  induction rules with
  | nil => exact fun _ _ => rfl
  | cons rule rules ih =>
      intro reported index
      rw [checkSyntaxRulesFrom, Referring.passFrom, ih]
      rfl

theorem checkSemanticActionsFrom_eq_passFrom (known : List String)
    (actions : List SemanticAction) :
    ∀ reported index, checkSemanticActionsFrom known reported index actions =
      Referring.semanticAction.passFrom known reported index actions := by
  induction actions with
  | nil => exact fun _ _ => rfl
  | cons action actions ih =>
      intro reported index
      rw [checkSemanticActionsFrom, Referring.passFrom, ih]
      rfl

theorem checkSyntaxRules_eq_pass (b : Blueprint) :
    checkSyntaxRules b = Referring.syntaxRule.passFrom (declaredTokens b) [] 0 b.syntaxRules :=
  checkSyntaxRulesFrom_eq_passFrom _ _ _ _

theorem checkSemanticActions_eq_pass (b : Blueprint) :
    checkSemanticActions b = Referring.semanticAction.passFrom (ruleNames b) [] 0 b.semanticActions :=
  checkSemanticActionsFrom_eq_passFrom _ _ _ _

/-! ### The findings of a pass -/

namespace Referring

variable {α : Type} (kind : Referring α) {known learned : List String} {parts : List α}

theorem filter_passFrom_places {select : Violation → Bool}
    (hplaces : ∀ place, select (kind.atPlace place) = true)
    (hnames : ∀ name, select (kind.unknown name) = false) :
    ∀ reported index, (kind.passFrom known reported index parts).filter select =
      (placesFrom kind.incomplete index parts).map kind.atPlace := by
  induction parts with
  | nil => exact fun _ _ => rfl
  | cons part parts ih =>
      intro reported index
      rw [passFrom, List.filter_append, List.filter_append, ih, placesFrom_cons, List.map_append]
      have hnone : ((news known reported (kind.names part)).map kind.unknown).filter select = [] := by
        simp [List.filter_eq_nil_iff, hnames]
      rw [hnone, List.append_nil]
      congr 1
      split <;> simp [hplaces]

theorem filter_passFrom_names {select : Violation → Bool}
    (hplaces : ∀ place, select (kind.atPlace place) = false)
    (hnames : ∀ name, select (kind.unknown name) = true) :
    ∀ reported index, (kind.passFrom known reported index parts).filter select =
      (news known reported (parts.flatMap kind.names)).map kind.unknown := by
  induction parts with
  | nil => exact fun _ _ => rfl
  | cons part parts ih =>
      intro reported index
      have hall : ((news known reported (kind.names part)).map kind.unknown).filter select =
          (news known reported (kind.names part)).map kind.unknown := by
        simp [List.filter_eq_self, hnames]
      have hnone : (if kind.incomplete part then [kind.atPlace index] else []).filter select = [] := by
        split <;> simp [hplaces]
      rw [passFrom, List.filter_append, List.filter_append, ih, hall, hnone, List.nil_append,
        List.flatMap_cons, news_append, List.map_append]

/-- Up to their order, the findings of a pass are the incomplete parts and the unknown names. -/
theorem passFrom_perm :
    ∀ reported index, (kind.passFrom known reported index parts).Perm
      ((placesFrom kind.incomplete index parts).map kind.atPlace ++
        (news known reported (parts.flatMap kind.names)).map kind.unknown) := by
  induction parts with
  | nil => exact fun _ _ => List.Perm.refl _
  | cons part parts ih =>
      intro reported index
      rw [passFrom, placesFrom_cons, List.flatMap_cons, news_append, List.map_append,
        List.map_append, List.append_assoc, List.append_assoc]
      have hplace : (if kind.incomplete part then [index] else []).map kind.atPlace =
          if kind.incomplete part then [kind.atPlace index] else [] := by
        split <;> rfl
      rw [hplace]
      apply List.Perm.append_left
      exact ((ih _ _).append_left _).trans (List.perm_append_comm_assoc _ _ _)

/-- A complete part that refers to what is known adds no finding at the end. -/
theorem passFrom_concat {part : α} (hcomplete : kind.incomplete part = false)
    (hnames : ∀ name ∈ kind.names part, name ∈ known) :
    ∀ reported index, kind.passFrom known reported index (parts ++ [part]) =
      kind.passFrom known reported index parts := by
  induction parts with
  | nil =>
      intro reported index
      have hnews : news known reported (kind.names part) = [] := by
        apply List.eq_nil_iff_forall_not_mem.mpr
        intro name hname
        rcases mem_news.mp hname with ⟨hin, hunknown, -⟩
        exact hunknown (hnames name hin)
      simp [passFrom, hnews, hcomplete]
  | cons first parts ih =>
      intro reported index
      rw [List.cons_append, passFrom, passFrom, ih]

/-- **A name that becomes known is no longer told, and nothing else changes.** -/
theorem passFrom_learned {name : String}
    (hlearned : ∀ other, other ∈ learned ↔ other ∈ known ∨ other = name) :
    ∀ {reported told : List String} (index : Nat),
      (∀ other, other ≠ name → (other ∈ told ↔ other ∈ reported)) →
      kind.passFrom learned told index parts =
        (kind.passFrom known reported index parts).filter
          (fun finding => finding ≠ kind.unknown name) := by
  -- the two passes have told the same names, the one that became known apart
  induction parts with
  | nil => exact fun _ _ => rfl
  | cons part parts ih =>
      intro reported told index htold
      have hnews : news learned told (kind.names part) =
          (news known reported (kind.names part)).filter (fun other => other ≠ name) :=
        news_learned hlearned htold
      have hnext : ∀ other, other ≠ name →
          (other ∈ told ++ news learned told (kind.names part) ↔
            other ∈ reported ++ news known reported (kind.names part)) := by
        intro other hother
        rw [List.mem_append, List.mem_append, htold other hother, hnews, List.mem_filter]
        simp [hother]
      have hplace : (if kind.incomplete part then [kind.atPlace index] else []).filter
            (fun finding => finding ≠ kind.unknown name) =
          if kind.incomplete part then [kind.atPlace index] else [] := by
        split <;> simp [kind.apart]
      have hunknown : ((news known reported (kind.names part)).map kind.unknown).filter
            (fun finding => finding ≠ kind.unknown name) =
          (news learned told (kind.names part)).map kind.unknown := by
        rw [hnews, List.filter_map]
        congr 1
        apply List.filter_congr
        intro other _
        have hinjective : kind.unknown other = kind.unknown name ↔ other = name :=
          ⟨kind.unknown_injective other name, congrArg kind.unknown⟩
        simp [hinjective]
      rw [passFrom, passFrom, List.filter_append, List.filter_append, hplace, hunknown,
        ih (index + 1) hnext]

end Referring

end LanguageBlueprint.Review
