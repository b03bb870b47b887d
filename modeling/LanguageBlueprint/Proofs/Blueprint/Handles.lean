/-
  LanguageBlueprint/Proofs/Blueprint/Handles.lean
  ===============================================
  **Handles of grammar rules.**  A grammar rule is addressed by its handle or by
  its place.  As long as the handles of all rules are different the two ways come
  to the same.  They stay different in any script of edits that appends no rule
  with a handle that is taken, whatever handles the rules have that are put in
  place of others: a rule that is replaced keeps its own.  So a rule that no edit
  removes keeps its handle, and its place among the others that are not removed.

    * a rule by its handle and by its place    — `filter_eq_eraseIdx`, `replaceFirst_eq_map`;
    * what an edit does to the rules           — `HandlesChange`, `handlesChange_apply`;
    * one edit                                 — `nodup_apply`, `sublist_apply`;
    * a script of edits                        — `nodup_applyAll`, `sublist_applyAll`;
    * every moment of a script                 — `handles_stay_stable`.
-/
import LanguageBlueprint.Proofs.Blueprint.Locality
import LanguageBlueprint.Proofs.Review.Report

namespace LanguageBlueprint

/-- The handles of the grammar rules, in their order. -/
def Blueprint.nodeIds (b : Blueprint) : List NodeId := b.grammarRules.map (·.nodeId)

/-- The edit removes the grammar rule with the handle. -/
inductive Edit.Removes (b : Blueprint) (nodeId : NodeId) : Edit → Prop where
  | byHandle : Removes b nodeId (.removeGrammarRule nodeId)
  | byPlace {place : Nat} (h : b.nodeIds[place]? = some nodeId) :
      Removes b nodeId (.removeAt .grammarRules place)

namespace Blueprint

/-- Each grammar rule that is appended has a handle that no rule has at that moment. -/
def FreshHandles (b : Blueprint) (script : List Edit) : Prop :=
  ∀ before rule after, script = before ++ .append (.grammarRule rule) :: after →
    rule.nodeId ∉ (b.applyAll before).nodeIds

/-- No edit of the script removes the grammar rule with the handle. -/
def Spares (b : Blueprint) (script : List Edit) (nodeId : NodeId) : Prop :=
  ∀ before edit after, script = before ++ edit :: after →
    ¬ edit.Removes (b.applyAll before) nodeId

/-- The handles of the grammar rules are different, and edits may rely on it. -/
structure Addressable (b : Blueprint) : Prop where
  distinct : b.nodeIds.Nodup
  unreported : ∀ nodeId, .duplicateNodeId nodeId ∉ b.review
  replaced : ∀ nodeId (rule : GrammarRule),
    b.apply (.replaceGrammarRule nodeId rule) =
      { b with grammarRules := b.grammarRules.map (fun old =>
          if old.nodeId = nodeId then { rule with nodeId := nodeId } else old) } ∧
    (b.apply (.replaceGrammarRule nodeId rule)).nodeIds = b.nodeIds
  removed : ∀ nodeId place, b.nodeIds[place]? = some nodeId →
    b.apply (.removeGrammarRule nodeId) = b.apply (.removeAt .grammarRules place)
  absent : ∀ nodeId ∉ b.nodeIds, b.apply (.removeGrammarRule nodeId) = b

/-- At every moment of the script the handles are different, and the rules that are not removed
from one moment to another keep their handles and their order. -/
structure StableHandles (b : Blueprint) (script : List Edit) : Prop where
  addressable : ∀ done, done <+: script → (b.applyAll done).Addressable
  kept : ∀ done more, done ++ more <+: script → ∀ handles : List NodeId,
    handles.Sublist (b.applyAll done).nodeIds →
    (∀ handle ∈ handles, (b.applyAll done).Spares more handle) →
    handles.Sublist (b.applyAll (done ++ more)).nodeIds

/-! ### By handle and by place -/

/-- With all keys different, the part at a place is the part with its key. -/
theorem filter_eq_eraseIdx {α β : Type} [DecidableEq β] {key : α → β} {parts : List α}
    (hdistinct : (parts.map key).Nodup) {place : Nat} {value : β}
    (h : (parts.map key)[place]? = some value) :
    parts.filter (fun part => key part != value) = parts.eraseIdx place := by
  induction parts generalizing place with
  | nil => cases h
  | cons first parts ih =>
      obtain ⟨hfirst, hrest⟩ := List.nodup_cons.mp hdistinct
      cases place with
      | zero =>
          obtain rfl : key first = value := by simpa using h
          have hothers : ∀ part ∈ parts, (key part != key first) = true := by
            intro part hpart
            rw [bne_iff_ne]
            exact fun heq => hfirst (heq ▸ List.mem_map_of_mem hpart)
          rw [List.filter_cons_of_neg (by simp), List.eraseIdx_cons_zero,
            List.filter_eq_self.mpr hothers]
      | succ place =>
          have hvalue : (parts.map key)[place]? = some value := by simpa using h
          have hne : key first ≠ value :=
            fun heq => hfirst (heq ▸ List.mem_of_getElem? hvalue)
          rw [List.filter_cons_of_pos (by simpa using hne), List.eraseIdx_cons_succ,
            ih hrest hvalue]

/-- With all handles different, the first rule with a handle is the only one. -/
theorem replaceFirst_eq_map {rules : List GrammarRule} (hdistinct : (rules.map (·.nodeId)).Nodup)
    (nodeId : NodeId) (rule : GrammarRule) :
    replaceFirst nodeId rule rules =
      rules.map (fun old =>
        if old.nodeId = nodeId then { rule with nodeId := nodeId } else old) := by
  induction rules with
  | nil => rfl
  | cons first rules ih =>
      obtain ⟨hfirst, hrest⟩ := List.nodup_cons.mp hdistinct
      rw [replaceFirst, List.map_cons]
      by_cases hhandle : first.nodeId = nodeId
      · have hothers : rules.map (fun old =>
            if old.nodeId = nodeId then { rule with nodeId := nodeId } else old) = rules := by
          refine (List.map_congr_left (fun old hold => ?_)).trans (List.map_id' rules)
          apply if_neg
          intro heq
          exact hfirst (List.mem_map.mpr ⟨old, hold, heq.trans hhandle.symm⟩)
        rw [if_pos hhandle, if_pos hhandle, hothers]
      · rw [if_neg hhandle, if_neg hhandle, ih hrest]

/-- A rule that is replaced keeps its handle. -/
theorem nodeIds_replaceFirst (nodeId : NodeId) (rule : GrammarRule) (rules : List GrammarRule) :
    (replaceFirst nodeId rule rules).map (·.nodeId) = rules.map (·.nodeId) := by
  induction rules with
  | nil => rfl
  | cons first rules ih =>
      by_cases hhandle : first.nodeId = nodeId
      · rw [replaceFirst, if_pos hhandle, List.map_cons, List.map_cons, hhandle]
      · rw [replaceFirst, if_neg hhandle, List.map_cons, List.map_cons, ih]

/-! ### One edit -/

section

variable {b : Blueprint} {edit : Edit} {handles : List NodeId}

theorem removeGrammarRule_eq_removeAt (hdistinct : b.nodeIds.Nodup) {nodeId : NodeId} {place : Nat}
    (h : b.nodeIds[place]? = some nodeId) :
    b.apply (.removeGrammarRule nodeId) = b.apply (.removeAt .grammarRules place) := by
  have hrules : b.grammarRules.filter (fun rule => rule.nodeId != nodeId) =
      b.grammarRules.eraseIdx place := filter_eq_eraseIdx hdistinct h
  rw [apply, apply, removeAt, hrules]

theorem nodeIds_removeGrammarRule (b : Blueprint) (nodeId : NodeId) :
    (b.apply (.removeGrammarRule nodeId)).nodeIds = b.nodeIds.filter (· != nodeId) := by
  rw [nodeIds, nodeIds, List.filter_map]
  rfl

/-- What an edit does to the handles of the grammar rules, if these are different. -/
inductive HandlesChange (b : Blueprint) : Edit → List NodeId → Prop where
  | kept {edit : Edit} : HandlesChange b edit b.nodeIds
  | appended (rule : GrammarRule) :
      HandlesChange b (.append (.grammarRule rule)) (b.nodeIds ++ [rule.nodeId])
  | removed {edit : Edit} {nodeId : NodeId} (h : edit.Removes b nodeId) :
      HandlesChange b edit (b.nodeIds.filter (· != nodeId))

theorem handlesChange_apply (hdistinct : b.nodeIds.Nodup) (edit : Edit) :
    HandlesChange b edit (b.apply edit).nodeIds := by
  cases edit with
  | append part =>
      cases part with
      | grammarRule rule =>
          have hhandles : (b.apply (.append (.grammarRule rule))).nodeIds =
              b.nodeIds ++ [rule.nodeId] := List.map_append
          rw [hhandles]
          exact .appended rule
      | _ => exact .kept
  | removeAt collection place =>
      cases collection with
      | grammarRules =>
          cases h : b.nodeIds[place]? with
          | none =>
              have hend : b.size .grammarRules ≤ place := by
                simpa [nodeIds, size] using h
              rw [(apply_eq_self_iff b (.removeAt .grammarRules place)).mpr hend]
              exact .kept
          | some nodeId =>
              rw [← removeGrammarRule_eq_removeAt hdistinct h, nodeIds_removeGrammarRule]
              exact .removed (.byPlace h)
      | _ => exact .kept
  | removeGrammarRule nodeId =>
      rw [nodeIds_removeGrammarRule]
      exact .removed .byHandle
  | replaceGrammarRule nodeId rule =>
      have hhandles : (b.apply (.replaceGrammarRule nodeId rule)).nodeIds = b.nodeIds :=
        nodeIds_replaceFirst nodeId rule b.grammarRules
      rw [hhandles]
      exact .kept
  | _ => exact .kept

/-- **An edit that appends no rule with a handle that is taken keeps the handles different.** -/
theorem nodup_apply (hdistinct : b.nodeIds.Nodup)
    (hfresh : ∀ rule, edit = .append (.grammarRule rule) → rule.nodeId ∉ b.nodeIds) :
    (b.apply edit).nodeIds.Nodup := by
  have hchange := handlesChange_apply hdistinct edit
  generalize (b.apply edit).nodeIds = handles at hchange
  cases hchange with
  | kept => exact hdistinct
  | appended rule =>
      rw [← List.concat_eq_append]
      exact hdistinct.concat (hfresh rule rfl)
  | removed h => exact hdistinct.filter _

/-- **Handles of rules that an edit does not remove stay, in their order.** -/
theorem sublist_apply (hdistinct : b.nodeIds.Nodup) (hhandles : handles.Sublist b.nodeIds)
    (hspared : ∀ handle ∈ handles, ¬ edit.Removes b handle) :
    handles.Sublist (b.apply edit).nodeIds := by
  have hchange := handlesChange_apply hdistinct edit
  generalize (b.apply edit).nodeIds = after at hchange
  cases hchange with
  | kept => exact hhandles
  | appended rule => exact hhandles.trans (List.sublist_append_left _ _)
  | @removed _ nodeId h =>
      have hothers : handles.filter (· != nodeId) = handles := by
        apply List.filter_eq_self.mpr
        intro handle hhandle
        rw [bne_iff_ne]
        rintro rfl
        exact hspared _ hhandle h
      rw [← hothers]
      exact hhandles.filter _

end

/-! ### A script of edits -/

section

variable {b : Blueprint} {edit : Edit} {script done more : List Edit}

theorem applyAll_append (b : Blueprint) (done more : List Edit) :
    b.applyAll (done ++ more) = (b.applyAll done).applyAll more :=
  List.foldl_append

theorem freshHandles_nil (b : Blueprint) : b.FreshHandles [] := by
  intro before rule after h
  cases before <;> cases h

theorem freshHandles_cons :
    b.FreshHandles (edit :: script) ↔
      (∀ rule, edit = .append (.grammarRule rule) → rule.nodeId ∉ b.nodeIds) ∧
      (b.apply edit).FreshHandles script := by
  constructor
  · intro h
    refine ⟨?_, ?_⟩
    · rintro rule rfl
      exact h [] rule script rfl
    · rintro before rule after rfl
      exact h (edit :: before) rule after rfl
  · rintro ⟨hfirst, hrest⟩ before rule after hsplit
    cases before with
    | nil =>
        cases hsplit
        exact hfirst rule rfl
    | cons first before =>
        cases hsplit
        exact hrest before rule after rfl

/-- What is fresh in a script is fresh in its parts. -/
theorem FreshHandles.append (h : b.FreshHandles (done ++ more)) :
    b.FreshHandles done ∧ (b.applyAll done).FreshHandles more := by
  constructor
  · rintro before rule after rfl
    exact h before rule (after ++ more) (by simp)
  · rintro before rule after rfl
    rw [← applyAll_append]
    exact h (done ++ before) rule after (by simp)

theorem FreshHandles.of_isPrefix (h : b.FreshHandles script) (hdone : done <+: script) :
    b.FreshHandles done := by
  obtain ⟨more, rfl⟩ := hdone
  exact h.append.1

theorem Spares.cons {nodeId : NodeId} (h : b.Spares (edit :: script) nodeId) :
    ¬ edit.Removes b nodeId ∧ (b.apply edit).Spares script nodeId := by
  constructor
  · exact h [] edit script rfl
  · rintro before next after rfl
    exact h (edit :: before) next after rfl

/-- **The handles stay different.** -/
theorem nodup_applyAll (hdistinct : b.nodeIds.Nodup) (hfresh : b.FreshHandles script) :
    (b.applyAll script).nodeIds.Nodup := by
  induction script generalizing b with
  | nil => exact hdistinct
  | cons edit script ih =>
      obtain ⟨hfirst, hrest⟩ := freshHandles_cons.mp hfresh
      exact ih (nodup_apply hdistinct hfirst) hrest

/-- **Handles of rules that are never removed stay, in their order.** -/
theorem sublist_applyAll (hdistinct : b.nodeIds.Nodup) (hfresh : b.FreshHandles script)
    {handles : List NodeId} (hhandles : handles.Sublist b.nodeIds)
    (hspared : ∀ handle ∈ handles, b.Spares script handle) :
    handles.Sublist (b.applyAll script).nodeIds := by
  induction script generalizing b with
  | nil => exact hhandles
  | cons edit script ih =>
      obtain ⟨hfirst, hrest⟩ := freshHandles_cons.mp hfresh
      refine ih (nodup_apply hdistinct hfirst) hrest ?_
        (fun handle hin => (hspared handle hin).cons.2)
      exact sublist_apply hdistinct hhandles (fun handle hin => (hspared handle hin).cons.1)

end

/-! ### Every moment -/

/-- No handle is reported as repeated if the handles are different. -/
theorem duplicateNodeId_not_mem_review {b : Blueprint} (hdistinct : b.nodeIds.Nodup)
    (nodeId : NodeId) : .duplicateNodeId nodeId ∉ b.review := by
  have htexts : (b.grammarRules.map (·.nodeId.text)).Nodup :=
    Review.nodup_handleTexts.mpr hdistinct
  have hnone : Review.coded "DuplicateNodeId" b.review = [] := by
    rw [Review.coded_duplicateNodeId, Review.repeated_eq_nil.mpr htexts, List.map_nil]
  intro hreported
  have hfound : .duplicateNodeId nodeId ∈ Review.coded "DuplicateNodeId" b.review :=
    List.mem_filter.mpr ⟨hreported, rfl⟩
  rw [hnone] at hfound
  cases hfound

theorem addressable_of_nodup {b : Blueprint} (hdistinct : b.nodeIds.Nodup) : b.Addressable where
  distinct := hdistinct
  unreported := duplicateNodeId_not_mem_review hdistinct
  replaced := by
    intro nodeId rule
    refine ⟨?_, nodeIds_replaceFirst nodeId rule b.grammarRules⟩
    rw [apply, replaceFirst_eq_map hdistinct]
  removed := fun nodeId place h => removeGrammarRule_eq_removeAt hdistinct h
  absent := by
    intro nodeId habsent
    apply (apply_eq_self_iff b _).mpr
    exact fun rule hrule heq => habsent (heq ▸ List.mem_map_of_mem hrule)

/-- **Handles stay different and rules keep theirs**, in every script of edits that appends no rule
with a handle that is taken at that moment. -/
theorem handles_stay_stable {b : Blueprint} {script : List Edit} (hdistinct : b.nodeIds.Nodup)
    (hfresh : b.FreshHandles script) : b.StableHandles script where
  addressable := fun done hdone =>
    addressable_of_nodup (nodup_applyAll hdistinct (hfresh.of_isPrefix hdone))
  kept := by
    intro done more hmoment handles hhandles hspared
    have hparts := (hfresh.of_isPrefix hmoment).append
    rw [applyAll_append]
    exact sublist_applyAll (nodup_applyAll hdistinct hparts.1) hparts.2 hhandles hspared

/-- A blueprint with three rules. -/
def threeRules : Blueprint :=
  { name := "Toy",
    grammarRules := [{ name := "sum", nodeId := ⟨"a"⟩ }, { name := "term", nodeId := ⟨"b"⟩ },
      { name := "digit", nodeId := ⟨"c"⟩ }] }

/-- The second rule is given the content of a rule that has the handle of the third one, the first
rule is removed and its handle given to a new rule, and the second rule is removed. -/
def threeRulesScript : List Edit :=
  [.replaceGrammarRule ⟨"b"⟩ { name := "factor", nodeId := ⟨"c"⟩ },
    .removeAt .grammarRules 0,
    .append (.grammarRule { name := "sum", nodeId := ⟨"a"⟩ }),
    .removeGrammarRule ⟨"b"⟩]

theorem handles_stay_stable_threeRules :
    threeRules.nodeIds = [⟨"a"⟩, ⟨"b"⟩, ⟨"c"⟩] ∧
    threeRules.FreshHandles threeRulesScript ∧
    threeRules.StableHandles threeRulesScript ∧
    (threeRules.applyAll threeRulesScript).nodeIds = [⟨"c"⟩, ⟨"a"⟩] := by
  have hfresh : threeRules.FreshHandles threeRulesScript := by
    simp only [threeRulesScript, freshHandles_cons, freshHandles_nil, and_true, reduceCtorEq,
      false_implies, implies_true, true_and]
    rintro rule hrule
    cases hrule
    decide
  exact ⟨rfl, hfresh, handles_stay_stable (by decide) hfresh, rfl⟩

end Blueprint

end LanguageBlueprint
