/-
  LanguageBlueprint/Proofs/Blueprint/Locality.lean
  ================================================
  **Where edits act.**  A blueprint is a row of slots: its fields, with each of
  the three markers of comments in a slot of its own.  An edit has its targets
  among the slots.  It leaves every other slot as it is, and what it puts into a
  target depends on nothing but what was there.  So the edits of a script that
  have a slot as a target decide alone what is in the slot in the end, and two
  scripts that have no target in common may be interleaved in any way.

    * one edit                                — `read_apply_of_not_mem`, `read_apply_congr`;
    * edits that change nothing               — `apply_eq_self_iff`;
    * a slot after a script                   — `read_applyAll_eq_filter`;
    * one side of an interleaving             — `Interleaving.filter_eq_left`;
    * all edits                               — `edits_act_locally`.
-/
import LanguageBlueprint.Proofs.Blueprint.Undoing

namespace LanguageBlueprint

/-! ### Slots -/

/-- A place in a blueprint that edits change on its own. -/
inductive Slot where
  | name | version | description | execution | backend | fileExtension | author
  | lineComment | blockCommentStart | blockCommentEnd | types
  | parts (collection : Collection)
deriving DecidableEq, Repr

/-- What a slot holds. -/
abbrev Slot.Content : Slot → Type
  | .name => String
  | .version => String
  | .description => String
  | .execution => Execution
  | .backend => Option Backend
  | .fileExtension => String
  | .author => Option String
  | .lineComment => Option String
  | .blockCommentStart => Option String
  | .blockCommentEnd => Option String
  | .types => TypeSet
  | .parts .grammarRules => List GrammarRule
  | .parts .syntaxRules => List SyntaxRule
  | .parts .semanticActions => List SemanticAction
  | .parts .keywords => List Keyword
  | .parts .operators => List Operator
  | .parts .builtins => List Builtin

def Blueprint.read (b : Blueprint) : (slot : Slot) → slot.Content
  | .name => b.name
  | .version => b.version
  | .description => b.description
  | .execution => b.execution
  | .backend => b.backend
  | .fileExtension => b.fileExtension
  | .author => b.author
  | .lineComment => b.comments.line
  | .blockCommentStart => b.comments.blockStart
  | .blockCommentEnd => b.comments.blockEnd
  | .types => b.types
  | .parts .grammarRules => b.grammarRules
  | .parts .syntaxRules => b.syntaxRules
  | .parts .semanticActions => b.semanticActions
  | .parts .keywords => b.keywords
  | .parts .operators => b.operators
  | .parts .builtins => b.builtins

namespace Edit

/-- The slots that an edit may change. -/
def targets : Edit → List Slot
  | .setName _ => [.name]
  | .setVersion _ => [.version]
  | .setDescription _ => [.description]
  | .setExecution _ => [.execution]
  | .setBackend _ => [.backend]
  | .setFileExtension _ => [.fileExtension]
  | .setAuthor _ => [.author]
  | .setComments _ => [.lineComment, .blockCommentStart, .blockCommentEnd]
  | .setLineComment _ => [.lineComment]
  | .setBlockCommentStart _ => [.blockCommentStart]
  | .setBlockCommentEnd _ => [.blockCommentEnd]
  | .setTypes _ => [.types]
  | .addType _ => [.types]
  | .removeType _ => [.types]
  | .append part => [.parts part.collection]
  | .removeAt collection _ => [.parts collection]
  | .removeGrammarRule _ => [.parts .grammarRules]
  | .replaceGrammarRule _ _ => [.parts .grammarRules]
  | .removeKeyword _ => [.parts .keywords]
  | .removeOperator _ => [.parts .operators]

/-- The edit sets what is set, adds what is there, or addresses nothing.  A grammar rule is also
replaced idly if its new content is the old one. -/
def Idle (b : Blueprint) : Edit → Prop
  | .setName name => name = b.name
  | .setVersion version => version = b.version
  | .setDescription description => description = b.description
  | .setExecution execution => execution = b.execution
  | .setBackend backend => backend = b.backend
  | .setFileExtension extension => extension = b.fileExtension
  | .setAuthor author => author = b.author
  | .setComments markers => markers = b.comments
  | .setLineComment marker => marker = b.comments.line
  | .setBlockCommentStart marker => marker = b.comments.blockStart
  | .setBlockCommentEnd marker => marker = b.comments.blockEnd
  | .setTypes types => types = b.types
  | .addType type => b.types.contains type = true
  | .removeType type => b.types.contains type = false
  | .append _ => False
  | .removeAt collection index => b.size collection ≤ index
  | .removeGrammarRule nodeId => ∀ rule ∈ b.grammarRules, rule.nodeId ≠ nodeId
  | .replaceGrammarRule nodeId rule =>
      (∀ old ∈ b.grammarRules, old.nodeId ≠ nodeId) ∨
      b.grammarRules.find? (fun old => old.nodeId = nodeId) = some { rule with nodeId := nodeId }
  | .removeKeyword word => ∀ keyword ∈ b.keywords, keyword.word ≠ word
  | .removeOperator symbol => ∀ operator ∈ b.operators, operator.symbol ≠ symbol

end Edit

/-- The third list holds the items of the first two, those of each in their order. -/
inductive Interleaving {α : Type} : List α → List α → List α → Prop where
  | nil : Interleaving [] [] []
  | left {item : α} {first second all : List α} (h : Interleaving first second all) :
      Interleaving (item :: first) second (item :: all)
  | right {item : α} {first second all : List α} (h : Interleaving first second all) :
      Interleaving first (item :: second) (item :: all)

theorem TypeSet.insert_eq_self_iff {type : DataType} {types : TypeSet} :
    types.insert type = types ↔ types.contains type = true := by
  refine ⟨fun h => ?_, insert_eq_self⟩
  rw [← h]
  simp

theorem TypeSet.erase_eq_self_iff {type : DataType} {types : TypeSet} :
    types.erase type = types ↔ types.contains type = false := by
  refine ⟨fun h => ?_, erase_eq_self⟩
  rw [← h]
  simp

namespace Blueprint

/-- How edits act on the slots of a blueprint. -/
structure ActsLocally (b : Blueprint) : Prop where
  frame : ∀ (edit : Edit) (slot : Slot), slot ∉ edit.targets →
    (b.apply edit).read slot = b.read slot
  idle : ∀ edit : Edit, b.apply edit = b ↔ edit.Idle b
  interleaved : ∀ first second script other : List Edit,
    (first.flatMap Edit.targets).Disjoint (second.flatMap Edit.targets) →
    Interleaving first second script → Interleaving first second other →
    b.applyAll script = b.applyAll other

/-! ### One edit -/

section

variable {b c : Blueprint} {edit : Edit} {slot : Slot}

/-- The slots are all there is of a blueprint. -/
theorem ext_read (h : ∀ slot, b.read slot = c.read slot) : b = c := by
  have hcomments : b.comments = c.comments := by
    rw [CommentMarkers.mk.injEq]
    exact ⟨h .lineComment, h .blockCommentStart, h .blockCommentEnd⟩
  rw [Blueprint.mk.injEq]
  exact ⟨h .name, h .version, h .description, h .execution, h .backend, h .fileExtension,
    hcomments, h .types, h (.parts .grammarRules), h (.parts .syntaxRules),
    h (.parts .semanticActions), h (.parts .keywords), h (.parts .operators),
    h (.parts .builtins), h .author⟩

theorem read_append_of_ne {part : Part} (h : slot ≠ .parts part.collection) (b : Blueprint) :
    (b.append part).read slot = b.read slot := by
  cases slot with
  | parts collection => cases part <;> cases collection <;> first | rfl | exact absurd rfl h
  | _ => cases part <;> rfl

theorem read_removeAt_of_ne {collection : Collection} (h : slot ≠ .parts collection) (b : Blueprint)
    (index : Nat) : (b.removeAt index collection).read slot = b.read slot := by
  cases slot with
  | parts other => cases other <;> cases collection <;> first | rfl | exact absurd rfl h
  | _ => cases collection <;> rfl

/-- **An edit leaves every slot that is no target of it as it is.** -/
theorem read_apply_of_not_mem (h : slot ∉ edit.targets) (b : Blueprint) :
    (b.apply edit).read slot = b.read slot := by
  cases edit with
  | append part => exact read_append_of_ne (List.ne_of_not_mem_cons h) b
  | removeAt collection index => exact read_removeAt_of_ne (List.ne_of_not_mem_cons h) b index
  | _ =>
      -- a slot is read past the change of another one, or it is the target
      rcases slot with _ | _ | _ | _ | _ | _ | _ | _ | _ | _ | _ | collection
      case parts => cases collection <;> first | rfl | simp [Edit.targets] at h
      all_goals first | rfl | simp [Edit.targets] at h

/-- What an edit puts into a slot depends on nothing but what was there. -/
theorem read_apply_congr (h : b.read slot = c.read slot) (edit : Edit) :
    (b.apply edit).read slot = (c.apply edit).read slot := by
  by_cases htarget : slot ∈ edit.targets
  · cases edit with
    | setComments markers =>
        simp only [Edit.targets, List.mem_cons, List.not_mem_nil, or_false] at htarget
        rcases htarget with rfl | rfl | rfl <;> rfl
    | append part =>
        obtain rfl := List.mem_singleton.mp htarget
        cases part <;> exact congrArg (· ++ [_]) h
    | removeAt collection index =>
        obtain rfl := List.mem_singleton.mp htarget
        cases collection <;> exact congrArg (List.eraseIdx · index) h
    | addType type =>
        obtain rfl := List.mem_singleton.mp htarget
        exact congrArg (TypeSet.insert type) h
    | removeType type =>
        obtain rfl := List.mem_singleton.mp htarget
        exact congrArg (TypeSet.erase type) h
    | removeGrammarRule nodeId =>
        obtain rfl := List.mem_singleton.mp htarget
        exact congrArg (List.filter _) h
    | replaceGrammarRule nodeId rule =>
        obtain rfl := List.mem_singleton.mp htarget
        exact congrArg (replaceFirst nodeId rule) h
    | removeKeyword word =>
        obtain rfl := List.mem_singleton.mp htarget
        exact congrArg (List.filter _) h
    | removeOperator symbol =>
        obtain rfl := List.mem_singleton.mp htarget
        exact congrArg (List.filter _) h
    | _ =>
        -- what is set does not depend on what was there
        obtain rfl := List.mem_singleton.mp htarget
        rfl
  · rw [read_apply_of_not_mem htarget, read_apply_of_not_mem htarget, h]

/-! ### Edits that change nothing -/

theorem apply_eq_iff (b : Blueprint) (edit : Edit) :
    b.apply edit = b ↔ ∀ slot ∈ edit.targets, (b.apply edit).read slot = b.read slot := by
  constructor
  · intro h slot _
    rw [h]
  · intro h
    refine ext_read (fun slot => ?_)
    by_cases htarget : slot ∈ edit.targets
    · exact h slot htarget
    · exact read_apply_of_not_mem htarget b

theorem filter_bne_eq_self_iff {α β : Type} [DecidableEq β] {key : α → β} {value : β}
    {parts : List α} :
    parts.filter (fun part => key part != value) = parts ↔ ∀ part ∈ parts, key part ≠ value := by
  simp only [List.filter_eq_self, bne_iff_ne]

/-- Replacing the first rule with a handle changes nothing if there is no such rule, or if it has
the new content already. -/
theorem replaceFirst_eq_self_iff {nodeId : NodeId} {rule : GrammarRule}
    {rules : List GrammarRule} :
    replaceFirst nodeId rule rules = rules ↔
      (∀ old ∈ rules, old.nodeId ≠ nodeId) ∨
      rules.find? (fun old => old.nodeId = nodeId) = some { rule with nodeId := nodeId } := by
  induction rules with
  | nil => simp [replaceFirst]
  | cons first rules ih =>
      by_cases hfirst : first.nodeId = nodeId
      · have hhandle : ¬ ∀ old ∈ first :: rules, old.nodeId ≠ nodeId :=
          fun h => h first List.mem_cons_self hfirst
        rw [replaceFirst, if_pos hfirst, List.find?_cons_of_pos (by simpa using hfirst),
          or_iff_right hhandle, List.cons.injEq, Option.some_inj, eq_comm]
        exact and_iff_left rfl
      · rw [replaceFirst, if_neg hfirst, List.find?_cons_of_neg (by simpa using hfirst)]
        simp [hfirst, ih]

/-- **An edit changes nothing exactly when it is idle.** -/
theorem apply_eq_self_iff (b : Blueprint) (edit : Edit) : b.apply edit = b ↔ edit.Idle b := by
  rw [apply_eq_iff]
  cases edit with
  | setComments markers =>
      simp only [Edit.targets, List.forall_mem_cons, List.not_mem_nil, false_implies,
        implies_true, and_true]
      exact (iff_of_eq (CommentMarkers.mk.injEq ..)).symm
  | append part =>
      rw [Edit.targets, List.forall_mem_singleton]
      cases part <;> simp [apply, append, read, Part.collection, Edit.Idle]
  | removeAt collection index =>
      rw [Edit.targets, List.forall_mem_singleton]
      cases collection <;> exact List.eraseIdx_eq_self
  | addType type =>
      rw [Edit.targets, List.forall_mem_singleton]
      exact TypeSet.insert_eq_self_iff
  | removeType type =>
      rw [Edit.targets, List.forall_mem_singleton]
      exact TypeSet.erase_eq_self_iff
  | removeGrammarRule nodeId =>
      rw [Edit.targets, List.forall_mem_singleton]
      exact filter_bne_eq_self_iff
  | replaceGrammarRule nodeId rule =>
      rw [Edit.targets, List.forall_mem_singleton]
      exact replaceFirst_eq_self_iff
  | removeKeyword word =>
      rw [Edit.targets, List.forall_mem_singleton]
      exact filter_bne_eq_self_iff
  | removeOperator symbol =>
      rw [Edit.targets, List.forall_mem_singleton]
      exact filter_bne_eq_self_iff
  | _ => exact List.forall_mem_singleton

end

/-! ### Scripts -/

/-- A slot after a script of edits holds what the edits that have it as a target have made. -/
theorem read_applyAll_eq_filter (b : Blueprint) (slot : Slot) (script : List Edit) :
    (b.applyAll script).read slot =
      (b.applyAll (script.filter (fun edit => slot ∈ edit.targets))).read slot := by
  have hrun : ∀ c : Blueprint, b.read slot = c.read slot →
      (b.applyAll script).read slot =
        (c.applyAll (script.filter (fun edit => slot ∈ edit.targets))).read slot := by
    induction script generalizing b with
    | nil => exact fun c h => h
    | cons edit script ih =>
        intro c h
        by_cases htarget : slot ∈ edit.targets
        · rw [List.filter_cons_of_pos (by simpa using htarget)]
          exact ih (b.apply edit) (c.apply edit) (read_apply_congr h edit)
        · rw [List.filter_cons_of_neg (by simpa using htarget)]
          exact ih (b.apply edit) c ((read_apply_of_not_mem htarget b).trans h)
  exact hrun b rfl

end Blueprint

namespace Interleaving

variable {α : Type} {first second all : List α}

theorem symm (h : Interleaving first second all) : Interleaving second first all := by
  induction h with
  | nil => exact .nil
  | left h ih => exact .right ih
  | right h ih => exact .left ih

/-- Of items that are only on one side, an interleaving has those of that side, in their order. -/
theorem filter_eq_left (h : Interleaving first second all) {p : α → Bool}
    (hsecond : ∀ item ∈ second, p item = false) : all.filter p = first.filter p := by
  induction h with
  | nil => rfl
  | @left item first second all h ih =>
      rw [List.filter_cons, List.filter_cons, ih hsecond]
  | @right item first second all h ih =>
      rw [List.forall_mem_cons] at hsecond
      rw [List.filter_cons_of_neg (by simp [hsecond.1]), ih hsecond.2]

end Interleaving

namespace Blueprint

theorem spared_of_not_mem {slot : Slot} {script : List Edit}
    (h : slot ∉ script.flatMap Edit.targets) :
    ∀ edit ∈ script, decide (slot ∈ edit.targets) = false := by
  intro edit hedit
  exact decide_eq_false (fun htarget => h (List.mem_flatMap.mpr ⟨edit, hedit, htarget⟩))

/-- **An edit touches its targets only, it changes nothing exactly when it is idle, and scripts
without a common target may be interleaved in any way.** -/
theorem edits_act_locally (b : Blueprint) : b.ActsLocally where
  frame := fun edit slot h => read_apply_of_not_mem h b
  idle := b.apply_eq_self_iff
  interleaved := by
    intro first second script other hdisjoint hscript hother
    refine ext_read (fun slot => ?_)
    have hedits : script.filter (fun edit => slot ∈ edit.targets) =
        other.filter (fun edit => slot ∈ edit.targets) := by
      -- the slot is a target on one side at most, and that side has its order in both
      by_cases hsecond : slot ∈ second.flatMap Edit.targets
      · have hfirst : slot ∉ first.flatMap Edit.targets := fun hfirst => hdisjoint hfirst hsecond
        rw [hscript.symm.filter_eq_left (spared_of_not_mem hfirst),
          hother.symm.filter_eq_left (spared_of_not_mem hfirst)]
      · rw [hscript.filter_eq_left (spared_of_not_mem hsecond),
          hother.filter_eq_left (spared_of_not_mem hsecond)]
    rw [read_applyAll_eq_filter, hedits, ← read_applyAll_eq_filter]

end Blueprint

end LanguageBlueprint
