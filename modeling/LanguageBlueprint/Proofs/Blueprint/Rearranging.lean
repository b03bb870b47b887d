/-
  LanguageBlueprint/Proofs/Blueprint/Rearranging.lean
  ===================================================
  **What a blueprint is read from.**  Which field has which value decides what is
  read, and nothing else does: not the order of the members, not the members that
  are no fields, and not whether a record is an object or the list of its first
  fields, be it the blueprint itself or a record at any depth inside it.  Only
  the handles of grammar rules that come without one are made up, and these are
  all that a blueprint owes to the supply of fresh numbers.

    * one change, anywhere in the tree          — `Blueprint.Rearranged`;
    * a change leaves what is read as it is     — `Blueprint.decode_rearranged`;
    * what differs when other handles are made  — `Blueprint.SameButHandles`,
                                                  `Blueprint.steady_codec`;
    * any number of changes to a text           — `reading_follows_fields`.
-/
import LanguageBlueprint.Blueprint.Wire
import LanguageBlueprint.Proofs.Json.Rearranging
import LanguageBlueprint.Proofs.Json.Supplies

namespace LanguageBlueprint

open Codec Decode

/-! ### Changes to the way in which a blueprint is written -/

/-- How the parameters of a built-in function may be written instead. -/
def Builtin.records : List (String × (Json → Json → Prop)) :=
  [("parameters", InItem (Parameter.schema.Rearranged []))]

/-- How the records inside a blueprint may be written instead. -/
def Blueprint.records : List (String × (Json → Json → Prop)) :=
  [("comment_syntax", CommentMarkers.schema.Rearranged []),
    ("grammar_rules", InItem (GrammarRule.schema.Rearranged [])),
    ("syntax_rules", InItem (SyntaxRule.schema.Rearranged [])),
    ("semantic_actions", InItem (SemanticAction.schema.Rearranged [])),
    ("keywords", InItem (Keyword.schema.Rearranged [])),
    ("operators", InItem (Operator.schema.Rearranged [])),
    ("builtin_functions", InItem (Builtin.schema.Rearranged Builtin.records))]

/-- One change to the way in which a blueprint is written, to the blueprint itself or to a record
inside it. -/
abbrev Blueprint.Rearranged : Json → Json → Prop := Blueprint.schema.Rearranged Blueprint.records

/-! ### The records and their fields -/

@[simp] theorem still_precedence : precedenceCodec.Still :=
  fun _ _ => agree_ite (agree_pure rfl) fails_malformed.agree

@[simp] theorem TypeSet.still_codec : TypeSet.codec.Still :=
  still_map (still_list still_word) TypeSet.toList TypeSet.ofList

theorem Parameter.quiet : Parameter.schema.Quiet :=
  ⟨by decide, by simp [schema], by simp [schema]⟩

theorem CommentMarkers.quiet : CommentMarkers.schema.Quiet :=
  ⟨by decide, by simp [schema], by simp [schema]⟩

theorem GrammarRule.quiet : GrammarRule.schema.Quiet :=
  ⟨by decide, by simp [schema], by simp [schema, NodeId.codec]⟩

theorem SyntaxRule.quiet : SyntaxRule.schema.Quiet :=
  ⟨by decide, by simp [schema], by simp [schema]⟩

theorem SemanticAction.quiet : SemanticAction.schema.Quiet :=
  ⟨by decide, by simp [schema], by simp [schema]⟩

theorem Keyword.quiet : Keyword.schema.Quiet :=
  ⟨by decide, by simp [schema], by simp [schema]⟩

theorem Operator.quiet : Operator.schema.Quiet :=
  ⟨by decide, by simp [schema], by simp [schema]⟩

@[simp] theorem Parameter.still_codec : Parameter.schema.codec.Still :=
  Schema.still_codec quiet.still (by simp [schema])

@[simp] theorem CommentMarkers.still_codec : CommentMarkers.schema.codec.Still :=
  Schema.still_codec quiet.still (by simp [schema])

@[simp] theorem SyntaxRule.still_codec : SyntaxRule.schema.codec.Still :=
  Schema.still_codec quiet.still (by simp [schema])

@[simp] theorem SemanticAction.still_codec : SemanticAction.schema.codec.Still :=
  Schema.still_codec quiet.still (by simp [schema])

@[simp] theorem Keyword.still_codec : Keyword.schema.codec.Still :=
  Schema.still_codec quiet.still (by simp [schema])

@[simp] theorem Operator.still_codec : Operator.schema.codec.Still :=
  Schema.still_codec quiet.still (by simp [schema])

theorem Builtin.quiet : Builtin.schema.Quiet :=
  ⟨by decide, by simp [schema], by simp [schema]⟩

@[simp] theorem Builtin.still_codec : Builtin.schema.codec.Still :=
  Schema.still_codec quiet.still (by simp [schema])

/-- The grammar rules are the only part of a blueprint for which a number may be drawn. -/
theorem Blueprint.still_field :
    ∀ field ∈ schema.fields, field.name ≠ "grammar_rules" → field.Still := by
  simp [schema]

theorem Blueprint.orderly : Blueprint.schema.Orderly := by
  refine ⟨by decide, by simp [schema], ?_⟩
  intro field hfield other hother hne
  by_cases hname : field.name = "grammar_rules"
  · right
    exact still_field other hother (fun heq => hne (hname.trans heq.symm))
  · left
    exact still_field field hfield hname

/-- A field that holds a list of records reads it the same, however one of them is written. -/
theorem Schema.alike_records {ρ σ : Type} {schema : Schema σ} (horderly : schema.Orderly)
    {records : List (String × (Json → Json → Prop))} (hrespects : schema.Respects records)
    {put : List σ → ρ → ρ} (depth : Nat) (value other : Json)
    (h : InItem (schema.Rearranged records) value other) :
    Alike (put <$> (Codec.list schema.codec).decode depth value)
      (put <$> (Codec.list schema.codec).decode depth other) := by
  refine alike_map (list_alike (fun depth value other hitem => ?_) h) put
  exact schema.decode_alike horderly hrespects hitem depth

theorem Builtin.respects : Builtin.schema.Respects Builtin.records := by
  intro record hrecord
  simp only [Builtin.records, List.mem_singleton] at hrecord
  subst hrecord
  exact ⟨_, List.mem_of_getElem? (i := 1) rfl, rfl,
    Schema.alike_records Parameter.quiet.orderly Schema.Respects.nil⟩

theorem Blueprint.respects : Blueprint.schema.Respects Blueprint.records := by
  intro record hrecord
  simp only [Blueprint.records, List.mem_cons, List.not_mem_nil, or_false] at hrecord
  rcases hrecord with rfl | rfl | rfl | rfl | rfl | rfl | rfl
  · refine ⟨_, List.mem_of_getElem? (i := 6) rfl, rfl, ?_⟩
    intro depth value other h
    exact alike_map (Schema.decode_alike CommentMarkers.quiet.orderly Schema.Respects.nil h depth) _
  · exact ⟨_, List.mem_of_getElem? (i := 8) rfl, rfl,
      Schema.alike_records GrammarRule.quiet.orderly Schema.Respects.nil⟩
  · exact ⟨_, List.mem_of_getElem? (i := 9) rfl, rfl,
      Schema.alike_records SyntaxRule.quiet.orderly Schema.Respects.nil⟩
  · exact ⟨_, List.mem_of_getElem? (i := 10) rfl, rfl,
      Schema.alike_records SemanticAction.quiet.orderly Schema.Respects.nil⟩
  · exact ⟨_, List.mem_of_getElem? (i := 11) rfl, rfl,
      Schema.alike_records Keyword.quiet.orderly Schema.Respects.nil⟩
  · exact ⟨_, List.mem_of_getElem? (i := 12) rfl, rfl,
      Schema.alike_records Operator.quiet.orderly Schema.Respects.nil⟩
  · exact ⟨_, List.mem_of_getElem? (i := 13) rfl, rfl,
      Schema.alike_records Builtin.quiet.orderly Builtin.respects⟩

/-- **However a blueprint is written, the same is read.** -/
theorem Blueprint.decode_rearranged {value other : Json}
    (h : Relation.EqvGen Blueprint.Rearranged value other) (depth : Nat) :
    Alike (Blueprint.codec.decode depth value) (Blueprint.codec.decode depth other) :=
  Schema.decode_alike_of_changes orderly respects h depth

/-! ### Handles -/

/-- The handle was made from a fresh number. -/
def NodeId.IsMade (id : NodeId) : Prop := ∃ n, id = .ofFresh n

/-- The rules are the same, but for a handle that was made for each of them. -/
structure GrammarRule.SameButHandle (rule other : GrammarRule) : Prop where
  rest : { other with nodeId := rule.nodeId } = rule
  handle : rule.nodeId = other.nodeId ∨ rule.nodeId.IsMade ∧ other.nodeId.IsMade

/-- The blueprints are the same, but for handles of grammar rules that were made. -/
structure Blueprint.SameButHandles (b other : Blueprint) : Prop where
  rest : { other with grammarRules := b.grammarRules } = b
  rules : List.Forall₂ GrammarRule.SameButHandle b.grammarRules other.grammarRules

namespace GrammarRule

/-- A change to anything but the handle. -/
theorem SameButHandle.change {rule other : GrammarRule} (h : rule.SameButHandle other)
    (change : GrammarRule → GrammarRule) (hid : ∀ rule, (change rule).nodeId = rule.nodeId)
    (hchange : ∀ rule id, change { rule with nodeId := id } = { change rule with nodeId := id }) :
    (change rule).SameButHandle (change other) := by
  constructor
  · rw [hid, ← hchange, h.rest]
  · rw [hid, hid]
    exact h.handle

theorem SameButHandle.put {rule other : GrammarRule} (h : rule.SameButHandle other) {id id' : NodeId}
    (hid : id = id' ∨ id.IsMade ∧ id'.IsMade) :
    SameButHandle { rule with nodeId := id } { other with nodeId := id' } := by
  refine ⟨?_, hid⟩
  rw [← h.rest]

theorem steady_codec : schema.codec.Steady true SameButHandle := by
  refine Schema.steady_codec ⟨rfl, .inl rfl⟩ ?_
  simp only [schema, List.forall_mem_cons, List.not_mem_nil, false_implies, implies_true, and_true]
  refine ⟨?_, ?_, ?_, ?_⟩
  · refine Schema.relates_of_still still_text (fun name rule other h => ?_) (by simp)
    exact h.change (fun r => { r with name := name }) (fun _ => rfl) (fun _ _ => rfl)
  · refine Schema.relates_of_still still_text (fun pattern rule other h => ?_) (by simp)
    exact h.change (fun r => { r with pattern := pattern }) (fun _ => rfl) (fun _ _ => rfl)
  · refine Schema.relates_of_still (still_option still_text) (fun text rule other h => ?_) (by simp)
    exact h.change (fun r => { r with description := text }) (fun _ => rfl) (fun _ _ => rfl)
  · refine Schema.relates_of_still (still_map still_text NodeId.text NodeId.mk)
      (fun id rule other h => h.put (.inl rfl)) ?_
    rintro fill hfill
    cases hfill
    exact ⟨rfl, fun n m rule other h => h.put (.inr ⟨⟨n, rfl⟩, ⟨m, rfl⟩⟩)⟩

end GrammarRule

namespace Blueprint

/-- A change to anything but the grammar rules. -/
theorem SameButHandles.change {b other : Blueprint} (h : b.SameButHandles other)
    (change : Blueprint → Blueprint) (hrules : ∀ b, (change b).grammarRules = b.grammarRules)
    (hchange : ∀ b rules,
      change { b with grammarRules := rules } = { change b with grammarRules := rules }) :
    (change b).SameButHandles (change other) := by
  constructor
  · rw [hrules, ← hchange, h.rest]
  · rw [hrules, hrules]
    exact h.rules

/-- A field other than the grammar rules leaves blueprints the same but for handles. -/
theorem relates_of_put {α : Type} {name : String} {codec : Codec α} {get : Blueprint → α}
    {put : α → Blueprint → Blueprint} (hcodec : codec.Still)
    (hrules : ∀ a b, (put a b).grammarRules = b.grammarRules)
    (hput : ∀ a b rules,
      put a { b with grammarRules := rules } = { put a b with grammarRules := rules }) :
    Schema.Relates true SameButHandles (.of name codec get put .blank) :=
  Schema.relates_of_still hcodec
    (fun a _ _ h => h.change (put a) (hrules a) (hput a)) (by simp)

theorem steady_codec : codec.Steady true SameButHandles := by
  refine Schema.steady_codec ⟨rfl, .nil⟩ ?_
  simp only [schema, List.forall_mem_cons, List.not_mem_nil, false_implies, implies_true, and_true]
  refine ⟨?_, ?_, ?_, ?_, ?_, ?_, ?_, ?_, ?_, ?_, ?_, ?_, ?_, ?_, ?_⟩
  case refine_9 =>
    refine Schema.relates_of (steady_list GrammarRule.steady_codec) ?_ (by simp)
    intro rules others hrules b other h
    refine ⟨?_, hrules⟩
    rw [← h.rest]
  all_goals exact relates_of_put (by simp) (fun _ _ => rfl) (fun _ _ _ => rfl)

end Blueprint

/-! ### Texts -/

/-- **Decoding depends only on which field has which value.**  Take any text that is read as a
blueprint, change the value that stands in it any number of times — put members in another order,
put in or take out members that are no fields, make an object that holds exactly the first fields
the list of their values or the other way round, in the blueprint and in every record inside it —
and write the value out as any JSON text.  From the same supply of fresh numbers that text is read as
the same blueprint, and from every other supply as one that differs at most in handles of grammar
rules that were made from fresh numbers. -/
theorem reading_follows_fields {text other : String} {json : Json}
    (hchanges : Relation.EqvGen Blueprint.Rearranged (Json.read text).1 json)
    (hother : Json.IsTextOf other json) {supply next : Nat} {b : Blueprint}
    (h : (Blueprint.codec.ofText text).run supply = .ok (b, next)) :
    (Blueprint.codec.ofText other).run supply = .ok (b, next) ∧
    ∀ supply', ∃ c next',
      (Blueprint.codec.ofText other).run supply' = .ok (c, next') ∧ b.SameButHandles c := by
  have hread : outcome (Blueprint.codec.ofJson (Json.read text).1) supply = some (b, next) :=
    Codec.outcome_ofJson (outcome_eq_some.mpr h)
  have hsame : outcome (Blueprint.codec.ofJson json) supply = some (b, next) :=
    (Blueprint.decode_rearranged hchanges maxDepth supply).symm.trans hread
  rw [Codec.ofText_of_isTextOf _ hother]
  refine ⟨outcome_eq_some.mp hsame, fun supply' => ?_⟩
  obtain ⟨c, next', hrun, hbc, -⟩ :=
    Blueprint.steady_codec maxDepth json supply supply' b next hsame
  exact ⟨c, next', outcome_eq_some.mp hrun, hbc⟩

/-- A blueprint with one rule, written as objects. -/
def Blueprint.toyObject : Json :=
  .ofMembers [("name", .text "Toy"),
    ("grammar_rules", .ofList [.ofMembers [("name", .text "start"), ("pattern", .text "x")]])]

/-- The same blueprint with its members in another order, a member that is no field, and its rule
as a list. -/
def Blueprint.toyList : Json :=
  .ofMembers [("grammar_rules", .ofList [.ofList [.text "start", .text "x"]]),
    ("x", .ofList [.null]), ("name", .text "Toy")]

theorem Blueprint.toy_rearranged :
    Relation.EqvGen Blueprint.Rearranged Blueprint.toyObject Blueprint.toyList := by
  let name : Option String × Json := (some "name", .text "Toy")
  let rule : Json := .ofMembers [("name", .text "start"), ("pattern", .text "x")]
  let listed : Json := .ofList [.text "start", .text "x"]
  have hpermuted : Blueprint.Rearranged toyObject
      (.object [(some "grammar_rules", .ofList [rule]), name] true) :=
    .permuted (List.Perm.swap _ _ _)
  have hinserted : Blueprint.Rearranged
      (.object [(some "grammar_rules", .ofList [rule]), name] true)
      (.object [(some "grammar_rules", .ofList [rule]), (some "x", .ofList [.null]), name] true) :=
    @Schema.Rearranged.inserted _ _ _ [(some "grammar_rules", .ofList [rule])] [name] true "x" _
      (by decide) rfl
  have hlisted : Blueprint.Rearranged
      (.object [(some "grammar_rules", .ofList [rule]), (some "x", .ofList [.null]), name] true)
      (.object [(some "grammar_rules", .ofList [listed]), (some "x", .ofList [.null]), name] true) := by
    have hrule : GrammarRule.schema.Rearranged [] rule listed :=
      @Schema.Rearranged.listed _ GrammarRule.schema _ [.text "start", .text "x"] true (by decide)
    have hitem : InItem (GrammarRule.schema.Rearranged []) (.ofList [rule]) (.ofList [listed]) :=
      @InItem.item _ [] [] true rule listed hrule
    exact @Schema.Rearranged.member _ _ _ [] _ true "grammar_rules" _ _ _
      (by simp [Blueprint.records]) hitem
  exact .trans _ _ _ (.rel _ _ hpermuted) (.trans _ _ _ (.rel _ _ hinserted) (.rel _ _ hlisted))

/-- The two ways of writing the blueprint are read as one blueprint, whose rule has the handle that
is made first. -/
theorem reading_follows_fields_toy :
    ∃ b, (Blueprint.codec.ofText Blueprint.toyObject.compact).run 0 = .ok (b, 1) ∧
      (Blueprint.codec.ofText Blueprint.toyList.compact).run 0 = .ok (b, 1) ∧
      b.name = "Toy" ∧ b.grammarRules.map GrammarRule.nodeId = [.ofFresh 0] := by
  have hobject : Blueprint.toyObject.Writable := by
    simp [Blueprint.toyObject, Json.ofMembers, Json.ofList, Json.Writable, Json.AllWritable,
      Json.AllMembersWritable]
  have hlist : Blueprint.toyList.Writable := by
    simp [Blueprint.toyList, Json.ofMembers, Json.ofList, Json.Writable, Json.AllWritable,
      Json.AllMembersWritable]
  have htext : Json.IsTextOf Blueprint.toyObject.compact Blueprint.toyObject :=
    Json.isTextOf_compact hobject
  have hchanges : Relation.EqvGen Blueprint.Rearranged
      (Json.read Blueprint.toyObject.compact).1 Blueprint.toyList := by
    rw [Json.read_compact hobject]
    exact Blueprint.toy_rearranged
  have hrun : (Blueprint.codec.ofText Blueprint.toyObject.compact).run 0 =
      .ok ({ name := "Toy", grammarRules := [⟨"start", "x", none, .ofFresh 0⟩] }, 1) := by
    rw [Codec.ofText_of_isTextOf _ htext]
    rfl
  exact ⟨_, hrun, (reading_follows_fields hchanges (Json.isTextOf_compact hlist) hrun).1, rfl, rfl⟩

end LanguageBlueprint
