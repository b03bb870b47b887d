/-
  LanguageBlueprint/Proofs/Exchange/RoundTrip.lean
  ================================================
  **What is sent arrives.**  Every blueprint, every part of one and every message
  is found again in its encoding, and hence in its compact and in its pretty text.
  Two kinds of values are cut short on the way: the findings of a failure report
  are written but not read, and the times of a listing are not looked at here.

    * the parts of a blueprint   — `GrammarRule.reads`, `Operator.reads`, …;
    * the blueprint itself       — `Blueprint.reads`, `Blueprint.ofText_compact`;
    * the messages               — `GenerateRequest.reads`, `FailureReport.reads`, ….
-/
import LanguageBlueprint.Exchange.Wire
import LanguageBlueprint.Proofs.Json.Ensures
import LanguageBlueprint.Proofs.Json.Faithful

namespace LanguageBlueprint

open Codec

variable {levels : Nat}

/-! ### Parts of a blueprint -/

theorem NodeId.reads (id : NodeId) : NodeId.codec.Reads levels id id :=
  reads_map (reads_text id.text) rfl

theorem reads_precedence (n? : Option Int64) : precedenceCodec.Reads levels n? n? := by
  have hwrite : ∀ n : Int64, (Json.ofInt n.toInt).Writable := fun n => Json.writable_ofInt n.toInt
  refine ⟨Json.writable_ofOption hwrite n?, fun _ => ?_⟩
  cases n? with
  | none => rfl
  | some n =>
      simp only [precedenceCodec, Json.ofOption, Json.ofInt, Json.isKeepable, precedenceOf,
        value?_ofInt64, Option.isSome_some, if_true, Option.filter_some, fitsInt64_toInt,
        Option.map_some, Int64.ofInt_toInt]

theorem GrammarRule.reads (rule : GrammarRule) :
    GrammarRule.schema.codec.Reads (levels + 1) rule rule :=
  Schema.reads (by decide) <|
    .field (reads_text _) <| .field (reads_text _) <| .field (reads_optionalText _) <|
    .field (NodeId.reads _) .nil

theorem Keyword.reads (keyword : Keyword) :
    Keyword.schema.codec.Reads (levels + 1) keyword keyword :=
  Schema.reads (by decide) <|
    .field (reads_text _) <| .field (reads_optionalWord _) <| .field (reads_optionalText _) .nil

theorem Operator.reads (operator : Operator) :
    Operator.schema.codec.Reads (levels + 1) operator operator :=
  Schema.reads (by decide) <|
    .field (reads_text _) <| .field (reads_precedence _) <| .field (reads_word _) <|
    .field (reads_optionalWord _) <| .field (reads_text _) .nil

theorem SyntaxRule.reads (rule : SyntaxRule) :
    SyntaxRule.schema.codec.Reads (levels + 2) rule rule :=
  Schema.reads (by decide) <|
    .field (reads_word _) <| .field (reads_text _) <|
    .field (reads_list fun token _ => reads_text token) <| .field (reads_int64 _) <|
    .field (reads_word _) .nil

theorem SemanticAction.reads (action : SemanticAction) :
    SemanticAction.schema.codec.Reads (levels + 1) action action :=
  Schema.reads (by decide) <|
    .field (reads_text _) <| .field (reads_word _) <| .field (reads_text _) <|
    .field (reads_optionalWord _) .nil

theorem Parameter.reads (parameter : Parameter) :
    Parameter.schema.codec.Reads (levels + 1) parameter parameter :=
  Schema.reads (by decide) <| .field (reads_text _) <| .field (reads_word _) .nil

theorem Builtin.reads (builtin : Builtin) :
    Builtin.schema.codec.Reads (levels + 3) builtin builtin :=
  Schema.reads (by decide) <|
    .field (reads_text _) <| .field (reads_list fun parameter _ => Parameter.reads parameter) <|
    .field (reads_word _) <| .field (reads_text _) <| .field (reads_text _) .nil

theorem CommentMarkers.reads (markers : CommentMarkers) :
    CommentMarkers.schema.codec.Reads (levels + 1) markers markers :=
  Schema.reads (by decide) <|
    .field (reads_optionalText _) <| .field (reads_optionalText _) <|
    .field (reads_optionalText _) .nil

theorem TypeSet.reads (types : TypeSet) : TypeSet.codec.Reads (levels + 1) types types :=
  reads_map (reads_list fun type _ => reads_word type) (TypeSet.ofList_toList types)

theorem Blueprint.reads (b : Blueprint) : Blueprint.codec.Reads (levels + 5) b b :=
  Schema.reads (by decide) <|
    .field (reads_text _) <| .field (reads_text _) <| .field (reads_text _) <|
    .field (reads_word _) <| .field (reads_optionalWord _) <| .field (reads_text _) <|
    .field (CommentMarkers.reads _) <| .field (TypeSet.reads _) <|
    .field (reads_list fun rule _ => GrammarRule.reads rule) <|
    .field (reads_list fun rule _ => SyntaxRule.reads rule) <|
    .field (reads_list fun action _ => SemanticAction.reads action) <|
    .field (reads_list fun keyword _ => Keyword.reads keyword) <|
    .field (reads_list fun operator _ => Operator.reads operator) <|
    .field (reads_list fun builtin _ => Builtin.reads builtin) <|
    .field (reads_optionalText _) .nil

/-- The body that a store keeps of a blueprint is read as that blueprint. -/
theorem Blueprint.ofText_compact (b : Blueprint) :
    Blueprint.codec.ofText (Blueprint.codec.compact b) = pure b :=
  Codec.ofText_compact b.reads

/-! ### Messages -/

theorem Acknowledgement.reads (ack : Acknowledgement) :
    Acknowledgement.schema.codec.Reads (levels + 1) ack ack :=
  Schema.reads (by decide) <| .field (reads_text _) .nil

theorem GenerateOptions.reads (options : GenerateOptions) :
    GenerateOptions.schema.codec.Reads (levels + 1) options options :=
  Schema.reads (by decide) <| .field (reads_bool _) <| .field (reads_bool _) .nil

theorem GenerationResult.reads (result : GenerationResult) :
    GenerationResult.schema.codec.Reads (levels + 2) result result :=
  Schema.reads (by decide) <|
    .field (reads_text _) <| .field (reads_word _) <|
    .field (reads_list fun file _ => reads_text file) .nil

theorem Summary.reads {summary : Summary} (h : summary.updatedAt = none) :
    Summary.schema.codec.Reads (levels + 1) summary summary := by
  have htime : (option Instant.codec).Reads levels summary.updatedAt none := by
    rw [h]
    exact reads_option (by simp)
  obtain ⟨name, version, description, execution, updatedAt⟩ := summary
  subst h
  exact Schema.reads (by decide) <|
    .field (reads_text _) <| .field (reads_text _) <| .field (reads_text _) <|
    .field (reads_word _) <| .field htime .nil

namespace GenerateRequest

theorem decodeMembers_blueprint (depth : Nat) (closed : Bool) (value : Json)
    (others members : List (Option String × Json)) :
    decodeMembers depth closed none others ((some "specification", value) :: members) =
      (do
        let b ← Blueprint.codec.decode depth value
        decodeMembers depth closed (some b) others members) := by
  rw [decodeMembers, if_pos rfl]

theorem decodeMembers_other {depth : Nat} {closed : Bool} {b? : Option Blueprint} {key : String}
    {value : Json} {others members : List (Option String × Json)} (hkey : key ≠ "specification")
    (hkeep : value.isKeepable depth = true) :
    decodeMembers depth closed b? others ((some key, value) :: members) =
      decodeMembers depth closed b? ((some key, value) :: others) members := by
  simp only [decodeMembers, hkey, if_false, hkeep, if_true]

/-- The options are kept until the object ends, and then read as a record of their own. -/
theorem decodeMembers_end (depth : Nat) (b : Blueprint) (options : GenerateOptions) :
    decodeMembers depth true (some b)
        (Schema.written GenerateOptions.schema.fields options).reverse [] =
      pure ⟨b, options⟩ := by
  have hoptions : GenerateOptions.schema.decodeMembers depth true []
      GenerateOptions.schema.blank (Schema.written GenerateOptions.schema.fields options) =
      pure options := rfl
  simp only [decodeMembers, if_true, List.reverse_reverse, hoptions, pure_bind]

theorem reads (request : GenerateRequest) :
    GenerateRequest.codec.Reads (levels + 6) request request := by
  constructor
  · apply Json.writable_ofMembers
    intro member hmember
    rcases List.mem_cons.mp hmember with rfl | hoption
    · exact (@Blueprint.reads levels request.blueprint).writable
    · obtain ⟨field, hfield, rfl⟩ := List.mem_map.mp hoption
      simp only [GenerateOptions.schema, List.mem_cons, List.not_mem_nil, or_false] at hfield
      rcases hfield with rfl | rfl <;> trivial
  · intro depth hdepth
    obtain ⟨depth, rfl⟩ : ∃ n, depth = n + 1 := ⟨depth - 1, by omega⟩
    have hblueprint := request.blueprint.reads.decode (show levels + 5 ≤ depth by omega)
    change decodeMembers depth true none []
      [(some "specification", Blueprint.codec.encode request.blueprint),
        (some "include_examples", .bool request.options.examples),
        (some "include_documentation", .bool request.options.documentation)] = pure request
    rw [decodeMembers_blueprint, hblueprint, pure_bind,
      decodeMembers_other (by decide) rfl, decodeMembers_other (by decide) rfl]
    exact decodeMembers_end depth request.blueprint request.options

end GenerateRequest

namespace FailureReport

theorem writable_encode_violation (violation : Violation) : violation.encode.Writable := by
  apply Json.writable_ofMembers
  intro member hmember
  simp only [List.mem_cons, List.not_mem_nil, or_false] at hmember
  rcases hmember with rfl | rfl | rfl <;> trivial

/-- The member that is written for the findings is none of the fields that are read. -/
theorem written_violations (report : FailureReport) :
    ∀ member ∈ (if report.violations.isEmpty then []
        else [("violations", Json.ofList (report.violations.map Violation.encode))]),
      member.1 ∉ schema.fields.map Field.name ∧ member.2.Writable := by
  intro member hmember
  split at hmember
  · cases hmember
  · rw [List.mem_singleton] at hmember
    subst hmember
    have hname : "violations" ∉ schema.fields.map Field.name := by decide
    refine ⟨hname, Json.writable_ofList ?_⟩
    intro item hitem
    obtain ⟨violation, -, rfl⟩ := List.mem_map.mp hitem
    exact writable_encode_violation violation

/-- The findings of a report are written, but not read. -/
theorem reads (report : FailureReport) :
    FailureReport.codec.Reads (levels + 1) report { report with violations := [] } := by
  have hfields :
      Rebuilds levels report schema.fields schema.blank { report with violations := [] } :=
    .field (reads_text _) <| .field (reads_text _) .nil
  constructor
  · apply Json.writable_ofMembers
    intro member hmember
    rcases List.mem_append.mp hmember with hfield | hmore
    · obtain ⟨field, hin, rfl⟩ := List.mem_map.mp hfield
      exact hfields.writable field hin
    · exact (written_violations report member hmore).2
  · intro depth hdepth
    obtain ⟨depth, rfl⟩ : ∃ n, depth = n + 1 := ⟨depth - 1, by omega⟩
    change schema.decode (depth + 1) (FailureReport.encode report) = _
    rw [FailureReport.encode, Schema.ofMembers_written]
    exact Schema.decodeMembers_all (by decide) (Nat.le_of_succ_le_succ hdepth) hfields
      (written_violations report)

/-- A report that was read has no findings. -/
theorem violations_of_read (text : String) :
    (FailureReport.codec.ofText text).Ensures (fun report => report.violations = []) := by
  have hfields : ∀ field ∈ schema.fields,
      Schema.Keeps (fun report : FailureReport => report.violations = []) field := by
    intro field hfield
    simp only [schema, List.mem_cons, List.not_mem_nil, or_false] at hfield
    rcases hfield with rfl | rfl
    · exact Schema.keeps_field (fun _ _ h => h) (fun _ h => by cases h)
    · exact Schema.keeps_field (fun _ _ h => h) (fun _ h => by cases h)
  have hblank : schema.blank.violations = [] := rfl
  exact ofText_ensures (Schema.decode_ensures hblank hfields) text

/-- The report as it arrives. -/
def withoutViolations (report : FailureReport) : FailureReport := { report with violations := [] }

theorem losslessUpTo : FailureReport.codec.LosslessUpTo withoutViolations := by
  constructor
  · intro report
    exact (FailureReport.reads report).readsBack
  · intro text supply report next hread
    have hnone : report.violations = [] := violations_of_read text supply report next hread
    have hsame : withoutViolations report = report := by
      rw [withoutViolations, ← hnone]
    have hback := (FailureReport.reads report).readsBack
    rwa [← withoutViolations, hsame] at hback

end FailureReport

/-! ### The wire format -/

/-- **Decoding undoes encoding for everything that is sent or stored**, except for the times of a
listing, which are not looked at here, and the findings of a failure report. -/
theorem lossless_wire :
    (Blueprint.codec.Lossless ∧ GrammarRule.schema.codec.Lossless ∧
      Keyword.schema.codec.Lossless ∧ Operator.schema.codec.Lossless ∧
      SyntaxRule.schema.codec.Lossless ∧ SemanticAction.schema.codec.Lossless ∧
      Parameter.schema.codec.Lossless ∧ Builtin.schema.codec.Lossless ∧
      CommentMarkers.schema.codec.Lossless ∧ NodeId.codec.Lossless ∧ TypeSet.codec.Lossless ∧
      precedenceCodec.Lossless ∧
      ∀ (α : Type) [Vocabulary α],
        (word : Codec α).Lossless ∧ (optionalWord : Codec (Option α)).Lossless) ∧
    (Acknowledgement.schema.codec.Lossless ∧ GenerateOptions.schema.codec.Lossless ∧
      GenerateRequest.codec.Lossless ∧ GenerationResult.schema.codec.Lossless) ∧
    (∀ summary : Summary, Summary.schema.codec.ReadsBack
      { summary with updatedAt := none } { summary with updatedAt := none }) ∧
    FailureReport.codec.LosslessUpTo FailureReport.withoutViolations := by
  refine ⟨⟨?_, ?_, ?_, ?_, ?_, ?_, ?_, ?_, ?_, ?_, ?_, ?_, ?_⟩, ⟨?_, ?_, ?_, ?_⟩, ?_, ?_⟩
  · exact lossless_of_reads Blueprint.reads
  · exact lossless_of_reads GrammarRule.reads
  · exact lossless_of_reads Keyword.reads
  · exact lossless_of_reads Operator.reads
  · exact lossless_of_reads SyntaxRule.reads
  · exact lossless_of_reads SemanticAction.reads
  · exact lossless_of_reads Parameter.reads
  · exact lossless_of_reads Builtin.reads
  · exact lossless_of_reads CommentMarkers.reads
  · exact lossless_of_reads NodeId.reads
  · exact lossless_of_reads TypeSet.reads
  · exact lossless_of_reads reads_precedence
  · intro α _
    exact ⟨lossless_of_reads reads_word, lossless_of_reads reads_optionalWord⟩
  · exact lossless_of_reads Acknowledgement.reads
  · exact lossless_of_reads GenerateOptions.reads
  · exact lossless_of_reads GenerateRequest.reads
  · exact lossless_of_reads GenerationResult.reads
  · intro summary
    have hnone : ({ summary with updatedAt := none } : Summary).updatedAt = none := rfl
    exact (Summary.reads hnone).readsBack
  · exact FailureReport.losslessUpTo

end LanguageBlueprint
