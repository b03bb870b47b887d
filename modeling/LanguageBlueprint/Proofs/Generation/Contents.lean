/-
  LanguageBlueprint/Proofs/Generation/Contents.lean
  =================================================
  **What the generated files hold.**  A blueprint is found again in its scaffold:
  in full in the last file, and part by part in the manifest, the lexicon and the
  semantics, whose keys are sorted at every level.  The lexicon lists the
  operators by their precedence: the tighter ones first, those without a
  precedence last, and those of one precedence as they were declared.

    * members of a sorted object   — `Json.Shows`, `shows_sortKeys`;
    * operators by precedence      — `TighterFirst`, `operatorsByPrecedence_tighterFirst`;
    * files and their texts        — `textAt_of_mem`, `jsonAt_of_mem`;
    * the contents of a scaffold   — `Retains`, `generate_retains`.
-/
import LanguageBlueprint.Proofs.Blueprint.Rearranging
import LanguageBlueprint.Proofs.Exchange.RoundTrip
import LanguageBlueprint.Proofs.Generation.Packing
import LanguageBlueprint.Proofs.Json.Sorting

namespace LanguageBlueprint

open Codec

/-! ### Parts of a blueprint -/

@[simp] theorem sortable_precedence : precedenceCodec.Sortable := by
  refine sortable_of_eq (fun n? => ?_)
  cases n? <;> rfl

@[simp] theorem TypeSet.sortable_codec : TypeSet.codec.Sortable :=
  sortable_map (sortable_list sortable_word) TypeSet.toList TypeSet.ofList

@[simp] theorem Parameter.sortable_codec : Parameter.schema.codec.Sortable :=
  Schema.sortable_codec quiet.orderly (by simp [schema])

@[simp] theorem CommentMarkers.sortable_codec : CommentMarkers.schema.codec.Sortable :=
  Schema.sortable_codec quiet.orderly (by simp [schema])

@[simp] theorem Keyword.sortable_codec : Keyword.schema.codec.Sortable :=
  Schema.sortable_codec quiet.orderly (by simp [schema])

@[simp] theorem Operator.sortable_codec : Operator.schema.codec.Sortable :=
  Schema.sortable_codec quiet.orderly (by simp [schema])

@[simp] theorem SyntaxRule.sortable_codec : SyntaxRule.schema.codec.Sortable :=
  Schema.sortable_codec quiet.orderly (by simp [schema])

@[simp] theorem SemanticAction.sortable_codec : SemanticAction.schema.codec.Sortable :=
  Schema.sortable_codec quiet.orderly (by simp [schema])

@[simp] theorem Builtin.sortable_codec : Builtin.schema.codec.Sortable :=
  Schema.sortable_codec quiet.orderly (by simp [schema])

/-! ### Members of a sorted object -/

/-- The member with the key is there and is decoded as the value; no fresh number is drawn. -/
def Json.Shows {α : Type} (json : Json) (key : String) (codec : Codec α) (a : α) : Prop :=
  ∃ value, json.member? key = some value ∧
    ∀ supply, (codec.ofJson value).run supply = .ok (a, supply)

/-- What was encoded into a member is shown, although the keys were sorted. -/
theorem shows_sortKeys {α : Type} {members : List (String × Json)}
    (hkeys : (members.map Prod.fst).Nodup) {codec : Codec α} {key : String} {a : α}
    (hmember : (key, codec.encode a) ∈ members) (hreads : codec.Reads maxDepth a a)
    (hsortable : codec.Sortable) : (Json.ofMembers members).sortKeys.Shows key codec a :=
  ⟨(codec.encode a).sortKeys, Json.member?_sortKeys_ofMembers hkeys hmember,
    hreads.run_sortKeys hsortable⟩

/-! ### Operators by precedence -/

/-- The operators in another order: one with a precedence stands before all with a smaller one or
none, and those of one precedence stand as they did. -/
structure TighterFirst (operators sorted : List Operator) : Prop where
  perm : sorted.Perm operators
  tighter : sorted.Pairwise fun first second => ∀ q, second.precedence = some q →
    ∃ p, first.precedence = some p ∧ q.toInt ≤ p.toInt
  stable : ∀ precedence, sorted.filter (fun operator => operator.precedence = precedence) =
    operators.filter (fun operator => operator.precedence = precedence)

/-- Sorting leaves items of which each may stand before each as they stood. -/
theorem filter_mergeSort {α : Type} {le : α → α → Bool} {p : α → Bool}
    (htrans : ∀ a b c, le a b = true → le b c = true → le a c = true)
    (htotal : ∀ a b, (le a b || le b a) = true)
    (hlevel : ∀ a b, p a = true → p b = true → le a b = true) (items : List α) :
    (items.mergeSort le).filter p = items.filter p := by
  have hordered : (items.filter p).Pairwise (fun a b => le a b = true) :=
    List.pairwise_of_forall_mem_list (fun a ha b hb =>
      hlevel a b (List.mem_filter.mp ha).2 (List.mem_filter.mp hb).2)
  have hkept : (items.filter p).Sublist (items.mergeSort le) :=
    List.sublist_mergeSort htrans htotal hordered List.filter_sublist
  have hfiltered : (items.filter p).Sublist ((items.mergeSort le).filter p) := by
    simpa only [List.filter_filter, Bool.and_self] using hkept.filter p
  have hlength : (items.filter p).length = ((items.mergeSort le).filter p).length :=
    ((List.mergeSort_perm items le).filter p).length_eq.symm
  exact (hfiltered.eq_of_length hlength).symm

namespace Scaffold

theorem bindsAtLeast_iff {first second : Option Int64} : bindsAtLeast first second = true ↔
    ∀ q, second = some q → ∃ p, first = some p ∧ q.toInt ≤ p.toInt := by
  cases second with
  | none => simp [bindsAtLeast]
  | some q => cases first <;> simp [bindsAtLeast]

theorem bindsAtLeast_refl (precedence : Option Int64) : bindsAtLeast precedence precedence = true :=
  bindsAtLeast_iff.mpr (fun q hq => ⟨q, hq, Int.le_refl _⟩)

theorem bindsAtLeast_trans {first second third : Option Int64}
    (h : bindsAtLeast first second = true) (h' : bindsAtLeast second third = true) :
    bindsAtLeast first third = true := by
  rw [bindsAtLeast_iff] at h h' ⊢
  intro r hr
  obtain ⟨q, hq, hrq⟩ := h' r hr
  obtain ⟨p, hp, hqp⟩ := h q hq
  exact ⟨p, hp, Int.le_trans hrq hqp⟩

theorem bindsAtLeast_total (first second : Option Int64) :
    (bindsAtLeast first second || bindsAtLeast second first) = true := by
  cases first with
  | none => cases second <;> rfl
  | some p =>
      cases second with
      | none => rfl
      | some q => simpa [bindsAtLeast] using Int.le_total q.toInt p.toInt

theorem operatorsByPrecedence_tighterFirst (b : Blueprint) :
    TighterFirst b.operators (operatorsByPrecedence b) := by
  have htrans : ∀ first second third : Operator,
      bindsAtLeast first.precedence second.precedence = true →
      bindsAtLeast second.precedence third.precedence = true →
      bindsAtLeast first.precedence third.precedence = true :=
    fun _ _ _ => bindsAtLeast_trans
  have htotal : ∀ first second : Operator,
      (bindsAtLeast first.precedence second.precedence ||
        bindsAtLeast second.precedence first.precedence) = true :=
    fun first second => bindsAtLeast_total first.precedence second.precedence
  constructor
  · exact List.mergeSort_perm _ _
  · exact (List.pairwise_mergeSort htrans htotal b.operators).imp bindsAtLeast_iff.mp
  · intro precedence
    refine filter_mergeSort htrans htotal (fun first second hfirst hsecond => ?_) b.operators
    rw [of_decide_eq_true hfirst, of_decide_eq_true hsecond]
    exact bindsAtLeast_refl precedence

end Scaffold

/-! ### Files and their texts -/

/-- The text of the file at the path. -/
def textAt (path : String) (artifacts : List Artifact) : Option String :=
  (artifacts.find? (fun artifact => artifact.path == path)).bind
    (fun artifact => String.fromUTF8? artifact.contents)

/-- The value of which the file at the path is a text. -/
def jsonAt (path : String) (artifacts : List Artifact) : Option Json := do
  let text ← textAt path artifacts
  let (json, rest) := Json.read text
  if (rest.map Json.isAllSpace).getD false then some json else none

section Files

variable {artifacts : List Artifact} {path : String}

theorem textAt_of_mem (hpaths : (artifacts.map Artifact.path).Nodup) {text : String}
    (hin : .ofText path text ∈ artifacts) : textAt path artifacts = some text := by
  have hfound : artifacts.find? (fun artifact => artifact.path == path) =
      some (.ofText path text) := find?_key hpaths hin
  have hvalid : text.toUTF8.IsValidUTF8 := text.isValidUTF8
  rw [textAt, hfound, Option.bind_some, Artifact.ofText, String.fromUTF8?, dif_pos hvalid]
  rfl

theorem jsonAt_of_mem (hpaths : (artifacts.map Artifact.path).Nodup) {json : Json}
    (hwritable : json.Writable) (hin : .ofText path json.pretty ∈ artifacts) :
    jsonAt path artifacts = some json := by
  have hend : Json.isAllSpace [] = true := rfl
  simp only [jsonAt, textAt_of_mem hpaths hin, Option.bind_eq_bind, Option.bind_some,
    Json.read_pretty hwritable, Option.map_some, Option.getD_some, hend, if_true]

end Files

/-! ### The contents of a scaffold -/

/-- The semantics: syntax rules, semantic actions and built-in functions, as they were declared. -/
structure ShowsSemantics (b : Blueprint) (json : Json) : Prop where
  syntaxRules : json.Shows "syntax_rules" (.list SyntaxRule.schema.codec) b.syntaxRules
  semanticActions : json.Shows "semantic_actions" (.list SemanticAction.schema.codec)
    b.semanticActions
  builtins : json.Shows "builtin_functions" (.list Builtin.schema.codec) b.builtins

/-- The lexicon: keywords as they were declared, comments, and the operators in their own order. -/
structure ShowsLexicon (b : Blueprint) (json : Json) : Prop where
  keywords : json.Shows "keywords" (.list Keyword.schema.codec) b.keywords
  comments : json.Shows "comments" CommentMarkers.schema.codec b.comments
  operators : ∃ sorted, json.Shows "operators" (.list Operator.schema.codec) sorted ∧
    TighterFirst b.operators sorted

/-- The counts of the manifest, each the number of parts of one kind. -/
structure ShowsCounts (b : Blueprint) (json : Json) : Prop where
  grammarRules : json.member? "grammar_rules" = some (.ofNat b.grammarRules.length)
  syntaxRules : json.member? "syntax_rules" = some (.ofNat b.syntaxRules.length)
  keywords : json.member? "keywords" = some (.ofNat b.keywords.length)
  operators : json.member? "operators" = some (.ofNat b.operators.length)
  semanticActions : json.member? "semantic_actions" = some (.ofNat b.semanticActions.length)
  builtins : json.member? "builtin_functions" = some (.ofNat b.builtins.length)

structure ShowsManifest (b : Blueprint) (json : Json) : Prop where
  name : json.Shows "name" .text b.name
  version : json.Shows "version" .text b.version
  execution : json.Shows "language_type" .word b.execution
  backend : json.Shows "target_language" .optionalWord b.backend
  fileExtension : json.Shows "file_extension" .text b.fileExtension
  types : json.Shows "data_types" TypeSet.codec b.types
  counts : ∃ counts, json.member? "counts" = some counts ∧ ShowsCounts b counts

/-- The blueprint is found again in the files. -/
structure Retains (artifacts : List Artifact) (b : Blueprint) : Prop where
  manifest : ∃ json, jsonAt "manifest.json" artifacts = some json ∧ ShowsManifest b json
  lexicon : ∃ json, jsonAt "lexicon.json" artifacts = some json ∧ ShowsLexicon b json
  semantics : ∃ json, jsonAt "semantics.json" artifacts = some json ∧ ShowsSemantics b json
  blueprint : ∃ text, textAt (Text.slug b.name ++ "_specification.json") artifacts = some text ∧
    ∀ supply, (Blueprint.codec.ofText text).run supply = .ok (b, supply)

namespace Scaffold

theorem semantics_shows (b : Blueprint) :
    (semantics b).Writable ∧ ShowsSemantics b (semantics b) := by
  have hrules : (list SyntaxRule.schema.codec).Reads maxDepth b.syntaxRules b.syntaxRules :=
    reads_list fun rule _ => SyntaxRule.reads rule
  have hactions : (list SemanticAction.schema.codec).Reads maxDepth b.semanticActions
      b.semanticActions := reads_list fun action _ => SemanticAction.reads action
  have hbuiltins : (list Builtin.schema.codec).Reads maxDepth b.builtins b.builtins :=
    reads_list fun builtin _ => Builtin.reads builtin
  constructor
  · apply Json.writable_sortKeys
    apply Json.writable_ofMembers
    simp [hrules.writable, hactions.writable, hbuiltins.writable]
  · constructor
    · exact shows_sortKeys (by simp) (List.mem_of_getElem? (i := 0) rfl) hrules (by simp)
    · exact shows_sortKeys (by simp) (List.mem_of_getElem? (i := 1) rfl) hactions (by simp)
    · exact shows_sortKeys (by simp) (List.mem_of_getElem? (i := 2) rfl) hbuiltins (by simp)

theorem lexicon_shows (b : Blueprint) : (lexicon b).Writable ∧ ShowsLexicon b (lexicon b) := by
  have hkeywords : (list Keyword.schema.codec).Reads maxDepth b.keywords b.keywords :=
    reads_list fun keyword _ => Keyword.reads keyword
  have hoperators : (list Operator.schema.codec).Reads maxDepth (operatorsByPrecedence b)
      (operatorsByPrecedence b) := reads_list fun operator _ => Operator.reads operator
  have hcomments : CommentMarkers.schema.codec.Reads maxDepth b.comments b.comments :=
    CommentMarkers.reads b.comments
  have hcommentsWritable : (CommentMarkers.schema.encode b.comments).Writable := hcomments.writable
  constructor
  · apply Json.writable_sortKeys
    apply Json.writable_ofMembers
    simp [hkeywords.writable, hoperators.writable, hcommentsWritable]
  · constructor
    · exact shows_sortKeys (by simp) (List.mem_of_getElem? (i := 0) rfl) hkeywords (by simp)
    · exact shows_sortKeys (by simp) (List.mem_of_getElem? (i := 2) rfl) hcomments (by simp)
    · exact ⟨operatorsByPrecedence b,
        shows_sortKeys (by simp) (List.mem_of_getElem? (i := 1) rfl) hoperators (by simp),
        operatorsByPrecedence_tighterFirst b⟩

theorem member?_sortKeys_ofNat {members : List (String × Json)}
    (hkeys : (members.map Prod.fst).Nodup) {key : String} {n : Nat}
    (hmember : (key, .ofNat n) ∈ members) :
    (Json.ofMembers members).sortKeys.member? key = some (.ofNat n) :=
  Json.member?_sortKeys_ofMembers hkeys hmember

/-- The counts that stand in the manifest. -/
theorem counts_shows (b : Blueprint) :
    ∃ counts, (manifest b).member? "counts" = some counts ∧ ShowsCounts b counts := by
  refine ⟨_, Json.member?_sortKeys_ofMembers (by simp) (List.mem_of_getElem? (i := 6) rfl), ?_⟩
  constructor
  · exact member?_sortKeys_ofNat (by simp) (List.mem_of_getElem? (i := 0) rfl)
  · exact member?_sortKeys_ofNat (by simp) (List.mem_of_getElem? (i := 1) rfl)
  · exact member?_sortKeys_ofNat (by simp) (List.mem_of_getElem? (i := 2) rfl)
  · exact member?_sortKeys_ofNat (by simp) (List.mem_of_getElem? (i := 3) rfl)
  · exact member?_sortKeys_ofNat (by simp) (List.mem_of_getElem? (i := 4) rfl)
  · exact member?_sortKeys_ofNat (by simp) (List.mem_of_getElem? (i := 5) rfl)

theorem manifest_shows (b : Blueprint) : (manifest b).Writable ∧ ShowsManifest b (manifest b) := by
  have htext : ∀ text : String, (Json.text text).Writable := fun _ => trivial
  have hcount : ∀ n : Nat, (Json.ofNat n).Writable := fun n => Json.writable_ofInt n
  have hbackend : (optionalWord : Codec (Option Backend)).Reads maxDepth b.backend b.backend :=
    reads_optionalWord b.backend
  have htypes : TypeSet.codec.Reads maxDepth b.types b.types := TypeSet.reads b.types
  constructor
  · apply Json.writable_sortKeys
    apply Json.writable_ofMembers
    simp only [List.forall_mem_cons, List.not_mem_nil, false_implies, implies_true, and_true]
    refine ⟨htext _, htext _, htext _, hbackend.writable, htext _, htypes.writable, ?_⟩
    apply Json.writable_ofMembers
    simp [hcount]
  · constructor
    · exact shows_sortKeys (by simp) (List.mem_of_getElem? (i := 0) rfl) (reads_text _) (by simp)
    · exact shows_sortKeys (by simp) (List.mem_of_getElem? (i := 1) rfl) (reads_text _) (by simp)
    · exact shows_sortKeys (by simp) (List.mem_of_getElem? (i := 2) rfl) (reads_word _) (by simp)
    · exact shows_sortKeys (by simp) (List.mem_of_getElem? (i := 3) rfl) hbackend (by simp)
    · exact shows_sortKeys (by simp) (List.mem_of_getElem? (i := 4) rfl) (reads_text _) (by simp)
    · exact shows_sortKeys (by simp) (List.mem_of_getElem? (i := 5) rfl) htypes (by simp)
    · exact counts_shows b

/-- **Nothing of a language is lost in its scaffold.**  Whatever the blueprint and the options are,
a scaffold that was made holds a text that is read as the blueprint, and three more texts that show
its parts. -/
theorem generate_retains {b : Blueprint} {options : GenerateOptions} {artifacts : List Artifact}
    (h : generate b options = .ok artifacts) : Retains artifacts b := by
  have hpaths := (packable_of_generate h).distinct
  obtain ⟨-, rfl⟩ := generate_eq_ok_iff.mp h
  obtain ⟨hmanifest, hshowsManifest⟩ := manifest_shows b
  obtain ⟨hlexicon, hshowsLexicon⟩ := lexicon_shows b
  obtain ⟨hsemantics, hshowsSemantics⟩ := semantics_shows b
  constructor
  · refine ⟨manifest b, jsonAt_of_mem hpaths hmanifest ?_, hshowsManifest⟩
    simp [files, baseArtifacts]
  · refine ⟨lexicon b, jsonAt_of_mem hpaths hlexicon ?_, hshowsLexicon⟩
    simp [files, baseArtifacts]
  · refine ⟨semantics b, jsonAt_of_mem hpaths hsemantics ?_, hshowsSemantics⟩
    simp [files, baseArtifacts]
  · refine ⟨_, textAt_of_mem hpaths ?_, fun supply => (b.reads.readsBack supply).2⟩
    simp [files, blueprintArtifact, blueprintPath]

/-- A language with two operators of one precedence, one that binds tighter and one without a
precedence. -/
def sums : Blueprint where
  name := "Sums"
  operators := [
    { symbol := "+", precedence := some 1 }, { symbol := "=" },
    { symbol := "*", precedence := some 2 }, { symbol := "-", precedence := some 1 }]

theorem generate_retains_sums :
    ∃ artifacts, generate sums {} = .ok artifacts ∧
      (artifacts.map Artifact.path).getLast? = some "sums_specification.json" ∧
      Retains artifacts sums := by
  have hgenerate : generate sums {} = .ok (files sums {}) :=
    generate_eq_ok_iff.mpr ⟨⟨by decide, fun _ => by decide⟩, rfl⟩
  refine ⟨files sums {}, hgenerate, ?_, generate_retains hgenerate⟩
  decide

end Scaffold

end LanguageBlueprint
