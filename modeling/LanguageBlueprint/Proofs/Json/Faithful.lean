/-
  LanguageBlueprint/Proofs/Json/Faithful.lean
  ===========================================
  **Reading what was encoded.**  `codec.Reads levels a b` says that the value `a`
  can be written and that its encoding is read as `b`, wherever `levels` more
  lists and objects may be nested; no fresh number is drawn.  A codec for which
  `b` is always `a` loses nothing.

  Each way of building a codec keeps this, and for records it is enough that the
  fields, read one after the other from what is written of the record, rebuild
  it from the blank one (`Rebuilds`).

    * the elementary codecs             — `reads_text`, `reads_int64`, `reads_word`, …;
    * lists, options, views             — `reads_list`, `reads_option`, `reads_map`;
    * records                           — `Schema.reads`;
    * the two texts of a value          — `ofText_compact`, `ofText_pretty`.
-/
import LanguageBlueprint.Json.Codec
import LanguageBlueprint.Proofs.Json.Layout

namespace LanguageBlueprint

open Json

namespace Codec

variable {α β : Type} {levels : Nat}

/-- The value `a` can be written, and its encoding is read as `b`. -/
structure Reads (codec : Codec α) (levels : Nat) (a b : α) : Prop where
  writable : (codec.encode a).Writable
  decode : ∀ {depth}, levels ≤ depth → codec.decode depth (codec.encode a) = pure b

/-! ### Elementary codecs -/

theorem reads_text (s : String) : text.Reads levels s s :=
  ⟨trivial, fun _ => rfl⟩

theorem reads_bool (b : Bool) : bool.Reads levels b b :=
  ⟨trivial, fun _ => rfl⟩

theorem value?_ofInt64 (n : Int64) : (Numeral.ofInt n.toInt).value? = some (.integer n.toInt) := by
  have hroom : (2 ^ 63 : Int) ≤ UInt64.size := by decide
  exact Numeral.value?_ofInt (Int64.le_toInt n) (Int.lt_of_lt_of_le (Int64.toInt_lt n) hroom)

theorem fitsInt64_toInt (n : Int64) : Number.fitsInt64 n.toInt = true := by
  have hlow : Int64.minValue.toInt ≤ n.toInt := Int64.le_toInt n
  have hhigh : n.toInt ≤ Int64.maxValue.toInt := by
    have := Int64.toInt_lt n
    rw [Int64.toInt_maxValue]
    omega
  simp only [Number.fitsInt64, hlow, hhigh, decide_true, Bool.and_self]

theorem reads_int64 (n : Int64) : int64.Reads levels n n := by
  refine ⟨writable_ofInt n.toInt, fun _ => ?_⟩
  simp only [int64, Json.ofInt, value?_ofInt64, fitsInt64_toInt, if_true, Int64.ofInt_toInt]

theorem reads_word [Vocabulary α] (a : α) : word.Reads levels a a := by
  refine ⟨trivial, fun _ => ?_⟩
  simp only [word, text, pure_bind, Vocabulary.ofText_word]

theorem reads_optionalWord [Vocabulary α] (a? : Option α) : optionalWord.Reads levels a? a? := by
  have htext : ∀ a : α, (Json.text (Vocabulary.word a)).Writable := fun _ => trivial
  refine ⟨writable_ofOption htext a?, fun _ => ?_⟩
  cases a? with
  | none => rfl
  | some a =>
      simp only [optionalWord, Json.ofOption, option, text, map_pure, pure_bind,
        Vocabulary.ofOptionalText_word]

/-! ### Ways of building codecs -/

theorem reads_map {codec : Codec α} {view : β → α} {make : α → β} {b : β}
    (h : codec.Reads levels (view b) (view b)) (hmake : make (view b) = b) :
    (codec.map view make).Reads levels b b := by
  refine ⟨h.writable, fun hdepth => ?_⟩
  simp only [map, h.decode hdepth, map_pure, hmake]

/-- An option is found again, unless a value of the codec is written like nothing. -/
theorem reads_option {codec : Codec α} {a? : Option α}
    (h : ∀ a ∈ a?, codec.Reads levels a a ∧ codec.encode a ≠ .null) :
    (option codec).Reads levels a? a? := by
  cases a? with
  | none => exact ⟨trivial, fun _ => rfl⟩
  | some a =>
      obtain ⟨hreads, hnull⟩ := h a rfl
      refine ⟨hreads.writable, fun hdepth => ?_⟩
      simp only [option, Json.ofOption, hreads.decode hdepth, map_pure]

theorem reads_optionalText (s? : Option String) : (option text).Reads levels s? s? :=
  reads_option (fun s _ => ⟨reads_text s, by simp [text]⟩)

theorem decodeItems_encode {codec : Codec α} {depth : Nat} (hdepth : levels ≤ depth) :
    ∀ {as : List α}, (∀ a ∈ as, codec.Reads levels a a) →
      decodeItems codec depth (as.map codec.encode) = pure as
  | [], _ => rfl
  | a :: as, h => by
      have hfirst := (h a (by simp)).decode hdepth
      have hothers := decodeItems_encode hdepth (fun b hb => h b (List.mem_cons_of_mem a hb))
      simp only [List.map_cons, decodeItems, hfirst, hothers, pure_bind]

theorem reads_list {codec : Codec α} {as : List α}
    (h : ∀ a ∈ as, codec.Reads levels a a) : (list codec).Reads (levels + 1) as as := by
  constructor
  · apply writable_ofList
    intro item hitem
    obtain ⟨a, ha, rfl⟩ := List.mem_map.mp hitem
    exact (h a ha).writable
  · intro depth hdepth
    obtain ⟨depth, rfl⟩ : ∃ n, depth = n + 1 := ⟨depth - 1, by omega⟩
    have hitems : decodeItems codec depth (as.map codec.encode) = pure as :=
      decodeItems_encode (by omega) h
    simp only [list, Json.ofList, hitems, pure_bind, if_true]

end Codec

/-! ### Records -/

theorem find?_key {α κ : Type} [BEq κ] [LawfulBEq κ] {key : α → κ} {items : List α}
    (hkeys : (items.map key).Nodup) {item : α} (hitem : item ∈ items) :
    items.find? (fun other => key other == key item) = some item := by
  induction items with
  | nil => cases hitem
  | cons first others ih =>
      simp only [List.map_cons, List.nodup_cons] at hkeys
      rcases List.mem_cons.mp hitem with rfl | hmem
      · simp
      · have hne : key first ≠ key item := by
          intro heq
          exact hkeys.1 (heq ▸ List.mem_map_of_mem hmem)
        simp [hne, ih hkeys.2 hmem]

/-- The fields, read one after the other from what is written of `r`, turn `s` into `t`. -/
inductive Rebuilds {ρ : Type} (levels : Nat) (r : ρ) : List (Field ρ) → ρ → ρ → Prop where
  | nil {s : ρ} : Rebuilds levels r [] s s
  | cons {field : Field ρ} {fields : List (Field ρ)} {change : ρ → ρ} {s t : ρ}
      (hwrite : (field.write r).Writable)
      (hread : ∀ {depth}, levels ≤ depth → field.read depth (field.write r) = pure change)
      (hfields : Rebuilds levels r fields (change s) t) :
      Rebuilds levels r (field :: fields) s t

namespace Rebuilds

variable {ρ α : Type} {levels : Nat} {r s t : ρ} {fields : List (Field ρ)}

theorem field {codec : Codec α} {name : String} {get : ρ → α} {put : α → ρ → ρ}
    {absence : Absence ρ} {a : α} (h : codec.Reads levels (get r) a)
    (hfields : Rebuilds levels r fields (put a s) t) :
    Rebuilds levels r (Field.of name codec get put absence :: fields) s t := by
  refine .cons h.writable ?_ hfields
  intro depth hdepth
  simp only [Field.of, h.decode hdepth, map_pure]

theorem writable (h : Rebuilds levels r fields s t) :
    ∀ field ∈ fields, (field.write r).Writable := by
  induction h with
  | nil => simp
  | cons hwrite hread hfields ih => simpa using ⟨hwrite, ih⟩

end Rebuilds

namespace Schema

variable {ρ : Type} {schema : Schema ρ}

/-- The members that are written for fields. -/
def written (fields : List (Field ρ)) (r : ρ) : List (Option String × Json) :=
  fields.map (fun field => (some field.name, field.write r))

def NamesDistinct (schema : Schema ρ) : Prop := (schema.fields.map Field.name).Nodup

instance : Decidable schema.NamesDistinct :=
  inferInstanceAs (Decidable (schema.fields.map Field.name).Nodup)

/-- Fields that were read before need no completion. -/
theorem complete_append {seen : List String} {before fields : List (Field ρ)}
    (h : ∀ field ∈ before, field.name ∈ seen) (r : ρ) :
    complete seen (before ++ fields) r = complete seen fields r := by
  induction before with
  | nil => rfl
  | cons field before ih =>
      have hseen : seen.contains field.name = true := by simpa using h field (by simp)
      simp only [List.cons_append, complete, hseen, if_true]
      exact ih (fun other hother => h other (by simp [hother]))

theorem complete_of_seen {seen : List String} {fields : List (Field ρ)} (r : ρ)
    (h : ∀ field ∈ fields, field.name ∈ seen) : complete seen fields r = pure r := by
  have hnone := @complete_append ρ seen fields [] h r
  rwa [List.append_nil] at hnone

/-- Reading the members written for fields, none of them seen before, rebuilds the record. -/
theorem decodeMembers_written (hnames : schema.NamesDistinct) {levels depth : Nat}
    (hdepth : levels ≤ depth) {closed : Bool} {r s t : ρ} {fields : List (Field ρ)}
    (h : Rebuilds levels r fields s t) :
    ∀ {seen : List String}, (∀ field ∈ fields, field ∈ schema.fields ∧ field.name ∉ seen) →
      (fields.map Field.name).Nodup → ∀ more,
      schema.decodeMembers depth closed seen s (written fields r ++ more) =
        schema.decodeMembers depth closed ((fields.map Field.name).reverse ++ seen) t more := by
  induction h with
  | nil =>
      intro seen _ _ more
      rfl
  | @cons field fields change s t hwrite hread hfields ih =>
      intro seen hmem hnodup more
      -- the field was not seen before, and none of those that follow it has its name
      obtain ⟨hfield, hseen⟩ := hmem field (by simp)
      simp only [List.map_cons, List.nodup_cons] at hnodup
      have hothers : ∀ other ∈ fields, other ∈ schema.fields ∧
          other.name ∉ field.name :: seen := by
        intro other hother
        obtain ⟨hin, hnot⟩ := hmem other (by simp [hother])
        refine ⟨hin, fun hname => ?_⟩
        rcases List.mem_cons.mp hname with heq | hold
        · exact hnodup.1 (heq ▸ List.mem_map_of_mem hother)
        · exact hnot hold
      have hcontains : seen.contains field.name = false := by simpa using hseen
      simp only [written, List.map_cons, List.cons_append, decodeMembers,
        find?_key hnames hfield, hcontains, Bool.false_eq_true, if_false, hread hdepth, pure_bind]
      have hrest := ih hothers hnodup.2 more
      simp only [written] at hrest
      simp only [hrest, List.reverse_cons, List.append_assoc, List.cons_append, List.nil_append]

/-- A member that is no field is skipped, if it is read to its end. -/
theorem decodeMembers_skip {depth : Nat} {closed : Bool} {key : String} {value : Json}
    (hkey : key ∉ schema.fields.map Field.name) (hvalue : value.isComplete = true)
    (seen : List String) (r : ρ) (members : List (Option String × Json)) :
    schema.decodeMembers depth closed seen r ((some key, value) :: members) =
      schema.decodeMembers depth closed seen r members := by
  have hnone : schema.fields.find? (fun field => field.name == key) = none := by
    rw [List.find?_eq_none]
    intro field hfield heq
    exact hkey (eq_of_beq heq ▸ List.mem_map_of_mem hfield)
  simp only [decodeMembers, hnone, hvalue, if_true]

theorem decodeMembers_unknown {depth : Nat} {closed : Bool} {seen : List String} {r : ρ}
    {more : List (String × Json)}
    (h : ∀ member ∈ more, member.1 ∉ schema.fields.map Field.name ∧ member.2.Writable) :
    schema.decodeMembers depth closed seen r (more.map (fun (key, value) => (some key, value))) =
      schema.decodeMembers depth closed seen r [] := by
  induction more with
  | nil => rfl
  | cons member more ih =>
      obtain ⟨hkey, hvalue⟩ := h member (by simp)
      rw [List.map_cons, decodeMembers_skip hkey (isComplete_of_writable hvalue)]
      exact ih (fun other hother => h other (by simp [hother]))

/-- The members written for all fields, and any others behind them, rebuild the record. -/
theorem decodeMembers_all (hnames : schema.NamesDistinct) {levels depth : Nat}
    (hdepth : levels ≤ depth) {r t : ρ} (h : Rebuilds levels r schema.fields schema.blank t)
    {more : List (String × Json)}
    (hmore : ∀ member ∈ more, member.1 ∉ schema.fields.map Field.name ∧ member.2.Writable) :
    schema.decodeMembers depth true [] schema.blank
        (written schema.fields r ++ more.map (fun (key, value) => (some key, value))) =
      pure t := by
  have hfresh : ∀ field ∈ schema.fields, field ∈ schema.fields ∧ field.name ∉ ([] : List String) :=
    fun field hfield => ⟨hfield, by simp⟩
  rw [decodeMembers_written hnames hdepth h hfresh hnames, decodeMembers_unknown hmore]
  simp only [decodeMembers, if_true]
  apply complete_of_seen
  intro field hfield
  simpa using ⟨field, hfield, rfl⟩

theorem ofMembers_written (fields : List (Field ρ)) (r : ρ) (more : List (String × Json)) :
    Json.ofMembers (fields.map (fun field => (field.name, field.write r)) ++ more) =
      .object (written fields r ++ more.map (fun (key, value) => (some key, value))) true := by
  simp only [Json.ofMembers, written, List.map_append, List.map_map]
  rfl

theorem encode_eq_written (schema : Schema ρ) (r : ρ) :
    schema.encode r = .object (written schema.fields r) true := by
  simpa [encode] using ofMembers_written schema.fields r []

/-- **A record whose fields rebuild it is found again.** -/
theorem reads (hnames : schema.NamesDistinct) {levels : Nat} {r t : ρ}
    (h : Rebuilds levels r schema.fields schema.blank t) :
    schema.codec.Reads (levels + 1) r t := by
  constructor
  · apply writable_ofMembers
    intro member hmember
    obtain ⟨field, hfield, rfl⟩ := List.mem_map.mp hmember
    exact h.writable field hfield
  · intro depth hdepth
    obtain ⟨depth, rfl⟩ : ∃ n, depth = n + 1 := ⟨depth - 1, by omega⟩
    have hnone : ∀ member ∈ ([] : List (String × Json)),
        member.1 ∉ schema.fields.map Field.name ∧ member.2.Writable := by simp
    have hdepth' : levels ≤ depth := by omega
    simpa [codec, decode, encode_eq_written] using decodeMembers_all hnames hdepth' h hnone

end Schema

/-! ### Whole texts -/

namespace Codec

variable {α : Type} {codec : Codec α} {a b : α}

/-- A text of a value is read as the value is. -/
theorem ofText_of_isTextOf (codec : Codec α) {text : String} {json : Json}
    (h : IsTextOf text json) : codec.ofText text = codec.ofJson json := by
  obtain ⟨gap, hgap, hread⟩ := read_of_isTextOf h
  have hskip : skipSpace gap = [] := by
    rw [← List.append_nil gap, skipSpace_gap hgap]
    rfl
  simp [ofText, hread, isAllSpace, hskip]

theorem ofText_of_read (h : codec.Reads maxDepth a b) {text : String}
    (htext : Json.read text = (codec.encode a, some [])) : codec.ofText text = pure b := by
  have hend : isAllSpace [] = true := rfl
  simp only [ofText, htext, ofJson, h.decode (Nat.le_refl _), pure_bind, Option.map_some,
    Option.getD_some, hend, if_true]

theorem ofText_compact (h : codec.Reads maxDepth a b) :
    codec.ofText (codec.compact a) = pure b :=
  ofText_of_read h (read_compact h.writable)

theorem ofText_pretty (h : codec.Reads maxDepth a b) :
    codec.ofText (codec.encode a).pretty = pure b :=
  ofText_of_read h (read_pretty h.writable)

/-- The compact text and the pretty text of `a` are both read as `b`, whatever the supply of fresh
numbers, of which none is drawn. -/
def ReadsBack (codec : Codec α) (a b : α) : Prop :=
  ∀ supply, (codec.ofText (codec.compact a)).run supply = .ok (b, supply) ∧
    (codec.ofText (codec.encode a).pretty).run supply = .ok (b, supply)

/-- Every value is found again in its two texts but for what `cut` takes away, and every value that
some text was read as is found again in full. -/
structure LosslessUpTo (codec : Codec α) (cut : α → α) : Prop where
  readsBack : ∀ a, codec.ReadsBack a (cut a)
  stable : ∀ {text supply a next}, (codec.ofText text).run supply = .ok (a, next) →
    codec.ReadsBack a a

abbrev Lossless (codec : Codec α) : Prop := codec.LosslessUpTo id

theorem Reads.readsBack (h : codec.Reads maxDepth a b) :
    codec.ReadsBack a b := by
  intro supply
  rw [ofText_compact h, ofText_pretty h]
  exact ⟨rfl, rfl⟩

theorem lossless_of_reads (h : ∀ a, codec.Reads maxDepth a a) : codec.Lossless :=
  ⟨fun a => (h a).readsBack, fun {_ _ a _} _ => (h a).readsBack⟩

end Codec

end LanguageBlueprint
