/-
  LanguageBlueprint/Proofs/Json/Sorting.lean
  ==========================================
  **Reading what was sorted.**  A value whose keys are put in ascending order can
  still be written, its objects have the members they had, and whoever looks a
  member up finds it.  A codec is `Sortable` when the encoding of a value is read
  the same with its keys sorted at every level; each way of building codecs keeps
  this, and for records it is enough that their members may be read in any order.

    * the members of a sorted object   — `perm_sortKeysInMembers`,
                                          `member?_sortKeys_ofMembers`;
    * sorted values can be written     — `writable_sortKeys`;
    * codecs that may be sorted        — `Codec.Sortable`, `Schema.sortable_codec`,
                                          `Codec.Reads.run_sortKeys`.
-/
import LanguageBlueprint.Proofs.Json.Members
import Mathlib.Data.List.Nodup

namespace LanguageBlueprint

namespace Json

/-! ### The members of a sorted object -/

theorem perm_insertMember {key : Option String} {value : Json}
    {members : List (Option String × Json)} (h : key ∉ members.map Prod.fst) :
    (insertMember key value members).Perm ((key, value) :: members) := by
  induction members with
  | nil => exact List.Perm.refl _
  | cons member members ih =>
      obtain ⟨other, otherValue⟩ := member
      simp only [List.map_cons, List.mem_cons, not_or] at h
      have hother : (key == other) = false := beq_false_of_ne h.1
      simp only [insertMember, hother, Bool.false_eq_true, if_false]
      split
      · exact List.Perm.refl _
      · exact ((ih h.2).cons _).trans (List.Perm.swap _ _ _)

open scoped List in
/-- Sorting leaves the members of an object, with sorted keys inside, in another order. -/
theorem perm_sortKeysInMembers {sorted members : List (Option String × Json)}
    (h : ((sorted ++ members).map Prod.fst).Nodup) :
    (sortKeysInMembers sorted members).Perm
      (sorted ++ members.map (fun member => (member.1, member.2.sortKeys))) := by
  induction members generalizing sorted with
  | nil => simp [sortKeysInMembers]
  | cons member members ih =>
      obtain ⟨key, value⟩ := member
      have hmoved : ((sorted ++ (key, value) :: members).map Prod.fst).Perm
          (key :: (sorted ++ members).map Prod.fst) :=
        List.perm_middle.map Prod.fst
      rw [hmoved.nodup_iff, List.nodup_cons] at h
      have hfresh : key ∉ sorted.map Prod.fst := by
        intro hin
        exact h.1 (List.map_append ▸ List.mem_append_left _ hin)
      have hinserted := @perm_insertMember key value.sortKeys sorted hfresh
      have hkeys : ((insertMember key value.sortKeys sorted ++ members).map Prod.fst).Nodup := by
        have hperm := (hinserted.append_right members).map Prod.fst
        rw [hperm.nodup_iff]
        simpa using h
      calc sortKeysInMembers (insertMember key value.sortKeys sorted) members
        _ ~ insertMember key value.sortKeys sorted ++
              members.map (fun member => (member.1, member.2.sortKeys)) := ih hkeys
        _ ~ (key, value.sortKeys) :: (sorted ++
              members.map (fun member => (member.1, member.2.sortKeys))) :=
            hinserted.append_right _
        _ ~ sorted ++ (key, value.sortKeys) ::
              members.map (fun member => (member.1, member.2.sortKeys)) :=
            List.perm_middle.symm

theorem sortKeysInItems_eq_map (items : List Json) :
    sortKeysInItems items = items.map sortKeys := by
  induction items with
  | nil => rfl
  | cons item items ih => simp only [sortKeysInItems, List.map_cons, ih]

/-- A member of an object with different keys is found, with sorted keys inside, once these are
sorted. -/
theorem member?_sortKeys_ofMembers {members : List (String × Json)}
    (hkeys : (members.map Prod.fst).Nodup) {key : String} {value : Json}
    (hmember : (key, value) ∈ members) :
    (Json.ofMembers members).sortKeys.member? key = some value.sortKeys := by
  let listed := members.map (fun member => (some member.1, member.2))
  have hlisted : (listed.map Prod.fst).Nodup := by
    have hfst : listed.map Prod.fst = (members.map Prod.fst).map some := by
      simp only [listed, List.map_map]
      rfl
    rw [hfst]
    exact hkeys.map (fun _ _ => Option.some.inj)
  have hsorted := @perm_sortKeysInMembers [] listed hlisted
  have hnodup : ((sortKeysInMembers [] listed).map Prod.fst).Nodup := by
    rw [(hsorted.map Prod.fst).nodup_iff]
    simpa [Function.comp_def] using hlisted
  have hin : (some key, value.sortKeys) ∈ sortKeysInMembers [] listed := by
    rw [hsorted.mem_iff, List.nil_append, List.mem_map]
    exact ⟨(some key, value), List.mem_map_of_mem hmember, rfl⟩
  have hfound := find?_key hnodup hin
  simp only [ofMembers, sortKeys, member?]
  exact congrArg (Option.map Prod.snd) hfound

/-! ### Sorted values can be written -/

theorem allMembersWritable_insertMember {key : String} {value : Json} (hvalue : value.Writable)
    {members : List (Option String × Json)} (h : AllMembersWritable members) :
    AllMembersWritable (insertMember (some key) value members) := by
  induction members with
  | nil => exact ⟨⟨key, rfl⟩, hvalue, trivial⟩
  | cons member members ih =>
      obtain ⟨hother, hotherValue, hmembers⟩ := h
      simp only [insertMember]
      split
      · exact ⟨⟨key, rfl⟩, hvalue, hmembers⟩
      · split
        · exact ⟨⟨key, rfl⟩, hvalue, hother, hotherValue, hmembers⟩
        · exact ⟨hother, hotherValue, ih hmembers⟩

mutual

theorem writable_sortKeys : ∀ {json : Json}, json.Writable → json.sortKeys.Writable
  | .null, h => h
  | .bool _, h => h
  | .number _, h => h
  | .text _, h => h
  | .list _ _, h => ⟨allWritable_sortKeysInItems h.1, h.2⟩
  | .object _ _, h => ⟨allMembersWritable_sortKeysInMembers trivial h.1, h.2⟩

theorem allWritable_sortKeysInItems : ∀ {items : List Json}, AllWritable items →
    AllWritable (sortKeysInItems items)
  | [], _ => trivial
  | _ :: _, h => ⟨writable_sortKeys h.1, allWritable_sortKeysInItems h.2⟩

theorem allMembersWritable_sortKeysInMembers : ∀ {sorted members : List (Option String × Json)},
    AllMembersWritable sorted → AllMembersWritable members →
    AllMembersWritable (sortKeysInMembers sorted members)
  | _, [], hsorted, _ => hsorted
  | _, (key, value) :: members, hsorted, h => by
      obtain ⟨⟨key, rfl⟩, hvalue, hmembers⟩ := h
      rw [sortKeysInMembers]
      exact allMembersWritable_sortKeysInMembers
        (allMembersWritable_insertMember (writable_sortKeys hvalue) hsorted) hmembers

end

end Json

/-! ### Codecs that may be sorted -/

open Decode

namespace Codec

variable {α β : Type}

/-- The encoding of a value is read the same with its keys sorted. -/
def Sortable (codec : Codec α) : Prop :=
  ∀ a depth, Alike (codec.decode depth (codec.encode a).sortKeys)
    (codec.decode depth (codec.encode a))

/-- A codec that writes no objects. -/
theorem sortable_of_eq {codec : Codec α} (h : ∀ a, (codec.encode a).sortKeys = codec.encode a) :
    codec.Sortable := by
  intro a depth
  rw [h]
  exact alike_refl _

@[simp] theorem sortable_text : text.Sortable := sortable_of_eq (fun _ => rfl)

@[simp] theorem sortable_int64 : int64.Sortable := sortable_of_eq (fun _ => rfl)

@[simp] theorem sortable_word [Vocabulary α] : (word : Codec α).Sortable :=
  sortable_of_eq (fun _ => rfl)

@[simp] theorem sortable_optionalWord [Vocabulary α] :
    (optionalWord : Codec (Option α)).Sortable := by
  refine sortable_of_eq (fun a? => ?_)
  cases a? <;> rfl

@[simp] theorem sortable_map {codec : Codec α} (h : codec.Sortable) (view : β → α) (make : α → β) :
    (codec.map view make).Sortable :=
  fun b depth => alike_map (h (view b) depth) make

@[simp] theorem sortable_option {codec : Codec α} (h : codec.Sortable) :
    (option codec).Sortable := by
  intro a? depth
  cases a? with
  | none => exact alike_refl _
  | some a =>
      have hread := h a depth
      simp only [option, Json.ofOption]
      -- sorting turns no other value into null
      cases hvalue : codec.encode a with
      | null => exact alike_refl _
      | _ =>
          rw [hvalue] at hread
          exact alike_map hread some

theorem alike_decodeItems {codec : Codec α} (h : codec.Sortable) (depth : Nat) (as : List α) :
    Alike (decodeItems codec depth (as.map (fun a => (codec.encode a).sortKeys)))
      (decodeItems codec depth (as.map codec.encode)) := by
  induction as with
  | nil => exact alike_refl _
  | cons a as ih => exact alike_bind (h a depth) (fun _ => alike_bind ih (fun _ => alike_refl _))

@[simp] theorem sortable_list {codec : Codec α} (h : codec.Sortable) : (list codec).Sortable := by
  intro as depth
  have hitems : ((list codec).encode as).sortKeys =
      .ofList (as.map (fun a => (codec.encode a).sortKeys)) := by
    simp only [list, Json.ofList, Json.sortKeys, Json.sortKeysInItems_eq_map, List.map_map]
    rfl
  rw [hitems]
  cases depth with
  | zero => exact alike_refl _
  | succ depth => exact alike_bind (alike_decodeItems h depth as) (fun _ => alike_refl _)

end Codec

/-- What is written of a record for the field is read the same with its keys sorted. -/
def Field.Sortable {ρ : Type} (field : Field ρ) : Prop :=
  ∀ r depth, Alike (field.read depth (field.write r).sortKeys) (field.read depth (field.write r))

@[simp] theorem Field.sortable_of {ρ α : Type} {name : String} {codec : Codec α} {get : ρ → α}
    {put : α → ρ → ρ} {absence : Absence ρ} (h : codec.Sortable) :
    (Field.of name codec get put absence).Sortable :=
  fun r depth => alike_map (h (get r) depth) put

namespace Schema

variable {ρ : Type} {schema : Schema ρ} {depth : Nat} {closed : Bool}

/-- The members that are written for fields, with sorted keys inside. -/
def writtenSorted (fields : List (Field ρ)) (r : ρ) : List (Option String × Json) :=
  fields.map (fun field => (some field.name, (field.write r).sortKeys))

theorem decodeMembers_writtenSorted (hnames : schema.NamesDistinct) {fields : List (Field ρ)}
    (hfields : ∀ field ∈ fields, field ∈ schema.fields ∧ field.Sortable) (r : ρ) :
    ∀ seen s, Alike (schema.decodeMembers depth closed seen s (writtenSorted fields r))
      (schema.decodeMembers depth closed seen s (written fields r)) := by
  induction fields with
  | nil => exact fun seen s => alike_refl _
  | cons field fields ih =>
      intro seen s
      obtain ⟨hfield, hsortable⟩ := hfields field (by simp)
      have hrest := ih (fun other hother => hfields other (by simp [hother]))
      simp only [writtenSorted, written, List.map_cons, decodeMembers, find?_key hnames hfield]
      split
      · exact alike_refl _
      · exact alike_bind (hsortable r depth) (fun change => hrest _ _)

/-- **Records whose members may be read in any order may be sorted.** -/
theorem sortable_codec (horderly : schema.Orderly)
    (hfields : ∀ field ∈ schema.fields, field.Sortable) : schema.codec.Sortable := by
  intro r depth
  have hkeys : ((written schema.fields r).map Prod.fst).Nodup := by
    have hfst : (written schema.fields r).map Prod.fst =
        (schema.fields.map Field.name).map some := by
      simp only [written, List.map_map]
      rfl
    rw [hfst]
    exact List.Nodup.map (fun _ _ => Option.some.inj) horderly.names
  have hperm : (Json.sortKeysInMembers [] (written schema.fields r)).Perm
      (writtenSorted schema.fields r) := by
    have hsorted := @Json.perm_sortKeysInMembers [] _ hkeys
    simpa [written, writtenSorted, Function.comp_def] using hsorted
  simp only [codec, encode_eq_written, Json.sortKeys]
  cases depth with
  | zero => exact alike_refl _
  | succ depth =>
      have hmembers : Alike
          (schema.decodeMembers depth true [] schema.blank (writtenSorted schema.fields r))
          (schema.decodeMembers depth true [] schema.blank (written schema.fields r)) :=
        decodeMembers_writtenSorted horderly.names
          (fun field hfield => ⟨hfield, hfields field hfield⟩) r [] schema.blank
      exact (decodeMembers_perm horderly hperm [] schema.blank).trans hmembers

end Schema

/-- A value is found again in its encoding with sorted keys, and no fresh number is drawn. -/
theorem Codec.Reads.run_sortKeys {α : Type} {codec : Codec α} {a b : α}
    (h : codec.Reads maxDepth a b) (hsortable : codec.Sortable) (supply : Nat) :
    (codec.ofJson (codec.encode a).sortKeys).run supply = .ok (b, supply) := by
  rw [← outcome_eq_some, ofJson, hsortable a maxDepth supply, h.decode (Nat.le_refl _),
    outcome_pure]

end LanguageBlueprint
