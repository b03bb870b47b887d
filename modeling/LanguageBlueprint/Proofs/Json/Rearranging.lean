/-
  LanguageBlueprint/Proofs/Json/Rearranging.lean
  ==============================================
  **The ways of writing one record.**  The members of an object may stand in any
  order, members that are no fields may stand between them, and an object that
  holds exactly the first fields may be the list of their values.  A record is
  read the same from all of these.

    * an object and the list of its values   — `decodeMembers_ofValues`;
    * the ways of writing a record           — `Schema.Rearranged`;
    * they are all read the same             — `Schema.decode_alike`,
                                                `Schema.decode_alike_of_changes`.
-/
import LanguageBlueprint.Proofs.Json.Members
import Mathlib.Data.List.Nodup
import Mathlib.Logic.Relation

namespace LanguageBlueprint

namespace Schema

open Decode

variable {ρ : Type} {schema : Schema ρ} {depth : Nat} {closed : Bool}

/-! ### The list of the fields -/

/-- The object that holds the values of the first fields. -/
def ofValues (fields : List (Field ρ)) (values : List Json) : List (Option String × Json) :=
  List.zipWith (fun field value => (some field.name, value)) fields values

/-- What is left out of a list is made up for as in an object. -/
theorem complete_alike_completeTail {seen : List String} {fields : List (Field ρ)}
    (h : ∀ field ∈ fields, field.name ∉ seen) (index : Nat) (r : ρ) :
    Alike (complete seen fields r) (schema.completeTail index fields r) := by
  induction fields generalizing index r with
  | nil => exact alike_refl _
  | cons field fields ih =>
      have hseen : seen.contains field.name = false := by simpa using h field (by simp)
      have hrest : ∀ index r, Alike (complete seen fields r)
          (schema.completeTail index fields r) :=
        ih (fun other hother => h other (by simp [hother]))
      simp only [complete, completeTail, hseen, Bool.false_eq_true, if_false]
      cases field.absence with
      | refused => exact fun supply => rfl
      | blank => exact hrest (index + 1) r
      | filled fill => exact alike_bind (alike_refl _) (fun n => hrest (index + 1) (fill n r))

/-- Behind the fields `before`, the values of the next fields are read the same from an object and
from a list. -/
theorem decodeMembers_ofValues (hnames : schema.NamesDistinct) {values : List Json} :
    ∀ {before fields : List (Field ρ)} {seen : List String}, schema.fields = before ++ fields →
      (∀ name, name ∈ seen ↔ name ∈ before.map Field.name) → values.length ≤ fields.length →
      ∀ index r, Alike (schema.decodeMembers depth closed seen r (ofValues fields values))
        (schema.decodeItems depth closed index fields values r) := by
  induction values with
  | nil =>
      intro before fields seen hsplit hseen _ index r
      have hfresh : ∀ field ∈ fields, field.name ∉ seen := by
        intro field hfield hmem
        have hnodup : ((before ++ fields).map Field.name).Nodup := hsplit ▸ hnames
        rw [List.map_append, List.nodup_append] at hnodup
        exact hnodup.2.2 field.name ((hseen _).mp hmem) field.name (List.mem_map_of_mem hfield) rfl
      have hbefore : ∀ field ∈ before, field.name ∈ seen :=
        fun field hfield => (hseen _).mpr (List.mem_map_of_mem hfield)
      simp only [ofValues, List.zipWith_nil_right, decodeMembers, decodeItems]
      split
      · rw [hsplit, complete_append hbefore]
        exact complete_alike_completeTail hfresh index r
      · exact alike_refl _
  | cons value values ih =>
      intro before fields seen hsplit hseen hlength index r
      cases fields with
      | nil => simp at hlength
      | cons field fields =>
          have hfield : field ∈ schema.fields := by simp [hsplit]
          have hnot : field.name ∉ seen := by
            have hnodup : ((before ++ field :: fields).map Field.name).Nodup := hsplit ▸ hnames
            rw [List.map_append, List.nodup_append] at hnodup
            exact fun hmem =>
              hnodup.2.2 field.name ((hseen _).mp hmem) field.name (by simp) rfl
          have hcontains : seen.contains field.name = false := by simpa using hnot
          have hsplit' : schema.fields = (before ++ [field]) ++ fields := by simp [hsplit]
          have hseen' : ∀ name, name ∈ field.name :: seen ↔
              name ∈ (before ++ [field]).map Field.name := by
            intro name
            rw [List.mem_cons, hseen, List.map_append, List.mem_append, List.map_singleton,
              List.mem_singleton, or_comm]
          simp only [ofValues, List.zipWith_cons_cons, decodeMembers, decodeItems,
            find?_key hnames hfield, hcontains, Bool.false_eq_true, if_false]
          exact alike_bind (alike_refl _) (fun change =>
            ih hsplit' hseen' (by simpa using hlength) (index + 1) (change r))

/-! ### The ways of writing a record -/

/-- One change to the way in which a record is written: the members of an object are put in another
order, a member that is no field is put in, an object that holds exactly the first fields becomes
the list of their values, or the value of a field that holds records is written in another way.
`records` names these fields, and says of each how its value may be written instead. -/
inductive Rearranged (schema : Schema ρ) (records : List (String × (Json → Json → Prop))) :
    Json → Json → Prop where
  | permuted {members others : List (Option String × Json)} {closed : Bool}
      (h : members.Perm others) :
      Rearranged schema records (.object members closed) (.object others closed)
  | inserted {before after : List (Option String × Json)} {closed : Bool} {key : String}
      {value : Json} (hkey : key ∉ schema.fields.map Field.name)
      (hvalue : value.isComplete = true) :
      Rearranged schema records (.object (before ++ after) closed)
        (.object (before ++ (some key, value) :: after) closed)
  | listed {values : List Json} {closed : Bool} (h : values.length ≤ schema.fields.length) :
      Rearranged schema records (.object (ofValues schema.fields values) closed)
        (.list values closed)
  | member {before after : List (Option String × Json)} {closed : Bool} {key : String}
      {R : Json → Json → Prop} {value other : Json} (hrecord : (key, R) ∈ records)
      (h : R value other) :
      Rearranged schema records (.object (before ++ (some key, value) :: after) closed)
        (.object (before ++ (some key, other) :: after) closed)
  | item {before after : List Json} {closed : Bool} {key : String} {R : Json → Json → Prop}
      {value other : Json} (hkey : (schema.fields.map Field.name)[before.length]? = some key)
      (hrecord : (key, R) ∈ records) (h : R value other) :
      Rearranged schema records (.list (before ++ value :: after) closed)
        (.list (before ++ other :: after) closed)

/-- Each of the named fields reads a value the same, however it is written. -/
def Respects (schema : Schema ρ) (records : List (String × (Json → Json → Prop))) : Prop :=
  ∀ record ∈ records, ∃ field ∈ schema.fields, field.name = record.1 ∧
    ∀ depth value other, record.2 value other →
      Alike (field.read depth value) (field.read depth other)

variable {records : List (String × (Json → Json → Prop))}

theorem Respects.nil : schema.Respects [] := by
  intro record hrecord
  cases hrecord

theorem Respects.mem (h : schema.Respects records) {key : String} {R : Json → Json → Prop}
    (hrecord : (key, R) ∈ records) : ∃ field ∈ schema.fields, field.name = key := by
  obtain ⟨field, hfield, hname, -⟩ := h (key, R) hrecord
  exact ⟨field, hfield, hname⟩

/-- A field that has the name reads the value the same. -/
theorem Respects.read (h : schema.Respects records) (hnames : schema.NamesDistinct)
    {field : Field ρ} (hfield : field ∈ schema.fields) {R : Json → Json → Prop}
    (hrecord : (field.name, R) ∈ records) {value other : Json} (hvalue : R value other) :
    Alike (field.read depth value) (field.read depth other) := by
  obtain ⟨found, hfound, hname, hread⟩ := h (field.name, R) hrecord
  obtain rfl : found = field := List.inj_on_of_nodup_map hnames hfound hfield hname
  exact hread depth value other hvalue

theorem decodeMembers_member (hnames : schema.NamesDistinct) (hrespects : schema.Respects records)
    {key : String} {R : Json → Json → Prop} (hrecord : (key, R) ∈ records) {value other : Json}
    (h : R value other) (seen : List String) (r : ρ) (members : List (Option String × Json)) :
    Alike (schema.decodeMembers depth closed seen r ((some key, value) :: members))
      (schema.decodeMembers depth closed seen r ((some key, other) :: members)) := by
  obtain ⟨field, hfield, rfl⟩ := hrespects.mem hrecord
  simp only [decodeMembers, find?_key hnames hfield]
  split
  · exact alike_refl _
  · exact alike_bind (hrespects.read hnames hfield hrecord h) (fun change => alike_refl _)

theorem decodeItems_item (hnames : schema.NamesDistinct) (hrespects : schema.Respects records)
    {fields : List (Field ρ)} (hfields : ∀ field ∈ fields, field ∈ schema.fields)
    {before after : List Json} {key : String}
    (hkey : (fields.map Field.name)[before.length]? = some key) {R : Json → Json → Prop}
    (hrecord : (key, R) ∈ records) {value other : Json} (h : R value other) (index : Nat) (r : ρ) :
    Alike (schema.decodeItems depth closed index fields (before ++ value :: after) r)
      (schema.decodeItems depth closed index fields (before ++ other :: after) r) := by
  induction before generalizing fields index r with
  | nil =>
      cases fields with
      | nil => exact alike_refl _
      | cons field fields =>
          obtain rfl : field.name = key := by simpa using hkey
          have hfield : field ∈ schema.fields := hfields field (by simp)
          exact alike_bind (hrespects.read hnames hfield hrecord h) (fun change => alike_refl _)
  | cons item before ih =>
      cases fields with
      | nil => exact alike_refl _
      | cons field fields =>
          refine alike_bind (alike_refl _) (fun change => ih ?_ ?_ _ _)
          · exact fun other hother => hfields other (by simp [hother])
          · simpa using hkey

/-- **However a record is written, the same is read.** -/
theorem decode_alike (horderly : schema.Orderly) (hrespects : schema.Respects records)
    {value other : Json} (h : schema.Rearranged records value other) (depth : Nat) :
    Alike (schema.decode depth value) (schema.decode depth other) := by
  have hnames : schema.NamesDistinct := horderly.names
  cases depth with
  | zero => cases h <;> exact alike_refl _
  | succ depth =>
      cases h with
      | permuted hperm => exact decodeMembers_perm horderly hperm [] schema.blank
      | @inserted before after closed key value hkey hvalue =>
          refine alike_append before (fun seen r => ?_) [] schema.blank
          rw [decodeMembers_skip hkey hvalue]
          exact alike_refl _
      | listed hlength =>
          have hseen : ∀ name, name ∈ ([] : List String) ↔
              name ∈ ([] : List (Field ρ)).map Field.name := fun _ => Iff.rfl
          exact decodeMembers_ofValues hnames (List.nil_append _).symm hseen hlength 0 schema.blank
      | @member before after closed key R value other hrecord hvalue =>
          exact alike_append before
            (fun seen r => decodeMembers_member hnames hrespects hrecord hvalue seen r after)
            [] schema.blank
      | item hkey hrecord hvalue =>
          exact decodeItems_item hnames hrespects (fun _ h => h) hkey hrecord hvalue 0 schema.blank

/-- Any number of changes, made or undone, leave what is read as it is. -/
theorem decode_alike_of_changes (horderly : schema.Orderly) (hrespects : schema.Respects records)
    {value other : Json} (h : Relation.EqvGen (schema.Rearranged records) value other)
    (depth : Nat) : Alike (schema.decode depth value) (schema.decode depth other) := by
  induction h with
  | rel value other h => exact decode_alike horderly hrespects h depth
  | refl value => exact alike_refl _
  | symm value other h ih => exact ih.symm
  | trans value middle other h h' ih ih' => exact ih.trans ih'

end Schema

end LanguageBlueprint
