/-
  LanguageBlueprint/Proofs/Json/Supplies.lean
  ===========================================
  **What a record owes to the supply of fresh numbers.**  If the fields of a
  record are read the same from all supplies up to a relation, and filling in a
  field keeps records related whatever the numbers are, then so is the record.

    * one field                    — `Schema.Relates`, `relates_of`;
    * the record                   — `Schema.steady_codec`, `Schema.still_codec`.
-/
import LanguageBlueprint.Proofs.Json.Members

namespace LanguageBlueprint

namespace Schema

open Decode

variable {ρ : Type} {schema : Schema ρ} {depth : Nat} {closed : Bool}

/-- Reading the field keeps records related, and so does filling it in, for which a number may
have to be drawn. -/
structure Relates (drawing : Bool) (R : ρ → ρ → Prop) (field : Field ρ) : Prop where
  read : ∀ depth json,
    Decode.Steady drawing (fun change other => ∀ r s, R r s → R (change r) (other s))
      (field.read depth json)
  fill : ∀ fill, field.absence = .filled fill →
    drawing = true ∧ ∀ n m r s, R r s → R (fill n r) (fill m s)

/-- A field that is not filled in keeps records related if putting related values does. -/
theorem relates_of {α : Type} {drawing : Bool} {R : ρ → ρ → Prop} {S : α → α → Prop}
    {name : String} {codec : Codec α} {get : ρ → α} {put : α → ρ → ρ} {absence : Absence ρ}
    (hcodec : codec.Steady drawing S)
    (hput : ∀ a b, S a b → ∀ r s, R r s → R (put a r) (put b s))
    (hfill : ∀ fill, absence = .filled fill →
      drawing = true ∧ ∀ n m r s, R r s → R (fill n r) (fill m s)) :
    Relates drawing R (.of name codec get put absence) :=
  ⟨fun depth json => agree_map (hcodec depth json) hput, hfill⟩

variable {drawing : Bool} {R : ρ → ρ → Prop}

/-- A field whose codec draws nothing keeps records related if putting a value does. -/
theorem relates_of_still {α : Type} {name : String} {codec : Codec α} {get : ρ → α}
    {put : α → ρ → ρ} {absence : Absence ρ} (hcodec : codec.Still)
    (hput : ∀ a r s, R r s → R (put a r) (put a s))
    (hfill : ∀ fill, absence = .filled fill →
      drawing = true ∧ ∀ n m r s, R r s → R (fill n r) (fill m s)) :
    Relates drawing R (.of name codec get put absence) := by
  refine relates_of (fun depth json => Still.steady (hcodec depth json)) ?_ hfill
  rintro a _ rfl
  exact hput a

theorem agree_fill {fill : Nat → ρ → ρ} {x y : ρ → Decode ρ}
    (hfill : drawing = true ∧ ∀ n m r s, R r s → R (fill n r) (fill m s))
    (hnext : ∀ r s, R r s → Agree drawing R (x r) (y s)) {r s : ρ} (hrs : R r s) :
    Agree drawing R (fresh >>= fun n => x (fill n r)) (fresh >>= fun n => y (fill n s)) := by
  obtain ⟨rfl, hfill⟩ := hfill
  exact agree_bind agree_fresh (fun n m _ => hnext _ _ (hfill n m r s hrs))

theorem complete_agree {seen : List String} {fields : List (Field ρ)}
    (hfields : ∀ field ∈ fields, Relates drawing R field) {r s : ρ} (hrs : R r s) :
    Agree drawing R (complete seen fields r) (complete seen fields s) := by
  induction fields generalizing r s with
  | nil => exact agree_pure hrs
  | cons field fields ih =>
      have hrest : ∀ r s, R r s → Agree drawing R (complete seen fields r)
          (complete seen fields s) :=
        fun r s hrs => ih (fun other h => hfields other (by simp [h])) hrs
      simp only [complete]
      refine agree_ite (hrest r s hrs) ?_
      cases habsence : field.absence with
      | refused => exact Fails.agree (outcome_unfit _)
      | blank => exact hrest r s hrs
      | filled fill => exact agree_fill ((hfields field (by simp)).fill fill habsence) hrest hrs

theorem completeTail_agree {index : Nat} {fields : List (Field ρ)}
    (hfields : ∀ field ∈ fields, Relates drawing R field) {r s : ρ} (hrs : R r s) :
    Agree drawing R (schema.completeTail index fields r) (schema.completeTail index fields s) := by
  induction fields generalizing index r s with
  | nil => exact agree_pure hrs
  | cons field fields ih =>
      have hrest : ∀ r s, R r s → Agree drawing R (schema.completeTail (index + 1) fields r)
          (schema.completeTail (index + 1) fields s) :=
        fun r s hrs => ih (fun other h => hfields other (by simp [h])) hrs
      simp only [completeTail]
      cases habsence : field.absence with
      | refused => exact Fails.agree (outcome_unfit _)
      | blank => exact hrest r s hrs
      | filled fill => exact agree_fill ((hfields field (by simp)).fill fill habsence) hrest hrs

theorem decodeMembers_agree (hfields : ∀ field ∈ schema.fields, Relates drawing R field)
    {members : List (Option String × Json)} {seen : List String} {r s : ρ} (hrs : R r s) :
    Agree drawing R (schema.decodeMembers depth closed seen r members)
      (schema.decodeMembers depth closed seen s members) := by
  induction members generalizing seen r s with
  | nil =>
      simp only [decodeMembers]
      exact agree_ite (complete_agree hfields hrs) (Fails.agree outcome_malformed)
  | cons member members ih =>
      rw [decodeMembers_cons, decodeMembers_cons]
      rcases readMember_cases schema depth seen member with
        hfails | hid | ⟨field, hfield, -, hread⟩
      · exact (fails_bind hfails).agree
      · rw [hid]
        exact ih hrs
      · rw [hread]
        exact agree_bind ((hfields field hfield).read depth member.2)
          (fun change other hchange => ih (hchange r s hrs))

theorem decodeItems_agree {items : List Json} {index : Nat} {fields : List (Field ρ)}
    (hfields : ∀ field ∈ fields, Relates drawing R field) {r s : ρ} (hrs : R r s) :
    Agree drawing R (schema.decodeItems depth closed index fields items r)
      (schema.decodeItems depth closed index fields items s) := by
  induction items generalizing index fields r s with
  | nil =>
      simp only [decodeItems]
      exact agree_ite (completeTail_agree hfields hrs) (Fails.agree outcome_malformed)
  | cons item items ih =>
      cases fields with
      | nil => exact Fails.agree outcome_malformed
      | cons field fields =>
          refine agree_bind ((hfields field (by simp)).read depth item) (fun change other h => ?_)
          exact ih (fun other hother => hfields other (by simp [hother])) (h r s hrs)

/-- **From every other supply a related record is read.** -/
theorem steady_codec (hblank : R schema.blank schema.blank)
    (hfields : ∀ field ∈ schema.fields, Relates drawing R field) :
    schema.codec.Steady drawing R := by
  intro depth json
  change Decode.Steady drawing R (schema.decode depth json)
  unfold decode
  split
  · exact decodeMembers_agree hfields hblank
  · exact decodeItems_agree hfields hblank
  · exact Fails.agree outcome_malformed
  · exact Fails.agree outcome_malformed
  · exact Fails.agree (outcome_wrongType _ _)

/-- A record is read without drawing any number if its fields are, and none of them is filled in. -/
theorem still_codec (hstill : ∀ field ∈ schema.fields, field.Still)
    (hfill : ∀ field ∈ schema.fields, ∀ fill, field.absence ≠ .filled fill) :
    schema.codec.Still := by
  refine steady_codec rfl (fun field hfield => ⟨fun depth json => ?_, ?_⟩)
  · refine (hstill field hfield depth json).mono ?_
    rintro change _ rfl r _ rfl
    rfl
  · exact fun fill h => absurd h (hfill field hfield fill)

end Schema

end LanguageBlueprint
