/-
  LanguageBlueprint/Proofs/Json/Ensures.lean
  ==========================================
  **What holds of whatever is read.**  `x.Ensures P` says that a reading which
  succeeds yields a value with the property `P`; of a reading that fails it says
  nothing.  A property that the blank record has, and that no field takes away,
  is had by every record that is read, be it from an object or from a list.

    * the ways of putting readings together — `ensures_bind`, `ensures_map`, …;
    * records                               — `Schema.decode_ensures`.
-/
import LanguageBlueprint.Json.Codec

namespace LanguageBlueprint

namespace Decode

variable {α β : Type}

/-- A reading that succeeds yields a value with the property. -/
def Ensures (x : Decode α) (P : α → Prop) : Prop :=
  ∀ supply a next, x.run supply = .ok (a, next) → P a

theorem ensures_pure {P : α → Prop} {a : α} (h : P a) : Ensures (pure a) P := by
  intro supply b next hrun
  cases hrun
  exact h

theorem ensures_throw {P : α → Prop} (fault : DecodeFault) :
    Ensures (throw fault : Decode α) P := by
  intro supply b next hrun
  cases hrun

theorem ensures_true (x : Decode α) : Ensures x (fun _ => True) :=
  fun _ _ _ _ => trivial

theorem ensures_bind {P : β → Prop} {Q : α → Prop} {x : Decode α} {f : α → Decode β}
    (hx : Ensures x Q) (hf : ∀ a, Q a → Ensures (f a) P) : Ensures (x >>= f) P := by
  intro supply b next hrun
  rw [StateT.run_bind] at hrun
  cases hfirst : x.run supply with
  | error fault =>
      rw [hfirst] at hrun
      cases hrun
  | ok outcome =>
      rw [hfirst] at hrun
      exact hf outcome.1 (hx supply outcome.1 outcome.2 hfirst) outcome.2 b next hrun

theorem ensures_ite {P : α → Prop} {x y : Decode α} {c : Prop} [Decidable c] (hx : Ensures x P)
    (hy : Ensures y P) : Ensures (if c then x else y) P := by
  split
  · exact hx
  · exact hy

theorem ensures_map {P : β → Prop} {x : Decode α} {f : α → β} (h : ∀ a, P (f a)) :
    Ensures (f <$> x) P := by
  rw [map_eq_pure_bind]
  exact ensures_bind (ensures_true x) (fun a _ => ensures_pure (h a))

end Decode

namespace Schema

open Decode

variable {ρ : Type} {P : ρ → Prop}

/-- Neither reading the field nor filling it in takes the property away. -/
structure Keeps (P : ρ → Prop) (field : Field ρ) : Prop where
  read : ∀ depth json, (field.read depth json).Ensures (fun change => ∀ r, P r → P (change r))
  fill : ∀ fill, field.absence = .filled fill → ∀ n r, P r → P (fill n r)

/-- A field with a codec keeps a property that putting its value keeps. -/
theorem keeps_field {α : Type} {name : String} {codec : Codec α} {get : ρ → α}
    {put : α → ρ → ρ} {absence : Absence ρ} (hput : ∀ a r, P r → P (put a r))
    (hfill : ∀ fill, absence = .filled fill → ∀ n r, P r → P (fill n r)) :
    Keeps P (.of name codec get put absence) :=
  ⟨fun _ _ => ensures_map hput, hfill⟩

theorem complete_ensures {seen : List String} {fields : List (Field ρ)}
    (hfields : ∀ field ∈ fields, Keeps P field) {r : ρ} (hr : P r) :
    (complete seen fields r).Ensures P := by
  induction fields generalizing r with
  | nil => exact ensures_pure hr
  | cons field fields ih =>
      have hrest : ∀ other ∈ fields, Keeps P other := fun other h => hfields other (by simp [h])
      rw [complete]
      split
      · exact ih hrest hr
      · split
        · exact ensures_throw _
        · exact ih hrest hr
        · rename_i fill hfill
          refine ensures_bind (ensures_true fresh) (fun n _ => ih hrest ?_)
          exact (hfields field (by simp)).fill fill hfill n r hr

theorem decodeMembers_ensures {schema : Schema ρ} (hfields : ∀ field ∈ schema.fields, Keeps P field)
    {depth : Nat} {closed : Bool} {members : List (Option String × Json)} {seen : List String}
    {r : ρ} (hr : P r) : (schema.decodeMembers depth closed seen r members).Ensures P := by
  induction members generalizing seen r with
  | nil =>
      rw [decodeMembers]
      exact ensures_ite (complete_ensures hfields hr) (ensures_throw _)
  | cons member members ih =>
      obtain ⟨key?, value⟩ := member
      cases key? with
      | none => exact ensures_throw _
      | some key =>
          rw [decodeMembers]
          split
          · rename_i field hfind
            split
            · exact ensures_throw _
            · have hread := (hfields field (List.mem_of_find?_eq_some hfind)).read depth value
              exact ensures_bind hread (fun change hchange => ih (hchange r hr))
          · exact ensures_ite (ih hr) (ensures_throw _)

theorem completeTail_ensures {schema : Schema ρ} {index : Nat} {fields : List (Field ρ)}
    (hfields : ∀ field ∈ fields, Keeps P field) {r : ρ} (hr : P r) :
    (schema.completeTail index fields r).Ensures P := by
  induction fields generalizing index r with
  | nil => exact ensures_pure hr
  | cons field fields ih =>
      have hrest : ∀ other ∈ fields, Keeps P other := fun other h => hfields other (by simp [h])
      rw [completeTail]
      split
      · exact ensures_throw _
      · exact ih hrest hr
      · rename_i fill hfill
        refine ensures_bind (ensures_true fresh) (fun n _ => ih hrest ?_)
        exact (hfields field (by simp)).fill fill hfill n r hr

theorem decodeItems_ensures {schema : Schema ρ} {depth : Nat} {closed : Bool} {items : List Json}
    {index : Nat} {fields : List (Field ρ)} (hfields : ∀ field ∈ fields, Keeps P field) {r : ρ}
    (hr : P r) : (schema.decodeItems depth closed index fields items r).Ensures P := by
  induction items generalizing index fields r with
  | nil =>
      rw [decodeItems]
      exact ensures_ite (completeTail_ensures hfields hr) (ensures_throw _)
  | cons item items ih =>
      cases fields with
      | nil => exact ensures_throw _
      | cons field fields =>
          rw [decodeItems]
          refine ensures_bind ((hfields field (by simp)).read depth item) (fun change hchange => ?_)
          exact ih (fun other h => hfields other (by simp [h])) (hchange r hr)

/-- **A property of the blank record that every field keeps is had by whatever is read.** -/
theorem decode_ensures {schema : Schema ρ} (hblank : P schema.blank)
    (hfields : ∀ field ∈ schema.fields, Keeps P field) (depth : Nat) (json : Json) :
    (schema.decode depth json).Ensures P := by
  rw [decode.eq_def]
  split
  · exact decodeMembers_ensures hfields hblank
  · exact decodeItems_ensures hfields hblank
  · exact ensures_throw _
  · exact ensures_throw _
  · exact ensures_bind (ensures_true _) (fun _ _ => ensures_throw _)

end Schema

/-- What is read from a text has a property that every value read by the codec has. -/
theorem Codec.ofText_ensures {α : Type} {codec : Codec α} {P : α → Prop}
    (h : ∀ depth json, (codec.decode depth json).Ensures P) (text : String) :
    (codec.ofText text).Ensures P := by
  rw [ofText]
  refine Decode.ensures_bind (h maxDepth _) (fun a ha => ?_)
  exact Decode.ensures_ite (Decode.ensures_pure ha) (Decode.ensures_throw _)

end LanguageBlueprint
