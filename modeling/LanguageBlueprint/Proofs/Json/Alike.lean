/-
  LanguageBlueprint/Proofs/Json/Alike.lean
  ========================================
  **Readings that come to the same.**  Two readings are alike if they succeed
  from the same supplies of fresh numbers, with the same value and with the same
  numbers left; why they fail is not looked at.  They agree up to a relation if,
  whatever the two supplies are, the one succeeds where the other does and their
  values are related.  A reading that agrees with itself and draws no number can
  be made before or after any other one, and this is what lets the members of an
  object change places.

    * the ways of putting readings together — `alike_bind`, `agree_bind`, …;
    * two readings change places            — `alike_swap`;
    * codecs that draw nothing              — `still_text`, `still_list`, …;
    * one item of a list is exchanged       — `list_alike`.
-/
import LanguageBlueprint.Json.Codec
import Mathlib.Data.List.Forall2

namespace LanguageBlueprint

namespace Decode

variable {α β γ : Type}

/-! ### Outcomes -/

/-- What the reading yields from a supply and what is left of the supply, if it succeeds. -/
def outcome (x : Decode α) (supply : Nat) : Option (α × Nat) := (x.run supply).toOption

theorem outcome_eq_some {x : Decode α} {supply next : Nat} {a : α} :
    outcome x supply = some (a, next) ↔ x.run supply = .ok (a, next) := by
  unfold outcome
  cases x.run supply <;> simp [Except.toOption]

@[simp] theorem outcome_pure (a : α) (supply : Nat) :
    outcome (pure a) supply = some (a, supply) := rfl

@[simp] theorem outcome_malformed (supply : Nat) :
    outcome (malformed : Decode α) supply = none := rfl

@[simp] theorem outcome_unfit (misfit : Misfit) (supply : Nat) :
    outcome (unfit misfit : Decode α) supply = none := rfl

@[simp] theorem outcome_fresh (supply : Nat) :
    outcome fresh supply = some (supply, supply + 1) := rfl

theorem outcome_bind (x : Decode α) (f : α → Decode β) (supply : Nat) :
    outcome (x >>= f) supply =
      (outcome x supply).bind (fun result => outcome (f result.1) result.2) := by
  unfold outcome
  rw [StateT.run_bind]
  cases x.run supply <;> rfl

@[simp] theorem outcome_wrongType (json : Json) (wanted : String) (supply : Nat) :
    outcome (wrongType json wanted : Decode α) supply = none := by
  rw [wrongType, outcome_bind]
  cases hfound : outcome (json.found : Decode String) supply <;> rfl

/-- The reading fails, wherever the supply begins. -/
def Fails (x : Decode α) : Prop := ∀ supply, outcome x supply = none

/-- The reading yields the value from some supply. -/
def Yields (x : Decode α) (a : α) : Prop := ∃ supply next, outcome x supply = some (a, next)

theorem yields_map {x : Decode α} {f : α → β} {b : β} (h : Yields (f <$> x) b) :
    ∃ a, f a = b := by
  obtain ⟨supply, next, hrun⟩ := h
  rw [map_eq_pure_bind, outcome_bind] at hrun
  obtain ⟨result, -, hpure⟩ := Option.bind_eq_some_iff.mp hrun
  cases hpure
  exact ⟨result.1, rfl⟩

/-! ### Alike -/

/-- The readings succeed from the same supplies, with the same value and the same numbers left. -/
def Alike (x y : Decode α) : Prop := ∀ supply, outcome x supply = outcome y supply

theorem alike_refl (x : Decode α) : Alike x x := fun _ => rfl

theorem Alike.symm {x y : Decode α} (h : Alike x y) : Alike y x := fun supply => (h supply).symm

theorem Alike.trans {x y z : Decode α} (h : Alike x y) (h' : Alike y z) : Alike x z :=
  fun supply => (h supply).trans (h' supply)

theorem Fails.alike {x y : Decode α} (hx : Fails x) (hy : Fails y) : Alike x y :=
  fun supply => (hx supply).trans (hy supply).symm

theorem alike_bind {x y : Decode α} {f g : α → Decode β} (h : Alike x y)
    (hnext : ∀ a, Alike (f a) (g a)) : Alike (x >>= f) (y >>= g) := by
  intro supply
  rw [outcome_bind, outcome_bind, h supply]
  cases outcome y supply with
  | none => rfl
  | some result => exact hnext result.1 result.2

theorem alike_map {x y : Decode α} (h : Alike x y) (f : α → β) : Alike (f <$> x) (f <$> y) := by
  rw [map_eq_pure_bind, map_eq_pure_bind]
  exact alike_bind h (fun a => alike_refl _)

theorem fails_bind {x : Decode α} {f : α → Decode β} (h : Fails x) : Fails (x >>= f) := by
  intro supply
  rw [outcome_bind, h supply, Option.bind_none]

theorem fails_bind_of_next {x : Decode α} {f : α → Decode β} (h : ∀ a, Fails (f a)) :
    Fails (x >>= f) := by
  intro supply
  rw [outcome_bind]
  cases outcome x supply with
  | none => rfl
  | some result => exact h result.1 result.2

/-! ### Agreement from different supplies -/

/-- Where the one reading succeeds, from whatever supply, the other one does so from every supply,
with a related value.  Unless they are `drawing`, they draw no numbers. -/
def Agree (drawing : Bool) (R : α → β → Prop) (x : Decode α) (y : Decode β) : Prop :=
  ∀ supply supply' a next, outcome x supply = some (a, next) →
    ∃ b next', outcome y supply' = some (b, next') ∧ R a b ∧
      (drawing = false → next = supply ∧ next' = supply')

/-- The reading yields the same from all supplies, up to the relation. -/
abbrev Steady (drawing : Bool) (R : α → α → Prop) (x : Decode α) : Prop := Agree drawing R x x

/-- The reading yields the same from all supplies and draws no number. -/
abbrev Still (x : Decode α) : Prop := Steady false Eq x

variable {drawing : Bool} {R : α → β → Prop}

theorem agree_pure {a : α} {b : β} (h : R a b) : Agree drawing R (pure a) (pure b) := by
  intro supply supply' a' next hrun
  cases hrun
  exact ⟨b, supply', rfl, h, fun _ => ⟨rfl, rfl⟩⟩

theorem Fails.agree {x : Decode α} {y : Decode β} (h : Fails x) : Agree drawing R x y := by
  intro supply supply' a next hrun
  rw [h supply] at hrun
  cases hrun

theorem agree_fresh : Agree true (fun _ _ => True) fresh fresh := by
  intro supply supply' a next hrun
  exact ⟨supply', supply' + 1, rfl, trivial, fun h => by cases h⟩

theorem agree_bind {α' β' : Type} {S : α' → β' → Prop} {x : Decode α} {y : Decode β}
    {f : α → Decode α'} {g : β → Decode β'} (h : Agree drawing R x y)
    (hnext : ∀ a b, R a b → Agree drawing S (f a) (g b)) :
    Agree drawing S (x >>= f) (y >>= g) := by
  intro supply supply' c last hrun
  rw [outcome_bind] at hrun
  obtain ⟨⟨a, next⟩, hfirst, hsecond⟩ := Option.bind_eq_some_iff.mp hrun
  obtain ⟨b, next', hfirst', hab, hdraws⟩ := h supply supply' a next hfirst
  obtain ⟨d, last', hsecond', hcd, hdraws'⟩ := hnext a b hab next next' c last hsecond
  refine ⟨d, last', ?_, hcd, fun hstill => ?_⟩
  · rw [outcome_bind, hfirst', Option.bind_some, hsecond']
  · obtain ⟨rfl, rfl⟩ := hdraws hstill
    exact hdraws' hstill

theorem agree_map {α' β' : Type} {S : α' → β' → Prop} {x : Decode α} {y : Decode β} {f : α → α'}
    {g : β → β'} (h : Agree drawing R x y) (hmap : ∀ a b, R a b → S (f a) (g b)) :
    Agree drawing S (f <$> x) (g <$> y) := by
  rw [map_eq_pure_bind, map_eq_pure_bind]
  exact agree_bind h (fun a b hab => agree_pure (hmap a b hab))

theorem agree_ite {c : Prop} [Decidable c] {x x' : Decode α} {y y' : Decode β}
    (h : Agree drawing R x y) (h' : Agree drawing R x' y') :
    Agree drawing R (if c then x else x') (if c then y else y') := by
  split
  · exact h
  · exact h'

theorem Agree.mono {S : α → β → Prop} {x : Decode α} {y : Decode β} (h : Agree drawing R x y)
    (hRS : ∀ a b, R a b → S a b) : Agree drawing S x y := by
  intro supply supply' a next hrun
  obtain ⟨b, next', hrun', hab, hdraws⟩ := h supply supply' a next hrun
  exact ⟨b, next', hrun', hRS a b hab, hdraws⟩

/-- A reading that draws nothing counts among those that may draw. -/
theorem Still.steady {x : Decode α} (h : Still x) : Steady drawing Eq x := by
  intro supply supply' a next hrun
  obtain ⟨b, next', hrun', hab, hdraws⟩ := h supply supply' a next hrun
  exact ⟨b, next', hrun', hab, fun _ => hdraws rfl⟩

theorem Still.cases {x : Decode α} (h : Still x) :
    Fails x ∨ ∃ a, ∀ supply, outcome x supply = some (a, supply) := by
  cases hzero : outcome x 0 with
  | none =>
      refine .inl (fun supply => ?_)
      by_contra hsome
      obtain ⟨⟨a, next⟩, hrun⟩ := Option.ne_none_iff_exists'.mp hsome
      obtain ⟨b, next', hrun', -⟩ := h supply 0 a next hrun
      rw [hzero] at hrun'
      cases hrun'
  | some result =>
      obtain ⟨a, next⟩ := result
      refine .inr ⟨a, fun supply => ?_⟩
      obtain ⟨b, next', hrun', rfl, hdraws⟩ := h 0 supply a next hzero
      rw [hrun', (hdraws rfl).2]

/-! ### Change of places -/

/-- **Two readings, of which one draws no number, may change places.** -/
theorem alike_swap {x : Decode α} {y : Decode β} {k k' : α → β → Decode γ}
    (hstill : Still x ∨ Still y)
    (hk : ∀ a b, Yields x a → Yields y b → Alike (k a b) (k' a b)) :
    Alike (x >>= fun a => y >>= fun b => k a b) (y >>= fun b => x >>= fun a => k' a b) := by
  intro supply
  simp only [outcome_bind]
  rcases hstill with hx | hy
  · rcases hx.cases with hfails | ⟨a, ha⟩
    · simp [hfails _]
    · simp only [ha, Option.bind_some]
      cases hb : outcome y supply with
      | none => rfl
      | some result =>
          exact hk a result.1 ⟨supply, supply, ha supply⟩ ⟨supply, result.2, hb⟩ result.2
  · rcases hy.cases with hfails | ⟨b, hb⟩
    · simp [hfails _]
    · simp only [hb, Option.bind_some]
      cases ha : outcome x supply with
      | none => rfl
      | some result =>
          exact hk result.1 b ⟨supply, result.2, ha⟩ ⟨supply, supply, hb supply⟩ result.2

end Decode

/-! ### Codecs -/

namespace Codec

open Decode

variable {α β : Type} {drawing : Bool}

/-- The codec reads the same from all supplies, up to the relation. -/
def Steady (drawing : Bool) (R : α → α → Prop) (codec : Codec α) : Prop :=
  ∀ depth json, Decode.Steady drawing R (codec.decode depth json)

/-- The codec reads the same from all supplies and draws no number. -/
abbrev Still (codec : Codec α) : Prop := codec.Steady false Eq

theorem fails_wrongType (json : Json) (wanted : String) :
    Fails (wrongType json wanted : Decode α) := outcome_wrongType json wanted

theorem fails_unfit (misfit : Misfit) : Fails (unfit misfit : Decode α) := outcome_unfit misfit

theorem fails_malformed : Fails (malformed : Decode α) := outcome_malformed

@[simp] theorem still_text : text.Still := by
  intro depth json
  cases json with
  | text s => exact agree_pure rfl
  | _ => exact (fails_wrongType _ _).agree

@[simp] theorem still_int64 : int64.Still := by
  intro depth json
  cases json with
  | number numeral =>
      simp only [int64]
      split
      · exact agree_ite (agree_pure rfl) (fails_unfit _).agree
      · exact (fails_wrongType _ _).agree
  | _ => exact (fails_wrongType _ _).agree

@[simp] theorem still_option {codec : Codec α} (h : codec.Still) : (option codec).Still := by
  intro depth json
  simp only [option]
  split
  · exact agree_pure rfl
  · exact agree_map (h depth _) (fun a b hab => congrArg some hab)

@[simp] theorem still_map {codec : Codec α} (h : codec.Still) (view : β → α) (make : α → β) :
    (codec.map view make).Still := by
  intro depth json
  exact agree_map (h depth json) (fun a b hab => congrArg make hab)

@[simp] theorem still_word [Vocabulary α] : (word : Codec α).Still := by
  intro depth json
  refine agree_bind (still_text depth json) ?_
  rintro s _ rfl
  split
  · exact agree_pure rfl
  · exact (fails_unfit _).agree

@[simp] theorem still_optionalWord [Vocabulary α] : (optionalWord : Codec (Option α)).Still := by
  intro depth json
  refine agree_bind (still_option still_text depth json) ?_
  rintro s? _ rfl
  split
  · exact agree_pure rfl
  · split
    · exact agree_pure rfl
    · exact (fails_unfit _).agree

theorem decodeItems_steady {codec : Codec α} {R : α → α → Prop} (h : codec.Steady drawing R)
    (depth : Nat) (items : List Json) :
    Decode.Steady drawing (List.Forall₂ R) (decodeItems codec depth items) := by
  induction items with
  | nil => exact agree_pure .nil
  | cons item items ih =>
      refine agree_bind (h depth item) (fun a b hab => ?_)
      exact agree_bind ih (fun as bs hrest => agree_pure (.cons hab hrest))

theorem steady_list {codec : Codec α} {R : α → α → Prop} (h : codec.Steady drawing R) :
    (list codec).Steady drawing (List.Forall₂ R) := by
  intro depth json
  cases json with
  | list items closed =>
      cases depth with
      | zero => exact fails_malformed.agree
      | succ depth =>
          refine agree_bind (decodeItems_steady h depth items) (fun as bs hrest => ?_)
          exact agree_ite (agree_pure hrest) fails_malformed.agree
  | _ => exact (fails_wrongType _ _).agree

@[simp] theorem still_list {codec : Codec α} (h : codec.Still) : (list codec).Still := by
  have hlist := steady_list h
  rwa [List.forall₂_eq_eq_eq] at hlist

/-- A text that is read is read from the value that stands in it. -/
theorem outcome_ofJson {codec : Codec α} {text : String} {supply next : Nat} {a : α}
    (h : outcome (codec.ofText text) supply = some (a, next)) :
    outcome (codec.ofJson (Json.read text).1) supply = some (a, next) := by
  rw [ofText, outcome_bind] at h
  obtain ⟨⟨b, last⟩, hjson, hend⟩ := Option.bind_eq_some_iff.mp h
  split at hend
  · cases hend
    exact hjson
  · cases hend

/-! ### Lists -/

/-- One item of a list is exchanged for a related one. -/
inductive InItem (R : Json → Json → Prop) : Json → Json → Prop where
  | item {before after : List Json} {closed : Bool} {value other : Json} (h : R value other) :
      InItem R (.list (before ++ value :: after) closed) (.list (before ++ other :: after) closed)

theorem decodeItems_alike {codec : Codec α} {depth : Nat} {value other : Json}
    (h : Alike (codec.decode depth value) (codec.decode depth other)) (before after : List Json) :
    Alike (decodeItems codec depth (before ++ value :: after))
      (decodeItems codec depth (before ++ other :: after)) := by
  induction before with
  | nil => exact alike_bind h (fun a => alike_refl _)
  | cons item before ih =>
      exact alike_bind (alike_refl _) (fun a => alike_bind ih (fun as => alike_refl _))

theorem list_alike {codec : Codec α} {R : Json → Json → Prop}
    (h : ∀ depth value other, R value other →
      Alike (codec.decode depth value) (codec.decode depth other))
    {depth : Nat} {value other : Json} (hitem : InItem R value other) :
    Alike ((list codec).decode depth value) ((list codec).decode depth other) := by
  obtain @⟨before, after, closed, item, item', hitems⟩ := hitem
  cases depth with
  | zero => exact alike_refl _
  | succ depth =>
      exact alike_bind (decodeItems_alike (h depth item item' hitems) before after)
        (fun as => alike_refl _)

end Codec

end LanguageBlueprint
