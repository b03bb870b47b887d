/-
  LanguageBlueprint/Desk.lean
  ===========================
  **The desk in front of a service.**  Every request passes over a desk, which
  applies the rules that need no service: a blueprint with blocking findings is
  not sent to be stored, one with any finding is not sent to be generated, and at
  most one generation for a language is out at a time.  What a service answers is
  handed on as it is, except that an empty archive is refused.

  A generation is let out, and later it is resolved by an answer or abandoned
  without one; in between, other requests pass.

    * when a generation is let out                  — `dispatch_eq_ok_iff`;
    * an end, of whatever kind, clears one marker   — `outstanding_resolve`;
    * only success is remembered                    — `mem_generated_resolve`.
-/
import LanguageBlueprint.Exchange.Message
import LanguageBlueprint.Review.Check

namespace LanguageBlueprint

/-- The desk: the names of the languages whose generation is out, and of those generated. -/
structure Desk where
  outstanding : List String := []
  generated : List String := []
deriving DecidableEq, Repr

namespace Desk

def isGenerating (desk : Desk) (name : String) : Bool := desk.outstanding.contains name

/-- Whether a generation for the language has succeeded. -/
def hasGenerated (desk : Desk) (name : String) : Bool := desk.generated.contains name

/-- Lets a generation out, if the blueprint has no findings and none is out for its name. -/
def dispatch (desk : Desk) (b : Blueprint) : Except Failure Desk :=
  if !b.permitsGenerate then .error (.invalid b.review)
  else if desk.isGenerating b.name then .error (.generationInProgress b.name)
  else .ok { desk with outstanding := b.name :: desk.outstanding }

/-- The generation for the language ends without an answer. -/
def abandon (desk : Desk) (name : String) : Desk :=
  { desk with outstanding := desk.outstanding.erase name }

/-- The generation for the language ends with an answer. -/
def resolve (desk : Desk) (name : String) (succeeded : Bool) : Desk :=
  let after := desk.abandon name
  if succeeded && !after.generated.contains name then
    { after with generated := name :: after.generated }
  else after

def acceptArchive (name : String) : Except Failure Archive → Except Failure Archive
  | .ok archive => if archive.isEmpty then .error (.emptyArchive name) else .ok archive
  | .error failure => .error failure

def isOk {α : Type} : Except Failure α → Bool
  | .ok _ => true
  | .error _ => false

/-- Passes a request on to a service and waits for its answer. -/
def call {σ : Type} (service : Service σ) :
    (request : Request) → Desk × σ → Except Failure request.Answer × (Desk × σ)
  | .save b, (desk, s) =>
      if !b.permitsSave then (.error (.invalid b.blocking), (desk, s))
      else
        let (answer, s) := service (.save b) s
        (answer, (desk, s))
  | .update name b, (desk, s) =>
      if !b.permitsSave then (.error (.invalid b.blocking), (desk, s))
      else
        let (answer, s) := service (.update name b) s
        (answer, (desk, s))
  | .fetch name, (desk, s) =>
      let (answer, s) := service (.fetch name) s
      (answer, (desk, s))
  | .list, (desk, s) =>
      let (answer, s) := service .list s
      (answer, (desk, s))
  | .delete name, (desk, s) =>
      let (answer, s) := service (.delete name) s
      (answer, (desk, s))
  | .generate request, (desk, s) =>
      match desk.dispatch request.blueprint with
      | .error failure => (.error failure, (desk, s))
      | .ok desk =>
          let (answer, s) := service (.generate request) s
          (answer, (desk.resolve request.blueprint.name (isOk answer), s))
  | .download name, (desk, s) =>
      let (answer, s) := service (.download name) s
      (acceptArchive name answer, (desk, s))

/-! ### What is out and what was generated -/

/-- A generation is let out exactly when the blueprint has no findings and none is out for its
name; the name is then marked. -/
theorem dispatch_eq_ok_iff {desk after : Desk} {b : Blueprint} :
    desk.dispatch b = .ok after ↔
      b.permitsGenerate = true ∧ desk.isGenerating b.name = false ∧
      after = { desk with outstanding := b.name :: desk.outstanding } := by
  unfold dispatch
  by_cases hp : b.permitsGenerate = true
  · by_cases hg : desk.isGenerating b.name = true
    · simp [hp, hg]
    · simp [hp, hg, eq_comm]
  · simp [hp]

/-- A language counts as generated when one of its generations has ended with success. -/
theorem mem_generated_resolve {desk : Desk} {name other : String} {succeeded : Bool} :
    other ∈ (desk.resolve name succeeded).generated ↔
      other ∈ desk.generated ∨ (succeeded = true ∧ other = name) := by
  simp only [resolve, abandon]
  cases succeeded with
  | false => simp
  | true =>
      by_cases hc : name ∈ desk.generated
      · simp only [Bool.true_and, List.contains_eq_mem, hc, decide_true, Bool.not_true,
          Bool.false_eq_true, if_false, true_and]
        exact ⟨.inl, fun h => h.elim id (fun e => e ▸ hc)⟩
      · simp [hc, or_comm]

/-- An end with an answer clears the same marker as one without. -/
theorem outstanding_resolve (desk : Desk) (name : String) (succeeded : Bool) :
    (desk.resolve name succeeded).outstanding = desk.outstanding.erase name := by
  unfold resolve
  dsimp only
  split <;> rfl

end Desk

end LanguageBlueprint
