/-
  LanguageBlueprint/Proofs/Desk/Interleaving.lean
  ===============================================
  **Generations that overlap.**  Any number of calls pass over one desk.  A call is
  started once; later the service answers it, or its caller gives it up.  A
  session keeps the desk together with a record of every call, and its events
  come in any order; an event about a call that is over changes nothing.

    * the desk marks the names of the calls that are out — `Orderly`, `orderly_run`;
    * waiting for the answer is two events in a row      — `call_generate`;
    * what a session guarantees                          — `generations_interleave`.
-/
import LanguageBlueprint.Desk
import Mathlib.Data.List.Induction
import Mathlib.Data.List.Nodup
import Mathlib.Tactic.Tauto

namespace LanguageBlueprint.Desk

/-! ### Sessions -/

/-- How far a call has come. -/
inductive Progress where
  /-- It was not let out. -/
  | refused (failure : Failure)
  /-- It was let out, and nothing has come back. -/
  | waiting
  /-- The service has answered it. -/
  | answered (answer : Except Failure GenerationResult)
  /-- Its caller has given it up while it was out. -/
  | abandoned

structure Call where
  request : GenerateRequest
  progress : Progress

namespace Call

def name (call : Call) : String := call.request.blueprint.name

def isOut (call : Call) : Bool :=
  match call.progress with
  | .waiting => true
  | _ => false

/-- Whether the call has brought a language. -/
def succeeded (call : Call) : Bool :=
  match call.progress with
  | .answered answer => isOk answer
  | _ => false

end Call

/-- The names of the calls that are out. -/
def namesOut (calls : List Call) : List String := (calls.filter Call.isOut).map Call.name

/-- A desk and the calls that were started at it, in their order. -/
structure Session where
  desk : Desk := {}
  calls : List Call := []

/-- What happens to calls; those that were started are told apart by their places. -/
inductive Event where
  | started (request : GenerateRequest)
  | answered (place : Nat) (answer : Except Failure GenerationResult)
  | abandoned (place : Nat)

namespace Session

def start (session : Session) (request : GenerateRequest) : Session :=
  match session.desk.dispatch request.blueprint with
  | .error failure => { session with calls := session.calls ++ [⟨request, .refused failure⟩] }
  | .ok desk => ⟨desk, session.calls ++ [⟨request, .waiting⟩]⟩

/-- Ends a call that is out. -/
def finish (session : Session) (place : Nat) (progress : Progress)
    (clear : Desk → String → Desk) : Session :=
  match session.calls[place]? with
  | some ⟨request, .waiting⟩ =>
      ⟨clear session.desk request.blueprint.name, session.calls.set place ⟨request, progress⟩⟩
  | _ => session

def step (session : Session) : Event → Session
  | .started request => session.start request
  | .answered place answer =>
      session.finish place (.answered answer) (fun desk name => desk.resolve name (isOk answer))
  | .abandoned place => session.finish place .abandoned abandon

/-- The session after some events, from a fresh desk. -/
def run (events : List Event) : Session := events.foldl step {}

theorem run_append (events : List Event) (event : Event) :
    run (events ++ [event]) = (run events).step event := by
  rw [run, List.foldl_append]
  rfl

/-! ### What an event does -/

theorem start_cases (session : Session) (request : GenerateRequest) :
    (request.blueprint.permitsGenerate = false ∧
      session.start request = { session with calls := session.calls ++
        [⟨request, .refused (.invalid request.blueprint.review)⟩] }) ∨
    (request.blueprint.permitsGenerate = true ∧
      request.blueprint.name ∈ session.desk.outstanding ∧
      session.start request = { session with calls := session.calls ++
        [⟨request, .refused (.generationInProgress request.blueprint.name)⟩] }) ∨
    (request.blueprint.permitsGenerate = true ∧
      request.blueprint.name ∉ session.desk.outstanding ∧
      session.start request =
        ⟨{ session.desk with outstanding := request.blueprint.name :: session.desk.outstanding },
          session.calls ++ [⟨request, .waiting⟩]⟩) := by
  unfold start dispatch isGenerating
  by_cases hpermits : request.blueprint.permitsGenerate = true
  · by_cases hout : request.blueprint.name ∈ session.desk.outstanding
    · right; left
      simp [hpermits, hout]
    · right; right
      simp [hpermits, hout]
  · left
    simp [hpermits]

theorem finish_cases (session : Session) (place : Nat) (progress : Progress)
    (clear : Desk → String → Desk) :
    (∃ call, session.calls[place]? = some call ∧ call.isOut = true ∧
      session.finish place progress clear =
        ⟨clear session.desk call.name, session.calls.set place { call with progress }⟩) ∨
    ((∀ call : Call, session.calls[place]? = some call → call.isOut = false) ∧
      session.finish place progress clear = session) := by
  unfold finish
  split
  · rename_i request hcall
    exact .inl ⟨⟨request, .waiting⟩, hcall, rfl, rfl⟩
  · rename_i hother
    refine .inr ⟨fun call hcall => ?_, rfl⟩
    obtain ⟨request, progress⟩ := call
    cases progress with
    | waiting => exact absurd hcall (hother request)
    | refused failure => rfl
    | answered answer => rfl
    | abandoned => rfl

/-! ### The order that is kept -/

theorem namesOut_append (before after : List Call) :
    namesOut (before ++ after) = namesOut before ++ namesOut after := by
  simp only [namesOut, List.filter_append, List.map_append]

theorem namesOut_cons_out {call : Call} (h : call.isOut = true) (calls : List Call) :
    namesOut (call :: calls) = call.name :: namesOut calls := by
  simp only [namesOut, List.filter_cons, h, if_true, List.map_cons]

theorem namesOut_cons_over {call : Call} (h : call.isOut = false) (calls : List Call) :
    namesOut (call :: calls) = namesOut calls := by
  simp only [namesOut, List.filter_cons, h, Bool.false_eq_true, if_false]

/-- The desk knows which calls are out, no two for one language, and what was brought. -/
structure Orderly (session : Session) : Prop where
  marked : session.desk.outstanding.Perm (namesOut session.calls)
  distinct : (namesOut session.calls).Nodup
  generated : ∀ name, name ∈ session.desk.generated ↔
    ∃ call : Call, call ∈ session.calls ∧ call.succeeded = true ∧ call.name = name

theorem orderly_fresh : Orderly {} where
  marked := .nil
  distinct := .nil
  generated := by simp

theorem orderly_refused {session : Session} (h : session.Orderly) (request : GenerateRequest)
    (failure : Failure) :
    Orderly { session with calls := session.calls ++ [⟨request, .refused failure⟩] } := by
  have hnames : namesOut (session.calls ++ [⟨request, .refused failure⟩]) =
      namesOut session.calls := by
    rw [namesOut_append, namesOut_cons_over rfl]
    exact List.append_nil _
  refine ⟨hnames ▸ h.marked, hnames ▸ h.distinct, fun name => ?_⟩
  rw [h.generated name]
  simp [Call.succeeded, or_and_right, exists_or]

theorem orderly_start {session : Session} (h : session.Orderly) (request : GenerateRequest) :
    (session.start request).Orderly := by
  rcases start_cases session request with ⟨-, hstart⟩ | ⟨-, -, hstart⟩ | ⟨-, hout, hstart⟩
  · rw [hstart]
    exact orderly_refused h request _
  · rw [hstart]
    exact orderly_refused h request _
  · rw [hstart]
    have hnames : namesOut (session.calls ++ [⟨request, .waiting⟩]) =
        namesOut session.calls ++ [request.blueprint.name] := by
      rw [namesOut_append, namesOut_cons_out rfl]
      rfl
    -- the new mark stands in front, the new call behind all others
    have hmarked : (request.blueprint.name :: session.desk.outstanding).Perm
        (namesOut session.calls ++ [request.blueprint.name]) :=
      (h.marked.cons _).trans (List.perm_append_singleton _ _).symm
    refine ⟨hnames ▸ hmarked, ?_, fun name => ?_⟩
    · rw [hnames, ← hmarked.nodup_iff, List.nodup_cons]
      exact ⟨hout, h.marked.nodup_iff.mpr h.distinct⟩
    · simp [h.generated name, Call.succeeded, or_and_right, exists_or]

theorem exists_between {calls : List Call} {place : Nat} {call : Call}
    (h : calls[place]? = some call) :
    ∃ before after, calls = before ++ call :: after ∧
      ∀ other, calls.set place other = before ++ other :: after := by
  obtain ⟨hplace, hcall⟩ := List.getElem?_eq_some_iff.mp h
  refine ⟨calls.take place, calls.drop (place + 1), ?_, fun other => ?_⟩
  · rw [← hcall, List.getElem_cons_drop, List.take_append_drop]
  · exact List.set_eq_take_append_cons_drop.trans (if_pos hplace)

/-- Ending a call clears its own name, and adds the language if it was brought. -/
theorem orderly_finish {session : Session} (h : session.Orderly) (place : Nat)
    {progress : Progress} {clear : Desk → String → Desk}
    (hover : ∀ request, Call.isOut ⟨request, progress⟩ = false)
    (houtstanding : ∀ desk name, (clear desk name).outstanding = desk.outstanding.erase name)
    (hgenerated : ∀ desk request name,
      name ∈ (clear desk (Call.name ⟨request, progress⟩)).generated ↔
        name ∈ desk.generated ∨
        (Call.succeeded ⟨request, progress⟩ = true ∧ Call.name ⟨request, progress⟩ = name)) :
    (session.finish place progress clear).Orderly := by
  rcases finish_cases session place progress clear with ⟨call, hcall, hout, hfinish⟩ | ⟨-, hfinish⟩
  · obtain ⟨before, after, hcalls, hset⟩ := exists_between hcall
    -- the name of the call is among those that are out, and after the call ends only the others are
    have hnames : (namesOut session.calls).Perm
        (call.name :: namesOut (session.calls.set place { call with progress })) := by
      rw [hset, hcalls, namesOut_append, namesOut_append, namesOut_cons_out hout,
        namesOut_cons_over (hover call.request)]
      exact List.perm_middle
    have hunsuccessful : call.succeeded = false := by
      obtain ⟨request, progress⟩ := call
      cases progress with
      | waiting => rfl
      | refused failure => cases hout
      | answered answer => cases hout
      | abandoned => cases hout
    rw [hfinish]
    refine ⟨?_, ?_, fun name => ?_⟩
    · have hmarked := (h.marked.trans hnames).erase call.name
      rw [List.erase_cons_head] at hmarked
      exact houtstanding session.desk call.name ▸ hmarked
    · exact (List.nodup_cons.mp (hnames.nodup_iff.mp h.distinct)).2
    · refine (hgenerated session.desk call.request name).trans ?_
      rw [h.generated name, hset, hcalls]
      simp only [List.mem_append, List.mem_cons, or_and_right, exists_or, exists_eq_left,
        hunsuccessful, Bool.false_eq_true, false_and, false_or]
      exact or_assoc.trans (or_congr_right or_comm)
  · rw [hfinish]
    exact h

theorem orderly_step {session : Session} (h : session.Orderly) (event : Event) :
    (session.step event).Orderly := by
  cases event with
  | started request => exact orderly_start h request
  | answered place answer =>
      rw [step]
      refine orderly_finish h place ?_ ?_ ?_
      · exact fun _ => rfl
      · exact fun desk name => outstanding_resolve desk name (isOk answer)
      · intro desk request name
        rw [mem_generated_resolve, eq_comm (a := name)]
        rfl
  | abandoned place =>
      rw [step]
      refine orderly_finish h place ?_ ?_ ?_
      · exact fun _ => rfl
      · exact fun _ _ => rfl
      · intro desk request name
        simp [abandon, Call.succeeded]

theorem orderly_run (events : List Event) : (run events).Orderly := by
  -- on the events from the last one, since a session is what the earlier ones left
  induction events using List.reverseRecOn with
  | nil => exact orderly_fresh
  | append_singleton events event ih =>
      rw [run_append]
      exact orderly_step ih event

/-! ### What a session guarantees -/

theorem mem_namesOut {calls : List Call} {name : String} :
    name ∈ namesOut calls ↔ ∃ call : Call, call ∈ calls ∧ call.isOut = true ∧ call.name = name := by
  simp only [namesOut, List.mem_map, List.mem_filter, and_assoc]

/-- What becomes of a call that is started now. -/
structure StartsAs (session : Session) (request : GenerateRequest) (progress : Progress) :
    Prop where
  recorded : (session.start request).calls = session.calls ++ [⟨request, progress⟩]
  invalid : request.blueprint.permitsGenerate = false →
    progress = .refused (.invalid request.blueprint.review)
  busy : request.blueprint.permitsGenerate = true →
    (progress = .refused (.generationInProgress request.blueprint.name) ↔
      request.blueprint.name ∈ namesOut session.calls)
  letOut : request.blueprint.permitsGenerate = true →
    (progress = .waiting ↔ request.blueprint.name ∉ namesOut session.calls)
  untouched : progress ≠ .waiting → (session.start request).desk = session.desk

theorem exists_startsAs {session : Session} (h : session.Orderly) (request : GenerateRequest) :
    ∃ progress, session.StartsAs request progress := by
  rcases start_cases session request with
    ⟨hinvalid, hstart⟩ | ⟨hclean, hout, hstart⟩ | ⟨hclean, hout, hstart⟩
  · refine ⟨_, congrArg Session.calls hstart, fun _ => rfl, ?_, ?_, fun _ => by rw [hstart]⟩
    · exact fun hclean => absurd hclean (by simp [hinvalid])
    · exact fun hclean => absurd hclean (by simp [hinvalid])
  · rw [h.marked.mem_iff] at hout
    refine ⟨_, congrArg Session.calls hstart, ?_, ?_, ?_, fun _ => by rw [hstart]⟩
    · exact fun hinvalid => absurd hclean (by simp [hinvalid])
    · exact fun _ => ⟨fun _ => hout, fun _ => rfl⟩
    · exact fun _ => ⟨fun hwaiting => (nomatch hwaiting), fun hfree => absurd hout hfree⟩
  · rw [h.marked.mem_iff] at hout
    refine ⟨.waiting, congrArg Session.calls hstart, ?_, ?_, ?_, fun hover => absurd rfl hover⟩
    · exact fun hinvalid => absurd hclean (by simp [hinvalid])
    · exact fun _ => ⟨fun hrefused => (nomatch hrefused), fun hbusy => absurd hbusy hout⟩
    · exact fun _ => ⟨fun _ => hout, fun _ => rfl⟩

theorem finish_over {session : Session} {place : Nat}
    (h : ∀ call : Call, session.calls[place]? = some call → call.isOut = false)
    (progress : Progress) (clear : Desk → String → Desk) :
    session.finish place progress clear = session := by
  rcases finish_cases session place progress clear with ⟨call, hcall, hout, -⟩ | ⟨-, hfinish⟩
  · rw [h call hcall] at hout
    cases hout
  · exact hfinish

/-- To wait at the desk for the answer is to start a call and to have it answered next. -/
theorem call_generate {σ : Type} (service : Service σ) (session : Session) (s : σ)
    (request : GenerateRequest) :
    (call service (.generate request) (session.desk, s)).2.1 =
      ((session.step (.started request)).step
        (.answered session.calls.length (service (.generate request) s).1)).desk := by
  rw [call, step, step, start]
  cases hdispatch : session.desk.dispatch request.blueprint with
  | error failure => simp [finish]
  | ok desk => simp [finish]

/-- **However generations overlap**, the markers are the names of the calls that are out, each a
single time; the languages generated are those that a call has brought; a call with a clean
blueprint is held back exactly if one for its own name is out; and a call that is held back, or
is over, touches no marker.  What the desk does for a caller who waits is among these runs. -/
theorem generations_interleave (events : List Event) (request : GenerateRequest) :
    (∀ name, (run events).desk.isGenerating name = true ↔
      ∃ call : Call, call ∈ (run events).calls ∧ call.isOut = true ∧ call.name = name) ∧
    ((run events).desk.outstanding.Perm (namesOut (run events).calls) ∧
      (namesOut (run events).calls).Nodup) ∧
    (∀ name, (run events).desk.hasGenerated name = true ↔
      ∃ call : Call, call ∈ (run events).calls ∧ call.succeeded = true ∧ call.name = name) ∧
    (∃ progress, (run events).StartsAs request progress) ∧
    (∀ place, (∀ call : Call, (run events).calls[place]? = some call → call.isOut = false) →
      run (events ++ [Event.abandoned place]) = run events ∧
      ∀ answer, run (events ++ [Event.answered place answer]) = run events) ∧
    (∀ (σ : Type) (service : Service σ) (s : σ),
      (call service (.generate request) ((run events).desk, s)).2.1 =
        (run (events ++ [Event.started request] ++
          [Event.answered (run events).calls.length (service (.generate request) s).1])).desk) := by
  have horderly := orderly_run events
  refine ⟨fun name => ?_, ⟨horderly.marked, horderly.distinct⟩, fun name => ?_,
    exists_startsAs horderly request, fun place hover => ⟨?_, fun answer => ?_⟩,
    fun σ service s => ?_⟩
  · rw [isGenerating, List.contains_iff_mem, horderly.marked.mem_iff]
    exact mem_namesOut
  · rw [hasGenerated, List.contains_iff_mem]
    exact horderly.generated name
  · rw [run_append, step, finish_over hover]
  · rw [run_append, step, finish_over hover]
  · rw [run_append, run_append]
    exact call_generate service (run events) s request

end Session

end LanguageBlueprint.Desk
