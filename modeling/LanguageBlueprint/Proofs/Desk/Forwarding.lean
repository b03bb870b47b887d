/-
  LanguageBlueprint/Proofs/Desk/Forwarding.lean
  =============================================
  **What reaches the service behind a desk.**  The service may answer anything, and
  it records what it receives.  Of every request that passes over the desk, it
  either receives nothing, and the caller is told why, or it receives the request
  as it is, a single time, and its answer is handed on.  A blueprint that it
  receives has none of the findings that forbid what is asked.

    * one request           — `handled_call`;
    * any requests          — `forwarded_after`;
    * the whole             — `forwards_only_clean`.
-/
import LanguageBlueprint.Desk
import LanguageBlueprint.Exchange.Message
import Mathlib.Data.List.Induction

namespace LanguageBlueprint

/-- The findings for which a request is not sent on, in the order of the rules. -/
def Request.findings : Request → List Violation
  | .save b => b.blocking
  | .update _ b => b.blocking
  | .generate wanted => wanted.blueprint.review
  | .fetch _ => []
  | .list => []
  | .delete _ => []
  | .download _ => []

namespace Desk

variable {σ : Type}

/-- Whether a generation for the language that the request is to generate is out. -/
def IsBusy (desk : Desk) (request : Request) : Prop :=
  ∃ wanted, request = .generate wanted ∧ desk.isGenerating wanted.blueprint.name = true

/-- The answer of the service as the caller gets it: only an archive without bytes is refused. -/
def handedOn : (request : Request) → Except Failure request.Answer → Except Failure request.Answer
  | .download _, .error failure => .error failure
  | .download name, .ok archive =>
      if archive.isEmpty then .error (.emptyArchive name) else .ok archive
  | .save _, answer => answer
  | .fetch _, answer => answer
  | .list, answer => answer
  | .update _ _, answer => answer
  | .delete _, answer => answer
  | .generate _, answer => answer

/-- The desk after the answer to a request that was sent. -/
def afterAnswer (desk : Desk) : (request : Request) → Except Failure request.Answer → Desk
  | .generate wanted, answer =>
      resolve { desk with outstanding := wanted.blueprint.name :: desk.outstanding }
        wanted.blueprint.name (isOk answer)
  | .save _, _ => desk
  | .fetch _, _ => desk
  | .list, _ => desk
  | .update _ _, _ => desk
  | .delete _, _ => desk
  | .download _, _ => desk

/-! ### One request -/

theorem permitsSave_iff (b : Blueprint) : b.permitsSave = true ↔ b.blocking = [] :=
  List.isEmpty_iff

theorem permitsGenerate_iff (b : Blueprint) : b.permitsGenerate = true ↔ b.review = [] :=
  List.isEmpty_iff

/-- A request with findings is refused with these, and nothing happens. -/
theorem call_of_findings (service : Service σ) {request : Request} (h : request.findings ≠ [])
    (desk : Desk) (s : σ) :
    call service request (desk, s) = (.error (.invalid request.findings), (desk, s)) := by
  cases request with
  | save b =>
      have hblocked : b.permitsSave = false := by
        rw [← Bool.not_eq_true, permitsSave_iff]
        exact h
      simp only [call, hblocked, Bool.not_false, if_true, Request.findings]
  | update name b =>
      have hblocked : b.permitsSave = false := by
        rw [← Bool.not_eq_true, permitsSave_iff]
        exact h
      simp only [call, hblocked, Bool.not_false, if_true, Request.findings]
  | generate wanted =>
      have hblocked : wanted.blueprint.permitsGenerate = false := by
        rw [← Bool.not_eq_true, permitsGenerate_iff]
        exact h
      simp only [call, dispatch, hblocked, Bool.not_false, if_true, Request.findings]
  | fetch name => exact absurd rfl h
  | list => exact absurd rfl h
  | delete name => exact absurd rfl h
  | download name => exact absurd rfl h

theorem call_of_busy (service : Service σ) {wanted : GenerateRequest} {desk : Desk}
    (hclean : (Request.generate wanted).findings = [])
    (hout : desk.isGenerating wanted.blueprint.name = true) (s : σ) :
    call service (.generate wanted) (desk, s) =
      (.error (.generationInProgress wanted.blueprint.name), (desk, s)) := by
  have hpermits := (permitsGenerate_iff wanted.blueprint).mpr hclean
  simp only [call, dispatch, hpermits, hout, Bool.not_true, Bool.false_eq_true, if_false, if_true]

/-- Every other request is sent, and what the service answers is handed on. -/
theorem call_of_sent (service : Service σ) {request : Request} {desk : Desk}
    (hclean : request.findings = []) (hfree : ¬ desk.IsBusy request) (s : σ) :
    call service request (desk, s) =
      (handedOn request (service request s).1,
        (desk.afterAnswer request (service request s).1, (service request s).2)) := by
  cases request with
  | save b =>
      have hpermits := (permitsSave_iff b).mpr hclean
      simp only [call, hpermits, Bool.not_true, Bool.false_eq_true, if_false, handedOn, afterAnswer]
  | update name b =>
      have hpermits := (permitsSave_iff b).mpr hclean
      simp only [call, hpermits, Bool.not_true, Bool.false_eq_true, if_false, handedOn, afterAnswer]
  | generate wanted =>
      have hpermits := (permitsGenerate_iff wanted.blueprint).mpr hclean
      have hout : desk.isGenerating wanted.blueprint.name = false := by
        rw [← Bool.not_eq_true]
        intro hout
        exact hfree ⟨wanted, rfl, hout⟩
      simp only [call, dispatch, hpermits, hout, Bool.not_true, Bool.false_eq_true, if_false,
        handedOn, afterAnswer]
  | fetch name => rfl
  | list => rfl
  | delete name => rfl
  | download name =>
      simp only [call, afterAnswer]
      cases (service (.download name) s).1 with
      | error failure => rfl
      | ok archive => rfl

theorem outstanding_afterAnswer (desk : Desk) (request : Request)
    (answer : Except Failure request.Answer) :
    (desk.afterAnswer request answer).outstanding = desk.outstanding := by
  cases request with
  | generate wanted =>
      rw [afterAnswer, outstanding_resolve]
      exact List.erase_cons_head ..
  | save b => rfl
  | fetch name => rfl
  | list => rfl
  | update name b => rfl
  | delete name => rfl
  | download name => rfl

/-- No request leaves a mark behind or takes one away. -/
theorem outstanding_call (service : Service σ) (request : Request) (desk : Desk) (s : σ) :
    (call service request (desk, s)).2.1.outstanding = desk.outstanding := by
  by_cases hclean : request.findings = []
  · by_cases hbusy : desk.IsBusy request
    · obtain ⟨wanted, rfl, hout⟩ := hbusy
      rw [call_of_busy service hclean hout]
    · rw [call_of_sent service hclean hbusy]
      exact outstanding_afterAnswer desk request _
  · rw [call_of_findings service hclean]

/-! ### What the service receives -/

/-- What comes of a request: what the service receives of it, and what the caller is answered. -/
structure Handled (service : Service σ) (desk : Desk) (s : σ) (request : Request)
    (received : List Turn) (answer : Except Failure request.Answer) : Prop where
  invalid : request.findings ≠ [] → received = [] ∧ answer = .error (.invalid request.findings)
  busy : request.findings = [] → ∀ wanted, request = .generate wanted →
    desk.isGenerating wanted.blueprint.name = true →
    received = [] ∧ answer = .error (.generationInProgress wanted.blueprint.name)
  sent : request.findings = [] → ¬ desk.IsBusy request →
    received = [⟨request, (service request s).1⟩] ∧ answer = handedOn request (service request s).1

theorem handled_call (service : Service σ) (request : Request) (desk : Desk) (s : σ)
    (turns : List Turn) :
    ∃ received, (call (recorded service) request (desk, (s, turns))).2.2.2 = turns ++ received ∧
      Handled service desk s request received
        (call (recorded service) request (desk, (s, turns))).1 := by
  by_cases hclean : request.findings = []
  · by_cases hbusy : desk.IsBusy request
    · obtain ⟨wanted, rfl, hout⟩ := hbusy
      rw [call_of_busy (recorded service) hclean hout]
      refine ⟨[], (List.append_nil turns).symm, ?_, ?_, ?_⟩
      · intro hfindings
        exact absurd hclean hfindings
      · intro _ other hother _
        cases hother
        exact ⟨rfl, rfl⟩
      · intro _ hfree
        exact absurd ⟨wanted, rfl, hout⟩ hfree
    · rw [call_of_sent (recorded service) hclean hbusy]
      refine ⟨[⟨request, (service request s).1⟩], rfl, ?_, ?_, ?_⟩
      · intro hfindings
        exact absurd hclean hfindings
      · intro _ wanted hwanted hout
        exact absurd ⟨wanted, hwanted, hout⟩ hbusy
      · intro _ _
        exact ⟨rfl, rfl⟩
  · rw [call_of_findings (recorded service) hclean]
    refine ⟨[], (List.append_nil turns).symm, ?_, ?_, ?_⟩
    · intro _
      exact ⟨rfl, rfl⟩
    · intro hnone
      exact absurd hnone hclean
    · intro hnone
      exact absurd hnone hclean

/-- A service receives at most the request itself, and only if it has no findings. -/
theorem Handled.received_cases {service : Service σ} {desk : Desk} {s : σ} {request : Request}
    {received : List Turn} {answer : Except Failure request.Answer}
    (h : Handled service desk s request received answer) :
    received = [] ∨ (request.findings = [] ∧ received.map Turn.request = [request]) := by
  by_cases hclean : request.findings = []
  · by_cases hbusy : desk.IsBusy request
    · obtain ⟨wanted, hwanted, hout⟩ := hbusy
      exact .inl (h.busy hclean wanted hwanted hout).1
    · right
      rw [(h.sent hclean hbusy).1]
      exact ⟨hclean, rfl⟩
  · exact .inl (h.invalid hclean).1

/-! ### Any requests in a row -/

/-- The desk and its service after some requests, each made when the one before was answered. -/
def afterCalls (service : Service σ) (requests : List Request) (start : Desk × σ) : Desk × σ :=
  requests.foldl (fun state request => (call service request state).2) start

/-- What a service has received of some requests: some of these in their order, all of them
without findings. -/
structure Forwarded (requests : List Request) (turns : List Turn) : Prop where
  sublist : (turns.map Turn.request).Sublist requests
  clean : ∀ turn ∈ turns, turn.request.findings = []

theorem forwarded_append {requests : List Request} {turns received : List Turn} {request : Request}
    (h : Forwarded requests turns)
    (hreceived : received = [] ∨
      (request.findings = [] ∧ received.map Turn.request = [request])) :
    Forwarded (requests ++ [request]) (turns ++ received) := by
  rcases hreceived with rfl | ⟨hclean, hsame⟩
  · rw [List.append_nil]
    exact ⟨h.sublist.trans (List.sublist_append_left requests [request]), h.clean⟩
  · constructor
    · rw [List.map_append, hsame]
      exact h.sublist.append (List.Sublist.refl [request])
    · intro turn hturn
      rcases List.mem_append.mp hturn with hold | hnew
      · exact h.clean turn hold
      · have hin : turn.request ∈ received.map Turn.request := List.mem_map_of_mem hnew
        rw [hsame, List.mem_singleton] at hin
        rw [hin]
        exact hclean

theorem afterCalls_append (service : Service σ) (requests : List Request) (request : Request)
    (start : Desk × σ) :
    afterCalls service (requests ++ [request]) start =
      (call service request (afterCalls service requests start)).2 := by
  rw [afterCalls, List.foldl_append]
  rfl

theorem forwarded_afterCalls (service : Service σ) (desk : Desk) (s : σ)
    (requests : List Request) :
    (afterCalls (recorded service) requests (desk, (s, []))).1.outstanding = desk.outstanding ∧
    Forwarded requests (afterCalls (recorded service) requests (desk, (s, []))).2.2 := by
  -- on the requests from the last one, since the record grows at its end
  induction requests using List.reverseRecOn with
  | nil =>
      refine ⟨rfl, List.Sublist.refl [], ?_⟩
      intro turn hturn
      cases hturn
  | append_singleton requests request ih =>
      rw [afterCalls_append]
      obtain ⟨houtstanding, hforwarded⟩ := ih
      generalize afterCalls (recorded service) requests (desk, (s, [])) = state
        at houtstanding hforwarded ⊢
      obtain ⟨desk', s', turns⟩ := state
      constructor
      · rw [outstanding_call]
        exact houtstanding
      · obtain ⟨received, hturns, hhandled⟩ := handled_call service request desk' s' turns
        rw [hturns]
        exact forwarded_append hforwarded hhandled.received_cases

/-! ### The record changes nothing -/

/-- The states are the same but for the record. -/
def SameBut (state : Desk × (σ × List Turn)) (plain : Desk × σ) : Prop :=
  state.1 = plain.1 ∧ state.2.1 = plain.2

theorem call_recorded (service : Service σ) (request : Request)
    {state : Desk × (σ × List Turn)} {plain : Desk × σ} (h : SameBut state plain) :
    (call (recorded service) request state).1 = (call service request plain).1 ∧
    SameBut (call (recorded service) request state).2 (call service request plain).2 := by
  obtain ⟨desk, s, turns⟩ := state
  obtain ⟨desk', s'⟩ := plain
  obtain ⟨rfl, rfl⟩ : desk = desk' ∧ s = s' := h
  by_cases hclean : request.findings = []
  · by_cases hbusy : desk.IsBusy request
    · obtain ⟨wanted, rfl, hout⟩ := hbusy
      rw [call_of_busy (recorded service) hclean hout, call_of_busy service hclean hout]
      exact ⟨rfl, rfl, rfl⟩
    · rw [call_of_sent (recorded service) hclean hbusy, call_of_sent service hclean hbusy]
      exact ⟨rfl, rfl, rfl⟩
  · rw [call_of_findings (recorded service) hclean, call_of_findings service hclean]
    exact ⟨rfl, rfl, rfl⟩

theorem afterCalls_recorded (service : Service σ) (desk : Desk) (s : σ)
    (requests : List Request) :
    SameBut (afterCalls (recorded service) requests (desk, (s, [])))
      (afterCalls service requests (desk, s)) := by
  induction requests using List.reverseRecOn with
  | nil => exact ⟨rfl, rfl⟩
  | append_singleton requests request ih =>
      rw [afterCalls_append, afterCalls_append]
      exact (call_recorded service request ih).2

/-- **A desk sends on only what is clean, as it is, and once.**  Whatever the service answers, it
has received some of the requests in their order, none of them with findings.  The next request
either has findings, or a generation for its language is out, and then the service receives
nothing and the caller is told so; or the service receives just this request, and its answer is
handed on.  If no generation was out at the beginning, none holds a request back.  The answers
are those that the caller gets when nothing is recorded. -/
theorem forwards_only_clean (service : Service σ) (desk : Desk) (s : σ) (requests : List Request)
    (request : Request) :
    let before := afterCalls (recorded service) requests (desk, (s, []))
    let outcome := call (recorded service) request before
    Forwarded requests before.2.2 ∧
    (∃ received, outcome.2.2.2 = before.2.2 ++ received ∧
      Handled service before.1 before.2.1 request received outcome.1) ∧
    (desk.outstanding = [] → ¬ before.1.IsBusy request) ∧
    outcome.1 = (call service request (afterCalls service requests (desk, s))).1 := by
  intro before outcome
  obtain ⟨houtstanding, hforwarded⟩ := forwarded_afterCalls service desk s requests
  refine ⟨hforwarded, ?_, ?_, ?_⟩
  · exact handled_call service request before.1 before.2.1 before.2.2
  · rintro hfresh ⟨wanted, -, hout⟩
    rw [isGenerating, houtstanding, hfresh] at hout
    cases hout
  · exact (call_recorded service request (afterCalls_recorded service desk s requests)).1

end Desk

end LanguageBlueprint
