/-
  LanguageBlueprint/Proofs/Http/Interchange.lean
  ==============================================
  **A studio far away does what one nearby does.**  The same requests are made
  over two desks, one with a studio behind it and one with a remote studio, which
  is mounted somewhere else and has a clock of its own.  Both studios represent
  one catalogue, so they answer alike; what is told of a failure arrives as its
  status and its message.

    * what relates the two              — `Paired`;
    * stores that represent one map     — `agree_of_represents`;
    * times of the records              — `isTimed_serve`;
    * one request in both places        — `paired_call`;
    * any requests in a row             — `paired_after`;
    * the whole                         — `interchangeable`.
-/
import LanguageBlueprint.Proofs.Desk.Forwarding
import LanguageBlueprint.Proofs.Http.Relay
import LanguageBlueprint.Proofs.Studio.Catalogue
import LanguageBlueprint.Proofs.Studio.Change

namespace LanguageBlueprint

/-! ### Stores that differ in times -/

/-- The records are the same but for the times at which they were created and written. -/
def Record.SameButTime (record other : Record) : Prop :=
  record = { other with createdAt := record.createdAt, updatedAt := record.updatedAt }

/-- The stores hold the same records in the same order, but for the times, and the same generated
files of every language. -/
structure Store.AgreeButTimes (store other : Store) : Prop where
  records : List.Forall₂ Record.SameButTime store.records other.records
  artifacts : ∀ language, store.artifacts language = other.artifacts language

theorem forall₂_of_map_eq {α β : Type} {R : α → α → Prop} {key : α → β} {xs ys : List α}
    (hkeys : xs.map key = ys.map key) (h : ∀ x ∈ xs, ∀ y ∈ ys, key x = key y → R x y) :
    List.Forall₂ R xs ys := by
  induction xs generalizing ys with
  | nil =>
      cases ys with
      | nil => exact .nil
      | cons y ys => cases hkeys
  | cons x xs ih =>
      cases ys with
      | nil => cases hkeys
      | cons y ys =>
          obtain ⟨hkey, hrest⟩ := List.cons.inj hkeys
          constructor
          · exact h x List.mem_cons_self y List.mem_cons_self hkey
          · apply ih hrest
            intro x' hx' y' hy' hkey'
            exact h x' (List.mem_cons_of_mem x hx') y' (List.mem_cons_of_mem y hy') hkey'

/-- Stores that represent one catalogue agree. -/
theorem Catalogue.agree_of_represents {catalogue : Catalogue} {store other : Store}
    (h : catalogue.Represents store) (hother : catalogue.Represents other) :
    store.AgreeButTimes other := by
  constructor
  · have hnames : store.records.map Record.name = other.records.map Record.name := by
      rw [← Catalogue.sort_keys h, ← Catalogue.sort_keys hother]
    apply forall₂_of_map_eq hnames
    intro record hrecord record' hrecord' hname
    obtain ⟨b, created, now, hof, hlookup⟩ := h.of_mem hrecord
    obtain ⟨b', created', now', hof', hlookup'⟩ := hother.of_mem hrecord'
    rw [hname, hlookup', Option.some.injEq] at hlookup
    rw [Record.SameButTime, hof, hof', hlookup]
    rfl
  · intro language
    rw [h.files, hother.files]

namespace Http

/-! ### Times of the records -/

/-- A studio whose clock tells times that exist writes records with such times. -/
theorem isTimed_serve {studio : Studio} (h : IsTimed studio.store) (hnow : studio.now.IsValid)
    (request : LanguageBlueprint.Request) : IsTimed (Studio.serve request studio).2.store :=
  (Studio.change_serve request studio).forall_records h (fun _ _ _ => hnow)

/-! ### One request in two places -/

/-- A request that is made in two places, by the clocks of both. -/
structure Occasion where
  request : LanguageBlueprint.Request
  near : Instant
  far : Instant

/-- The names in the request are plain, and the clock far away tells a time that exists. -/
structure Occasion.IsOrdinary (occasion : Occasion) : Prop where
  names : WellNamed occasion.request
  time : occasion.far.IsValid

/-- The request is made over a desk, and a studio is behind it. -/
def callNear (occasion : Occasion) (state : Desk × Studio) :
    Except Failure occasion.request.Answer × (Desk × Studio) :=
  Desk.call Studio.serve occasion.request (state.1, state.2.waitUntil occasion.near)

/-- The request is made over a desk, and behind it is a remote studio. -/
def callFar (wording : Wording) (base : Url) (occasion : Occasion)
    (state : Desk × (Remote × Studio)) :
    Except Failure occasion.request.Answer × (Desk × (Remote × Studio)) :=
  Desk.call (Remote.serve (mountedAt wording base)) occasion.request
    (state.1, (state.2.1, state.2.2.waitUntil occasion.far))

/-- The desks are the same and let everything through, both studios have the engine and represent
the catalogue, and far away all times exist. -/
structure Paired (engine : Engine) (remote : Remote) (catalogue : Catalogue)
    (near : Desk × Studio) (far : Desk × (Remote × Studio)) : Prop where
  desk : near.1 = far.1
  idle : far.1.outstanding = []
  remote : far.2.1 = remote
  nearEngine : near.2.engine = engine
  farEngine : far.2.2.engine = engine
  nearStore : catalogue.Represents near.2.store
  farStore : catalogue.Represents far.2.2.store
  timed : IsTimed far.2.2.store

theorem isOk_mapError {α : Type} (f : Failure → Failure) (answer : Except Failure α) :
    Desk.isOk (answer.mapError f) = Desk.isOk answer := by
  cases answer <;> rfl

theorem isOk_timeless (request : LanguageBlueprint.Request)
    (answer : Except Failure request.Answer) :
    Desk.isOk (Studio.timeless request answer) = Desk.isOk answer := by
  cases request <;> cases answer <;> rfl

/-- The desk remembers the same whether an answer comes from near or far. -/
theorem afterAnswer_relayed (desk : Desk) {request : LanguageBlueprint.Request}
    {answer other : Except Failure request.Answer}
    (h : Studio.timeless request answer = Studio.timeless request other)
    (f : Failure → Failure) :
    desk.afterAnswer request (answer.mapError f) = desk.afterAnswer request other := by
  have hok : Desk.isOk (answer.mapError f) = Desk.isOk other := by
    rw [isOk_mapError, ← isOk_timeless, h, isOk_timeless]
  cases request with
  | generate wanted => rw [Desk.afterAnswer, Desk.afterAnswer, hok]
  | save b => rfl
  | fetch name => rfl
  | list => rfl
  | update name b => rfl
  | delete name => rfl
  | download name => rfl

/-- The answer from far away is that from nearby, but for the times of a listing and the way in
which a failure is told. -/
theorem handedOn_relayed {request : LanguageBlueprint.Request} {near far : Studio}
    (h : Studio.timeless request (Studio.serve request far).1 =
      Studio.timeless request (Studio.serve request near).1) :
    Studio.timeless request
        (Desk.handedOn request ((Studio.serve request far).1.mapError Failure.relayed)) =
      (Studio.timeless request
        (Desk.handedOn request (Studio.serve request near).1)).mapError Failure.relayed := by
  cases request with
  | save b => exact congrArg (Except.mapError Failure.relayed) h
  | fetch name => exact congrArg (Except.mapError Failure.relayed) h
  | update name b => exact congrArg (Except.mapError Failure.relayed) h
  | delete name => exact congrArg (Except.mapError Failure.relayed) h
  | generate wanted => exact congrArg (Except.mapError Failure.relayed) h
  | list =>
      simp only [Studio.timeless, Desk.handedOn] at h ⊢
      rw [← h]
      cases (Studio.serve .list far).1 with
      | error failure => rfl
      | ok lines => rfl
  | download name =>
      simp only [Studio.timeless, Studio.serve] at h ⊢
      rw [← h]
      cases hanswer : far.download name with
      | error failure => rfl
      | ok archive =>
          -- an archive from a studio is never refused by a desk
          have hsome : archive.isEmpty = false := (archive_of_download hanswer).2
          simp only [Except.mapError, Desk.handedOn, hsome, Bool.false_eq_true, if_false]

variable {wording : Wording} {engine : Engine} {remote : Remote} {catalogue : Catalogue}
  {near : Desk × Studio} {far : Desk × (Remote × Studio)} {occasion : Occasion}

/-- What is refused at the desk nearby is refused at the other one, and nothing happens. -/
theorem paired_refused (h : Paired engine remote catalogue near far)
    (hfindings : occasion.request.findings ≠ []) :
    (callNear occasion near).1 = .error (.invalid occasion.request.findings) ∧
    (callFar wording remote.base occasion far).1 = .error (.invalid occasion.request.findings) ∧
    Paired engine remote catalogue (callNear occasion near).2
      (callFar wording remote.base occasion far).2 := by
  rw [callNear, callFar, Desk.call_of_findings _ hfindings, Desk.call_of_findings _ hfindings]
  exact ⟨rfl, rfl, h.desk, h.idle, h.remote, h.nearEngine, h.farEngine, h.nearStore, h.farStore,
    h.timed⟩

/-- What is sent on from both desks is answered alike, and leads both studios to one catalogue. -/
theorem paired_sent (hbase : remote.base.Rooted) (h : Paired engine remote catalogue near far)
    (hordinary : occasion.IsOrdinary) (hclean : occasion.request.findings = []) :
    Studio.timeless occasion.request (callFar wording remote.base occasion far).1 =
      (Studio.timeless occasion.request (callNear occasion near).1).mapError Failure.relayed ∧
    ∃ after, Paired engine remote after (callNear occasion near).2
      (callFar wording remote.base occasion far).2 := by
  obtain ⟨desk, nearStudio⟩ := near
  obtain ⟨farDesk, farRemote, farStudio⟩ := far
  obtain ⟨hdesk, hidle, hremote, hnearEngine, hfarEngine, hnearStore, hfarStore, htimed⟩ := h
  dsimp only at hdesk hidle hremote hnearEngine hfarEngine hnearStore hfarStore htimed
  subst hdesk hremote
  obtain ⟨request, nearTime, farTime⟩ := occasion
  obtain ⟨hnames, htime⟩ := hordinary
  dsimp only at hnames htime hclean
  -- the time of the request is no part of what a catalogue represents
  have hnear : Catalogue.Agree request (nearStudio.waitUntil nearTime) catalogue :=
    @Catalogue.serve_agrees catalogue (nearStudio.waitUntil nearTime) hnearStore request
  have hfar : Catalogue.Agree request (farStudio.waitUntil farTime) catalogue :=
    @Catalogue.serve_agrees catalogue (farStudio.waitUntil farTime) hfarStore request
  have hengines : (nearStudio.waitUntil nearTime).engine = (farStudio.waitUntil farTime).engine :=
    hnearEngine.trans hfarEngine.symm
  have hsame : Studio.timeless request (Studio.serve request (farStudio.waitUntil farTime)).1 =
      Studio.timeless request (Studio.serve request (nearStudio.waitUntil nearTime)).1 := by
    rw [hfar.answer, hnear.answer, hengines]
  have hfree : ¬ desk.IsBusy request := by
    rintro ⟨wanted, -, hout⟩
    rw [Desk.isGenerating, hidle] at hout
    cases hout
  have hserve := @serve_relayed farRemote wording hbase (farStudio.waitUntil farTime) htimed request
    hnames
  rw [callNear, callFar, Desk.call_of_sent _ hclean hfree, Desk.call_of_sent _ hclean hfree, hserve,
    arrived]
  refine ⟨handedOn_relayed hsame, (Catalogue.serve engine request catalogue).2, ?_⟩
  constructor
  · exact (afterAnswer_relayed desk hsame Failure.relayed).symm
  · exact (Desk.outstanding_afterAnswer desk request _).trans hidle
  · rfl
  · exact hnear.engine.trans hnearEngine
  · exact hfar.engine.trans hfarEngine
  · rw [← hnearEngine]
    exact hnear.represents
  · rw [← hfarEngine]
    exact hfar.represents
  · exact @isTimed_serve (farStudio.waitUntil farTime) htimed htime request

/-! ### Any requests in a row -/

/-- The desk and the studio behind it after some requests. -/
def afterNear (occasions : List Occasion) (start : Desk × Studio) : Desk × Studio :=
  occasions.foldl (fun state occasion => (callNear occasion state).2) start

/-- The desk and the remote studio behind it after some requests. -/
def afterFar (wording : Wording) (base : Url) (occasions : List Occasion)
    (start : Desk × (Remote × Studio)) : Desk × (Remote × Studio) :=
  occasions.foldl (fun state occasion => (callFar wording base occasion state).2) start

theorem paired_after (hbase : remote.base.Rooted) {occasions : List Occasion}
    (hordinary : ∀ occasion ∈ occasions, occasion.IsOrdinary)
    (h : Paired engine remote catalogue near far) :
    ∃ after, Paired engine remote after (afterNear occasions near)
      (afterFar wording remote.base occasions far) := by
  induction occasions generalizing catalogue near far with
  | nil => exact ⟨catalogue, h⟩
  | cons occasion occasions ih =>
      have hrest : ∀ other ∈ occasions, other.IsOrdinary := by
        intro other hother
        exact hordinary other (List.mem_cons_of_mem occasion hother)
      rw [afterNear, afterFar, List.foldl_cons, List.foldl_cons]
      by_cases hclean : occasion.request.findings = []
      · obtain ⟨-, next, hnext⟩ :=
          paired_sent hbase h (hordinary occasion List.mem_cons_self) hclean
        exact ih hrest hnext
      · exact ih hrest (paired_refused h hclean).2.2

theorem paired_start (engine : Engine) (remote : Remote) (nearStart farStart : Instant)
    (nearSupply farSupply : ℕ) :
    Paired engine remote {} ({}, Studio.opened engine nearStart nearSupply)
      ({}, (remote, Studio.opened engine farStart farSupply)) := by
  refine ⟨rfl, rfl, rfl, rfl, rfl, Catalogue.represents_empty, Catalogue.represents_empty, ?_⟩
  intro record hrecord
  cases hrecord

/-- **A studio behind HTTP does what a studio does.**  After any ordinary requests, made in both
places, the desks are the same and the stores agree but for times.  The next request is then refused
by both desks with its findings, if it has any; otherwise the answer from far away is that from
nearby, apart from the times of a listing, and a failure is told as it arrives. -/
theorem interchangeable (wording : Wording) {address : String} {remote : Remote}
    (haddress : Remote.at? address = .ok remote) (engine : Engine) (nearStart farStart : Instant)
    (nearSupply farSupply : ℕ) {occasions : List Occasion}
    (hordinary : ∀ occasion ∈ occasions, occasion.IsOrdinary) {next : Occasion}
    (hnext : next.IsOrdinary) :
    let near := afterNear occasions ({}, Studio.opened engine nearStart nearSupply)
    let far := afterFar wording remote.base occasions
      ({}, (remote, Studio.opened engine farStart farSupply))
    near.1 = far.1 ∧ near.2.store.AgreeButTimes far.2.2.store ∧
    (next.request.findings ≠ [] →
      (callNear next near).1 = .error (.invalid next.request.findings) ∧
      (callFar wording remote.base next far).1 = .error (.invalid next.request.findings)) ∧
    (next.request.findings = [] →
      Studio.timeless next.request (callFar wording remote.base next far).1 =
        (Studio.timeless next.request (callNear next near).1).mapError Failure.relayed) := by
  intro near far
  have hbase := rooted_of_at? haddress
  obtain ⟨catalogue, hpaired⟩ := paired_after hbase hordinary
    (paired_start engine remote nearStart farStart nearSupply farSupply)
  refine ⟨hpaired.desk, ?_, ?_, ?_⟩
  · exact Catalogue.agree_of_represents hpaired.nearStore hpaired.farStore
  · intro hfindings
    obtain ⟨hnear, hfar, -⟩ := paired_refused hpaired hfindings
    exact ⟨hnear, hfar⟩
  · intro hclean
    exact (paired_sent hbase hpaired hnext hclean).1

theorem isValid_epoch : epoch.IsValid := ⟨by decide, by decide, by decide, by decide, by decide⟩

/-- One blueprint is saved, and one that was never saved is deleted. -/
def toySession : List Occasion :=
  [⟨.save { name := "Toy" }, epoch, epoch⟩, ⟨.delete "Other toy", epoch, epoch⟩]

/-- Then the blueprint is fetched. -/
def toyFetched : Occasion := ⟨.fetch "Toy", epoch, epoch⟩

theorem interchangeable_toySession :
    Remote.at? "http://localhost:8000" = .ok localRemote ∧
    (∀ occasion ∈ toySession, occasion.IsOrdinary) ∧
    toyFetched.IsOrdinary ∧ toyFetched.request.findings = [] ∧
    (afterNear toySession ({}, Studio.opened Scaffold.generate epoch 0)).2.store.AgreeButTimes
      (afterFar .reason localRemote.base toySession
        ({}, (localRemote, Studio.opened Scaffold.generate epoch 0))).2.2.store ∧
    Studio.timeless toyFetched.request (callFar .reason localRemote.base toyFetched
        (afterFar .reason localRemote.base toySession
          ({}, (localRemote, Studio.opened Scaffold.generate epoch 0)))).1 =
      (Studio.timeless toyFetched.request (callNear toyFetched
        (afterNear toySession
          ({}, Studio.opened Scaffold.generate epoch 0))).1).mapError Failure.relayed := by
  have hlocal : Remote.at? "http://localhost:8000" = .ok localRemote := rfl
  have htoy : IsPlainName "Toy" := ⟨by decide, by decide, by decide, by simp⟩
  have hother : IsPlainName "Other toy" := ⟨by decide, by decide, by decide, by simp⟩
  have hordinary : ∀ occasion ∈ toySession, occasion.IsOrdinary := by
    intro occasion hoccasion
    simp only [toySession, List.mem_cons, List.not_mem_nil, or_false] at hoccasion
    rcases hoccasion with rfl | rfl
    · exact ⟨trivial, isValid_epoch⟩
    · exact ⟨hother, isValid_epoch⟩
  have hnext : toyFetched.IsOrdinary := ⟨htoy, isValid_epoch⟩
  have hclean : toyFetched.request.findings = [] := rfl
  obtain ⟨-, hstores, -, hanswer⟩ :=
    interchangeable .reason hlocal Scaffold.generate epoch epoch 0 0 hordinary hnext
  exact ⟨hlocal, hordinary, hnext, hclean, hstores, hanswer hclean⟩

end Http

end LanguageBlueprint
