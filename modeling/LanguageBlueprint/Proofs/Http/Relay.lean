/-
  LanguageBlueprint/Proofs/Http/Relay.lean
  ========================================
  **One request over HTTP.**  A remote studio sends a request as a message to the
  studio that is mounted at its address, and reads the response.  What either of
  them reads is what the other one wrote, so the answer is that of the studio,
  only that a failure arrives as the status and the message it was reported with.

    * failures and answers that arrive   — `reported_failed`, `readJson_respond`;
    * bodies that arrive                 — `withBody_sent`;
    * one request                        — `serve_relayed`;
    * which names reach their records    — `by_name_exact`.
-/
import LanguageBlueprint.Proofs.Exchange.RoundTrip
import LanguageBlueprint.Proofs.Http.Mounting
import LanguageBlueprint.Proofs.Time.Reading

namespace LanguageBlueprint

open Text

/-- A failure as it arrives: what is missing is still missing, and of every other failure the
status and the message are told. -/
def Failure.relayed : Failure → Failure
  | .notFound missing => .notFound (.reported (Failure.notFound missing).message)
  | failure => .service failure.status failure.message

namespace Http

/-! ### Responses -/

theorem failed_isSuccess (failure : Failure) : (failed failure).isSuccess = false := by
  cases failure <;> rfl

/-- A failure is read as it was reported. -/
theorem reported_failed (failure : Failure) :
    Remote.reported (failed failure) = failure.relayed := by
  have hread : (FailureReport.codec.ofText
        (FailureReport.codec.compact (.ofFailure failure))).run 0 =
      .ok ({ FailureReport.ofFailure failure with violations := [] }, 0) :=
    ((FailureReport.reads (.ofFailure failure)).readsBack 0).1
  have htext : (failed failure).body.text =
      FailureReport.codec.compact (.ofFailure failure) := rfl
  rw [Remote.reported, htext, hread]
  cases failure <;> rfl

theorem readJson_failed {α : Type} (codec : Codec α) (remote : Remote) (failure : Failure) :
    Remote.readJson codec remote (.ok (failed failure)) = (.error failure.relayed, remote) := by
  simp only [Remote.readJson, failed_isSuccess, Bool.not_false, if_true, reported_failed]

theorem readJson_success {α : Type} {codec : Codec α} {a : α}
    (h : codec.Reads Codec.maxDepth a a) (remote : Remote) :
    Remote.readJson codec remote (.ok (success (codec.encode a))) = (.ok a, remote) := by
  have hread := (h.readsBack remote.supply).1
  have htext : (success (codec.encode a)).body.text = codec.compact a := rfl
  have hok : (success (codec.encode a)).isSuccess = true := rfl
  simp only [Remote.readJson, hok, Bool.not_true, Bool.false_eq_true, if_false, htext, hread]

/-- An answer that is written as JSON arrives. -/
theorem readJson_respond {α : Type} {codec : Codec α} {answer : Except Failure α}
    (h : ∀ a, answer = .ok a → codec.Reads Codec.maxDepth a a) (remote : Remote) :
    Remote.readJson codec remote (.ok (respond (fun a => success (codec.encode a)) answer)) =
      (answer.mapError Failure.relayed, remote) := by
  cases answer with
  | error failure => exact readJson_failed codec remote failure
  | ok a => exact readJson_success (h a rfl) remote

/-- An archive arrives, if its name can stand in a header. -/
theorem readArchive_respond {name : String} {answer : Except Failure Archive}
    (hname : ∀ archive, answer = .ok archive → archive.fileName = Archive.nameFor name)
    (hheader : isHeaderText ("attachment; filename=" ++ Archive.nameFor name) = true) :
    Remote.readArchive name (.ok (respond archiveResponse answer)) =
      answer.mapError Failure.relayed := by
  cases answer with
  | error failure =>
      have hresponse : respond archiveResponse (.error failure) = failed failure := rfl
      simp only [hresponse, Remote.readArchive, failed_isSuccess, Bool.not_false, if_true,
        reported_failed]
      rfl
  | ok archive =>
      obtain ⟨fileName, content⟩ := archive
      have hfile : fileName = Archive.nameFor name := hname ⟨fileName, content⟩ rfl
      subst hfile
      simp only [respond, archiveResponse, hheader, if_true]
      rfl

/-! ### Bodies -/

theorem isJsonType_jsonType : isJsonType jsonType = true := by
  decide

/-- A value that was sent as the body of a request is read by the handler. -/
theorem withBody_sent {α : Type} {wording : Wording} {codec : Codec α} {a : α}
    (h : codec.Reads Codec.maxDepth a a) {request : Request}
    (htype : request.mediaType = some jsonType)
    (hbody : request.body = (codec.compact a).toUTF8) (studio : Studio)
    (go : α → Studio → Response × Studio) :
    withBody wording codec request studio go = go a studio := by
  have hread : (codec.ofBytesStart request.body).run studio.supply = .ok (a, studio.supply) := by
    have htree : (Json.read (codec.compact a)).1 = codec.encode a := by
      rw [Codec.compact, Json.read_compact h.writable]
    rw [hbody, Codec.ofBytesStart, Json.readBytes_toUTF8, htree, Codec.ofJson,
      h.decode (Nat.le_refl _)]
    rfl
  simp only [withBody, htype, Option.map_some, isJsonType_jsonType, Option.getD_some,
    Bool.not_true, Bool.false_eq_true, if_false, hread]

/-! ### Exchanges -/

variable {wording : Wording} {base : Url} {studio : Studio} {request : Request}

theorem withName_decoded {written : List Char} {name : String}
    (h : percentDecode? written = some name) (studio : Studio) (go : String → Response × Studio) :
    withName written studio go = go name := by
  rw [withName, h]

/-- What a remote studio makes of the response to its request. -/
theorem exchange_mounted {α : Type} {codec : Codec α} {answer : Except Failure α}
    {after : Studio}
    (h : mountedAt wording base request studio =
      (.ok (respond (fun a => success (codec.encode a)) answer), after))
    (hreads : ∀ a, answer = .ok a → codec.Reads Codec.maxDepth a a) (remote : Remote) :
    Remote.exchange (mountedAt wording base) codec request (remote, studio) =
      (answer.mapError Failure.relayed, (remote, after)) := by
  rw [Remote.exchange, h]
  dsimp only
  rw [readJson_respond hreads]

/-! ### One request -/

/-- The answer to a request and the state after it, as they arrive from a studio. -/
def arrived (remote : Remote) (studio : Studio) (request : LanguageBlueprint.Request) :
    Except Failure request.Answer × (Remote × Studio) :=
  ((Studio.serve request studio).1.mapError Failure.relayed,
    (remote, (Studio.serve request studio).2))

variable {remote : Remote}

theorem fetch_relayed (wording : Wording) (hbase : remote.base.Rooted) {name : String}
    (hname : Url.IsAddressable name) (studio : Studio) :
    Remote.serve (mountedAt wording remote.base) (.fetch name) (remote, studio) =
      arrived remote studio (.fetch name) := by
  obtain ⟨behind, written, hwritten, hmounted⟩ := mountedAt_named wording hbase language_mem hname
    (remote.requestTo .get ["api", "languages", name]) rfl ⟨nofun, nofun⟩ studio
  apply exchange_mounted
  · rw [hmounted]
    simp only [Remote.requestTo, answerRoute, withName_decoded hwritten]
    rfl
  · intro b _
    exact b.reads

theorem save_relayed (wording : Wording) (hbase : remote.base.Rooted) (b : Blueprint)
    (studio : Studio) :
    Remote.serve (mountedAt wording remote.base) (.save b) (remote, studio) =
      arrived remote studio (.save b) := by
  obtain ⟨behind, hmounted⟩ := mountedAt_fixed wording hbase languages_mem
    (remote.requestWith .post ["api", "languages"] (Blueprint.codec.encode b)) rfl ⟨nofun, nofun⟩
    studio
  apply exchange_mounted
  · rw [hmounted]
    simp only [Remote.requestWith, Remote.requestTo, answerRoute]
    have hread : Blueprint.codec.Reads Codec.maxDepth b b := b.reads
    rw [withBody_sent hread]
    · dsimp only [ask]
      rfl
    · rfl
    · rw [Codec.compact]
  · intro ack _
    exact ack.reads

theorem update_relayed (wording : Wording) (hbase : remote.base.Rooted) {name : String}
    (hname : Url.IsAddressable name) (b : Blueprint) (studio : Studio) :
    Remote.serve (mountedAt wording remote.base) (.update name b) (remote, studio) =
      arrived remote studio (.update name b) := by
  obtain ⟨behind, written, hwritten, hmounted⟩ := mountedAt_named wording hbase language_mem hname
    (remote.requestWith .put ["api", "languages", name] (Blueprint.codec.encode b)) rfl
    ⟨nofun, nofun⟩ studio
  apply exchange_mounted
  · rw [hmounted]
    simp only [Remote.requestWith, Remote.requestTo, answerRoute, withName_decoded hwritten]
    have hread : Blueprint.codec.Reads Codec.maxDepth b b := b.reads
    rw [withBody_sent hread]
    · dsimp only [ask]
      rfl
    · rfl
    · rw [Codec.compact]
  · intro ack _
    exact ack.reads

theorem delete_relayed (wording : Wording) (hbase : remote.base.Rooted) {name : String}
    (hname : Url.IsAddressable name) (studio : Studio) :
    Remote.serve (mountedAt wording remote.base) (.delete name) (remote, studio) =
      arrived remote studio (.delete name) := by
  obtain ⟨behind, written, hwritten, hmounted⟩ := mountedAt_named wording hbase language_mem hname
    (remote.requestTo .delete ["api", "languages", name]) rfl ⟨nofun, nofun⟩ studio
  apply exchange_mounted
  · rw [hmounted]
    simp only [Remote.requestTo, answerRoute, withName_decoded hwritten]
    rfl
  · intro ack _
    exact ack.reads

theorem generate_relayed (wording : Wording) (hbase : remote.base.Rooted) (wanted : GenerateRequest)
    (studio : Studio) :
    Remote.serve (mountedAt wording remote.base) (.generate wanted) (remote, studio) =
      arrived remote studio (.generate wanted) := by
  obtain ⟨behind, hmounted⟩ := mountedAt_fixed wording hbase generate_mem
    (remote.requestWith .post ["api", "generate"] (GenerateRequest.encode wanted)) rfl
    ⟨nofun, nofun⟩ studio
  apply exchange_mounted
  · rw [hmounted]
    simp only [Remote.requestWith, Remote.requestTo, answerRoute]
    have hread : GenerateRequest.codec.Reads Codec.maxDepth wanted wanted := wanted.reads
    rw [withBody_sent hread]
    · dsimp only [ask]
      rfl
    · rfl
    · rw [Codec.compact, GenerateRequest.codec]
  · intro result _
    exact result.reads

/-! ### Listings -/

/-- Every record was written at a time that exists. -/
def IsTimed (store : Store) : Prop := ∀ record ∈ store.records, record.updatedAt.IsValid

theorem updatedAt_of_summary {record : Record} {line : Summary}
    (h : Store.summary record = .ok line) : line.updatedAt = some record.updatedAt := by
  unfold Store.summary at h
  split at h
  · cases h
    rfl
  · cases h

theorem times_summariesOf {records : List Record} {lines : List Summary}
    (h : Store.summariesOf records = .ok lines) :
    ∀ line ∈ lines, ∃ record ∈ records, line.updatedAt = some record.updatedAt := by
  induction records generalizing lines with
  | nil =>
      cases h
      intro line hline
      cases hline
  | cons record records ih =>
      rw [Store.summariesOf] at h
      dsimp only [bind, Except.bind, pure, Except.pure] at h
      split at h
      · cases h
      · rename_i first hfirst
        split at h
        · cases h
        · rename_i others hothers
          cases h
          intro line hline
          rcases List.mem_cons.mp hline with rfl | hin
          · exact ⟨record, List.mem_cons_self, updatedAt_of_summary hfirst⟩
          · obtain ⟨other, hother, htime⟩ := ih hothers line hin
            exact ⟨other, List.mem_cons_of_mem record hother, htime⟩

theorem list_relayed (wording : Wording) (hbase : remote.base.Rooted) {studio : Studio}
    (htimes : IsTimed studio.store) :
    Remote.serve (mountedAt wording remote.base) .list (remote, studio) =
      arrived remote studio .list := by
  obtain ⟨behind, hmounted⟩ := mountedAt_fixed wording hbase languages_mem
    (remote.requestTo .get ["api", "languages"]) rfl ⟨nofun, nofun⟩ studio
  apply exchange_mounted
  · rw [hmounted]
    rfl
  · intro lines hlines
    apply Codec.reads_list
    intro line hline
    apply Summary.reads_timed
    intro time htime
    obtain ⟨record, hrecord, hupdated⟩ := times_summariesOf hlines line hline
    rw [hupdated] at htime
    cases htime
    exact htimes record hrecord

/-! ### Archives -/

/-- A name as a person would write it: it is not empty, no dots, and has no control characters. -/
structure IsPlainName (name : String) : Prop where
  nonempty : name ≠ ""
  noDot : name ≠ "."
  noDots : name ≠ ".."
  noControls : ∀ c ∈ name.toList, 0x20 ≤ c.toNat ∧ c.toNat ≠ 0x7F

theorem IsPlainName.addressable {name : String} (h : IsPlainName name) :
    Url.IsAddressable name := by
  refine ⟨h.nonempty, h.noDot, h.noDots, ?_⟩
  intro c hc
  have hlow := (h.noControls c hc).1
  rw [← Bool.not_eq_true]
  intro hpassed
  simp only [Url.isPassedOver, Bool.or_eq_true, beq_iff_eq] at hpassed
  rcases hpassed with (rfl | rfl) | rfl
  · exact absurd hlow (by decide)
  · exact absurd hlow (by decide)
  · exact absurd hlow (by decide)

/-- No character of a name is a control character, tabs apart. -/
def StandsInHeader (name : String) : Prop :=
  ∀ c ∈ name.toList, c = '\t' ∨ (0x20 ≤ c.toNat ∧ c.toNat ≠ 0x7F)

theorem isHeaderText_iff {text : String} : isHeaderText text = true ↔ StandsInHeader text := by
  simp only [isHeaderText, StandsInHeader, List.all_eq_true, Bool.or_eq_true, Bool.and_eq_true,
    beq_iff_eq, bne_iff_ne, decide_eq_true_eq, ne_eq]

/-- The name is the only part of the header that may not be fit for it. -/
theorem isHeaderText_disposition_iff {name : String} :
    isHeaderText ("attachment; filename=" ++ Archive.nameFor name) = true ↔
      StandsInHeader name := by
  have hfixed : ∀ c ∈ "attachment; filename=".toList ++ ".zip".toList,
      0x20 ≤ c.toNat ∧ c.toNat ≠ 0x7F := by
    simp
  rw [isHeaderText_iff]
  constructor
  · intro h c hc
    apply h c
    rw [Archive.nameFor, String.toList_append, String.toList_append]
    exact List.mem_append_right _ (List.mem_append_left _ hc)
  · intro h c hc
    rw [Archive.nameFor, String.toList_append, String.toList_append, List.mem_append,
      List.mem_append] at hc
    rcases hc with hfront | hname | hend
    · exact .inr (hfixed c (List.mem_append_left _ hfront))
    · exact h c hname
    · exact .inr (hfixed c (List.mem_append_right _ hend))

theorem IsPlainName.standsInHeader {name : String} (h : IsPlainName name) :
    StandsInHeader name := by
  intro c hc
  exact .inr (h.noControls c hc)

theorem archive_of_download {studio : Studio} {name : String} {archive : Archive}
    (h : studio.download name = .ok archive) :
    archive.fileName = Archive.nameFor name ∧ archive.isEmpty = false := by
  unfold Studio.download at h
  dsimp only at h
  split at h
  · cases h
  · unfold Archive.pack at h
    split at h
    · cases h
    · dsimp only [bind, Except.bind, pure, Except.pure] at h
      split at h
      · cases h
      · cases h
        exact ⟨rfl, rfl⟩

theorem download_relayed (wording : Wording) (hbase : remote.base.Rooted) {name : String}
    (hname : IsPlainName name) (studio : Studio) :
    Remote.serve (mountedAt wording remote.base) (.download name) (remote, studio) =
      arrived remote studio (.download name) := by
  obtain ⟨behind, written, hwritten, hmounted⟩ := mountedAt_named wording hbase download_mem
    hname.addressable (remote.requestTo .get ["api", "download", name]) rfl ⟨nofun, nofun⟩ studio
  have hresponse :
      mountedAt wording remote.base (remote.requestTo .get ["api", "download", name]) studio =
        (.ok (respond archiveResponse (studio.download name)), studio) := by
    rw [hmounted]
    simp only [Remote.requestTo, answerRoute, withName_decoded hwritten]
    rfl
  have hread : Remote.readArchive name (.ok (respond archiveResponse (studio.download name))) =
      (studio.download name).mapError Failure.relayed := by
    apply readArchive_respond
    · intro archive harchive
      exact (archive_of_download harchive).1
    · exact isHeaderText_disposition_iff.mpr hname.standsInHeader
  rw [Remote.serve, hresponse]
  dsimp only
  rw [hread]
  rfl

/-! ### Any request -/

/-- Whether the names that a request puts into a path are plain. -/
def WellNamed : LanguageBlueprint.Request → Prop
  | .fetch name => IsPlainName name
  | .update name _ => IsPlainName name
  | .delete name => IsPlainName name
  | .download name => IsPlainName name
  | .save _ => True
  | .list => True
  | .generate _ => True

/-- **A well-named request is answered over HTTP as it is answered without**, but for the way in
which failures are told. -/
theorem serve_relayed (wording : Wording) (hbase : remote.base.Rooted) {studio : Studio}
    (htimes : IsTimed studio.store) {request : LanguageBlueprint.Request}
    (hnames : WellNamed request) :
    Remote.serve (mountedAt wording remote.base) request (remote, studio) =
      arrived remote studio request := by
  cases request with
  | save b => exact save_relayed wording hbase b studio
  | fetch name => exact fetch_relayed wording hbase (IsPlainName.addressable hnames) studio
  | list => exact list_relayed wording hbase htimes
  | update name b => exact update_relayed wording hbase (IsPlainName.addressable hnames) b studio
  | delete name => exact delete_relayed wording hbase (IsPlainName.addressable hnames) studio
  | generate wanted => exact generate_relayed wording hbase wanted studio
  | download name => exact download_relayed wording hbase hnames studio

/-! ### Names in addresses -/

theorem message_languageMissing (name : String) :
    (Failure.notFound (.language name)).message = "Not found: language '" ++ name ++ "'" := by
  have hfront : "Not found: " ++ "language '" = "Not found: language '" := by simp
  calc "Not found: " ++ ("language '" ++ name ++ "'")
      = "Not found: " ++ ("language '" ++ (name ++ "'")) :=
        congrArg ("Not found: " ++ ·) (String.append_assoc ..)
    _ = ("Not found: " ++ "language '") ++ (name ++ "'") := (String.append_assoc ..).symm
    _ = "Not found: language '" ++ (name ++ "'") := congrArg (· ++ (name ++ "'")) hfront
    _ = "Not found: language '" ++ name ++ "'" := (String.append_assoc ..).symm

/-- **Below any address, exactly the addressable names reach their own records.**  The endpoint of
such a name is routed by name and the name is decoded to itself; a fetch, an update and a removal
are answered as the studio answers them for this name, so a fetch finds nothing if nothing is
stored under it.  Any other name reaches the record of another name, or none. -/
theorem by_name_exact (wording : Wording) {address : String} {remote : Remote}
    (h : Remote.at? address = .ok remote) (name : String) :
    (Selects remote.base (remote.base.endpoint ["api", "languages", name]) .language name ↔
      Url.IsAddressable name) ∧
    (Selects remote.base (remote.base.endpoint ["api", "download", name]) .download name ↔
      Url.IsAddressable name) ∧
    (Url.IsAddressable name → ∀ (studio : Studio) (b : Blueprint),
      Remote.serve (mountedAt wording remote.base) (.fetch name) (remote, studio) =
        arrived remote studio (.fetch name) ∧
      Remote.serve (mountedAt wording remote.base) (.update name b) (remote, studio) =
        arrived remote studio (.update name b) ∧
      Remote.serve (mountedAt wording remote.base) (.delete name) (remote, studio) =
        arrived remote studio (.delete name)) ∧
    (Url.IsAddressable name → ∀ studio : Studio, Store.find? name studio.store.records = none →
      (Remote.serve (mountedAt wording remote.base) (.fetch name) (remote, studio)).1 =
        .error (.notFound (.reported ("Not found: language '" ++ name ++ "'")))) := by
  have hbase := rooted_of_at? h
  refine ⟨?_, ?_, ?_, ?_⟩
  · rw [selects_iff_reached hbase language_mem, Url.reachedName_eq_self_iff]
  · rw [selects_iff_reached hbase download_mem, Url.reachedName_eq_self_iff]
  · intro hname studio b
    refine ⟨?_, ?_, ?_⟩
    · exact fetch_relayed wording hbase hname studio
    · exact update_relayed wording hbase hname b studio
    · exact delete_relayed wording hbase hname studio
  · intro hname studio hmissing
    have hserve : Studio.serve (.fetch name) studio =
        (.error (.notFound (.language name)), studio) := by
      simp only [Studio.serve, Studio.fetch, Store.restore, hmissing, Studio.languageMissing]
    rw [fetch_relayed wording hbase hname, arrived, hserve, ← message_languageMissing]
    rfl

/-- A remote studio on this machine. -/
def localRemote : Remote where
  base := {
    scheme := "http".toList
    authority := some { host := "localhost".toList, port := some 8000 }
    segments := [[]] }

/-- The first moment of the year 1970. -/
def epoch : Instant := ⟨⟨1970, 1, 1⟩, 0, 0, 0, 0⟩

/-- A studio that has stored nothing. -/
def emptyStudio : Studio := { now := epoch }

theorem by_name_exact_slash :
    Remote.at? "http://localhost:8000" = .ok localRemote ∧ Url.IsAddressable "a/b" ∧
    Store.find? "a/b" emptyStudio.store.records = none ∧
    Selects localRemote.base (localRemote.base.endpoint ["api", "languages", "a/b"]) .language
      "a/b" ∧
    (Remote.serve (mountedAt .reason localRemote.base) (.fetch "a/b")
        (localRemote, emptyStudio)).1 =
      .error (.notFound (.reported "Not found: language 'a/b'")) := by
  have hlocal : Remote.at? "http://localhost:8000" = .ok localRemote := rfl
  have hname : Url.IsAddressable "a/b" :=
    ⟨by decide, by decide, by decide, by simp [Url.isPassedOver]⟩
  have hnothing : Store.find? "a/b" emptyStudio.store.records = none := rfl
  have hmessage : "Not found: language '" ++ "a/b" ++ "'" = "Not found: language 'a/b'" := by
    simp
  have hexact := by_name_exact .reason hlocal "a/b"
  have hfetch := hexact.2.2.2 hname emptyStudio hnothing
  rw [hmessage] at hfetch
  exact ⟨hlocal, hname, hnothing, hexact.1.mpr hname, hfetch⟩

/-- A dot is left out of the path, and the empty listing found there is read as a blueprint,
although nothing is stored and the studio itself says so. -/
theorem dot_fetches_blank :
    Remote.at? "http://localhost:8000" = .ok localRemote ∧
    ¬ Selects localRemote.base (localRemote.base.endpoint ["api", "languages", "."]) .language
      "." ∧
    (Remote.serve (mountedAt .reason localRemote.base) (.fetch ".") (localRemote, emptyStudio)).1 =
      .ok {} ∧
    (Studio.serve (.fetch ".") emptyStudio).1 = .error (.notFound (.language ".")) := by
  have hlocal : Remote.at? "http://localhost:8000" = .ok localRemote := rfl
  refine ⟨hlocal, ?_, rfl, rfl⟩
  intro hselects
  have hreached := (selects_iff_reached (rooted_of_at? hlocal) language_mem ".").mp hselects
  exact absurd hreached (by decide)

end Http

end LanguageBlueprint
