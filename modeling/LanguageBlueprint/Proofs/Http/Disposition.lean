/-
  LanguageBlueprint/Proofs/Http/Disposition.lean
  ==============================================
  **What can be downloaded over HTTP.**  A download is answered with the archive
  that the studio packs, under a header that holds the name of the language as it
  is.  Headers hold no control characters but tabs, whereas a language may have
  any name that is not blank; so a download over HTTP succeeds exactly for those
  languages whose names a header can hold, and the others, which can be generated
  and downloaded within the program all the same, are answered with an error.

    * states of a studio               — `Studio.Reached`, `Studio.Reached.wholesome`;
    * which names have archives        — `Studio.Reached.name_of_download`,
                                         `Studio.exists_download`;
    * one download over HTTP           — `handle_download`, `download_refused`;
    * all downloads                    — `download_over_http`.
-/
import LanguageBlueprint.Proofs.Http.Integrity
import LanguageBlueprint.Proofs.Http.Relay
import LanguageBlueprint.Proofs.Studio.Downloads

namespace LanguageBlueprint

open Text

namespace Studio

/-! ### States of a studio -/

/-- The studio has been opened with the engine, and has answered requests made within the program
and over HTTP. -/
inductive Reached (engine : Engine) : Studio → Prop
  | opened (start : Instant) (supply : ℕ) : Reached engine (opened engine start supply)
  | waited {studio : Studio} (h : Reached engine studio) (now : Instant) :
      Reached engine (studio.waitUntil now)
  | served {studio : Studio} (h : Reached engine studio) (request : Request) :
      Reached engine (serve request studio).2
  | handled {studio : Studio} (h : Reached engine studio) (wording : Http.Wording)
      (request : Http.Request) : Reached engine (Http.handle wording request studio).2

variable {engine : Engine} {studio : Studio}

theorem Reached.engine_eq (h : Reached engine studio) : studio.engine = engine := by
  induction h with
  | opened start supply => rfl
  | waited _ now ih => exact ih
  | served _ request ih => exact (engine_serve request _).trans ih
  | handled _ wording request ih => exact (Http.tended_handle wording request _).engine.trans ih

/-- Whichever way requests come in, the tables stay wholesome. -/
theorem Reached.wholesome (h : Reached engine studio) :
    studio.store.Wholesome studio.engine := by
  induction h with
  | opened start supply => exact Store.wholesome_empty engine
  | waited _ now ih => exact ih
  | served _ request ih =>
      rw [engine_serve]
      exact wholesome_serve ih request
  | handled _ wording request ih => exact Http.wholesome_handle wording ih request

/-! ### Which names have archives -/

/-- Only a language with a name has files that can be downloaded. -/
theorem Reached.name_of_download (h : Reached engine studio) {name : String} {archive : Archive}
    (hdownload : studio.download name = .ok archive) : trim name ≠ "" := by
  have hfiles : studio.store.artifacts name ≠ [] := by
    intro hnone
    simp only [download, hnone, List.isEmpty_nil, if_true] at hdownload
    cases hdownload
  obtain ⟨row, hrow, rfl⟩ := Store.exists_row_of_artifacts hfiles
  obtain ⟨b, options, hpermits, hname, -⟩ := h.wholesome.files row hrow
  have hgenerable : b.Generable :=
    Blueprint.review_eq_nil_iff_generable.mp (List.isEmpty_iff.mp hpermits)
  rw [← hname]
  exact hgenerable.name

theorem permitsGenerate_named {name : String} (h : trim name ≠ "") :
    (Blueprint.named name).permitsGenerate = true := by
  rw [Blueprint.permitsGenerate, List.isEmpty_iff, Blueprint.review_eq_nil_iff_generable]
  constructor
  · constructor
    · exact h
    all_goals simp [Blueprint.named]
  all_goals simp [Blueprint.named]

theorem generate_named {name : String} (h : trim name ≠ "") :
    ∃ artifacts, Scaffold.generate (.named name) {} = .ok artifacts := by
  have hextension : isPlainExtension ".prog" = true := by decide
  exact ⟨_, Scaffold.generate_eq_ok_iff.mpr
    ⟨⟨Review.isBlank_eq_false.mpr h, fun _ => hextension⟩, rfl⟩⟩

/-- What a generation has made can be downloaded at once. -/
theorem download_generated {request : GenerateRequest} {artifacts : List Artifact}
    (hengine : studio.engine = Scaffold.generate)
    (hpermits : request.blueprint.permitsGenerate = true)
    (hmade : Scaffold.generate request.blueprint request.options = .ok artifacts) :
    (serve (.generate request) studio).2.download request.blueprint.name =
      .ok ⟨Archive.nameFor request.blueprint.name,
        .entries (artifacts.map (Archive.entry request.blueprint.name))⟩ := by
  have hpackable := Scaffold.packable_of_generate hmade
  rcases generate_cases request studio with ⟨failure, hserve⟩ | ⟨files, hfiles, -, -, hserve⟩
  · simp only [serve, generate, hpermits, hengine, hmade, Store.keepArtifacts_eq,
      hpackable.distinct, Bool.not_true, Bool.false_eq_true, if_false, if_true] at hserve
    cases hserve
  · rw [hengine, hmade] at hfiles
    cases hfiles
    have hkept := Store.artifacts_replaceRows studio.store request.blueprint.name
      request.blueprint.name artifacts
    rw [if_pos rfl] at hkept
    rw [hserve]
    exact download_of_packable hkept hpackable

/-- Every name that is not blank is the name of a language that can be downloaded. -/
theorem exists_download {name : String} (h : trim name ≠ "") :
    ∃ studio archive, Reached Scaffold.generate studio ∧ studio.download name = .ok archive := by
  obtain ⟨artifacts, hmade⟩ := generate_named h
  have hopened : Reached Scaffold.generate (opened Scaffold.generate Http.epoch 0) := .opened _ _
  exact ⟨_, _, hopened.served (.generate ⟨.named name, {}⟩),
    download_generated rfl (permitsGenerate_named h) hmade⟩

end Studio

namespace Http

/-! ### One download over HTTP -/

variable {wording : Wording} {studio : Studio} {request : Request} {name : String}

/-- The request asks for the archive of the language with this name. -/
structure AsksFor (request : Request) (name : String) : Prop where
  method : request.method = .get
  target : ∃ written, Route.ofTarget request.target = some (.download written) ∧
    percentDecode? written = some name

/-- Any name that is not empty can be asked for. -/
theorem exists_asksFor (h : name ≠ "") : ∃ request, AsksFor request name := by
  have hchars : name.toList ≠ [] := by
    intro hnil
    exact h (String.toList_inj.mp hnil)
  let segments := ["api".toList, "download".toList, writtenName localRemote.base name]
  have hsegments : ∀ segment ∈ segments, IsSegment segment := by
    apply isSegment_named (by decide)
    exact isSegment_percentEncode _ name.toList
  have htarget : targetSegments (segments.flatMap ('/' :: ·)) = some segments := by
    have hwritten := targetSegments_written hsegments none
    rwa [Url.markedChars, List.append_nil] at hwritten
  refine ⟨{ method := .get, target := segments.flatMap ('/' :: ·) }, rfl,
    writtenName localRemote.base name, ?_, percentDecode?_writtenName _ name⟩
  rw [Route.ofTarget, htarget, Option.bind_some]
  exact ofSegments_named download_mem (writtenName_ne_nil hchars)

/-- What is packed is sent, if the name can stand in the header, and is an error otherwise. -/
theorem handle_download (h : AsksFor request name) {archive : Archive}
    (hdownload : studio.download name = .ok archive) :
    (StandsInHeader name → handle wording request studio =
      (⟨200, .archive ("attachment; filename=" ++ name ++ ".zip") archive.content⟩, studio)) ∧
    (¬ StandsInHeader name → handle wording request studio =
      (plain 500 "failed to parse header value", studio)) := by
  obtain ⟨written, hroute, hwritten⟩ := h.target
  have hfile : archive.fileName = Archive.nameFor name := (archive_of_download hdownload).1
  have hhandle : handle wording request studio = (archiveResponse archive, studio) := by
    rw [handle_routed wording hroute (by simp [h.method]), h.method]
    simp only [answerRoute, withName_decoded hwritten, ask, Studio.serve, hdownload, respond]
  rw [hhandle, archiveResponse, hfile, String.append_assoc]
  constructor
  · intro hname
    rw [if_pos (isHeaderText_disposition_iff.mpr hname)]
    rfl
  · intro hname
    rw [if_neg (fun hheader => hname (isHeaderText_disposition_iff.mp hheader))]

/-- A client far away is told of the header by its text. -/
theorem download_refused (wording : Wording) {remote : Remote} (hbase : remote.base.Rooted)
    (hname : Url.IsAddressable name) (hheader : ¬ StandsInHeader name) {archive : Archive}
    (hdownload : studio.download name = .ok archive) :
    Remote.serve (mountedAt wording remote.base) (.download name) (remote, studio) =
      (.error (.service 500 "failed to parse header value"), (remote, studio)) := by
  obtain ⟨behind, written, hwritten, hmounted⟩ := mountedAt_named wording hbase download_mem
    hname (remote.requestTo .get ["api", "download", name]) rfl ⟨nofun, nofun⟩ studio
  have hfile : archive.fileName = Archive.nameFor name := (archive_of_download hdownload).1
  have hrefused : ¬ isHeaderText ("attachment; filename=" ++ Archive.nameFor name) = true :=
    fun htext => hheader (isHeaderText_disposition_iff.mp htext)
  have hresponse :
      mountedAt wording remote.base (remote.requestTo .get ["api", "download", name]) studio =
        (.ok (plain 500 "failed to parse header value"), studio) := by
    rw [hmounted]
    simp only [Remote.requestTo, answerRoute, withName_decoded hwritten, ask, Studio.serve,
      hdownload, respond, archiveResponse, hfile]
    rw [if_neg hrefused]
  rw [Remote.serve, hresponse]
  rfl

/-! ### All downloads -/

/-- **Exactly the names that a header can hold are downloaded over HTTP.**  Whatever requests a
studio has answered, what can be downloaded within the program has a name that is not blank; over
HTTP the same archive is sent under this name if the name has no control characters but tabs, and
otherwise an error and nothing of the archive.  Any name that is not blank can be that of a
language with an archive, and can be asked for. -/
theorem download_over_http (name : String) :
    (∀ engine studio archive, Studio.Reached engine studio → studio.download name = .ok archive →
      trim name ≠ "" ∧ ∀ wording request, AsksFor request name →
        (StandsInHeader name → handle wording request studio =
          (⟨200, .archive ("attachment; filename=" ++ name ++ ".zip") archive.content⟩, studio)) ∧
        (¬ StandsInHeader name → handle wording request studio =
          (plain 500 "failed to parse header value", studio))) ∧
    (trim name ≠ "" → ∃ studio archive request, Studio.Reached Scaffold.generate studio ∧
      studio.download name = .ok archive ∧ AsksFor request name) := by
  constructor
  · intro engine studio archive hreached hdownload
    refine ⟨hreached.name_of_download hdownload, ?_⟩
    intro wording request hrequest
    exact handle_download hrequest hdownload
  · intro hname
    have hsome : name ≠ "" := by
      rintro rfl
      exact hname rfl
    obtain ⟨studio, archive, hreached, hdownload⟩ := Studio.exists_download hname
    obtain ⟨request, hrequest⟩ := exists_asksFor hsome
    exact ⟨studio, archive, request, hreached, hdownload, hrequest⟩

/-- A name of two lines is that of a language that is downloaded within the program only. -/
theorem two_lines_not_downloaded :
    let studio := (Studio.serve (.generate ⟨.named "a\nb", {}⟩) emptyStudio).2
    let request : Request := { method := .get, target := "/api/download/a%0Ab".toList }
    Studio.Reached Scaffold.generate studio ∧ AsksFor request "a\nb" ∧
      (∃ archive, studio.download "a\nb" = .ok archive) ∧
      (handle .reason request studio).1.status = 500 := by
  intro studio request
  have hname : trim "a\nb" ≠ "" := by decide
  have hrequest : AsksFor request "a\nb" := ⟨rfl, "a%0Ab".toList, by decide, by decide +kernel⟩
  have hheader : ¬ StandsInHeader "a\nb" := by
    intro h
    exact absurd (h '\n' (by decide)) (by decide)
  obtain ⟨artifacts, hmade⟩ := Studio.generate_named hname
  have hdownload : studio.download "a\nb" = _ :=
    Studio.download_generated rfl (Studio.permitsGenerate_named hname) hmade
  have hreached : Studio.Reached Scaffold.generate emptyStudio := .opened epoch 0
  refine ⟨hreached.served _, hrequest, ⟨_, hdownload⟩, ?_⟩
  rw [(handle_download hrequest hdownload).2 hheader]
  rfl

end Http

end LanguageBlueprint
