/-
  LanguageBlueprint/Proofs/Http/Mounting.lean
  ===========================================
  **A studio below an address.**  A studio is mounted at a base address when what
  stands behind the root of the address in a target is routed.  The endpoints of
  the address are then routed by the segments that were appended to the root, and
  a name in an endpoint is decoded to the name that is reached: this name itself,
  unless it is empty or dots or has tabs or line breaks.

    * targets and their segments      — `targetSegments_written`;
    * endpoints of an address         — `routeBelow_endpoint`, `mountedAt_endpoint`;
    * endpoints of names              — `selects_iff_reached`;
    * requests to endpoints           — `mountedAt_fixed`, `mountedAt_named`.
-/
import LanguageBlueprint.Http.Remote
import LanguageBlueprint.Http.Router
import LanguageBlueprint.Proofs.Text.Tokens
import LanguageBlueprint.Proofs.Url.Endpoint

namespace LanguageBlueprint

open Text

namespace Http

/-- The path of the root of an address, as it is written. -/
def rootChars (base : Url) : List Char := base.root.flatMap ('/' :: ·)

/-- The resource at a target, for a studio that is mounted at the address. -/
def routeBelow (base : Url) (target : List Char) : Option Route :=
  ((rootChars base).isPrefixOf? target).bind Route.ofTarget

/-- The studio, mounted at an address: elsewhere nothing is found. -/
def mountedAt (wording : Wording) (base : Url) : Transport Studio := fun request studio =>
  match (rootChars base).isPrefixOf? request.target with
  | none => (.ok (plain 404 ""), studio)
  | some behind =>
      let (response, after) := handle wording { request with target := behind } studio
      (.ok response, after)

/-! ### Targets -/

/-- A segment as it stands in a target: neither a slash nor what ends the path is in it. -/
structure IsSegment (segment : List Char) : Prop where
  noSlash : '/' ∉ segment
  noQuery : '?' ∉ segment
  noFragment : '#' ∉ segment

theorem isSegment_nil : IsSegment [] := by
  constructor
  · exact List.not_mem_nil
  · exact List.not_mem_nil
  · exact List.not_mem_nil

theorem isSegment_percentEncode (kind : SchemeKind) (cs : List Char) :
    IsSegment (percentEncode (Url.keepInSegment kind) cs) := by
  constructor
  · apply not_mem_percentEncode
    · cases kind <;> decide
    · decide
    · decide
  · apply not_mem_percentEncode
    · cases kind <;> decide
    · decide
    · decide
  · apply not_mem_percentEncode
    · cases kind <;> decide
    · decide
    · decide

theorem isSegment_word {word : String} (h : word ∈ Url.words) : IsSegment word.toList := by
  have hall : ∀ word ∈ Url.words, '/' ∉ word.toList ∧ '?' ∉ word.toList ∧ '#' ∉ word.toList := by
    decide
  obtain ⟨hslash, hquery, hfragment⟩ := hall word h
  exact ⟨hslash, hquery, hfragment⟩

/-- A path that is written segment by segment is read segment by segment, whatever the query. -/
theorem targetSegments_written {segments : List (List Char)}
    (h : ∀ segment ∈ segments, IsSegment segment) (query : Option (List Char)) :
    targetSegments (segments.flatMap ('/' :: ·) ++ Url.markedChars '?' query) = some segments := by
  have hpath : ∀ c ∈ segments.flatMap ('/' :: ·), (c != '?' && c != '#') = true := by
    intro c hc
    obtain ⟨segment, hsegment, hin⟩ := List.mem_flatMap.mp hc
    rcases List.mem_cons.mp hin with rfl | hin
    · decide
    · have hsegment' := h segment hsegment
      have hends : c ≠ '?' ∧ c ≠ '#' := by
        constructor
        · rintro rfl
          exact hsegment'.noQuery hin
        · rintro rfl
          exact hsegment'.noFragment hin
      simpa using hends
  have hquery : (Url.markedChars '?' query).takeWhile (fun c => c != '?' && c != '#') = [] := by
    cases query with
    | none => rfl
    | some part => rfl
  have hsplit : (segments.flatMap ('/' :: ·)).splitOn '/' = [] :: segments :=
    splitOn_eq_nil_cons_iff.mpr ⟨rfl, fun segment hsegment => (h segment hsegment).noSlash⟩
  rw [targetSegments, List.takeWhile_append_of_pos hpath, hquery, List.append_nil, hsplit]

/-! ### Endpoints -/

variable {base : Url} {names : List String} {tail : List (List Char)}

/-- What stands behind the root in a target. -/
theorem isPrefixOf?_endpoint (h : (base.endpoint names).segments = base.root ++ tail) :
    (rootChars base).isPrefixOf? (base.endpoint names).targetChars =
      some (tail.flatMap ('/' :: ·) ++ Url.markedChars '?' base.query) := by
  rw [List.isPrefixOf?_eq_some_iff_append_eq, Url.targetChars, Url.pathChars, h,
    List.flatMap_append, List.append_assoc]
  rfl

theorem routeBelow_endpoint (h : (base.endpoint names).segments = base.root ++ tail)
    (htail : ∀ segment ∈ tail, IsSegment segment) :
    routeBelow base (base.endpoint names).targetChars = Route.ofSegments tail := by
  rw [routeBelow, isPrefixOf?_endpoint h, Option.bind_some, Route.ofTarget,
    targetSegments_written htail, Option.bind_some]

theorem handle_routed (wording : Wording) {request : Request} {route : Route}
    (hroute : Route.ofTarget request.target = some route)
    (hmethod : request.method ≠ .options ∧ request.method ≠ .head) (studio : Studio) :
    handle wording request studio = answerRoute wording request studio route request.method := by
  cases hcase : request.method with
  | options => exact absurd hcase hmethod.1
  | head => exact absurd hcase hmethod.2
  | get => simp only [handle, hcase, hroute, reduceCtorEq, if_false]
  | post => simp only [handle, hcase, hroute, reduceCtorEq, if_false]
  | put => simp only [handle, hcase, hroute, reduceCtorEq, if_false]
  | delete => simp only [handle, hcase, hroute, reduceCtorEq, if_false]
  | other => simp only [handle, hcase, hroute, reduceCtorEq, if_false]

/-- A request to an endpoint is answered at the resource that its segments name. -/
theorem mountedAt_endpoint (wording : Wording) {route : Route}
    (h : (base.endpoint names).segments = base.root ++ tail)
    (htail : ∀ segment ∈ tail, IsSegment segment) (hroute : Route.ofSegments tail = some route)
    {request : Request} (htarget : request.target = (base.endpoint names).targetChars)
    (hmethod : request.method ≠ .options ∧ request.method ≠ .head) (studio : Studio) :
    ∃ behind, mountedAt wording base request studio =
      (.ok (answerRoute wording { request with target := behind } studio route request.method).1,
        (answerRoute wording { request with target := behind } studio route request.method).2) := by
  have hrouted : Route.ofTarget (tail.flatMap ('/' :: ·) ++ Url.markedChars '?' base.query) =
      some route := by
    rw [Route.ofTarget, targetSegments_written htail, Option.bind_some, hroute]
  refine ⟨tail.flatMap ('/' :: ·) ++ Url.markedChars '?' base.query, ?_⟩
  have hhandle := @handle_routed wording
    { request with target := tail.flatMap ('/' :: ·) ++ Url.markedChars '?' base.query }
    route hrouted hmethod studio
  rw [mountedAt, htarget, isPrefixOf?_endpoint h]
  dsimp only
  rw [hhandle]

/-- The base of a remote studio is an address that was read. -/
theorem rooted_of_at? {address : String} {remote : Remote} (h : Remote.at? address = .ok remote) :
    remote.base.Rooted := by
  unfold Remote.at? at h
  split at h
  · rename_i base hparse
    cases h
    exact Url.rooted_of_parse hparse
  · cases h
  · cases h

/-! ### Endpoints of names -/

/-- The endpoint is routed by name, and the name in it is decoded to this name. -/
def Selects (base endpoint : Url) (route : List Char → Route) (name : String) : Prop :=
  ∃ written, routeBelow base endpoint.targetChars = some (route written) ∧
    percentDecode? written = some name

/-- The words before a name in a path, each with its resources. -/
def namedRoutes : List (String × (List Char → Route)) :=
  [("languages", .language), ("download", .download)]

theorem language_mem : ("languages", Route.language) ∈ namedRoutes := by
  simp [namedRoutes]

theorem download_mem : ("download", Route.download) ∈ namedRoutes := by
  simp [namedRoutes]

variable {word name reached : String} {route : List Char → Route}

theorem word_of_namedRoutes (h : (word, route) ∈ namedRoutes) : word ∈ Url.words := by
  simp only [namedRoutes, List.mem_cons, List.not_mem_nil, or_false, Prod.mk.injEq] at h
  rcases h with ⟨rfl, -⟩ | ⟨rfl, -⟩
  · decide
  · decide

theorem route_injective (h : (word, route) ∈ namedRoutes) : Function.Injective route := by
  simp only [namedRoutes, List.mem_cons, List.not_mem_nil, or_false, Prod.mk.injEq] at h
  intro written other heq
  rcases h with ⟨-, rfl⟩ | ⟨-, rfl⟩
  · injection heq
  · injection heq

theorem ofSegments_named (h : (word, route) ∈ namedRoutes) {written : List Char}
    (hwritten : written ≠ []) :
    Route.ofSegments ["api".toList, word.toList, written] = some (route written) := by
  have hname : (String.ofList written).isEmpty = false := by
    simpa using hwritten
  simp only [namedRoutes, List.mem_cons, List.not_mem_nil, or_false, Prod.mk.injEq] at h
  rcases h with ⟨rfl, rfl⟩ | ⟨rfl, rfl⟩
  · simp [Route.ofSegments, hname]
  · simp [Route.ofSegments, hname]

/-- Without a name behind its word, a path is not routed by name. -/
theorem ofSegments_unnamed (h : (word, route) ∈ namedRoutes) {tail : List (List Char)}
    (htail : tail ∈ [["api".toList, word.toList], ["api".toList, word.toList, []],
      ["api".toList, []]]) (written : List Char) :
    Route.ofSegments tail ≠ some (route written) := by
  simp only [namedRoutes, List.mem_cons, List.not_mem_nil, or_false, Prod.mk.injEq] at h htail
  rcases h with ⟨rfl, rfl⟩ | ⟨rfl, rfl⟩
  · rcases htail with rfl | rfl | rfl
    · simp [Route.ofSegments]
    · simp [Route.ofSegments]
    · simp [Route.ofSegments]
  · rcases htail with rfl | rfl | rfl
    · simp [Route.ofSegments]
    · simp [Route.ofSegments]
    · simp [Route.ofSegments]

theorem isSegment_named (hword : word ∈ Url.words) {last : List Char} (hlast : IsSegment last) :
    ∀ segment ∈ ["api".toList, word.toList, last], IsSegment segment := by
  intro segment hsegment
  simp only [List.mem_cons, List.not_mem_nil, or_false] at hsegment
  rcases hsegment with rfl | rfl | rfl
  · exact isSegment_word (by decide)
  · exact isSegment_word hword
  · exact hlast

theorem reached_ne_nil (h : Url.reachedName name = some reached) : reached.toList ≠ [] := by
  unfold Url.reachedName at h
  split at h
  · cases h
  · rename_i hplain
    cases h
    intro hnil
    rw [String.toList_ofList] at hnil
    rw [hnil] at hplain
    exact hplain (by decide)

/-- The last segment of the endpoint of a name that is reached. -/
def writtenName (base : Url) (reached : String) : List Char :=
  percentEncode (Url.keepInSegment (SchemeKind.of base.scheme)) reached.toList

theorem writtenName_ne_nil (h : reached.toList ≠ []) : writtenName base reached ≠ [] := by
  intro hnil
  have hempty : percentEncode (Url.keepInSegment (SchemeKind.of base.scheme)) [] = [] := rfl
  exact h (percentEncode_injective (Url.keepInSegment_percent _) (hnil.trans hempty.symm))

theorem percentDecode?_writtenName (base : Url) (reached : String) :
    percentDecode? (writtenName base reached) = some reached := by
  rw [writtenName, percentDecode?_percentEncode (Url.keepInSegment_percent _),
    String.ofList_toList]

/-- **An endpoint by name selects the name that is reached**, and nothing if none is. -/
theorem selects_iff_reached (hbase : base.Rooted) (h : (word, route) ∈ namedRoutes)
    (other : String) :
    Selects base (base.endpoint ["api", word, name]) route other ↔
      Url.reachedName name = some other := by
  have hword := word_of_namedRoutes h
  cases hreached : Url.reachedName name with
  | none =>
      obtain ⟨tail, htail, hsegments⟩ := Url.endpoint_of_unreached hbase hword hreached
      have hparts : tail ⊆ ["api".toList, word.toList, []] := by
        simp only [List.mem_cons, List.not_mem_nil, or_false] at htail
        rcases htail with rfl | rfl | rfl
        · simp
        · exact List.Subset.refl _
        · simp
      have hall : ∀ segment ∈ tail, IsSegment segment := by
        intro segment hsegment
        exact isSegment_named hword isSegment_nil segment (hparts hsegment)
      constructor
      · rintro ⟨written, hrouted, -⟩
        rw [routeBelow_endpoint hsegments hall] at hrouted
        exact absurd hrouted (ofSegments_unnamed h htail written)
      · intro hnone
        cases hnone
  | some reached =>
      have hsegments := Url.endpoint_of_reached hbase hword hreached
      have hall := isSegment_named hword
        (isSegment_percentEncode (SchemeKind.of base.scheme) reached.toList)
      have hrouted : routeBelow base (base.endpoint ["api", word, name]).targetChars =
          some (route (writtenName base reached)) := by
        rw [routeBelow_endpoint hsegments hall]
        exact ofSegments_named h (writtenName_ne_nil (reached_ne_nil hreached))
      have hdecoded := percentDecode?_writtenName base reached
      constructor
      · rintro ⟨written, hwritten, hname⟩
        rw [hrouted, Option.some.injEq] at hwritten
        rw [← route_injective h hwritten, hdecoded] at hname
        exact hname
      · intro hsame
        rw [Option.some.injEq] at hsame
        rw [← hsame]
        exact ⟨_, hrouted, hdecoded⟩

/-! ### Requests to endpoints -/

/-- The words that end a path, each with its resource. -/
def fixedRoutes : List (String × Route) := [("languages", .languages), ("generate", .generate)]

theorem languages_mem : ("languages", Route.languages) ∈ fixedRoutes := by
  simp [fixedRoutes]

theorem generate_mem : ("generate", Route.generate) ∈ fixedRoutes := by
  simp [fixedRoutes]

theorem ofSegments_fixed {resource : Route} (h : (word, resource) ∈ fixedRoutes) :
    word ∈ Url.words ∧ Route.ofSegments ["api".toList, word.toList] = some resource := by
  simp only [fixedRoutes, List.mem_cons, List.not_mem_nil, or_false, Prod.mk.injEq] at h
  rcases h with ⟨rfl, rfl⟩ | ⟨rfl, rfl⟩
  · exact ⟨by decide, by simp [Route.ofSegments]⟩
  · exact ⟨by decide, by simp [Route.ofSegments]⟩

/-- A request to one of the fixed paths is answered there. -/
theorem mountedAt_fixed (wording : Wording) {resource : Route} (hbase : base.Rooted)
    (h : (word, resource) ∈ fixedRoutes) (request : Request)
    (htarget : request.target = (base.endpoint ["api", word]).targetChars)
    (hmethod : request.method ≠ .options ∧ request.method ≠ .head) (studio : Studio) :
    ∃ behind, mountedAt wording base request studio =
      (.ok (answerRoute wording { request with target := behind } studio resource
        request.method).1,
        (answerRoute wording { request with target := behind } studio resource
          request.method).2) := by
  obtain ⟨hword, hroute⟩ := ofSegments_fixed h
  have hparts : ["api".toList, word.toList] ⊆ ["api".toList, word.toList, []] := by
    simp
  have hall : ∀ segment ∈ ["api".toList, word.toList], IsSegment segment := by
    intro segment hsegment
    exact isSegment_named hword isSegment_nil segment (hparts hsegment)
  exact mountedAt_endpoint wording (Url.endpoint_words hbase hword) hall hroute htarget hmethod
    studio

/-- A request by an addressable name is answered at the resource of this name. -/
theorem mountedAt_named (wording : Wording) (hbase : base.Rooted) (h : (word, route) ∈ namedRoutes)
    (hname : Url.IsAddressable name) (request : Request)
    (htarget : request.target = (base.endpoint ["api", word, name]).targetChars)
    (hmethod : request.method ≠ .options ∧ request.method ≠ .head) (studio : Studio) :
    ∃ behind written, percentDecode? written = some name ∧ mountedAt wording base request studio =
      (.ok (answerRoute wording { request with target := behind } studio (route written)
        request.method).1,
        (answerRoute wording { request with target := behind } studio (route written)
          request.method).2) := by
  have hreached := Url.reachedName_eq_self_iff.mpr hname
  have hsegments := Url.endpoint_of_reached hbase (word_of_namedRoutes h) hreached
  have hall := isSegment_named (word_of_namedRoutes h)
    (isSegment_percentEncode (SchemeKind.of base.scheme) name.toList)
  have hroute := ofSegments_named h (@writtenName_ne_nil base name (reached_ne_nil hreached))
  obtain ⟨behind, hmounted⟩ :=
    mountedAt_endpoint wording hsegments hall hroute htarget hmethod studio
  exact ⟨behind, writtenName base name, percentDecode?_writtenName base name, hmounted⟩

end Http

end LanguageBlueprint
