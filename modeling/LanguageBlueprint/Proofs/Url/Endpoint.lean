/-
  LanguageBlueprint/Proofs/Url/Endpoint.lean
  ==========================================
  **The addresses of resources.**  Below an accepted base address the fixed words
  of a path are appended as they are, and behind them a name in its encoded form.
  Of a name tabs and line breaks are passed over, and what is then empty or
  written as dots reaches nothing: dots lead elsewhere, and an empty segment ends
  the path.

    * how a file's path begins               — `rooted_of_parse`;
    * encoded names that are dots            — `isSingleDot_percentEncode`, `isDoubleDot_percentEncode`;
    * one more segment                       — `appendName_eq`, `appendName_word`;
    * the endpoint of a name                 — `endpoint_of_reached`, `endpoint_of_unreached`.
-/
import LanguageBlueprint.Text.Percent
import LanguageBlueprint.Url.Parse

namespace LanguageBlueprint.Url

open Text

/-! ### How the path of a file begins -/

/-- The first segment is there, and it is not empty. -/
def BeginsNamed (segments : List (List Char)) : Prop :=
  ∃ first rest, segments = first :: rest ∧ first ≠ []

theorem BeginsNamed.append {segments : List (List Char)} (h : BeginsNamed segments)
    (more : List (List Char)) : BeginsNamed (segments ++ more) := by
  obtain ⟨first, rest, rfl, hfirst⟩ := h
  exact ⟨first, rest ++ more, rfl, hfirst⟩

theorem dropEmptySegments_of_beginsNamed {segments : List (List Char)} (h : BeginsNamed segments) :
    dropEmptySegments segments = segments := by
  obtain ⟨first, rest, rfl, hfirst⟩ := h
  have hnonempty : first.isEmpty = false := by
    simpa using hfirst
  cases rest with
  | nil => rfl
  | cons second rest => simp only [dropEmptySegments, hnonempty, Bool.false_eq_true, if_false]

theorem dropEmptySegments_cases (segments : List (List Char)) :
    dropEmptySegments segments = [[]] ∨ BeginsNamed (dropEmptySegments segments) := by
  fun_induction dropEmptySegments segments with
  | case1 => exact .inl rfl
  | case2 segment =>
      by_cases hempty : segment = []
      · rw [hempty]
        exact .inl rfl
      · exact .inr ⟨segment, [], rfl, hempty⟩
  | case3 segment segments _ _ ih => exact ih
  | case4 segment segments _ hnonempty =>
      right
      refine ⟨segment, segments, rfl, ?_⟩
      intro hempty
      exact hnonempty (List.isEmpty_iff.mpr hempty)

theorem scheme_of_afterSlashes {scheme cs : List Char} {kind : SchemeKind} {url : Url}
    (h : afterSlashes scheme kind cs = .ok url) : url.scheme = scheme := by
  unfold afterSlashes at h
  dsimp only [bind, Except.bind] at h
  split at h
  · cases h
  · cases h
    rfl

theorem scheme_of_otherUrl {scheme cs : List Char} {url : Url}
    (h : otherUrl scheme cs = .ok url) : url.scheme = scheme := by
  unfold otherUrl at h
  split at h
  · exact scheme_of_afterSlashes h
  · cases h
    rfl
  · cases h

theorem segments_resolveFilePath (cs : List Char) :
    ∃ segments, (resolveFilePath cs).segments = dropEmptySegments segments :=
  ⟨_, rfl⟩

theorem segments_of_filePlace {cs : List Char} {place : Authority × FilePath}
    (h : filePlace cs = .ok place) :
    ∃ segments, place.2.segments = dropEmptySegments segments := by
  unfold filePlace at h
  dsimp only [bind, Except.bind, pure, Except.pure] at h
  split at h
  · cases h
    exact segments_resolveFilePath cs
  · split at h
    · cases h
    · cases h
      exact segments_resolveFilePath _

theorem segments_of_fileUrl {cs : List Char} {url : Url} (h : fileUrl cs = .ok url) :
    ∃ segments, url.segments = dropEmptySegments segments := by
  unfold fileUrl at h
  dsimp only [bind, Except.bind, pure, Except.pure] at h
  split at h
  · cases h
    exact segments_resolveFilePath []
  · split at h
    · cases h
      exact segments_resolveFilePath _
    · split at h
      · cases h
        exact segments_resolveFilePath []
      · split at h
        · split at h
          · cases h
          · rename_i place hplace
            cases h
            exact segments_of_filePlace hplace
        · cases h
          exact segments_resolveFilePath _

/-- The path of a file is empty or begins with a name. -/
def Rooted (url : Url) : Prop :=
  SchemeKind.of url.scheme = .file → url.segments = [[]] ∨ BeginsNamed url.segments

theorem rooted_of_parse {text : String} {url : Url} (h : parse text = .ok url) : url.Rooted := by
  intro hfile
  unfold parse at h
  split at h
  · cases h
  · rename_i scheme rest _
    split at h
    · rename_i hkind
      rw [scheme_of_afterSlashes h, hkind] at hfile
      cases hfile
    · obtain ⟨segments, hsegments⟩ := segments_of_fileUrl h
      rw [hsegments]
      exact dropEmptySegments_cases segments
    · rename_i hkind
      rw [scheme_of_otherUrl h, hkind] at hfile
      cases hfile

/-! ### Names that are written as dots -/

theorem keepInSegment_percent (kind : SchemeKind) : keepInSegment kind '%' = false := by
  cases kind <;> decide

/-- A segment that is read as dots is decoded to dots. -/
theorem percentDecodeBytes_of_dots (segment : List Char) :
    ∀ n, decodeDots segment = List.replicate n '.' →
      percentDecodeBytes segment = (List.replicate n '.').flatMap String.utf8EncodeChar := by
  fun_induction decodeDots segment with
  | case1 e rest he ih =>
      intro n hdots
      cases n with
      | zero => cases hdots
      | succ n =>
          have hrest := ih n (List.cons.inj hdots).2
          have hbyte : percentDecodeBytes ('%' :: '2' :: e :: rest) =
              0x2E :: percentDecodeBytes rest := by
            rcases Bool.or_eq_true_iff.mp he with hlower | hupper
            · rw [eq_of_beq hlower]
              rfl
            · rw [eq_of_beq hupper]
              rfl
          rw [hbyte, hrest, List.replicate_succ, List.flatMap_cons]
          rfl
  | case2 e rest he ih =>
      intro n hdots
      cases n with
      | zero => cases hdots
      | succ n => exact absurd (List.cons.inj hdots).1 (by decide)
  | case3 c rest hplain ih =>
      intro n hdots
      cases n with
      | zero => cases hdots
      | succ n =>
          obtain ⟨rfl, hrest⟩ := List.cons.inj hdots
          rw [percentDecodeBytes_cons (by decide), ih n hrest, List.replicate_succ,
            List.flatMap_cons]
  | case4 =>
      intro n hdots
      cases n with
      | zero => rfl
      | succ n => cases hdots

/-- Only dots are encoded as something that is read as dots. -/
theorem eq_of_decodeDots_percentEncode {keep : Char → Bool} (hmark : keep '%' = false)
    {cs : List Char} {n : Nat} (h : decodeDots (percentEncode keep cs) = List.replicate n '.') :
    cs = List.replicate n '.' := by
  have hbytes := percentDecodeBytes_of_dots (percentEncode keep cs) n h
  have hdots := percentDecodeBytes_percentEncode hmark (List.replicate n '.')
  have hsame : percentDecode? (percentEncode keep cs) =
      percentDecode? (percentEncode keep (List.replicate n '.')) := by
    rw [percentDecode?, percentDecode?, hbytes, hdots]
  rw [percentDecode?_percentEncode hmark, percentDecode?_percentEncode hmark,
    Option.some.injEq] at hsame
  exact String.ofList_injective hsame

theorem isSingleDot_percentEncode {kind : SchemeKind} {cs : List Char} :
    isSingleDot (percentEncode (keepInSegment kind) cs) = true ↔ cs = ['.'] := by
  rw [isSingleDot, beq_iff_eq]
  constructor
  · intro h
    exact eq_of_decodeDots_percentEncode (n := 1) (keepInSegment_percent kind) h
  · rintro rfl
    cases kind <;> decide

theorem isDoubleDot_percentEncode {kind : SchemeKind} {cs : List Char} :
    isDoubleDot (percentEncode (keepInSegment kind) cs) = true ↔ cs = ['.', '.'] := by
  rw [isDoubleDot, beq_iff_eq]
  constructor
  · intro h
    exact eq_of_decodeDots_percentEncode (n := 2) (keepInSegment_percent kind) h
  · rintro rfl
    cases kind <;> decide

/-! ### One more segment -/

/-- The segments of a path behind which names can be appended: in the path of a file the first of
them is not empty. -/
structure Extensible (kind : SchemeKind) (segments : List (List Char)) : Prop where
  nonempty : segments ≠ []
  nonblank : segments ≠ [[]]
  beginsNamed : kind = .file → BeginsNamed segments

theorem dropEmptySegments_pushSegment {segments : List (List Char)} (h : BeginsNamed segments)
    (segment : List Char) :
    dropEmptySegments (pushSegment true segments segment) = pushSegment true segments segment := by
  unfold pushSegment
  split
  · rw [if_pos rfl]
    unfold shorten
    split
    · exact dropEmptySegments_of_beginsNamed (h.append [[]])
    · obtain ⟨first, rest, rfl, hfirst⟩ := h
      cases rest with
      | nil => rfl
      | cons second rest =>
          exact dropEmptySegments_of_beginsNamed ⟨first, _, rfl, hfirst⟩
  · split
    · exact dropEmptySegments_of_beginsNamed (h.append [[]])
    · exact dropEmptySegments_of_beginsNamed (h.append [segment])

/-- A name that is no dots is encoded and pushed, without its tabs and line breaks. -/
theorem appendName_eq {kind : SchemeKind} {segments : List (List Char)}
    (h : Extensible kind segments) {name : String} (hsingle : name ≠ ".") (hdouble : name ≠ "..") :
    appendName kind segments name =
      pushSegment true segments (percentEncode (keepInSegment kind) (passOver name.toList)) := by
  unfold appendName
  rw [if_neg (by simpa using ⟨hsingle, hdouble⟩), if_neg h.nonblank]
  cases kind with
  | web => rfl
  | other => rfl
  | file =>
      have hsome : segments.isEmpty = false := by
        simpa using h.nonempty
      simp only [FilePath.push, hsome, Bool.false_eq_true, if_false]
      exact dropEmptySegments_pushSegment (h.beginsNamed rfl) _

/-- The fixed words of the paths. -/
def words : List String := ["api", "languages", "generate", "download"]

theorem kept_of_word (kind : SchemeKind) {word : String} (h : word ∈ words) :
    ∀ c ∈ word.toList, keepInSegment kind c = true ∧ isPassedOver c = false := by
  have hall : ∀ word ∈ words,
      word.toList.all (fun c => keepInSegment kind c && !isPassedOver c) = true := by
    cases kind <;> decide
  intro c hc
  have hboth := List.all_eq_true.mp (hall word h) c hc
  rw [Bool.and_eq_true, Bool.not_eq_true'] at hboth
  exact hboth

/-- A word is no dots, and it names no drive. -/
theorem plain_of_word {word : String} (h : word ∈ words) :
    word ≠ "." ∧ word ≠ ".." ∧ namesDrive word.toList = false := by
  have hall : ∀ word ∈ words, word ≠ "." ∧ word ≠ ".." ∧ namesDrive word.toList = false := by
    decide
  exact hall word h

theorem passOver_eq_self {cs : List Char} (h : ∀ c ∈ cs, isPassedOver c = false) :
    passOver cs = cs := by
  apply List.filter_eq_self.mpr
  intro c hc
  rw [h c hc]
  rfl

theorem encode_word (kind : SchemeKind) {word : String} (h : word ∈ words) :
    percentEncode (keepInSegment kind) (passOver word.toList) = word.toList := by
  have hkept := kept_of_word kind h
  rw [passOver_eq_self (fun c hc => (hkept c hc).2)]
  exact percentEncode_eq_self (fun c hc => (hkept c hc).1)

theorem pushSegment_percentEncode {kind : SchemeKind} {segments : List (List Char)}
    {cs : List Char} (hsingle : cs ≠ ['.']) (hdouble : cs ≠ ['.', '.']) :
    pushSegment true segments (percentEncode (keepInSegment kind) cs) =
      segments ++ [percentEncode (keepInSegment kind) cs] := by
  apply pushSegment_of_plain
  · rw [← Bool.not_eq_true, isDoubleDot_percentEncode]
    exact hdouble
  · rw [← Bool.not_eq_true, isSingleDot_percentEncode]
    exact hsingle

theorem appendName_word {kind : SchemeKind} {segments : List (List Char)}
    (h : Extensible kind segments) {word : String} (hword : word ∈ words) :
    appendName kind segments word = segments ++ [word.toList] := by
  obtain ⟨hsingle, hdouble, -⟩ := plain_of_word hword
  have hchars := passOver_eq_self (fun c hc => (kept_of_word kind hword c hc).2)
  have hpush : pushSegment true segments
        (percentEncode (keepInSegment kind) (passOver word.toList)) =
      segments ++ [percentEncode (keepInSegment kind) (passOver word.toList)] := by
    rw [hchars]
    apply pushSegment_percentEncode
    · intro heq
      exact hsingle (String.toList_injective heq)
    · intro heq
      exact hdouble (String.toList_injective heq)
  rw [appendName_eq h hsingle hdouble, hpush, encode_word kind hword]

/-! ### Endpoints -/

/-- The segments below which the endpoints of a base address lie. -/
def root (base : Url) : List (List Char) :=
  if dropTrailingSlash base.segments = [[]] then [] else dropTrailingSlash base.segments

theorem root_ne_blank (base : Url) : base.root ≠ [[]] := by
  unfold root
  split
  · exact (List.cons_ne_nil [] []).symm
  · rename_i hne
    exact hne

theorem dropTrailingSlash_of_beginsNamed {segments : List (List Char)} (h : BeginsNamed segments) :
    BeginsNamed (dropTrailingSlash segments) := by
  unfold dropTrailingSlash
  split
  · rename_i hlong
    obtain ⟨first, rest, rfl, hfirst⟩ := h
    cases rest with
    | nil => simp at hlong
    | cons second rest => exact ⟨first, (second :: rest).dropLast, rfl, hfirst⟩
  · exact h

theorem Rooted.root {base : Url} (h : base.Rooted) (hfile : SchemeKind.of base.scheme = .file) :
    base.root = [] ∨ BeginsNamed base.root := by
  unfold Url.root
  split
  · exact .inl rfl
  · rename_i hne
    rcases h hfile with hblank | hnamed
    · rw [hblank] at hne
      exact absurd rfl hne
    · exact .inr (dropTrailingSlash_of_beginsNamed hnamed)

theorem extensible_word {base : Url} (h : base.Rooted) {word : String} (hword : word ≠ "")
    (more : List (List Char)) :
    Extensible (SchemeKind.of base.scheme) (base.root ++ word.toList :: more) := by
  have hchars : word.toList ≠ [] := by
    intro hnil
    exact hword (String.toList_injective hnil)
  constructor
  · simp
  · intro hblank
    rcases List.append_eq_singleton_iff.mp hblank with ⟨_, hword⟩ | ⟨_, hcons⟩
    · exact hchars (List.cons.inj hword).1
    · cases hcons
  · intro hfile
    rcases h.root hfile with hnil | hnamed
    · rw [hnil]
      exact ⟨word.toList, more, rfl, hchars⟩
    · exact hnamed.append _

/-- The first word stands directly below the root. -/
theorem appendName_first {base : Url} (h : base.Rooted) :
    appendName (SchemeKind.of base.scheme) (dropTrailingSlash base.segments) "api" =
      base.root ++ ["api".toList] := by
  have hword : "api" ∈ words := by decide
  by_cases hroot : base.root = []
  · have hbare : dropTrailingSlash base.segments = [[]] ∨ dropTrailingSlash base.segments = [] := by
      unfold root at hroot
      split at hroot
      · rename_i hblank
        exact .inl hblank
      · exact .inr hroot
    rw [hroot]
    generalize SchemeKind.of base.scheme = kind
    rcases hbare with hblank | hnil
    · rw [hblank]
      cases kind <;> decide
    · rw [hnil]
      cases kind <;> decide
  · have hsame : dropTrailingSlash base.segments = base.root := by
      unfold root at hroot ⊢
      split at hroot
      · exact absurd rfl hroot
      · rename_i hne
        rw [if_neg hne]
    rw [hsame]
    refine appendName_word ⟨hroot, root_ne_blank base, ?_⟩ hword
    intro hfile
    exact (h.root hfile).resolve_left hroot

theorem endpoint_words {base : Url} (h : base.Rooted) {word : String} (hword : word ∈ words) :
    (base.endpoint ["api", word]).segments = base.root ++ ["api".toList, word.toList] := by
  have hstart : Extensible (SchemeKind.of base.scheme) (base.root ++ ["api".toList]) :=
    extensible_word h (by decide) []
  have hmore := appendName_word hstart hword
  simp only [endpoint, List.foldl_cons, List.foldl_nil, appendName_first h, hmore,
    List.append_assoc, List.cons_append, List.nil_append]

theorem endpoint_name {base : Url} (h : base.Rooted) {word name : String} (hword : word ∈ words) :
    (base.endpoint ["api", word, name]).segments =
      appendName (SchemeKind.of base.scheme) (base.root ++ ["api".toList, word.toList]) name := by
  have hwords := endpoint_words h hword
  simp only [endpoint, List.foldl_cons, List.foldl_nil] at hwords ⊢
  rw [hwords]

/-- The name that a request by a name reaches: tabs and line breaks are passed over, and what is
then empty or dots reaches nothing. -/
def reachedName (name : String) : Option String :=
  if passOver name.toList ∈ [[], ['.'], ['.', '.']] then none
  else some (String.ofList (passOver name.toList))

/-- A name that is reached is the last segment of its endpoint, encoded. -/
theorem endpoint_of_reached {base : Url} (h : base.Rooted) {word name reached : String}
    (hword : word ∈ words) (hreached : reachedName name = some reached) :
    (base.endpoint ["api", word, name]).segments =
      base.root ++ ["api".toList, word.toList,
        percentEncode (keepInSegment (SchemeKind.of base.scheme)) reached.toList] := by
  have hstart : Extensible (SchemeKind.of base.scheme)
      (base.root ++ ["api".toList, word.toList]) := extensible_word h (by decide) [word.toList]
  unfold reachedName at hreached
  split at hreached
  · cases hreached
  · rename_i hplain
    cases hreached
    have hsingle : passOver name.toList ≠ ['.'] := by
      intro heq
      rw [heq] at hplain
      exact hplain (by decide)
    have hdouble : passOver name.toList ≠ ['.', '.'] := by
      intro heq
      rw [heq] at hplain
      exact hplain (by decide)
    have hname : name ≠ "." ∧ name ≠ ".." := by
      constructor
      · rintro rfl
        exact hsingle (by decide)
      · rintro rfl
        exact hdouble (by decide)
    rw [endpoint_name h hword, appendName_eq hstart hname.1 hname.2,
      pushSegment_percentEncode hsingle hdouble, @String.toList_ofList (passOver name.toList),
      List.append_assoc]
    rfl

theorem pushSegment_dots {kind : SchemeKind} {segments : List (List Char)} {last : List Char}
    (hdrive : namesDrive last = false) :
    pushSegment true (segments ++ [last]) (percentEncode (keepInSegment kind) ['.']) =
      segments ++ [last, []] ∧
    pushSegment true (segments ++ [last]) (percentEncode (keepInSegment kind) ['.', '.']) =
      segments ++ [[]] := by
  have hone : isDoubleDot (percentEncode (keepInSegment kind) ['.']) = false := by
    rw [← Bool.not_eq_true, isDoubleDot_percentEncode]
    decide
  have hshorten : shorten (segments ++ [last]) = segments := by
    simp [shorten, hdrive]
  constructor
  · rw [pushSegment, hone, isSingleDot_percentEncode.mpr rfl]
    simp
  · rw [pushSegment, isDoubleDot_percentEncode.mpr rfl, hshorten]
    simp

/-- A name that is not reached leads to a path without a name. -/
theorem endpoint_of_unreached {base : Url} (h : base.Rooted) {word name : String}
    (hword : word ∈ words) (hreached : reachedName name = none) :
    ∃ tail ∈ [["api".toList, word.toList], ["api".toList, word.toList, []], ["api".toList, []]],
      (base.endpoint ["api", word, name]).segments = base.root ++ tail := by
  have hstart : Extensible (SchemeKind.of base.scheme)
      (base.root ++ ["api".toList, word.toList]) := extensible_word h (by decide) [word.toList]
  have hassoc : base.root ++ ["api".toList, word.toList] =
      (base.root ++ ["api".toList]) ++ [word.toList] := by
    rw [List.append_assoc]
    rfl
  rw [endpoint_name h hword]
  by_cases hname : name = "." ∨ name = ".."
  · -- a name of dots appends nothing
    refine ⟨["api".toList, word.toList], by simp, ?_⟩
    unfold appendName
    rw [if_pos (by simpa using hname)]
  · rw [not_or] at hname
    rw [appendName_eq hstart hname.1 hname.2]
    unfold reachedName at hreached
    split at hreached
    · rename_i hdots
      obtain ⟨hsingle, hdouble⟩ :=
        @pushSegment_dots (SchemeKind.of base.scheme) (base.root ++ ["api".toList]) word.toList
          (plain_of_word hword).2.2
      simp only [List.mem_cons, List.not_mem_nil, or_false] at hdots
      rcases hdots with hnil | hone | htwo
      · refine ⟨["api".toList, word.toList, []], by simp, ?_⟩
        rw [hnil, pushSegment_percentEncode (by decide) (by decide), List.append_assoc]
        rfl
      · refine ⟨["api".toList, word.toList, []], by simp, ?_⟩
        rw [hone, hassoc, hsingle, List.append_assoc]
        rfl
      · refine ⟨["api".toList, []], by simp, ?_⟩
        rw [htwo, hassoc, hdouble, List.append_assoc]
        rfl
    · cases hreached

/-- A name that a path can end with: it is not empty, no dots, and has no tabs or line breaks. -/
structure IsAddressable (name : String) : Prop where
  nonempty : name ≠ ""
  noDot : name ≠ "."
  noDots : name ≠ ".."
  noBreaks : ∀ c ∈ name.toList, isPassedOver c = false

/-- Exactly the addressable names are reached as they are. -/
theorem reachedName_eq_self_iff {name : String} :
    reachedName name = some name ↔ IsAddressable name := by
  have hchars : ∀ other : String, name.toList = other.toList ↔ name = other := by
    intro other
    exact String.toList_inj
  constructor
  · intro hreached
    unfold reachedName at hreached
    split at hreached
    · cases hreached
    · rename_i hplain
      have hkept : passOver name.toList = name.toList := by
        rw [Option.some.injEq] at hreached
        have hlist := congrArg String.toList hreached
        rwa [String.toList_ofList] at hlist
      rw [hkept] at hplain
      refine ⟨?_, ?_, ?_, ?_⟩
      · rintro rfl
        exact hplain (by decide)
      · rintro rfl
        exact hplain (by decide)
      · rintro rfl
        exact hplain (by decide)
      · intro c hc
        have hin := List.filter_eq_self.mp hkept c hc
        simpa using hin
  · intro h
    have hplain : name.toList ∉ [[], ['.'], ['.', '.']] := by
      intro hin
      simp only [List.mem_cons, List.not_mem_nil, or_false] at hin
      rcases hin with hnil | hone | htwo
      · exact h.nonempty ((hchars "").mp hnil)
      · exact h.noDot ((hchars ".").mp hone)
      · exact h.noDots ((hchars "..").mp htwo)
    rw [reachedName, passOver_eq_self h.noBreaks, if_neg hplain, String.ofList_toList]

end LanguageBlueprint.Url
