/-
  LanguageBlueprint/Proofs/Configuration/Layers.lean
  ==================================================
  **Settings in layers.**  A file assigns texts to some of the settings, and
  perhaps a count of milliseconds; the environment assigns texts to some of them,
  too.  What is loaded are the settings of the environment, behind these those of
  the file, and behind these the usual ones.  The texts of a file are taken as they
  are; those of the environment are restated, so that one of them arrives as it was
  given exactly if it keeps its form.

    * the last entry of a layer         — `get?_eq_getLast?`, `get?_append`;
    * settings of a file                — `Assignment`, `ofFile?_assignments`, `Holds`;
    * settings of an environment        — `SetsTextsOnly`, `get?_ofEnvironment`;
    * what a layer makes of a setting   — `textOf_eq`, `optionalTextOf_eq`, `countOf_eq`;
    * settings in layers                — `Layered`, `load_layered`.
-/
import LanguageBlueprint.Configuration.Settings
import LanguageBlueprint.Proofs.Configuration.Restated
import LanguageBlueprint.Proofs.Json.Layout
import LanguageBlueprint.Proofs.Json.Literal

namespace LanguageBlueprint

open Number Text

/-- The settings that are texts. -/
inductive TextSetting where
  | database | bindAddress | logFilter | apiUrl
deriving DecidableEq, Repr

namespace TextSetting

def key : TextSetting → String
  | database => "database"
  | bindAddress => "bind_address"
  | logFilter => "log_filter"
  | apiUrl => "api_url"

/-- The text that settings hold for it. -/
def value? (settings : Settings) : TextSetting → Option String
  | database => settings.database
  | bindAddress => some settings.bindAddress
  | logFilter => some settings.logFilter
  | apiUrl => some settings.apiUrl

theorem key_injective : Function.Injective key := by
  intro field other heq
  cases field <;> cases other <;> first | rfl | simp [key] at heq

theorem key_ne_timeout (field : TextSetting) : field.key ≠ "request_timeout_ms" := by
  cases field <;> decide

end TextSetting

/-! ### The last entry of a layer -/

namespace SettingLayer

theorem get?_eq_getLast? (layer : SettingLayer) (key : String) :
    layer.get? key =
      (layer.filterMap (fun entry => if entry.1 = key then some entry.2 else none)).getLast? := by
  rw [get?, ← List.head?_filter, List.filter_reverse, List.head?_reverse, ← List.getLast?_map,
    ← List.filterMap_eq_map, List.filterMap_filter]
  simp only [Function.comp_apply, beq_iff_eq]

/-- A later layer covers an earlier one. -/
theorem get?_append (layer more : SettingLayer) (key : String) :
    SettingLayer.get? (layer ++ more) key = (more.get? key).or (layer.get? key) := by
  rw [get?_eq_getLast?, get?_eq_getLast?, get?_eq_getLast?, List.filterMap_append,
    List.getLast?_append]

/-! ### Settings of a file -/

theorem entry_key (field : TextSetting) (setting : Setting) :
    entry field.key setting = (field.key, setting) := by
  cases field <;> rfl

theorem entry_timeout (setting : Setting) :
    entry "request_timeout_ms" setting = ("request_timeout_ms", setting) := rfl

end SettingLayer

/-- What a file may assign: texts, and a count that is written as an integer. -/
inductive Assignment where
  | text (field : TextSetting) (s : String)
  | timeout (n : UInt64) (numeral : Numeral) (h : numeral.IsLiteral n.toNat)

namespace Assignment

/-- The member of the file's object. -/
def member : Assignment → Option String × Json
  | text field s => (some field.key, .text s)
  | timeout _ numeral _ => (some "request_timeout_ms", .number numeral)

/-- The entry in the layer of the file. -/
def entry : Assignment → String × Setting
  | text field s => (field.key, .text s)
  | timeout _ numeral _ => ("request_timeout_ms", .ofJson (.number numeral))

theorem entry_eq (assignment : Assignment) : assignment.entry =
    SettingLayer.entry (assignment.member.1.getD "") (Setting.ofJson assignment.member.2) := by
  cases assignment with
  | text field s => exact (SettingLayer.entry_key field (.text s)).symm
  | timeout n numeral h => exact (SettingLayer.entry_timeout (.ofJson (.number numeral))).symm

/-- The count of the file is a count again, also if it is written as a negative zero. -/
theorem toCount?_timeout {n : UInt64} {numeral : Numeral} (h : numeral.IsLiteral n.toNat) :
    numeral.value?.isSome = true ∧
      (Setting.ofJson (.number numeral)).toCount? = some n.toNat := by
  have hrange : (n.toNat : Int) < 2 ^ 64 := by
    have hlt := n.toNat_lt
    omega
  rcases Numeral.value?_literal h (by omega) hrange with hvalue | ⟨hzero, hvalue⟩
  · have hfits : fitsUInt64 n.toNat = true := by
      simpa [fitsUInt64, UInt64.size] using n.toNat_lt
    simp [Setting.ofJson, hvalue, hfits, Setting.toCount?]
  · have hnothing : n.toNat = 0 := by omega
    have hcount : Setting.countOfDouble (.finite true .zero) = 0 := rfl
    simp [Setting.ofJson, hvalue, hnothing, Setting.toCount?, hcount]

theorem isKeepable (depth : Nat) (assignment : Assignment) :
    assignment.member.1.isSome = true ∧ assignment.member.2.isKeepable depth = true := by
  cases assignment with
  | text field s => exact ⟨rfl, rfl⟩
  | timeout n numeral h => exact ⟨rfl, (toCount?_timeout h).1⟩

/-- The text that it gives for the setting. -/
def text? (field : TextSetting) : Assignment → Option String
  | text other s => if other = field then some s else none
  | timeout _ _ _ => none

def count? : Assignment → Option Nat
  | text _ _ => none
  | timeout n _ _ => some n.toNat

end Assignment

/-- The last text that the file gives for the setting. -/
def fileText? (assignments : List Assignment) (field : TextSetting) : Option String :=
  (assignments.filterMap (Assignment.text? field)).getLast?

def fileCount? (assignments : List Assignment) : Option Nat :=
  (assignments.filterMap Assignment.count?).getLast?

namespace SettingLayer

theorem allMembersKeepable (depth : Nat) (assignments : List Assignment) :
    Json.allMembersKeepable depth (assignments.map Assignment.member) = true := by
  induction assignments with
  | nil => rfl
  | cons assignment assignments ih =>
      obtain ⟨hkey, hvalue⟩ := assignment.isKeepable depth
      rw [List.map_cons, Json.allMembersKeepable, hkey, hvalue, ih]
      rfl

/-- The file is read, and its layer holds what it assigns. -/
theorem ofFile?_assignments {file : String} {assignments : List Assignment}
    (h : Json.IsTextOf (String.ofList (withoutMark file.toList))
      (.object (assignments.map Assignment.member) true)) :
    ofFile? file = some (assignments.map Assignment.entry) := by
  obtain ⟨gap, hgap, hread⟩ := Json.read_of_isTextOf h
  rw [Json.read, String.toList_ofList] at hread
  have hend : Json.isAllSpace gap = true := by
    rw [Json.isAllSpace, List.isEmpty_iff]
    exact List.dropWhile_eq_nil_iff.mpr hgap
  have hkeepable :
      (Json.object (assignments.map Assignment.member) true).isKeepable 127 = true := by
    rw [Json.isKeepable, allMembersKeepable]
    rfl
  have hentries : (assignments.map Assignment.member).map
      (fun member => entry (member.1.getD "") (Setting.ofJson member.2)) =
      assignments.map Assignment.entry := by
    rw [List.map_map]
    exact List.map_congr_left (fun assignment _ => assignment.entry_eq.symm)
  simp only [ofFile?, hread, hkeepable, hend, Bool.and_self, if_true, hentries]

theorem get?_assignments (assignments : List Assignment) (field : TextSetting) :
    get? (assignments.map Assignment.entry) field.key =
      (fileText? assignments field).map Setting.text := by
  rw [get?_eq_getLast?, fileText?, ← List.getLast?_map, List.map_filterMap, List.filterMap_map]
  apply congrArg List.getLast?
  apply List.filterMap_congr
  rintro assignment -
  cases assignment with
  | text other s =>
      by_cases hfield : other = field <;>
        simp [Assignment.entry, Assignment.text?, TextSetting.key_injective.eq_iff, hfield]
  | timeout n numeral h =>
      simp [Assignment.entry, Assignment.text?, field.key_ne_timeout.symm]

theorem get?_assignments_timeout (assignments : List Assignment) :
    (get? (assignments.map Assignment.entry) "request_timeout_ms").map Setting.toCount? =
      (fileCount? assignments).map some := by
  rw [get?_eq_getLast?, fileCount?, ← List.getLast?_map, ← List.getLast?_map, List.map_filterMap,
    List.map_filterMap, List.filterMap_map]
  apply congrArg List.getLast?
  apply List.filterMap_congr
  rintro assignment -
  cases assignment with
  | text field s => simp [Assignment.entry, Assignment.count?, field.key_ne_timeout]
  | timeout n numeral h =>
      simp [Assignment.entry, Assignment.count?, (Assignment.toCount?_timeout h).2]

/-- Of the settings of a studio, the layer holds what is assigned. -/
structure Holds (layer : SettingLayer) (assignments : List Assignment) : Prop where
  texts : ∀ field : TextSetting, layer.get? field.key =
    (fileText? assignments field).map Setting.text
  count : (layer.get? "request_timeout_ms").map Setting.toCount? =
    (fileCount? assignments).map some

theorem holds_assignments (assignments : List Assignment) :
    Holds (assignments.map Assignment.entry) assignments :=
  ⟨get?_assignments assignments, get?_assignments_timeout assignments⟩

end SettingLayer

/-! ### Settings of an environment -/

/-- The variable for the setting, in lower case. -/
def TextSetting.variableName (field : TextSetting) : String := "langforge_" ++ field.key

/-- Of the variables of the studio, the environment sets only those for texts. -/
def SetsTextsOnly (environment : List (String × String)) : Prop :=
  ∀ name value, (name, value) ∈ environment →
    "langforge_".toList <+: (Setting.lower name).toList →
    ∃ field : TextSetting, Setting.lower name = field.variableName

/-- The last text that the environment gives for the setting, under its variable in any case. -/
def environmentText? (environment : List (String × String)) (field : TextSetting) :
    Option String :=
  (environment.filterMap (fun entry =>
    if Setting.lower entry.1 = field.variableName then some entry.2 else none)).getLast?

namespace SettingLayer

/-- The entry that a variable makes, if it is one of the studio. -/
def entryOf? : String × String → Option (String × Setting)
  | (name, value) =>
      let key := (Setting.lower name).toList
      let start := "langforge_".toList
      if start.isPrefixOf key then
        some (entry (String.ofList (key.drop start.length)) (Setting.ofEnvironment value))
      else none

theorem ofEnvironment_eq (environment : List (String × String)) :
    ofEnvironment environment = environment.filterMap entryOf? := rfl

variable {name : String}

theorem entryOf?_text {field : TextSetting} (h : Setting.lower name = field.variableName)
    (value : String) :
    entryOf? (name, value) = some (field.key, Setting.ofEnvironment value) := by
  have hchars : (Setting.lower name).toList = "langforge_".toList ++ field.key.toList := by
    rw [h, TextSetting.variableName, String.toList_append]
  have hstart : "langforge_".toList.isPrefixOf ("langforge_".toList ++ field.key.toList) = true :=
    List.isPrefixOf_iff_prefix.mpr (List.prefix_append _ _)
  rw [entryOf?, hchars, if_pos hstart, List.drop_left, String.ofList_toList, entry_key]

theorem entryOf?_other (h : ¬ "langforge_".toList <+: (Setting.lower name).toList)
    (value : String) : entryOf? (name, value) = none := by
  rw [← List.isPrefixOf_iff_prefix] at h
  exact if_neg h

theorem lower_ne_variableName (h : ¬ "langforge_".toList <+: (Setting.lower name).toList)
    (field : TextSetting) : Setting.lower name ≠ field.variableName := by
  intro heq
  rw [heq, TextSetting.variableName, String.toList_append] at h
  exact h (List.prefix_append _ _)

theorem get?_ofEnvironment {environment : List (String × String)} (h : SetsTextsOnly environment)
    (field : TextSetting) : (ofEnvironment environment).get? field.key =
      (environmentText? environment field).map Setting.ofEnvironment := by
  rw [ofEnvironment_eq, get?_eq_getLast?, environmentText?, ← List.getLast?_map,
    List.map_filterMap, List.filterMap_filterMap]
  apply congrArg List.getLast?
  apply List.filterMap_congr
  rintro ⟨name, value⟩ hin
  by_cases hstart : "langforge_".toList <+: (Setting.lower name).toList
  · obtain ⟨other, hname⟩ := h name value hin hstart
    have hvariable : other.variableName = field.variableName ↔ other.key = field.key := by
      rw [TextSetting.variableName, TextSetting.variableName, String.append_right_inj]
    rw [entryOf?_text hname, hname]
    simp only [Option.bind_some, hvariable]
    split <;> rfl
  · rw [entryOf?_other hstart, if_neg (lower_ne_variableName hstart field)]
    rfl

theorem get?_ofEnvironment_timeout {environment : List (String × String)}
    (h : SetsTextsOnly environment) :
    (ofEnvironment environment).get? "request_timeout_ms" = none := by
  rw [ofEnvironment_eq, get?_eq_getLast?, List.filterMap_filterMap, List.getLast?_eq_none_iff,
    List.filterMap_eq_nil_iff]
  rintro ⟨name, value⟩ hin
  by_cases hstart : "langforge_".toList <+: (Setting.lower name).toList
  · obtain ⟨other, hname⟩ := h name value hin hstart
    rw [entryOf?_text hname, Option.bind_some, if_neg other.key_ne_timeout]
  · rw [entryOf?_other hstart, Option.bind_none]

end SettingLayer

/-! ### What a layer makes of a setting -/

namespace Settings

variable {layer : SettingLayer} {key : String}

/-- A setting that is made into something is not there, or is made into it. -/
theorem cases_of_map {α : Type} {made : Setting → Option α} {a? : Option α}
    (h : (layer.get? key).map made = a?.map some) :
    (layer.get? key = none ∧ a? = none) ∨
      ∃ setting a, layer.get? key = some setting ∧ made setting = some a ∧ a? = some a := by
  cases hget : layer.get? key with
  | none =>
      rw [hget, Option.map_none] at h
      exact .inl ⟨rfl, Option.map_eq_none_iff.mp h.symm⟩
  | some setting =>
      rw [hget, Option.map_some] at h
      obtain ⟨a, ha, hmade⟩ := Option.map_eq_some_iff.mp h.symm
      exact .inr ⟨setting, a, rfl, hmade.symm, ha⟩

theorem textOf_eq {text? : Option String}
    (h : (layer.get? key).map Setting.toText? = text?.map some) (usual : String) :
    textOf layer key usual = .ok (text?.getD usual) := by
  rcases cases_of_map h with ⟨hget, rfl⟩ | ⟨setting, s, hget, hmade, rfl⟩
  · simp [textOf, hget]
  · simp [textOf, hget, hmade]

theorem optionalTextOf_eq {text? : Option String}
    (h : (layer.get? key).map Setting.toText? = text?.map some) :
    optionalTextOf layer key = .ok text? := by
  rcases cases_of_map h with ⟨hget, rfl⟩ | ⟨setting, s, hget, hmade, rfl⟩
  · simp [optionalTextOf, hget]
  · rw [optionalTextOf, hget]
    cases setting with
    | null => cases hmade
    | _ => simp only [hmade]

theorem countOf_eq {count? : Option Nat}
    (h : (layer.get? key).map Setting.toCount? = count?.map some) (usual : Nat) :
    countOf layer key usual = .ok (count?.getD usual) := by
  rcases cases_of_map h with ⟨hget, rfl⟩ | ⟨setting, n, hget, hmade, rfl⟩
  · simp [countOf, hget]
  · simp [countOf, hget, hmade]

/-- Where the store is kept depends on the trimmed text. -/
theorem storeLocation_eq (settings : Settings) : settings.storeLocation =
    if trim (settings.database.getD "") = "" then .memory
    else .file (trim (settings.database.getD "")) := by
  unfold storeLocation
  cases settings.database with
  | none => rfl
  | some path => simp only [isBlank_iff_trim, Option.getD_some]

/-! ### Settings in layers -/

/-- The settings are those of the environment, restated, behind these those of the file, and behind
these the usual ones. -/
structure Layered (assignments : List Assignment) (environment : List (String × String))
    (settings : Settings) : Prop where
  texts : ∀ field : TextSetting, field.value? settings =
    (((environmentText? environment field).map Setting.restated).or
      (fileText? assignments field)).or (field.value? {})
  timeout : settings.requestTimeoutMs =
    (fileCount? assignments).getD ({} : Settings).requestTimeoutMs
  location : settings.storeLocation =
    if trim (settings.database.getD "") = "" then .memory
    else .file (trim (settings.database.getD ""))
  /-- A text of the environment arrives as it was given exactly if it keeps its form. -/
  given : ∀ field s, environmentText? environment field = some s →
    (field.value? settings = some s ↔ Setting.KeepsForm s)
  foreign : ∀ field s, environmentText? environment field = some s → Setting.IsForeign s →
    field.value? settings = some s

variable {assignments : List Assignment} {environment : List (String × String)}

/-- Nothing but the order of the layers decides. -/
theorem layered_of_texts {settings : Settings}
    (htexts : ∀ field : TextSetting, field.value? settings =
      (((environmentText? environment field).map Setting.restated).or
        (fileText? assignments field)).or (field.value? {}))
    (htimeout : settings.requestTimeoutMs =
      (fileCount? assignments).getD ({} : Settings).requestTimeoutMs) :
    settings.Layered assignments environment := by
  have hgiven : ∀ field s, environmentText? environment field = some s →
      (field.value? settings = some s ↔ Setting.KeepsForm s) := by
    intro field s hs
    rw [htexts, hs, Option.map_some, Option.some_or, Option.some_or, Option.some_inj,
      Setting.restated_eq_self_iff]
  constructor
  case texts => exact htexts
  case timeout => exact htimeout
  case location => exact settings.storeLocation_eq
  case given => exact hgiven
  case foreign =>
    intro field s hs hforeign
    exact (hgiven field s hs).mpr hforeign.keepsForm

/-- A layer of which every text is known makes settings. -/
theorem ofLayer_layered
    (htexts : ∀ field : TextSetting, (layer.get? field.key).map Setting.toText? =
      (((environmentText? environment field).map Setting.restated).or
        (fileText? assignments field)).map some)
    (htimeout : (layer.get? "request_timeout_ms").map Setting.toCount? =
      (fileCount? assignments).map some) :
    ∃ settings, ofLayer layer = .ok settings ∧ settings.Layered assignments environment := by
  have hdatabase : optionalTextOf layer "database" = .ok _ := optionalTextOf_eq (htexts .database)
  have hbind : ∀ usual, textOf layer "bind_address" usual = .ok _ := textOf_eq (htexts .bindAddress)
  have hlog : ∀ usual, textOf layer "log_filter" usual = .ok _ := textOf_eq (htexts .logFilter)
  have hurl : ∀ usual, textOf layer "api_url" usual = .ok _ := textOf_eq (htexts .apiUrl)
  have hcount := countOf_eq htimeout
  refine ⟨_, by rw [ofLayer, hdatabase, hbind, hlog, hurl, hcount]; rfl, layered_of_texts ?_ rfl⟩
  intro field
  cases field with
  | database => exact Option.or_none.symm
  | bindAddress => exact Option.or_some.symm
  | logFilter => exact Option.or_some.symm
  | apiUrl => exact Option.or_some.symm

/-- The environment covers what a file holds, however the file was read. -/
theorem ofLayer_holds (h : layer.Holds assignments) (henvironment : SetsTextsOnly environment) :
    ∃ settings, ofLayer (layer ++ SettingLayer.ofEnvironment environment) = .ok settings ∧
      settings.Layered assignments environment := by
  have hgiven : ∀ field : TextSetting,
      ((SettingLayer.ofEnvironment environment).get? field.key).map Setting.toText? =
        ((environmentText? environment field).map Setting.restated).map some := by
    intro field
    rw [SettingLayer.get?_ofEnvironment henvironment, Option.map_map, Option.map_map]
    exact congrArg (Option.map · _) (funext Setting.toText?_ofEnvironment)
  have hplain : ∀ text? : Option String,
      (text?.map Setting.text).map Setting.toText? = text?.map some := by
    intro text?
    rw [Option.map_map]
    rfl
  apply ofLayer_layered
  · intro field
    rw [SettingLayer.get?_append, Option.map_or, Option.map_or, hgiven, h.texts, hplain]
  · rw [SettingLayer.get?_append, SettingLayer.get?_ofEnvironment_timeout henvironment,
      Option.none_or]
    exact h.count

/-- **Settings are loaded in layers.**  If the environment sets nothing but texts, then settings are
loaded from any layer that holds assignments, from every text of a file that makes them, and without
a file: those of the environment, behind these those of the file, and behind these the usual
ones. -/
theorem load_layered (assignments : List Assignment) {environment : List (String × String)}
    (henvironment : SetsTextsOnly environment) :
    (∀ layer : SettingLayer, layer.Holds assignments →
      ∃ settings, ofLayer (layer ++ SettingLayer.ofEnvironment environment) = .ok settings ∧
        settings.Layered assignments environment) ∧
    (∀ file, Json.IsTextOf (String.ofList (SettingLayer.withoutMark file.toList))
        (.object (assignments.map Assignment.member) true) →
      ∃ settings, loadWith file environment = .ok settings ∧
        settings.Layered assignments environment) ∧
    ∃ settings, load environment = .ok settings ∧ settings.Layered [] environment := by
  refine ⟨?_, ?_, ?_⟩
  · intro layer hlayer
    exact ofLayer_holds hlayer henvironment
  · intro file hfile
    rw [loadWith, SettingLayer.ofFile?_assignments hfile]
    exact ofLayer_holds (SettingLayer.holds_assignments assignments) henvironment
  · exact ofLayer_holds (SettingLayer.holds_assignments []) henvironment

/-- A file that names the store, an address and a count. -/
def namedStore : List Assignment :=
  [.text .database "wizard.db", .text .bindAddress "127.0.0.1:9000",
    .timeout 1500 (.ofInt 1500) (Numeral.isLiteral_ofInt 1500)]

def namedStoreFile : Json := .object (namedStore.map Assignment.member) true

/-- The database is named again, after a number, and the rest of the environment does not count. -/
def numberedStore : List (String × String) :=
  [("HOME", "/root"), ("Langforge_Log_Filter", "langforge=debug"), ("LANGFORGE_DATABASE", "007")]

theorem load_layered_numberedStore :
    Json.IsTextOf (String.ofList (SettingLayer.withoutMark namedStoreFile.compact.toList))
      namedStoreFile ∧
    SetsTextsOnly numberedStore ∧
    ∃ settings, loadWith namedStoreFile.compact numberedStore = .ok settings ∧
      settings.database = some "7" ∧ settings.bindAddress = "127.0.0.1:9000" ∧
      settings.logFilter = "langforge=debug" ∧ settings.requestTimeoutMs = 1500 ∧
      settings.storeLocation = .file "7" := by
  have hwritable : namedStoreFile.Writable :=
    ⟨⟨⟨_, rfl⟩, trivial, ⟨_, rfl⟩, trivial, ⟨_, rfl⟩, ⟨1500, rfl⟩, trivial⟩, rfl⟩
  have hmark : SettingLayer.withoutMark namedStoreFile.compact.toList =
      namedStoreFile.compact.toList := by
    decide +kernel
  have hfile : Json.IsTextOf (String.ofList (SettingLayer.withoutMark
      namedStoreFile.compact.toList)) namedStoreFile := by
    rw [hmark, String.ofList_toList]
    exact Json.isTextOf_compact hwritable
  have henvironment : SetsTextsOnly numberedStore := by
    intro name value hin hstart
    simp only [numberedStore, List.mem_cons, Prod.mk.injEq, List.not_mem_nil, or_false] at hin
    rcases hin with ⟨rfl, -⟩ | ⟨rfl, -⟩ | ⟨rfl, -⟩
    · exact absurd hstart (by decide)
    · exact ⟨.logFilter, by decide⟩
    · exact ⟨.database, by decide⟩
  obtain ⟨settings, hload, hlayered⟩ := (load_layered namedStore henvironment).2.1 _ hfile
  have hdatabase : settings.database = some "7" :=
    (hlayered.texts .database).trans (by decide +kernel)
  have hbind : some settings.bindAddress = some "127.0.0.1:9000" :=
    (hlayered.texts .bindAddress).trans (by decide +kernel)
  have hlog : some settings.logFilter = some "langforge=debug" :=
    (hlayered.texts .logFilter).trans (by decide +kernel)
  have hlocation : settings.storeLocation = .file "7" := by
    rw [hlayered.location, hdatabase]
    decide
  exact ⟨hfile, henvironment, settings, hload, hdatabase, Option.some.inj hbind,
    Option.some.inj hlog, hlayered.timeout, hlocation⟩

/-- Of one and the same text, the environment keeps less than a file. -/
theorem trailing_zero_lost :
    load [("LANGFORGE_DATABASE", "1.50")] = .ok { database := some "1.5" } ∧
    loadWith "\x7b\"database\": \"1.50\"\x7d" [] = .ok { database := some "1.50" } := by
  decide +kernel

end Settings

end LanguageBlueprint
