/-
  LanguageBlueprint/Configuration/Settings.lean
  =============================================
  **The settings of a studio.**  There are five settings.  Each has a default,
  may be given in a file, and may be given again in the environment; the last of
  these counts.
-/
import LanguageBlueprint.Configuration.Setting
import LanguageBlueprint.Failure

namespace LanguageBlueprint

open Text

inductive StoreLocation where
  | memory
  | file (path : String)
deriving DecidableEq, Repr

structure Settings where
  database : Option String := none
  bindAddress : String := "0.0.0.0:8000"
  logFilter : String := "info"
  apiUrl : String := "http://localhost:8000"
  requestTimeoutMs : Nat := 30000
deriving DecidableEq, Repr

namespace Settings

/-- Where the store is kept: in the named file, or in memory when none is named. -/
def storeLocation (settings : Settings) : StoreLocation :=
  match settings.database with
  | some path => if isBlank path then .memory else .file (trim path)
  | none => .memory

/-- How long a request may take, in whole seconds. -/
def requestTimeoutSeconds (settings : Settings) : Nat := settings.requestTimeoutMs / 1000

end Settings

/-! ### Layers -/

/-- Settings under their keys; a later one counts instead of an earlier one with its key. -/
abbrev SettingLayer := List (String × Setting)

namespace SettingLayer

def get? (layer : SettingLayer) (key : String) : Option Setting :=
  (layer.reverse.find? (fun entry => entry.1 == key)).map Prod.snd

def isKeyChar (c : Char) : Bool := c.isAlphanum || c == '_' || c == '-'

def isKeySpace (c : Char) : Bool := c == ' ' || c == '\t'

/-- Whether digits, perhaps behind a minus sign, write a place that fits in 64 bits. -/
def isPlace (cs : List Char) : Bool :=
  cs.head? != some '+' && (Number.integer? cs).any Number.fitsInt64

/-- Whether a text is a path behind a key: members behind points, and places between brackets, with
spaces around them. -/
def isKeyPath : Nat → List Char → Bool
  | _, [] => true
  | 0, _ => false
  | fuel + 1, '.' :: rest =>
      !(rest.takeWhile isKeyChar).isEmpty && isKeyPath fuel (rest.dropWhile isKeyChar)
  | fuel + 1, '[' :: rest =>
      let start := rest.dropWhile isKeySpace
      let isPlaceChar := fun c => c.isDigit || c == '-'
      match (start.dropWhile isPlaceChar).dropWhile isKeySpace with
      | ']' :: after => isPlace (start.takeWhile isPlaceChar) && isKeyPath fuel after
      | _ => false
  | _, _ => false

/-- The entry that a setting under a written key makes.  A key with a path behind it makes its
first part a composite. -/
def entry (key : String) (setting : Setting) : String × Setting :=
  let cs := key.toList
  let head := cs.takeWhile isKeyChar
  let path := cs.dropWhile isKeyChar
  if !head.isEmpty && !path.isEmpty && isKeyPath path.length path then
    (String.ofList head, .composite)
  else (key, setting)

/-- A text without the byte order mark it may begin with. -/
def withoutMark : List Char → List Char
  | '\ufeff' :: rest => rest
  | cs => cs

/-- The settings of a file: behind a byte order mark, if there is one, it has to hold one JSON
object and nothing else. -/
def ofFile? (text : String) : Option SettingLayer :=
  match Json.readChars (withoutMark text.toList) with
  | (.object members closed, some rest) =>
      if (Json.object members closed).isKeepable 127 && Json.isAllSpace rest then
        some (members.map (fun (key, value) => entry (key.getD "") (Setting.ofJson value)))
      else none
  | _ => none

/-- The settings of an environment: of the variables whose names begin with the prefix, in any
case. -/
def ofEnvironment (environment : List (String × String)) : SettingLayer :=
  environment.filterMap (fun (name, value) =>
    let key := (Setting.lower name).toList
    let start := "langforge_".toList
    if start.isPrefixOf key then
      some (entry (String.ofList (key.drop start.length)) (Setting.ofEnvironment value))
    else none)

end SettingLayer

namespace Settings

/-- A setting that has to be a text; one that is not given has its default. -/
def textOf (layer : SettingLayer) (key default : String) : Except Failure String :=
  match layer.get? key with
  | none => .ok default
  | some setting =>
      match setting.toText? with
      | some s => .ok s
      | none => .error (.config (.unfitSetting key))

/-- A setting that may be a text; null counts as not given. -/
def optionalTextOf (layer : SettingLayer) (key : String) : Except Failure (Option String) :=
  match layer.get? key with
  | none => .ok none
  | some .null => .ok none
  | some setting =>
      match setting.toText? with
      | some s => .ok (some s)
      | none => .error (.config (.unfitSetting key))

/-- A setting that has to be a count; one that is not given has its default. -/
def countOf (layer : SettingLayer) (key : String) (default : Nat) : Except Failure Nat :=
  match layer.get? key with
  | none => .ok default
  | some setting =>
      match setting.toCount? with
      | some n => .ok n
      | none => .error (.config (.unfitSetting key))

def ofLayer (layer : SettingLayer) : Except Failure Settings := do
  let usual : Settings := {}
  let database ← optionalTextOf layer "database"
  let bindAddress ← textOf layer "bind_address" usual.bindAddress
  let logFilter ← textOf layer "log_filter" usual.logFilter
  let apiUrl ← textOf layer "api_url" usual.apiUrl
  let requestTimeoutMs ← countOf layer "request_timeout_ms" usual.requestTimeoutMs
  return { database := database, bindAddress := bindAddress, logFilter := logFilter,
           apiUrl := apiUrl, requestTimeoutMs := requestTimeoutMs }

def load (environment : List (String × String)) : Except Failure Settings :=
  ofLayer (SettingLayer.ofEnvironment environment)

def loadWith (file : String) (environment : List (String × String)) : Except Failure Settings :=
  match SettingLayer.ofFile? file with
  | some layer => ofLayer (layer ++ SettingLayer.ofEnvironment environment)
  | none => .error (.config .unreadableFile)

end Settings

end LanguageBlueprint
