import FlagKeeper.Json.Parser
import FlagKeeper.Settings.Basic
import FlagKeeper.Settings.Toml.Document
import FlagKeeper.Text.Lowercase

/-!
# Reading settings from the host

Settings come from environment variables and, below them, from a file. Values are converted to the type of their field where
that makes sense; a field that no source mentions has its default.
-/

namespace FlagKeeper

/-- The name part that environment variables with settings start with. -/
def environmentMark : String := "flagsync_"

/-- The value that the text of an environment variable stands for. -/
def Setting.ofVariable (text : String) : Setting :=
  let origin := some SettingOrigin.environment
  let lowered := inSmallLetters text
  if lowered = "true" then .bool origin true
  else if lowered = "false" then .bool origin false
  else
    match wholeNumeral? text, fractionNumeral? text with
    | some n, _ => .int origin n
    | none, some x => .float origin x
    | none, none => .str origin text

/-- Writes a point for every double underscore. -/
def pointsForDoubles : List Char → List Char
  | '_' :: '_' :: rest => '.' :: pointsForDoubles rest
  | c :: rest => c :: pointsForDoubles rest
  | [] => []

/-- The keys and values of the environment variables that hold settings. -/
def environmentSettings (env : List (String × String)) : List (String × Setting) :=
  env.filterMap fun (name, text) =>
    let lowered := (inSmallLetters name).toList
    let mark := environmentMark.toList
    if mark.isPrefixOf lowered then
      some (String.ofList (pointsForDoubles (lowered.drop mark.length)), Setting.ofVariable text)
    else none

mutual

/-- The setting that a document in a file stands for. A whole number beyond 64 bits with a sign becomes a double. -/
def Setting.ofJson : Json → Setting
  | .null => .unit (some .file)
  | .bool b => .bool (some .file) b
  | .int n => if fitsSigned n then .int (some .file) n else .float (some .file) (Double.ofInt n)
  | .float x => .float (some .file) x
  | .str s => .str (some .file) s
  | .arr elements => .list (some .file) (Setting.ofElements elements)
  | .obj fields => .table (some .file) (Setting.ofFields fields)

/-- The settings of the elements of a list. -/
def Setting.ofElements : List Json → List Setting
  | [] => []
  | x :: xs => Setting.ofJson x :: Setting.ofElements xs

/-- The settings of the fields of a record. -/
def Setting.ofFields : List (String × Json) → List (String × Setting)
  | [] => []
  | (name, x) :: rest => (name, Setting.ofJson x) :: Setting.ofFields rest

end

/-- A settings file. -/
structure SettingsFile where
  /-- The extension of its name. -/
  format : String
  /-- What is in it, if it exists. -/
  content : Option String

/-- The table that a file holds. -/
def SettingsFile.table (f : SettingsFile) : Except SourceError (List (String × Setting)) :=
  match f.content with
  | none => .error .fileNotFound
  | some content =>
    if f.format = "json" then
      match (Json.parse? content).map Setting.ofJson with
      | some (.table _ fields) => .ok fields
      | _ => .error .unreadable
    else if f.format = "toml" then
      match Toml.parse? content with
      | some fields => .ok fields
      | none => .error .unreadable
    else .error .unknownFormat

namespace Setting

/-- The failure to convert a value. -/
def refuse {α : Type} (s : Setting) (expected : String) : Except SourceError α :=
  .error (.wrongKind s.found expected none s.origin)

/-- As a truth value: numbers other than zero are true, and some words are known. -/
def toBool (s : Setting) : Except SourceError Bool :=
  match s with
  | .bool _ b => .ok b
  | .int _ n => .ok (n ≠ 0)
  | .float _ x => .ok !x.isZero
  | .str origin text =>
    let word := inSmallLetters text
    if ["1", "true", "on", "yes"].contains word then .ok true
    else if ["0", "false", "off", "no"].contains word then .ok false
    else .error (.wrongKind (.str word) "a boolean" none origin)
  | s => s.refuse "a boolean"

/-- The number that a word of agreement or refusal stands for. -/
def wordNumber? (text : String) : Option Nat :=
  let word := inSmallLetters text
  if ["true", "on", "yes"].contains word then some 1
  else if ["false", "off", "no"].contains word then some 0
  else none

/-- As an integer of 64 bits. -/
def toInt (s : Setting) : Except SourceError Int :=
  match s with
  | .int _ n => .ok n
  | .bool _ b => .ok (if b then 1 else 0)
  | .float _ x => .ok (x.roundWithin (-negativeCount) (negativeCount - 1))
  | .str _ text =>
    match wordNumber? text, wholeNumeral? text with
    | some n, _ => .ok n
    | none, some n => .ok n
    | none, none => s.refuse "an integer"
  | s => s.refuse "an integer"

/-- As an integer of 64 bits without a sign. -/
def toNat (s : Setting) : Except SourceError Nat :=
  match s with
  | .int _ n => if n < 0 then s.refuse "an unsigned 64 bit or less integer" else .ok n.toNat
  | .bool _ b => .ok (if b then 1 else 0)
  | .float _ x => .ok (x.roundWithin 0 (wordCount - 1)).toNat
  | .str _ text =>
    match wordNumber? text, naturalNumeral? text with
    | some n, _ => .ok n
    | none, some n => .ok n
    | none, none => s.refuse "an integer"
  | s => s.refuse "an integer"

/-- As a text. -/
def toText (s : Setting) : Except SourceError String :=
  match s with
  | .str _ text => .ok text
  | .bool _ b => .ok (if b then "true" else "false")
  | .int _ n => .ok (toString n)
  | .float _ x => .ok (DecimalLayout.plain.text x)
  | s => s.refuse "a string"

/-- As a value of an enumeration, whose names are compared without regard to case. -/
def toVariant {α : Type} (enumeration : String) (known : List (String × α)) (s : Setting) : Except SourceError α :=
  let choose (name : String) : Except SourceError α :=
    match known.lookup (inSmallLetters name) with
    | some value => .ok value
    | none => .error (.noVariant enumeration name)
  match s with
  | .str _ name => choose name
  | .table _ [(name, _)] => choose name
  | _ => .error (.noEnumeration enumeration)

end Setting

namespace SourceError

/-- The path of a value, seen from one step further out. -/
def under (step : String) (point : Bool) : SourceError → SourceError
  | .wrongKind found expected path origin =>
    let inner := path.getD ""
    let dot := if point && !inner.isEmpty && !inner.startsWith "[" then "." else ""
    .wrongKind found expected (some (step ++ dot ++ inner)) origin
  | e => e

end SourceError

/-- Adds a step to the path that a failure reports. -/
def atStep {α : Type} (step : String) (point : Bool) (r : Except SourceError α) : Except SourceError α :=
  r.mapError (SourceError.under step point)

/-- Converts the elements of a list one by one, from index `i` on. -/
def convertElements {α : Type} (convert : Setting → Except SourceError α) : Nat → List Setting → Except SourceError (List α)
  | _, [] => .ok []
  | i, x :: xs => do
    let y ← atStep ("[" ++ toString i ++ "]") false (convert x)
    let ys ← convertElements convert (i + 1) xs
    return y :: ys

/-- As a set of names. -/
def Setting.toNameSet (s : Setting) : Except SourceError NameSet :=
  match s with
  | .list _ elements => NameSet.ofList <$> convertElements Setting.toText 0 elements
  | s => .error (.wrongShape s.found "a sequence")

/-- The value of a field of a table, or its default. -/
def settingField {α : Type} (fields : List (String × Setting)) (name : String) (value : α)
    (convert : Setting → Except SourceError α) : Except SourceError α :=
  match fields.lookup name with
  | none => .ok value
  | some s => atStep name true (convert s)

/-- The value of an element of a list that stands for a structure, or its default. -/
def settingElement {α : Type} (elements : List Setting) (i : Nat) (value : α)
    (convert : Setting → Except SourceError α) : Except SourceError α :=
  match elements[i]? with
  | none => .ok value
  | some s => atStep ("[" ++ toString i ++ "]") false (convert s)

/-- As a flag filter: a table of its fields, or a list of them in order. -/
def Setting.toFilter (s : Setting) : Except SourceError FlagFilter :=
  match s with
  | .table _ fields => do
    return {
      names := ← settingField fields "names" .empty Setting.toNameSet
      prefixes := ← settingField fields "prefixes" .empty Setting.toNameSet
      sets := ← settingField fields "sets" .empty Setting.toNameSet }
  | .list _ elements => do
    return {
      names := ← settingElement elements 0 .empty Setting.toNameSet
      prefixes := ← settingElement elements 1 .empty Setting.toNameSet
      sets := ← settingElement elements 2 .empty Setting.toNameSet }
  | s => .error (.wrongShape s.found "struct SyncFilter")

/-- The settings that a table holds. -/
def Settings.ofTable (fields : List (String × Setting)) : Except SourceError Settings := do
  let d : Settings := {}
  let bool (name : String) (value : Bool) := settingField fields name value Setting.toBool
  let nat (name : String) (value : Nat) := settingField fields name value Setting.toNat
  return {
    syncEnabled := ← bool "sync_enabled" d.syncEnabled
    streamingEnabled := ← bool "streaming_enabled" d.streamingEnabled
    impressionsMode := ← settingField fields "impressions_mode" d.impressionsMode
      (Setting.toVariant "ImpressionsMode" ImpressionsMode.table)
    flagsRefreshSecs := ← nat "flags_refresh_rate_secs" d.flagsRefreshSecs
    segmentsRefreshSecs := ← nat "segments_refresh_rate_secs" d.segmentsRefreshSecs
    impressionsRefreshSecs := ← nat "impressions_refresh_rate_secs" d.impressionsRefreshSecs
    countsRefreshSecs := ← nat "impressions_count_refresh_rate_secs" d.countsRefreshSecs
    uniqueKeysRefreshSecs := ← nat "unique_keys_refresh_rate_secs" d.uniqueKeysRefreshSecs
    eventsPushSecs := ← nat "events_push_rate_secs" d.eventsPushSecs
    impressionsQueueSize := ← nat "impressions_queue_size" d.impressionsQueueSize
    impressionsQueueBytes := ← nat "impressions_queue_size_bytes" d.impressionsQueueBytes
    eventsQueueSize := ← nat "events_queue_size" d.eventsQueueSize
    eventsQueueBytes := ← nat "events_queue_size_bytes" d.eventsQueueBytes
    observerCapacity := ← nat "observer_capacity" d.observerCapacity
    backoffBaseSecs := ← nat "push_reconnect_backoff_base_secs" d.backoffBaseSecs
    backoffMaxSecs := ← nat "push_reconnect_backoff_max_secs" d.backoffMaxSecs
    maxSyncPeriodMillis := ← settingField fields "max_sync_period_ms" d.maxSyncPeriodMillis Setting.toInt
    userConsent := ← settingField fields "user_consent" d.userConsent (Setting.toVariant "UserConsent" Consent.table)
    filter := ← settingField fields "sync_filter" d.filter Setting.toFilter }

/-- Settings from the environment and, below it, a file if there is one. They are validated. -/
def Settings.load (env : List (String × String)) (file : Option SettingsFile) : Except SyncError Settings := do
  let base ← (file.elim (.ok []) SettingsFile.table).mapError .config
  let root := ((Setting.table none []).overlay base).overlay (environmentSettings env)
  let settings ← (Settings.ofTable root.tableFields).mapError .config
  settings.validate.mapError .invalidConfig
  return settings

end FlagKeeper
