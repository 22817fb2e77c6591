import FlagKeeper.Error
import FlagKeeper.Model.ChangeNumbers
import FlagKeeper.Model.Flag
import FlagKeeper.Model.Impression
import FlagKeeper.Model.Key
import FlagKeeper.Impressions.SeenCache
import FlagKeeper.Settings.Basic
import FlagKeeper.StatusEvent
import FlagKeeper.Telemetry
import FlagKeeper.Text.Numeral
import FlagKeeper.Timing.TimerTable

/-!
# Reading scripts

A script is a document that says what a simulated client goes through. This module reads the values that occur in scripts. The
values of the model are read by their decoders, which say why they refuse one; whatever else is out of place makes the script
malformed.
-/

namespace FlagKeeper.Script

/-- Why a script cannot be read. -/
inductive Fault where
  | refused (cause : DecodeError)
  | malformed

/-- What is read from a script. -/
abbrev Reading (α : Type) := Except Fault α

/-- Nothing can be read. -/
def malformed {α : Type} : Reading α := .error .malformed

/-- A field of a record, if there is one of that name. -/
def field? (j : Json) (name : String) : Option Json :=
  match j with
  | .obj fields => Json.field? fields name
  | _ => none

/-- A field of a record, or nothing. -/
def field (j : Json) (name : String) : Json := (field? j name).getD .null

/-- The argument at a place, or nothing. -/
def argument (args : List Json) (i : Nat) : Json := args[i]?.getD .null

/-- A value of the model. -/
def decoded {α : Type} (decode : Decoder α) (j : Json) : Reading α :=
  match decode j with
  | .ok a => .ok a
  | .error e => .error (.refused e)

/-- A text. -/
def text : Json → Reading String
  | .str s => .ok s
  | _ => malformed

/-- A whole number. -/
def int : Json → Reading Int
  | .int n => .ok n
  | _ => malformed

/-- A whole number from zero. -/
def nat : Json → Reading Nat
  | .int n => if 0 ≤ n then .ok n.toNat else malformed
  | _ => malformed

/-- A truth value. -/
def bool : Json → Reading Bool
  | .bool b => .ok b
  | _ => malformed

/-- A list. -/
def elements : Json → Reading (List Json)
  | .arr xs => .ok xs
  | _ => malformed

/-- A list whose elements are alike. -/
def listOf {α : Type} (read : Json → Reading α) (j : Json) : Reading (List α) := do (← elements j).mapM read

/-- A record. -/
def fields : Json → Reading (List (String × Json))
  | .obj fs => .ok fs
  | _ => malformed

/-- A record whose fields are alike. -/
def tableOf {α : Type} (read : Json → Reading α) (j : Json) : Reading (List (String × α)) := do
  (← fields j).mapM fun (name, j) => do return (name, ← read j)

/-- A value, or `null` for none. -/
def orNull {α : Type} (read : Json → Reading α) : Json → Reading (Option α)
  | .null => .ok none
  | j => some <$> read j

/-- A value where there is a field for it. -/
def whereGiven {α : Type} (read : Json → Reading α) (j : Option Json) : Reading (Option α) :=
  match j with
  | some j => some <$> read j
  | none => .ok none

/-- A value, or a default where there is no field for it. -/
def withDefault {α : Type} (read : Json → Reading α) (value : α) (j : Option Json) : Reading α := do
  return (← whereGiven read j).getD value

/-- One of a few named values. -/
def named {α : Type} (table : List (String × α)) (j : Json) : Reading α := do
  match table.lookup (← text j) with
  | some a => .ok a
  | none => malformed

/-- A duration: a number of milliseconds, or seconds and nanoseconds. -/
def duration (j : Json) : Reading Duration := do
  let nanos ←
    match j with
    | .obj _ => do pure ((← nat (field j "secs")) * nanosPerSec + (← withDefault nat 0 (field? j "nanos")))
    | j => do pure ((← nat j) * nanosPerMilli)
  match Duration.ofNanos? nanos with
  | some d => .ok d
  | none => malformed

/-- A stored hash: the digits of the hash, and the time. -/
def seen (j : Json) : Reading SeenImpression := do
  let pair ← elements j
  match naturalNumeral? (← text (argument pair 0)) with
  | some n => return ⟨UInt64.ofNat n, ← int (argument pair 1)⟩
  | none => malformed

/-- How a call ends. -/
def outcome : Json → Reading Outcome
  | .str "ok" => .ok (.ok ())
  | .str "UriTooLong" => .ok (.error .uriTooLong)
  | .str "Destroyed" => .ok (.error .destroyed)
  | .str "ChannelClosed" => .ok (.error .channelClosed)
  | .obj [("Storage", .str reason)] => .ok (.error (.storage reason))
  | .obj [("Network", .str reason)] => .ok (.error (.network reason))
  | .obj [("InvalidConfig", .str reason)] => .ok (.error (.invalidConfig (.other reason)))
  | _ => malformed

/-- A status event. -/
def event : Json → Reading StatusEvent
  | .obj [("PushDelayReceived", .int seconds)] => .ok (.pushDelayReceived seconds)
  | j => named (StatusEvent.plain.map fun e => (e.title, e)) j

/-- A key. -/
def key : Json → Reading Key := decoded Key.decode

/-- The change numbers that a notification asks to reach. -/
def target : Json → Reading ChangeNumbers := decoded ChangeNumbers.decode

/-- What the user allows. -/
def consent : Json → Reading Consent := decoded Consent.decode

/-- Flags. -/
def flags : Json → Reading (List FeatureFlag) := decoded (Decoder.list FeatureFlag.decode)

/-- Settings; where none are given, the defaults. -/
def settings : Option Json → Reading Settings := withDefault (decoded Settings.decode) {}

/-- The timers by name. -/
def timerNames : List (String × TimerName) :=
  [("SyncSegments", .syncSegments), ("StreamingReconnect", .streamingReconnect)]

/-- The periodic workers by name. -/
def refreshTargets : List (String × RefreshTarget) :=
  [("Flags", .flags), ("Segments", .segments), ("Impressions", .impressions), ("ImpressionsCount", .counts),
    ("UniqueKeys", .uniqueKeys), ("Events", .events)]

/-- The transports by name. -/
def syncModes : List (String × SyncMode) := [("streaming", .streaming), ("polling", .polling)]

/-- The fates of impressions by name. -/
def impressionFates : List (String × ImpressionFate) :=
  [("Queued", .queued), ("Deduped", .deduped), ("Dropped", .dropped)]

/-- The fates of events by name. -/
def eventFates : List (String × EventFate) := [("Queued", .queued), ("Dropped", .dropped)]

end FlagKeeper.Script
