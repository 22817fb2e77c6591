import FlagKeeper.Health
import FlagKeeper.Model.ChangeNumbers
import FlagKeeper.Model.Event
import FlagKeeper.Model.Impression
import FlagKeeper.Model.Key
import FlagKeeper.Proofs.Codec.Decoders
import FlagKeeper.Settings.Basic

/-!
# What is written is read back

Each type of the model that has a written form is read back from it: from the record that is written, which leaves out what there is
not, and from the list of all fields. What a value must be like is said with `Fits`: its integers have 64 bits and its numbers are
finite, as those of any value are that is read from a proper document. So reading a document, writing the value and reading that again
gives the same value, and writing it again the same document.
-/

namespace FlagKeeper

/-- The values of a type are written so that they are read back. -/
structure RoundTrips {α : Type} (names : List String) (decode : Decoder α) (encode : α → Json) (elements : α → List Json)
    (Fits : α → Prop) : Prop where
  /-- A value is read back from the record that is written. -/
  back : ∀ a, Fits a → decode (encode a) = .ok a
  /-- It is read from the list of all its fields as well. -/
  listed : ∀ a, Fits a → decode (.arr (elements a)) = .ok a
  /-- Any record that has all fields is read just as the list of them. -/
  even : ∀ fields elements a, names.map (Json.field? fields) = elements.map some →
    (decode (.obj fields) = .ok a ↔ decode (.arr elements) = .ok a)
  /-- Any value that is read from a proper document fits. -/
  fits : ∀ j a, j.IsProper → decode j = .ok a → Fits a
  /-- What was read is written so that it is read again, and written again the same. -/
  again : ∀ j a, j.IsProper → decode j = .ok a →
    decode (encode a) = .ok a ∧ encode <$> decode (encode a) = .ok (encode a)
  /-- What is written is a proper document. -/
  proper : ∀ a, Fits a → (encode a).IsProper

/-- A type round-trips if its fields give each value from what is written, and yield what fits. -/
theorem RoundTrips.of_fields {α : Type} {name : String} {fs : Fields α} [fs.IsEven] {written : α → List (String × Json)}
    {elements : α → List Json} {Fits : α → Prop}
    (gives : ∀ a, Fits a → ∃ given, fs.Gives (written a) given a ∧ given = elements a)
    (yields : fs.Yields Fits) (proper : ∀ a, Fits a → (Json.obj (written a)).IsProper) :
    RoundTrips fs.names (fs.decoder name) (fun a => .obj (written a)) elements Fits where
  back a fits := by
    obtain ⟨_, given, -⟩ := gives a fits
    exact given.decode_obj
  listed a fits := by
    obtain ⟨_, given, same⟩ := gives a fits
    exact same ▸ given.decode_arr
  even _ _ _ all := Fields.decoder_obj_iff_arr all
  fits := yields.decoder name
  again j a proper read := by
    obtain ⟨_, given, -⟩ := gives a (yields.decoder name j a proper read)
    have back : fs.decoder name (.obj (written a)) = .ok a := given.decode_obj
    rw [back]
    exact ⟨rfl, rfl⟩
  proper := proper

/-! ## Proper documents -/

section Proper

theorem Json.isProper_signed {n : Int} (fits : fitsSigned n = true) : (Json.int n).IsProper := .int (by rw [fits]; rfl)

theorem Json.isProper_unsigned {n : Nat} (fits : n < wordCount) : (Json.int n).IsProper := by
  refine .int ?_
  simp only [fitsSigned, fitsUnsigned, Bool.or_eq_true, Bool.and_eq_true, decide_eq_true_eq]
  omega

theorem Json.isProper_number (x : Double) : (Json.number x).IsProper := by
  unfold Json.number
  split
  · next finite => exact .float finite
  · exact .null

theorem Json.isProper_strings (xs : List String) : (Json.strings xs).IsProper := by
  refine .arr fun j inside => ?_
  obtain ⟨s, -, rfl⟩ := List.mem_map.1 inside
  exact .str s

end Proper

/-- Where the record has all fields, these are found by their places in it. -/
theorem RoundTrips.of_record {α : Type} {name : String} {fs : Fields α} [fs.IsEven] {written : α → List (String × Json)}
    {elements : α → List Json} {Fits : α → Prop} (ascending : ∀ a, ((written a).map (·.1)).Pairwise (· < ·))
    (gives : ∀ a, Fits a →
      (∀ {name j} (i : Nat), (written a)[i]? = some (name, j) → Json.field? (written a) name = some j) →
      ∃ given, fs.Gives (written a) given a ∧ given = elements a)
    (yields : fs.Yields Fits) (proper : ∀ a, Fits a → ∀ field ∈ written a, field.2.IsProper) :
    RoundTrips fs.names (fs.decoder name) (fun a => .obj (written a)) elements Fits :=
  .of_fields (fun a fits => gives a fits fun _ here => Json.field?_of_mem (ascending a) (List.mem_of_getElem? here)) yields
    fun a fits => .obj (ascending a) (proper a fits)

/-- Where the record leaves out what there is not, the fields are found by their places among those that may be written. -/
theorem RoundTrips.of_entries {α : Type} {name : String} {fs : Fields α} [fs.IsEven] {entries : α → List (String × Option Json)}
    {elements : α → List Json} {Fits : α → Prop} (ascending : ∀ a, ((entries a).map (·.1)).Pairwise (· < ·))
    (gives : ∀ a, Fits a →
      (∀ {name content} (i : Nat), (entries a)[i]? = some (name, content) →
        Json.field? (presentFields (entries a)) name = content) →
      ∃ given, fs.Gives (presentFields (entries a)) given a ∧ given = elements a)
    (yields : fs.Yields Fits) (proper : ∀ a, Fits a → ∀ entry ∈ entries a, ∀ j ∈ entry.2, j.IsProper) :
    RoundTrips fs.names (fs.decoder name) (fun a => .obj (presentFields (entries a))) elements Fits :=
  .of_fields (fun a fits => gives a fits fun _ here => field?_presentFields (ascending a) (List.mem_of_getElem? here)) yields
    fun a fits => isProper_presentFields (ascending a) (proper a fits)

/-! ## Identities -/

namespace Key

/-- All fields of a key. -/
def elements (k : Key) : List Json := [.str k.matching, .strOrNull k.bucketing]

instance : fields.IsEven := by unfold fields; infer_instance

theorem roundTrips : RoundTrips fields.names decode encode elements fun _ => True := by
  refine .of_entries (fun _ => (by decide : ["bucketingKey", "matchingKey"].Pairwise (· < ·))) ?_ ?_ fun k _ => ?_
  · rintro ⟨matching, bucketing⟩ - found
    exact ⟨_, ((Fields.Gives.none mk).also (.required (.str matching) (found 1 rfl) (Decoder.string_str _))).also
      (.optional .str (found 0 rfl) (fun _ _ => Decoder.string_str _) fun _ _ => nofun), rfl⟩
  · exact ((Fields.Yields.none fun _ _ _ _ => trivial).also (.free _)).also (.free _)
  · simp [Json.IsProper.str]

end Key

/-! ## Flags -/

namespace FeatureFlag

/-- All fields of a flag. -/
def elements (f : FeatureFlag) : List Json :=
  [.str f.name, .int f.changeNumber, .strings f.sets.toList, .bool f.killed, .str f.defaultTreatment]

/-- The change number has 64 bits. -/
def Fits (f : FeatureFlag) : Prop := fitsSigned f.changeNumber = true

instance : fields.IsEven := by unfold fields; infer_instance

theorem roundTrips : RoundTrips fields.names decode encode elements Fits := by
  refine .of_record
    (fun _ => (by decide : ["changeNumber", "defaultTreatment", "killed", "name", "sets"].Pairwise (· < ·))) ?_ ?_ ?_
  · rintro ⟨name, changeNumber, sets, killed, defaultTreatment⟩ fits found
    exact ⟨_, (((((Fields.Gives.none mk).also
      (.required (.str name) (found 3 rfl) (Decoder.string_str _))).also
      (.required (.int changeNumber) (found 0 rfl) (Decoder.int64_int fits))).also
      (.withDefault (.strings sets.toList) (found 4 rfl) (Decoder.nameSet_strings _))).also
      (.withDefault (.bool killed) (found 2 rfl) (Decoder.bool_bool _))).also
      (.required (.str defaultTreatment) (found 1 rfl) (Decoder.string_str _)), rfl⟩
  · exact (((((Fields.Yields.none fun _ _ n fits _ _ _ _ _ _ => fits).also (.free _)).also
      (.required Decoder.yields_int64)).also (.free _)).also (.free _)).also (.free _)
  · intro f fits
    simp [Json.IsProper.str, Json.IsProper.bool, Json.isProper_signed fits, Json.isProper_strings]

end FeatureFlag

namespace FlagKill

/-- All fields of a kill order. -/
def elements (k : FlagKill) : List Json := [.str k.name, .str k.defaultTreatment, .int k.changeNumber]

/-- The change number has 64 bits. -/
def Fits (k : FlagKill) : Prop := fitsSigned k.changeNumber = true

instance : fields.IsEven := by unfold fields; infer_instance

theorem roundTrips : RoundTrips fields.names decode encode elements Fits := by
  refine .of_record (fun _ => (by decide : ["changeNumber", "defaultTreatment", "name"].Pairwise (· < ·))) ?_ ?_ ?_
  · rintro ⟨name, defaultTreatment, changeNumber⟩ fits found
    exact ⟨_, (((Fields.Gives.none mk).also
      (.required (.str name) (found 2 rfl) (Decoder.string_str _))).also
      (.required (.str defaultTreatment) (found 1 rfl) (Decoder.string_str _))).also
      (.required (.int changeNumber) (found 0 rfl) (Decoder.int64_int fits)), rfl⟩
  · exact (((Fields.Yields.none fun _ _ _ _ _ fits => fits).also (.free _)).also (.free _)).also
      (.required Decoder.yields_int64)
  · intro k fits
    simp [Json.IsProper.str, Json.isProper_signed fits]

end FlagKill

namespace ChangeNumbers

/-- All fields of a pair. -/
def elements (a : ChangeNumbers) : List Json := [.int a.segments, .int a.largeSegments]

/-- Both numbers have 64 bits. -/
def Fits (a : ChangeNumbers) : Prop := fitsSigned a.segments = true ∧ fitsSigned a.largeSegments = true

instance : fields.IsEven := by unfold fields; infer_instance

theorem roundTrips : RoundTrips fields.names decode encode elements Fits := by
  refine .of_record (fun _ => (by decide : ["largeSegments", "segments"].Pairwise (· < ·))) ?_ ?_ ?_
  · rintro ⟨segments, largeSegments⟩ ⟨fits, fits'⟩ found
    exact ⟨_, ((Fields.Gives.none mk).also
      (.required (.int segments) (found 1 rfl) (Decoder.int64_int fits))).also
      (.required (.int largeSegments) (found 0 rfl) (Decoder.int64_int fits')), rfl⟩
  · exact ((Fields.Yields.none fun _ fits _ fits' => ⟨fits, fits'⟩).also (.required Decoder.yields_int64)).also
      (.required Decoder.yields_int64)
  · rintro a ⟨fits, fits'⟩
    simp [Json.isProper_signed fits, Json.isProper_signed fits']

end ChangeNumbers

/-! ## Recorded data -/

namespace Impression

/-- All fields of an impression. -/
def elements (i : Impression) : List Json :=
  [.str i.keyName, .strOrNull i.bucketingKey, .str i.featureName, .str i.treatment, .strOrNull i.label, .int i.time,
    .intOrNull i.changeNumber, .intOrNull i.previousTime, .strOrNull i.properties]

/-- The times and the change number have 64 bits. -/
structure Fits (i : Impression) : Prop where
  time : fitsSigned i.time = true
  changeNumber : ∀ n ∈ i.changeNumber, fitsSigned n = true
  previousTime : ∀ n ∈ i.previousTime, fitsSigned n = true

instance : fields.IsEven := by unfold fields; infer_instance

theorem roundTrips : RoundTrips fields.names decode encode elements Fits := by
  refine .of_entries (fun _ => (by decide : ["bucketingKey", "changeNumber", "featureName", "keyName", "label", "previousTime",
    "properties", "time", "treatment"].Pairwise (· < ·))) ?_ ?_ ?_
  · rintro ⟨keyName, bucketingKey, featureName, treatment, label, time, changeNumber, previousTime, properties⟩ fits found
    exact ⟨_, (((((((((Fields.Gives.none mk).also
      (.required (.str keyName) (found 3 rfl) (Decoder.string_str _))).also
      (.optional .str (found 0 rfl) (fun _ _ => Decoder.string_str _) fun _ _ => nofun)).also
      (.required (.str featureName) (found 2 rfl) (Decoder.string_str _))).also
      (.required (.str treatment) (found 8 rfl) (Decoder.string_str _))).also
      (.optional .str (found 4 rfl) (fun _ _ => Decoder.string_str _) fun _ _ => nofun)).also
      (.required (.int time) (found 7 rfl) (Decoder.int64_int fits.time))).also
      (.optional .int (found 1 rfl) (fun n inside => Decoder.int64_int (fits.changeNumber n inside)) fun _ _ => nofun)).also
      (.optional .int (found 5 rfl) (fun n inside => Decoder.int64_int (fits.previousTime n inside)) fun _ _ => nofun)).also
      (.optional .str (found 6 rfl) (fun _ _ => Decoder.string_str _) fun _ _ => nofun), rfl⟩
  · refine (((((((((Fields.Yields.none ?_).also (.free _)).also (.free _)).also (.free _)).also (.free _)).also (.free _)).also
      (.required Decoder.yields_int64)).also (.optional Decoder.yields_int64)).also (.optional Decoder.yields_int64)).also (.free _)
    exact fun _ _ _ _ _ _ _ _ _ _ _ time _ changeNumber _ previousTime _ _ => ⟨time, changeNumber, previousTime⟩
  · rintro i ⟨time, changeNumber, previousTime⟩
    have times (n : Int) (inside : n ∈ i.previousTime) := Json.isProper_signed (previousTime n inside)
    have numbers (n : Int) (inside : n ∈ i.changeNumber) := Json.isProper_signed (changeNumber n inside)
    simpa [Json.IsProper.str, Json.isProper_signed time] using ⟨numbers, times⟩

end Impression

namespace FeatureCount

/-- All fields of a count. -/
def elements (c : FeatureCount) : List Json := [.str c.feature, .int c.timeframe, .int c.count]

/-- The hour and the count have 64 bits. -/
def Fits (c : FeatureCount) : Prop := fitsSigned c.timeframe = true ∧ fitsSigned c.count = true

instance : fields.IsEven := by unfold fields; infer_instance

theorem roundTrips : RoundTrips fields.names decode encode elements Fits := by
  refine .of_record (fun _ => (by decide : ["count", "feature", "timeframe"].Pairwise (· < ·))) ?_ ?_ ?_
  · rintro ⟨feature, timeframe, count⟩ ⟨fits, fits'⟩ found
    exact ⟨_, (((Fields.Gives.none mk).also
      (.required (.str feature) (found 1 rfl) (Decoder.string_str _))).also
      (.required (.int timeframe) (found 2 rfl) (Decoder.int64_int fits))).also
      (.required (.int count) (found 0 rfl) (Decoder.int64_int fits')), rfl⟩
  · exact (((Fields.Yields.none fun _ _ _ fits _ fits' => ⟨fits, fits'⟩).also (.free _)).also
      (.required Decoder.yields_int64)).also (.required Decoder.yields_int64)
  · rintro c ⟨fits, fits'⟩
    simp [Json.IsProper.str, Json.isProper_signed fits, Json.isProper_signed fits']

end FeatureCount

namespace TrackedEvent

/-- All fields of an event. -/
def elements (e : TrackedEvent) : List Json :=
  [.str e.key, .str e.trafficType, .str e.eventType, e.value.elim .null .number, .int e.timestamp, .obj e.properties]

/-- The time has 64 bits, the value is finite, and the properties are proper. -/
structure Fits (e : TrackedEvent) : Prop where
  value : ∀ x ∈ e.value, x.isFinite = true
  timestamp : fitsSigned e.timestamp = true
  ascending : (e.properties.map (·.1)).Pairwise (· < ·)
  properties : ∀ entry ∈ e.properties, entry.2.IsProper

instance : fields.IsEven := by unfold fields; infer_instance

/-- The properties are left out if there are none. -/
theorem gives_properties {fields : List (String × Json)} {properties : List (String × Json)}
    (found : Json.field? fields "properties" = if properties.isEmpty then none else some (.obj properties)) :
    (Field.withDefault "properties" (.table .any) []).Gives fields (.obj properties) properties := by
  cases properties with
  | nil => exact .default (.obj []) found (Decoder.table_any _)
  | cons entry rest => exact .withDefault (.obj (entry :: rest)) found (Decoder.table_any _)

theorem roundTrips : RoundTrips fields.names decode encode elements Fits := by
  refine .of_entries (fun _ => (by decide : ["eventTypeId", "key", "properties", "timestamp", "trafficTypeName", "value"].Pairwise
    (· < ·))) ?_ ?_ ?_
  · rintro ⟨key, trafficType, eventType, value, timestamp, properties⟩ fits found
    exact ⟨_, ((((((Fields.Gives.none mk).also
      (.required (.str key) (found 1 rfl) (Decoder.string_str _))).also
      (.required (.str trafficType) (found 4 rfl) (Decoder.string_str _))).also
      (.required (.str eventType) (found 0 rfl) (Decoder.string_str _))).also
      (.optional .number (found 5 rfl) (fun x inside => Decoder.double_number (fits.value x inside))
        fun x inside => Decoder.number_ne_null (fits.value x inside))).also
      (.required (.int timestamp) (found 3 rfl) (Decoder.int64_int fits.timestamp))).also
      (gives_properties (found 2 rfl)), rfl⟩
  · refine ((((((Fields.Yields.none ?_).also (.free _)).also (.free _)).also (.free _)).also
      (.optional Decoder.yields_double)).also (.required Decoder.yields_int64)).also
      (.withDefault (Decoder.yields_table Decoder.yields_any) ⟨.nil, List.forall_mem_nil _⟩)
    exact fun _ _ _ _ _ _ _ value _ timestamp _ properties => ⟨value, timestamp, properties.1, properties.2⟩
  · intro e fits
    have properties : (Json.obj e.properties).IsProper := .obj fits.ascending fits.properties
    simp [Json.IsProper.str, Json.isProper_signed fits.timestamp, Json.isProper_number, properties]

end TrackedEvent

/-! ## Health -/

theorem ComponentStatus.decode_name (s : ComponentStatus) : ComponentStatus.decode (.str s.name) = .ok s := by
  cases s <;> rfl

namespace ComponentHealth

/-- All fields of a component's state. -/
def elements (h : ComponentHealth) : List Json := [.str h.status.name, .strOrNull h.message, .int h.lastCheck]

/-- The time has 64 bits. -/
def Fits (h : ComponentHealth) : Prop := fitsSigned h.lastCheck = true

instance : fields.IsEven := by unfold fields; infer_instance

theorem roundTrips : RoundTrips fields.names decode encode elements Fits := by
  refine .of_entries (fun _ => (by decide : ["last_check_timestamp", "message", "status"].Pairwise (· < ·))) ?_ ?_ ?_
  · rintro ⟨status, message, lastCheck⟩ fits found
    exact ⟨_, (((Fields.Gives.none mk).also
      (.required (.str status.name) (found 2 rfl) (ComponentStatus.decode_name _))).also
      (.optional .str (found 1 rfl) (fun _ _ => Decoder.string_str _) fun _ _ => nofun)).also
      (.required (.int lastCheck) (found 0 rfl) (Decoder.int64_int fits)), rfl⟩
  · exact (((Fields.Yields.none fun _ _ _ _ _ fits => fits).also (.free _)).also (.free _)).also
      (.required Decoder.yields_int64)
  · intro h fits
    simp [Json.IsProper.str, Json.isProper_signed fits]

end ComponentHealth

namespace HealthReport

/-- All fields of a report. -/
def elements (r : HealthReport) : List Json :=
  [.str r.status.name, .bool r.ready, .obj (r.components.map fun entry => (entry.1, entry.2.encode))]

/-- The components are in order of their names, and each fits. -/
structure Fits (r : HealthReport) : Prop where
  ascending : (r.components.map (·.1)).Pairwise (· < ·)
  components : ∀ entry ∈ r.components, entry.2.Fits

instance : fields.IsEven := by unfold fields; infer_instance

theorem roundTrips : RoundTrips fields.names decode encode elements Fits := by
  refine .of_record (fun _ => (by decide : ["components", "ready", "status"].Pairwise (· < ·))) ?_ ?_ ?_
  · rintro ⟨status, ready, components⟩ fits found
    have back : Decoder.table ComponentHealth.decode (.obj (components.map fun entry => (entry.1, entry.2.encode))) =
        .ok components := Decoder.table_map fun entry inside => ComponentHealth.roundTrips.back entry.2 (fits.components entry inside)
    exact ⟨_, (((Fields.Gives.none mk).also
      (.required (.str status.name) (found 2 rfl) (ComponentStatus.decode_name _))).also
      (.required (.bool ready) (found 1 rfl) (Decoder.bool_bool _))).also
      (.required _ (found 0 rfl) back), rfl⟩
  · exact (((Fields.Yields.none fun _ _ _ _ _ fits => ⟨fits.1, fits.2⟩).also (.free _)).also (.free _)).also
      (.required (Decoder.yields_table ComponentHealth.roundTrips.fits))
  · intro r fits
    have components : (Json.obj (r.components.map fun entry => (entry.1, entry.2.encode))).IsProper := by
      refine .obj ?_ fun field inside => ?_
      · rw [List.map_map]
        exact fits.ascending
      · obtain ⟨entry, there, rfl⟩ := List.mem_map.1 inside
        exact ComponentHealth.roundTrips.proper entry.2 (fits.components entry there)
    simp [Json.IsProper.str, Json.IsProper.bool, components]

end HealthReport

/-! ## Settings -/

theorem ImpressionsMode.decode_name (m : ImpressionsMode) : ImpressionsMode.decode (.str m.name) = .ok m := by
  cases m <;> rfl

theorem Consent.decode_name (c : Consent) : Consent.decode (.str c.name) = .ok c := by
  cases c <;> rfl

namespace FlagFilter

/-- All fields of a filter. -/
def elements (f : FlagFilter) : List Json :=
  [.strings f.names.toList, .strings f.prefixes.toList, .strings f.sets.toList]

instance : fields.IsEven := by unfold fields; infer_instance

theorem roundTrips : RoundTrips fields.names decode encode elements fun _ => True := by
  refine .of_record (fun _ => (by decide : ["names", "prefixes", "sets"].Pairwise (· < ·))) ?_ ?_ ?_
  · rintro ⟨names, prefixes, sets⟩ - found
    exact ⟨_, (((Fields.Gives.none mk).also
      (.withDefault (.strings names.toList) (found 0 rfl) (Decoder.nameSet_strings _))).also
      (.withDefault (.strings prefixes.toList) (found 1 rfl) (Decoder.nameSet_strings _))).also
      (.withDefault (.strings sets.toList) (found 2 rfl) (Decoder.nameSet_strings _)), rfl⟩
  · exact (((Fields.Yields.none fun _ _ _ _ _ _ => trivial).also (.free _)).also (.free _)).also (.free _)
  · intro f _
    simp [Json.isProper_strings]

end FlagFilter

namespace Settings

/-- All fields of settings. -/
def elements (s : Settings) : List Json :=
  [.bool s.syncEnabled, .bool s.streamingEnabled, .str s.impressionsMode.name, .int s.flagsRefreshSecs, .int s.segmentsRefreshSecs,
    .int s.impressionsRefreshSecs, .int s.countsRefreshSecs, .int s.uniqueKeysRefreshSecs, .int s.eventsPushSecs,
    .int s.impressionsQueueSize, .int s.impressionsQueueBytes, .int s.eventsQueueSize, .int s.eventsQueueBytes,
    .int s.observerCapacity, .int s.backoffBaseSecs, .int s.backoffMaxSecs, .int s.maxSyncPeriodMillis, .str s.userConsent.name,
    s.filter.encode]

/-- All numbers have 64 bits. -/
structure Fits (s : Settings) : Prop where
  flagsRefreshSecs : s.flagsRefreshSecs < wordCount
  segmentsRefreshSecs : s.segmentsRefreshSecs < wordCount
  impressionsRefreshSecs : s.impressionsRefreshSecs < wordCount
  countsRefreshSecs : s.countsRefreshSecs < wordCount
  uniqueKeysRefreshSecs : s.uniqueKeysRefreshSecs < wordCount
  eventsPushSecs : s.eventsPushSecs < wordCount
  impressionsQueueSize : s.impressionsQueueSize < wordCount
  impressionsQueueBytes : s.impressionsQueueBytes < wordCount
  eventsQueueSize : s.eventsQueueSize < wordCount
  eventsQueueBytes : s.eventsQueueBytes < wordCount
  observerCapacity : s.observerCapacity < wordCount
  backoffBaseSecs : s.backoffBaseSecs < wordCount
  backoffMaxSecs : s.backoffMaxSecs < wordCount
  maxSyncPeriodMillis : fitsSigned s.maxSyncPeriodMillis = true

instance : fields.IsEven := by unfold fields; infer_instance

theorem roundTrips : RoundTrips fields.names decode encode elements Fits := by
  refine .of_record (fun _ => (by decide : ["events_push_rate_secs", "events_queue_size", "events_queue_size_bytes",
    "flags_refresh_rate_secs", "impressions_count_refresh_rate_secs", "impressions_mode", "impressions_queue_size",
    "impressions_queue_size_bytes", "impressions_refresh_rate_secs", "max_sync_period_ms", "observer_capacity",
    "push_reconnect_backoff_base_secs", "push_reconnect_backoff_max_secs", "segments_refresh_rate_secs", "streaming_enabled",
    "sync_enabled", "sync_filter", "unique_keys_refresh_rate_secs", "user_consent"].Pairwise (· < ·))) ?_ ?_ ?_
  · intro s fits found
    exact ⟨_, (((((((((((((((((((Fields.Gives.none mk).also
      (.withDefault (.bool s.syncEnabled) (found 15 rfl) (Decoder.bool_bool _))).also
      (.withDefault (.bool s.streamingEnabled) (found 14 rfl) (Decoder.bool_bool _))).also
      (.withDefault (.str s.impressionsMode.name) (found 5 rfl) (ImpressionsMode.decode_name _))).also
      (.withDefault (.int s.flagsRefreshSecs) (found 3 rfl) (Decoder.nat64_int "u64" fits.flagsRefreshSecs))).also
      (.withDefault (.int s.segmentsRefreshSecs) (found 13 rfl) (Decoder.nat64_int "u64" fits.segmentsRefreshSecs))).also
      (.withDefault (.int s.impressionsRefreshSecs) (found 8 rfl) (Decoder.nat64_int "u64" fits.impressionsRefreshSecs))).also
      (.withDefault (.int s.countsRefreshSecs) (found 4 rfl) (Decoder.nat64_int "u64" fits.countsRefreshSecs))).also
      (.withDefault (.int s.uniqueKeysRefreshSecs) (found 17 rfl) (Decoder.nat64_int "u64" fits.uniqueKeysRefreshSecs))).also
      (.withDefault (.int s.eventsPushSecs) (found 0 rfl) (Decoder.nat64_int "u64" fits.eventsPushSecs))).also
      (.withDefault (.int s.impressionsQueueSize) (found 6 rfl) (Decoder.nat64_int "usize" fits.impressionsQueueSize))).also
      (.withDefault (.int s.impressionsQueueBytes) (found 7 rfl) (Decoder.nat64_int "usize" fits.impressionsQueueBytes))).also
      (.withDefault (.int s.eventsQueueSize) (found 1 rfl) (Decoder.nat64_int "usize" fits.eventsQueueSize))).also
      (.withDefault (.int s.eventsQueueBytes) (found 2 rfl) (Decoder.nat64_int "usize" fits.eventsQueueBytes))).also
      (.withDefault (.int s.observerCapacity) (found 10 rfl) (Decoder.nat64_int "usize" fits.observerCapacity))).also
      (.withDefault (.int s.backoffBaseSecs) (found 11 rfl) (Decoder.nat64_int "u64" fits.backoffBaseSecs))).also
      (.withDefault (.int s.backoffMaxSecs) (found 12 rfl) (Decoder.nat64_int "u64" fits.backoffMaxSecs))).also
      (.withDefault (.int s.maxSyncPeriodMillis) (found 9 rfl) (Decoder.int64_int fits.maxSyncPeriodMillis))).also
      (.withDefault (.str s.userConsent.name) (found 18 rfl) (Consent.decode_name _))).also
      (.withDefault s.filter.encode (found 16 rfl) (FlagFilter.roundTrips.back _ trivial)), by
      simp only [List.nil_append, List.cons_append, elements]⟩
  · have word (kind name : String) (n : Nat) (small : n < wordCount) :
        (Field.withDefault name (.nat64 kind) n).Yields (· < wordCount) := .withDefault (Decoder.yields_nat64 kind) small
    refine (((((((((((((((((((Fields.Yields.none ?_).also (.free _)).also (.free _)).also (.free _)).also
      (word _ _ _ (by decide))).also (word _ _ _ (by decide))).also (word _ _ _ (by decide))).also (word _ _ _ (by decide))).also
      (word _ _ _ (by decide))).also (word _ _ _ (by decide))).also (word _ _ _ (by decide))).also (word _ _ _ (by decide))).also
      (word _ _ _ (by decide))).also (word _ _ _ (by decide))).also (word _ _ _ (by decide))).also (word _ _ _ (by decide))).also
      (word _ _ _ (by decide))).also (.withDefault Decoder.yields_int64 rfl)).also (.free _)).also (.free _)
    intros
    constructor <;> assumption
  · intro s fits
    simp [Json.IsProper.str, Json.IsProper.bool, Json.isProper_unsigned, fits.flagsRefreshSecs, fits.segmentsRefreshSecs,
      fits.impressionsRefreshSecs, fits.countsRefreshSecs, fits.uniqueKeysRefreshSecs, fits.eventsPushSecs,
      fits.impressionsQueueSize, fits.impressionsQueueBytes, fits.eventsQueueSize, fits.eventsQueueBytes, fits.observerCapacity,
      fits.backoffBaseSecs, fits.backoffMaxSecs, Json.isProper_signed fits.maxSyncPeriodMillis,
      FlagFilter.roundTrips.proper s.filter trivial]

end Settings

/-- **What is written is read back.** The keys, flags, kill orders, change numbers, impressions, counts, events, health of a component
and of all, flag filters, and settings are written so that, with integers of 64 bits and finite numbers:

1. Each value is read from the record that is written of it, which is a proper document.
2. It is read from the list of all its fields in their order as well, and any record that has all fields is read as the list of them.
3. Whatever is read from a proper document has such integers and numbers, and is written so that it is read again, and written again
   as the same document. -/
theorem documents_roundTrip :
    (RoundTrips Key.fields.names Key.decode Key.encode Key.elements fun _ => True) ∧
      RoundTrips FeatureFlag.fields.names FeatureFlag.decode FeatureFlag.encode FeatureFlag.elements FeatureFlag.Fits ∧
      RoundTrips FlagKill.fields.names FlagKill.decode FlagKill.encode FlagKill.elements FlagKill.Fits ∧
      RoundTrips ChangeNumbers.fields.names ChangeNumbers.decode ChangeNumbers.encode ChangeNumbers.elements ChangeNumbers.Fits ∧
      RoundTrips Impression.fields.names Impression.decode Impression.encode Impression.elements Impression.Fits ∧
      RoundTrips FeatureCount.fields.names FeatureCount.decode FeatureCount.encode FeatureCount.elements FeatureCount.Fits ∧
      RoundTrips TrackedEvent.fields.names TrackedEvent.decode TrackedEvent.encode TrackedEvent.elements TrackedEvent.Fits ∧
      RoundTrips ComponentHealth.fields.names ComponentHealth.decode ComponentHealth.encode ComponentHealth.elements
        ComponentHealth.Fits ∧
      RoundTrips HealthReport.fields.names HealthReport.decode HealthReport.encode HealthReport.elements HealthReport.Fits ∧
      (RoundTrips FlagFilter.fields.names FlagFilter.decode FlagFilter.encode FlagFilter.elements fun _ => True) ∧
      RoundTrips Settings.fields.names Settings.decode Settings.encode Settings.elements Settings.Fits :=
  ⟨Key.roundTrips, FeatureFlag.roundTrips, FlagKill.roundTrips, ChangeNumbers.roundTrips, Impression.roundTrips,
    FeatureCount.roundTrips, TrackedEvent.roundTrips, ComponentHealth.roundTrips, HealthReport.roundTrips, FlagFilter.roundTrips,
    Settings.roundTrips⟩

end FlagKeeper
