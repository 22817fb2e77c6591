import FlagKeeper.Codec.Decoder
import FlagKeeper.Text.NameMap

/-!
# Health

How each component fares, and whether the client is ready. A report takes the worst of the components as its status.
-/

namespace FlagKeeper

/-- How a component fares. -/
inductive ComponentStatus where
  | healthy
  /-- It works on a fallback. -/
  | degraded
  | unhealthy
  deriving DecidableEq, Repr

namespace ComponentStatus

/-- The statuses by name. -/
def table : List (String × ComponentStatus) := [("healthy", .healthy), ("degraded", .degraded), ("unhealthy", .unhealthy)]

/-- The name of a status. -/
def name : ComponentStatus → String
  | .healthy => "healthy"
  | .degraded => "degraded"
  | .unhealthy => "unhealthy"

/-- Reads a status. -/
def decode : Decoder ComponentStatus := Decoder.variant table

/-- Whether a component with this status can be used. -/
def isOperational (s : ComponentStatus) : Bool := s ≠ .unhealthy

end ComponentStatus

/-- The state of a component at its last check. -/
structure ComponentHealth where
  status : ComponentStatus
  message : Option String
  /-- Seconds of the wall clock. -/
  lastCheck : Int
  deriving DecidableEq, Repr

namespace ComponentHealth

/-- The fields of a component's state. -/
def fields : Fields ComponentHealth :=
  (Fields.none ComponentHealth.mk)
    |>.also (.required "status" ComponentStatus.decode)
    |>.also (.optional "message" .string)
    |>.also (.required "last_check_timestamp" .int64)

/-- Reads the state of a component. -/
def decode : Decoder ComponentHealth := fields.decoder "ComponentHealth"

/-- Writes the state of a component. -/
def encode (h : ComponentHealth) : Json :=
  .obj (presentFields
    [("last_check_timestamp", some (.int h.lastCheck)), ("message", h.message.map .str),
      ("status", some (.str h.status.name))])

end ComponentHealth

/-- The worst status of some components. -/
def worstStatus (components : List (String × ComponentHealth)) : ComponentStatus :=
  if components.any fun entry => entry.2.status = .unhealthy then .unhealthy
  else if components.any fun entry => entry.2.status = .degraded then .degraded
  else .healthy

/-- A snapshot of all components. -/
structure HealthReport where
  status : ComponentStatus
  ready : Bool
  components : List (String × ComponentHealth)

namespace HealthReport

/-- The fields of a report. -/
def fields : Fields HealthReport :=
  (Fields.none HealthReport.mk)
    |>.also (.required "status" ComponentStatus.decode)
    |>.also (.required "ready" .bool)
    |>.also (.required "components" (.table ComponentHealth.decode))

/-- Reads a report. -/
def decode : Decoder HealthReport := fields.decoder "HealthReport"

/-- Writes a report. -/
def encode (r : HealthReport) : Json :=
  .obj [("components", .obj (r.components.map fun entry => (entry.1, entry.2.encode))), ("ready", .bool r.ready),
    ("status", .str r.status.name)]

end HealthReport

/-- The component that keeps the stream. -/
def streamingName : String := "streaming"

/-- The component that polls. -/
def pollingName : String := "polling"

/-- The component that fetches flags. -/
def featureFlagsName : String := "feature_flags"

/-- The component that records user data. -/
def telemetryName : String := "telemetry"

/-- The health of a client: its components in order of their names, and whether it was declared ready. -/
structure Health where
  components : List (String × ComponentHealth)
  ready : Bool := false
  deriving DecidableEq, Repr

namespace Health

/-- Sets the state of a component. -/
def update (h : Health) (name : String) (state : ComponentHealth) : Health :=
  { h with components := putNamed name state h.components }

/-- A component is well, as of some second. -/
def setHealthy (h : Health) (name : String) (now : Int) : Health := h.update name ⟨.healthy, none, now⟩

/-- A component works on a fallback, for some reason. -/
def setDegraded (h : Health) (name message : String) (now : Int) : Health := h.update name ⟨.degraded, some message, now⟩

/-- A component does not work, for some reason. -/
def setUnhealthy (h : Health) (name message : String) (now : Int) : Health := h.update name ⟨.unhealthy, some message, now⟩

/-- All known components well, the client not ready. -/
def new (now : Int) : Health :=
  [featureFlagsName, pollingName, streamingName, telemetryName].foldl (fun h name => h.setHealthy name now) { components := [] }

/-- The status of a component, if it is known. -/
def statusOf (h : Health) (name : String) : Option ComponentStatus := (h.components.lookup name).map (·.status)

/-- Declares the client ready or not. -/
def setReady (h : Health) (ready : Bool) : Health := { h with ready }

/-- A snapshot. A client with an unhealthy component is not ready. -/
def report (h : Health) : HealthReport :=
  let status := worstStatus h.components
  { status, ready := h.ready && status.isOperational, components := h.components }

section Lemmas

variable {h : Health} {name other : String} {state : ComponentHealth} {entry : String × ComponentHealth}

@[simp] theorem statusOf_update_self : (h.update name state).statusOf name = some state.status := by
  simp [statusOf, update, lookup_putNamed_self]

theorem statusOf_update_of_ne (ne : other ≠ name) : (h.update name state).statusOf other = h.statusOf other := by
  simp [statusOf, update, lookup_putNamed_of_ne ne]

theorem mem_of_mem_update (there : entry ∈ (h.update name state).components) : entry = (name, state) ∨ entry ∈ h.components :=
  mem_of_mem_putNamed there

/-- A component with a status is one of the components. -/
theorem exists_of_statusOf {status : ComponentStatus} (known : h.statusOf name = some status) :
    ∃ entry ∈ h.components, entry.2.status = status := by
  obtain ⟨state, found, rfl⟩ := Option.map_eq_some_iff.1 known
  obtain ⟨first, last, split, -⟩ := List.lookup_eq_some_iff.1 found
  exact ⟨(name, state), by simp [split], rfl⟩

/-- A report says unhealthy exactly if a component is. -/
theorem report_unhealthy_iff : h.report.status = .unhealthy ↔ ∃ entry ∈ h.components, entry.2.status = .unhealthy := by
  have any : (h.components.any fun entry => entry.2.status = .unhealthy) = true ↔
      ∃ entry ∈ h.components, entry.2.status = .unhealthy := by
    simp only [List.any_eq_true, decide_eq_true_eq]
  rw [← any]
  simp only [report, worstStatus]
  split
  · simp only [*]
  · split <;> simp only [*, reduceCtorEq]

/-- A report says ready exactly if the client was declared so and no component is unhealthy. -/
theorem report_ready_iff : h.report.ready = true ↔ h.ready = true ∧ h.report.status ≠ .unhealthy := by
  show (h.ready && (h.report.status).isOperational) = true ↔ _
  simp [ComponentStatus.isOperational]

/-- At first no component is unhealthy. -/
theorem healthy_of_mem_new {now : Int} (there : entry ∈ (new now).components) : entry.2.status = .healthy := by
  simp only [new, List.foldl_cons, List.foldl_nil, setHealthy] at there
  repeat
    rcases mem_of_mem_update there with rfl | there
    · rfl
  cases there

end Lemmas

end Health

end FlagKeeper
