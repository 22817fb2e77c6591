import FlagKeeper.Proofs.Manager.Scene

/-!
# What the calls of a manager say to each part

The calls of a turn go to different parts. `pushes` are the orders for the streaming connection, `modes` the transports that
telemetry is told of, and `fetchings` say how periodic fetching is turned on and off; each keeps the order of the calls.
`fullFetches` counts how often everything is fetched at once. The statements give these for the groups of calls that the
programs make.
-/

namespace FlagKeeper.Manager

namespace Call

/-- The order that a call gives the streaming connection. -/
@[simp] def push? : Call → Option PushOrder
  | .push order => some order
  | _ => none

/-- The transport that a call reports. -/
@[simp] def mode? : Call → Option SyncMode
  | .mode m => some m
  | _ => none

/-- Whether a call turns periodic fetching on or off. -/
@[simp] def fetching? : Call → Option Bool
  | .synchronizer .startFetching => some true
  | .synchronizer .stopFetching => some false
  | _ => none

/-- Whether a call fetches everything at once. -/
@[simp] def isFullFetch : Call → Bool
  | .synchronizer .synchronizeAll => true
  | _ => false

/-- Whether a call has nothing to do with the transports. -/
def isAside (c : Call) : Bool := c.push?.isNone && c.mode?.isNone && c.fetching?.isNone && !c.isFullFetch

end Call

/-- What one part is told by some calls. -/
def told {α : Type} (part : Call → Option α) (calls : List Call) : List α := calls.filterMap part

/-- The orders among some calls. -/
abbrev pushes (calls : List Call) : List PushOrder := told Call.push? calls

/-- The reported transports among some calls. -/
abbrev modes (calls : List Call) : List SyncMode := told Call.mode? calls

/-- How some calls turn periodic fetching on and off. -/
abbrev fetchings (calls : List Call) : List Bool := told Call.fetching? calls

section Told

variable {α : Type} {part : Call → Option α} {calls : List Call}

@[simp] theorem told_nil : told part [] = [] := rfl

@[simp] theorem told_cons (c : Call) : told part (c :: calls) = (part c).toList ++ told part calls := by
  unfold told
  rw [List.filterMap_cons]
  cases part c <;> rfl

@[simp] theorem told_append (a b : List Call) : told part (a ++ b) = told part a ++ told part b := List.filterMap_append

@[simp] theorem told_ite (c : Prop) [Decidable c] (a b : List Call) :
    told part (if c then a else b) = if c then told part a else told part b := apply_ite (told part) c a b

/-- A part is told nothing by calls that go elsewhere. -/
theorem told_eq_nil (h : ∀ c ∈ calls, part c = none) : told part calls = [] := List.filterMap_eq_nil_iff.2 h

/-- Calls that have nothing to do with the transports say nothing to any part. -/
theorem aside (h : ∀ c ∈ calls, c.isAside = true) : pushes calls = [] ∧ modes calls = [] ∧ fetchings calls = [] := by
  have each : ∀ c ∈ calls, c.push? = none ∧ c.mode? = none ∧ c.fetching? = none := by
    intro c hc
    have := h c hc
    simp only [Call.isAside, Bool.and_eq_true, Option.isNone_iff_eq_none] at this
    exact ⟨this.1.1.1, this.1.1.2, this.1.2⟩
  exact ⟨told_eq_nil fun c hc => (each c hc).1, told_eq_nil fun c hc => (each c hc).2.1, told_eq_nil fun c hc => (each c hc).2.2⟩

end Told

variable {p : Bool} {st : State}

/-! ## The groups of calls -/

@[simp] theorem pushes_pushCalls (order : PushOrder) : pushes (pushCalls p order) = if p then [order] else [] := by
  cases p <;> rfl

@[simp] theorem modes_pushCalls (order : PushOrder) : modes (pushCalls p order) = [] := by
  cases p <;> rfl

@[simp] theorem fetchings_pushCalls (order : PushOrder) : fetchings (pushCalls p order) = [] := by
  cases p <;> rfl

@[simp] theorem pushes_livePushCalls (order : PushOrder) :
    pushes (livePushCalls p st order) = if p && !st.streamingStopped then [order] else [] := by
  unfold livePushCalls
  cases st.streamingStopped <;> simp

@[simp] theorem modes_livePushCalls (order : PushOrder) : modes (livePushCalls p st order) = [] := by
  unfold livePushCalls
  cases st.streamingStopped <;> simp

@[simp] theorem fetchings_livePushCalls (order : PushOrder) : fetchings (livePushCalls p st order) = [] := by
  unfold livePushCalls
  cases st.streamingStopped <;> simp

@[simp] theorem pushes_pollingCalls (reason : String) : pushes (pollingCalls st reason) = [] := by
  unfold pollingCalls
  cases st.polling <;> rfl

@[simp] theorem modes_pollingCalls (reason : String) :
    modes (pollingCalls st reason) = if st.polling then [] else [.polling] := by
  unfold pollingCalls
  cases st.polling <;> rfl

@[simp] theorem fetchings_pollingCalls (reason : String) :
    fetchings (pollingCalls st reason) = if st.polling then [] else [true] := by
  unfold pollingCalls
  cases st.polling <;> rfl

/-- Setting the timer is only logged. -/
theorem reconnectCalls_isAside (now : Nat) : ∀ c ∈ reconnectCalls p st now, c.isAside = true := by
  unfold reconnectCalls
  cases p with
  | false => simp
  | true => cases (st.reconnect.schedule now ()).1 <;> simp [Call.isAside]

@[simp] theorem pushes_reconnectCalls (now : Nat) : pushes (reconnectCalls p st now) = [] :=
  (aside (reconnectCalls_isAside now)).1

@[simp] theorem modes_reconnectCalls (now : Nat) : modes (reconnectCalls p st now) = [] :=
  (aside (reconnectCalls_isAside now)).2.1

@[simp] theorem fetchings_reconnectCalls (now : Nat) : fetchings (reconnectCalls p st now) = [] :=
  (aside (reconnectCalls_isAside now)).2.2

/-- Starting to record has nothing to do with the transports. -/
theorem recordingCalls_isAside (consent : Consent) : ∀ c ∈ recordingCalls consent, c.isAside = true := by
  cases consent <;> simp [recordingCalls, Call.isAside]

@[simp] theorem pushes_recordingCalls (consent : Consent) : pushes (recordingCalls consent) = [] :=
  (aside (recordingCalls_isAside consent)).1

@[simp] theorem modes_recordingCalls (consent : Consent) : modes (recordingCalls consent) = [] :=
  (aside (recordingCalls_isAside consent)).2.1

@[simp] theorem fetchings_recordingCalls (consent : Consent) : fetchings (recordingCalls consent) = [] :=
  (aside (recordingCalls_isAside consent)).2.2

/-- Streaming begins at once when fetching is allowed and there is something to connect. -/
@[simp] theorem pushes_transportCalls :
    pushes (transportCalls p st) = if st.syncEnabled && (p && st.streamingEnabled) then [.start] else [] := by
  unfold transportCalls
  cases st.syncEnabled <;> cases p && st.streamingEnabled <;> simp

@[simp] theorem modes_transportCalls :
    modes (transportCalls p st) = if st.pollsFirst p && !st.polling then [.polling] else [] := by
  unfold transportCalls State.pollsFirst
  cases st.syncEnabled <;> cases p && st.streamingEnabled <;> simp
  cases st.polling <;> rfl

@[simp] theorem fetchings_transportCalls :
    fetchings (transportCalls p st) = if st.pollsFirst p && !st.polling then [true] else [] := by
  unfold transportCalls State.pollsFirst
  cases st.syncEnabled <;> cases p && st.streamingEnabled <;> simp
  cases st.polling <;> rfl

/-! ## Full fetches -/

/-- How often some calls fetch everything at once. -/
def fullFetches (calls : List Call) : Nat := calls.countP Call.isFullFetch

section FullFetches

variable {calls : List Call}

@[simp] theorem fullFetches_nil : fullFetches [] = 0 := rfl

@[simp] theorem fullFetches_cons (c : Call) : fullFetches (c :: calls) = fullFetches calls + if c.isFullFetch then 1 else 0 :=
  List.countP_cons

@[simp] theorem fullFetches_append (a b : List Call) : fullFetches (a ++ b) = fullFetches a + fullFetches b :=
  List.countP_append

@[simp] theorem fullFetches_ite (c : Prop) [Decidable c] (a b : List Call) :
    fullFetches (if c then a else b) = if c then fullFetches a else fullFetches b := apply_ite fullFetches c a b

/-- Calls that have nothing to do with the transports fetch nothing. -/
theorem fullFetches_aside (h : ∀ c ∈ calls, c.isAside = true) : fullFetches calls = 0 := by
  refine List.countP_eq_zero.2 fun c hc => ?_
  have apart := h c hc
  simp only [Call.isAside, Bool.and_eq_true, Bool.not_eq_true'] at apart
  rw [apart.2]
  exact Bool.false_ne_true

@[simp] theorem fullFetches_pushCalls (order : PushOrder) : fullFetches (pushCalls p order) = 0 := by
  cases p <;> rfl

@[simp] theorem fullFetches_livePushCalls (order : PushOrder) : fullFetches (livePushCalls p st order) = 0 := by
  unfold livePushCalls
  cases st.streamingStopped <;> simp

@[simp] theorem fullFetches_pollingCalls (reason : String) : fullFetches (pollingCalls st reason) = 0 := by
  unfold pollingCalls
  cases st.polling <;> rfl

@[simp] theorem fullFetches_reconnectCalls (now : Nat) : fullFetches (reconnectCalls p st now) = 0 :=
  fullFetches_aside (reconnectCalls_isAside now)

@[simp] theorem fullFetches_recordingCalls (consent : Consent) : fullFetches (recordingCalls consent) = 0 :=
  fullFetches_aside (recordingCalls_isAside consent)

@[simp] theorem fullFetches_transportCalls : fullFetches (transportCalls p st) = 0 := by
  unfold transportCalls
  cases st.syncEnabled <;> cases p && st.streamingEnabled <;> simp

end FullFetches

end FlagKeeper.Manager
