import FlagKeeper.Proofs.Reporting.Flushes
import FlagKeeper.Proofs.Tracking.Accounts

/-!
# What is recorded as queued

Both pipelines offer items to a queue of the host, and record each item that they offer as queued. They do so however the host answers:
whether it took the item only decides whether the queue is sent. So an item that the host refused is recorded as queued all the same,
and the records say how many items were offered, not how many are in the queue. The main statement of this file is the account of it
(`queued_records_account`); a single item that is refused makes the records wrong (`refused_recorded_as_queued`).

How the items and the records of a pipeline show in the calls is a `Booking`, and that each item is recorded, once and right after it
was offered, is `IsBooked`.
-/

namespace FlagKeeper.Recording

open Ensemble (Call Answers)

/-- How the items that a pipeline offers to the host, and the records of them, show in the calls. -/
structure Booking where
  /-- Whether a call offers an item. -/
  offers : Call → Bool
  /-- How many items a call records as queued. -/
  records : Call → Nat

namespace Booking

/-- How impressions are offered and recorded. -/
def impressions : Booking where
  offers
    | .queueImpression _ => true
    | _ => false
  records
    | .impressions .queued n => n
    | _ => 0

/-- How events are offered and recorded. -/
def events : Booking where
  offers
    | .queueEvent _ => true
    | _ => false
  records
    | .events .queued n => n
    | _ => 0

variable (b : Booking)

/-- How many items are recorded as queued. -/
def recorded (calls : List Call) : Nat := (calls.map b.records).sum

/-- How many of the items that were offered have an answer of a kind. -/
def answered (a : Answers) (kind : Outcome → Bool) : List Call → Nat
  | [] => 0
  | c :: past => (if b.offers c && kind (a.outcome (c :: past)) then 1 else 0) + answered a kind past

/-- How many items the host took. -/
def taken (a : Answers) (calls : List Call) : Nat := b.answered a (·.isOk) calls

/-- How many items the host refused. -/
def refused (a : Answers) (calls : List Call) : Nat := b.answered a (!·.isOk) calls

/-- A call that neither offers an item nor records one. -/
structure IsAside (c : Call) : Prop where
  offers : b.offers c = false
  records : b.records c = 0

/-- Each item that is offered is recorded once, before the next one is offered, and there are no other records. -/
inductive IsBooked : List Call → Prop
  | empty : IsBooked []
  | aside {c : Call} {calls : List Call} : b.IsAside c → IsBooked calls → IsBooked (c :: calls)
  | item {offer record : Call} {between calls : List Call} : b.offers offer = true → b.records offer = 0 →
      (∀ c ∈ between, b.IsAside c) → b.offers record = false → b.records record = 1 → IsBooked calls →
      IsBooked (record :: (between ++ offer :: calls))

section Counts

variable {b} {a : Answers} {kind : Outcome → Bool} {c : Call} {calls more : List Call}

theorem recorded_cons : b.recorded (c :: calls) = b.records c + b.recorded calls := List.sum_cons

theorem answered_cons : b.answered a kind (c :: calls) =
    (if b.offers c && kind (a.outcome (c :: calls)) then 1 else 0) + b.answered a kind calls := rfl

theorem answered_cons_of_not_offers (other : b.offers c = false) : b.answered a kind (c :: calls) = b.answered a kind calls := by
  rw [answered_cons, other]
  exact Nat.zero_add _

/-- Each item that is offered is taken or refused. -/
theorem taken_add_refused_cons (offers : b.offers c = true) :
    b.taken a (c :: calls) + b.refused a (c :: calls) = b.taken a calls + b.refused a calls + 1 := by
  unfold taken refused
  rw [answered_cons, answered_cons, offers]
  cases (a.outcome (c :: calls)).isOk <;> simp <;> omega

theorem recorded_append_aside (aside : ∀ c ∈ more, b.IsAside c) : b.recorded (more ++ calls) = b.recorded calls := by
  induction more with
  | nil => rfl
  | cons c more ih =>
    obtain ⟨first, rest⟩ := List.forall_mem_cons.1 aside
    rw [List.cons_append, recorded_cons, first.records, Nat.zero_add, ih rest]

theorem answered_append_aside (aside : ∀ c ∈ more, b.IsAside c) :
    b.answered a kind (more ++ calls) = b.answered a kind calls := by
  induction more with
  | nil => rfl
  | cons c more ih =>
    obtain ⟨first, rest⟩ := List.forall_mem_cons.1 aside
    rw [List.cons_append, answered_cons_of_not_offers first.offers, ih rest]

/-- Nothing is refused just as long as the host takes whatever it is offered. -/
theorem refused_eq_zero_iff :
    b.refused a calls = 0 ↔ ∀ c past, c :: past <:+ calls → b.offers c = true → (a.outcome (c :: past)).isOk = true := by
  induction calls with
  | nil => exact iff_of_true rfl fun c past before => by cases List.suffix_nil.1 before
  | cons first earlier ih =>
    have head : b.refused a (first :: earlier) = 0 ↔
        (b.offers first = true → (a.outcome (first :: earlier)).isOk = true) ∧ b.refused a earlier = 0 := by
      unfold refused
      rw [answered_cons, Nat.add_eq_zero_iff]
      cases b.offers first <;> cases (a.outcome (first :: earlier)).isOk <;> simp
    rw [head, ih]
    constructor
    · rintro ⟨now, before⟩ c past inside
      rcases List.suffix_cons_iff.1 inside with same | older
      · cases same
        exact now
      · exact before c past older
    · intro all
      exact ⟨all first earlier List.suffix_rfl, fun c past inside => all c past (inside.trans (List.suffix_cons _ _))⟩

namespace IsBooked

theorem append (h : b.IsBooked calls) (aside : ∀ c ∈ more, b.IsAside c) : b.IsBooked (more ++ calls) := by
  induction more with
  | nil => exact h
  | cons c more ih =>
    obtain ⟨first, rest⟩ := List.forall_mem_cons.1 aside
    exact .aside first (ih rest)

/-- As many items are recorded as queued as the host took or refused. -/
theorem total (h : b.IsBooked calls) (a : Answers) : b.recorded calls = b.taken a calls + b.refused a calls := by
  induction h with
  | empty => rfl
  | @aside c calls aside _ ih =>
    have others (kind : Outcome → Bool) : b.answered a kind (c :: calls) = b.answered a kind calls :=
      answered_cons_of_not_offers aside.offers
    rw [recorded_cons, aside.records, Nat.zero_add, ih]
    exact (congrArg₂ (· + ·) (others _) (others _)).symm
  | @item offer record between calls offers unrecorded aside other one _ ih =>
    have same (kind : Outcome → Bool) :
        b.answered a kind (record :: (between ++ offer :: calls)) = b.answered a kind (offer :: calls) := by
      rw [answered_cons_of_not_offers other, answered_append_aside aside]
    calc b.recorded (record :: (between ++ offer :: calls))
      _ = b.recorded calls + 1 := by
        rw [recorded_cons, one, recorded_append_aside aside, recorded_cons, unrecorded, Nat.zero_add, Nat.add_comm]
      _ = b.taken a calls + b.refused a calls + 1 := by rw [ih]
      _ = b.taken a (offer :: calls) + b.refused a (offer :: calls) := (taken_add_refused_cons offers).symm
      _ = _ := (congrArg₂ (· + ·) (same _) (same _)).symm

end IsBooked

end Counts

end Booking

/-! ## The two pipelines -/

section Pipelines

variable {s : Scene}

/-- Whether a call offers an impression, or records one as queued. -/
def isImpressionBooked : Call → Bool
  | .queueImpression _ => true
  | .impressions .queued _ => true
  | _ => false

theorem isAside_of_not_isImpressionBooked {c : Call} (other : isImpressionBooked c = false) : Booking.impressions.IsAside c := by
  cases c with
  | queueImpression i => cases other
  | impressions fate n =>
    cases fate with
    | queued => cases other
    | _ => exact ⟨rfl, rfl⟩
  | _ => exact ⟨rfl, rfl⟩

/-- An order leads to calls that have nothing to do with the queue of the impressions, or it offers one impression and records it. -/
theorem booked_callsOf (s : Scene) (order : ImpressionTracker.Order) (booked : Booking.impressions.IsBooked s.ground.calls) :
    Booking.impressions.IsBooked (s.callsOf order ++ s.ground.calls) := by
  have aside {order : ImpressionTracker.Order} (none : (s.fateOf order).filter isImpressionBooked = []) :
      Booking.impressions.IsBooked (s.callsOf order ++ s.ground.calls) := by
    refine booked.append fun c inside => isAside_of_not_isImpressionBooked (Bool.eq_false_iff.2 fun booked => ?_)
    rw [← filter_callsOf s (fun _ _ => rfl) (fun _ => rfl) (fun _ => rfl) rfl] at none
    exact List.filter_eq_nil_iff.1 none c inside booked
  cases order with
  | push pushed =>
    cases counted : (pushed.disabled || s.mode = .none : Bool) with
    | true =>
      refine aside ?_
      unfold Scene.fateOf
      dsimp only
      rw [if_pos counted]
      rfl
    | false =>
      have delivers : ¬(pushed.disabled || s.mode = .none) = true := Bool.eq_false_iff.1 counted
      cases queued : s.isQueued (s.lastSeen pushed.impression) with
      | true =>
        unfold Scene.callsOf Scene.callsOfDelivery
        dsimp only
        rw [if_neg delivers, if_pos queued, List.cons_append, List.append_assoc]
        refine .item rfl rfl ?_ rfl rfl booked
        intro c inside
        split at inside
        · rw [List.mem_singleton.1 inside]
          exact ⟨rfl, rfl⟩
        · cases inside
      | false =>
        refine aside ?_
        unfold Scene.fateOf
        dsimp only
        rw [if_neg delivers, if_neg (Bool.eq_false_iff.1 queued)]
        rfl
  | _ => exact aside rfl

/-- An event is offered and recorded, or the queue of the events is sent. -/
theorem booked_callsOfEvent (s : Scene) (order : EventRecorder.Order) (booked : Booking.events.IsBooked s.ground.calls) :
    Booking.events.IsBooked (s.callsOfEvent order ++ s.ground.calls) := by
  cases order with
  | push event =>
    unfold Scene.callsOfEvent
    dsimp only
    rw [List.cons_append, List.append_assoc]
    refine .item rfl rfl ?_ rfl rfl booked
    intro c inside
    split at inside
    · rw [List.mem_singleton.1 inside]
      exact ⟨rfl, rfl⟩
    · cases inside
  | flush => exact .aside ⟨rfl, rfl⟩ booked

/-- New parts have offered and recorded nothing. -/
theorem isAside_opening {c : Call} (opening : isOpening c = true) : Booking.impressions.IsAside c ∧ Booking.events.IsAside c := by
  cases c with
  | create w => exact ⟨⟨rfl, rfl⟩, ⟨rfl, rfl⟩⟩
  | persistImpressions enable => exact ⟨⟨rfl, rfl⟩, ⟨rfl, rfl⟩⟩
  | readHashes => exact ⟨⟨rfl, rfl⟩, ⟨rfl, rfl⟩⟩
  | _ => cases opening

theorem booked_scene (u : Setup) :
    Booking.impressions.IsBooked u.scene.ground.calls ∧ Booking.events.IsBooked u.scene.ground.calls := by
  have aside (c : Call) (inside : c ∈ u.scene.ground.calls) := isAside_opening (List.all_eq_true.1 u.opening_scene c inside)
  rw [← List.append_nil u.scene.ground.calls]
  exact ⟨Booking.IsBooked.empty.append fun c inside => (aside c inside).1,
    Booking.IsBooked.empty.append fun c inside => (aside c inside).2⟩

/-- Each impression that a tracker offers to the host is recorded as queued. -/
theorem booked_impressions (u : Setup) (inputs : List Tracking.Input) :
    Booking.impressions.IsBooked (Tracking.after u inputs).ground.calls := by
  refine Tracking.run_induction (P := fun _ s => Booking.impressions.IsBooked s.ground.calls) (booked_scene u).1 ?_ ?_ inputs
  · intro past command booked
    rw [Tracking.toldTracker_calls]
    refine booked.append fun c inside => ?_
    obtain rfl | ⟨enable, rfl⟩ := Tracking.mem_callsOfTold inside <;> exact ⟨rfl, rfl⟩
  · intro past order rest _ booked
    rw [Tracking.turned_calls]
    exact booked_callsOf _ order booked

/-- Each event that a recorder offers to the host is recorded as queued. -/
theorem booked_events (u : Setup) (inputs : List Reporting.Input) :
    Booking.events.IsBooked (Reporting.after u inputs).ground.calls := by
  induction inputs with
  | nil => exact (booked_scene u).2
  | cons i past ih =>
    rw [Reporting.after]
    cases i with
    | tell command =>
      rw [Reporting.take_tell, Reporting.toldRecorder_eq]
      refine ih.append fun c inside => ?_
      revert c
      unfold Reporting.callsOfTold
      have told (order : WorkerOrder) (w : Worker) : Booking.events.IsAside (.tell w order) := ⟨rfl, rfl⟩
      have late : Booking.events.IsAside (.events .dropped 1) := ⟨rfl, rfl⟩
      cases (Reporting.after u past).events.destroyed <;> cases command <;> simp [told, late]
    | step =>
      cases waiting : (Reporting.after u past).events.orders.queue with
      | nil =>
        rw [Reporting.take_step_nil waiting]
        exact ih
      | cons order rest =>
        rw [Reporting.take_step_cons waiting, Reporting.turned_calls]
        exact booked_callsOfEvent _ order ih

end Pipelines

/-- What the records of a pipeline say of its queue: each item that was offered is recorded as queued, so as many are recorded as the
host took and as it refused, and the records say what the host took just as long as it refused nothing. -/
structure Booking.Account (b : Booking) (a : Answers) (calls : List Call) : Prop where
  booked : b.IsBooked calls
  total : b.recorded calls = b.taken a calls + b.refused a calls
  truthful : b.recorded calls = b.taken a calls ↔
    ∀ c past, c :: past <:+ calls → b.offers c = true → (a.outcome (c :: past)).isOk = true

theorem Booking.IsBooked.account {b : Booking} {calls : List Call} (h : b.IsBooked calls) (a : Answers) : b.Account a calls where
  booked := h
  total := h.total a
  truthful := by
    rw [← Booking.refused_eq_zero_iff, h.total a]
    omega

/-- **What the records of queued items say.** Of any settings, over any host, whatever it refuses, whatever a tracker or a recorder is
told and whenever its pipeline has its turn:

1. Each item that the pipeline offers to the queue of the host is recorded as queued, once, before the next one is offered; and there
   are no other such records.
2. So as many items are recorded as queued as the host took and as it refused.
3. The records say how many the host took just as long as it refused none. -/
theorem queued_records_account (u : Setup) :
    (∀ inputs, Booking.impressions.Account u.answers (Tracking.after u inputs).ground.calls) ∧
    ∀ inputs, Booking.events.Account u.answers (Reporting.after u inputs).ground.calls :=
  ⟨fun inputs => (booked_impressions u inputs).account u.answers, fun inputs => (booked_events u inputs).account u.answers⟩

/-- Parts over a host that has no room for any item. -/
def fullHost : Setup where
  settings := {}
  keepsHashes := false
  answers :=
    { outcome := fun calls =>
        match calls with
        | .queueImpression _ :: _ => .error (.storage "the disk is full")
        | .queueEvent _ :: _ => .error (.storage "the disk is full")
        | _ => .ok () }

/-- An item that the host refused is recorded as queued, an impression as well as an event. -/
theorem refused_recorded_as_queued :
    (¬∀ (u : Setup) (inputs : List Tracking.Input), Booking.impressions.recorded (Tracking.after u inputs).ground.calls =
      Booking.impressions.taken u.answers (Tracking.after u inputs).ground.calls) ∧
    ¬∀ (u : Setup) (inputs : List Reporting.Input), Booking.events.recorded (Reporting.after u inputs).ground.calls =
      Booking.events.taken u.answers (Reporting.after u inputs).ground.calls := by
  constructor
  · intro truthful
    have untrue : 1 = 0 := truthful fullHost [.step, .tell (.push { impression := .new "user" "checkout" "on" 0 })]
    cases untrue
  · intro truthful
    have untrue : 1 = 0 := truthful fullHost [.step, .tell (.push (.new "user" "visitor" "visit" 0))]
    cases untrue

end FlagKeeper.Recording
