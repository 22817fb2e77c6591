import Mathlib.Data.List.DropRight
import FlagKeeper.Proofs.Recording.Steps

/-!
# A recorder by itself

The event recorder, the program that it is, on the plain host, told whatever its callers like. The scene is that of the recording, of
which the tracker and the synchronizer have no part here. What can happen is an `Input`: the recorder is told something, or its
pipeline has its turn. The host may refuse any event, for its answers are any function of the calls so far.

What the recorder is told before its end and from then on are set apart (`early`, `late`): only what is told before comes to the
pipeline. A pipeline that has its turn often enough catches up (`queue_caughtUp`).
-/

namespace FlagKeeper.Reporting

open Ensemble (Call)
open EventRecorder (Order Command)
open Recording (Scene Setup Plain recorder)

/-- What can happen to a recorder. -/
inductive Input where
  | tell (command : Command)
  /-- The pipeline has its turn. -/
  | step

/-- What is done about an input. -/
def Input.program : Input → Plain Unit
  | .tell command => recorder.run command
  | .step => do let _ ← recorder.handleNext

/-- The scene after an input. -/
def take (s : Scene) (i : Input) : Scene := (i.program.run s).2

/-- A new recorder after some inputs, the latest first. -/
def after (u : Setup) : List Input → Scene
  | [] => u.scene
  | i :: past => take (after u past) i

/-! ## What the recorder is told -/

namespace Input

/-- The recorder is told to end. -/
def isDestroy : Input → Bool
  | .tell .destroy => true
  | _ => false

/-- The event that the recorder is given, if it is given one. -/
def event? : Input → Option TrackedEvent
  | .tell (.push event) => some event
  | _ => none

/-- The order to the pipeline in what the recorder is told, if there is one. -/
def order? : Input → Option Order
  | .tell (.push event) => some (.push event)
  | .tell .flush => some .flush
  | _ => none

end Input

/-- What happened before the recorder was told to end, the latest first. -/
def early (inputs : List Input) : List Input := inputs.rtakeWhile (!·.isDestroy)

/-- What happened from then on, the latest first. -/
def late (inputs : List Input) : List Input := inputs.rdropWhile (!·.isDestroy)

/-- The orders to the pipeline before the end, the latest first. -/
def orders (inputs : List Input) : List Order := (early inputs).filterMap Input.order?

/-- The events that the recorder was given before the end, the latest first. -/
def events (inputs : List Input) : List TrackedEvent := (early inputs).filterMap Input.event?

/-- The events that it was given afterwards, the latest first. -/
def lateEvents (inputs : List Input) : List TrackedEvent := (late inputs).filterMap Input.event?

section Told

variable {i : Input} {past : List Input}

theorem late_append_early (inputs : List Input) : late inputs ++ early inputs = inputs := List.rdropWhile_append_rtakeWhile

/-- Nothing is late as long as the recorder was not told to end. -/
theorem late_eq_nil_iff : late past = [] ↔ past.any Input.isDestroy = false := by
  rw [late, List.rdropWhile_eq_nil_iff, List.any_eq_false]
  simp

theorem late_cons : late (i :: past) = if (i :: past).any Input.isDestroy then i :: late past else late past := by
  cases ended : (i :: past).any Input.isDestroy with
  | false =>
    have lasting : past.any Input.isDestroy = false := (Bool.or_eq_false_iff.1 ended).2
    rw [late_eq_nil_iff.2 ended, late_eq_nil_iff.2 lasting]
    rfl
  | true =>
    have earlier : (late past).reverse = past.reverse.dropWhile (!·.isDestroy) := List.reverse_reverse _
    rw [late, List.rdropWhile, List.reverse_cons, List.dropWhile_append, ← earlier, List.isEmpty_reverse]
    cases before : late past with
    | nil =>
      rw [List.any_cons, late_eq_nil_iff.1 before, Bool.or_false] at ended
      simp [ended]
    | cons first rest => simp

theorem early_cons : early (i :: past) = if (i :: past).any Input.isDestroy then early past else i :: early past := by
  have all := late_append_early (i :: past)
  rw [late_cons] at all
  cases ended : (i :: past).any Input.isDestroy with
  | true =>
    rw [ended, if_pos rfl, List.cons_append, List.cons.injEq] at all
    exact List.append_cancel_left (all.2.trans (late_append_early past).symm)
  | false =>
    have lasting : past.any Input.isDestroy = false := (Bool.or_eq_false_iff.1 ended).2
    have whole := late_append_early past
    rw [late_eq_nil_iff.2 lasting, List.nil_append] at whole
    rw [ended, if_neg Bool.false_ne_true, late_eq_nil_iff.2 lasting, List.nil_append] at all
    rw [if_neg Bool.false_ne_true, whole, all]

theorem eq_destroy (ends : i.isDestroy = true) : i = .tell .destroy := by
  cases i with
  | step => cases ends
  | tell command => cases command <;> first | rfl | cases ends

variable {β : Type} {f : Input → Option β} (silent : f (.tell .destroy) = none)

include silent in
/-- What is read off one more input counts with what came before the end, as long as the recorder was not told to end. -/
theorem filterMap_early_cons : (early (i :: past)).filterMap f =
    (if past.any Input.isDestroy then none else f i).toList ++ (early past).filterMap f := by
  rw [early_cons, List.any_cons]
  cases past.any Input.isDestroy with
  | true =>
    rw [Bool.or_true]
    rfl
  | false =>
    rw [Bool.or_false]
    cases ends : i.isDestroy with
    | true =>
      rw [eq_destroy ends, silent]
      rfl
    | false =>
      show (i :: early past).filterMap f = (f i).toList ++ _
      cases read : f i with
      | none => exact List.filterMap_cons_none read
      | some read' => exact List.filterMap_cons_some read

include silent in
/-- From then on it counts with what came afterwards. -/
theorem filterMap_late_cons : (late (i :: past)).filterMap f =
    (if past.any Input.isDestroy then f i else none).toList ++ (late past).filterMap f := by
  rw [late_cons, List.any_cons]
  cases past.any Input.isDestroy with
  | true =>
    rw [Bool.or_true]
    show (i :: late past).filterMap f = (f i).toList ++ _
    cases read : f i with
    | none => exact List.filterMap_cons_none read
    | some read' => exact List.filterMap_cons_some read
  | false =>
    rw [Bool.or_false]
    cases ends : i.isDestroy with
    | true => exact List.filterMap_cons_none (eq_destroy ends ▸ silent)
    | false => rfl

theorem orders_cons : orders (i :: past) = (if past.any Input.isDestroy then none else i.order?).toList ++ orders past :=
  filterMap_early_cons rfl

theorem lateEvents_cons :
    lateEvents (i :: past) = (if past.any Input.isDestroy then i.event? else none).toList ++ lateEvents past :=
  filterMap_late_cons rfl

end Told

/-! ## Turns -/

/-- The calls that something the recorder is told leads to at once: an order to the periodic worker, or the record of an event that
comes too late. -/
def callsOfTold (s : Scene) : Command → List Call
  | .start => if s.events.destroyed then [] else [.tell s.events.periodic .start]
  | .stop => [.tell s.events.periodic .stop]
  | .push _ => if s.events.destroyed then [.events .dropped 1] else []
  | .flush => []
  | .pause => [.tell s.events.periodic .pause]
  | .resume => [.tell s.events.periodic .resume]
  | .destroy => if s.events.destroyed then [] else [.tell s.events.periodic .destroy]

/-- What the recorder keeps once it was told something: that it is to end, and an order for the pipeline, unless it was told to end
before. -/
def stateTold (s : Scene) (command : Command) : EventRecorder.State :=
  { s.events with
    destroyed := (Input.tell command).isDestroy || s.events.destroyed
    orders :=
      match if s.events.destroyed then none else (Input.tell command).order? with
      | some order => s.events.orders.send order
      | none => s.events.orders }

section Turns

variable {s : Scene} {order : Order} {rest : List Order}

theorem take_tell (s : Scene) (command : Command) : take s (.tell command) = s.toldRecorder command :=
  congrArg Prod.snd (Recording.run_recorder_run command)

theorem toldRecorder_eq (s : Scene) (command : Command) :
    s.toldRecorder command = (s.recorded (stateTold s command)).wrote (callsOfTold s command) := by
  obtain ⟨_, _, _, _, _, ⟨_, _, destroyed, _, _⟩⟩ := s
  cases destroyed <;> cases command <;> rfl

theorem take_step (s : Scene) : take s .step = s.eventsStepped := congrArg Prod.snd Recording.run_handleNextEvent

/-- An order left the queue of the pipeline and was handled. -/
def turned (s : Scene) (order : Order) (rest : List Order) : Scene :=
  (s.recorded { s.events with orders := { s.events.orders with queue := rest } }).handledEvent order

theorem take_step_nil (waiting : s.events.orders.queue = []) : take s .step = s :=
  (take_step s).trans (Scene.eventsStepped_nil waiting)

theorem take_step_cons (waiting : s.events.orders.queue = order :: rest) : take s .step = turned s order rest :=
  (take_step s).trans (Scene.eventsStepped_cons waiting)

/-- An order that is handled leaves the rest of the queue as it is. -/
theorem turned_orders (s : Scene) (order : Order) (rest : List Order) :
    (turned s order rest).events.orders = { s.events.orders with queue := rest } := by
  cases order <;> rfl

theorem queue_step (s : Scene) : (take s .step).events.orders.queue = s.events.orders.queue.tail := by
  cases waiting : s.events.orders.queue with
  | nil => rw [take_step_nil waiting, waiting, List.tail_nil]
  | cons order rest => rw [take_step_cons waiting, turned_orders, List.tail_cons]

/-- After as many turns as orders wait, none waits. -/
theorem queue_caughtUp (u : Setup) (inputs : List Input) (n : Nat) :
    (after u (List.replicate n .step ++ inputs)).events.orders.queue = (after u inputs).events.orders.queue.drop n := by
  induction n with
  | zero => rfl
  | succ n ih =>
    rw [List.replicate_succ, List.cons_append, after, queue_step, ih, List.tail_drop]

end Turns

end FlagKeeper.Reporting
