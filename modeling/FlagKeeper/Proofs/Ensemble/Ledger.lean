import Mathlib.Logic.Relation
import FlagKeeper.Proofs.Ensemble.Basic
import FlagKeeper.Proofs.Timing.TimerTable

/-!
# The books of a client

What a client owes its workers can be read off a ledger: which workers were ever told to stop, and at each desk, that of the flags
and those of the identities, which workers stand by, which are under way for a target, what the timers hold, and whether the desk
is closed. The parts below the manager change the ledger in six ways only (`Ledger.Step`); the pace of a program says which of them
it may use.

`Ledger.IsOrderly` is what these steps keep. The heart of it is that a worker that was made for a target is booked once at most: it
is under way at one desk, or was told to stop, and never both. `Ledger.IsCovered` says that a desk which is not closed belongs to an
identity that is registered.
-/

namespace FlagKeeper

/-- Whether a worker was made for a target, and does not stand by. -/
def Worker.isTargeted (w : Worker) : Bool :=
  match w.kind with
  | .flagsUpdate _ => true
  | .segmentsUpdate _ _ => true
  | _ => false

namespace Ensemble

/-- What the books say of a part that makes workers for targets. -/
structure Desk where
  /-- The workers that stand by. -/
  standing : List Worker
  /-- The workers under way for a target. -/
  underWay : List Worker
  timers : TimerTable Unit
  closed : Bool

namespace Desk

/-- Nothing is under way at a desk, and no timer waits. -/
def AtRest (k : Desk) : Prop := k.underWay = [] ∧ k.timers.sleepers = []

/-- Letting workers go wakes nothing up. -/
theorem AtRest.letGo {k : Desk} (h : k.AtRest) {rest : List Worker} (fewer : rest.Sublist k.underWay) :
    Desk.AtRest { k with underWay := rest } :=
  ⟨List.eq_nil_of_sublist_nil (h.1 ▸ fewer), h.2⟩

/-- A timer that runs out where none waits wakes nothing up. -/
theorem AtRest.ring {k : Desk} (h : k.AtRest) (id : Nat) : Desk.AtRest { k with timers := (k.timers.wake id).2 } := by
  refine ⟨h.1, ?_⟩
  rw [TimerTable.wake_of_sleepers_nil h.2]
  exact h.2

/-- What always holds of a desk. -/
structure IsOrderly (k : Desk) : Prop where
  standing : ∀ w ∈ k.standing, w.isTargeted = false
  underWay : ∀ w ∈ k.underWay, w.isTargeted = true
  timers : k.timers.IsSlot .syncSegments
  closed : k.closed = true → k.AtRest

end Desk

/-- The books of a client. -/
structure Ledger where
  /-- How many workers were made. -/
  made : Nat
  /-- Each worker that was told to stop, as often as it was told, the latest first. -/
  stops : List Worker
  /-- Whether the synchronizer was destroyed. -/
  ended : Bool
  /-- The desk of the flags, and then those of the identities. -/
  desks : List Desk
  /-- The workers that stand by for the pipelines. -/
  pipelines : List Worker
  bundles : List (Key × BundleId)
  /-- The manager, which the parts below it leave as it is. -/
  above : Manager.State

/-- The worker that a call tells to stop. -/
def Call.stop? : Call → Option Worker
  | .tell w .stop => some w
  | _ => none

/-- The workers that some calls tell to stop. -/
def stops (calls : List Call) : List Worker := calls.filterMap Call.stop?

/-- The desk of the flags. -/
def flagsDesk (st : FlagSync.State) : Desk where
  standing := st.mainWorker :: st.periodicWorker.toList
  underWay := st.catalog.entries.map (·.2)
  timers := {}
  closed := st.stopped

/-- The desk of an identity. -/
def segmentsDesk (st : SegmentSync.State) : Desk where
  standing := st.mainWorker :: st.periodicWorker.toList
  underWay := st.catalog.entries.map (·.2)
  timers := st.timers
  closed := st.destroyed

/-- The books of an ensemble. -/
def ledger (s : Ensemble) : Ledger where
  made := s.ground.made
  stops := stops s.ground.calls
  ended := s.synchronizer.destroyed
  desks := flagsDesk s.flags :: s.identities.map fun i => segmentsDesk i.segments
  pipelines := s.events.periodic :: s.tracker.crew.periodic
  bundles := s.registry.bundles
  above := s.manager

namespace Ledger

/-- The desk at a place; where there is none, that of nobody. -/
def desk (l : Ledger) (d : Nat) : Desk := l.desks[d]?.getD (segmentsDesk nobody.segments)

/-- Puts a desk at a place. -/
def put (l : Ledger) (d : Nat) (k : Desk) : Ledger := { l with desks := l.desks.set d k }

/-- The workers under way, desk by desk. -/
def inFlight (l : Ledger) : List Worker := l.desks.flatMap Desk.underWay

/-- How often a worker is booked: as told to stop, and as under way. -/
def charge (l : Ledger) (w : Worker) : Nat := l.stops.count w + l.inFlight.count w

/-- The pace of a program: whether it only closes things, or may let workers and timers go, or may also take on work. -/
inductive Pace where
  | closing
  | settling
  | working
  deriving DecidableEq

/-- What a part below the manager can do to the books. -/
inductive Step (p : Pace) (l : Ledger) : Ledger → Prop where
  /-- A worker that stands by is told to stop. -/
  | standDown (w : Worker) (stands : w ∈ l.pipelines ∨ ∃ d, w ∈ (l.desk d).standing) : Step p l { l with stops := w :: l.stops }
  /-- A desk is closed: its timers are cancelled, and what is under way is told to stop. -/
  | close (d : Nat) (opened : (l.desk d).closed = false) :
    Step p l
      { l.put d { l.desk d with underWay := [], timers := (l.desk d).timers.cancelAll, closed := true } with
        stops := (l.desk d).underWay.reverse ++ l.stops }
  /-- Some of what is under way is done. -/
  | letGo (calm : p ≠ .closing) (d : Nat) (rest : List Worker) (fewer : rest.Sublist (l.desk d).underWay) :
    Step p l (l.put d { l.desk d with underWay := rest })
  /-- A timer runs out. -/
  | ring (calm : p ≠ .closing) (d id : Nat) : Step p l (l.put d { l.desk d with timers := ((l.desk d).timers.wake id).2 })
  /-- A new worker is under way. -/
  | take (busy : p = .working) (d : Nat) (opened : (l.desk d).closed = false) (w : Worker) (targeted : w.isTargeted = true)
      (fresh : w.serial = l.made) :
    Step p l { l.put d { l.desk d with underWay := (l.desk d).underWay ++ [w] } with made := l.made + 1 }
  /-- A timer is set. -/
  | arm (busy : p = .working) (d : Nat) (opened : (l.desk d).closed = false) (now : Nat) (delay : Duration) :
    Step p l (l.put d { l.desk d with timers := ((l.desk d).timers.add .syncSegments now delay ()).2 })

/-- Nothing is under way at any desk, and no timer waits. -/
def IsAtRest (l : Ledger) : Prop := ∀ d, (l.desk d).AtRest

/-- What always holds of the books. -/
structure IsOrderly (l : Ledger) : Prop where
  pipelines : ∀ w ∈ l.pipelines, w.isTargeted = false
  desks : ∀ d, (l.desk d).IsOrderly
  /-- A worker for a target is booked once at most, and only if it was made. -/
  booked : ∀ w, w.isTargeted = true → l.charge w ≤ if w.serial < l.made then 1 else 0

/-- A desk that is not closed belongs to an identity that is registered, or to the one that is just about to go. -/
structure IsCovered (going : Option BundleId) (l : Ledger) : Prop where
  keys : (l.bundles.map Prod.fst).Nodup
  registered : ∀ b, (l.desk (b + 1)).closed = false → (∃ key, (key, b) ∈ l.bundles) ∨ going = some b

section Desks

variable {l : Ledger} {d : Nat} {k : Desk}

/-- After a desk was put at a place, any desk is the new one or as it was. -/
theorem desk_put (l : Ledger) (d : Nat) (k : Desk) (d' : Nat) :
    d' = d ∧ (l.put d k).desk d' = k ∨ (l.put d k).desk d' = l.desk d' := by
  unfold desk put
  by_cases same : d' = d
  · subst same
    by_cases there : d' < l.desks.length
    · left
      simp [there]
    · right
      rw [List.set_eq_of_length_le (Nat.le_of_not_lt there)]
  · right
    rw [List.getElem?_set_ne (Ne.symm same)]

/-- What holds of all desks and of the new one holds of all desks after it was put. -/
theorem forall_desk_put {P : Desk → Prop} (all : ∀ d, P (l.desk d)) (new : P k) (d' : Nat) : P ((l.put d k).desk d') := by
  rcases l.desk_put d k d' with ⟨-, put⟩ | kept
  · rw [put]
    exact new
  · rw [kept]
    exact all d'

/-- The desk of nobody is closed, so a desk that is open is there. -/
theorem lt_of_opened (opened : (l.desk d).closed = false) : d < l.desks.length := by
  refine Nat.lt_of_not_le fun gone => ?_
  rw [desk, List.getElem?_eq_none gone] at opened
  cases opened

/-- A desk that is open after a desk was put was open before, if the desk that was put was. -/
theorem opened_of_put {d' : Nat} (opened : ((l.put d' k).desk d).closed = false)
    (new : k.closed = false → (l.desk d').closed = false) : (l.desk d).closed = false := by
  rcases l.desk_put d' k d with ⟨rfl, put⟩ | old
  · rw [put] at opened
    exact new opened
  · rw [old] at opened
    exact opened

/-- Replacing one of some lists changes how often an item occurs in all of them by what it changes in that one. -/
theorem count_flatMap_set {α β : Type} [DecidableEq β] (f : α → List β) (a : α) (b : β) (items : List α) (i : Nat)
    (h : i < items.length) :
    ((items.set i a).flatMap f).count b + (f items[i]).count b = (items.flatMap f).count b + (f a).count b := by
  induction items generalizing i with
  | nil => cases h
  | cons x rest ih =>
    cases i with
    | zero =>
      simp only [List.set_cons_zero, List.flatMap_cons, List.count_append, List.getElem_cons_zero]
      omega
    | succ i =>
      have shifted := ih i (Nat.lt_of_succ_lt_succ h)
      simp only [List.set_cons_succ, List.flatMap_cons, List.count_append, List.getElem_cons_succ]
      omega

/-- Putting a desk that is there changes what is under way by what it changes at that desk. -/
theorem count_inFlight_put (there : d < l.desks.length) (k : Desk) (w : Worker) :
    (l.put d k).inFlight.count w + (l.desk d).underWay.count w = l.inFlight.count w + k.underWay.count w := by
  have held : l.desk d = l.desks[d] := by
    rw [desk, List.getElem?_eq_getElem there]
    rfl
  rw [held]
  exact count_flatMap_set Desk.underWay k w l.desks d there

/-- A desk at which no more is under way than before charges nobody more. -/
theorem charge_put_le (fewer : k.underWay.Sublist (l.desk d).underWay) (w : Worker) : (l.put d k).charge w ≤ l.charge w := by
  have same : (l.put d k).stops = l.stops := rfl
  unfold charge
  rw [same]
  by_cases there : d < l.desks.length
  · have moved := count_inFlight_put there k w
    have less := fewer.count_le w
    omega
  · have nowhere : l.put d k = l := by
      unfold put
      rw [List.set_eq_of_length_le (Nat.le_of_not_lt there)]
    exact Nat.le_of_eq (by rw [nowhere])

/-- What a desk's timers hold charges nobody. -/
theorem charge_put_timers_le (d : Nat) (timers : TimerTable Unit) (w : Worker) :
    (l.put d { l.desk d with timers }).charge w ≤ l.charge w :=
  charge_put_le (k := { l.desk d with timers }) (List.Sublist.refl _) w

end Desks

section Steps

variable {p : Pace} {l l' : Ledger}

/-- A worker that stands by is not made for a target. -/
theorem IsOrderly.untargeted (h : l.IsOrderly) {w : Worker} (stands : w ∈ l.pipelines ∨ ∃ d, w ∈ (l.desk d).standing) :
    w.isTargeted = false := by
  rcases stands with pipeline | ⟨d, standing⟩
  · exact h.pipelines w pipeline
  · exact (h.desks d).standing w standing

/-- Closing a desk moves what is under way to what was told to stop. -/
theorem charge_close (d : Nat) (opened : (l.desk d).closed = false) (timers : TimerTable Unit) (w : Worker) :
    Ledger.charge
      { l.put d { l.desk d with underWay := [], timers, closed := true } with
        stops := (l.desk d).underWay.reverse ++ l.stops } w = l.charge w := by
  have moved := count_inFlight_put (lt_of_opened opened) { l.desk d with underWay := [], timers, closed := true } w
  rw [List.count_nil, Nat.add_zero] at moved
  show ((l.desk d).underWay.reverse ++ l.stops).count w +
    (l.put d { l.desk d with underWay := [], timers, closed := true }).inFlight.count w = l.stops.count w + l.inFlight.count w
  rw [List.count_append, List.count_reverse]
  omega

/-- The order of the books has nothing to do with who is registered, with the end, or with the manager. -/
theorem IsOrderly.elsewhere (h : l.IsOrderly) (ended : Bool) (bundles : List (Key × BundleId)) (above : Manager.State) :
    Ledger.IsOrderly { l with ended, bundles, above } := ⟨h.pipelines, h.desks, h.booked⟩

/-- Whether desks are covered has nothing to do with the end or with the manager. -/
theorem IsCovered.elsewhere {going : Option BundleId} (h : l.IsCovered going) (ended : Bool) (above : Manager.State) :
    Ledger.IsCovered going { l with ended, above } := ⟨h.keys, h.registered⟩

/-- Telling a worker that stands by to stop charges no worker for a target. -/
theorem charge_standDown (h : l.IsOrderly) {w : Worker} (stands : w ∈ l.pipelines ∨ ∃ d, w ∈ (l.desk d).standing) {w' : Worker}
    (targeted : w'.isTargeted = true) : Ledger.charge { l with stops := w :: l.stops } w' = l.charge w' := by
  have other : w ≠ w' := by
    rintro rfl
    exact Bool.false_ne_true ((h.untargeted stands).symm.trans targeted)
  unfold charge
  rw [List.count_cons_of_ne other]
  rfl

/-- A worker that is new is charged for nothing. -/
theorem IsOrderly.charge_fresh (h : l.IsOrderly) {w : Worker} (targeted : w.isTargeted = true) (fresh : w.serial = l.made) :
    l.charge w = 0 := by
  have most := h.booked w targeted
  rw [fresh, if_neg (Nat.lt_irrefl _)] at most
  omega

/-- Every step keeps the books in order. -/
theorem Step.keeps (step : Step p l l') (h : l.IsOrderly) : l'.IsOrderly := by
  cases step with
  | standDown w stands =>
    refine ⟨h.pipelines, h.desks, fun w' targeted => ?_⟩
    rw [charge_standDown h stands targeted]
    exact h.booked w' targeted
  | close d opened =>
    have old := h.desks d
    have cancelled := old.timers.cancelAll
    have new : Desk.IsOrderly { l.desk d with underWay := [], timers := (l.desk d).timers.cancelAll, closed := true } :=
      ⟨old.standing, nofun, .free cancelled.1 cancelled.2, fun _ => ⟨rfl, cancelled.2⟩⟩
    refine ⟨h.pipelines, forall_desk_put h.desks new, fun w targeted => ?_⟩
    rw [charge_close d opened]
    exact h.booked w targeted
  | letGo calm d rest fewer =>
    have old := h.desks d
    have new : Desk.IsOrderly { l.desk d with underWay := rest } :=
      ⟨old.standing, fun w inside => old.underWay w (fewer.subset inside), old.timers,
        fun closed => (old.closed closed).letGo fewer⟩
    refine ⟨h.pipelines, forall_desk_put h.desks new, fun w targeted => ?_⟩
    exact Nat.le_trans (charge_put_le (k := { l.desk d with underWay := rest }) fewer w) (h.booked w targeted)
  | ring calm d id =>
    have old := h.desks d
    have new : Desk.IsOrderly { l.desk d with timers := ((l.desk d).timers.wake id).2 } :=
      ⟨old.standing, old.underWay, old.timers.wake id, fun closed => (old.closed closed).ring id⟩
    refine ⟨h.pipelines, forall_desk_put h.desks new, fun w targeted => ?_⟩
    exact Nat.le_trans (charge_put_timers_le d _ w) (h.booked w targeted)
  | take busy d opened w targeted fresh =>
    have old := h.desks d
    have new : Desk.IsOrderly { l.desk d with underWay := (l.desk d).underWay ++ [w] } := by
      refine ⟨old.standing, fun w' inside => ?_, old.timers, fun closed => (Bool.false_ne_true (opened.symm.trans closed)).elim⟩
      rcases List.mem_append.1 inside with before | last
      · exact old.underWay w' before
      · rw [List.mem_singleton.1 last]
        exact targeted
    refine ⟨h.pipelines, forall_desk_put h.desks new, fun w' targeted' => ?_⟩
    have moved := count_inFlight_put (lt_of_opened opened) { l.desk d with underWay := (l.desk d).underWay ++ [w] } w'
    have most := h.booked w' targeted'
    rw [List.count_append] at moved
    show l.stops.count w' + (l.put d _).inFlight.count w' ≤ if w'.serial < l.made + 1 then 1 else 0
    unfold charge at most
    by_cases same : w' = w
    · subst same
      -- no worker had this number, so the new one is booked here for the first time
      have none := h.charge_fresh targeted fresh
      unfold charge at none
      have once : [w'].count w' = 1 := by simp
      rw [fresh, if_pos (Nat.lt_succ_self _)]
      omega
    · have absent : [w].count w' = 0 := by
        rw [List.count_eq_zero, List.mem_singleton]
        exact same
      have bound : (if w'.serial < l.made then 1 else 0) ≤ if w'.serial < l.made + 1 then 1 else 0 := by
        split <;> split <;> omega
      omega
  | arm busy d opened now delay =>
    have old := h.desks d
    have new : Desk.IsOrderly { l.desk d with timers := ((l.desk d).timers.add .syncSegments now delay ()).2 } :=
      ⟨old.standing, old.underWay, old.timers.add now delay (),
        fun closed => (Bool.false_ne_true (opened.symm.trans closed)).elim⟩
    refine ⟨h.pipelines, forall_desk_put h.desks new, fun w targeted => ?_⟩
    exact Nat.le_trans (charge_put_timers_le d _ w) (h.booked w targeted)

/-- Where everything rests, it goes on to do so as long as no work is taken on. -/
theorem Step.rests (step : Step p l l') (calm : p ≠ .working) (h : l.IsAtRest) : l'.IsAtRest := by
  cases step with
  | standDown w stands => exact h
  | close d opened =>
    refine forall_desk_put h ⟨rfl, ?_⟩
    exact TimerTable.sleepers_cancelAll (h d).2
  | letGo _ d rest fewer => exact forall_desk_put h ((h d).letGo fewer)
  | ring _ d id => exact forall_desk_put h ((h d).ring id)
  | take busy d opened w targeted fresh => exact (calm busy).elim
  | arm busy d opened now delay => exact (calm busy).elim

/-- A step that only closes things leaves every worker for a target charged as it was. -/
theorem Step.charge_closing (step : Step .closing l l') (h : l.IsOrderly) {w : Worker} (targeted : w.isTargeted = true) :
    l'.charge w = l.charge w := by
  cases step with
  | standDown w' stands => exact charge_standDown h stands targeted
  | close d opened => exact charge_close d opened _ w
  | letGo calm d rest fewer => exact (calm rfl).elim
  | ring calm d id => exact (calm rfl).elim
  | take busy d opened w' targeted' fresh => cases busy
  | arm busy d opened now delay => cases busy

/-- Some workers that stand by are told to stop, one after the other. -/
theorem steps_standDown {told : List Worker} (stand : ∀ w ∈ told, w ∈ l.pipelines ∨ ∃ d, w ∈ (l.desk d).standing) :
    Relation.ReflTransGen (Step p) l { l with stops := told ++ l.stops } := by
  induction told with
  | nil => exact .refl
  | cons w rest ih =>
    have before := ih fun w' inside => stand w' (List.mem_cons_of_mem w inside)
    exact before.tail (.standDown w (stand w List.mem_cons_self))

/-- A desk is closed after some workers that stand by at it were told to stop. -/
theorem steps_close {d : Nat} (opened : (l.desk d).closed = false) {told : List Worker}
    (stand : ∀ w ∈ told, w ∈ (l.desk d).standing) :
    Relation.ReflTransGen (Step p) l
      { l.put d { l.desk d with underWay := [], timers := (l.desk d).timers.cancelAll, closed := true } with
        stops := (l.desk d).underWay.reverse ++ (told ++ l.stops) } := by
  have before := steps_standDown (p := p) fun w inside => .inr ⟨d, stand w inside⟩
  exact before.tail (.close (l := { l with stops := told ++ l.stops }) d opened)

/-- A step ends nothing, registers nobody, and leaves the manager alone. -/
theorem Step.fixed (step : Step p l l') : l'.ended = l.ended ∧ l'.bundles = l.bundles ∧ l'.above = l.above := by
  cases step <;> exact ⟨rfl, rfl, rfl⟩

/-- A step opens no desk. -/
theorem Step.closed (step : Step p l l') (d : Nat) (opened : (l'.desk d).closed = false) : (l.desk d).closed = false := by
  cases step with
  | standDown w stands => exact opened
  | close d' open' => exact opened_of_put opened nofun
  | letGo calm d' rest fewer => exact opened_of_put opened id
  | ring calm d' id' => exact opened_of_put opened id
  | take busy d' open' w targeted fresh => exact opened_of_put opened id
  | arm busy d' open' now delay => exact opened_of_put opened id

/-- A step uncovers no desk. -/
theorem Step.covered (step : Step p l l') {going : Option BundleId} (h : l.IsCovered going) : l'.IsCovered going := by
  have same := step.fixed.2.1
  refine ⟨same ▸ h.keys, fun b opened => ?_⟩
  rw [same]
  exact h.registered b (step.closed (b + 1) opened)

end Steps

end Ledger

end Ensemble

end FlagKeeper
