import FlagKeeper.Proofs.Identities.Scene

/-!
# Identities that come during a pause

A pause is to still every periodic worker of a client. The statement of this file says which workers of identities it stills and
which it does not (`paused_identities`): one that was told of the pause is still, however many others come and go meanwhile, and
one that was not goes by polling alone. So where polling is on, an identity that comes during the pause fetches as soon as it is
brought up (`latecomer_fetches`): that identities to come are to be polled is kept, that they are to be paused is not.

The registry is read as a list of operations (`Setup.follows`); what an identity was asked, and what its worker was told, follow
from those done since the identity came.
-/

namespace FlagKeeper

open Registry (Ask Operation since brought)

/-- What an order says on running, if it does. -/
def WorkerOrder.running? : WorkerOrder → Option Bool
  | .start => some true
  | .stop => some false
  | _ => none

/-- What an order says on pausing, if it does. -/
def WorkerOrder.pausing? : WorkerOrder → Option Bool
  | .pause => some true
  | .resume => some false
  | _ => none

/-- What an ask says on polling is what the order says on running that it passes on. -/
theorem Registry.Ask.running?_order? (a : Ask) : a.order?.bind WorkerOrder.running? = a.polling? := by
  cases a with
  | segments command => cases command <;> rfl
  | _ => rfl

/-- What an ask says on pausing is what the order says that it passes on. -/
theorem Registry.Ask.pausing?_order? (a : Ask) : a.order?.bind WorkerOrder.pausing? = a.pausing? := by
  cases a with
  | segments command => cases command <;> rfl
  | _ => rfl

namespace Identities

/-- The periodic worker of an identity fetches: of the orders to start and to stop the last was to start, and of those to pause
and to resume the last was not to pause. -/
def Identity.Fetches (i : Identity) : Prop :=
  i.segments.orders.findSome? WorkerOrder.running? = some true ∧ i.segments.orders.findSome? WorkerOrder.pausing? ≠ some true

instance (i : Identity) : Decidable i.Fetches := inferInstanceAs (Decidable (_ ∧ _))

/-- The worker of an identity fetches if there is one and the last words that the identity has heard were to poll, and not to
pause. -/
theorem PassedOn.fetches_iff {v : SegmentSync.Setup} {i : Identity} (h : PassedOn v i) :
    i.Fetches ↔ v.syncEnabled = true ∧ Registry.lastPolling i.asked = some true ∧ Registry.lastPausing i.asked ≠ some true := by
  have lastOrdered (tells : WorkerOrder → Option Bool) :
      i.ordered.findSome? tells = i.asked.findSome? fun a => a.order?.bind tells := by
    rw [Identity.ordered, ← List.head?_filterMap, List.filterMap_filterMap, List.head?_filterMap]
  have running : i.ordered.findSome? WorkerOrder.running? = Registry.lastPolling i.asked := by
    rw [lastOrdered, Registry.lastPolling, funext Ask.running?_order?]
  have pausing : i.ordered.findSome? WorkerOrder.pausing? = Registry.lastPausing i.asked := by
    rw [lastOrdered, Registry.lastPausing, funext Ask.pausing?_order?]
  rw [Identity.Fetches, h.orders]
  cases v.syncEnabled with
  | false => simp
  | true => simp only [if_true, running, pausing, true_and]

section Run

variable (u : Setup) {inputs later past : List Input} {key : Key} {bundle : BundleId}

/-- A registered identity fetches exactly if it has a worker, polling is on, it was brought up since it came, and the last word on
pausing since then, if there was any, is to resume. -/
theorem Setup.fetches_iff (held : (u.after inputs).state.bundles.lookup key = some bundle) :
    ((u.after inputs).bundles bundle).Fetches ↔
      (u.identities bundle).syncEnabled = true ∧ (u.after inputs).state.polling = true ∧
        Registry.BroughtUp key (u.operations inputs) ∧
        (since key (u.operations inputs)).findSome? Operation.pausing? ≠ some true := by
  have follows := u.follows inputs
  rw [follows.state] at held ⊢
  have spared : .segments .destroy ∉ ((u.after inputs).bundles bundle).asked := by
    rw [follows.asked]
    exact Registry.not_ended_of_held follows.fresh held
  rw [((follows.loyal bundle).passedOn spared).fetches_iff, follows.asked,
    Registry.polled_iff_broughtUp held (Registry.exclusive_of_fresh u.loading follows.fresh bundle),
    Registry.lastPausing_of_held follows.fresh held, and_assoc]

/-- A pause while the synchronizer is not destroyed is an operation, and none after it is to resume unless that is asked for. -/
theorem Setup.operations_of_paused (alive : (u.after past).rest.synchronizer.destroyed = false)
    (unresumed : .tell .resume ∉ later) :
    ∃ ops, u.operations (later ++ .tell .pause :: past) = ops ++ .pause :: u.operations past ∧ .resume ∉ ops := by
  induction later with
  | nil =>
    refine ⟨[], ?_, List.not_mem_nil⟩
    simp [Setup.operations, Setup.operation?, Synchronizer.Command.operation?, alive]
  | cons i later ih =>
    obtain ⟨ops, same, resumed⟩ := ih fun inside => unresumed (List.mem_cons_of_mem _ inside)
    refine ⟨(u.operation? (u.after (later ++ .tell .pause :: past)) i).toList ++ ops, ?_, ?_⟩
    · rw [List.cons_append, Setup.operations, same, List.append_assoc]
    · rw [List.mem_append, Option.mem_toList]
      rintro (now | before)
      · cases i with
        | tell command =>
          cases command <;> simp [Setup.operation?, Synchronizer.Command.operation?] at now
          exact unresumed List.mem_cons_self
        | _ => cases now
      · exact resumed before

end Run

/-- Whatever happens after a pause of a synchronizer that is not destroyed, until it is asked to resume:

1. an identity that was registered at the pause, and still is, does not fetch;
2. a registered identity fetches exactly if it has a worker, polling is on, and since it came it was brought up and there was no
   pause. -/
theorem paused_identities (u : Setup) (past later : List Input) (alive : (u.after past).rest.synchronizer.destroyed = false)
    (unresumed : .tell .resume ∉ later) (key : Key) (bundle : BundleId)
    (held : (u.after (later ++ .tell .pause :: past)).state.bundles.lookup key = some bundle) :
    ((∃ before, (u.after past).state.bundles.lookup before = some bundle) →
      ¬((u.after (later ++ .tell .pause :: past)).bundles bundle).Fetches) ∧
    (((u.after (later ++ .tell .pause :: past)).bundles bundle).Fetches ↔
      (u.identities bundle).syncEnabled = true ∧ (u.after (later ++ .tell .pause :: past)).state.polling = true ∧
        Registry.BroughtUp key (u.operations (later ++ .tell .pause :: past)) ∧
        .pause ∉ since key (u.operations (later ++ .tell .pause :: past))) := by
  obtain ⟨ops, split, resumed⟩ := u.operations_of_paused alive unresumed
  have exact_condition := u.fetches_iff held
  rw [split, ne_eq, Registry.pausing_since_of_paused resumed] at exact_condition
  rw [split]
  refine ⟨?_, exact_condition⟩
  rintro ⟨before, there⟩ fetches
  have follows := u.follows (later ++ .tell .pause :: past)
  have fresh := follows.fresh
  rw [follows.state] at held
  rw [split] at fresh held
  rw [(u.follows past).state] at there
  exact (exact_condition.1 fetches).2.2.2 (Registry.pause_mem_since fresh (Registry.brought_of_held there) held)

/-- A client to which identities with these matching keys come. -/
def Setup.named (matching : BundleId → String) : Setup where
  consent := .granted
  loading := .ok ()
  identities b := { SegmentSync.Setup.standard with key := ⟨matching b, none⟩ }

/-- An early identity comes, and only late ones after it. -/
def Setup.duo : Setup := .named fun b => if b = 0 then "early" else "late"

/-- An identity comes and is brought up. -/
def arrival (matching : String) : List Input := [.tell (.startKey ⟨matching, none⟩), .register]

/-- Of an identity that was there at a pause and one that came after it and was brought up, the second fetches alone. -/
theorem paused_identities_duo :
    (Setup.duo.after (.tell .startFetching :: arrival "early")).rest.synchronizer.destroyed = false ∧
    .tell .resume ∉ arrival "late" ∧
    (Setup.duo.after (arrival "late" ++ .tell .pause :: .tell .startFetching :: arrival "early")).state.bundles =
      [(⟨"early", none⟩, 0), (⟨"late", none⟩, 1)] ∧
    ¬((Setup.duo.after (arrival "late" ++ .tell .pause :: .tell .startFetching :: arrival "early")).bundles 0).Fetches ∧
    ((Setup.duo.after (arrival "late" ++ .tell .pause :: .tell .startFetching :: arrival "early")).bundles 1).Fetches := by
  have alive : (Setup.duo.after (.tell .startFetching :: arrival "early")).rest.synchronizer.destroyed = false := by
    decide +kernel
  have unresumed : .tell .resume ∉ arrival "late" := by simp [arrival]
  have there : (Setup.duo.after (arrival "late" ++ .tell .pause :: .tell .startFetching :: arrival "early")).state.bundles =
      [(⟨"early", none⟩, 0), (⟨"late", none⟩, 1)] := by decide +kernel
  have since_late : since ⟨"late", none⟩
      (Setup.duo.operations (arrival "late" ++ .tell .pause :: .tell .startFetching :: arrival "early")) =
        [.startSync ⟨"late", none⟩] := rfl
  have both := paused_identities Setup.duo (.tell .startFetching :: arrival "early") (arrival "late") alive unresumed
  refine ⟨alive, unresumed, there, ?_, ?_⟩
  · refine (both ⟨"early", none⟩ 0 ?_).1 ⟨⟨"early", none⟩, by decide +kernel⟩
    rw [there]
    decide
  · refine (both ⟨"late", none⟩ 1 ?_).2.2 ⟨rfl, by decide +kernel, .inl ?_, ?_⟩
    · rw [there]
      decide
    · rw [since_late]
      exact List.mem_cons_self
    · rw [since_late]
      simp

/-- An identity comes during a pause: it is registered, and fetches as soon as it is brought up. -/
theorem latecomer_fetches :
    ((Setup.named fun _ => "late").after [.tell .startFetching]).rest.synchronizer.destroyed = false ∧
    .tell .resume ∉ arrival "late" ∧
    ((Setup.named fun _ => "late").after (arrival "late" ++ .tell .pause :: [.tell .startFetching])).state.bundles.lookup
      ⟨"late", none⟩ = some 0 ∧
    (((Setup.named fun _ => "late").after (arrival "late" ++ .tell .pause :: [.tell .startFetching])).bundles 0).Fetches :=
  ⟨by decide +kernel, by simp [arrival], by decide +kernel, by decide +kernel⟩

end Identities

end FlagKeeper
