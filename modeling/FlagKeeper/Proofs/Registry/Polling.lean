import Mathlib.Data.List.Nodup
import FlagKeeper.Proofs.Registry.Scene

/-!
# Whom polling reaches

Polling is switched on and off for all identities at once, while identities come and go. One that is there is told when the switch
is turned; one that comes later learns of the switch only when it is brought up. The statement of this file says that the last word
a bundle has heard on polling still agrees with the switch, for every bundle that was brought up since it came.

An operation says at most one thing on polling to a bundle (`Operation.Starts`, `Operation.Ends`). A bundle that was last told to
poll is registered, and the switch is on (`polling_of_polled`). Which bundles were told, once they are registered and the switch is
on, can be read off what was done since they came (`polled_iff_broughtUp`).
-/

namespace FlagKeeper.Registry

/-- A registry whose bundles write down what they are asked to do, the latest ask first. -/
abbrev Book := Scene (List Ask) Unit

/-- A new registry after some operations, the latest first. -/
def after (loading : Outcome) : List Operation → Book
  | [] => { bundles := fun _ => [], loading, rest := () }
  | op :: past => (after loading past).take List.cons op

/-- What an ask says on polling, if it does. -/
def Ask.polling? : Ask → Option Bool
  | .segments .startPeriodic => some true
  | .segments .stopPeriodic => some false
  | _ => none

/-- The last word on polling. -/
def lastPolling (asked : List Ask) : Option Bool := asked.findSome? Ask.polling?

/-- What was done since the bundle of a key was registered, the latest first. -/
def since (key : Key) (ops : List Operation) : List Operation :=
  ops.takeWhile fun op =>
    match op with
    | .register k _ => k ≠ key
    | _ => true

/-- The bundle was never under two keys at once. -/
def Exclusive (loading : Outcome) (ops : List Operation) (bundle : BundleId) : Prop :=
  ∀ past, past <:+ ops → ∀ k k', (after loading past).state.bundles.lookup k = some bundle →
    (after loading past).state.bundles.lookup k' = some bundle → k = k'

/-- The bundles that were registered, the latest first. -/
def brought (ops : List Operation) : List BundleId :=
  ops.filterMap fun op =>
    match op with
    | .register _ bundle => some bundle
    | _ => none

/-! ## What one operation says on polling -/

/-- A bundle is registered. -/
def State.Has (st : State) (bundle : BundleId) : Prop := ∃ key, (key, bundle) ∈ st.bundles

namespace Operation

/-- An operation has a bundle polled. -/
def Starts (st : State) (bundle : BundleId) : Operation → Prop
  | .startSync key => st.polling = true ∧ st.bundles.lookup key = some bundle
  | .startPolling => st.Has bundle
  | _ => False

/-- An operation ends the polling of a bundle. -/
def Ends (st : State) (bundle : BundleId) : Operation → Prop
  | .register key _ => st.bundles.lookup key = some bundle
  | .unregister key => st.bundles.lookup key = some bundle
  | .stopPolling => st.Has bundle
  | .stop => st.Has bundle
  | _ => False

end Operation

section Asks

variable {st : State} {key : Key} {scope : Option String} {bundle : BundleId} {command told : SegmentSync.Command}

theorem mem_tellAsks :
    (bundle, .segments command) ∈ st.tellAsks scope told ↔
      told = command ∧ ∃ key, (key, bundle) ∈ st.bundles ∧ inScope scope key = true := by
  simp only [State.tellAsks, List.mem_map, List.mem_filter, Prod.mk.injEq, Ask.segments.injEq, Prod.exists]
  constructor
  · rintro ⟨key, b, ⟨there, inside⟩, rfl, same⟩
    exact ⟨same, key, there, inside⟩
  · rintro ⟨same, key, there, inside⟩
    exact ⟨key, bundle, ⟨there, inside⟩, rfl, same⟩

theorem mem_tellAsks_all : (bundle, .segments command) ∈ st.tellAsks none told ↔ told = command ∧ st.Has bundle := by
  simp [mem_tellAsks, inScope, State.Has]

theorem mem_tellKeyAsks :
    (bundle, .segments command) ∈ st.tellKeyAsks key told ↔ told = command ∧ st.bundles.lookup key = some bundle := by
  unfold State.tellKeyAsks
  cases st.bundles.lookup key with
  | none => simp
  | some held => simp [eq_comm, and_comm]

theorem mem_tearDownAsks {held : BundleId} :
    (bundle, .segments command) ∈ tearDownAsks key held ↔ held = bundle ∧ (command = .stopPeriodic ∨ command = .destroy) := by
  simp only [tearDownAsks, List.mem_cons, Prod.mk.injEq, Ask.segments.injEq, reduceCtorEq, and_false, List.not_mem_nil,
    or_false, ← and_or_left]
  rw [eq_comm]

theorem mem_tearDownAnyAsks :
    (bundle, .segments command) ∈ st.tearDownAnyAsks key ↔
      st.bundles.lookup key = some bundle ∧ (command = .stopPeriodic ∨ command = .destroy) := by
  unfold State.tearDownAnyAsks
  cases st.bundles.lookup key with
  | none => simp
  | some held => rw [mem_tearDownAsks, Option.some.injEq]

theorem mem_tearDownAllAsks :
    (bundle, .segments command) ∈ st.tearDownAllAsks ↔
      st.Has bundle ∧ (command = .stopPeriodic ∨ command = .destroy) := by
  simp only [State.tearDownAllAsks, List.mem_flatMap, mem_tearDownAsks, Prod.exists, State.Has]
  constructor
  · rintro ⟨key, held, there, rfl, ends⟩
    exact ⟨⟨key, there⟩, ends⟩
  · rintro ⟨⟨key, there⟩, ends⟩
    exact ⟨key, bundle, there, rfl, ends⟩

/-- An operation tells a bundle to poll exactly if it has the bundle polled. -/
theorem mem_asks_startPeriodic (op : Operation) :
    (bundle, .segments .startPeriodic) ∈ op.asks st ↔ op.Starts st bundle := by
  cases op with
  | startSync key =>
    cases polls : st.polling <;> simp [Operation.asks, Operation.Starts, mem_tellAsks, mem_tellKeyAsks, polls]
  | broadcast news scope => cases news <;> simp [Operation.asks, Operation.Starts, mem_tellAsks, Broadcast.command]
  | job j => cases j; simp [Operation.asks, Operation.Starts]
  | _ =>
    simp [Operation.asks, Operation.Starts, mem_tearDownAnyAsks, mem_tearDownAllAsks, mem_tellKeyAsks, mem_tellAsks_all]

/-- An operation tells a bundle not to poll exactly if it ends the polling of the bundle. -/
theorem mem_asks_stopPeriodic (op : Operation) :
    (bundle, .segments .stopPeriodic) ∈ op.asks st ↔ op.Ends st bundle := by
  cases op with
  | startSync key =>
    cases polls : st.polling <;> simp [Operation.asks, Operation.Ends, mem_tellAsks, mem_tellKeyAsks, polls]
  | broadcast news scope => cases news <;> simp [Operation.asks, Operation.Ends, mem_tellAsks, Broadcast.command]
  | job j => cases j; simp [Operation.asks, Operation.Ends]
  | _ => simp [Operation.asks, Operation.Ends, mem_tearDownAnyAsks, mem_tearDownAllAsks, mem_tellKeyAsks, mem_tellAsks_all]

end Asks

/-- No operation has a bundle polled and not. -/
theorem Operation.Starts.not_ends {st : State} {bundle : BundleId} {op : Operation} (starts : op.Starts st bundle) :
    ¬op.Ends st bundle := by
  cases op <;> simp [Starts, Ends] at *

/-- An operation puts a bundle under a key, or takes the key out. -/
def Operation.Displaces (key : Key) : Operation → Prop
  | .register k _ => k = key
  | .unregister k => k = key
  | .stop => True
  | _ => False

section Displaced

variable {st : State} {op : Operation} {key : Key} {bundle : BundleId}

/-- What looking a key up finds after an operation. -/
theorem lookup_next :
    (op.next st).bundles.lookup key = some bundle ↔
      op = .register key bundle ∨ st.bundles.lookup key = some bundle ∧ ¬op.Displaces key := by
  cases op with
  | register k b =>
    rw [Operation.next, Operation.Displaces]
    by_cases same : key = k
    · subst same
      simp [lookup_put_self]
    · simp [lookup_put_of_ne same, Ne.symm same]
  | unregister k =>
    rw [Operation.next, Operation.Displaces, lookup_filter_ne]
    by_cases same : key = k
    · simp [same]
    · simp [same, Ne.symm same]
  | stop => simp [Operation.next, Operation.Displaces]
  | _ => simp [Operation.next, Operation.Displaces]

/-- A bundle that is registered after an operation was registered by it, or was there before and the operation does not take it
away. -/
theorem held_of_next (held : (op.next st).bundles.lookup key = some bundle) :
    op = .register key bundle ∨
      st.bundles.lookup key = some bundle ∧ (∀ b, op ≠ .register key b) ∧ op ≠ .unregister key ∧ op ≠ .stop := by
  rcases lookup_next.1 held with same | ⟨there, spared⟩
  · exact .inl same
  · refine .inr ⟨there, ?_, ?_, ?_⟩
    · rintro b rfl
      exact spared rfl
    · rintro rfl
      exact spared rfl
    · rintro rfl
      exact spared trivial

end Displaced

/-! ## The last word -/

section Words

variable {tells : Ask → Option Bool} {asked said : List Ask}

/-- What was said last is the last word, if everything that was said agrees. -/
theorem lastWord_of_agreeing {word : Bool} (there : ∃ a ∈ said, tells a = some word) (agree : ∀ a ∈ said, tells a ≠ some !word) :
    (said.reverse ++ asked).findSome? tells = some word := by
  rw [List.findSome?_append]
  have found : (said.reverse.findSome? tells).isSome = true := by
    obtain ⟨a, inside, said⟩ := there
    rw [List.findSome?_isSome_iff]
    exact ⟨a, List.mem_reverse.2 inside, by rw [said]; rfl⟩
  obtain ⟨last, same⟩ := Option.isSome_iff_exists.1 found
  obtain ⟨a, inside, said⟩ := List.exists_of_findSome?_eq_some same
  have agrees := agree a (List.mem_reverse.1 inside)
  rw [same, Option.some_or]
  rw [said] at agrees
  cases last <;> cases word <;> simp_all

/-- Where nothing was said, the last word is what it was. -/
theorem lastWord_of_silence (silent : ∀ a ∈ said, tells a = none) :
    (said.reverse ++ asked).findSome? tells = asked.findSome? tells := by
  rw [List.findSome?_append, List.findSome?_eq_none_iff.2 fun a inside => silent a (List.mem_reverse.1 inside), Option.none_or]

end Words

theorem Ask.polling?_eq_some {a : Ask} {word : Bool} :
    a.polling? = some word ↔ a = .segments (if word then .startPeriodic else .stopPeriodic) := by
  unfold polling?
  split <;> cases word <;> simp_all

section Run

variable {loading : Outcome} {ops past : List Operation} {op : Operation} {key k : Key} {bundle : BundleId}

/-- No key has two bundles, whatever was done. -/
theorem once_after (loading : Outcome) (ops : List Operation) : (after loading ops).state.Once := by
  induction ops with
  | nil => exact List.nodup_nil
  | cons op past ih =>
    rw [after, Scene.take_eq ih]
    exact Operation.once_next ih op

theorem state_after_cons : (after loading (op :: past)).state = op.next (after loading past).state := by
  rw [after, Scene.take_eq (once_after loading past)]
  rfl

theorem bundles_after_cons :
    (after loading (op :: past)).bundles bundle =
      (saidTo bundle (op.asks (after loading past).state)).reverse ++ (after loading past).bundles bundle := by
  rw [after, Scene.take_eq (once_after loading past)]
  show (Scene.asked _ _ _).bundles bundle = _
  rw [Scene.bundles_asked, List.foldl_flip_cons_eq_append, List.map_id']

theorem brought_subset_cons : brought past ⊆ brought (op :: past) := by
  intro b inside
  cases op with
  | register k b' => exact List.mem_cons_of_mem _ inside
  | _ => exact inside

/-- Where each registration brings another bundle, each did so before. -/
theorem nodup_brought_of_suffix (fresh : (brought ops).Nodup) (suffix : past <:+ ops) : (brought past).Nodup :=
  fresh.sublist (suffix.filterMap _).sublist

/-- A bundle that a key has was registered under it. -/
theorem mem_of_held (held : (after loading ops).state.bundles.lookup key = some bundle) : .register key bundle ∈ ops := by
  induction ops with
  | nil => cases held
  | cons op past ih =>
    rw [state_after_cons] at held
    rcases held_of_next held with rfl | ⟨there, -⟩
    · exact List.mem_cons_self
    · exact List.mem_cons_of_mem _ (ih there)

/-- A bundle that was registered was brought. -/
theorem mem_brought (came : .register key bundle ∈ ops) : bundle ∈ brought ops := List.mem_filterMap.2 ⟨_, came, rfl⟩

/-- A bundle that was registered once was registered under one key. -/
theorem key_eq_of_once (once : (brought ops).count bundle = 1) (came : .register key bundle ∈ ops)
    (came' : .register k bundle ∈ ops) : k = key := by
  induction ops with
  | nil => cases came
  | cons op past ih =>
    by_cases now : ∃ k', op = .register k' bundle
    · obtain ⟨k', rfl⟩ := now
      have new : bundle ∉ brought past := by
        have counted : (brought past).count bundle + 1 = 1 := List.count_cons_self.symm.trans once
        exact List.count_eq_zero.1 (Nat.succ.inj counted)
      have its : ∀ {key}, .register key bundle ∈ .register k' bundle :: past → key = k' := by
        intro key inside
        rcases List.mem_cons.1 inside with same | before
        · cases same
          rfl
        · exact absurd (mem_brought before) new
      exact (its came').trans (its came).symm
    · have earlier : ∀ {key}, .register key bundle ∈ op :: past → .register key bundle ∈ past := by
        intro key inside
        rcases List.mem_cons.1 inside with same | before
        · exact absurd ⟨key, same.symm⟩ now
        · exact before
      refine ih ?_ (earlier came) (earlier came')
      cases op with
      | register k' b =>
        have other : b ≠ bundle := by
          rintro rfl
          exact now ⟨k', rfl⟩
        rw [← once]
        exact (List.count_cons_of_ne other).symm
      | _ => exact once

/-- A bundle that is registered was brought. -/
theorem brought_of_held (held : (after loading ops).state.bundles.lookup key = some bundle) : bundle ∈ brought ops :=
  mem_brought (mem_of_held held)

/-- Where each registration brings another bundle, no bundle is under two keys. -/
theorem one_key_of_fresh (fresh : (brought ops).Nodup) {k k' : Key}
    (here : (after loading ops).state.bundles.lookup k = some bundle)
    (there : (after loading ops).state.bundles.lookup k' = some bundle) : k = k' :=
  key_eq_of_once (List.count_eq_one_of_mem fresh (brought_of_held here)) (mem_of_held there) (mem_of_held here)

/-- Where each registration brings another bundle, each bundle belongs to one key at a time. -/
theorem exclusive_of_fresh (loading : Outcome) (fresh : (brought ops).Nodup) (bundle : BundleId) :
    Exclusive loading ops bundle := by
  intro past suffix k k' here there
  exact one_key_of_fresh (nodup_brought_of_suffix fresh suffix) here there

/-- An operation says to a bundle to poll if it has the bundle polled, and not to poll if it ends that. -/
theorem polling_asks (st : State) (op : Operation) (bundle : BundleId) (word : Bool) :
    (∃ a ∈ saidTo bundle (op.asks st), a.polling? = some word) ↔ if word then op.Starts st bundle else op.Ends st bundle := by
  simp only [Ask.polling?_eq_some, exists_eq_right, mem_saidTo]
  cases word with
  | true => exact mem_asks_startPeriodic op
  | false => exact mem_asks_stopPeriodic op

/-- A bundle polls after one more operation if the operation has it polled, or if it polled and the operation does not end that. -/
theorem polled_after_cons :
    lastPolling ((after loading (op :: past)).bundles bundle) = some true ↔
      op.Starts (after loading past).state bundle ∨
        ¬op.Ends (after loading past).state bundle ∧ lastPolling ((after loading past).bundles bundle) = some true := by
  have starting := polling_asks (after loading past).state op bundle true
  have ending := polling_asks (after loading past).state op bundle false
  rw [if_pos rfl] at starting
  rw [if_neg Bool.false_ne_true] at ending
  rw [bundles_after_cons]
  by_cases starts : op.Starts (after loading past).state bundle
  · refine iff_of_true (lastWord_of_agreeing (starting.2 starts) ?_) (.inl starts)
    intro a inside tells
    exact starts.not_ends (ending.1 ⟨a, inside, tells⟩)
  · by_cases ends : op.Ends (after loading past).state bundle
    · have ended : lastPolling ((saidTo bundle (op.asks (after loading past).state)).reverse ++
          (after loading past).bundles bundle) = some false := by
        refine lastWord_of_agreeing (ending.2 ends) ?_
        intro a inside tells
        exact starts (starting.1 ⟨a, inside, tells⟩)
      simp [ended, starts, ends]
    · have kept : lastPolling ((saidTo bundle (op.asks (after loading past).state)).reverse ++
          (after loading past).bundles bundle) = lastPolling ((after loading past).bundles bundle) := by
        refine lastWord_of_silence ?_
        intro a inside
        cases tells : a.polling? with
        | none => rfl
        | some word =>
          cases word with
          | true => exact absurd (starting.1 ⟨a, inside, tells⟩) starts
          | false => exact absurd (ending.1 ⟨a, inside, tells⟩) ends
      simp [kept, starts, ends]

/-- A bundle that was last told to poll is registered, and the switch is on. -/
theorem polling_of_polled (polled : lastPolling ((after loading ops).bundles bundle) = some true) :
    (after loading ops).state.polling = true ∧ ∃ key, (after loading ops).state.bundles.lookup key = some bundle := by
  induction ops with
  | nil => cases polled
  | cons op past ih =>
    have once := once_after loading past
    rw [state_after_cons]
    rcases polled_after_cons.1 polled with starts | ⟨stays, polled⟩
    · cases op with
      | startSync key => exact ⟨starts.1, key, starts.2⟩
      | startPolling =>
        obtain ⟨key, there⟩ := starts
        exact ⟨rfl, key, lookup_of_mem once there⟩
      | _ => cases starts
    · obtain ⟨on, key, held⟩ := ih polled
      cases op with
      | register k b =>
        have other : key ≠ k := by
          rintro rfl
          exact stays held
        exact ⟨on, key, (lookup_put_of_ne other).trans held⟩
      | unregister k =>
        have other : key ≠ k := by
          rintro rfl
          exact stays held
        exact ⟨on, key, by rw [Operation.next, lookup_filter_ne, if_neg other, held]⟩
      | startPolling => exact ⟨rfl, key, held⟩
      | stopPolling => exact absurd ⟨key, mem_of_lookup held⟩ stays
      | stop => exact absurd ⟨key, mem_of_lookup held⟩ stays
      | _ => exact ⟨on, key, held⟩

/-- A bundle was brought up since it came: by its own start, or with all others when the switch was turned on. -/
def BroughtUp (key : Key) (ops : List Operation) : Prop :=
  .startSync key ∈ since key ops ∨ .startPolling ∈ since key ops

theorem since_register : since key (.register key bundle :: past) = [] := by
  simp [since]

theorem since_cons (other : ∀ b, op ≠ .register key b) : since key (op :: past) = op :: since key past := by
  refine List.takeWhile_cons_of_pos ?_
  cases op with
  | register k b =>
    have ne : k ≠ key := by
      rintro rfl
      exact other b rfl
    simpa using ne
  | _ => rfl

theorem broughtUp_cons (other : ∀ b, op ≠ .register key b) :
    BroughtUp key (op :: past) ↔ op = .startSync key ∨ op = .startPolling ∨ BroughtUp key past := by
  unfold BroughtUp
  rw [since_cons other, List.mem_cons, List.mem_cons, eq_comm, @eq_comm _ _ op]
  exact or_or_or_comm.trans or_assoc

/-- A bundle that is registered polls exactly if the switch is on and it was brought up since it came. -/
theorem polled_iff_broughtUp (held : (after loading ops).state.bundles.lookup key = some bundle)
    (exclusive : Exclusive loading ops bundle) :
    lastPolling ((after loading ops).bundles bundle) = some true ↔
      (after loading ops).state.polling = true ∧ BroughtUp key ops := by
  induction ops with
  | nil => cases held
  | cons op past ih =>
    have now := exclusive _ List.suffix_rfl
    have before := exclusive past (List.suffix_cons op past)
    have ih := fun held => ih held fun earlier suffix => exclusive earlier (suffix.trans (List.suffix_cons op past))
    rw [polled_after_cons]
    rw [state_after_cons] at held now ⊢
    rcases held_of_next held with rfl | ⟨there, other, kept, going⟩
    · refine iff_of_false ?_ (by simp [BroughtUp, since_register])
      rintro (starts | ⟨stays, polled⟩)
      · exact starts
      · obtain ⟨-, k, elsewhere⟩ := polling_of_polled polled
        have ne : k ≠ key := by
          rintro rfl
          exact stays elsewhere
        exact ne (now _ _ ((lookup_put_of_ne ne).trans elsewhere) held)
    · have alone : ∀ k, (after loading past).state.bundles.lookup k = some bundle → k = key := fun k found =>
        before _ _ found there
      rw [broughtUp_cons other, ih there]
      cases op with
      | register k b =>
        have stays : (after loading past).state.bundles.lookup k ≠ some bundle := fun found => other b (by rw [alone k found])
        simp [Operation.Starts, Operation.Ends, Operation.next, stays]
      | unregister k =>
        have stays : (after loading past).state.bundles.lookup k ≠ some bundle := fun found => kept (by rw [alone k found])
        simp [Operation.Starts, Operation.Ends, Operation.next, stays]
      | startSync k =>
        have own : (after loading past).state.bundles.lookup k = some bundle ↔ k = key := by
          refine ⟨alone k, ?_⟩
          rintro rfl
          exact there
        simp only [Operation.Starts, Operation.Ends, Operation.next, own, Operation.startSync.injEq, not_false_eq_true,
          true_and, reduceCtorEq, false_or, and_or_left]
      | startPolling => exact iff_of_true (.inl ⟨key, mem_of_lookup there⟩) ⟨rfl, .inr (.inl rfl)⟩
      | stopPolling =>
        refine iff_of_false ?_ fun up => Bool.false_ne_true up.1
        rintro (starts | ⟨stays, -⟩)
        · exact starts
        · exact stays ⟨key, mem_of_lookup there⟩
      | stop => exact absurd rfl going
      | _ => simp [Operation.Starts, Operation.Ends, Operation.next]

end Run

/-- Whatever was done to a registry, in any order: for a bundle that is registered and was brought up by its own start since it
was registered, the last word that its segment synchronizer heard on polling is to poll exactly if the switch is on.

`Exclusive` is a condition on the host, which never has one bundle under two keys at once. It is needed: a bundle is torn down when a key
loses it, so under a second key it would be registered and brought up, and not poll although the switch is on, as in the example below. -/
theorem polled_iff_polling (loading : Outcome) (ops : List Operation) (key : Key) (bundle : BundleId)
    (held : (after loading ops).state.bundles.lookup key = some bundle) (exclusive : Exclusive loading ops bundle)
    (started : .startSync key ∈ since key ops) :
    lastPolling ((after loading ops).bundles bundle) = some true ↔ (after loading ops).state.polling = true := by
  rw [polled_iff_broughtUp held exclusive]
  exact and_iff_left (.inl started)

/-- A bundle that took the place of another, was brought up, and saw polling begin. -/
theorem polled_iff_polling_replaced :
    (after (.ok ()) [.startPolling, .startSync ⟨"key", none⟩, .register ⟨"key", none⟩ 1,
      .register ⟨"key", none⟩ 0]).state.bundles.lookup ⟨"key", none⟩ = some 1 ∧
    Exclusive (.ok ()) [.startPolling, .startSync ⟨"key", none⟩, .register ⟨"key", none⟩ 1, .register ⟨"key", none⟩ 0] 1 ∧
    .startSync ⟨"key", none⟩ ∈ since ⟨"key", none⟩ [.startPolling, .startSync ⟨"key", none⟩, .register ⟨"key", none⟩ 1,
      .register ⟨"key", none⟩ 0] ∧
    lastPolling ((after (.ok ()) [.startPolling, .startSync ⟨"key", none⟩, .register ⟨"key", none⟩ 1,
      .register ⟨"key", none⟩ 0]).bundles 1) = some true := by
  have held : (after (.ok ()) [.startPolling, .startSync ⟨"key", none⟩, .register ⟨"key", none⟩ 1,
      .register ⟨"key", none⟩ 0]).state.bundles.lookup ⟨"key", none⟩ = some 1 := by decide +kernel
  have exclusive : Exclusive (.ok ()) [.startPolling, .startSync ⟨"key", none⟩, .register ⟨"key", none⟩ 1,
      .register ⟨"key", none⟩ 0] 1 := exclusive_of_fresh _ (by decide) 1
  have started : .startSync ⟨"key", none⟩ ∈ since ⟨"key", none⟩ [.startPolling, .startSync ⟨"key", none⟩,
      .register ⟨"key", none⟩ 1, .register ⟨"key", none⟩ 0] := .tail _ (.head _)
  refine ⟨held, exclusive, started, ?_⟩
  exact (polled_iff_polling (.ok ()) _ ⟨"key", none⟩ 1 held exclusive started).2 rfl

/-- A bundle under two keys is torn down when one of them goes, and does not poll under the other. -/
example : lastPolling ((after (.ok ())
    [.unregister ⟨"b", none⟩, .startSync ⟨"a", none⟩, .register ⟨"b", none⟩ 0, .register ⟨"a", none⟩ 0,
      .startPolling]).bundles 0) = some false := by
  decide +kernel

end FlagKeeper.Registry
