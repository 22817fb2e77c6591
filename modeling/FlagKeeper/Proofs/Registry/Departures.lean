import FlagKeeper.Proofs.Registry.Membership

/-!
# Bundles that leave

A bundle leaves the registry when its key is registered again or unregistered, or when everything stops. The statement of this file
(`torn_down_once`) says that it is torn down then and at no other time: its tear-down is four asks one right after the other, and
of what only a tear-down asks it hears nothing else before or after. Where nothing is done but to register, to unregister and to
stop, a bundle hears nothing else at all.

It is followed through a run in two parts. An operation that displaces no key of a bundle asks nothing of the kind (`aside_said`); one
that displaces its only key asks for the tear-down (`saidTo_of_displaces`).
-/

namespace FlagKeeper.Registry

/-- What is only asked of a bundle that is torn down. -/
def Ask.Ends : Ask → Prop
  | .segments .destroy => True
  | .destroyAttributes _ => True
  | .stopSignals => True
  | _ => False

/-- Asks that come with some operations and tear nothing down: none of them ends anything, and there are none if the operations only
let bundles come and go. -/
structure Aside (ops : List Operation) (asks : List Ask) : Prop where
  goes_on : ∀ a ∈ asks, ¬a.Ends
  silent : (∀ op ∈ ops, op.IsPassage) → asks = []

namespace Aside

variable {ops : List Operation} {asks later : List Ask}

theorem nil : Aside ops [] := ⟨List.forall_mem_nil _, fun _ => rfl⟩

theorem append (h : Aside ops asks) (h' : Aside ops later) : Aside ops (asks ++ later) := by
  refine ⟨fun a inside => ?_, fun passages => ?_⟩
  · rcases List.mem_append.1 inside with first | second
    · exact h.goes_on a first
    · exact h'.goes_on a second
  · rw [h.silent passages, h'.silent passages, List.append_nil]

theorem reverse (h : Aside ops asks) : Aside ops asks.reverse := by
  refine ⟨fun a inside => h.goes_on a (List.mem_reverse.1 inside), fun passages => ?_⟩
  rw [h.silent passages, List.reverse_nil]

/-- With more operations. -/
theorem mono {more : List Operation} (h : Aside ops asks) (within : ops ⊆ more) : Aside more asks :=
  ⟨h.goes_on, fun passages => h.silent fun op inside => passages op (within inside)⟩

/-- Asks that end nothing, at an operation that does not only let bundles come or go. -/
theorem of_stay {op : Operation} (stays : ¬op.IsPassage) (goes_on : ∀ a ∈ asks, ¬a.Ends) : Aside [op] asks :=
  ⟨goes_on, fun passages => absurd (passages op List.mem_cons_self) stays⟩

end Aside

/-! ## What one operation asks of a bundle -/

section Said

variable {st : State} {key : Key} {bundle : BundleId} {op : Operation}

/-- Orders to segment synchronizers end nothing, but for the one that does. -/
theorem goes_on_of_segments {asks : List Ask}
    (ordered : ∀ a ∈ asks, ∃ command, a = .segments command ∧ command ≠ .destroy) : ∀ a ∈ asks, ¬a.Ends := by
  intro a inside
  obtain ⟨command, rfl, other⟩ := ordered a inside
  cases command with
  | destroy => exact absurd rfl other
  | _ => exact id

theorem goes_on_tellAsks {scope : Option String} {command : SegmentSync.Command} (other : command ≠ .destroy) :
    ∀ a ∈ saidTo bundle (st.tellAsks scope command), ¬a.Ends := by
  rw [saidTo_tellAsks]
  refine goes_on_of_segments fun a inside => ?_
  obtain ⟨-, -, rfl⟩ := List.mem_map.1 inside
  exact ⟨command, rfl, other⟩

theorem goes_on_tellKeyAsks {command : SegmentSync.Command} (other : command ≠ .destroy) :
    ∀ a ∈ saidTo bundle (st.tellKeyAsks key command), ¬a.Ends := by
  rw [saidTo_tellKeyAsks]
  refine goes_on_of_segments fun a inside => ?_
  split at inside
  · exact ⟨command, List.mem_singleton.1 inside, other⟩
  · cases inside

/-- An operation that displaces no key of a bundle tears nothing of it down. -/
theorem aside_said (once : st.Once) (kept : ∀ key, st.bundles.lookup key = some bundle → ¬op.Displaces key) :
    Aside [op] (saidTo bundle (op.asks st)) := by
  have spared {key : Key} (displaced : op.Displaces key) (asks : op.asks st = st.tearDownAnyAsks key) :
      Aside [op] (saidTo bundle (op.asks st)) := by
    rw [asks, saidTo_tearDownAnyAsks, if_neg fun found => kept key found displaced]
    exact .nil
  cases op with
  | register key b => exact spared rfl rfl
  | unregister key => exact spared rfl rfl
  | stop =>
    have none : st.keysOf bundle = [] :=
      List.eq_nil_iff_forall_not_mem.2 fun key inside => kept key ((mem_keysOf once).1 inside) trivial
    rw [Operation.asks, saidTo_tearDownAllAsks, none]
    exact .nil
  | startSync key =>
    refine .of_stay id ?_
    rw [Operation.asks, saidTo_append, saidTo_append]
    intro a inside
    rcases List.mem_append.1 inside with first | last
    · rcases List.mem_append.1 first with load | refresh
      · exact goes_on_tellAsks (by simp) a load
      · exact goes_on_tellKeyAsks (by simp) a refresh
    · split at last
      · exact goes_on_tellKeyAsks (by simp) a last
      · cases last
  | syncKey key => exact .of_stay id (goes_on_tellKeyAsks (by simp))
  | broadcast news scope => exact .of_stay id (goes_on_tellAsks (by cases news <;> simp [Broadcast.command]))
  | loadAttributes scope => exact .of_stay id fun _ inside => by cases inside
  | job j =>
    refine .of_stay id fun a inside => ?_
    rcases j with ⟨matching, b⟩
    have asked := mem_saidTo.1 inside
    simp only [Operation.asks, List.mem_cons, List.not_mem_nil, or_false, Prod.mk.injEq] at asked
    rcases asked with ⟨-, rfl⟩ | ⟨-, rfl⟩ <;> exact id
  | _ => exact .of_stay id (goes_on_tellAsks (by simp))

/-- An operation that displaces the only key of a bundle tears the bundle down. -/
theorem saidTo_of_displaces (only : st.keysOf bundle = [key]) (held : st.bundles.lookup key = some bundle)
    (displaced : op.Displaces key) : saidTo bundle (op.asks st) = parting key := by
  cases op with
  | register k b =>
    cases displaced
    rw [Operation.asks, saidTo_tearDownAnyAsks, if_pos held]
  | unregister k =>
    cases displaced
    rw [Operation.asks, saidTo_tearDownAnyAsks, if_pos held]
  | stop => rw [Operation.asks, saidTo_tearDownAllAsks, only, List.flatMap_singleton]
  | _ => cases displaced

end Said

/-! ## What a bundle has heard -/

section Run

variable {loading : Outcome} {ops past : List Operation} {op : Operation} {key : Key} {bundle : BundleId}

/-- A bundle that was not brought yet was not torn down. -/
theorem aside_of_new (new : bundle ∉ brought ops) : Aside ops ((after loading ops).bundles bundle) := by
  induction ops with
  | nil => exact .nil
  | cons op past ih =>
    have earlier : bundle ∉ brought past := fun inside => new (brought_subset_cons inside)
    have said : Aside [op] (saidTo bundle (op.asks (after loading past).state)) :=
      aside_said (once_after loading past) fun key held => absurd (brought_of_held held) earlier
    rw [bundles_after_cons]
    exact (said.mono (by simp)).reverse.append ((ih earlier).mono (List.subset_cons_self op past))

/-- A bundle that was registered once was not torn down as long as it is registered, and torn down once if it is not. -/
theorem heard_of_once (loading : Outcome) (came : .register key bundle ∈ ops) (once : (brought ops).count bundle = 1) :
    (Registered ops key bundle → Aside ops ((after loading ops).bundles bundle)) ∧
    (¬Registered ops key bundle → ∃ earlier later,
      ((after loading ops).bundles bundle).reverse = earlier ++ parting key ++ later ∧ Aside ops (earlier ++ later)) := by
  induction ops with
  | nil => cases came
  | cons op past ih =>
    have unique := once_after loading past
    have wider : past ⊆ op :: past := List.subset_cons_self op past
    rw [bundles_after_cons, registered_cons]
    by_cases now : op = .register key bundle
    · subst now
      have counted : (brought past).count bundle + 1 = 1 := List.count_cons_self.symm.trans once
      have new : bundle ∉ brought past := List.count_eq_zero.1 (Nat.succ.inj counted)
      have said : Aside [_] (saidTo bundle (Operation.asks (after loading past).state (.register key bundle))) :=
        aside_said unique fun k held => absurd (brought_of_held held) new
      refine ⟨fun _ => ?_, fun gone => absurd (.inl rfl) gone⟩
      exact (said.mono (by simp)).reverse.append ((aside_of_new new).mono wider)
    · have before : .register key bundle ∈ past := (List.mem_cons.1 came).resolve_left (Ne.symm now)
      have onceBefore : (brought past).count bundle = 1 := by
        refine le_antisymm ?_ (List.count_pos_iff.2 (mem_brought before))
        have sub : (brought past).Sublist (brought (op :: past)) := (List.sublist_cons_self op past).filterMap _
        exact (sub.count_le bundle).trans_eq once
      have its : ∀ k, (after loading past).state.bundles.lookup k = some bundle → k = key := fun k held =>
        key_eq_of_once onceBefore before (lookup_iff_registered.1 held).mem
      obtain ⟨staying, leaving⟩ := ih before onceBefore
      rw [or_iff_right now]
      by_cases held : Registered past key bundle
      · have found : (after loading past).state.bundles.lookup key = some bundle := lookup_iff_registered.2 held
        have quiet := staying held
        by_cases displaced : op.Displaces key
        · have only : (after loading past).state.keysOf bundle = [key] := by
            refine List.perm_singleton.1 ?_
            refine (List.perm_ext_iff_of_nodup (nodup_keysOf unique) (List.nodup_singleton key)).2 fun k => ?_
            rw [mem_keysOf unique, List.mem_singleton]
            exact ⟨its k, fun same => same ▸ found⟩
          refine ⟨fun stays => absurd displaced stays.2, fun _ => ?_⟩
          refine ⟨((after loading past).bundles bundle).reverse, [], ?_, ?_⟩
          · rw [saidTo_of_displaces only found displaced, List.reverse_append, List.reverse_reverse, List.append_nil]
          · rw [List.append_nil]
            exact (quiet.mono wider).reverse
        · have said : Aside [op] (saidTo bundle (op.asks (after loading past).state)) :=
            aside_said unique fun k there => its k there ▸ displaced
          refine ⟨fun _ => ?_, fun gone => absurd ⟨held, displaced⟩ gone⟩
          exact (said.mono (by simp)).reverse.append (quiet.mono wider)
      · obtain ⟨earlier, later, heard, quiet⟩ := leaving held
        have said : Aside [op] (saidTo bundle (op.asks (after loading past).state)) :=
          aside_said unique fun k there => absurd (its k there ▸ lookup_iff_registered.1 there) held
        refine ⟨fun stays => absurd stays.1 held, fun _ => ?_⟩
        refine ⟨earlier, later ++ saidTo bundle (op.asks (after loading past).state), ?_, ?_⟩
        · rw [List.reverse_append, List.reverse_reverse, heard, List.append_assoc]
        · rw [← List.append_assoc]
          exact (quiet.mono wider).append (said.mono (by simp))

end Run

/-! ## What the registry answers -/

section Answers

variable {loading : Outcome} {ops : List Operation} {key : Key}

/-- As many keys are registered as there are entries. -/
theorem ncard_registered (loading : Outcome) (ops : List Operation) :
    {key | ∃ bundle, Registered ops key bundle}.ncard = (after loading ops).state.bundles.length := by
  have once := once_after loading ops
  have all (key : Key) : key ∈ (after loading ops).state.bundles.map Prod.fst ↔ ∃ bundle, Registered ops key bundle := by
    rw [List.mem_map]
    constructor
    · rintro ⟨⟨_, bundle⟩, inside, rfl⟩
      exact ⟨bundle, lookup_iff_registered.1 (lookup_of_mem once inside)⟩
    · rintro ⟨bundle, held⟩
      exact ⟨_, mem_of_lookup (lookup_iff_registered.2 held), rfl⟩
  rw [ncard_keys once all, List.length_map]

/-- The bundle of a key is unregistered, if there is one. -/
theorem run_unregister_eq :
    ((plain List.cons).unregister key).run (after loading ops) =
      match (after loading ops).state.bundles.lookup key with
      | some _ => (some (after loading (.unregister key :: ops)).state.bundles.length, after loading (.unregister key :: ops))
      | none => (none, after loading (.unregister key :: ops)) := by
  have taken : after loading (.unregister key :: ops) =
      (((plain List.cons).unregister key).run (after loading ops)).2 := rfl
  rw [taken]
  unfold unregister
  rw [run_bind, run_remove]
  cases (after loading ops).state.bundles.lookup key <;> rfl

theorem run_unregister_of_registered {bundle : BundleId} (held : Registered ops key bundle) :
    ((plain List.cons).unregister key).run (after loading ops) =
      (some {k | ∃ b, Registered (.unregister key :: ops) k b}.ncard, after loading (.unregister key :: ops)) := by
  rw [run_unregister_eq, lookup_iff_registered.2 held, ncard_registered loading]

/-- A key that is not registered can not be unregistered. -/
theorem run_unregister_of_absent (absent : ¬∃ bundle, Registered ops key bundle) :
    ((plain List.cons).unregister key).run (after loading ops) = (none, after loading ops) := by
  have none : (after loading ops).state.bundles.lookup key = none :=
    Option.eq_none_iff_forall_ne_some.2 fun bundle found => absent ⟨bundle, lookup_iff_registered.1 found⟩
  unfold unregister
  rw [run_bind, run_remove, none]
  have same : (Operation.unregister key).next (after loading ops).state = (after loading ops).state := by
    have all : (after loading ops).state.bundles.filter (fun entry => entry.1 ≠ key) = (after loading ops).state.bundles := by
      refine List.filter_eq_self.2 fun entry inside => decide_eq_true ?_
      rintro rfl
      rw [lookup_of_mem (once_after loading ops) inside] at none
      cases none
    rw [Operation.next, all]
  rw [same]
  rfl

end Answers

/-- Whatever was done to a registry:

1. a bundle that was registered once, under a key, has heard nothing of a tear-down while the key has it; if the key has it no more,
   for it was replaced, unregistered or removed with all others, it has heard one whole tear-down, for its own matching key, and
   nothing else that only a tear-down asks; and where nothing was done but to register, to unregister and to stop, it has heard
   nothing at all in the first case, and the tear-down alone in the second;
2. looking a key up finds the bundle that was registered under it last, unless the key was displaced since;
3. to unregister a registered key answers how many keys are registered then;
4. to unregister another key answers nothing and changes nothing. -/
theorem torn_down_once (loading : Outcome) (ops : List Operation) :
    (∀ key bundle, .register key bundle ∈ ops → (brought ops).count bundle = 1 →
      (Registered ops key bundle → ∀ a ∈ (after loading ops).bundles bundle, ¬a.Ends) ∧
      (¬Registered ops key bundle → ∃ earlier later,
        ((after loading ops).bundles bundle).reverse = earlier ++ parting key ++ later ∧ ∀ a ∈ earlier ++ later, ¬a.Ends) ∧
      ((∀ op ∈ ops, op.IsPassage) →
        (Registered ops key bundle → (after loading ops).bundles bundle = []) ∧
        (¬Registered ops key bundle → ((after loading ops).bundles bundle).reverse = parting key))) ∧
    (∀ key bundle, (((plain List.cons).lookup key).run (after loading ops)).1 = some bundle ↔ Registered ops key bundle) ∧
    (∀ key, (∃ bundle, Registered ops key bundle) → ((plain List.cons).unregister key).run (after loading ops) =
      (some {k | ∃ b, Registered (.unregister key :: ops) k b}.ncard, after loading (.unregister key :: ops))) ∧
    (∀ key, (¬∃ bundle, Registered ops key bundle) →
      ((plain List.cons).unregister key).run (after loading ops) = (none, after loading ops)) := by
  refine ⟨fun key bundle came once => ?_, fun key bundle => lookup_iff_registered, ?_, fun key => run_unregister_of_absent⟩
  · obtain ⟨staying, leaving⟩ := heard_of_once loading came once
    refine ⟨fun held => (staying held).goes_on, fun gone => ?_, fun passages => ⟨fun held => ?_, fun gone => ?_⟩⟩
    · obtain ⟨earlier, later, heard, quiet⟩ := leaving gone
      exact ⟨earlier, later, heard, quiet.goes_on⟩
    · exact (staying held).silent passages
    · obtain ⟨earlier, later, heard, quiet⟩ := leaving gone
      obtain ⟨rfl, rfl⟩ := List.append_eq_nil_iff.1 (quiet.silent passages)
      simpa using heard
  · rintro key ⟨bundle, held⟩
    exact run_unregister_of_registered held

/-- Two identities of one matching key come, and then the bundle of the first is replaced. -/
def replacement : List Operation :=
  [.register ⟨"user", none⟩ 2, .register ⟨"user", some "b"⟩ 1, .register ⟨"user", none⟩ 0]

/-- The bundle that is replaced is torn down, once, and the one with the same matching key is not. -/
theorem torn_down_once_replaced :
    .register ⟨"user", none⟩ 0 ∈ replacement ∧ (brought replacement).count 0 = 1 ∧
    ((after (.ok ()) replacement).bundles 0).reverse = parting ⟨"user", none⟩ ∧
    (after (.ok ()) replacement).bundles 1 = [] := by
  have first : .register ⟨"user", none⟩ 0 ∈ replacement := by simp [replacement]
  have second : .register ⟨"user", some "b"⟩ 1 ∈ replacement := by simp [replacement]
  have passages : ∀ op ∈ replacement, op.IsPassage := by simp [replacement, Operation.IsPassage]
  have replaced : ¬Registered replacement ⟨"user", none⟩ 0 := by
    simp [replacement, registered_cons, Operation.Displaces, not_registered_nil]
  have held : Registered replacement ⟨"user", some "b"⟩ 1 := by simp [replacement, registered_cons, Operation.Displaces]
  have account := (torn_down_once (.ok ()) replacement).1
  exact ⟨first, rfl, ((account _ 0 first rfl).2.2 passages).2 replaced, ((account _ 1 second rfl).2.2 passages).1 held⟩

end FlagKeeper.Registry
