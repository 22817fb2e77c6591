import FlagKeeper.Proofs.Registry.Polling

/-!
# Whom a pause reaches

A pause is told to the bundles that are there, and nothing of it stays behind in the registry. So the last word that a bundle has
heard on pausing is the last one since it came (`lastPausing_of_held`): a bundle that comes during a pause hears of it only if
another pause follows. That a bundle is torn down it hears once, and then it is not registered any more (`not_ended_of_held`).

All this is about bundles that are new when they are registered.
-/

namespace FlagKeeper.Registry

/-- What an ask says on pausing, if it does. -/
def Ask.pausing? : Ask → Option Bool
  | .segments .pause => some true
  | .segments .resume => some false
  | _ => none

/-- The last word on pausing. -/
def lastPausing (asked : List Ask) : Option Bool := asked.findSome? Ask.pausing?

/-- What an operation says on pausing to all bundles there are, if it does. -/
def Operation.pausing? : Operation → Option Bool
  | .pause => some true
  | .resume => some false
  | _ => none

theorem Ask.pausing?_eq_some {a : Ask} {word : Bool} :
    a.pausing? = some word ↔ a = .segments (if word then .pause else .resume) := by
  unfold pausing?
  split <;> cases word <;> simp_all

section Asks

variable {st : State} {bundle : BundleId} {command : SegmentSync.Command}

/-- A bundle whose segment synchronizer is told anything is registered. -/
theorem has_of_mem_asks {op : Operation} (said : (bundle, .segments command) ∈ op.asks st) : st.Has bundle := by
  have of_scope : ∀ {scope told}, (bundle, .segments command) ∈ st.tellAsks scope told → st.Has bundle := by
    intro scope told inside
    obtain ⟨-, key, there, -⟩ := mem_tellAsks.1 inside
    exact ⟨key, there⟩
  have of_key : ∀ {key told}, (bundle, .segments command) ∈ st.tellKeyAsks key told → st.Has bundle := by
    intro key told inside
    exact ⟨key, mem_of_lookup (mem_tellKeyAsks.1 inside).2⟩
  cases op with
  | register key b => exact ⟨key, mem_of_lookup (mem_tearDownAnyAsks.1 said).1⟩
  | unregister key => exact ⟨key, mem_of_lookup (mem_tearDownAnyAsks.1 said).1⟩
  | startSync key =>
    rcases List.mem_append.1 said with said | said
    · exact (List.mem_append.1 said).elim of_scope of_key
    · split at said
      · exact of_key said
      · cases said
  | syncKey key => exact of_key said
  | broadcast news scope => exact of_scope said
  | loadAttributes scope => cases said
  | stop => exact (mem_tearDownAllAsks.1 said).1
  | job j =>
    cases j
    simp [Operation.asks] at said
  | _ => exact of_scope said

/-- A word on pausing is said to all bundles there are, by nothing but an operation that is that word. -/
theorem mem_asks_pausing {op : Operation} {word : Bool} :
    (bundle, .segments (if word then .pause else .resume)) ∈ op.asks st ↔ op.pausing? = some word ∧ st.Has bundle := by
  cases op with
  | startSync key =>
    cases word <;> cases polls : st.polling <;>
      simp [Operation.asks, Operation.pausing?, mem_tellAsks, mem_tellKeyAsks, polls]
  | broadcast news scope =>
    cases word <;> cases news <;> simp [Operation.asks, Operation.pausing?, mem_tellAsks, Broadcast.command]
  | job j => cases word <;> cases j <;> simp [Operation.asks, Operation.pausing?]
  | _ =>
    cases word <;> simp [Operation.asks, Operation.pausing?, mem_tearDownAnyAsks, mem_tearDownAllAsks, mem_tellKeyAsks,
      mem_tellAsks_all]

/-- A bundle that is told to end is under a key that is registered anew or unregistered, or everything ends. -/
theorem of_mem_asks_destroy {op : Operation} (said : (bundle, .segments .destroy) ∈ op.asks st) :
    (∃ key, st.bundles.lookup key = some bundle ∧ ((∃ b, op = .register key b) ∨ op = .unregister key)) ∨ op = .stop := by
  cases op with
  | register key b => exact .inl ⟨key, (mem_tearDownAnyAsks.1 said).1, .inl ⟨b, rfl⟩⟩
  | unregister key => exact .inl ⟨key, (mem_tearDownAnyAsks.1 said).1, .inr rfl⟩
  | stop => exact .inr rfl
  | startSync key =>
    cases polls : st.polling <;> simp [Operation.asks, mem_tellAsks, mem_tellKeyAsks, polls] at said
  | broadcast news scope => cases news <;> simp [Operation.asks, mem_tellAsks, Broadcast.command] at said
  | job j =>
    cases j
    simp [Operation.asks] at said
  | _ => simp [Operation.asks, mem_tellKeyAsks, mem_tellAsks_all] at said

end Asks

section Run

variable {loading : Outcome} {ops past : List Operation} {op : Operation} {key : Key} {bundle : BundleId}
  {command : SegmentSync.Command}

/-- The segment synchronizer of a bundle that was not brought yet is told nothing. -/
theorem not_said_of_new (new : bundle ∉ brought past) : (bundle, .segments command) ∉ op.asks (after loading past).state := by
  intro said
  obtain ⟨key, there⟩ := has_of_mem_asks said
  exact new (brought_of_held (lookup_of_mem (once_after loading past) there))

theorem not_asked_of_new (new : bundle ∉ brought ops) : .segments command ∉ (after loading ops).bundles bundle := by
  induction ops with
  | nil => exact List.not_mem_nil
  | cons op past ih =>
    have earlier : bundle ∉ brought past := fun inside => new (brought_subset_cons inside)
    rw [bundles_after_cons, List.mem_append, List.mem_reverse, mem_saidTo]
    rintro (now | before)
    · exact not_said_of_new earlier now
    · exact ih earlier before

/-- A bundle that is registered was not told to end. -/
theorem not_ended_of_held (fresh : (brought ops).Nodup) (held : (after loading ops).state.bundles.lookup key = some bundle) :
    .segments .destroy ∉ (after loading ops).bundles bundle := by
  induction ops with
  | nil => cases held
  | cons op past ih =>
    have fresh' : (brought past).Nodup := nodup_brought_of_suffix fresh (List.suffix_cons op past)
    rw [state_after_cons] at held
    rw [bundles_after_cons, List.mem_append, List.mem_reverse, mem_saidTo]
    rcases held_of_next held with rfl | ⟨there, other, kept, going⟩
    · have new : bundle ∉ brought past := (List.nodup_cons.1 fresh).1
      rintro (now | before)
      · exact not_said_of_new new now
      · exact not_asked_of_new new before
    · rintro (now | before)
      · rcases of_mem_asks_destroy now with ⟨k, found, ends⟩ | rfl
        · cases one_key_of_fresh fresh' found there
          rcases ends with ⟨b, rfl⟩ | rfl
          · exact other b rfl
          · exact kept rfl
        · exact going rfl
      · exact ih fresh' there before

/-- The last word on pausing that a registered bundle has heard is the last one since it came. -/
theorem lastPausing_of_held (fresh : (brought ops).Nodup) (held : (after loading ops).state.bundles.lookup key = some bundle) :
    lastPausing ((after loading ops).bundles bundle) = (since key ops).findSome? Operation.pausing? := by
  induction ops with
  | nil => cases held
  | cons op past ih =>
    have fresh' : (brought past).Nodup := nodup_brought_of_suffix fresh (List.suffix_cons op past)
    have tells : ∀ word, (∃ a ∈ saidTo bundle (op.asks (after loading past).state), a.pausing? = some word) ↔
        op.pausing? = some word ∧ (after loading past).state.Has bundle := by
      intro word
      simp only [Ask.pausing?_eq_some, exists_eq_right, mem_saidTo]
      exact mem_asks_pausing
    rw [state_after_cons] at held
    rw [bundles_after_cons]
    rcases held_of_next held with rfl | ⟨there, other, -⟩
    · have new : bundle ∉ brought past := (List.nodup_cons.1 fresh).1
      rw [since_register]
      refine List.findSome?_eq_none_iff.2 fun a inside => ?_
      cases said : a.pausing? with
      | none => rfl
      | some w =>
        rw [Ask.pausing?_eq_some.1 said, List.mem_append, List.mem_reverse, mem_saidTo] at inside
        rcases inside with now | before
        · exact absurd now (not_said_of_new new)
        · exact absurd before (not_asked_of_new new)
    · rw [since_cons other, List.findSome?_cons, ← ih fresh' there]
      cases word : op.pausing? with
      | none =>
        refine lastWord_of_silence fun a inside => ?_
        cases said : a.pausing? with
        | none => rfl
        | some w => cases word.symm.trans ((tells w).1 ⟨a, inside, said⟩).1
      | some w =>
        refine lastWord_of_agreeing ((tells w).2 ⟨word, key, mem_of_lookup there⟩) fun a inside said => ?_
        exact (Bool.eq_not_self w).1 (Option.some.inj (word.symm.trans ((tells (!w)).1 ⟨a, inside, said⟩).1))

/-- A registered bundle that came before a pause has seen the pause. -/
theorem pause_mem_since {later : List Operation} (fresh : (brought (later ++ .pause :: past)).Nodup)
    (before : bundle ∈ brought past)
    (held : (after loading (later ++ .pause :: past)).state.bundles.lookup key = some bundle) :
    .pause ∈ since key (later ++ .pause :: past) := by
  induction later with
  | nil =>
    rw [List.nil_append, since_cons (by simp)]
    exact List.mem_cons_self
  | cons op later ih =>
    rw [List.cons_append] at fresh held ⊢
    have fresh' : (brought (later ++ .pause :: past)).Nodup := nodup_brought_of_suffix fresh (List.suffix_cons op _)
    rw [state_after_cons] at held
    rcases held_of_next held with rfl | ⟨there, other, -⟩
    · have inside : bundle ∈ brought (later ++ .pause :: past) := by
        rw [brought, List.filterMap_append]
        exact List.mem_append_right _ before
      exact absurd inside (List.nodup_cons.1 fresh).1
    · rw [since_cons other]
      exact List.mem_cons_of_mem _ (ih fresh' there)

/-- As long as nothing is resumed after a pause, the last word since a bundle came is to pause, if there was any pause since. -/
theorem pausing_since_of_paused {later : List Operation} (unresumed : .resume ∉ later) :
    (since key (later ++ .pause :: past)).findSome? Operation.pausing? = some true ↔
      .pause ∈ since key (later ++ .pause :: past) := by
  induction later with
  | nil =>
    rw [List.nil_append, since_cons (by simp)]
    exact iff_of_true rfl List.mem_cons_self
  | cons op later ih =>
    have ih := ih fun inside => unresumed (List.mem_cons_of_mem _ inside)
    have aside (other : ∀ b, op ≠ .register key b) (silent : op.pausing? = none) (going : op ≠ .pause) :
        (since key (op :: later ++ .pause :: past)).findSome? Operation.pausing? = some true ↔
          .pause ∈ since key (op :: later ++ .pause :: past) := by
      rw [List.cons_append, since_cons other, List.findSome?_cons, silent, List.mem_cons, or_iff_right (Ne.symm going)]
      exact ih
    cases op with
    | register k b =>
      by_cases same : k = key
      · subst same
        rw [List.cons_append, since_register]
        exact iff_of_false (by simp) (by simp)
      · exact aside (by simp [same]) rfl (by simp)
    | pause =>
      rw [List.cons_append, since_cons (by simp)]
      exact iff_of_true rfl List.mem_cons_self
    | resume => exact absurd List.mem_cons_self unresumed
    | _ => exact aside (by simp) rfl (by simp)

end Run

end FlagKeeper.Registry
