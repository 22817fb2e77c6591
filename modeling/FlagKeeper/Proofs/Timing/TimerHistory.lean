import FlagKeeper.Proofs.Timing.Slots

/-!
# Histories of timers

A history says what became of the timers of a table, the latest first: which were set, what was cancelled, which ran out, and when
time went by. Which timers wait (`Waiting`), which ran (`Ran`) and which were called off while they waited (`CalledOff`) is read off the
history alone.

A history is `Lawful` if a timer is set only while none of its name waits, only a timer that waits and is due runs out, and no time goes
by while a timer that waits is due; what is due may depend on a longest sleep. In such a history a timer that was set either waits, or
ran, or was called off (`Lawful.fate`), and no two of these hold at once.
-/

namespace FlagKeeper.TimerTable

/-- What becomes of timers. -/
inductive Entry (τ : Type) where
  /-- A timer was set, with some delay. -/
  | set (delay : Duration) (x : Sleeper τ)
  | cancelled (name : TimerName)
  | cancelledAll
  /-- A timer ran out, at some time. -/
  | ran (x : Sleeper τ) (time : Nat)
  /-- Time went by, from some time on. -/
  | passed (since : Nat)

variable {τ : Type} {past : List (Entry τ)} {x y : Sleeper τ} {clock : Nat} {longest : Option Nat}

/-- A timer was set, and since then it has neither run out nor been called off. -/
def Waiting : List (Entry τ) → Sleeper τ → Prop
  | [], _ => False
  | .set _ y :: past, x => y = x ∨ Waiting past x
  | .cancelled name :: past, x => Waiting past x ∧ name ≠ x.name
  | .cancelledAll :: _, _ => False
  | .ran y _ :: past, x => Waiting past x ∧ y ≠ x
  | .passed _ :: past, x => Waiting past x

/-- A timer was called off while it waited: its name was cancelled, or everything was. -/
def CalledOff : List (Entry τ) → Sleeper τ → Prop
  | [], _ => False
  | .cancelled name :: past, x => Waiting past x ∧ name = x.name ∨ CalledOff past x
  | .cancelledAll :: past, x => Waiting past x ∨ CalledOff past x
  | _ :: past, x => CalledOff past x

/-- A timer ran out. -/
def Ran (past : List (Entry τ)) (x : Sleeper τ) : Prop := ∃ time, .ran x time ∈ past

/-- A timer was set. -/
def Accepted (past : List (Entry τ)) (x : Sleeper τ) : Prop := ∃ delay, .set delay x ∈ past

/-- A timer's time has come. -/
def IsDue (longest : Option Nat) (x : Sleeper τ) (clock : Nat) : Prop := wakeTime longest x ≤ clock / nanosPerMilli

theorem IsDue.mono {later : Nat} (due : IsDue longest x clock) (le : clock ≤ later) : IsDue longest x later :=
  Nat.le_trans due (Nat.div_le_div_right le)

/-- The histories in which each name has one slot and timers run out in time, by the time at their end. -/
inductive Lawful (longest : Option Nat) : Nat → List (Entry τ) → Prop where
  | new : Lawful longest 0 []
  | set {clock : Nat} {past : List (Entry τ)} {x : Sleeper τ} (delay : Duration) (earlier : Lawful longest clock past)
      (free : ∀ y, Waiting past y → y.name ≠ x.name) (fresh : ∀ y, Accepted past y → y.id ≠ x.id) (armed : x.armed = clock)
      (timed : x.deadline = deadline clock delay) : Lawful longest clock (.set delay x :: past)
  | cancelled {clock : Nat} {past : List (Entry τ)} (name : TimerName) (earlier : Lawful longest clock past) :
      Lawful longest clock (.cancelled name :: past)
  | cancelledAll {clock : Nat} {past : List (Entry τ)} (earlier : Lawful longest clock past) : Lawful longest clock (.cancelledAll :: past)
  | ran {clock : Nat} {past : List (Entry τ)} {x : Sleeper τ} (earlier : Lawful longest clock past) (waiting : Waiting past x)
      (due : IsDue longest x clock) : Lawful longest clock (.ran x clock :: past)
  | passed {clock later : Nat} {past : List (Entry τ)} (earlier : Lawful longest clock past) (le : clock ≤ later)
      (idle : ∀ x, Waiting past x → ¬IsDue longest x clock) : Lawful longest later (.passed clock :: past)

/-! ## What is said of a timer was set before -/

theorem Accepted.cons (e : Entry τ) (accepted : Accepted past x) : Accepted (e :: past) x :=
  accepted.imp fun _ => List.mem_cons_of_mem e

theorem Ran.cons (e : Entry τ) (ran : Ran past x) : Ran (e :: past) x := ran.imp fun _ => List.mem_cons_of_mem e

theorem Accepted.of_cons {e : Entry τ} (accepted : Accepted (e :: past) x) (other : ∀ delay, .set delay x ≠ e) : Accepted past x :=
  accepted.imp fun delay => List.mem_of_ne_of_mem (other delay)

theorem Ran.of_cons {e : Entry τ} (ran : Ran (e :: past) x) (other : ∀ time, .ran x time ≠ e) : Ran past x :=
  ran.imp fun time => List.mem_of_ne_of_mem (other time)

theorem Waiting.accepted (waiting : Waiting past x) : Accepted past x := by
  induction past with
  | nil => exact waiting.elim
  | cons e past ih =>
    cases e with
    | set delay y =>
      rcases waiting with rfl | before
      · exact ⟨delay, List.mem_cons_self⟩
      · exact (ih before).cons _
    | cancelled name => exact (ih waiting.1).cons _
    | cancelledAll => exact waiting.elim
    | ran y time => exact (ih waiting.1).cons _
    | passed since => exact (ih waiting).cons _

theorem CalledOff.accepted (off : CalledOff past x) : Accepted past x := by
  induction past with
  | nil => exact off.elim
  | cons e past ih =>
    cases e with
    | cancelled name => exact (off.elim (fun now => now.1.accepted) ih).cons _
    | cancelledAll => exact (off.elim (fun now => now.accepted) ih).cons _
    | set delay y => exact (ih off).cons _
    | ran y time => exact (ih off).cons _
    | passed since => exact (ih off).cons _

namespace Lawful

/-- What happened before a moment of a lawful history is lawful. -/
theorem of_append {later : List (Entry τ)} (h : Lawful longest clock (later ++ past)) :
    ∃ before ≤ clock, Lawful longest before past := by
  induction later generalizing clock with
  | nil => exact ⟨clock, Nat.le_refl _, h⟩
  | cons e later ih =>
    cases h with
    | passed earlier le _ =>
      obtain ⟨before, sooner, lawful⟩ := ih earlier
      exact ⟨before, Nat.le_trans sooner le, lawful⟩
    | set _ earlier => exact ih earlier
    | cancelled _ earlier => exact ih earlier
    | cancelledAll earlier => exact ih earlier
    | ran earlier => exact ih earlier

theorem ran_accepted (h : Lawful longest clock past) (ran : Ran past x) : Accepted past x := by
  obtain ⟨time, inside⟩ := ran
  obtain ⟨later, old, rfl⟩ := List.append_of_mem inside
  obtain ⟨before, _, lawful⟩ := h.of_append
  cases lawful with
  | ran earlier waiting due => exact waiting.accepted.imp fun _ there => List.mem_append_right _ (List.mem_cons_of_mem _ there)

/-- A timer goes off at the end of its delay. -/
theorem deadline_eq (h : Lawful longest clock past) {delay : Duration} (set : .set delay x ∈ past) :
    x.deadline = deadline x.armed delay := by
  obtain ⟨later, old, rfl⟩ := List.append_of_mem set
  obtain ⟨before, _, lawful⟩ := h.of_append
  cases lawful with
  | set _ _ _ _ armed timed => rw [timed, armed]

theorem isDue_iff (h : Lawful longest clock past) {delay : Duration} (set : .set delay x ∈ past) (now : Nat) :
    IsDue longest x now ↔ Reached longest x.armed delay now := wakeTime_le_iff (h.deadline_eq set)

/-- A timer that ran had been due by then. -/
theorem ran_due (h : Lawful longest clock past) {time : Nat} (ran : .ran x time ∈ past) : time ≤ clock ∧ IsDue longest x time := by
  obtain ⟨later, old, rfl⟩ := List.append_of_mem ran
  obtain ⟨before, sooner, lawful⟩ := h.of_append
  cases lawful with
  | ran earlier waiting due => exact ⟨sooner, due⟩

/-! ## One slot for each name -/

theorem waiting_eq (h : Lawful longest clock past) (here : Waiting past x) (there : Waiting past y) (same : x.name = y.name) : x = y := by
  induction h with
  | new => exact here.elim
  | set delay earlier free fresh armed timed ih =>
    rcases here with rfl | here <;> rcases there with rfl | there
    · rfl
    · exact absurd same.symm (free y there)
    · exact absurd same (free x here)
    · exact ih here there
  | cancelled name earlier ih => exact ih here.1 there.1
  | cancelledAll earlier ih => exact here.elim
  | ran earlier waiting due ih => exact ih here.1 there.1
  | passed earlier le idle ih => exact ih here there

/-! ## The three fates of a timer -/

theorem not_waiting_of_ran (h : Lawful longest clock past) (ran : Ran past x) : ¬Waiting past x := by
  induction h with
  | new => exact id
  | set delay earlier free fresh armed timed ih =>
    have before := ran.of_cons nofun
    rintro (rfl | waiting)
    · exact fresh _ (earlier.ran_accepted before) rfl
    · exact ih before waiting
  | cancelled name earlier ih => exact fun waiting => ih (ran.of_cons nofun) waiting.1
  | cancelledAll earlier ih => exact id
  | ran earlier now due ih =>
    rintro ⟨waiting, other⟩
    exact ih (ran.of_cons fun time same => other (Entry.ran.inj same).1.symm) waiting
  | passed earlier le idle ih => exact ih (ran.of_cons nofun)

theorem not_waiting_of_calledOff (h : Lawful longest clock past) (off : CalledOff past x) : ¬Waiting past x := by
  induction h with
  | new => exact off.elim
  | set delay earlier free fresh armed timed ih =>
    rintro (rfl | waiting)
    · exact fresh _ (CalledOff.accepted off) rfl
    · exact ih off waiting
  | cancelled name earlier ih =>
    rintro ⟨waiting, other⟩
    rcases off with ⟨_, same⟩ | before
    · exact other same
    · exact ih before waiting
  | cancelledAll earlier ih => exact id
  | ran earlier now due ih => exact fun waiting => ih off waiting.1
  | passed earlier le idle ih => exact ih off

theorem not_calledOff_of_ran (h : Lawful longest clock past) (ran : Ran past x) : ¬CalledOff past x := by
  induction h with
  | new => exact id
  | set delay earlier free fresh armed timed ih => exact ih (ran.of_cons nofun)
  | cancelled name earlier ih =>
    have before := ran.of_cons nofun
    exact not_or_intro (fun now => earlier.not_waiting_of_ran before now.1) (ih before)
  | cancelledAll earlier ih =>
    have before := ran.of_cons nofun
    exact not_or_intro (earlier.not_waiting_of_ran before) (ih before)
  | @ran time past y earlier now due ih =>
    intro off
    by_cases own : y = x
    · exact earlier.not_waiting_of_calledOff off (own ▸ now)
    · exact ih (ran.of_cons fun time same => own (Entry.ran.inj same).1.symm) off
  | passed earlier le idle ih => exact ih (ran.of_cons nofun)

/-- A timer that was set waits, or ran, or was called off. -/
theorem fate (h : Lawful longest clock past) (accepted : Accepted past x) : Waiting past x ∨ Ran past x ∨ CalledOff past x := by
  induction h with
  | new => exact (List.not_mem_nil accepted.choose_spec).elim
  | @set clock past y _ earlier free fresh armed timed ih =>
    by_cases own : y = x
    · exact .inl (.inl own)
    · have before := accepted.of_cons fun delay same => own (Entry.set.inj same).2.symm
      exact (ih before).imp .inr (Or.imp (Ran.cons _) id)
  | cancelled name earlier ih =>
    rcases ih (accepted.of_cons nofun) with waiting | ran | off
    · by_cases own : name = x.name
      · exact .inr (.inr (.inl ⟨waiting, own⟩))
      · exact .inl ⟨waiting, own⟩
    · exact .inr (.inl (ran.cons _))
    · exact .inr (.inr (.inr off))
  | cancelledAll earlier ih =>
    rcases ih (accepted.of_cons nofun) with waiting | ran | off
    · exact .inr (.inr (.inl waiting))
    · exact .inr (.inl (ran.cons _))
    · exact .inr (.inr (.inr off))
  | @ran time past y earlier now due ih =>
    rcases ih (accepted.of_cons nofun) with waiting | ran | off
    · by_cases own : y = x
      · exact .inr (.inl ⟨time, own ▸ List.mem_cons_self⟩)
      · exact .inl ⟨waiting, own⟩
    · exact .inr (.inl (ran.cons _))
    · exact .inr (.inr off)
  | passed earlier le idle ih => exact (ih (accepted.of_cons nofun)).imp id (Or.imp (Ran.cons _) id)

/-- A timer runs once. -/
theorem ran_once {later old : List (Entry τ)} {time : Nat} (h : Lawful longest clock (later ++ .ran x time :: old)) (again : Nat) :
    .ran x again ∉ later := by
  intro inside
  obtain ⟨newer, between, rfl⟩ := List.append_of_mem inside
  rw [List.append_assoc, List.cons_append] at h
  obtain ⟨before, _, lawful⟩ := h.of_append
  cases lawful with
  | ran earlier waiting due =>
    exact earlier.not_waiting_of_ran ⟨time, List.mem_append_right _ List.mem_cons_self⟩ waiting

/-- Once no timer that waits is due, just those ran whose time has come and that were not called off. -/
theorem ran_iff (h : Lawful longest clock past) (idle : ∀ x, Waiting past x → ¬IsDue longest x clock) (accepted : Accepted past x) :
    Ran past x ↔ IsDue longest x clock ∧ ¬CalledOff past x := by
  constructor
  · intro ran
    obtain ⟨time, inside⟩ := ran
    obtain ⟨le, due⟩ := h.ran_due inside
    exact ⟨due.mono le, h.not_calledOff_of_ran ⟨time, inside⟩⟩
  · rintro ⟨due, kept⟩
    rcases h.fate accepted with waiting | ran | off
    · exact absurd due (idle x waiting)
    · exact ran
    · exact absurd off kept

end Lawful

end FlagKeeper.TimerTable
