import FlagKeeper.Proofs.Ensemble.Progress

/-!
# A start comes to an end

`Starting.settles`: from wherever a client that starts is, some turns of its background, its loop and its pipeline leave nothing in
store for it. The background takes up no new work. The inbox gets shorter with every turn of the loop but one, in which everything
begins; and what the pipeline of the impressions does puts nothing into it.
-/

namespace FlagKeeper.Ensemble

variable {f : Frame} {t t' : Tally} {s : Ensemble} {i : Input}

/-- What has begun has begun. -/
theorem Tally.Move.begun (move : t.Move f i t') (begun : t.begun = true) : t'.begun = true := by
  cases move <;> first | exact begun | rfl

/-- Only the background does its work. -/
theorem Tally.Move.jobs (move : t.Move f .loop t') : t'.jobs = t.jobs := by
  cases move <;> rfl

/-- Whether an input is a turn of the background, of the loop, or of the pipeline of the impressions. -/
def Input.isTurn : Input → Bool
  | .jobStep => true
  | .loop => true
  | .impressionsStep => true
  | _ => false

/-- Nothing is in store for a client: no background work, no status event, and no order to the pipeline of the impressions. -/
def Settled (s : Ensemble) : Prop := s.jobs = [] ∧ s.inbox.queue = [] ∧ s.tracker.orders.queue = []

theorem after_append (s : Ensemble) (later past : List Input) : s.after (later ++ past) = (s.after past).after later := by
  induction later with
  | nil => rfl
  | cons i rest ih =>
    rw [List.cons_append]
    exact congrArg (·.take i) ih

/-- One ensemble becomes another in some turns. -/
def Turns (s s' : Ensemble) : Prop := ∃ turns, (∀ i ∈ turns, i.isTurn = true) ∧ s.after turns = s'

namespace Turns

variable {s s' s'' : Ensemble} {i : Input}

theorem refl (s : Ensemble) : Turns s s := ⟨[], List.forall_mem_nil _, rfl⟩

theorem trans (first : Turns s s') (later : Turns s' s'') : Turns s s'' := by
  obtain ⟨turns, all, rfl⟩ := first
  obtain ⟨turns', all', rfl⟩ := later
  exact ⟨turns' ++ turns, List.forall_mem_append.2 ⟨all', all⟩, after_append s turns' turns⟩

theorem head (turn : i.isTurn = true) (later : Turns (s.take i) s') : Turns s s' :=
  trans ⟨[i], List.forall_mem_singleton.2 turn, rfl⟩ later

end Turns

variable (staffed : f.IsStaffed) (going : f.IsGoing)

/-- The background comes to an end. -/
theorem Starting.finishJobs (h : Starting f t s) : ∃ s' t', Turns s s' ∧ Starting f t' s' ∧ t'.jobs = [] := by
  generalize rests : t.jobs = jobs
  induction jobs generalizing s t with
  | nil => exact ⟨s, t, .refl s, h, rests⟩
  | cons job rest ih =>
    obtain ⟨t₁, first, move⟩ := h.jobStep
    have fewer : t₁.jobs = rest := by
      cases move with
      | stay i quiet work records =>
        rw [work rfl] at rests
        cases rests
      | load rest' head notices => exact List.tail_eq_of_cons_eq (head.symm.trans rests)
      | work job' rest' head other => exact List.tail_eq_of_cons_eq (head.symm.trans rests)
    obtain ⟨s', t', turns, after, empty⟩ := ih first fewer
    exact ⟨s', t', turns.head rfl, after, empty⟩

include staffed going

/-- The loop empties the inbox once everything has begun. -/
theorem Starting.finishEvents (h : Starting f t s) (begun : t.begun = true) :
    ∃ s' t', Turns s s' ∧ Starting f t' s' ∧ t'.jobs = t.jobs ∧ s'.inbox.queue = [] := by
  generalize waits : s.inbox.queue = queue
  induction queue generalizing s t with
  | nil => exact ⟨s, t, .refl s, h, rfl, waits⟩
  | cons event rest ih =>
    obtain ⟨t₁, first, move, inbox⟩ := h.loop staffed going
    have shorter : (s.take .loop).inbox.queue = rest := by
      rcases inbox with tail | ⟨fresh, -⟩
      · rw [tail, waits]
        rfl
      · exact (Bool.false_ne_true (fresh.symm.trans begun)).elim
    obtain ⟨s', t', turns, after, jobs, empty⟩ := ih first (move.begun begun) shorter
    exact ⟨s', t', turns.head rfl, after, jobs.trans move.jobs, empty⟩

/-- The loop empties the inbox. -/
theorem Starting.finishInbox (h : Starting f t s) :
    ∃ s' t', Turns s s' ∧ Starting f t' s' ∧ t'.jobs = t.jobs ∧ s'.inbox.queue = [] := by
  generalize waits : s.inbox.queue = queue
  induction queue generalizing s t with
  | nil => exact ⟨s, t, .refl s, h, rfl, waits⟩
  | cons event rest ih =>
    obtain ⟨t₁, first, move, inbox⟩ := h.loop staffed going
    obtain ⟨s', t', turns, after, jobs, empty⟩ :
        ∃ s' t', Turns (s.take .loop) s' ∧ Starting f t' s' ∧ t'.jobs = t₁.jobs ∧ s'.inbox.queue = [] := by
      rcases inbox with tail | ⟨-, begun⟩
      · refine ih first ?_
        rw [tail, waits]
        rfl
      -- the turn in which everything begins may have put events into the inbox, but only that one does
      · exact first.finishEvents staffed going begun
    exact ⟨s', t', turns.head rfl, after, jobs.trans move.jobs, empty⟩

omit going in
/-- The pipeline of the impressions comes to an end. -/
theorem Starting.finishOrders (h : Starting f t s) :
    ∃ s' t', Turns s s' ∧ Starting f t' s' ∧ t'.jobs = t.jobs ∧ t'.orders.queue = [] ∧ s'.inbox = s.inbox := by
  generalize waits : t.orders.queue = orders
  induction orders generalizing s t with
  | nil => exact ⟨s, t, .refl s, h, rfl, waits, rfl⟩
  | cons order rest ih =>
    obtain ⟨t₁, first, move⟩ := h.impressionsStep staffed
    obtain rfl := h.orders order (waits ▸ List.mem_cons_self)
    have same : s.tracker.orders = t.orders := congrArg Tally.orders h.stands.tally
    have inbox : (s.take .impressionsStep).inbox = s.inbox := by
      rw [run_record (same ▸ waits)]
      rfl
    obtain ⟨fewer, jobs⟩ : t₁.orders.queue = rest ∧ t₁.jobs = t.jobs := by
      cases move with
      | stay i quiet work records =>
        rw [records rfl] at waits
        cases waits
      | record rest' head => exact ⟨List.tail_eq_of_cons_eq (head.symm.trans waits), rfl⟩
    obtain ⟨s', t', turns, after, jobs', empty, kept⟩ := ih first fewer
    exact ⟨s', t', turns.head rfl, after, jobs'.trans jobs, empty, kept.trans inbox⟩

/-- Turn by turn, nothing is in store for a client any more in the end. -/
theorem Starting.settles (h : Starting f t s) : ∃ turns, (∀ i ∈ turns, i.isTurn = true) ∧ Settled (s.after turns) := by
  obtain ⟨s₁, t₁, turns₁, h₁, none₁⟩ := h.finishJobs
  obtain ⟨s₂, t₂, turns₂, h₂, jobs₂, empty₂⟩ := h₁.finishInbox staffed going
  obtain ⟨s₃, t₃, turns₃, h₃, jobs₃, empty₃, inbox₃⟩ := h₂.finishOrders staffed
  have settled : Settled s₃ := by
    refine ⟨?_, ?_, ?_⟩
    · exact (congrArg Tally.jobs h₃.stands.tally).trans (jobs₃.trans (jobs₂.trans none₁))
    · rw [inbox₃]
      exact empty₂
    · exact (congrArg (·.orders.queue) h₃.stands.tally).trans empty₃
  obtain ⟨turns, all, rfl⟩ := turns₁.trans (turns₂.trans turns₃)
  exact ⟨turns, all, settled⟩

end FlagKeeper.Ensemble
