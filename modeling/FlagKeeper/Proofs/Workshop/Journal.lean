import Mathlib.Data.List.Perm.Basic
import FlagKeeper.Host
import FlagKeeper.Workers.Catalog

/-!
# A workshop that keeps a journal

A plain host of workers. It makes the workers that a part asks for, numbers them in the order in which they are made, and writes a
journal: what was made, what was told to whom, and which worker was done, each line with what was to be seen at that moment. A
worker may be done as soon as it is started; whether it is, and how, can hang on all that the journal says by then.

From the journal one reads which workers are under way (`running`: started, and not done since) and for which targets (`targets`).
`Tracks` compares this with a list that a part keeps of the targets under way. The statements here say what one more line does to
`Tracks`; the heart of it is that a part which starts a worker only for a target that it does not hold, and lets a target go when
its worker is done, never has two workers under way for a target, at no moment of the journal.
-/

namespace FlagKeeper

/-- Whether a worker of a kind reports that it is done. A worker that works again and again never is. -/
def WorkerKind.reports : WorkerKind → Bool
  | .flagsSync => true
  | .flagsUpdate _ => true
  | .segmentsSync _ => true
  | .segmentsUpdate _ _ => true
  | _ => false

/-- What happens in a workshop. -/
inductive Workshop.Happening where
  | made (w : Worker)
  | told (w : Worker) (order : WorkerOrder)
  /-- A worker is done with what it was started for. -/
  | done (w : Worker) (result : Outcome)

/-- A line of the journal: what happened, and what was to be seen at that moment. -/
structure Workshop.Line (σ : Type) where
  what : Workshop.Happening
  seen : σ

/-- A workshop: how many workers it has made, and its journal, the latest line first. -/
structure Workshop (σ : Type) where
  /-- How a worker ends that is done as soon as it is started, by the journal up to its start. -/
  prompt : List (Workshop.Line σ) → Option Outcome
  made : Nat := 0
  journal : List (Workshop.Line σ) := []

namespace Workshop

section Programs

variable {σ : Type} {m : Type → Type} [Monad m] (shop : Cell m (Workshop σ)) (look : m σ)
  (finish : Worker → Outcome → m Unit)

/-- Writes down what happens. -/
def write (what : Happening) : m Unit := do
  let seen ← look
  shop.modify fun s => { s with journal := ⟨what, seen⟩ :: s.journal }

/-- A worker reports that it is done. -/
def report (w : Worker) (result : Outcome) : m Unit := do
  write shop look (.done w result)
  finish w result

/-- The makers of workers, given what is to be done when a worker is done. -/
def workers : Workers m where
  create kind := do
    let w ← shop.step fun s => (⟨kind, s.made⟩, { s with made := s.made + 1 })
    write shop look (.made w)
    return w
  tell w order := do
    write shop look (.told w order)
    if order = .start && w.kind.reports then
      let s ← shop.get
      match s.prompt s.journal with
      | some result => report shop look finish w result
      | none => return ()

end Programs

/-! ## A workshop in its place -/

/-- Where a state has a workshop, and what is to be seen of the state. -/
structure Place (S σ : Type) where
  shop : S → Workshop σ
  put : Workshop σ → S → S
  look : S → σ

namespace Place

variable {S σ : Type} (p : Place S σ)

/-- The place as a cell. -/
def cell : Cell (StateM S) (Workshop σ) where
  get := return p.shop (← get)
  set shop := modify (p.put shop)

/-- What is to be seen at the moment. -/
def sight : StateM S σ := return p.look (← get)

/-- Something was written down. -/
def wrote (s : S) (what : Happening) : S := p.put { p.shop s with journal := ⟨what, p.look s⟩ :: (p.shop s).journal } s

variable (settled : Worker → Outcome → S → S)

/-- A worker is done, and this was seen to. -/
def finished (s : S) (w : Worker) (result : Outcome) : S := settled w result (p.wrote s (.done w result))

/-- A worker was started, and may be done already. -/
def started (s : S) (w : Worker) : S :=
  let s := p.wrote s (.told w .start)
  if w.kind.reports then
    match (p.shop s).prompt (p.shop s).journal with
    | some result => p.finished settled s w result
    | none => s
  else s

/-- A worker was told something, if there is one. -/
def toldIfAny (s : S) (there : Option Worker) (order : WorkerOrder) : S :=
  match there with
  | some w => if order = .start then p.started settled s w else p.wrote s (.told w order)
  | none => s

/-- If there is a worker that is told something, it is started, or that is only written down. -/
theorem toldIfAny_cases (s : S) (there : Option Worker) (order : WorkerOrder) :
    p.toldIfAny settled s there order = s ∨ ∃ w, there = some w ∧
      (p.toldIfAny settled s there order = p.started settled s w ∨
        order ≠ .start ∧ p.toldIfAny settled s there order = p.wrote s (.told w order)) := by
  unfold toldIfAny
  cases there with
  | none => exact .inl rfl
  | some w =>
    refine .inr ⟨w, rfl, ?_⟩
    by_cases start : order = .start
    · exact .inl (if_pos start)
    · exact .inr ⟨start, if_neg start⟩

/-- A started worker is under way, or done already. -/
theorem started_cases (s : S) (w : Worker) :
    p.started settled s w = p.wrote s (.told w .start) ∨
      ∃ result, w.kind.reports = true ∧ p.started settled s w = p.finished settled (p.wrote s (.told w .start)) w result := by
  unfold started
  cases reports : w.kind.reports with
  | false => exact .inl rfl
  | true =>
    cases prompt : (p.shop (p.wrote s (.told w .start))).prompt (p.shop (p.wrote s (.told w .start))).journal with
    | none =>
      left
      simp [prompt]
    | some result =>
      refine .inr ⟨result, rfl, ?_⟩
      simp [prompt]

variable {p settled} {finish : Worker → Outcome → StateM S Unit} {s : S}

theorem run_report (agrees : ∀ w result s, (finish w result).run s = ((), settled w result s)) (w : Worker) (result : Outcome) :
    (report p.cell p.sight finish w result).run s = ((), p.finished settled s w result) :=
  agrees w result (p.wrote s (.done w result))

/-- A worker that is told anything but to start. -/
theorem run_tell {order : WorkerOrder} (other : order ≠ .start) (w : Worker) :
    ((workers p.cell p.sight finish).tell w order).run s = ((), p.wrote s (.told w order)) := by
  have aside : (order = .start && w.kind.reports) = false := by simp [other]
  show ((if (order = .start && w.kind.reports) = true then _ else pure () : StateM S Unit).run (p.wrote s (.told w order))) = _
  rw [aside]
  rfl

/-- A worker that is started. -/
theorem run_start (agrees : ∀ w result s, (finish w result).run s = ((), settled w result s)) (w : Worker) :
    ((workers p.cell p.sight finish).tell w .start).run s = ((), p.started settled s w) := by
  let s' := p.wrote s (.told w .start)
  show ((if (WorkerOrder.start = .start && w.kind.reports) = true then _ else pure () : StateM S Unit).run s') = _
  unfold started
  cases w.kind.reports with
  | false => rfl
  | true =>
    show ((match (p.shop s').prompt (p.shop s').journal with
      | some result => report p.cell p.sight finish w result
      | none => pure () : StateM S Unit).run s') = ((), match (p.shop s').prompt (p.shop s').journal with
      | some result => p.finished settled s' w result
      | none => s')
    cases (p.shop s').prompt (p.shop s').journal with
    | none => rfl
    | some result => exact run_report agrees w result

/-- A worker that is told anything, if there is one. -/
theorem run_tellIfAny (agrees : ∀ w result s, (finish w result).run s = ((), settled w result s)) (there : Option Worker)
    (order : WorkerOrder) :
    (match there with
      | some w => (workers p.cell p.sight finish).tell w order
      | none => pure () : StateM S Unit).run s = ((), p.toldIfAny settled s there order) := by
  unfold toldIfAny
  cases there with
  | none => rfl
  | some w =>
    by_cases start : order = .start
    · subst start
      exact run_start agrees w
    · simp only [start, if_false]
      exact run_tell start w

/-- Some workers are told anything but to start, one after the other. -/
theorem run_tellAll {order : WorkerOrder} (other : order ≠ .start) (ws : List Worker) :
    (ws.forM fun w => (workers p.cell p.sight finish).tell w order).run s =
      ((), ws.foldl (fun s w => p.wrote s (.told w order)) s) := by
  induction ws generalizing s with
  | nil => rfl
  | cons w rest ih =>
    show (((workers p.cell p.sight finish).tell w order >>= fun _ =>
      rest.forM fun w => (workers p.cell p.sight finish).tell w order).run s) = _
    rw [StateT.run_bind, run_tell other]
    exact ih

end Place

/-! ## What the journal says -/

variable {σ τ : Type}

/-- The workers under way, the latest first: those that were started and were not done since. -/
def running : List (Line σ) → List Worker
  | [] => []
  | ⟨.told w .start, _⟩ :: past => w :: running past
  | ⟨.done w _, _⟩ :: past => (running past).erase w
  | _ :: past => running past

/-- The targets that workers are under way for, given which kinds of workers have a target. -/
def targets (aim : WorkerKind → Option τ) (journal : List (Line σ)) : List τ := (running journal).filterMap fun w => aim w.kind

/-- The workers that were done, and how they ended, the latest first. -/
def completions (journal : List (Line σ)) : List (Worker × Outcome) :=
  journal.filterMap fun l =>
    match l.what with
    | .done w result => some (w, result)
    | _ => none

/-- The workers that were made, the latest first. -/
def makings (journal : List (Line σ)) : List Worker :=
  journal.filterMap fun l =>
    match l.what with
    | .made w => some w
    | _ => none

section Reading

variable {aim : WorkerKind → Option τ} {j : List (Line σ)} {v : σ} {w : Worker} {t : τ}

@[simp] theorem running_made : running (⟨.made w, v⟩ :: j) = running j := rfl

@[simp] theorem running_start : running (⟨.told w .start, v⟩ :: j) = w :: running j := rfl

@[simp] theorem running_done (result : Outcome) : running (⟨.done w result, v⟩ :: j) = (running j).erase w := rfl

@[simp] theorem running_told {order : WorkerOrder} (other : order ≠ .start) :
    running (⟨.told w order, v⟩ :: j) = running j := by
  cases order <;> first | rfl | exact absurd rfl other

@[simp] theorem targets_made : targets aim (⟨.made w, v⟩ :: j) = targets aim j := rfl

theorem targets_start (aimed : aim w.kind = some t) : targets aim (⟨.told w .start, v⟩ :: j) = t :: targets aim j := by
  simp [targets, aimed]

/-- An order to a worker without a target, and any order but to start, changes nothing about the targets under way. -/
theorem targets_told {order : WorkerOrder} (aside : order = .start → aim w.kind = none) :
    targets aim (⟨.told w order, v⟩ :: j) = targets aim j := by
  by_cases start : order = .start
  · subst start
    simp [targets, aside rfl]
  · simp [targets, start]

/-- Taking a worker out takes its target out. -/
theorem perm_erase_running {workers : List Worker} (aimed : aim w.kind = some t) (inside : w ∈ workers) :
    (workers.filterMap fun w => aim w.kind).Perm (t :: (workers.erase w).filterMap fun w => aim w.kind) := by
  have moved := (List.perm_cons_erase inside).filterMap fun w => aim w.kind
  simpa [aimed] using moved

/-- The targets under way when a worker is done are some of those that were. -/
theorem targets_done_sublist (result : Outcome) : (targets aim (⟨.done w result, v⟩ :: j)).Sublist (targets aim j) :=
  List.Sublist.filterMap _ List.erase_sublist

/-- A target stays under way when a worker is done that was not for it. -/
theorem mem_targets_done (result : Outcome) (there : t ∈ targets aim j) (other : aim w.kind ≠ some t) :
    t ∈ targets aim (⟨.done w result, v⟩ :: j) := by
  obtain ⟨w', inside, aimed⟩ := List.mem_filterMap.1 there
  have differs : w' ≠ w := by
    rintro rfl
    exact other aimed
  exact List.mem_filterMap.2 ⟨w', (List.mem_erase_of_ne differs).2 inside, aimed⟩

/-- When a worker without a target is done, the targets under way stay. -/
theorem targets_done_of_none (result : Outcome) (aimless : aim w.kind = none) :
    targets aim (⟨.done w result, v⟩ :: j) = targets aim j := by
  simp only [targets, running_done]
  induction running j with
  | nil => rfl
  | cons other rest ih =>
    by_cases same : other = w
    · subst same
      simp [aimless]
    · have kept : (other :: rest).erase w = other :: rest.erase w := List.erase_cons_tail (by simpa using same)
      rw [kept]
      cases aimed : aim other.kind <;> simp [aimed, ih]

end Reading

/-! ## At most one worker for a target -/

/-- A list that a part keeps names the targets under way, at no moment were two workers under way for one target, and only a worker
that was under way is ever done with its target. -/
structure Tracks (aim : WorkerKind → Option τ) (held : List τ) (journal : List (Line σ)) : Prop where
  perm : held.Perm (targets aim journal)
  single : ∀ moment, moment <:+ journal → (targets aim moment).Nodup
  honest : ∀ w result v past, ⟨.done w result, v⟩ :: past <:+ journal → aim w.kind ≠ none → w ∈ running past

namespace Tracks

variable {aim : WorkerKind → Option τ} {held : List τ} {j : List (Line σ)} {v : σ} {w : Worker} {t : τ}

/-- Nothing is under way before anything happened. -/
theorem nil : Tracks aim [] ([] : List (Line σ)) := by
  refine ⟨List.Perm.nil, ?_, ?_⟩
  · intro moment before
    rw [List.suffix_nil.1 before]
    exact List.nodup_nil
  · intro w result v past before
    cases List.suffix_nil.1 before

/-- One more line: the list is kept up with it, no two workers are under way for one target after it, and it says of no worker that
it is done with a target but of one that was under way. -/
theorem cons (h : Tracks aim held j) {what : Happening} {held' : List τ} (perm : held'.Perm (targets aim (⟨what, v⟩ :: j)))
    (nodup : (targets aim (⟨what, v⟩ :: j)).Nodup)
    (fits : ∀ w result, what = .done w result → aim w.kind ≠ none → w ∈ running j) :
    Tracks aim held' (⟨what, v⟩ :: j) := by
  refine ⟨perm, ?_, ?_⟩
  · intro moment before
    rcases List.suffix_cons_iff.1 before with rfl | earlier
    · exact nodup
    · exact h.single moment earlier
  · intro w result v' past before
    rcases List.suffix_cons_iff.1 before with same | earlier
    · cases same
      exact fits w result rfl
    · exact h.honest w result v' past earlier

/-- The list has no target twice. -/
theorem nodup (h : Tracks aim held j) : held.Nodup := h.perm.nodup_iff.2 (h.single j (List.suffix_refl j))

/-- A target is on the list if and only if a worker is under way for it. -/
theorem mem_iff (h : Tracks aim held j) : t ∈ held ↔ t ∈ targets aim j := h.perm.mem_iff

/-- A line that changes nothing about the targets under way. -/
theorem aside (h : Tracks aim held j) {what : Happening} (same : targets aim (⟨what, v⟩ :: j) = targets aim j)
    (fits : ∀ w result, what = .done w result → aim w.kind = none) : Tracks aim held (⟨what, v⟩ :: j) := by
  refine h.cons ?_ ?_ fun w result ended aimed => (aimed (fits w result ended)).elim
  · rw [same]
    exact h.perm
  · rw [same]
    exact h.single j (List.suffix_refl j)

/-- A worker is made. -/
theorem made (h : Tracks aim held j) : Tracks aim held (⟨.made w, v⟩ :: j) := h.aside targets_made (by simp)

/-- A worker without a target is told something, or any worker anything but to start. -/
theorem told (h : Tracks aim held j) {order : WorkerOrder} (aside : order = .start → aim w.kind = none) :
    Tracks aim held (⟨.told w order, v⟩ :: j) := h.aside (targets_told aside) (by simp)

/-- A worker is done that has no target. -/
theorem doneAside (h : Tracks aim held j) (result : Outcome) (aimless : aim w.kind = none) :
    Tracks aim held (⟨.done w result, v⟩ :: j) := by
  refine h.aside (targets_done_of_none result aimless) ?_
  rintro w' result' ⟨⟩
  exact aimless

/-- A worker is started for a target that is not on the list, which then goes on it. -/
theorem start (h : Tracks aim held j) (aimed : aim w.kind = some t) (fresh : t ∉ held) :
    Tracks aim (t :: held) (⟨.told w .start, v⟩ :: j) := by
  have new : t ∉ targets aim j := fun inside => fresh (h.mem_iff.2 inside)
  refine h.cons ?_ ?_ (by simp)
  · rw [targets_start aimed]
    exact h.perm.cons t
  · rw [targets_start aimed]
    exact List.nodup_cons.2 ⟨new, h.single j (List.suffix_refl j)⟩

/-- A worker that is under way is done, and its target goes off the list. -/
theorem done [DecidableEq τ] (h : Tracks aim held j) (result : Outcome) (aimed : aim w.kind = some t) (inside : w ∈ running j) :
    Tracks aim (held.filter (· ≠ t)) (⟨.done w result, v⟩ :: j) := by
  have moved : (targets aim j).Perm (t :: targets aim (⟨.done w result, v⟩ :: j)) := perm_erase_running aimed inside
  have left : held.Perm (t :: targets aim (⟨.done w result, v⟩ :: j)) := h.perm.trans moved
  obtain ⟨gone, nodup⟩ := List.nodup_cons.1 (left.nodup_iff.1 h.nodup)
  have rest := left.filter (· ≠ t)
  rw [List.filter_cons_of_neg (by simp)] at rest
  have all : (targets aim (⟨.done w result, v⟩ :: j)).filter (· ≠ t) = targets aim (⟨.done w result, v⟩ :: j) := by
    refine List.filter_eq_self.2 fun other there => ?_
    have differs : other ≠ t := by
      rintro rfl
      exact gone there
    simpa using differs
  rw [all] at rest
  refine h.cons rest nodup ?_
  rintro w' result' ⟨⟩ -
  exact inside

/-- A worker was started for a target only when none was under way for it. -/
theorem fresh (h : Tracks aim held j) {past : List (Line σ)} (before : ⟨.told w .start, v⟩ :: past <:+ j)
    (aimed : aim w.kind = some t) : t ∉ targets aim past := by
  have nodup := h.single _ before
  rw [targets_start aimed] at nodup
  exact (List.nodup_cons.1 nodup).1

/-- When a worker is done, none is under way for its target from then on. -/
theorem ended (h : Tracks aim held j) {past : List (Line σ)} {result : Outcome} (last : j = ⟨.done w result, v⟩ :: past)
    (aimed : aim w.kind = some t) : t ∉ targets aim j := by
  subst last
  have inside : w ∈ running past := h.honest w result v past (List.suffix_refl _) (by simp [aimed])
  have before : (targets aim past).Nodup := h.single past (List.suffix_cons _ past)
  have moved : (targets aim past).Perm (t :: targets aim (⟨.done w result, v⟩ :: past)) := perm_erase_running aimed inside
  exact (List.nodup_cons.1 (moved.nodup_iff.1 before)).1

/-- A list with the same targets does as well. -/
theorem of_perm (h : Tracks aim held j) {held' : List τ} (same : held'.Perm held) : Tracks aim held' j :=
  ⟨same.trans h.perm, h.single, h.honest⟩

end Tracks

end Workshop

/-! ## The list that a catalog is -/

namespace Catalog

variable {τ ω : Type}

/-- The targets that a catalog has workers for. -/
def targets (c : Catalog τ ω) : List τ := c.entries.map (·.1)

theorem size_eq_length_targets (c : Catalog τ ω) : c.size = c.targets.length := (List.length_map _).symm

variable [DecidableEq τ] {c : Catalog τ ω} {t : τ}

theorem contains_iff : c.contains t = true ↔ t ∈ c.targets := by simp [contains, targets]

theorem targets_remove : (c.remove t).2.targets = c.targets.filter (· ≠ t) := by
  simp [remove, targets, List.filter_map, Function.comp_def]

/-- A worker goes in for a target that has none. -/
theorem insertIfAbsent_of_fresh (fresh : c.contains t = false) (w : ω) :
    c.insertIfAbsent t w = (true, ⟨c.entries ++ [(t, w)]⟩) := by
  simp [insertIfAbsent, fresh]

end Catalog

end FlagKeeper
