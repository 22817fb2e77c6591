import Mathlib.Data.List.Perm.Basic
import FlagKeeper.Proofs.Segments.Notifications

/-!
# Delayed notifications, in whichever order they come

A delayed notification is stale, or left to the timer that is pending, or left to a worker under way, or it sets the timer: which of
these hangs on those before it. What some of them leave behind together does not (`Scene.Gathered`). No target under way is ever
beyond the target of the synchronizer, so once the target was raised past those under way, it is under way no more, however far it is
raised. Hence the timer is pending in the end if and only if something new came and the maximum of all of it is not under way; and a
maximum does not hang on the order.
-/

namespace FlagKeeper

namespace ChangeNumbers

variable {a b : ChangeNumbers} {bs cs : List ChangeNumbers}

theorem AtMost.antisymm (h : a.AtMost b) (h' : b.AtMost a) : a = b := by
  have segments : a.segments = b.segments := Int.le_antisymm h.1 h'.1
  have largeSegments : a.largeSegments = b.largeSegments := Int.le_antisymm h.2 h'.2
  cases a
  cases b
  exact congrArg₂ mk segments largeSegments

/-- The largest number of each kind among a pair and some others. -/
def largest (a : ChangeNumbers) (bs : List ChangeNumbers) : ChangeNumbers :=
  ⟨(bs.map (·.segments)).foldr max a.segments, (bs.map (·.largeSegments)).foldr max a.largeSegments⟩

theorem largest_cons : a.largest (b :: bs) = (a.largest bs).merge b := by simp [largest, merge, Int.max_comm]

theorem atMost_largest_cons : (a.largest bs).AtMost (a.largest (b :: bs)) := by
  rw [largest_cons]
  exact atMost_merge

theorem atMost_largest : a.AtMost (a.largest bs) := by
  induction bs with
  | nil => exact .refl a
  | cons b bs ih => exact ih.trans atMost_largest_cons

/-- The order does not matter. -/
theorem largest_perm (same : bs.Perm cs) : a.largest bs = a.largest cs := by
  unfold largest
  rw [(same.map (·.segments)).foldr_eq, (same.map (·.largeSegments)).foldr_eq]

end ChangeNumbers

namespace SegmentSync

/-- A notification about segments. -/
structure Notice where
  target : ChangeNumbers
  delay : Duration

/-- Whether an input leaves the target and the timer alone. -/
def Input.isQuiet : Input → Bool
  | .tell (.force _ _) => false
  | .tell .destroy => false
  | .timer _ => false
  | _ => true

namespace Scene

/-- The scene after some notifications came and nothing else happened, the latest first. -/
def notified (s : Scene) (notices : List Notice) : Scene := s.after (notices.map fun n => .tell (.force n.target n.delay))

/-- What some notifications ask for, but for those that bring nothing new. -/
def news (s : Scene) (notices : List Notice) : List ChangeNumbers :=
  (notices.map (·.target)).filter fun target => target.isNewerThan s.stored

/-- Some notifications raised the target. -/
def raisedBy (s : Scene) (news : List ChangeNumbers) : Scene :=
  { s with state := { s.state with target := s.state.target.largest news } }

/-- What delayed notifications leave behind that bring some news: the target is raised, and unless it is under way, the timer is
set. -/
inductive Gathered (s : Scene) (news : List ChangeNumbers) : Scene → Prop where
  | idle (held : news = [] ∨ s.state.catalog.contains (s.state.target.largest news) = true) : Gathered s news (s.raisedBy news)
  | armed (some : news ≠ []) (fresh : s.state.catalog.contains (s.state.target.largest news) = false) (delay : Duration) :
      Gathered s news ((s.raisedBy news).armed delay)

namespace Gathered

variable {s s' : Scene} {news : List ChangeNumbers}

theorem stored (h : s.Gathered news s') : s'.stored = s.stored := by cases h <;> rfl

theorem target (h : s.Gathered news s') : s'.state.target = s.state.target.largest news := by cases h <;> rfl

theorem catalog (h : s.Gathered news s') : s'.state.catalog = s.state.catalog := by cases h <;> rfl

theorem destroyed (h : s.Gathered news s') : s'.state.destroyed = s.state.destroyed := by cases h <;> rfl

theorem shop (h : s.Gathered news s') : s'.shop = s.shop := by cases h <;> rfl

theorem slot (h : s.Gathered news s') (slot : s.state.timers.IsSlot .syncSegments) : s'.state.timers.IsSlot .syncSegments := by
  cases h with
  | idle => exact slot
  | armed => exact slot.add _ _ _

/-- The order of the news does not matter. -/
theorem perm (h : s.Gathered news s') {news' : List ChangeNumbers} (same : news.Perm news') : s.Gathered news' s' := by
  have largest : s.state.target.largest news = s.state.target.largest news' := ChangeNumbers.largest_perm same
  have raised : s.raisedBy news = s.raisedBy news' := by
    unfold raisedBy
    rw [largest]
  cases h with
  | idle held =>
    rw [largest] at held
    rw [raised]
    refine .idle (held.imp_left fun nothing => ?_)
    rw [nothing] at same
    exact List.nil_perm.1 same
  | armed some fresh delay =>
    rw [largest] at fresh
    rw [raised]
    refine .armed (fun nothing => some ?_) fresh delay
    rw [nothing] at same
    exact List.perm_nil.1 same

/-- News either leave the timer alone or set it. -/
theorem apart (held : news = [] ∨ s.state.catalog.contains (s.state.target.largest news) = true) (some : news ≠ [])
    (fresh : s.state.catalog.contains (s.state.target.largest news) = false) : False :=
  held.elim some fun kept => Bool.false_ne_true (fresh.symm.trans kept)

/-- What the same news leave behind is the same but for the delay of the timer. -/
theorem alike {one other : Scene} (h : s.Gathered news one) (h' : s.Gathered news other) :
    one = other ∨ ∃ delay delay', one = (s.raisedBy news).armed delay ∧ other = (s.raisedBy news).armed delay' := by
  cases h with
  | idle held =>
    cases h' with
    | idle => exact .inl rfl
    | armed some fresh => exact (apart held some fresh).elim
  | armed some fresh delay =>
    cases h' with
    | idle held => exact (apart held some fresh).elim
    | armed _ _ delay' => exact .inr ⟨delay, delay', rfl, rfl⟩

end Gathered

/-! ## What notifications leave behind together -/

section Gathering

variable {s s' : Scene} {news : List ChangeNumbers} {target : ChangeNumbers} {delay : Duration} {notices notices' : List Notice}

theorem news_cons_of_newer {n : Notice} (newer : n.target.isNewerThan s.stored = true) :
    s.news (n :: notices) = n.target :: s.news notices := by simp [Scene.news, newer]

theorem news_cons_of_stale {n : Notice} (stale : ¬ n.target.isNewerThan s.stored = true) :
    s.news (n :: notices) = s.news notices := by simp [Scene.news, stale]

theorem news_perm (same : notices.Perm notices') : (s.news notices).Perm (s.news notices') := (same.map _).filter _

theorem raisedBy_raised : (s.raisedBy news).raised target = s.raisedBy (target :: news) := by
  unfold raisedBy
  rw [ChangeNumbers.largest_cons]
  rfl

theorem armed_raised : ((s.raisedBy news).armed delay).raised target = (s.raisedBy (target :: news)).armed delay := by
  rw [← raisedBy_raised]
  rfl

/-- A target that is not under way stays so when it is raised. -/
theorem fresh_cons (bounded : ∀ t, s.state.catalog.contains t = true → t.AtMost s.state.target)
    (fresh : s.state.catalog.contains (s.state.target.largest news) = false) :
    s.state.catalog.contains (s.state.target.largest (target :: news)) = false := by
  rw [← Bool.not_eq_true]
  intro held
  -- A target under way is not beyond the old one, so nothing of the news is.
  have back : (s.state.target.largest (target :: news)).AtMost (s.state.target.largest news) :=
    (bounded _ held).trans ChangeNumbers.atMost_largest
  rw [back.antisymm ChangeNumbers.atMost_largest_cons, fresh] at held
  cases held

variable (alive : s.state.destroyed = false) (enabled : s.syncEnabled = true)
  (slot : s.state.timers.IsSlot .syncSegments) (unset : s.state.timers.isScheduled .syncSegments = false)
  (bounded : ∀ t, s.state.catalog.contains t = true → t.AtMost s.state.target)
include alive enabled slot unset bounded

/-- One more notification comes. -/
theorem Gathered.force (h : s.Gathered news s') (newer : target.isNewerThan s.stored = true) (delayed : delay.isZero = false) :
    s.Gathered (target :: news) (s'.take (.tell (.force target delay))) := by
  have merged : (s.state.target.largest news).merge target = s.state.target.largest (target :: news) :=
    ChangeNumbers.largest_cons.symm
  cases h with
  | idle =>
    have taken : (s.raisedBy news).take (.tell (.force target delay)) = _ := take_force alive enabled newer
    rw [raisedBy_raised] at taken
    change _ = if (s.state.timers.isScheduled .syncSegments ||
      s.state.catalog.contains ((s.state.target.largest news).merge target)) = true then _ else _ at taken
    rw [unset, merged, delayed, Bool.false_or, if_neg Bool.false_ne_true] at taken
    rw [taken]
    by_cases held : s.state.catalog.contains (s.state.target.largest (target :: news)) = true
    · rw [if_pos held]
      exact .idle (.inr held)
    · rw [if_neg held]
      exact .armed (List.cons_ne_nil _ _) (by simpa using held) delay
  | armed some fresh set =>
    have pending : ((s.raisedBy news).armed set).state.timers.isScheduled .syncSegments = true :=
      slot.isScheduled_add _ _ _
    have taken : ((s.raisedBy news).armed set).take (.tell (.force target delay)) = _ := take_force alive enabled newer
    rw [taken, pending, Bool.true_or, if_pos rfl, armed_raised]
    exact .armed (List.cons_ne_nil _ _) (fresh_cons bounded fresh) set

/-- Some notifications come. -/
theorem gathered (delayed : ∀ n ∈ notices, n.delay.isZero = false) : s.Gathered (s.news notices) (s.notified notices) := by
  induction notices with
  | nil => exact .idle (.inl rfl)
  | cons n earlier ih =>
    have before := ih fun n inside => delayed n (List.mem_cons_of_mem _ inside)
    show s.Gathered _ ((s.notified earlier).take (.tell (.force n.target n.delay)))
    by_cases newer : n.target.isNewerThan s.stored = true
    · rw [news_cons_of_newer newer]
      exact before.force alive enabled slot unset bounded newer (delayed n List.mem_cons_self)
    · rw [news_cons_of_stale newer]
      rw [take_force_ignored (.inr (.inr (by simpa [before.stored] using newer)))]
      exact before

end Gathering

/-- The timer is pending if and only if something new came and what it comes to is not under way. -/
theorem Gathered.pending_iff {s s' : Scene} {news : List ChangeNumbers} (h : s.Gathered news s')
    (slot : s.state.timers.IsSlot .syncSegments) (unset : s.state.timers.isScheduled .syncSegments = false) :
    s'.state.timers.isScheduled .syncSegments = true ↔
      news ≠ [] ∧ s.state.catalog.contains (s.state.target.largest news) = false := by
  cases h with
  | idle held =>
    have off : ¬ (s.raisedBy news).state.timers.isScheduled .syncSegments = true := (Bool.not_eq_true _).mpr unset
    refine iff_of_false off ?_
    rintro ⟨some, fresh⟩
    exact apart held some fresh
  | armed some fresh delay => exact iff_of_true (slot.isScheduled_add _ _ _) ⟨some, fresh⟩

/-! ## What happens until the timer runs out -/

/-- Of a scene that comes later, the target and the timer are what they were, and no target came under way. -/
structure Lull (s s' : Scene) : Prop where
  target : s'.state.target = s.state.target
  timers : s'.state.timers = s.state.timers
  destroyed : s'.state.destroyed = s.state.destroyed
  fewer : ∀ t, s'.state.catalog.contains t = true → s.state.catalog.contains t = true

namespace Lull

variable {s s' s'' : Scene} {w : Worker}

theorem refl (s : Scene) : s.Lull s := ⟨rfl, rfl, rfl, fun _ held => held⟩

theorem trans (a : s.Lull s') (b : s'.Lull s'') : s.Lull s'' :=
  ⟨b.target.trans a.target, b.timers.trans a.timers, b.destroyed.trans a.destroyed, fun t held => a.fewer t (b.fewer t held)⟩

theorem of_same (same : s'.state = s.state) : s.Lull s' := by
  refine ⟨by rw [same], by rw [same], by rw [same], ?_⟩
  rw [same]
  exact fun _ held => held

theorem finished (w : Worker) (result : Outcome) : s.Lull (s.finished w result) := by
  refine ⟨target_settled, timers_settled, destroyed_settled, ?_⟩
  intro t held
  change (s.settled w.kind).catalog.contains t = true at held
  cases kind : w.kind with
  | segmentsUpdate key target =>
    rw [kind, Catalog.contains_iff] at held
    change t ∈ (s.state.catalog.remove target).2.targets at held
    rw [Catalog.targets_remove] at held
    exact Catalog.contains_iff.2 (List.mem_filter.1 held).1
  | _ =>
    rw [kind] at held
    exact held

theorem started : s.Lull (s.started w) := by
  have told : s.Lull (s.wrote (.told w .start)) := .of_same rfl
  rcases started_cases s w with same | ⟨result, -, same⟩ <;> rw [same]
  · exact told
  · exact told.trans (.finished w result)

/-- A quiet turn. -/
theorem turn {i : Input} (turn : s.Turn i s') (quiet : i.isQuiet = true) : s.Lull s' := by
  cases turn with
  | aside state => exact .of_same state
  | periodic order =>
    rcases s.periodicTold_cases order with same | ⟨w, -, same | ⟨-, same⟩⟩ <;> rw [same]
    · exact .refl s
    · exact .started
    · exact .of_same rfl
  | refresh =>
    have marked : s.Lull s.marked := ⟨rfl, rfl, rfl, fun _ held => held⟩
    exact marked.trans .started
  | finish => exact .finished _ _
  | merge => cases quiet
  | now => cases quiet
  | later => cases quiet
  | ring => cases quiet
  | close => cases quiet

/-- Some quiet turns. -/
theorem after (s : Scene) {later : List Input} (quiet : ∀ i ∈ later, i.isQuiet = true) : s.Lull (s.after later) := by
  induction later with
  | nil => exact .refl s
  | cons i past ih =>
    have before := ih fun i inside => quiet i (List.mem_cons_of_mem _ inside)
    exact before.trans (turn ((s.after past).turn i) (quiet i List.mem_cons_self))

end Lull

/-- Since `past`, a worker for a target was made and started, and may be done already; nothing else was written down. -/
def Began (past : List (Workshop.Line ChangeNumbers)) (w : Worker) (target : ChangeNumbers)
    (journal : List (Workshop.Line ChangeNumbers)) : Prop :=
  journal = ⟨.told w .start, target⟩ :: ⟨.made w, target⟩ :: past ∨
    ∃ result, journal = ⟨.done w result, target⟩ :: ⟨.told w .start, target⟩ :: ⟨.made w, target⟩ :: past

theorem began_launched (s : Scene) (target : ChangeNumbers) :
    Began s.shop.journal (s.nextWorker target) s.state.target (s.launched target).shop.journal := by
  unfold Scene.launched
  rcases (s.entered target).started_cases (s.nextWorker target) with same | ⟨result, -, same⟩ <;> rw [same]
  · exact .inl rfl
  · exact .inr ⟨result, rfl⟩

/-- The timer runs out, and the target is not under way. -/
theorem began_timer {s : Scene} {id : Nat} (due : (s.state.timers.wake id).1.isSome = true)
    (alive : s.state.destroyed = false) (fresh : s.state.catalog.contains s.state.target = false) :
    Began s.shop.journal (s.nextWorker s.state.target) s.state.target (s.take (.timer id)).shop.journal := by
  have reached : (s.rung id).reached s.state.target = (s.rung id).launched s.state.target := by
    unfold Scene.reached
    exact if_neg (by simp [rung, alive, fresh])
  rw [take_timer, if_pos due, reached]
  exact began_launched (s.rung id) s.state.target

/-- If delayed notifications left the timer pending, it brings all their news under way. -/
theorem Gathered.fires {s s' : Scene} {news : List ChangeNumbers} (h : s.Gathered news s')
    (slot : s.state.timers.IsSlot .syncSegments) (unset : s.state.timers.isScheduled .syncSegments = false)
    (alive : s.state.destroyed = false) (pending : s'.state.timers.isScheduled .syncSegments = true) :
    ∃ id, (∀ id', (s'.state.timers.wake id').1.isSome = true ↔ id' = id) ∧
      ∀ later, (∀ i ∈ later, i.isQuiet = true) →
        ∃ w, w.kind = .segmentsUpdate (s'.after later).key (s.state.target.largest news) ∧
          Began (s'.after later).shop.journal w (s.state.target.largest news)
            ((s'.after later).take (.timer id)).shop.journal := by
  obtain ⟨id, one⟩ := (h.slot slot).wakes_one pending
  refine ⟨id, one, fun later quiet => ?_⟩
  have lull : s'.Lull (s'.after later) := .after s' quiet
  have target : (s'.after later).state.target = s.state.target.largest news := lull.target.trans h.target
  have due : ((s'.after later).state.timers.wake id).1.isSome = true := by
    rw [lull.timers]
    exact (one id).2 rfl
  have alive' : (s'.after later).state.destroyed = false := lull.destroyed.trans (h.destroyed.trans alive)
  have fresh : (s'.after later).state.catalog.contains (s'.after later).state.target = false := by
    have before := ((h.pending_iff slot unset).1 pending).2
    rw [← h.catalog] at before
    rw [target, ← Bool.not_eq_true]
    intro held
    exact Bool.false_ne_true (before.symm.trans (lull.fewer _ held))
  rw [← target]
  exact ⟨_, rfl, began_timer due alive' fresh⟩

end Scene

section Runs

open Scene (Began)

variable {u : Setup} {inputs : List Input}

/-- No target under way is beyond the target of the synchronizer. -/
theorem Setup.bounded (enabled : u.syncEnabled = true) (spared : .tell .destroy ∉ inputs) (t : ChangeNumbers)
    (held : (u.after inputs).state.catalog.contains t = true) : t.AtMost (u.after inputs).state.target :=
  (List.pairwise_cons.1 (u.follows enabled spared).chain).1 t ((u.sound inputs).underWay held)

theorem Setup.gathered (enabled : u.syncEnabled = true) (alive : (u.after inputs).state.destroyed = false)
    (unset : (u.after inputs).state.timers.isScheduled .syncSegments = false) {notices : List Notice}
    (delayed : ∀ n ∈ notices, n.delay.isZero = false) :
    (u.after inputs).Gathered ((u.after inputs).news notices) ((u.after inputs).notified notices) := by
  have spared := u.spared alive
  exact Scene.gathered alive (u.follows enabled spared).enabled (u.sound inputs).slot unset (u.bounded enabled spared) delayed

/-- **Delayed notifications commute.** When delayed notifications come all at once to a segment synchronizer that refreshes, is not
destroyed and has no timer pending, then in whichever order they come:

1. The target is, for each kind of segments, the maximum of what it was and of all notifications that brought something new.
2. The targets under way stay as they were.
3. The timer is pending after the one order just if it is after the other: if something new came and the target is not under way.
4. Both orders leave the same behind, but for the delay that the timer was set to; and nothing was written down.
5. If the timer is pending, one timer can run out; and when it does, after whatever happened in between that was neither a
   notification nor the end, just one worker is made and started, which is for the target of 1. -/
theorem delayed_notifications_commute (u : Setup) (inputs : List Input) (notices notices' : List Notice)
    (enabled : u.syncEnabled = true) (alive : (u.after inputs).state.destroyed = false)
    (unset : (u.after inputs).state.timers.isScheduled .syncSegments = false)
    (delayed : ∀ n ∈ notices, n.delay.isZero = false) (same : notices.Perm notices') :
    let s := u.after inputs
    let one := s.notified notices
    let other := s.notified notices'
    let top := s.state.target.largest (s.news notices)
    (one.state.target = top ∧ other.state.target = top) ∧
    (one.state.catalog = s.state.catalog ∧ other.state.catalog = s.state.catalog) ∧
    (one.state.timers.isScheduled .syncSegments = other.state.timers.isScheduled .syncSegments ∧
      (one.state.timers.isScheduled .syncSegments = true ↔ s.news notices ≠ [] ∧ s.state.catalog.contains top = false)) ∧
    (one = other ∨ ∃ delay delay', one = (s.raisedBy (s.news notices)).armed delay ∧
      other = (s.raisedBy (s.news notices)).armed delay') ∧
    (one.shop = s.shop ∧ other.shop = s.shop) ∧
    ∀ s' ∈ [one, other], s'.state.timers.isScheduled .syncSegments = true →
      ∃ id, (∀ id', (s'.state.timers.wake id').1.isSome = true ↔ id' = id) ∧
        ∀ later, (∀ i ∈ later, i.isQuiet = true) →
          ∃ w, w.kind = .segmentsUpdate (s'.after later).key top ∧
            Began (s'.after later).shop.journal w top ((s'.after later).take (.timer id)).shop.journal := by
  intro s one other top
  have slot : s.state.timers.IsSlot .syncSegments := (u.sound inputs).slot
  have first : s.Gathered (s.news notices) one := u.gathered enabled alive unset delayed
  have second : s.Gathered (s.news notices) other := by
    have late : ∀ n ∈ notices', n.delay.isZero = false := fun n inside => delayed n (same.mem_iff.2 inside)
    exact (u.gathered enabled alive unset late).perm (Scene.news_perm same.symm)
  have pending_iff := first.pending_iff slot unset
  refine ⟨⟨first.target, second.target⟩, ⟨first.catalog, second.catalog⟩, ⟨?_, pending_iff⟩, first.alike second,
    ⟨first.shop, second.shop⟩, ?_⟩
  · rw [Bool.eq_iff_iff]
    exact pending_iff.trans (second.pending_iff slot unset).symm
  · intro s' either pending
    rcases List.mem_pair.1 either with rfl | rfl
    · exact first.fires slot unset alive pending
    · exact second.fires slot unset alive pending

/-- While a worker is under way, two notifications come and one that brings nothing new; the one order sets the timer for ten
seconds, the other for one. A worker for both is made when the timer runs out. -/
theorem delayed_notifications_commute_crossed :
    let s := Setup.standard.after [.tell (.force ⟨3, 1⟩ .zero)]
    let one := s.notified [⟨⟨5, 0⟩, .ofSecs 1⟩, ⟨⟨2, 9⟩, .ofSecs 10⟩, ⟨⟨-1, -1⟩, .ofSecs 5⟩]
    let other := s.notified [⟨⟨2, 9⟩, .ofSecs 10⟩, ⟨⟨-1, -1⟩, .ofSecs 5⟩, ⟨⟨5, 0⟩, .ofSecs 1⟩]
    one.state.target = ⟨5, 9⟩ ∧ other.state.target = ⟨5, 9⟩ ∧
      one.state.timers.isScheduled .syncSegments = true ∧ other.state.timers.isScheduled .syncSegments = true ∧
      ∃ id w, w.kind.segmentTarget? = some ⟨5, 9⟩ ∧
        Began (one.after [.advance (.ofSecs 10)]).shop.journal w ⟨5, 9⟩
          ((one.after [.advance (.ofSecs 10)]).take (.timer id)).shop.journal := by
  have commute := delayed_notifications_commute Setup.standard [.tell (.force ⟨3, 1⟩ .zero)]
    [⟨⟨5, 0⟩, .ofSecs 1⟩, ⟨⟨2, 9⟩, .ofSecs 10⟩, ⟨⟨-1, -1⟩, .ofSecs 5⟩]
    [⟨⟨2, 9⟩, .ofSecs 10⟩, ⟨⟨-1, -1⟩, .ofSecs 5⟩, ⟨⟨5, 0⟩, .ofSecs 1⟩] rfl rfl rfl (by decide)
    (.trans (.swap _ _ _) (.cons _ (.swap _ _ _)))
  have top : (Setup.standard.after [.tell (.force ⟨3, 1⟩ .zero)]).state.target.largest
      ((Setup.standard.after [.tell (.force ⟨3, 1⟩ .zero)]).news
        [⟨⟨5, 0⟩, .ofSecs 1⟩, ⟨⟨2, 9⟩, .ofSecs 10⟩, ⟨⟨-1, -1⟩, .ofSecs 5⟩]) = ⟨5, 9⟩ := by decide +kernel
  dsimp only at commute
  rw [top] at commute
  obtain ⟨target, -, ⟨alike, pending_iff⟩, -, -, fires⟩ := commute
  have pending := pending_iff.2 (by decide +kernel)
  obtain ⟨id, -, soon⟩ := fires _ List.mem_cons_self pending
  obtain ⟨w, kind, began⟩ := soon [.advance (.ofSecs 10)] (by simp [Input.isQuiet])
  refine ⟨target.1, target.2, pending, alike ▸ pending, id, w, ?_, began⟩
  rw [kind]
  rfl

end Runs

end SegmentSync

end FlagKeeper
