import FlagKeeper.Proofs.Ensemble.Ledger
import FlagKeeper.Proofs.Keeps

/-!
# What the programs of a client keep

What a program of a client keeps follows from what the operations of the host keep and from what the parts do with their own places.

The property that the parts below the manager are followed with is `Since`: the books have come to where they are by steps of some
pace. An operation that does not concern the books keeps it at any pace.
-/

namespace FlagKeeper.Ensemble

/-- An ensemble after a call was written down. -/
def note (s : Ensemble) (c : Call) : Ensemble := { s with ground := s.ground.note c }

/-- An ensemble after some calls were written down, the latest first. -/
def noteAll (s : Ensemble) (calls : List Call) : Ensemble :=
  { s with ground := { s.ground with calls := calls ++ s.ground.calls } }

theorem run_bind {α β : Type} {s : Ensemble} (x : Playing α) (f : α → Playing β) :
    (x >>= f).run s = (f (x.run s).1).run (x.run s).2 := rfl

namespace Keeps

variable {P : Ensemble → Prop} {α β σ : Type}

/-- Looking at a place changes nothing. -/
theorem get (read : Ensemble → σ) (write : σ → Ensemble → Ensemble) : Keeps P (part read write).get := fun _ h => h

/-- Going on with what a place holds. -/
theorem get_bind {read : Ensemble → σ} {write : σ → Ensemble → Ensemble} {f : σ → Playing β}
    (next : ∀ s, P s → P ((f (read s)).run s).2) : Keeps P ((part read write).get >>= f) := next

/-- Going on only if something holds of what a place holds. -/
theorem check {read : Ensemble → σ} {write : σ → Ensemble → Ensemble} {c : σ → Prop} [∀ v, Decidable (c v)] {f : σ → Playing Unit}
    (kept : ∀ v, Keeps P (f v)) : Keeps P ((part read write).get >>= fun v => if c v then f v else Pure.pure ()) :=
  Keeps.bind (get _ _) fun v => Keeps.ite (kept v) (Keeps.pure _)

/-- Changing a place. -/
theorem modify {read : Ensemble → σ} {write : σ → Ensemble → Ensemble} {f : σ → σ} (kept : ∀ s, P s → P (write (f (read s)) s)) :
    Keeps P ((part read write).modify f) := kept

theorem answer (ask : Answers → List Call → α) : Keeps P (Ground.answer hostCell ask) := fun _ h => h

end Keeps

section Guards

variable {P : Ensemble → Prop} {s : Ensemble} {σ : Type} {c : σ → Prop} [∀ v, Decidable (c v)] {x : Playing σ} {v : σ}
  {f : σ → Playing Unit}

/-- A program that finds something out first, which changes nothing, and then may leave it at that. -/
theorem after_guard (quiet : x.run s = (v, s)) (h : P s) (next : ¬c v → P ((f v).run s).2) :
    P ((x >>= fun v => if c v then pure () else f v).run s).2 := by
  rw [run_bind, quiet]
  by_cases stays : c v
  · rw [if_pos stays]
    exact h
  · rw [if_neg stays]
    exact next stays

/-- A program that goes on only if something holds that it finds out first. -/
theorem after_check (quiet : x.run s = (v, s)) (h : P s) (next : c v → P ((f v).run s).2) :
    P ((x >>= fun v => if c v then f v else pure ()).run s).2 := by
  rw [run_bind, quiet]
  by_cases goes : c v
  · rw [if_pos goes]
    exact next goes
  · rw [if_neg goes]
    exact h

end Guards

/-! ## The books -/

/-- The books have come from some earlier ones by steps of a pace. -/
def Since (p : Ledger.Pace) (l : Ledger) (s : Ensemble) : Prop := Relation.ReflTransGen (Ledger.Step p) l s.ledger

section Since

variable {p : Ledger.Pace} {l : Ledger} {s s' : Ensemble}

theorem Since.of_eq (h : Since p l s) (same : s'.ledger = s.ledger) : Since p l s' := by
  unfold Since
  rw [same]
  exact h

theorem Since.of_step (h : Since p l s) (step : Ledger.Step p s.ledger s'.ledger) : Since p l s' := h.tail step

end Since

/-- A call that tells no worker to stop does not concern the books. -/
theorem ledger_note {s : Ensemble} {c : Call} (aside : c.stop? = none) : (s.note c).ledger = s.ledger := by
  have same : stops (c :: s.ground.calls) = stops s.ground.calls := by
    unfold stops
    rw [List.filterMap_cons, aside]
  unfold ledger note Ground.note
  rw [same]

/-- The desk of the flags is the first. -/
theorem desk_flags (s : Ensemble) : s.ledger.desk 0 = flagsDesk s.flags := rfl

/-- Each identity has its desk. -/
theorem desk_segments (s : Ensemble) (bundle : BundleId) :
    s.ledger.desk (bundle + 1) = segmentsDesk (s.identity bundle).segments := by
  unfold Ledger.desk ledger identity
  rw [List.getElem?_cons_succ, List.getElem?_map]
  cases s.identities[bundle]? <;> rfl

theorem ledger_setSegments (s : Ensemble) (bundle : BundleId) (st : SegmentSync.State) :
    (s.setSegments bundle st).ledger = s.ledger.put (bundle + 1) (segmentsDesk st) := by
  have moved (items : List Identity) (i : Nat) :
      (items.modify i fun it => { it with segments := st }).map (fun it => segmentsDesk it.segments) =
        (items.map fun it => segmentsDesk it.segments).set i (segmentsDesk st) := by
    induction items generalizing i with
    | nil => simp
    | cons it rest ih =>
      cases i with
      | zero => rfl
      | succ i => simp [ih]
  unfold ledger setSegments Ledger.put
  rw [List.set_cons_succ, moved]

namespace Keeps

variable {p : Ledger.Pace} {l : Ledger} {α σ : Type}

/-- Changing a place that does not concern the books. -/
theorem modify_aside {read : Ensemble → σ} {write : σ → Ensemble → Ensemble} {f : σ → σ}
    (same : ∀ s, (write (f (read s)) s).ledger = s.ledger) : Keeps (Since p l) ((part read write).modify f) :=
  fun s h => h.of_eq (same s)

theorem step_aside {read : Ensemble → σ} {write : σ → Ensemble → Ensemble} {f : σ → α × σ}
    (same : ∀ s, (write (f (read s)).2 s).ledger = s.ledger) : Keeps (Since p l) ((part read write).step f) :=
  fun s h => h.of_eq (same s)

/-- Serving a call that tells no worker to stop. -/
theorem serve_aside {c : Call} (aside : c.stop? = none) : Keeps (Since p l) (Ground.serve hostCell c) :=
  fun _ h => h.of_eq (ledger_note aside)

theorem serveWith_aside {c : Call} (aside : c.stop? = none) (ask : Answers → List Call → α) :
    Keeps (Since p l) (Ground.serveWith hostCell c ask) := fun _ h => h.of_eq (ledger_note aside)

theorem later (job : Job) : Keeps (Since p l) (Ensemble.later job) := fun _ h => h

theorem broadcast (e : StatusEvent) : Keeps (Since p l) (Ensemble.broadcast e) := fun _ h => h

end Keeps

end FlagKeeper.Ensemble
