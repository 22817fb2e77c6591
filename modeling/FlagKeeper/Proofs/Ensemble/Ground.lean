import FlagKeeper.Synchronizer

/-!
# A plain host for every part

A host that writes down every call and answers as it likes: an answer is any function of the calls so far (`Answers`). The workers
that it makes are numbered in the order in which they are made. A worker may be done as soon as it is started; what is then to be
done is given to the host.

The operations of the host are programs over any monad that has a place for it, so that the same host serves a part that is being
made and a client that is whole.
-/

namespace FlagKeeper.Ensemble

/-- What the parts of a client ask of their host that shows outside. -/
inductive Call where
  | create (w : Worker)
  | tell (w : Worker) (order : WorkerOrder)
  | push (order : PushOrder)
  | loadFlags
  | setChangeNumber (n : Int)
  | deleteFlags (names : List String)
  | killFlag (kill : FlagKill)
  | setQueryText (text : String)
  | loadSegments (matching : String)
  | loadLargeSegments (matching : String)
  | loadAttributes (matching : String)
  | destroyAttributes (matching : String)
  /-- A signal of an identity, or of the flags. -/
  | signal (owner : Option BundleId) (signal : Signal)
  | stopSignals (bundle : BundleId)
  | queueImpression (i : Impression)
  | queueEvent (e : TrackedEvent)
  | persistImpressions (enable : Bool)
  | pushCounts (counts : List FeatureCount)
  | readHashes
  | replaceHashes (seen : List SeenImpression)
  | trackUnique (key feature : String)
  | saveUnique
  | impressions (fate : ImpressionFate) (n : Nat)
  | events (fate : EventFate) (n : Nat)
  | mode (mode : SyncMode)
  | event (e : StatusEvent)
  | log (record : LifeRecord)

/-- How a host answers, by the calls so far, the latest first. -/
structure Answers where
  /-- How a call to a store ends. -/
  outcome : List Call → Outcome := fun _ => .ok ()
  kill : List Call → Except SyncError Bool := fun _ => .ok true
  hashes : List Call → Except SyncError (List SeenImpression) := fun _ => .ok []
  flags : List Call → List FeatureFlag := fun _ => []
  changeNumber : List Call → Int := fun _ => -1
  queryText : List Call → Option String := fun _ => none
  segments : List Call → String → Int := fun _ _ => -1
  largeSegments : List Call → String → Int := fun _ _ => -1
  /-- How a worker ends that is done as soon as it is started. -/
  completion : List Call → Option Outcome := fun _ => none

/-- A host: how it answers, how many workers it has made, and the calls so far, the latest first. -/
structure Ground where
  answers : Answers
  made : Nat := 0
  calls : List Call := []

namespace Ground

/-- Writes a call down. -/
def note (g : Ground) (c : Call) : Ground := { g with calls := c :: g.calls }

variable {m : Type → Type} [Monad m] {α : Type} (ground : Cell m Ground)

/-- Answers from the calls so far. -/
def answer (ask : Answers → List Call → α) : m α := do
  let g ← ground.get
  return ask g.answers g.calls

/-- Serves a call that nothing is to be answered to. -/
def serve (c : Call) : m Unit := ground.modify fun g => g.note c

/-- Serves a call. -/
def serveWith (c : Call) (ask : Answers → List Call → α) : m α := do
  serve ground c
  answer ground ask

/-- The makers of workers, given what is to be done when a worker is done as soon as it is started. -/
def makers (finish : Worker → Outcome → m Unit) : Workers m where
  create kind := do
    let w ← ground.step fun g => (⟨kind, g.made⟩, { g with made := g.made + 1 })
    serve ground (.create w)
    return w
  tell w order := do
    serve ground (.tell w order)
    if order = .start then
      match ← answer ground Answers.completion with
      | some result => finish w result
      | none => return ()

/-- The store of flags. -/
def flagStore : FlagStore m where
  loadLocal := serveWith ground .loadFlags Answers.outcome
  all := answer ground Answers.flags
  changeNumber := answer ground Answers.changeNumber
  setChangeNumber n := serveWith ground (.setChangeNumber n) Answers.outcome
  delete names := serveWith ground (.deleteFlags names) Answers.outcome
  kill k := serveWith ground (.killFlag k) Answers.kill
  queryText := answer ground Answers.queryText
  setQueryText text := serveWith ground (.setQueryText text) Answers.outcome

/-- The store of segments. -/
def segmentStore : SegmentStore m where
  loadLocal matching := serveWith ground (.loadSegments matching) Answers.outcome
  changeNumber matching := answer ground fun a calls => a.segments calls matching

/-- The store of large segments. -/
def largeSegmentStore : SegmentStore m where
  loadLocal matching := serveWith ground (.loadLargeSegments matching) Answers.outcome
  changeNumber matching := answer ground fun a calls => a.largeSegments calls matching

/-- The store of attributes. -/
def attributeStore : AttributeStore m where
  loadLocal matching := serveWith ground (.loadAttributes matching) Answers.outcome
  destroy matching := serve ground (.destroyAttributes matching)

/-- The queue of impressions. -/
def impressionQueue : Queue m Impression where
  push i := serveWith ground (.queueImpression i) Answers.outcome
  setPersistence enable := serve ground (.persistImpressions enable)

/-- The queue of events; what may be persisted is all the same to it. -/
def eventQueue : Queue m TrackedEvent where
  push e := serveWith ground (.queueEvent e) Answers.outcome
  setPersistence _ := return ()

/-- The store of counts. -/
def countStore : CountStore m where
  pushMany counts := serveWith ground (.pushCounts counts) Answers.outcome

/-- The store of hashes. -/
def hashStore : HashStore m where
  all := serveWith ground .readHashes Answers.hashes
  replace seen := serveWith ground (.replaceHashes seen) Answers.outcome

/-- The record of unique keys. -/
def uniqueKeys : UniqueKeys m where
  track key feature := serve ground (.trackUnique key feature)
  saveAndClear := serve ground .saveUnique

/-- Where telemetry goes. -/
def telemetry : TelemetrySink m where
  impressions fate n := serve ground (.impressions fate n)
  events fate n := serve ground (.events fate n)
  syncMode mode := serve ground (.mode mode)
  streamingEvent e := serve ground (.event e)

end Ground

end FlagKeeper.Ensemble
