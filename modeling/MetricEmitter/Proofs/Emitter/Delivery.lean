import MetricEmitter.Context.Emission
import MetricEmitter.Proofs.Delivery.Outlets
import MetricEmitter.Proofs.Emitter.Runs

/-!
# Every flush delivers one document

Whatever comes of the question for the environment, a flush uses one environment
(`Emitter.Settles`) and hands one document to the outlet of that environment,
together with the context the document was made from, whose time is set
(`Emitter.Completes`). Then the next cycle starts.

In a run the flushes are the only steps that deliver anything, and the outlets
take the documents in the order of the flushes (`Session.outlets_run`). So the
outlets hold after a run what they held before and one document for each flush
(`Session.delivers_once`).
-/

set_option autoImplicit false

namespace MetricEmitter

/-- Once its time is set, a context makes the same document at any time. -/
theorem Context.document_pinned (context : Context) (now later : Instant) :
    (context.pinned now).document now = (context.pinned now).document later := rfl

namespace Emitter

/-! ## One flush -/

/-- The environment a flush is to use, and how often the provider is to be asked for the one it
falls back on. -/
inductive Settles (emitter : Emitter) (surroundings : Surroundings) : Environment → Nat → Prop where
  | resolved {environment : Environment}
      (inTime : (emitter.provider.answer surroundings).1.wait.endsWithin emitter.timeout = true)
      (found : (emitter.provider.answer surroundings).1.outcome = .ok environment) :
      Settles emitter surroundings environment 0
  | failed {reason : String}
      (inTime : (emitter.provider.answer surroundings).1.wait.endsWithin emitter.timeout = true)
      (fault : (emitter.provider.answer surroundings).1.outcome = .error reason) :
      Settles emitter surroundings (emitter.provider.fallback surroundings) 1
  | late
      (tooLate : (emitter.provider.answer surroundings).1.wait.endsWithin emitter.timeout = false) :
      Settles emitter surroundings (emitter.provider.fallback surroundings) 1

/-- What a flush owes, whatever the environment. -/
structure Completes (emitter : Emitter) (surroundings : Surroundings) (flushed : Flushed) :
    Prop where
  settles : emitter.Settles surroundings flushed.environment flushed.fallbackCalls
  outlet : flushed.delivery.outlet = flushed.environment.outlet
  pinned : flushed.delivery.capture.context.timestamp.isSome
  /-- The text is that of the document of the context handed over, at whatever time it is made
  again. -/
  text : ∀ later,
    flushed.delivery.capture.text = (flushed.delivery.capture.context.document later).text
  metrics : flushed.emitter.context.metrics = .empty
  properties : flushed.emitter.context.properties = .empty
  timestamp : flushed.emitter.context.timestamp = none
  layers : flushed.emitter.context.layers =
    if emitter.keepsDimensions then flushed.delivery.capture.context.layers
    else flushed.delivery.capture.context.layers.reset true

/-- **A flush uses the environment that is there in time, or else the one the provider falls back
on.** -/
theorem settles_flush (emitter : Emitter) (surroundings : Surroundings) :
    emitter.Settles surroundings (emitter.flush surroundings).environment
      (emitter.flush surroundings).fallbackCalls := by
  change emitter.Settles surroundings
    (((emitter.provider.answer surroundings).1.within emitter.timeout).settled
      (emitter.provider.fallback surroundings)).1
    (((emitter.provider.answer surroundings).1.within emitter.timeout).settled
      (emitter.provider.fallback surroundings)).2
  unfold Answer.within
  split
  · rename_i inTime
    cases outcome : (emitter.provider.answer surroundings).1.outcome with
    | ok environment => exact .resolved inTime outcome
    | error reason => exact .failed inTime outcome
  · rename_i tooLate
    exact .late (Bool.eq_false_iff.mpr tooLate)

/-- **A flush makes one document, whatever comes of the question for the environment.** -/
theorem completes_flush (emitter : Emitter) (surroundings : Surroundings) :
    emitter.Completes surroundings (emitter.flush surroundings) where
  settles := emitter.settles_flush surroundings
  outlet := rfl
  pinned := rfl
  text := fun later => congrArg Document.text (Context.document_pinned _ surroundings.now later)
  metrics := rfl
  properties := rfl
  timestamp := rfl
  layers := rfl

end Emitter

/-! ## Runs -/

def Step.isFlush : Step → Bool
  | .flush _ => true
  | _ => false

namespace Session

/-- The documents delivered in a run, in the order of delivery. -/
def deliveries (session : Session) (steps : List Step) : List Delivery :=
  (session.run steps).2.filterMap fun reply => reply.flushed.map Flushed.delivery

theorem deliveries_append (session : Session) (earlier later : List Step) :
    session.deliveries (earlier ++ later) =
      session.deliveries earlier ++ (session.run earlier).1.deliveries later := by
  rw [deliveries, run_append, List.filterMap_append]
  rfl

theorem deliveries_flush (session : Session) (surroundings : Surroundings) (later : List Step) :
    session.deliveries (.flush surroundings :: later) =
      (session.emitter.flush surroundings).delivery ::
        (session.flush surroundings).1.deliveries later := rfl

theorem deliveries_cons (session : Session) (step : Step) (later : List Step) :
    session.deliveries (step :: later) =
      ((session.step step).2.flushed.map Flushed.delivery).toList ++
        (session.step step).1.deliveries later := by
  cases step <;> rfl

theorem length_deliveries (session : Session) (steps : List Step) :
    (session.deliveries steps).length = steps.countP Step.isFlush := by
  induction steps generalizing session with
  | nil => rfl
  | cons step rest ih =>
      cases step with
      | flush surroundings =>
          rw [deliveries_flush, List.length_cons, ih, List.countP_cons_of_pos rfl]
      | perform operation => exact ih _
      | keepDimensions keep => exact ih _
      | setTimeout timeout => exact ih _

/-- Every document that is delivered is that of a flush. -/
theorem exists_flush_of_mem_deliveries {session : Session} {steps : List Step}
    {delivery : Delivery} (member : delivery ∈ session.deliveries steps) :
    ∃ earlier surroundings later, steps = earlier ++ .flush surroundings :: later ∧
      delivery = ((session.run earlier).1.emitter.flush surroundings).delivery := by
  induction steps generalizing session with
  | nil => cases member
  | cons step rest ih =>
      have after (found : delivery ∈ (session.step step).1.deliveries rest) :
          ∃ earlier surroundings later, step :: rest = earlier ++ .flush surroundings :: later ∧
            delivery = ((session.run earlier).1.emitter.flush surroundings).delivery := by
        obtain ⟨earlier, surroundings, later, parts, made⟩ := ih found
        exact ⟨step :: earlier, surroundings, later, congrArg (step :: ·) parts, made⟩
      cases step with
      | flush surroundings =>
          rw [deliveries_flush, List.mem_cons] at member
          rcases member with first | found
          · exact ⟨[], surroundings, rest, rfl, first⟩
          · exact after found
      | perform operation => exact after member
      | keepDimensions keep => exact after member
      | setTimeout timeout => exact after member

/-- **The outlets take the documents of the flushes, and nothing else.** -/
theorem outlets_run (session : Session) (steps : List Step) :
    (session.run steps).1.outlets = session.outlets.acceptAll (session.deliveries steps) := by
  induction steps generalizing session with
  | nil => rfl
  | cons step rest ih =>
      cases step with
      | flush surroundings => exact ih _
      | perform operation => exact ih _
      | keepDimensions keep => exact ih _
      | setTimeout timeout => exact ih _

/-- What becomes of the flushes of a run and of the outlets. -/
structure DeliversOnce (session : Session) (steps : List Step) : Prop where
  /-- Each flush makes one document, which is delivered after those of the flushes before it and
  before those of the flushes after it. -/
  inOrder : ∀ earlier surroundings later, steps = earlier ++ .flush surroundings :: later →
    let reached := (session.run earlier).1
    let flushed := reached.emitter.flush surroundings
    reached.emitter.Completes surroundings flushed ∧
      session.deliveries steps = session.deliveries earlier ++
        flushed.delivery :: (reached.flush surroundings).1.deliveries later
  /-- Nothing else delivers a document. -/
  onlyFlushes : (session.deliveries steps).length = steps.countP Step.isFlush
  console : (session.run steps).1.outlets.console =
    (OutletId.console.addressed (session.deliveries steps)).foldl
      (fun console capture => (console.writeLine capture.text).1) session.outlets.console
  installed : ∀ index : Nat, (session.run steps).1.outlets.installed[index]? =
    session.outlets.installed[index]?.map fun outlet =>
      outlet.acceptAll ((OutletId.installed index).addressed (session.deliveries steps))
  /-- A capture keeps in order what is addressed to it. -/
  captured : ∀ (index : Nat) (captured : List Capture),
    session.outlets.installed[index]? = some (.capture captured) →
    (session.run steps).1.outlets.installed[index]? = some (.capture
      (captured ++ (OutletId.installed index).addressed (session.deliveries steps)))
  /-- If everything is addressed to captures, they keep each document once. -/
  together : (∀ delivery ∈ session.deliveries steps, session.outlets.Captures delivery.outlet) →
    (session.run steps).1.outlets.held.Perm
      (session.outlets.held ++ (session.deliveries steps).map Delivery.capture)

/-- **In every run, each flush delivers one document to one outlet**, that of the environment it is
to use, and the outlets take the documents in the order of the flushes. -/
theorem delivers_once (session : Session) (steps : List Step) : session.DeliversOnce steps where
  inOrder := by
    intro earlier surroundings later parts reached flushed
    refine ⟨reached.emitter.completes_flush surroundings, ?_⟩
    rw [parts, deliveries_append, deliveries_flush]
  onlyFlushes := session.length_deliveries steps
  console := by
    rw [outlets_run]
    exact session.outlets.console_acceptAll (session.deliveries steps)
  installed := by
    intro index
    rw [outlets_run]
    exact session.outlets.installed_acceptAll (session.deliveries steps) index
  captured := by
    intro index captured found
    rw [outlets_run, Outlets.installed_acceptAll, found, Option.map_some,
      Outlet.acceptAll_capture]
  together := by
    intro captures
    rw [outlets_run]
    exact Outlets.held_acceptAll captures

/-- An environment that is found, then a failure, then an answer that never comes: the last two
documents go where the provider falls back. -/
theorem delivers_once_fallback :
    let found : Environment := ⟨none, some "checkout", none, [], .installed 0⟩
    let fallback : Environment := ⟨none, none, none, [], .installed 1⟩
    let around (answer : Answer) : Surroundings := ⟨⟨0⟩, fun _ => none, answer, fallback⟩
    let session : Session :=
      ⟨.new (.supplied 0), ⟨.unlimited, [.capture [], .capture []]⟩⟩
    let steps : List Step := [.flush (around ⟨.atOnce, .ok found⟩),
      .flush (around ⟨.atOnce, .error "no metadata"⟩), .setTimeout (.ofSeconds 2),
      .flush (around ⟨.endless, .ok found⟩)]
    (session.deliveries steps).map Delivery.outlet = [.installed 0, .installed 1, .installed 1] ∧
      (session.run steps).1.outlets.held.length = 3 := by
  intro found fallback around session steps
  have outlets : (session.deliveries steps).map Delivery.outlet =
      [.installed 0, .installed 1, .installed 1] := rfl
  have captures : ∀ delivery ∈ session.deliveries steps,
      session.outlets.Captures delivery.outlet := by
    intro delivery member
    have listed : delivery.outlet ∈ (session.deliveries steps).map Delivery.outlet :=
      List.mem_map_of_mem member
    rw [outlets] at listed
    simp only [List.mem_cons, List.not_mem_nil, or_false] at listed
    rcases listed with first | second | third
    · exact ⟨0, [], first, rfl⟩
    · exact ⟨1, [], second, rfl⟩
    · exact ⟨1, [], third, rfl⟩
  refine ⟨outlets, ?_⟩
  have together := (session.delivers_once steps).together captures
  rw [together.length_eq, List.length_append, List.length_map, session.length_deliveries]
  rfl

end Session

end MetricEmitter
