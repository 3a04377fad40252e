import MetricEmitter.Proofs.Emitter.Cycles

/-!
# What a flush leaves alone

A flush puts default dimensions into the context, lets the environment act on
it, and makes the document from dimensions in which the defaults lie under the
active sets. None of this lasts, apart from the defaults of the context, as long
as hooks do nothing but put properties, samples or the time
(`Environment.Passes`). The emitter is then as it was, with an empty cycle, and
the active sets and whether defaults apply are as they were or, if dimensions
are not to be kept, as at the beginning (`Emitter.Renews`).

What a caller arranges about the active sets can therefore be told from the
caller's own steps. `Arrangement.next` says what each of them does, and it knows
of no environment and of no default dimensions. Every run arrives at the
arrangement that results from this (`Session.flushes_renew`), so no number of
flushes copies a default dimension, or one of an environment, into an active
set.
-/

set_option autoImplicit false

namespace MetricEmitter

/-- The hook of an environment puts properties, samples or the time and does nothing else. -/
def Environment.Passes (environment : Environment) : Prop :=
  ∀ operation ∈ environment.hook, operation.isPassing = true

/-! ## One flush -/

/-- Operations that belong to one cycle do nothing that lasts. -/
theorem Context.lasting_run_of_isPassing (context : Context) {operations : List Operation}
    (passing : ∀ operation ∈ operations, operation.isPassing = true) :
    (context.run operations).1.lasting = context.lasting := by
  have none : operations.filter (fun operation => !operation.isPassing) = [] := by
    rw [List.filter_eq_nil_iff]
    intro operation member
    simp [passing operation member]
  rw [← context.lasting_run_filter, none]
  rfl

namespace Emitter

/-- One emitter is the other at the start of a new cycle, apart from the default dimensions of the
context. -/
structure Renews (before after : Emitter) : Prop where
  callerDefaults : after.callerDefaults = before.callerDefaults
  provider : after.provider = before.provider
  keepsDimensions : after.keepsDimensions = before.keepsDimensions
  timeout : after.timeout = before.timeout
  namespaceName : after.context.namespaceName = before.context.namespaceName
  properties : after.context.properties = .empty
  metrics : after.context.metrics = .empty
  timestamp : after.context.timestamp = none
  kept : before.keepsDimensions = true →
    after.context.layers.active = before.context.layers.active ∧
      after.context.layers.defaultsApply = before.context.layers.defaultsApply
  reseeded : before.keepsDimensions = false →
    after.context.layers.active = [] ∧ after.context.layers.defaultsApply = true

/-- What lasts of the context a document is made from is what lasted before, over other defaults. -/
theorem lasting_configured (emitter : Emitter) {environment : Environment}
    (passes : environment.Passes) :
    ∃ defaults, (emitter.configured environment).lasting =
      (emitter.contextOver defaults).lasting := by
  obtain ⟨defaults, installed⟩ := emitter.installDefaults_eq_contextOver environment
  refine ⟨defaults, ?_⟩
  rw [configured, Context.lasting_run_of_isPassing _ passes, installed]

/-- **A flush changes nothing that lasts but the default dimensions of the context.** -/
theorem renews_flush (emitter : Emitter) {surroundings : Surroundings}
    (passes : (emitter.flush surroundings).environment.Passes) :
    emitter.Renews (emitter.flush surroundings).emitter := by
  obtain ⟨defaults, lasting⟩ := emitter.lasting_configured passes
  -- The next cycle starts from what lasts of the context of the document.
  have context : (emitter.flush surroundings).emitter.context =
      (emitter.contextOver defaults).lasting.renewed emitter.keepsDimensions := by
    rw [emitter_flush, ← lasting]
    rfl
  refine ⟨rfl, rfl, rfl, rfl, ?_, rfl, rfl, rfl, ?_, ?_⟩
  · rw [context]
    rfl
  · intro keeps
    rw [context, keeps]
    exact ⟨rfl, rfl⟩
  · intro drops
    rw [context, drops]
    exact ⟨rfl, rfl⟩

end Emitter

/-! ## Runs -/

/-- What a caller has arranged about the active sets: the sets, whether default dimensions lie under
them, and whether a flush keeps both. -/
structure Arrangement where
  active : List DimensionSet
  defaultsApply : Bool
  keepsDimensions : Bool
  deriving DecidableEq

def Emitter.arrangement (emitter : Emitter) : Arrangement :=
  ⟨emitter.context.layers.active, emitter.context.layers.defaultsApply, emitter.keepsDimensions⟩

namespace Arrangement

/-- What an operation that is not refused makes of an arrangement. -/
def perform (arrangement : Arrangement) (operation : Operation) : Arrangement :=
  let changed := Layers.unchecked ⟨arrangement.active, .empty, arrangement.defaultsApply⟩ operation
  { arrangement with active := changed.active, defaultsApply := changed.defaultsApply }

/-- What a step makes of an arrangement, if it is known whether the step was refused. A flush keeps
the active sets or starts over without any, whatever the environment and the default dimensions. -/
def next (arrangement : Arrangement) (refused : Bool) : Step → Arrangement
  | .perform operation => if refused then arrangement else arrangement.perform operation
  | .keepDimensions keep => { arrangement with keepsDimensions := keep }
  | .setTimeout _ => arrangement
  | .flush _ =>
      if arrangement.keepsDimensions then arrangement
      else { arrangement with active := [], defaultsApply := true }

end Arrangement

/-- What a caller arranges by an operation does not depend on the default dimensions. -/
theorem Emitter.arrangement_perform (emitter : Emitter) (operation : Operation) :
    (emitter.perform operation).1.arrangement =
      if (emitter.perform operation).2.refusal.isSome then emitter.arrangement
      else emitter.arrangement.perform operation := by
  rcases emitter.perform_cases operation with
    ⟨_, accepted, answer, layers, _⟩ | ⟨_, _, answer, same⟩
  · have done := Layers.after_eq_ok accepted
    rw [answer, arrangement, layers, done]
    cases operation <;> rfl
  · rw [answer, same]
    rfl

namespace Session

/-- What a run arranges: what its steps do to the arrangement at the start, one after the other. -/
def arranged (session : Session) (steps : List Step) : Arrangement :=
  (steps.zip (session.run steps).2).foldl
    (fun arrangement answered => arrangement.next answered.2.refusal.isSome answered.1)
    session.emitter.arrangement

theorem arrangement_step {session : Session} {step : Step}
    (permitted : session.emitter.Permits (fun environment _ => environment.Passes) step) :
    (session.step step).1.emitter.arrangement =
      session.emitter.arrangement.next (session.step step).2.refusal.isSome step := by
  cases step with
  | perform operation => exact session.emitter.arrangement_perform operation
  | keepDimensions keep => rfl
  | setTimeout timeout => rfl
  | flush surroundings =>
      have renews := session.emitter.renews_flush permitted.2
      change (session.emitter.flush surroundings).emitter.arrangement =
        if session.emitter.keepsDimensions then session.emitter.arrangement
        else { session.emitter.arrangement with active := [], defaultsApply := true }
      split
      · rename_i keeps
        obtain ⟨active, applies⟩ := renews.kept keeps
        rw [Emitter.arrangement, active, applies, renews.keepsDimensions]
        rfl
      · rename_i drops
        obtain ⟨active, applies⟩ := renews.reseeded (Bool.eq_false_iff.mpr drops)
        rw [Emitter.arrangement, active, applies, renews.keepsDimensions]
        rfl

/-- **The active sets of a run are what its steps arrange**, whatever the environments. -/
theorem arrangement_run {session : Session} {steps : List Step}
    (follows : session.Follows (fun environment _ => environment.Passes) steps) :
    (session.run steps).1.emitter.arrangement = session.arranged steps := by
  induction steps generalizing session with
  | nil => rfl
  | cons step rest ih =>
      rw [run, ih follows.2, arranged, arranged, arrangement_step follows.1]
      rfl

/-- **A flush changes nothing that lasts but the default dimensions of the context, and default
dimensions never get into the active sets**: the latter are, after every run, what the steps of the
caller arrange. -/
theorem flushes_renew :
    (∀ (emitter : Emitter) (surroundings : Surroundings),
      (emitter.flush surroundings).environment.Passes →
        emitter.Renews (emitter.flush surroundings).emitter) ∧
    ∀ (session : Session) (steps : List Step),
      session.Follows (fun environment _ => environment.Passes) steps →
        (session.run steps).1.emitter.arrangement = session.arranged steps := by
  constructor
  · intro emitter surroundings passes
    exact emitter.renews_flush passes
  · intro session steps follows
    exact arrangement_run follows

/-- Two flushes that keep the dimensions and a third that does not: the dimensions of the
environments stand in the defaults and never in an active set. -/
theorem flushes_renew_hook :
    let stage : DimensionSet := ⟨[("Stage", "beta")]⟩
    let route : DimensionSet := ⟨[("Route", "buy")]⟩
    let hook : List Operation := [.putProperty "trace" .null, .record "Calls" 1.0 (some .count),
      .setTimestamp ⟨7⟩]
    let named : Environment := ⟨none, some "checkout", none, hook, .console⟩
    let around (answer : Answer) : Surroundings := ⟨⟨0⟩, fun _ => none, answer, named⟩
    let session : Session := ⟨.ofContext (.supplied 0) (.ofDefaults stage), ⟨.unlimited, []⟩⟩
    let kept : List Step := [.perform (.putDimensions route),
      .flush (around ⟨.atOnce, .ok named⟩), .flush (around ⟨.endless, .ok named⟩)]
    let dropped : List Step := kept ++
      [.keepDimensions false, .flush (around ⟨.atOnce, .error "no metadata"⟩)]
    ((session.run kept).1.emitter.context.layers.defaults =
        ⟨[("ServiceName", "checkout"), ("Stage", "beta")]⟩ ∧
      (session.run kept).1.emitter.arrangement = ⟨[route], true, true⟩) ∧
    (session.run dropped).1.emitter.arrangement = ⟨[], true, false⟩ ∧
      (session.run kept).1.emitter.Renews
        ((session.run kept).1.emitter.flush (around ⟨.atOnce, .ok named⟩)).emitter := by
  intro stage route hook named around session kept dropped
  have passes : named.Passes := by
    intro operation member
    simp only [named, hook, List.mem_cons, List.not_mem_nil, or_false] at member
    rcases member with rfl | rfl | rfl <;> rfl
  have admissible : named.Admissible := by
    intro operation member
    simp only [named, hook, List.mem_cons, List.not_mem_nil, or_false] at member
    rcases member with rfl | rfl | rfl <;> exact List.forall_mem_nil _
  have routeWellFormed : route.WellFormed := ⟨by decide, by decide⟩
  have puts : (Operation.putDimensions route).Admissible :=
    List.forall_mem_singleton.mpr routeWellFormed.constructible
  have followsKept : session.Follows (fun environment _ => environment.Passes) kept :=
    ⟨puts, ⟨admissible, passes⟩, ⟨admissible, passes⟩, trivial⟩
  have followsDropped : session.Follows (fun environment _ => environment.Passes) dropped :=
    ⟨puts, ⟨admissible, passes⟩, ⟨admissible, passes⟩, trivial, ⟨admissible, passes⟩, trivial⟩
  refine ⟨⟨by decide +kernel, ?_⟩, ?_, ?_⟩
  · rw [flushes_renew.2 session kept followsKept]
    decide +kernel
  · rw [flushes_renew.2 session dropped followsDropped]
    decide +kernel
  · exact flushes_renew.1 _ _ passes

end Session

end MetricEmitter
