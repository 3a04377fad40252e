import MetricEmitter.Emitter.Session
import MetricEmitter.Emitter.Setup
import MetricEmitter.Proofs.Context.Reachable

/-!
# Runs of a session

An emitter starts over a context a program can come to hold, or is built from a
setup (`Emitter.Made`). What happens to it afterwards are the steps of a session.
A step may need leave (`Emitter.Permits`): the sets of an operation must be sets
a caller can come by, and the hook of the environment a flush uses may be bound
by a rule. A session follows the rule if each of its steps has leave in turn
(`Session.Follows`), and what every permitted step keeps holds after such a run
(`Session.run_invariant`).

Whatever the rule is, the emitter keeps a context a program can come to hold
(`Emitter.Grounded.run`). The caller defaults of an emitter are the default
dimensions the caller asked for last and was not refused, whatever the
environments in between do to the context (`Session.callerDefaults_run`).
-/

set_option autoImplicit false

namespace MetricEmitter

/-- An emitter as a program makes it, with the default dimensions that are asked for at first. -/
inductive Emitter.Made : Emitter → DimensionSet → Prop where
  | ofContext (provider : Provider) {context : Context} (reachable : context.Reachable) :
      Made (.ofContext provider context) context.layers.defaults
  | built {setup : Setup} {emitter : Emitter} {defaults : DimensionSet}
      (asked : DimensionSet.ofPairs setup.defaults = .ok defaults)
      (built : setup.build = .ok emitter) : Made emitter defaults

/-! ## Steps that have leave -/

/-- A step has leave if the sets of its operation, or of the hook of the environment it uses, are
sets a caller can come by, and that environment obeys the rule on the context it is handed. -/
def Emitter.Permits (rule : Environment → Context → Prop) (emitter : Emitter) : Step → Prop
  | .perform operation => operation.Admissible
  | .flush surroundings =>
      let environment := (emitter.flush surroundings).environment
      environment.Admissible ∧ rule environment (emitter.installDefaults environment).1
  | _ => True

def Session.Follows (rule : Environment → Context → Prop) (session : Session) : List Step → Prop
  | [] => True
  | step :: rest => session.emitter.Permits rule step ∧ (session.step step).1.Follows rule rest

namespace Session

theorem run_append (session : Session) (earlier later : List Step) :
    session.run (earlier ++ later) =
      (((session.run earlier).1.run later).1,
        (session.run earlier).2 ++ ((session.run earlier).1.run later).2) := by
  induction earlier generalizing session with
  | nil => rfl
  | cons step rest ih =>
      rw [List.cons_append, run, ih]
      rfl

theorem provider_step (session : Session) (step : Step) :
    (session.step step).1.emitter.provider = session.emitter.provider := by
  cases step <;> rfl

theorem provider_run (session : Session) (steps : List Step) :
    (session.run steps).1.emitter.provider = session.emitter.provider := by
  induction steps generalizing session with
  | nil => rfl
  | cons step rest ih => exact (ih _).trans (session.provider_step step)

/-- A run that follows a rule follows every weaker one. -/
theorem Follows.mono {rule weaker : Environment → Context → Prop}
    (implies : ∀ environment context, rule environment context → weaker environment context)
    {session : Session} {steps : List Step} (follows : session.Follows rule steps) :
    session.Follows weaker steps := by
  induction steps generalizing session with
  | nil => trivial
  | cons step rest ih =>
      refine ⟨?_, ih follows.2⟩
      cases step with
      | perform operation => exact follows.1
      | keepDimensions keep => trivial
      | setTimeout timeout => trivial
      | flush surroundings => exact ⟨follows.1.1, implies _ _ follows.1.2⟩

/-- **What every permitted step keeps holds after a run that follows the rule.** -/
theorem run_invariant {rule : Environment → Context → Prop} {invariant : Emitter → Prop}
    (kept : ∀ (session : Session) (step : Step), invariant session.emitter →
      session.emitter.Permits rule step → invariant (session.step step).1.emitter)
    {session : Session} {steps : List Step} (holds : invariant session.emitter)
    (follows : session.Follows rule steps) : invariant (session.run steps).1.emitter := by
  induction steps generalizing session with
  | nil => exact holds
  | cons step rest ih => exact ih (kept session step holds follows.1) follows.2

/-- What every permitted step answers on the ground of the invariant holds of all answers of a run
that follows the rule. -/
theorem run_replies {rule : Environment → Context → Prop} {invariant : Emitter → Prop}
    {answers : StepReply → Prop}
    (kept : ∀ (session : Session) (step : Step), invariant session.emitter →
      session.emitter.Permits rule step → invariant (session.step step).1.emitter)
    (answered : ∀ (session : Session) (step : Step), invariant session.emitter →
      session.emitter.Permits rule step → answers (session.step step).2)
    {session : Session} {steps : List Step} (holds : invariant session.emitter)
    (follows : session.Follows rule steps) : ∀ reply ∈ (session.run steps).2, answers reply := by
  induction steps generalizing session with
  | nil => exact List.forall_mem_nil _
  | cons step rest ih =>
      exact List.forall_mem_cons.mpr ⟨answered session step holds follows.1,
        ih (kept session step holds follows.1) follows.2⟩

end Session

/-! ## Operations of an emitter -/

/-- **An operation of an emitter is accepted and makes its defaults those of the caller, or it is
refused and changes nothing.** -/
theorem Emitter.perform_cases (emitter : Emitter) (operation : Operation) :
    (∃ changed, emitter.context.layers.after operation = .ok changed ∧
      (emitter.perform operation).2.refusal = none ∧
      (emitter.perform operation).1.context.layers = changed ∧
      (emitter.perform operation).1.callerDefaults =
        operation.newDefaults.getD emitter.callerDefaults) ∨
    ∃ reason, emitter.context.layers.after operation = .error reason ∧
      (emitter.perform operation).2.refusal = some reason ∧
      (emitter.perform operation).1 = emitter := by
  have performs := emitter.context.performs operation
  unfold perform
  generalize emitter.context.perform operation = performed at performs
  cases performs with
  | @accepted changed reply layers unrefused =>
      refine Or.inl ⟨changed.layers, layers, unrefused, rfl, ?_⟩
      dsimp only
      rw [unrefused]
      cases operation <;> rfl
  | @refused reason layers =>
      refine Or.inr ⟨reason, layers, rfl, ?_⟩
      cases operation <;> rfl

/-- The caller defaults of two emitters stay the same under an operation that has the same outcome
on both. -/
theorem Emitter.callerDefaults_perform_eq {first second : Emitter} {operation : Operation}
    (alike : first.callerDefaults = second.callerDefaults)
    (sameOutcome : (first.perform operation).2.refusal.isSome =
      (second.perform operation).2.refusal.isSome) :
    (first.perform operation).1.callerDefaults = (second.perform operation).1.callerDefaults := by
  rcases first.perform_cases operation with ⟨_, _, answer, _, callers⟩ | ⟨_, _, answer, same⟩ <;>
    rcases second.perform_cases operation with
      ⟨_, _, otherAnswer, _, otherCallers⟩ | ⟨_, _, otherAnswer, otherSame⟩ <;>
    rw [answer, otherAnswer] at sameOutcome
  · rw [callers, otherCallers, alike]
  · cases sameOutcome
  · cases sameOutcome
  · rw [same, otherSame, alike]

/-- The context of an emitter is one a program can come to hold, and so are the caller defaults. -/
structure Emitter.Grounded (emitter : Emitter) : Prop where
  context : emitter.context.Reachable
  callers : emitter.callerDefaults.Constructible

namespace Emitter.Grounded

variable {rule : Environment → Context → Prop}

theorem step {session : Session} {step : Step} (grounded : session.emitter.Grounded)
    (permitted : session.emitter.Permits rule step) : (session.step step).1.emitter.Grounded := by
  cases step with
  | keepDimensions keep => exact ⟨grounded.context, grounded.callers⟩
  | setTimeout timeout => exact ⟨grounded.context, grounded.callers⟩
  | flush surroundings =>
      exact ⟨.flushed grounded.context grounded.callers permitted.1, grounded.callers⟩
  | perform operation =>
      refine ⟨.perform grounded.context permitted, ?_⟩
      change (session.emitter.perform operation).1.callerDefaults.Constructible
      rcases session.emitter.perform_cases operation with ⟨_, _, _, _, callers⟩ | ⟨_, _, _, same⟩
      · rw [callers]
        cases asked : operation.newDefaults with
        | none => exact grounded.callers
        | some set => exact permitted set (operation.mem_sets_of_newDefaults asked)
      · exact same.symm ▸ grounded.callers

/-- **An emitter stays grounded in every run.** -/
theorem run {session : Session} {steps : List Step} (grounded : session.emitter.Grounded)
    (follows : session.Follows rule steps) : (session.run steps).1.emitter.Grounded :=
  Session.run_invariant (fun _ _ => Grounded.step) grounded follows

end Emitter.Grounded

/-- An emitter starts grounded, and its caller defaults are those asked for. -/
theorem Emitter.Made.grounded {emitter : Emitter} {first : DimensionSet}
    (made : emitter.Made first) :
    emitter.Grounded ∧ emitter.callerDefaults = first ∧
      emitter.context.layers.defaults = first := by
  cases made with
  | ofContext provider reachable =>
      exact ⟨⟨reachable, reachable.sound.defaults.constructible⟩, rfl, rfl⟩
  | @built setup _ _ asked built =>
      unfold Setup.build at built
      rw [asked] at built
      dsimp only at built
      split at built
      · cases built
      · cases built
        have admissible : (Operation.setNamespace setup.resolvedNamespace).Admissible :=
          List.forall_mem_nil _
        exact ⟨⟨.perform (.ofDefaults (.ofPairs asked)) admissible, .ofPairs asked⟩, rfl, rfl⟩

/-! ## The defaults a caller asks for -/

/-- The default dimensions a step sets, if it sets them and is not refused. -/
def Step.newDefaults (step : Step) (reply : StepReply) : Option DimensionSet :=
  match step, reply.refusal with
  | .perform operation, none => operation.newDefaults
  | _, _ => none

namespace Session

/-- The default dimensions set by the last step of a run that sets them and is not refused, or else
the first ones. -/
def askedDefaults (session : Session) (first : DimensionSet) (steps : List Step) : DimensionSet :=
  (((steps.zip (session.run steps).2).filterMap
    fun answered => answered.1.newDefaults answered.2).getLast?).getD first

theorem callerDefaults_step (session : Session) (step : Step) :
    (session.step step).1.emitter.callerDefaults =
      (step.newDefaults (session.step step).2).getD session.emitter.callerDefaults := by
  cases step with
  | keepDimensions keep => rfl
  | setTimeout timeout => rfl
  | flush surroundings => rfl
  | perform operation =>
      unfold Session.step Step.newDefaults
      dsimp only
      rcases session.emitter.perform_cases operation with
        ⟨_, _, answer, _, callers⟩ | ⟨_, _, answer, same⟩
      · rw [answer]
        exact callers
      · rw [answer, same]
        rfl

/-- **The caller defaults are those asked for last.** -/
theorem callerDefaults_run (session : Session) (steps : List Step) :
    (session.run steps).1.emitter.callerDefaults =
      session.askedDefaults session.emitter.callerDefaults steps := by
  induction steps generalizing session with
  | nil => rfl
  | cons step rest ih =>
      rw [run, ih, callerDefaults_step, askedDefaults, askedDefaults, run, List.zip_cons_cons,
        List.filterMap_cons]
      cases step.newDefaults (session.step step).2 with
      | none => rfl
      | some set => rw [List.getLast?_cons]; rfl

end Session

end MetricEmitter
