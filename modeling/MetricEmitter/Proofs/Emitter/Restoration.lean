import MetricEmitter.Proofs.Emitter.Defaults
import MetricEmitter.Proofs.Emitter.Topics

/-!
# The caller defaults can always be restored

When the dimensions of an environment do not fit, a flush puts the caller
defaults in the place of those of the context, which may still hold the
dimensions of an earlier environment. This could fail in its turn, and would
then be reported as an error. It never does, as long as hooks set no default
dimensions themselves: the context has all names of the caller defaults with the
values of the caller, and beside them no others than the names an environment
gives (`Emitter.Based`). So an active set that fits over the former fits over
the latter (`Emitter.Consistent.accepts`).

Every step keeps this (`Emitter.Based.step`), and from a state in which it holds
no flush reports the error (`Emitter.Consistent.restores`). Hence no run of any
length reports it (`Session.callers_restorable`).
-/

set_option autoImplicit false

namespace MetricEmitter

/-! ## Hooks that set no defaults -/

/-- The hook of an environment may do anything but set default dimensions. -/
def Environment.SetsNoDefaults (environment : Environment) (_ : Context) : Prop :=
  ∀ operation ∈ environment.hook, operation.newDefaults = none

theorem Environment.keepsDefaults_of_setsNoDefaults (environment : Environment) (context : Context)
    (setsNone : environment.SetsNoDefaults context) : environment.KeepsDefaults context :=
  context.defaults_run setsNone

namespace Emitter

/-! ## The names of the defaults -/

/-- The default dimensions of the context hold the caller defaults, and beside them no others than
the dimensions of an environment. -/
structure Based (emitter : Emitter) : Prop extends emitter.Consistent where
  others : ∀ name ∈ emitter.context.layers.defaults.names, name ∉ emitter.callerDefaults.names →
    name ∈ ["LogGroup", "ServiceName", "ServiceType"]

theorem Made.based {emitter : Emitter} {asked : DimensionSet} (made : emitter.Made asked) :
    emitter.Based := by
  obtain ⟨_, callers, defaults⟩ := made.grounded
  refine ⟨made.consistent, ?_⟩
  intro name declared foreign
  rw [defaults, ← callers] at declared
  exact absurd declared foreign

theorem Consistent.names_installDefaults {emitter : Emitter} (consistent : emitter.Consistent)
    (environment : Environment) {name : String}
    (declared : name ∈ (emitter.installDefaults environment).1.layers.defaults.names)
    (foreign : name ∉ emitter.callerDefaults.names) :
    name ∈ ["LogGroup", "ServiceName", "ServiceType"] := by
  rcases consistent.installDefaults_cases environment with ⟨_, installed⟩ | ⟨_, installed⟩
  · rw [installed] at declared
    change name ∈ (environment.dimensionSet.overlay emitter.callerDefaults).names at declared
    rw [← DimensionSet.mem_nameSet, DimensionSet.nameSet_overlay, Finset.mem_union,
      DimensionSet.mem_nameSet, DimensionSet.mem_nameSet] at declared
    exact environment.names_dimensionSet.subset (declared.resolve_right foreign)
  · rw [installed] at declared
    exact absurd declared foreign

/-- **Every step keeps the defaults based on those of the caller**, unless a hook sets other
ones. -/
theorem Based.step {session : Session} {step : Step} (based : session.emitter.Based)
    (permitted : session.emitter.Permits Environment.SetsNoDefaults step) :
    (session.step step).1.emitter.Based := by
  have follows : session.Follows Environment.KeepsDefaults [step] :=
    Session.Follows.mono Environment.keepsDefaults_of_setsNoDefaults ⟨permitted, trivial⟩
  refine ⟨based.toConsistent.step follows.1, ?_⟩
  cases step with
  | keepDimensions keep => exact based.others
  | setTimeout timeout => exact based.others
  | perform operation =>
      change ∀ name ∈ (session.emitter.perform operation).1.context.layers.defaults.names,
        name ∉ (session.emitter.perform operation).1.callerDefaults.names → _
      rcases session.emitter.perform_cases operation with
        ⟨changed, accepted, _, layers, callers⟩ | ⟨_, _, _, same⟩
      · rw [layers, callers, Layers.defaults_after accepted]
        cases operation.newDefaults with
        | none => exact based.others
        | some set => exact fun name declared foreign => absurd declared foreign
      · rw [same]
        exact based.others
  | flush surroundings =>
      intro name declared foreign
      -- What comes after the hook concerns the time, the samples and the active sets.
      change name ∈ ((session.emitter.prepared _ _).1.renewed _).layers.defaults.names at declared
      rw [Context.defaults_renewed] at declared
      have installed := follows.1.2
      rw [Environment.KeepsDefaults] at installed
      exact based.names_installDefaults _ (installed ▸ declared) foreign

/-! ## The error that is never reported -/

/-- **A consistent emitter never fails to restore the caller defaults.** -/
theorem Consistent.restores {emitter : Emitter} (consistent : emitter.Consistent)
    (environment : Environment) (reason : DimensionError) :
    Notice.defaultsNotRestored reason ∉ (emitter.installDefaults environment).2 := by
  have installs := emitter.installs_installDefaults environment
  generalize emitter.installDefaults environment = installed at installs
  cases installs with
  | layered room => simp
  | alone dropped noRoom accepts => simp
  | unrestored dropped unrestored noRoom refuses => exact absurd consistent.accepts refuses

/-- No step from a consistent state reports that the caller defaults were not restored. -/
theorem Consistent.silent {session : Session} (consistent : session.emitter.Consistent)
    (step : Step) (reason : DimensionError) :
    Notice.defaultsNotRestored reason ∉ (session.step step).2.notices := by
  intro reported
  cases step with
  | keepDimensions keep => cases reported
  | setTimeout timeout => cases reported
  | perform operation =>
      rcases session.emitter.context.topic_perform operation _ reported with topic | topic <;>
        cases topic
  | flush surroundings =>
      -- Of the five places in which a flush reports, the others have other topics.
      change _ ∈ (session.flush surroundings).2.notices at reported
      rw [session.notices_flush surroundings] at reported
      simp only [List.mem_append] at reported
      rcases reported with (((inquired | installed) | hook) | shadowed) | delivered
      · cases session.emitter.topic_inquiry surroundings _ inquired
      · exact consistent.restores _ reason installed
      · rcases Context.topic_run _ _ _ hook with topic | topic <;> cases topic
      · cases Context.topic_shadowNotices _ _ shadowed
      · cases Outlets.topic_accept _ _ _ _ delivered

/-- What holds of the defaults between two flushes: those of the context have the names and values
of the caller and no other names than those of an environment, the caller defaults fit under every
active set, as far as defaults apply, and so they can be put in the place of the others. -/
structure Restorable (emitter : Emitter) : Prop where
  inherited : ∀ name ∈ emitter.callerDefaults.names,
    name ∈ emitter.context.layers.defaults.names ∧
      emitter.context.layers.defaults.value? name = emitter.callerDefaults.value? name
  others : ∀ name ∈ emitter.context.layers.defaults.names, name ∉ emitter.callerDefaults.names →
    name ∈ ["LogGroup", "ServiceName", "ServiceType"]
  room : emitter.context.layers.defaultsApply = true → ∀ set ∈ emitter.context.layers.active,
    (emitter.callerDefaults.nameSet ∪ set.nameSet).card ≤ DimensionSet.capacity
  restored : emitter.context.setDefaultDimensions emitter.callerDefaults =
    .ok (emitter.contextOver emitter.callerDefaults)

theorem Based.restorable {emitter : Emitter} (based : emitter.Based) : emitter.Restorable := by
  have accepts := based.accepts
  refine ⟨?_, based.others, ?_, ?_⟩
  · intro name declared
    obtain ⟨value, held⟩ :=
      Option.isSome_iff_exists.mp (DimensionSet.value?_isSome_iff.mpr declared)
    have inherited := based.inherited name value held
    refine ⟨DimensionSet.value?_isSome_iff.mp ?_, inherited.trans held.symm⟩
    rw [inherited]
    rfl
  · exact (based.context.sound.accepts_iff based.callers.wellFormed).mp accepts
  · rcases emitter.setDefaultDimensions_cases emitter.callerDefaults with
      ⟨_, outcome⟩ | ⟨_, refuses, _⟩
    · exact outcome
    · exact absurd accepts refuses

end Emitter

/-- **The caller defaults can be restored at any time, and no run reports that they could not be**,
provided that no hook sets default dimensions. -/
theorem Session.callers_restorable {session : Session} {asked : DimensionSet}
    (made : session.emitter.Made asked) {steps : List Step}
    (follows : session.Follows Environment.SetsNoDefaults steps) :
    (session.run steps).1.emitter.Restorable ∧
      ∀ reply ∈ (session.run steps).2, ∀ reason,
        Notice.defaultsNotRestored reason ∉ reply.notices := by
  constructor
  · exact (run_invariant (fun _ _ => Emitter.Based.step) made.based follows).restorable
  · exact run_replies (fun _ _ => Emitter.Based.step)
      (fun _ step based _ => based.silent step) made.based follows

/-- Two flushes over 28 active names. The dimension of the first environment stays with the
defaults; the two of the second do not fit, so the caller defaults take the place of both, and leave
room for the hook. -/
theorem Session.callers_restorable_dropped :
    let stage : DimensionSet := ⟨[("Stage", "beta")]⟩
    let route : DimensionSet := ⟨[("Route", "buy")]⟩
    let wide : DimensionSet :=
      ⟨(List.range 28).map fun index => (String.singleton (Char.ofNat (65 + index)), "")⟩
    let logged : Environment := ⟨some "shop", none, none, [.putDimensions wide], .installed 0⟩
    let named : Environment :=
      ⟨some "shop", some "pay", none, [.putDimensions route], .installed 0⟩
    let around (environment : Environment) : Surroundings :=
      ⟨⟨0⟩, fun _ => none, ⟨.atOnce, .ok environment⟩, environment⟩
    let session : Session :=
      ⟨.ofContext (.supplied 0) (.ofDefaults stage), ⟨.unlimited, [.capture []]⟩⟩
    let first := (session.run [.flush (around logged)]).1.emitter
    let second := session.run [.flush (around logged), .flush (around named)]
    (first.context.layers.defaults = ⟨[("LogGroup", "shop"), ("Stage", "beta")]⟩ ∧
      first.Restorable) ∧
    (second.2.map StepReply.notices = [[.defaultsInstalled ["LogGroup", "Stage"]],
        [.environmentDropped (.tooMany 31)]] ∧
      second.1.emitter.context.layers.defaults = stage ∧ second.1.emitter.Restorable) ∧
    ∀ reply ∈ second.2, ∀ reason, Notice.defaultsNotRestored reason ∉ reply.notices := by
  intro stage route wide logged named around session first second
  have stageWellFormed : stage.WellFormed := ⟨by decide, by decide⟩
  have routeWellFormed : route.WellFormed := ⟨by decide, by decide⟩
  have wideWellFormed : wide.WellFormed := ⟨by decide +kernel, by decide +kernel⟩
  have made : session.emitter.Made stage :=
    .ofContext (.supplied 0) (.ofDefaults stageWellFormed.constructible)
  have loggedAdmissible : logged.Admissible :=
    List.forall_mem_singleton.mpr (List.forall_mem_singleton.mpr wideWellFormed.constructible)
  have namedAdmissible : named.Admissible :=
    List.forall_mem_singleton.mpr (List.forall_mem_singleton.mpr routeWellFormed.constructible)
  have loggedSetsNone (context : Context) : logged.SetsNoDefaults context :=
    List.forall_mem_singleton.mpr rfl
  have namedSetsNone (context : Context) : named.SetsNoDefaults context :=
    List.forall_mem_singleton.mpr rfl
  have begins : session.Follows Environment.SetsNoDefaults [.flush (around logged)] :=
    ⟨⟨loggedAdmissible, loggedSetsNone _⟩, trivial⟩
  have follows : session.Follows Environment.SetsNoDefaults
      [.flush (around logged), .flush (around named)] :=
    ⟨⟨loggedAdmissible, loggedSetsNone _⟩, ⟨namedAdmissible, namedSetsNone _⟩, trivial⟩
  have once : first.Restorable := (callers_restorable made begins).1
  have twice : second.1.emitter.Restorable := (callers_restorable made follows).1
  have silent : ∀ reply ∈ second.2, ∀ reason, Notice.defaultsNotRestored reason ∉ reply.notices :=
    (callers_restorable made follows).2
  have layered : first.context.layers.defaults = ⟨[("LogGroup", "shop"), ("Stage", "beta")]⟩ := by
    decide +kernel
  have reported : second.2.map StepReply.notices = [[.defaultsInstalled ["LogGroup", "Stage"]],
      [.environmentDropped (.tooMany 31)]] := by decide +kernel
  have restored : second.1.emitter.context.layers.defaults = stage := by decide +kernel
  clear_value first second
  exact ⟨⟨layered, once⟩, ⟨reported, restored, twice⟩, silent⟩

end MetricEmitter
