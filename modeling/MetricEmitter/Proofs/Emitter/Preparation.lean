import MetricEmitter.Proofs.Emitter.Installation

/-!
# What a flush depends on

A flush takes from its surroundings the environment it uses and the time. The
context of its document, before its time is set, is that of the emitter with the
defaults for the environment installed and the operations of its hook done
(`Emitter.configured`). Everything else a flush leaves behind is made from this
context (`Emitter.capturedContext_flush`, `Emitter.emitter_flush`), and the clock
is read only if the context has no time of its own (`Emitter.delivery_flush_eq`).
-/

set_option autoImplicit false

namespace MetricEmitter.Emitter

/-! ## The environment -/

/-- An emitter that detects its environments uses what the detector finds, or else what the
detector falls back on. -/
theorem environment_flush_of_detecting {emitter : Emitter} {detector : Detector}
    (detecting : emitter.provider = .detecting detector) (surroundings : Surroundings) :
    (emitter.flush surroundings).environment =
      (detector.detect surroundings.process).toOption.getD detector.fallback := by
  change (((emitter.provider.answer surroundings).1.within emitter.timeout).settled
    (emitter.provider.fallback surroundings)).1 = _
  rw [detecting]
  unfold Provider.answer Provider.fallback
  dsimp only
  cases detector.detect surroundings.process <;> rfl

/-- An emitter whose environments are supplied uses the one supplied in time, or else the one
supplied to fall back on. -/
theorem environment_flush_of_supplied {emitter : Emitter} {supplier : Nat}
    (supplied : emitter.provider = .supplied supplier) (surroundings : Surroundings) :
    (emitter.flush surroundings).environment =
      ((surroundings.answer.within emitter.timeout).settled surroundings.fallback).1 := by
  change (((emitter.provider.answer surroundings).1.within emitter.timeout).settled
    (emitter.provider.fallback surroundings)).1 = _
  rw [supplied]
  rfl

/-! ## The context -/

/-- The context a document is made from, before its time is set. -/
def configured (emitter : Emitter) (environment : Environment) : Context :=
  ((emitter.installDefaults environment).1.run environment.hook).1

/-- The emitter at the start of the cycle after a flush. -/
def afterFlush (emitter : Emitter) (environment : Environment) : Emitter :=
  { emitter with
    context := (emitter.configured environment).renewed emitter.keepsDimensions }

theorem capturedContext_flush (emitter : Emitter) (surroundings : Surroundings) :
    (emitter.flush surroundings).delivery.capture.context =
      (emitter.configured (emitter.flush surroundings).environment).pinned surroundings.now := rfl

theorem emitter_flush (emitter : Emitter) (surroundings : Surroundings) :
    (emitter.flush surroundings).emitter =
      emitter.afterFlush (emitter.flush surroundings).environment := rfl

theorem delivery_flush (emitter : Emitter) (surroundings : Surroundings) :
    (emitter.flush surroundings).delivery =
      ⟨(emitter.flush surroundings).environment.outlet,
        (((emitter.configured (emitter.flush surroundings).environment).pinned
          surroundings.now).document surroundings.now).text,
        (emitter.configured (emitter.flush surroundings).environment).pinned
          surroundings.now⟩ := rfl

/-- Installing the defaults for an environment changes no more than the defaults. -/
theorem installDefaults_eq_contextOver (emitter : Emitter) (environment : Environment) :
    ∃ defaults, (emitter.installDefaults environment).1 = emitter.contextOver defaults := by
  have installs := emitter.installs_installDefaults environment
  generalize emitter.installDefaults environment = installed at installs
  cases installs with
  | layered room => exact ⟨_, rfl⟩
  | alone reason noRoom accepts => exact ⟨_, rfl⟩
  | unrestored reason unrestored noRoom refuses => exact ⟨emitter.context.layers.defaults, rfl⟩

/-- **Flushes that use one environment on one context deliver the same at the same time**, whatever
the emitters and the surroundings are apart from that. -/
theorem delivery_flush_eq {first second : Emitter} {around other : Surroundings}
    {environment : Environment} (used : (first.flush around).environment = environment)
    (usedToo : (second.flush other).environment = environment)
    (configured : first.configured environment = second.configured environment)
    (sameTime : (first.flush around).delivery.capture.context.timestamp =
      (second.flush other).delivery.capture.context.timestamp) :
    (first.flush around).delivery = (second.flush other).delivery := by
  rw [capturedContext_flush, capturedContext_flush, used, usedToo, configured] at sameTime
  have pinned : (second.configured environment).pinned around.now =
      (second.configured environment).pinned other.now := by
    unfold Context.pinned at sameTime ⊢
    exact congrArg (fun timestamp => { second.configured environment with timestamp }) sameTime
  rw [delivery_flush, delivery_flush, used, usedToo, configured, pinned]
  rfl

end MetricEmitter.Emitter
