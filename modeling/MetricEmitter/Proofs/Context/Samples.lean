import MetricEmitter.Proofs.Context.Reachable
import MetricEmitter.Proofs.Emitter.Preparation
import MetricEmitter.Proofs.Table

/-!
# The samples a context holds

A sample is taken, dropped since it is not finite, or dropped since its series
is full, and only the first changes the context (`Context.records_record`). No
other operation changes the metrics (`Context.metrics_perform`).

So a series is held only after a sample was taken for it, and never has more
samples than a document takes. This holds of every context a program can come to
hold (`Context.Reachable.measured`).
-/

set_option autoImplicit false

namespace MetricEmitter

/-- A series as recording leaves it: it has samples, not too many, and all of them are finite. -/
structure Series.Recorded (series : Series) : Prop where
  started : series.samples ≠ []
  fits : series.samples.length ≤ Series.capacity
  finite : ∀ sample ∈ series.samples, sample.isFinite = true

namespace Context

variable {context : Context}

/-- Every series the context holds is as recording leaves it. -/
def Measured (context : Context) : Prop :=
  ∀ metric series, context.metrics.get? metric = some series → series.Recorded

/-! ## What changes the metrics -/

/-- What becomes of a sample: it is dropped with a notice and changes nothing, or it is taken. -/
inductive Records (context : Context) (metric : String) (sample : Float)
    (unit : Option MetricUnit) : Context × List Notice → Prop where
  | notFinite (endless : sample.isFinite = false) :
      Records context metric sample unit (context, [.sampleNotFinite metric sample])
  | full (finite : sample.isFinite = true)
      (noRoom : Series.capacity ≤ (context.series metric).samples.length) :
      Records context metric sample unit (context, [.seriesFull sample])
  | taken (finite : sample.isFinite = true)
      (room : (context.series metric).samples.length < Series.capacity) :
      Records context metric sample unit
        ({ context with
            metrics := context.metrics.insert metric
              ((context.series metric).record sample unit) }, [])

theorem records_record (context : Context) (metric : String) (sample : Float)
    (unit : Option MetricUnit) :
    context.Records metric sample unit (context.record metric sample unit) := by
  unfold record
  split
  · rename_i finite
    split
    · rename_i full
      exact .full finite (of_decide_eq_true full)
    · rename_i notFull
      exact .taken finite (Nat.lt_of_not_le fun full => notFull (decide_eq_true full))
  · rename_i endless
    exact .notFinite (Bool.eq_false_iff.mpr endless)

/-- An operation that may be refused changes the layers at most. -/
theorem settle_withLayers_eq (context : Context) (outcome : Except DimensionError Layers) :
    ∃ layers, (context.settle (context.withLayers outcome)).1 = { context with layers } := by
  cases outcome with
  | ok layers => exact ⟨layers, rfl⟩
  | error reason => exact ⟨context.layers, rfl⟩

/-- An operation that may be refused reports nothing. -/
theorem notices_settle (context : Context) (outcome : Except DimensionError Context) :
    (context.settle outcome).2.notices = [] := by
  cases outcome <;> rfl

/-- Only a sample changes the metrics. -/
theorem metrics_perform (context : Context) (operation : Operation) :
    (context.perform operation).1.metrics =
      match operation with
      | .record metric sample unit => (context.record metric sample unit).1.metrics
      | _ => context.metrics := by
  have settled : ∀ outcome, (context.settle (context.withLayers outcome)).1.metrics =
      context.metrics := by
    intro outcome
    obtain ⟨layers, same⟩ := context.settle_withLayers_eq outcome
    rw [same]
  cases operation with
  | putDimensions set => exact settled _
  | setDimensionsOverDefaults sets => exact settled _
  | setDefaultDimensions set => exact settled _
  | _ => rfl

/-! ## Series are as recording leaves them -/

/-- A series that takes a sample is as recording leaves it. -/
theorem Measured.recorded_series (measured : context.Measured) {metric : String} {sample : Float}
    {unit : Option MetricUnit} (finite : sample.isFinite = true)
    (room : (context.series metric).samples.length < Series.capacity) :
    ((context.series metric).record sample unit).Recorded := by
  have held : ∀ earlier ∈ (context.series metric).samples, earlier.isFinite = true := by
    unfold series
    cases found : context.metrics.get? metric with
    | none => exact List.forall_mem_nil _
    | some series => exact (measured metric series found).finite
  refine ⟨?_, ?_, ?_⟩
  · exact List.append_ne_nil_of_right_ne_nil _ (List.cons_ne_nil sample [])
  · change ((context.series metric).samples ++ [sample]).length ≤ Series.capacity
    rw [List.length_append, List.length_singleton]
    exact room
  · intro other member
    rcases List.mem_append.mp member with earlier | new
    · exact held other earlier
    · exact List.mem_singleton.mp new ▸ finite

theorem Measured.of_metrics_eq {changed : Context} (measured : context.Measured)
    (same : changed.metrics = context.metrics) : changed.Measured := by
  intro metric series found
  exact measured metric series (same ▸ found)

theorem Measured.perform (measured : context.Measured) (operation : Operation) :
    (context.perform operation).1.Measured := by
  have metrics := context.metrics_perform operation
  cases operation with
  | record metric sample unit =>
      change (context.record metric sample unit).1.Measured
      have records := context.records_record metric sample unit
      generalize context.record metric sample unit = recorded at records
      cases records with
      | notFinite endless => exact measured
      | full finite noRoom => exact measured
      | taken finite room =>
          intro query series found
          rw [Table.get?_insert] at found
          split at found
          · cases found
            exact measured.recorded_series finite room
          · exact measured query series found
  | _ => exact measured.of_metrics_eq metrics

theorem Measured.run (measured : context.Measured) (operations : List Operation) :
    (context.run operations).1.Measured := by
  induction operations generalizing context with
  | nil => exact measured
  | cons operation rest ih => exact ih (measured.perform operation)

theorem Measured.installDefaults {emitter : Emitter} (measured : emitter.context.Measured)
    (environment : Environment) : (emitter.installDefaults environment).1.Measured := by
  obtain ⟨defaults, same⟩ := emitter.installDefaults_eq_contextOver environment
  rw [same]
  exact measured.of_metrics_eq rfl

theorem Measured.delivered {emitter : Emitter} (measured : emitter.context.Measured)
    (surroundings : Surroundings) :
    (emitter.flush surroundings).delivery.capture.context.Measured :=
  ((measured.installDefaults (emitter.flush surroundings).environment).run
    (emitter.flush surroundings).environment.hook).of_metrics_eq rfl

/-- A context without metrics holds no series. -/
theorem Measured.of_empty (empty : context.metrics = .empty) : context.Measured := by
  intro metric series found
  rw [empty] at found
  cases found

/-- **Every series of a reachable context has samples, not too many, and all of them finite.** -/
theorem Reachable.measured (reachable : context.Reachable) : context.Measured := by
  induction reachable with
  | ofDefaults constructible => exact .of_empty rfl
  | perform _ _ ih => exact ih.perform _
  | handed _ _ environment ih => exact ih.installDefaults environment
  | delivered _ _ _ ih => exact ih.delivered _
  | flushed _ _ _ _ => exact .of_empty rfl

end Context

end MetricEmitter
