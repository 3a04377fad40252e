import MetricEmitter.Proofs.Context.Samples
import MetricEmitter.Proofs.Rearranged

/-!
# Operations that change places

Every operation is about one part of a context (`Operation.target`): one property,
one metric, the namespace, the time, or the dimensions as a whole. It leaves the
other parts alone (`Context.part_perform_of_ne`), and what it makes of its own part
depends on nothing else (`Context.part_perform_eq`). So after a sequence of
operations each part is what the operations about it have made of it
(`Context.part_run`), whatever else happened in between.

Since the parts make up the context, operations may be rearranged as long as
those about one part keep their order (`Context.run_rearranged`). The document
then does not change either. Only operations on the dimensions are about more than
one name: a list without them is rearranged if its operations about each metric,
each property, the namespace and the time are.
-/

set_option autoImplicit false

namespace MetricEmitter

/-- A part of a context. -/
inductive Operation.Target where
  | property (name : String)
  | metric (name : String)
  | namespaceName
  | timestamp
  | dimensions
  | nothing
  deriving DecidableEq

/-- The part of a context that an operation may change. -/
def Operation.target : Operation → Operation.Target
  | .putProperty name _ => .property name
  | .record metric _ _ => .metric metric
  | .setNamespace _ => .namespaceName
  | .setTimestamp _ => .timestamp
  | .preview => .nothing
  | .putDimensions _ | .setDimensions _ | .setDimensionsOverDefaults _ | .resetDimensions _
  | .setDefaultDimensions _ => .dimensions

/-- What a part of a context may be. -/
def Operation.Target.Value : Operation.Target → Type
  | .property _ => Option Json
  | .metric _ => Option Series
  | .namespaceName => String
  | .timestamp => Option Instant
  | .dimensions => Layers
  | .nothing => Unit

namespace Context

open Operation (Target)

variable {context first second : Context} {target : Target} {operation : Operation}

def part (context : Context) : (target : Target) → target.Value
  | .property name => context.properties.get? name
  | .metric name => context.metrics.get? name
  | .namespaceName => context.namespaceName
  | .timestamp => context.timestamp
  | .dimensions => context.layers
  | .nothing => ()

/-- **The parts make up the context.** -/
theorem eq_of_part_eq (same : ∀ target, first.part target = second.part target) :
    first = second := by
  have properties : first.properties = second.properties :=
    Table.ext_get? fun name => same (.property name)
  have metrics : first.metrics = second.metrics :=
    Table.ext_get? fun name => same (.metric name)
  have namespaceName : first.namespaceName = second.namespaceName := same .namespaceName
  have timestamp : first.timestamp = second.timestamp := same .timestamp
  have layers : first.layers = second.layers := same .dimensions
  cases first
  cases second
  cases properties
  cases metrics
  cases namespaceName
  cases timestamp
  cases layers
  rfl

/-! ## One operation -/

/-- **An operation leaves alone what it is not about.** -/
theorem part_perform_of_ne (context : Context) (apart : operation.target ≠ target) :
    (context.perform operation).1.part target = context.part target := by
  have settled (dimensions : target ≠ .dimensions) (outcome : Except DimensionError Layers) :
      (context.settle (context.withLayers outcome)).1.part target = context.part target := by
    obtain ⟨layers, same⟩ := context.settle_withLayers_eq outcome
    rw [same]
    cases target with
    | dimensions => contradiction
    | _ => rfl
  cases operation with
  | putProperty name value =>
      cases target with
      | property query =>
          have other : query ≠ name := fun same => apart (congrArg Target.property same.symm)
          exact (Table.get?_insert _ _ _ _).trans (if_neg other)
      | _ => rfl
  | record metric sample unit =>
      change (context.record metric sample unit).1.part target = _
      have records := context.records_record metric sample unit
      generalize context.record metric sample unit = recorded at records
      cases records with
      | notFinite endless => rfl
      | full finite noRoom => rfl
      | taken finite room =>
          cases target with
          | metric query =>
              have other : query ≠ metric := fun same => apart (congrArg Target.metric same.symm)
              exact (Table.get?_insert _ _ _ _).trans (if_neg other)
          | _ => rfl
  | setNamespace name =>
      cases target with
      | namespaceName => contradiction
      | _ => rfl
  | setTimestamp instant =>
      cases target with
      | timestamp => contradiction
      | _ => rfl
  | preview => rfl
  | putDimensions set => exact settled apart.symm _
  | setDimensionsOverDefaults sets => exact settled apart.symm _
  | setDefaultDimensions set => exact settled apart.symm _
  | setDimensions sets => exact settled apart.symm (.ok _)
  | resetDimensions keepDefaults => exact settled apart.symm (.ok _)

/-- What recording makes of its own metric depends on what is held for it. -/
theorem get?_record (context : Context) (metric : String) (sample : Float)
    (unit : Option MetricUnit) :
    (context.record metric sample unit).1.metrics.get? metric =
      if sample.isFinite = true ∧ (context.series metric).samples.length < Series.capacity then
        some ((context.series metric).record sample unit)
      else context.metrics.get? metric := by
  have records := context.records_record metric sample unit
  generalize context.record metric sample unit = recorded at records
  cases records with
  | notFinite endless => rw [if_neg fun both => Bool.false_ne_true (endless.symm.trans both.1)]
  | full finite noRoom => rw [if_neg fun both => Nat.not_lt_of_le noRoom both.2]
  | taken finite room => rw [if_pos ⟨finite, room⟩, Table.get?_insert, if_pos rfl]

/-- What an operation makes of the layers, also if it is refused. -/
theorem layers_perform (context : Context) (operation : Operation) :
    (context.perform operation).1.layers =
      (context.layers.after operation).toOption.getD context.layers := by
  have performs := context.performs operation
  generalize context.perform operation = performed at performs
  cases performs with
  | accepted layers unrefused => rw [layers]; rfl
  | refused layers => rw [layers]; rfl

/-- **What an operation makes of its part depends on this part alone.** -/
theorem part_perform_eq (same : first.part operation.target = second.part operation.target) :
    (first.perform operation).1.part operation.target =
      (second.perform operation).1.part operation.target := by
  have dimensions (alike : first.layers = second.layers) :
      (first.perform operation).1.layers = (second.perform operation).1.layers := by
    rw [layers_perform, layers_perform, alike]
  cases operation with
  | putProperty name value =>
      change (first.properties.insert name value).get? name =
        (second.properties.insert name value).get? name
      rw [Table.get?_insert, Table.get?_insert, if_pos rfl, if_pos rfl]
  | record metric sample unit =>
      have held : first.metrics.get? metric = second.metrics.get? metric := same
      have series : first.series metric = second.series metric := by
        rw [Context.series, held, Context.series]
      change (first.record metric sample unit).1.metrics.get? metric =
        (second.record metric sample unit).1.metrics.get? metric
      rw [get?_record, get?_record, series, held]
  | setNamespace name => rfl
  | setTimestamp instant => rfl
  | preview => rfl
  | putDimensions set => exact dimensions same
  | setDimensionsOverDefaults sets => exact dimensions same
  | setDefaultDimensions set => exact dimensions same
  | setDimensions sets => exact dimensions same
  | resetDimensions keepDefaults => exact dimensions same

/-! ## Sequences of operations -/

/-- **A part is what the operations about it have made of it.** -/
theorem part_run (same : first.part target = second.part target) (operations : List Operation) :
    (first.run operations).1.part target =
      (second.run (concerning Operation.target target operations)).1.part target := by
  -- The operations that are left out move the first context only, and not in this part.
  induction operations generalizing first second with
  | nil => exact same
  | cons operation rest ih =>
      by_cases here : operation.target = target
      · subst here
        rw [concerning_cons_self]
        exact ih (part_perform_eq same)
      · rw [concerning_cons_of_ne here]
        exact ih ((first.part_perform_of_ne here).trans same)

/-- Rearranged operations do the same. -/
theorem run_rearranged {operations others : List Operation}
    (rearranged : Rearranged Operation.target operations others) (context : Context) :
    (context.run operations).1 = (context.run others).1 := by
  apply eq_of_part_eq
  intro target
  rw [part_run rfl operations, rearranged target, ← part_run rfl others]

/-- A context with a time makes the same document at all times. -/
theorem document_of_timestamp (timed : context.timestamp ≠ none) (now later : Instant) :
    context.document now = context.document later := by
  obtain ⟨instant, set⟩ := Option.ne_none_iff_exists'.mp timed
  unfold document
  rw [set]
  rfl

/-- **Operations may be rearranged**: as long as those about each metric, about each property, about
the namespace, about the time and about the dimensions keep their order, the context and its
document are the same, whatever was refused or dropped on the way. -/
theorem order_leaves_no_trace {operations others : List Operation}
    (rearranged : Rearranged Operation.target operations others) (context : Context) :
    (context.run operations).1 = (context.run others).1 ∧
      ((context.run operations).1.timestamp ≠ none → ∀ now later : Instant,
        ((context.run operations).1.document now).text =
          ((context.run others).1.document later).text) := by
  have same := run_rearranged rearranged context
  refine ⟨same, ?_⟩
  intro timed now later
  rw [← same, document_of_timestamp timed now later]

/-- Two metrics, one of them without a number, a property and a namespace that are set twice, and
the time: what belongs together keeps its order, and all else changes places. -/
theorem order_leaves_no_trace_dropped :
    let operations : List Operation := [.record "Latency" 1.5 (some .milliseconds),
      .putProperty "route" (.text "a"), .record "Rate" (0 / 0) (some .percent),
      .setNamespace "shop", .record "Latency" 2.5 none, .setTimestamp ⟨7⟩,
      .putProperty "route" (.text "b"), .setNamespace "floor"]
    let others : List Operation := [.setTimestamp ⟨7⟩, .setNamespace "shop",
      .record "Rate" (0 / 0) (some .percent), .putProperty "route" (.text "a"),
      .putProperty "route" (.text "b"), .record "Latency" 1.5 (some .milliseconds),
      .setNamespace "floor", .record "Latency" 2.5 none]
    Rearranged Operation.target operations others ∧
      (Context.new.run operations).1 = (Context.new.run others).1 ∧
      (Context.new.run operations).1.timestamp ≠ none ∧
      ((Context.new.run operations).1.document ⟨1⟩).text =
        ((Context.new.run others).1.document ⟨2⟩).text := by
  intro operations others
  have rearranged : Rearranged Operation.target operations others := by
    apply Rearranged.of_mem
    simp [operations, others, concerning, Operation.target]
  obtain ⟨same, texts⟩ := order_leaves_no_trace rearranged .new
  have timed : (Context.new.run operations).1.timestamp ≠ none := by decide +kernel
  exact ⟨rearranged, same, timed, texts timed _ _⟩

end Context

end MetricEmitter
