import Mathlib.Algebra.Order.Group.Multiset
import Mathlib.Tactic.Abel
import MetricEmitter.Proofs.Document.Contents

/-!
# Where samples and properties go

Every sample that is offered to a context is held by it afterwards or reported
as dropped (`Context.conserves_perform`, `Context.conserves_run`). Samples are
counted with the name of their metric, as multisets, so that none can stand in
for another of a different name or value.

When a document is made, the held samples fall into those of the written metrics
and those of the shadowed ones (`Context.held_eq`). The former can be read in the
document (`Context.Measured.stated_document`), and the latter are those of the
metrics that are reported (`Context.reportedMeasurements_shadowNotices`). A
property is either written with its value and not reported, or left out and
reported once (`Context.property_written_or_reported`).
-/

set_option autoImplicit false

namespace MetricEmitter

/-- A sample together with the name of its metric. -/
structure Measurement where
  metric : String
  sample : Float
  deriving DecidableEq, Repr

/-- What is reported when a measurement is dropped. -/
def Measurement.dropNotice (measurement : Measurement) : Notice :=
  if measurement.sample.isFinite then .seriesFull measurement.sample
  else .sampleNotFinite measurement.metric measurement.sample

/-- The notice says that a sample was dropped. -/
def Notice.dropsSample : Notice → Bool
  | .sampleNotFinite .. | .seriesFull .. => true
  | _ => false

/-- The notice says that a name is shadowed. -/
def Notice.reportsShadow : Notice → Bool
  | .metricShadowed .. | .propertyShadowed .. => true
  | _ => false

/-- The measurements an operation offers, one at most. -/
def Operation.offered : Operation → List Measurement
  | .record metric sample _ => [⟨metric, sample⟩]
  | _ => []

/-! ## The samples a document states -/

/-- The numbers that stand in a value: the value itself, or its items. -/
def Json.numbers : Json → List Float
  | .float value => [value]
  | .array items => items.filterMap fun item =>
      match item with
      | .float value => some value
      | _ => none
  | _ => []

/-- The samples a document states: the numbers in its members under the names of the metrics it
lists. -/
def Document.stated (document : Document) : List Measurement :=
  document.members.flatMap fun member =>
    if member.1 ∈ document.directives.map Prod.fst then
      member.2.numbers.map (Measurement.mk member.1)
    else []

/-- The numbers in what is written for a series are its samples. -/
theorem Series.WrittenAs.numbers_eq {series : Series} {value : Json}
    (written : series.WrittenAs value) : value.numbers = series.samples := by
  cases written with
  | number single finite =>
      rw [single]
      rfl
  | array several fits finite =>
      rw [Json.numbers, List.filterMap_map]
      exact List.filterMap_some

/-! ## The measurements in a table of series -/

namespace Table

def measurements (table : Table Series) : List Measurement :=
  table.entries.flatMap fun metric => metric.2.samples.map (Measurement.mk metric.1)

/-- The measurements of a table are those of one metric and those of the others. -/
theorem measurements_perm (table : Table Series) (metric : String) :
    table.measurements.Perm
      (((table.get? metric).getD .empty).samples.map (Measurement.mk metric) ++
        (table.erase metric).measurements) := by
  have parts := (table.entries_perm metric).flatMap_right fun metric =>
    metric.2.samples.map (Measurement.mk metric.1)
  rw [List.flatMap_append] at parts
  refine parts.trans (List.Perm.append_right _ ?_)
  cases table.get? metric with
  | none => exact List.Perm.refl _
  | some series => exact List.Perm.of_eq (List.append_nil _)

/-- One more sample of a metric is one more measurement. -/
theorem measurements_insert_record (table : Table Series) (metric : String) (sample : Float)
    (unit : Option MetricUnit) :
    (table.insert metric (((table.get? metric).getD .empty).record sample unit)).measurements.Perm
      (⟨metric, sample⟩ :: table.measurements) := by
  refine (measurements_perm _ metric).trans ?_
  rw [erase_insert, get?_insert, if_pos rfl, Option.getD_some, Series.record, List.map_append,
    List.append_assoc]
  exact List.perm_middle.trans ((table.measurements_perm metric).symm.cons _)

/-- The measurements of a table are those under names that satisfy a condition and those under
names that do not. -/
theorem measurements_filter_append (table : Table Series) (condition : String → Bool) :
    ((table.filter fun name _ => condition name).measurements ++
      (table.filter fun name _ => !condition name).measurements).Perm table.measurements := by
  unfold measurements
  rw [← List.flatMap_append]
  exact (List.filter_append_perm _ table.entries).flatMap_right _

end Table

namespace Context

variable {context : Context} {name : String}

/-- The measurements a context holds. -/
def held (context : Context) : Multiset Measurement :=
  context.metrics.measurements

theorem held_of_empty (empty : context.metrics = .empty) : context.held = 0 := by
  rw [held, empty]
  rfl

/-! ## Offered samples are held or dropped -/

/-- What was held and offered is held now, or was dropped, which the notices report. -/
def Conserves (context changed : Context) (offered : List Measurement) (notices : List Notice) :
    Prop :=
  ∃ dropped : List Measurement,
    notices.filter Notice.dropsSample = dropped.map Measurement.dropNotice ∧
      context.held + offered = changed.held + dropped

theorem Conserves.of_metrics_eq {changed : Context} {notices : List Notice}
    (same : changed.metrics = context.metrics)
    (silent : notices.filter Notice.dropsSample = []) :
    context.Conserves changed [] notices := by
  refine ⟨[], silent, ?_⟩
  rw [held, held, same]

theorem Conserves.trans {middle last : Context} {earlier later : List Measurement}
    {notices others : List Notice} (first : context.Conserves middle earlier notices)
    (second : middle.Conserves last later others) :
    context.Conserves last (earlier ++ later) (notices ++ others) := by
  obtain ⟨dropped, reported, balance⟩ := first
  obtain ⟨droppedLater, reportedLater, balanceLater⟩ := second
  refine ⟨dropped ++ droppedLater, ?_, ?_⟩
  · rw [List.filter_append, reported, reportedLater, List.map_append]
  · rw [← Multiset.coe_add, ← Multiset.coe_add]
    calc context.held + (↑earlier + ↑later)
        = middle.held + ↑dropped + ↑later := by rw [← add_assoc, balance]
      _ = middle.held + ↑later + ↑dropped := by abel
      _ = last.held + (↑dropped + ↑droppedLater) := by rw [balanceLater]; abel

/-- What is reported when a document is made are shadowed names, and no dropped samples. -/
theorem reportsShadow_of_mem_shadowNotices {notice : Notice}
    (member : notice ∈ context.shadowNotices) :
    notice.reportsShadow = true ∧ notice.dropsSample = false := by
  rcases List.mem_append.mp member with metric | property
  · obtain ⟨name, _, rfl⟩ := List.mem_map.mp metric
    exact ⟨rfl, rfl⟩
  · obtain ⟨name, _, rfl⟩ := List.mem_map.mp property
    exact ⟨rfl, rfl⟩

theorem filter_dropsSample_shadowNotices (context : Context) :
    context.shadowNotices.filter Notice.dropsSample = [] := by
  rw [List.filter_eq_nil_iff]
  intro notice member drops
  exact Bool.false_ne_true ((reportsShadow_of_mem_shadowNotices member).2.symm.trans drops)

theorem filter_reportsShadow_shadowNotices (context : Context) :
    context.shadowNotices.filter Notice.reportsShadow = context.shadowNotices :=
  List.filter_eq_self.mpr fun _ member => (reportsShadow_of_mem_shadowNotices member).1

/-- **A sample is held afterwards, or it is reported as dropped.** -/
theorem conserves_record (context : Context) (metric : String) (sample : Float)
    (unit : Option MetricUnit) :
    context.Conserves (context.record metric sample unit).1 [⟨metric, sample⟩]
      (context.record metric sample unit).2 := by
  have records := context.records_record metric sample unit
  generalize context.record metric sample unit = recorded at records
  cases records with
  | notFinite endless =>
      refine ⟨[⟨metric, sample⟩], ?_, rfl⟩
      simp [Notice.dropsSample, Measurement.dropNotice, endless]
  | full finite noRoom =>
      refine ⟨[⟨metric, sample⟩], ?_, rfl⟩
      simp [Notice.dropsSample, Measurement.dropNotice, finite]
  | taken finite room =>
      refine ⟨[], rfl, ?_⟩
      have more := context.metrics.measurements_insert_record metric sample unit
      calc context.held + ↑[Measurement.mk metric sample]
          = ↑(Measurement.mk metric sample :: context.metrics.measurements) :=
            Multiset.coe_eq_coe.mpr (List.perm_append_singleton _ _)
        _ = ↑(context.metrics.insert metric
              ((context.series metric).record sample unit)).measurements :=
            (Multiset.coe_eq_coe.mpr more).symm
        _ = _ := (add_zero _).symm

theorem conserves_perform (context : Context) (operation : Operation) :
    context.Conserves (context.perform operation).1 operation.offered
      (context.perform operation).2.notices := by
  have metrics := context.metrics_perform operation
  have silent : ∀ outcome,
      (context.settle outcome).2.notices.filter Notice.dropsSample = [] := by
    intro outcome
    rw [notices_settle]
    rfl
  cases operation with
  | record metric sample unit => exact context.conserves_record metric sample unit
  | putDimensions set => exact .of_metrics_eq metrics (silent _)
  | setDimensionsOverDefaults sets => exact .of_metrics_eq metrics (silent _)
  | setDefaultDimensions set => exact .of_metrics_eq metrics (silent _)
  | preview => exact .of_metrics_eq metrics context.filter_dropsSample_shadowNotices
  | _ => exact .of_metrics_eq metrics rfl

/-- **After a sequence of operations every offered sample is held, or reported as dropped.** -/
theorem conserves_run (context : Context) (operations : List Operation) :
    context.Conserves (context.run operations).1 (operations.flatMap Operation.offered)
      (context.run operations).2 := by
  induction operations generalizing context with
  | nil => exact .of_metrics_eq rfl rfl
  | cons operation rest ih =>
      exact (context.conserves_perform operation).trans (ih (context.perform operation).1)

/-! ## Held samples are written or shadowed -/

/-- **The samples a context holds are those of the written metrics and those of the shadowed
metrics.** -/
theorem held_eq (context : Context) :
    context.held =
      ↑context.writtenMetrics.measurements + ↑context.shadowedMetrics.measurements := by
  rw [Multiset.coe_add]
  refine Multiset.coe_eq_coe.mpr (List.Perm.symm (List.perm_append_comm.trans ?_))
  exact context.metrics.measurements_filter_append context.dimensionValues.contains

/-- A document states the samples of the written metrics. -/
theorem Measured.stated_document (measured : context.Measured) (now : Instant) :
    (context.document now).stated = context.writtenMetrics.measurements := by
  have listed : (context.document now).directives.map Prod.fst = context.writtenMetrics.names := by
    rw [document, List.map_map]
    rfl
  rw [Document.stated, listed, members_document, List.flatMap_append, List.flatMap_append,
    List.flatMap_cons, List.flatMap_map, List.flatMap_map]
  have header : ∀ members : List (String × Json), (Json.object members).numbers = [] :=
    fun _ => rfl
  have dimensions : (context.dimensionValues.entries.flatMap fun dimension =>
      if dimension.1 ∈ context.writtenMetrics.names then
        (Json.text dimension.2).numbers.map (Measurement.mk dimension.1)
      else []) = [] := by
    refine List.flatMap_eq_nil_iff.mpr fun dimension _ => ?_
    split <;> rfl
  have properties : (context.writtenProperties.entries.flatMap fun property =>
      if property.1 ∈ context.writtenMetrics.names then
        property.2.numbers.map (Measurement.mk property.1)
      else []) = [] := by
    refine List.flatMap_eq_nil_iff.mpr fun property member => if_neg ?_
    exact (mem_names_writtenProperties.mp (List.mem_map_of_mem member)).2.2
  have metrics : ∀ metric ∈ context.writtenMetrics.entries,
      (if metric.1 ∈ context.writtenMetrics.names then
        (Document.sampleValue metric.2.samples).numbers.map (Measurement.mk metric.1)
      else []) = metric.2.samples.map (Measurement.mk metric.1) := by
    rintro ⟨name, series⟩ member
    have recorded : series.Recorded :=
      measured name series (get?_writtenMetrics.mp (Table.mem_entries_iff.mp member)).1
    have named : name ∈ context.writtenMetrics.names := List.mem_map_of_mem member
    rw [if_pos named, recorded.writtenAs.numbers_eq]
  rw [dimensions, properties, List.flatMap_congr metrics, Document.header, header]
  simp [Table.measurements]

/-- The measurements of the metrics that notices report as shadowed. -/
def reportedMeasurements (context : Context) (notices : List Notice) : List Measurement :=
  notices.flatMap fun notice =>
    match notice with
    | .metricShadowed metric => (context.series metric).samples.map (Measurement.mk metric)
    | _ => []

theorem reportedMeasurements_shadowNotices (context : Context) :
    context.reportedMeasurements context.shadowNotices =
      context.shadowedMetrics.measurements := by
  have properties : (context.shadowedProperties.names.map Notice.propertyShadowed).flatMap
      (fun notice => match notice with
        | .metricShadowed metric => (context.series metric).samples.map (Measurement.mk metric)
        | _ => []) = [] := by
    rw [List.flatMap_map]
    exact List.flatMap_eq_nil_iff.mpr fun _ _ => rfl
  rw [reportedMeasurements, shadowNotices, List.flatMap_append, properties, List.append_nil,
    List.flatMap_map, Table.names, List.flatMap_map, Table.measurements]
  apply List.flatMap_congr
  rintro ⟨metric, series⟩ member
  -- What the table of the shadowed metrics holds is what the context holds.
  rw [Table.mem_entries_iff, shadowedMetrics, Table.get?_filter,
    Option.filter_eq_some_iff] at member
  dsimp only
  rw [Context.series, member.1, Option.getD_some]

/-- An operation reports shadowed names only when it previews a document. -/
theorem filter_reportsShadow_perform (context : Context) {operation : Operation}
    (unseen : operation ≠ .preview) :
    (context.perform operation).2.notices.filter Notice.reportsShadow = [] := by
  have silent : ∀ outcome,
      (context.settle outcome).2.notices.filter Notice.reportsShadow = [] := by
    intro outcome
    rw [notices_settle]
    rfl
  cases operation with
  | record metric sample unit =>
      change (context.record metric sample unit).2.filter Notice.reportsShadow = []
      have records := context.records_record metric sample unit
      generalize context.record metric sample unit = recorded at records
      cases records <;> rfl
  | putDimensions set => exact silent _
  | setDimensionsOverDefaults sets => exact silent _
  | setDefaultDimensions set => exact silent _
  | preview => exact absurd rfl unseen
  | _ => rfl

theorem filter_reportsShadow_run (context : Context) {operations : List Operation}
    (unseen : ∀ operation ∈ operations, operation ≠ .preview) :
    (context.run operations).2.filter Notice.reportsShadow = [] := by
  induction operations generalizing context with
  | nil => rfl
  | cons operation rest ih =>
      obtain ⟨first, others⟩ := List.forall_mem_cons.mp unseen
      rw [run, List.filter_append, context.filter_reportsShadow_perform first, List.nil_append]
      exact ih (context.perform operation).1 others

/-! ## Properties are written or reported -/

theorem mem_names_shadowedProperties :
    name ∈ context.shadowedProperties.names ↔
      name ∈ context.properties.names ∧ name ∉ context.writtenProperties.names := by
  have shadowed : name ∈ context.shadowedProperties.names ↔
      name ∈ context.properties.names ∧
        (name ∈ context.dimensionValues.names ∨ name ∈ context.writtenMetrics.names) := by
    rw [shadowedProperties, Table.names_filter, List.mem_filter, Bool.or_eq_true,
      Table.contains_iff, Table.contains_iff]
  rw [shadowed, mem_names_writtenProperties]
  tauto

/-- A property is reported once if it is shadowed, and not otherwise. -/
theorem count_propertyShadowed (context : Context) (name : String) :
    context.shadowNotices.count (.propertyShadowed name) =
      if name ∈ context.shadowedProperties.names then 1 else 0 := by
  have metrics : (context.shadowedMetrics.names.map Notice.metricShadowed).count
      (.propertyShadowed name) = 0 := by
    rw [List.count_eq_zero, List.mem_map]
    rintro ⟨metric, _, same⟩
    cases same
  have apart : Function.Injective Notice.propertyShadowed := fun _ _ same =>
    Notice.propertyShadowed.inj same
  rw [shadowNotices, List.count_append, metrics, Nat.zero_add,
    List.count_map_of_injective _ _ apart, (Table.nodup_names _).count]

/-- **A property is written with its value and not reported, or it is left out and reported
once.** -/
theorem property_written_or_reported {value : Json}
    (stored : context.properties.get? name = some value) :
    ((name, value) ∈ context.writtenProperties.entries ∧
        context.shadowNotices.count (.propertyShadowed name) = 0) ∨
      (name ∉ context.writtenProperties.names ∧
        context.shadowNotices.count (.propertyShadowed name) = 1) := by
  have named : name ∈ context.properties.names := Table.mem_names_iff.mpr ⟨value, stored⟩
  rw [count_propertyShadowed]
  by_cases written : name ∈ context.writtenProperties.names
  · refine Or.inl ⟨?_, if_neg fun shadowed => (mem_names_shadowedProperties.mp shadowed).2 written⟩
    obtain ⟨held, found⟩ := Table.mem_names_iff.mp written
    -- A selection answers with what was stored.
    have kept := found
    rw [writtenProperties, Table.get?_filter, Option.filter_eq_some_iff, stored] at kept
    rw [Table.mem_entries_iff, found, kept.1]
  · exact Or.inr ⟨written, if_pos (mem_names_shadowedProperties.mpr ⟨named, written⟩)⟩

end Context

end MetricEmitter
