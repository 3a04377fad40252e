import MetricEmitter.Proofs.Context.Samples
import MetricEmitter.Proofs.Document.Members
import MetricEmitter.Proofs.Text.ByteOrder

/-!
# What a document says

A document is compared with the context it is made from, member by member
(`Context.Contents`). After the header stand the dimensions, then the properties
that are not shadowed, then the metrics that are not shadowed, each group in the
order of the bytes of its names. The header lists the dimension sets and the
metrics, and each name it lists has a member of the right kind.

A dimension that several sets name has the value of the last of them
(`get?_dimensionValues`). A metric is a number or an array, and neither absent
nor empty, because every series of a reachable context has finite samples and at
least one of them.
-/

set_option autoImplicit false

namespace MetricEmitter

/-- The value of a name in the last of several sets that has the name. -/
def DimensionSet.lastValue? (sets : List DimensionSet) (name : String) : Option String :=
  sets.reverse.findSome? fun set => set.value? name

/-- How the samples of a metric are written: one sample as a number, several as an array of them. -/
inductive Series.WrittenAs (series : Series) : Json → Prop where
  | number {sample : Float} (single : series.samples = [sample])
      (finite : sample.isFinite = true) : WrittenAs series (.float sample)
  | array (several : 2 ≤ series.samples.length) (fits : series.samples.length ≤ Series.capacity)
      (finite : ∀ sample ∈ series.samples, sample.isFinite = true) :
      WrittenAs series (.array (series.samples.map .float))

/-! ## Samples -/

theorem Json.ofFloat_of_isFinite {value : Float} (finite : value.isFinite = true) :
    Json.ofFloat value = .float value := by
  rw [ofFloat, if_pos finite]

theorem Json.map_ofFloat {values : List Float} (finite : ∀ value ∈ values, value.isFinite = true) :
    values.map Json.ofFloat = values.map .float :=
  List.map_congr_left fun value member => ofFloat_of_isFinite (finite value member)

/-- **Recorded samples are written as a number or as an array of numbers.** -/
theorem Series.Recorded.writtenAs {series : Series} (recorded : series.Recorded) :
    series.WrittenAs (Document.sampleValue series.samples) := by
  obtain ⟨samples, unit⟩ := series
  have finite := recorded.finite
  match samples with
  | [] => exact absurd rfl recorded.started
  | [sample] =>
      have only : sample.isFinite = true := finite sample List.mem_cons_self
      rw [Document.sampleValue, Json.ofFloat_of_isFinite only]
      exact .number rfl only
  | first :: second :: rest =>
      rw [Document.sampleValue, Json.map_ofFloat finite]
      · exact .array (Nat.le_add_left 2 rest.length) recorded.fits finite
      · exact fun sample same => List.cons_ne_nil second rest (List.cons.inj same).2

/-! ## Dimensions -/

/-- What all sets agree on is the value of the last one. -/
theorem DimensionSet.lastValue?_eq_some {sets : List DimensionSet} {name value : String}
    (nonempty : sets ≠ []) (agree : ∀ set ∈ sets, set.value? name = some value) :
    lastValue? sets name = some value := by
  rw [lastValue?, ← List.dropLast_append_getLast nonempty, List.reverse_append,
    List.reverse_singleton, List.singleton_append, List.findSome?_cons,
    agree _ (List.getLast_mem nonempty)]

/-- The entries of a set that names nothing twice answer for the set, over those before. -/
theorem Table.get?_foldl_entries {set : DimensionSet} (distinct : set.names.Nodup)
    (table : Table String) (name : String) :
    (set.entries.foldl (fun table entry => table.insert entry.1 entry.2) table).get? name =
      (set.value? name).or (table.get? name) := by
  obtain ⟨entries⟩ := set
  induction entries generalizing table with
  | nil => rfl
  | cons entry rest ih =>
      obtain ⟨head, value⟩ := entry
      obtain ⟨fresh, tail⟩ := List.nodup_cons.mp distinct
      rw [List.foldl_cons, ih _ tail, Table.get?_insert, DimensionSet.value?_cons]
      by_cases same : name = head
      · -- The rest of the set does not name it again.
        have gone : DimensionSet.value? ⟨rest⟩ name = none :=
          DimensionSet.value?_eq_none (same ▸ fresh)
        rw [gone, if_pos same, if_pos same, Option.none_or, Option.some_or]
      · rw [if_neg same, if_neg same]

/-- **Of several sets, the last one that has a name gives it its value.** -/
theorem Table.get?_ofList_flatMap {sets : List DimensionSet}
    (distinct : ∀ set ∈ sets, set.names.Nodup) (name : String) :
    (Table.ofList (sets.flatMap DimensionSet.entries)).get? name =
      DimensionSet.lastValue? sets name := by
  rw [Table.ofList, List.foldl_flatMap]
  -- The induction is on the sets from the last one on.
  induction sets using List.reverseRecOn with
  | nil => rfl
  | append_singleton earlier last ih =>
      obtain ⟨before, there⟩ := List.forall_mem_append.mp distinct
      rw [List.foldl_append, List.foldl_cons, List.foldl_nil,
        Table.get?_foldl_entries (there last List.mem_cons_self), ih before]
      unfold DimensionSet.lastValue?
      rw [List.reverse_append, List.reverse_singleton, List.singleton_append,
        List.findSome?_cons]
      cases last.value? name <;> rfl

namespace Context

variable {context : Context} {name : String}

/-- A dimension set of the document has the name. -/
def HasDimension (context : Context) (name : String) : Prop :=
  ∃ set ∈ context.dimensions, name ∈ set.names

instance : Decidable (context.HasDimension name) :=
  inferInstanceAs (Decidable (∃ set ∈ context.dimensions, name ∈ set.names))

/-- What a document says about a context: its members after the header are the dimensions, the
properties and the metrics, of which the header lists the first and the last. -/
structure Contents (context : Context) (now : Instant) (document : Document)
    (dimensions : List (String × String)) (properties : List (String × Json))
    (metrics : List (String × Series)) : Prop where
  text : document.text = (Json.object document.members).render
  /-- The header, then the three groups. -/
  members : document.members =
    (Document.headerName, document.header) ::
      dimensions.map (fun dimension => (dimension.1, .text dimension.2)) ++ properties ++
        metrics.map (fun metric => (metric.1, Document.sampleValue metric.2.samples))
  /-- The time, and one directive: the namespace, the names of each dimension set, and each metric
  with its unit if one is recorded. -/
  header : document.header =
    .object [
      ("Timestamp", .integer (context.timestamp.getD now).epochMillis),
      ("CloudWatchMetrics", .array [.object [
        ("Namespace", .text context.namespaceName),
        ("Dimensions", .array (context.dimensions.map fun set => .array (set.names.map .text))),
        ("Metrics", .array (metrics.map fun metric =>
          .object (("Name", .text metric.1) ::
            (metric.2.unit.map fun unit => ("Unit", .text unit.documentName)).toList)))]])]
  dimensionsOrdered : Text.InByteOrder (dimensions.map Prod.fst)
  propertiesOrdered : Text.InByteOrder (properties.map Prod.fst)
  metricsOrdered : Text.InByteOrder (metrics.map Prod.fst)
  mem_dimensions : ∀ name value, (name, value) ∈ dimensions ↔
    DimensionSet.lastValue? context.dimensions name = some value
  mem_properties : ∀ name value, (name, value) ∈ properties ↔
    context.properties.get? name = some value ∧ ¬context.HasDimension name ∧
      name ∉ metrics.map Prod.fst
  mem_metrics : ∀ name series, (name, series) ∈ metrics ↔
    context.metrics.get? name = some series ∧ ¬context.HasDimension name
  /-- Every metric is written as a number or as an array of numbers. -/
  values : ∀ metric ∈ metrics, metric.2.WrittenAs (Document.sampleValue metric.2.samples)
  /-- Every name of a dimension set has a text as a member, and is no metric. -/
  declared : ∀ name, context.HasDimension name →
    name ∉ metrics.map Prod.fst ∧ ∃ value, (name, .text value) ∈ document.members
  /-- Every metric in the list has a number or an array as a member, and is no dimension. -/
  listed : ∀ metric ∈ metrics, ¬context.HasDimension metric.1 ∧
    ∃ value, metric.2.WrittenAs value ∧ (metric.1, value) ∈ document.members

/-! ## The three groups -/

theorem Reachable.get?_dimensionValues (reachable : context.Reachable) (name : String) :
    context.dimensionValues.get? name = DimensionSet.lastValue? context.dimensions name :=
  Table.get?_ofList_flatMap (fun _ member =>
    (reachable.sound.wellFormed_of_mem_emitted member).distinct) name

theorem contains_dimensionValues :
    context.dimensionValues.contains name = true ↔ context.HasDimension name := by
  rw [Table.contains_iff, mem_names_dimensionValues, HasDimension]

theorem get?_writtenMetrics {series : Series} :
    context.writtenMetrics.get? name = some series ↔
      context.metrics.get? name = some series ∧ ¬context.HasDimension name := by
  rw [writtenMetrics, Table.get?_filter, Option.filter_eq_some_iff, Bool.not_eq_true',
    ← Bool.not_eq_true, contains_dimensionValues]

theorem get?_writtenProperties {value : Json} :
    context.writtenProperties.get? name = some value ↔
      context.properties.get? name = some value ∧ ¬context.HasDimension name ∧
        name ∉ context.writtenMetrics.names := by
  rw [writtenProperties, Table.get?_filter, Option.filter_eq_some_iff, Bool.not_eq_true',
    Bool.or_eq_false_iff, ← Bool.not_eq_true, ← Bool.not_eq_true, contains_dimensionValues,
    Table.contains_iff]

theorem header_document (context : Context) (now : Instant) :
    (context.document now).header =
      .object [
        ("Timestamp", .integer (context.timestamp.getD now).epochMillis),
        ("CloudWatchMetrics", .array [.object [
          ("Namespace", .text context.namespaceName),
          ("Dimensions", .array (context.dimensions.map fun set => .array (set.names.map .text))),
          ("Metrics", .array (context.writtenMetrics.entries.map fun metric =>
            .object (("Name", .text metric.1) ::
              (metric.2.unit.map fun unit => ("Unit", .text unit.documentName)).toList)))]])] := by
  have directive : ∀ metric : String × Series,
      Document.directive (metric.1, metric.2.unit) =
        .object (("Name", .text metric.1) ::
          (metric.2.unit.map fun unit => ("Unit", .text unit.documentName)).toList) := by
    rintro ⟨name, samples, unit⟩
    cases unit <;> rfl
  simp only [Document.header, document, List.map_map, Function.comp_def, directive]

theorem members_document (context : Context) (now : Instant) :
    (context.document now).members =
      (Document.headerName, (context.document now).header) ::
        context.dimensionValues.entries.map (fun dimension => (dimension.1, .text dimension.2)) ++
          context.writtenProperties.entries ++
          context.writtenMetrics.entries.map
            (fun metric => (metric.1, Document.sampleValue metric.2.samples)) := by
  simp only [Document.members, document, Table.mapValues, List.map_map, Function.comp_def]

/-- **A document says what its context holds**: it consists of the header, the dimensions, the
properties and the metrics of the context, as far as they are not shadowed. -/
theorem Reachable.document_contents (reachable : context.Reachable) (now : Instant) :
    ∃ dimensions properties metrics,
      context.Contents now (context.document now) dimensions properties metrics := by
  have recorded : ∀ metric ∈ context.writtenMetrics.entries, metric.2.Recorded := by
    rintro ⟨name, series⟩ member
    exact reachable.measured name series
      (get?_writtenMetrics.mp (Table.mem_entries_iff.mp member)).1
  refine ⟨context.dimensionValues.entries, context.writtenProperties.entries,
    context.writtenMetrics.entries, ?_⟩
  exact {
    text := rfl
    members := context.members_document now
    header := context.header_document now
    dimensionsOrdered := context.dimensionValues.inByteOrder_names
    propertiesOrdered := context.writtenProperties.inByteOrder_names
    metricsOrdered := context.writtenMetrics.inByteOrder_names
    mem_dimensions := fun name value => by
      rw [Table.mem_entries_iff, reachable.get?_dimensionValues]
    mem_properties := fun name value => by
      rw [Table.mem_entries_iff, get?_writtenProperties]
      rfl
    mem_metrics := fun name series => by
      rw [Table.mem_entries_iff, get?_writtenMetrics]
    values := fun metric member => (recorded metric member).writtenAs
    declared := by
      intro name declared
      obtain ⟨value, held⟩ := Table.mem_names_iff.mp (mem_names_dimensionValues.mpr declared)
      refine ⟨fun written => ?_, value, ?_⟩
      · exact (mem_names_writtenMetrics.mp written).2 (mem_names_dimensionValues.mpr declared)
      · rw [members_document]
        refine List.mem_append_left _ (List.mem_append_left _ (List.mem_cons_of_mem _ ?_))
        exact List.mem_map.mpr ⟨(name, value), Table.mem_entries_iff.mpr held, rfl⟩
    listed := by
      rintro ⟨name, series⟩ member
      refine ⟨(get?_writtenMetrics.mp (Table.mem_entries_iff.mp member)).2,
        Document.sampleValue series.samples, (recorded _ member).writtenAs, ?_⟩
      rw [members_document]
      exact List.mem_append_right _ (List.mem_map.mpr ⟨(name, series), member, rfl⟩) }

/-- Two dimension sets that share their names, a metric with two samples and one with a single
sample, and one of each kind that is shadowed. -/
theorem document_contents_layers :
    let stage : DimensionSet := ⟨[("Stage", "beta")]⟩
    let pay : DimensionSet := ⟨[("Call", "pay")]⟩
    let refund : DimensionSet := ⟨[("Call", "refund"), ("Stage", "gamma")]⟩
    let operations : List Operation := [.setDimensionsOverDefaults [pay, refund],
      .record "Latency" 1.5 none, .record "Call" 3 none, .record "Visits" 1 none,
      .record "Latency" 2.5 (some .milliseconds), .putProperty "user" (.text "guest"),
      .putProperty "Visits" .null]
    let context := ((Context.ofDefaults stage).run operations).1
    context.Reachable ∧
      (context.document ⟨0⟩).memberNames =
        [Document.headerName, "Call", "Stage", "user", "Latency", "Visits"] ∧
      ∃ dimensions properties metrics,
        context.Contents ⟨0⟩ (context.document ⟨0⟩) dimensions properties metrics ∧
          ("Call", "refund") ∈ dimensions ∧ ("Stage", "gamma") ∈ dimensions ∧
          ("Latency", ⟨[1.5, 2.5], some .milliseconds⟩) ∈ metrics ∧
          ("Visits", ⟨[1], none⟩) ∈ metrics := by
  intro stage pay refund operations context
  have stageWellFormed : stage.WellFormed := ⟨by decide, by decide⟩
  have payWellFormed : pay.WellFormed := ⟨by decide, by decide⟩
  have refundWellFormed : refund.WellFormed := ⟨by decide, by decide⟩
  have sets : ∀ set ∈ operations.flatMap Operation.sets, set.Constructible :=
    List.forall_mem_cons.mpr ⟨payWellFormed.constructible,
      List.forall_mem_singleton.mpr refundWellFormed.constructible⟩
  have reachable : context.Reachable :=
    (Reachable.ofDefaults stageWellFormed.constructible).run fun operation member set given =>
      sets set (List.mem_flatMap.mpr ⟨operation, member, given⟩)
  obtain ⟨dimensions, properties, metrics, contents⟩ := reachable.document_contents ⟨0⟩
  refine ⟨reachable, by decide +kernel, dimensions, properties, metrics, contents, ?_, ?_, ?_, ?_⟩
  · exact (contents.mem_dimensions _ _).mpr (by decide +kernel)
  · exact (contents.mem_dimensions _ _).mpr (by decide +kernel)
  · exact (contents.mem_metrics _ _).mpr (by decide +kernel)
  · exact (contents.mem_metrics _ _).mpr (by decide +kernel)

end Context

end MetricEmitter
