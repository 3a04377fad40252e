import MetricEmitter.Proofs.Context.Reachable
import MetricEmitter.Proofs.Table

/-!
# How often a document writes a name

After the header, the members of a document come from three tables: the
dimensions, the properties that are not shadowed and the metrics that are not
shadowed. The selections keep the three apart, so together they write every name
of the context once (`nodup_bodyNames`), and they leave no name of the context
out (`mem_bodyNames`).

The header itself is compared with nothing. Its name is therefore written twice
as soon as a dimension, a metric or a property bears it, and only then
(`memberNames_nodup_iff`). A single property is enough
(`header_written_twice`).
-/

set_option autoImplicit false

namespace MetricEmitter

/-- The names of the members in the order in which they are written. -/
def Document.memberNames (document : Document) : List String :=
  document.members.map Prod.fst

/-- The names of the members after the header. -/
def Document.bodyNames (document : Document) : List String :=
  document.dimensions.names ++ document.properties.names ++ document.samples.names

theorem Document.memberNames_eq (document : Document) :
    document.memberNames = headerName :: document.bodyNames := by
  simp [memberNames, members, bodyNames, Table.names, Table.mapValues, Function.comp_def]

namespace Context

variable {context : Context} {name : String}

/-- A dimension of an emitted set, a metric or a property bears the name. -/
def Mentions (context : Context) (name : String) : Prop :=
  (∃ set ∈ context.dimensions, name ∈ set.names) ∨ name ∈ context.metrics.names ∨
    name ∈ context.properties.names

instance : Decidable (context.Mentions name) :=
  inferInstanceAs (Decidable (_ ∨ _))

/-! ## The names of the three tables -/

theorem mem_names_dimensionValues :
    name ∈ context.dimensionValues.names ↔ ∃ set ∈ context.dimensions, name ∈ set.names := by
  rw [dimensionValues, Table.mem_names_ofList]
  simp only [List.mem_map, List.mem_flatMap, DimensionSet.names]
  constructor
  · rintro ⟨entry, ⟨set, emitted, member⟩, same⟩
    exact ⟨set, emitted, entry, member, same⟩
  · rintro ⟨set, emitted, entry, member, same⟩
    exact ⟨entry, ⟨set, emitted, member⟩, same⟩

theorem mem_names_writtenMetrics :
    name ∈ context.writtenMetrics.names ↔
      name ∈ context.metrics.names ∧ name ∉ context.dimensionValues.names := by
  rw [writtenMetrics, Table.names_filter, List.mem_filter, Bool.not_eq_true', ← Bool.not_eq_true,
    Table.contains_iff]

theorem mem_names_writtenProperties :
    name ∈ context.writtenProperties.names ↔
      name ∈ context.properties.names ∧ name ∉ context.dimensionValues.names ∧
        name ∉ context.writtenMetrics.names := by
  rw [writtenProperties, Table.names_filter, List.mem_filter, Bool.not_eq_true',
    Bool.or_eq_false_iff, ← Bool.not_eq_true, ← Bool.not_eq_true, Table.contains_iff,
    Table.contains_iff]

theorem bodyNames_document (context : Context) (now : Instant) :
    (context.document now).bodyNames =
      context.dimensionValues.names ++ context.writtenProperties.names ++
        context.writtenMetrics.names := by
  rw [Document.bodyNames, document, Table.names_mapValues]

/-! ## The body of a document -/

theorem nodup_bodyNames (context : Context) (now : Instant) :
    (context.document now).bodyNames.Nodup := by
  rw [bodyNames_document]
  refine List.nodup_append.mpr
    ⟨List.nodup_append.mpr ⟨Table.nodup_names _, Table.nodup_names _, ?_⟩,
      Table.nodup_names _, ?_⟩
  · intro dimension declared property written same
    exact (mem_names_writtenProperties.mp written).2.1 (same ▸ declared)
  · intro earlier member metric written same
    rcases List.mem_append.mp member with declared | property
    · exact (mem_names_writtenMetrics.mp written).2 (same ▸ declared)
    · exact (mem_names_writtenProperties.mp property).2.2 (same ▸ written)

/-- The members after the header bear exactly the names of the context. -/
theorem mem_bodyNames {now : Instant} :
    name ∈ (context.document now).bodyNames ↔ context.Mentions name := by
  rw [bodyNames_document, Mentions, ← mem_names_dimensionValues, List.mem_append, List.mem_append,
    mem_names_writtenProperties, mem_names_writtenMetrics]
  -- A name is left out of one table only if it stands in another.
  tauto

/-! ## All members -/

/-- **A document writes every name of its context once, and the name of the header once more.** So
the names of its members are different exactly when no dimension, metric or property bears the name
of the header. -/
theorem memberNames_nodup_iff (context : Context) (now : Instant) :
    (∀ name, (context.document now).memberNames.count name =
      (if name = Document.headerName then 1 else 0) + if context.Mentions name then 1 else 0) ∧
    ((context.document now).memberNames.Nodup ↔ ¬context.Mentions Document.headerName) := by
  have distinct := context.nodup_bodyNames now
  rw [Document.memberNames_eq]
  constructor
  · intro name
    rw [List.count_cons, distinct.count, Nat.add_comm]
    simp only [mem_bodyNames, beq_iff_eq, @eq_comm _ Document.headerName name]
  · rw [List.nodup_cons, mem_bodyNames]
    exact and_iff_left distinct

/-- A property that bears the name of the header is written beside it. -/
theorem header_written_twice :
    let context := (Context.new.perform (.putProperty Document.headerName (.text "mine"))).1
    context.Reachable ∧
      (context.document ⟨0⟩).memberNames = [Document.headerName, Document.headerName] ∧
      ¬(context.document ⟨0⟩).memberNames.Nodup := by
  intro context
  have written : (context.document ⟨0⟩).memberNames =
      [Document.headerName, Document.headerName] := by decide
  have admissible : (Operation.putProperty Document.headerName (.text "mine")).Admissible :=
    List.forall_mem_nil _
  refine ⟨.perform (.ofDefaults .empty) admissible, written, ?_⟩
  rw [written]
  decide

end Context

end MetricEmitter
