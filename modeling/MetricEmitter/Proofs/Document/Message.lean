import MetricEmitter.Json.Reader
import MetricEmitter.Proofs.Document.Readers

/-!
# Reading a document back

From the document of a context that has a time of its own and no name of its own
for the header, a reader recovers all that the document is to say
(`Context.Legible.ofJson?_toJson`). No two members have the same name, so each
is found under its name, and the header announces the members that are no
properties (`Context.mem_announced`). What the reader recovers is a matter of the
context alone (`Message.Describes`). Hence two such contexts with the same
document agree on it (`Context.documents_readable`).

That the line of text is read as the data it was written from is left to the one
who reads lines (`Document.ReadBy`).
-/

set_option autoImplicit false

namespace MetricEmitter

namespace Context

variable {context : Context} {instant : Instant} {name : String}

/-! ## Documents that can be read back -/

/-- A program can come to hold the context, it has a time of its own, and nothing in it bears the
name of the header. -/
structure Legible (context : Context) (instant : Instant) : Prop where
  reachable : context.Reachable
  dated : context.timestamp = some instant
  headerFree : ¬context.Mentions Document.headerName

/-- **A member is the header, a dimension, a property or a metric.** -/
theorem mem_members {now : Instant} {value : Json} :
    (name, value) ∈ (context.document now).members ↔
      (name = Document.headerName ∧ value = (context.document now).header) ∨
      (context.dimensionValues.get? name).map .text = some value ∨
      context.writtenProperties.get? name = some value ∨
      (context.writtenMetrics.get? name).map (fun series =>
        Document.sampleValue series.samples) = some value := by
  have samples : ((context.writtenMetrics.mapValues Series.samples).mapValues
      Document.sampleValue).get? name =
        (context.writtenMetrics.get? name).map fun series =>
          Document.sampleValue series.samples := by
    rw [Table.get?_mapValues, Table.get?_mapValues, Option.map_map]
    rfl
  change (name, value) ∈ (Document.headerName, (context.document now).header) ::
    (context.dimensionValues.mapValues Json.text).entries ++ context.writtenProperties.entries ++
      ((context.writtenMetrics.mapValues Series.samples).mapValues
        Document.sampleValue).entries ↔ _
  rw [List.mem_append, List.mem_append, List.mem_cons, Prod.mk.injEq, Table.mem_entries_iff,
    Table.mem_entries_iff, Table.mem_entries_iff, samples, Table.get?_mapValues, or_assoc,
    or_assoc]

namespace Legible

variable {now : Instant}

/-- **A member is found under its name**, since no other member has this name. -/
theorem member?_iff (legible : context.Legible instant) {value : Json} :
    (context.document now).toJson.member? name = some value ↔
      (name, value) ∈ (context.document now).members := by
  have distinct : (context.document now).memberNames.Nodup := by
    rw [Document.memberNames_eq]
    exact List.nodup_cons.mpr
      ⟨fun member => legible.headerFree (mem_bodyNames.mp member), context.nodup_bodyNames now⟩
  exact Table.lookup_eq_some_iff distinct

theorem dimension? (legible : context.Legible instant) {value : String}
    (held : context.dimensionValues.get? name = some value) :
    Message.dimension? (context.document now).toJson name = some (name, value) := by
  have found : (context.document now).toJson.member? name = some (.text value) :=
    legible.member?_iff.mpr (mem_members.mpr (Or.inr (Or.inl (congrArg (Option.map _) held))))
  rw [Message.dimension?, found]
  rfl

theorem metric? (legible : context.Legible instant) {series : Series}
    (written : context.writtenMetrics.get? name = some series) :
    Message.metric? (context.document now).toJson (name, series.unit) = some (name, series) := by
  have found : (context.document now).toJson.member? name =
      some (Document.sampleValue series.samples) :=
    legible.member?_iff.mpr
      (mem_members.mpr (Or.inr (Or.inr (Or.inr (congrArg (Option.map _) written)))))
  have recorded : series.Recorded :=
    legible.reachable.measured name series (get?_writtenMetrics.mp written).1
  rw [Message.metric?, found, Option.bind_some, recorded.writtenAs.samples?]
  rfl

end Legible

/-! ## The three groups of members -/

/-- The dimension sets list the names of the dimensions. -/
theorem mem_dimensionSets {now : Instant} :
    name ∈ (Header.ofDocument (context.document now)).dimensionSets.flatten ↔
      context.HasDimension name := by
  change name ∈ (context.dimensions.map DimensionSet.names).flatten ↔ _
  simp only [List.mem_flatten, List.mem_map, HasDimension]
  constructor
  · rintro ⟨_, ⟨set, emitted, rfl⟩, member⟩
    exact ⟨set, emitted, member⟩
  · rintro ⟨set, emitted, member⟩
    exact ⟨set.names, ⟨set, emitted, rfl⟩, member⟩

/-- The header announces itself, the dimensions and the metrics. -/
theorem mem_announced {now : Instant} :
    name ∈ (Header.ofDocument (context.document now)).announced ↔
      name = Document.headerName ∨ context.HasDimension name ∨
        name ∈ context.writtenMetrics.names := by
  have metrics : (Header.ofDocument (context.document now)).directives.map Prod.fst =
      context.writtenMetrics.names := List.map_map
  rw [Header.announced, List.cons_append, List.mem_cons, List.mem_append, mem_dimensionSets,
    metrics]

namespace Legible

/-- The dimensions are read in the order in which the sets name them, one perhaps more than
once. -/
theorem dimensions (legible : context.Legible instant) (now : Instant) :
    ∃ dimensions,
      (Header.ofDocument (context.document now)).dimensionSets.flatten.mapM
          (Message.dimension? (context.document now).toJson) = some dimensions ∧
        Table.ofList dimensions = context.dimensionValues := by
  have held : ∀ name ∈ (Header.ofDocument (context.document now)).dimensionSets.flatten,
      context.dimensionValues.get? name =
        some ((context.dimensionValues.get? name).getD "") := by
    intro name listed
    obtain ⟨value, held⟩ := Table.mem_names_iff.mp
      (mem_names_dimensionValues.mpr (mem_dimensionSets.mp listed))
    rw [held, Option.getD_some]
  refine ⟨_, mapM_eq_some_map fun name listed => legible.dimension? (held name listed),
    Table.ofList_eq ?_ ?_⟩
  · intro entry member
    obtain ⟨name, listed, rfl⟩ := List.mem_map.mp member
    exact held name listed
  · intro name declared
    rw [List.map_map]
    exact List.mem_map.mpr
      ⟨name, mem_dimensionSets.mpr (mem_names_dimensionValues.mp declared), rfl⟩

theorem metrics (legible : context.Legible instant) (now : Instant) :
    (Header.ofDocument (context.document now)).directives.mapM
      (Message.metric? (context.document now).toJson) = some context.writtenMetrics.entries := by
  apply mapM_map_eq_some
  rintro ⟨name, series⟩ member
  exact legible.metric? (Table.mem_entries_iff.mp member)

/-- What the header does not announce are the properties. -/
theorem properties (legible : context.Legible instant) (now : Instant) :
    Table.ofList ((context.document now).toJson.members.filter fun member =>
        member.1 ∉ (Header.ofDocument (context.document now)).announced) =
      context.writtenProperties := by
  change Table.ofList ((context.document now).members.filter _) = _
  apply Table.ofList_eq
  · rintro ⟨name, value⟩ member
    obtain ⟨written, unannounced⟩ := List.mem_filter.mp member
    have others := mt mem_announced.mpr (of_decide_eq_true unannounced)
    rcases mem_members.mp written with ⟨header, _⟩ | dimension | property | metric
    · exact absurd (Or.inl header) others
    · obtain ⟨text, held, _⟩ := Option.map_eq_some_iff.mp dimension
      have declared := mem_names_dimensionValues.mp (Table.mem_names_iff.mpr ⟨text, held⟩)
      exact absurd (Or.inr (Or.inl declared)) others
    · exact property
    · obtain ⟨series, held, _⟩ := Option.map_eq_some_iff.mp metric
      exact absurd (Or.inr (Or.inr (Table.mem_names_iff.mpr ⟨series, held⟩))) others
  · intro name written
    obtain ⟨value, held⟩ := Table.mem_names_iff.mp written
    obtain ⟨mentioned, undeclared, unmeasured⟩ := mem_names_writtenProperties.mp written
    refine List.mem_map.mpr ⟨(name, value), List.mem_filter.mpr ⟨?_, decide_eq_true ?_⟩, rfl⟩
    · exact mem_members.mpr (Or.inr (Or.inr (Or.inl held)))
    · rw [mem_announced]
      rintro (header | declared | measured)
      · exact legible.headerFree (header ▸ Or.inr (Or.inr mentioned))
      · exact undeclared (mem_names_dimensionValues.mpr declared)
      · exact unmeasured measured

end Legible

/-! ## The message of a context -/

/-- What the document of a context is to say. -/
def message (context : Context) (instant : Instant) : Message where
  timestamp := instant.epochMillis
  namespaceName := context.namespaceName
  dimensionSets := context.dimensions.map DimensionSet.names
  dimensions := context.dimensionValues
  metrics := context.writtenMetrics
  properties := context.writtenProperties

/-- **A document is read back as the message of its context.** -/
theorem Legible.ofJson?_toJson (legible : context.Legible instant) (now : Instant) :
    Message.ofJson? (context.document now).toJson = some (context.message instant) := by
  have header : (context.document now).toJson.member? Document.headerName =
      some (context.document now).header :=
    legible.member?_iff.mpr List.mem_cons_self
  have timestamp : (Header.ofDocument (context.document now)).timestamp = instant.epochMillis := by
    change (context.timestamp.getD now).epochMillis = _
    rw [legible.dated, Option.getD_some]
  obtain ⟨dimensions, dimensionsRead, dimensionsHeld⟩ := legible.dimensions now
  have metricsHeld : Table.ofList context.writtenMetrics.entries = context.writtenMetrics :=
    Table.ofList_eq (fun _ => Table.mem_entries_iff.mp) fun _ => id
  simp only [Message.ofJson?, header, Header.ofJson?_header, dimensionsRead, legible.metrics now,
    Option.bind_eq_bind, Option.bind_some, Option.pure_def]
  rw [timestamp, dimensionsHeld, metricsHeld, legible.properties now]
  rfl

/-! ## What a message says about a context -/

/-- A metric of the context that is not shadowed. -/
def ShowsMetric (context : Context) (name : String) (series : Series) : Prop :=
  context.metrics.get? name = some series ∧ ¬context.HasDimension name

/-- A property of the context that is not shadowed. -/
def ShowsProperty (context : Context) (name : String) (value : Json) : Prop :=
  context.properties.get? name = some value ∧ ¬context.HasDimension name ∧
    context.metrics.get? name = none

end Context

/-- A message says what the context collected, as far as it is not shadowed. -/
structure Message.Describes (message : Message) (context : Context) (instant : Instant) :
    Prop where
  timestamp : message.timestamp = instant.epochMillis
  namespaceName : message.namespaceName = context.namespaceName
  dimensionSets : message.dimensionSets = context.dimensions.map DimensionSet.names
  dimensions : ∀ name,
    message.dimensions.get? name = DimensionSet.lastValue? context.dimensions name
  metrics : ∀ name series,
    message.metrics.get? name = some series ↔ context.ShowsMetric name series
  properties : ∀ name value,
    message.properties.get? name = some value ↔ context.ShowsProperty name value

/-- Two contexts that say the same, apart from the time. -/
structure Context.Agrees (first second : Context) : Prop where
  namespaceName : first.namespaceName = second.namespaceName
  dimensionSets :
    first.dimensions.map DimensionSet.names = second.dimensions.map DimensionSet.names
  dimensions : ∀ name,
    DimensionSet.lastValue? first.dimensions name = DimensionSet.lastValue? second.dimensions name
  metrics : ∀ name series, first.ShowsMetric name series ↔ second.ShowsMetric name series
  properties : ∀ name value, first.ShowsProperty name value ↔ second.ShowsProperty name value

theorem Message.Describes.agrees {message : Message} {first second : Context}
    {firstInstant secondInstant : Instant} (describesFirst : message.Describes first firstInstant)
    (describesSecond : message.Describes second secondInstant) : first.Agrees second where
  namespaceName := describesFirst.namespaceName.symm.trans describesSecond.namespaceName
  dimensionSets := describesFirst.dimensionSets.symm.trans describesSecond.dimensionSets
  dimensions := fun name =>
    (describesFirst.dimensions name).symm.trans (describesSecond.dimensions name)
  metrics := fun name series =>
    (describesFirst.metrics name series).symm.trans (describesSecond.metrics name series)
  properties := fun name value =>
    (describesFirst.properties name value).symm.trans (describesSecond.properties name value)

/-- The data from which the line of a document was written is what is read from it. -/
def Document.ReadBy (document : Document) (read : String → Option Json) : Prop :=
  read document.text = some document.toJson

namespace Context

variable {context : Context} {instant : Instant} {name : String}

theorem Reachable.describes_message (reachable : context.Reachable) (instant : Instant) :
    (context.message instant).Describes context instant where
  timestamp := rfl
  namespaceName := rfl
  dimensionSets := rfl
  dimensions := reachable.get?_dimensionValues
  metrics := fun _ _ => get?_writtenMetrics
  properties := by
    intro name value
    change context.writtenProperties.get? name = some value ↔ _
    rw [get?_writtenProperties]
    refine and_congr_right fun _ => and_congr_right fun free => ?_
    have undeclared : name ∉ context.dimensionValues.names := mt mem_names_dimensionValues.mp free
    rw [mem_names_writtenMetrics, and_iff_left undeclared, Table.mem_names_iff,
      Option.eq_none_iff_forall_ne_some, not_exists]

/-- A property that is shadowed leaves no trace in the document. -/
theorem document_putProperty (now : Instant) (value : Json)
    (shadowed : (context.dimensionValues.contains name || context.writtenMetrics.contains name) =
      true) : (context.putProperty name value).document now = context.document now := by
  have properties : (context.putProperty name value).writtenProperties =
      context.writtenProperties := by
    apply Table.ext_get?
    intro query
    change ((context.properties.insert name value).filter _).get? query = _
    rw [writtenProperties, Table.get?_filter, Table.get?_filter, Table.get?_insert]
    by_cases here : query = name
    · subst here
      -- Whatever stands under the name, the selection leaves it out.
      have left : ∀ held : Option Json, held.filter (fun _ =>
          !(context.dimensionValues.contains query || context.writtenMetrics.contains query)) =
            none := by
        intro held
        rw [shadowed]
        cases held <;> rfl
      exact (left _).trans (left _).symm
    · rw [if_neg here]
      rfl
  unfold document
  rw [properties]
  rfl

/-- **A document can be read back**: whoever reads its line as the data it was written from recovers
what the context says. So two contexts that are written as the same line say the same. -/
theorem documents_readable (read : String → Option Json) :
    (∀ (context : Context) (instant now : Instant), context.Legible instant →
      (context.document now).ReadBy read →
      ∃ message, (read (context.document now).text).bind Message.ofJson? = some message ∧
        message.Describes context instant) ∧
    ∀ (first second : Context) (firstInstant secondInstant now later : Instant),
      first.Legible firstInstant → second.Legible secondInstant →
      (first.document now).ReadBy read → (second.document later).ReadBy read →
      (first.document now).text = (second.document later).text →
      firstInstant.epochMillis = secondInstant.epochMillis ∧ first.Agrees second := by
  have decoded : ∀ (context : Context) (instant now : Instant), context.Legible instant →
      (context.document now).ReadBy read →
      ∃ message, (read (context.document now).text).bind Message.ofJson? = some message ∧
        message.Describes context instant := by
    intro context instant now legible readBack
    refine ⟨context.message instant, ?_, legible.reachable.describes_message instant⟩
    rw [readBack, Option.bind_some]
    exact legible.ofJson?_toJson now
  refine ⟨decoded, ?_⟩
  intro first second firstInstant secondInstant now later firstLegible secondLegible firstRead
    secondRead same
  obtain ⟨message, found, describesFirst⟩ := decoded first firstInstant now firstLegible firstRead
  obtain ⟨other, otherFound, describesSecond⟩ :=
    decoded second secondInstant later secondLegible secondRead
  rw [same, otherFound] at found
  cases found
  exact ⟨describesFirst.timestamp.symm.trans describesSecond.timestamp,
    describesFirst.agrees describesSecond⟩

/-- Properties that look like samples, and a second context that differs by a property that a metric
shadows. -/
theorem documents_readable_lookalikes :
    let stage : DimensionSet := ⟨[("Stage", "beta")]⟩
    let call : DimensionSet := ⟨[("Call", "pay")]⟩
    let operations : List Operation := [.setTimestamp ⟨1500000⟩, .putDimensions call,
      .record "Latency" 1.5 none, .record "Latency" 2.5 (some .mebibytes), .record "Visits" 1 none,
      .putProperty "Sizes" (.array [.float 1.5, .float 2.5]), .putProperty "Weight" (.float 1)]
    let context := ((Context.ofDefaults stage).run operations).1
    let shadowing := (context.perform (.putProperty "Visits" .null)).1
    let read := fun text =>
      if text = (context.document ⟨0⟩).text then some (context.document ⟨0⟩).toJson
      else Json.parse? text
    (∃ message, (read (context.document ⟨0⟩).text).bind Message.ofJson? = some message ∧
      message.Describes context ⟨1500000⟩ ∧ message.timestamp = 1 ∧
        message.dimensions.get? "Call" = some "pay" ∧
        message.metrics.get? "Latency" = some ⟨[1.5, 2.5], some .mebibytes⟩ ∧
        message.metrics.get? "Visits" = some ⟨[1], none⟩ ∧
        message.properties.contains "Weight" = true) ∧
    context.properties.contains "Visits" = false ∧ shadowing.properties.contains "Visits" = true ∧
      context.Agrees shadowing := by
  intro stage call operations context shadowing read
  have stageWellFormed : stage.WellFormed := ⟨by decide, by decide⟩
  have callWellFormed : call.WellFormed := ⟨by decide, by decide⟩
  have sets : ∀ set ∈ operations.flatMap Operation.sets, set.Constructible :=
    List.forall_mem_singleton.mpr callWellFormed.constructible
  have reachable : context.Reachable :=
    (Reachable.ofDefaults stageWellFormed.constructible).run fun operation member set given =>
      sets set (List.mem_flatMap.mpr ⟨operation, member, given⟩)
  have legible : context.Legible ⟨1500000⟩ :=
    ⟨reachable, by decide +kernel, by decide +kernel⟩
  have admissible : (Operation.putProperty "Visits" .null).Admissible := List.forall_mem_nil _
  have shadowingLegible : shadowing.Legible ⟨1500000⟩ :=
    ⟨reachable.perform admissible, by decide +kernel, by decide +kernel⟩
  have shadowed : (context.dimensionValues.contains "Visits" ||
      context.writtenMetrics.contains "Visits") = true := by decide +kernel
  have same : shadowing.document ⟨0⟩ = context.document ⟨0⟩ :=
    document_putProperty ⟨0⟩ .null shadowed
  have readContext : (context.document ⟨0⟩).ReadBy read := if_pos rfl
  have readShadowing : (shadowing.document ⟨0⟩).ReadBy read := by
    rw [same]
    exact readContext
  obtain ⟨message, found, describes⟩ :=
    (documents_readable read).1 context ⟨1500000⟩ ⟨0⟩ legible readContext
  have agrees := ((documents_readable read).2 context shadowing ⟨1500000⟩ ⟨1500000⟩ ⟨0⟩ ⟨0⟩ legible
    shadowingLegible readContext readShadowing (congrArg Document.text same.symm)).2
  have millis : Instant.epochMillis ⟨1500000⟩ = 1 := by decide
  have called : DimensionSet.lastValue? context.dimensions "Call" = some "pay" := by
    decide +kernel
  have latency : context.ShowsMetric "Latency" ⟨[1.5, 2.5], some .mebibytes⟩ :=
    ⟨by decide +kernel, by decide +kernel⟩
  have visits : context.ShowsMetric "Visits" ⟨[1], none⟩ := ⟨by decide +kernel, by decide +kernel⟩
  obtain ⟨weight, held⟩ : ∃ weight, context.properties.get? "Weight" = some weight :=
    Option.isSome_iff_exists.mp (by decide +kernel)
  have weighed : context.ShowsProperty "Weight" weight :=
    ⟨held, by decide +kernel, by decide +kernel⟩
  have before : context.properties.contains "Visits" = false := by decide +kernel
  have after : shadowing.properties.contains "Visits" = true := by decide +kernel
  clear_value read shadowing context
  exact ⟨⟨message, found, describes, describes.timestamp.trans millis,
    (describes.dimensions "Call").trans called, (describes.metrics _ _).mpr latency,
    (describes.metrics _ _).mpr visits,
    Option.isSome_of_eq_some ((describes.properties _ _).mpr weighed)⟩, before, after, agrees⟩

end Context

end MetricEmitter
