import MetricEmitter.Proofs.Document.Contents

/-!
# Readers of documents

A document names in its header which of its members are dimensions and which are
metrics. A reader that has nothing but the document can tell the members apart
by this: those the header names as dimensions are texts, those it names as
metrics are samples, and all others are properties, whatever they look like
(`Message.ofJson?`).

Nothing is lost in the parts. The header is read back as it was written
(`Header.ofJson?_header`), since different units have different names in a
document, and so are the samples of a metric (`Series.WrittenAs.samples?`), since
one sample is a number and several are an array.
-/

set_option autoImplicit false

namespace MetricEmitter

/-! ## Readers of lists -/

theorem mapM_eq_some_map {α β : Type} {read : α → Option β} {value : α → β} {items : List α}
    (reads : ∀ item ∈ items, read item = some (value item)) :
    items.mapM read = some (items.map value) := by
  induction items with
  | nil => rfl
  | cons item rest ih =>
      obtain ⟨here, there⟩ := List.forall_mem_cons.mp reads
      rw [List.mapM_cons, here, ih there]
      rfl

/-- A list is read back if each of its items is. -/
theorem mapM_map_eq_some {α β : Type} {write : α → β} {read : β → Option α} {items : List α}
    (reads : ∀ item ∈ items, read (write item) = some item) :
    (items.map write).mapM read = some items := by
  have same : items.mapM (read ∘ write) = some (items.map id) := mapM_eq_some_map reads
  rw [List.mapM_map, same, List.map_id]

/-! ## Readers of data -/

namespace Json

def text? : Json → Option String
  | .text value => some value
  | _ => none

def natural? : Json → Option Nat
  | .integer (.ofNat value) => some value
  | _ => none

def number? : Json → Option Float
  | .float value => some value
  | _ => none

def items? : Json → Option (List Json)
  | .array items => some items
  | _ => none

def texts? (value : Json) : Option (List String) :=
  value.items?.bind fun items => items.mapM text?

/-- The members of an object, and none of anything else. -/
def members : Json → List (String × Json)
  | .object members => members
  | _ => []

def member? (value : Json) (name : String) : Option Json :=
  value.members.lookup name

/-- The samples of a metric: those of an array, or a single one. -/
def samples? : Json → Option (List Float)
  | .float sample => some [sample]
  | .array items => items.mapM number?
  | _ => none

theorem texts?_map_text (texts : List String) : (array (texts.map .text)).texts? = some texts :=
  mapM_map_eq_some fun _ _ => rfl

end Json

/-- **Recorded samples are read back as they were written.** -/
theorem Series.WrittenAs.samples? {series : Series} {value : Json}
    (written : series.WrittenAs value) : value.samples? = some series.samples := by
  cases written with
  | number single finite =>
      rw [single]
      rfl
  | array several fits finite => exact mapM_map_eq_some fun _ _ => rfl

def MetricUnit.ofDocumentName? (text : String) : Option MetricUnit :=
  all.find? fun unit => unit.documentName = text

/-- No two units have the same name in a document. -/
theorem MetricUnit.ofDocumentName?_documentName (unit : MetricUnit) :
    ofDocumentName? unit.documentName = some unit := by
  cases unit <;> decide

/-! ## The header -/

/-- What the header of a document says. -/
structure Header where
  timestamp : Nat
  namespaceName : String
  dimensionSets : List (List String)
  directives : List (String × Option MetricUnit)

namespace Header

/-- A metric in the list of metrics; an unknown unit is an error, and no unit is none. -/
def directive? (value : Json) : Option (String × Option MetricUnit) := do
  let name ← (← value.member? "Name").text?
  match value.member? "Unit" with
  | none => return (name, none)
  | some unit => return (name, some (← MetricUnit.ofDocumentName? (← unit.text?)))

/-- The header with its only directive. -/
def ofJson? (value : Json) : Option Header := do
  let timestamp ← (← value.member? "Timestamp").natural?
  let [directive] ← (← value.member? "CloudWatchMetrics").items? | none
  let namespaceName ← (← directive.member? "Namespace").text?
  let dimensionSets ← (← (← directive.member? "Dimensions").items?).mapM Json.texts?
  let directives ← (← (← directive.member? "Metrics").items?).mapM directive?
  return { timestamp, namespaceName, dimensionSets, directives }

def ofDocument (document : Document) : Header where
  timestamp := document.timestamp
  namespaceName := document.namespaceName
  dimensionSets := document.dimensionSets
  directives := document.directives

/-- The names of the members that are not properties. -/
def announced (header : Header) : List String :=
  Document.headerName :: header.dimensionSets.flatten ++ header.directives.map Prod.fst

theorem directive?_directive (metric : String × Option MetricUnit) :
    directive? (Document.directive metric) = some metric := by
  obtain ⟨name, unit⟩ := metric
  cases unit with
  | none => rfl
  | some unit =>
      change (MetricUnit.ofDocumentName? unit.documentName).bind _ = _
      rw [MetricUnit.ofDocumentName?_documentName]
      rfl

/-- **A header is read back as it was written.** -/
theorem ofJson?_header (document : Document) :
    ofJson? document.header = some (ofDocument document) := by
  have sets : (document.dimensionSets.map fun names => Json.array (names.map .text)).mapM
      Json.texts? = some document.dimensionSets :=
    mapM_map_eq_some fun names _ => Json.texts?_map_text names
  have directives : (document.directives.map Document.directive).mapM directive? =
      some document.directives :=
    mapM_map_eq_some fun metric _ => directive?_directive metric
  change Option.bind ((document.dimensionSets.map _).mapM Json.texts?) _ = _
  rw [sets]
  change Option.bind ((document.directives.map _).mapM directive?) _ = _
  rw [directives]
  rfl

end Header

/-! ## Messages -/

/-- What a document tells its reader. -/
structure Message where
  /-- Milliseconds since the epoch. -/
  timestamp : Nat
  namespaceName : String
  /-- The names of each dimension set. -/
  dimensionSets : List (List String)
  dimensions : Table String
  metrics : Table Series
  properties : Table Json

namespace Message

/-- The member that gives a dimension its value. -/
def dimension? (tree : Json) (name : String) : Option (String × String) :=
  ((tree.member? name).bind Json.text?).map fun value => (name, value)

/-- The member that holds the samples of a metric. -/
def metric? (tree : Json) (directive : String × Option MetricUnit) : Option (String × Series) :=
  ((tree.member? directive.1).bind Json.samples?).map fun samples =>
    (directive.1, ⟨samples, directive.2⟩)

/-- What a document says, as far as it can be told from the document alone. -/
def ofJson? (tree : Json) : Option Message := do
  let header ← Header.ofJson? (← tree.member? Document.headerName)
  let dimensions ← header.dimensionSets.flatten.mapM (dimension? tree)
  let metrics ← header.directives.mapM (metric? tree)
  return {
    timestamp := header.timestamp
    namespaceName := header.namespaceName
    dimensionSets := header.dimensionSets
    dimensions := .ofList dimensions
    metrics := .ofList metrics
    properties := .ofList (tree.members.filter fun member => member.1 ∉ header.announced) }

end Message

end MetricEmitter
