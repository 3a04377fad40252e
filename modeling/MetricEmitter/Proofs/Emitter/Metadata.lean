import MetricEmitter.Proofs.Document.Contents
import MetricEmitter.Proofs.Emitter.Building
import MetricEmitter.Proofs.Emitter.Destination
import MetricEmitter.Proofs.Emitter.Forgetting
import MetricEmitter.Proofs.Environment.Settings

/-!
# Documents name their origin

A document names its log group, service name and service type
(`Environment.dimensionNames`) if the environment has a text for each of them that
is not empty (`Environment.Complete`); a field without one is left out and its
dimension is missing. Nothing in an environment forbids that, so this is a property
of the environments that are detected, and each way to one of them has a reason of
its own: a setting that is read is not blank (`Settings.filled_read`), what stands in
for a missing one is not empty (`Environment.complete_described`), and a function is
recognised by a name that is not empty, although it may be blank
(`Lambda.functionName_ne_empty`). `Detector.Yields.complete` puts them together.

So an emitter that is built from the variables of a process, and is told neither
these names nor where environments come from, lists the three names in each
dimension set of a document, whatever variables the process has at the time of the
flush (`Setup.documents_name_origin`).
-/

set_option autoImplicit false

namespace MetricEmitter

/-! ## Settings that are not empty -/

/-- The settings that become dimensions are not empty where they are there. -/
structure Settings.Filled (settings : Settings) : Prop where
  serviceName : settings.serviceName ≠ some ""
  serviceType : settings.serviceType ≠ some ""
  logGroup : settings.logGroup ≠ some ""

/-- A setting that is read is not empty. -/
theorem Settings.filled_read (process : Variables) : (read process).1.Filled := by
  have filled (name : String) : setting process name ≠ some "" :=
    fun said => (setting_eq_some_iff.mp said).1 rfl
  exact ⟨filled serviceNameVariable, filled serviceTypeVariable, filled logGroupVariable⟩

theorem Settings.usualType_ne_empty (settings : Settings) : settings.usualType ≠ "" := by
  unfold usualType
  split <;> decide

/-! ## Complete environments -/

namespace Environment

/-- The names of the dimensions that an environment can have. -/
def dimensionNames : Finset String :=
  {"LogGroup", "ServiceName", "ServiceType"}

/-- Each field of the environment has a text that is not empty. -/
def Complete (environment : Environment) : Prop :=
  ∀ field ∈ environment.fields, ∃ text, field.2 = some text ∧ text ≠ ""

theorem complete_iff {environment : Environment} :
    environment.Complete ↔
      (∃ text, environment.logGroup = some text ∧ text ≠ "") ∧
        (∃ text, environment.serviceName = some text ∧ text ≠ "") ∧
          ∃ text, environment.serviceType = some text ∧ text ≠ "" := by
  rw [Complete, fields, List.forall_mem_cons, List.forall_mem_cons, List.forall_mem_singleton]

theorem mem_dimensionNames (environment : Environment) {name : String} :
    name ∈ dimensionNames ↔ name ∈ environment.fields.map Prod.fst := by
  simp [dimensionNames, fields]

theorem nameSet_dimensionSet_subset (environment : Environment) :
    environment.dimensionSet.nameSet ⊆ dimensionNames := by
  intro name member
  rw [mem_dimensionNames environment]
  exact environment.names_dimensionSet.subset (DimensionSet.mem_nameSet.mp member)

/-- **A complete environment has a dimension for each of the names.** -/
theorem Complete.value?_dimensionSet {environment : Environment} (complete : environment.Complete)
    {name : String} (member : name ∈ dimensionNames) :
    ∃ value, environment.dimensionSet.value? name = some value ∧ value ≠ "" := by
  rw [mem_dimensionNames environment] at member
  unfold Complete at complete
  unfold dimensionSet dimensionPairs
  -- The induction is on the fields, none of which is left out.
  generalize environment.fields = fields at complete member
  induction fields with
  | nil => cases member
  | cons field rest ih =>
      obtain ⟨⟨text, there, started⟩, others⟩ := List.forall_mem_cons.mp complete
      have kept : field.2.filter (fun value => !value.isEmpty) = some text := by
        rw [there, Option.filter_eq_some_iff]
        exact ⟨rfl, by simpa using started⟩
      rw [List.filterMap_cons, kept, Option.map_some]
      dsimp only
      rw [DimensionSet.value?_cons]
      by_cases here : name = field.1
      · rw [if_pos here]
        exact ⟨text, rfl, started⟩
      · rw [if_neg here]
        exact ih others (List.mem_of_ne_of_mem here member)

theorem Complete.nameSet_dimensionSet {environment : Environment}
    (complete : environment.Complete) : environment.dimensionSet.nameSet = dimensionNames := by
  refine environment.nameSet_dimensionSet_subset.antisymm fun name member => ?_
  obtain ⟨value, held, _⟩ := complete.value?_dimensionSet member
  rw [DimensionSet.mem_nameSet, ← DimensionSet.value?_isSome_iff]
  exact Option.isSome_of_eq_some held

/-- What settings describe is complete, because a missing setting has a text in its place. -/
theorem complete_described {settings : Settings} (filled : settings.Filled) {usualType : String}
    (usual : usualType ≠ "") (outlet : OutletId) :
    (described settings usualType outlet).Complete := by
  have started {said : Option String} {instead : String} (filled : said ≠ some "")
      (usual : instead ≠ "") : said.getD instead ≠ "" := by
    cases said with
    | none => exact usual
    | some text => exact fun empty => filled (congrArg some empty)
  have derived : settings.serviceName.getD unknown ++ "-metrics" ≠ "" := by
    simp [String.append_eq_empty_iff]
  exact complete_iff.mpr ⟨⟨_, rfl, started filled.logGroup derived⟩,
    ⟨_, rfl, started filled.serviceName (by decide)⟩, ⟨_, rfl, started filled.serviceType usual⟩⟩

end Environment

/-! ## Environments that are detected -/

theorem Lambda.functionName_ne_empty {process : Variables} {lambda : Lambda}
    (detected : detect process = some lambda) : lambda.functionName ≠ "" := by
  obtain ⟨name, found, rfl⟩ := Option.map_eq_some_iff.mp detected
  exact ((nonEmpty_eq_some_iff process _ name).mp found).2

theorem Lambda.complete_environment {lambda : Lambda} (named : lambda.functionName ≠ "")
    (outlet : OutletId) : (lambda.environment outlet).Complete :=
  Environment.complete_iff.mpr ⟨⟨_, rfl, named⟩, ⟨_, rfl, named⟩, ⟨_, rfl, by decide⟩⟩

/-- **Both environments a detection leads to are complete.** -/
theorem Detector.Yields.complete {detector : Detector} {process : Variables}
    {environment : Environment} (yields : detector.Yields process environment)
    (filled : detector.settings.Filled) : environment.Complete := by
  cases yields with
  | recognised admits serves =>
      exact Lambda.complete_environment (Lambda.functionName_ne_empty serves) detector.outlet
  | described otherwise =>
      exact Environment.complete_described filled detector.settings.usualType_ne_empty _

/-! ## Emitters that detect their environments -/

/-- The call names the service, its type or the log group, or says where environments come from. -/
def SetupCall.SettlesOrigin (call : SetupCall) : Prop :=
  call.kind ∈ [.serviceName, .serviceType, .logGroup, .supplyEnvironments]

instance (call : SetupCall) : Decidable call.SettlesOrigin :=
  inferInstanceAs (Decidable (call.kind ∈ _))

/-- The settings of an emitter that is told nothing else are those that were read, apart from the
choice of an environment. -/
theorem Setup.detecting_of_build {settings : Settings} (filled : settings.Filled)
    {made : List SetupCall} (unsettled : ∀ call ∈ made, ¬call.SettlesOrigin) {emitter : Emitter}
    (built : ((ofSettings settings).calls made).build = .ok emitter) :
    ∃ settled outlet, emitter.provider = .detecting ⟨settled, outlet⟩ ∧ settled.Filled := by
  have missing (kind : SetupCall.Kind)
      (settles : kind ∈ [.serviceName, .serviceType, .logGroup, .supplyEnvironments]) :
      SetupCall.last kind made = none := by
    rw [← Option.not_isSome_iff_eq_none, SetupCall.isSome_last_iff]
    rintro ⟨call, member, rfl⟩
    exact unsettled call member settles
  have provider := (builtFrom_of_build built).provider
  rw [missing .supplyEnvironments (by decide)] at provider
  refine ⟨_, _, provider, ?_⟩
  rw [settledBy, missing .serviceName (by decide), missing .serviceType (by decide),
    missing .logGroup (by decide)]
  exact ⟨filled.serviceName, filled.serviceType, filled.logGroup⟩

/-! ## The names in a document -/

/-- The names of environments have room under the caller defaults, alone and under each active
set. -/
def Layers.RoomForOrigin (layers : Layers) (callers : DimensionSet) : Prop :=
  (Environment.dimensionNames ∪ callers.nameSet).card ≤ DimensionSet.capacity ∧
    ∀ set ∈ layers.active,
      (Environment.dimensionNames ∪ callers.nameSet ∪ set.nameSet).card ≤ DimensionSet.capacity

instance (layers : Layers) (callers : DimensionSet) : Decidable (layers.RoomForOrigin callers) :=
  inferInstanceAs (Decidable (_ ∧ ∀ set ∈ layers.active, _))

theorem Layers.RoomForOrigin.roomFor {layers : Layers} {callers : DimensionSet}
    (room : layers.RoomForOrigin callers) (environment : Environment) :
    layers.RoomFor environment.dimensionSet callers := by
  have names : environment.dimensionSet.nameSet ∪ callers.nameSet ⊆
      Environment.dimensionNames ∪ callers.nameSet :=
    Finset.union_subset_union_left environment.nameSet_dimensionSet_subset
  refine ⟨(Finset.card_le_card names).trans room.1, fun _ set member => ?_⟩
  exact (Finset.card_le_card (Finset.union_subset_union_left names)).trans (room.2 set member)

namespace Context

/-- Each dimension set of a document has the names of environments, and those that are not among the
names of the given sets have a value that is not empty. -/
structure NamesOrigin (written : Context) (now : Instant) (given : List DimensionSet) : Prop where
  nonempty : (written.document now).dimensionSets ≠ []
  listed : ∀ names ∈ (written.document now).dimensionSets,
    ∀ name ∈ Environment.dimensionNames, name ∈ names
  valued : ∀ name ∈ Environment.dimensionNames, (∀ set ∈ given, name ∉ set.names) →
    ∃ value, value ≠ "" ∧ (∀ set ∈ written.dimensions, set.value? name = some value) ∧
      (written.document now).dimensions.get? name = some value

namespace MadeFrom

variable {written : Context} {callers : DimensionSet} {layers : Layers}

section Dimensions

variable {dimensions : DimensionSet}

/-- If the defaults apply and are not empty, a document lists sets, and each of them is an active
set or the empty one over the defaults. -/
theorem dimensions_over (madeFrom : written.MadeFrom dimensions callers layers)
    (applies : layers.defaultsApply = true) (filled : written.layers.defaults.isEmpty = false) :
    written.dimensions ≠ [] ∧ ∀ set ∈ written.dimensions,
      ∃ top ∈ .empty :: layers.active, set = written.layers.defaults.overlay top := by
  by_cases alone : layers.active = []
  · rw [madeFrom.onlyDefaults applies alone, filled]
    exact ⟨List.cons_ne_nil _ _,
      List.forall_mem_singleton.mpr ⟨.empty, List.mem_cons_self, rfl⟩⟩
  · rw [madeFrom.overDefaults applies alone]
    refine ⟨mt List.map_eq_nil_iff.mp alone, ?_⟩
    exact List.forall_mem_map.mpr fun top member => ⟨top, List.mem_cons_of_mem _ member, rfl⟩

/-- Each dimension set has the names of the defaults. -/
theorem nameSet_defaults_subset (madeFrom : written.MadeFrom dimensions callers layers)
    (applies : layers.defaultsApply = true) (filled : written.layers.defaults.isEmpty = false)
    {set : DimensionSet} (member : set ∈ written.dimensions) :
    written.layers.defaults.nameSet ⊆ set.nameSet := by
  obtain ⟨top, _, rfl⟩ := (madeFrom.dimensions_over applies filled).2 set member
  rw [DimensionSet.nameSet_overlay]
  exact Finset.subset_union_left

/-- A name that no active set has keeps the value of the defaults in each dimension set. -/
theorem value?_of_mem_dimensions (madeFrom : written.MadeFrom dimensions callers layers)
    (applies : layers.defaultsApply = true) (filled : written.layers.defaults.isEmpty = false)
    (distinct : ∀ set ∈ layers.active, set.names.Nodup) {name : String}
    (absent : ∀ set ∈ layers.active, name ∉ set.names) {set : DimensionSet}
    (member : set ∈ written.dimensions) :
    set.value? name = written.layers.defaults.value? name := by
  obtain ⟨top, under, rfl⟩ := (madeFrom.dimensions_over applies filled).2 set member
  rcases List.mem_cons.mp under with rfl | active
  · rfl
  · rw [DimensionSet.value?_overlay _ (distinct top active),
      DimensionSet.value?_eq_none (absent top active), Option.none_or]

end Dimensions

/-- **A document that is made from a complete environment for which there is room names its
origin.** -/
theorem namesOrigin {environment : Environment}
    (madeFrom : written.MadeFrom environment.dimensionSet callers layers)
    (complete : environment.Complete) (reachable : written.Reachable)
    (distinct : ∀ set ∈ callers :: layers.active, set.names.Nodup)
    (applies : layers.defaultsApply = true) (room : layers.RoomForOrigin callers) (now : Instant) :
    written.NamesOrigin now (callers :: layers.active) := by
  obtain ⟨callersDistinct, activeDistinct⟩ := List.forall_mem_cons.mp distinct
  have layered := madeFrom.layered (room.roomFor environment)
  have named : Environment.dimensionNames ⊆ written.layers.defaults.nameSet := by
    rw [layered, DimensionSet.nameSet_overlay, complete.nameSet_dimensionSet]
    exact Finset.subset_union_left
  have filled : written.layers.defaults.isEmpty = false := by
    have logGroup : "LogGroup" ∈ written.layers.defaults.names :=
      DimensionSet.mem_nameSet.mp (named (by decide))
    rw [DimensionSet.isEmpty, List.isEmpty_eq_false_iff]
    exact mt List.map_eq_nil_iff.mpr (List.ne_nil_of_mem logGroup)
  have nonempty := (madeFrom.dimensions_over applies filled).1
  constructor
  case nonempty => exact mt List.map_eq_nil_iff.mp nonempty
  case listed =>
    intro names member name asked
    obtain ⟨set, emitted, rfl⟩ := List.mem_map.mp member
    have subset := madeFrom.nameSet_defaults_subset applies filled emitted
    exact DimensionSet.mem_nameSet.mp (subset (named asked))
  case valued =>
    intro name asked absent
    obtain ⟨value, held, started⟩ := complete.value?_dimensionSet asked
    obtain ⟨notByCallers, notActive⟩ := List.forall_mem_cons.mp absent
    have inherited : written.layers.defaults.value? name = some value := by
      rw [layered, DimensionSet.value?_overlay _ callersDistinct,
        DimensionSet.value?_eq_none notByCallers, Option.none_or, held]
    have everywhere : ∀ set ∈ written.dimensions, set.value? name = some value := by
      intro set member
      rw [madeFrom.value?_of_mem_dimensions applies filled activeDistinct notActive member,
        inherited]
    refine ⟨value, started, everywhere, ?_⟩
    change written.dimensionValues.get? name = some value
    rw [reachable.get?_dimensionValues]
    exact DimensionSet.lastValue?_eq_some nonempty everywhere

end MadeFrom

end Context

/-- **An emitter that is built from the variables of a process names its origin in every document**,
whatever the variables were and whatever they are at the time of a flush, if it is not told these
names or where environments come from, the defaults apply, and there is room. -/
theorem Setup.documents_name_origin {process : Variables} {made : List SetupCall}
    (unsettled : ∀ call ∈ made, ¬call.SettlesOrigin) {emitter : Emitter}
    (built : ((ofVariables process).1.calls made).build = .ok emitter) (outlets : Outlets)
    {steps : List Step}
    (admissible : ∀ operation, .perform operation ∈ steps → operation.Admissible)
    (surroundings : Surroundings) :
    let session : Session := ⟨emitter, outlets⟩
    let reached := (session.run steps).1.emitter
    let flushed := reached.flush surroundings
    let written := flushed.delivery.capture.context
    let callers := session.askedDefaults emitter.callerDefaults steps
    flushed.delivery.capture.text = (written.document surroundings.now).text ∧
      (reached.context.layers.defaultsApply = true →
        reached.context.layers.RoomForOrigin callers →
          written.NamesOrigin surroundings.now (callers :: reached.context.layers.active)) := by
  intro session reached flushed written callers
  refine ⟨rfl, fun applies room => ?_⟩
  obtain ⟨settings, outlet, detecting, filled⟩ :=
    detecting_of_build (Settings.filled_read process) unsettled built
  have follows : session.Follows Session.HooksPutProperties steps :=
    Session.follows_of_detecting detecting admissible
  have fits : DimensionSet.ofPairs ((ofVariables process).1.calls made).defaults =
      .ok emitter.callerDefaults := by
    rw [calls_eq]
    exact (defaults_settledBy _ made).symm ▸ (builtFrom_of_build built).callerDefaults
  have consistent : reached.Consistent :=
    (Emitter.Made.built fits built).consistent.run follows.keepsDefaults
  have still : reached.provider = .detecting ⟨settings, outlet⟩ :=
    (session.provider_run steps).trans detecting
  have puts : flushed.environment.PutsProperties :=
    Emitter.putsProperties_of_detecting still surroundings
  have complete : flushed.environment.Complete :=
    (Session.yields_environment_flush detecting steps surroundings).complete filled
  have asked : callers = reached.callerDefaults := (session.callerDefaults_run steps).symm
  rw [asked] at room ⊢
  refine (consistent.madeFrom (puts.keepsLayers _)).namesOrigin complete ?_ ?_ applies room _
  · exact .delivered consistent.context consistent.callers puts.admissible
  · exact List.forall_mem_cons.mpr ⟨consistent.callers.wellFormed.distinct,
      fun set member => (consistent.context.sound.active set member).distinct⟩

/-- A blank service name, and a function that is forced: at the first flush the process serves one
with a blank name, and at the second it serves none. A default of the caller and an active set have
empty values, the latter under one of the names. -/
theorem Setup.documents_name_origin_blank :
    let process : Variables := fun asked =>
      if asked = "AWS_EMF_SERVICE_NAME" then some "\u3000 "
      else if asked = "AWS_EMF_LOG_GROUP_NAME" then some " checkout-logs\n"
      else if asked = "AWS_EMF_ENVIRONMENT" then some "LAMBDA " else none
    let made : List SetupCall := [.defaultDimension "Stage" "", .timeout (.ofSeconds 0)]
    let around (function : String) : Surroundings :=
      ⟨⟨0⟩, fun asked => if asked = "AWS_LAMBDA_FUNCTION_NAME" then some function else none,
        ⟨.endless, .error "nobody asks"⟩, .standard .unset .console⟩
    let stage : DimensionSet := ⟨[("Stage", "")]⟩
    let call : DimensionSet := ⟨[("Call", "pay"), ("ServiceType", "")]⟩
    let steps : List Step := [.flush (around " "), .perform (.putDimensions call)]
    let settings : Settings := ⟨none, none, some "checkout-logs", none, some .lambda⟩
    let emitter : Emitter :=
      { Emitter.ofContext (.detecting ⟨settings, .console⟩) (.ofDefaults stage) with
        timeout := .ofSeconds 0 }
    let session : Session := ⟨emitter, ⟨.unlimited, []⟩⟩
    let written := (emitter.flush (around " ")).delivery.capture.context
    let writtenThen := ((session.run steps).1.emitter.flush (around "")).delivery.capture.context
    ((ofVariables process).1.calls made).build = .ok emitter ∧
      written.NamesOrigin ⟨0⟩ [stage] ∧ writtenThen.NamesOrigin ⟨0⟩ [stage, call] ∧
      written.dimensions = [⟨[("LogGroup", " "), ("ServiceName", " "),
        ("ServiceType", "AWS::Lambda::Function"), ("Stage", "")]⟩] ∧
      writtenThen.dimensions = [⟨[("LogGroup", "checkout-logs"), ("ServiceName", "Unknown"),
        ("ServiceType", ""), ("Stage", ""), ("Call", "pay")]⟩] := by
  intro process made around stage call steps settings emitter session written writtenThen
  have callWellFormed : call.WellFormed := ⟨by decide, by decide⟩
  have unsettled : ∀ call ∈ made, ¬call.SettlesOrigin := by decide
  have admissible : ∀ operation, .perform operation ∈ steps → operation.Admissible := by
    intro operation member set given
    obtain rfl : operation = .putDimensions call := by simpa [steps] using member
    obtain rfl := List.mem_singleton.mp given
    exact callWellFormed.constructible
  have read : (Settings.read process).1 = settings := by decide +kernel
  have built : ((ofVariables process).1.calls made).build = .ok emitter := by
    rw [ofVariables]
    dsimp only
    rw [read]
    rfl
  have nothing : ∀ operation, .perform operation ∈ ([] : List Step) → operation.Admissible :=
    fun _ member => absurd member List.not_mem_nil
  refine ⟨built, ?_, ?_, by decide +kernel, by decide +kernel⟩
  · have names := (documents_name_origin unsettled built session.outlets nothing (around " ")).2
    have active : (session.run []).1.emitter.context.layers.active = [] := rfl
    have asked : session.askedDefaults emitter.callerDefaults [] = stage := rfl
    rw [asked, active] at names
    exact names rfl (by decide +kernel)
  · have names := (documents_name_origin unsettled built session.outlets admissible (around "")).2
    have active : (session.run steps).1.emitter.context.layers.active = [call] := by
      decide +kernel
    have asked : session.askedDefaults emitter.callerDefaults steps = stage := by decide +kernel
    rw [asked, active] at names
    exact names (by decide +kernel) (by decide +kernel)

end MetricEmitter
