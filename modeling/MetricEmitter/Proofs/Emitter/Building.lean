import Mathlib.Data.List.Induction
import MetricEmitter.Emitter.Setup
import MetricEmitter.Proofs.Dimension.Constructible
import MetricEmitter.Proofs.Rearranged

/-!
# Emitters built from calls

There is one kind of call for each thing that can be settled about an emitter
(`SetupCall.Kind`), and each call gives a value of its kind. Of the values of one
kind the last one counts, except for default dimensions, which all count
(`Setup.calls_eq`). So calls may be left out that are followed by one of their kind,
and calls of different kinds may change places.

What is built is thereby known for every sequence of calls: too many default
dimensions are refused before anything else, then an outlet for environments that
bring their own, and otherwise there is an emitter on which nothing has been done
yet (`Setup.BuiltFrom`). All of this is put together in
`Setup.built_from_last_calls`.
-/

set_option autoImplicit false

namespace MetricEmitter

namespace SetupCall

/-- The things that calls settle, one for each kind of call. -/
inductive Kind where
  | namespaceName
  | serviceName
  | serviceType
  | logGroup
  | choice
  | defaultDimension
  | keepDimensions
  | timeout
  | supplyEnvironments
  | outlet
  deriving DecidableEq

/-- What a call of each kind gives. -/
abbrev Kind.Value : Kind → Type
  | .namespaceName | .serviceName | .serviceType | .logGroup => String
  | .choice => Choice
  | .defaultDimension => String × String
  | .keepDimensions => Bool
  | .timeout => Span
  | .supplyEnvironments => Nat
  | .outlet => OutletId

def kind : SetupCall → Kind
  | .namespaceName _ => .namespaceName
  | .serviceName _ => .serviceName
  | .serviceType _ => .serviceType
  | .logGroup _ => .logGroup
  | .choice _ => .choice
  | .defaultDimension _ _ => .defaultDimension
  | .keepDimensions _ => .keepDimensions
  | .timeout _ => .timeout
  | .supplyEnvironments _ => .supplyEnvironments
  | .outlet _ => .outlet

def value : (call : SetupCall) → call.kind.Value
  | .namespaceName name => name
  | .serviceName name => name
  | .serviceType type => type
  | .logGroup name => name
  | .choice chosen => chosen
  | .defaultDimension name text => (name, text)
  | .keepDimensions keep => keep
  | .timeout span => span
  | .supplyEnvironments supplier => supplier
  | .outlet destination => destination

/-- What a call gives, if it is of the kind asked for. -/
def value? (kind : Kind) (call : SetupCall) : Option kind.Value :=
  if same : call.kind = kind then some (same ▸ call.value) else none

/-- What the calls of one kind give, in their order. -/
def given (kind : Kind) (made : List SetupCall) : List kind.Value :=
  made.filterMap (value? kind)

/-- What the last call of a kind gives. -/
def last (kind : Kind) (made : List SetupCall) : Option kind.Value :=
  (given kind made).getLast?

theorem given_cons (kind : Kind) (call : SetupCall) (rest : List SetupCall) :
    given kind (call :: rest) = (value? kind call).toList ++ given kind rest := by
  rw [given, List.filterMap_cons]
  cases value? kind call <;> rfl

theorem given_concat (kind : Kind) (made : List SetupCall) (call : SetupCall) :
    given kind (made ++ [call]) = given kind made ++ (value? kind call).toList := by
  rw [given, List.filterMap_append, List.filterMap_cons, List.filterMap_nil]
  cases value? kind call <;> rfl

theorem last_concat (kind : Kind) (made : List SetupCall) (call : SetupCall) :
    last kind (made ++ [call]) = (value? kind call).or (last kind made) := by
  rw [last, given_concat, List.getLast?_append, last]
  cases value? kind call <;> rfl

/-- Only the calls of its kind have a say in what is given. -/
theorem given_concerning (kind : Kind) (made : List SetupCall) :
    given kind (concerning SetupCall.kind kind made) = given kind made := by
  induction made with
  | nil => rfl
  | cons call rest ih =>
      by_cases here : call.kind = kind
      · subst here
        rw [concerning_cons_self, given_cons, given_cons, ih]
      · have none : value? kind call = none := dif_neg here
        rw [concerning_cons_of_ne here, given_cons, ih, none]
        rfl

/-- Something is given last if a call is of the kind. -/
theorem isSome_last_iff {kind : Kind} {made : List SetupCall} :
    (last kind made).isSome ↔ ∃ call ∈ made, call.kind = kind := by
  have gives (call : SetupCall) : (value? kind call).isSome ↔ call.kind = kind := by
    unfold value?
    split
    · rename_i same
      exact iff_of_true rfl same
    · rename_i apart
      exact iff_of_false nofun apart
  rw [last, List.getLast?_isSome]
  constructor
  · intro some
    obtain ⟨value, member⟩ := List.exists_mem_of_ne_nil _ some
    obtain ⟨call, made, valued⟩ := List.mem_filterMap.mp member
    exact ⟨call, made, (gives call).mp (Option.isSome_of_eq_some valued)⟩
  · rintro ⟨call, made, same⟩
    obtain ⟨value, valued⟩ := Option.isSome_iff_exists.mp ((gives call).mpr same)
    exact List.ne_nil_of_mem (List.mem_filterMap.mpr ⟨call, made, valued⟩)

/-- Both sequences of calls end with the same call of each kind, and have the same calls for default
dimensions. -/
structure SettleAlike (first second : List SetupCall) : Prop where
  last : ∀ kind, kind ≠ .defaultDimension → last kind first = last kind second
  dimensions : given .defaultDimension first = given .defaultDimension second

theorem SettleAlike.of_rearranged {first second : List SetupCall}
    (rearranged : Rearranged SetupCall.kind first second) : SettleAlike first second := by
  have same (kind : Kind) : given kind first = given kind second := by
    rw [← given_concerning, rearranged kind, given_concerning]
  refine ⟨fun kind _ => ?_, same _⟩
  rw [SetupCall.last, same, SetupCall.last]

end SetupCall

namespace Setup

open SetupCall (given last SettleAlike)

/-- The setup after calls: of each kind the last call counts, and default dimensions add up. -/
def settledBy (setup : Setup) (made : List SetupCall) : Setup where
  namespaceName := (last .namespaceName made).or setup.namespaceName
  defaults := setup.defaults ++ given .defaultDimension made
  settings :=
    { serviceName := (last .serviceName made).or setup.settings.serviceName
      serviceType := (last .serviceType made).or setup.settings.serviceType
      logGroup := (last .logGroup made).or setup.settings.logGroup
      namespaceName := setup.settings.namespaceName
      choice := (last .choice made).or setup.settings.choice }
  keepsDimensions := (last .keepDimensions made).getD setup.keepsDimensions
  timeout := (last .timeout made).getD setup.timeout
  supplier := (last .supplyEnvironments made).or setup.supplier
  outlet := (last .outlet made).or setup.outlet

theorem call_settledBy (setup : Setup) (made : List SetupCall) (call : SetupCall) :
    (setup.settledBy made).call call = setup.settledBy (made ++ [call]) := by
  unfold settledBy
  simp only [SetupCall.last_concat, SetupCall.given_concat, ← List.append_assoc]
  cases call <;> simp [Setup.call, SetupCall.value?, SetupCall.kind, SetupCall.value]

theorem settledBy_nil (setup : Setup) : setup.settledBy [] = setup := by
  have defaults : setup.defaults ++ given .defaultDimension [] = setup.defaults :=
    List.append_nil _
  rw [settledBy, defaults]
  rfl

/-- **Of the calls of one kind the last one counts**, and default dimensions add up. -/
theorem calls_eq (setup : Setup) (made : List SetupCall) :
    setup.calls made = setup.settledBy made := by
  -- The induction is on the calls from the last one on, which settles its kind.
  induction made using List.reverseRecOn with
  | nil => exact setup.settledBy_nil.symm
  | append_singleton earlier call ih =>
      rw [← call_settledBy, ← ih, calls, List.foldl_append]
      rfl

/-- Calls that settle alike lead to the same setup. -/
theorem calls_eq_of_settleAlike {first second : List SetupCall} (alike : SettleAlike first second)
    (setup : Setup) : setup.calls first = setup.calls second := by
  rw [calls_eq, calls_eq, settledBy, settledBy, alike.dimensions, alike.last .namespaceName nofun,
    alike.last .serviceName nofun, alike.last .serviceType nofun, alike.last .logGroup nofun,
    alike.last .choice nofun, alike.last .keepDimensions nofun, alike.last .timeout nofun,
    alike.last .supplyEnvironments nofun, alike.last .outlet nofun]

/-! ## What is built -/

/-- An emitter as it is built from calls over settings: it has what was settled, and nothing has
been done on it yet. -/
structure BuiltFrom (settings : Settings) (made : List SetupCall) (emitter : Emitter) : Prop where
  callerDefaults :
    DimensionSet.ofPairs (given .defaultDimension made) = .ok emitter.callerDefaults
  defaults : emitter.context.layers.defaults = emitter.callerDefaults
  defaultsApply : emitter.context.layers.defaultsApply = true
  active : emitter.context.layers.active = []
  metrics : emitter.context.metrics = .empty
  properties : emitter.context.properties = .empty
  timestamp : emitter.context.timestamp = none
  /-- The namespace given last, or else that of the settings, or else the usual one. -/
  namespaceName : emitter.context.namespaceName =
    ((last .namespaceName made).or settings.namespaceName).getD Context.defaultNamespace
  keepsDimensions : emitter.keepsDimensions = (last .keepDimensions made).getD true
  timeout : emitter.timeout = (last .timeout made).getD Emitter.defaultTimeout
  /-- The environments are supplied by the supplier given last, and detected if none was given, from
  what was settled last and for the outlet given last. -/
  provider : emitter.provider =
    match last .supplyEnvironments made with
    | some supplier => .supplied supplier
    | none => .detecting ⟨((ofSettings settings).settledBy made).settings,
        (last .outlet made).getD .console⟩

/-- What comes of building from calls over settings. Too many default dimensions are reported before
a second outlet. -/
def Builds (settings : Settings) (made : List SetupCall)
    (outcome : Except SetupError Emitter) : Prop :=
  if DimensionSet.capacity < ((given .defaultDimension made).map Prod.fst).toFinset.card then
    outcome = .error (.dimensions (.tooMany (DimensionSet.capacity + 1)))
  else if (∃ call ∈ made, call.kind = .outlet) ∧
      ∃ call ∈ made, call.kind = .supplyEnvironments then
    outcome = .error .twoOutlets
  else ∃ emitter, outcome = .ok emitter ∧ BuiltFrom settings made emitter

theorem defaults_settledBy (settings : Settings) (made : List SetupCall) :
    ((ofSettings settings).settledBy made).defaults = given .defaultDimension made :=
  List.nil_append _

/-- Who answers is decided by whether a supplier and an outlet were given. -/
theorem provider_settledBy (settings : Settings) (made : List SetupCall) :
    ((ofSettings settings).settledBy made).provider =
      match last .supplyEnvironments made, last .outlet made with
      | some _, some _ => .error .twoOutlets
      | some supplier, none => .ok (.supplied supplier)
      | none, outlet => .ok (.detecting ⟨((ofSettings settings).settledBy made).settings,
          outlet.getD .console⟩) := by
  have supplier : ((ofSettings settings).settledBy made).supplier =
      last .supplyEnvironments made := Option.or_none
  have outlet : ((ofSettings settings).settledBy made).outlet = last .outlet made :=
    Option.or_none
  rw [provider, supplier, outlet]
  rfl

/-- There is an emitter when the default dimensions and the provider are accepted. -/
theorem exists_builtFrom {settings : Settings} {made : List SetupCall} {defaults : DimensionSet}
    {provider : Provider}
    (fits : DimensionSet.ofPairs (given .defaultDimension made) = .ok defaults)
    (accepted : ((ofSettings settings).settledBy made).provider = .ok provider)
    (answers : provider =
      match last .supplyEnvironments made with
      | some supplier => .supplied supplier
      | none => .detecting ⟨((ofSettings settings).settledBy made).settings,
          (last .outlet made).getD .console⟩) :
    ∃ emitter, ((ofSettings settings).settledBy made).build = .ok emitter ∧
      BuiltFrom settings made emitter := by
  have named : ((ofSettings settings).settledBy made).namespaceName = last .namespaceName made :=
    Option.or_none
  have resolved : ((ofSettings settings).settledBy made).resolvedNamespace =
      ((last .namespaceName made).or settings.namespaceName).getD Context.defaultNamespace := by
    rw [resolvedNamespace, Option.orElse_eq_or, named]
    rfl
  rw [build, defaults_settledBy, fits]
  dsimp only
  rw [accepted]
  exact ⟨_, rfl, {
    callerDefaults := fits
    defaults := rfl
    defaultsApply := rfl
    active := rfl
    metrics := rfl
    properties := rfl
    timestamp := rfl
    namespaceName := resolved
    keepsDimensions := rfl
    timeout := rfl
    provider := answers }⟩

/-- The setup after calls is built as `Builds` says. -/
theorem builds_build (settings : Settings) (made : List SetupCall) :
    Builds settings made ((ofSettings settings).settledBy made).build := by
  have fits := DimensionSet.ofPairs_eq (given .defaultDimension made)
  have answers := provider_settledBy settings made
  unfold Builds
  simp only [← SetupCall.isSome_last_iff]
  split
  · rename_i tooMany
    rw [if_neg (Nat.not_le_of_lt tooMany)] at fits
    rw [build, defaults_settledBy, fits]
  · rename_i room
    rw [if_pos (Nat.le_of_not_lt room)] at fits
    cases supplied : last .supplyEnvironments made with
    | some supplier =>
        cases chosen : last .outlet made with
        | some outlet =>
            rw [supplied, chosen] at answers
            rw [if_pos ⟨rfl, rfl⟩, build, defaults_settledBy, fits]
            dsimp only
            rw [answers]
        | none =>
            rw [supplied, chosen] at answers
            rw [if_neg fun both => nomatch both.1]
            exact exists_builtFrom fits answers (by rw [supplied])
    | none =>
        rw [supplied] at answers
        rw [if_neg fun both => nomatch both.2]
        exact exists_builtFrom fits answers (by rw [supplied])

/-- An emitter that is built is as it was settled. -/
theorem builtFrom_of_build {settings : Settings} {made : List SetupCall} {emitter : Emitter}
    (built : ((ofSettings settings).calls made).build = .ok emitter) :
    BuiltFrom settings made emitter := by
  have builds := builds_build settings made
  rw [← calls_eq, built] at builds
  unfold Builds at builds
  split at builds
  · cases builds
  · split at builds
    · cases builds
    · obtain ⟨_, same, builtFrom⟩ := builds
      cases same
      exact builtFrom

/-- **What is built depends on the last call of each kind and on the default dimensions in their
order.** So calls of different kinds may change places. More names of default dimensions than fit
are refused, otherwise an outlet for environments that are supplied is, and otherwise there is an
emitter as settled on which nothing has been done. -/
theorem built_from_last_calls (settings : Settings) :
    (∀ first second : List SetupCall, SettleAlike first second →
      (ofSettings settings).calls first = (ofSettings settings).calls second ∧
        ((ofSettings settings).calls first).build = ((ofSettings settings).calls second).build) ∧
    (∀ first second : List SetupCall, Rearranged SetupCall.kind first second →
      (ofSettings settings).calls first = (ofSettings settings).calls second ∧
        ((ofSettings settings).calls first).build = ((ofSettings settings).calls second).build) ∧
    ∀ made : List SetupCall, Builds settings made ((ofSettings settings).calls made).build := by
  have settled (first second : List SetupCall) (alike : SettleAlike first second) :
      (ofSettings settings).calls first = (ofSettings settings).calls second ∧
        ((ofSettings settings).calls first).build =
          ((ofSettings settings).calls second).build := by
    have same := calls_eq_of_settleAlike alike (ofSettings settings)
    exact ⟨same, congrArg build same⟩
  refine ⟨settled, ?_, ?_⟩
  · intro first second rearranged
    exact settled first second (.of_rearranged rearranged)
  · intro made
    rw [calls_eq]
    exact builds_build settings made

/-- Calls that are made twice, then in another order, and then only as often as they count; the
second of two suppliers is the one that is asked, and with an outlet and a supplier nothing is
built. -/
theorem built_from_last_calls_reordered :
    let settings : Settings := { Settings.unset with namespaceName := some "Shop" }
    let setup := ofSettings settings
    let made : List SetupCall :=
      [.defaultDimension "Region" "eu", .namespaceName "Early", .timeout (.ofSeconds 1),
        .defaultDimension "Stage" "test", .namespaceName "Late", .timeout (.ofSeconds 9),
        .defaultDimension "Region" "us"]
    let reordered : List SetupCall :=
      [.timeout (.ofSeconds 1), .timeout (.ofSeconds 9), .namespaceName "Early",
        .namespaceName "Late", .defaultDimension "Region" "eu", .defaultDimension "Stage" "test",
        .defaultDimension "Region" "us"]
    let counting := reordered.drop 3 ++ [.timeout (.ofSeconds 9)]
    let supplied : List SetupCall := .supplyEnvironments 1 :: made ++ [.supplyEnvironments 2]
    (setup.calls made).build = (setup.calls reordered).build ∧
      (setup.calls reordered).build = (setup.calls counting).build ∧
      (∃ emitter, (setup.calls made).build = .ok emitter ∧
        emitter.callerDefaults = ⟨[("Region", "us"), ("Stage", "test")]⟩ ∧
        emitter.context.namespaceName = "Late" ∧
        emitter.keepsDimensions = true ∧ emitter.timeout = .ofSeconds 9) ∧
      (∃ emitter, (setup.calls supplied).build = .ok emitter ∧
        emitter.provider = .supplied 2) ∧
      (setup.calls (.outlet .console :: made ++ [.supplyEnvironments 1])).build =
        .error .twoOutlets := by
  intro settings setup made reordered counting supplied
  obtain ⟨settled, rearranged, builds⟩ := built_from_last_calls settings
  refine ⟨(rearranged made reordered ?_).2, (settled reordered counting ?_).2, ?_, ?_, ?_⟩
  · refine .of_mem ?_
    simp [made, reordered, concerning, SetupCall.kind]
  · refine ⟨fun kind _ => ?_, rfl⟩
    cases kind <;> rfl
  · obtain ⟨emitter, built, is⟩ : ∃ emitter, (setup.calls made).build = .ok emitter ∧
        BuiltFrom settings made emitter := builds made
    have defaults : emitter.callerDefaults = ⟨[("Region", "us"), ("Stage", "test")]⟩ :=
      Except.ok.inj is.callerDefaults.symm
    exact ⟨emitter, built, defaults, is.namespaceName, is.keepsDimensions, is.timeout⟩
  · obtain ⟨emitter, built, is⟩ : ∃ emitter, (setup.calls supplied).build = .ok emitter ∧
        BuiltFrom settings supplied emitter := builds supplied
    exact ⟨emitter, built, is.provider⟩
  · exact builds (.outlet .console :: made ++ [.supplyEnvironments 1])

end Setup

end MetricEmitter
