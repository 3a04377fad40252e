import MetricEmitter.Emitter

/-!
# Setting up an emitter

A setup is filled in call by call and then built. Each call settles one thing,
and a later call of the same kind settles it anew; only the default dimensions
add up. Building fails if the default dimensions are too many, or if an outlet
is given for environments that bring their own.
-/

set_option autoImplicit false

namespace MetricEmitter

/-- What an emitter is to be built from. -/
structure Setup where
  namespaceName : Option String
  defaults : List (String × String)
  settings : Settings
  keepsDimensions : Bool
  timeout : Span
  /-- The supplier of the environments, if they are supplied from outside. -/
  supplier : Option Nat
  outlet : Option OutletId

/-- One thing that is settled about an emitter. -/
inductive SetupCall where
  | namespaceName (name : String)
  | serviceName (name : String)
  | serviceType (type : String)
  | logGroup (name : String)
  | choice (choice : Choice)
  | defaultDimension (name value : String)
  | keepDimensions (keep : Bool)
  | timeout (timeout : Span)
  | supplyEnvironments (supplier : Nat)
  | outlet (outlet : OutletId)
  deriving DecidableEq, Repr

/-- Why an emitter cannot be built. -/
inductive SetupError where
  | dimensions (reason : DimensionError)
  /-- An outlet is given, and so are environments, which bring their own. -/
  | twoOutlets
  deriving DecidableEq, Repr

def SetupError.message : SetupError → String
  | .dimensions reason => reason.message
  | .twoOutlets => "sink cannot be combined with a custom environment_provider"

namespace Setup

/-- The setup in which nothing but the settings is settled. -/
def ofSettings (settings : Settings) : Setup where
  namespaceName := none
  defaults := []
  settings := settings
  keepsDimensions := true
  timeout := Emitter.defaultTimeout
  supplier := none
  outlet := none

def new : Setup :=
  ofSettings .unset

/-- The setup with the settings of a process with the given variables. -/
def ofVariables (process : Variables) : Setup × List Notice :=
  let read := Settings.read process
  (ofSettings read.1, read.2)

def call (setup : Setup) : SetupCall → Setup
  | .namespaceName name => { setup with namespaceName := some name }
  | .serviceName name => { setup with settings.serviceName := some name }
  | .serviceType type => { setup with settings.serviceType := some type }
  | .logGroup name => { setup with settings.logGroup := some name }
  | .choice choice => { setup with settings.choice := some choice }
  | .defaultDimension name value => { setup with defaults := setup.defaults ++ [(name, value)] }
  | .keepDimensions keep => { setup with keepsDimensions := keep }
  | .timeout timeout => { setup with timeout := timeout }
  | .supplyEnvironments supplier => { setup with supplier := some supplier }
  | .outlet outlet => { setup with outlet := some outlet }

def calls (setup : Setup) (made : List SetupCall) : Setup :=
  made.foldl call setup

/-- The namespace: the one settled, or else the one of the settings, or else the usual one. -/
def resolvedNamespace (setup : Setup) : String :=
  (setup.namespaceName.orElse fun _ => setup.settings.namespaceName).getD Context.defaultNamespace

/-- Who answers the question for the environment. -/
def provider (setup : Setup) : Except SetupError Provider :=
  match setup.supplier, setup.outlet with
  | some _, some _ => .error .twoOutlets
  | some supplier, none => .ok (.supplied supplier)
  | none, outlet => .ok (.detecting ⟨setup.settings, outlet.getD .console⟩)

def build (setup : Setup) : Except SetupError Emitter :=
  match DimensionSet.ofPairs setup.defaults with
  | .error reason => .error (.dimensions reason)
  | .ok defaults =>
      match setup.provider with
      | .error reason => .error reason
      | .ok provider =>
          .ok { Emitter.ofContext provider
                  ((Context.ofDefaults defaults).setNamespace setup.resolvedNamespace) with
                keepsDimensions := setup.keepsDimensions
                timeout := setup.timeout }

end Setup

end MetricEmitter
