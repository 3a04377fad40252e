import MetricEmitter.Context.Operation
import MetricEmitter.Delivery.Outlets
import MetricEmitter.Environment.Settings

/-!
# Environments

The environment a process runs in gives documents three dimensions, may do
operations of its own on the context before a document is written, and says
where the document goes.
-/

set_option autoImplicit false

namespace MetricEmitter

/-- What a document has to know about where it comes from. -/
structure Environment where
  logGroup : Option String
  serviceName : Option String
  serviceType : Option String
  /-- What the environment does to a context before the document is written. -/
  hook : List Operation
  outlet : OutletId
  deriving Inhabited

namespace Environment

/-- The fields of an environment that become dimensions, in their order. -/
def fields (environment : Environment) : List (String × Option String) :=
  [("LogGroup", environment.logGroup), ("ServiceName", environment.serviceName),
    ("ServiceType", environment.serviceType)]

/-- The dimensions of an environment: the fields that are there and not empty. -/
def dimensionPairs (environment : Environment) : List (String × String) :=
  environment.fields.filterMap fun field =>
    (field.2.filter fun value => !value.isEmpty).map fun value => (field.1, value)

/-- The word for what is not known about an environment. -/
def unknown : String := "Unknown"

/-- The environment that settings describe, with the type it has if they name none. -/
def described (settings : Settings) (usualType : String) (outlet : OutletId) : Environment :=
  let name := settings.serviceName.getD unknown
  { logGroup := some (settings.logGroup.getD (name ++ "-metrics"))
    serviceName := some name
    serviceType := some (settings.serviceType.getD usualType)
    hook := []
    outlet := outlet }

/-- The environment of a process of which only the settings are known. -/
def standard (settings : Settings) (outlet : OutletId) : Environment :=
  described settings unknown outlet

/-- The environment of a process on the machine of a developer. -/
def workstation (settings : Settings) (outlet : OutletId) : Environment :=
  described settings "Local" outlet

end Environment

end MetricEmitter
