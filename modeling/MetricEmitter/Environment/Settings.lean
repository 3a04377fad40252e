import MetricEmitter.Notice
import MetricEmitter.Text.Blank

/-!
# Settings

What a process is told about itself through its variables: the name, type, log
group and namespace to report, and possibly the environment to assume. White
space around a setting does not count, and a blank setting is no setting.
-/

set_option autoImplicit false

namespace MetricEmitter

/-- The variables of a process, each with its text if it is set. -/
abbrev Variables := String → Option String

/-- What a process is told to report about itself. -/
structure Settings where
  serviceName : Option String
  serviceType : Option String
  logGroup : Option String
  namespaceName : Option String
  choice : Option Choice
  deriving DecidableEq, Repr

namespace Settings

def unset : Settings := ⟨none, none, none, none, none⟩

instance : Inhabited Settings := ⟨unset⟩

def serviceNameVariable : String := "AWS_EMF_SERVICE_NAME"

def serviceTypeVariable : String := "AWS_EMF_SERVICE_TYPE"

def logGroupVariable : String := "AWS_EMF_LOG_GROUP_NAME"

def namespaceVariable : String := "AWS_EMF_NAMESPACE"

def choiceVariable : String := "AWS_EMF_ENVIRONMENT"

/-- The text of a variable without white space around it, unless nothing is left. -/
def setting (process : Variables) (name : String) : Option String :=
  ((process name).map Text.trim).filter fun text => !text.isEmpty

/-- The choice a text stands for; an unknown name is ignored with a notice. -/
def choose : Option String → Option Choice × List Notice
  | none => (none, [])
  | some text =>
      match Choice.parse text with
      | .ok choice => (some choice, [])
      | .error unknown => (none, [.choiceIgnored unknown])

/-- Reads the settings from the variables of a process. -/
def read (process : Variables) : Settings × List Notice :=
  let chosen := choose (setting process choiceVariable)
  ({ serviceName := setting process serviceNameVariable
     serviceType := setting process serviceTypeVariable
     logGroup := setting process logGroupVariable
     namespaceName := setting process namespaceVariable
     choice := chosen.1 },
    chosen.2)

end Settings

end MetricEmitter
