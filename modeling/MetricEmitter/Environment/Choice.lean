import MetricEmitter.Text.Quoted

/-!
# Choosing an environment by name

A setting can force one of the environments instead of letting it be detected.
Names are read without regard to the case of ASCII letters.
-/

set_option autoImplicit false

namespace MetricEmitter

/-- The environment that a setting asks for. -/
inductive Choice where
  | lambda
  | workstation
  | standard
  deriving DecidableEq, Repr

/-- A name that chooses no environment, in lower case. -/
structure UnknownChoice where
  name : String
  deriving DecidableEq, Repr

def UnknownChoice.message (unknown : UnknownChoice) : String :=
  "unknown environment " ++ Text.quoted unknown.name

namespace Choice

/-- The text with its ASCII letters in lower case. -/
def lowerCase (text : String) : String :=
  String.ofList (text.toList.map Char.toLower)

def name : Choice → String
  | .lambda => "lambda"
  | .workstation => "local"
  | .standard => "default"

/-- The environment a text chooses. -/
def parse (text : String) : Except UnknownChoice Choice :=
  match [lambda, workstation, standard].find? fun choice => choice.name = lowerCase text with
  | some choice => .ok choice
  | none => .error ⟨lowerCase text⟩

end Choice

end MetricEmitter
