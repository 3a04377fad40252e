import MetricEmitter.Table

/-!
# Data values

A property of a document is an arbitrary piece of data. Whole numbers and
floating point numbers are different data even where they are equal, because
they are written differently: the number one is `1` or `1.0`.

An object lists its members in the order in which they are written. Data that
comes from outside has its members in the order of their names, each name once,
which `Json.ofMembers` provides.
-/

set_option autoImplicit false

namespace MetricEmitter

inductive Json where
  | null
  | bool (value : Bool)
  | integer (value : Int)
  | float (value : Float)
  | text (value : String)
  | array (items : List Json)
  | object (members : List (String × Json))
  deriving Inhabited

namespace Json

/-- A finite number as it is; what is not a number, or not finite, is absent. -/
def ofFloat (value : Float) : Json :=
  if value.isFinite then .float value else .null

/-- The object with the given members, ordered by name, the last of each name. -/
def ofMembers (members : List (String × Json)) : Json :=
  .object (Table.ofList members).entries

end Json

end MetricEmitter
