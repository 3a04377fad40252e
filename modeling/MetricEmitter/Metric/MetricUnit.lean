/-!
# Units of metrics

The units a metric may be recorded in, and the names under which a document
lists them. A document knows decimal units only, so the binary ones are listed
under the decimal name of their size.
-/

set_option autoImplicit false

namespace MetricEmitter

/-- What the samples of a metric count or measure. -/
inductive MetricUnit where
  | count
  | percent
  | seconds
  | milliseconds
  | microseconds
  | nanoseconds
  | tebibytes
  | gibibytes
  | mebibytes
  | kibibytes
  | bytes
  | terabitsPerSecond
  | gigabitsPerSecond
  | megabitsPerSecond
  | kilobitsPerSecond
  | bitsPerSecond
  | countPerSecond
  deriving DecidableEq, Repr

namespace MetricUnit

def all : List MetricUnit :=
  [count, percent, seconds, milliseconds, microseconds, nanoseconds, tebibytes, gibibytes,
    mebibytes, kibibytes, bytes, terabitsPerSecond, gigabitsPerSecond, megabitsPerSecond,
    kilobitsPerSecond, bitsPerSecond, countPerSecond]

def name : MetricUnit → String
  | .count => "Count"
  | .percent => "Percent"
  | .seconds => "Seconds"
  | .milliseconds => "Milliseconds"
  | .microseconds => "Microseconds"
  | .nanoseconds => "Nanoseconds"
  | .tebibytes => "Tebibytes"
  | .gibibytes => "Gibibytes"
  | .mebibytes => "Mebibytes"
  | .kibibytes => "Kibibytes"
  | .bytes => "Bytes"
  | .terabitsPerSecond => "TerabitsPerSecond"
  | .gigabitsPerSecond => "GigabitsPerSecond"
  | .megabitsPerSecond => "MegabitsPerSecond"
  | .kilobitsPerSecond => "KilobitsPerSecond"
  | .bitsPerSecond => "BitsPerSecond"
  | .countPerSecond => "CountPerSecond"

def ofName? (text : String) : Option MetricUnit :=
  all.find? fun unit => unit.name = text

/-- The name of a unit in a document. A document knows decimal multiples only, so a binary multiple
goes under the name of the decimal one next to it. -/
def documentName : MetricUnit → String
  | .tebibytes => "Terabytes"
  | .gibibytes => "Gigabytes"
  | .mebibytes => "Megabytes"
  | .kibibytes => "Kilobytes"
  | .terabitsPerSecond => "Terabits/Second"
  | .gigabitsPerSecond => "Gigabits/Second"
  | .megabitsPerSecond => "Megabits/Second"
  | .kilobitsPerSecond => "Kilobits/Second"
  | .bitsPerSecond => "Bits/Second"
  | .countPerSecond => "Count/Second"
  | unit => unit.name

/-- Every unit is found under its name. -/
theorem ofName?_name (unit : MetricUnit) : ofName? unit.name = some unit := by
  cases unit <;> decide

end MetricUnit

end MetricEmitter
