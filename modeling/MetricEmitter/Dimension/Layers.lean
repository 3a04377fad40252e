import MetricEmitter.Dimension.DimensionSet

/-!
# Layers of dimensions

Dimensions lie in two layers. The active sets are those a caller puts, and the
default set lies under each of them when a document is written. Whether the
defaults apply is kept apart from the active sets, so that a caller can ask for
no dimensions at all although there are defaults.

`Layers.emitted` gives the sets a document lists. It unites the layers without
counting names: the operations below refuse a change after which a set would
list more than `DimensionSet.capacity` names, and a refused change leaves the
layers as they were.
-/

set_option autoImplicit false

namespace MetricEmitter

/-- Active dimension sets over a default set. -/
structure Layers where
  active : List DimensionSet
  defaults : DimensionSet
  defaultsApply : Bool
  deriving DecidableEq, Repr

namespace Layers

/-- No active sets over the given defaults, which apply. -/
def ofDefaults (defaults : DimensionSet) : Layers :=
  ⟨[], defaults, true⟩

/-- The sets a document lists. -/
def emitted (layers : Layers) : List DimensionSet :=
  match layers.defaultsApply, layers.active with
  | false, active => active
  | true, [] => if layers.defaults.isEmpty then [] else [layers.defaults]
  | true, active => active.map layers.defaults.overlay

/-- The size of the first active set that is too large over the given defaults. -/
def excess (defaults : DimensionSet) (active : List DimensionSet) : Option Nat :=
  (active.map defaults.unionSize).find? fun size => DimensionSet.capacity < size

/-- The last active set with a set united to it, or that set alone if none is active. -/
def extendedLast (layers : Layers) (set : DimensionSet) : Except DimensionError DimensionSet :=
  match layers.active.getLast? with
  | none => .ok set
  | some last => last.merge set

/-- Unites a set with the last active set, or makes it the only one. -/
def put (layers : Layers) (set : DimensionSet) : Except DimensionError Layers :=
  match layers.extendedLast set with
  | .error reason => .error reason
  | .ok last =>
      match if layers.defaultsApply then excess layers.defaults [last] else none with
      | some count => .error (.tooMany count)
      | none => .ok { layers with active := layers.active.dropLast ++ [last] }

/-- Makes the given sets the active ones, without the defaults. -/
def replace (layers : Layers) (sets : List DimensionSet) : Layers :=
  { layers with active := sets, defaultsApply := false }

/-- Makes the given sets the active ones, over the defaults. -/
def replaceOverDefaults (layers : Layers) (sets : List DimensionSet) :
    Except DimensionError Layers :=
  match excess layers.defaults sets with
  | some count => .error (.tooMany count)
  | none => .ok { layers with active := sets, defaultsApply := true }

/-- Leaves no active set; the defaults apply from now on, or no longer. -/
def reset (layers : Layers) (defaultsApply : Bool) : Layers :=
  { layers with active := [], defaultsApply := defaultsApply }

def setDefaults (layers : Layers) (set : DimensionSet) : Except DimensionError Layers :=
  match if layers.defaultsApply then excess set layers.active else none with
  | some count => .error (.tooMany count)
  | none => .ok { layers with defaults := set }

end Layers

end MetricEmitter
