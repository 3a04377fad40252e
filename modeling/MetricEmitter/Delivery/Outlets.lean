import MetricEmitter.Context
import MetricEmitter.Delivery.ByteWriter

/-!
# Outlets

The places documents are delivered to. There is one console, and any number of
further outlets can be installed: writers, which take a document as a line of
bytes, and captures, which keep it together with the context it was made from.
A delivery that fails is reported and not tried again.
-/

set_option autoImplicit false

namespace MetricEmitter

/-- Where a document goes. -/
inductive OutletId where
  | console
  | installed (index : Nat)
  deriving DecidableEq, Repr, Inhabited

/-- A document as it was delivered, and the context it was made from. -/
structure Capture where
  text : String
  context : Context

inductive Outlet where
  /-- Keeps every document, oldest first. -/
  | capture (captured : List Capture)
  /-- Writes every document as one line. -/
  | writer (target : ByteWriter)
  deriving Inhabited

def complaint (notice : String → Notice) : Option String → List Notice
  | none => []
  | some reason => [notice reason]

namespace Outlet

def accept (capture : Capture) : Outlet → Outlet × List Notice
  | .capture captured => (.capture (captured ++ [capture]), [])
  | .writer target =>
      let delivered := target.deliverLine capture.text
      (.writer delivered.1, complaint .writerFailed delivered.2)

/-- The writer behind an outlet, given back as it is. -/
def target? : Outlet → Option ByteWriter
  | .capture _ => none
  | .writer target => some target

end Outlet

structure Outlets where
  console : ByteWriter
  installed : List Outlet

namespace Outlets

/-- Installs an outlet, which gets the next free index. -/
def install (outlets : Outlets) (outlet : Outlet) : Outlets × OutletId :=
  ({ outlets with installed := outlets.installed ++ [outlet] },
    .installed outlets.installed.length)

/-- Delivers a document to one outlet. An index under which none is installed takes nothing. -/
def accept (outlets : Outlets) (outlet : OutletId) (capture : Capture) :
    Outlets × List Notice :=
  match outlet with
  | .console =>
      let delivered := outlets.console.writeLine capture.text
      ({ outlets with console := delivered.1 }, complaint .consoleFailed delivered.2)
  | .installed index =>
      match outlets.installed[index]? with
      | none => (outlets, [])
      | some installed =>
          let delivered := installed.accept capture
          ({ outlets with installed := outlets.installed.set index delivered.1 }, delivered.2)

end Outlets

end MetricEmitter
