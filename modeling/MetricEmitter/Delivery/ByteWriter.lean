/-!
# Byte writers

A writer takes bytes as long as it has room for them. A write may take only the
first part of what it is given, so a text is written by writing what is left
until nothing is left or the writer refuses (`ByteWriter.writeAll`). What has
been taken before a refusal stays written.
-/

set_option autoImplicit false

namespace MetricEmitter

/-- What a writer does with bytes for which it has no room at all. -/
inductive Refusal where
  | failure (reason : String)
  | nothingTaken
  deriving DecidableEq, Repr

structure ByteWriter where
  written : List UInt8
  /-- How many bytes are taken in all, if there is a limit. -/
  capacity : Option Nat
  refusal : Refusal
  /-- Why flushing fails, if it does. -/
  flushFault : Option String
  /-- How often a flush was asked for. -/
  flushes : Nat
  deriving DecidableEq, Repr

namespace ByteWriter

/-- A writer that takes everything. -/
def unlimited : ByteWriter := ⟨[], none, .nothingTaken, none, 0⟩

instance : Inhabited ByteWriter := ⟨unlimited⟩

def bytesOf (text : String) : List UInt8 :=
  text.toList.flatMap String.utf8EncodeChar

/-- The number of bytes of the given ones that the writer has room for. -/
def accepted (writer : ByteWriter) (bytes : List UInt8) : Nat :=
  match writer.capacity with
  | none => bytes.length
  | some capacity => min bytes.length (capacity - writer.written.length)

/-- Takes as many bytes as there is room for, and says how many. -/
def write (writer : ByteWriter) (bytes : List UInt8) : Except String (ByteWriter × Nat) :=
  let count := writer.accepted bytes
  match writer.refusal, decide (count = 0 ∧ bytes ≠ []) with
  | .failure reason, true => .error reason
  | _, _ => .ok ({ writer with written := writer.written ++ bytes.take count }, count)

/-- The complaint about a write that took nothing. -/
def stalled : String := "failed to write whole buffer"

/-- Writes until no byte is left, or up to the first refusal. -/
def writeAll (writer : ByteWriter) (bytes : List UInt8) : ByteWriter × Option String :=
  match bytes with
  | [] => (writer, none)
  | byte :: rest =>
      match writer.write (byte :: rest) with
      | .error reason => (writer, some reason)
      | .ok (_, 0) => (writer, some stalled)
      | .ok (later, taken + 1) => later.writeAll (rest.drop taken)
termination_by bytes.length
decreasing_by
  simp only [List.length_drop, List.length_cons]
  omega

/-- Writes a text and a line break, the latter only if the text was written. -/
def writeLine (writer : ByteWriter) (text : String) : ByteWriter × Option String :=
  match writer.writeAll (bytesOf text) with
  | (later, none) => later.writeAll (bytesOf "\n")
  | (later, some reason) => (later, some reason)

/-- Asks the writer to pass on what it has taken. -/
def flush (writer : ByteWriter) : ByteWriter × Option String :=
  ({ writer with flushes := writer.flushes + 1 }, writer.flushFault)

/-- Writes a line, and flushes if it was written. -/
def deliverLine (writer : ByteWriter) (text : String) : ByteWriter × Option String :=
  match writer.writeLine text with
  | (later, none) => later.flush
  | (later, some reason) => (later, some reason)

end ByteWriter

end MetricEmitter
