import MetricEmitter.Proofs.Delivery.Outlets

/-!
# Writers that have room

A writer that has room for some bytes takes all of them, in one write
(`ByteWriter.writeAll_of_fits`). One without a limit always has room, and so
every document that is delivered to it becomes one line
(`Outlet.acceptAll_of_unlimited`), whether or not it can be flushed.
-/

set_option autoImplicit false

namespace MetricEmitter

namespace ByteWriter

/-- The writer after it has taken some bytes. -/
def took (writer : ByteWriter) (bytes : List UInt8) : ByteWriter :=
  { writer with written := writer.written ++ bytes }

/-- The bytes of a text and of the line break after it. -/
def line (text : String) : List UInt8 :=
  bytesOf text ++ bytesOf "\n"

theorem write_of_fits {writer : ByteWriter} {bytes : List UInt8}
    (fits : writer.accepted bytes = bytes.length) :
    writer.write bytes = .ok (writer.took bytes, bytes.length) := by
  have noRefusal : decide (bytes.length = 0 ∧ bytes ≠ []) = false :=
    decide_eq_false fun both => both.2 (List.eq_nil_of_length_eq_zero both.1)
  unfold write took
  dsimp only
  rw [fits, noRefusal, List.take_length]
  split
  · contradiction
  · rfl

/-- **Bytes for which a writer has room are all written.** -/
theorem writeAll_of_fits {writer : ByteWriter} {bytes : List UInt8}
    (fits : writer.accepted bytes = bytes.length) :
    writer.writeAll bytes = (writer.took bytes, none) := by
  cases bytes with
  | nil =>
      rw [writeAll, took, List.append_nil]
  | cons byte rest =>
      rw [writeAll, write_of_fits fits, List.length_cons]
      dsimp only
      rw [List.drop_length, writeAll]

variable {writer : ByteWriter}

theorem accepted_of_unlimited (unlimited : writer.capacity = none) (bytes : List UInt8) :
    writer.accepted bytes = bytes.length := by
  rw [accepted, unlimited]

theorem writeLine_of_unlimited (unlimited : writer.capacity = none) (text : String) :
    writer.writeLine text = (writer.took (line text), none) := by
  have later : (writer.took (bytesOf text)).capacity = none := unlimited
  rw [writeLine, writeAll_of_fits (accepted_of_unlimited unlimited _)]
  dsimp only
  rw [writeAll_of_fits (accepted_of_unlimited later _), took, took, took, List.append_assoc]
  rfl

theorem deliverLine_of_unlimited (unlimited : writer.capacity = none) (text : String) :
    writer.deliverLine text = (writer.took (line text)).flush := by
  rw [deliverLine, writeLine_of_unlimited unlimited]

end ByteWriter

namespace Outlet

theorem accept_of_unlimited {writer : ByteWriter} (unlimited : writer.capacity = none)
    (capture : Capture) :
    ((Outlet.writer writer).accept capture).1 =
      .writer (writer.took (ByteWriter.line capture.text)).flush.1 := by
  rw [accept, ByteWriter.deliverLine_of_unlimited unlimited]

/-- **A writer without a limit keeps every document as a line**, oldest first. -/
theorem acceptAll_of_unlimited {writer : ByteWriter} (unlimited : writer.capacity = none)
    (captures : List Capture) :
    ∃ later : ByteWriter, (Outlet.writer writer).acceptAll captures = .writer later ∧
      later.written = writer.written ++
        captures.flatMap fun capture => ByteWriter.line capture.text := by
  induction captures generalizing writer with
  | nil => exact ⟨writer, rfl, (List.append_nil _).symm⟩
  | cons capture rest ih =>
      have still : (writer.took (ByteWriter.line capture.text)).flush.1.capacity = none :=
        unlimited
      obtain ⟨later, accepted, written⟩ := ih still
      refine ⟨later, ?_, ?_⟩
      · rw [acceptAll, List.foldl_cons, accept_of_unlimited unlimited]
        exact accepted
      · rw [written, List.flatMap_cons, ← List.append_assoc]
        rfl

end Outlet

end MetricEmitter
