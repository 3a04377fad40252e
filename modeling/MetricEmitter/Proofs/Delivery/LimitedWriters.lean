import MetricEmitter.Proofs.Delivery.Writers

/-!
# Writers with limited room

A writer with a limit takes the bytes it has room for and refuses the others
(`ByteWriter.writeAll_of_limited`). Where the room ends does not depend on how the
bytes are handed over: two writes, the second only if the first succeeds, take
what one write of all their bytes takes (`ByteWriter.writeLine_of_limited`).

So the bytes of all lines together decide what a writer comes to hold, namely as
many of them as the limit allows. A line is flushed if it fits wholly, after
those before it, and from the first line that does not fit no line fits any more,
since none is without bytes (`ByteWriter.deliverLine_holding`). This is followed
through every list of documents in `Outlet.limited_writer_holds_lines`.
-/

set_option autoImplicit false

namespace MetricEmitter

/-- Why bytes are not written for which there is no room. -/
def Refusal.reason : Refusal → String
  | .failure reason => reason
  | .nothingTaken => ByteWriter.stalled

namespace ByteWriter

variable {writer : ByteWriter} {limit : Nat} {bytes : List UInt8}

/-! ## One write -/

/-- The number of bytes that still fit under a limit. -/
def room (writer : ByteWriter) (limit : Nat) : Nat :=
  limit - writer.written.length

theorem accepted_of_limited (limited : writer.capacity = some limit) (bytes : List UInt8) :
    writer.accepted bytes = min bytes.length (writer.room limit) := by
  rw [accepted, limited]
  rfl

theorem room_took (writer : ByteWriter) (bytes : List UInt8) (limit : Nat) :
    (writer.took bytes).room limit = writer.room limit - bytes.length := by
  rw [room, room, took, List.length_append, Nat.sub_add_eq]

/-- Without room nothing is written. -/
theorem writeAll_of_noRoom (noRoom : writer.accepted bytes = 0) (given : bytes ≠ []) :
    writer.writeAll bytes = (writer, some writer.refusal.reason) := by
  cases bytes with
  | nil => contradiction
  | cons byte rest =>
      have refused : decide (0 = 0 ∧ byte :: rest ≠ []) = true := decide_eq_true ⟨rfl, given⟩
      unfold writeAll write
      dsimp only
      rw [noRoom, refused]
      cases refusal : writer.refusal <;> rfl

/-- With some room a first part is written, and then what is left. -/
theorem writeAll_of_someRoom (someRoom : 0 < writer.accepted bytes) (given : bytes ≠ []) :
    writer.writeAll bytes =
      (writer.took (bytes.take (writer.accepted bytes))).writeAll
        (bytes.drop (writer.accepted bytes)) := by
  cases bytes with
  | nil => contradiction
  | cons byte rest =>
      obtain ⟨taken, count⟩ := Nat.exists_eq_succ_of_ne_zero (Nat.ne_of_gt someRoom)
      have wrote : writer.write (byte :: rest) =
          .ok (writer.took ((byte :: rest).take (taken + 1)), taken + 1) := by
        unfold write took
        dsimp only
        rw [count, decide_eq_false fun both => Nat.succ_ne_zero taken both.1]
        split
        · contradiction
        · rfl
      rw [writeAll, wrote, count]
      rfl

/-- **A writer takes the bytes it has room for**, and says why it refuses the others. -/
theorem writeAll_of_limited (limited : writer.capacity = some limit) (bytes : List UInt8) :
    writer.writeAll bytes =
      (writer.took (bytes.take (writer.room limit)),
        if bytes.length ≤ writer.room limit then none else some writer.refusal.reason) := by
  have accepted := accepted_of_limited limited
  by_cases fits : bytes.length ≤ writer.room limit
  · have all : writer.accepted bytes = bytes.length := by rw [accepted, Nat.min_eq_left fits]
    rw [writeAll_of_fits all, List.take_of_length_le fits, if_pos fits]
  · have part : writer.accepted bytes = writer.room limit := by
      rw [accepted, Nat.min_eq_right (Nat.le_of_not_le fits)]
    have given : bytes ≠ [] := by
      rintro rfl
      exact fits (Nat.zero_le _)
    rw [if_neg fits]
    by_cases full : writer.room limit = 0
    · rw [writeAll_of_noRoom (part.trans full) given, full, List.take_zero, took, List.append_nil]
    · -- What is left after the first part finds no room, and there is something left.
      have rest : bytes.drop (writer.room limit) ≠ [] := by
        rw [Ne, List.drop_eq_nil_iff]
        exact fits
      have exhausted : (writer.took (bytes.take (writer.room limit))).accepted
          (bytes.drop (writer.room limit)) = 0 := by
        have still : (writer.took (bytes.take (writer.room limit))).capacity = some limit := limited
        rw [accepted_of_limited still, room_took, List.length_take,
          Nat.min_eq_left (Nat.le_of_not_le fits), Nat.sub_self, Nat.min_zero]
      rw [writeAll_of_someRoom (part ▸ Nat.pos_of_ne_zero full) given, part,
        writeAll_of_noRoom exhausted rest]
      rfl

/-! ## One line -/

/-- **A writer takes the part of a line it has room for**, as if text and line break were written
at once. -/
theorem writeLine_of_limited (limited : writer.capacity = some limit) (text : String) :
    writer.writeLine text =
      (writer.took ((line text).take (writer.room limit)),
        if (line text).length ≤ writer.room limit then none else some writer.refusal.reason) := by
  rw [writeLine, writeAll_of_limited limited, line, List.length_append, List.take_append]
  by_cases fits : (bytesOf text).length ≤ writer.room limit
  · have still : (writer.took (bytesOf text)).capacity = some limit := limited
    have enough : (bytesOf "\n").length ≤ (writer.took (bytesOf text)).room limit ↔
        (bytesOf text).length + (bytesOf "\n").length ≤ writer.room limit := by
      rw [room_took]
      omega
    rw [if_pos fits, List.take_of_length_le fits]
    dsimp only
    rw [writeAll_of_limited still, room_took, took, took, took, List.append_assoc]
    rw [room_took] at enough
    simp only [enough]
  · have tooLong : ¬ (bytesOf text).length + (bytesOf "\n").length ≤ writer.room limit := by
      omega
    have spent : writer.room limit - (bytesOf text).length = 0 := by omega
    rw [if_neg fits, if_neg tooLong, spent, List.take_zero, List.append_nil]

theorem deliverLine_of_limited (limited : writer.capacity = some limit) (text : String) :
    writer.deliverLine text =
      if (line text).length ≤ writer.room limit then (writer.took (line text)).flush
      else (writer.took ((line text).take (writer.room limit)), some writer.refusal.reason) := by
  rw [deliverLine, writeLine_of_limited limited]
  by_cases fits : (line text).length ≤ writer.room limit
  · rw [if_pos fits, if_pos fits, List.take_of_length_le fits]
  · rw [if_neg fits, if_neg fits]

/-! ## Line after line -/

/-- The bytes of texts as lines, one after the other. -/
def lines (texts : List String) : List UInt8 :=
  texts.flatMap line

theorem lines_concat (texts : List String) (text : String) :
    lines (texts ++ [text]) = lines texts ++ line text := by
  rw [lines, List.flatMap_append, List.flatMap_singleton]
  rfl

/-- How many of the lines of texts lie wholly under a limit. -/
def fitting (limit : Nat) (texts : List String) : Nat :=
  (List.range texts.length).countP fun index =>
    (lines (texts.take (index + 1))).length ≤ limit

theorem fitting_concat (limit : Nat) (texts : List String) (text : String) :
    fitting limit (texts ++ [text]) =
      fitting limit texts + if (lines (texts ++ [text])).length ≤ limit then 1 else 0 := by
  have earlier : ∀ index ∈ List.range texts.length,
      (texts ++ [text]).take (index + 1) = texts.take (index + 1) := fun index member =>
    List.take_append_of_le_length (List.mem_range.mp member)
  have whole : (texts ++ [text]).take (texts.length + 1) = texts ++ [text] :=
    List.take_of_length_le (Nat.le_of_eq List.length_append)
  rw [fitting, List.length_append, List.length_singleton, List.range_succ, List.countP_append,
    List.countP_singleton, whole, fitting]
  congr 1
  · refine List.countP_congr fun index member => ?_
    rw [earlier index member]
  · simp only [decide_eq_true_eq]

/-- A writer with a limit after it has been given texts: it has the bytes of their lines up to the
limit, and was flushed as often as a line was complete. -/
def holding (limit : Nat) (refusal : Refusal) (flushFault : Option String) (texts : List String) :
    ByteWriter where
  written := (lines texts).take limit
  capacity := some limit
  refusal := refusal
  flushFault := flushFault
  flushes := fitting limit texts

theorem holding_nil (limit : Nat) (refusal : Refusal) (flushFault : Option String) :
    holding limit refusal flushFault [] = ⟨[], some limit, refusal, flushFault, 0⟩ := by
  rw [holding, lines, List.flatMap_nil, List.take_nil]
  rfl

variable {refusal : Refusal} {flushFault : Option String}

/-- **One more line**: what fits of it is written, and it is flushed or complained about. -/
theorem deliverLine_holding (texts : List String) (text : String) :
    (holding limit refusal flushFault texts).deliverLine text =
      (holding limit refusal flushFault (texts ++ [text]),
        if (lines (texts ++ [text])).length ≤ limit then flushFault
        else some refusal.reason) := by
  have limited : (holding limit refusal flushFault texts).capacity = some limit := rfl
  have room : (holding limit refusal flushFault texts).room limit =
      limit - (lines texts).length := by
    rw [ByteWriter.room, holding, List.length_take]
    omega
  have written : (lines texts).take limit ++ (line text).take (limit - (lines texts).length) =
      (lines (texts ++ [text])).take limit := by
    rw [lines_concat, List.take_append]
  -- A line has at least its line break, so that none fits once the limit is reached.
  have fits : (line text).length ≤ limit - (lines texts).length ↔
      (lines (texts ++ [text])).length ≤ limit := by
    have lineBreak : (bytesOf "\n").length = 1 := rfl
    rw [lines_concat, List.length_append, line, List.length_append, lineBreak]
    omega
  rw [deliverLine_of_limited limited, room]
  simp only [fits]
  split
  · rename_i complete
    rw [List.take_of_length_le (fits.mpr complete)] at written
    rw [flush, took, holding, holding, fitting_concat, if_pos complete]
    dsimp only
    rw [written]
  · rename_i incomplete
    rw [took, holding, holding, fitting_concat, if_neg incomplete]
    dsimp only
    rw [written, Nat.add_zero]

end ByteWriter

namespace Outlet

open ByteWriter (lines fitting holding)

variable {limit : Nat} {refusal : Refusal} {flushFault : Option String}

theorem accept_holding (texts : List String) (capture : Capture) :
    (Outlet.writer (holding limit refusal flushFault texts)).accept capture =
      (.writer (holding limit refusal flushFault (texts ++ [capture.text])),
        if (lines (texts ++ [capture.text])).length ≤ limit then
          complaint .writerFailed flushFault
        else [.writerFailed refusal.reason]) := by
  rw [accept, ByteWriter.deliverLine_holding]
  split <;> rfl

theorem acceptAll_holding (texts : List String) (captures : List Capture) :
    (Outlet.writer (holding limit refusal flushFault texts)).acceptAll captures =
      .writer (holding limit refusal flushFault (texts ++ captures.map Capture.text)) := by
  induction captures generalizing texts with
  | nil => rw [List.map_nil, List.append_nil]; rfl
  | cons capture rest ih =>
      rw [acceptAll, List.foldl_cons, accept_holding]
      change (Outlet.writer _).acceptAll rest = _
      rw [ih, List.map_cons, List.append_assoc, List.singleton_append]

/-- **A writer with a limit holds the lines of all documents up to the limit**, also if the limit
cuts a line or a character in two. It was flushed once for each line that is complete, and each
document whose line is not complete or whose flush fails is complained about once, and no other. -/
theorem limited_writer_holds_lines (limit : Nat) (refusal : Refusal) (flushFault : Option String)
    (captures : List Capture) :
    let fresh : ByteWriter := ⟨[], some limit, refusal, flushFault, 0⟩
    let texts := captures.map Capture.text
    let reached := (Outlet.writer fresh).acceptAll captures
    let later : ByteWriter :=
      { fresh with written := (lines texts).take limit, flushes := fitting limit texts }
    reached = .writer later ∧ reached.target? = some later ∧
      ∀ capture : Capture,
        let complete := (lines (texts ++ [capture.text])).length ≤ limit
        let notices := (reached.accept capture).2
        (notices = if complete then complaint .writerFailed flushFault
          else [.writerFailed refusal.reason]) ∧
        notices.map Notice.severity = if complete ∧ flushFault = none then [] else [.error] := by
  intro fresh texts reached later
  have arrived : reached = .writer later := by
    have start : holding limit refusal flushFault [] = fresh := ByteWriter.holding_nil _ _ _
    change (Outlet.writer fresh).acceptAll captures = _
    rw [← start, acceptAll_holding, List.nil_append]
    rfl
  refine ⟨arrived, congrArg target? arrived, ?_⟩
  intro capture complete notices
  have accepted : notices = if complete then complaint .writerFailed flushFault
      else [.writerFailed refusal.reason] := by
    change (reached.accept capture).2 = _
    rw [arrived]
    exact congrArg Prod.snd (accept_holding texts capture)
  refine ⟨accepted, ?_⟩
  rw [accepted]
  by_cases fits : complete
  · cases flushFault <;> simp [fits, complaint, Notice.severity]
  · simp [fits, Notice.severity]

end Outlet

end MetricEmitter
