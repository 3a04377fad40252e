import MetricEmitter.Proofs.Delivery.Writers
import MetricEmitter.Proofs.Emitter.Destination
import MetricEmitter.Proofs.Json.OneLine
import MetricEmitter.Proofs.Text.ByteOrder

/-!
# Documents as lines

A writer gets each document as a line. No document holds a line break, whatever
texts it was made from (`Document.newline_not_mem_text`), so that what was written
can be taken apart again: splitting it at the line breaks gives the documents
back, in their order, and an empty rest (`Text.Lines`).

This holds of a writer that takes everything, for the documents of any flushes
of any emitters, and so for those of a run (`Outlets.writer_holds_lines`).
-/

set_option autoImplicit false

namespace MetricEmitter

open ByteWriter (bytesOf line)

/-! ## Texts without line breaks -/

namespace Text

/-- Bytes that hold texts as lines, so that the texts can be told from the bytes. -/
structure Lines (bytes : List UInt8) (texts : List String) : Prop where
  /-- Each text is followed by one line break. -/
  bytes_eq : bytes = texts.flatMap fun text => bytesOf text ++ bytesOf "\n"
  unbroken : ∀ text ∈ texts, '\n' ∉ text.toList
  readable : ∃ whole, bytesOf whole = bytes
  /-- The parts between the line breaks are the texts, and nothing stands after the last one. -/
  split : ∀ whole, bytesOf whole = bytes →
    List.splitOn '\n' whole.toList = texts.map String.toList ++ [[]]

/-- Texts with a line break after each. -/
def joined (texts : List String) : String :=
  String.ofList (texts.flatMap fun text => text.toList ++ ['\n'])

theorem bytesOf_joined (texts : List String) :
    bytesOf (joined texts) = texts.flatMap line := by
  rw [bytesOf, joined, String.toList_ofList, List.flatMap_assoc]
  refine congrArg (List.flatMap · texts) ?_
  funext text
  rw [List.flatMap_append]
  rfl

theorem splitOn_joined {texts : List String} (unbroken : ∀ text ∈ texts, '\n' ∉ text.toList) :
    List.splitOn '\n' (joined texts).toList = texts.map String.toList ++ [[]] := by
  rw [joined, String.toList_ofList]
  induction texts with
  | nil => exact List.splitOn_nil '\n'
  | cons text rest ih =>
      obtain ⟨first, others⟩ := List.forall_mem_cons.mp unbroken
      rw [List.flatMap_cons, List.append_assoc, List.singleton_append,
        List.splitOn_append_cons_self_of_not_mem first, ih others, List.map_cons, List.cons_append]

/-- **Texts without line breaks can be told from their lines.** -/
theorem lines_of_unbroken {texts : List String} (unbroken : ∀ text ∈ texts, '\n' ∉ text.toList) :
    Lines (texts.flatMap line) texts where
  bytes_eq := rfl
  unbroken := unbroken
  readable := ⟨joined texts, bytesOf_joined texts⟩
  split := by
    intro whole same
    rw [← bytesOf_joined texts] at same
    rw [eq_of_bytesOf_eq same]
    exact splitOn_joined unbroken

end Text

/-- **No document holds a line break.** -/
theorem Document.newline_not_mem_text (document : Document) : '\n' ∉ document.text.toList :=
  (Json.unbroken_render document.toJson).newline_not_mem

/-! ## Documents in a writer -/

/-- The document was made by a flush. -/
def Delivery.OfFlush (delivery : Delivery) : Prop :=
  ∃ (emitter : Emitter) (surroundings : Surroundings),
    delivery = (emitter.flush surroundings).delivery

theorem Delivery.OfFlush.newline_not_mem {delivery : Delivery} (flushed : delivery.OfFlush) :
    '\n' ∉ delivery.capture.text.toList := by
  obtain ⟨emitter, surroundings, made⟩ := flushed
  rw [made]
  exact Document.newline_not_mem_text _

theorem OutletId.exists_of_mem_addressed {outlet : OutletId} {deliveries : List Delivery}
    {capture : Capture} (member : capture ∈ outlet.addressed deliveries) :
    ∃ delivery ∈ deliveries, delivery.capture = capture := by
  obtain ⟨delivery, listed, chosen⟩ := List.mem_filterMap.mp member
  split at chosen
  · exact ⟨delivery, listed, Option.some.inj chosen⟩
  · cases chosen

namespace Outlets

/-- A writer has got documents, each of them as a line after what it held before. -/
def GotLines (before after : Outlets) (index : Nat) (captures : List Capture) : Prop :=
  ∃ (writer later : ByteWriter) (bytes : List UInt8),
    before.installed[index]? = some (.writer writer) ∧
    after.installed[index]? = some (.writer later) ∧
    later.written = writer.written ++ bytes ∧
    Text.Lines bytes (captures.map Capture.text)

theorem gotLines_acceptAll {outlets : Outlets} {index : Nat} {writer : ByteWriter}
    (installed : outlets.installed[index]? = some (.writer writer))
    (unlimited : writer.capacity = none) {deliveries : List Delivery}
    (flushed : ∀ delivery ∈ deliveries, delivery.OfFlush) :
    outlets.GotLines (outlets.acceptAll deliveries) index
      ((OutletId.installed index).addressed deliveries) := by
  obtain ⟨later, accepted, written⟩ := Outlet.acceptAll_of_unlimited unlimited
    ((OutletId.installed index).addressed deliveries)
  refine ⟨writer, later, _, installed, ?_, written, ?_⟩
  · rw [installed_acceptAll, installed, Option.map_some, accepted]
  · rw [← List.flatMap_map]
    refine Text.lines_of_unbroken ?_
    intro text member
    obtain ⟨capture, addressed, same⟩ := List.mem_map.mp member
    obtain ⟨delivery, listed, captured⟩ := OutletId.exists_of_mem_addressed addressed
    rw [← same, ← captured]
    exact (flushed delivery listed).newline_not_mem

/-- **In a writer that takes everything the documents stand as lines, from which they can be
regained**, whichever emitters they come from and however they were flushed. -/
theorem writer_holds_lines {outlets : Outlets} {index : Nat} {writer : ByteWriter}
    (installed : outlets.installed[index]? = some (.writer writer))
    (unlimited : writer.capacity = none) :
    (∀ deliveries : List Delivery, (∀ delivery ∈ deliveries, delivery.OfFlush) →
      outlets.GotLines (outlets.acceptAll deliveries) index
        ((OutletId.installed index).addressed deliveries)) ∧
    ∀ (emitter : Emitter) (steps : List Step),
      let session : Session := ⟨emitter, outlets⟩
      outlets.GotLines (session.run steps).1.outlets index
        ((OutletId.installed index).addressed (session.deliveries steps)) := by
  refine ⟨fun deliveries flushed => gotLines_acceptAll installed unlimited flushed, ?_⟩
  intro emitter steps session
  have flushed : ∀ delivery ∈ session.deliveries steps, delivery.OfFlush := by
    intro delivery member
    obtain ⟨earlier, surroundings, _, _, made⟩ := Session.exists_flush_of_mem_deliveries member
    exact ⟨(session.run earlier).1.emitter, surroundings, made⟩
  rw [session.outlets_run]
  exact gotLines_acceptAll installed unlimited flushed

/-- Line breaks in the settings, in the namespace, in a property, deep inside its value, in a
dimension and in the name of a metric: two documents are two lines. -/
theorem writer_holds_lines_broken :
    let settings : Settings := ⟨some "check\nout", none, some "\n", none, none⟩
    let around : Surroundings :=
      ⟨⟨0⟩, fun _ => none, ⟨.endless, .error "nobody asks"⟩, .standard .unset .console⟩
    let value : Json := .object [("ro\nute", .array [.text "north\r\nsouth", .text "\x00"])]
    let steps : List Step := [.perform (.setNamespace "shop\nfloor"),
      .perform (.putProperty "no\nte" value), .perform (.putDimensions ⟨[("st\nage", "be\nta")]⟩),
      .perform (.record "wait\ntime" 1.5 none), .flush around, .flush around]
    let session : Session :=
      ⟨.new (.detecting ⟨settings, .installed 0⟩), ⟨.unlimited, [.writer .unlimited]⟩⟩
    session.outlets.installed[0]? = some (.writer .unlimited) ∧
      ByteWriter.unlimited.capacity = none ∧
      ∃ later : ByteWriter, (session.run steps).1.outlets.installed[0]? = some (.writer later) ∧
        ∀ whole, bytesOf whole = later.written →
          (List.splitOn '\n' whole.toList).length = 3 := by
  intro settings around value steps session
  have installed : session.outlets.installed[0]? = some (.writer .unlimited) := rfl
  refine ⟨installed, rfl, ?_⟩
  have addressed : ∀ delivery ∈ session.deliveries steps, delivery.outlet = .installed 0 :=
    fun _ member => Session.outlet_of_mem_deliveries rfl member
  have got : session.outlets.GotLines (session.run steps).1.outlets 0
      ((OutletId.installed 0).addressed (session.deliveries steps)) :=
    (writer_holds_lines installed rfl).2 session.emitter steps
  rw [OutletId.addressed_eq_map addressed] at got
  obtain ⟨writer, later, bytes, before, after, written, lines⟩ := got
  rw [installed] at before
  cases before
  refine ⟨later, after, ?_⟩
  intro whole same
  rw [lines.split whole (same.trans written)]
  rw [List.length_append, List.length_map, List.length_map, List.length_map,
    session.length_deliveries]
  rfl

end Outlets

end MetricEmitter
