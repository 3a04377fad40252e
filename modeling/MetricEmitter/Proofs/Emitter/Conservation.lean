import MetricEmitter.Proofs.Context.Conservation
import MetricEmitter.Proofs.Emitter.Delivery
import MetricEmitter.Proofs.Emitter.Topics

/-!
# Nothing is lost without a notice

Along a run, samples are offered by the operations of the caller and by those of
the hooks (`Session.operations`). A step keeps the balance (`Session.balances_step`):
what was held and offered stands in a document, is still held, was reported as
dropped, or belongs to a metric that the flush reported as shadowed. Balances of
two stretches of a run add up, and so every run is balanced
(`Session.balances_run`).

`Session.loses_nothing` puts this together with the fate of the properties: at
every flush, each of them is either written with its value or reported once.
-/

set_option autoImplicit false

namespace MetricEmitter

/-! ## What a run offers and writes -/

/-- The operations that a step does on the context: that of the caller, or those of the environment
a flush uses. -/
def Emitter.operations (emitter : Emitter) : Step → List Operation
  | .perform operation => [operation]
  | .flush surroundings => (emitter.flush surroundings).environment.hook
  | _ => []

/-- The document of a flush, at the time its context was given. -/
def Flushed.document (flushed : Flushed) : Document :=
  flushed.delivery.capture.context.document
    (flushed.delivery.capture.context.timestamp.getD default)

/-- The text that a flush hands over is that of its document. -/
theorem Emitter.text_document_flush (emitter : Emitter) (surroundings : Surroundings) :
    (emitter.flush surroundings).delivery.capture.text =
      (emitter.flush surroundings).document.text :=
  (emitter.completes_flush surroundings).text _

/-- The samples of the metrics that a flush reports as shadowed. -/
def Flushed.shadowed (flushed : Flushed) : List Measurement :=
  flushed.delivery.capture.context.reportedMeasurements flushed.shadowing

namespace Session

variable {session : Session}

/-- The operations done in a run, those of the hooks included. -/
def operations (session : Session) : List Step → List Operation
  | [] => []
  | step :: rest => session.emitter.operations step ++ (session.step step).1.operations rest

/-- The samples offered in a run. -/
def offered (session : Session) (steps : List Step) : List Measurement :=
  (session.operations steps).flatMap Operation.offered

/-- What the flushes of a run have brought about. -/
def flushes (session : Session) (steps : List Step) : List Flushed :=
  (session.run steps).2.filterMap StepReply.flushed

/-- Everything reported in a run. -/
def notices (session : Session) (steps : List Step) : List Notice :=
  (session.run steps).2.flatMap StepReply.notices

/-- The samples stated by the documents of a run. -/
def written (session : Session) (steps : List Step) : List Measurement :=
  (session.flushes steps).flatMap fun flushed => flushed.document.stated

/-- The samples of the metrics that the flushes of a run report as shadowed. -/
def shadowed (session : Session) (steps : List Step) : List Measurement :=
  (session.flushes steps).flatMap Flushed.shadowed

/-- The balance of a run: the samples held at first and those offered are the samples that were
written, those held now, those that were dropped, and those of shadowed metrics. -/
def Balances (session : Session) (steps : List Step) : Prop :=
  ∃ dropped : List Measurement,
    (session.notices steps).filter Notice.dropsSample = dropped.map Measurement.dropNotice ∧
      session.emitter.context.held + session.offered steps =
        ↑(session.written steps) + (session.run steps).1.emitter.context.held + ↑dropped +
          ↑(session.shadowed steps)

/-! ## Runs in two stretches -/

theorem operations_append (session : Session) (earlier later : List Step) :
    session.operations (earlier ++ later) =
      session.operations earlier ++ (session.run earlier).1.operations later := by
  induction earlier generalizing session with
  | nil => rfl
  | cons step rest ih =>
      rw [List.cons_append, operations, ih, ← List.append_assoc]
      rfl

theorem flushes_append (session : Session) (earlier later : List Step) :
    session.flushes (earlier ++ later) =
      session.flushes earlier ++ (session.run earlier).1.flushes later := by
  rw [flushes, run_append, List.filterMap_append]
  rfl

theorem notices_append (session : Session) (earlier later : List Step) :
    session.notices (earlier ++ later) =
      session.notices earlier ++ (session.run earlier).1.notices later := by
  rw [notices, run_append, List.flatMap_append]
  rfl

/-- **The balances of two stretches of a run add up.** -/
theorem Balances.append {earlier later : List Step} (first : session.Balances earlier)
    (second : (session.run earlier).1.Balances later) : session.Balances (earlier ++ later) := by
  obtain ⟨dropped, reported, balance⟩ := first
  obtain ⟨droppedLater, reportedLater, balanceLater⟩ := second
  refine ⟨dropped ++ droppedLater, ?_, ?_⟩
  · rw [notices_append, List.filter_append, reported, reportedLater, List.map_append]
  · have offers : session.offered (earlier ++ later) =
        session.offered earlier ++ (session.run earlier).1.offered later := by
      rw [offered, operations_append, List.flatMap_append]
      rfl
    have writes : session.written (earlier ++ later) =
        session.written earlier ++ (session.run earlier).1.written later := by
      rw [written, flushes_append, List.flatMap_append]
      rfl
    have shadows : session.shadowed (earlier ++ later) =
        session.shadowed earlier ++ (session.run earlier).1.shadowed later := by
      rw [shadowed, flushes_append, List.flatMap_append]
      rfl
    rw [offers, writes, shadows, run_append]
    simp only [← Multiset.coe_add]
    calc session.emitter.context.held +
          (↑(session.offered earlier) + ↑((session.run earlier).1.offered later))
        = ↑(session.written earlier) + ((session.run earlier).1.emitter.context.held +
            ↑((session.run earlier).1.offered later)) + ↑dropped +
            ↑(session.shadowed earlier) := by
          rw [← add_assoc, balance]
          abel
      _ = _ := by
          rw [balanceLater]
          abel

end Session

/-! ## Notices about something else -/

/-- The notice is about neither dropped samples nor shadowed names. -/
def Notice.IsAside (notice : Notice) : Prop :=
  notice.dropsSample = false ∧ notice.reportsShadow = false

theorem Notice.filter_of_aside {notices : List Notice} {condition : Notice → Bool}
    (aside : ∀ notice ∈ notices, notice.IsAside)
    (covered : ∀ notice, notice.IsAside → condition notice = false) :
    notices.filter condition = [] := by
  rw [List.filter_eq_nil_iff]
  intro notice member chosen
  exact Bool.false_ne_true ((covered notice (aside notice member)).symm.trans chosen)

theorem Notice.isAside_of_topic {notice : Notice}
    (apart : notice.topic ≠ .samples ∧ notice.topic ≠ .names) : notice.IsAside := by
  cases notice with
  | sampleNotFinite metric sample => exact absurd rfl apart.1
  | seriesFull sample => exact absurd rfl apart.1
  | metricShadowed metric => exact absurd rfl apart.2
  | propertyShadowed property => exact absurd rfl apart.2
  | _ => exact ⟨rfl, rfl⟩

/-- Notices about one topic are about something else, unless that topic is samples or names. -/
theorem Notice.aside_of_topic {notices : List Notice} {topic : Notice.Topic}
    (about : ∀ notice ∈ notices, notice.topic = topic)
    (apart : topic ≠ .samples ∧ topic ≠ .names) : ∀ notice ∈ notices, notice.IsAside :=
  fun notice member => isAside_of_topic ((about notice member).symm ▸ apart)

/-- **What a flush reports about samples and names**: what its hook reports, and the names that are
shadowed in its document. -/
theorem Session.filter_notices_flush (session : Session) (surroundings : Surroundings)
    {condition : Notice → Bool} (covered : ∀ notice, notice.IsAside → condition notice = false) :
    let environment := (session.emitter.flush surroundings).environment
    (session.flush surroundings).2.notices.filter condition =
      ((session.emitter.installDefaults environment).1.run environment.hook).2.filter condition ++
        (session.emitter.flush surroundings).shadowing.filter condition := by
  intro environment
  have inquiry := Notice.filter_of_aside (Notice.aside_of_topic
    (session.emitter.topic_inquiry surroundings) (by decide)) covered
  have installed := Notice.filter_of_aside (Notice.aside_of_topic
    (session.emitter.topic_installDefaults (session.emitter.flush surroundings).environment)
    (by decide)) covered
  have delivery := Notice.filter_of_aside (Notice.aside_of_topic
    (session.outlets.topic_accept (session.emitter.flush surroundings).delivery.outlet
      (session.emitter.flush surroundings).delivery.capture) (by decide)) covered
  rw [session.notices_flush surroundings]
  simp only [List.filter_append, inquiry, installed, delivery, List.nil_append, List.append_nil]
  rfl

/-! ## The balance of one step -/

/-- **What is held when a flush begins, and what its hook offers, is held by the context the
document is made from, or was dropped.** -/
theorem Emitter.conserves_flush (emitter : Emitter) (surroundings : Surroundings) :
    let environment := (emitter.flush surroundings).environment
    emitter.context.Conserves (emitter.flush surroundings).delivery.capture.context
      (environment.hook.flatMap Operation.offered)
      ((emitter.installDefaults environment).1.run environment.hook).2 := by
  intro environment
  obtain ⟨defaults, same⟩ := emitter.installDefaults_eq_contextOver environment
  have metrics : (emitter.installDefaults environment).1.metrics = emitter.context.metrics := by
    rw [same]
    rfl
  have installed : emitter.context.Conserves (emitter.installDefaults environment).1 [] [] :=
    .of_metrics_eq metrics rfl
  exact installed.trans ((emitter.installDefaults environment).1.conserves_run environment.hook)

namespace Session

variable {session : Session}

/-- A step that is no flush keeps the balance if what it offers is held or reported as dropped. -/
theorem Balances.of_conserves {step : Step} (quiet : (session.step step).2.flushed = none)
    (conserves : session.emitter.context.Conserves (session.step step).1.emitter.context
      ((session.emitter.operations step).flatMap Operation.offered)
      (session.step step).2.notices) : session.Balances [step] := by
  obtain ⟨dropped, reported, balance⟩ := conserves
  have none : session.flushes [step] = [] := by
    rw [flushes, run, run, List.filterMap_cons_none quiet, List.filterMap_nil]
  refine ⟨dropped, ?_, ?_⟩
  · rw [notices, run, run, List.flatMap_cons, List.flatMap_nil, List.append_nil]
    exact reported
  · rw [written, shadowed, none, offered, operations, operations, List.append_nil, balance,
      List.flatMap_nil, List.flatMap_nil]
    simp only [Multiset.coe_nil, zero_add, add_zero]
    rfl

/-- **A flush keeps the balance**: what it held is written or belongs to shadowed metrics. -/
theorem balances_flush (measured : session.emitter.context.Measured)
    (surroundings : Surroundings) : session.Balances [.flush surroundings] := by
  obtain ⟨dropped, reported, balance⟩ := session.emitter.conserves_flush surroundings
  have notices : session.notices [.flush surroundings] = (session.flush surroundings).2.notices :=
    List.append_nil _
  refine ⟨dropped, ?_, ?_⟩
  · rw [notices, session.filter_notices_flush surroundings fun _ aside => aside.1, reported]
    have silent : (session.emitter.flush surroundings).shadowing.filter Notice.dropsSample = [] :=
      Context.filter_dropsSample_shadowNotices _
    rw [silent, List.append_nil]
  · have written : session.written [.flush surroundings] = Table.measurements
        (session.emitter.flush surroundings).delivery.capture.context.writtenMetrics := by
      rw [← (measured.delivered surroundings).stated_document]
      exact List.append_nil _
    have shadowed : session.shadowed [.flush surroundings] = Table.measurements
        (session.emitter.flush surroundings).delivery.capture.context.shadowedMetrics := by
      rw [← Context.reportedMeasurements_shadowNotices]
      exact List.append_nil _
    have offered : session.offered [.flush surroundings] =
        (session.emitter.flush surroundings).environment.hook.flatMap Operation.offered :=
      congrArg (List.flatMap Operation.offered) (List.append_nil _)
    have gone : (session.run [.flush surroundings]).1.emitter.context.held = 0 :=
      Context.held_of_empty rfl
    rw [offered, balance, written, shadowed, gone, add_zero, Context.held_eq]
    abel

/-- **Every step keeps the balance.** -/
theorem balances_step (measured : session.emitter.context.Measured) (step : Step) :
    session.Balances [step] := by
  cases step with
  | flush surroundings => exact balances_flush measured surroundings
  | keepDimensions keep => exact .of_conserves rfl (.of_metrics_eq rfl rfl)
  | setTimeout timeout => exact .of_conserves rfl (.of_metrics_eq rfl rfl)
  | perform operation =>
      refine .of_conserves rfl ?_
      change session.emitter.context.Conserves _ ([operation].flatMap Operation.offered) _
      rw [List.flatMap_singleton]
      exact session.emitter.context.conserves_perform operation

theorem measured_step (measured : session.emitter.context.Measured) (step : Step) :
    (session.step step).1.emitter.context.Measured := by
  cases step with
  | flush surroundings => exact .of_empty rfl
  | keepDimensions keep => exact measured
  | setTimeout timeout => exact measured
  | perform operation => exact measured.perform operation

/-- **Every run is balanced.** -/
theorem balances_run (measured : session.emitter.context.Measured) (steps : List Step) :
    session.Balances steps := by
  induction steps generalizing session with
  | nil => exact ⟨[], rfl, by simp [offered, operations, written, shadowed, flushes, run]⟩
  | cons step rest ih =>
      exact (balances_step measured step).append (ih (measured_step measured step))

/-! ## Samples and properties of a run -/

/-- In a balanced run the samples can be counted. -/
theorem Balances.counted {steps : List Step} (balances : session.Balances steps) :
    session.emitter.context.held.card + (session.offered steps).length =
      (session.written steps).length + (session.run steps).1.emitter.context.held.card +
        (session.notices steps).countP Notice.dropsSample + (session.shadowed steps).length := by
  obtain ⟨dropped, reported, balance⟩ := balances
  have number : (session.notices steps).countP Notice.dropsSample = dropped.length := by
    rw [List.countP_eq_length_filter, reported, List.length_map]
  have cards := congrArg Multiset.card balance
  simp only [Multiset.card_add, Multiset.coe_card] at cards
  rw [number, cards]

/-- What becomes of the samples and properties of a run. -/
structure LosesNothing (session : Session) (steps : List Step) : Prop where
  /-- Every sample is written, held, reported as dropped, or of a metric reported as shadowed. -/
  samples : session.Balances steps
  /-- The same in numbers. -/
  counted : session.emitter.context.held.card + (session.offered steps).length =
    (session.written steps).length + (session.run steps).1.emitter.context.held.card +
      (session.notices steps).countP Notice.dropsSample + (session.shadowed steps).length
  /-- What is written stands in the texts that are delivered. -/
  texts : (session.flushes steps).map (fun flushed => flushed.document.text) =
    (session.deliveries steps).map fun delivery => delivery.capture.text
  /-- Every property is written with its value and not reported, or left out and reported once. -/
  properties : ∀ earlier surroundings later, steps = earlier ++ .flush surroundings :: later →
    let flushed := (session.run earlier).1.emitter.flush surroundings
    ∀ name value, flushed.delivery.capture.context.properties.get? name = some value →
      ((name, value) ∈ flushed.document.properties.entries ∧
          (name, value) ∈ flushed.document.members ∧
          flushed.shadowing.count (.propertyShadowed name) = 0) ∨
        (name ∉ flushed.document.properties.names ∧
          flushed.shadowing.count (.propertyShadowed name) = 1)
  /-- Shadowed names are reported when the document is made, and otherwise only by a hook that
  previews it. -/
  reports : ∀ earlier surroundings later, steps = earlier ++ .flush surroundings :: later →
    let reached := (session.run earlier).1
    let flushed := reached.emitter.flush surroundings
    (∀ operation ∈ flushed.environment.hook, operation ≠ .preview) →
      (reached.flush surroundings).2.notices.filter Notice.reportsShadow = flushed.shadowing

theorem texts_flushes (session : Session) (steps : List Step) :
    (session.flushes steps).map (fun flushed => flushed.document.text) =
      (session.deliveries steps).map fun delivery => delivery.capture.text := by
  induction steps generalizing session with
  | nil => rfl
  | cons step rest ih =>
      cases step with
      | flush surroundings =>
          rw [deliveries_flush, List.map_cons, ← ih]
          exact congrArg (· :: _) (session.emitter.text_document_flush surroundings).symm
      | perform operation => exact ih _
      | keepDimensions keep => exact ih _
      | setTimeout timeout => exact ih _

/-- **No run loses a sample or a property without a notice.** -/
theorem loses_nothing {session : Session} (reachable : session.emitter.context.Reachable)
    (steps : List Step) : session.LosesNothing steps := by
  have balances := balances_run reachable.measured steps
  refine ⟨balances, balances.counted, session.texts_flushes steps, ?_, ?_⟩
  · intro earlier surroundings later _ flushed name value stored
    have fate := Context.property_written_or_reported stored
    rcases fate with ⟨written, unreported⟩ | ⟨left, reported⟩
    · refine Or.inl ⟨written, ?_, unreported⟩
      exact List.mem_append_left _ (List.mem_append_right _ written)
    · exact Or.inr ⟨left, reported⟩
  · intro earlier surroundings later _ reached flushed unseen
    rw [reached.filter_notices_flush surroundings fun _ aside => aside.2,
      Context.filter_reportsShadow_run _ unseen, List.nil_append]
    exact Context.filter_reportsShadow_shadowNotices _

/-- A metric that gets the name of a dimension, and a hook that offers an infinite sample: of six
samples three are written, one is held, one was dropped and one is of the shadowed metric. -/
theorem loses_nothing_shadowed :
    let environment : Environment :=
      ⟨none, some "checkout", none, [.record "Rate" (1 / 0) none, .record "Visits" 1 none],
        .installed 0⟩
    let surroundings : Surroundings :=
      ⟨⟨0⟩, fun _ => none, ⟨.atOnce, .ok environment⟩, environment⟩
    let started : List Operation := [.record "Latency" 1.5 none, .record "ServiceName" 2 none]
    let start : Context := (Context.new.run started).1
    let session : Session := ⟨.ofContext (.supplied 0) start, ⟨.unlimited, [.capture []]⟩⟩
    let steps : List Step := [.perform (.record "Latency" 2.5 none), .flush surroundings,
      .perform (.record "Latency" 3 none)]
    session.emitter.context.held.card = 2 ∧ (session.offered steps).length = 4 ∧
      (session.written steps).length = 3 ∧
      (session.run steps).1.emitter.context.held.card = 1 ∧
      (session.notices steps).countP Notice.dropsSample = 1 ∧
      (session.shadowed steps).length = 1 := by
  intro environment surroundings started start session steps
  have idle : ∀ set ∈ started.flatMap Operation.sets, set.Constructible := List.forall_mem_nil _
  have new : Context.new.Reachable := .ofDefaults .empty
  have begun : start.Reachable := new.run fun operation member set given =>
    idle set (List.mem_flatMap.mpr ⟨operation, member, given⟩)
  have reachable : session.emitter.context.Reachable :=
    (Emitter.Made.ofContext (.supplied 0) begun).grounded.1.context
  have counted := (loses_nothing reachable steps).counted
  have before : session.emitter.context.held.card = 2 := by decide +kernel
  have offered : (session.offered steps).length = 4 := by decide +kernel
  have after : (session.run steps).1.emitter.context.held.card = 1 := by decide +kernel
  have dropped : (session.notices steps).countP Notice.dropsSample = 1 := by decide +kernel
  have shadowed : (session.shadowed steps).length = 1 := by decide +kernel
  exact ⟨before, offered, by omega, after, dropped, shadowed⟩

end Session

end MetricEmitter
