import MetricEmitter.Emitter.Session
import MetricEmitter.Proofs.Context.Samples

/-!
# What notices are about

A flush reports in five places: when it asks for the environment, when it
installs the defaults, in the hook, when it makes the document, and when it
delivers it (`Session.notices_flush`). Each place has a topic of its own
(`Notice.Topic`): the question is about the environment, the delivery about
delivery, and so on. Operations, those of a caller as those of a hook, report
about samples and names only (`Context.topic_perform`, `Context.topic_run`). So a
notice tells by its topic where it comes from.
-/

set_option autoImplicit false

namespace MetricEmitter

/-- What a notice may be about. -/
inductive Notice.Topic where
  | samples
  | names
  | settings
  | environment
  | defaults
  | delivery
  deriving DecidableEq

/-- What a notice is about. -/
def Notice.topic : Notice → Notice.Topic
  | .sampleNotFinite .. | .seriesFull .. => .samples
  | .metricShadowed .. | .propertyShadowed .. => .names
  | .choiceIgnored .. => .settings
  | .environmentDetected .. | .environmentFailed .. | .environmentLate .. => .environment
  | .defaultsInstalled .. | .environmentDropped .. | .defaultsNotRestored .. => .defaults
  | .consoleFailed .. | .writerFailed .. => .delivery

/-! ## Operations -/

namespace Context

theorem topic_shadowNotices (context : Context) :
    ∀ notice ∈ context.shadowNotices, notice.topic = .names := by
  intro notice member
  rcases List.mem_append.mp member with metric | property
  · obtain ⟨name, _, rfl⟩ := List.mem_map.mp metric
    rfl
  · obtain ⟨name, _, rfl⟩ := List.mem_map.mp property
    rfl

/-- **An operation reports about samples and names only.** -/
theorem topic_perform (context : Context) (operation : Operation) :
    ∀ notice ∈ (context.perform operation).2.notices,
      notice.topic = .samples ∨ notice.topic = .names := by
  cases operation with
  | record metric sample unit =>
      change ∀ notice ∈ (context.record metric sample unit).2, _
      have records := context.records_record metric sample unit
      generalize context.record metric sample unit = recorded at records
      cases records with
      | notFinite endless => exact List.forall_mem_singleton.mpr (Or.inl rfl)
      | full finite noRoom => exact List.forall_mem_singleton.mpr (Or.inl rfl)
      | taken finite room => exact List.forall_mem_nil _
  | preview => exact fun notice member => Or.inr (context.topic_shadowNotices notice member)
  | putDimensions set => exact (notices_settle context _).symm ▸ List.forall_mem_nil _
  | setDimensionsOverDefaults sets => exact (notices_settle context _).symm ▸ List.forall_mem_nil _
  | setDefaultDimensions set => exact (notices_settle context _).symm ▸ List.forall_mem_nil _
  | _ => exact List.forall_mem_nil _

theorem topic_run (context : Context) (operations : List Operation) :
    ∀ notice ∈ (context.run operations).2,
      notice.topic = .samples ∨ notice.topic = .names := by
  induction operations generalizing context with
  | nil => exact List.forall_mem_nil _
  | cons operation rest ih =>
      exact List.forall_mem_append.mpr ⟨context.topic_perform operation, ih _⟩

end Context

/-! ## Flushes -/

namespace Emitter

/-- What a flush reports about the question for the environment. -/
def inquiry (emitter : Emitter) (surroundings : Surroundings) : List Notice :=
  (emitter.provider.answer surroundings).2 ++ (emitter.flush surroundings).resolution.notices

theorem topic_inquiry (emitter : Emitter) (surroundings : Surroundings) :
    ∀ notice ∈ emitter.inquiry surroundings, notice.topic = .environment := by
  have resolutions : ∀ resolution : Resolution,
      ∀ notice ∈ resolution.notices, notice.topic = .environment := by
    intro resolution
    cases resolution with
    | resolved environment => exact List.forall_mem_nil _
    | failed reason => exact List.forall_mem_singleton.mpr rfl
    | late timeout => exact List.forall_mem_singleton.mpr rfl
  have reports : ∀ detected : Except DetectionError Environment,
      ∀ notice ∈ Detector.report detected, notice.topic = .environment := by
    intro detected
    cases detected with
    | ok environment => exact List.forall_mem_singleton.mpr rfl
    | error reason => exact List.forall_mem_nil _
  refine List.forall_mem_append.mpr ⟨?_, resolutions _⟩
  unfold Provider.answer
  cases emitter.provider with
  | supplied supplier => exact List.forall_mem_nil _
  | detecting detector => exact reports _

theorem topic_installDefaults (emitter : Emitter) (environment : Environment) :
    ∀ notice ∈ (emitter.installDefaults environment).2, notice.topic = .defaults := by
  have installs := emitter.installs_installDefaults environment
  generalize emitter.installDefaults environment = installed at installs
  cases installs with
  | layered room => exact List.forall_mem_singleton.mpr rfl
  | alone reason noRoom accepts => exact List.forall_mem_singleton.mpr rfl
  | unrestored reason unrestored noRoom refuses =>
      exact List.forall_mem_cons.mpr ⟨rfl, List.forall_mem_singleton.mpr rfl⟩

end Emitter

theorem topic_complaint {notice : String → Notice}
    (delivery : ∀ reason, (notice reason).topic = .delivery) (fault : Option String) :
    ∀ reported ∈ complaint notice fault, reported.topic = .delivery := by
  cases fault with
  | none => exact List.forall_mem_nil _
  | some reason => exact List.forall_mem_singleton.mpr (delivery reason)

theorem Outlets.topic_accept (outlets : Outlets) (outlet : OutletId) (capture : Capture) :
    ∀ notice ∈ (outlets.accept outlet capture).2, notice.topic = .delivery := by
  unfold accept
  cases outlet with
  | console => exact topic_complaint (fun _ => rfl) _
  | installed index =>
      dsimp only
      split
      · exact List.forall_mem_nil _
      · rename_i outlet _
        cases outlet with
        | capture captured => exact List.forall_mem_nil _
        | writer target => exact topic_complaint (fun _ => rfl) _

/-- **The five places in which a flush reports**, in their order. -/
theorem Session.notices_flush (session : Session) (surroundings : Surroundings) :
    let flushed := session.emitter.flush surroundings
    let installed := session.emitter.installDefaults flushed.environment
    (session.flush surroundings).2.notices =
      session.emitter.inquiry surroundings ++ installed.2 ++
        (installed.1.run flushed.environment.hook).2 ++ flushed.shadowing ++
        (session.outlets.accept flushed.delivery.outlet flushed.delivery.capture).2 := by
  intro flushed installed
  rw [List.append_assoc (session.emitter.inquiry surroundings)]
  rfl

end MetricEmitter
