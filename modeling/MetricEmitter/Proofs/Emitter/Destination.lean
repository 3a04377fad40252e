import MetricEmitter.Proofs.Emitter.Delivery
import MetricEmitter.Proofs.Emitter.Preparation
import MetricEmitter.Proofs.Environment.Detection

/-!
# An outlet that is given gets every document

An emitter that is built with an outlet detects its environments, and the
detector has this outlet (`Setup.provider_of_build`). The environment is detected
anew at each flush, from the variables the process then has, and however it is
found its outlet is the one given (`Detector.Yields.outlet_eq`).

So in every run each flush delivers one document to this outlet and no other
outlet gets any (`Setup.documents_reach_outlet`). The type of the environment
used is that of a Lambda function if the process then serves one and the settings
admit that it is recognised, and otherwise the one the settings describe.
-/

set_option autoImplicit false

namespace MetricEmitter

theorem Setup.provider_of_build {setup : Setup} {emitter : Emitter} {outlet : OutletId}
    (given : setup.outlet = some outlet) (built : setup.build = .ok emitter) :
    emitter.provider = .detecting ⟨setup.settings, outlet⟩ := by
  unfold build provider at built
  rw [given] at built
  cases asked : DimensionSet.ofPairs setup.defaults with
  | error reason =>
      rw [asked] at built
      cases built
  | ok defaults =>
      rw [asked] at built
      cases supplies : setup.supplier with
      | some supplier =>
          rw [supplies] at built
          cases built
      | none =>
          rw [supplies] at built
          cases built
          rfl

namespace Session

/-- The flushes of a run deliver to one outlet, and their environments are found by the settings. -/
structure DeliversTo (session : Session) (settings : Settings) (outlet : OutletId)
    (steps : List Step) : Prop where
  /-- Each flush delivers one document, which is for the outlet, after those of the flushes before
  it and before those of the flushes after it. -/
  each : ∀ earlier surroundings later, steps = earlier ++ .flush surroundings :: later →
    let reached := (session.run earlier).1
    let flushed := reached.emitter.flush surroundings
    flushed.environment.TypedBy settings surroundings.process ∧
      flushed.delivery.outlet = outlet ∧
      session.deliveries steps = session.deliveries earlier ++
        flushed.delivery :: (reached.flush surroundings).1.deliveries later
  onlyFlushes : (session.deliveries steps).length = steps.countP Step.isFlush
  /-- An installed outlet takes the documents of all flushes in their order. -/
  installed : ∀ index : Nat, outlet = .installed index →
    (session.run steps).1.outlets.installed[index]? =
      session.outlets.installed[index]?.map fun installed =>
        installed.acceptAll ((session.deliveries steps).map Delivery.capture)
  captured : ∀ (index : Nat) (captured : List Capture), outlet = .installed index →
    session.outlets.installed[index]? = some (.capture captured) →
    (session.run steps).1.outlets.installed[index]? =
      some (.capture (captured ++ (session.deliveries steps).map Delivery.capture))
  console : outlet = .console →
    (session.run steps).1.outlets.console =
      ((session.deliveries steps).map Delivery.capture).foldl
        (fun console capture => (console.writeLine capture.text).1) session.outlets.console
  /-- The other outlets are as they were. -/
  otherInstalled : ∀ index : Nat, outlet ≠ .installed index →
    (session.run steps).1.outlets.installed[index]? = session.outlets.installed[index]?
  otherConsole : outlet ≠ .console →
    (session.run steps).1.outlets.console = session.outlets.console

variable {session : Session} {settings : Settings} {outlet : OutletId}

/-- A flush uses one of the two environments its detector can lead to. -/
theorem yields_environment_flush
    (detecting : session.emitter.provider = .detecting ⟨settings, outlet⟩) (earlier : List Step)
    (surroundings : Surroundings) :
    Detector.Yields ⟨settings, outlet⟩ surroundings.process
      ((session.run earlier).1.emitter.flush surroundings).environment := by
  have still := (session.provider_run earlier).trans detecting
  rw [Emitter.environment_flush_of_detecting still]
  exact Detector.yields_detect _ _

theorem outlet_of_mem_deliveries
    (detecting : session.emitter.provider = .detecting ⟨settings, outlet⟩) {steps : List Step}
    {delivery : Delivery} (member : delivery ∈ session.deliveries steps) :
    delivery.outlet = outlet := by
  obtain ⟨earlier, surroundings, _, _, made⟩ := exists_flush_of_mem_deliveries member
  rw [made, Emitter.delivery_flush]
  exact (yields_environment_flush detecting earlier surroundings).outlet_eq

/-- **An emitter that detects its environments for an outlet delivers everything there.** -/
theorem deliversTo_of_detecting
    (detecting : session.emitter.provider = .detecting ⟨settings, outlet⟩) (steps : List Step) :
    session.DeliversTo settings outlet steps := by
  have all : ∀ delivery ∈ session.deliveries steps, delivery.outlet = outlet :=
    fun _ member => outlet_of_mem_deliveries detecting member
  have addressed := OutletId.addressed_eq_map all
  have elsewhere {other : OutletId} (apart : outlet ≠ other) :
      ∀ delivery ∈ session.deliveries steps, delivery.outlet ≠ other := by
    intro delivery member
    rw [all delivery member]
    exact apart
  have installed (index : Nat) (here : outlet = .installed index) :
      (session.run steps).1.outlets.installed[index]? =
        session.outlets.installed[index]?.map fun installed =>
          installed.acceptAll ((session.deliveries steps).map Delivery.capture) := by
    rw [outlets_run, Outlets.installed_acceptAll, ← here, addressed]
  exact {
    each := by
      intro earlier surroundings later parts reached flushed
      have yields := yields_environment_flush detecting earlier surroundings
      refine ⟨yields.typedBy, yields.outlet_eq, ?_⟩
      rw [parts, deliveries_append, deliveries_flush]
    onlyFlushes := session.length_deliveries steps
    installed := installed
    captured := by
      intro index captured here found
      rw [installed index here, found, Option.map_some, Outlet.acceptAll_capture]
    console := by
      intro here
      rw [outlets_run, Outlets.console_acceptAll, ← here, addressed]
    otherInstalled := by
      intro index apart
      rw [outlets_run, Outlets.installed_acceptAll_of_ne _ (elsewhere apart)]
    otherConsole := by
      intro apart
      rw [outlets_run, Outlets.console_acceptAll_of_ne _ (elsewhere apart)] }

end Session

/-- **An emitter that is built with an outlet delivers one document for each flush to this outlet,
and none to any other**, whatever environments it finds. -/
theorem Setup.documents_reach_outlet {setup : Setup} {emitter : Emitter} {outlet : OutletId}
    (given : setup.outlet = some outlet) (built : setup.build = .ok emitter) (outlets : Outlets)
    (steps : List Step) :
    (⟨emitter, outlets⟩ : Session).DeliversTo setup.settings outlet steps :=
  Session.deliversTo_of_detecting (Setup.provider_of_build given built) steps

/-- A function that is forced, with no time to wait: the first process serves none, the second does,
and the third has an empty name. The outlet given gets the three documents, and neither the other
outlet nor the console gets any. -/
theorem Setup.documents_reach_outlet_forced :
    let setup := Setup.new.calls [.outlet (.installed 1), .choice .lambda, .timeout (.ofSeconds 0)]
    let around (name : Option String) : Surroundings :=
      ⟨⟨0⟩, fun asked => if asked = "AWS_LAMBDA_FUNCTION_NAME" then name else none,
        ⟨.endless, .error "nobody asks"⟩, .standard .unset .console⟩
    let steps := [none, some "resize", some ""].map fun name => Step.flush (around name)
    setup.outlet = some (.installed 1) ∧ ∃ emitter, setup.build = .ok emitter ∧
      let session : Session := ⟨emitter, ⟨.unlimited, [.capture [], .capture []]⟩⟩
      ((session.run steps).2.map fun reply =>
          reply.flushed.bind fun flushed => flushed.environment.serviceType) =
        [some "Unknown", some "AWS::Lambda::Function", some "Unknown"] ∧
      (session.run steps).1.outlets.installed[0]?.map (fun kept => kept.held.length) = some 0 ∧
      (session.run steps).1.outlets.installed[1]?.map (fun kept => kept.held.length) = some 3 ∧
      (session.run steps).1.outlets.console = .unlimited := by
  intro setup around steps
  refine ⟨rfl, _, rfl, ?_⟩
  intro session
  have delivers : session.DeliversTo setup.settings (.installed 1) steps :=
    documents_reach_outlet rfl rfl session.outlets steps
  refine ⟨by decide +kernel, ?_, ?_, delivers.otherConsole (by decide)⟩
  · rw [delivers.otherInstalled 0 (by decide)]
    rfl
  · rw [delivers.captured 1 [] rfl rfl, Option.map_some, Outlet.held, List.nil_append,
      List.length_map, delivers.onlyFlushes]
    rfl

end MetricEmitter
