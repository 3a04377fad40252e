import MetricEmitter.Emitter

/-!
# Documents on their way to several outlets

Documents are delivered one after the other, each to the outlet it is addressed
to (`Outlets.acceptAll`). What one outlet makes of all of them is what it makes
of those that are addressed to it, in their order (`OutletId.addressed`): this
holds of the installed outlets (`installed_acceptAll`) and of the console
(`console_acceptAll`).

A capture keeps what is addressed to it, oldest first
(`Outlet.acceptAll_capture`). If every document is addressed to a capture, the
captures together keep each document once (`held_acceptAll`).
-/

set_option autoImplicit false

namespace MetricEmitter

/-- The documents addressed to an outlet, with their contexts, in the order of delivery. -/
def OutletId.addressed (outlet : OutletId) (deliveries : List Delivery) : List Capture :=
  deliveries.filterMap fun delivery =>
    if delivery.outlet = outlet then some delivery.capture else none

theorem OutletId.addressed_cons_self (delivery : Delivery) (rest : List Delivery) :
    delivery.outlet.addressed (delivery :: rest) =
      delivery.capture :: delivery.outlet.addressed rest := by
  rw [addressed, List.filterMap_cons, if_pos rfl]
  rfl

theorem OutletId.addressed_cons_of_ne {outlet : OutletId} {delivery : Delivery}
    (apart : delivery.outlet ≠ outlet) (rest : List Delivery) :
    outlet.addressed (delivery :: rest) = outlet.addressed rest := by
  rw [addressed, List.filterMap_cons, if_neg apart]
  rfl

theorem OutletId.addressed_eq_map {outlet : OutletId} {deliveries : List Delivery}
    (all : ∀ delivery ∈ deliveries, delivery.outlet = outlet) :
    outlet.addressed deliveries = deliveries.map Delivery.capture := by
  induction deliveries with
  | nil => rfl
  | cons delivery rest ih =>
      obtain ⟨first, others⟩ := List.forall_mem_cons.mp all
      rw [List.map_cons, ← ih others, ← first, addressed_cons_self]

theorem OutletId.addressed_eq_nil {outlet : OutletId} {deliveries : List Delivery}
    (elsewhere : ∀ delivery ∈ deliveries, delivery.outlet ≠ outlet) :
    outlet.addressed deliveries = [] := by
  induction deliveries with
  | nil => rfl
  | cons delivery rest ih =>
      obtain ⟨first, others⟩ := List.forall_mem_cons.mp elsewhere
      rw [addressed_cons_of_ne first, ih others]

namespace Outlet

def acceptAll (outlet : Outlet) (captures : List Capture) : Outlet :=
  captures.foldl (fun outlet capture => (outlet.accept capture).1) outlet

theorem acceptAll_capture (captured captures : List Capture) :
    (capture captured).acceptAll captures = capture (captured ++ captures) := by
  induction captures generalizing captured with
  | nil => rw [List.append_nil]; rfl
  | cons head rest ih =>
      rw [acceptAll, List.foldl_cons]
      change (capture (captured ++ [head])).acceptAll rest = _
      rw [ih, List.append_assoc, List.singleton_append]

def held : Outlet → List Capture
  | .capture captured => captured
  | .writer _ => []

end Outlet

namespace Outlets

/-- Delivers documents one after the other, each to its outlet. -/
def acceptAll (outlets : Outlets) (deliveries : List Delivery) : Outlets :=
  deliveries.foldl (fun outlets delivery =>
    (outlets.accept delivery.outlet delivery.capture).1) outlets

theorem acceptAll_cons (outlets : Outlets) (delivery : Delivery) (rest : List Delivery) :
    outlets.acceptAll (delivery :: rest) =
      (outlets.accept delivery.outlet delivery.capture).1.acceptAll rest := rfl

/-! ## What becomes of each outlet

A delivery reaches the outlet it is addressed to, and no other. -/

theorem installed_accept_self (outlets : Outlets) (index : Nat) (capture : Capture) :
    (outlets.accept (.installed index) capture).1.installed[index]? =
      outlets.installed[index]?.map fun installed => (installed.accept capture).1 := by
  unfold accept
  dsimp only
  cases found : outlets.installed[index]? with
  | none => exact found
  | some installed =>
      have bound : index < outlets.installed.length := (List.getElem?_eq_some_iff.mp found).1
      exact List.getElem?_set_self bound

theorem installed_accept_of_ne (outlets : Outlets) {outlet : OutletId} {index : Nat}
    (apart : outlet ≠ .installed index) (capture : Capture) :
    (outlets.accept outlet capture).1.installed[index]? = outlets.installed[index]? := by
  unfold accept
  cases outlet with
  | console => rfl
  | installed target =>
      dsimp only
      split
      · rfl
      · exact List.getElem?_set_ne fun same => apart (congrArg OutletId.installed same)

theorem console_accept_of_ne (outlets : Outlets) {outlet : OutletId}
    (apart : outlet ≠ .console) (capture : Capture) :
    (outlets.accept outlet capture).1.console = outlets.console := by
  unfold accept
  cases outlet with
  | console => exact absurd rfl apart
  | installed target =>
      dsimp only
      split <;> rfl

/-- **An installed outlet makes of all documents what it makes of those addressed to it.** -/
theorem installed_acceptAll (outlets : Outlets) (deliveries : List Delivery) (index : Nat) :
    (outlets.acceptAll deliveries).installed[index]? =
      outlets.installed[index]?.map fun installed =>
        installed.acceptAll ((OutletId.installed index).addressed deliveries) := by
  induction deliveries generalizing outlets with
  | nil => exact Option.map_id'.symm
  | cons delivery rest ih =>
      rw [acceptAll_cons, ih]
      by_cases same : delivery.outlet = .installed index
      · rw [← same, OutletId.addressed_cons_self, same, installed_accept_self, Option.map_map]
        rfl
      · rw [installed_accept_of_ne outlets same, OutletId.addressed_cons_of_ne same]

/-- **The console takes the texts of the documents addressed to it.** -/
theorem console_acceptAll (outlets : Outlets) (deliveries : List Delivery) :
    (outlets.acceptAll deliveries).console =
      (OutletId.console.addressed deliveries).foldl
        (fun console capture => (console.writeLine capture.text).1) outlets.console := by
  induction deliveries generalizing outlets with
  | nil => rfl
  | cons delivery rest ih =>
      rw [acceptAll_cons, ih]
      by_cases same : delivery.outlet = .console
      · rw [← same, OutletId.addressed_cons_self, same]
        rfl
      · rw [console_accept_of_ne outlets same, OutletId.addressed_cons_of_ne same]

/-- An outlet to which nothing is addressed stays as it was. -/
theorem installed_acceptAll_of_ne (outlets : Outlets) {deliveries : List Delivery} {index : Nat}
    (elsewhere : ∀ delivery ∈ deliveries, delivery.outlet ≠ .installed index) :
    (outlets.acceptAll deliveries).installed[index]? = outlets.installed[index]? := by
  rw [installed_acceptAll, OutletId.addressed_eq_nil elsewhere]
  exact Option.map_id'

theorem console_acceptAll_of_ne (outlets : Outlets) {deliveries : List Delivery}
    (elsewhere : ∀ delivery ∈ deliveries, delivery.outlet ≠ .console) :
    (outlets.acceptAll deliveries).console = outlets.console := by
  rw [console_acceptAll, OutletId.addressed_eq_nil elsewhere]
  rfl

/-! ## What the captures keep together -/

/-- The outlet is an installed capture. -/
def Captures (outlets : Outlets) (outlet : OutletId) : Prop :=
  ∃ index captured, outlet = .installed index ∧
    outlets.installed[index]? = some (.capture captured)

theorem captures_acceptAll {outlets : Outlets} {outlet : OutletId}
    (isCapture : outlets.Captures outlet) (deliveries : List Delivery) :
    (outlets.acceptAll deliveries).Captures outlet := by
  obtain ⟨index, captured, same, found⟩ := isCapture
  refine ⟨index, captured ++ (OutletId.installed index).addressed deliveries, same, ?_⟩
  rw [installed_acceptAll, found, Option.map_some, Outlet.acceptAll_capture]

/-- The documents kept by all captures, one capture after the other. -/
def held (outlets : Outlets) : List Capture :=
  outlets.installed.flatMap Outlet.held

/-- One more document in one of several captures is one more document in all of them. -/
theorem flatMap_held_set {installed : List Outlet} {index : Nat} {captured : List Capture}
    (found : installed[index]? = some (.capture captured)) (capture : Capture) :
    ((installed.set index (.capture (captured ++ [capture]))).flatMap Outlet.held).Perm
      (capture :: installed.flatMap Outlet.held) := by
  induction installed generalizing index with
  | nil => cases found
  | cons head rest ih =>
      cases index with
      | zero =>
          rw [List.getElem?_cons_zero, Option.some.injEq] at found
          subst found
          rw [List.set_cons_zero, List.flatMap_cons, List.flatMap_cons]
          exact List.Perm.append_right _ (List.perm_append_singleton capture captured)
      | succ index =>
          rw [List.getElem?_cons_succ] at found
          rw [List.set_cons_succ, List.flatMap_cons, List.flatMap_cons]
          exact ((ih found).append_left head.held).trans List.perm_middle

/-- **Documents addressed to captures are kept, each of them once.** -/
theorem held_acceptAll {outlets : Outlets} {deliveries : List Delivery}
    (captures : ∀ delivery ∈ deliveries, outlets.Captures delivery.outlet) :
    (outlets.acceptAll deliveries).held.Perm (outlets.held ++ deliveries.map Delivery.capture) := by
  induction deliveries generalizing outlets with
  | nil => rw [List.map_nil, List.append_nil]; rfl
  | cons delivery rest ih =>
      obtain ⟨first, others⟩ := List.forall_mem_cons.mp captures
      have remain : ∀ later ∈ rest,
          (outlets.accept delivery.outlet delivery.capture).1.Captures later.outlet :=
        fun later member => captures_acceptAll (others later member) [delivery]
      obtain ⟨index, captured, same, found⟩ := first
      have step : (outlets.accept delivery.outlet delivery.capture).1.held.Perm
          (delivery.capture :: outlets.held) := by
        rw [same, accept]
        dsimp only
        rw [found]
        exact flatMap_held_set found delivery.capture
      rw [acceptAll_cons, List.map_cons]
      exact ((ih remain).trans (step.append_right _)).trans List.perm_middle.symm

end Outlets

end MetricEmitter
