import MetricEmitter.Environment.Detector

/-!
# Which environment is detected

A process serves a Lambda function if its variables name one (`Lambda.Serves`),
and settings admit that this is recognised if they force no environment or just
this one (`Settings.AdmitsLambda`).

There are several ways to an environment: one is forced, one is recognised, or
the detector fails and what it falls back on is used. All of them lead to one of
two environments (`Detector.Yields`): that of the function, if the process serves
one and the settings admit it, and otherwise the one the settings describe
(`Detector.yields_detect`). Both have the outlet of the detector, and the type
says which of them it is (`Environment.TypedBy`).
-/

set_option autoImplicit false

namespace MetricEmitter

/-! ## Processes that serve a function -/

/-- The variables of the process name a Lambda function. -/
def Lambda.Serves (process : Variables) : Prop :=
  ∃ name, process "AWS_LAMBDA_FUNCTION_NAME" = some name ∧ name ≠ ""

theorem Lambda.nonEmpty_eq_some_iff (process : Variables) (name text : String) :
    nonEmpty process name = some text ↔ process name = some text ∧ text ≠ "" := by
  simp [nonEmpty, Option.filter_eq_some_iff]

theorem Lambda.serves_iff (process : Variables) :
    Serves process ↔ ∃ lambda, detect process = some lambda := by
  constructor
  · rintro ⟨name, named⟩
    have found := (nonEmpty_eq_some_iff process "AWS_LAMBDA_FUNCTION_NAME" name).mpr named
    rw [detect, found]
    exact ⟨_, rfl⟩
  · rintro ⟨lambda, detected⟩
    obtain ⟨name, found, -⟩ := Option.map_eq_some_iff.mp detected
    exact ⟨name, (nonEmpty_eq_some_iff process "AWS_LAMBDA_FUNCTION_NAME" name).mp found⟩

/-- The settings force no environment, or that of a Lambda function. -/
def Settings.AdmitsLambda (settings : Settings) : Prop :=
  settings.choice = none ∨ settings.choice = some .lambda

/-- The type of the environment that the settings describe, if they name none. -/
def Settings.usualType (settings : Settings) : String :=
  if settings.choice = some .workstation then "Local" else "Unknown"

/-! ## The ways to an environment -/

namespace Detector

/-- The two environments a detection leads to, and when it leads to which. -/
inductive Yields (detector : Detector) (process : Variables) : Environment → Prop where
  | recognised {lambda : Lambda} (admits : detector.settings.AdmitsLambda)
      (serves : Lambda.detect process = some lambda) :
      Yields detector process (lambda.environment detector.outlet)
  | described (otherwise : ¬(detector.settings.AdmitsLambda ∧ Lambda.Serves process)) :
      Yields detector process
        (.described detector.settings detector.settings.usualType detector.outlet)

theorem yields_of_not_admits {detector : Detector} {choice : Choice} {usualType : String}
    (forced : detector.settings.choice = some choice) (other : choice ≠ .lambda)
    (usual : detector.settings.usualType = usualType) (process : Variables) :
    detector.Yields process (.described detector.settings usualType detector.outlet) := by
  rw [← usual]
  refine .described ?_
  rintro ⟨unforced | lambda, -⟩
  · rw [forced] at unforced
    cases unforced
  · rw [forced, Option.some.injEq] at lambda
    exact other lambda

theorem yields_of_not_serves {detector : Detector} {process : Variables}
    (apart : detector.settings.choice ≠ some .workstation)
    (missing : Lambda.detect process = none) :
    detector.Yields process detector.fallback := by
  have usual : detector.settings.usualType = "Unknown" := if_neg apart
  have otherwise : ¬(detector.settings.AdmitsLambda ∧ Lambda.Serves process) := by
    rintro ⟨-, serves⟩
    obtain ⟨lambda, detected⟩ := (Lambda.serves_iff process).mp serves
    rw [missing] at detected
    cases detected
  have described := Yields.described otherwise
  rwa [usual] at described

/-- **What is found, or else fallen back on, is the environment of the function the process serves
if the settings admit it, and otherwise the one they describe.** -/
theorem yields_detect (detector : Detector) (process : Variables) :
    detector.Yields process ((detector.detect process).toOption.getD detector.fallback) := by
  unfold detect lambda?
  cases choice : detector.settings.choice with
  | none =>
      cases detected : Lambda.detect process with
      | some lambda => exact .recognised (.inl choice) detected
      | none => exact yields_of_not_serves (by rw [choice]; decide) detected
  | some forced =>
      cases forced with
      | lambda =>
          cases detected : Lambda.detect process with
          | some lambda => exact .recognised (.inr choice) detected
          | none => exact yields_of_not_serves (by rw [choice]; decide) detected
      | workstation => exact yields_of_not_admits choice (by decide) (if_pos choice) process
      | standard =>
          refine yields_of_not_admits choice (by decide) (if_neg ?_) process
          rw [choice]
          decide

theorem Yields.outlet_eq {detector : Detector} {process : Variables} {environment : Environment}
    (yields : detector.Yields process environment) : environment.outlet = detector.outlet := by
  cases yields <;> rfl

end Detector

/-! ## The type of the environment -/

/-- The type of an environment is what settings and process say it is. -/
structure Environment.TypedBy (environment : Environment) (settings : Settings)
    (process : Variables) : Prop where
  recognised : settings.AdmitsLambda → Lambda.Serves process →
    environment.serviceType = some "AWS::Lambda::Function"
  otherwise : ¬(settings.AdmitsLambda ∧ Lambda.Serves process) →
    environment.serviceType = some (settings.serviceType.getD settings.usualType)
  /-- The type is that of a function only then, unless the settings name it themselves. -/
  exactly : environment.serviceType = some "AWS::Lambda::Function" ↔
    settings.AdmitsLambda ∧ Lambda.Serves process ∨
      settings.serviceType = some "AWS::Lambda::Function"

theorem Settings.usualType_ne (settings : Settings) :
    settings.usualType ≠ "AWS::Lambda::Function" := by
  unfold usualType
  split <;> decide

theorem Detector.Yields.typedBy {detector : Detector} {process : Variables}
    {environment : Environment} (yields : detector.Yields process environment) :
    environment.TypedBy detector.settings process := by
  cases yields with
  | recognised admits detected =>
      have both := And.intro admits ((Lambda.serves_iff process).mpr ⟨_, detected⟩)
      exact ⟨fun _ _ => rfl, fun apart => absurd both apart, fun _ => .inl both, fun _ => rfl⟩
  | described apart =>
      refine ⟨fun admits serves => absurd ⟨admits, serves⟩ apart, fun _ => rfl, ?_⟩
      change some (detector.settings.serviceType.getD _) = some "AWS::Lambda::Function" ↔ _
      rw [or_iff_right apart, Option.some.injEq]
      cases detector.settings.serviceType with
      | none => exact iff_of_false detector.settings.usualType_ne (Option.some_ne_none _).symm
      | some type => exact (Option.some.injEq _ _).symm.to_iff

end MetricEmitter
