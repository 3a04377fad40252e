import MetricEmitter.Proofs.Context.Conservation

/-!
# A series holds the first samples

What a sequence of recordings makes of a series is decided by those of them that
offer its metric a finite sample. As many of these are taken, from the first one
on, as the series has room for, and the others change nothing
(`Context.series_run`). The unit is therefore that of the last recording that was
taken and gave one, and no dropped recording has a say in it.

For a context without metrics this says all there is to know of the metrics it
comes to hold, and each recording can be judged by the ones before it: it is taken
without a word, or it is dropped with one notice and leaves the whole context as
it was (`Context.holds_first_samples`).
-/

set_option autoImplicit false

namespace MetricEmitter

/-- A measurement that is offered, with a unit or without. -/
structure Recording extends Measurement where
  unit : Option MetricUnit
  deriving DecidableEq, Repr

namespace Recording

def operation (recording : Recording) : Operation :=
  .record recording.metric recording.sample recording.unit

/-- The recordings that offer a metric a finite sample. -/
def feeding (metric : String) (recordings : List Recording) : List Recording :=
  recordings.filter fun recording => recording.metric = metric && recording.sample.isFinite

/-- The unit that is given last. -/
def lastUnit (recordings : List Recording) : Option MetricUnit :=
  recordings.reverse.findSome? Recording.unit

/-- A recording is taken after others if its sample is finite and the series of its metric has room
for it. -/
def TakenAfter (recording : Recording) (earlier : List Recording) : Prop :=
  recording.sample.isFinite = true ∧
    (feeding recording.metric earlier).length < Series.capacity

variable {metric : String} {recording : Recording} {rest : List Recording}

theorem feeding_cons_self (finite : recording.sample.isFinite = true) :
    feeding recording.metric (recording :: rest) =
      recording :: feeding recording.metric rest := by
  rw [feeding, List.filter_cons_of_pos (by simp [finite]), feeding]

theorem feeding_cons_of_ne (other : recording.metric ≠ metric) :
    feeding metric (recording :: rest) = feeding metric rest := by
  rw [feeding, List.filter_cons_of_neg (by simp [other]), feeding]

theorem feeding_cons_of_not_finite (endless : recording.sample.isFinite = false) :
    feeding metric (recording :: rest) = feeding metric rest := by
  rw [feeding, List.filter_cons_of_neg (by simp [endless]), feeding]

theorem mem_feeding {recordings : List Recording} :
    recording ∈ feeding metric recordings ↔
      recording ∈ recordings ∧ recording.metric = metric ∧ recording.sample.isFinite = true := by
  rw [feeding, List.mem_filter, Bool.and_eq_true, decide_eq_true_eq]

end Recording

open Recording (feeding lastUnit)

/-! ## What recordings make of a series -/

/-- The series with the samples of all recordings, and the last of their units if they give one. -/
def Series.recordAll (series : Series) (recordings : List Recording) : Series where
  samples := series.samples ++ recordings.map fun recording => recording.sample
  unit := (lastUnit recordings).or series.unit

namespace Series

theorem recordAll_nil (series : Series) : series.recordAll [] = series := by
  rw [recordAll, List.map_nil, List.append_nil]
  rfl

theorem recordAll_empty (recordings : List Recording) :
    empty.recordAll recordings =
      ⟨recordings.map fun recording => recording.sample, lastUnit recordings⟩ := by
  rw [recordAll, empty, List.nil_append, Option.or_none]

theorem recordAll_cons (series : Series) (recording : Recording) (rest : List Recording) :
    series.recordAll (recording :: rest) =
      (series.record recording.sample recording.unit).recordAll rest := by
  have unit : lastUnit (recording :: rest) = (lastUnit rest).or recording.unit := by
    rw [lastUnit, List.reverse_cons, List.findSome?_append, List.findSome?_singleton]
    rfl
  rw [recordAll, recordAll, unit, Option.or_assoc, record, List.map_cons, List.append_assoc,
    List.singleton_append]
  cases recording.unit <;> rfl

end Series

namespace Context

variable {context : Context}

/-- A series that is put into a context answers for its metric, and the other series stay. -/
theorem series_insert (context : Context) (metric query : String) (series : Series) :
    ({ context with metrics := context.metrics.insert metric series } : Context).series query =
      if query = metric then series else context.series query := by
  rw [Context.series, Table.get?_insert, Context.series]
  split <;> rfl

/-- **Recordings fill a series from the first finite sample on**, as far as it has room. -/
theorem series_run (context : Context) (recordings : List Recording) (metric : String) :
    (context.run (recordings.map Recording.operation)).1.series metric =
      (context.series metric).recordAll
        ((feeding metric recordings).take
          (Series.capacity - (context.series metric).samples.length)) := by
  induction recordings generalizing context with
  | nil => rw [feeding, List.filter_nil, List.take_nil, Series.recordAll_nil]; rfl
  | cons recording rest ih =>
      change ((context.record recording.metric recording.sample recording.unit).1.run
        (rest.map Recording.operation)).1.series metric = _
      rw [ih]
      have records := context.records_record recording.metric recording.sample recording.unit
      generalize context.record recording.metric recording.sample recording.unit = recorded
        at records
      cases records with
      | notFinite endless => rw [Recording.feeding_cons_of_not_finite endless]
      | full finite noRoom =>
          by_cases here : recording.metric = metric
          · subst here
            rw [Nat.sub_eq_zero_of_le noRoom, List.take_zero, List.take_zero]
          · rw [Recording.feeding_cons_of_ne here]
      | taken finite room =>
          rw [series_insert]
          by_cases here : recording.metric = metric
          · subst here
            have left : Series.capacity - (context.series recording.metric).samples.length =
                Series.capacity -
                  ((context.series recording.metric).record recording.sample
                    recording.unit).samples.length + 1 := by
              rw [Series.record, List.length_append, List.length_singleton]
              omega
            rw [if_pos rfl, Recording.feeding_cons_self finite, left, List.take_succ_cons,
              Series.recordAll_cons]
          · rw [if_neg (Ne.symm here), Recording.feeding_cons_of_ne here]

/-! ## A context without metrics -/

/-- What becomes of recordings in a context without metrics. -/
structure HoldsFirst (context : Context) (recordings : List Recording) : Prop where
  /-- There is a metric for each name that was given a finite sample. -/
  named : ∀ metric,
    metric ∈ (context.run (recordings.map Recording.operation)).1.metrics.names ↔
      ∃ recording ∈ recordings, recording.metric = metric ∧ recording.sample.isFinite = true
  /-- It has the first finite samples given for it, and the last unit given with one of them. -/
  held : ∀ metric series,
    (context.run (recordings.map Recording.operation)).1.metrics.get? metric = some series →
      let taken := (feeding metric recordings).take Series.capacity
      series.samples = taken.map (fun recording => recording.sample) ∧
        series.unit = lastUnit taken
  /-- A recording that is taken is taken without a word. -/
  taken : ∀ earlier recording later, recordings = earlier ++ recording :: later →
    recording.TakenAfter earlier →
      ((context.run (earlier.map Recording.operation)).1.perform recording.operation).2 = .quiet
  /-- A recording that is not taken changes nothing and is reported as one error. -/
  dropped : ∀ earlier recording later, recordings = earlier ++ recording :: later →
    ¬ recording.TakenAfter earlier →
      let reached := (context.run (earlier.map Recording.operation)).1
      reached.perform recording.operation =
          (reached, .reporting [recording.toMeasurement.dropNotice]) ∧
        recording.toMeasurement.dropNotice.severity = .error

/-- The series of a metric after recordings in a context without metrics. -/
theorem series_run_of_empty (empty : context.metrics = .empty) (recordings : List Recording)
    (metric : String) :
    (context.run (recordings.map Recording.operation)).1.series metric =
      Series.empty.recordAll ((feeding metric recordings).take Series.capacity) := by
  have none : context.series metric = .empty := by
    rw [series, empty]
    rfl
  rw [series_run, none]
  rfl

theorem length_series_run_of_empty (empty : context.metrics = .empty)
    (recordings : List Recording) (metric : String) :
    ((context.run (recordings.map Recording.operation)).1.series metric).samples.length =
      min Series.capacity (feeding metric recordings).length := by
  rw [series_run_of_empty empty, Series.recordAll_empty, List.length_map, List.length_take]

/-- There is a metric if a finite sample was given for its name. -/
theorem mem_names_run_of_empty (empty : context.metrics = .empty) (recordings : List Recording)
    (metric : String) :
    metric ∈ (context.run (recordings.map Recording.operation)).1.metrics.names ↔
      feeding metric recordings ≠ [] := by
  have measured : (context.run (recordings.map Recording.operation)).1.Measured :=
    (Measured.of_empty empty).run _
  have length := length_series_run_of_empty empty recordings metric
  rw [Table.mem_names_iff, ← List.length_pos_iff]
  constructor
  · rintro ⟨series, found⟩
    have started := List.length_pos_iff.mpr (measured metric series found).started
    rw [Context.series, found, Option.getD_some] at length
    omega
  · intro given
    cases found : (context.run (recordings.map Recording.operation)).1.metrics.get? metric with
    | some series => exact ⟨series, rfl⟩
    | none =>
        have capacity : 0 < Series.capacity := by decide
        rw [Context.series, found, Option.getD_none, Series.empty, List.length_nil] at length
        omega

/-- After recordings in a context without metrics, one more is judged by those before it. -/
theorem record_of_empty (empty : context.metrics = .empty) (earlier : List Recording)
    (recording : Recording) :
    let reached := (context.run (earlier.map Recording.operation)).1
    (recording.TakenAfter earlier →
      (reached.record recording.metric recording.sample recording.unit).2 = []) ∧
    (¬ recording.TakenAfter earlier →
      reached.record recording.metric recording.sample recording.unit =
        (reached, [recording.toMeasurement.dropNotice])) := by
  intro reached
  have length : (reached.series recording.metric).samples.length =
      min Series.capacity (feeding recording.metric earlier).length :=
    length_series_run_of_empty empty earlier recording.metric
  have records := reached.records_record recording.metric recording.sample recording.unit
  generalize reached.record recording.metric recording.sample recording.unit = recorded at records
  unfold Recording.TakenAfter Measurement.dropNotice
  cases records with
  | notFinite endless =>
      refine ⟨fun taken => ?_, fun _ => ?_⟩
      · exact absurd (endless.symm.trans taken.1) Bool.false_ne_true
      · rw [endless]
        rfl
  | full finite noRoom =>
      refine ⟨fun taken => ?_, fun _ => ?_⟩
      · have room := taken.2
        omega
      · rw [finite]
        rfl
  | taken finite room =>
      refine ⟨fun _ => rfl, fun dropped => absurd ⟨finite, ?_⟩ dropped⟩
      omega

/-- **A context without metrics comes to hold the first finite samples of each metric**, as many as
a document takes, with the last unit given with one of them. Every other sample is dropped with one
error and changes nothing. -/
theorem holds_first_samples (empty : context.metrics = .empty) (recordings : List Recording) :
    context.HoldsFirst recordings where
  named := by
    intro metric
    rw [mem_names_run_of_empty empty]
    constructor
    · intro given
      obtain ⟨recording, member⟩ := List.exists_mem_of_ne_nil _ given
      exact ⟨recording, Recording.mem_feeding.mp member⟩
    · rintro ⟨recording, feeds⟩
      exact List.ne_nil_of_mem (Recording.mem_feeding.mpr feeds)
  held := by
    intro metric series found taken
    have filled := series_run_of_empty empty recordings metric
    rw [Context.series, found, Option.getD_some] at filled
    rw [filled, Series.recordAll_empty]
    exact ⟨rfl, rfl⟩
  taken := by
    intro earlier recording later _ taken
    change Reply.reporting _ = _
    rw [(record_of_empty empty earlier recording).1 taken]
    rfl
  dropped := by
    intro earlier recording later _ dropped reached
    constructor
    · change (_, Reply.reporting _) = _
      rw [(record_of_empty empty earlier recording).2 dropped]
    · unfold Measurement.dropNotice
      split <;> rfl

/-- A full series with a late sample in another unit, and a metric whose first sample is not a
number: the series keeps its unit, and the second metric has neither that sample nor its unit. -/
theorem holds_first_samples_full :
    let latency : Recording := ⟨⟨"Latency", 1⟩, some .milliseconds⟩
    let late : Recording := ⟨⟨"Latency", 2⟩, some .seconds⟩
    let noNumber : Recording := ⟨⟨"Ratio", 0 / 0⟩, some .percent⟩
    let half : Recording := ⟨⟨"Ratio", 1 / 2⟩, none⟩
    let recordings := List.replicate 100 latency ++ [late, noNumber, half]
    let reached := (Context.new.run (recordings.map Recording.operation)).1
    Context.new.metrics = .empty ∧
      reached.metrics.get? "Latency" = some ⟨List.replicate 100 1, some .milliseconds⟩ ∧
      reached.metrics.get? "Ratio" = some ⟨[1 / 2], none⟩ := by
  intro latency late noNumber half recordings reached
  have holds : Context.new.HoldsFirst recordings := holds_first_samples rfl recordings
  have series (recording : Recording) (given : recording ∈ recordings)
      (finite : recording.sample.isFinite = true) :
      reached.metrics.get? recording.metric = some
        (Series.empty.recordAll ((feeding recording.metric recordings).take Series.capacity)) := by
    obtain ⟨series, found⟩ := Table.mem_names_iff.mp
      ((holds.named recording.metric).mpr ⟨recording, given, rfl, finite⟩)
    obtain ⟨samples, unit⟩ := holds.held recording.metric series found
    rw [found, Series.recordAll_empty, ← samples, ← unit]
  refine ⟨rfl, ?_, ?_⟩
  · exact (series latency (by decide +kernel) (by decide +kernel)).trans (by decide +kernel)
  · exact (series half (by decide +kernel) (by decide +kernel)).trans (by decide +kernel)

end Context

end MetricEmitter
