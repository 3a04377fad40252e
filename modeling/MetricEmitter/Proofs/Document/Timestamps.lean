import MetricEmitter.Context.Emission

/-!
# The time a document states

A document states how many whole milliseconds have passed since the epoch
(`Instant.Elapsed`), and an instant before the epoch counts as the epoch. Later
instants have no fewer of them (`Instant.Elapsed.mono`). The statement has 64 bits:
it is right as long as the count is below `Document.timeRange`, and until then
documents are ordered as their instants are. From there on it starts again from
zero (`Context.stated_times`).
-/

set_option autoImplicit false

namespace MetricEmitter

/-- How many different times a document can state. -/
def Document.timeRange : Nat := Nat.pow 2 64

namespace Instant

/-- So many whole milliseconds have passed since the epoch, none at an instant before it. -/
inductive Elapsed (instant : Instant) : Nat → Prop where
  | before (early : instant.nanoseconds < 0) : Elapsed instant 0
  | since {count : Nat} (reached : count * 1000000 ≤ instant.nanoseconds)
      (notMore : instant.nanoseconds < (count + 1) * 1000000) : Elapsed instant count

/-- The whole milliseconds are found by division, at instants before the epoch too. -/
theorem elapsed_iff {instant : Instant} {count : Nat} :
    instant.Elapsed count ↔ (instant.nanoseconds / 1000000).toNat = count := by
  constructor
  · intro elapsed
    cases elapsed with
    | before early => omega
    | since reached notMore => omega
  · rintro rfl
    by_cases early : instant.nanoseconds < 0
    · have none : (instant.nanoseconds / 1000000).toNat = 0 := by omega
      exact none ▸ .before early
    · exact .since (by omega) (by omega)

theorem Elapsed.mono {earlier later : Instant} {first second : Nat}
    (inOrder : earlier.nanoseconds ≤ later.nanoseconds) (elapsed : earlier.Elapsed first)
    (elapsedLater : later.Elapsed second) : first ≤ second := by
  rw [elapsed_iff] at elapsed elapsedLater
  omega

/-- The 64 bits of a document hold what is left of the count after whole ranges of times. -/
theorem Elapsed.epochMillis_eq {instant : Instant} {count : Nat} (elapsed : instant.Elapsed count) :
    instant.epochMillis = count % Document.timeRange := by
  rw [epochMillis, elapsed_iff.mp elapsed, Document.timeRange]

end Instant

/-- The header of a document states a time. -/
def Document.StatesTime (document : Document) (millis : Nat) : Prop :=
  ∃ directives, document.header =
    .object [("Timestamp", .integer millis), ("CloudWatchMetrics", directives)]

theorem Document.statesTime_iff {document : Document} {millis : Nat} :
    document.StatesTime millis ↔ document.timestamp = millis := by
  constructor
  · rintro ⟨directives, stated⟩
    simp only [header, Json.object.injEq, List.cons.injEq, Prod.mk.injEq, Json.integer.injEq,
      true_and] at stated
    exact Int.ofNat_inj.mp stated.1
  · rintro rfl
    exact ⟨_, rfl⟩

namespace Context

/-- The document of a context whose time is set, whatever the clock says. -/
def documentAt (context : Context) (instant now : Instant) : Document :=
  (context.setTimestamp instant).document now

theorem statesTime_documentAt_iff {context : Context} {instant now : Instant} {elapsed millis : Nat}
    (passed : instant.Elapsed elapsed) :
    (context.documentAt instant now).StatesTime millis ↔ elapsed % Document.timeRange = millis := by
  rw [Document.statesTime_iff, ← passed.epochMillis_eq]
  rfl

/-- **A document states the whole milliseconds since the epoch if they are in the range of times**,
and otherwise what is left of them; before the epoch it states none. Of two documents the one of the
later instant states no smaller time, as long as this instant is in the range. -/
theorem stated_times (context : Context) (now : Instant) :
    (∀ instant elapsed, instant.Elapsed elapsed →
      (context.documentAt instant now).StatesTime (elapsed % Document.timeRange) ∧
        ((context.documentAt instant now).StatesTime elapsed ↔ elapsed < Document.timeRange)) ∧
    (∀ instant, instant.nanoseconds < 0 → (context.documentAt instant now).StatesTime 0) ∧
    ∀ earlier later, earlier.nanoseconds ≤ later.nanoseconds →
      ∀ elapsed, later.Elapsed elapsed → elapsed < Document.timeRange →
        ∀ first second, (context.documentAt earlier now).StatesTime first →
          (context.documentAt later now).StatesTime second → first ≤ second := by
  refine ⟨?_, ?_, ?_⟩
  · intro instant elapsed passed
    refine ⟨(statesTime_documentAt_iff passed).mpr rfl, ?_⟩
    rw [statesTime_documentAt_iff passed]
    exact Nat.mod_eq_iff_lt (by decide)
  · intro instant early
    exact (statesTime_documentAt_iff (.before early)).mpr rfl
  · intro earlier later inOrder elapsed passed fits first second stated statedLater
    obtain ⟨before, passedBefore⟩ : ∃ before, earlier.Elapsed before :=
      ⟨_, Instant.elapsed_iff.mpr rfl⟩
    have grows := passedBefore.mono inOrder passed
    rw [statesTime_documentAt_iff passedBefore] at stated
    rw [statesTime_documentAt_iff passed] at statedLater
    rw [← stated, ← statedLater, Nat.mod_eq_of_lt fits,
      Nat.mod_eq_of_lt (Nat.lt_of_le_of_lt grows fits)]
    exact grows

/-- The last millisecond of which the statement is right, seen from a nanosecond before the epoch
and from the last nanosecond of this millisecond. -/
theorem stated_times_last :
    let early : Instant := ⟨-1⟩
    let last : Instant := ⟨18446744073709551615999999⟩
    last.Elapsed 18446744073709551615 ∧
      (Context.new.documentAt early ⟨0⟩).StatesTime 0 ∧
      (Context.new.documentAt last ⟨0⟩).StatesTime 18446744073709551615 ∧
      ∀ first second, (Context.new.documentAt early ⟨0⟩).StatesTime first →
        (Context.new.documentAt last ⟨0⟩).StatesTime second → first ≤ second := by
  intro early last
  have elapsed : last.Elapsed 18446744073709551615 := .since (by decide) (by decide)
  obtain ⟨stated, before, ordered⟩ := stated_times Context.new ⟨0⟩
  exact ⟨elapsed, before early (by decide), (stated last _ elapsed).2.mpr (by decide),
    ordered early last (by decide) _ elapsed (by decide)⟩

/-- One millisecond later, at an instant whose whole seconds a signed word of 64 bits holds, the
document states no time since the epoch at all, and so an earlier time than the one before. -/
theorem stated_times_run_over :
    let last : Instant := ⟨18446744073709551615000000⟩
    let next : Instant := ⟨18446744073709551616000000⟩
    last.nanoseconds ≤ next.nanoseconds ∧ next.nanoseconds < 9223372036854775808000000000 ∧
      last.Elapsed 18446744073709551615 ∧ next.Elapsed 18446744073709551616 ∧
      (Context.new.documentAt last ⟨0⟩).StatesTime 18446744073709551615 ∧
      (Context.new.documentAt next ⟨0⟩).StatesTime 0 ∧
      ¬(Context.new.documentAt next ⟨0⟩).StatesTime 18446744073709551616 ∧
      ¬(Context.new.documentAt last ⟨0⟩).timestamp ≤
        (Context.new.documentAt next ⟨0⟩).timestamp := by
  intro last next
  have elapsed : last.Elapsed 18446744073709551615 := .since (by decide) (by decide)
  have elapsedNext : next.Elapsed 18446744073709551616 := .since (by decide) (by decide)
  refine ⟨by decide, by decide, elapsed, elapsedNext,
    (statesTime_documentAt_iff elapsed).mpr (by decide),
    (statesTime_documentAt_iff elapsedNext).mpr (by decide), ?_, by decide⟩
  rw [statesTime_documentAt_iff elapsedNext]
  decide

end Context

end MetricEmitter
