import ExpiringCache.Time.Clock
import Mathlib.Data.List.Basic
/-!
# Readings of a clock

What a clock answers to its readings, one by one: `Clock.reading` numbers the answers and
`Clock.skip` is the clock after some of them. Every operation that reads a clock is described
through these two.

`Clock.expiry` is the expiry of a write that comes after other writes with the same time to live.
-/

namespace ExpiringCache

theorem nanosPerSecond_pos : 0 < nanosPerSecond := by decide

namespace Instant

/-- The first instant of the calendar. -/
def first : Instant where
  seconds := -8334601228800
  nanos_lt := nanosPerSecond_pos

theorem toNanos_plusCapped (t : Instant) (d : Duration) :
    (t.plusCapped d).toNanos = min (t.toNanos + d.toNanos) last.toNanos := by
  unfold plusCapped
  by_cases hcap : t + d ≤ last
  · rw [if_pos hcap, toNanos_add]
    rw [le_iff, toNanos_add] at hcap
    exact (Int.min_eq_left hcap).symm
  · rw [if_neg hcap]
    rw [le_iff, toNanos_add, Int.not_le] at hcap
    exact (Int.min_eq_right (Int.le_of_lt hcap)).symm

theorem plusCapped_le_plusCapped {s t : Instant} (h : s ≤ t) (d : Duration) :
    s.plusCapped d ≤ t.plusCapped d := by
  have hsum : s.toNanos + d.toNanos ≤ t.toNanos + d.toNanos := Int.add_le_add_right h _
  rw [le_iff, toNanos_plusCapped, toNanos_plusCapped]
  omega

theorem plusCapped_le_last (t : Instant) (d : Duration) : t.plusCapped d ≤ last := by
  rw [le_iff, toNanos_plusCapped]
  exact Int.min_le_right _ _

/-- The calendar is shorter than the longest time to live that is counted from a reading. -/
theorem last_lt_add {t : Instant} (h : first ≤ t) {d : Duration}
    (hlong : Duration.longestShift < d) : last < t + d := by
  have hstart : first.toNanos ≤ t.toNanos := h
  have hspan : Duration.longestShift.toNanos < d.toNanos := hlong
  have hcalendar : last.toNanos ≤ first.toNanos + Duration.longestShift.toNanos := by decide
  rw [lt_iff, toNanos_add]
  omega

theorem last_le_plusCapped {t : Instant} (h : first ≤ t) {d : Duration}
    (hlong : Duration.longestShift < d) : last ≤ t.plusCapped d := by
  have hpast : last < t + d := last_lt_add h hlong
  rw [lt_iff, toNanos_add] at hpast
  rw [le_iff, toNanos_plusCapped]
  omega

end Instant

namespace Clock

/-- The answer to the reading that comes after `n` others. -/
def reading (clock : Clock) (n : Nat) : Instant := clock.queued[n]?.getD clock.steady

/-- The clock after `n` readings. -/
def skip (clock : Clock) (n : Nat) : Clock := { clock with queued := clock.queued.drop n }

@[simp]
theorem skip_zero (clock : Clock) : clock.skip 0 = clock := rfl

@[simp]
theorem skip_skip (clock : Clock) (m n : Nat) : (clock.skip m).skip n = clock.skip (m + n) := by
  simp only [skip, List.drop_drop]

@[simp]
theorem reading_skip (clock : Clock) (m n : Nat) :
    (clock.skip m).reading n = clock.reading (m + n) := by
  simp only [skip, reading, List.getElem?_drop]

theorem read_eq (clock : Clock) : clock.read = (clock.reading 0, clock.skip 1) := by
  obtain ⟨queued, steady⟩ := clock
  cases queued with
  | nil => rfl
  | cons now queued => rfl

theorem readings_eq (clock : Clock) (n : Nat) :
    clock.readings n = ((List.range n).map clock.reading, clock.skip n) := by
  induction n generalizing clock with
  | zero => rfl
  | succ n ih =>
      have hlater : (List.range n).map (clock.skip 1).reading =
          (List.range n).map fun i => clock.reading (i + 1) := by
        refine List.map_congr_left fun i _ => ?_
        rw [reading_skip, Nat.add_comm]
      simp only [readings, read_eq, ih, skip_skip, hlater, Nat.add_comm 1 n]
      rw [List.range_succ_eq_map, List.map_cons, List.map_map]
      rfl

theorem reading_of_queued_nil {clock : Clock} (h : clock.queued = []) (n : Nat) :
    clock.reading n = clock.steady := by
  simp [reading, h]

theorem skip_of_queued_nil {clock : Clock} (h : clock.queued = []) (n : Nat) :
    clock.skip n = clock := by
  obtain ⟨queued, steady⟩ := clock
  obtain rfl : queued = [] := h
  simp [skip]

/-! ### Deadlines -/

/-- How many readings so many writes with one time to live take. -/
def taken (ttl : Duration) (writes : Nat) : Nat :=
  if Duration.longestShift < ttl then 0 else writes

/-- The expiry of a write that comes after `n` writes with the same time to live. -/
def expiry (clock : Clock) (ttl : Duration) (n : Nat) : Instant :=
  if Duration.longestShift < ttl then Instant.last else (clock.reading n).plusCapped ttl

theorem deadline_eq (clock : Clock) (ttl : Duration) :
    clock.deadline ttl = (clock.expiry ttl 0, clock.skip (taken ttl 1)) := by
  rw [deadline, expiry, taken]
  split
  · rfl
  · rw [read_eq]

theorem expiry_skip_taken (clock : Clock) (ttl : Duration) (n : Nat) :
    (clock.skip (taken ttl 1)).expiry ttl n = clock.expiry ttl (n + 1) := by
  rw [expiry, expiry, taken]
  split
  · rfl
  · rw [reading_skip, Nat.add_comm]

theorem expiry_of_queued_nil {clock : Clock} (h : clock.queued = []) (ttl : Duration) (n : Nat) :
    clock.expiry ttl n = clock.expiry ttl 0 := by
  rw [expiry, expiry, reading_of_queued_nil h, reading_of_queued_nil h]

theorem taken_succ (ttl : Duration) (n : Nat) : taken ttl (n + 1) = taken ttl 1 + taken ttl n := by
  rw [taken, taken, taken]
  split <;> omega

/-- No write expires before the time at which it is made, as long as the calendar lasts. -/
theorem reading_le_expiry {clock : Clock} {n : Nat} (h : clock.reading n ≤ Instant.last)
    (ttl : Duration) : clock.reading n ≤ clock.expiry ttl n := by
  rw [expiry]
  split
  · exact h
  · rw [Instant.le_iff, Instant.toNanos_plusCapped]
    exact Int.le_min.2 ⟨Int.le_add_of_nonneg_right (Int.natCast_nonneg _), h⟩

theorem steady_le_expiry {clock : Clock} (hqueued : clock.queued = [])
    (hlast : clock.steady ≤ Instant.last) (ttl : Duration) (n : Nat) :
    clock.steady.toNanos ≤ (clock.expiry ttl n).toNanos := by
  have hreading : clock.reading n = clock.steady := reading_of_queued_nil hqueued n
  rw [← hreading] at hlast ⊢
  exact reading_le_expiry hlast ttl

theorem toNanos_expiry_of_zero {clock : Clock} (hqueued : clock.queued = [])
    (hlast : clock.steady ≤ Instant.last) {ttl : Duration} (hzero : ttl.toNanos = 0) (n : Nat) :
    (clock.expiry ttl n).toNanos = clock.steady.toNanos := by
  have hshort : ¬Duration.longestShift < ttl := by
    rw [Duration.lt_iff, hzero]
    exact Nat.not_lt_zero _
  rw [expiry, if_neg hshort, reading_of_queued_nil hqueued, Instant.toNanos_plusCapped, hzero]
  exact (congrArg (min · _) (Int.add_zero _)).trans (Int.min_eq_left hlast)

theorem expiry_mem_bounds {clock : Clock} {ttl : Duration} {n : Nat} {earliest latest : Instant}
    (hcalendar : Instant.first ≤ latest)
    (hreading : ¬Duration.longestShift < ttl →
      earliest ≤ clock.reading n ∧ clock.reading n ≤ latest) :
    earliest.plusCapped ttl ≤ clock.expiry ttl n ∧
      clock.expiry ttl n ≤ latest.plusCapped ttl := by
  rw [expiry]
  by_cases hlong : Duration.longestShift < ttl
  · rw [if_pos hlong]
    exact ⟨Instant.plusCapped_le_last _ _, Instant.last_le_plusCapped hcalendar hlong⟩
  · rw [if_neg hlong]
    obtain ⟨hearliest, hlatest⟩ := hreading hlong
    exact ⟨Instant.plusCapped_le_plusCapped hearliest ttl,
      Instant.plusCapped_le_plusCapped hlatest ttl⟩

end Clock

end ExpiringCache
