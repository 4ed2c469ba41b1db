import ExpiringCache.Janitor.Basic
import Mathlib.Order.Lattice
/-!
# Beats of a janitor

What one wake does to a schedule: afterwards nothing is due, the next beat is at most a period away,
and a beat that comes late is the only one. A beat in the future is never due, and one that is not
due is less than a millisecond in the past.
-/

namespace ExpiringCache

namespace Schedule

theorem not_dueAt_of_lt {schedule : Schedule} {now : Nat} (h : now < schedule.due) :
    ¬schedule.DueAt now := by
  intro hdue
  have hle := due_le_of_dueAt hdue
  omega

theorem lt_of_not_dueAt {schedule : Schedule} {now : Nat} (h : ¬schedule.DueAt now) :
    now < schedule.due + nanosPerMilli := by
  simp only [DueAt, dueMilli, nanosPerMilli] at *
  omega

theorem dueAt_of_le {schedule : Schedule} {now : Nat} (h : schedule.due + nanosPerMilli ≤ now) :
    schedule.DueAt now := by
  simp only [DueAt, dueMilli, nanosPerMilli] at *
  omega

theorem dueAt_self_iff (schedule : Schedule) :
    schedule.DueAt schedule.due ↔ schedule.due % nanosPerMilli = 0 := by
  simp only [DueAt, dueMilli, nanosPerMilli]
  omega

theorem nextDue_of_le {schedule : Schedule} {now : Nat} (h : now ≤ schedule.due + lateness) :
    schedule.nextDue now = schedule.due + schedule.period := by
  rw [nextDue, if_pos h]

theorem nextDue_le {schedule : Schedule} {now : Nat} (h : schedule.due ≤ now) :
    schedule.nextDue now ≤ now + schedule.period := by
  rw [nextDue]
  split
  · omega
  · exact Nat.add_le_add_left (Nat.sub_le _ _) _

theorem lt_nextDue_of_late {schedule : Schedule} {now : Nat}
    (h : schedule.due + lateness < now) : now < schedule.nextDue now := by
  have hperiod := schedule.le_period
  have hmod : (now - schedule.due) % schedule.period < schedule.period :=
    Nat.mod_lt _ (by simp only [nanosPerMilli] at hperiod; omega)
  rw [nextDue, if_neg (by omega)]
  omega

theorem catchUp_of_late {schedule : Schedule} {now : Nat} (hdue : schedule.DueAt now)
    (hlate : schedule.due + lateness < now) :
    schedule.catchUp now = (1, schedule.step now) := by
  have hnext : ¬(schedule.step now).DueAt now := not_dueAt_of_lt (lt_nextDue_of_late hlate)
  rw [catchUp_of_dueAt hdue, catchUp_of_not_dueAt hnext]

@[simp]
theorem period_catchUp (schedule : Schedule) (now : Nat) :
    (schedule.catchUp now).2.period = schedule.period := by
  fun_induction schedule.catchUp now with
  | case1 schedule h beats later heq ih =>
      rw [heq] at ih
      exact ih
  | case2 schedule h => rfl

theorem due_catchUp_le (schedule : Schedule) (now : Nat) :
    (schedule.catchUp now).2.due ≤ max schedule.due (now + schedule.period) := by
  fun_induction schedule.catchUp now with
  | case1 schedule h beats later heq ih =>
      rw [heq] at ih
      refine ih.trans (max_le ?_ (le_max_right _ _))
      exact (nextDue_le (due_le_of_dueAt h)).trans (le_max_right _ _)
  | case2 schedule h => exact le_max_left _ _

theorem catchUp_of_one_beat {schedule : Schedule} {now : Nat} (h : schedule.DueAt now)
    (hone : (schedule.catchUp now).1 ≤ 1) : schedule.catchUp now = (1, schedule.step now) := by
  rw [catchUp_of_dueAt h] at hone
  have hnext : ¬(schedule.step now).DueAt now := by
    intro hdue
    rw [catchUp_of_dueAt hdue] at hone
    omega
  rw [catchUp_of_dueAt h, catchUp_of_not_dueAt hnext]

theorem due_catchUp_le_of_dueAt {schedule : Schedule} {now : Nat} (h : schedule.DueAt now) :
    (schedule.catchUp now).2.due ≤ now + schedule.period := by
  have hle := due_catchUp_le schedule now
  have hdue := due_le_of_dueAt h
  rwa [max_eq_right (by omega)] at hle

theorem beats_pos {schedule : Schedule} {now : Nat} (h : schedule.DueAt now) :
    0 < (schedule.catchUp now).1 := by
  rw [catchUp_of_dueAt h]
  exact Nat.succ_pos _

end Schedule

namespace Janitor

variable {janitor : Janitor} {now : Nat}

theorem period_le_effectiveInterval (timer : Timer) (interval : Duration) :
    (period timer interval).toNanos ≤ (effectiveInterval interval).toNanos :=
  timer.toNanos_period_le _

theorem wake_of_not_dueAt (h : ¬janitor.DueAt now) (turn lingers : Nat) :
    janitor.wake now turn lingers = (0, janitor) := by
  rw [wake, if_neg h]

theorem not_dueAt_wake (janitor : Janitor) (now turn lingers : Nat) :
    ¬(janitor.wake now turn lingers).2.DueAt now := by
  by_cases h : janitor.DueAt now
  · have hnext := Schedule.not_dueAt_catchUp janitor.schedule now
    cases hphase : janitor.phase with
    | starting =>
        simp only [wake, if_pos h, hphase]
        exact fun hdue => hnext hdue.2
    | sweeping =>
        simp only [wake, if_pos h, hphase]
        exact fun hdue => hnext hdue.2
    | leaving =>
        simp only [wake, if_pos h, hphase]
        exact fun hdue => hdue.1 rfl
    | stopped => exact (h.1 hphase).elim
  · rw [wake_of_not_dueAt h]
    exact h

theorem wake_of_sweeping (hphase : janitor.phase = .sweeping) (h : janitor.schedule.DueAt now)
    (turn lingers : Nat) :
    janitor.wake now turn lingers =
      ((janitor.schedule.catchUp now).1,
        { janitor with schedule := (janitor.schedule.catchUp now).2, turn }) := by
  have hdue : janitor.DueAt now := ⟨by rw [hphase]; decide, h⟩
  simp only [wake, if_pos hdue, hphase]

/-- The first beat is no sweep. -/
theorem wake_of_starting (hphase : janitor.phase = .starting) (h : janitor.schedule.DueAt now)
    (turn lingers : Nat) :
    janitor.wake now turn lingers =
      ((janitor.schedule.catchUp now).1 - 1,
        { janitor with
          schedule := (janitor.schedule.catchUp now).2, turn, phase := .sweeping }) := by
  have hdue : janitor.DueAt now := ⟨by rw [hphase]; decide, h⟩
  simp only [wake, if_pos hdue, hphase]

theorem phase_schedule_wake_of_starting (hphase : janitor.phase = .starting)
    (h : janitor.schedule.DueAt now) (turn lingers : Nat) :
    (janitor.wake now turn lingers).2.phase = .sweeping ∧
      (janitor.wake now turn lingers).2.schedule = (janitor.schedule.catchUp now).2 := by
  rw [wake_of_starting hphase h]
  exact ⟨rfl, rfl⟩

theorem sweeps_wake_of_late (hphase : janitor.phase = .starting)
    (hdue : janitor.schedule.DueAt now) (hlate : janitor.schedule.due + Schedule.lateness < now)
    (turn lingers : Nat) : (janitor.wake now turn lingers).1 = 0 := by
  rw [wake_of_starting hphase hdue, Schedule.catchUp_of_late hdue hlate]
  exact Nat.sub_self 1

/-- The schedule of a janitor at its start: the first beat is due at once. -/
def firstSchedule (timer : Timer) (interval : Duration) (now : Nat) : Schedule where
  period := (period timer interval).toNanos
  due := now
  le_period := nanosPerMilli_le_toNanos_period timer interval

def fresh (timer : Timer) (interval : Duration) (now turn : Nat) : Janitor where
  interval := effectiveInterval interval
  schedule := firstSchedule timer interval now
  phase := .starting
  turn := turn

-- Between applied terms the kernel would evaluate the wake before it unfolds `start`.
theorem start_def :
    start = fun timer interval now turn =>
      ((fresh timer interval now turn).wake now turn 0).2 := rfl

theorem start_eq (timer : Timer) (interval : Duration) (now turn : Nat) :
    start timer interval now turn = ((fresh timer interval now turn).wake now turn 0).2 := by
  rw [start_def]

theorem due_step_firstSchedule (timer : Timer) (interval : Duration) (now : Nat) :
    ((firstSchedule timer interval now).step now).due = now + (period timer interval).toNanos :=
  Schedule.nextDue_of_le (Nat.le_add_right _ _)

theorem not_dueAt_step_firstSchedule (timer : Timer) (interval : Duration) (now : Nat) :
    ¬((firstSchedule timer interval now).step now).DueAt now := by
  have hperiod := nanosPerMilli_le_toNanos_period timer interval
  apply Schedule.not_dueAt_of_lt
  rw [due_step_firstSchedule]
  exact Nat.lt_add_of_pos_right (Nat.lt_of_lt_of_le (by decide) hperiod)

theorem start_of_mod_eq_zero (timer : Timer) (interval : Duration) {now : Nat}
    (h : now % nanosPerMilli = 0) (turn : Nat) :
    (start timer interval now turn).phase = .sweeping ∧
      (start timer interval now turn).schedule = (firstSchedule timer interval now).step now := by
  have hdue : (firstSchedule timer interval now).DueAt now := (Schedule.dueAt_self_iff _).2 h
  have hrests := not_dueAt_step_firstSchedule timer interval now
  have hbeats : (firstSchedule timer interval now).catchUp now =
      (1, (firstSchedule timer interval now).step now) := by
    rw [Schedule.catchUp_of_dueAt hdue, Schedule.catchUp_of_not_dueAt hrests]
  have hwoken : ((fresh timer interval now turn).wake now turn 0).2.phase = .sweeping ∧
      ((fresh timer interval now turn).wake now turn 0).2.schedule =
        ((firstSchedule timer interval now).catchUp now).2 :=
    phase_schedule_wake_of_starting rfl hdue turn 0
  rw [hbeats] at hwoken
  rw [start_eq]
  exact hwoken

theorem start_of_mod_ne_zero (timer : Timer) (interval : Duration) {now : Nat}
    (h : now % nanosPerMilli ≠ 0) (turn : Nat) :
    (start timer interval now turn).phase = .starting ∧
      (start timer interval now turn).schedule = firstSchedule timer interval now := by
  have hdue : ¬(firstSchedule timer interval now).DueAt now :=
    fun hdue => h ((Schedule.dueAt_self_iff _).1 hdue)
  have hrests : ¬(fresh timer interval now turn).DueAt now := fun hdueAt => hdue hdueAt.2
  rw [start_eq, wake_of_not_dueAt hrests]
  exact ⟨rfl, rfl⟩

end Janitor

end ExpiringCache
