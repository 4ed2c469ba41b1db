import ExpiringCache.Proofs.Janitor.Life
import Mathlib.Algebra.Order.Floor.Div
import Mathlib.Data.Set.Card
import Mathlib.Order.Interval.Finset.Nat
/-!
# The grid of a janitor's beats

The due times of a janitor are points of the grid that begins with its start and has its period for
a mesh. A late beat leaves points out, and no beat leaves the grid. While the clock moves in steps
of at most four milliseconds no beat is late: what is not due is less than a millisecond in the
past, so a step makes it less than five. Then the beats are the points up to the present
millisecond, each once.
-/

namespace ExpiringCache

open Log

namespace Schedule

variable {schedule : Schedule} {now : Nat}

/-! ### Catching up -/

theorem exists_nextDue_eq (h : schedule.due ≤ now) :
    ∃ beats, 0 < beats ∧ schedule.nextDue now = schedule.due + beats * schedule.period := by
  have hpos : 0 < schedule.period := Nat.lt_of_lt_of_le (by decide) schedule.le_period
  by_cases hontime : now ≤ schedule.due + lateness
  · exact ⟨1, Nat.one_pos, by rw [nextDue_of_le hontime, Nat.one_mul]⟩
  · have hsplit := Nat.div_add_mod' (now - schedule.due) schedule.period
    have hmod := Nat.mod_lt (now - schedule.due) hpos
    refine ⟨(now - schedule.due) / schedule.period + 1, Nat.succ_pos _, ?_⟩
    rw [nextDue, if_neg hontime, Nat.succ_mul]
    omega

/-- Catching up leads from point to point of the grid. -/
theorem exists_due_catchUp_eq (schedule : Schedule) (now : Nat) :
    ∃ beats, (schedule.catchUp now).2.due = schedule.due + beats * schedule.period ∧
      (0 < beats ↔ schedule.DueAt now) := by
  fun_induction schedule.catchUp now with
  | case1 schedule h beats later heq ih =>
      rw [heq] at ih
      obtain ⟨more, hmore, -⟩ := ih
      obtain ⟨first, hfirst, hnext⟩ := exists_nextDue_eq (due_le_of_dueAt h)
      refine ⟨first + more, ?_, iff_of_true (Nat.add_pos_left hfirst _) h⟩
      change later.due = schedule.nextDue now + more * schedule.period at hmore
      rw [hmore, hnext, Nat.add_mul, Nat.add_assoc]
  | case2 schedule h => exact ⟨0, by rw [Nat.zero_mul, Nat.add_zero], iff_of_false (by decide) h⟩

theorem due_catchUp_of_onTime (h : now ≤ schedule.due + lateness) :
    (schedule.catchUp now).2.due = schedule.due + schedule.beatsBy now * schedule.period := by
  fun_induction schedule.catchUp now with
  | case1 schedule hdue beats later heq ih =>
      have hnext : (schedule.step now).due = schedule.due + schedule.period := nextDue_of_le h
      rw [heq] at ih
      have hlater := ih (by rw [hnext]; omega)
      rw [hnext] at hlater
      change later.due = _ + _ * schedule.period at hlater
      rw [hlater, beatsBy_of_dueAt hdue, Nat.succ_mul]
      omega
  | case2 schedule hdue => rw [beatsBy_of_not_dueAt hdue, Nat.zero_mul, Nat.add_zero]

theorem beatsBy_pos_iff : 0 < schedule.beatsBy now ↔ schedule.DueAt now := by
  refine ⟨fun hpos => ?_, fun hdue => ?_⟩
  · by_contra hrests
    rw [beatsBy_of_not_dueAt hrests] at hpos
    exact Nat.lt_irrefl 0 hpos
  · rw [beatsBy_of_dueAt hdue]
    exact Nat.succ_pos _

theorem le_milliStart_of_lt_beatsBy (hontime : now ≤ schedule.due + lateness) {n : Nat}
    (hn : n < schedule.beatsBy now) : schedule.due + n * schedule.period ≤ milliStart now := by
  have hdue : schedule.DueAt now := beatsBy_pos_iff.1 (Nat.zero_lt_of_lt hn)
  rw [beatsBy_of_onTime hdue hontime, Nat.lt_succ_iff] at hn
  have hwithin : n * schedule.period ≤ milliStart now - schedule.due :=
    (Nat.mul_le_mul_right _ hn).trans (Nat.div_mul_le_self _ _)
  have hle := dueAt_iff.1 hdue
  omega

end Schedule

namespace Janitor

variable {janitor later : Janitor} {origin period point beats now lingers : Nat} {log : List Event}

/-! ### Points of the grid -/

/-- The next beat of the running janitor is a point of the grid. The grid begins with the first
beat. -/
structure OnGrid (janitor : Janitor) (origin period point : Nat) : Prop where
  running : janitor.running
  period_eq : janitor.schedule.period = period
  due_eq : janitor.schedule.due = origin + point * period
  starting_iff : janitor.phase = .starting ↔ point = 0

/-- What a wake leaves of a running janitor: it runs on, and has had its first beat if one came. -/
theorem wake_of_running (h : janitor.running) (now turn lingers : Nat) :
    (janitor.wake now turn lingers).2.running ∧
      (janitor.wake now turn lingers).2.schedule = (janitor.schedule.catchUp now).2 ∧
      ((janitor.wake now turn lingers).2.phase = .starting ↔
        janitor.phase = .starting ∧ ¬janitor.schedule.DueAt now) := by
  by_cases hdue : janitor.schedule.DueAt now
  · rcases running_iff.1 h with hphase | hphase
    · rw [wake_of_starting hphase hdue]
      exact ⟨rfl, rfl, iff_of_false (by simp) fun hboth => hboth.2 hdue⟩
    · rw [wake_of_sweeping hphase hdue]
      exact ⟨h, rfl, iff_of_false (by simp [hphase]) fun hboth => hboth.2 hdue⟩
  · rw [wake_of_not_dueAt fun hdueAt => hdue hdueAt.2, Schedule.catchUp_of_not_dueAt hdue]
    exact ⟨h, rfl, (and_iff_left hdue).symm⟩

theorem OnGrid.wake_of_due_eq (h : janitor.OnGrid origin period point)
    (hdue : (janitor.schedule.catchUp now).2.due =
      janitor.schedule.due + beats * janitor.schedule.period)
    (hpos : 0 < beats ↔ janitor.schedule.DueAt now) (turn lingers : Nat) :
    (janitor.wake now turn lingers).2.OnGrid origin period (point + beats) := by
  obtain ⟨hrunning, hschedule, hstarting⟩ := wake_of_running h.running now turn lingers
  refine ⟨hrunning, ?_, ?_, ?_⟩
  · rw [hschedule, Schedule.period_catchUp, h.period_eq]
  · rw [hschedule, hdue, h.due_eq, h.period_eq, Nat.add_mul, Nat.add_assoc]
  · rw [hstarting, h.starting_iff, ← hpos]
    omega

theorem OnGrid.wake (h : janitor.OnGrid origin period point) (now turn lingers : Nat) :
    ∃ next, point ≤ next ∧ (janitor.wake now turn lingers).2.OnGrid origin period next := by
  obtain ⟨beats, hdue, hpos⟩ := janitor.schedule.exists_due_catchUp_eq now
  exact ⟨point + beats, Nat.le_add_right _ _, h.wake_of_due_eq hdue hpos turn lingers⟩

/-- A janitor that still runs has not left the grid, nor gone back on it. -/
theorem OnGrid.lives (h : janitor.OnGrid origin period point) (hlives : Lives janitor log later)
    (hrunning : later.running) : ∃ next, point ≤ next ∧ later.OnGrid origin period next := by
  induction hlives with
  | rest => exact ⟨point, le_rfl, h⟩
  | wake _ now turn lingers _ ih =>
      obtain ⟨between, hle, hbetween⟩ := ih (running_of_running_wake hrunning)
      obtain ⟨next, hle', hnext⟩ := hbetween.wake now turn lingers
      exact ⟨next, hle.trans hle', hnext⟩
  | stop _ _ => exact absurd hrunning (not_running_stop _)

/-! ### On time -/

/-- The points of the grid up to the present millisecond have had their beats. -/
structure OnTime (janitor : Janitor) (origin period beats now : Nat) : Prop
    extends janitor.OnGrid origin period beats where
  past : ∀ k < beats, origin + k * period ≤ Schedule.milliStart now
  ahead : Schedule.milliStart now < origin + beats * period

theorem OnGrid.ahead (h : janitor.OnGrid origin period point) (hrests : ¬janitor.DueAt now) :
    Schedule.milliStart now < origin + point * period := by
  have hphase := phase_ne_stopped_of_running h.running
  have hnot : ¬janitor.schedule.DueAt now := fun hdue => hrests ⟨hphase, hdue⟩
  rwa [Schedule.dueAt_iff, h.due_eq, Nat.not_le] at hnot

/-- A wake that comes at most four milliseconds later is on time. -/
theorem OnTime.wake (h : janitor.OnTime origin period beats now) {next : Nat} (hle : now ≤ next)
    (hsmall : next ≤ now + 4 * nanosPerMilli) (turn lingers : Nat) :
    (janitor.wake next turn lingers).2.OnTime origin period
        (beats + janitor.schedule.beatsBy next) next ∧
      beats - 1 + (janitor.wake next turn lingers).1 =
        beats + janitor.schedule.beatsBy next - 1 := by
  have hontime : next ≤ janitor.schedule.due + Schedule.lateness := by
    have hmilli := Schedule.lt_milliStart_add now
    have hahead := h.ahead
    rw [h.due_eq, Schedule.lateness]
    omega
  have hgrid : (janitor.wake next turn lingers).2.OnGrid origin period
      (beats + janitor.schedule.beatsBy next) :=
    h.wake_of_due_eq (Schedule.due_catchUp_of_onTime hontime) Schedule.beatsBy_pos_iff turn lingers
  refine ⟨⟨hgrid, fun k hk => ?_, hgrid.ahead (not_dueAt_wake janitor next turn lingers)⟩, ?_⟩
  · by_cases hold : k < beats
    · exact (h.past k hold).trans (Schedule.milliStart_mono hle)
    · obtain ⟨n, rfl⟩ := Nat.exists_eq_add_of_le (Nat.le_of_not_lt hold)
      have hnew := Schedule.le_milliStart_of_lt_beatsBy hontime (Nat.lt_of_add_lt_add_left hk)
      rwa [h.due_eq, h.period_eq, Nat.add_assoc, ← Nat.add_mul] at hnew
  · rw [fst_wake, sweepsBy]
    rcases running_iff.1 h.running with hphase | hphase
    · rw [hphase, h.starting_iff.1 hphase]
      simp only [Nat.zero_sub, Nat.zero_add]
    · have hpos : beats ≠ 0 := fun hzero => by
        cases hphase.symm.trans (h.starting_iff.2 hzero)
      rw [hphase]
      dsimp only
      omega

end Janitor

end ExpiringCache
