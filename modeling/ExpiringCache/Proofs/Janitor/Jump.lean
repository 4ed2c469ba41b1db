import ExpiringCache.Proofs.Janitor.Beats
/-!
# The sweeps that one jump of the clock brings

`Schedule.beatsBy` counts the beats due at one moment without taking them one by one, and
`Janitor.sweepsBy` the sweeps among them. A beat that comes late is the only one. Beats that come on
time may be several if the period is no longer than `Schedule.lateness`: then a whole period fits
between a due time and the moment from which on it is late.
-/

namespace ExpiringCache

namespace Schedule

variable {schedule : Schedule} {now : Nat}

/-- The beginning of the millisecond that a moment lies in. -/
def milliStart (now : Nat) : Nat := now / nanosPerMilli * nanosPerMilli

theorem milliStart_le (now : Nat) : milliStart now ≤ now := Nat.div_mul_le_self _ _

theorem lt_milliStart_add (now : Nat) : now < milliStart now + nanosPerMilli := by
  simp only [milliStart, nanosPerMilli]
  omega

theorem milliStart_mono {now later : Nat} (h : now ≤ later) : milliStart now ≤ milliStart later :=
  Nat.mul_le_mul_right _ (Nat.div_le_div_right h)

theorem milliStart_mul (n : Nat) : milliStart (nanosPerMilli * n) = nanosPerMilli * n := by
  rw [milliStart, Nat.mul_div_cancel_left n (by decide), Nat.mul_comm]

theorem dueAt_iff : schedule.DueAt now ↔ schedule.due ≤ milliStart now := by
  simp only [DueAt, dueMilli, milliStart, nanosPerMilli]
  omega

/-- The number of beats due at a moment: every point of the grid up to the last whole millisecond,
but only one if that comes late. -/
def beatsBy (schedule : Schedule) (now : Nat) : Nat :=
  if milliStart now < schedule.due then 0
  else if schedule.due + lateness < now then 1
  else (milliStart now - schedule.due) / schedule.period + 1

theorem beatsBy_of_not_dueAt (h : ¬schedule.DueAt now) : schedule.beatsBy now = 0 := by
  rw [dueAt_iff, Nat.not_le] at h
  rw [beatsBy, if_pos h]

theorem beatsBy_of_late (hdue : schedule.DueAt now) (hlate : schedule.due + lateness < now) :
    schedule.beatsBy now = 1 := by
  rw [dueAt_iff] at hdue
  rw [beatsBy, if_neg (Nat.not_lt.2 hdue), if_pos hlate]

theorem beatsBy_of_onTime (hdue : schedule.DueAt now) (hontime : now ≤ schedule.due + lateness) :
    schedule.beatsBy now = (milliStart now - schedule.due) / schedule.period + 1 := by
  rw [dueAt_iff] at hdue
  rw [beatsBy, if_neg (Nat.not_lt.2 hdue), if_neg (Nat.not_lt.2 hontime)]

theorem beatsBy_step_of_onTime (hontime : now ≤ schedule.due + lateness) :
    (schedule.step now).beatsBy now = (milliStart now - schedule.due) / schedule.period := by
  have hpos : 0 < schedule.period := Nat.lt_of_lt_of_le (by decide) schedule.le_period
  have hnext : (schedule.step now).due = schedule.due + schedule.period := nextDue_of_le hontime
  by_cases hagain : (schedule.step now).DueAt now
  · -- The grid goes on from the next due time, and no beat on it is late.
    have hle := dueAt_iff.1 hagain
    rw [hnext] at hle
    have hstill : now ≤ (schedule.step now).due + lateness := by omega
    calc (schedule.step now).beatsBy now
        = (milliStart now - (schedule.due + schedule.period)) / schedule.period + 1 := by
          rw [beatsBy_of_onTime hagain hstill, hnext]
          rfl
      _ = (milliStart now - schedule.due - schedule.period) / schedule.period + 1 := by
          rw [Nat.sub_sub]
      _ = (milliStart now - schedule.due) / schedule.period :=
          (Nat.div_eq_sub_div hpos (by omega)).symm
  · have hlt := mt dueAt_iff.2 hagain
    rw [hnext] at hlt
    rw [beatsBy_of_not_dueAt hagain, Nat.div_eq_of_lt (by omega)]

theorem beatsBy_of_dueAt (h : schedule.DueAt now) :
    schedule.beatsBy now = (schedule.step now).beatsBy now + 1 := by
  by_cases hlate : schedule.due + lateness < now
  · rw [beatsBy_of_late h hlate, beatsBy_of_not_dueAt (not_dueAt_of_lt (lt_nextDue_of_late hlate))]
  · have hontime := Nat.le_of_not_lt hlate
    rw [beatsBy_of_onTime h hontime, beatsBy_step_of_onTime hontime]

theorem fst_catchUp (schedule : Schedule) (now : Nat) :
    (schedule.catchUp now).1 = schedule.beatsBy now := by
  fun_induction schedule.catchUp now with
  | case1 schedule h beats later heq ih =>
      rw [heq] at ih
      rw [beatsBy_of_dueAt h, ← ih]
  | case2 schedule h => exact (beatsBy_of_not_dueAt h).symm

theorem beatsBy_le_one_of_lt
    (h : now ≤ schedule.due + lateness → milliStart now < schedule.due + schedule.period) :
    schedule.beatsBy now ≤ 1 := by
  by_cases hdue : schedule.DueAt now
  · by_cases hlate : schedule.due + lateness < now
    · exact (beatsBy_of_late hdue hlate).le
    · have hwithin := h (Nat.le_of_not_lt hlate)
      have hgap : milliStart now - schedule.due < schedule.period := by
        have hle := dueAt_iff.1 hdue
        omega
      rw [beatsBy_of_onTime hdue (Nat.le_of_not_lt hlate), Nat.div_eq_of_lt hgap]
  · exact (beatsBy_of_not_dueAt hdue).trans_le (Nat.zero_le 1)

theorem beatsBy_le_one (hperiod : lateness < schedule.period) : schedule.beatsBy now ≤ 1 := by
  have hmilli := milliStart_le now
  exact beatsBy_le_one_of_lt fun hontime => by omega

/-- A beat that comes with the next millisecond comes alone. -/
theorem beatsBy_next_milli_le_one (h : ¬schedule.DueAt now) :
    schedule.beatsBy (now + nanosPerMilli) ≤ 1 := by
  have hperiod := schedule.le_period
  have hahead := mt dueAt_iff.2 h
  have hnext : milliStart (now + nanosPerMilli) = milliStart now + nanosPerMilli := by
    simp only [milliStart, nanosPerMilli]
    omega
  exact beatsBy_le_one_of_lt fun _ => by omega

/-- Beats after the first one come on time only. -/
theorem pred_beatsBy_mul_period_le (schedule : Schedule) (now : Nat) :
    (schedule.beatsBy now - 1) * schedule.period ≤ lateness := by
  have hmilli := milliStart_le now
  by_cases hdue : schedule.DueAt now
  · by_cases hlate : schedule.due + lateness < now
    · rw [beatsBy_of_late hdue hlate, Nat.sub_self, Nat.zero_mul]
      exact Nat.zero_le _
    · rw [beatsBy_of_onTime hdue (Nat.le_of_not_lt hlate), Nat.add_sub_cancel]
      exact (Nat.div_mul_le_self _ _).trans (by omega)
  · rw [beatsBy_of_not_dueAt hdue, Nat.zero_sub, Nat.zero_mul]
    exact Nat.zero_le _

/-- A whole period that ends on time brings a second beat. -/
theorem two_le_beatsBy (hgrid : schedule.due + schedule.period ≤ milliStart now)
    (hontime : now ≤ schedule.due + lateness) : 2 ≤ schedule.beatsBy now := by
  have hpos : 0 < schedule.period := Nat.lt_of_lt_of_le (by decide) schedule.le_period
  have hdue : schedule.DueAt now := dueAt_iff.2 ((Nat.le_add_right _ _).trans hgrid)
  have hone : 1 ≤ (milliStart now - schedule.due) / schedule.period :=
    (Nat.one_le_div_iff hpos).2 (by omega)
  rw [beatsBy_of_onTime hdue hontime]
  exact Nat.succ_le_succ hone

theorem lt_dueMilli_of_not_dueAt (h : ¬schedule.DueAt now) :
    now < schedule.dueMilli * nanosPerMilli := by
  simp only [DueAt, nanosPerMilli] at *
  omega

/-- After a late beat on the grid the next one is a period away. -/
theorem due_step_of_late_of_dvd (hlate : schedule.due + lateness < now)
    (hgrid : schedule.period ∣ now - schedule.due) :
    (schedule.step now).due = now + schedule.period := by
  have hnext : (schedule.step now).due =
      now + (schedule.period - (now - schedule.due) % schedule.period) :=
    if_neg (Nat.not_le.2 hlate)
  rw [hnext, Nat.mod_eq_zero_of_dvd hgrid, Nat.sub_zero]

end Schedule

namespace Janitor

variable {janitor : Janitor} {now : Nat}

/-- The number of sweeps due at a moment. The first beat is none; a janitor that was told to stop
does no more of the others than it lingers for. -/
def sweepsBy (janitor : Janitor) (now lingers : Nat) : Nat :=
  match janitor.phase with
  | .starting => janitor.schedule.beatsBy now - 1
  | .sweeping => janitor.schedule.beatsBy now
  | .leaving => min lingers (janitor.schedule.beatsBy now - 1)
  | .stopped => 0

theorem sweepsBy_le_beatsBy (janitor : Janitor) (now lingers : Nat) :
    janitor.sweepsBy now lingers ≤ janitor.schedule.beatsBy now := by
  unfold sweepsBy
  split
  · exact Nat.sub_le _ _
  · exact le_rfl
  · exact (min_le_right _ _).trans (Nat.sub_le _ _)
  · exact Nat.zero_le _

theorem sweepsBy_of_sweeping (h : janitor.phase = .sweeping) (now lingers : Nat) :
    janitor.sweepsBy now lingers = janitor.schedule.beatsBy now := by
  rw [sweepsBy, h]

theorem sweepsBy_of_stopped (h : janitor.phase = .stopped) (now lingers : Nat) :
    janitor.sweepsBy now lingers = 0 := by
  rw [sweepsBy, h]

theorem sweepsBy_of_leaving_of_le_one (h : janitor.phase = .leaving)
    (hone : janitor.schedule.beatsBy now ≤ 1) (lingers : Nat) :
    janitor.sweepsBy now lingers = 0 := by
  rw [sweepsBy, h]
  exact Nat.le_zero.1 ((min_le_right _ _).trans (Nat.sub_le_iff_le_add.2 hone))

theorem sweepsBy_of_not_dueAt (h : ¬janitor.DueAt now) (lingers : Nat) :
    janitor.sweepsBy now lingers = 0 := by
  by_cases hphase : janitor.phase = .stopped
  · exact sweepsBy_of_stopped hphase now lingers
  · have hrests : ¬janitor.schedule.DueAt now := fun hdue => h ⟨hphase, hdue⟩
    have hle := janitor.sweepsBy_le_beatsBy now lingers
    rw [Schedule.beatsBy_of_not_dueAt hrests] at hle
    exact Nat.le_zero.1 hle

theorem wake_of_leaving (hphase : janitor.phase = .leaving) (h : janitor.DueAt now)
    (turn lingers : Nat) :
    janitor.wake now turn lingers =
      (janitor.sweepsBy now lingers, { janitor with phase := .stopped }) := by
  simp only [wake, if_pos h, sweepsBy, hphase, Schedule.fst_catchUp]

theorem fst_wake (janitor : Janitor) (now turn lingers : Nat) :
    (janitor.wake now turn lingers).1 = janitor.sweepsBy now lingers := by
  by_cases h : janitor.DueAt now
  · cases hphase : janitor.phase with
    | starting =>
        rw [wake_of_starting hphase h.2, sweepsBy, hphase, Schedule.fst_catchUp]
    | sweeping =>
        rw [wake_of_sweeping hphase h.2, sweepsBy, hphase, Schedule.fst_catchUp]
    | leaving => rw [wake_of_leaving hphase h]
    | stopped => exact (h.1 hphase).elim
  · rw [wake_of_not_dueAt h, sweepsBy_of_not_dueAt h]

theorem phase_ne_stopped_of_running (h : janitor.running) : janitor.phase ≠ .stopped := by
  intro hphase
  rw [running, hphase] at h
  exact absurd h (by decide)

theorem running_of_sweeping (h : janitor.phase = .sweeping) : janitor.running := by
  rw [running, h]
  rfl

/-! ### The period of a janitor -/

/-- The janitor beats with the period that a timer keeps to for its interval. -/
def Regular (janitor : Janitor) : Prop :=
  ∃ timer : Timer, janitor.schedule.period = (timer.period janitor.interval).toNanos

theorem Regular.lateness_lt_period_iff (h : janitor.Regular) :
    Schedule.lateness < janitor.schedule.period ↔ Schedule.lateness < janitor.interval.toNanos := by
  obtain ⟨timer, hperiod⟩ := h
  rw [hperiod, timer.lateness_lt_period_iff]

theorem period_interval_wake (janitor : Janitor) (now turn lingers : Nat) :
    (janitor.wake now turn lingers).2.schedule.period = janitor.schedule.period ∧
      (janitor.wake now turn lingers).2.interval = janitor.interval := by
  by_cases h : janitor.DueAt now
  · cases hphase : janitor.phase with
    | starting =>
        rw [wake_of_starting hphase h.2]
        exact ⟨Schedule.period_catchUp _ _, rfl⟩
    | sweeping =>
        rw [wake_of_sweeping hphase h.2]
        exact ⟨Schedule.period_catchUp _ _, rfl⟩
    | leaving =>
        rw [wake_of_leaving hphase h]
        exact ⟨rfl, rfl⟩
    | stopped => exact (h.1 hphase).elim
  · rw [wake_of_not_dueAt h]
    exact ⟨rfl, rfl⟩

theorem Regular.wake (h : janitor.Regular) (now turn lingers : Nat) :
    (janitor.wake now turn lingers).2.Regular := by
  obtain ⟨hperiod, hinterval⟩ := janitor.period_interval_wake now turn lingers
  rw [Regular, hperiod, hinterval]
  exact h

theorem regular_start (timer : Timer) (interval : Duration) (now turn : Nat) :
    (start timer interval now turn).Regular := by
  have hfresh : (fresh timer interval now turn).Regular := ⟨timer, rfl⟩
  rw [start_eq]
  exact hfresh.wake now turn 0

theorem Regular.stop (h : janitor.Regular) : janitor.stop.Regular := by
  unfold Janitor.stop
  split <;> exact h

/-! ### Two instances of a wake -/

theorem wake_of_late_on_grid (hphase : janitor.phase = .sweeping)
    (hlate : janitor.schedule.due + Schedule.lateness < now)
    (hgrid : janitor.schedule.period ∣ now - janitor.schedule.due) (turn lingers : Nat) :
    (janitor.wake now turn lingers).2.phase = .sweeping ∧
      (janitor.wake now turn lingers).2.schedule.due = now + janitor.schedule.period := by
  have hdue : janitor.schedule.DueAt now := by
    apply Schedule.dueAt_of_le
    exact (Nat.add_le_add_left (by decide) _).trans (Nat.le_of_lt hlate)
  rw [wake_of_sweeping hphase hdue, Schedule.catchUp_of_late hdue hlate]
  exact ⟨hphase, Schedule.due_step_of_late_of_dvd hlate hgrid⟩

/-- A janitor that starts with the clock sweeps for the first time after one period. -/
theorem start_zero (timer : Timer) (interval : Duration) (turn : Nat) :
    (start timer interval 0 turn).phase = .sweeping ∧
      (start timer interval 0 turn).interval = effectiveInterval interval ∧
      (start timer interval 0 turn).schedule.period = (period timer interval).toNanos ∧
      (start timer interval 0 turn).schedule.due = (period timer interval).toNanos := by
  obtain ⟨hphase, hschedule⟩ := start_of_mod_eq_zero timer interval (Nat.zero_mod _) turn
  have hinterval : ((fresh timer interval 0 turn).wake 0 turn 0).2.interval =
      effectiveInterval interval := (period_interval_wake _ 0 turn 0).2
  rw [hschedule, due_step_firstSchedule, Nat.zero_add]
  exact ⟨hphase, by rwa [start_eq], rfl, rfl⟩

end Janitor

end ExpiringCache
