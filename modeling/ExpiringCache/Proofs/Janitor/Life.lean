import ExpiringCache.Proofs.Janitor.Jump
/-!
# The life of a janitor

After its start a janitor wakes and is told to stop, in any order. `Janitor.Lives` strings these
together with what they log. The phase carries the result: what a janitor has logged by then, and
what it can still log, depends on nothing else.
-/

namespace ExpiringCache

open Log

namespace Janitor

variable {janitor first last third : Janitor} {log later : List Event}

/-- What the log says of sweeps that removed so many entries each. -/
def sweepLog (removals : List Nat) : List Event := removals.map Event.swept

/-- What can become of a janitor, and what the log says meanwhile. -/
inductive Lives (first : Janitor) : List Event → Janitor → Prop where
  | rest : Lives first [] first
  | wake {log : List Event} {janitor : Janitor} (h : Lives first log janitor)
    (now turn lingers : Nat) {removals : List Nat}
    (hsweeps : removals.length = (janitor.wake now turn lingers).1) :
    Lives first
      (log ++ (sweepLog removals ++ janitor.farewell (janitor.wake now turn lingers).2))
      (janitor.wake now turn lingers).2
  | stop {log : List Event} {janitor : Janitor} (h : Lives first log janitor) :
    Lives first (log ++ janitor.farewell janitor.stop) janitor.stop

theorem Lives.trans (h : Lives first log last) (h' : Lives last later third) :
    Lives first (log ++ later) third := by
  induction h' with
  | rest => rwa [List.append_nil]
  | wake _ now turn lingers hsweeps ih =>
      rw [← List.append_assoc]
      exact ih.wake now turn lingers hsweeps
  | stop _ ih =>
      rw [← List.append_assoc]
      exact ih.stop

theorem schedule_stop (janitor : Janitor) : janitor.stop.schedule = janitor.schedule := by
  unfold stop
  split <;> rfl

theorem interval_stop (janitor : Janitor) : janitor.stop.interval = janitor.interval := by
  unfold stop
  split <;> rfl

/-- What every wake and every order to stop leaves as it is, a life leaves as it is. -/
theorem Lives.keeps {α : Type} (view : Janitor → α) (h : Lives first log last)
    (hwake : ∀ (janitor : Janitor) now turn lingers,
      view (janitor.wake now turn lingers).2 = view janitor)
    (hstop : ∀ janitor : Janitor, view janitor.stop = view janitor) : view last = view first := by
  induction h with
  | rest => rfl
  | wake _ now turn lingers _ ih => exact (hwake _ now turn lingers).trans ih
  | stop _ ih => exact (hstop _).trans ih

theorem Lives.interval_eq (h : Lives first log last) : last.interval = first.interval :=
  h.keeps (·.interval)
    (fun janitor now turn lingers => (janitor.period_interval_wake now turn lingers).2)
    interval_stop

theorem Lives.period_eq (h : Lives first log last) :
    last.schedule.period = first.schedule.period :=
  h.keeps (·.schedule.period)
    (fun janitor now turn lingers => (janitor.period_interval_wake now turn lingers).1)
    fun janitor => congrArg Schedule.period janitor.schedule_stop

/-! ### Phases -/

theorem running_iff : janitor.running ↔ janitor.phase = .starting ∨ janitor.phase = .sweeping := by
  simp [running]

theorem running_start (timer : Timer) (interval : Duration) (now turn : Nat) :
    (start timer interval now turn).running := by
  rw [start_eq, running_iff]
  by_cases hdue : (fresh timer interval now turn).schedule.DueAt now
  · exact Or.inr (phase_schedule_wake_of_starting rfl hdue turn 0).1
  · have hrests : ¬(fresh timer interval now turn).DueAt now := fun h => hdue h.2
    rw [wake_of_not_dueAt hrests]
    exact Or.inl rfl

theorem farewell_of_phase_ne {before after : Janitor} (h : after.phase ≠ .stopped) :
    before.farewell after = [] :=
  if_neg fun hstops => h hstops.2

theorem farewell_self (janitor : Janitor) : janitor.farewell janitor = [] :=
  if_neg fun hstops => hstops.1 hstops.2

theorem farewell_of_stops {before after : Janitor} (hbefore : before.phase ≠ .stopped)
    (hafter : after.phase = .stopped) : before.farewell after = [.janitorStopped] :=
  if_pos ⟨hbefore, hafter⟩

/-! ### What is told -/

/-- What a janitor in a phase has logged since its start: nothing before its first beat, then its
sweeps, and at last that it stopped. -/
def Told : Phase → List Event → Prop
  | .starting, log | .leaving, log => log = []
  | .sweeping, log => ∃ removals, log = sweepLog removals
  | .stopped, log => ∃ removals, log = sweepLog removals ++ [.janitorStopped]

theorem told_wake (h : Told janitor.phase log) (now turn lingers : Nat) {removals : List Nat}
    (hsweeps : removals.length = (janitor.wake now turn lingers).1) :
    Told (janitor.wake now turn lingers).2.phase
      (log ++ (sweepLog removals ++ janitor.farewell (janitor.wake now turn lingers).2)) := by
  by_cases hdue : janitor.DueAt now
  · cases hphase : janitor.phase with
    | starting =>
        -- The first beat may be late, then the same wake sweeps too.
        rw [hphase] at h
        obtain rfl : log = [] := h
        have hwoken := (phase_schedule_wake_of_starting hphase hdue.2 turn lingers).1
        rw [farewell_of_phase_ne (by rw [hwoken]; decide), hwoken]
        exact ⟨removals, by simp⟩
    | sweeping =>
        rw [hphase] at h
        obtain ⟨earlier, rfl⟩ := h
        have hwoken : (janitor.wake now turn lingers).2.phase = .sweeping := by
          rw [wake_of_sweeping hphase hdue.2, ← hphase]
        rw [farewell_of_phase_ne (by rw [hwoken]; decide), hwoken]
        exact ⟨earlier ++ removals, by simp [sweepLog]⟩
    | leaving =>
        rw [hphase] at h
        obtain rfl : log = [] := h
        rw [wake_of_leaving hphase hdue, farewell_of_stops (by rw [hphase]; decide) rfl]
        exact ⟨removals, rfl⟩
    | stopped => exact absurd hphase hdue.1
  · rw [wake_of_not_dueAt hdue] at hsweeps ⊢
    rw [farewell_self, List.length_eq_zero_iff.1 hsweeps]
    simpa [sweepLog] using h

theorem stop_of_starting (hphase : janitor.phase = .starting) :
    janitor.stop = { janitor with phase := .leaving } := by
  rw [stop, hphase]

theorem stop_of_sweeping (hphase : janitor.phase = .sweeping) :
    janitor.stop = { janitor with phase := .stopped } := by
  rw [stop, hphase]

theorem stop_of_not_running (h : ¬janitor.running) : janitor.stop = janitor := by
  rw [running_iff] at h
  unfold stop
  cases hphase : janitor.phase with
  | starting => exact absurd (Or.inl hphase) h
  | sweeping => exact absurd (Or.inr hphase) h
  | leaving => rfl
  | stopped => rfl

theorem not_running_stop (janitor : Janitor) : ¬janitor.stop.running := by
  unfold stop
  cases hphase : janitor.phase <;> simp [running, hphase]

theorem told_stop (h : Told janitor.phase log) :
    Told janitor.stop.phase (log ++ janitor.farewell janitor.stop) := by
  by_cases hrunning : janitor.running
  · rcases running_iff.1 hrunning with hphase | hphase
    · rw [hphase] at h
      rw [stop_of_starting hphase, farewell_of_phase_ne (by simp), List.append_nil]
      exact h
    · rw [hphase] at h
      obtain ⟨removals, rfl⟩ := h
      rw [stop_of_sweeping hphase, farewell_of_stops (by rw [hphase]; decide) rfl]
      exact ⟨removals, rfl⟩
  · rw [stop_of_not_running hrunning, farewell_self, List.append_nil]
    exact h

/-- A janitor logs its sweeps and then that it stopped, and nothing after that. -/
theorem Lives.told {timer : Timer} {interval : Duration} {now turn : Nat}
    (h : Lives (start timer interval now turn) log last) : Told last.phase log := by
  induction h with
  | rest =>
      rcases running_iff.1 (running_start timer interval now turn) with hphase | hphase
      · rw [hphase]
        exact rfl
      · rw [hphase]
        exact ⟨[], rfl⟩
  | wake _ now turn lingers hsweeps ih => exact told_wake ih now turn lingers hsweeps
  | stop _ ih => exact told_stop ih

/-! ### Before the first beat -/

def Awaiting (janitor : Janitor) : Prop := janitor.phase = .starting ∨ janitor.phase = .leaving

theorem wake_of_awaiting {now turn lingers : Nat}
    (h : (janitor.wake now turn lingers).2.Awaiting) :
    (janitor.wake now turn lingers).2 = janitor := by
  by_cases hdue : janitor.DueAt now
  · exfalso
    have hphase : (janitor.wake now turn lingers).2.phase = .sweeping ∨
        (janitor.wake now turn lingers).2.phase = .stopped := by
      cases hphase : janitor.phase with
      | starting => exact Or.inl (phase_schedule_wake_of_starting hphase hdue.2 turn lingers).1
      | sweeping =>
          rw [wake_of_sweeping hphase hdue.2]
          exact Or.inl hphase
      | leaving =>
          rw [wake_of_leaving hphase hdue]
          exact Or.inr rfl
      | stopped => exact absurd hphase hdue.1
    rcases h with h | h <;> rcases hphase with hphase | hphase <;> cases h.symm.trans hphase
  · rw [wake_of_not_dueAt hdue]

theorem awaiting_of_stop (h : janitor.stop.Awaiting) : janitor.Awaiting := by
  by_cases hrunning : janitor.running
  · rcases running_iff.1 hrunning with hphase | hphase
    · exact Or.inl hphase
    · rw [stop_of_sweeping hphase] at h
      rcases h with h | h <;> cases h
  · rwa [stop_of_not_running hrunning] at h

theorem due_of_awaiting_start {timer : Timer} {interval : Duration} {now turn : Nat}
    (h : (start timer interval now turn).Awaiting) :
    (start timer interval now turn).schedule.due = now ∧ now % nanosPerMilli ≠ 0 := by
  by_cases hmilli : now % nanosPerMilli = 0
  · have hphase := (start_of_mod_eq_zero timer interval hmilli turn).1
    rcases h with h | h <;> cases h.symm.trans hphase
  · rw [(start_of_mod_ne_zero timer interval hmilli turn).2]
    exact ⟨rfl, hmilli⟩

/-- The first beat is due at the start, and a janitor awaits it only if no millisecond begins
there. -/
theorem Lives.due_of_awaiting {timer : Timer} {interval : Duration} {now turn : Nat}
    (h : Lives (start timer interval now turn) log last) (hawaiting : last.Awaiting) :
    last.schedule.due = now ∧ now % nanosPerMilli ≠ 0 := by
  induction h with
  | rest => exact due_of_awaiting_start hawaiting
  | wake _ _ _ _ _ ih =>
      have hsame := wake_of_awaiting hawaiting
      rw [hsame] at hawaiting ⊢
      exact ih hawaiting
  | stop _ ih =>
      rw [schedule_stop]
      exact ih (awaiting_of_stop hawaiting)

/-! ### After the order to stop -/

theorem not_running_of_stopped (h : janitor.phase = .stopped) : ¬janitor.running := by
  rw [running_iff, h]
  decide

theorem phase_of_not_running (h : ¬janitor.running) :
    janitor.phase = .leaving ∨ janitor.phase = .stopped := by
  rw [running_iff] at h
  cases hphase : janitor.phase with
  | starting => exact absurd (Or.inl hphase) h
  | sweeping => exact absurd (Or.inr hphase) h
  | leaving => exact Or.inl rfl
  | stopped => exact Or.inr rfl

theorem wake_of_not_running (h : ¬janitor.running) (now turn lingers : Nat) :
    janitor.wake now turn lingers = (0, janitor) ∨
      (janitor.phase = .leaving ∧
        janitor.wake now turn lingers =
          (janitor.sweepsBy now lingers, { janitor with phase := .stopped })) := by
  by_cases hdue : janitor.DueAt now
  · have hphase := (phase_of_not_running h).resolve_right hdue.1
    exact Or.inr ⟨hphase, wake_of_leaving hphase hdue turn lingers⟩
  · exact Or.inl (wake_of_not_dueAt hdue turn lingers)

theorem running_of_running_wake {now turn lingers : Nat}
    (h : (janitor.wake now turn lingers).2.running) : janitor.running := by
  by_contra hidle
  rcases wake_of_not_running hidle now turn lingers with hsame | ⟨-, hleft⟩
  · rw [hsame] at h
    exact hidle h
  · rw [hleft] at h
    exact not_running_of_stopped rfl h

/-- The sweeps of a janitor that leaves fit into the lateness that leaves no due time out. -/
theorem sweepsBy_mul_period_le (h : janitor.phase = .leaving) (now lingers : Nat) :
    janitor.sweepsBy now lingers * janitor.schedule.period ≤ Schedule.lateness := by
  have hle : janitor.sweepsBy now lingers ≤ janitor.schedule.beatsBy now - 1 := by
    rw [sweepsBy, h]
    exact min_le_right _ _
  exact (Nat.mul_le_mul_right _ hle).trans (janitor.schedule.pred_beatsBy_mul_period_le now)

/-- What becomes of a janitor that was told to stop, and what it logs meanwhile: it may leave once,
with some last sweeps if its interval is short. -/
inductive Leaves (first : Janitor) : List Event → Janitor → Prop where
  | waits : Leaves first [] first
  | leaves (hphase : first.phase = .leaving) (removals : List Nat)
    (hsweeps : removals.length * first.schedule.period ≤ Schedule.lateness) :
    Leaves first (sweepLog removals ++ [.janitorStopped]) { first with phase := .stopped }

theorem Leaves.not_running (h : Leaves first log last) (hfirst : ¬first.running) :
    ¬last.running := by
  cases h with
  | waits => exact hfirst
  | leaves => exact not_running_of_stopped rfl

theorem Lives.leaves (h : Lives first log last) (hfirst : ¬first.running) :
    Leaves first log last := by
  induction h with
  | rest => exact .waits
  | @wake log janitor _ now turn lingers removals hsweeps ih =>
      rcases wake_of_not_running (ih.not_running hfirst) now turn lingers with
        hsame | ⟨hphase, hleft⟩
      · rw [hsame] at hsweeps ⊢
        have hquiet : log ++ (sweepLog [] ++ []) = log := List.append_nil log
        rw [farewell_self, List.length_eq_zero_iff.1 hsweeps, hquiet]
        exact ih
      · rw [hleft] at hsweeps ⊢
        rw [farewell_of_stops (by rw [hphase]; decide) rfl]
        cases ih with
        | waits =>
            refine .leaves hphase removals ?_
            rw [hsweeps]
            exact sweepsBy_mul_period_le hphase now lingers
        | leaves => cases hphase
  | stop _ ih =>
      rw [stop_of_not_running (ih.not_running hfirst), farewell_self, List.append_nil]
      exact ih

end Janitor

end ExpiringCache
