import ExpiringCache.Time.Duration
/-!
# Schedules

A schedule has a period and the time at which its next beat is due, both in nanoseconds of a clock
that never goes back. The timer works in whole milliseconds: a beat can come once the millisecond in
which it is due, rounded up, has begun.

A beat that comes at most `lateness` after its due time is followed by one a period after that due
time. After a later one the due times in between are left out, and the next is the first point of
the same grid that lies ahead.

`catchUp` gives every beat that is due at one moment. Every beat moves the due time forward, so it
ends. Due times have no upper bound: one that the clock never reaches is never due.

A timer may have a longest period, to which it cuts a longer one. What is known of schedules is
known for every timer, the unlimited one among them.
-/

namespace ExpiringCache

structure Schedule where
  period : Nat
  due : Nat
  le_period : nanosPerMilli ≤ period
deriving DecidableEq

namespace Schedule

/-- How late a beat may come without a due time being left out. -/
def lateness : Nat := 5 * nanosPerMilli

/-- The millisecond from whose beginning on the next beat can come. -/
def dueMilli (schedule : Schedule) : Nat := (schedule.due + (nanosPerMilli - 1)) / nanosPerMilli

/-- The next beat can come. -/
def DueAt (schedule : Schedule) (now : Nat) : Prop := schedule.dueMilli ≤ now / nanosPerMilli

instance (schedule : Schedule) (now : Nat) : Decidable (schedule.DueAt now) :=
  inferInstanceAs (Decidable (schedule.dueMilli ≤ now / nanosPerMilli))

def nextDue (schedule : Schedule) (now : Nat) : Nat :=
  if now ≤ schedule.due + lateness then schedule.due + schedule.period
  else now + (schedule.period - (now - schedule.due) % schedule.period)

def step (schedule : Schedule) (now : Nat) : Schedule :=
  { schedule with due := schedule.nextDue now }

theorem due_le_of_dueAt {schedule : Schedule} {now : Nat} (h : schedule.DueAt now) :
    schedule.due ≤ now := by
  simp only [DueAt, dueMilli, nanosPerMilli] at h
  omega

theorem due_lt_nextDue (schedule : Schedule) (now : Nat) : schedule.due < schedule.nextDue now := by
  have hperiod := schedule.le_period
  have hmod : (now - schedule.due) % schedule.period < schedule.period :=
    Nat.mod_lt _ (by simp only [nanosPerMilli] at hperiod; omega)
  simp only [nanosPerMilli] at hperiod
  rw [nextDue]
  split
  · omega
  · simp only [lateness, nanosPerMilli] at *
    omega

/-- Gives every beat that is due: how many there are, and the schedule after them. -/
def catchUp (schedule : Schedule) (now : Nat) : Nat × Schedule :=
  if _h : schedule.DueAt now then
    let (beats, schedule) := (schedule.step now).catchUp now
    (beats + 1, schedule)
  else (0, schedule)
termination_by now + 1 - schedule.due
decreasing_by
  have hdue := due_le_of_dueAt _h
  have hnext := due_lt_nextDue schedule now
  simp only [step]
  omega

theorem catchUp_of_not_dueAt {schedule : Schedule} {now : Nat} (h : ¬schedule.DueAt now) :
    schedule.catchUp now = (0, schedule) := by
  rw [catchUp, dif_neg h]

theorem catchUp_of_dueAt {schedule : Schedule} {now : Nat} (h : schedule.DueAt now) :
    schedule.catchUp now =
      (((schedule.step now).catchUp now).1 + 1, ((schedule.step now).catchUp now).2) := by
  rw [catchUp, dif_pos h]

theorem not_dueAt_catchUp (schedule : Schedule) (now : Nat) :
    ¬(schedule.catchUp now).2.DueAt now := by
  fun_induction schedule.catchUp now with
  | case1 schedule h beats later heq ih => simpa [heq] using ih
  | case2 schedule h => exact h

end Schedule

/-- What schedules are kept by. -/
structure Timer where
  /-- The longest period, if there is one. -/
  longest? : Option Duration
  lateness_lt : ∀ longest ∈ longest?, Schedule.lateness < longest.toNanos

namespace Timer

/-- The timer that keeps to every period. -/
def unlimited : Timer where
  longest? := none
  lateness_lt _ hmem := absurd hmem (Option.not_mem_none _)

/-- Thirty years of 365 days. -/
def thirtyYears : Duration := .ofSeconds 946080000

theorem lateness_lt_thirtyYears : Schedule.lateness < thirtyYears.toNanos := by decide

/-- The timer that cuts periods to thirty years. -/
def standard : Timer where
  longest? := some thirtyYears
  lateness_lt _ hmem := Option.mem_some.1 hmem ▸ lateness_lt_thirtyYears

variable {timer : Timer} {asked : Duration}

/-- The period that the timer keeps to where it is asked for one. -/
def period (timer : Timer) (asked : Duration) : Duration :=
  match timer.longest? with
  | none => asked
  | some longest => if longest < asked then longest else asked

theorem period_eq (h : ∀ longest ∈ timer.longest?, ¬longest < asked) :
    timer.period asked = asked := by
  unfold period
  cases hlongest : timer.longest? with
  | none => rfl
  | some longest => exact if_neg (h longest hlongest)

theorem period_eq_or_longer (timer : Timer) (asked : Duration) :
    timer.period asked = asked ∨
      timer.period asked < asked ∧ Schedule.lateness < (timer.period asked).toNanos := by
  unfold period
  split
  · exact Or.inl rfl
  · rename_i longest hlongest
    split
    · rename_i hlt
      exact Or.inr ⟨hlt, timer.lateness_lt longest hlongest⟩
    · exact Or.inl rfl

theorem toNanos_period_le (timer : Timer) (asked : Duration) :
    (timer.period asked).toNanos ≤ asked.toNanos := by
  rcases timer.period_eq_or_longer asked with heq | ⟨hlt, -⟩
  · exact Nat.le_of_eq (congrArg Duration.toNanos heq)
  · exact Nat.le_of_lt ((Duration.lt_iff _ _).1 hlt)

theorem lateness_lt_period_iff (timer : Timer) (asked : Duration) :
    Schedule.lateness < (timer.period asked).toNanos ↔ Schedule.lateness < asked.toNanos := by
  rcases timer.period_eq_or_longer asked with heq | ⟨hlt, hlong⟩
  · rw [heq]
  · exact iff_of_true hlong (Nat.lt_trans hlong ((Duration.lt_iff _ _).1 hlt))

theorem nanosPerMilli_le_toNanos_period (timer : Timer) (h : nanosPerMilli ≤ asked.toNanos) :
    nanosPerMilli ≤ (timer.period asked).toNanos := by
  rcases timer.period_eq_or_longer asked with heq | ⟨-, hlong⟩
  · rwa [heq]
  · exact Nat.le_of_lt (Nat.lt_of_le_of_lt (by decide) hlong)

end Timer

end ExpiringCache
