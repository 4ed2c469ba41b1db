import ExpiringCache.Proofs.Store.Operations
import ExpiringCache.Store.Request
/-!
# The expiry of a write

A write at a time of the calendar expires its time to live later, or with the calendar if that is
earlier. There are two ways to the end of the calendar: a time to live that is too long to be
counted takes no reading at all, and a sum may lie past the last instant. The calendar is shorter
than the longest time to live that is counted, so on either way the plain sum lies past it, and the
expiry is one minimum.
-/

namespace ExpiringCache

theorem Duration.longestShift_lt_iff {d : Duration} :
    longestShift < d ↔ 9223372036854775807 * nanosPerMilli < d.toNanos := by
  have hlongest : longestShift.toNanos = 9223372036854775807 * nanosPerMilli := by decide
  rw [lt_iff, hlongest]

namespace Instant

def OnCalendar (t : Instant) : Prop := first ≤ t ∧ t ≤ last

theorem eq_ofNanos_iff {t : Instant} {nanos : Int} : t = ofNanos nanos ↔ t.toNanos = nanos := by
  rw [← toNanos_inj, toNanos_ofNanos]

end Instant

namespace Clock

variable {clock later : Clock} {ttl longer : Duration} {n m : Nat} {t : Instant}

/-- Both ways to the end of the calendar agree with the plain sum. -/
theorem toNanos_expiry (h : Instant.first ≤ clock.reading n) (ttl : Duration) :
    (clock.expiry ttl n).toNanos =
      min ((clock.reading n).toNanos + ttl.toNanos) Instant.last.toNanos := by
  rw [expiry]
  by_cases hlong : Duration.longestShift < ttl
  · have hpast : Instant.last < clock.reading n + ttl := Instant.last_lt_add h hlong
    rw [Instant.lt_iff, Instant.toNanos_add] at hpast
    rw [if_pos hlong]
    exact (Int.min_eq_right (Int.le_of_lt hpast)).symm
  · rw [if_neg hlong, Instant.toNanos_plusCapped]

theorem expiry_le_expiry (h : Instant.first ≤ clock.reading n)
    (hreading : clock.reading n ≤ later.reading m) (httl : ttl ≤ longer) :
    clock.expiry ttl n ≤ later.expiry longer m := by
  have hlater : Instant.first ≤ later.reading m := Int.le_trans h hreading
  rw [Instant.le_iff, toNanos_expiry h, toNanos_expiry hlater]
  rw [Instant.le_iff] at hreading
  rw [Duration.le_iff] at httl
  omega

theorem expiry_onCalendar (h : (clock.reading n).OnCalendar) (ttl : Duration) :
    (clock.expiry ttl n).OnCalendar := by
  refine ⟨Int.le_trans h.1 (reading_le_expiry h.2 ttl), ?_⟩
  rw [Instant.le_iff, toNanos_expiry h.1]
  exact Int.min_le_right _ _

/-- On the calendar a write is live as long as no more than its time to live has gone by. -/
theorem le_expiry_iff (h : Instant.first ≤ clock.reading n) (ht : t ≤ Instant.last) :
    t ≤ clock.expiry ttl n ↔ t.toNanos - (clock.reading n).toNanos ≤ ttl.toNanos := by
  rw [Instant.le_iff] at ht ⊢
  rw [toNanos_expiry h]
  omega

end Clock

namespace Store

variable {κ ν : Type} [DecidableEq κ]

theorem fst_lookup_put (store : Store κ ν) (key : κ) (payload : ν) (ttl : Duration)
    (clock after : Clock) :
    ((store.put key payload ttl clock).1.lookup key after).1 =
      if after.reading 0 ≤ clock.expiry ttl 0 then
        some { payload, expiresAt := clock.expiry ttl 0 }
      else none := by
  have hfound : (store.put key payload ttl clock).1.table.get? key =
      some { payload, expiresAt := clock.expiry ttl 0 } := by
    rw [put_eq]
    exact Table.get?_insert_self _ _ _
  refine Option.ext fun entry => ?_
  rw [lookup_fst_eq_some_iff, hfound]
  split
  · rename_i hlive
    constructor
    · exact And.left
    · intro hentry
      obtain rfl := Option.some.inj hentry
      exact ⟨rfl, hlive⟩
  · rename_i hexpired
    refine iff_of_false ?_ (Option.some_ne_none entry).symm
    rintro ⟨hentry, hlive⟩
    obtain rfl := Option.some.inj hentry
    exact hexpired hlive

/-- **The expiry of a write is exact.** At any time of the calendar and for any time to live it is
the earlier of the plain sum and the last instant, in whole nanoseconds; only a time to live above
the longest that can be counted takes no reading, and then the plain sum is past the last instant
too. So the expiry lies on the calendar and not before the write, and it grows with the time and
with the time to live. A lookup on the calendar finds the entry just if no more than the time to
live has gone by; an entry that lasts to the end of the calendar never expires, and one without a
time to live is still live at the time of its write. -/
theorem deadline_is_exact (store : Store κ ν) (key : κ) (payload : ν) (clock : Clock)
    (ttl : Duration) (hnow : (clock.reading 0).OnCalendar) :
    let now := clock.reading 0
    let expiresAt := (clock.deadline ttl).1
    let written := (store.put key payload ttl clock).1
    expiresAt = .ofNanos (min (now.toNanos + ttl.toNanos) Instant.last.toNanos) ∧
    ((clock.deadline ttl).2 =
      if 9223372036854775807 * nanosPerMilli < ttl.toNanos then clock else clock.skip 1) ∧
    (9223372036854775807 * nanosPerMilli < ttl.toNanos →
      Instant.last.toNanos < now.toNanos + ttl.toNanos) ∧
    (expiresAt.OnCalendar ∧ now ≤ expiresAt) ∧
    (∀ (later : Clock) (longer : Duration), now ≤ later.reading 0 → ttl ≤ longer →
      expiresAt ≤ (later.deadline longer).1) ∧
    (∀ after : Clock, after.reading 0 ≤ Instant.last →
      let hit := (after.reading 0).toNanos - now.toNanos ≤ ttl.toNanos
      (written.serve after (.get key)).1 = .payload (if hit then some payload else none) ∧
      (written.serve after (.getWithExpiry key)).1 =
        .entry (if hit then some { payload, expiresAt } else none)) ∧
    (expiresAt = Instant.last →
      ∀ t ≤ Instant.last, ¬({ payload, expiresAt } : Entry ν).ExpiredAt t) ∧
    (ttl.toNanos = 0 → expiresAt = now ∧ ¬({ payload, expiresAt } : Entry ν).ExpiredAt now) := by
  intro now expiresAt written
  have hexpiry : expiresAt = clock.expiry ttl 0 := congrArg Prod.fst (Clock.deadline_eq clock ttl)
  have hnanos : expiresAt.toNanos = min (now.toNanos + ttl.toNanos) Instant.last.toNanos :=
    hexpiry ▸ Clock.toNanos_expiry hnow.1 ttl
  have hlive : now ≤ expiresAt := hexpiry ▸ Clock.reading_le_expiry hnow.2 ttl
  have hcalendar : expiresAt.OnCalendar := hexpiry ▸ Clock.expiry_onCalendar hnow ttl
  refine ⟨Instant.eq_ofNanos_iff.2 hnanos, ?_, ?_, ⟨hcalendar, hlive⟩, ?_, ?_, ?_, ?_⟩
  · simp only [Clock.deadline_eq, Clock.taken, Duration.longestShift_lt_iff]
    split
    · exact Clock.skip_zero clock
    · rfl
  · intro hlong
    have hpast : Instant.last < now + ttl :=
      Instant.last_lt_add hnow.1 (Duration.longestShift_lt_iff.2 hlong)
    rwa [Instant.lt_iff, Instant.toNanos_add] at hpast
  · intro later longer hlater hlonger
    rw [hexpiry, Clock.deadline_eq]
    exact Clock.expiry_le_expiry hnow.1 hlater hlonger
  · intro after hafter hit
    have hfound : (written.lookup key after).1 =
        if hit then some { payload, expiresAt } else none := by
      rw [fst_lookup_put, hexpiry]
      exact if_congr (Clock.le_expiry_iff hnow.1 hafter) rfl rfl
    constructor
    · calc (written.serve after (.get key)).1
          = .payload ((written.lookup key after).1.map (·.payload)) := rfl
        _ = .payload (if hit then some payload else none) := by
            rw [hfound, apply_ite (Option.map _), Option.map_some, Option.map_none]
    · calc (written.serve after (.getWithExpiry key)).1
          = .entry (written.lookup key after).1 := rfl
        _ = .entry (if hit then some { payload, expiresAt } else none) := by rw [hfound]
  · intro hlast t ht
    rw [Entry.not_expiredAt]
    exact hlast ▸ ht
  · intro hzero
    refine ⟨?_, Entry.not_expiredAt.2 hlive⟩
    have hlast : now.toNanos ≤ Instant.last.toNanos := hnow.2
    rw [← Instant.toNanos_inj, hnanos, hzero]
    omega

/-- A nanosecond before the epoch the nanoseconds carry into the seconds. -/
theorem deadline_is_exact_before_epoch :
    let clock : Clock := { steady := .ofNanos (-1) }
    let ttl : Duration := .ofMillis 1001
    let written := (({} : Store String String).put "k" "v" ttl clock).1
    (clock.reading 0).OnCalendar ∧ (clock.deadline ttl).1 = .ofNanos 1000999999 ∧
      (written.serve { steady := .ofNanos 1000999999 } (.get "k")).1 = .payload (some "v") ∧
      (written.serve { steady := .ofNanos 1001000000 } (.get "k")).1 = .payload none := by
  intro clock ttl written
  have hnow : (clock.reading 0).OnCalendar := ⟨by decide, by decide⟩
  obtain ⟨hexact, -, -, -, -, hlookups, -⟩ :=
    deadline_is_exact ({} : Store String String) "k" "v" clock ttl hnow
  have hlast := (hlookups { steady := .ofNanos 1000999999 } (by decide)).1
  have hlate := (hlookups { steady := .ofNanos 1001000000 } (by decide)).1
  exact ⟨hnow, hexact.trans (by decide), hlast.trans (by rw [if_pos (by decide)]),
    hlate.trans (by rw [if_neg (by decide)])⟩

end Store

end ExpiringCache
