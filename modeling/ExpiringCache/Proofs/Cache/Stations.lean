import ExpiringCache.Cache
import ExpiringCache.Proofs.Janitor.Beats
import Mathlib.Data.List.Nodup
/-!
# Where a cache keeps its janitors

A cache keeps one janitor that is resident and, in the order in which it let them go, the janitors
it had before. A wake changes the janitor at one station and no other; letting go moves the resident
one behind all others.
-/

namespace ExpiringCache

/-- Where a janitor is once the resident one has been let go, behind so many others. -/
def Station.moved (behind : Nat) : Station → Station
  | .resident => .former behind
  | .former index => .former index

namespace Cache

variable {ν : Type} {cache : Cache ν} {janitor : Janitor} {station other : Station}

theorem mem_janitors :
    (station, janitor) ∈ cache.janitors ↔ cache.janitorAt? station = some janitor := by
  cases station with
  | resident => simp [janitors, janitorAt?]
  | former index => simp [janitors, janitorAt?, List.mem_zipIdx_iff_getElem?]

theorem nodup_stations (cache : Cache ν) : (cache.janitors.map Prod.fst).Nodup := by
  have hformer : (cache.former.zipIdx.map fun item => Station.former item.2).Nodup := by
    have hindices : (cache.former.zipIdx.map Prod.snd).Nodup := by
      rw [List.zipIdx_map_snd]
      exact List.nodup_range'
    have hinj : Function.Injective Station.former := fun _ _ => Station.former.inj
    have hmap := List.Nodup.map hinj hindices
    rwa [List.map_map] at hmap
  have hapart : ∀ station ∈ cache.janitor?.toList.map fun _ => Station.resident,
      station ∉ cache.former.zipIdx.map fun item => Station.former item.2 := by
    intro station hresident hmem
    obtain ⟨_, -, rfl⟩ := List.mem_map.1 hresident
    obtain ⟨_, -, heq⟩ := List.mem_map.1 hmem
    cases heq
  rw [janitors, List.map_append, List.map_map, List.map_map, List.nodup_append]
  refine ⟨?_, hformer, fun station hresident other hother heq => ?_⟩
  · cases cache.janitor? <;> simp
  · exact hapart station hresident (heq ▸ hother)

theorem isSome_janitorAt?_former {index : Nat} :
    (cache.janitorAt? (.former index)).isSome ↔ index < cache.former.length := by
  simp [janitorAt?]

/-! ### Another janitor at a station -/

section SetJanitor

variable (cache : Cache ν) (station : Station) (janitor : Janitor)

@[simp]
theorem store_setJanitor : (cache.setJanitor station janitor).store = cache.store := by
  cases station <;> rfl

@[simp]
theorem timer_setJanitor : (cache.setJanitor station janitor).timer = cache.timer := by
  cases station <;> rfl

@[simp]
theorem discarded_setJanitor :
    (cache.setJanitor station janitor).discarded = cache.discarded := by
  cases station <;> rfl

end SetJanitor

theorem janitorAt?_setJanitor_self (h : (cache.janitorAt? station).isSome) (janitor : Janitor) :
    (cache.setJanitor station janitor).janitorAt? station = some janitor := by
  cases station with
  | resident => rfl
  | former index => exact List.getElem?_set_self (isSome_janitorAt?_former.1 h)

theorem janitorAt?_setJanitor_of_ne (h : other ≠ station) (janitor : Janitor) :
    (cache.setJanitor other janitor).janitorAt? station = cache.janitorAt? station := by
  cases other with
  | resident =>
      cases station with
      | resident => exact absurd rfl h
      | former index => rfl
  | former woken =>
      cases station with
      | resident => rfl
      | former index => exact List.getElem?_set_ne fun heq => h (congrArg Station.former heq)

theorem setJanitor_eq_self (h : cache.janitorAt? station = some janitor) :
    cache.setJanitor station janitor = cache := by
  cases station with
  | resident =>
      rw [setJanitor, ← show cache.janitor? = some janitor from h]
  | former index =>
      obtain ⟨hlt, hjanitor⟩ := List.getElem?_eq_some_iff.1 h
      rw [setJanitor, ← hjanitor, List.set_getElem_self]

/-! ### Orders to stop -/

theorem janitorAt?_stop (cache : Cache ν) (station : Station) :
    cache.stop.janitorAt? station =
      if station = .resident then (cache.janitorAt? station).map Janitor.stop
      else cache.janitorAt? station := by
  cases station with
  | resident => rfl
  | former index => rfl

theorem janitorAt?_letGo_moved_resident (cache : Cache ν) :
    cache.letGo.janitorAt? (Station.resident.moved cache.former.length) = cache.stop.janitor? := by
  have hlast : cache.stop.janitor?.toList[0]? = cache.stop.janitor? := by
    cases cache.stop.janitor? <;> rfl
  calc (cache.former ++ cache.stop.janitor?.toList)[cache.former.length]?
      = cache.stop.janitor?.toList[cache.former.length - cache.former.length]? :=
        List.getElem?_append_right le_rfl
    _ = cache.stop.janitor? := by rw [Nat.sub_self, hlast]

theorem janitorAt?_letGo_moved (cache : Cache ν) (station : Station)
    (h : (cache.janitorAt? station).isSome) :
    cache.letGo.janitorAt? (station.moved cache.former.length) =
      cache.stop.janitorAt? station := by
  cases station with
  | resident => exact cache.janitorAt?_letGo_moved_resident
  | former index => exact List.getElem?_append_left (isSome_janitorAt?_former.1 h)

theorem moved_inj (h : (cache.janitorAt? station).isSome) (hother : (cache.janitorAt? other).isSome)
    (heq : station.moved cache.former.length = other.moved cache.former.length) :
    station = other := by
  cases station with
  | resident =>
      cases other with
      | resident => rfl
      | former index =>
          have hlt := isSome_janitorAt?_former.1 hother
          exact absurd (Station.former.inj heq) hlt.ne'
  | former index =>
      cases other with
      | resident =>
          have hlt := isSome_janitorAt?_former.1 h
          exact absurd (Station.former.inj heq) hlt.ne
      | former index' => exact heq

/-- Whoever is at a station after the resident janitor was let go was at one before. -/
theorem exists_of_janitorAt?_letGo (h : (cache.letGo.janitorAt? station).isSome) :
    ∃ before, (cache.janitorAt? before).isSome ∧
      before.moved cache.former.length = station := by
  cases station with
  | resident => exact absurd h Bool.false_ne_true
  | former index =>
      by_cases hlt : index < cache.former.length
      · exact ⟨.former index, isSome_janitorAt?_former.2 hlt, rfl⟩
      · have hbound : index < (cache.former ++ cache.stop.janitor?.toList).length :=
          isSome_janitorAt?_former.1 h
        cases hjanitor : cache.janitor? with
        | none =>
            rw [stop, hjanitor] at hbound
            exact absurd (by simpa using hbound) hlt
        | some janitor =>
            rw [stop, hjanitor] at hbound
            have hindex : cache.former.length = index := by
              have hle : index < cache.former.length + 1 := by simpa using hbound
              omega
            exact ⟨.resident, by rw [janitorAt?, hjanitor]; rfl, congrArg Station.former hindex⟩

/-! ### Wakes -/

/-- The janitor at the station has nothing to do. -/
def RestsAt (cache : Cache ν) (station : Station) (now : Nat) : Prop :=
  ∀ janitor, cache.janitorAt? station = some janitor → ¬janitor.DueAt now

theorem wake_of_none (h : cache.janitorAt? station = none) (now turn lingers : Nat)
    (clock : Clock) : cache.wake station now turn lingers clock = (cache, clock, []) := by
  rw [wake, h]

theorem wake_of_janitor (h : cache.janitorAt? station = some janitor) (now turn lingers : Nat)
    (clock : Clock) :
    (cache.wake station now turn lingers clock).1 =
      { cache with
        store := (sweep cache.store clock (janitor.wake now turn lingers).1).1 }.setJanitor
          station (janitor.wake now turn lingers).2 := by
  simp only [wake, h]

theorem janitorAt?_with_store (cache : Cache ν) (store : Store String ν) (station : Station) :
    { cache with store }.janitorAt? station = cache.janitorAt? station := by
  cases station <;> rfl

theorem janitorAt?_wake_self (h : cache.janitorAt? station = some janitor)
    (now turn lingers : Nat) (clock : Clock) :
    (cache.wake station now turn lingers clock).1.janitorAt? station =
      some (janitor.wake now turn lingers).2 := by
  rw [wake_of_janitor h]
  apply janitorAt?_setJanitor_self
  rw [janitorAt?_with_store, h]
  rfl

theorem janitorAt?_wake_of_ne (h : other ≠ station) (now turn lingers : Nat) (clock : Clock) :
    (cache.wake other now turn lingers clock).1.janitorAt? station =
      cache.janitorAt? station := by
  cases hjanitor : cache.janitorAt? other with
  | none => rw [wake_of_none hjanitor]
  | some janitor =>
      rw [wake_of_janitor hjanitor, janitorAt?_setJanitor_of_ne h, janitorAt?_with_store]

theorem discarded_wake (cache : Cache ν) (station : Station) (now turn lingers : Nat)
    (clock : Clock) :
    (cache.wake station now turn lingers clock).1.discarded = cache.discarded := by
  cases hjanitor : cache.janitorAt? station with
  | none => rw [wake_of_none hjanitor]
  | some janitor => rw [wake_of_janitor hjanitor, discarded_setJanitor]

theorem wake_of_rests {now : Nat} (h : cache.RestsAt station now) (turn lingers : Nat)
    (clock : Clock) : (cache.wake station now turn lingers clock).1 = cache := by
  cases hjanitor : cache.janitorAt? station with
  | none => rw [wake_of_none hjanitor]
  | some janitor =>
      rw [wake_of_janitor hjanitor, Janitor.wake_of_not_dueAt (h janitor hjanitor)]
      exact setJanitor_eq_self hjanitor

theorem restsAt_wake (cache : Cache ν) (station : Station) (now turn lingers : Nat)
    (clock : Clock) : (cache.wake station now turn lingers clock).1.RestsAt station now := by
  intro woken hwoken
  cases hjanitor : cache.janitorAt? station with
  | none =>
      rw [wake_of_none hjanitor, hjanitor] at hwoken
      exact (Option.some_ne_none woken hwoken.symm).elim
  | some janitor =>
      rw [janitorAt?_wake_self hjanitor] at hwoken
      obtain rfl := Option.some.inj hwoken
      exact janitor.not_dueAt_wake now turn lingers

/-! ### What all janitors have -/

def HasJanitors (property : Janitor → Prop) (cache : Cache ν) : Prop :=
  ∀ station janitor, cache.janitorAt? station = some janitor → property janitor

section HasJanitors

variable {property : Janitor → Prop}

theorem HasJanitors.with_store (h : cache.HasJanitors property) (store : Store String ν) :
    { cache with store }.HasJanitors property := by
  intro station janitor hjanitor
  rw [janitorAt?_with_store] at hjanitor
  exact h station janitor hjanitor

theorem HasJanitors.stop (h : cache.HasJanitors property)
    (hstop : ∀ janitor, property janitor → property janitor.stop) :
    cache.stop.HasJanitors property := by
  intro station janitor hjanitor
  rw [janitorAt?_stop] at hjanitor
  split at hjanitor
  · obtain ⟨before, hbefore, rfl⟩ := Option.map_eq_some_iff.1 hjanitor
    exact hstop before (h station before hbefore)
  · exact h station janitor hjanitor

theorem HasJanitors.letGo (h : cache.HasJanitors property)
    (hstop : ∀ janitor, property janitor → property janitor.stop) :
    cache.letGo.HasJanitors property := by
  intro station janitor hjanitor
  obtain ⟨before, hbefore, rfl⟩ :=
    exists_of_janitorAt?_letGo (Option.isSome_iff_exists.2 ⟨janitor, hjanitor⟩)
  rw [janitorAt?_letGo_moved cache before hbefore] at hjanitor
  exact h.stop hstop before janitor hjanitor

theorem HasJanitors.hire (h : cache.HasJanitors property) (hproperty : property janitor) :
    { cache with janitor? := some janitor }.HasJanitors property := by
  intro station found hfound
  cases station with
  | resident => exact Option.some.inj hfound ▸ hproperty
  | former index => exact h (.former index) found hfound

theorem hasJanitors_of_none (hjanitor : cache.janitor? = none) (hformer : cache.former = []) :
    cache.HasJanitors property := by
  intro station janitor hfound
  cases station with
  | resident => exact (Option.some_ne_none janitor (hfound.symm.trans hjanitor)).elim
  | former index =>
      rw [janitorAt?, hformer, List.getElem?_nil] at hfound
      exact (Option.some_ne_none janitor hfound.symm).elim

end HasJanitors

end Cache

end ExpiringCache
