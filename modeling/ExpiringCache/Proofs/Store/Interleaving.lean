import ExpiringCache.Proofs.Store.Expiry
import ExpiringCache.Proofs.Store.Independent
/-!
# Interleavings

The requests of several callers in one order, each step with its caller. If the steps of different
callers are independent, two orders in which every caller makes the same requests agree: the first
step of one order moves, in the other, past steps of other callers only, and what is left agrees by
induction.
-/

namespace ExpiringCache

/-- What a caller does in a list of steps, in order. -/
def ofCaller {α : Type} (caller : Nat) (steps : List (Nat × α)) : List α :=
  (steps.filter fun step => step.1 = caller).map Prod.snd

section OfCaller

variable {α : Type} {caller : Nat}

theorem ofCaller_append (first second : List (Nat × α)) :
    ofCaller caller (first ++ second) = ofCaller caller first ++ ofCaller caller second := by
  rw [ofCaller, List.filter_append, List.map_append]
  rfl

@[simp]
theorem ofCaller_cons_self (caller : Nat) (x : α) (rest : List (Nat × α)) :
    ofCaller caller ((caller, x) :: rest) = x :: ofCaller caller rest := by
  simp [ofCaller]

theorem ofCaller_cons_of_ne {other : Nat} (h : other ≠ caller) (x : α) (rest : List (Nat × α)) :
    ofCaller caller ((other, x) :: rest) = ofCaller caller rest := by
  simp [ofCaller, h]

theorem ofCaller_swap {first second : Nat} (h : first ≠ second) (x y : α)
    (rest : List (Nat × α)) :
    ofCaller caller ((first, x) :: (second, y) :: rest) =
      ofCaller caller ((second, y) :: (first, x) :: rest) := by
  by_cases hfirst : first = caller
  · subst hfirst
    simp only [ofCaller_cons_self, ofCaller_cons_of_ne h.symm]
  · rw [ofCaller_cons_of_ne hfirst]
    by_cases hsecond : second = caller
    · subst hsecond
      simp only [ofCaller_cons_self, ofCaller_cons_of_ne h]
    · simp only [ofCaller_cons_of_ne hfirst, ofCaller_cons_of_ne hsecond]

theorem ofCaller_map_self (caller : Nat) (xs : List α) :
    ofCaller caller (xs.map fun x => (caller, x)) = xs := by
  induction xs with
  | nil => rfl
  | cons x xs ih => rw [List.map_cons, ofCaller_cons_self, ih]

theorem mem_ofCaller_iff {steps : List (Nat × α)} {x : α} :
    x ∈ ofCaller caller steps ↔ (caller, x) ∈ steps := by
  rw [ofCaller, List.mem_map]
  constructor
  · rintro ⟨⟨found, x⟩, hmem, rfl⟩
    obtain ⟨hstep, hcaller⟩ := List.mem_filter.1 hmem
    obtain rfl := of_decide_eq_true hcaller
    exact hstep
  · exact fun h => ⟨(caller, x), List.mem_filter.2 ⟨h, decide_eq_true rfl⟩, rfl⟩

theorem ofCaller_eq_nil {steps : List (Nat × α)} (h : ∀ step ∈ steps, step.1 ≠ caller) :
    ofCaller caller steps = [] :=
  List.eq_nil_iff_forall_not_mem.2 fun _ hmem => h _ (mem_ofCaller_iff.1 hmem) rfl

theorem ofCaller_map_of_ne {other : Nat} (h : other ≠ caller) (xs : List α) :
    ofCaller caller (xs.map fun x => (other, x)) = [] := by
  refine ofCaller_eq_nil fun step hmem => ?_
  obtain ⟨x, -, rfl⟩ := List.mem_map.1 hmem
  exact h

/-- The first thing that a caller does comes after steps of other callers only. -/
theorem exists_of_ofCaller_eq_cons {steps : List (Nat × α)} {x : α} {rest : List α}
    (h : ofCaller caller steps = x :: rest) :
    ∃ before after, steps = before ++ (caller, x) :: after ∧ ∀ step ∈ before, step.1 ≠ caller := by
  obtain ⟨⟨found, x⟩, others, hfilter, rfl, -⟩ := List.map_eq_cons_iff.1 h
  obtain ⟨before, after, rfl, hbefore, hfound, -⟩ := List.filter_eq_cons_iff.1 hfilter
  obtain rfl := of_decide_eq_true hfound
  exact ⟨before, after, rfl, fun step hstep => by simpa using hbefore step hstep⟩

end OfCaller

namespace Store

variable {κ ν : Type} [DecidableEq κ]

/-- The responses to the steps of callers, each with its caller. -/
def answers (store : Store κ ν) (clock : Clock) (steps : List (Nat × Request κ ν)) :
    List (Nat × Response ν) :=
  (steps.map Prod.fst).zip (store.serveAll clock (steps.map Prod.snd)).1

def afterSteps (store : Store κ ν) (clock : Clock) (steps : List (Nat × Request κ ν)) :
    Store κ ν :=
  (store.serveAll clock (steps.map Prod.snd)).2.1

theorem mem_callers_of_mem_answers {store : Store κ ν} {clock : Clock}
    {steps : List (Nat × Request κ ν)} {answer : Nat × Response ν}
    (h : answer ∈ store.answers clock steps) : answer.1 ∈ steps.map Prod.fst :=
  (List.of_mem_zip h).1

theorem afterSteps_map (store : Store κ ν) (clock : Clock) (caller : Nat)
    (requests : List (Request κ ν)) :
    store.afterSteps clock (requests.map fun request => (caller, request)) =
      (store.serveAll clock requests).2.1 := by
  have hrequests : (requests.map fun request => (caller, request)).map Prod.snd = requests := by
    rw [List.map_map]
    exact List.map_id requests
  rw [afterSteps, hrequests]

/-- Both orders tell every caller the same and leave the same. -/
structure Agree (store : Store κ ν) (clock : Clock) (first second : List (Nat × Request κ ν)) :
    Prop where
  answers_eq : ∀ caller,
    ofCaller caller (store.answers clock first) = ofCaller caller (store.answers clock second)
  alike : (store.afterSteps clock first).Alike (store.afterSteps clock second)

variable {store s t : Store κ ν} {clock : Clock} {step other : Nat × Request κ ν}
  {first second third before after rest : List (Nat × Request κ ν)}

theorem Agree.refl (store : Store κ ν) (clock : Clock) (steps : List (Nat × Request κ ν)) :
    store.Agree clock steps steps :=
  ⟨fun _ => rfl, Alike.refl _⟩

theorem Agree.trans (h : store.Agree clock first second) (h' : store.Agree clock second third) :
    store.Agree clock first third :=
  ⟨fun caller => (h.answers_eq caller).trans (h'.answers_eq caller), h.alike.trans h'.alike⟩

section SteadyClock

variable (hqueued : clock.queued = [])

include hqueued

theorem answers_cons (store : Store κ ν) (step : Nat × Request κ ν)
    (rest : List (Nat × Request κ ν)) :
    store.answers clock (step :: rest) = (step.1, (store.serve clock step.2).1) ::
      (store.serve clock step.2).2.1.answers clock rest := by
  simp only [answers, List.map_cons, serveAll, serve_clock hqueued, List.zip_cons_cons]

theorem afterSteps_cons (store : Store κ ν) (step : Nat × Request κ ν)
    (rest : List (Nat × Request κ ν)) :
    store.afterSteps clock (step :: rest) =
      (store.serve clock step.2).2.1.afterSteps clock rest := by
  simp only [afterSteps, List.map_cons, serveAll, serve_clock hqueued]

theorem answers_append (store : Store κ ν) (first second : List (Nat × Request κ ν)) :
    store.answers clock (first ++ second) = store.answers clock first ++
      (store.afterSteps clock first).answers clock second := by
  induction first generalizing store with
  | nil => rfl
  | cons step rest ih =>
      rw [List.cons_append, answers_cons hqueued, answers_cons hqueued, afterSteps_cons hqueued, ih,
        List.cons_append]

theorem afterSteps_append (store : Store κ ν) (first second : List (Nat × Request κ ν)) :
    store.afterSteps clock (first ++ second) =
      (store.afterSteps clock first).afterSteps clock second := by
  induction first generalizing store with
  | nil => rfl
  | cons step rest ih =>
      rw [List.cons_append, afterSteps_cons hqueued, afterSteps_cons hqueued, ih]

theorem answers_map (store : Store κ ν) (caller : Nat) (requests : List (Request κ ν)) :
    store.answers clock (requests.map fun request => (caller, request)) =
      (store.serveAll clock requests).1.map fun response => (caller, response) := by
  induction requests generalizing store with
  | nil => rfl
  | cons request rest ih =>
      rw [List.map_cons, answers_cons hqueued, ih]
      simp only [serveAll, serve_clock hqueued, List.map_cons]

theorem Agree.cons (h : (store.serve clock step.2).2.1.Agree clock first second) :
    store.Agree clock (step :: first) (step :: second) := by
  obtain ⟨hanswers, halike⟩ := h
  refine ⟨fun caller => ?_, ?_⟩
  · rw [answers_cons hqueued, answers_cons hqueued]
    exact (ofCaller_append [_] _).trans
      ((congrArg (_ ++ ·) (hanswers caller)).trans (ofCaller_append [_] _).symm)
  · rw [afterSteps_cons hqueued, afterSteps_cons hqueued]
    exact halike

/-- Nobody can tell stores that are alike from one another. -/
theorem Alike.steps (h : s.Alike t) (hkeyed : ∀ step ∈ rest, step.2.key?.isSome) :
    s.answers clock rest = t.answers clock rest ∧
      (s.afterSteps clock rest).Alike (t.afterSteps clock rest) := by
  induction rest generalizing s t with
  | nil => exact ⟨rfl, h⟩
  | cons step rest ih =>
      obtain ⟨hstep, hrest⟩ := List.forall_mem_cons.1 hkeyed
      obtain ⟨hresponse, hafter⟩ := h.serve hstep clock
      obtain ⟨hanswers, hend⟩ := ih hafter hrest
      rw [answers_cons hqueued, answers_cons hqueued, afterSteps_cons hqueued,
        afterSteps_cons hqueued, hresponse, hanswers]
      exact ⟨rfl, hend⟩

theorem agree_swap (hcaller : step.1 ≠ other.1) (h : step.2.Independent other.2)
    (hkeyed : ∀ step ∈ rest, step.2.key?.isSome) :
    store.Agree clock (step :: other :: rest) (other :: step :: rest) := by
  obtain ⟨hother, hstep, halike⟩ := serve_comm h store clock
  obtain ⟨hanswers, hend⟩ := halike.steps hqueued hkeyed
  refine ⟨fun caller => ?_, ?_⟩
  · simp only [answers_cons hqueued, hother, hstep, hanswers]
    exact ofCaller_swap hcaller _ _ _
  · simp only [afterSteps_cons hqueued]
    exact hend

theorem agree_move
    (hbefore : ∀ other ∈ before, step.1 ≠ other.1 ∧ step.2.Independent other.2)
    (hkeyed : ∀ step ∈ after, step.2.key?.isSome) :
    store.Agree clock (step :: (before ++ after)) (before ++ step :: after) := by
  induction before generalizing store with
  | nil => exact Agree.refl _ _ _
  | cons other before ih =>
      obtain ⟨⟨hcaller, hother⟩, hbefore⟩ := List.forall_mem_cons.1 hbefore
      have hrest : ∀ step ∈ before ++ after, step.2.key?.isSome := by
        refine List.forall_mem_append.2 ⟨fun other hmem => ?_, hkeyed⟩
        exact (hbefore other hmem).2.isSome_right
      exact (agree_swap hqueued hcaller hother hrest).trans (Agree.cons hqueued (ih hbefore))

/-- Orders in which every caller makes the same requests agree. -/
theorem agree_of_ofCaller_eq (hsame : ∀ caller, ofCaller caller first = ofCaller caller second)
    (hkeyed : ∀ step ∈ first, step.2.key?.isSome)
    (hindependent : ∀ step ∈ first, ∀ other ∈ first, step.1 ≠ other.1 →
      step.2.Independent other.2) :
    store.Agree clock first second := by
  have hmem : ∀ step, step ∈ first ↔ step ∈ second := fun step => by
    rw [← mem_ofCaller_iff, hsame, mem_ofCaller_iff]
  induction first generalizing store second with
  | nil =>
      obtain rfl : second = [] := List.eq_nil_iff_forall_not_mem.2 fun step hstep =>
        List.not_mem_nil ((hmem step).2 hstep)
      exact Agree.refl _ _ _
  | cons step first ih =>
      -- The caller's first request in the other order comes after requests of others only, so it
      -- moves to the front there.
      obtain ⟨caller, request⟩ := step
      have hhead := (hsame caller).symm.trans (ofCaller_cons_self caller request first)
      obtain ⟨before, after, rfl, hbefore⟩ := exists_of_ofCaller_eq_cons hhead
      have hmoves : ∀ other ∈ before, caller ≠ other.1 ∧ request.Independent other.2 := by
        intro other hother
        have hcaller : caller ≠ other.1 := (hbefore other hother).symm
        refine ⟨hcaller, hindependent (caller, request) List.mem_cons_self other ?_ hcaller⟩
        exact (hmem other).2 (List.mem_append_left _ hother)
      have hrest : ∀ other, ofCaller other first = ofCaller other (before ++ after) := by
        intro other
        have hother := hsame other
        rw [ofCaller_append] at hother ⊢
        by_cases h : caller = other
        · subst h
          have hnone : ofCaller caller before = [] := ofCaller_eq_nil hbefore
          rw [ofCaller_cons_self, hnone, List.nil_append, ofCaller_cons_self] at hother
          rw [hnone, List.nil_append]
          exact (List.cons.inj hother).2
        · rwa [ofCaller_cons_of_ne h, ofCaller_cons_of_ne h] at hother
      have hkeyed' := (List.forall_mem_cons.1 hkeyed).2
      have hafter : ∀ step ∈ after, step.2.key?.isSome := fun other hother =>
        hkeyed other ((hmem other).2 (List.mem_append_right _ (List.mem_cons_of_mem _ hother)))
      have hagree : store.Agree clock ((caller, request) :: first)
          ((caller, request) :: (before ++ after)) := by
        refine Agree.cons hqueued (ih hrest hkeyed' ?_ fun other => ?_)
        · exact fun other hother third hthird =>
            hindependent other (List.mem_cons_of_mem _ hother) third (List.mem_cons_of_mem _ hthird)
        · rw [← mem_ofCaller_iff, hrest, mem_ofCaller_iff]
      exact hagree.trans (agree_move hqueued hmoves hafter)

end SteadyClock

end Store

end ExpiringCache
