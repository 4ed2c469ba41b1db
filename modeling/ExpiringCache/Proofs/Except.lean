import Mathlib.Logic.Basic
/-!
# Computations that can fail

A sequence of steps succeeds if each step does; proofs about readers and paths take it apart with
this one fact.
-/

namespace ExpiringCache

theorem bind_eq_ok_iff {ε α β : Type} {x : Except ε α} {f : α → Except ε β} {b : β} :
    x >>= f = .ok b ↔ ∃ a, x = .ok a ∧ f a = .ok b := by
  cases x with
  | error fault => exact iff_of_false nofun nofun
  | ok a =>
      constructor
      · exact fun h => ⟨a, rfl, h⟩
      · rintro ⟨found, hfound, h⟩
        obtain rfl := Except.ok.inj hfound
        exact h

end ExpiringCache
