import Mathlib.Logic.Function.Basic

/-!
# Exact ownership

Owners `ι` may each hold one key of `κ`; a table says which keys are live. The
table is *exact* when the live keys are those held, and no key has two holders:
nothing leaks and nothing is released under its holder's feet. The rules say how
exactness follows acquiring and releasing.
-/

/-- The live keys are those held, each by one owner. -/
structure Ownership {ι κ : Type*} (owns : ι → Option κ) (live : κ → Prop) : Prop where
  live_iff : ∀ k, live k ↔ ∃ i, owns i = some k
  inj : ∀ {i j k}, owns i = some k → owns j = some k → i = j

namespace Ownership

variable {ι κ : Type*} {owns : ι → Option κ} {live : κ → Prop}

theorem live_of_owns (h : Ownership owns live) {i : ι} {k : κ} (hi : owns i = some k) : live k :=
  (h.live_iff k).mpr ⟨i, hi⟩

/-- Nobody holds anything. -/
theorem empty (howns : ∀ i, owns i = none) (hlive : ∀ k, ¬ live k) : Ownership owns live where
  live_iff k := by simp [howns, hlive]
  inj := by
    intro i j k hi
    simp [howns] at hi

/-- Keys are taken from all who hold one of a kind. -/
theorem restrict (h : Ownership owns live) (keep : κ → Bool) :
    Ownership (fun i => (owns i).filter keep) (fun k => live k ∧ keep k = true) where
  live_iff k := by
    rw [h.live_iff]
    constructor
    · rintro ⟨⟨i, hi⟩, hk⟩
      exact ⟨i, by simp [hi, hk]⟩
    · rintro ⟨i, hi⟩
      obtain ⟨hi, hk⟩ := Option.filter_eq_some_iff.mp hi
      exact ⟨⟨i, hi⟩, hk⟩
  inj := by
    intro i j k hi hj
    exact h.inj (Option.filter_eq_some_iff.mp hi).1 (Option.filter_eq_some_iff.mp hj).1

variable [DecidableEq ι]

/-- An owner with empty hands takes a key that is not live. -/
theorem acquire (h : Ownership owns live) {i : ι} {k : κ} {live' : κ → Prop}
    (hi : owns i = none) (hk : ¬ live k) (hlive : ∀ k', live' k' ↔ k' = k ∨ live k') :
    Ownership (Function.update owns i (some k)) live' where
  live_iff k' := by
    rw [hlive, h.live_iff]
    constructor
    · rintro (rfl | ⟨j, hj⟩)
      · exact ⟨i, Function.update_self ..⟩
      · have hji : j ≠ i := by
          rintro rfl
          simp [hi] at hj
        exact ⟨j, by rw [Function.update_of_ne hji, hj]⟩
    · rintro ⟨j, hj⟩
      rcases eq_or_ne j i with rfl | hji
      · rw [Function.update_self] at hj
        exact Or.inl (Option.some.inj hj).symm
      · rw [Function.update_of_ne hji] at hj
        exact Or.inr ⟨j, hj⟩
  inj := by
    -- The key taken was not live, so no other owner held it.
    have hother : ∀ {j}, j ≠ i → Function.update owns i (some k) j ≠ some k := by
      intro j hji hj
      rw [Function.update_of_ne hji] at hj
      exact hk (h.live_of_owns hj)
    intro j j' k' hj hj'
    by_cases hji : j = i <;> by_cases hji' : j' = i
    · rw [hji, hji']
    · rw [hji, Function.update_self, Option.some.injEq] at hj
      exact absurd (hj ▸ hj') (hother hji')
    · rw [hji', Function.update_self, Option.some.injEq] at hj'
      exact absurd (hj' ▸ hj) (hother hji)
    · rw [Function.update_of_ne hji] at hj
      rw [Function.update_of_ne hji'] at hj'
      exact h.inj hj hj'

/-- An owner gives its key back. -/
theorem release (h : Ownership owns live) {i : ι} {k : κ} {live' : κ → Prop}
    (hi : owns i = some k) (hlive : ∀ k', live' k' ↔ k' ≠ k ∧ live k') :
    Ownership (Function.update owns i none) live' where
  live_iff k' := by
    rw [hlive, h.live_iff]
    constructor
    · rintro ⟨hne, j, hj⟩
      have hji : j ≠ i := by
        rintro rfl
        exact hne (Option.some.inj (hj.symm.trans hi))
      exact ⟨j, by rw [Function.update_of_ne hji, hj]⟩
    · rintro ⟨j, hj⟩
      rcases eq_or_ne j i with rfl | hji
      · simp at hj
      · rw [Function.update_of_ne hji] at hj
        refine ⟨?_, j, hj⟩
        rintro rfl
        exact hji (h.inj hj hi)
  inj := by
    intro j j' k' hj hj'
    rcases eq_or_ne j i with rfl | hji
    · simp at hj
    rcases eq_or_ne j' i with rfl | hji'
    · simp at hj'
    rw [Function.update_of_ne hji] at hj
    rw [Function.update_of_ne hji'] at hj'
    exact h.inj hj hj'

end Ownership
