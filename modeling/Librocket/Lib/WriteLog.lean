import Mathlib.Data.List.Nodup
import Mathlib.Logic.Function.Basic

/-!
# Logs of writes

A run that stores to memory is recorded as the list of its writes, in order.
The memory afterwards is the fold of the log over the memory before: the last
write to a key wins and a key the log does not name keeps its value. The log
also says which keys were written at all, which the final memory alone does
not.
-/

namespace WriteLog

variable {K V : Type*} [DecidableEq K]

/-- The memory after a log of writes. -/
def apply (ws : List (K × V)) (mem : K → V) : K → V :=
  ws.foldl (fun mem w => Function.update mem w.1 w.2) mem

/-- The keys a log writes, in order and with repetitions. -/
def keys (ws : List (K × V)) : List K := ws.map Prod.fst

@[simp] theorem apply_nil (mem : K → V) : apply [] mem = mem := rfl

@[simp] theorem apply_cons (w : K × V) (ws : List (K × V)) (mem : K → V) :
    apply (w :: ws) mem = apply ws (Function.update mem w.1 w.2) := rfl

theorem apply_append (ws ws' : List (K × V)) (mem : K → V) :
    apply (ws ++ ws') mem = apply ws' (apply ws mem) :=
  List.foldl_append

/-- **Frame**: a key the log does not name keeps its value. -/
theorem apply_of_not_mem {k : K} : ∀ {ws : List (K × V)} (mem : K → V),
    k ∉ keys ws → apply ws mem k = mem k
  | [], _, _ => rfl
  | w :: ws, mem, hk => by
      have hne : k ≠ w.1 := fun h => hk (by simp [keys, h])
      have htail : k ∉ keys ws := fun h => hk (List.mem_cons_of_mem _ h)
      rw [apply_cons, apply_of_not_mem _ htail, Function.update_of_ne hne]

/-- **Last write wins**: the value after the log is the one of the key's last
occurrence. -/
theorem apply_last {k : K} {v : V} {pre post : List (K × V)} (mem : K → V)
    (hk : k ∉ keys post) : apply (pre ++ (k, v) :: post) mem k = v := by
  rw [apply_append, apply_cons, apply_of_not_mem _ hk]
  exact Function.update_self ..

/-- The same, at an index of the log after which the key is not written again. -/
theorem apply_getElem? {k : K} {v : V} {ws : List (K × V)} {i : ℕ} (mem : K → V)
    (hi : ws[i]? = some (k, v)) (hk : k ∉ keys (ws.drop (i + 1))) : apply ws mem k = v := by
  obtain ⟨hlt, hget⟩ := List.getElem?_eq_some_iff.mp hi
  rw [← List.take_append_drop i ws, List.drop_eq_getElem_cons hlt, hget]
  exact apply_last mem hk

/-- Where no key is written twice, every write of the log survives. -/
theorem apply_of_nodup {k : K} {v : V} {ws : List (K × V)} (mem : K → V)
    (hnd : (keys ws).Nodup) (hmem : (k, v) ∈ ws) : apply ws mem k = v := by
  obtain ⟨pre, post, rfl⟩ := List.append_of_mem hmem
  apply apply_last
  simp only [keys, List.map_append, List.map_cons] at hnd
  exact (List.nodup_cons.mp (List.nodup_append.mp hnd).2.1).1

/-- A written key does not depend on the memory before the log. -/
theorem apply_eq_of_mem {k : K} : ∀ {ws : List (K × V)} (mem mem' : K → V),
    k ∈ keys ws → apply ws mem k = apply ws mem' k
  | w :: ws, mem, mem', hk => by
      rw [apply_cons, apply_cons]
      by_cases htail : k ∈ keys ws
      · exact apply_eq_of_mem _ _ htail
      · have heq : k = w.1 := by
          rcases List.mem_cons.mp hk with h | h
          · exact h
          · exact absurd h htail
        rw [apply_of_not_mem _ htail, apply_of_not_mem _ htail, heq]
        simp only [Function.update_self]

/-! ## Logs of an array -/

/-- The array after a log of writes to its indices. -/
def applyList (ws : List (ℕ × V)) (xs : List V) : List V :=
  ws.foldl (fun xs w => xs.set w.1 w.2) xs

/-- Inside its bounds an array is a memory like any other. -/
theorem getElem?_applyList {i : ℕ} {ws : List (ℕ × V)} {xs : List V} (mem : ℕ → V)
    (hmem : ∀ j, j < xs.length → xs[j]? = some (mem j)) (hi : i < xs.length) :
    (applyList ws xs)[i]? = some (apply ws mem i) := by
  induction ws generalizing xs mem with
  | nil => exact hmem i hi
  | cons w ws ih =>
      refine ih (Function.update mem w.1 w.2) ?_ (by rwa [List.length_set])
      intro j hj
      rw [List.length_set] at hj
      rcases eq_or_ne j w.1 with rfl | hne
      · rw [List.getElem?_set_self hj, Function.update_self]
      · rw [List.getElem?_set_ne hne.symm, Function.update_of_ne hne]
        exact hmem j hj

theorem length_applyList (ws : List (ℕ × V)) (xs : List V) :
    (applyList ws xs).length = xs.length := by
  induction ws generalizing xs with
  | nil => rfl
  | cons w ws ih => exact (ih _).trans List.length_set

/-- **An array filled index by index**, whatever it held before. -/
theorem applyList_finRange {n : ℕ} (f : Fin n → V) {xs : List V} (hlength : xs.length = n) :
    applyList ((List.finRange n).map fun i => (i.val, f i)) xs = List.ofFn f := by
  apply List.ext_getElem?
  intro i
  by_cases hi : i < n
  · have hnodup : (keys ((List.finRange n).map fun i => (i.val, f i))).Nodup := by
      rw [keys, List.map_map]
      exact (List.nodup_finRange n).map fun _ _ => Fin.ext
    have hmem : (i, f ⟨i, hi⟩) ∈ (List.finRange n).map fun i => (i.val, f i) :=
      List.mem_map.mpr ⟨⟨i, hi⟩, List.mem_finRange _, rfl⟩
    rw [getElem?_applyList (fun j => xs[j]?.getD (f ⟨i, hi⟩)) ?_ (hlength ▸ hi),
      apply_of_nodup _ hnodup hmem, List.getElem?_ofFn, dif_pos hi]
    intro j hj
    simp [hj]
  · rw [List.getElem?_eq_none, List.getElem?_eq_none]
    · simpa using hi
    · simpa [length_applyList, hlength] using hi

end WriteLog
