import Librocket.Lib.Layout

/-!
# Words in a memory of bytes

A memory of bytes as an array of words of `size` bytes, the least significant one
first. `words_store` is all the programs that access it need: a store changes one
word of the array.
-/

namespace Bytes

abbrev Image := ℕ → BitVec 8

def store (size i : ℕ) (v : BitVec 64) (m : Image) : Image := fun a =>
  if a / size = i then v.extractLsb' (8 * (a % size)) 8 else m a

def load (size i : ℕ) (m : Image) : BitVec 64 :=
  (List.range size).foldl (fun v k => v ||| (m (i * size + k)).setWidth 64 <<< (8 * k)) 0

/-- The first `count` bytes become zero. -/
def clear (count : ℕ) (m : Image) : Image := fun a => if a < count then 0 else m a

/-- The memory as an array. -/
def words (size : ℕ) (m : Image) : ℕ → BitVec 64 := fun i => load size i m

variable {size i j : ℕ} {v : BitVec 64} {m : Image}

/-- Bit `b` of a word is bit `b % 8` of its byte `b / 8`. -/
theorem getLsbD_load (hsize : size ≤ 8) (b : ℕ) : (load size i m).getLsbD b =
    (decide (b < 8 * size) && (m (i * size + b / 8)).getLsbD (b % 8)) := by
  unfold load
  generalize hbase : i * size = base
  clear hbase
  induction size with
  | zero => simp
  | succ n ih =>
      rw [List.range_succ, List.foldl_append, List.foldl_cons, List.foldl_nil, BitVec.getLsbD_or,
        ih (Nat.le_of_succ_le hsize), BitVec.getLsbD_shiftLeft, BitVec.getLsbD_setWidth]
      rcases lt_or_ge b (8 * n) with hlt | hge
      · have hlt' : b < 8 * (n + 1) := by omega
        simp [hlt, hlt']
      rcases lt_or_ge b (8 * (n + 1)) with hlt | hge'
      · -- the byte that was added
        have hdiv : b / 8 = n := by omega
        have hmod : b % 8 = b - 8 * n := by omega
        have hfit : b < 64 := by omega
        have hfit' : b - 8 * n < 64 := by omega
        simp [hlt, hdiv, hmod, hfit, hfit', not_lt.mpr hge]
      · have hbyte : 8 ≤ b - 8 * n := by omega
        simp [not_lt.mpr hge, not_lt.mpr hge', BitVec.getLsbD_of_ge _ _ hbyte]

theorem load_congr {m' : Image} (h : ∀ k < size, m (i * size + k) = m' (i * size + k)) :
    load size i m = load size i m' := by
  refine List.foldl_ext _ _ _ fun v k hk => ?_
  rw [h k (List.mem_range.mp hk)]

/-- **Round trip**, of a word that fits. -/
theorem load_store (hsize : size ≤ 8) (hv : v.toNat < 2 ^ (8 * size)) :
    load size i (store size i v m) = v := by
  apply BitVec.eq_of_getLsbD_eq
  intro b _
  rw [getLsbD_load hsize]
  rcases lt_or_ge b (8 * size) with hlt | hge
  · have hbyte : b / 8 < size := by omega
    have hbit : 8 * (b / 8) + b % 8 = b := Nat.div_add_mod b 8
    simp only [store, Tile.div_eq hbyte, Tile.mod_eq hbyte, if_true, BitVec.getLsbD_extractLsb',
      hbit, Nat.mod_lt b (show 8 > 0 by decide), hlt, decide_true, Bool.true_and]
  · have hzero : v.getLsbD b = false :=
      Nat.testBit_lt_two_pow (lt_of_lt_of_le hv (Nat.pow_le_pow_right (by decide) hge))
    simp [not_lt.mpr hge, hzero]

theorem load_store_of_ne (hne : j ≠ i) : load size j (store size i v m) = load size j m := by
  apply load_congr
  intro k hk
  unfold store
  rw [Tile.div_eq hk, if_neg hne]

theorem load_clear {count : ℕ} (h : (i + 1) * size ≤ count) : load size i (clear count m) = 0 := by
  have hzero : load size i (clear count m) = load size i fun _ => 0 := by
    apply load_congr
    intro k hk
    refine if_pos (lt_of_lt_of_le ?_ h)
    rw [Nat.succ_mul]
    exact Nat.add_lt_add_left hk _
  rw [hzero]
  simp [load]

/-- **A store changes one word.** -/
theorem words_store (hsize : size ≤ 8) (hv : v.toNat < 2 ^ (8 * size)) :
    words size (store size i v m) = Function.update (words size m) i v := by
  funext j
  by_cases heq : j = i
  · subst heq
    rw [Function.update_self]
    exact load_store hsize hv
  · rw [Function.update_of_ne heq]
    exact load_store_of_ne heq

end Bytes
