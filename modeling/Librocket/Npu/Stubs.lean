import Librocket.Npu.Packing

/-!
# The layout functions that are linked

Every implementation file exports `feature_data`, `weight_fp16` and
`weight_int8`, and the Makefile decides which ones the test program gets. It
puts `npu_matmul_mesa.c` into `librocket.a`, where the three are stubs that
return 0.

A stub is right about the first element and about no other
(`featureData_eq_zero_iff`), so a loop that packs a matrix through it stores
the whole matrix into one slot (`packLoop_stub`).
-/

namespace Librocket.Mesa

/-! ## The stubs -/

/-- `feature_data` of `npu_matmul_mesa.c`. -/
def featureData (_C _H _W _C2 _c _h _w : ℤ) : Option ℤ := some 0

/-- `weight_fp16` of `npu_matmul_mesa.c`. -/
def weightFp16 (_C _k _c : ℤ) : Option ℤ := some 0

/-- `weight_int8` of `npu_matmul_mesa.c`. -/
def weightInt8 (_C _k _c : ℤ) : Option ℤ := some 0

/-! ## The test program linked with them -/

variable {R : Type*}

/-- The input loop: `input_fp16[feature_data(K, M, 1, 8, k, m, 1)]`. -/
def packInput (M K : ℕ) (A : ℕ → ℕ → R) : Option (List (ℕ × R)) :=
  packLoop (M * K) M K (fun m k => featureData K M 1 8 k m 1) A

/-- The weight loop: `weights_fp16[weight_fp16(K, n, k)]`. -/
def packWeights (N K : ℕ) (B : ℕ → ℕ → R) : Option (List (ℕ × R)) :=
  packLoop (N * K) N K (fun n k => weightFp16 K n k) B

/-- The loop that compares the results, with what it expects at each slot it
reads: `output_data[feature_data(N, M, 1, 4, n, m, 1)]`, for `n < N`. -/
def readBack (M N : ℕ) (Y : ℕ → ℕ → R) : Option (List (ℕ × R)) :=
  packLoop (M * N) M (N - 1) (fun m n => featureData N M 1 4 n m 1) Y

/-- The sizes the test program lets through. -/
structure ValidSizes (M K N : ℕ) : Prop where
  m : 0 < M ∧ M ≤ 384 ∧ (4 ∣ M ∨ M = 1)
  k : 0 < K ∧ K ≤ 4096 ∧ 32 ∣ K
  n : 0 < N ∧ N ≤ 4096 ∧ 16 ∣ N

/-- A loop that gives every element it visits a slot of its own. -/
def DistinctSlots (log : Option (List (ℕ × R))) : Prop :=
  ∃ stores, log = some stores ∧ (WriteLog.keys stores).Nodup

/-- Through a stub every element goes to slot zero. -/
theorem packLoop_stub {size rows cols : ℕ} (hsize : 0 < size) (X : ℕ → ℕ → R) :
    packLoop size rows cols (fun _ _ => some 0) X =
      some ((grid rows cols).map fun a => (0, X a.1 a.2)) := by
  apply packLoop_log
  · intro r _ c _
    rfl
  · intro r _ c _
    exact hsize

/-- Which is only one's own for a single element. -/
theorem distinctSlots_stub_iff {size rows cols : ℕ} (hsize : 0 < size) (X : ℕ → ℕ → R) :
    DistinctSlots (packLoop size rows cols (fun _ _ => some 0) X) ↔ rows * cols ≤ 1 := by
  have hkeys : WriteLog.keys ((grid rows cols).map fun a => (0, X a.1 a.2)) =
      List.replicate (rows * cols) 0 := by
    rw [WriteLog.keys, List.map_map, ← length_grid, ← List.map_const']
    rfl
  rw [packLoop_stub hsize]
  constructor
  · rintro ⟨stores, ⟨⟩, hnodup⟩
    rw [hkeys] at hnodup
    exact List.nodup_replicate.mp hnodup
  · intro hle
    refine ⟨_, rfl, ?_⟩
    rw [hkeys]
    exact List.nodup_replicate.mpr hle

/-- Both loops of a valid size pack more than one element, and the comparison
reads more than one result. -/
theorem not_distinctSlots {M K N : ℕ} (h : ValidSizes M K N) (A B Y : ℕ → ℕ → R) :
    ¬ DistinctSlots (packInput M K A) ∧ ¬ DistinctSlots (packWeights N K B) ∧
      ¬ DistinctSlots (readBack M N Y) := by
  obtain ⟨⟨hM, -, -⟩, ⟨hK, -, hK32⟩, ⟨hN, -, hN16⟩⟩ := h
  have hK' : 32 ≤ K := Nat.le_of_dvd hK hK32
  have hN' : 16 ≤ N := Nat.le_of_dvd hN hN16
  refine ⟨?_, ?_, ?_⟩
  · intro hdistinct
    have hone := (distinctSlots_stub_iff (Nat.mul_pos hM hK) A).mp hdistinct
    have hmany : 1 * 32 ≤ M * K := Nat.mul_le_mul hM hK'
    omega
  · intro hdistinct
    have hone := (distinctSlots_stub_iff (Nat.mul_pos hN hK) B).mp hdistinct
    have hmany : 16 * 32 ≤ N * K := Nat.mul_le_mul hN' hK'
    omega
  · intro hdistinct
    have hone := (distinctSlots_stub_iff (Nat.mul_pos hM hN) Y).mp hdistinct
    have hmany : 1 * 15 ≤ M * (N - 1) := Nat.mul_le_mul hM (by omega)
    omega

/-! ## Against the reference layouts -/

/-- **The linked layouts agree with the reference ones at the first element
only**, and at no size of the test program do its loops keep the elements
apart. -/
theorem layouts_agree_iff (A B Y : ℕ → ℕ → R) :
    (∀ C H W C2 c h w : ℤ, 1 ≤ H → 1 ≤ W → 1 ≤ C2 → (1 ≤ c ∧ c ≤ C) → (1 ≤ h ∧ h ≤ H) →
      (1 ≤ w ∧ w ≤ W) →
      (featureData C H W C2 c h w = Librocket.featureData C H W C2 c h w ↔
        c = 1 ∧ h = 1 ∧ w = 1)) ∧
    (∀ K N k n : ℤ, 32 ∣ K → (1 ≤ n ∧ n ≤ N) → (1 ≤ k ∧ k ≤ K) →
      (weightFp16 K n k = Librocket.weightFp16 K n k ↔ n = 1 ∧ k = 1) ∧
      (weightInt8 K n k = Librocket.weightInt8 K n k ↔ n = 1 ∧ k = 1)) ∧
    ∀ M K N : ℕ, ValidSizes M K N →
      ¬ DistinctSlots (packInput M K A) ∧ ¬ DistinctSlots (packWeights N K B) ∧
        ¬ DistinctSlots (readBack M N Y) := by
  refine ⟨?_, ?_, ?_⟩
  · intro C H W C2 c h w hH hW hC2 hc hh hw
    exact eq_comm.trans (featureData_eq_zero_iff C hH hW hC2 hc.1 hh.1 hw.1)
  · intro K N k n _ hn hk
    have hK : 1 ≤ K := le_trans hk.1 hk.2
    constructor
    · exact eq_comm.trans (weightTile_eq_zero_iff (by decide) hK hn.1 hk.1)
    · exact eq_comm.trans (weightTile_eq_zero_iff (by decide) hK hn.1 hk.1)
  · intro M K N h
    exact not_distinctSlots h A B Y

/-- The first and the second channel of a 4 x 32 input, and its packing loop. -/
theorem layouts_agree_iff_small :
    (featureData 32 4 1 8 1 1 1 = Librocket.featureData 32 4 1 8 1 1 1 ↔
        (1 : ℤ) = 1 ∧ (1 : ℤ) = 1 ∧ (1 : ℤ) = 1) ∧
      (featureData 32 4 1 8 2 1 1 = Librocket.featureData 32 4 1 8 2 1 1 ↔
        (2 : ℤ) = 1 ∧ (1 : ℤ) = 1 ∧ (1 : ℤ) = 1) ∧
      (weightFp16 32 1 2 = Librocket.weightFp16 32 1 2 ↔ (1 : ℤ) = 1 ∧ (2 : ℤ) = 1) ∧
      ¬ DistinctSlots (packInput 4 32 fun i k => i + k) := by
  obtain ⟨hfeature, hweight, hpack⟩ :=
    layouts_agree_iff (R := ℕ) (fun i k => i + k) (fun j k => j * k) fun i j => i + 2 * j
  have hfirst := hfeature 32 4 1 8 1 1 1 (by decide) (by decide) (by decide) (by decide)
    (by decide) (by decide)
  have hsecond := hfeature 32 4 1 8 2 1 1 (by decide) (by decide) (by decide) (by decide)
    (by decide) (by decide)
  have hkernel := hweight 32 16 2 1 (by decide) (by decide) (by decide)
  exact ⟨hfirst, hsecond, hkernel.1, (hpack 4 32 16 ⟨by decide, by decide, by decide⟩).1⟩

/-- At the second channel the stubs stay at slot zero and the reference layouts
do not; all of a 4 x 32 by 32 x 16 job is packed into slot zero. -/
theorem layouts_differ_small :
    featureData 32 4 1 8 2 1 1 = some 0 ∧ Librocket.featureData 32 4 1 8 2 1 1 = some 1 ∧
      weightFp16 32 1 2 = some 0 ∧ Librocket.weightFp16 32 1 2 = some 1 ∧
      weightInt8 32 1 2 = some 0 ∧ Librocket.weightInt8 32 1 2 = some 1 ∧
      ¬ DistinctSlots (packInput 4 32 fun i k => i + k) ∧
      ¬ DistinctSlots (packWeights 16 32 fun j k => j * k) ∧
      ¬ DistinctSlots (readBack 4 16 fun i j => i + 2 * j) := by
  have hvalid : ValidSizes 4 32 16 := ⟨by decide, by decide, by decide⟩
  exact ⟨rfl, by decide, rfl, by decide, rfl, by decide, not_distinctSlots hvalid _ _ _⟩

end Librocket.Mesa
