import Librocket.Npu.Layout
import Mathlib.Algebra.BigOperators.Intervals

/-!
# Packing the operands

The loops of `tests/matmul_fp16_rocket.c` that bring the matrices into the
layouts of the NPU, and the reads that multiply and unpack what they stored. A
buffer is the memory its zeroed contents and the log of the stores determine,
and a store or load is defined inside the buffer only, so a loop that has a
result never left it.

Each loop nest is the log of a `Layout`, row by row (`packLoop_eq`); that every
slot is written once and every element read back are then facts about layouts.
-/

namespace Librocket

variable {R : Type*}

/-! ## The loops -/

/-- The element of a buffer an `int` index denotes, if there is one. -/
def inBuffer (size : ℕ) (i : ℤ) : Option ℕ := if 0 ≤ i ∧ i < size then some i.toNat else none

/-- The stores of `buf[place(r, c)] = X[r-1][c-1]` for `r` from 1 to `rows` and
`c` from 1 to `cols`. -/
def packLoop (size rows cols : ℕ) (place : ℤ → ℤ → Option ℤ) (X : ℕ → ℕ → R) :
    Option (List (ℕ × R)) :=
  (List.range rows).foldlM (fun log (r : ℕ) =>
    (List.range cols).foldlM (fun log (c : ℕ) =>
      ((place (r + 1) (c + 1)).bind (inBuffer size)).map fun slot =>
        log ++ [(slot, X r c)]) log) []

/-- The input loop: `input_fp16[feature_data(K, M, 1, 8, k, m, 1)]`. -/
def packInput (M K : ℕ) (A : ℕ → ℕ → R) : Option (List (ℕ × R)) :=
  packLoop (M * K) M K (fun m k => featureData K M 1 8 k m 1) A

/-- The weight loop: `weights_fp16[weight_fp16(K, n, k)]`. -/
def packWeights (N K : ℕ) (B : ℕ → ℕ → R) : Option (List (ℕ × R)) :=
  packLoop (N * K) N K (fun n k => weightFp16 K n k) B

/-- The results where the caller looks for them:
`output_data[feature_data(N, M, 1, 4, n, m, 1)]`. -/
def packOutput (M N : ℕ) (Y : ℕ → ℕ → R) : Option (List (ℕ × R)) :=
  packLoop (M * N) M N (fun m n => featureData N M 1 4 n m 1) Y

/-- A zeroed buffer after the stores. -/
def buffer [Zero R] (log : List (ℕ × R)) : ℕ → R := WriteLog.apply log fun _ => 0

/-- A load at a computed index. -/
def load (size : ℕ) (mem : ℕ → R) (i : Option ℤ) : Option R := (i.bind (inBuffer size)).map mem

/-- The result of row `m` and column `n`, counted from one, from the packed
operands. -/
def packedDot [Semiring R] (M K N : ℕ) (input weights : ℕ → R) (m n : ℤ) : Option R :=
  (List.range K).foldlM (fun sum (k : ℕ) => do
    let x ← load (M * K) input (featureData K M 1 8 (k + 1) m 1)
    let y ← load (N * K) weights (weightFp16 K n (k + 1))
    pure (sum + x * y)) 0

/-- An entry of `matmul_fp32_cpu`: `sum += src0[i*k + l] * src1[j*k + l]`. -/
def matmulCpu [Semiring R] (K : ℕ) (A B : ℕ → ℕ → R) (i j : ℕ) : R :=
  (List.range K).foldl (fun sum l => sum + A i l * B j l) 0

/-- The reference loop sums the products. -/
theorem matmulCpu_eq_sum [Semiring R] (K : ℕ) (A B : ℕ → ℕ → R) (i j : ℕ) :
    matmulCpu K A B i j = ∑ l ∈ Finset.range K, A i l * B j l := by
  induction K with
  | zero => rfl
  | succ K ih =>
    rw [Finset.sum_range_succ, ← ih, matmulCpu, List.range_succ, List.foldl_append]
    rfl

/-! ## The layouts the loops realise -/

/-- The cells of a table, row by row. -/
def grid (rows cols : ℕ) : List (ℕ × ℕ) := List.range rows ×ˢ List.range cols

theorem mem_grid {rows cols : ℕ} {a : ℕ × ℕ} : a ∈ grid rows cols ↔ a.1 < rows ∧ a.2 < cols := by
  obtain ⟨r, c⟩ := a
  show (r, c) ∈ (List.range rows).product (List.range cols) ↔ _
  rw [List.pair_mem_product, List.mem_range, List.mem_range]

theorem nodup_grid (rows cols : ℕ) : (grid rows cols).Nodup :=
  List.nodup_range.product List.nodup_range

theorem length_grid (rows cols : ℕ) : (grid rows cols).length = rows * cols := by
  rw [grid, List.length_product, List.length_range, List.length_range]

/-- A matrix of `H` rows as `C` channels in planes of `C2`. -/
def featureLayout (C H C2 : ℕ) (hC2 : 0 < C2) (hdvd : C2 ∣ C) : Layout (ℕ × ℕ) where
  cells := grid H C
  slot a := featureSlot H 1 C2 a.2 a.1 0
  size := H * C
  nodup := nodup_grid H C
  slot_lt := by
    intro a ha
    obtain ⟨hh, hc⟩ := mem_grid.mp ha
    have hlt := featureSlot_lt hC2 hdvd hc hh Nat.one_pos
    rwa [Nat.mul_one, Nat.mul_comm] at hlt
  slot_inj := by
    intro a ha b hb heq
    obtain ⟨hh, -⟩ := mem_grid.mp ha
    obtain ⟨hh', -⟩ := mem_grid.mp hb
    obtain ⟨hc, hrow, -⟩ := featureSlot_inj hC2 hh Nat.one_pos hh' Nat.one_pos heq
    exact Prod.ext hrow hc

/-- A matrix of `N` kernels of `C` channels in tiles of `G` by 32. -/
def weightLayout (G C N : ℕ) (hG : 0 < G) (hC : 32 ∣ C) (hN : G ∣ N) : Layout (ℕ × ℕ) where
  cells := grid N C
  slot a := weightSlot G C a.1 a.2
  size := N * C
  nodup := nodup_grid N C
  slot_lt := by
    intro a ha
    obtain ⟨hk, hc⟩ := mem_grid.mp ha
    exact weightSlot_lt hG hC hN hk hc
  slot_inj := by
    intro a ha b hb heq
    obtain ⟨-, hc⟩ := mem_grid.mp ha
    obtain ⟨-, hc'⟩ := mem_grid.mp hb
    obtain ⟨hkernel, hchannel⟩ := weightSlot_inj hG hC hc hc' heq
    exact Prod.ext hkernel hchannel

theorem featureLayout_full (C H C2 : ℕ) (hC2 : 0 < C2) (hdvd : C2 ∣ C) :
    (featureLayout C H C2 hC2 hdvd).Full := length_grid H C

theorem weightLayout_full (G C N : ℕ) (hG : 0 < G) (hC : 32 ∣ C) (hN : G ∣ N) :
    (weightLayout G C N hG hC hN).Full := length_grid N C

/-! ## From loops to layouts -/

theorem inBuffer_nat {size slot : ℕ} (h : slot < size) : inBuffer size slot = some slot := by
  rw [inBuffer, if_pos ⟨by omega, by omega⟩]
  rfl

/-- A loop nest stores row by row where its index function says, provided
every place is in the buffer. -/
theorem packLoop_log {size rows cols : ℕ} {place : ℤ → ℤ → Option ℤ} {slot : ℕ × ℕ → ℕ}
    (hplace : ∀ r < rows, ∀ c < cols, place (r + 1) (c + 1) = some (slot (r, c) : ℤ))
    (hlt : ∀ r < rows, ∀ c < cols, slot (r, c) < size) (X : ℕ → ℕ → R) :
    packLoop size rows cols place X = some ((grid rows cols).map fun a => (slot a, X a.1 a.2)) := by
  have hcell : ∀ r ∈ List.range rows, ∀ c ∈ List.range cols, ∀ log : List (ℕ × R),
      (((place (r + 1) (c + 1)).bind (inBuffer size)).map fun slot => log ++ [(slot, X r c)]) =
        some (log ++ [(slot (r, c), X r c)]) := by
    intro r hr c hc log
    have hr' := List.mem_range.mp hr
    have hc' := List.mem_range.mp hc
    rw [hplace r hr' c hc', Option.bind_some, inBuffer_nat (hlt r hr' c hc'), Option.map_some]
  -- the inner loop first, then the outer one over what it appends
  have hrow : ∀ r ∈ List.range rows, ∀ log : List (ℕ × R),
      ((List.range cols).foldlM (fun log (c : ℕ) =>
        ((place (r + 1) (c + 1)).bind (inBuffer size)).map fun slot =>
          log ++ [(slot, X r c)]) log) =
      some (log ++ (List.range cols).flatMap fun c => [(slot (r, c), X r c)]) := by
    intro r hr log
    exact Loop.foldlM_log _ log (hcell r hr)
  have hmap : (grid rows cols).map (fun a => (slot a, X a.1 a.2)) =
      (List.range rows).flatMap fun r =>
        (List.range cols).flatMap fun c => [(slot (r, c), X r c)] := by
    show ((List.range rows).flatMap fun r => (List.range cols).map (Prod.mk r)).map _ = _
    rw [List.map_flatMap]
    apply List.flatMap_congr
    intro r _
    rw [List.map_map, List.map_eq_flatMap]
    rfl
  rw [packLoop, Loop.foldlM_log _ [] hrow, List.nil_append, hmap]

/-- **A loop nest stores the log of its layout**, provided its index function
computes the layout's slots. -/
theorem packLoop_eq (L : Layout (ℕ × ℕ)) {rows cols : ℕ} {place : ℤ → ℤ → Option ℤ}
    (hcells : L.cells = grid rows cols)
    (hplace : ∀ r < rows, ∀ c < cols, place (r + 1) (c + 1) = some (L.slot (r, c) : ℤ))
    (X : ℕ → ℕ → R) : packLoop L.size rows cols place X = some (L.log fun a => X a.1 a.2) := by
  have hlt : ∀ r < rows, ∀ c < cols, L.slot (r, c) < L.size := by
    intro r hr c hc
    exact L.slot_lt (r, c) (by rw [hcells]; exact mem_grid.mpr ⟨hr, hc⟩)
  rw [packLoop_log hplace hlt, Layout.log, hcells]

/-- **A packed element is loaded back.** -/
theorem load_log [Zero R] (L : Layout (ℕ × ℕ)) {rows cols : ℕ} (hcells : L.cells = grid rows cols)
    {place : Option ℤ} (X : ℕ → ℕ → R) {r c : ℕ} (hr : r < rows) (hc : c < cols)
    (hplace : place = some (L.slot (r, c) : ℤ)) :
    load L.size (buffer (L.log fun a => X a.1 a.2)) place = some (X r c) := by
  have hmem : (r, c) ∈ L.cells := by
    rw [hcells]
    exact mem_grid.mpr ⟨hr, hc⟩
  rw [load, hplace, Option.bind_some, inBuffer_nat (L.slot_lt _ hmem), Option.map_some, buffer,
    L.read _ _ hmem]

/-! ## The places the caller uses -/

section Places

variable {C H C2 : ℕ} (hC2 : 0 < C2) (hdvd : C2 ∣ C)

/-- `feature_data` computes the layout's slots while the matrix fits an
`int`. -/
theorem featureData_slot (hfit : H * C < 2 ^ 31) {h c : ℕ} (hh : h < H) (hc : c < C) :
    featureData C H 1 C2 (c + 1) (h + 1) 1 =
      some ((featureLayout C H C2 hC2 hdvd).slot (h, c) : ℤ) := by
  have hlt := (featureLayout C H C2 hC2 hdvd).slot_lt (h, c) (mem_grid.mpr ⟨hh, hc⟩)
  have hsize : (featureLayout C H C2 hC2 hdvd).size = H * C := rfl
  exact featureData_eq C (w := 0) (Nat.zero_lt_of_lt hh) Nat.one_pos hC2
    (show (featureLayout C H C2 hC2 hdvd).slot (h, c) ≤ _ by omega)

end Places

section Weights

variable {G C N : ℕ} (hG : 0 < G) (hC : 32 ∣ C) (hN : G ∣ N)

theorem weightTile_slot (hfit : N * C < 2 ^ 31) {k c : ℕ} (hk : k < N) (hc : c < C) :
    weightTile G C (k + 1) (c + 1) = some ((weightLayout G C N hG hC hN).slot (k, c) : ℤ) := by
  have hlt := (weightLayout G C N hG hC hN).slot_lt (k, c) (mem_grid.mpr ⟨hk, hc⟩)
  have hsize : (weightLayout G C N hG hC hN).size = N * C := rfl
  exact weightTile_eq hG (Nat.zero_lt_of_lt hc)
    (show (weightLayout G C N hG hC hN).slot (k, c) ≤ _ by omega)

end Weights

/-! ## Nothing is lost -/

/-- Every slot of a buffer is written exactly once, and nothing outside it. -/
def FillsOnce (size : ℕ) (log : List (ℕ × R)) : Prop :=
  (WriteLog.keys log).Perm (List.range size)

/-- What the packing owes the product: each loop fills its buffer once, the
packed operands multiply to the reference result, the result places are a
bijection onto the output buffer, and unpacking reads back what was put
there. -/
def PackingLossless [Semiring R] (M K N : ℕ) (A B Y : ℕ → ℕ → R) : Prop :=
  ∃ input weights output : List (ℕ × R),
    packInput M K A = some input ∧
    packWeights N K B = some weights ∧
    packOutput M N Y = some output ∧
    FillsOnce (M * K) input ∧
    FillsOnce (N * K) weights ∧
    FillsOnce (M * N) output ∧
    (∀ i < M, ∀ j < N, packedDot M K N (buffer input) (buffer weights) (i + 1) (j + 1) =
      some (∑ k ∈ Finset.range K, A i k * B j k)) ∧
    (∃ slot : ℕ × ℕ → ℕ,
      (∀ i < M, ∀ j < N, featureData N M 1 4 (j + 1) (i + 1) 1 = some (slot (i, j) : ℤ)) ∧
      Set.BijOn slot {a | a.1 < M ∧ a.2 < N} (Set.Iio (M * N))) ∧
    ∀ i < M, ∀ j < N,
      load (M * N) (buffer output) (featureData N M 1 4 (j + 1) (i + 1) 1) = some (Y i j)

/-- **Packing loses nothing**, for every size the caller's alignment allows and
over every semiring. -/
theorem packing_lossless [Semiring R] {M K N : ℕ} (hK : 32 ∣ K) (hN : 16 ∣ N)
    (hMK : M * K < 2 ^ 31) (hNK : N * K < 2 ^ 31) (hMN : M * N < 2 ^ 31) (A B Y : ℕ → ℕ → R) :
    PackingLossless M K N A B Y := by
  have hK8 : 8 ∣ K := dvd_trans (by decide) hK
  have hN4 : 4 ∣ N := dvd_trans (by decide) hN
  let inputs := featureLayout K M 8 (by decide) hK8
  let kernels := weightLayout 16 K N (by decide) hK hN
  let results := featureLayout N M 4 (by decide) hN4
  have hinput : ∀ i < M, ∀ k < K, featureData K M 1 8 (k + 1) (i + 1) 1 =
      some (inputs.slot (i, k) : ℤ) :=
    fun i hi k hk => featureData_slot (by decide) hK8 hMK hi hk
  have hweight : ∀ j < N, ∀ k < K, weightFp16 K (j + 1) (k + 1) =
      some (kernels.slot (j, k) : ℤ) :=
    fun j hj k hk => weightTile_slot (by decide) hK hN hNK hj hk
  have hresult : ∀ i < M, ∀ j < N, featureData N M 1 4 (j + 1) (i + 1) 1 =
      some (results.slot (i, j) : ℤ) :=
    fun i hi j hj => featureData_slot (by decide) hN4 hMN hi hj
  refine ⟨inputs.log fun a => A a.1 a.2, kernels.log fun a => B a.1 a.2,
    results.log fun a => Y a.1 a.2, packLoop_eq inputs rfl hinput A,
    packLoop_eq kernels rfl hweight B, packLoop_eq results rfl hresult Y,
    Layout.Full.keys_perm (featureLayout_full ..) _,
    Layout.Full.keys_perm (weightLayout_full ..) _,
    Layout.Full.keys_perm (featureLayout_full ..) _, ?_, ?_, ?_⟩
  · intro i hi j hj
    rw [← matmulCpu_eq_sum]
    apply Loop.foldlM_some
    intro k hk sum
    have hk' := List.mem_range.mp hk
    have hx := load_log inputs rfl A hi hk' (hinput i hi k hk')
    have hy := load_log kernels rfl B hj hk' (hweight j hj k hk')
    show (load inputs.size _ _ >>= fun x => load kernels.size _ _ >>= fun y =>
      some (sum + x * y)) = _
    rw [hx, hy]
    rfl
  · refine ⟨results.slot, hresult, ?_⟩
    have hbij := Layout.Full.bijOn (featureLayout_full N M 4 (by decide) hN4)
    have hcells : {a | a ∈ (featureLayout N M 4 (by decide) hN4).cells} =
        {a : ℕ × ℕ | a.1 < M ∧ a.2 < N} := Set.ext fun a => mem_grid
    rwa [hcells] at hbij
  · intro i hi j hj
    exact load_log results rfl Y hi hj (hresult i hi j hj)

theorem packing_lossless_small :
    PackingLossless 4 64 32 (fun i k => i + k) (fun j k => j * k) fun i j => i + 2 * j :=
  packing_lossless (by decide) (by decide) (by decide) (by decide) (by decide) _ _ _

end Librocket
