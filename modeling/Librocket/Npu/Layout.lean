import Librocket.Lib.CArith
import Librocket.Lib.Layout

/-!
# The memory layouts of the operands

`feature_data`, `weight_fp16` and `weight_int8` of `npu_matmul.c` give the
place of an element in the buffers the NPU reads and writes. They compute in
`int` with coordinates counted from one. `featureData_eq` and `weightTile_eq`
evaluate them: where the index fits an `int` nothing on the way overflows, and
the index is the mixed-radix one of `Blocked`, channels in blocks over the
cells of a plane, and for weights a group of kernels as the outermost digit.
-/

namespace Librocket

open CArith

/-- `int`, 32 bits wide. -/
def int : IntType := { min := -2147483648, max := 2147483647 }

/-! ## The index functions -/

/-- `feature_data`: channels in planes of `C2`. The channel count is not
used. -/
def featureData (_C H W C2 c h w : ℤ) : Option ℤ := do
  let plane ← int.div (← int.sub c 1) C2
  let src ← int.mul (← int.mul (← int.mul plane H) W) C2
  let offset ← int.mod (← int.sub c 1) C2
  let cell ← int.add (← int.mul (← int.sub h 1) W) (← int.sub w 1)
  int.add (← int.add src (← int.mul C2 cell)) offset

/-- The common body of `weight_fp16` and `weight_int8`: kernels in groups of
`G`, channels in groups of 32. -/
def weightTile (G C k c : ℤ) : Option ℤ := do
  let kpg ← int.div (← int.sub k 1) G
  let cpg ← int.div (← int.sub c 1) 32
  let dst ← int.add (← int.mul (← int.mul cpg 32) G) (← int.mul (← int.mul kpg G) C)
  int.add (← int.add dst (← int.mod (← int.sub c 1) 32))
    (← int.mul (← int.mod (← int.sub k 1) G) 32)

/-- `weight_fp16`. -/
def weightFp16 (C k c : ℤ) : Option ℤ := weightTile 16 C k c

/-- `weight_int8`. -/
def weightInt8 (C k c : ℤ) : Option ℤ := weightTile 32 C k c

/-! ## Their values -/

/-- The place of channel `c` of row `h`, column `w`, all counted from zero, in
planes of `C2` channels over `H` x `W` cells. -/
def featureSlot (H W C2 c h w : ℕ) : ℕ := Blocked.index C2 (H * W) c (h * W + w)

/-- **`feature_data` in closed form.** Every intermediate product is at most
the index. -/
theorem featureData_eq (C : ℤ) {H W C2 c h w : ℕ} (hH : 0 < H) (hW : 0 < W) (hC2 : 0 < C2)
    (hfit : featureSlot H W C2 c h w ≤ 2147483647) :
    featureData C H W C2 (c + 1) (h + 1) (w + 1) = some (featureSlot H W C2 c h w : ℤ) := by
  have hindex : featureSlot H W C2 c h w = c / C2 * H * W * C2 + C2 * (h * W + w) + c % C2 := by
    rw [featureSlot, Blocked.index]
    ring
  have hmax : int.max = 2147483647 := rfl
  have hsplit := Nat.div_add_mod' c C2
  have hplane₁ : c / C2 ≤ c / C2 * H := Nat.le_mul_of_pos_right _ hH
  have hplane₂ : c / C2 * H ≤ c / C2 * H * W := Nat.le_mul_of_pos_right _ hW
  have hplane₃ : c / C2 * H * W ≤ c / C2 * H * W * C2 := Nat.le_mul_of_pos_right _ hC2
  have hblock : c / C2 * C2 ≤ c / C2 * H * W * C2 :=
    Nat.mul_le_mul_right C2 (le_trans hplane₁ hplane₂)
  have hcell : h * W + w ≤ C2 * (h * W + w) := Nat.le_mul_of_pos_left _ hC2
  have hrow : h ≤ h * W := Nat.le_mul_of_pos_right _ hW
  rw [hindex] at hfit ⊢
  simp (disch := omega) only [featureData, Option.bind_eq_bind, Option.bind_some,
    IntType.sub_one_nat, IntType.div_nat, IntType.mod_nat, IntType.mul_nat, IntType.add_nat]

/-- The place of channel `c` of kernel `k`, both counted from zero: the group of
the kernel, then the group of the channel, the kernel in its group and the
channel in its group. -/
def weightSlot (G C k c : ℕ) : ℕ := k / G * (G * C) + Blocked.index 32 G c (k % G)

/-- **The weight functions in closed form.** -/
theorem weightTile_eq {G C k c : ℕ} (hG : 0 < G) (hC : 0 < C)
    (hfit : weightSlot G C k c ≤ 2147483647) :
    weightTile G C (k + 1) (c + 1) = some (weightSlot G C k c : ℤ) := by
  have hindex : weightSlot G C k c =
      c / 32 * 32 * G + k / G * G * C + c % 32 + k % G * 32 := by
    rw [weightSlot, Blocked.index]
    ring
  have hmax : int.max = 2147483647 := rfl
  have hsplit := Nat.div_add_mod' k G
  have hchannel : c / 32 * 32 ≤ c / 32 * 32 * G := Nat.le_mul_of_pos_right _ hG
  have hkernel : k / G * G ≤ k / G * G * C := Nat.le_mul_of_pos_right _ hC
  rw [hindex] at hfit ⊢
  rw [weightTile, show (32 : ℤ) = ((32 : ℕ) : ℤ) from rfl]
  simp (disch := omega) only [Option.bind_eq_bind, Option.bind_some,
    IntType.sub_one_nat, IntType.div_nat, IntType.mod_nat, IntType.mul_nat, IntType.add_nat]

/-! ## Where they are zero -/

/-- A non-negative dividend is zero where quotient and remainder are. -/
private theorem eq_one_of_digits {c b : ℤ} (hq : (c - 1).tdiv b = 0) (hr : (c - 1).tmod b = 0) :
    c = 1 := by
  have hsplit := Int.mul_tdiv_add_tmod (c - 1) b
  rw [hq, hr] at hsplit
  omega

/-- Only the first element is in slot zero, however large the index may get. -/
theorem featureData_eq_zero_iff (C : ℤ) {H W C2 c h w : ℤ} (hH : 1 ≤ H) (hW : 1 ≤ W)
    (hC2 : 1 ≤ C2) (hc : 1 ≤ c) (hh : 1 ≤ h) (hw : 1 ≤ w) :
    featureData C H W C2 c h w = some 0 ↔ c = 1 ∧ h = 1 ∧ w = 1 := by
  constructor
  · intro heq
    simp only [featureData, Option.bind_eq_bind, Option.bind_eq_some_iff] at heq
    obtain ⟨c₀, hc₀, plane, hplane, rows, hrows, cells, hcells, src, hsrc, c₁, hc₁, offset,
      hoffset, h₀, hh₀, line, hline, w₀, hw₀, cell, hcell, inner, hinner, base, hbase, hsum⟩ := heq
    obtain rfl := IntType.sub_eq_some hc₀
    obtain rfl := IntType.div_eq_some hplane
    obtain rfl := IntType.mul_eq_some hrows
    obtain rfl := IntType.mul_eq_some hcells
    obtain rfl := IntType.mul_eq_some hsrc
    obtain rfl := IntType.sub_eq_some hc₁
    obtain rfl := IntType.mod_eq_some hoffset
    obtain rfl := IntType.sub_eq_some hh₀
    obtain rfl := IntType.mul_eq_some hline
    obtain rfl := IntType.sub_eq_some hw₀
    obtain rfl := IntType.add_eq_some hcell
    obtain rfl := IntType.mul_eq_some hinner
    obtain rfl := IntType.add_eq_some hbase
    have hzero := IntType.add_eq_some hsum
    -- four non-negative digits that add up to zero
    have hq : 0 ≤ (c - 1).tdiv C2 := Int.tdiv_nonneg (by omega) (by omega)
    have hr : 0 ≤ (c - 1).tmod C2 := Int.tmod_nonneg C2 (by omega)
    have hrow : 0 ≤ (h - 1) * W := mul_nonneg (by omega) (by omega)
    have hplanes : 0 ≤ (c - 1).tdiv C2 * H * W * C2 :=
      mul_nonneg (mul_nonneg (mul_nonneg hq (by omega)) (by omega)) (by omega)
    have hcells : 0 ≤ C2 * ((h - 1) * W + (w - 1)) := mul_nonneg (by omega) (by omega)
    have hplane : (c - 1).tdiv C2 * H * W * C2 = 0 := by omega
    have hcell : C2 * ((h - 1) * W + (w - 1)) = 0 := by omega
    have hsum : (h - 1) * W + (w - 1) = 0 :=
      (mul_eq_zero.mp hcell).resolve_left (by omega)
    have hline : (h - 1) * W = 0 := by omega
    have hh₁ : h - 1 = 0 := (mul_eq_zero.mp hline).resolve_right (by omega)
    have hq₀ : (c - 1).tdiv C2 = 0 := by
      simp only [mul_eq_zero] at hplane
      omega
    exact ⟨eq_one_of_digits hq₀ (by omega), by omega, by omega⟩
  · rintro ⟨rfl, rfl, rfl⟩
    obtain ⟨H, rfl⟩ := Int.eq_ofNat_of_zero_le (show 0 ≤ H by omega)
    obtain ⟨W, rfl⟩ := Int.eq_ofNat_of_zero_le (show 0 ≤ W by omega)
    obtain ⟨C2, rfl⟩ := Int.eq_ofNat_of_zero_le (show 0 ≤ C2 by omega)
    have hslot : featureSlot H W C2 0 0 0 = 0 := by simp [featureSlot, Blocked.index]
    have hzero := featureData_eq C (H := H) (W := W) (c := 0) (h := 0) (w := 0) (by omega)
      (by omega) (show 0 < C2 by omega) (by rw [hslot]; omega)
    rw [hslot] at hzero
    exact hzero

theorem weightTile_eq_zero_iff {G C k c : ℤ} (hG : 1 ≤ G) (hC : 1 ≤ C) (hk : 1 ≤ k)
    (hc : 1 ≤ c) : weightTile G C k c = some 0 ↔ k = 1 ∧ c = 1 := by
  constructor
  · intro heq
    simp only [weightTile, Option.bind_eq_bind, Option.bind_eq_some_iff] at heq
    obtain ⟨k₀, hk₀, kpg, hkpg, c₀, hc₀, cpg, hcpg, blocks, hblocks, channels, hchannels, groups,
      hgroups, kernels, hkernels, dst, hdst, c₁, hc₁, lane, hlane, base, hbase, k₁, hk₁, inner,
      hinner, row, hrow, hsum⟩ := heq
    obtain rfl := IntType.sub_eq_some hk₀
    obtain rfl := IntType.div_eq_some hkpg
    obtain rfl := IntType.sub_eq_some hc₀
    obtain rfl := IntType.div_eq_some hcpg
    obtain rfl := IntType.mul_eq_some hblocks
    obtain rfl := IntType.mul_eq_some hchannels
    obtain rfl := IntType.mul_eq_some hgroups
    obtain rfl := IntType.mul_eq_some hkernels
    obtain rfl := IntType.add_eq_some hdst
    obtain rfl := IntType.sub_eq_some hc₁
    obtain rfl := IntType.mod_eq_some hlane
    obtain rfl := IntType.add_eq_some hbase
    obtain rfl := IntType.sub_eq_some hk₁
    obtain rfl := IntType.mod_eq_some hinner
    obtain rfl := IntType.mul_eq_some hrow
    have hzero := IntType.add_eq_some hsum
    have hkq : 0 ≤ (k - 1).tdiv G := Int.tdiv_nonneg (by omega) (by omega)
    have hkr : 0 ≤ (k - 1).tmod G := Int.tmod_nonneg G (by omega)
    have hcq : 0 ≤ (c - 1).tdiv 32 := Int.tdiv_nonneg (by omega) (by omega)
    have hcr : 0 ≤ (c - 1).tmod 32 := Int.tmod_nonneg 32 (by omega)
    have hchannels : 0 ≤ (c - 1).tdiv 32 * 32 * G := mul_nonneg (by omega) (by omega)
    have hkernels : 0 ≤ (k - 1).tdiv G * G * C :=
      mul_nonneg (mul_nonneg hkq (by omega)) (by omega)
    have hchannel : (c - 1).tdiv 32 * 32 * G = 0 := by omega
    have hkernel : (k - 1).tdiv G * G * C = 0 := by omega
    simp only [mul_eq_zero] at hchannel hkernel
    exact ⟨eq_one_of_digits (b := G) (by omega) (by omega),
      eq_one_of_digits (b := 32) (by omega) (by omega)⟩
  · rintro ⟨rfl, rfl⟩
    obtain ⟨G, rfl⟩ := Int.eq_ofNat_of_zero_le (show 0 ≤ G by omega)
    obtain ⟨C, rfl⟩ := Int.eq_ofNat_of_zero_le (show 0 ≤ C by omega)
    have hslot : weightSlot G C 0 0 = 0 := by simp [weightSlot, Blocked.index]
    have hzero := weightTile_eq (k := 0) (c := 0) (show 0 < G by omega) (show 0 < C by omega)
      (by rw [hslot]; omega)
    rw [hslot] at hzero
    exact hzero

/-! ## Injectivity and image -/

/-- **The feature layout is lossless**: a slot belongs to one element. -/
theorem featureSlot_inj {H W C2 c h w c' h' w' : ℕ} (hC2 : 0 < C2) (hh : h < H) (hw : w < W)
    (hh' : h' < H) (hw' : w' < W)
    (heq : featureSlot H W C2 c h w = featureSlot H W C2 c' h' w') :
    c = c' ∧ h = h' ∧ w = w' := by
  obtain ⟨hc, hcell⟩ :=
    Blocked.index_inj hC2 (Tile.lt_mul hh hw) (Tile.lt_mul hh' hw') heq
  obtain ⟨hrow, hcol⟩ := Tile.inj hw hw' hcell
  exact ⟨hc, hrow, hcol⟩

theorem featureSlot_lt {C H W C2 c h w : ℕ} (hC2 : 0 < C2) (hdvd : C2 ∣ C) (hc : c < C)
    (hh : h < H) (hw : w < W) : featureSlot H W C2 c h w < C * (H * W) :=
  Blocked.index_lt_of_dvd hC2 hdvd hc (Tile.lt_mul hh hw)

/-- A channel within a kernel group, with the channels in full groups of 32. -/
theorem weightOffset_lt {G C c k : ℕ} (hG : 0 < G) (hdvd : 32 ∣ C) (hc : c < C) :
    Blocked.index 32 G c (k % G) < G * C := by
  rw [Nat.mul_comm]
  exact Blocked.index_lt_of_dvd (by decide) hdvd hc (Nat.mod_lt k hG)

/-- **The weight layout is lossless.** -/
theorem weightSlot_inj {G C k c k' c' : ℕ} (hG : 0 < G) (hdvd : 32 ∣ C) (hc : c < C)
    (hc' : c' < C) (heq : weightSlot G C k c = weightSlot G C k' c') : k = k' ∧ c = c' := by
  obtain ⟨hgroup, hoffset⟩ :=
    Tile.inj (weightOffset_lt hG hdvd hc) (weightOffset_lt hG hdvd hc') heq
  obtain ⟨hchannel, hkernel⟩ :=
    Blocked.index_inj (by decide) (Nat.mod_lt k hG) (Nat.mod_lt k' hG) hoffset
  refine ⟨?_, hchannel⟩
  rw [← Nat.div_add_mod' k G, ← Nat.div_add_mod' k' G, hgroup, hkernel]

theorem weightSlot_lt {G C N k c : ℕ} (hG : 0 < G) (hC : 32 ∣ C) (hN : G ∣ N) (hk : k < N)
    (hc : c < C) : weightSlot G C k c < N * C := by
  obtain ⟨Q, rfl⟩ := hN
  have hgroup : k / G < Q := by
    rw [Nat.div_lt_iff_lt_mul hG, Nat.mul_comm]
    exact hk
  calc weightSlot G C k c < Q * (G * C) := Tile.lt_mul hgroup (weightOffset_lt hG hC hc)
    _ = G * Q * C := by ring

end Librocket
