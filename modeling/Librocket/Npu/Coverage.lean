import Librocket.Npu.Acceptance
import Librocket.Npu.Layout

/-!
# What the programmed sizes cover

A job reserves room twice by different rules. The banks of the input round its
bytes up as a whole, the data entries round every row up by itself; the weight
size is a plain product, the weight layout tiles it. Both pairs differ by what
is lacking to a full unit (`Tile.fill`), and the iff lemmas say when that is
room enough: the padding of the rows has to fit what the last bank has left
(`entriesFit_genMatmul_iff`), and a partly filled last group of kernels has to
have a single group of channels (`sizeCovers_genMatmul_iff`).
-/

namespace Librocket

open Hw Bitfield CArith

/-! ## Data entries -/

/-- The channels of one data entry. -/
def MatmulKind.entry (e : MatmulKind) : ℕ := e.entryElems.toNat

section Entries

variable {e : MatmulKind} (stack : Stack) {params : MatmulParams}

/-- A row takes its channels rounded up to entries. -/
theorem toNat_dataEntries (hpos : 0 < e.entry) (hmsb : e.entryElems.msb = false) :
    (finalCna e stack params).dataEntries.toNat = params.k.toNat ⌈/⌉ e.entry := by
  have hk := params.k.isLt
  have hone : (promote (1 : U16) * promote params.k : CInt) = promote params.k :=
    BitVec.one_mul _
  have hval : (finalCna e stack params).dataEntries =
      if promote params.k % e.entryElems = 0
      then (promote params.k / e.entryElems).setWidth 16
      else (promote params.k / e.entryElems).setWidth 16 + 1 := by
    rw [← srem_promote params.k hmsb, ← sdiv_promote params.k hmsb, ← hone]
    rfl
  have hdiv : (promote params.k / e.entryElems).toNat = params.k.toNat / e.entry := by
    rw [BitVec.toNat_udiv, toNat_promote_u16]
    rfl
  have hmod : (promote params.k % e.entryElems).toNat = params.k.toNat % e.entry := by
    rw [BitVec.toNat_umod, toNat_promote_u16]
    rfl
  have hle := Nat.div_le_self params.k.toNat e.entry
  rw [hval, Tile.ceilDiv_eq_ite hpos, ← hmod, ← hdiv]
  by_cases hzero : promote params.k % e.entryElems = 0
  · rw [if_pos hzero, if_pos (by rw [hzero]; rfl), BitVec.toNat_setWidth, hdiv]
    exact Nat.mod_eq_of_lt (by omega)
  · have hne : (promote params.k % e.entryElems).toNat ≠ 0 :=
      fun hz => hzero (BitVec.eq_of_toNat_eq hz)
    rw [if_neg hzero, if_neg hne, BitVec.toNat_add, BitVec.toNat_setWidth, hdiv]
    show (params.k.toNat / e.entry % 2 ^ 16 + 1) % 2 ^ 16 = params.k.toNat / e.entry + 1
    -- with a remainder the quotient stays below its greatest value
    have hsplit := Nat.div_add_mod' params.k.toNat e.entry
    have hquot : params.k.toNat / e.entry ≤ params.k.toNat / e.entry * e.entry :=
      Nat.le_mul_of_pos_right _ hpos
    rw [hmod] at hne
    omega

variable (hunit : e.bytes * e.entry = 64) (hmsb : e.entryElems.msb = false)

include hunit in
private theorem entry_pos : 0 < e.entry := by
  apply Nat.pos_of_ne_zero
  intro hzero
  rw [hzero] at hunit
  omega

include hunit hmsb in
theorem dataEntries_eq (h : Accepts e params) (before : RegKey → U32) :
    Reg.CNA_CBUF_CON1_DATA_ENTRIES.get
        ((genMatmul e stack params).reg before BLOCK_CNA CNA_CBUF_CON1) =
      params.k.toNat ⌈/⌉ e.entry := by
  have hpos := entry_pos hunit
  -- one kernel fits a bank, so its entries fit the thirteen bits
  have hfit : params.k.toNat ⌈/⌉ e.entry < 2 ^ 13 := by
    have hceil := Tile.ceilDiv_mul (n := params.k.toNat) hpos
    have hfill := Tile.fill_lt (n := params.k.toNat) hpos
    have hbytes : e.bytes * (params.k.toNat ⌈/⌉ e.entry * e.entry) ≤
        e.bytes * (params.k.toNat + e.entry) :=
      Nat.mul_le_mul_left _ (by omega)
    rw [Nat.mul_add, hunit, Nat.mul_left_comm, hunit] at hbytes
    have hk := h.2
    omega
  calc Reg.CNA_CBUF_CON1_DATA_ENTRIES.get
        ((genMatmul e stack params).reg before BLOCK_CNA CNA_CBUF_CON1)
      = (promote (finalCna e stack params).dataEntries).toNat % 2 ^ 13 :=
        get_of_accepts (d := .cnaDataEntries) stack h before 12 0 (by decide)
    _ = params.k.toNat ⌈/⌉ e.entry := by
        rw [toNat_promote_u16, toNat_dataEntries stack hpos hmsb, Nat.mod_eq_of_lt hfit]

/-- The bytes the entries of all rows take. -/
def EntriesFit (params : MatmulParams) (r : GenResult) (before : RegKey → U32) : Prop :=
  64 * Reg.CNA_CBUF_CON1_DATA_ENTRIES.get (r.reg before BLOCK_CNA CNA_CBUF_CON1) *
      params.m.toNat ≤
    Reg.CNA_CBUF_CON0_DATA_BANK.get (r.reg before BLOCK_CNA CNA_CBUF_CON0) * 32768

/-- The rows, each filled up to whole entries of `E` channels, stay within the
last bank their own bytes take: the padding fits what is left of it. -/
def PaddingFits (s E : ℕ) (params : MatmulParams) : Prop :=
  s * params.m.toNat * Tile.fill E params.k.toNat ≤
    Tile.fill 32768 (s * params.m.toNat * params.k.toNat)

instance (s E : ℕ) (params : MatmulParams) : Decidable (PaddingFits s E params) := by
  unfold PaddingFits; infer_instance

include hunit hmsb in
theorem entriesFit_genMatmul_iff (h : Accepts e params) (before : RegKey → U32) :
    EntriesFit params (genMatmul e stack params) before ↔
      PaddingFits e.bytes e.entry params := by
  have hpos := entry_pos hunit
  have hrow : 64 * (params.k.toNat ⌈/⌉ e.entry) * params.m.toNat =
      e.bytes * params.m.toNat * params.k.toNat +
        e.bytes * params.m.toNat * Tile.fill e.entry params.k.toNat := by
    rw [← Nat.mul_add, ← Tile.ceilDiv_mul hpos, ← hunit]
    ring
  have hbank := Tile.ceilDiv_mul (d := 32768)
    (n := e.bytes * params.m.toNat * params.k.toNat) (by decide)
  rw [EntriesFit, PaddingFits, dataEntries_eq stack hunit hmsb h, (cbuf_split stack h before).1,
    hrow, hbank]
  exact Nat.add_le_add_iff_left

end Entries

/-- **The entries of the input fit its banks exactly where the padding of the
rows does**, for both generators: an fp16 entry has 32 channels of two bytes, an
int8 entry 64 of one. -/
theorem entries_fit_iff (stack : Stack) (params : MatmulParams) (before : RegKey → U32) :
    ((genMatmulFp16 stack params).ret = 0 →
      (EntriesFit params (genMatmulFp16 stack params) before ↔ PaddingFits 2 32 params)) ∧
    ((genMatmulInt8 stack params).ret = 0 →
      (EntriesFit params (genMatmulInt8 stack params) before ↔ PaddingFits 1 64 params)) := by
  constructor
  · intro hret
    exact entriesFit_genMatmul_iff (e := fp16Kind) stack rfl rfl
      ((ret_genMatmul_iff stack).mp hret) before
  · intro hret
    exact entriesFit_genMatmul_iff (e := int8Kind) stack rfl rfl
      ((ret_genMatmul_iff stack).mp hret) before

/-- A 200 x 160 by 160 x 16 product, each row two and a half int8 entries. -/
def halfEntries : MatmulParams :=
  { m := 200, k := 160, n := 16, inputDma := 0, weightsDma := 0, outputDma := 0, fp32tofp16 := 0 }

theorem entries_fit_iff_halfEntries :
    (EntriesFit halfEntries (genMatmulFp16 default halfEntries) (fun _ => 0) ↔
        PaddingFits 2 32 halfEntries) ∧
      (EntriesFit halfEntries (genMatmulInt8 default halfEntries) (fun _ => 0) ↔
        PaddingFits 1 64 halfEntries) := by
  obtain ⟨hfp16, hint8⟩ := entries_fit_iff default halfEntries fun _ => 0
  exact ⟨hfp16 ((ret_genMatmul_iff default).mpr (by decide)),
    hint8 ((ret_genMatmul_iff default).mpr (by decide))⟩

/-- Its rows take 38400 bytes of entries in the one bank their 32000 bytes
reserve. -/
theorem entries_fit_fails : (genMatmulInt8 default halfEntries).ret = 0 ∧ ∀ before,
    ¬ EntriesFit halfEntries (genMatmulInt8 default halfEntries) before := by
  have h : Accepts int8Kind halfEntries := by decide
  refine ⟨(ret_genMatmul_iff default).mpr h, fun before hfit => ?_⟩
  have hpadding := (entriesFit_genMatmul_iff default rfl rfl h before).mp hfit
  revert hpadding
  decide

/-! ## Packed weights -/

section Last

variable {G C N : ℕ}

/-- The last channel of the last kernel has the greatest index. -/
theorem weightSlot_le_last {k c : ℕ} (hG : 0 < G) (hC : 32 ∣ C) (hk : k < N) (hc : c < C) :
    weightSlot G C k c ≤ weightSlot G C (N - 1) (C - 1) := by
  have hgroup : k / G ≤ (N - 1) / G := Nat.div_le_div_right (by omega)
  rcases Nat.lt_or_eq_of_le hgroup with hlt | heq
  · calc weightSlot G C k c
        ≤ (k / G + 1) * (G * C) := by
          have hoffset := weightOffset_lt (k := k) hG hC hc
          rw [weightSlot, Nat.succ_mul]
          omega
      _ ≤ (N - 1) / G * (G * C) := Nat.mul_le_mul_right _ hlt
      _ ≤ weightSlot G C (N - 1) (C - 1) := Nat.le_add_right _ _
  · have hkernel : k % G ≤ (N - 1) % G := by
      have hk₁ := Nat.div_add_mod' k G
      have hk₂ := Nat.div_add_mod' (N - 1) G
      rw [heq] at hk₁
      omega
    have hchannel : c / 32 * G ≤ (C - 1) / 32 * G :=
      Nat.mul_le_mul_right G (Nat.div_le_div_right (by omega))
    rw [weightSlot, weightSlot, Blocked.index, Blocked.index, heq]
    omega

/-- **The room of the packed weights**: their number, and for each kernel the
last group lacks all channel groups but one. -/
theorem weightSlot_last (hG : 0 < G) (hC : 32 ∣ C) (hpos : 0 < C) (hN : 0 < N) :
    weightSlot G C (N - 1) (C - 1) + 1 = N * C + Tile.fill G N * (C - 32) := by
  obtain ⟨Q, rfl⟩ : ∃ Q, C = 32 * (Q + 1) := by
    obtain ⟨Q, rfl⟩ := hC
    exact ⟨Q - 1, by omega⟩
  obtain ⟨n, rfl⟩ : ∃ n, N = n + 1 := ⟨N - 1, by omega⟩
  have hkernel := Nat.mod_lt n hG
  have hsplit := Nat.div_add_mod' n G
  obtain ⟨u, hu⟩ : ∃ u, G = n % G + 1 + u := ⟨G - 1 - n % G, by omega⟩
  have hlane : (32 * (Q + 1) - 1) % 32 = 31 := by omega
  have hblock : (32 * (Q + 1) - 1) / 32 = Q := by omega
  rw [Tile.fill_succ hG, weightSlot, Blocked.index, Nat.add_sub_cancel, hlane, hblock,
    show 32 * (Q + 1) - 32 = 32 * Q from by omega]
  generalize n / G = q at *
  generalize n % G = t at *
  rw [show G - 1 - t = u from by omega, ← hsplit]
  subst hu
  ring

end Last

/-- The indices a weight function gives to `n` kernels of `k` channels. -/
def packedWeights (weight : ℤ → ℤ → ℤ → Option ℤ) (k n : ℕ) : Set ℤ :=
  {i | ∃ j c : ℤ, (1 ≤ j ∧ j ≤ n) ∧ (1 ≤ c ∧ c ≤ k) ∧ weight k j c = some i}

section Packed

variable {G k n : ℕ}

/-- Within an `int` the index function is the tiling. -/
theorem weightTile_of_range (hG : 0 < G) (hk : 32 ∣ k)
    (hfit : weightSlot G k (n - 1) (k - 1) ≤ 2147483647) {j c : ℤ} (hj : 1 ≤ j ∧ j ≤ n)
    (hc : 1 ≤ c ∧ c ≤ k) : ∃ i ≤ weightSlot G k (n - 1) (k - 1),
      weightTile G k j c = some (i : ℤ) := by
  obtain ⟨a, ha⟩ := Int.eq_ofNat_of_zero_le (show 0 ≤ j - 1 by omega)
  obtain ⟨b, hb⟩ := Int.eq_ofNat_of_zero_le (show 0 ≤ c - 1 by omega)
  obtain rfl : j = (a : ℤ) + 1 := by omega
  obtain rfl : c = (b : ℤ) + 1 := by omega
  have hle := weightSlot_le_last (k := a) (c := b) (N := n) hG hk (by omega) (by omega)
  exact ⟨weightSlot G k a b, hle, weightTile_eq hG (by omega) (le_trans hle hfit)⟩

theorem isGreatest_packedWeights (hG : 0 < G) (hk : 32 ∣ k) (hpos : 0 < k) (hn : 0 < n)
    (hfit : weightSlot G k (n - 1) (k - 1) ≤ 2147483647) :
    IsGreatest (packedWeights (weightTile G) k n) (weightSlot G k (n - 1) (k - 1)) := by
  constructor
  · refine ⟨n, k, ⟨by omega, le_rfl⟩, ⟨by omega, le_rfl⟩, ?_⟩
    have hlast := weightTile_eq hG hpos hfit
    rwa [Nat.cast_sub hn, Nat.cast_sub hpos, Nat.cast_one, sub_add_cancel, sub_add_cancel]
      at hlast
  · rintro i ⟨j, c, hj, hc, heq⟩
    obtain ⟨slot, hle, hslot⟩ := weightTile_of_range hG hk hfit hj hc
    rw [heq] at hslot
    obtain rfl := Option.some.inj hslot
    exact_mod_cast hle

end Packed

/-- The programmed weight size is the room of the packed weights, in elements of
`s` bytes: every index is defined, the greatest one is the last element of that
size, and no element lies outside. -/
structure SizeCovers (s : ℕ) (weight : ℤ → ℤ → ℤ → Option ℤ) (params : MatmulParams)
    (r : GenResult) (before : RegKey → U32) : Prop where
  defined : ∀ j c : ℤ, (1 ≤ j ∧ j ≤ params.n.toNat) → (1 ≤ c ∧ c ≤ params.k.toNat) →
    (weight params.k.toNat j c).isSome
  largest : ∃ top, IsGreatest (packedWeights weight params.k.toNat params.n.toNat) top ∧
    s * (top + 1) =
      (Reg.CNA_WEIGHT_SIZE0_WEIGHT_BYTES.get (r.reg before BLOCK_CNA CNA_WEIGHT_SIZE0) : ℤ)
  inside : ∀ i ∈ packedWeights weight params.k.toNat params.n.toNat, 0 ≤ i ∧
    s * (i + 1) ≤
      (Reg.CNA_WEIGHT_SIZE0_WEIGHT_BYTES.get (r.reg before BLOCK_CNA CNA_WEIGHT_SIZE0) : ℤ)

/-- Accepted weights fit an `int` in whole groups of kernels. -/
theorem weightSlot_last_fit {e : MatmulKind} {params : MatmulParams} {G : ℕ}
    (h : Accepts e params) (hbytes : 0 < e.bytes) (hG : 0 < G) (hgroup : G ∣ 65536)
    (hk : 0 < params.k.toNat ∧ 32 ∣ params.k.toNat) (hn : 0 < params.n.toNat) :
    weightSlot G params.k.toNat (params.n.toNat - 1) (params.k.toNat - 1) ≤ 2147483647 := by
  have hlast := weightSlot_last hG hk.2 hk.1 hn
  have hlt := params.n.isLt
  have hchannels : params.k.toNat ≤ 32768 :=
    le_trans (Nat.le_mul_of_pos_left _ hbytes) h.2
  have hkernels : params.n.toNat + Tile.fill G params.n.toNat ≤ 65536 := by
    obtain ⟨Q, hQ⟩ := hgroup
    have hceil : params.n.toNat ⌈/⌉ G ≤ Q := by
      rw [ceilDiv_le_iff_le_mul hG, ← hQ]
      omega
    rw [← Tile.ceilDiv_mul hG, hQ, Nat.mul_comm G Q]
    exact Nat.mul_le_mul_right G hceil
  have hroom : params.n.toNat * params.k.toNat +
      Tile.fill G params.n.toNat * (params.k.toNat - 32) ≤ 65536 * 32768 :=
    calc _ ≤ params.n.toNat * params.k.toNat + Tile.fill G params.n.toNat * params.k.toNat :=
          Nat.add_le_add_left (Nat.mul_le_mul_left _ (Nat.sub_le _ _)) _
      _ = (params.n.toNat + Tile.fill G params.n.toNat) * params.k.toNat :=
          (Nat.add_mul _ _ _).symm
      _ ≤ 65536 * 32768 := Nat.mul_le_mul hkernels hchannels
  omega

/-- **The size covers the packed weights exactly** where the groups of kernels
are full or there is one group of channels. -/
theorem sizeCovers_genMatmul_iff {e : MatmulKind} (stack : Stack) {params : MatmulParams} {G : ℕ}
    (h : Accepts e params) (hbytes : 0 < e.bytes) (hG : 0 < G) (hgroup : G ∣ 65536)
    (hk : 0 < params.k.toNat ∧ 32 ∣ params.k.toNat) (hn : 0 < params.n.toNat)
    (before : RegKey → U32) :
    SizeCovers e.bytes (weightTile G) params (genMatmul e stack params) before ↔
      G ∣ params.n.toNat ∨ params.k.toNat = 32 := by
  have hfit := weightSlot_last_fit h hbytes hG hgroup hk hn
  have hgreatest := isGreatest_packedWeights hG hk.2 hk.1 hn hfit
  have hlast := weightSlot_last hG hk.2 hk.1 hn
  have hsize := (weight_sizes stack h before).1
  have hk32 : 32 ≤ params.k.toNat := Nat.le_of_dvd hk.1 hk.2
  have hexact : e.bytes *
      (weightSlot G params.k.toNat (params.n.toNat - 1) (params.k.toNat - 1) + 1) =
        e.bytes * params.k.toNat * params.n.toNat ↔
      G ∣ params.n.toNat ∨ params.k.toNat = 32 := by
    rw [Nat.mul_assoc, Nat.mul_right_inj (by omega), hlast, Nat.mul_comm params.n.toNat,
      Nat.add_eq_left, Nat.mul_eq_zero, Tile.fill_eq_zero_iff hG]
    constructor
    · rintro (hdvd | hone)
      · exact Or.inl hdvd
      · exact Or.inr (by omega)
    · rintro (hdvd | hone)
      · exact Or.inl hdvd
      · exact Or.inr (by omega)
  constructor
  · intro hcovers
    obtain ⟨top, htop, hsum⟩ := hcovers.largest
    obtain rfl := htop.unique hgreatest
    rw [hsize] at hsum
    exact hexact.mp (by exact_mod_cast hsum)
  · intro hfull
    have hsum := hexact.mpr hfull
    constructor
    case defined =>
      intro j c hj hc
      obtain ⟨slot, -, hslot⟩ := weightTile_of_range hG hk.2 hfit hj hc
      rw [hslot]
      rfl
    case largest =>
      refine ⟨_, hgreatest, ?_⟩
      rw [hsize, ← hsum]
      push_cast
      rfl
    case inside =>
      rintro i ⟨j, c, hj, hc, heq⟩
      obtain ⟨slot, hle, hslot⟩ := weightTile_of_range hG hk.2 hfit hj hc
      rw [heq] at hslot
      obtain rfl := Option.some.inj hslot
      have hbound : e.bytes * (slot + 1) ≤ e.bytes * params.k.toNat * params.n.toNat := by
        rw [← hsum]
        exact Nat.mul_le_mul_left _ (by omega)
      rw [hsize]
      exact ⟨by omega, by exact_mod_cast hbound⟩

/-- **The fp16 weight size always covers the packed weights**, at every aligned
size; the int8 one where the kernels fill their groups of 32 or the channels are
a single group. -/
theorem weight_size_covers_iff (stack : Stack) (params : MatmulParams) (before : RegKey → U32)
    (hk : 0 < params.k.toNat ∧ 32 ∣ params.k.toNat)
    (hn : 0 < params.n.toNat ∧ 16 ∣ params.n.toNat) :
    ((genMatmulFp16 stack params).ret = 0 →
      SizeCovers 2 weightFp16 params (genMatmulFp16 stack params) before) ∧
    ((genMatmulInt8 stack params).ret = 0 →
      (SizeCovers 1 weightInt8 params (genMatmulInt8 stack params) before ↔
        32 ∣ params.n.toNat ∨ params.k.toNat = 32)) := by
  constructor
  · intro hret
    have hcovers := sizeCovers_genMatmul_iff (e := fp16Kind) (G := 16) stack
      ((ret_genMatmul_iff stack).mp hret) (by decide) (by decide) (by decide) hk hn.1 before
    exact hcovers.mpr (Or.inl hn.2)
  · intro hret
    exact sizeCovers_genMatmul_iff (e := int8Kind) (G := 32) stack
      ((ret_genMatmul_iff stack).mp hret) (by decide) (by decide) (by decide) hk hn.1 before

/-- A 4 x 64 by 64 x 16 product: half a group of int8 kernels. -/
def halfGroup : MatmulParams :=
  { m := 4, k := 64, n := 16, inputDma := 0, weightsDma := 0, outputDma := 0, fp32tofp16 := 0 }

theorem weight_size_covers_iff_halfGroup :
    SizeCovers 2 weightFp16 halfGroup (genMatmulFp16 default halfGroup) (fun _ => 0) ∧
      (SizeCovers 1 weightInt8 halfGroup (genMatmulInt8 default halfGroup) (fun _ => 0) ↔
        32 ∣ halfGroup.n.toNat ∨ halfGroup.k.toNat = 32) := by
  obtain ⟨hfp16, hint8⟩ :=
    weight_size_covers_iff default halfGroup (fun _ => 0) (by decide) (by decide)
  exact ⟨hfp16 ((ret_genMatmul_iff default).mpr (by decide)),
    hint8 ((ret_genMatmul_iff default).mpr (by decide))⟩

/-- Its last int8 weight is at 1535, in a buffer programmed as 1024 bytes. -/
theorem weight_size_covers_fails :
    (genMatmulInt8 default halfGroup).ret = 0 ∧ weightInt8 64 16 64 = some 1535 ∧
      ∀ before, Reg.CNA_WEIGHT_SIZE0_WEIGHT_BYTES.get
          ((genMatmulInt8 default halfGroup).reg before BLOCK_CNA CNA_WEIGHT_SIZE0) = 1024 ∧
        ¬ SizeCovers 1 weightInt8 halfGroup (genMatmulInt8 default halfGroup) before := by
  have h : Accepts int8Kind halfGroup := by decide
  refine ⟨(ret_genMatmul_iff default).mpr h, by decide, fun before => ⟨?_, ?_⟩⟩
  · exact (weight_sizes default h before).1
  · intro hcovers
    have hfull := (sizeCovers_genMatmul_iff (G := 32) default h (by decide) (by decide)
      (by decide) (by decide) (by decide) before).mp hcovers
    revert hfull
    decide

end Librocket
