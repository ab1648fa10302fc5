import Librocket.Npu.Readback
import Librocket.Npu.Packing

/-!
# The strides of the NPU and of the host

The generator programs how far apart the NPU finds consecutive planes; the
host places the elements by `feature_data`. `planePitch_eq` is the distance the
host uses, `strides_match` that the registers say the same, on the input side
through the line and surface strides and on the output side through the
surface stride of the DPU.

The surface stride of the input is computed as four lines less than a plane
and reaches the register through a negative number at a single row, where one
is added; both cases leave the sum of the two strides at one plane.
-/

namespace Librocket

open Hw Bitfield

/-! ## The pitch of the host layout -/

/-- The bytes from an element to the one `C2` channels further on. -/
def planePitch (bytes C H C2 c h : ℤ) : Option ℤ := do
  let next ← featureData C H 1 C2 (c + C2) h 1
  let here ← featureData C H 1 C2 c h 1
  pure (bytes * (next - here))

/-- **The pitch is one plane**, wherever in the matrix it is taken. -/
theorem planePitch_eq (bytes : ℤ) (C2 : ℕ) {C H c h : ℕ} (hC2 : 0 < C2) (hdvd : C2 ∣ C)
    (hfit : H * C < 2 ^ 31) (hc : 1 ≤ c) (hc' : c + C2 ≤ C) (hh : 1 ≤ h) (hh' : h ≤ H) :
    planePitch bytes C H C2 c h = some (bytes * (H * C2)) := by
  obtain ⟨c, rfl⟩ := Nat.exists_eq_add_of_le' hc
  obtain ⟨h, rfl⟩ := Nat.exists_eq_add_of_le' hh
  have hnext := featureData_slot hC2 hdvd hfit (h := h) (c := c + C2) (by omega) (by omega)
  have hhere := featureData_slot hC2 hdvd hfit (h := h) (c := c) (by omega) (by omega)
  have hpitch : (featureLayout C H C2 hC2 hdvd).slot (h, c + C2) =
      (featureLayout C H C2 hC2 hdvd).slot (h, c) + H * C2 := by
    show Blocked.index C2 (H * 1) (c + C2) (h * 1 + 0) = Blocked.index C2 (H * 1) c (h * 1 + 0) + _
    rw [Blocked.index_add_block hC2, Nat.mul_one]
  have hstep : ((c + 1 : ℕ) : ℤ) + C2 = ((c + C2 : ℕ) : ℤ) + 1 := by
    push_cast
    ring
  rw [planePitch, hstep, Nat.cast_succ c, Nat.cast_succ h, hnext, hhere, hpitch]
  refine congrArg some ?_
  push_cast
  ring

/-! ## The input strides -/

/-- The rows of the input in fours. -/
private theorem sdiv_four (m : U16) : (promote m).sdiv 4 = BitVec.ofNat 32 (m.toNat / 4) := by
  have hm := m.isLt
  apply BitVec.eq_of_toNat_eq
  rw [sdiv_promote m (by decide), BitVec.toNat_udiv, toNat_promote_u16, BitVec.toNat_ofNat]
  show m.toNat / 4 = m.toNat / 4 % 2 ^ 32
  omega

/-- `surf_stride` before the correction: four lines less than a plane. -/
private theorem rawStride_toInt (m : U16) :
    ((4 : CInt) * ((promote m).sdiv 4 - 1)).toInt = 4 * ((m.toNat / 4 : ℕ) : ℤ) - 4 := by
  have hm := m.isLt
  have hq : (BitVec.ofNat 32 (m.toNat / 4)).toInt = ((m.toNat / 4 : ℕ) : ℤ) := by
    rw [BitVec.toInt_ofNat']
    exact Int.bmod_eq_of_le (by omega) (by omega)
  have hone : (1 : CInt).toInt = 1 := by decide
  have hfour : (4 : CInt).toInt = 4 := by decide
  rw [sdiv_four, BitVec.toInt_mul, BitVec.toInt_sub, hq, hone, hfour]
  rw [Int.bmod_eq_of_le (n := ((m.toNat / 4 : ℕ) : ℤ) - 1) (by omega) (by omega)]
  rw [Int.bmod_eq_of_le (by omega) (by omega)]
  ring

/-- `surf_stride` as the descriptor gets it. -/
private theorem surfStride_toInt (stack : Stack) (params : MatmulParams) :
    (finalCna fp16Kind stack params).surfStride.toInt =
      if params.m.toNat < 4 then -3 else 4 * ((params.m.toNat / 4 : ℕ) : ℤ) - 4 := by
  have hraw := rawStride_toInt params.m
  have hm := params.m.isLt
  show (if ((4 : CInt) * ((promote params.m).sdiv 4 - 1)).slt 0 then
    (4 : CInt) * ((promote params.m).sdiv 4 - 1) + 1
    else (4 : CInt) * ((promote params.m).sdiv 4 - 1)).toInt = _
  generalize (4 : CInt) * ((promote params.m).sdiv 4 - 1) = raw at *
  have hslt : raw.slt 0 = decide (raw.toInt < 0) := BitVec.slt_eq_decide
  rw [hslt]
  by_cases hsmall : params.m.toNat < 4
  · have hneg : raw.toInt = -4 := by omega
    have hone : (1 : CInt).toInt = 1 := by decide
    rw [hneg, if_pos hsmall, if_pos (by decide), BitVec.toInt_add, hneg, hone]
    rfl
  · rw [if_neg hsmall, if_neg (by simp only [decide_eq_true_eq]; omega), hraw]

/-- The strides an accepted run programs: a line of four, and a surface that
makes up a plane with it for one row and for rows in fours. -/
theorem inputStrides_eq (stack : Stack) {params : MatmulParams} (h : Accepts fp16Kind params)
    (hm : params.m.toNat = 1 ∨ 4 ∣ params.m.toNat ∧ 0 < params.m.toNat)
    (before : RegKey → U32) :
    let r := genMatmulFp16 stack params
    (Reg.CNA_DMA_CON1_LINE_STRIDE.get (r.reg before BLOCK_CNA CNA_DMA_CON1) : ℤ) +
      Reg.CNA_DMA_CON2_SURF_STRIDE.getSigned (r.reg before BLOCK_CNA CNA_DMA_CON2) =
        params.m.toNat := by
  intro r
  have hlt := params.m.isLt
  have hcon2 : r.reg before BLOCK_CNA CNA_DMA_CON2 =
      (finalCna fp16Kind stack params).surfStride &&& Reg.CNA_DMA_CON2_SURF_STRIDE.mask :=
    reg_of_accepts stack h before 25 rfl (by decide)
  have hline : Reg.CNA_DMA_CON1_LINE_STRIDE.get (r.reg before BLOCK_CNA CNA_DMA_CON1) =
      (4 : U32).toNat % 2 ^ 28 :=
    get_of_accepts (d := .cnaLineStride) stack h before 24 0 (by decide)
  have hsurf := surfStride_toInt stack params
  have hlo : -134217728 ≤ (finalCna fp16Kind stack params).surfStride.toInt := by
    rw [hsurf]
    split <;> omega
  have hhi : (finalCna fp16Kind stack params).surfStride.toInt < 134217728 := by
    rw [hsurf]
    split <;> omega
  have hread : Reg.CNA_DMA_CON2_SURF_STRIDE.getSigned (r.reg before BLOCK_CNA CNA_DMA_CON2) =
      (finalCna fp16Kind stack params).surfStride.toInt := by
    rw [hcon2, Field.getSigned, Field.get_and_mask]
    exact Field.getSigned_of_range _ rfl hlo hhi (by decide)
  rw [hline, hread, hsurf]
  show (4 : ℤ) + _ = _
  split <;> omega

/-! ## The output stride -/

/-- The bytes of an output element, by the precision the DPU is told. -/
def outElemBytes (precision : ℕ) : Option ℕ :=
  if precision = 5 then some 4 else if precision = 2 then some 2 else none

theorem outPrecision_eq (stack : Stack) {params : MatmulParams} (h : Accepts fp16Kind params)
    (before : RegKey → U32) :
    Reg.DPU_DATA_FORMAT_OUT_PRECISION.get
        ((genMatmulFp16 stack params).reg before BLOCK_DPU DPU_DATA_FORMAT) =
      if params.fp32tofp16 = 0 then 5 else 2 := by
  calc Reg.DPU_DATA_FORMAT_OUT_PRECISION.get
        ((genMatmulFp16 stack params).reg before BLOCK_DPU DPU_DATA_FORMAT)
      = (promote (fp16Kind.outPrecision params.fp32tofp16)).toNat % 2 ^ 3 :=
        get_of_accepts (d := .dpuOutPrecision) stack h before 55 0 (by decide)
    _ = if params.fp32tofp16 = 0 then 5 else 2 := by
        show (promote (if params.fp32tofp16 = 0 then precision_float32
          else precision_float16)).toNat % 2 ^ 3 = _
        split
        · rfl
        · rfl

theorem dstSurfStride_eq (stack : Stack) {params : MatmulParams} (h : Accepts fp16Kind params)
    (before : RegKey → U32) :
    ((genMatmulFp16 stack params).reg before BLOCK_DPU DPU_DST_SURF_STRIDE).toNat =
      16 * params.m.toNat := by
  have hm := params.m.isLt
  have hreg : (genMatmulFp16 stack params).reg before BLOCK_DPU DPU_DST_SURF_STRIDE =
      ((promote params.m * promote (1 : U16)) &&& 0xFFFFFFF) <<< 4 :=
    reg_of_accepts stack h before 58 rfl (by decide)
  rw [hreg, BitVec.toNat_shiftLeft, toNat_and_lowMask 28 rfl, BitVec.toNat_mul,
    toNat_promote_u16, Nat.shiftLeft_eq]
  simp
  omega

/-- The output planes are 16 bytes wide in either element size. -/
theorem outputPitch {bytes C2 C H c h : ℕ} (hwide : bytes * C2 = 16) (hdvd : C2 ∣ C)
    (hfit : H * C < 2 ^ 31) (hc : 1 ≤ c) (hc' : c + C2 ≤ C) (hh : 1 ≤ h) (hh' : h ≤ H) :
    planePitch bytes C H C2 c h = some ((16 * H : ℕ) : ℤ) := by
  have hC2 : 0 < C2 := Nat.pos_of_ne_zero fun hzero => by simp [hzero] at hwide
  rw [planePitch_eq bytes C2 hC2 hdvd hfit hc hc' hh hh', ← hwide]
  congr 1
  push_cast
  ring

/-! ## They match -/

/-- The registers of a run tell the strides of the host: twice the feature
layout of the input, and the layout of the output in the element size the run
selected. -/
def StridesMatch (params : MatmulParams) (r : GenResult) (before : RegKey → U32) : Prop :=
  let m := params.m.toNat
  let k := params.k.toNat
  let n := params.n.toNat
  let line : ℤ := Reg.CNA_DMA_CON1_LINE_STRIDE.get (r.reg before BLOCK_CNA CNA_DMA_CON1)
  let surf := Reg.CNA_DMA_CON2_SURF_STRIDE.getSigned (r.reg before BLOCK_CNA CNA_DMA_CON2)
  let dst : ℤ := (r.reg before BLOCK_DPU DPU_DST_SURF_STRIDE).toNat
  (∀ c h, 1 ≤ c → c + 8 ≤ k → 1 ≤ h → h ≤ m →
    planePitch 2 k m 8 c h = some (16 * (line + surf))) ∧
  ∃ E, outElemBytes
      (Reg.DPU_DATA_FORMAT_OUT_PRECISION.get (r.reg before BLOCK_DPU DPU_DATA_FORMAT)) = some E ∧
    ∀ j h, 1 ≤ j → j + 16 / E ≤ n → 1 ≤ h → h ≤ m →
      planePitch E n m (16 / E) j h = some dst

/-- Accepted aligned matrices fit an `int`. -/
theorem matrices_fit {params : MatmulParams} (h : Accepts fp16Kind params)
    (hk : 0 < params.k.toNat ∧ 32 ∣ params.k.toNat) :
    params.m.toNat * params.k.toNat < 2 ^ 31 ∧ params.m.toNat * params.n.toNat < 2 ^ 31 := by
  obtain ⟨hdata, -⟩ := h
  have hsize : 2 * params.m.toNat * params.k.toNat ≤ 360448 := hdata
  have hn := params.n.isLt
  have hk32 : 32 ≤ params.k.toNat := Nat.le_of_dvd hk.1 hk.2
  have hrows : 2 * params.m.toNat * 32 ≤ 2 * params.m.toNat * params.k.toNat :=
    Nat.mul_le_mul_left _ hk32
  have hout : params.m.toNat * params.n.toNat ≤ 5632 * 65535 :=
    Nat.mul_le_mul (by omega) (by omega)
  rw [Nat.mul_assoc] at hsize
  constructor <;> omega

/-- **The programmed strides are those of the host layout**, for every aligned
request and either output format. -/
theorem strides_match (stack : Stack) (params : MatmulParams) (before : RegKey → U32)
    (hret : (genMatmulFp16 stack params).ret = 0)
    (hm : params.m.toNat = 1 ∨ 4 ∣ params.m.toNat)
    (hk : 0 < params.k.toNat ∧ 32 ∣ params.k.toNat) (hn : 16 ∣ params.n.toNat) :
    StridesMatch params (genMatmulFp16 stack params) before := by
  have h : Accepts fp16Kind params := (ret_genMatmul_iff stack).mp hret
  obtain ⟨hmk, hmn⟩ := matrices_fit h hk
  have hdst := dstSurfStride_eq stack h before
  have hprec := outPrecision_eq stack h before
  constructor
  · intro c h' hc hc' hh hh'
    have hplane := inputStrides_eq stack h (by omega) before
    have hpitch := planePitch_eq 2 8 (by decide) (dvd_trans (by decide) hk.2) hmk hc hc' hh hh'
    rw [hplane]
    refine hpitch.trans (congrArg some ?_)
    push_cast
    ring
  · by_cases hf : params.fp32tofp16 = 0
    · refine ⟨4, by rw [hprec, if_pos hf]; rfl, ?_⟩
      intro j h' hj hj' hh hh'
      rw [hdst, show (16 : ℤ) / ((4 : ℕ) : ℤ) = ((4 : ℕ) : ℤ) from by decide]
      exact outputPitch (by decide) (dvd_trans (by decide) hn) hmn hj hj' hh hh'
    · refine ⟨2, by rw [hprec, if_neg hf]; rfl, ?_⟩
      intro j h' hj hj' hh hh'
      rw [hdst, show (16 : ℤ) / ((2 : ℕ) : ℤ) = ((8 : ℕ) : ℤ) from by decide]
      exact outputPitch (by decide) (dvd_trans (by decide) hn) hmn hj hj' hh hh'

/-- One row of 64 channels by 32 kernels, in float16. -/
def oneRow : MatmulParams :=
  { m := 1, k := 64, n := 32, inputDma := 0, weightsDma := 0, outputDma := 0, fp32tofp16 := 2 }

theorem strides_match_oneRow : StridesMatch oneRow (genMatmulFp16 default oneRow) fun _ => 0 :=
  strides_match default oneRow _ ((ret_genMatmul_iff default).mpr (by decide)) (by decide)
    (by decide) (by decide)

end Librocket
