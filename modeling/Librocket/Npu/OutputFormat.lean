import Librocket.Npu.Strides

/-!
# The output format

`fp32tofp16` is read in four places: the precision of the output, the size
fields and the surface step ask whether it is zero, the conversion bit takes
its lowest bit. The two readings part where the flag is even and not zero, and
there the registers describe neither format (`outputFormat_genMatmul`).
-/

namespace Librocket

open Hw Bitfield

/-- The output format a register file spells out. -/
structure OutputFormat where
  outPrecision : ℕ
  fp32tofp16En : ℕ
  sizeE2 : ℕ
  sizeE1 : ℕ
  sizeE0 : ℕ
  surfAdd : ℕ
deriving DecidableEq

def outputFormat (r : GenResult) (before : RegKey → U32) : OutputFormat where
  outPrecision := Reg.DPU_DATA_FORMAT_OUT_PRECISION.get (r.reg before BLOCK_DPU DPU_DATA_FORMAT)
  fp32tofp16En :=
    Reg.DPU_OUT_CVT_SCALE_FP32TOFP16_EN.get (r.reg before BLOCK_DPU DPU_OUT_CVT_SCALE)
  sizeE2 := Reg.DPU_BS_OW_CFG_SIZE_E_2.get (r.reg before BLOCK_DPU DPU_BS_OW_CFG)
  sizeE1 := Reg.DPU_BS_OW_CFG_SIZE_E_1.get (r.reg before BLOCK_DPU DPU_BS_OW_CFG)
  sizeE0 := Reg.DPU_BS_OW_CFG_SIZE_E_0.get (r.reg before BLOCK_DPU DPU_BS_OW_CFG)
  surfAdd := Reg.DPU_SURFACE_ADD_SURF_ADD.get (r.reg before BLOCK_DPU DPU_SURFACE_ADD)

/-- Float32 output of `m` rows. -/
def float32Output (m : ℕ) : OutputFormat :=
  { outPrecision := 5, fp32tofp16En := 0, sizeE2 := 3, sizeE1 := 3, sizeE0 := 3, surfAdd := 4 * m }

/-- Float16 output of `m` rows. -/
def float16Output (m : ℕ) : OutputFormat :=
  { outPrecision := 2, fp32tofp16En := 1, sizeE2 := 1, sizeE1 := 1, sizeE0 := 1, surfAdd := 2 * m }

theorem float32Output_ne_float16Output (m m' : ℕ) : float32Output m ≠ float16Output m' := by
  intro h
  exact absurd (congrArg OutputFormat.outPrecision h) (by decide : (5 : ℕ) ≠ 2)

section Registers

variable (stack : Stack) {params : MatmulParams} (h : Accepts fp16Kind params)
  (before : RegKey → U32)

include h

/-- The surface step fits its 28 bits. -/
theorem surfAdd_eq :
    Reg.DPU_SURFACE_ADD_SURF_ADD.get
        ((genMatmulFp16 stack params).reg before BLOCK_DPU DPU_SURFACE_ADD) =
      if params.fp32tofp16 = 0 then 4 * params.m.toNat else 2 * params.m.toNat := by
  have hm := params.m.isLt
  calc Reg.DPU_SURFACE_ADD_SURF_ADD.get
        ((genMatmulFp16 stack params).reg before BLOCK_DPU DPU_SURFACE_ADD)
      = (promote params.m * promote (1 : U16) *
          (if params.fp32tofp16 = 0 then 4 else 2) : U32).toNat % 2 ^ 28 :=
        get_of_accepts (d := .dpuSurfAdd) stack h before 90 0 (by decide)
    _ = if params.fp32tofp16 = 0 then 4 * params.m.toNat else 2 * params.m.toNat := by
        rw [BitVec.toNat_mul, BitVec.toNat_mul, toNat_promote_u16, toNat_promote_u16]
        split
        · show params.m.toNat * 1 % 2 ^ 32 * 4 % 2 ^ 32 % 2 ^ 28 = 4 * params.m.toNat
          omega
        · show params.m.toNat * 1 % 2 ^ 32 * 2 % 2 ^ 32 % 2 ^ 28 = 2 * params.m.toNat
          omega

/-- The conversion bit is the lowest bit of the flag. -/
theorem fp32tofp16En_eq :
    Reg.DPU_OUT_CVT_SCALE_FP32TOFP16_EN.get
        ((genMatmulFp16 stack params).reg before BLOCK_DPU DPU_OUT_CVT_SCALE) =
      params.fp32tofp16.toNat % 2 :=
  calc Reg.DPU_OUT_CVT_SCALE_FP32TOFP16_EN.get
        ((genMatmulFp16 stack params).reg before BLOCK_DPU DPU_OUT_CVT_SCALE)
      = (promote (params.fp32tofp16 &&& 0x1)).toNat % 2 ^ 1 :=
        get_of_accepts (d := .dpuFp32tofp16En) stack h before 80 0 (by decide)
    _ = params.fp32tofp16.toNat % 2 := by
        rw [toNat_promote_u8, toNat_and_lowMask 1 rfl, Nat.pow_one, Nat.mod_mod]

/-- All three size fields have the value of the flag's reading. -/
theorem sizeE_eq (j : ℕ) {f : Field 32} {d : DescField}
    (hholds : Holds 67 j BLOCK_DPU DPU_BS_OW_CFG f d 3)
    (hread : d.read (finalStack fp16Kind stack params) =
      promote (if params.fp32tofp16 = 0 then (3 : U8) else 1)) :
    f.get ((genMatmulFp16 stack params).reg before BLOCK_DPU DPU_BS_OW_CFG) =
      if params.fp32tofp16 = 0 then 3 else 1 := by
  have hget := get_of_accepts stack h before 67 j hholds
  rw [hread] at hget
  refine hget.trans ?_
  split
  · rfl
  · rfl

/-- **What the registers say**: a format all of its own when the flag is even
and not zero. -/
theorem outputFormat_genMatmul :
    outputFormat (genMatmulFp16 stack params) before =
      if params.fp32tofp16 = 0 then float32Output params.m.toNat
      else { float16Output params.m.toNat with
        fp32tofp16En := params.fp32tofp16.toNat % 2 } := by
  have hsize2 := sizeE_eq (f := Reg.DPU_BS_OW_CFG_SIZE_E_2) (d := .dpuSizeE2) stack h before 0
    (by decide) rfl
  have hsize1 := sizeE_eq (f := Reg.DPU_BS_OW_CFG_SIZE_E_1) (d := .dpuSizeE1) stack h before 1
    (by decide) rfl
  have hsize0 := sizeE_eq (f := Reg.DPU_BS_OW_CFG_SIZE_E_0) (d := .dpuSizeE0) stack h before 2
    (by decide) rfl
  rw [outputFormat, outPrecision_eq stack h before, fp32tofp16En_eq stack h before, hsize2, hsize1,
    hsize0, surfAdd_eq stack h before]
  by_cases hflag : params.fp32tofp16 = 0
  · rw [if_pos hflag, if_pos hflag, if_pos hflag, if_pos hflag, hflag]
    rfl
  · rw [if_neg hflag, if_neg hflag, if_neg hflag, if_neg hflag]
    rfl

end Registers

/-! ## One format or the other -/

/-- The registers of a run describe exactly one of the two formats, and the
flag being zero says which. -/
def FormatConsistent (params : MatmulParams) (format : OutputFormat) : Prop :=
  Xor (format = float32Output params.m.toNat) (format = float16Output params.m.toNat) ∧
    (format = float32Output params.m.toNat ↔ params.fp32tofp16 = 0)

theorem formatConsistent_genMatmul_iff (stack : Stack) {params : MatmulParams}
    (h : Accepts fp16Kind params) (before : RegKey → U32) :
    FormatConsistent params (outputFormat (genMatmulFp16 stack params) before) ↔
      params.fp32tofp16 = 0 ∨ params.fp32tofp16.toNat % 2 = 1 := by
  rw [FormatConsistent, outputFormat_genMatmul stack h before]
  by_cases hflag : params.fp32tofp16 = 0
  · rw [if_pos hflag]
    have hne := float32Output_ne_float16Output params.m.toNat params.m.toNat
    constructor
    · intro _
      exact Or.inl hflag
    · intro _
      exact ⟨Or.inl ⟨rfl, hne⟩, iff_of_true rfl hflag⟩
  · rw [if_neg hflag]
    constructor
    · rintro ⟨⟨h32, -⟩ | ⟨h16, -⟩, -⟩
      · exact absurd (congrArg OutputFormat.outPrecision h32) (by decide : (2 : ℕ) ≠ 5)
      · exact Or.inr (congrArg OutputFormat.fp32tofp16En h16)
    · rintro (hzero | hodd)
      · exact absurd hzero hflag
      · rw [hodd]
        have hne := float32Output_ne_float16Output params.m.toNat params.m.toNat
        exact ⟨Or.inr ⟨rfl, hne.symm⟩, iff_of_false hne.symm hflag⟩

/-- **The registers agree on the format exactly for a flag that is zero or
odd**, over every accepted request. -/
theorem output_format_iff (stack : Stack) (params : MatmulParams) (before : RegKey → U32)
    (hret : (genMatmulFp16 stack params).ret = 0) :
    FormatConsistent params (outputFormat (genMatmulFp16 stack params) before) ↔
      params.fp32tofp16 = 0 ∨ params.fp32tofp16.toNat % 2 = 1 :=
  formatConsistent_genMatmul_iff stack ((ret_genMatmul_iff stack).mp hret) before

theorem output_format_iff_oneRow :
    FormatConsistent oneRow (outputFormat (genMatmulFp16 default oneRow) fun _ => 0) ↔
      oneRow.fp32tofp16 = 0 ∨ oneRow.fp32tofp16.toNat % 2 = 1 :=
  output_format_iff default oneRow _ ((ret_genMatmul_iff default).mpr (by decide))

/-- A flag of two selects float16 sizes and leaves the conversion off. -/
theorem output_format_fails : (genMatmulFp16 default oneRow).ret = 0 ∧ ∀ before,
    outputFormat (genMatmulFp16 default oneRow) before =
        { float16Output 1 with fp32tofp16En := 0 } ∧
      ¬ FormatConsistent oneRow (outputFormat (genMatmulFp16 default oneRow) before) := by
  have h : Accepts fp16Kind oneRow := by decide
  refine ⟨(ret_genMatmul_iff default).mpr h, fun before => ?_⟩
  refine ⟨outputFormat_genMatmul default h before, fun hcons => ?_⟩
  rcases (formatConsistent_genMatmul_iff default h before).mp hcons with hzero | hodd
  · exact absurd hzero (by decide)
  · exact absurd hodd (by decide)

end Librocket
