import Librocket.Npu.Readback
import Librocket.Npu.Mesa

/-!
# The two generators side by side

The register files that the streams of `npu_matmul.c` and `npu_matmul_mesa.c`
leave behind. The shipped stream is replayed like the reference one, except
that it writes registers repeatedly, so a register holds the value of its last
write (`reg_regcmds`) and a register it does not name keeps what it held
(`reg_of_untouched`).

The two agree on the input base and on the sizes. They disagree on the
precision codes always, and on the weight and output bases unless the register
held the right address already: the shipped stream writes neither register.
-/

namespace Librocket

open Hw Bitfield

/-! ## The shipped stream as a register file -/

namespace Mesa

/-- The register a command addresses once packed. -/
def Regcmd.key (c : Regcmd) : RegKey :=
  (c.target.setWidth 16 &&& ~~~(PC_OP_01.setWidth 16), c.reg.setWidth 16)

/-- The value a command carries once packed. -/
def Regcmd.carried (c : Regcmd) : U32 := c.value.setWidth 32 ||| (c.reg >>> 16).setWidth 32

theorem regWrite_word {c : Regcmd} (hv : c.value.toNat < 2 ^ 32) (hr : c.reg.toNat < 2 ^ 32) :
    ((unitOf c.word, regOf c.word), valueOf c.word) = (c.key, c.carried) := by
  have hv₁ : c.value >>> 32 = 0#64 := ushiftRight_eq_zero hv
  have hr₁ : c.reg >>> 48 = 0#64 := ushiftRight_eq_zero (by omega)
  rw [Regcmd.word, MESA_REGCMD, unitOf, targetOf_packWord, regOf_packWord, valueOf_packWord,
    hv₁, hr₁, BitVec.setWidth_zero, BitVec.or_zero, BitVec.or_zero]
  rfl

/-- The registers written, in order, do not depend on the request. -/
theorem regcmds_keys (params : MatmulParams) :
    (regcmds params).map Regcmd.key = (regcmds default).map Regcmd.key := rfl

/-- Command `i` is the last one to address register `reg` of `block`. -/
def LastWrite (i : ℕ) (block reg : U32) : Prop :=
  ((regcmds default).map Regcmd.key)[i]? = some (block.setWidth 16, reg.setWidth 16) ∧
    (block.setWidth 16, reg.setWidth 16) ∉ ((regcmds default).drop (i + 1)).map Regcmd.key

instance (i : ℕ) (block reg : U32) : Decidable (LastWrite i block reg) := by
  unfold LastWrite; infer_instance

section Replay

variable {params : MatmulParams} (h : 2 * params.m.toNat * params.n.toNat < 2 ^ 31)
  (before : RegKey → U32)

include h

theorem regWrites_genMatmulFp16 :
    regWrites (genMatmulFp16 params).words =
      (regcmds params).map fun c => (c.key, c.carried) := by
  rw [genMatmulFp16, GenResult.words_emit, regWrites, List.map_map]
  apply List.map_congr_left
  intro c hc
  exact regWrite_word (regcmds_value_fit h c hc) (regcmds_reg_lt hc)

/-- A register holds the value of the last command that addresses it. -/
theorem reg_regcmds (i : ℕ) {c : Regcmd} {block reg : U32}
    (hc : (regcmds params)[i]? = some c) (hwrite : LastWrite i block reg) :
    (genMatmulFp16 params).reg before block reg = c.carried := by
  obtain ⟨hkey, hlast⟩ := hwrite
  rw [← regcmds_keys params, List.getElem?_map, hc] at hkey
  have hkey' : c.key = (block.setWidth 16, reg.setWidth 16) := Option.some.inj hkey
  rw [List.map_drop, ← regcmds_keys params, ← List.map_drop, ← hkey'] at hlast
  rw [GenResult.reg, replay, regWrites_genMatmulFp16 h, ← hkey']
  apply WriteLog.apply_getElem? (i := i)
  · rw [List.getElem?_map, hc]
    rfl
  · rw [WriteLog.keys, ← List.map_drop, List.map_map]
    exact hlast

/-- The same for a `uint32_t` argument and a register of 16 bits. -/
theorem reg_ofUInt32 (i : ℕ) {x : U32} {target num : CInt} {block reg : U32}
    (hc : (regcmds params)[i]? = some (regcmd target (ofUInt32 x) num))
    (hnum : (ofInt num >>> 16).setWidth 32 = 0#32) (hwrite : LastWrite i block reg) :
    (genMatmulFp16 params).reg before block reg = x := by
  rw [reg_regcmds h before i hc hwrite, Regcmd.carried, regcmd, hnum, ofUInt32,
    BitVec.or_zero, BitVec.setWidth_setWidth_of_le _ (by decide), BitVec.setWidth_eq]

/-- A register no command addresses keeps its contents. -/
theorem reg_of_untouched {block reg : U32}
    (hkey : (block.setWidth 16, reg.setWidth 16) ∉ (regcmds default).map Regcmd.key) :
    (genMatmulFp16 params).reg before block reg = before (block.setWidth 16, reg.setWidth 16) := by
  rw [GenResult.reg, replay, regWrites_genMatmulFp16 h]
  apply WriteLog.apply_of_not_mem
  rw [← regcmds_keys params] at hkey
  rw [WriteLog.keys, List.map_map]
  exact hkey

end Replay

end Mesa

/-! ## The job a register file describes -/

/-- Two runs leave the same job behind, from the same register file before:
its three base addresses, the input size, the kernel count and size, and the
two precisions. -/
structure SameJob (r r' : GenResult) (before : RegKey → U32) : Prop where
  inputBase : r.reg before BLOCK_CNA CNA_FEATURE_DATA_ADDR =
    r'.reg before BLOCK_CNA CNA_FEATURE_DATA_ADDR
  weightBase : r.reg before BLOCK_CNA CNA_DCOMP_ADDR0 = r'.reg before BLOCK_CNA CNA_DCOMP_ADDR0
  outputBase : r.reg before BLOCK_DPU DPU_DST_BASE_ADD = r'.reg before BLOCK_DPU DPU_DST_BASE_ADD
  datainWidth : Reg.CNA_DATA_SIZE0_DATAIN_WIDTH.get (r.reg before BLOCK_CNA CNA_DATA_SIZE0) =
    Reg.CNA_DATA_SIZE0_DATAIN_WIDTH.get (r'.reg before BLOCK_CNA CNA_DATA_SIZE0)
  datainHeight : Reg.CNA_DATA_SIZE0_DATAIN_HEIGHT.get (r.reg before BLOCK_CNA CNA_DATA_SIZE0) =
    Reg.CNA_DATA_SIZE0_DATAIN_HEIGHT.get (r'.reg before BLOCK_CNA CNA_DATA_SIZE0)
  datainChannel : Reg.CNA_DATA_SIZE1_DATAIN_CHANNEL.get (r.reg before BLOCK_CNA CNA_DATA_SIZE1) =
    Reg.CNA_DATA_SIZE1_DATAIN_CHANNEL.get (r'.reg before BLOCK_CNA CNA_DATA_SIZE1)
  weightKernels :
    Reg.CNA_WEIGHT_SIZE2_WEIGHT_KERNELS.get (r.reg before BLOCK_CNA CNA_WEIGHT_SIZE2) =
      Reg.CNA_WEIGHT_SIZE2_WEIGHT_KERNELS.get (r'.reg before BLOCK_CNA CNA_WEIGHT_SIZE2)
  weightWidth : Reg.CNA_WEIGHT_SIZE2_WEIGHT_WIDTH.get (r.reg before BLOCK_CNA CNA_WEIGHT_SIZE2) =
    Reg.CNA_WEIGHT_SIZE2_WEIGHT_WIDTH.get (r'.reg before BLOCK_CNA CNA_WEIGHT_SIZE2)
  weightHeight : Reg.CNA_WEIGHT_SIZE2_WEIGHT_HEIGHT.get (r.reg before BLOCK_CNA CNA_WEIGHT_SIZE2) =
    Reg.CNA_WEIGHT_SIZE2_WEIGHT_HEIGHT.get (r'.reg before BLOCK_CNA CNA_WEIGHT_SIZE2)
  inPrecision : Reg.CNA_CONV_CON1_IN_PRECISION.get (r.reg before BLOCK_CNA CNA_CONV_CON1) =
    Reg.CNA_CONV_CON1_IN_PRECISION.get (r'.reg before BLOCK_CNA CNA_CONV_CON1)
  procPrecision : Reg.CNA_CONV_CON1_PROC_PRECISION.get (r.reg before BLOCK_CNA CNA_CONV_CON1) =
    Reg.CNA_CONV_CON1_PROC_PRECISION.get (r'.reg before BLOCK_CNA CNA_CONV_CON1)

/-- A field of a 16-bit size that nothing cuts. -/
theorem get_promote (f : Field 32) (x : U16) :
    f.get (promote x) = x.toNat / 2 ^ f.shift % 2 ^ f.width := by
  rw [f.get_eq_div_mod, toNat_promote_u16]

section Sides

variable (stack : Stack) {params : MatmulParams} (h : Accepts fp16Kind params)
  (hmn : 2 * params.m.toNat * params.n.toNat < 2 ^ 31) (before : RegKey → U32)

include h hmn

/-- The reference stream asks for float16, the shipped one for code 1, which
is no precision of `npu_hw.h`. -/
theorem inPrecision_eq :
    Reg.CNA_CONV_CON1_IN_PRECISION.get
        ((genMatmulFp16 stack params).reg before BLOCK_CNA CNA_CONV_CON1) = 2 ∧
      Reg.CNA_CONV_CON1_IN_PRECISION.get
        ((Mesa.genMatmulFp16 params).reg before BLOCK_CNA CNA_CONV_CON1) = 1 := by
  have href : Reg.CNA_CONV_CON1_IN_PRECISION.get
      ((genMatmulFp16 stack params).reg before BLOCK_CNA CNA_CONV_CON1) =
        (promote precision_float16).toNat % 2 ^ 3 :=
    get_of_accepts (d := .cnaInPrecision) stack h before 1 1 (by decide)
  have hmesa : (Mesa.genMatmulFp16 params).reg before BLOCK_CNA CNA_CONV_CON1 =
      Mesa.CNA_CONV_CON1_CONV_MODE 0 ||| Mesa.CNA_CONV_CON1_IN_PRECISION 1 |||
        Mesa.CNA_CONV_CON1_PROC_PRECISION 1 :=
    Mesa.reg_ofUInt32 hmn before 2 rfl (by decide) (by decide)
  rw [href, hmesa]
  exact ⟨rfl, by decide⟩

/-- Both streams program the same input base. -/
theorem inputBase_eq :
    (genMatmulFp16 stack params).reg before BLOCK_CNA CNA_FEATURE_DATA_ADDR = params.inputDma ∧
      (Mesa.genMatmulFp16 params).reg before BLOCK_CNA CNA_FEATURE_DATA_ADDR =
        params.inputDma := by
  constructor
  · exact reg_of_accepts stack h before 21 rfl (by decide)
  · rw [Mesa.reg_ofUInt32 hmn before 6 rfl (by decide) (by decide)]
    exact BitVec.and_allOnes

/-- Both streams program the same input size. The reference cuts the height to
the field, the shipped stream leaves the cut to the reader. -/
theorem datain_eq :
    Reg.CNA_DATA_SIZE0_DATAIN_WIDTH.get
        ((genMatmulFp16 stack params).reg before BLOCK_CNA CNA_DATA_SIZE0) =
      Reg.CNA_DATA_SIZE0_DATAIN_WIDTH.get
        ((Mesa.genMatmulFp16 params).reg before BLOCK_CNA CNA_DATA_SIZE0) ∧
    Reg.CNA_DATA_SIZE0_DATAIN_HEIGHT.get
        ((genMatmulFp16 stack params).reg before BLOCK_CNA CNA_DATA_SIZE0) =
      Reg.CNA_DATA_SIZE0_DATAIN_HEIGHT.get
        ((Mesa.genMatmulFp16 params).reg before BLOCK_CNA CNA_DATA_SIZE0) ∧
    Reg.CNA_DATA_SIZE1_DATAIN_CHANNEL.get
        ((genMatmulFp16 stack params).reg before BLOCK_CNA CNA_DATA_SIZE1) =
      Reg.CNA_DATA_SIZE1_DATAIN_CHANNEL.get
        ((Mesa.genMatmulFp16 params).reg before BLOCK_CNA CNA_DATA_SIZE1) := by
  have hm := params.m.isLt
  have hsize0 : (Mesa.genMatmulFp16 params).reg before BLOCK_CNA CNA_DATA_SIZE0 =
      (promote params.m <<< 0) ||| ((1 : U32) <<< 16) :=
    Mesa.reg_ofUInt32 hmn before 3 rfl (by decide) (by decide)
  have hsize1 : (Mesa.genMatmulFp16 params).reg before BLOCK_CNA CNA_DATA_SIZE1 =
      promote params.k <<< 0 :=
    Mesa.reg_ofUInt32 hmn before 4 rfl (by decide) (by decide)
  rw [BitVec.shiftLeft_zero] at hsize0 hsize1
  refine ⟨?_, ?_, ?_⟩
  · rw [genMatmulFp16, get_size (d := .cnaDatainWidth) (k := 11) (x := 1) stack h before
      4 0 (by decide) rfl, hsize0, Field.get_or, get_promote,
      show params.m.toNat / 2 ^ Reg.CNA_DATA_SIZE0_DATAIN_WIDTH.shift = 0
      from Nat.div_eq_of_lt hm]
    decide
  · rw [genMatmulFp16, datainHeight_eq stack h, hsize0, Field.get_or, get_promote]
    simp [Reg.CNA_DATA_SIZE0_DATAIN_HEIGHT, Field.get]
  · rw [genMatmulFp16, datainChannel_eq stack h, hsize1, get_promote]
    simp only [Reg.CNA_DATA_SIZE1_DATAIN_CHANNEL, pow_zero, Nat.div_one]
    exact (Nat.mod_eq_of_lt params.k.isLt).symm

/-- Both streams program the same kernels while their count fits its field. -/
theorem weightSize2_agree (hn : params.n.toNat < 2 ^ 14) :
    (genMatmulFp16 stack params).reg before BLOCK_CNA CNA_WEIGHT_SIZE2 =
      (Mesa.genMatmulFp16 params).reg before BLOCK_CNA CNA_WEIGHT_SIZE2 := by
  have href : (genMatmulFp16 stack params).reg before BLOCK_CNA CNA_WEIGHT_SIZE2 =
      ((promote (1 : U8) &&& 0x1F) <<< 24) ||| ((promote (1 : U8) &&& 0x1F) <<< 16) |||
        (promote params.n &&& 0x3FFF) :=
    reg_of_accepts stack h before 10 rfl (by decide)
  have hmesa : (Mesa.genMatmulFp16 params).reg before BLOCK_CNA CNA_WEIGHT_SIZE2 =
      (promote params.n <<< 0) ||| ((1 : U32) <<< 16) ||| ((1 : U32) <<< 24) :=
    Mesa.reg_ofUInt32 hmn before 5 rfl (by decide) (by decide)
  have hcut : promote params.n &&& 0x3FFF = promote params.n := by
    apply BitVec.eq_of_toNat_eq
    rw [toNat_and_lowMask 14 rfl, toNat_promote_u16, Nat.mod_eq_of_lt hn]
  rw [href, hmesa, hcut, BitVec.shiftLeft_zero,
    BitVec.or_assoc (promote params.n), BitVec.or_comm (promote params.n)]
  rfl

/-- The shipped stream never writes the weight base, so it agrees only with a
register that held the address before. -/
theorem weightBase_iff :
    (genMatmulFp16 stack params).reg before BLOCK_CNA CNA_DCOMP_ADDR0 =
        (Mesa.genMatmulFp16 params).reg before BLOCK_CNA CNA_DCOMP_ADDR0 ↔
      before (BLOCK_CNA.setWidth 16, CNA_DCOMP_ADDR0.setWidth 16) = params.weightsDma := by
  have href : (genMatmulFp16 stack params).reg before BLOCK_CNA CNA_DCOMP_ADDR0 =
      params.weightsDma := reg_of_accepts stack h before 30 rfl (by decide)
  rw [href, Mesa.reg_of_untouched hmn before (by decide)]
  exact eq_comm

/-- The same for the output base. -/
theorem outputBase_iff :
    (genMatmulFp16 stack params).reg before BLOCK_DPU DPU_DST_BASE_ADD =
        (Mesa.genMatmulFp16 params).reg before BLOCK_DPU DPU_DST_BASE_ADD ↔
      before (BLOCK_DPU.setWidth 16, DPU_DST_BASE_ADD.setWidth 16) = params.outputDma := by
  have href : (genMatmulFp16 stack params).reg before BLOCK_DPU DPU_DST_BASE_ADD =
      params.outputDma := reg_of_accepts stack h before 57 rfl (by decide)
  rw [href, Mesa.reg_of_untouched hmn before (by decide)]
  exact eq_comm

end Sides

/-- The requests the two generators are compared on. -/
def Comparable (params : MatmulParams) : Prop :=
  (1 ≤ params.m.toNat ∧ params.m.toNat ≤ 1022) ∧ 1 ≤ params.k.toNat ∧
    (1 ≤ params.n.toNat ∧ params.n.toNat ≤ 8192)

instance (params : MatmulParams) : Decidable (Comparable params) := by
  unfold Comparable; infer_instance

theorem Comparable.surface_lt {params : MatmulParams} (hc : Comparable params) :
    2 * params.m.toNat * params.n.toNat < 2 ^ 31 := by
  obtain ⟨⟨-, hm⟩, -, -, hn⟩ := hc
  have hle : params.m.toNat * params.n.toNat ≤ 1022 * 8192 := Nat.mul_le_mul hm hn
  rw [Nat.mul_assoc]
  omega

/-- **The two generators never program the same job**: they disagree on the
precision whatever the request and whatever the registers held before. -/
theorem sameJob_fails (stack : Stack) (params : MatmulParams) (before : RegKey → U32)
    (hc : Comparable params) (hret : (genMatmulFp16 stack params).ret = 0) :
    ¬ SameJob (genMatmulFp16 stack params) (Mesa.genMatmulFp16 params) before := by
  have h : Accepts fp16Kind params := (ret_genMatmul_iff stack).mp hret
  obtain ⟨href, hmesa⟩ := inPrecision_eq stack h hc.surface_lt before
  intro hjob
  have hprec := hjob.inPrecision
  rw [href, hmesa] at hprec
  exact absurd hprec (by decide)

theorem sameJob_fails_smallJob :
    ¬ SameJob (genMatmulFp16 default Mesa.smallJob) (Mesa.genMatmulFp16 Mesa.smallJob)
      fun _ => 0 :=
  sameJob_fails default Mesa.smallJob (fun _ => 0) (by decide)
    ((ret_genMatmul_iff default).mpr (by decide))

/-- From cleared registers the two streams differ in the precision, in the
weight base and in the output base. -/
theorem smallJob_differs :
    let r := genMatmulFp16 default Mesa.smallJob
    let r' := Mesa.genMatmulFp16 Mesa.smallJob
    ¬ SameJob r r' (fun _ => 0) ∧
      r.reg (fun _ => 0) BLOCK_CNA CNA_DCOMP_ADDR0 ≠
        r'.reg (fun _ => 0) BLOCK_CNA CNA_DCOMP_ADDR0 ∧
      r.reg (fun _ => 0) BLOCK_DPU DPU_DST_BASE_ADD ≠
        r'.reg (fun _ => 0) BLOCK_DPU DPU_DST_BASE_ADD := by
  intro r r'
  have h : Accepts fp16Kind Mesa.smallJob := by decide
  have hweight : r.reg (fun _ => 0) BLOCK_CNA CNA_DCOMP_ADDR0 ≠
      r'.reg (fun _ => 0) BLOCK_CNA CNA_DCOMP_ADDR0 := by
    rw [Ne, weightBase_iff default h (by decide)]
    decide
  have houtput : r.reg (fun _ => 0) BLOCK_DPU DPU_DST_BASE_ADD ≠
      r'.reg (fun _ => 0) BLOCK_DPU DPU_DST_BASE_ADD := by
    rw [Ne, outputBase_iff default h (by decide)]
    decide
  exact ⟨fun hjob => hweight hjob.weightBase, hweight, houtput⟩

end Librocket
