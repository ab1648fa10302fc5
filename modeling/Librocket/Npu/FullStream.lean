import Librocket.Npu.Agreement
import Librocket.Npu.Full
import Librocket.Npu.Strides

/-!
# The full generator and the reference

What the stream of `npu_matmul_full.c` says. `MESA_REGCMD` masks nothing, so a
word goes to the register it was meant for only if its value fits its place:
that is so for every request with rows and columns, and for no other
(`heads_iff`). Replayed, the stream describes the job the reference describes,
on all that identifies it (`sameJob_full`), but not the split of the
convolution's buffer, nor the weights' size, nor the output's format
(`setup_full_iff`).
-/

namespace Librocket.Full

open Hw Bitfield Mesa

/-! ## Where the words go -/

/-- The register numbers that are defined in no header. -/
def Undefined.registers (consts : Undefined) : List CInt :=
  [ consts.REG_DPU_BN_OW_CFG, consts.REG_DPU_EW_ALU_CFG, consts.REG_DPU_EW_ALU_CVT_OFFSET_VALUE,
    consts.REG_DPU_EW_ALU_CVT_SCALE_VALUE, consts.REG_DPU_EW_ALU_CVT_TRUNCATE_VALUE,
    consts.REG_DPU_EW_MUL_CFG, consts.REG_DPU_EW_MUL_CVT_OFFSET_VALUE,
    consts.REG_DPU_EW_MUL_CVT_SCALE_VALUE, consts.REG_DPU_EW_MUL_CVT_TRUNCATE_VALUE,
    consts.REG_DPU_EW_OW_CFG, consts.REG_DPU_OUT_CVT_CFG, consts.REG_DPU_LUT_LE_START_LOW,
    consts.REG_DPU_LUT_LE_START_HIGH, consts.REG_DPU_LUT_LE_END_LOW, consts.REG_DPU_LUT_LE_END_HIGH,
    consts.REG_DPU_LUT_LO_START_LOW, consts.REG_DPU_LUT_LO_START_HIGH,
    consts.REG_DPU_LUT_LO_END_LOW, consts.REG_DPU_LUT_LO_END_HIGH, consts.REG_DPU_RDMA_RDMA_CFG,
    consts.REG_DPU_RDMA_RDMA_BASE_ADDR, consts.REG_DPU_RDMA_RDMA_SURF_STRIDE ]

/-- None of them is `reg`. -/
def Undefined.Apart (consts : Undefined) (reg : CInt) : Prop :=
  ∀ reg' ∈ consts.registers, reg'.setWidth 16 ≠ reg.setWidth 16

/-- A register number, or the name of one. -/
inductive RegName
  | known (reg : CInt)
  | undefined (reg : Undefined → CInt)

def RegName.number (consts : Undefined) : RegName → CInt
  | .known reg => reg
  | .undefined reg => reg consts

/-- Target and register of each word, as the source names them. -/
def heads : List (CInt × RegName) :=
  [ (TARGET_CNA, .known REG_CNA_CBUF_CON0), (TARGET_CNA, .known REG_CNA_DCOMP_REGNUM),
    (TARGET_CNA, .known REG_CNA_DCOMP_CTRL), (TARGET_CNA, .known REG_CNA_CONV_CON1),
    (TARGET_DPU, .known REG_DPU_S_POINTER), (TARGET_DPU, .known REG_DPU_RDMA_RDMA_S_POINTER),
    (TARGET_CNA, .known REG_CNA_CONV_CON1), (TARGET_CNA, .known REG_CNA_CONV_CON2),
    (TARGET_CNA, .known REG_CNA_CONV_CON3), (TARGET_CNA, .known REG_CNA_DATA_SIZE0),
    (TARGET_CNA, .known REG_CNA_DATA_SIZE1), (TARGET_CNA, .known REG_CNA_DATA_SIZE2),
    (TARGET_CNA, .known REG_CNA_DATA_SIZE3), (TARGET_CNA, .known REG_CNA_WEIGHT_SIZE0),
    (TARGET_CNA, .known REG_CNA_WEIGHT_SIZE1), (TARGET_CNA, .known REG_CNA_WEIGHT_SIZE2),
    (TARGET_CNA, .known REG_CNA_CBUF_CON0), (TARGET_CNA, .known REG_CNA_CBUF_CON1),
    (TARGET_CNA, .known REG_CNA_CVT_CON0), (TARGET_CNA, .known REG_CNA_CVT_CON1),
    (TARGET_CNA, .known REG_CNA_CVT_CON2), (TARGET_CNA, .known REG_CNA_CVT_CON3),
    (TARGET_CNA, .known REG_CNA_CVT_CON4), (TARGET_CNA, .known REG_CNA_FC_CON0),
    (TARGET_CNA, .known REG_CNA_FC_CON1), (TARGET_CNA, .known REG_CNA_PAD_CON0),
    (TARGET_CNA, .known REG_CNA_FEATURE_DATA_ADDR), (TARGET_CNA, .known REG_CNA_FC_CON2),
    (TARGET_CNA, .known REG_CNA_FC_DATA_SIZE0), (TARGET_CNA, .known REG_CNA_FC_DATA_SIZE1),
    (TARGET_CNA, .known REG_CNA_DCOMP_CTRL), (TARGET_CNA, .known REG_CNA_DCOMP_REGNUM),
    (TARGET_CNA, .known REG_CNA_DCOMP_ADDR0), (TARGET_CNA, .known REG_CNA_DCOMP_AMOUNT0),
    (TARGET_CNA, .known REG_CNA_DCOMP_AMOUNT1), (TARGET_CNA, .known REG_CNA_DCOMP_AMOUNT2),
    (TARGET_CNA, .known REG_CNA_DCOMP_AMOUNT3), (TARGET_CNA, .known REG_CNA_DCOMP_AMOUNT4),
    (TARGET_CNA, .known REG_CNA_DCOMP_AMOUNT5), (TARGET_CNA, .known REG_CNA_DCOMP_AMOUNT6),
    (TARGET_CNA, .known REG_CNA_DCOMP_AMOUNT7), (TARGET_CNA, .known REG_CNA_DCOMP_AMOUNT8),
    (TARGET_CNA, .known REG_CNA_DCOMP_AMOUNT9), (TARGET_CNA, .known REG_CNA_DCOMP_AMOUNT10),
    (TARGET_CNA, .known REG_CNA_DCOMP_AMOUNT11), (TARGET_CNA, .known REG_CNA_DCOMP_AMOUNT12),
    (TARGET_CNA, .known REG_CNA_DCOMP_AMOUNT13), (TARGET_CNA, .known REG_CNA_DCOMP_AMOUNT14),
    (TARGET_CNA, .known REG_CNA_DCOMP_AMOUNT15), (TARGET_CNA, .known REG_CNA_CVT_CON5),
    (TARGET_CNA, .known REG_CNA_PAD_CON1), (TARGET_CORE, .known REG_CORE_MISC_CFG),
    (TARGET_CORE, .known REG_CORE_DATAOUT_SIZE_0), (TARGET_CORE, .known REG_CORE_DATAOUT_SIZE_1),
    (TARGET_CORE, .known REG_CORE_CLIP_TRUNCATE), (TARGET_CORE ||| 0x1, .known 0x3030),
    (TARGET_DPU, .known REG_DPU_FEATURE_MODE_CFG), (TARGET_DPU, .known REG_DPU_DATA_FORMAT),
    (TARGET_DPU, .known REG_DPU_OFFSET_PEND), (TARGET_DPU, .known REG_DPU_DST_BASE_ADDR),
    (TARGET_DPU, .known REG_DPU_DST_SURF_STRIDE), (TARGET_DPU, .known REG_DPU_DATA_CUBE_WIDTH),
    (TARGET_DPU, .known REG_DPU_DATA_CUBE_HEIGHT),
    (TARGET_DPU, .known REG_DPU_DATA_CUBE_NOTCH_ADDR),
    (TARGET_DPU, .known REG_DPU_DATA_CUBE_CHANNEL), (TARGET_DPU, .known REG_DPU_BS_CFG),
    (TARGET_DPU, .known REG_DPU_BS_ALU_CFG), (TARGET_DPU, .known REG_DPU_BS_MUL_CFG),
    (TARGET_DPU, .known REG_DPU_BS_RELUX_CMP_VALUE), (TARGET_DPU, .known REG_DPU_BS_OW_CFG),
    (TARGET_DPU, .known REG_DPU_BS_OW_OP), (TARGET_DPU, .known REG_DPU_WDMA_SIZE_0),
    (TARGET_DPU, .known REG_DPU_WDMA_SIZE_1), (TARGET_DPU, .known REG_DPU_BN_CFG),
    (TARGET_DPU, .known REG_DPU_BN_ALU_CFG), (TARGET_DPU, .known REG_DPU_BN_MUL_CFG),
    (TARGET_DPU, .known REG_DPU_BN_RELUX_CMP_VALUE), (TARGET_DPU, .undefined (·.REG_DPU_BN_OW_CFG)),
    (TARGET_DPU, .known REG_DPU_EW_CFG), (TARGET_DPU, .undefined (·.REG_DPU_EW_ALU_CFG)),
    (TARGET_DPU, .undefined (·.REG_DPU_EW_ALU_CVT_OFFSET_VALUE)),
    (TARGET_DPU, .undefined (·.REG_DPU_EW_ALU_CVT_SCALE_VALUE)),
    (TARGET_DPU, .undefined (·.REG_DPU_EW_ALU_CVT_TRUNCATE_VALUE)),
    (TARGET_DPU, .undefined (·.REG_DPU_EW_MUL_CFG)),
    (TARGET_DPU, .undefined (·.REG_DPU_EW_MUL_CVT_OFFSET_VALUE)),
    (TARGET_DPU, .undefined (·.REG_DPU_EW_MUL_CVT_SCALE_VALUE)),
    (TARGET_DPU, .undefined (·.REG_DPU_EW_MUL_CVT_TRUNCATE_VALUE)),
    (TARGET_DPU, .known REG_DPU_EW_RELUX_CMP_VALUE), (TARGET_DPU, .undefined (·.REG_DPU_EW_OW_CFG)),
    (TARGET_DPU, .undefined (·.REG_DPU_OUT_CVT_CFG)), (TARGET_DPU, .known REG_DPU_OUT_CVT_OFFSET),
    (TARGET_DPU, .known REG_DPU_OUT_CVT_SCALE), (TARGET_DPU, .known REG_DPU_OUT_CVT_SHIFT),
    (TARGET_DPU, .known REG_DPU_SURFACE_ADD), (TARGET_DPU, .known REG_DPU_LUT_CFG),
    (TARGET_DPU, .known REG_DPU_LUT_INFO), (TARGET_DPU, .undefined (·.REG_DPU_LUT_LE_START_LOW)),
    (TARGET_DPU, .undefined (·.REG_DPU_LUT_LE_START_HIGH)),
    (TARGET_DPU, .undefined (·.REG_DPU_LUT_LE_END_LOW)),
    (TARGET_DPU, .undefined (·.REG_DPU_LUT_LE_END_HIGH)),
    (TARGET_DPU, .undefined (·.REG_DPU_LUT_LO_START_LOW)),
    (TARGET_DPU, .undefined (·.REG_DPU_LUT_LO_START_HIGH)),
    (TARGET_DPU, .undefined (·.REG_DPU_LUT_LO_END_LOW)),
    (TARGET_DPU, .undefined (·.REG_DPU_LUT_LO_END_HIGH)),
    (TARGET_DPU, .known REG_DPU_LUT_LE_SLOPE_SCALE),
    (TARGET_DPU, .known REG_DPU_LUT_LE_SLOPE_SHIFT),
    (TARGET_DPU, .known REG_DPU_LUT_LO_SLOPE_SCALE),
    (TARGET_DPU, .known REG_DPU_LUT_LO_SLOPE_SHIFT),
    (TARGET_DPU, .undefined (·.REG_DPU_RDMA_RDMA_CFG)),
    (TARGET_DPU, .known REG_DPU_RDMA_RDMA_DATA_CUBE_WIDTH),
    (TARGET_DPU, .known REG_DPU_RDMA_RDMA_DATA_CUBE_HEIGHT),
    (TARGET_DPU, .known REG_DPU_RDMA_RDMA_DATA_CUBE_CHANNEL),
    (TARGET_DPU, .undefined (·.REG_DPU_RDMA_RDMA_BASE_ADDR)),
    (TARGET_DPU, .undefined (·.REG_DPU_RDMA_RDMA_SURF_STRIDE)),
    (TARGET_DPU, .known REG_DPU_RDMA_RDMA_SURF_NOTCH),
    (TARGET_DPU, .known REG_DPU_RDMA_RDMA_PAD_CFG), (TARGET_DPU, .known REG_DPU_RDMA_RDMA_WEIGHT),
    (TARGET_DPU, .known REG_DPU_RDMA_RDMA_EW_SURF_NOTCH), (TARGET_PC, .known REG_PC_BASE_ADDRESS),
    (TARGET_PC, .known REG_PC_REGISTER_AMOUNTS), (0x41, .known 0),
    (0x81, .known REG_PC_OPERATION_ENABLE) ]

/-- Target and register of a word, as they arrive. -/
def head (word : U64) : U16 × U16 := (targetOf word, regOf word)

/-- What arrives if nothing runs into them. -/
def intact (consts : Undefined) (h : CInt × RegName) : U16 × U16 :=
  (h.1.setWidth 16, (h.2.number consts).setWidth 16)

theorem setWidth16_ofInt (x : CInt) : (ofInt x).setWidth 16 = x.setWidth 16 := by
  rw [← BitVec.setWidth_setWidth_of_le (ofInt x) (by decide : 16 ≤ 32), setWidth_ofInt]

theorem head_EMIT_RAW {target reg : CInt} {value : U64} (hvalue : value.toNat < 2 ^ 32)
    (hreg : reg.toNat < 2 ^ 16) :
    head (EMIT_RAW target reg value) = (target.setWidth 16, reg.setWidth 16) := by
  have hv : value >>> 32 = 0#64 := ushiftRight_eq_zero hvalue
  have hr : ofInt reg >>> 48 = 0#64 :=
    ushiftRight_eq_zero (by rw [toNat_ofInt (by omega)]; omega)
  rw [head, EMIT_RAW, MESA_REGCMD, targetOf_packWord, regOf_packWord, hv, hr, BitVec.setWidth_zero,
    BitVec.or_zero, BitVec.or_zero, setWidth16_ofInt, setWidth16_ofInt]

section Heads

variable {consts : Undefined} {params : MatmulParams}

/-- One less than a size. -/
theorem toNat_sub_one {x : U16} (hx : 1 ≤ x.toNat) :
    (promote x - 1 : CInt).toNat = x.toNat - 1 := by
  have hone : (1 : CInt) ≤ promote x := by
    rw [BitVec.le_def, toNat_promote_u16]
    exact hx
  rw [BitVec.toNat_sub_of_le hone, toNat_promote_u16]
  rfl

theorem heads_of_pos (hfit : ∀ reg ∈ consts.registers, reg.toNat < 2 ^ 16)
    (h : 2 * params.m.toNat * params.n.toNat < 2 ^ 31) (hm : 1 ≤ params.m.toNat)
    (hn : 1 ≤ params.n.toNat) : (words consts params).map head = heads.map (intact consts) := by
  have hcast : ∀ x : U32, (ofUInt32 x).toNat < 2 ^ 32 := by
    intro x
    rw [toNat_ofUInt32]
    exact x.isLt
  have hzero : (ofInt 0).toNat < 2 ^ 32 := by decide
  have hsurface : (ofInt (promote params.m * promote params.n * 2)).toNat < 2 ^ 32 := by
    rw [toNat_ofInt (by rw [toNat_surfaceStride h]; omega), toNat_surfaceStride h]
    omega
  have hless : ∀ {x : U16}, 1 ≤ x.toNat → (ofInt (promote x - 1)).toNat < 2 ^ 32 := by
    intro x hx
    have hlt := x.isLt
    rw [toNat_ofInt (by rw [toNat_sub_one hx]; omega), toNat_sub_one hx]
    omega
  have hm' := hless hm
  have hn' := hless hn
  have hk : (ofInt (1 * 1 * promote params.k)).toNat < 2 ^ 32 := by
    have hlt := params.k.isLt
    have heq : (1 * 1 * promote params.k : CInt).toNat = params.k.toNat := by
      simp
    rw [toNat_ofInt (by omega), heq]
    omega
  simp only [Undefined.registers, List.forall_mem_cons] at hfit
  have hraw : head 0x0041000000000000 = ((0x41 : CInt).setWidth 16, (0 : CInt).setWidth 16) := by
    decide
  simp (disch := first | exact hcast _ | assumption | decide | simp only [hfit]) only
    [words, heads, List.map_cons, List.map_nil, intact, RegName.number, head_EMIT_RAW, hraw]

/-- A size of zero, less one, is all sign bits. -/
theorem msb_sub_one {x : U16} (hx : x.toNat = 0) : (promote x - 1 : CInt).msb = true := by
  have hzero : x = 0 := BitVec.eq_of_toNat_eq hx
  rw [hzero]
  decide

/-- A word whose value is negative goes nowhere it was meant to. -/
theorem heads_ne_of_negative {i : ℕ} {x reg : CInt} (hx : x.msb = true)
    (hword : (words consts params)[i]? = some (EMIT_RAW TARGET_DPU reg (ofInt x)))
    (hhead : heads[i]? = some (TARGET_DPU, .known reg)) :
    (words consts params).map head ≠ heads.map (intact consts) := by
  intro heq
  have hi := congrArg (fun l => l[i]?) heq
  simp only [List.getElem?_map, hword, hhead, Option.map_some, Option.some.injEq] at hi
  have htarget : (0xFFFF : U16) = TARGET_DPU.setWidth 16 :=
    (targetOf_negative hx reg).symm.trans (congrArg Prod.fst hi)
  revert htarget
  decide

end Heads

/-- The missing numbers behind the blocks' own. -/
def someNumbers : Undefined :=
  { REG_DPU_BN_OW_CFG := 0x4200
    REG_DPU_EW_ALU_CFG := 0x4204
    REG_DPU_EW_ALU_CVT_OFFSET_VALUE := 0x4208
    REG_DPU_EW_ALU_CVT_SCALE_VALUE := 0x420c
    REG_DPU_EW_ALU_CVT_TRUNCATE_VALUE := 0x4210
    REG_DPU_EW_MUL_CFG := 0x4214
    REG_DPU_EW_MUL_CVT_OFFSET_VALUE := 0x4218
    REG_DPU_EW_MUL_CVT_SCALE_VALUE := 0x421c
    REG_DPU_EW_MUL_CVT_TRUNCATE_VALUE := 0x4220
    REG_DPU_EW_OW_CFG := 0x4224
    REG_DPU_OUT_CVT_CFG := 0x4228
    REG_DPU_LUT_LE_START_LOW := 0x422c
    REG_DPU_LUT_LE_START_HIGH := 0x4230
    REG_DPU_LUT_LE_END_LOW := 0x4234
    REG_DPU_LUT_LE_END_HIGH := 0x4238
    REG_DPU_LUT_LO_START_LOW := 0x423c
    REG_DPU_LUT_LO_START_HIGH := 0x4240
    REG_DPU_LUT_LO_END_LOW := 0x4244
    REG_DPU_LUT_LO_END_HIGH := 0x4248
    REG_DPU_RDMA_RDMA_CFG := 0x524c
    REG_DPU_RDMA_RDMA_BASE_ADDR := 0x5250
    REG_DPU_RDMA_RDMA_SURF_STRIDE := 0x5254
    DPU_EW_CFG_EW_ALU_SRC := ⟨8, 0x100⟩
    DPU_EW_CFG_EW_MUL_BYPASS := ⟨2, 0x4⟩
    DPU_OUT_CVT_CFG_OUT_CVT_BYPASS := ⟨0, 0x1⟩
    DPU_LUT_CFG_LUT_LE_FUNCTION := ⟨6, 0x40⟩
    DPU_RDMA_RDMA_CFG_RDMA_DISABLE := ⟨0, 0x1⟩
    DPU_RDMA_RDMA_CFG_RDMA_DATA_MODE := ⟨1, 0x2⟩
    DPU_RDMA_RDMA_CFG_RDMA_DATA_SIZE := ⟨3, 0x18⟩
    DPU_RDMA_RDMA_CFG_RDMA_DATA_USE := ⟨5, 0x20⟩ }

theorem someNumbers_fit : ∀ reg ∈ someNumbers.registers, reg.toNat < 2 ^ 16 := by
  simp [Undefined.registers, someNumbers]

/-- **Where the words go.** Each word of the stream addresses the target and register
it was meant for exactly if there are rows and columns: a size of zero is not refused,
and one less than it, sign-extended, overwrites the target. -/
theorem heads_iff (consts : Undefined) (params : MatmulParams)
    (hfit : ∀ reg ∈ consts.registers, reg.toNat < 2 ^ 16)
    (h : ProductsFit params) :
    (words consts params).map head = heads.map (intact consts) ↔
      1 ≤ params.m.toNat ∧ 1 ≤ params.n.toNat := by
  constructor
  · intro heads_eq
    constructor
    · by_contra hm
      exact heads_ne_of_negative (i := 62) (msb_sub_one (by omega)) rfl rfl heads_eq
    · by_contra hn
      exact heads_ne_of_negative (i := 111) (msb_sub_one (by omega)) rfl rfl heads_eq
  · rintro ⟨hm, hn⟩
    exact heads_of_pos hfit h.strides hm hn

theorem heads_iff_smallJob :
    (words someNumbers smallJob).map head = heads.map (intact someNumbers) ∧
      (words someNumbers { smallJob with m := 0 }).map head ≠ heads.map (intact someNumbers) := by
  constructor
  · have hprod : ProductsFit smallJob := ⟨by decide, by decide, by decide⟩
    exact (heads_iff someNumbers smallJob someNumbers_fit hprod).mpr (by decide)
  · intro heads_eq
    have hprod : ProductsFit { smallJob with m := 0 } := ⟨by decide, by decide, by decide⟩
    have hpos := (heads_iff someNumbers _ someNumbers_fit hprod).mp heads_eq
    revert hpos
    decide

/-! ## The register file -/

/-- The register a word goes to. -/
def keyOf (consts : Undefined) (h : CInt × RegName) : RegKey :=
  (h.1.setWidth 16 &&& ~~~(PC_OP_01.setWidth 16), (h.2.number consts).setWidth 16)

/-- A register with a number goes by `k`. -/
def Misses (k : RegKey) (target : CInt) : RegName → Prop
  | .known reg => (target.setWidth 16 &&& ~~~(PC_OP_01.setWidth 16), reg.setWidth 16) ≠ k
  | .undefined _ => True

instance (k : RegKey) (target : CInt) : (reg : RegName) → Decidable (Misses k target reg)
  | .known _ => inferInstanceAs (Decidable (_ ≠ _))
  | .undefined _ => inferInstanceAs (Decidable True)

/-- A register of no header is one of the DPU's. -/
def Placed (consts : Undefined) (target : CInt) : RegName → Prop
  | .known _ => True
  | .undefined reg => target = TARGET_DPU ∧ reg consts ∈ consts.registers

theorem placed (consts : Undefined) : ∀ h ∈ heads, Placed consts h.1 h.2 := by
  simp only [heads, List.forall_mem_cons, Placed, true_and]
  simp [Undefined.registers]

section Replay

variable {consts : Undefined} {params : MatmulParams}

/-- The registers are written in the order the source names them. -/
theorem keys_words (hheads : (words consts params).map head = heads.map (intact consts)) :
    (regWrites (words consts params)).map Prod.fst = heads.map (keyOf consts) := by
  have hclear := congrArg (List.map fun h : U16 × U16 => (h.1 &&& ~~~(PC_OP_01.setWidth 16), h.2))
    hheads
  rw [List.map_map, List.map_map] at hclear
  rw [regWrites, List.map_map]
  exact hclear

/-- A register holds the value of the last word that goes to it. -/
theorem reg_words (hheads : (words consts params).map head = heads.map (intact consts))
    (before : RegKey → U32) (i : ℕ) {target reg : CInt} {value : U64} {block num : U32}
    (hword : (words consts params)[i]? = some (EMIT_RAW target reg value))
    (hhead : heads[i]? = some (target, .known reg)) (hreg : reg.toNat < 2 ^ 16)
    (hunit : target.setWidth 16 &&& ~~~(PC_OP_01.setWidth 16) = block.setWidth 16)
    (hnum : reg.setWidth 16 = num.setWidth 16)
    (hlast : ∀ h ∈ heads.drop (i + 1), Misses (block.setWidth 16, num.setWidth 16) h.1 h.2)
    (hclear : ∀ reg ∈ consts.registers,
      keyOf consts (TARGET_DPU, .known reg) ≠ (block.setWidth 16, num.setWidth 16)) :
    (genMatmulFp16 consts params).reg before block num = value.setWidth 32 := by
  have hkeys := keys_words hheads
  have hkey : keyOf consts (target, .known reg) = (block.setWidth 16, num.setWidth 16) :=
    Prod.ext hunit hnum
  have hvalue : valueOf (EMIT_RAW target reg value) = value.setWidth 32 := by
    have hr : ofInt reg >>> 16 = 0#64 :=
      ushiftRight_eq_zero (by rw [toNat_ofInt (by omega)]; exact hreg)
    rw [EMIT_RAW, MESA_REGCMD, valueOf_packWord, hr, BitVec.setWidth_zero, BitVec.or_zero]
  have hi : (regWrites (words consts params))[i]? =
      some ((block.setWidth 16, num.setWidth 16), value.setWidth 32) := by
    have hfst := congrArg (fun l => l[i]?) hkeys
    simp only [regWrites, List.getElem?_map, hword, hhead, Option.map_some, hkey, hvalue,
      Option.some.injEq] at hfst ⊢
    rw [hfst]
  rw [genMatmulFp16, GenResult.reg, replay, GenResult.words_emit]
  refine WriteLog.apply_getElem? (i := i) _ hi ?_
  rw [WriteLog.keys, List.map_drop, hkeys, ← List.map_drop, List.mem_map]
  rintro ⟨⟨target', reg'⟩, hmem, hk⟩
  have hplaced := placed consts _ (List.mem_of_mem_drop hmem)
  cases reg' with
  | known reg' => exact hlast _ hmem hk
  | undefined reg' =>
    obtain ⟨rfl, hundefined⟩ := hplaced
    exact hclear _ hundefined hk

/-- A `uint32_t` argument arrives as it is. -/
theorem setWidth_ofUInt32 (x : U32) : (ofUInt32 x).setWidth 32 = x := by
  rw [ofUInt32, BitVec.setWidth_setWidth_of_le _ (by decide), BitVec.setWidth_eq]

/-- The registers of no header are not the CNA's. -/
theorem reg_cna (hheads : (words consts params).map head = heads.map (intact consts))
    (before : RegKey → U32) (i : ℕ) {reg : CInt} {x num : U32}
    (hword : (words consts params)[i]? = some (EMIT_RAW TARGET_CNA reg (ofUInt32 x)))
    (hhead : heads[i]? = some (TARGET_CNA, .known reg)) (hreg : reg.toNat < 2 ^ 16)
    (hnum : reg.setWidth 16 = num.setWidth 16)
    (hlast : ∀ h ∈ heads.drop (i + 1), Misses (BLOCK_CNA.setWidth 16, num.setWidth 16) h.1 h.2) :
    (genMatmulFp16 consts params).reg before BLOCK_CNA num = x := by
  rw [reg_words hheads before i hword hhead hreg (by decide) hnum hlast, setWidth_ofUInt32]
  intro reg' _ heq
  have hunit : TARGET_DPU.setWidth 16 &&& ~~~(PC_OP_01.setWidth 16) = BLOCK_CNA.setWidth 16 :=
    congrArg Prod.fst heq
  revert hunit
  decide

end Replay

section Job

variable (stack : Stack) {consts : Undefined} {params : MatmulParams}
  (h : Accepts fp16Kind params)
  (hheads : (words consts params).map head = heads.map (intact consts)) (before : RegKey → U32)

include h hheads

/-- The operands' bases agree. -/
theorem operandBase_eq :
    (Librocket.genMatmulFp16 stack params).reg before BLOCK_CNA CNA_FEATURE_DATA_ADDR =
        (genMatmulFp16 consts params).reg before BLOCK_CNA CNA_FEATURE_DATA_ADDR ∧
      (Librocket.genMatmulFp16 stack params).reg before BLOCK_CNA CNA_DCOMP_ADDR0 =
        (genMatmulFp16 consts params).reg before BLOCK_CNA CNA_DCOMP_ADDR0 := by
  have hinput : (Librocket.genMatmulFp16 stack params).reg before BLOCK_CNA CNA_FEATURE_DATA_ADDR =
      params.inputDma := reg_of_accepts stack h before 21 rfl (by decide)
  have hweights : (Librocket.genMatmulFp16 stack params).reg before BLOCK_CNA CNA_DCOMP_ADDR0 =
      params.weightsDma := reg_of_accepts stack h before 30 rfl (by decide)
  have hinput' : (genMatmulFp16 consts params).reg before BLOCK_CNA CNA_FEATURE_DATA_ADDR =
      params.inputDma &&& 0xFFFFFFFF := reg_cna hheads before 26 rfl rfl (by decide) rfl (by decide)
  have hweights' : (genMatmulFp16 consts params).reg before BLOCK_CNA CNA_DCOMP_ADDR0 =
      params.weightsDma &&& 0xFFFFFFFF :=
    reg_cna hheads before 32 rfl rfl (by decide) rfl (by decide)
  rw [hinput, hweights, hinput', hweights']
  exact ⟨BitVec.and_allOnes.symm, BitVec.and_allOnes.symm⟩

/-- So does the output's, if no register of no header is the same. -/
theorem outputBase_full_eq (hdst : consts.Apart REG_DPU_DST_BASE_ADDR) :
    (Librocket.genMatmulFp16 stack params).reg before BLOCK_DPU DPU_DST_BASE_ADD =
      (genMatmulFp16 consts params).reg before BLOCK_DPU DPU_DST_BASE_ADD := by
  have houtput : (Librocket.genMatmulFp16 stack params).reg before BLOCK_DPU DPU_DST_BASE_ADD =
      params.outputDma := reg_of_accepts stack h before 57 rfl (by decide)
  have houtput' : (genMatmulFp16 consts params).reg before BLOCK_DPU DPU_DST_BASE_ADD =
      (ofUInt32 (params.outputDma &&& 0xFFFFFFFF)).setWidth 32 :=
    reg_words hheads before 59 rfl rfl (by decide) (by decide) rfl (by decide) fun reg hreg heq =>
      hdst reg hreg (congrArg Prod.snd heq)
  rw [houtput, houtput', setWidth_ofUInt32]
  exact BitVec.and_allOnes.symm

/-- The input's size agrees. -/
theorem datain_full_eq :
    Reg.CNA_DATA_SIZE0_DATAIN_WIDTH.get
        ((Librocket.genMatmulFp16 stack params).reg before BLOCK_CNA CNA_DATA_SIZE0) =
      Reg.CNA_DATA_SIZE0_DATAIN_WIDTH.get
        ((genMatmulFp16 consts params).reg before BLOCK_CNA CNA_DATA_SIZE0) ∧
    Reg.CNA_DATA_SIZE0_DATAIN_HEIGHT.get
        ((Librocket.genMatmulFp16 stack params).reg before BLOCK_CNA CNA_DATA_SIZE0) =
      Reg.CNA_DATA_SIZE0_DATAIN_HEIGHT.get
        ((genMatmulFp16 consts params).reg before BLOCK_CNA CNA_DATA_SIZE0) ∧
    Reg.CNA_DATA_SIZE1_DATAIN_CHANNEL.get
        ((Librocket.genMatmulFp16 stack params).reg before BLOCK_CNA CNA_DATA_SIZE1) =
      Reg.CNA_DATA_SIZE1_DATAIN_CHANNEL.get
        ((genMatmulFp16 consts params).reg before BLOCK_CNA CNA_DATA_SIZE1) := by
  have hsize0 : (genMatmulFp16 consts params).reg before BLOCK_CNA CNA_DATA_SIZE0 =
      Reg.CNA_DATA_SIZE0_DATAIN_WIDTH.put 1 |||
        Reg.CNA_DATA_SIZE0_DATAIN_HEIGHT.put (promote params.m) :=
    reg_cna hheads before 9 rfl rfl (by decide) rfl (by decide)
  have hsize1 : (genMatmulFp16 consts params).reg before BLOCK_CNA CNA_DATA_SIZE1 =
      Reg.CNA_DATA_SIZE1_DATAIN_CHANNEL_REAL.put (promote params.k - 1) |||
        Reg.CNA_DATA_SIZE1_DATAIN_CHANNEL.put (promote params.k) :=
    reg_cna hheads before 10 rfl rfl (by decide) rfl (by decide)
  rw [hsize0, hsize1]
  simp (disch := decide) only [Field.get_or, Field.get_put, Field.get_put_disjoint, Nat.zero_or,
    Nat.or_zero, toNat_promote_u16]
  refine ⟨?_, ?_, ?_⟩
  · exact get_size (d := .cnaDatainWidth) (k := 11) (x := 1) stack h before 4 0 (by decide) rfl
  · exact datainHeight_eq stack h before
  · rw [Librocket.genMatmulFp16, datainChannel_eq stack h]
    exact (Nat.mod_eq_of_lt params.k.isLt).symm

/-- The kernels agree. -/
theorem weightSize2_full_eq :
    Reg.CNA_WEIGHT_SIZE2_WEIGHT_KERNELS.get
        ((Librocket.genMatmulFp16 stack params).reg before BLOCK_CNA CNA_WEIGHT_SIZE2) =
      Reg.CNA_WEIGHT_SIZE2_WEIGHT_KERNELS.get
        ((genMatmulFp16 consts params).reg before BLOCK_CNA CNA_WEIGHT_SIZE2) ∧
    Reg.CNA_WEIGHT_SIZE2_WEIGHT_WIDTH.get
        ((Librocket.genMatmulFp16 stack params).reg before BLOCK_CNA CNA_WEIGHT_SIZE2) =
      Reg.CNA_WEIGHT_SIZE2_WEIGHT_WIDTH.get
        ((genMatmulFp16 consts params).reg before BLOCK_CNA CNA_WEIGHT_SIZE2) ∧
    Reg.CNA_WEIGHT_SIZE2_WEIGHT_HEIGHT.get
        ((Librocket.genMatmulFp16 stack params).reg before BLOCK_CNA CNA_WEIGHT_SIZE2) =
      Reg.CNA_WEIGHT_SIZE2_WEIGHT_HEIGHT.get
        ((genMatmulFp16 consts params).reg before BLOCK_CNA CNA_WEIGHT_SIZE2) := by
  have hsize2 : (genMatmulFp16 consts params).reg before BLOCK_CNA CNA_WEIGHT_SIZE2 =
      Reg.CNA_WEIGHT_SIZE2_WEIGHT_WIDTH.put 1 ||| Reg.CNA_WEIGHT_SIZE2_WEIGHT_HEIGHT.put 1 |||
        Reg.CNA_WEIGHT_SIZE2_WEIGHT_KERNELS.put (promote params.n) :=
    reg_cna hheads before 15 rfl rfl (by decide) rfl (by decide)
  rw [hsize2]
  simp (disch := decide) only [Field.get_or, Field.get_put, Field.get_put_disjoint, Nat.zero_or,
    Nat.or_zero, toNat_promote_u16]
  refine ⟨?_, ?_, ?_⟩
  · exact weightKernels_eq stack h before
  · exact get_of_accepts (d := .cnaWeightWidth) stack h before 10 0 (by decide)
  · exact get_of_accepts (d := .cnaWeightHeight) stack h before 10 1 (by decide)

/-- The precision of the operands agrees. -/
theorem precision_full_eq :
    Reg.CNA_CONV_CON1_IN_PRECISION.get
        ((Librocket.genMatmulFp16 stack params).reg before BLOCK_CNA CNA_CONV_CON1) =
      Reg.CNA_CONV_CON1_IN_PRECISION.get
        ((genMatmulFp16 consts params).reg before BLOCK_CNA CNA_CONV_CON1) ∧
    Reg.CNA_CONV_CON1_PROC_PRECISION.get
        ((Librocket.genMatmulFp16 stack params).reg before BLOCK_CNA CNA_CONV_CON1) =
      Reg.CNA_CONV_CON1_PROC_PRECISION.get
        ((genMatmulFp16 consts params).reg before BLOCK_CNA CNA_CONV_CON1) := by
  have hconv : (genMatmulFp16 consts params).reg before BLOCK_CNA CNA_CONV_CON1 =
      Reg.CNA_CONV_CON1_CONV_MODE.put 0 ||| Reg.CNA_CONV_CON1_IN_PRECISION.put 2 |||
        Reg.CNA_CONV_CON1_PROC_PRECISION.put 2 :=
    reg_cna hheads before 6 rfl rfl (by decide) rfl (by decide +kernel)
  have hin : Reg.CNA_CONV_CON1_IN_PRECISION.get
      ((Librocket.genMatmulFp16 stack params).reg before BLOCK_CNA CNA_CONV_CON1) =
        (promote precision_float16).toNat % 2 ^ 3 :=
    get_of_accepts (d := .cnaInPrecision) stack h before 1 1 (by decide)
  have hproc : Reg.CNA_CONV_CON1_PROC_PRECISION.get
      ((Librocket.genMatmulFp16 stack params).reg before BLOCK_CNA CNA_CONV_CON1) =
        (promote precision_float16).toNat % 2 ^ 3 :=
    get_of_accepts (d := .cnaProcPrecision) stack h before 1 0 (by decide)
  rw [hconv, hin, hproc]
  decide

end Job

/-- **The same job**: where there are rows and columns, the stream names the operands,
the sizes and the precisions the reference names. -/
theorem sameJob_full (stack : Stack) (consts : Undefined) (params : MatmulParams)
    (before : RegKey → U32) (hfit : ∀ reg ∈ consts.registers, reg.toNat < 2 ^ 16)
    (hdst : consts.Apart REG_DPU_DST_BASE_ADDR)
    (hmn : 2 * params.m.toNat * params.n.toNat < 2 ^ 31) (hm : 1 ≤ params.m.toNat)
    (hn : 1 ≤ params.n.toNat) (hret : (Librocket.genMatmulFp16 stack params).ret = 0) :
    SameJob (Librocket.genMatmulFp16 stack params) (genMatmulFp16 consts params) before := by
  have h : Accepts fp16Kind params := (ret_genMatmul_iff stack).mp hret
  have hheads := heads_of_pos hfit hmn hm hn
  obtain ⟨inputBase, weightBase⟩ := operandBase_eq stack h hheads before
  obtain ⟨datainWidth, datainHeight, datainChannel⟩ := datain_full_eq stack h hheads before
  obtain ⟨weightKernels, weightWidth, weightHeight⟩ := weightSize2_full_eq stack h hheads before
  obtain ⟨inPrecision, procPrecision⟩ := precision_full_eq stack h hheads before
  exact
    { inputBase, weightBase, datainWidth, datainHeight, datainChannel, weightKernels, weightWidth,
      weightHeight, inPrecision, procPrecision
      outputBase := outputBase_full_eq stack h hheads before hdst }

theorem sameJob_full_smallJob :
    SameJob (Librocket.genMatmulFp16 default smallJob) (genMatmulFp16 someNumbers smallJob)
      fun _ => 0 := by
  have hdst : someNumbers.Apart REG_DPU_DST_BASE_ADDR := by
    simp [Undefined.Apart, Undefined.registers, someNumbers, REG_DPU_DST_BASE_ADDR]
  exact sameJob_full default someNumbers smallJob (fun _ => 0) someNumbers_fit hdst (by decide)
    (by decide) (by decide) ((ret_genMatmul_iff default).mpr (by decide))

/-- **Another setup**: the banks are right only for one bank of input or one of weights,
never for both; the weights' size is half of what it is; the output's format is none
the reference uses. -/
theorem setup_full_iff (stack : Stack) (consts : Undefined) (params : MatmulParams)
    (before : RegKey → U32) (hfit : ∀ reg ∈ consts.registers, reg.toNat < 2 ^ 16)
    (hformat : consts.Apart REG_DPU_DATA_FORMAT)
    (hmn : 2 * params.m.toNat * params.n.toNat < 2 ^ 31) (hm : 1 ≤ params.m.toNat)
    (hn : 1 ≤ params.n.toNat) (hret : (Librocket.genMatmulFp16 stack params).ret = 0) :
    let r := Librocket.genMatmulFp16 stack params
    let r' := genMatmulFp16 consts params
    (Reg.CNA_CBUF_CON0_DATA_BANK.get (r.reg before BLOCK_CNA CNA_CBUF_CON0) =
          Reg.CNA_CBUF_CON0_DATA_BANK.get (r'.reg before BLOCK_CNA CNA_CBUF_CON0) ↔
        2 * params.m.toNat * params.k.toNat ⌈/⌉ 32768 = 1) ∧
      (Reg.CNA_CBUF_CON0_WEIGHT_BANK.get (r.reg before BLOCK_CNA CNA_CBUF_CON0) =
          Reg.CNA_CBUF_CON0_WEIGHT_BANK.get (r'.reg before BLOCK_CNA CNA_CBUF_CON0) ↔
        2 * params.m.toNat * params.k.toNat ⌈/⌉ 32768 = 11) ∧
      (Reg.CNA_WEIGHT_SIZE0_WEIGHT_BYTES.get (r.reg before BLOCK_CNA CNA_WEIGHT_SIZE0) =
          Reg.CNA_WEIGHT_SIZE0_WEIGHT_BYTES.get (r'.reg before BLOCK_CNA CNA_WEIGHT_SIZE0) ↔
        params.k.toNat = 0) ∧
      Reg.DPU_DATA_FORMAT_OUT_PRECISION.get (r.reg before BLOCK_DPU DPU_DATA_FORMAT) ≠
        Reg.DPU_DATA_FORMAT_OUT_PRECISION.get (r'.reg before BLOCK_DPU DPU_DATA_FORMAT) := by
  intro r r'
  have h : Accepts fp16Kind params := (ret_genMatmul_iff stack).mp hret
  have hheads := heads_of_pos hfit hmn hm hn
  have hdata : Reg.CNA_CBUF_CON0_DATA_BANK.get (r.reg before BLOCK_CNA CNA_CBUF_CON0) =
      2 * params.m.toNat * params.k.toNat ⌈/⌉ 32768 := (cbuf_split stack h before).1
  have hweight : Reg.CNA_CBUF_CON0_WEIGHT_BANK.get (r.reg before BLOCK_CNA CNA_CBUF_CON0) =
      12 - 2 * params.m.toNat * params.k.toNat ⌈/⌉ 32768 := (cbuf_split stack h before).2.1
  have hle : 2 * params.m.toNat * params.k.toNat ⌈/⌉ 32768 ≤ 11 := (cbuf_split stack h before).2.2
  have hbytes : Reg.CNA_WEIGHT_SIZE0_WEIGHT_BYTES.get (r.reg before BLOCK_CNA CNA_WEIGHT_SIZE0) =
      2 * params.k.toNat * params.n.toNat := (weight_sizes stack h before).1
  have hout : Reg.DPU_DATA_FORMAT_OUT_PRECISION.get (r.reg before BLOCK_DPU DPU_DATA_FORMAT) =
      if params.fp32tofp16 = 0 then 5 else 2 := outPrecision_eq stack h before
  have hcbuf : r'.reg before BLOCK_CNA CNA_CBUF_CON0 =
      Reg.CNA_CBUF_CON0_WEIGHT_BANK.put 1 ||| Reg.CNA_CBUF_CON0_DATA_BANK.put 1 :=
    reg_cna hheads before 16 rfl rfl (by decide) rfl (by decide)
  have hsize : r'.reg before BLOCK_CNA CNA_WEIGHT_SIZE0 =
      1 * 1 * promote params.k * promote params.n :=
    reg_cna hheads before 13 rfl rfl (by decide) rfl (by decide)
  have hformat' : r'.reg before BLOCK_DPU DPU_DATA_FORMAT = (ofInt 0).setWidth 32 :=
    reg_words hheads before 57 rfl rfl (by decide) (by decide) rfl (by decide) fun reg hreg heq =>
      hformat reg hreg (congrArg Prod.snd heq)
  have hbytes' : Reg.CNA_WEIGHT_SIZE0_WEIGHT_BYTES.get
      (r'.reg before BLOCK_CNA CNA_WEIGHT_SIZE0) = params.k.toNat * params.n.toNat := by
    have hlt : params.k.toNat * params.n.toNat < 2 ^ 16 * 2 ^ 16 :=
      Nat.mul_lt_mul'' params.k.isLt params.n.isLt
    rw [hsize, Field.get_eq_div_mod, BitVec.toNat_mul, toNat_promote_u16]
    simp [Reg.CNA_WEIGHT_SIZE0_WEIGHT_BYTES]
    omega
  rw [hdata, hweight, hbytes, hout, hcbuf, hformat', hbytes']
  refine ⟨Iff.rfl, ?_, ?_, ?_⟩
  · show 12 - _ = 1 ↔ _
    omega
  · rw [Nat.mul_assoc]
    constructor
    · intro heq
      have hzero : params.k.toNat * params.n.toNat = 0 := by omega
      exact (Nat.mul_eq_zero.mp hzero).resolve_right (by omega)
    · intro hk
      rw [hk, Nat.zero_mul]
  · split
    · decide
    · decide

theorem setup_full_iff_smallJob :
    Reg.CNA_WEIGHT_SIZE0_WEIGHT_BYTES.get
        ((Librocket.genMatmulFp16 default smallJob).reg (fun _ => 0) BLOCK_CNA CNA_WEIGHT_SIZE0) ≠
      Reg.CNA_WEIGHT_SIZE0_WEIGHT_BYTES.get
        ((genMatmulFp16 someNumbers smallJob).reg (fun _ => 0) BLOCK_CNA CNA_WEIGHT_SIZE0) := by
  have hformat : someNumbers.Apart REG_DPU_DATA_FORMAT := by
    simp [Undefined.Apart, Undefined.registers, someNumbers, REG_DPU_DATA_FORMAT]
  obtain ⟨-, -, hbytes, -⟩ := setup_full_iff default someNumbers smallJob (fun _ => 0)
    someNumbers_fit hformat (by decide) (by decide) (by decide)
    ((ret_genMatmul_iff default).mpr (by decide))
  intro heq
  have hk := hbytes.mp heq
  revert hk
  decide

end Librocket.Full
