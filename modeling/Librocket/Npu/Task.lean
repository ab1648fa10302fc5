import Librocket.Command

/-!
# The task encoder

`gen_matmul_task` of `npu_matmul.c` turns three descriptors into 108 command
words. The model keeps the source's order: entry `i` of `taskOps` is the
argument list of `ops[i] = NPUOP(..)`, and `genMatmulTask` is the stores.

The register numbers are fixed and no register is written twice
(`taskOps_keys_nodup`), so a register reads back as the value of its one entry
(`replay_genMatmulTask`). What later modules know of the stream they know
through that lemma.
-/

namespace Librocket

open Hw

/-- `npu_cna_desc` of `npu_cna.h`. -/
structure NpuCnaDesc where
  enable : U8
  convMode : U8
  inPrecision : U8
  procPrecision : U8
  kernelGroups : U8
  featureGrains : U16
  convYStride : U8
  convXStride : U8
  datainWidth : U16
  datainHeight : U16
  datainChannel : U16
  dataoutWidth : U16
  dataoutAtomics : U32
  weightBytes : U32
  weightBytesPerKernel : U32
  weightWidth : U8
  weightHeight : U8
  weightKernels : U16
  weightBank : U8
  dataBank : U8
  dataEntries : U16
  dataSign : U8
  cvtType : U8
  cvtBypass : U8
  cvtScale0 : U16
  cvtScale1 : U16
  cvtScale2 : U16
  cvtScale3 : U16
  fcSkipEn : U8
  dataOffset : U16
  padLeft : U8
  padTop : U8
  featureBaseAddr : U32
  weightOffset : U16
  weightBurstLen : U8
  dataBurstLen : U8
  lineStride : U32
  surfStride : CInt
  dmaWidth : U16
  dmaHeight : U16
  dmaChannel : U16
  decompressAddr0 : U32
  dataoutHeight : U16
deriving Inhabited

/-- `npu_core_desc` of `npu_cna.h`. -/
structure NpuCoreDesc where
  procPrecision : U8
  qdEn : U8
  dataoutHeight : U16
  dataoutWidth : U16
  dataoutChannel : U16
deriving Inhabited

/-- `npu_dpu_desc` of `npu_dpu.h`. -/
structure NpuDpuDesc where
  burstLen : U8
  convMode : U8
  outputMode : U8
  flyingMode : U8
  outPrecision : U8
  inPrecision : U8
  procPrecision : U8
  dstBaseAddr : U32
  dstSurfStride : U32
  width : U16
  height : U16
  channel : U16
  bsBypass : U8
  bsAluBypass : U8
  bsMulBypass : U8
  bsReluBypass : U8
  odBypass : U8
  sizeE2 : U8
  sizeE1 : U8
  sizeE0 : U8
  channelWdma : U16
  heightWdma : U16
  widthWdma : U16
  bnReluBypass : U8
  bnMulBypass : U8
  bnAluBypass : U8
  bnBypass : U8
  ewBypass : U8
  ewOpBypass : U8
  ewLutBypass : U8
  ewOpCvtBypass : U8
  ewReluBypass : U8
  fp32tofp16En : U8
  outCvtScale : U16
  surfAdd : U32
deriving Inhabited

/-- One `ops[idx] = NPUOP(op, value, reg)`. -/
structure NpuOp where
  idx : ℕ
  op : U32
  value : U32
  reg : U32

def NpuOp.word (o : NpuOp) : U64 := NPUOP o.op o.value o.reg

/-- The register an entry writes. -/
def NpuOp.key (o : NpuOp) : RegKey :=
  (o.op.setWidth 16 &&& ~~~(PC_OP_01.setWidth 16), o.reg.setWidth 16)

/-- The body of `gen_matmul_task`. -/
def taskOps (cna : NpuCnaDesc) (core : NpuCoreDesc) (dpu : NpuDpuDesc) : List NpuOp :=
  [
    ⟨0, OP_REG_DPU, 0xE, DPU_S_POINTER⟩,
    ⟨1, OP_REG_CNA, ((promote cna.procPrecision &&& 0x7) <<< 7) |||
        ((promote cna.inPrecision &&& 0x7) <<< 4) |||
        (promote cna.convMode &&& 0xf), CNA_CONV_CON1⟩,
    ⟨2, OP_REG_CNA, ((promote cna.kernelGroups &&& 0xFF) <<< 16) |||
        ((promote cna.featureGrains &&& 0x3FF) <<< 4), CNA_CONV_CON2⟩,
    ⟨3, OP_REG_CNA, ((promote cna.convYStride &&& 0x7) <<< 3) |||
        (promote cna.convXStride &&& 0x7), CNA_CONV_CON3⟩,
    ⟨4, OP_REG_CNA, ((promote cna.datainWidth) &&& 0x7FF) <<< 16 |||
        (promote cna.datainHeight &&& 0x7FF), CNA_DATA_SIZE0⟩,
    ⟨5, OP_REG_CNA, ((promote cna.datainChannel - 1) &&& 0xFFFF) <<< 16 |||
        (promote cna.datainChannel &&& 0xFFFF), CNA_DATA_SIZE1⟩,
    ⟨6, OP_REG_CNA, promote cna.dataoutWidth &&& 0x7FF, CNA_DATA_SIZE2⟩,
    ⟨7, OP_REG_CNA, cna.dataoutAtomics &&& 0x3FFFF, CNA_DATA_SIZE3⟩,
    ⟨8, OP_REG_CNA, cna.weightBytes, CNA_WEIGHT_SIZE0⟩,
    ⟨9, OP_REG_CNA, cna.weightBytesPerKernel &&& 0x7FFFF, CNA_WEIGHT_SIZE1⟩,
    ⟨10, OP_REG_CNA, ((promote cna.weightWidth &&& 0x1F) <<< 24) |||
        ((promote cna.weightHeight &&& 0x1F) <<< 16) |||
        (promote cna.weightKernels &&& 0x3FFF), CNA_WEIGHT_SIZE2⟩,
    ⟨11, OP_REG_CNA, ((promote cna.weightBank &&& 0xF) <<< 4) |||
        (promote cna.dataBank &&& 0xF), CNA_CBUF_CON0⟩,
    ⟨12, OP_REG_CNA, promote cna.dataEntries &&& 0x1FFF, CNA_CBUF_CON1⟩,
    ⟨13, OP_REG_CNA, ((promote cna.dataSign &&& 0x1) <<< 3) |||
        ((promote cna.cvtType &&& 0x1) <<< 1) |||
        (promote cna.cvtBypass &&& 0x1), CNA_CVT_CON0⟩,
    ⟨14, OP_REG_CNA, ((promote cna.cvtScale0 &&& 0xFFFF) <<< 16) ||| 0x0, CNA_CVT_CON1⟩,
    ⟨15, OP_REG_CNA, ((promote cna.cvtScale1 &&& 0xFFFF) <<< 16) ||| 0x0, CNA_CVT_CON2⟩,
    ⟨16, OP_REG_CNA, ((promote cna.cvtScale2 &&& 0xFFFF) <<< 16) ||| 0x0, CNA_CVT_CON3⟩,
    ⟨17, OP_REG_CNA, ((promote cna.cvtScale3 &&& 0xFFFF) <<< 16) ||| 0x0, CNA_CVT_CON4⟩,
    ⟨18, OP_REG_CNA, promote cna.fcSkipEn &&& 0x1, CNA_FC_CON0⟩,
    ⟨19, OP_REG_CNA, promote cna.dataOffset &&& 0x1FFFF, CNA_FC_CON1⟩,
    ⟨20, OP_REG_CNA, ((promote cna.padLeft &&& 0xF) <<< 4) |||
        (promote cna.padTop &&& 0xF), CNA_PAD_CON0⟩,
    ⟨21, OP_REG_CNA, cna.featureBaseAddr, CNA_FEATURE_DATA_ADDR⟩,
    ⟨22, OP_REG_CNA, promote cna.weightOffset &&& 0x1FFFF, CNA_FC_CON2⟩,
    ⟨23, OP_REG_CNA, ((promote cna.weightBurstLen &&& 0xF) <<< 16) |||
        (promote cna.dataBurstLen &&& 0xF), CNA_DMA_CON0⟩,
    ⟨24, OP_REG_CNA, cna.lineStride &&& 0xFFFFFFF, CNA_DMA_CON1⟩,
    ⟨25, OP_REG_CNA, cna.surfStride &&& 0xFFFFFFF, CNA_DMA_CON2⟩,
    ⟨26, OP_REG_CNA, ((promote cna.dmaWidth &&& 0x7FF) <<< 16) |||
        (promote cna.dmaHeight &&& 0x7FF), CNA_FC_DATA_SIZE0⟩,
    ⟨27, OP_REG_CNA, promote cna.dmaChannel &&& 0xFFFF, CNA_FC_DATA_SIZE1⟩,
    ⟨28, OP_REG_CNA, 0x0, CNA_DCOMP_CTRL⟩,
    ⟨29, OP_REG_CNA, 0x0, CNA_DCOMP_REGNUM⟩,
    ⟨30, OP_REG_CNA, cna.decompressAddr0, CNA_DCOMP_ADDR0⟩,
    ⟨31, OP_REG_CNA, 0x0, CNA_DCOMP_AMOUNT⟩,
    ⟨32, OP_REG_CNA, 0x0, CNA_DCOMP_AMOUNT1⟩,
    ⟨33, OP_REG_CNA, 0x0, CNA_DCOMP_AMOUNT2⟩,
    ⟨34, OP_REG_CNA, 0x0, CNA_DCOMP_AMOUNT3⟩,
    ⟨35, OP_REG_CNA, 0x0, CNA_DCOMP_AMOUNT4⟩,
    ⟨36, OP_REG_CNA, 0x0, CNA_DCOMP_AMOUNT5⟩,
    ⟨37, OP_REG_CNA, 0x0, CNA_DCOMP_AMOUNT6⟩,
    ⟨38, OP_REG_CNA, 0x0, CNA_DCOMP_AMOUNT7⟩,
    ⟨39, OP_REG_CNA, 0x0, CNA_DCOMP_AMOUNT8⟩,
    ⟨40, OP_REG_CNA, 0x0, CNA_DCOMP_AMOUNT9⟩,
    ⟨41, OP_REG_CNA, 0x0, CNA_DCOMP_AMOUNT10⟩,
    ⟨42, OP_REG_CNA, 0x0, CNA_DCOMP_AMOUNT11⟩,
    ⟨43, OP_REG_CNA, 0x0, CNA_DCOMP_AMOUNT12⟩,
    ⟨44, OP_REG_CNA, 0x0, CNA_DCOMP_AMOUNT13⟩,
    ⟨45, OP_REG_CNA, 0x0, CNA_DCOMP_AMOUNT14⟩,
    ⟨46, OP_REG_CNA, 0x0, CNA_DCOMP_AMOUNT15⟩,
    ⟨47, OP_REG_CNA, 0x0, CNA_CVT_CON5⟩,
    ⟨48, OP_REG_CNA, 0x0, CNA_PAD_CON1⟩,
    ⟨49, OP_REG_CORE, ((promote core.procPrecision &&& 0x7) <<< 8) |||
        (promote core.qdEn &&& 0x1), CORE_MISC_CFG⟩,
    ⟨50, OP_REG_CORE, ((promote core.dataoutHeight &&& 0xFFFF) <<< 16) |||
        (promote core.dataoutWidth &&& 0xFFFF), CORE_DATAOUT_SIZE_0⟩,
    ⟨51, OP_REG_CORE, promote core.dataoutChannel &&& 0xFFFF, CORE_DATAOUT_SIZE_1⟩,
    ⟨52, OP_REG_CORE, 0x0, CORE_CLIP_TRUNCATE⟩,
    ⟨53, OP_REG_CORE, 0x0, CORE_3030⟩,
    ⟨54, OP_REG_DPU, ((promote dpu.burstLen &&& 0xF) <<< 5) |||
        ((promote dpu.convMode &&& 0x3) <<< 3) ||| ((promote dpu.outputMode &&& 0x3) <<< 1) |||
        (promote dpu.flyingMode &&& 0x1), DPU_FEATURE_MODE_CFG⟩,
    ⟨55, OP_REG_DPU, ((promote dpu.outPrecision &&& 0x7) <<< 29) |||
        ((promote dpu.inPrecision &&& 0x7) <<< 26) |||
        (promote dpu.procPrecision &&& 0x7), DPU_DATA_FORMAT⟩,
    ⟨56, OP_REG_DPU, 0x0, DPU_OFFSET_PEND⟩,
    ⟨57, OP_REG_DPU, dpu.dstBaseAddr, DPU_DST_BASE_ADD⟩,
    ⟨58, OP_REG_DPU, (dpu.dstSurfStride &&& 0xFFFFFFF) <<< 4, DPU_DST_SURF_STRIDE⟩,
    ⟨59, OP_REG_DPU, promote dpu.width &&& 0x1FFF, DPU_DATA_CUBE_WIDTH⟩,
    ⟨60, OP_REG_DPU, promote dpu.height &&& 0x1FFF, DPU_DATA_CUBE_HEIGHT⟩,
    ⟨61, OP_REG_DPU, 0x0, DPU_DATA_CUBE_NOTCH_ADDR⟩,
    ⟨62, OP_REG_DPU, ((promote dpu.channel &&& 0x1FFF) <<< 16) |||
        (promote dpu.channel &&& 0x1FFF), DPU_DATA_CUBE_CHANNEL⟩,
    ⟨63, OP_REG_DPU, ((promote dpu.bsReluBypass &&& 0x1) <<< 6) |||
        ((promote dpu.bsMulBypass &&& 0x1) <<< 4) |||
        ((promote dpu.bsAluBypass &&& 0x1) <<< 1) |||
        (promote dpu.bsBypass &&& 0x1), DPU_BS_CFG⟩,
    ⟨64, OP_REG_DPU, 0x0, DPU_BS_ALU_CFG⟩,
    ⟨65, OP_REG_DPU, 0x0, DPU_BS_MUL_CFG⟩,
    ⟨66, OP_REG_DPU, 0x0, DPU_BS_RELUX_CMP_VALUE⟩,
    ⟨67, OP_REG_DPU, ((promote dpu.sizeE2 &&& 0x7) <<< 8) |||
        ((promote dpu.sizeE1 &&& 0x7) <<< 5) ||| ((promote dpu.sizeE0 &&& 0x7) <<< 2) |||
        ((promote dpu.odBypass &&& 0x1) <<< 1), DPU_BS_OW_CFG⟩,
    ⟨68, OP_REG_DPU, 0x0, DPU_BS_OW_OP⟩,
    ⟨69, OP_REG_DPU, promote dpu.channelWdma &&& 0x1FFF, DPU_WDMA_SIZE_0⟩,
    ⟨70, OP_REG_DPU, ((promote dpu.heightWdma &&& 0x1FFF) <<< 16) |||
        (promote dpu.widthWdma &&& 0x1FFF), DPU_WDMA_SIZE_1⟩,
    ⟨71, OP_REG_DPU, ((promote dpu.bnReluBypass &&& 0x1) <<< 6) |||
        ((promote dpu.bnMulBypass &&& 0x1) <<< 4) |||
        ((promote dpu.bnAluBypass &&& 0x1) <<< 1) |||
        (promote dpu.bnBypass &&& 0x1), DPU_BN_CFG⟩,
    ⟨72, OP_REG_DPU, 0x0, DPU_BN_ALU_CFG⟩,
    ⟨73, OP_REG_DPU, 0x0, DPU_BN_MUL_CFG⟩,
    ⟨74, OP_REG_DPU, 0x0, DPU_BN_RELUX_CMP_VALUE⟩,
    ⟨75, OP_REG_DPU, ((promote dpu.ewReluBypass &&& 0x1) <<< 9) |||
        ((promote dpu.ewOpCvtBypass &&& 0x1) <<< 8) |||
        ((promote dpu.ewLutBypass &&& 0x1) <<< 7) |||
        ((promote dpu.ewOpBypass &&& 0x1) <<< 1) |||
        (promote dpu.ewBypass &&& 0x1), DPU_EW_CFG⟩,
    ⟨76, OP_REG_DPU, 0x0, DPU_EW_CVT_OFFSET_VALUE⟩,
    ⟨77, OP_REG_DPU, 0x1, DPU_EW_CVT_SCALE_VALUE⟩,
    ⟨78, OP_REG_DPU, 0x0, DPU_EW_RELUX_CMP_VALUE⟩,
    ⟨79, OP_REG_DPU, 0x0, DPU_OUT_CVT_OFFSET⟩,
    ⟨80, OP_REG_DPU, ((promote dpu.fp32tofp16En &&& 0x1) <<< 16) |||
        (promote dpu.outCvtScale &&& 0xFFFF), DPU_OUT_CVT_SCALE⟩,
    ⟨81, OP_REG_DPU, 0x0, DPU_OUT_CVT_SHIFT⟩,
    ⟨82, OP_REG_DPU, 0x0, DPU_EW_OP_VALUE_0⟩,
    ⟨83, OP_REG_DPU, 0x0, DPU_EW_OP_VALUE_1⟩,
    ⟨84, OP_REG_DPU, 0x0, DPU_EW_OP_VALUE_2⟩,
    ⟨85, OP_REG_DPU, 0x0, DPU_EW_OP_VALUE_3⟩,
    ⟨86, OP_REG_DPU, 0x0, DPU_EW_OP_VALUE_4⟩,
    ⟨87, OP_REG_DPU, 0x0, DPU_EW_OP_VALUE_5⟩,
    ⟨88, OP_REG_DPU, 0x0, DPU_EW_OP_VALUE_6⟩,
    ⟨89, OP_REG_DPU, 0x0, DPU_EW_OP_VALUE_7⟩,
    ⟨90, OP_REG_DPU, ((dpu.surfAdd &&& 0xFFFFFFF) <<< 4), DPU_SURFACE_ADD⟩,
    ⟨91, OP_REG_DPU, 0x0, DPU_40C4⟩,
    ⟨92, OP_REG_DPU, 0x0, DPU_LUT_ACCESS_CFG⟩,
    ⟨93, OP_REG_DPU, 0x0, DPU_LUT_ACCESS_DATA⟩,
    ⟨94, OP_REG_DPU, 0x0, DPU_LUT_CFG⟩,
    ⟨95, OP_REG_DPU, 0x0, DPU_LUT_INFO⟩,
    ⟨96, OP_REG_DPU, 0x0, DPU_LUT_LE_START⟩,
    ⟨97, OP_REG_DPU, 0x0, DPU_LUT_LE_END⟩,
    ⟨98, OP_REG_DPU, 0x0, DPU_LUT_LO_START⟩,
    ⟨99, OP_REG_DPU, 0x0, DPU_LUT_LO_END⟩,
    ⟨100, OP_REG_DPU, 0x0, DPU_LUT_LE_SLOPE_SCALE⟩,
    ⟨101, OP_REG_DPU, 0x0, DPU_LUT_LE_SLOPE_SHIFT⟩,
    ⟨102, OP_REG_DPU, 0x0, DPU_LUT_LO_SLOPE_SCALE⟩,
    ⟨103, OP_REG_DPU, 0x0, DPU_LUT_LO_SLOPE_SHIFT⟩,
    ⟨104, OP_NONE, 0x0, 0x0⟩,
    ⟨105, OP_REG_PC, 0x0, PC_REGISTER_AMOUNTS⟩,
    ⟨106, OP_40, 0x0, 0x0⟩,
    ⟨107, OP_ENABLE, (PC_ENABLE_DPU ||| PC_ENABLE_CNA ||| PC_ENABLE), PC_OPERATION_ENABLE⟩
  ]

/-- `gen_matmul_task`: the stores into `ops`. -/
def genMatmulTask (cna : NpuCnaDesc) (core : NpuCoreDesc) (dpu : NpuDpuDesc) :
    List (ℕ × U64) :=
  (taskOps cna core dpu).map fun o => (o.idx, o.word)

/-! ## The stream as a register file -/

section Stream

variable (cna : NpuCnaDesc) (core : NpuCoreDesc) (dpu : NpuDpuDesc)

/-- `ops[0]` to `ops[107]` are stored, each once, in order. -/
theorem keys_genMatmulTask :
    WriteLog.keys (genMatmulTask cna core dpu) = List.range 108 := by
  rfl

/-- The registers written do not depend on the descriptors. -/
private theorem taskOps_keys :
    (taskOps cna core dpu).map NpuOp.key =
      (taskOps default default default).map NpuOp.key := by
  simp only [taskOps, List.map_cons, List.map_nil, NpuOp.key]

theorem taskOps_keys_nodup : ((taskOps cna core dpu).map NpuOp.key).Nodup := by
  rw [taskOps_keys]
  decide +kernel

theorem regWrites_genMatmulTask :
    regWrites ((genMatmulTask cna core dpu).map Prod.snd) =
      (taskOps cna core dpu).map fun o => (o.key, o.value) := by
  simp only [regWrites, genMatmulTask, List.map_map]
  apply List.map_congr_left
  intro o _
  simp [NpuOp.word, NpuOp.key, unitOf]

/-- **Readback**: the register an entry writes holds the entry's value after
the stream, whatever it held before. -/
theorem replay_genMatmulTask {o : NpuOp} (before : RegKey → U32)
    (ho : o ∈ taskOps cna core dpu) :
    replay ((genMatmulTask cna core dpu).map Prod.snd) before o.key = o.value := by
  rw [replay, regWrites_genMatmulTask]
  apply WriteLog.apply_of_nodup
  · have hnd := taskOps_keys_nodup cna core dpu
    simpa [WriteLog.keys, Function.comp_def] using hnd
  · exact List.mem_map_of_mem ho

/-- The readback lemma at an entry's index, for a run that stores the task. -/
theorem reg_genMatmulTask {ret : ℤ} (before : RegKey → U32) (i : ℕ) {idx : ℕ}
    {op value reg block : U32}
    (ho : (taskOps cna core dpu)[i]? = some ⟨idx, op, value, reg⟩)
    (hblock : op.setWidth 16 &&& ~~~(PC_OP_01.setWidth 16) = block.setWidth 16) :
    GenResult.reg { ret := ret, stores := genMatmulTask cna core dpu } before block reg =
      value := by
  rw [GenResult.reg, ← hblock]
  have hread := replay_genMatmulTask cna core dpu before (List.mem_of_getElem? ho)
  exact hread

end Stream

end Librocket
