import Librocket.Npu.Mesa

/-!
# The full generator

`npu_matmul_full.c`, the third implementation of the same header function. It
stores a fixed number of words and refuses nothing. Some register numbers and
field helpers it uses are defined in no header; they are taken as arbitrary
(`Undefined`) and only the contents of words depend on them.

The macro `MESA_REGCMD` and the targets are those of `npu_matmul_mesa.c`, the
register numbers those of `mesa_registers.h`.
-/

namespace Librocket.Full

open Bitfield Mesa

/-! ## Register numbers -/

def REG_CNA_CBUF_CON0 : CInt := 0x00001040
def REG_CNA_DCOMP_REGNUM : CInt := 0x00001104
def REG_CNA_DCOMP_CTRL : CInt := 0x00001100
def REG_CNA_CONV_CON1 : CInt := 0x0000100c
def REG_DPU_S_POINTER : CInt := 0x00004004
def REG_DPU_RDMA_RDMA_S_POINTER : CInt := 0x00005004
def REG_CNA_CONV_CON2 : CInt := 0x00001010
def REG_CNA_CONV_CON3 : CInt := 0x00001014
def REG_CNA_DATA_SIZE0 : CInt := 0x00001020
def REG_CNA_DATA_SIZE1 : CInt := 0x00001024
def REG_CNA_DATA_SIZE2 : CInt := 0x00001028
def REG_CNA_DATA_SIZE3 : CInt := 0x0000102c
def REG_CNA_WEIGHT_SIZE0 : CInt := 0x00001030
def REG_CNA_WEIGHT_SIZE1 : CInt := 0x00001034
def REG_CNA_WEIGHT_SIZE2 : CInt := 0x00001038
def REG_CNA_CBUF_CON1 : CInt := 0x00001044
def REG_CNA_CVT_CON0 : CInt := 0x0000104c
def REG_CNA_CVT_CON1 : CInt := 0x00001050
def REG_CNA_CVT_CON2 : CInt := 0x00001054
def REG_CNA_CVT_CON3 : CInt := 0x00001058
def REG_CNA_CVT_CON4 : CInt := 0x0000105c
def REG_CNA_FC_CON0 : CInt := 0x00001060
def REG_CNA_FC_CON1 : CInt := 0x00001064
def REG_CNA_PAD_CON0 : CInt := 0x00001068
def REG_CNA_FEATURE_DATA_ADDR : CInt := 0x00001070
def REG_CNA_FC_CON2 : CInt := 0x00001074
def REG_CNA_FC_DATA_SIZE0 : CInt := 0x00001084
def REG_CNA_FC_DATA_SIZE1 : CInt := 0x00001088
def REG_CNA_DCOMP_ADDR0 : CInt := 0x00001110
def REG_CNA_DCOMP_AMOUNT0 : CInt := 0x00001140
def REG_CNA_DCOMP_AMOUNT1 : CInt := 0x00001144
def REG_CNA_DCOMP_AMOUNT2 : CInt := 0x00001148
def REG_CNA_DCOMP_AMOUNT3 : CInt := 0x0000114c
def REG_CNA_DCOMP_AMOUNT4 : CInt := 0x00001150
def REG_CNA_DCOMP_AMOUNT5 : CInt := 0x00001154
def REG_CNA_DCOMP_AMOUNT6 : CInt := 0x00001158
def REG_CNA_DCOMP_AMOUNT7 : CInt := 0x0000115c
def REG_CNA_DCOMP_AMOUNT8 : CInt := 0x00001160
def REG_CNA_DCOMP_AMOUNT9 : CInt := 0x00001164
def REG_CNA_DCOMP_AMOUNT10 : CInt := 0x00001168
def REG_CNA_DCOMP_AMOUNT11 : CInt := 0x0000116c
def REG_CNA_DCOMP_AMOUNT12 : CInt := 0x00001170
def REG_CNA_DCOMP_AMOUNT13 : CInt := 0x00001174
def REG_CNA_DCOMP_AMOUNT14 : CInt := 0x00001178
def REG_CNA_DCOMP_AMOUNT15 : CInt := 0x0000117c
def REG_CNA_CVT_CON5 : CInt := 0x00001180
def REG_CNA_PAD_CON1 : CInt := 0x00001184
def REG_CORE_MISC_CFG : CInt := 0x00003010
def REG_CORE_DATAOUT_SIZE_0 : CInt := 0x00003014
def REG_CORE_DATAOUT_SIZE_1 : CInt := 0x00003018
def REG_CORE_CLIP_TRUNCATE : CInt := 0x0000301c
def REG_DPU_FEATURE_MODE_CFG : CInt := 0x0000400c
def REG_DPU_DATA_FORMAT : CInt := 0x00004010
def REG_DPU_OFFSET_PEND : CInt := 0x00004014
def REG_DPU_DST_BASE_ADDR : CInt := 0x00004020
def REG_DPU_DST_SURF_STRIDE : CInt := 0x00004024
def REG_DPU_DATA_CUBE_WIDTH : CInt := 0x00004030
def REG_DPU_DATA_CUBE_HEIGHT : CInt := 0x00004034
def REG_DPU_DATA_CUBE_NOTCH_ADDR : CInt := 0x00004038
def REG_DPU_DATA_CUBE_CHANNEL : CInt := 0x0000403c
def REG_DPU_BS_CFG : CInt := 0x00004040
def REG_DPU_BS_ALU_CFG : CInt := 0x00004044
def REG_DPU_BS_MUL_CFG : CInt := 0x00004048
def REG_DPU_BS_RELUX_CMP_VALUE : CInt := 0x0000404c
def REG_DPU_BS_OW_CFG : CInt := 0x00004050
def REG_DPU_BS_OW_OP : CInt := 0x00004054
def REG_DPU_WDMA_SIZE_0 : CInt := 0x00004058
def REG_DPU_WDMA_SIZE_1 : CInt := 0x0000405c
def REG_DPU_BN_CFG : CInt := 0x00004060
def REG_DPU_BN_ALU_CFG : CInt := 0x00004064
def REG_DPU_BN_MUL_CFG : CInt := 0x00004068
def REG_DPU_BN_RELUX_CMP_VALUE : CInt := 0x0000406c
def REG_DPU_EW_CFG : CInt := 0x00004070
def REG_DPU_EW_RELUX_CMP_VALUE : CInt := 0x0000407c
def REG_DPU_OUT_CVT_OFFSET : CInt := 0x00004080
def REG_DPU_OUT_CVT_SCALE : CInt := 0x00004084
def REG_DPU_OUT_CVT_SHIFT : CInt := 0x00004088
def REG_DPU_SURFACE_ADD : CInt := 0x000040c0
def REG_DPU_LUT_CFG : CInt := 0x00004108
def REG_DPU_LUT_INFO : CInt := 0x0000410c
def REG_DPU_LUT_LE_SLOPE_SCALE : CInt := 0x00004120
def REG_DPU_LUT_LE_SLOPE_SHIFT : CInt := 0x00004124
def REG_DPU_LUT_LO_SLOPE_SCALE : CInt := 0x00004128
def REG_DPU_LUT_LO_SLOPE_SHIFT : CInt := 0x0000412c
def REG_DPU_RDMA_RDMA_DATA_CUBE_WIDTH : CInt := 0x0000500c
def REG_DPU_RDMA_RDMA_DATA_CUBE_HEIGHT : CInt := 0x00005010
def REG_DPU_RDMA_RDMA_DATA_CUBE_CHANNEL : CInt := 0x00005014
def REG_DPU_RDMA_RDMA_SURF_NOTCH : CInt := 0x0000504c
def REG_DPU_RDMA_RDMA_PAD_CFG : CInt := 0x00005064
def REG_DPU_RDMA_RDMA_WEIGHT : CInt := 0x00005068
def REG_DPU_RDMA_RDMA_EW_SURF_NOTCH : CInt := 0x0000506c
def REG_PC_BASE_ADDRESS : CInt := 0x00000010
def REG_PC_REGISTER_AMOUNTS : CInt := 0x00000014
def REG_PC_OPERATION_ENABLE : CInt := 0x00000008

/-- A helper macro that no header defines, taken as one of the generated kind: a shift
and a mask, on 32 bits. -/
structure Helper where
  shift : ℕ
  mask : U32

def Helper.put (h : Helper) (x : U32) : U32 := (x <<< h.shift) &&& h.mask

/-- What the source uses and no header defines. -/
structure Undefined where
  REG_DPU_BN_OW_CFG : CInt
  REG_DPU_EW_ALU_CFG : CInt
  REG_DPU_EW_ALU_CVT_OFFSET_VALUE : CInt
  REG_DPU_EW_ALU_CVT_SCALE_VALUE : CInt
  REG_DPU_EW_ALU_CVT_TRUNCATE_VALUE : CInt
  REG_DPU_EW_MUL_CFG : CInt
  REG_DPU_EW_MUL_CVT_OFFSET_VALUE : CInt
  REG_DPU_EW_MUL_CVT_SCALE_VALUE : CInt
  REG_DPU_EW_MUL_CVT_TRUNCATE_VALUE : CInt
  REG_DPU_EW_OW_CFG : CInt
  REG_DPU_OUT_CVT_CFG : CInt
  REG_DPU_LUT_LE_START_LOW : CInt
  REG_DPU_LUT_LE_START_HIGH : CInt
  REG_DPU_LUT_LE_END_LOW : CInt
  REG_DPU_LUT_LE_END_HIGH : CInt
  REG_DPU_LUT_LO_START_LOW : CInt
  REG_DPU_LUT_LO_START_HIGH : CInt
  REG_DPU_LUT_LO_END_LOW : CInt
  REG_DPU_LUT_LO_END_HIGH : CInt
  REG_DPU_RDMA_RDMA_CFG : CInt
  REG_DPU_RDMA_RDMA_BASE_ADDR : CInt
  REG_DPU_RDMA_RDMA_SURF_STRIDE : CInt
  DPU_EW_CFG_EW_ALU_SRC : Helper
  DPU_EW_CFG_EW_MUL_BYPASS : Helper
  DPU_OUT_CVT_CFG_OUT_CVT_BYPASS : Helper
  DPU_LUT_CFG_LUT_LE_FUNCTION : Helper
  DPU_RDMA_RDMA_CFG_RDMA_DISABLE : Helper
  DPU_RDMA_RDMA_CFG_RDMA_DATA_MODE : Helper
  DPU_RDMA_RDMA_CFG_RDMA_DATA_SIZE : Helper
  DPU_RDMA_RDMA_CFG_RDMA_DATA_USE : Helper

/-! ## The generator -/

/-- `EMIT_RAW(target, reg, value)`; `EMIT` pastes the block's name into both
constants. -/
def EMIT_RAW (target reg : CInt) (value : U64) : U64 :=
  MESA_REGCMD (ofInt target) value (ofInt reg)

section Words

open Reg hiding CNA_CONV_CON1_CONV_MODE CNA_CONV_CON1_IN_PRECISION CNA_CONV_CON1_PROC_PRECISION

/-- The int products `1 * 1 * K * N`, `M * K` and `M * N * 2` do not overflow: where one
does, C says nothing about the run. -/
structure ProductsFit (params : MatmulParams) : Prop where
  weights : params.k.toNat * params.n.toNat < 2 ^ 31
  entries : params.m.toNat * params.k.toNat < 2 ^ 31
  strides : 2 * params.m.toNat * params.n.toNat < 2 ^ 31

/-- The words of `gen_matmul_fp16`, in the order they are stored. Products wrap, which
says what the source does only for `ProductsFit` requests. -/
def words (consts : Undefined) (params : MatmulParams) : List U64 :=
  let M : CInt := promote params.m
  let K : CInt := promote params.k
  let N : CInt := promote params.n
  let convCon1 : U32 := Reg.CNA_CONV_CON1_CONV_MODE.put 0 |||
    Reg.CNA_CONV_CON1_IN_PRECISION.put 2 ||| Reg.CNA_CONV_CON1_PROC_PRECISION.put 2
  let weightTotal : U32 := 1 * 1 * K * N
  [ EMIT_RAW TARGET_CNA REG_CNA_CBUF_CON0 (ofUInt32 (CNA_CBUF_CON0_WEIGHT_BANK.put 1 |||
      CNA_CBUF_CON0_DATA_BANK.put 1)),
    EMIT_RAW TARGET_CNA REG_CNA_DCOMP_REGNUM (ofInt 0),
    EMIT_RAW TARGET_CNA REG_CNA_DCOMP_CTRL (ofInt 0),
    EMIT_RAW TARGET_CNA REG_CNA_CONV_CON1 (ofUInt32 convCon1),
    EMIT_RAW TARGET_DPU REG_DPU_S_POINTER (ofUInt32 (DPU_S_POINTER_POINTER_PP_MODE.put 1 |||
      DPU_S_POINTER_EXECUTER_PP_EN.put 1 ||| DPU_S_POINTER_POINTER_PP_EN.put 1)),
    EMIT_RAW TARGET_DPU REG_DPU_RDMA_RDMA_S_POINTER
      (ofUInt32 (DPU_RDMA_RDMA_S_POINTER_POINTER_PP_MODE.put 1 |||
      DPU_RDMA_RDMA_S_POINTER_EXECUTER_PP_EN.put 1 |||
      DPU_RDMA_RDMA_S_POINTER_POINTER_PP_EN.put 1)),
    EMIT_RAW TARGET_CNA REG_CNA_CONV_CON1 (ofUInt32 convCon1),
    EMIT_RAW TARGET_CNA REG_CNA_CONV_CON2 (ofUInt32 (CNA_CONV_CON2_FEATURE_GRAINS.put 52)),
    EMIT_RAW TARGET_CNA REG_CNA_CONV_CON3 (ofUInt32 (CNA_CONV_CON3_CONV_X_STRIDE.put 1 |||
      CNA_CONV_CON3_CONV_Y_STRIDE.put 1)),
    EMIT_RAW TARGET_CNA REG_CNA_DATA_SIZE0 (ofUInt32 (CNA_DATA_SIZE0_DATAIN_WIDTH.put 1 |||
      CNA_DATA_SIZE0_DATAIN_HEIGHT.put M)),
    EMIT_RAW TARGET_CNA REG_CNA_DATA_SIZE1
      (ofUInt32 (CNA_DATA_SIZE1_DATAIN_CHANNEL_REAL.put (K - 1) |||
      CNA_DATA_SIZE1_DATAIN_CHANNEL.put K)),
    EMIT_RAW TARGET_CNA REG_CNA_DATA_SIZE2 (ofUInt32 (CNA_DATA_SIZE2_DATAOUT_WIDTH.put 1)),
    EMIT_RAW TARGET_CNA REG_CNA_DATA_SIZE3 (ofUInt32 (CNA_DATA_SIZE3_DATAOUT_ATOMICS.put M)),
    EMIT_RAW TARGET_CNA REG_CNA_WEIGHT_SIZE0 (ofUInt32 weightTotal),
    EMIT_RAW TARGET_CNA REG_CNA_WEIGHT_SIZE1 (ofInt (1 * 1 * K)),
    EMIT_RAW TARGET_CNA REG_CNA_WEIGHT_SIZE2 (ofUInt32 (CNA_WEIGHT_SIZE2_WEIGHT_WIDTH.put 1 |||
      CNA_WEIGHT_SIZE2_WEIGHT_HEIGHT.put 1 ||| CNA_WEIGHT_SIZE2_WEIGHT_KERNELS.put N)),
    EMIT_RAW TARGET_CNA REG_CNA_CBUF_CON0 (ofUInt32 (CNA_CBUF_CON0_WEIGHT_BANK.put 1 |||
      CNA_CBUF_CON0_DATA_BANK.put 1)),
    EMIT_RAW TARGET_CNA REG_CNA_CBUF_CON1 (ofUInt32 (CNA_CBUF_CON1_DATA_ENTRIES.put (M * K))),
    EMIT_RAW TARGET_CNA REG_CNA_CVT_CON0 (ofUInt32 (CNA_CVT_CON0_DATA_SIGN.put 1 |||
      CNA_CVT_CON0_CVT_TYPE.put 1 ||| CNA_CVT_CON0_CVT_BYPASS.put 1)),
    EMIT_RAW TARGET_CNA REG_CNA_CVT_CON1 (ofUInt32 (CNA_CVT_CON1_CVT_SCALE0.put 1)),
    EMIT_RAW TARGET_CNA REG_CNA_CVT_CON2 (ofUInt32 (CNA_CVT_CON2_CVT_SCALE1.put 1)),
    EMIT_RAW TARGET_CNA REG_CNA_CVT_CON3 (ofUInt32 (CNA_CVT_CON3_CVT_SCALE2.put 1)),
    EMIT_RAW TARGET_CNA REG_CNA_CVT_CON4 (ofUInt32 (CNA_CVT_CON4_CVT_SCALE3.put 1)),
    EMIT_RAW TARGET_CNA REG_CNA_FC_CON0 (ofInt 0),
    EMIT_RAW TARGET_CNA REG_CNA_FC_CON1 (ofInt 0),
    EMIT_RAW TARGET_CNA REG_CNA_PAD_CON0 (ofInt 0),
    EMIT_RAW TARGET_CNA REG_CNA_FEATURE_DATA_ADDR (ofUInt32 (params.inputDma &&& 0xFFFFFFFF)),
    EMIT_RAW TARGET_CNA REG_CNA_FC_CON2 (ofInt 0),
    EMIT_RAW TARGET_CNA REG_CNA_FC_DATA_SIZE0 (ofInt 0),
    EMIT_RAW TARGET_CNA REG_CNA_FC_DATA_SIZE1 (ofInt 0),
    EMIT_RAW TARGET_CNA REG_CNA_DCOMP_CTRL (ofInt 0),
    EMIT_RAW TARGET_CNA REG_CNA_DCOMP_REGNUM (ofInt 0),
    EMIT_RAW TARGET_CNA REG_CNA_DCOMP_ADDR0 (ofUInt32 (params.weightsDma &&& 0xFFFFFFFF)),
    EMIT_RAW TARGET_CNA REG_CNA_DCOMP_AMOUNT0 (ofInt 0),
    EMIT_RAW TARGET_CNA REG_CNA_DCOMP_AMOUNT1 (ofInt 0),
    EMIT_RAW TARGET_CNA REG_CNA_DCOMP_AMOUNT2 (ofInt 0),
    EMIT_RAW TARGET_CNA REG_CNA_DCOMP_AMOUNT3 (ofInt 0),
    EMIT_RAW TARGET_CNA REG_CNA_DCOMP_AMOUNT4 (ofInt 0),
    EMIT_RAW TARGET_CNA REG_CNA_DCOMP_AMOUNT5 (ofInt 0),
    EMIT_RAW TARGET_CNA REG_CNA_DCOMP_AMOUNT6 (ofInt 0),
    EMIT_RAW TARGET_CNA REG_CNA_DCOMP_AMOUNT7 (ofInt 0),
    EMIT_RAW TARGET_CNA REG_CNA_DCOMP_AMOUNT8 (ofInt 0),
    EMIT_RAW TARGET_CNA REG_CNA_DCOMP_AMOUNT9 (ofInt 0),
    EMIT_RAW TARGET_CNA REG_CNA_DCOMP_AMOUNT10 (ofInt 0),
    EMIT_RAW TARGET_CNA REG_CNA_DCOMP_AMOUNT11 (ofInt 0),
    EMIT_RAW TARGET_CNA REG_CNA_DCOMP_AMOUNT12 (ofInt 0),
    EMIT_RAW TARGET_CNA REG_CNA_DCOMP_AMOUNT13 (ofInt 0),
    EMIT_RAW TARGET_CNA REG_CNA_DCOMP_AMOUNT14 (ofInt 0),
    EMIT_RAW TARGET_CNA REG_CNA_DCOMP_AMOUNT15 (ofInt 0),
    EMIT_RAW TARGET_CNA REG_CNA_CVT_CON5 (ofInt 0),
    EMIT_RAW TARGET_CNA REG_CNA_PAD_CON1 (ofInt 0),
    EMIT_RAW TARGET_CORE REG_CORE_MISC_CFG (ofUInt32 (CORE_MISC_CFG_QD_EN.put 1)),
    EMIT_RAW TARGET_CORE REG_CORE_DATAOUT_SIZE_0
      (ofUInt32 (CORE_DATAOUT_SIZE_0_DATAOUT_WIDTH.put 1 |||
      CORE_DATAOUT_SIZE_0_DATAOUT_HEIGHT.put (M - 1))),
    EMIT_RAW TARGET_CORE REG_CORE_DATAOUT_SIZE_1
      (ofUInt32 (CORE_DATAOUT_SIZE_1_DATAOUT_CHANNEL.put (N - 1))),
    EMIT_RAW TARGET_CORE REG_CORE_CLIP_TRUNCATE (ofInt 0),
    EMIT_RAW (TARGET_CORE ||| 0x1) 0x3030 (ofInt 0),
    EMIT_RAW TARGET_DPU REG_DPU_FEATURE_MODE_CFG
      (ofUInt32 (DPU_FEATURE_MODE_CFG_BURST_LEN.put 15 |||
      DPU_FEATURE_MODE_CFG_OUTPUT_MODE.put 2)),
    EMIT_RAW TARGET_DPU REG_DPU_DATA_FORMAT (ofInt 0),
    EMIT_RAW TARGET_DPU REG_DPU_OFFSET_PEND (ofInt 0),
    EMIT_RAW TARGET_DPU REG_DPU_DST_BASE_ADDR (ofUInt32 (params.outputDma &&& 0xFFFFFFFF)),
    EMIT_RAW TARGET_DPU REG_DPU_DST_SURF_STRIDE (ofInt (M * N * 2)),
    EMIT_RAW TARGET_DPU REG_DPU_DATA_CUBE_WIDTH (ofInt 0),
    EMIT_RAW TARGET_DPU REG_DPU_DATA_CUBE_HEIGHT (ofInt (M - 1)),
    EMIT_RAW TARGET_DPU REG_DPU_DATA_CUBE_NOTCH_ADDR (ofInt 0),
    EMIT_RAW TARGET_DPU REG_DPU_DATA_CUBE_CHANNEL
      (ofUInt32 (DPU_DATA_CUBE_CHANNEL_ORIG_CHANNEL.put (N - 1) |||
      DPU_DATA_CUBE_CHANNEL_CHANNEL.put (N - 1))),
    EMIT_RAW TARGET_DPU REG_DPU_BS_CFG (ofUInt32 (DPU_BS_CFG_BS_ALU_ALGO.put 2 |||
      DPU_BS_CFG_BS_ALU_SRC.put 1 ||| DPU_BS_CFG_BS_RELU_BYPASS.put 1 |||
      DPU_BS_CFG_BS_MUL_BYPASS.put 1)),
    EMIT_RAW TARGET_DPU REG_DPU_BS_ALU_CFG (ofInt 0),
    EMIT_RAW TARGET_DPU REG_DPU_BS_MUL_CFG (ofInt 0),
    EMIT_RAW TARGET_DPU REG_DPU_BS_RELUX_CMP_VALUE (ofInt 0),
    EMIT_RAW TARGET_DPU REG_DPU_BS_OW_CFG (ofUInt32 (DPU_BS_OW_CFG_SIZE_E_2.put 1 |||
      DPU_BS_OW_CFG_SIZE_E_1.put 1 ||| DPU_BS_OW_CFG_SIZE_E_0.put 1)),
    EMIT_RAW TARGET_DPU REG_DPU_BS_OW_OP (ofInt 0),
    EMIT_RAW TARGET_DPU REG_DPU_WDMA_SIZE_0 (ofUInt32 (DPU_WDMA_SIZE_0_CHANNEL_WDMA.put (N - 1))),
    EMIT_RAW TARGET_DPU REG_DPU_WDMA_SIZE_1 (ofUInt32 (DPU_WDMA_SIZE_1_HEIGHT_WDMA.put (M - 1) |||
      DPU_WDMA_SIZE_1_WIDTH_WDMA.put 0)),
    EMIT_RAW TARGET_DPU REG_DPU_BN_CFG (ofUInt32 (DPU_BN_CFG_BN_BYPASS.put 1)),
    EMIT_RAW TARGET_DPU REG_DPU_BN_ALU_CFG (ofInt 0),
    EMIT_RAW TARGET_DPU REG_DPU_BN_MUL_CFG (ofInt 0),
    EMIT_RAW TARGET_DPU REG_DPU_BN_RELUX_CMP_VALUE (ofInt 0),
    EMIT_RAW TARGET_DPU consts.REG_DPU_BN_OW_CFG (ofInt 0),
    EMIT_RAW TARGET_DPU REG_DPU_EW_CFG (ofUInt32 (DPU_EW_CFG_EW_ALU_ALGO.put 2 |||
      consts.DPU_EW_CFG_EW_ALU_SRC.put 1 ||| DPU_EW_CFG_EW_RELU_BYPASS.put 1 |||
      consts.DPU_EW_CFG_EW_MUL_BYPASS.put 1 ||| DPU_EW_CFG_EW_BYPASS.put 1)),
    EMIT_RAW TARGET_DPU consts.REG_DPU_EW_ALU_CFG (ofInt 0),
    EMIT_RAW TARGET_DPU consts.REG_DPU_EW_ALU_CVT_OFFSET_VALUE (ofInt 0),
    EMIT_RAW TARGET_DPU consts.REG_DPU_EW_ALU_CVT_SCALE_VALUE (ofInt 0),
    EMIT_RAW TARGET_DPU consts.REG_DPU_EW_ALU_CVT_TRUNCATE_VALUE (ofInt 0),
    EMIT_RAW TARGET_DPU consts.REG_DPU_EW_MUL_CFG (ofInt 0),
    EMIT_RAW TARGET_DPU consts.REG_DPU_EW_MUL_CVT_OFFSET_VALUE (ofInt 0),
    EMIT_RAW TARGET_DPU consts.REG_DPU_EW_MUL_CVT_SCALE_VALUE (ofInt 0),
    EMIT_RAW TARGET_DPU consts.REG_DPU_EW_MUL_CVT_TRUNCATE_VALUE (ofInt 0),
    EMIT_RAW TARGET_DPU REG_DPU_EW_RELUX_CMP_VALUE (ofInt 0),
    EMIT_RAW TARGET_DPU consts.REG_DPU_EW_OW_CFG (ofInt 0),
    EMIT_RAW TARGET_DPU consts.REG_DPU_OUT_CVT_CFG
      (ofUInt32 (consts.DPU_OUT_CVT_CFG_OUT_CVT_BYPASS.put 1)),
    EMIT_RAW TARGET_DPU REG_DPU_OUT_CVT_OFFSET (ofInt 0),
    EMIT_RAW TARGET_DPU REG_DPU_OUT_CVT_SCALE (ofInt 0),
    EMIT_RAW TARGET_DPU REG_DPU_OUT_CVT_SHIFT (ofInt 0),
    EMIT_RAW TARGET_DPU REG_DPU_SURFACE_ADD (ofInt 0),
    EMIT_RAW TARGET_DPU REG_DPU_LUT_CFG (ofUInt32 (consts.DPU_LUT_CFG_LUT_LE_FUNCTION.put 1 |||
      DPU_LUT_CFG_LUT_UFLOW_PRIORITY.put 1)),
    EMIT_RAW TARGET_DPU REG_DPU_LUT_INFO (ofInt 0),
    EMIT_RAW TARGET_DPU consts.REG_DPU_LUT_LE_START_LOW (ofInt 0),
    EMIT_RAW TARGET_DPU consts.REG_DPU_LUT_LE_START_HIGH (ofInt 0),
    EMIT_RAW TARGET_DPU consts.REG_DPU_LUT_LE_END_LOW (ofInt 0),
    EMIT_RAW TARGET_DPU consts.REG_DPU_LUT_LE_END_HIGH (ofInt 0),
    EMIT_RAW TARGET_DPU consts.REG_DPU_LUT_LO_START_LOW (ofInt 0),
    EMIT_RAW TARGET_DPU consts.REG_DPU_LUT_LO_START_HIGH (ofInt 0),
    EMIT_RAW TARGET_DPU consts.REG_DPU_LUT_LO_END_LOW (ofInt 0),
    EMIT_RAW TARGET_DPU consts.REG_DPU_LUT_LO_END_HIGH (ofInt 0),
    EMIT_RAW TARGET_DPU REG_DPU_LUT_LE_SLOPE_SCALE (ofInt 0),
    EMIT_RAW TARGET_DPU REG_DPU_LUT_LE_SLOPE_SHIFT (ofInt 0),
    EMIT_RAW TARGET_DPU REG_DPU_LUT_LO_SLOPE_SCALE (ofInt 0),
    EMIT_RAW TARGET_DPU REG_DPU_LUT_LO_SLOPE_SHIFT (ofInt 0),
    EMIT_RAW TARGET_DPU consts.REG_DPU_RDMA_RDMA_CFG
      (ofUInt32 (consts.DPU_RDMA_RDMA_CFG_RDMA_DISABLE.put 0 |||
      consts.DPU_RDMA_RDMA_CFG_RDMA_DATA_MODE.put 1 |||
      consts.DPU_RDMA_RDMA_CFG_RDMA_DATA_SIZE.put 2 |||
      consts.DPU_RDMA_RDMA_CFG_RDMA_DATA_USE.put 1)),
    EMIT_RAW TARGET_DPU REG_DPU_RDMA_RDMA_DATA_CUBE_WIDTH (ofInt 0),
    EMIT_RAW TARGET_DPU REG_DPU_RDMA_RDMA_DATA_CUBE_HEIGHT (ofInt (M - 1)),
    EMIT_RAW TARGET_DPU REG_DPU_RDMA_RDMA_DATA_CUBE_CHANNEL (ofInt (N - 1)),
    EMIT_RAW TARGET_DPU consts.REG_DPU_RDMA_RDMA_BASE_ADDR
      (ofUInt32 (params.outputDma &&& 0xFFFFFFFF)),
    EMIT_RAW TARGET_DPU consts.REG_DPU_RDMA_RDMA_SURF_STRIDE (ofInt (M * N * 2)),
    EMIT_RAW TARGET_DPU REG_DPU_RDMA_RDMA_SURF_NOTCH (ofInt 0),
    EMIT_RAW TARGET_DPU REG_DPU_RDMA_RDMA_PAD_CFG (ofInt 0),
    EMIT_RAW TARGET_DPU REG_DPU_RDMA_RDMA_WEIGHT
      (ofUInt32 (DPU_RDMA_RDMA_WEIGHT_E_WEIGHT.put 1 ||| DPU_RDMA_RDMA_WEIGHT_N_WEIGHT.put 1 |||
      DPU_RDMA_RDMA_WEIGHT_B_WEIGHT.put 1 ||| DPU_RDMA_RDMA_WEIGHT_M_WEIGHT.put 1)),
    EMIT_RAW TARGET_DPU REG_DPU_RDMA_RDMA_EW_SURF_NOTCH (ofInt 0),
    EMIT_RAW TARGET_PC REG_PC_BASE_ADDRESS (ofInt 0),
    EMIT_RAW TARGET_PC REG_PC_REGISTER_AMOUNTS (ofInt 0),
    0x0041000000000000,
    EMIT_RAW 0x81 REG_PC_OPERATION_ENABLE (ofUInt32 (PC_OPERATION_ENABLE_RESERVED_0.put 14 |||
      PC_OPERATION_ENABLE_OP_EN.put 1)) ]

end Words

/-- `gen_matmul_fp16` of `npu_matmul_full.c`. -/
def genMatmulFp16 (consts : Undefined) (params : MatmulParams) : GenResult :=
  GenResult.emit (words consts params)

/-- The number of words depends on nothing. -/
theorem length_words (consts : Undefined) (params : MatmulParams) :
    (words consts params).length = 122 := rfl

end Librocket.Full
