import Librocket.Npu.Matmul

/-!
# Where the descriptor fields go

The encoder as a table. `DescField` names the descriptor fields that
`gen_matmul_task` reads, and `taskRows` gives, for each of its 108 words, the
register, the fields packed into it with the mask and shift of the source, and
the field of `mesa_registers.h` each of them is meant for. `taskOps_eq` is the
proof that the table is the function.

What the table is good for are its closed properties, which are decided once:
the fields of a row are disjoint and clear of its constant and its reserved
fields, and a mask is no wider than its field. The one exception is the high
half of `CNA_DATA_SIZE1`, where the source keeps sixteen bits of a field of
fourteen.
-/

namespace Librocket

open Hw Bitfield

/-! ## The fields that are read -/

/-- The fields of the three descriptors that `gen_matmul_task` reads: all but
`enable` and `dataout_height` of `npu_cna_desc`. -/
inductive DescField where
  | cnaConvMode | cnaInPrecision | cnaProcPrecision | cnaKernelGroups | cnaFeatureGrains
  | cnaConvYStride | cnaConvXStride | cnaDatainWidth | cnaDatainHeight | cnaDatainChannel
  | cnaDataoutWidth | cnaDataoutAtomics | cnaWeightBytes | cnaWeightBytesPerKernel
  | cnaWeightWidth | cnaWeightHeight | cnaWeightKernels | cnaWeightBank | cnaDataBank
  | cnaDataEntries | cnaDataSign | cnaCvtType | cnaCvtBypass | cnaCvtScale0 | cnaCvtScale1
  | cnaCvtScale2 | cnaCvtScale3 | cnaFcSkipEn | cnaDataOffset | cnaPadLeft | cnaPadTop
  | cnaFeatureBaseAddr | cnaWeightOffset | cnaWeightBurstLen | cnaDataBurstLen | cnaLineStride
  | cnaSurfStride | cnaDmaWidth | cnaDmaHeight | cnaDmaChannel | cnaDecompressAddr0
  | coreProcPrecision | coreQdEn | coreDataoutHeight | coreDataoutWidth | coreDataoutChannel
  | dpuBurstLen | dpuConvMode | dpuOutputMode | dpuFlyingMode | dpuOutPrecision | dpuInPrecision
  | dpuProcPrecision | dpuDstBaseAddr | dpuDstSurfStride | dpuWidth | dpuHeight | dpuChannel
  | dpuBsBypass | dpuBsAluBypass | dpuBsMulBypass | dpuBsReluBypass | dpuOdBypass | dpuSizeE2
  | dpuSizeE1 | dpuSizeE0 | dpuChannelWdma | dpuHeightWdma | dpuWidthWdma | dpuBnReluBypass
  | dpuBnMulBypass | dpuBnAluBypass | dpuBnBypass | dpuEwBypass | dpuEwOpBypass | dpuEwLutBypass
  | dpuEwOpCvtBypass | dpuEwReluBypass | dpuFp32tofp16En | dpuOutCvtScale | dpuSurfAdd
deriving DecidableEq

/-- The value of a field, promoted. -/
def DescField.read (d : DescField) (s : Stack) : U32 :=
  match d with
  | .cnaConvMode => promote s.cna.convMode
  | .cnaInPrecision => promote s.cna.inPrecision
  | .cnaProcPrecision => promote s.cna.procPrecision
  | .cnaKernelGroups => promote s.cna.kernelGroups
  | .cnaFeatureGrains => promote s.cna.featureGrains
  | .cnaConvYStride => promote s.cna.convYStride
  | .cnaConvXStride => promote s.cna.convXStride
  | .cnaDatainWidth => promote s.cna.datainWidth
  | .cnaDatainHeight => promote s.cna.datainHeight
  | .cnaDatainChannel => promote s.cna.datainChannel
  | .cnaDataoutWidth => promote s.cna.dataoutWidth
  | .cnaDataoutAtomics => s.cna.dataoutAtomics
  | .cnaWeightBytes => s.cna.weightBytes
  | .cnaWeightBytesPerKernel => s.cna.weightBytesPerKernel
  | .cnaWeightWidth => promote s.cna.weightWidth
  | .cnaWeightHeight => promote s.cna.weightHeight
  | .cnaWeightKernels => promote s.cna.weightKernels
  | .cnaWeightBank => promote s.cna.weightBank
  | .cnaDataBank => promote s.cna.dataBank
  | .cnaDataEntries => promote s.cna.dataEntries
  | .cnaDataSign => promote s.cna.dataSign
  | .cnaCvtType => promote s.cna.cvtType
  | .cnaCvtBypass => promote s.cna.cvtBypass
  | .cnaCvtScale0 => promote s.cna.cvtScale0
  | .cnaCvtScale1 => promote s.cna.cvtScale1
  | .cnaCvtScale2 => promote s.cna.cvtScale2
  | .cnaCvtScale3 => promote s.cna.cvtScale3
  | .cnaFcSkipEn => promote s.cna.fcSkipEn
  | .cnaDataOffset => promote s.cna.dataOffset
  | .cnaPadLeft => promote s.cna.padLeft
  | .cnaPadTop => promote s.cna.padTop
  | .cnaFeatureBaseAddr => s.cna.featureBaseAddr
  | .cnaWeightOffset => promote s.cna.weightOffset
  | .cnaWeightBurstLen => promote s.cna.weightBurstLen
  | .cnaDataBurstLen => promote s.cna.dataBurstLen
  | .cnaLineStride => s.cna.lineStride
  | .cnaSurfStride => s.cna.surfStride
  | .cnaDmaWidth => promote s.cna.dmaWidth
  | .cnaDmaHeight => promote s.cna.dmaHeight
  | .cnaDmaChannel => promote s.cna.dmaChannel
  | .cnaDecompressAddr0 => s.cna.decompressAddr0
  | .coreProcPrecision => promote s.core.procPrecision
  | .coreQdEn => promote s.core.qdEn
  | .coreDataoutHeight => promote s.core.dataoutHeight
  | .coreDataoutWidth => promote s.core.dataoutWidth
  | .coreDataoutChannel => promote s.core.dataoutChannel
  | .dpuBurstLen => promote s.dpu.burstLen
  | .dpuConvMode => promote s.dpu.convMode
  | .dpuOutputMode => promote s.dpu.outputMode
  | .dpuFlyingMode => promote s.dpu.flyingMode
  | .dpuOutPrecision => promote s.dpu.outPrecision
  | .dpuInPrecision => promote s.dpu.inPrecision
  | .dpuProcPrecision => promote s.dpu.procPrecision
  | .dpuDstBaseAddr => s.dpu.dstBaseAddr
  | .dpuDstSurfStride => s.dpu.dstSurfStride
  | .dpuWidth => promote s.dpu.width
  | .dpuHeight => promote s.dpu.height
  | .dpuChannel => promote s.dpu.channel
  | .dpuBsBypass => promote s.dpu.bsBypass
  | .dpuBsAluBypass => promote s.dpu.bsAluBypass
  | .dpuBsMulBypass => promote s.dpu.bsMulBypass
  | .dpuBsReluBypass => promote s.dpu.bsReluBypass
  | .dpuOdBypass => promote s.dpu.odBypass
  | .dpuSizeE2 => promote s.dpu.sizeE2
  | .dpuSizeE1 => promote s.dpu.sizeE1
  | .dpuSizeE0 => promote s.dpu.sizeE0
  | .dpuChannelWdma => promote s.dpu.channelWdma
  | .dpuHeightWdma => promote s.dpu.heightWdma
  | .dpuWidthWdma => promote s.dpu.widthWdma
  | .dpuBnReluBypass => promote s.dpu.bnReluBypass
  | .dpuBnMulBypass => promote s.dpu.bnMulBypass
  | .dpuBnAluBypass => promote s.dpu.bnAluBypass
  | .dpuBnBypass => promote s.dpu.bnBypass
  | .dpuEwBypass => promote s.dpu.ewBypass
  | .dpuEwOpBypass => promote s.dpu.ewOpBypass
  | .dpuEwLutBypass => promote s.dpu.ewLutBypass
  | .dpuEwOpCvtBypass => promote s.dpu.ewOpCvtBypass
  | .dpuEwReluBypass => promote s.dpu.ewReluBypass
  | .dpuFp32tofp16En => promote s.dpu.fp32tofp16En
  | .dpuOutCvtScale => promote s.dpu.outCvtScale
  | .dpuSurfAdd => s.dpu.surfAdd

/-! ## The rows -/

/-- A descriptor field in a word: `((src - less) & mask) << shift`, meant for
`field`. The encoder shifts by what the header says. -/
structure Piece where
  src : DescField
  less : U32
  mask : U32
  shift : ℕ
  field : Field 32
  aligned : shift = field.shift

/-- A field as it is. -/
def piece (src : DescField) (mask : U32) (shift : ℕ) (field : Field 32)
    (aligned : shift = field.shift := by rfl) : Piece :=
  ⟨src, 0, mask, shift, field, aligned⟩

/-- A size stored as one less. -/
def pieceLessOne (src : DescField) (mask : U32) (shift : ℕ) (field : Field 32)
    (aligned : shift = field.shift := by rfl) : Piece :=
  ⟨src, 1, mask, shift, field, aligned⟩

/-- What a piece holds before the shift. -/
def Piece.value (p : Piece) (s : Stack) : U32 := (p.src.read s - p.less) &&& p.mask

/-- One word: its place in the stream, unit and register, the bits that are
always set, the pieces, and the reserved fields of the register. -/
structure TaskRow where
  idx : ℕ
  op : U32
  reg : U32
  const : U32
  pieces : List Piece
  reserved : List (Field 32)

def TaskRow.value (r : TaskRow) (s : Stack) : U32 :=
  r.pieces.foldl (fun v p => v ||| p.value s <<< p.shift) r.const

def TaskRow.npuOp (r : TaskRow) (s : Stack) : NpuOp := ⟨r.idx, r.op, r.value s, r.reg⟩

/-- The register a row writes. -/
def TaskRow.key (r : TaskRow) : RegKey :=
  (r.op.setWidth 16 &&& ~~~(PC_OP_01.setWidth 16), r.reg.setWidth 16)

/-- The table. A field stored without a mask has all 32 bits in it. The last
four words are outside the three units and list no reserved fields; of
`CORE_3030` and `DPU_40C4` the header knows nothing. -/
def taskRows : List TaskRow :=
  [
    ⟨0, OP_REG_DPU, DPU_S_POINTER, 0xE, [],
      [Reg.DPU_S_POINTER_RESERVED_0, Reg.DPU_S_POINTER_RESERVED_1]⟩,
    ⟨1, OP_REG_CNA, CNA_CONV_CON1, 0,
      [piece .cnaProcPrecision 0x7 7 Reg.CNA_CONV_CON1_PROC_PRECISION,
       piece .cnaInPrecision 0x7 4 Reg.CNA_CONV_CON1_IN_PRECISION,
       piece .cnaConvMode 0xf 0 Reg.CNA_CONV_CON1_CONV_MODE],
      [Reg.CNA_CONV_CON1_RESERVED_0, Reg.CNA_CONV_CON1_RESERVED_1, Reg.CNA_CONV_CON1_RESERVED_2]⟩,
    ⟨2, OP_REG_CNA, CNA_CONV_CON2, 0,
      [piece .cnaKernelGroups 0xFF 16 Reg.CNA_CONV_CON2_KERNEL_GROUP,
       piece .cnaFeatureGrains 0x3FF 4 Reg.CNA_CONV_CON2_FEATURE_GRAINS],
      [Reg.CNA_CONV_CON2_RESERVED_0, Reg.CNA_CONV_CON2_RESERVED_1, Reg.CNA_CONV_CON2_RESERVED_2]⟩,
    ⟨3, OP_REG_CNA, CNA_CONV_CON3, 0,
      [piece .cnaConvYStride 0x7 3 Reg.CNA_CONV_CON3_CONV_Y_STRIDE,
       piece .cnaConvXStride 0x7 0 Reg.CNA_CONV_CON3_CONV_X_STRIDE],
      [Reg.CNA_CONV_CON3_RESERVED_0, Reg.CNA_CONV_CON3_RESERVED_1, Reg.CNA_CONV_CON3_RESERVED_2,
       Reg.CNA_CONV_CON3_RESERVED_3]⟩,
    ⟨4, OP_REG_CNA, CNA_DATA_SIZE0, 0,
      [piece .cnaDatainWidth 0x7FF 16 Reg.CNA_DATA_SIZE0_DATAIN_WIDTH,
       piece .cnaDatainHeight 0x7FF 0 Reg.CNA_DATA_SIZE0_DATAIN_HEIGHT],
      [Reg.CNA_DATA_SIZE0_RESERVED_0, Reg.CNA_DATA_SIZE0_RESERVED_1]⟩,
    ⟨5, OP_REG_CNA, CNA_DATA_SIZE1, 0,
      [pieceLessOne .cnaDatainChannel 0xFFFF 16 Reg.CNA_DATA_SIZE1_DATAIN_CHANNEL_REAL,
       piece .cnaDatainChannel 0xFFFF 0 Reg.CNA_DATA_SIZE1_DATAIN_CHANNEL],
      [Reg.CNA_DATA_SIZE1_RESERVED_0]⟩,
    ⟨6, OP_REG_CNA, CNA_DATA_SIZE2, 0,
      [piece .cnaDataoutWidth 0x7FF 0 Reg.CNA_DATA_SIZE2_DATAOUT_WIDTH],
      [Reg.CNA_DATA_SIZE2_RESERVED_0]⟩,
    ⟨7, OP_REG_CNA, CNA_DATA_SIZE3, 0,
      [piece .cnaDataoutAtomics 0x3FFFF 0 Reg.CNA_DATA_SIZE3_DATAOUT_ATOMICS],
      [Reg.CNA_DATA_SIZE3_RESERVED_0]⟩,
    ⟨8, OP_REG_CNA, CNA_WEIGHT_SIZE0, 0,
      [piece .cnaWeightBytes 0xFFFFFFFF 0 Reg.CNA_WEIGHT_SIZE0_WEIGHT_BYTES], []⟩,
    ⟨9, OP_REG_CNA, CNA_WEIGHT_SIZE1, 0,
      [piece .cnaWeightBytesPerKernel 0x7FFFF 0 Reg.CNA_WEIGHT_SIZE1_WEIGHT_BYTES_PER_KERNEL],
      [Reg.CNA_WEIGHT_SIZE1_RESERVED_0]⟩,
    ⟨10, OP_REG_CNA, CNA_WEIGHT_SIZE2, 0,
      [piece .cnaWeightWidth 0x1F 24 Reg.CNA_WEIGHT_SIZE2_WEIGHT_WIDTH,
       piece .cnaWeightHeight 0x1F 16 Reg.CNA_WEIGHT_SIZE2_WEIGHT_HEIGHT,
       piece .cnaWeightKernels 0x3FFF 0 Reg.CNA_WEIGHT_SIZE2_WEIGHT_KERNELS],
      [Reg.CNA_WEIGHT_SIZE2_RESERVED_0, Reg.CNA_WEIGHT_SIZE2_RESERVED_1,
       Reg.CNA_WEIGHT_SIZE2_RESERVED_2]⟩,
    ⟨11, OP_REG_CNA, CNA_CBUF_CON0, 0,
      [piece .cnaWeightBank 0xF 4 Reg.CNA_CBUF_CON0_WEIGHT_BANK,
       piece .cnaDataBank 0xF 0 Reg.CNA_CBUF_CON0_DATA_BANK],
      [Reg.CNA_CBUF_CON0_RESERVED_0, Reg.CNA_CBUF_CON0_RESERVED_1]⟩,
    ⟨12, OP_REG_CNA, CNA_CBUF_CON1, 0,
      [piece .cnaDataEntries 0x1FFF 0 Reg.CNA_CBUF_CON1_DATA_ENTRIES],
      [Reg.CNA_CBUF_CON1_RESERVED_0]⟩,
    ⟨13, OP_REG_CNA, CNA_CVT_CON0, 0,
      [piece .cnaDataSign 0x1 3 Reg.CNA_CVT_CON0_DATA_SIGN,
       piece .cnaCvtType 0x1 1 Reg.CNA_CVT_CON0_CVT_TYPE,
       piece .cnaCvtBypass 0x1 0 Reg.CNA_CVT_CON0_CVT_BYPASS],
      [Reg.CNA_CVT_CON0_RESERVED_0]⟩,
    ⟨14, OP_REG_CNA, CNA_CVT_CON1, 0,
      [piece .cnaCvtScale0 0xFFFF 16 Reg.CNA_CVT_CON1_CVT_SCALE0], []⟩,
    ⟨15, OP_REG_CNA, CNA_CVT_CON2, 0,
      [piece .cnaCvtScale1 0xFFFF 16 Reg.CNA_CVT_CON2_CVT_SCALE1], []⟩,
    ⟨16, OP_REG_CNA, CNA_CVT_CON3, 0,
      [piece .cnaCvtScale2 0xFFFF 16 Reg.CNA_CVT_CON3_CVT_SCALE2], []⟩,
    ⟨17, OP_REG_CNA, CNA_CVT_CON4, 0,
      [piece .cnaCvtScale3 0xFFFF 16 Reg.CNA_CVT_CON4_CVT_SCALE3], []⟩,
    ⟨18, OP_REG_CNA, CNA_FC_CON0, 0,
      [piece .cnaFcSkipEn 0x1 0 Reg.CNA_FC_CON0_FC_SKIP_EN],
      [Reg.CNA_FC_CON0_RESERVED_0]⟩,
    ⟨19, OP_REG_CNA, CNA_FC_CON1, 0,
      [piece .cnaDataOffset 0x1FFFF 0 Reg.CNA_FC_CON1_DATA_OFFSET],
      [Reg.CNA_FC_CON1_RESERVED_0]⟩,
    ⟨20, OP_REG_CNA, CNA_PAD_CON0, 0,
      [piece .cnaPadLeft 0xF 4 Reg.CNA_PAD_CON0_PAD_LEFT,
       piece .cnaPadTop 0xF 0 Reg.CNA_PAD_CON0_PAD_TOP],
      [Reg.CNA_PAD_CON0_RESERVED_0]⟩,
    ⟨21, OP_REG_CNA, CNA_FEATURE_DATA_ADDR, 0,
      [piece .cnaFeatureBaseAddr 0xFFFFFFFF 0 Reg.CNA_FEATURE_DATA_ADDR_FEATURE_BASE_ADDR], []⟩,
    ⟨22, OP_REG_CNA, CNA_FC_CON2, 0,
      [piece .cnaWeightOffset 0x1FFFF 0 Reg.CNA_FC_CON2_WEIGHT_OFFSET],
      [Reg.CNA_FC_CON2_RESERVED_0]⟩,
    ⟨23, OP_REG_CNA, CNA_DMA_CON0, 0,
      [piece .cnaWeightBurstLen 0xF 16 Reg.CNA_DMA_CON0_WEIGHT_BURST_LEN,
       piece .cnaDataBurstLen 0xF 0 Reg.CNA_DMA_CON0_DATA_BURST_LEN],
      [Reg.CNA_DMA_CON0_RESERVED_0, Reg.CNA_DMA_CON0_RESERVED_1]⟩,
    ⟨24, OP_REG_CNA, CNA_DMA_CON1, 0,
      [piece .cnaLineStride 0xFFFFFFF 0 Reg.CNA_DMA_CON1_LINE_STRIDE],
      [Reg.CNA_DMA_CON1_RESERVED_0]⟩,
    ⟨25, OP_REG_CNA, CNA_DMA_CON2, 0,
      [piece .cnaSurfStride 0xFFFFFFF 0 Reg.CNA_DMA_CON2_SURF_STRIDE],
      [Reg.CNA_DMA_CON2_RESERVED_0]⟩,
    ⟨26, OP_REG_CNA, CNA_FC_DATA_SIZE0, 0,
      [piece .cnaDmaWidth 0x7FF 16 Reg.CNA_FC_DATA_SIZE0_DMA_WIDTH,
       piece .cnaDmaHeight 0x7FF 0 Reg.CNA_FC_DATA_SIZE0_DMA_HEIGHT],
      [Reg.CNA_FC_DATA_SIZE0_RESERVED_0, Reg.CNA_FC_DATA_SIZE0_RESERVED_1]⟩,
    ⟨27, OP_REG_CNA, CNA_FC_DATA_SIZE1, 0,
      [piece .cnaDmaChannel 0xFFFF 0 Reg.CNA_FC_DATA_SIZE1_DMA_CHANNEL],
      [Reg.CNA_FC_DATA_SIZE1_RESERVED_0]⟩,
    ⟨28, OP_REG_CNA, CNA_DCOMP_CTRL, 0, [], [Reg.CNA_DCOMP_CTRL_RESERVED_0]⟩,
    ⟨29, OP_REG_CNA, CNA_DCOMP_REGNUM, 0, [], []⟩,
    ⟨30, OP_REG_CNA, CNA_DCOMP_ADDR0, 0,
      [piece .cnaDecompressAddr0 0xFFFFFFFF 0 Reg.CNA_DCOMP_ADDR0_DECOMPRESS_ADDR0], []⟩,
    ⟨31, OP_REG_CNA, CNA_DCOMP_AMOUNT, 0, [], []⟩,
    ⟨32, OP_REG_CNA, CNA_DCOMP_AMOUNT1, 0, [], []⟩,
    ⟨33, OP_REG_CNA, CNA_DCOMP_AMOUNT2, 0, [], []⟩,
    ⟨34, OP_REG_CNA, CNA_DCOMP_AMOUNT3, 0, [], []⟩,
    ⟨35, OP_REG_CNA, CNA_DCOMP_AMOUNT4, 0, [], []⟩,
    ⟨36, OP_REG_CNA, CNA_DCOMP_AMOUNT5, 0, [], []⟩,
    ⟨37, OP_REG_CNA, CNA_DCOMP_AMOUNT6, 0, [], []⟩,
    ⟨38, OP_REG_CNA, CNA_DCOMP_AMOUNT7, 0, [], []⟩,
    ⟨39, OP_REG_CNA, CNA_DCOMP_AMOUNT8, 0, [], []⟩,
    ⟨40, OP_REG_CNA, CNA_DCOMP_AMOUNT9, 0, [], []⟩,
    ⟨41, OP_REG_CNA, CNA_DCOMP_AMOUNT10, 0, [], []⟩,
    ⟨42, OP_REG_CNA, CNA_DCOMP_AMOUNT11, 0, [], []⟩,
    ⟨43, OP_REG_CNA, CNA_DCOMP_AMOUNT12, 0, [], []⟩,
    ⟨44, OP_REG_CNA, CNA_DCOMP_AMOUNT13, 0, [], []⟩,
    ⟨45, OP_REG_CNA, CNA_DCOMP_AMOUNT14, 0, [], []⟩,
    ⟨46, OP_REG_CNA, CNA_DCOMP_AMOUNT15, 0, [], []⟩,
    ⟨47, OP_REG_CNA, CNA_CVT_CON5, 0, [], []⟩,
    ⟨48, OP_REG_CNA, CNA_PAD_CON1, 0, [], []⟩,
    ⟨49, OP_REG_CORE, CORE_MISC_CFG, 0,
      [piece .coreProcPrecision 0x7 8 Reg.CORE_MISC_CFG_PROC_PRECISION,
       piece .coreQdEn 0x1 0 Reg.CORE_MISC_CFG_QD_EN],
      [Reg.CORE_MISC_CFG_RESERVED_0, Reg.CORE_MISC_CFG_RESERVED_1, Reg.CORE_MISC_CFG_RESERVED_2]⟩,
    ⟨50, OP_REG_CORE, CORE_DATAOUT_SIZE_0, 0,
      [piece .coreDataoutHeight 0xFFFF 16 Reg.CORE_DATAOUT_SIZE_0_DATAOUT_HEIGHT,
       piece .coreDataoutWidth 0xFFFF 0 Reg.CORE_DATAOUT_SIZE_0_DATAOUT_WIDTH], []⟩,
    ⟨51, OP_REG_CORE, CORE_DATAOUT_SIZE_1, 0,
      [piece .coreDataoutChannel 0xFFFF 0 Reg.CORE_DATAOUT_SIZE_1_DATAOUT_CHANNEL],
      [Reg.CORE_DATAOUT_SIZE_1_RESERVED_0]⟩,
    ⟨52, OP_REG_CORE, CORE_CLIP_TRUNCATE, 0, [],
      [Reg.CORE_CLIP_TRUNCATE_RESERVED_0, Reg.CORE_CLIP_TRUNCATE_RESERVED_1]⟩,
    ⟨53, OP_REG_CORE, CORE_3030, 0, [], []⟩,
    ⟨54, OP_REG_DPU, DPU_FEATURE_MODE_CFG, 0,
      [piece .dpuBurstLen 0xF 5 Reg.DPU_FEATURE_MODE_CFG_BURST_LEN,
       piece .dpuConvMode 0x3 3 Reg.DPU_FEATURE_MODE_CFG_CONV_MODE,
       piece .dpuOutputMode 0x3 1 Reg.DPU_FEATURE_MODE_CFG_OUTPUT_MODE,
       piece .dpuFlyingMode 0x1 0 Reg.DPU_FEATURE_MODE_CFG_FLYING_MODE], []⟩,
    ⟨55, OP_REG_DPU, DPU_DATA_FORMAT, 0,
      [piece .dpuOutPrecision 0x7 29 Reg.DPU_DATA_FORMAT_OUT_PRECISION,
       piece .dpuInPrecision 0x7 26 Reg.DPU_DATA_FORMAT_IN_PRECISION,
       piece .dpuProcPrecision 0x7 0 Reg.DPU_DATA_FORMAT_PROC_PRECISION], []⟩,
    ⟨56, OP_REG_DPU, DPU_OFFSET_PEND, 0, [], [Reg.DPU_OFFSET_PEND_RESERVED_0]⟩,
    ⟨57, OP_REG_DPU, DPU_DST_BASE_ADD, 0,
      [piece .dpuDstBaseAddr 0xFFFFFFFF 0 Reg.DPU_DST_BASE_ADDR_DST_BASE_ADDR], []⟩,
    ⟨58, OP_REG_DPU, DPU_DST_SURF_STRIDE, 0,
      [piece .dpuDstSurfStride 0xFFFFFFF 4 Reg.DPU_DST_SURF_STRIDE_DST_SURF_STRIDE],
      [Reg.DPU_DST_SURF_STRIDE_RESERVED_0]⟩,
    ⟨59, OP_REG_DPU, DPU_DATA_CUBE_WIDTH, 0,
      [piece .dpuWidth 0x1FFF 0 Reg.DPU_DATA_CUBE_WIDTH_WIDTH],
      [Reg.DPU_DATA_CUBE_WIDTH_RESERVED_0]⟩,
    ⟨60, OP_REG_DPU, DPU_DATA_CUBE_HEIGHT, 0,
      [piece .dpuHeight 0x1FFF 0 Reg.DPU_DATA_CUBE_HEIGHT_HEIGHT],
      [Reg.DPU_DATA_CUBE_HEIGHT_RESERVED_0, Reg.DPU_DATA_CUBE_HEIGHT_RESERVED_1]⟩,
    ⟨61, OP_REG_DPU, DPU_DATA_CUBE_NOTCH_ADDR, 0, [],
      [Reg.DPU_DATA_CUBE_NOTCH_ADDR_RESERVED_0, Reg.DPU_DATA_CUBE_NOTCH_ADDR_RESERVED_1]⟩,
    ⟨62, OP_REG_DPU, DPU_DATA_CUBE_CHANNEL, 0,
      [piece .dpuChannel 0x1FFF 16 Reg.DPU_DATA_CUBE_CHANNEL_ORIG_CHANNEL,
       piece .dpuChannel 0x1FFF 0 Reg.DPU_DATA_CUBE_CHANNEL_CHANNEL],
      [Reg.DPU_DATA_CUBE_CHANNEL_RESERVED_0, Reg.DPU_DATA_CUBE_CHANNEL_RESERVED_1]⟩,
    ⟨63, OP_REG_DPU, DPU_BS_CFG, 0,
      [piece .dpuBsReluBypass 0x1 6 Reg.DPU_BS_CFG_BS_RELU_BYPASS,
       piece .dpuBsMulBypass 0x1 4 Reg.DPU_BS_CFG_BS_MUL_BYPASS,
       piece .dpuBsAluBypass 0x1 1 Reg.DPU_BS_CFG_BS_ALU_BYPASS,
       piece .dpuBsBypass 0x1 0 Reg.DPU_BS_CFG_BS_BYPASS],
      [Reg.DPU_BS_CFG_RESERVED_0, Reg.DPU_BS_CFG_RESERVED_1, Reg.DPU_BS_CFG_RESERVED_2]⟩,
    ⟨64, OP_REG_DPU, DPU_BS_ALU_CFG, 0, [], []⟩,
    ⟨65, OP_REG_DPU, DPU_BS_MUL_CFG, 0, [],
      [Reg.DPU_BS_MUL_CFG_RESERVED_0, Reg.DPU_BS_MUL_CFG_RESERVED_1]⟩,
    ⟨66, OP_REG_DPU, DPU_BS_RELUX_CMP_VALUE, 0, [], []⟩,
    ⟨67, OP_REG_DPU, DPU_BS_OW_CFG, 0,
      [piece .dpuSizeE2 0x7 8 Reg.DPU_BS_OW_CFG_SIZE_E_2,
       piece .dpuSizeE1 0x7 5 Reg.DPU_BS_OW_CFG_SIZE_E_1,
       piece .dpuSizeE0 0x7 2 Reg.DPU_BS_OW_CFG_SIZE_E_0,
       piece .dpuOdBypass 0x1 1 Reg.DPU_BS_OW_CFG_OD_BYPASS],
      [Reg.DPU_BS_OW_CFG_RESERVED_0]⟩,
    ⟨68, OP_REG_DPU, DPU_BS_OW_OP, 0, [], [Reg.DPU_BS_OW_OP_RESERVED_0]⟩,
    ⟨69, OP_REG_DPU, DPU_WDMA_SIZE_0, 0,
      [piece .dpuChannelWdma 0x1FFF 0 Reg.DPU_WDMA_SIZE_0_CHANNEL_WDMA],
      [Reg.DPU_WDMA_SIZE_0_RESERVED_0, Reg.DPU_WDMA_SIZE_0_RESERVED_1]⟩,
    ⟨70, OP_REG_DPU, DPU_WDMA_SIZE_1, 0,
      [piece .dpuHeightWdma 0x1FFF 16 Reg.DPU_WDMA_SIZE_1_HEIGHT_WDMA,
       piece .dpuWidthWdma 0x1FFF 0 Reg.DPU_WDMA_SIZE_1_WIDTH_WDMA],
      [Reg.DPU_WDMA_SIZE_1_RESERVED_0, Reg.DPU_WDMA_SIZE_1_RESERVED_1]⟩,
    ⟨71, OP_REG_DPU, DPU_BN_CFG, 0,
      [piece .dpuBnReluBypass 0x1 6 Reg.DPU_BN_CFG_BN_RELU_BYPASS,
       piece .dpuBnMulBypass 0x1 4 Reg.DPU_BN_CFG_BN_MUL_BYPASS,
       piece .dpuBnAluBypass 0x1 1 Reg.DPU_BN_CFG_BN_ALU_BYPASS,
       piece .dpuBnBypass 0x1 0 Reg.DPU_BN_CFG_BN_BYPASS],
      [Reg.DPU_BN_CFG_RESERVED_0, Reg.DPU_BN_CFG_RESERVED_1, Reg.DPU_BN_CFG_RESERVED_2]⟩,
    ⟨72, OP_REG_DPU, DPU_BN_ALU_CFG, 0, [], []⟩,
    ⟨73, OP_REG_DPU, DPU_BN_MUL_CFG, 0, [],
      [Reg.DPU_BN_MUL_CFG_RESERVED_0, Reg.DPU_BN_MUL_CFG_RESERVED_1]⟩,
    ⟨74, OP_REG_DPU, DPU_BN_RELUX_CMP_VALUE, 0, [], []⟩,
    ⟨75, OP_REG_DPU, DPU_EW_CFG, 0,
      [piece .dpuEwReluBypass 0x1 9 Reg.DPU_EW_CFG_EW_RELU_BYPASS,
       piece .dpuEwOpCvtBypass 0x1 8 Reg.DPU_EW_CFG_EW_OP_CVT_BYPASS,
       piece .dpuEwLutBypass 0x1 7 Reg.DPU_EW_CFG_EW_LUT_BYPASS,
       piece .dpuEwOpBypass 0x1 1 Reg.DPU_EW_CFG_EW_OP_BYPASS,
       piece .dpuEwBypass 0x1 0 Reg.DPU_EW_CFG_EW_BYPASS],
      [Reg.DPU_EW_CFG_RESERVED_0, Reg.DPU_EW_CFG_RESERVED_1, Reg.DPU_EW_CFG_RESERVED_2]⟩,
    ⟨76, OP_REG_DPU, DPU_EW_CVT_OFFSET_VALUE, 0, [], []⟩,
    ⟨77, OP_REG_DPU, DPU_EW_CVT_SCALE_VALUE, 0x1, [], []⟩,
    ⟨78, OP_REG_DPU, DPU_EW_RELUX_CMP_VALUE, 0, [], []⟩,
    ⟨79, OP_REG_DPU, DPU_OUT_CVT_OFFSET, 0, [], []⟩,
    ⟨80, OP_REG_DPU, DPU_OUT_CVT_SCALE, 0,
      [piece .dpuFp32tofp16En 0x1 16 Reg.DPU_OUT_CVT_SCALE_FP32TOFP16_EN,
       piece .dpuOutCvtScale 0xFFFF 0 Reg.DPU_OUT_CVT_SCALE_OUT_CVT_SCALE],
      [Reg.DPU_OUT_CVT_SCALE_RESERVED_0]⟩,
    ⟨81, OP_REG_DPU, DPU_OUT_CVT_SHIFT, 0, [], [Reg.DPU_OUT_CVT_SHIFT_RESERVED_0]⟩,
    ⟨82, OP_REG_DPU, DPU_EW_OP_VALUE_0, 0, [], []⟩,
    ⟨83, OP_REG_DPU, DPU_EW_OP_VALUE_1, 0, [], []⟩,
    ⟨84, OP_REG_DPU, DPU_EW_OP_VALUE_2, 0, [], []⟩,
    ⟨85, OP_REG_DPU, DPU_EW_OP_VALUE_3, 0, [], []⟩,
    ⟨86, OP_REG_DPU, DPU_EW_OP_VALUE_4, 0, [], []⟩,
    ⟨87, OP_REG_DPU, DPU_EW_OP_VALUE_5, 0, [], []⟩,
    ⟨88, OP_REG_DPU, DPU_EW_OP_VALUE_6, 0, [], []⟩,
    ⟨89, OP_REG_DPU, DPU_EW_OP_VALUE_7, 0, [], []⟩,
    ⟨90, OP_REG_DPU, DPU_SURFACE_ADD, 0,
      [piece .dpuSurfAdd 0xFFFFFFF 4 Reg.DPU_SURFACE_ADD_SURF_ADD],
      [Reg.DPU_SURFACE_ADD_RESERVED_0]⟩,
    ⟨91, OP_REG_DPU, DPU_40C4, 0, [], []⟩,
    ⟨92, OP_REG_DPU, DPU_LUT_ACCESS_CFG, 0, [],
      [Reg.DPU_LUT_ACCESS_CFG_RESERVED_0, Reg.DPU_LUT_ACCESS_CFG_RESERVED_1]⟩,
    ⟨93, OP_REG_DPU, DPU_LUT_ACCESS_DATA, 0, [], [Reg.DPU_LUT_ACCESS_DATA_RESERVED_0]⟩,
    ⟨94, OP_REG_DPU, DPU_LUT_CFG, 0, [], [Reg.DPU_LUT_CFG_RESERVED_0]⟩,
    ⟨95, OP_REG_DPU, DPU_LUT_INFO, 0, [],
      [Reg.DPU_LUT_INFO_RESERVED_0, Reg.DPU_LUT_INFO_RESERVED_1]⟩,
    ⟨96, OP_REG_DPU, DPU_LUT_LE_START, 0, [], []⟩,
    ⟨97, OP_REG_DPU, DPU_LUT_LE_END, 0, [], []⟩,
    ⟨98, OP_REG_DPU, DPU_LUT_LO_START, 0, [], []⟩,
    ⟨99, OP_REG_DPU, DPU_LUT_LO_END, 0, [], []⟩,
    ⟨100, OP_REG_DPU, DPU_LUT_LE_SLOPE_SCALE, 0, [], []⟩,
    ⟨101, OP_REG_DPU, DPU_LUT_LE_SLOPE_SHIFT, 0, [], [Reg.DPU_LUT_LE_SLOPE_SHIFT_RESERVED_0]⟩,
    ⟨102, OP_REG_DPU, DPU_LUT_LO_SLOPE_SCALE, 0, [], []⟩,
    ⟨103, OP_REG_DPU, DPU_LUT_LO_SLOPE_SHIFT, 0, [], [Reg.DPU_LUT_LO_SLOPE_SHIFT_RESERVED_0]⟩,
    ⟨104, OP_NONE, 0x0, 0, [], []⟩,
    ⟨105, OP_REG_PC, PC_REGISTER_AMOUNTS, 0, [], []⟩,
    ⟨106, OP_40, 0x0, 0, [], []⟩,
    ⟨107, OP_ENABLE, PC_OPERATION_ENABLE, PC_ENABLE_DPU ||| PC_ENABLE_CNA ||| PC_ENABLE, [], []⟩
  ]

/-! ## The table is the encoder -/

private theorem and_word (x : U32) : x &&& 0xFFFFFFFF#32 = x := BitVec.and_allOnes

/-- **The table computes `gen_matmul_task`.** -/
theorem taskOps_eq (s : Stack) :
    taskOps s.cna s.core s.dpu = taskRows.map fun r => r.npuOp s := by
  simp only [taskRows, List.map_cons, List.map_nil, TaskRow.npuOp, TaskRow.value,
    List.foldl_cons, List.foldl_nil, piece, pieceLessOne, Piece.value, DescField.read,
    BitVec.ofNat_eq_ofNat, BitVec.sub_zero, BitVec.zero_or, BitVec.shiftLeft_zero, and_word]
  simp only [taskOps, BitVec.ofNat_eq_ofNat, BitVec.or_zero]

/-! ## What the table is good for -/

/-- The fields of a row are disjoint, and its constant and the reserved fields
keep clear of them and of each other. -/
def TaskRow.Separate (r : TaskRow) : Prop :=
  (r.pieces.Pairwise fun p q => p.field.mask &&& q.field.mask = 0) ∧
  (∀ p ∈ r.pieces, r.const &&& p.field.mask = 0) ∧
  ∀ f ∈ r.reserved, r.const &&& f.mask = 0 ∧ ∀ p ∈ r.pieces, p.field.mask &&& f.mask = 0

instance (r : TaskRow) : Decidable r.Separate := by
  unfold TaskRow.Separate; infer_instance

/-- The mask of a piece is no wider than its field, or the piece is the high
half of `CNA_DATA_SIZE1`. -/
def Piece.Narrow (p : Piece) : Prop :=
  (p.less = 0 ∧ p.mask.toNat < 2 ^ p.field.width) ∨
  (p.less = 1 ∧ p.src = .cnaDatainChannel ∧ p.mask = 0xFFFF ∧ p.field.width = 14)

instance (p : Piece) : Decidable p.Narrow := by
  unfold Piece.Narrow; infer_instance

theorem taskRows_separate {r : TaskRow} (hr : r ∈ taskRows) : r.Separate := by
  have hall : (taskRows.all fun r => decide r.Separate) = true := by decide +kernel
  exact of_decide_eq_true (List.all_eq_true.mp hall r hr)

theorem taskRows_narrow {r : TaskRow} (hr : r ∈ taskRows) {p : Piece} (hp : p ∈ r.pieces) :
    p.Narrow := by
  have hall : (taskRows.all fun r => r.pieces.all fun p => decide p.Narrow) = true := by
    decide +kernel
  exact of_decide_eq_true (List.all_eq_true.mp (List.all_eq_true.mp hall r hr) p hp)

/-- Every field that is read has a place where it is stored as it is. -/
theorem exists_piece (d : DescField) : ∃ r ∈ taskRows, ∃ p ∈ r.pieces, p.src = d ∧ p.less = 0 := by
  have hany : (taskRows.any fun r => r.pieces.any fun p => p.src = d ∧ p.less = 0) = true := by
    cases d <;> rfl
  obtain ⟨r, hr, hpieces⟩ := List.any_eq_true.mp hany
  obtain ⟨p, hp, hplace⟩ := List.any_eq_true.mp hpieces
  exact ⟨r, hr, p, hp, of_decide_eq_true hplace⟩

end Librocket
