import Librocket.Npu.Task

/-!
# The reference generators

`gen_matmul_fp16` and `gen_matmul_int8` of `npu_matmul.c`. The two are one
function written twice; `genMatmul` is that function, `MatmulKind` collects the
places where the copies differ, and each source function is `genMatmul` at its
own values.

The three descriptors live on the stack and are never zeroed, so a run takes
their contents as an argument (`Stack`) and assigns field by field on top of
it. Arithmetic is done in the width C gives it: fields are promoted to `int`,
`sizeof` makes a product 64 bits wide, and an assignment cuts it to the field.
-/

namespace Librocket

open Hw

/-- `matmul_params_t`, without the `tasks` pointer: the memory it points to is
the argument of `GenResult.tasks`. -/
structure MatmulParams where
  m : U16
  k : U16
  n : U16
  inputDma : U32
  weightsDma : U32
  outputDma : U32
  fp32tofp16 : U8
deriving Inhabited

/-- The three descriptors as the stack holds them before the first
assignment. -/
structure Stack where
  cna : NpuCnaDesc
  core : NpuCoreDesc
  dpu : NpuDpuDesc
deriving Inhabited

/-- Where `gen_matmul_fp16` and `gen_matmul_int8` differ. The last four entries
are functions of `params->fp32tofp16`, which only the fp16 generator reads. An
element is small enough that the bytes of one kernel fit 32 bits. -/
structure MatmulKind where
  precision : U8
  elemSize : U64
  elemSize_lt : elemSize.toNat < 2 ^ 16 := by decide
  entryElems : CInt
  qdEn : U8
  outPrecision : U8 → U8
  fp32tofp16En : U8 → U8
  sizeE : U8 → U8
  surfScale : U8 → U32

/-- `cna_desc` up to `weight_bytes`. -/
def cnaSizes (e : MatmulKind) (cna : NpuCnaDesc) (params : MatmulParams) : NpuCnaDesc :=
  let cna := { cna with
    convMode := direct_convolution
    inPrecision := e.precision
    procPrecision := e.precision
    kernelGroups := 0
    featureGrains := params.m + 1
    convXStride := 1
    convYStride := 1
    datainWidth := 1
    datainHeight := params.m
    datainChannel := params.k
    dataoutWidth := 1
    dataoutHeight := params.m }
  let cna := { cna with
    dataoutAtomics := promote cna.dataoutWidth * promote cna.dataoutHeight
    weightWidth := 1
    weightHeight := 1
    weightKernels := params.n }
  -- `int` product, widened by `sizeof`, cut to the `uint32_t` field
  let cna := { cna with
    weightBytesPerKernel :=
      ((promote cna.weightWidth * promote cna.weightHeight *
        promote cna.datainChannel : CInt).signExtend 64 * e.elemSize).setWidth 32 }
  { cna with weightBytes := cna.weightBytesPerKernel * promote cna.weightKernels }

/-- `fd_bytes`. -/
def fdBytes (e : MatmulKind) (cna : NpuCnaDesc) : U32 :=
  ((promote cna.datainWidth * promote cna.datainHeight *
    promote cna.datainChannel : CInt).signExtend 64 * e.elemSize).setWidth 32

/-- Bytes rounded up to CBUF banks, as `fd_banks` and `weight_banks` are. -/
def cbufBanks (bytes : U32) : U32 :=
  let banks := bytes / NPU_CBUF_BANK_SIZE
  if bytes % NPU_CBUF_BANK_SIZE = 0 then banks else banks + 1

/-- The rest of `cna_desc`, from `weight_bank` on. -/
def cnaBuffers (e : MatmulKind) (cna : NpuCnaDesc) (params : MatmulParams)
    (weightBanks fdBanks : U32) : NpuCnaDesc :=
  let cna := { cna with
    weightBank := weightBanks.setWidth 8
    dataBank := fdBanks.setWidth 8
    dataEntries :=
      ((promote cna.datainWidth * promote cna.datainChannel : CInt).sdiv e.entryElems).setWidth 16 }
  let cna := { cna with
    dataEntries :=
      if (promote cna.datainWidth * promote cna.datainChannel : CInt).srem e.entryElems = 0
      then cna.dataEntries else cna.dataEntries + 1
    dataSign := 0x1
    cvtType := 0x1
    cvtBypass := 0x1
    cvtScale0 := 0x1
    cvtScale1 := 0x1
    cvtScale2 := 0x1
    cvtScale3 := 0x1
    fcSkipEn := 0
    dataOffset := 0x0
    padLeft := 0
    padTop := 0
    featureBaseAddr := params.inputDma
    weightOffset := 0
    weightBurstLen := 0xf
    dataBurstLen := 0xf
    lineStride := promote cna.datainWidth * 4 }
  -- `uint32_t` times `int`, read back as `int`
  let surfStride : CInt := cna.lineStride * ((promote cna.datainHeight).sdiv 4 - 1)
  let surfStride := if surfStride.slt 0 then surfStride + 1 else surfStride
  { cna with
    surfStride := surfStride
    dmaWidth := cna.datainWidth
    dmaHeight := cna.datainHeight
    dmaChannel := cna.datainChannel
    decompressAddr0 := params.weightsDma }

/-- `core_desc`. -/
def coreOf (e : MatmulKind) (core : NpuCoreDesc) (cna : NpuCnaDesc) : NpuCoreDesc :=
  { core with
    procPrecision := e.precision
    qdEn := e.qdEn
    dataoutHeight := cna.dataoutHeight - 1
    dataoutWidth := cna.dataoutWidth - 1
    dataoutChannel := cna.weightKernels - 1 }

/-- `dpu_desc`. -/
def dpuOf (e : MatmulKind) (dpu : NpuDpuDesc) (cna : NpuCnaDesc) (core : NpuCoreDesc)
    (params : MatmulParams) : NpuDpuDesc :=
  let dpu := { dpu with
    burstLen := 0xf
    convMode := direct_convolution
    outputMode := 0x2
    flyingMode := 0x0
    outPrecision := e.outPrecision params.fp32tofp16
    inPrecision := e.precision
    procPrecision := e.precision
    dstBaseAddr := params.outputDma
    dstSurfStride := promote cna.dataoutHeight * promote cna.dataoutWidth
    width := core.dataoutWidth
    height := core.dataoutHeight
    channel := core.dataoutChannel
    bsBypass := 1
    bsAluBypass := 1
    bsMulBypass := 1
    bsReluBypass := 1
    bnBypass := 1
    bnAluBypass := 1
    bnMulBypass := 1
    bnReluBypass := 1
    ewBypass := 1
    ewOpBypass := 1
    ewLutBypass := 1
    ewOpCvtBypass := 1
    ewReluBypass := 1
    fp32tofp16En := e.fp32tofp16En params.fp32tofp16
    outCvtScale := 1
    sizeE2 := e.sizeE params.fp32tofp16
    sizeE1 := e.sizeE params.fp32tofp16
    sizeE0 := e.sizeE params.fp32tofp16
    odBypass := 1
    widthWdma := core.dataoutWidth
    heightWdma := core.dataoutHeight
    channelWdma := core.dataoutChannel }
  { dpu with surfAdd := dpu.dstSurfStride * e.surfScale params.fp32tofp16 }

/-- The common body of the two generators. -/
def genMatmul (e : MatmulKind) (stack : Stack) (params : MatmulParams) : GenResult :=
  let cna := cnaSizes e stack.cna params
  let fdBanks := cbufBanks (fdBytes e cna)
  -- the bank need of the weights is computed here and read nowhere
  let _weightBanks := cbufBanks cna.weightBytes
  if fdBanks > NPU_CBUF_BANKS - 1 then GenResult.refuse (-1)
  else if cna.weightBytesPerKernel ≤ NPU_CBUF_BANK_SIZE then
    let weightBanks := NPU_CBUF_BANKS - fdBanks
    let cna := cnaBuffers e cna params weightBanks fdBanks
    let core := coreOf e stack.core cna
    let dpu := dpuOf e stack.dpu cna core params
    { ret := 0, stores := genMatmulTask cna core dpu }
  else GenResult.refuse (-2)

/-- The values of `gen_matmul_fp16`. -/
def fp16Kind : MatmulKind where
  precision := precision_float16
  elemSize := 2
  entryElems := 32
  qdEn := 1
  outPrecision := fun f => if f = 0 then precision_float32 else precision_float16
  fp32tofp16En := fun f => f &&& 0x1
  sizeE := fun f => if f = 0 then 3 else 1
  surfScale := fun f => if f = 0 then 4 else 2

/-- The values of `gen_matmul_int8`. -/
def int8Kind : MatmulKind where
  precision := precision_int8
  elemSize := 1
  entryElems := 64
  qdEn := 0
  outPrecision := fun _ => precision_int32
  fp32tofp16En := fun _ => 0
  sizeE := fun _ => 7
  surfScale := fun _ => 8

/-- `gen_matmul_fp16` of `npu_matmul.c`. -/
def genMatmulFp16 (stack : Stack) (params : MatmulParams) : GenResult :=
  genMatmul fp16Kind stack params

/-- `gen_matmul_int8` of `npu_matmul.c`. -/
def genMatmulInt8 (stack : Stack) (params : MatmulParams) : GenResult :=
  genMatmul int8Kind stack params

end Librocket
