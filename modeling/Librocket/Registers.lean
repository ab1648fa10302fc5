import Librocket.Lib.Bitfield

/-!
# The register maps

The NPU's registers as the two headers give them. `Hw` is `npu_hw.h`: register
numbers, block and operation codes of the command words, precision codes and
the CBUF geometry. `Reg` is `mesa_registers.h`: the fields of each register,
by mask and shift, for the registers this development reads back or packs.
The names are the headers' own.
-/

namespace Librocket

abbrev U8 := BitVec 8
abbrev U16 := BitVec 16
abbrev U32 := BitVec 32
abbrev U64 := BitVec 64

/-- C `int`, 32 bits wide. Arithmetic is two's complement; where the sign
matters it is read with `toInt`. -/
abbrev CInt := BitVec 32

/-- Integer promotion of an unsigned field to `int` (or to `uint32_t`, which
has the same bits). -/
def promote {w : ℕ} (x : BitVec w) : U32 := x.setWidth 32

private theorem toNat_promote {w : ℕ} (h : w ≤ 32) (x : BitVec w) :
    (promote x).toNat = x.toNat := by
  have hlt : x.toNat < 2 ^ 32 :=
    lt_of_lt_of_le x.isLt (Nat.pow_le_pow_right (by omega) h)
  rw [promote, BitVec.toNat_setWidth, Nat.mod_eq_of_lt hlt]

@[simp] theorem toNat_promote_u8 (x : U8) : (promote x).toNat = x.toNat :=
  toNat_promote (by decide) x

@[simp] theorem toNat_promote_u16 (x : U16) : (promote x).toNat = x.toNat :=
  toNat_promote (by decide) x

theorem msb_promote_u16 (x : U16) : (promote x).msb = false := by
  have hx := x.isLt
  rw [BitVec.msb_eq_false_iff_two_mul_lt, toNat_promote_u16]
  omega

/-- Signed division of a promoted field by a positive number is division. -/
theorem sdiv_promote (x : U16) {d : CInt} (hd : d.msb = false) :
    (promote x).sdiv d = promote x / d := by
  rw [BitVec.sdiv_eq, msb_promote_u16, hd]
  rfl

theorem srem_promote (x : U16) {d : CInt} (hd : d.msb = false) :
    (promote x).srem d = promote x % d := by
  rw [BitVec.srem_eq, msb_promote_u16, hd]

/-! ## `npu_hw.h` -/

namespace Hw

def PC_OPERATION_ENABLE : U32 := 0x0008
def PC_BASE_ADDRESS : U32 := 0x0010
def PC_REGISTER_AMOUNTS : U32 := 0x0014

def CNA_CONV_CON1 : U32 := 0x100C
def CNA_CONV_CON2 : U32 := 0x1010
def CNA_CONV_CON3 : U32 := 0x1014
def CNA_DATA_SIZE0 : U32 := 0x1020
def CNA_DATA_SIZE1 : U32 := 0x1024
def CNA_DATA_SIZE2 : U32 := 0x1028
def CNA_DATA_SIZE3 : U32 := 0x102C
def CNA_WEIGHT_SIZE0 : U32 := 0x1030
def CNA_WEIGHT_SIZE1 : U32 := 0x1034
def CNA_WEIGHT_SIZE2 : U32 := 0x1038
def CNA_CBUF_CON0 : U32 := 0x1040
def CNA_CBUF_CON1 : U32 := 0x1044
def CNA_CVT_CON0 : U32 := 0x104C
def CNA_CVT_CON1 : U32 := 0x1050
def CNA_CVT_CON2 : U32 := 0x1054
def CNA_CVT_CON3 : U32 := 0x1058
def CNA_CVT_CON4 : U32 := 0x105C
def CNA_FC_CON0 : U32 := 0x1060
def CNA_FC_CON1 : U32 := 0x1064
def CNA_PAD_CON0 : U32 := 0x1068
def CNA_FEATURE_DATA_ADDR : U32 := 0x1070
def CNA_FC_CON2 : U32 := 0x1074
def CNA_DMA_CON0 : U32 := 0x1078
def CNA_DMA_CON1 : U32 := 0x107C
def CNA_DMA_CON2 : U32 := 0x1080
def CNA_FC_DATA_SIZE0 : U32 := 0x1084
def CNA_FC_DATA_SIZE1 : U32 := 0x1088
def CNA_DCOMP_CTRL : U32 := 0x1100
def CNA_DCOMP_REGNUM : U32 := 0x1104
def CNA_DCOMP_ADDR0 : U32 := 0x1110
def CNA_DCOMP_AMOUNT : U32 := 0x1140
def CNA_DCOMP_AMOUNT1 : U32 := 0x1144
def CNA_DCOMP_AMOUNT2 : U32 := 0x1148
def CNA_DCOMP_AMOUNT3 : U32 := 0x114C
def CNA_DCOMP_AMOUNT4 : U32 := 0x1150
def CNA_DCOMP_AMOUNT5 : U32 := 0x1154
def CNA_DCOMP_AMOUNT6 : U32 := 0x1158
def CNA_DCOMP_AMOUNT7 : U32 := 0x115C
def CNA_DCOMP_AMOUNT8 : U32 := 0x1160
def CNA_DCOMP_AMOUNT9 : U32 := 0x1164
def CNA_DCOMP_AMOUNT10 : U32 := 0x1168
def CNA_DCOMP_AMOUNT11 : U32 := 0x116C
def CNA_DCOMP_AMOUNT12 : U32 := 0x1170
def CNA_DCOMP_AMOUNT13 : U32 := 0x1174
def CNA_DCOMP_AMOUNT14 : U32 := 0x1178
def CNA_DCOMP_AMOUNT15 : U32 := 0x117C
def CNA_CVT_CON5 : U32 := 0x1180
def CNA_PAD_CON1 : U32 := 0x1184

def CORE_MISC_CFG : U32 := 0x3010
def CORE_DATAOUT_SIZE_0 : U32 := 0x3014
def CORE_DATAOUT_SIZE_1 : U32 := 0x3018
def CORE_CLIP_TRUNCATE : U32 := 0x301C
def CORE_3030 : U32 := 0x3030

def DPU_S_POINTER : U32 := 0x4004
def DPU_FEATURE_MODE_CFG : U32 := 0x400C
def DPU_DATA_FORMAT : U32 := 0x4010
def DPU_OFFSET_PEND : U32 := 0x4014
def DPU_DST_BASE_ADD : U32 := 0x4020
def DPU_DST_SURF_STRIDE : U32 := 0x4024
def DPU_DATA_CUBE_WIDTH : U32 := 0x4030
def DPU_DATA_CUBE_HEIGHT : U32 := 0x4034
def DPU_DATA_CUBE_NOTCH_ADDR : U32 := 0x4038
def DPU_DATA_CUBE_CHANNEL : U32 := 0x403C
def DPU_BS_CFG : U32 := 0x4040
def DPU_BS_ALU_CFG : U32 := 0x4044
def DPU_BS_MUL_CFG : U32 := 0x4048
def DPU_BS_RELUX_CMP_VALUE : U32 := 0x404C
def DPU_BS_OW_CFG : U32 := 0x4050
def DPU_BS_OW_OP : U32 := 0x4054
def DPU_WDMA_SIZE_0 : U32 := 0x4058
def DPU_WDMA_SIZE_1 : U32 := 0x405C
def DPU_BN_CFG : U32 := 0x4060
def DPU_BN_ALU_CFG : U32 := 0x4064
def DPU_BN_MUL_CFG : U32 := 0x4068
def DPU_BN_RELUX_CMP_VALUE : U32 := 0x406C
def DPU_EW_CFG : U32 := 0x4070
def DPU_EW_CVT_OFFSET_VALUE : U32 := 0x4074
def DPU_EW_CVT_SCALE_VALUE : U32 := 0x4078
def DPU_EW_RELUX_CMP_VALUE : U32 := 0x407C
def DPU_OUT_CVT_OFFSET : U32 := 0x4080
def DPU_OUT_CVT_SCALE : U32 := 0x4084
def DPU_OUT_CVT_SHIFT : U32 := 0x4088
def DPU_EW_OP_VALUE_0 : U32 := 0x4090
def DPU_EW_OP_VALUE_1 : U32 := 0x4094
def DPU_EW_OP_VALUE_2 : U32 := 0x4098
def DPU_EW_OP_VALUE_3 : U32 := 0x409C
def DPU_EW_OP_VALUE_4 : U32 := 0x40A0
def DPU_EW_OP_VALUE_5 : U32 := 0x40A4
def DPU_EW_OP_VALUE_6 : U32 := 0x40A8
def DPU_EW_OP_VALUE_7 : U32 := 0x40AC
def DPU_SURFACE_ADD : U32 := 0x40C0
def DPU_40C4 : U32 := 0x40C4
def DPU_LUT_ACCESS_CFG : U32 := 0x4100
def DPU_LUT_ACCESS_DATA : U32 := 0x4104
def DPU_LUT_CFG : U32 := 0x4108
def DPU_LUT_INFO : U32 := 0x410C
def DPU_LUT_LE_START : U32 := 0x4110
def DPU_LUT_LE_END : U32 := 0x4114
def DPU_LUT_LO_START : U32 := 0x4118
def DPU_LUT_LO_END : U32 := 0x411C
def DPU_LUT_LE_SLOPE_SCALE : U32 := 0x4120
def DPU_LUT_LE_SLOPE_SHIFT : U32 := 0x4124
def DPU_LUT_LO_SLOPE_SCALE : U32 := 0x4128
def DPU_LUT_LO_SLOPE_SHIFT : U32 := 0x412C

def BLOCK_PC : U32 := 0x0100
def BLOCK_CNA : U32 := 0x0200
def BLOCK_CORE : U32 := 0x0800
def BLOCK_DPU : U32 := 0x1000

def PC_OP_01 : U32 := 0x01
def PC_OP_40 : U32 := 0x40
def PC_OP_ENABLE : U32 := 0x80

def OP_REG_PC : U32 := BLOCK_PC ||| PC_OP_01
def OP_REG_CNA : U32 := BLOCK_CNA ||| PC_OP_01
def OP_REG_CORE : U32 := BLOCK_CORE ||| PC_OP_01
def OP_REG_DPU : U32 := BLOCK_DPU ||| PC_OP_01

def OP_40 : U32 := PC_OP_40 ||| PC_OP_01
def OP_ENABLE : U32 := PC_OP_ENABLE ||| PC_OP_01
def OP_NONE : U32 := 0x0

def PC_ENABLE : U32 := 0x01
def PC_ENABLE_CNA : U32 := 0x04
def PC_ENABLE_DPU : U32 := 0x08

def NPU_CBUF_BANK_SIZE : U32 := 32768
def NPU_CBUF_BANKS : U32 := 12

def direct_convolution : U8 := 0
def precision_int8 : U8 := 0
def precision_float16 : U8 := 2
def precision_int32 : U8 := 4
def precision_float32 : U8 := 5

end Hw

/-! ## `mesa_registers.h` -/

namespace Reg

open Bitfield (Field)

def PC_OPERATION_ENABLE_RESERVED_0 : Field 32 := { mask := 0xfffffffe, shift := 1, width := 31 }
def PC_OPERATION_ENABLE_OP_EN : Field 32 := { mask := 0x00000001, shift := 0, width := 1 }

def CNA_CONV_CON1_RESERVED_0 : Field 32 := { mask := 0x80000000, shift := 31, width := 1 }
def CNA_CONV_CON1_RESERVED_1 : Field 32 := { mask := 0x1ffe0000, shift := 17, width := 12 }
def CNA_CONV_CON1_RESERVED_2 : Field 32 := { mask := 0x00000c00, shift := 10, width := 2 }
def CNA_CONV_CON1_PROC_PRECISION : Field 32 := { mask := 0x00000380, shift := 7, width := 3 }
def CNA_CONV_CON1_IN_PRECISION : Field 32 := { mask := 0x00000070, shift := 4, width := 3 }
def CNA_CONV_CON1_CONV_MODE : Field 32 := { mask := 0x0000000f, shift := 0, width := 4 }
def CNA_CONV_CON2_RESERVED_0 : Field 32 := { mask := 0xff000000, shift := 24, width := 8 }
def CNA_CONV_CON2_KERNEL_GROUP : Field 32 := { mask := 0x00ff0000, shift := 16, width := 8 }
def CNA_CONV_CON2_RESERVED_1 : Field 32 := { mask := 0x0000c000, shift := 14, width := 2 }
def CNA_CONV_CON2_FEATURE_GRAINS : Field 32 := { mask := 0x00003ff0, shift := 4, width := 10 }
def CNA_CONV_CON2_RESERVED_2 : Field 32 := { mask := 0x00000008, shift := 3, width := 1 }
def CNA_CONV_CON3_RESERVED_0 : Field 32 := { mask := 0x80000000, shift := 31, width := 1 }
def CNA_CONV_CON3_RESERVED_1 : Field 32 := { mask := 0x0c000000, shift := 26, width := 2 }
def CNA_CONV_CON3_RESERVED_2 : Field 32 := { mask := 0x0000c000, shift := 14, width := 2 }
def CNA_CONV_CON3_RESERVED_3 : Field 32 := { mask := 0x000000c0, shift := 6, width := 2 }
def CNA_CONV_CON3_CONV_Y_STRIDE : Field 32 := { mask := 0x00000038, shift := 3, width := 3 }
def CNA_CONV_CON3_CONV_X_STRIDE : Field 32 := { mask := 0x00000007, shift := 0, width := 3 }
def CNA_DATA_SIZE0_RESERVED_0 : Field 32 := { mask := 0xf8000000, shift := 27, width := 5 }
def CNA_DATA_SIZE0_DATAIN_WIDTH : Field 32 := { mask := 0x07ff0000, shift := 16, width := 11 }
def CNA_DATA_SIZE0_RESERVED_1 : Field 32 := { mask := 0x0000f800, shift := 11, width := 5 }
def CNA_DATA_SIZE0_DATAIN_HEIGHT : Field 32 := { mask := 0x000007ff, shift := 0, width := 11 }
def CNA_DATA_SIZE1_RESERVED_0 : Field 32 := { mask := 0xc0000000, shift := 30, width := 2 }
def CNA_DATA_SIZE1_DATAIN_CHANNEL_REAL : Field 32 :=
  { mask := 0x3fff0000, shift := 16, width := 14 }
def CNA_DATA_SIZE1_DATAIN_CHANNEL : Field 32 := { mask := 0x0000ffff, shift := 0, width := 16 }
def CNA_DATA_SIZE2_RESERVED_0 : Field 32 := { mask := 0xfffff800, shift := 11, width := 21 }
def CNA_DATA_SIZE2_DATAOUT_WIDTH : Field 32 := { mask := 0x000007ff, shift := 0, width := 11 }
def CNA_DATA_SIZE3_RESERVED_0 : Field 32 := { mask := 0xff000000, shift := 24, width := 8 }
def CNA_DATA_SIZE3_DATAOUT_ATOMICS : Field 32 := { mask := 0x003fffff, shift := 0, width := 22 }
def CNA_WEIGHT_SIZE0_WEIGHT_BYTES : Field 32 := { mask := 0xffffffff, shift := 0, width := 32 }
def CNA_WEIGHT_SIZE1_RESERVED_0 : Field 32 := { mask := 0xfff80000, shift := 19, width := 13 }
def CNA_WEIGHT_SIZE1_WEIGHT_BYTES_PER_KERNEL : Field 32 :=
  { mask := 0x0007ffff, shift := 0, width := 19 }
def CNA_WEIGHT_SIZE2_RESERVED_0 : Field 32 := { mask := 0xe0000000, shift := 29, width := 3 }
def CNA_WEIGHT_SIZE2_WEIGHT_WIDTH : Field 32 := { mask := 0x1f000000, shift := 24, width := 5 }
def CNA_WEIGHT_SIZE2_RESERVED_1 : Field 32 := { mask := 0x00e00000, shift := 21, width := 3 }
def CNA_WEIGHT_SIZE2_WEIGHT_HEIGHT : Field 32 := { mask := 0x001f0000, shift := 16, width := 5 }
def CNA_WEIGHT_SIZE2_RESERVED_2 : Field 32 := { mask := 0x0000c000, shift := 14, width := 2 }
def CNA_WEIGHT_SIZE2_WEIGHT_KERNELS : Field 32 := { mask := 0x00003fff, shift := 0, width := 14 }
def CNA_CBUF_CON0_RESERVED_0 : Field 32 := { mask := 0xffffc000, shift := 14, width := 18 }
def CNA_CBUF_CON0_RESERVED_1 : Field 32 := { mask := 0x00000800, shift := 11, width := 1 }
def CNA_CBUF_CON0_WEIGHT_BANK : Field 32 := { mask := 0x000000f0, shift := 4, width := 4 }
def CNA_CBUF_CON0_DATA_BANK : Field 32 := { mask := 0x0000000f, shift := 0, width := 4 }
def CNA_CBUF_CON1_RESERVED_0 : Field 32 := { mask := 0xffffc000, shift := 14, width := 18 }
def CNA_CBUF_CON1_DATA_ENTRIES : Field 32 := { mask := 0x00003fff, shift := 0, width := 14 }
def CNA_CVT_CON0_RESERVED_0 : Field 32 := { mask := 0xf0000000, shift := 28, width := 4 }
def CNA_CVT_CON0_DATA_SIGN : Field 32 := { mask := 0x00000008, shift := 3, width := 1 }
def CNA_CVT_CON0_CVT_TYPE : Field 32 := { mask := 0x00000002, shift := 1, width := 1 }
def CNA_CVT_CON0_CVT_BYPASS : Field 32 := { mask := 0x00000001, shift := 0, width := 1 }
def CNA_CVT_CON1_CVT_SCALE0 : Field 32 := { mask := 0xffff0000, shift := 16, width := 16 }
def CNA_CVT_CON2_CVT_SCALE1 : Field 32 := { mask := 0xffff0000, shift := 16, width := 16 }
def CNA_CVT_CON3_CVT_SCALE2 : Field 32 := { mask := 0xffff0000, shift := 16, width := 16 }
def CNA_CVT_CON4_CVT_SCALE3 : Field 32 := { mask := 0xffff0000, shift := 16, width := 16 }
def CNA_FC_CON0_RESERVED_0 : Field 32 := { mask := 0x0000fffe, shift := 1, width := 15 }
def CNA_FC_CON0_FC_SKIP_EN : Field 32 := { mask := 0x00000001, shift := 0, width := 1 }
def CNA_FC_CON1_RESERVED_0 : Field 32 := { mask := 0xfffe0000, shift := 17, width := 15 }
def CNA_FC_CON1_DATA_OFFSET : Field 32 := { mask := 0x0001ffff, shift := 0, width := 17 }
def CNA_PAD_CON0_RESERVED_0 : Field 32 := { mask := 0xffffff00, shift := 8, width := 24 }
def CNA_PAD_CON0_PAD_LEFT : Field 32 := { mask := 0x000000f0, shift := 4, width := 4 }
def CNA_PAD_CON0_PAD_TOP : Field 32 := { mask := 0x0000000f, shift := 0, width := 4 }
def CNA_FEATURE_DATA_ADDR_FEATURE_BASE_ADDR : Field 32 :=
  { mask := 0xffffffff, shift := 0, width := 32 }
def CNA_FC_CON2_RESERVED_0 : Field 32 := { mask := 0xfffe0000, shift := 17, width := 15 }
def CNA_FC_CON2_WEIGHT_OFFSET : Field 32 := { mask := 0x0001ffff, shift := 0, width := 17 }
def CNA_DMA_CON0_RESERVED_0 : Field 32 := { mask := 0x7ff00000, shift := 20, width := 11 }
def CNA_DMA_CON0_WEIGHT_BURST_LEN : Field 32 := { mask := 0x000f0000, shift := 16, width := 4 }
def CNA_DMA_CON0_RESERVED_1 : Field 32 := { mask := 0x0000fff0, shift := 4, width := 12 }
def CNA_DMA_CON0_DATA_BURST_LEN : Field 32 := { mask := 0x0000000f, shift := 0, width := 4 }
def CNA_DMA_CON1_RESERVED_0 : Field 32 := { mask := 0xf0000000, shift := 28, width := 4 }
def CNA_DMA_CON1_LINE_STRIDE : Field 32 := { mask := 0x0fffffff, shift := 0, width := 28 }
def CNA_DMA_CON2_RESERVED_0 : Field 32 := { mask := 0xf0000000, shift := 28, width := 4 }
def CNA_DMA_CON2_SURF_STRIDE : Field 32 := { mask := 0x0fffffff, shift := 0, width := 28 }
def CNA_FC_DATA_SIZE0_RESERVED_0 : Field 32 := { mask := 0xc0000000, shift := 30, width := 2 }
def CNA_FC_DATA_SIZE0_DMA_WIDTH : Field 32 := { mask := 0x3fff0000, shift := 16, width := 14 }
def CNA_FC_DATA_SIZE0_RESERVED_1 : Field 32 := { mask := 0x0000f800, shift := 11, width := 5 }
def CNA_FC_DATA_SIZE0_DMA_HEIGHT : Field 32 := { mask := 0x000007ff, shift := 0, width := 11 }
def CNA_FC_DATA_SIZE1_RESERVED_0 : Field 32 := { mask := 0xffff0000, shift := 16, width := 16 }
def CNA_FC_DATA_SIZE1_DMA_CHANNEL : Field 32 := { mask := 0x0000ffff, shift := 0, width := 16 }
def CNA_DCOMP_CTRL_RESERVED_0 : Field 32 := { mask := 0xfffffff0, shift := 4, width := 28 }
def CNA_DCOMP_ADDR0_DECOMPRESS_ADDR0 : Field 32 := { mask := 0xffffffff, shift := 0, width := 32 }

def CORE_MISC_CFG_RESERVED_0 : Field 32 := { mask := 0xfff00000, shift := 20, width := 12 }
def CORE_MISC_CFG_RESERVED_1 : Field 32 := { mask := 0x00003800, shift := 11, width := 3 }
def CORE_MISC_CFG_PROC_PRECISION : Field 32 := { mask := 0x00000700, shift := 8, width := 3 }
def CORE_MISC_CFG_RESERVED_2 : Field 32 := { mask := 0x000000fc, shift := 2, width := 6 }
def CORE_MISC_CFG_QD_EN : Field 32 := { mask := 0x00000001, shift := 0, width := 1 }
def CORE_DATAOUT_SIZE_0_DATAOUT_HEIGHT : Field 32 :=
  { mask := 0xffff0000, shift := 16, width := 16 }
def CORE_DATAOUT_SIZE_0_DATAOUT_WIDTH : Field 32 := { mask := 0x0000ffff, shift := 0, width := 16 }
def CORE_DATAOUT_SIZE_1_RESERVED_0 : Field 32 := { mask := 0xffff0000, shift := 16, width := 16 }
def CORE_DATAOUT_SIZE_1_DATAOUT_CHANNEL : Field 32 :=
  { mask := 0x0000ffff, shift := 0, width := 16 }
def CORE_CLIP_TRUNCATE_RESERVED_0 : Field 32 := { mask := 0xffffff80, shift := 7, width := 25 }
def CORE_CLIP_TRUNCATE_RESERVED_1 : Field 32 := { mask := 0x00000020, shift := 5, width := 1 }

def DPU_S_POINTER_RESERVED_0 : Field 32 := { mask := 0xfffe0000, shift := 17, width := 15 }
def DPU_S_POINTER_RESERVED_1 : Field 32 := { mask := 0x0000ffc0, shift := 6, width := 10 }
def DPU_S_POINTER_POINTER_PP_MODE : Field 32 := { mask := 0x00000008, shift := 3, width := 1 }
def DPU_S_POINTER_EXECUTER_PP_EN : Field 32 := { mask := 0x00000004, shift := 2, width := 1 }
def DPU_S_POINTER_POINTER_PP_EN : Field 32 := { mask := 0x00000002, shift := 1, width := 1 }
def DPU_FEATURE_MODE_CFG_BURST_LEN : Field 32 := { mask := 0x000001e0, shift := 5, width := 4 }
def DPU_FEATURE_MODE_CFG_CONV_MODE : Field 32 := { mask := 0x00000018, shift := 3, width := 2 }
def DPU_FEATURE_MODE_CFG_OUTPUT_MODE : Field 32 := { mask := 0x00000006, shift := 1, width := 2 }
def DPU_FEATURE_MODE_CFG_FLYING_MODE : Field 32 := { mask := 0x00000001, shift := 0, width := 1 }
def DPU_DATA_FORMAT_OUT_PRECISION : Field 32 := { mask := 0xe0000000, shift := 29, width := 3 }
def DPU_DATA_FORMAT_IN_PRECISION : Field 32 := { mask := 0x1c000000, shift := 26, width := 3 }
def DPU_DATA_FORMAT_PROC_PRECISION : Field 32 := { mask := 0x00000007, shift := 0, width := 3 }
def DPU_OFFSET_PEND_RESERVED_0 : Field 32 := { mask := 0xffff0000, shift := 16, width := 16 }
def DPU_DST_BASE_ADDR_DST_BASE_ADDR : Field 32 := { mask := 0xffffffff, shift := 0, width := 32 }
def DPU_DST_SURF_STRIDE_DST_SURF_STRIDE : Field 32 :=
  { mask := 0xfffffff0, shift := 4, width := 28 }
def DPU_DST_SURF_STRIDE_RESERVED_0 : Field 32 := { mask := 0x0000000f, shift := 0, width := 4 }
def DPU_DATA_CUBE_WIDTH_RESERVED_0 : Field 32 := { mask := 0xffffe000, shift := 13, width := 19 }
def DPU_DATA_CUBE_WIDTH_WIDTH : Field 32 := { mask := 0x00001fff, shift := 0, width := 13 }
def DPU_DATA_CUBE_HEIGHT_RESERVED_0 : Field 32 := { mask := 0xfe000000, shift := 25, width := 7 }
def DPU_DATA_CUBE_HEIGHT_RESERVED_1 : Field 32 := { mask := 0x003fe000, shift := 13, width := 9 }
def DPU_DATA_CUBE_HEIGHT_HEIGHT : Field 32 := { mask := 0x00001fff, shift := 0, width := 13 }
def DPU_DATA_CUBE_NOTCH_ADDR_RESERVED_0 : Field 32 :=
  { mask := 0xe0000000, shift := 29, width := 3 }
def DPU_DATA_CUBE_NOTCH_ADDR_RESERVED_1 : Field 32 :=
  { mask := 0x0000e000, shift := 13, width := 3 }
def DPU_DATA_CUBE_CHANNEL_RESERVED_0 : Field 32 := { mask := 0xe0000000, shift := 29, width := 3 }
def DPU_DATA_CUBE_CHANNEL_ORIG_CHANNEL : Field 32 :=
  { mask := 0x1fff0000, shift := 16, width := 13 }
def DPU_DATA_CUBE_CHANNEL_RESERVED_1 : Field 32 := { mask := 0x0000e000, shift := 13, width := 3 }
def DPU_DATA_CUBE_CHANNEL_CHANNEL : Field 32 := { mask := 0x00001fff, shift := 0, width := 13 }
def DPU_BS_CFG_RESERVED_0 : Field 32 := { mask := 0xfff00000, shift := 20, width := 12 }
def DPU_BS_CFG_BS_ALU_ALGO : Field 32 := { mask := 0x000f0000, shift := 16, width := 4 }
def DPU_BS_CFG_RESERVED_1 : Field 32 := { mask := 0x0000fe00, shift := 9, width := 7 }
def DPU_BS_CFG_BS_ALU_SRC : Field 32 := { mask := 0x00000100, shift := 8, width := 1 }
def DPU_BS_CFG_BS_RELU_BYPASS : Field 32 := { mask := 0x00000040, shift := 6, width := 1 }
def DPU_BS_CFG_BS_MUL_BYPASS : Field 32 := { mask := 0x00000010, shift := 4, width := 1 }
def DPU_BS_CFG_RESERVED_2 : Field 32 := { mask := 0x0000000c, shift := 2, width := 2 }
def DPU_BS_CFG_BS_ALU_BYPASS : Field 32 := { mask := 0x00000002, shift := 1, width := 1 }
def DPU_BS_CFG_BS_BYPASS : Field 32 := { mask := 0x00000001, shift := 0, width := 1 }
def DPU_BS_MUL_CFG_RESERVED_0 : Field 32 := { mask := 0x0000c000, shift := 14, width := 2 }
def DPU_BS_MUL_CFG_RESERVED_1 : Field 32 := { mask := 0x000000fc, shift := 2, width := 6 }
def DPU_BS_OW_CFG_RESERVED_0 : Field 32 := { mask := 0x07fff800, shift := 11, width := 16 }
def DPU_BS_OW_CFG_SIZE_E_2 : Field 32 := { mask := 0x00000700, shift := 8, width := 3 }
def DPU_BS_OW_CFG_SIZE_E_1 : Field 32 := { mask := 0x000000e0, shift := 5, width := 3 }
def DPU_BS_OW_CFG_SIZE_E_0 : Field 32 := { mask := 0x0000001c, shift := 2, width := 3 }
def DPU_BS_OW_CFG_OD_BYPASS : Field 32 := { mask := 0x00000002, shift := 1, width := 1 }
def DPU_BS_OW_OP_RESERVED_0 : Field 32 := { mask := 0xffff0000, shift := 16, width := 16 }
def DPU_WDMA_SIZE_0_RESERVED_0 : Field 32 := { mask := 0xf0000000, shift := 28, width := 4 }
def DPU_WDMA_SIZE_0_RESERVED_1 : Field 32 := { mask := 0x0000e000, shift := 13, width := 3 }
def DPU_WDMA_SIZE_0_CHANNEL_WDMA : Field 32 := { mask := 0x00001fff, shift := 0, width := 13 }
def DPU_WDMA_SIZE_1_RESERVED_0 : Field 32 := { mask := 0xe0000000, shift := 29, width := 3 }
def DPU_WDMA_SIZE_1_HEIGHT_WDMA : Field 32 := { mask := 0x1fff0000, shift := 16, width := 13 }
def DPU_WDMA_SIZE_1_RESERVED_1 : Field 32 := { mask := 0x0000e000, shift := 13, width := 3 }
def DPU_WDMA_SIZE_1_WIDTH_WDMA : Field 32 := { mask := 0x00001fff, shift := 0, width := 13 }
def DPU_BN_CFG_RESERVED_0 : Field 32 := { mask := 0xfff00000, shift := 20, width := 12 }
def DPU_BN_CFG_RESERVED_1 : Field 32 := { mask := 0x0000fe00, shift := 9, width := 7 }
def DPU_BN_CFG_BN_RELU_BYPASS : Field 32 := { mask := 0x00000040, shift := 6, width := 1 }
def DPU_BN_CFG_BN_MUL_BYPASS : Field 32 := { mask := 0x00000010, shift := 4, width := 1 }
def DPU_BN_CFG_RESERVED_2 : Field 32 := { mask := 0x0000000c, shift := 2, width := 2 }
def DPU_BN_CFG_BN_ALU_BYPASS : Field 32 := { mask := 0x00000002, shift := 1, width := 1 }
def DPU_BN_CFG_BN_BYPASS : Field 32 := { mask := 0x00000001, shift := 0, width := 1 }
def DPU_BN_MUL_CFG_RESERVED_0 : Field 32 := { mask := 0x0000c000, shift := 14, width := 2 }
def DPU_BN_MUL_CFG_RESERVED_1 : Field 32 := { mask := 0x000000fc, shift := 2, width := 6 }
def DPU_EW_CFG_RESERVED_0 : Field 32 := { mask := 0x0f000000, shift := 24, width := 4 }
def DPU_EW_CFG_EW_ALU_ALGO : Field 32 := { mask := 0x000f0000, shift := 16, width := 4 }
def DPU_EW_CFG_RESERVED_1 : Field 32 := { mask := 0x0000f800, shift := 11, width := 5 }
def DPU_EW_CFG_EW_RELU_BYPASS : Field 32 := { mask := 0x00000200, shift := 9, width := 1 }
def DPU_EW_CFG_EW_OP_CVT_BYPASS : Field 32 := { mask := 0x00000100, shift := 8, width := 1 }
def DPU_EW_CFG_EW_LUT_BYPASS : Field 32 := { mask := 0x00000080, shift := 7, width := 1 }
def DPU_EW_CFG_RESERVED_2 : Field 32 := { mask := 0x00000018, shift := 3, width := 2 }
def DPU_EW_CFG_EW_OP_BYPASS : Field 32 := { mask := 0x00000002, shift := 1, width := 1 }
def DPU_EW_CFG_EW_BYPASS : Field 32 := { mask := 0x00000001, shift := 0, width := 1 }
def DPU_OUT_CVT_SCALE_RESERVED_0 : Field 32 := { mask := 0xfffe0000, shift := 17, width := 15 }
def DPU_OUT_CVT_SCALE_FP32TOFP16_EN : Field 32 := { mask := 0x00010000, shift := 16, width := 1 }
def DPU_OUT_CVT_SCALE_OUT_CVT_SCALE : Field 32 := { mask := 0x0000ffff, shift := 0, width := 16 }
def DPU_OUT_CVT_SHIFT_RESERVED_0 : Field 32 := { mask := 0x3ff00000, shift := 20, width := 10 }
def DPU_SURFACE_ADD_SURF_ADD : Field 32 := { mask := 0xfffffff0, shift := 4, width := 28 }
def DPU_SURFACE_ADD_RESERVED_0 : Field 32 := { mask := 0x0000000f, shift := 0, width := 4 }
def DPU_LUT_ACCESS_CFG_RESERVED_0 : Field 32 := { mask := 0xfffc0000, shift := 18, width := 14 }
def DPU_LUT_ACCESS_CFG_RESERVED_1 : Field 32 := { mask := 0x0000fc00, shift := 10, width := 6 }
def DPU_LUT_ACCESS_DATA_RESERVED_0 : Field 32 := { mask := 0xffff0000, shift := 16, width := 16 }
def DPU_LUT_CFG_RESERVED_0 : Field 32 := { mask := 0xffffff00, shift := 8, width := 24 }
def DPU_LUT_CFG_LUT_UFLOW_PRIORITY : Field 32 := { mask := 0x00000010, shift := 4, width := 1 }
def DPU_LUT_INFO_RESERVED_0 : Field 32 := { mask := 0xff000000, shift := 24, width := 8 }
def DPU_LUT_INFO_RESERVED_1 : Field 32 := { mask := 0x000000ff, shift := 0, width := 8 }
def DPU_LUT_LE_SLOPE_SHIFT_RESERVED_0 : Field 32 := { mask := 0xfffffc00, shift := 10, width := 22 }
def DPU_LUT_LO_SLOPE_SHIFT_RESERVED_0 : Field 32 := { mask := 0xfffffc00, shift := 10, width := 22 }
def DPU_RDMA_RDMA_S_POINTER_POINTER_PP_MODE : Field 32 :=
  { mask := 0x00000008, shift := 3, width := 1 }
def DPU_RDMA_RDMA_S_POINTER_EXECUTER_PP_EN : Field 32 :=
  { mask := 0x00000004, shift := 2, width := 1 }
def DPU_RDMA_RDMA_S_POINTER_POINTER_PP_EN : Field 32 :=
  { mask := 0x00000002, shift := 1, width := 1 }
def DPU_RDMA_RDMA_WEIGHT_E_WEIGHT : Field 32 := { mask := 0xff000000, shift := 24, width := 8 }
def DPU_RDMA_RDMA_WEIGHT_N_WEIGHT : Field 32 := { mask := 0x00ff0000, shift := 16, width := 8 }
def DPU_RDMA_RDMA_WEIGHT_B_WEIGHT : Field 32 := { mask := 0x0000ff00, shift := 8, width := 8 }
def DPU_RDMA_RDMA_WEIGHT_M_WEIGHT : Field 32 := { mask := 0x000000ff, shift := 0, width := 8 }

end Reg

end Librocket
