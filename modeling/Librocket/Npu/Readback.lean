import Librocket.Npu.Acceptance

/-!
# The dimensions the hardware is told

What the size fields of the stream read back as. Each dimension is cut twice on
its way into a register, once to the descriptor field and once to the mask of
the register, and the limits differ from register to register. The lemmas of
the first section give every field in closed form for any accepted request, all
but those of `CNA_DATA_SIZE1` read off the table of the encoder;
`readsBack_genMatmul_iff` then solves them together: all of them tell the requested
sizes exactly for `1 ≤ m ≤ 1022`, `1 ≤ k ≤ 16384` and `1 ≤ n ≤ 8192`.

Nothing in the generators looks at these limits. A request beyond them is
accepted or refused by its byte counts alone.
-/

namespace Librocket

open Hw Bitfield

/-! ## The fields in closed form -/

section Fields

variable {e : MatmulKind} (stack : Stack) {params : MatmulParams} (h : Accepts e params)
  (before : RegKey → U32)

include h

/-- A field that holds a size. -/
theorem get_size (i j : ℕ) {unit reg : U32} {f : Field 32} {d : DescField} {k : ℕ} {x : U16}
    (hholds : Holds i j unit reg f d k) (hread : d.read (finalStack e stack params) = promote x) :
    f.get ((genMatmul e stack params).reg before unit reg) = x.toNat % 2 ^ k := by
  rw [get_of_accepts stack h before i j hholds, hread, toNat_promote_u16]

/-- A field that holds a size less one: zero wraps to the top. -/
theorem get_sizeLessOne (i j : ℕ) {unit reg : U32} {f : Field 32} {d : DescField} {k : ℕ}
    {x : U16} (hk : k ≤ 16) (hholds : Holds i j unit reg f d k)
    (hread : d.read (finalStack e stack params) = promote (x - 1)) :
    f.get ((genMatmul e stack params).reg before unit reg) = (x.toNat + 65535) % 2 ^ k := by
  have hpred : (x - 1).toNat = (x.toNat + 65535) % 2 ^ 16 := by
    rw [BitVec.toNat_sub, Nat.add_comm]
    rfl
  rw [get_size stack h before i j hholds hread, hpred, Nat.mod_mod_of_dvd _ (Nat.pow_dvd_pow 2 hk)]

theorem featureGrains_eq :
    Reg.CNA_CONV_CON2_FEATURE_GRAINS.get
        ((genMatmul e stack params).reg before BLOCK_CNA CNA_CONV_CON2) =
      (params.m.toNat + 1) % 2 ^ 10 := by
  have hsucc : (params.m + 1).toNat = (params.m.toNat + 1) % 2 ^ 16 := BitVec.toNat_add _ _
  rw [get_size (d := .cnaFeatureGrains) (k := 10) (x := params.m + 1) stack h before
    2 1 (by decide) rfl, hsucc]
  omega

theorem datainHeight_eq :
    Reg.CNA_DATA_SIZE0_DATAIN_HEIGHT.get
        ((genMatmul e stack params).reg before BLOCK_CNA CNA_DATA_SIZE0) =
      params.m.toNat % 2 ^ 11 :=
  get_size (d := .cnaDatainHeight) stack h before 4 1 (by decide) rfl

/-- `CNA_DATA_SIZE1` is the one word whose upper half is not cut to its field. -/
theorem dataSize1_eq : (genMatmul e stack params).reg before BLOCK_CNA CNA_DATA_SIZE1 =
    ((promote params.k - 1 &&& 0xFFFF) <<< 16) ||| (promote params.k &&& 0xFFFF) :=
  reg_of_accepts stack h before 5 rfl (by decide)

theorem datainChannel_eq :
    Reg.CNA_DATA_SIZE1_DATAIN_CHANNEL.get
        ((genMatmul e stack params).reg before BLOCK_CNA CNA_DATA_SIZE1) =
      params.k.toNat := by
  rw [dataSize1_eq stack h]
  simp (disch := decide) only [Field.get_or, Field.get_disjoint, Field.get_aligned_zero,
    Nat.zero_or]
  rw [toNat_and_lowMask 16 rfl, toNat_promote_u16, Nat.mod_eq_of_lt params.k.isLt]

/-- The sixteen bits written there; the field has fourteen, the top two land in
the reserved field. -/
private theorem upperHalf_eq :
    ((genMatmul e stack params).reg before BLOCK_CNA CNA_DATA_SIZE1).toNat / 2 ^ 16 % 2 ^ 16 =
      (params.k.toNat + 65535) % 2 ^ 16 := by
  have hget : Field.get { mask := 0xffff0000, shift := 16, width := 16 }
      ((genMatmul e stack params).reg before BLOCK_CNA CNA_DATA_SIZE1) =
      (params.k.toNat + 65535) % 2 ^ 16 := by
    rw [dataSize1_eq stack h]
    simp (disch := decide) only [Field.get_or, Field.get_aligned, Field.get_disjoint_zero,
      Nat.or_zero]
    rw [toNat_and_lowMask 16 rfl, BitVec.toNat_sub, toNat_promote_u16]
    simp
    omega
  rw [← hget, Field.get_eq_div_mod]

theorem datainChannelReal_eq :
    Reg.CNA_DATA_SIZE1_DATAIN_CHANNEL_REAL.get
        ((genMatmul e stack params).reg before BLOCK_CNA CNA_DATA_SIZE1) =
      (params.k.toNat + 65535) % 2 ^ 14 := by
  have hupper := upperHalf_eq stack h before
  rw [Field.get_eq_div_mod]
  show _ / 2 ^ 16 % 2 ^ 14 = _
  omega

theorem dataSize1_reserved_eq :
    Reg.CNA_DATA_SIZE1_RESERVED_0.get
        ((genMatmul e stack params).reg before BLOCK_CNA CNA_DATA_SIZE1) =
      (params.k.toNat + 65535) % 2 ^ 16 / 2 ^ 14 := by
  have hupper := upperHalf_eq stack h before
  rw [Field.get_eq_div_mod]
  show _ / 2 ^ 30 % 2 ^ 2 = _
  omega

theorem weightKernels_eq :
    Reg.CNA_WEIGHT_SIZE2_WEIGHT_KERNELS.get
        ((genMatmul e stack params).reg before BLOCK_CNA CNA_WEIGHT_SIZE2) =
      params.n.toNat % 2 ^ 14 :=
  get_size (d := .cnaWeightKernels) stack h before 10 2 (by decide) rfl

theorem dmaHeight_eq :
    Reg.CNA_FC_DATA_SIZE0_DMA_HEIGHT.get
        ((genMatmul e stack params).reg before BLOCK_CNA CNA_FC_DATA_SIZE0) =
      params.m.toNat % 2 ^ 11 :=
  get_size (d := .cnaDmaHeight) stack h before 26 1 (by decide) rfl

theorem dmaChannel_eq :
    Reg.CNA_FC_DATA_SIZE1_DMA_CHANNEL.get
        ((genMatmul e stack params).reg before BLOCK_CNA CNA_FC_DATA_SIZE1) =
      params.k.toNat := by
  rw [get_size (d := .cnaDmaChannel) (k := 16) (x := params.k) stack h before
    27 0 (by decide) rfl]
  exact Nat.mod_eq_of_lt params.k.isLt

theorem dataoutHeight_eq :
    Reg.CORE_DATAOUT_SIZE_0_DATAOUT_HEIGHT.get
        ((genMatmul e stack params).reg before BLOCK_CORE CORE_DATAOUT_SIZE_0) =
      (params.m.toNat + 65535) % 2 ^ 16 :=
  get_sizeLessOne (d := .coreDataoutHeight) stack h before 50 0 (by decide) (by decide) rfl

theorem dataoutChannel_eq :
    Reg.CORE_DATAOUT_SIZE_1_DATAOUT_CHANNEL.get
        ((genMatmul e stack params).reg before BLOCK_CORE CORE_DATAOUT_SIZE_1) =
      (params.n.toNat + 65535) % 2 ^ 16 :=
  get_sizeLessOne (d := .coreDataoutChannel) stack h before 51 0 (by decide) (by decide) rfl

theorem cubeHeight_eq :
    Reg.DPU_DATA_CUBE_HEIGHT_HEIGHT.get
        ((genMatmul e stack params).reg before BLOCK_DPU DPU_DATA_CUBE_HEIGHT) =
      (params.m.toNat + 65535) % 2 ^ 13 :=
  get_sizeLessOne (d := .dpuHeight) stack h before 60 0 (by decide) (by decide) rfl

theorem cubeOrigChannel_eq :
    Reg.DPU_DATA_CUBE_CHANNEL_ORIG_CHANNEL.get
        ((genMatmul e stack params).reg before BLOCK_DPU DPU_DATA_CUBE_CHANNEL) =
      (params.n.toNat + 65535) % 2 ^ 13 :=
  get_sizeLessOne (d := .dpuChannel) stack h before 62 0 (by decide) (by decide) rfl

theorem cubeChannel_eq :
    Reg.DPU_DATA_CUBE_CHANNEL_CHANNEL.get
        ((genMatmul e stack params).reg before BLOCK_DPU DPU_DATA_CUBE_CHANNEL) =
      (params.n.toNat + 65535) % 2 ^ 13 :=
  get_sizeLessOne (d := .dpuChannel) stack h before 62 1 (by decide) (by decide) rfl

theorem channelWdma_eq :
    Reg.DPU_WDMA_SIZE_0_CHANNEL_WDMA.get
        ((genMatmul e stack params).reg before BLOCK_DPU DPU_WDMA_SIZE_0) =
      (params.n.toNat + 65535) % 2 ^ 13 :=
  get_sizeLessOne (d := .dpuChannelWdma) stack h before 69 0 (by decide) (by decide) rfl

theorem heightWdma_eq :
    Reg.DPU_WDMA_SIZE_1_HEIGHT_WDMA.get
        ((genMatmul e stack params).reg before BLOCK_DPU DPU_WDMA_SIZE_1) =
      (params.m.toNat + 65535) % 2 ^ 13 :=
  get_sizeLessOne (d := .dpuHeightWdma) stack h before 70 0 (by decide) (by decide) rfl

end Fields

/-! ## The reserved fields -/

/-- The reserved fields of the registers that carry a dimension. -/
def reservedFields : List (U32 × U32 × Field 32) := [
  (BLOCK_CNA, CNA_CONV_CON2, Reg.CNA_CONV_CON2_RESERVED_0),
  (BLOCK_CNA, CNA_CONV_CON2, Reg.CNA_CONV_CON2_RESERVED_1),
  (BLOCK_CNA, CNA_CONV_CON2, Reg.CNA_CONV_CON2_RESERVED_2),
  (BLOCK_CNA, CNA_DATA_SIZE0, Reg.CNA_DATA_SIZE0_RESERVED_0),
  (BLOCK_CNA, CNA_DATA_SIZE0, Reg.CNA_DATA_SIZE0_RESERVED_1),
  (BLOCK_CNA, CNA_DATA_SIZE1, Reg.CNA_DATA_SIZE1_RESERVED_0),
  (BLOCK_CNA, CNA_WEIGHT_SIZE2, Reg.CNA_WEIGHT_SIZE2_RESERVED_0),
  (BLOCK_CNA, CNA_WEIGHT_SIZE2, Reg.CNA_WEIGHT_SIZE2_RESERVED_1),
  (BLOCK_CNA, CNA_WEIGHT_SIZE2, Reg.CNA_WEIGHT_SIZE2_RESERVED_2),
  (BLOCK_CNA, CNA_FC_DATA_SIZE0, Reg.CNA_FC_DATA_SIZE0_RESERVED_0),
  (BLOCK_CNA, CNA_FC_DATA_SIZE0, Reg.CNA_FC_DATA_SIZE0_RESERVED_1),
  (BLOCK_CNA, CNA_FC_DATA_SIZE1, Reg.CNA_FC_DATA_SIZE1_RESERVED_0),
  (BLOCK_CORE, CORE_DATAOUT_SIZE_1, Reg.CORE_DATAOUT_SIZE_1_RESERVED_0),
  (BLOCK_DPU, DPU_DATA_CUBE_HEIGHT, Reg.DPU_DATA_CUBE_HEIGHT_RESERVED_0),
  (BLOCK_DPU, DPU_DATA_CUBE_HEIGHT, Reg.DPU_DATA_CUBE_HEIGHT_RESERVED_1),
  (BLOCK_DPU, DPU_DATA_CUBE_CHANNEL, Reg.DPU_DATA_CUBE_CHANNEL_RESERVED_0),
  (BLOCK_DPU, DPU_DATA_CUBE_CHANNEL, Reg.DPU_DATA_CUBE_CHANNEL_RESERVED_1),
  (BLOCK_DPU, DPU_WDMA_SIZE_0, Reg.DPU_WDMA_SIZE_0_RESERVED_0),
  (BLOCK_DPU, DPU_WDMA_SIZE_0, Reg.DPU_WDMA_SIZE_0_RESERVED_1),
  (BLOCK_DPU, DPU_WDMA_SIZE_1, Reg.DPU_WDMA_SIZE_1_RESERVED_0),
  (BLOCK_DPU, DPU_WDMA_SIZE_1, Reg.DPU_WDMA_SIZE_1_RESERVED_1)]

/-- Every word but `CNA_DATA_SIZE1` is masked clear of its reserved fields. -/
theorem reserved_eq_zero {e : MatmulKind} (stack : Stack) {params : MatmulParams}
    (h : Accepts e params) (before : RegKey → U32)
    (hk : (params.k.toNat + 65535) % 2 ^ 16 / 2 ^ 14 = 0) :
    ∀ f ∈ reservedFields,
      f.2.2.get ((genMatmul e stack params).reg before f.1 f.2.1) = 0 := by
  have hall : (reservedFields.all fun f =>
      decide (f = (BLOCK_CNA, CNA_DATA_SIZE1, Reg.CNA_DATA_SIZE1_RESERVED_0) ∨
        StaysClear f.1 f.2.1 f.2.2)) = true := by
    decide +kernel
  intro f hf
  rcases of_decide_eq_true (List.all_eq_true.mp hall f hf) with rfl | hclear
  · exact (dataSize1_reserved_eq stack h before).trans hk
  · exact get_eq_zero_of_accepts stack h before hclear

/-! ## All dimensions together -/

/-- The hardware was told the truth: each size field reads back as the requested
dimension, and no reserved field of these registers is touched. -/
structure ReadsBack (params : MatmulParams) (r : GenResult) (before : RegKey → U32) : Prop where
  datainHeight : Reg.CNA_DATA_SIZE0_DATAIN_HEIGHT.get (r.reg before BLOCK_CNA CNA_DATA_SIZE0) =
    params.m.toNat
  featureGrains : Reg.CNA_CONV_CON2_FEATURE_GRAINS.get (r.reg before BLOCK_CNA CNA_CONV_CON2) =
    params.m.toNat + 1
  datainChannel : Reg.CNA_DATA_SIZE1_DATAIN_CHANNEL.get (r.reg before BLOCK_CNA CNA_DATA_SIZE1) =
    params.k.toNat
  datainChannelReal :
    Reg.CNA_DATA_SIZE1_DATAIN_CHANNEL_REAL.get (r.reg before BLOCK_CNA CNA_DATA_SIZE1) + 1 =
      params.k.toNat
  weightKernels :
    Reg.CNA_WEIGHT_SIZE2_WEIGHT_KERNELS.get (r.reg before BLOCK_CNA CNA_WEIGHT_SIZE2) =
      params.n.toNat
  dmaHeight : Reg.CNA_FC_DATA_SIZE0_DMA_HEIGHT.get (r.reg before BLOCK_CNA CNA_FC_DATA_SIZE0) =
    params.m.toNat
  dmaChannel : Reg.CNA_FC_DATA_SIZE1_DMA_CHANNEL.get (r.reg before BLOCK_CNA CNA_FC_DATA_SIZE1) =
    params.k.toNat
  dataoutHeight :
    Reg.CORE_DATAOUT_SIZE_0_DATAOUT_HEIGHT.get (r.reg before BLOCK_CORE CORE_DATAOUT_SIZE_0) + 1 =
      params.m.toNat
  dataoutChannel :
    Reg.CORE_DATAOUT_SIZE_1_DATAOUT_CHANNEL.get (r.reg before BLOCK_CORE CORE_DATAOUT_SIZE_1) + 1 =
      params.n.toNat
  cubeHeight :
    Reg.DPU_DATA_CUBE_HEIGHT_HEIGHT.get (r.reg before BLOCK_DPU DPU_DATA_CUBE_HEIGHT) + 1 =
      params.m.toNat
  cubeOrigChannel :
    Reg.DPU_DATA_CUBE_CHANNEL_ORIG_CHANNEL.get (r.reg before BLOCK_DPU DPU_DATA_CUBE_CHANNEL) + 1 =
      params.n.toNat
  cubeChannel :
    Reg.DPU_DATA_CUBE_CHANNEL_CHANNEL.get (r.reg before BLOCK_DPU DPU_DATA_CUBE_CHANNEL) + 1 =
      params.n.toNat
  channelWdma : Reg.DPU_WDMA_SIZE_0_CHANNEL_WDMA.get (r.reg before BLOCK_DPU DPU_WDMA_SIZE_0) + 1 =
    params.n.toNat
  heightWdma : Reg.DPU_WDMA_SIZE_1_HEIGHT_WDMA.get (r.reg before BLOCK_DPU DPU_WDMA_SIZE_1) + 1 =
    params.m.toNat
  reserved : ∀ f ∈ reservedFields, f.2.2.get (r.reg before f.1 f.2.1) = 0

/-- The dimensions every field can hold: the feature grains bound `m`, the
14 bits of the real channel count bound `k`, the 13 bits of the DPU bound `n`. -/
def Representable (params : MatmulParams) : Prop :=
  (1 ≤ params.m.toNat ∧ params.m.toNat ≤ 1022) ∧
    (1 ≤ params.k.toNat ∧ params.k.toNat ≤ 16384) ∧
    (1 ≤ params.n.toNat ∧ params.n.toNat ≤ 8192)

instance (params : MatmulParams) : Decidable (Representable params) := by
  unfold Representable; infer_instance

theorem readsBack_genMatmul_iff {e : MatmulKind} (stack : Stack) {params : MatmulParams}
    (h : Accepts e params) (before : RegKey → U32) :
    ReadsBack params (genMatmul e stack params) before ↔ Representable params := by
  have hm := params.m.isLt
  have hk := params.k.isLt
  have hn := params.n.isLt
  constructor
  · intro hr
    have hgrains := featureGrains_eq stack h before
    have hreal := datainChannelReal_eq stack h before
    have hheight := dataoutHeight_eq stack h before
    have hchannel := cubeChannel_eq stack h before
    rw [hr.featureGrains] at hgrains
    have hr₁ := hr.datainChannelReal
    have hr₂ := hr.dataoutHeight
    have hr₃ := hr.cubeChannel
    refine ⟨?_, ?_, ?_⟩ <;> omega
  · rintro ⟨⟨hm₁, hm₂⟩, ⟨hk₁, hk₂⟩, hn₁, hn₂⟩
    constructor
    case datainHeight => rw [datainHeight_eq stack h]; omega
    case featureGrains => rw [featureGrains_eq stack h]; omega
    case datainChannel => exact datainChannel_eq stack h before
    case datainChannelReal => rw [datainChannelReal_eq stack h]; omega
    case weightKernels => rw [weightKernels_eq stack h]; omega
    case dmaHeight => rw [dmaHeight_eq stack h]; omega
    case dmaChannel => exact dmaChannel_eq stack h before
    case dataoutHeight => rw [dataoutHeight_eq stack h]; omega
    case dataoutChannel => rw [dataoutChannel_eq stack h]; omega
    case cubeHeight => rw [cubeHeight_eq stack h]; omega
    case cubeOrigChannel => rw [cubeOrigChannel_eq stack h]; omega
    case cubeChannel => rw [cubeChannel_eq stack h]; omega
    case channelWdma => rw [channelWdma_eq stack h]; omega
    case heightWdma => rw [heightWdma_eq stack h]; omega
    case reserved => exact reserved_eq_zero stack h before (by omega)

/-- **Success tells the truth exactly for representable dimensions**, for both
generators. Acceptance itself does not depend on `Representable`. -/
theorem told_dimensions (stack : Stack) (params : MatmulParams) (before : RegKey → U32) :
    ((genMatmulFp16 stack params).ret = 0 →
        (ReadsBack params (genMatmulFp16 stack params) before ↔ Representable params)) ∧
      ((genMatmulInt8 stack params).ret = 0 →
        (ReadsBack params (genMatmulInt8 stack params) before ↔ Representable params)) :=
  ⟨fun hret => readsBack_genMatmul_iff stack ((ret_genMatmul_iff stack).mp hret) before,
    fun hret => readsBack_genMatmul_iff stack ((ret_genMatmul_iff stack).mp hret) before⟩

/-- The smallest aligned product with four rows. -/
def alignedInput : MatmulParams :=
  { m := 4, k := 32, n := 16, inputDma := 0, weightsDma := 0, outputDma := 0, fp32tofp16 := 0 }

theorem told_dimensions_alignedInput :
    ReadsBack alignedInput (genMatmulFp16 default alignedInput) (fun _ => 0) ∧
      ReadsBack alignedInput (genMatmulInt8 default alignedInput) fun _ => 0 := by
  obtain ⟨hfp16, hint8⟩ := told_dimensions default alignedInput fun _ => 0
  constructor
  · exact (hfp16 ((ret_genMatmul_iff default).mpr (by decide))).mpr (by decide)
  · exact (hint8 ((ret_genMatmul_iff default).mpr (by decide))).mpr (by decide)

/-- A 1023 x 32 by 32 x 16 product. -/
def tallInput : MatmulParams :=
  { m := 1023, k := 32, n := 16, inputDma := 0, weightsDma := 0, outputDma := 0, fp32tofp16 := 0 }

/-- Its 1024 feature grains are accepted and reach the hardware as none. -/
theorem told_dimensions_tallInput : (genMatmulFp16 default tallInput).ret = 0 ∧
    ∀ before, ¬ ReadsBack tallInput (genMatmulFp16 default tallInput) before ∧
      Reg.CNA_CONV_CON2_FEATURE_GRAINS.get
        ((genMatmulFp16 default tallInput).reg before BLOCK_CNA CNA_CONV_CON2) = 0 := by
  have h : Accepts fp16Kind tallInput := by decide
  refine ⟨(ret_genMatmul_iff default).mpr h, fun before => ⟨?_, ?_⟩⟩
  · intro hr
    have hrep := (readsBack_genMatmul_iff default h before).mp hr
    revert hrep
    decide
  · exact featureGrains_eq default h before

end Librocket
