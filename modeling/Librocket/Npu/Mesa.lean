import Librocket.Npu.Layout
import Librocket.Npu.Matmul

/-!
# The shipped generator

`npu_matmul_mesa.c`, the implementation the Makefile links. Its macro packs
three arguments without masking any of them, and its DPU register numbers are
17 bits wide: the top bit of the number is ORed into bit 0 of the value.
`roundTrip_iff` says which words survive (those of PC and CNA), and
`valueOf_dpu` what every DPU word carries instead.

Sizes are `int`s promoted from 16 bits, so `N * 2` is exact and `M * N * 2` is
the product modulo `2^32` (where it overflows `int` the source promises
nothing).
-/

namespace Librocket.Mesa

/-! ## Targets and registers -/

def TARGET_PC : CInt := 0x100
def TARGET_CNA : CInt := 0x200
def TARGET_CORE : CInt := 0x800
def TARGET_DPU : CInt := 0x1000

def REG_PC_OPERATION_ENABLE : CInt := 0x00000008
def REG_PC_BASE_ADDRESS : CInt := 0x00000010
def REG_PC_REGISTER_AMOUNTS : CInt := 0x00000014

def REG_CNA_OPERATION_ENABLE : CInt := 0x00001008
def REG_CNA_CONV_CON1 : CInt := 0x0000100C
def REG_CNA_DATA_SIZE0 : CInt := 0x00001020
def REG_CNA_DATA_SIZE1 : CInt := 0x00001024
def REG_CNA_WEIGHT_SIZE2 : CInt := 0x00001038
def REG_CNA_FEATURE_DATA_ADDR : CInt := 0x00001070
def REG_CNA_WEIGHT_DATA_ADDR : CInt := 0x00001074

def REG_DPU_OPERATION_ENABLE : CInt := 0x00010008
def REG_DPU_DST_BASE_ADDR_LOW : CInt := 0x00010010
def REG_DPU_DST_LINE_STRIDE : CInt := 0x00010018
def REG_DPU_DST_SURFACE_STRIDE : CInt := 0x0001001C

def CNA_CONV_CON1_CONV_MODE (x : CInt) : CInt := x <<< 0
def CNA_CONV_CON1_IN_PRECISION (x : CInt) : CInt := x <<< 4
def CNA_CONV_CON1_PROC_PRECISION (x : CInt) : CInt := x <<< 7
def CNA_DATA_SIZE0_HEIGHT (x : CInt) : CInt := x <<< 0
def CNA_DATA_SIZE0_WIDTH (x : CInt) : CInt := x <<< 16
def CNA_DATA_SIZE1_CHANNEL (x : CInt) : CInt := x <<< 0
def CNA_WEIGHT_SIZE2_KERNELS (x : CInt) : CInt := x <<< 0
def CNA_WEIGHT_SIZE2_HEIGHT (x : CInt) : CInt := x <<< 16
def CNA_WEIGHT_SIZE2_WIDTH (x : CInt) : CInt := x <<< 24

/-! ## The generator -/

/-- `MESA_REGCMD(target, value, reg)`, its arguments cast to `uint64_t`. -/
def MESA_REGCMD (target value reg : U64) : U64 := packWord target value reg

/-- `(uint64_t)` of an `int`: the sign fills the upper half. -/
def ofInt (x : CInt) : U64 := x.signExtend 64

/-- `(uint64_t)` of a `uint32_t`. -/
def ofUInt32 (x : U32) : U64 := x.setWidth 64

/-- One use of the macro: its arguments after the casts. -/
structure Regcmd where
  target : U64
  value : U64
  reg : U64
deriving DecidableEq

def Regcmd.word (c : Regcmd) : U64 := MESA_REGCMD c.target c.value c.reg

/-- Target and register are `int` constants. -/
def regcmd (target : CInt) (value : U64) (reg : CInt) : Regcmd :=
  ⟨ofInt target, value, ofInt reg⟩

/-- The commands of `gen_matmul_fp16`, in the order they are stored. -/
def regcmds (params : MatmulParams) : List Regcmd :=
  let M : CInt := promote params.m
  let K : CInt := promote params.k
  let N : CInt := promote params.n
  let convCon1 : U32 := CNA_CONV_CON1_CONV_MODE 0 ||| CNA_CONV_CON1_IN_PRECISION 1 |||
    CNA_CONV_CON1_PROC_PRECISION 1
  let dataSize0 : U32 := CNA_DATA_SIZE0_HEIGHT M ||| CNA_DATA_SIZE0_WIDTH 1
  let dataSize1 : U32 := CNA_DATA_SIZE1_CHANNEL K
  let weightSize2 : U32 := CNA_WEIGHT_SIZE2_KERNELS N ||| CNA_WEIGHT_SIZE2_HEIGHT 1 |||
    CNA_WEIGHT_SIZE2_WIDTH 1
  [ regcmd TARGET_PC (ofInt 0) REG_PC_BASE_ADDRESS,
    regcmd TARGET_PC (ofInt 0) REG_PC_REGISTER_AMOUNTS,
    regcmd TARGET_CNA (ofUInt32 convCon1) REG_CNA_CONV_CON1,
    regcmd TARGET_CNA (ofUInt32 dataSize0) REG_CNA_DATA_SIZE0,
    regcmd TARGET_CNA (ofUInt32 dataSize1) REG_CNA_DATA_SIZE1,
    regcmd TARGET_CNA (ofUInt32 weightSize2) REG_CNA_WEIGHT_SIZE2,
    regcmd TARGET_CNA (ofUInt32 (params.inputDma &&& 0xFFFFFFFF)) REG_CNA_FEATURE_DATA_ADDR,
    regcmd TARGET_CNA (ofUInt32 (params.weightsDma &&& 0xFFFFFFFF)) REG_CNA_WEIGHT_DATA_ADDR,
    regcmd TARGET_DPU (ofUInt32 (params.outputDma &&& 0xFFFFFFFF)) REG_DPU_DST_BASE_ADDR_LOW,
    regcmd TARGET_DPU (ofInt (N * 2)) REG_DPU_DST_LINE_STRIDE,
    regcmd TARGET_DPU (ofInt (M * N * 2)) REG_DPU_DST_SURFACE_STRIDE,
    regcmd TARGET_PC (ofInt 1) REG_PC_OPERATION_ENABLE,
    regcmd TARGET_CNA (ofInt 1) REG_CNA_OPERATION_ENABLE,
    regcmd TARGET_DPU (ofInt 1) REG_DPU_OPERATION_ENABLE,
    regcmd TARGET_DPU (ofInt 0) REG_DPU_OPERATION_ENABLE,
    regcmd TARGET_CNA (ofInt 0) REG_CNA_OPERATION_ENABLE,
    regcmd TARGET_PC (ofInt 0) REG_PC_OPERATION_ENABLE ]

/-- `gen_matmul_fp16` of `npu_matmul_mesa.c`. -/
def genMatmulFp16 (params : MatmulParams) : GenResult :=
  GenResult.emit ((regcmds params).map Regcmd.word)

/-- The number of words depends on nothing. -/
theorem length_regcmds (params : MatmulParams) : (regcmds params).length = 17 := rfl

/-- `gen_matmul_int8` of `npu_matmul_mesa.c`: an empty job. -/
def genMatmulInt8 (_params : MatmulParams) : GenResult :=
  GenResult.emit
    [ (regcmd TARGET_PC (ofInt 0) REG_PC_BASE_ADDRESS).word,
      (regcmd TARGET_PC (ofInt 0) REG_PC_REGISTER_AMOUNTS).word,
      (regcmd TARGET_PC (ofInt 1) REG_PC_OPERATION_ENABLE).word,
      (regcmd TARGET_PC (ofInt 0) REG_PC_OPERATION_ENABLE).word ]

/-! ## What a word decodes to -/

/-- A word decodes to the three arguments it was packed from. -/
def RoundTrip (c : Regcmd) (word : U64) : Prop :=
  (targetOf word).setWidth 64 = c.target ∧
    valueOf word = c.value.setWidth 32 ∧
    (regOf word).setWidth 64 = c.reg

theorem ushiftRight_eq_zero {x : U64} {n : ℕ} (h : x.toNat < 2 ^ n) : x >>> n = 0#64 := by
  apply BitVec.eq_of_toNat_eq
  rw [BitVec.toNat_ushiftRight, Nat.shiftRight_eq_div_pow, Nat.div_eq_of_lt h]
  rfl

private theorem setWidth_setWidth_iff (x : U64) :
    (x.setWidth 16).setWidth 64 = x ↔ x.toNat < 2 ^ 16 := by
  constructor
  · intro h
    have hval := congrArg BitVec.toNat h
    simp only [BitVec.toNat_setWidth] at hval
    omega
  · intro h
    apply BitVec.eq_of_toNat_eq
    simp only [BitVec.toNat_setWidth]
    omega

/-- Where target and value fit their places, the word decodes exactly when the
register number fits its own. -/
theorem roundTrip_word_iff {c : Regcmd} (ht : c.target.toNat < 2 ^ 16)
    (hv : c.value.toNat < 2 ^ 32) : RoundTrip c c.word ↔ c.reg.toNat < 2 ^ 16 := by
  constructor
  · rintro ⟨-, -, hreg⟩
    rw [Regcmd.word, MESA_REGCMD, regOf_packWord] at hreg
    exact (setWidth_setWidth_iff c.reg).mp hreg
  · intro hr
    have hr₁ : c.reg >>> 16 = 0#64 := ushiftRight_eq_zero hr
    have hr₂ : c.reg >>> 48 = 0#64 := ushiftRight_eq_zero (by omega)
    have hv₁ : c.value >>> 32 = 0#64 := ushiftRight_eq_zero hv
    refine ⟨?_, ?_, ?_⟩
    · rw [Regcmd.word, MESA_REGCMD, targetOf_packWord, hv₁, hr₂, BitVec.setWidth_zero,
        BitVec.or_zero, BitVec.or_zero]
      exact (setWidth_setWidth_iff c.target).mpr ht
    · rw [Regcmd.word, MESA_REGCMD, valueOf_packWord, hr₁, BitVec.setWidth_zero, BitVec.or_zero]
    · rw [Regcmd.word, MESA_REGCMD, regOf_packWord]
      exact (setWidth_setWidth_iff c.reg).mpr hr

/-! ## The arguments of the stream -/

theorem toNat_ofUInt32 (x : U32) : (ofUInt32 x).toNat = x.toNat := by
  have hx := x.isLt
  rw [ofUInt32, BitVec.toNat_setWidth]
  omega

/-- A non-negative `int` is cast without sign bits. -/
theorem toNat_ofInt {x : CInt} (h : x.toNat < 2 ^ 31) : (ofInt x).toNat = x.toNat := by
  have hmsb : x.msb = false := BitVec.msb_eq_false_iff_two_mul_lt.mpr (by omega)
  have hext : x.signExtend 64 = x.setWidth 64 := BitVec.signExtend_eq_setWidth_of_msb_false hmsb
  rw [ofInt, hext, BitVec.toNat_setWidth]
  omega

/-- The sign bits are all above the value. -/
theorem setWidth_ofInt (x : CInt) : (ofInt x).setWidth 32 = x := by
  apply BitVec.eq_of_getLsbD_eq
  intro i hi
  simp only [ofInt, BitVec.getLsbD_setWidth, BitVec.getLsbD_signExtend, hi, if_pos]
  simp [show i < 64 from by omega]

/-- `N * 2` never overflows. -/
theorem toNat_lineStride (params : MatmulParams) :
    (promote params.n * 2 : CInt).toNat = 2 * params.n.toNat := by
  have hn := params.n.isLt
  rw [BitVec.toNat_mul, toNat_promote_u16]
  simp
  omega

theorem toNat_surfaceStride {params : MatmulParams}
    (h : 2 * params.m.toNat * params.n.toNat < 2 ^ 31) :
    (promote params.m * promote params.n * 2 : CInt).toNat =
      2 * params.m.toNat * params.n.toNat := by
  rw [BitVec.toNat_mul, BitVec.toNat_mul, toNat_promote_u16, toNat_promote_u16]
  rw [show (2 : CInt).toNat = 2 from rfl, Nat.mod_mul_mod, Nat.mul_comm, ← Nat.mul_assoc]
  exact Nat.mod_eq_of_lt (by omega)

/-- Targets and registers do not depend on the request. -/
private theorem regcmds_heads (params : MatmulParams) :
    (regcmds params).map (fun c => (c.target, c.reg)) =
      (regcmds default).map fun c => (c.target, c.reg) := rfl

/-- What a test on target and register finds on one request's commands holds of
every request's. -/
private theorem regcmds_heads_all {P : U64 × U64 → Prop} [DecidablePred P]
    (h : (((regcmds default).map fun c => (c.target, c.reg)).all fun c => decide (P c)) = true)
    {params : MatmulParams} {c : Regcmd} (hc : c ∈ regcmds params) : P (c.target, c.reg) := by
  have hmem := List.mem_map_of_mem (f := fun c => (c.target, c.reg)) hc
  rw [regcmds_heads] at hmem
  exact of_decide_eq_true (List.all_eq_true.mp h _ hmem)

/-- Every target fits; the register number fits except on the DPU. -/
theorem regcmds_head_fit {params : MatmulParams} {c : Regcmd} (hc : c ∈ regcmds params) :
    c.target.toNat < 2 ^ 16 ∧ (c.reg.toNat < 2 ^ 16 ↔ c.target ≠ ofInt TARGET_DPU) :=
  regcmds_heads_all
    (P := fun h => h.1.toNat < 2 ^ 16 ∧ (h.2.toNat < 2 ^ 16 ↔ h.1 ≠ ofInt TARGET_DPU))
    (by decide) hc

theorem regcmds_reg_lt {params : MatmulParams} {c : Regcmd} (hc : c ∈ regcmds params) :
    c.reg.toNat < 2 ^ 32 :=
  regcmds_heads_all (P := fun h => h.2.toNat < 2 ^ 32) (by decide) hc

/-- Every value fits where the surface stride does not overflow. -/
theorem regcmds_value_fit {params : MatmulParams}
    (h : 2 * params.m.toNat * params.n.toNat < 2 ^ 31) :
    ∀ c ∈ regcmds params, c.value.toNat < 2 ^ 32 := by
  have hn := params.n.isLt
  have hline : (ofInt (promote params.n * 2)).toNat < 2 ^ 32 := by
    rw [toNat_ofInt (by rw [toNat_lineStride]; omega), toNat_lineStride]
    omega
  have hsurface : (ofInt (promote params.m * promote params.n * 2)).toNat < 2 ^ 32 := by
    rw [toNat_ofInt (by rw [toNat_surfaceStride h]; omega), toNat_surfaceStride h]
    omega
  have hcast : ∀ x : U32, (ofUInt32 x).toNat < 2 ^ 32 := by
    intro x
    rw [toNat_ofUInt32]
    exact x.isLt
  have hzero : (ofInt 0).toNat < 2 ^ 32 := by decide
  have hone : (ofInt 1).toNat < 2 ^ 32 := by decide
  simp only [regcmds, regcmd, List.forall_mem_cons, List.not_mem_nil, false_imp_iff, implies_true,
    hline, hsurface, hcast, hzero, hone, and_self]

/-- A word of the buffer after the run. -/
theorem tasks_genMatmulFp16 {params : MatmulParams} {i : ℕ} {c : Regcmd} (before : ℕ → U64)
    (hc : (regcmds params)[i]? = some c) : (genMatmulFp16 params).tasks before i = c.word :=
  GenResult.tasks_emit before (by rw [List.getElem?_map, hc]; rfl)

/-- **Which words decode**: those that do not address the DPU. -/
theorem roundTrip_iff {params : MatmulParams} (h : 2 * params.m.toNat * params.n.toNat < 2 ^ 31)
    (before : ℕ → U64) {i : ℕ} {c : Regcmd} (hc : (regcmds params)[i]? = some c) :
    RoundTrip c ((genMatmulFp16 params).tasks before i) ↔ c.target ≠ ofInt TARGET_DPU := by
  have hmem := List.mem_of_getElem? hc
  obtain ⟨ht, hr⟩ := regcmds_head_fit hmem
  rw [tasks_genMatmulFp16 before hc, roundTrip_word_iff ht (regcmds_value_fit h c hmem), hr]

/-! ## The contract of the stream -/

/-- What a consumer of the buffer relies on: every word decodes to its
arguments, so the output base and strides arrive exactly and each disable word
is a zero that differs from its enable word. -/
structure Contract (params : MatmulParams) (tasks : ℕ → U64) : Prop where
  roundTrip : ∀ i c, (regcmds params)[i]? = some c → RoundTrip c (tasks i)
  dstBase : valueOf (tasks 8) = params.outputDma
  lineStride : (valueOf (tasks 9)).toNat = 2 * params.n.toNat
  surfaceStride : (valueOf (tasks 10)).toNat = 2 * params.m.toNat * params.n.toNat
  disablePc : valueOf (tasks 16) = 0 ∧ tasks 16 ≠ tasks 11
  disableCna : valueOf (tasks 15) = 0 ∧ tasks 15 ≠ tasks 12
  disableDpu : valueOf (tasks 14) = 0 ∧ tasks 14 ≠ tasks 13

/-- What a DPU word carries: the top bit of the register number is ORed into
the value. -/
theorem valueOf_dpu (value : U64) {reg : CInt} (h : (ofInt reg >>> 16).setWidth 32 = (1 : U32)) :
    valueOf (regcmd TARGET_DPU value reg).word = value.setWidth 32 ||| 1 := by
  rw [regcmd, Regcmd.word, MESA_REGCMD, valueOf_packWord, h]

/-- Output base and strides reach the DPU with their lowest bit set. -/
theorem valueOf_output (params : MatmulParams) (before : ℕ → U64) :
    valueOf ((genMatmulFp16 params).tasks before 8) = params.outputDma ||| 1 ∧
      valueOf ((genMatmulFp16 params).tasks before 9) = (promote params.n * 2) ||| 1 ∧
      valueOf ((genMatmulFp16 params).tasks before 10) =
        (promote params.m * promote params.n * 2) ||| 1 := by
  have hmask : (ofUInt32 (params.outputDma &&& 0xFFFFFFFF)).setWidth 32 = params.outputDma := by
    rw [ofUInt32, BitVec.setWidth_setWidth_of_le _ (by decide), BitVec.setWidth_eq]
    exact BitVec.and_allOnes
  refine ⟨?_, ?_, ?_⟩
  · rw [tasks_genMatmulFp16 before (i := 8) rfl, valueOf_dpu _ (by decide), hmask]
  · rw [tasks_genMatmulFp16 before (i := 9) rfl, valueOf_dpu _ (by decide), setWidth_ofInt]
  · rw [tasks_genMatmulFp16 before (i := 10) rfl, valueOf_dpu _ (by decide), setWidth_ofInt]

/-- The word that is to disable the DPU is the word that enables it. -/
theorem disable_eq_enable (params : MatmulParams) (before : ℕ → U64) :
    (genMatmulFp16 params).tasks before 14 = (genMatmulFp16 params).tasks before 13 := by
  rw [tasks_genMatmulFp16 before (i := 14) rfl, tasks_genMatmulFp16 before (i := 13) rfl]
  decide

/-- **No request meets the contract.** -/
theorem contract_fails (params : MatmulParams) (before : ℕ → U64) :
    ¬ Contract params ((genMatmulFp16 params).tasks before) := by
  intro hc
  exact hc.disableDpu.2 (disable_eq_enable params before)

/-- A 4 x 32 by 32 x 16 product with distinct buffers. -/
def smallJob : MatmulParams where
  m := 4
  k := 32
  n := 16
  inputDma := 0x1000
  weightsDma := 0x2000
  outputDma := 0x3000
  fp32tofp16 := 0

/-- Its output base arrives off by one, and the DPU is enabled twice. -/
theorem contract_fails_smallJob :
    let tasks := (genMatmulFp16 smallJob).tasks fun _ => 0
    ¬ Contract smallJob tasks ∧ valueOf (tasks 8) = 0x3001 ∧ tasks 14 = tasks 13 := by
  intro tasks
  have hdst : valueOf (tasks 8) = 0x3001 := (valueOf_output smallJob _).1
  refine ⟨?_, hdst, disable_eq_enable smallJob _⟩
  intro hc
  have hbase := hc.dstBase
  rw [hdst] at hbase
  revert hbase
  decide

/-! ## The stride words -/

/-- `N * 2` as C defines it, in `int`. -/
def lineStride (params : MatmulParams) : Option ℤ := int.mul params.n.toNat 2

/-- `M * N * 2` as C defines it. -/
def surfaceStride (params : MatmulParams) : Option ℤ := do
  int.mul (← int.mul params.m.toNat params.n.toNat) 2

theorem lineStride_eq (params : MatmulParams) :
    lineStride params = some ((2 * params.n.toNat : ℕ) : ℤ) := by
  have hn := params.n.isLt
  have hmax : int.max = 2147483647 := rfl
  rw [Nat.mul_comm]
  exact CArith.IntType.mul_nat (b := 2) (by omega)

theorem surfaceStride_eq_some_iff (params : MatmulParams) {v : ℤ} :
    surfaceStride params = some v ↔
      v = ((2 * params.m.toNat * params.n.toNat : ℕ) : ℤ) ∧
        2 * params.m.toNat * params.n.toNat < 2 ^ 31 := by
  have hmax : int.max = 2147483647 := rfl
  have hassoc : 2 * params.m.toNat * params.n.toNat = params.m.toNat * params.n.toNat * 2 := by
    ring
  rw [hassoc]
  constructor
  · intro hv
    obtain ⟨area, harea, hstride⟩ := Option.bind_eq_some_iff.mp hv
    obtain rfl := CArith.IntType.mul_eq_some harea
    obtain ⟨rfl, -, hle⟩ := CArith.IntType.check_eq_some.mp hstride
    rw [← Nat.cast_mul] at hle ⊢
    constructor
    · exact (Nat.cast_mul _ 2).symm
    · omega
  · rintro ⟨rfl, hlt⟩
    have harea : int.mul params.m.toNat params.n.toNat =
        some ((params.m.toNat * params.n.toNat : ℕ) : ℤ) :=
      CArith.IntType.mul_nat (by omega)
    rw [surfaceStride, harea]
    exact CArith.IntType.mul_nat (b := 2) (by omega)

/-- A DPU word that carries a stride: the stride is defined, the target is the
unit, and the value is the stride with the bits the register number has above
its own place. -/
def CarriesStride (stride : Option ℤ) (reg : CInt) (word : U64) : Prop :=
  ∃ v : ℕ, stride = some (v : ℤ) ∧ targetOf word = TARGET_DPU.setWidth 16 ∧
    (valueOf word).toNat = v ||| reg.toNat >>> 16

/-- A stride that is not negative leaves the target alone. -/
theorem carriesStride_regcmd {x reg : CInt} (hx : x.toNat < 2 ^ 31) (hreg : reg.toNat < 2 ^ 31) :
    CarriesStride (some (x.toNat : ℤ)) reg (regcmd TARGET_DPU (ofInt x) reg).word := by
  have hvalue : ofInt x >>> 32 = 0#64 :=
    ushiftRight_eq_zero (by rw [toNat_ofInt hx]; omega)
  have hhigh : ofInt reg >>> 48 = 0#64 :=
    ushiftRight_eq_zero (by rw [toNat_ofInt hreg]; omega)
  have hlow : ((ofInt reg >>> 16).setWidth 32).toNat = reg.toNat >>> 16 := by
    rw [BitVec.toNat_setWidth, BitVec.toNat_ushiftRight, toNat_ofInt hreg,
      Nat.shiftRight_eq_div_pow]
    omega
  refine ⟨x.toNat, rfl, ?_, ?_⟩
  · rw [regcmd, Regcmd.word, MESA_REGCMD, targetOf_packWord, hvalue, hhigh, BitVec.setWidth_zero,
      BitVec.or_zero, BitVec.or_zero]
    rfl
  · rw [regcmd, Regcmd.word, MESA_REGCMD, valueOf_packWord, setWidth_ofInt, BitVec.toNat_or, hlow]

/-- A negative one overwrites it. -/
theorem targetOf_negative {x : CInt} (hx : x.msb = true) (reg : CInt) :
    targetOf (regcmd TARGET_DPU (ofInt x) reg).word = 0xFFFF := by
  have hsign : (ofInt x >>> 32).setWidth 16 = BitVec.allOnes 16 := by
    apply BitVec.eq_of_getLsbD_eq
    intro i hi
    simp only [ofInt, BitVec.getLsbD_setWidth, BitVec.getLsbD_ushiftRight,
      BitVec.getLsbD_signExtend, BitVec.getLsbD_allOnes, hx]
    grind
  rw [regcmd, Regcmd.word, MESA_REGCMD, targetOf_packWord, hsign, BitVec.or_allOnes,
    BitVec.allOnes_or]
  rfl

/-- A run is refused or stores two words that carry the output strides. -/
def StridesSound (params : MatmulParams) (r : GenResult) (before : ℕ → U64) : Prop :=
  r.ret < 0 ∨
    CarriesStride (lineStride params) REG_DPU_DST_LINE_STRIDE (r.tasks before 9) ∧
      CarriesStride (surfaceStride params) REG_DPU_DST_SURFACE_STRIDE (r.tasks before 10)

/-- No size is refused, so the surface stride has to be defined. -/
theorem StridesSound.surface_lt {params : MatmulParams} {before : ℕ → U64}
    (h : StridesSound params (genMatmulFp16 params) before) :
    2 * params.m.toNat * params.n.toNat < 2 ^ 31 := by
  rcases h with hret | ⟨-, v, hv, -⟩
  · exact absurd hret (by decide : ¬ (17 : ℤ) < 0)
  · exact ((surfaceStride_eq_some_iff params).mp hv).2

theorem stridesSound_of_surface_lt {params : MatmulParams} (before : ℕ → U64)
    (h : 2 * params.m.toNat * params.n.toNat < 2 ^ 31) :
    StridesSound params (genMatmulFp16 params) before := by
  have hn := params.n.isLt
  have hsurface := (surfaceStride_eq_some_iff params).mpr ⟨rfl, h⟩
  refine Or.inr ⟨?_, ?_⟩
  · rw [tasks_genMatmulFp16 before (i := 9) rfl, lineStride_eq, ← toNat_lineStride]
    exact carriesStride_regcmd (by rw [toNat_lineStride]; omega) (by decide)
  · rw [tasks_genMatmulFp16 before (i := 10) rfl, hsurface, ← toNat_surfaceStride h]
    exact carriesStride_regcmd (by rw [toNat_surfaceStride h]; exact h) (by decide)

/-- **The strides are sound exactly where the surface stride fits an `int`.** -/
theorem strides_sound_iff (params : MatmulParams) (before : ℕ → U64) :
    StridesSound params (genMatmulFp16 params) before ↔
      2 * params.m.toNat * params.n.toNat < 2 ^ 31 :=
  ⟨StridesSound.surface_lt, stridesSound_of_surface_lt before⟩

/-- A 32768 x 32 by 32 x 32768 product. -/
def squareJob : MatmulParams :=
  { smallJob with m := 32768, n := 32768 }

/-- Its surface stride overflows, and wrapped around it takes the target with
it. -/
theorem strides_sound_fails_squareJob :
    let r := genMatmulFp16 squareJob
    ¬ StridesSound squareJob r (fun _ => 0) ∧ targetOf (r.tasks (fun _ => 0) 10) = 0xFFFF := by
  intro r
  constructor
  · intro hsound
    exact absurd hsound.surface_lt (by decide)
  · rw [tasks_genMatmulFp16 (fun _ => 0) (i := 10) rfl]
    exact targetOf_negative (by decide) _

end Librocket.Mesa
