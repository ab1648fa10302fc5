import Librocket.Npu.Decode
import Librocket.Lib.Layout
import Mathlib.GroupTheory.GroupAction.Ring

/-!
# Which sizes are accepted, and how the CBUF is split

The generators refuse on two tests, the banks of the input data and the bytes
of one kernel, both on byte counts taken modulo `2^32`. `genMatmul_of_accepts`
and `genMatmul_of_not_accepts` replace the tests by the exact inequalities of
`Accepts`: where one kernel fits a bank nothing wraps, and where it does not the
second test refuses whatever the first one saw. From there a field of a register
is read off the table of the encoder (`get_of_accepts`).

The weights as a whole are not tested. `weight_banks` is computed from them and
then overwritten, so an accepted job may ask for more weight bytes than the
banks left for them (`cbuf_fits_iff`).
-/

namespace Librocket

open Hw Bitfield

/-! ## Byte counts -/

/-- A promoted product widened by `sizeof` and cut to 32 bits is the product
modulo `2^32`. -/
theorem cut_signExtend_mul (a : CInt) (s : U64) :
    (a.signExtend 64 * s).setWidth 32 = a * s.setWidth 32 := by
  rw [BitVec.setWidth_mul _ _ (by decide)]
  congr 1
  apply BitVec.eq_of_getLsbD_eq
  intro i hi
  simp only [BitVec.getLsbD_setWidth, BitVec.getLsbD_signExtend]
  grind

theorem toNat_cbufBanks (b : U32) : (cbufBanks b).toNat = b.toNat ⌈/⌉ 32768 := by
  have hb := b.isLt
  have hdiv : (b / NPU_CBUF_BANK_SIZE).toNat = b.toNat / 32768 := BitVec.toNat_udiv
  have hmod : (b % NPU_CBUF_BANK_SIZE).toNat = b.toNat % 32768 := BitVec.toNat_umod
  rw [Tile.ceilDiv_eq_ite (by decide), ← hmod, ← hdiv]
  unfold cbufBanks
  by_cases h : b % NPU_CBUF_BANK_SIZE = 0
  · rw [if_pos h, if_pos (by rw [h]; rfl)]
  · have hne : (b % NPU_CBUF_BANK_SIZE).toNat ≠ 0 := fun hz => h (BitVec.eq_of_toNat_eq hz)
    rw [if_neg h, if_neg hne, BitVec.toNat_add, hdiv]
    exact Nat.mod_eq_of_lt (by show b.toNat / 32768 + 1 < 2 ^ 32; omega)

/-- `sizeof` of an element, as a number. -/
def MatmulKind.bytes (e : MatmulKind) : ℕ := e.elemSize.toNat

section Sizes

variable {e : MatmulKind} (cna : NpuCnaDesc) (params : MatmulParams)

private theorem toNat_elemSize32 : (e.elemSize.setWidth 32).toNat = e.bytes := by
  rw [BitVec.toNat_setWidth]
  exact Nat.mod_eq_of_lt (lt_trans e.elemSize_lt (by decide))

theorem toNat_weightBytesPerKernel :
    (cnaSizes e cna params).weightBytesPerKernel.toNat = e.bytes * params.k.toNat := by
  have hk := params.k.isLt
  have hle : e.bytes * params.k.toNat < 2 ^ 16 * 2 ^ 16 := Nat.mul_lt_mul'' e.elemSize_lt hk
  have hval : (cnaSizes e cna params).weightBytesPerKernel =
      promote params.k * e.elemSize.setWidth 32 := by
    simp only [cnaSizes, cut_signExtend_mul]
    simp [promote]
  rw [hval, BitVec.toNat_mul, toNat_elemSize32, toNat_promote_u16, Nat.mul_comm]
  exact Nat.mod_eq_of_lt hle

theorem toNat_weightBytes :
    (cnaSizes e cna params).weightBytes.toNat =
      e.bytes * params.k.toNat * params.n.toNat % 2 ^ 32 := by
  have hval : (cnaSizes e cna params).weightBytes =
      (cnaSizes e cna params).weightBytesPerKernel * promote params.n := rfl
  rw [hval, BitVec.toNat_mul, toNat_weightBytesPerKernel, toNat_promote_u16]

theorem toNat_fdBytes :
    (fdBytes e (cnaSizes e cna params)).toNat =
      e.bytes * params.m.toNat * params.k.toNat % 2 ^ 32 := by
  have hval : fdBytes e (cnaSizes e cna params) =
      promote params.m * promote params.k * e.elemSize.setWidth 32 := by
    simp only [fdBytes, cnaSizes, cut_signExtend_mul]
    simp [promote]
  rw [hval, BitVec.toNat_mul, BitVec.toNat_mul, toNat_elemSize32, toNat_promote_u16,
    toNat_promote_u16, Nat.mod_mul_mod]
  congr 1
  ring

end Sizes

/-! ## The two tests -/

/-- The sizes the generators accept, in exact integers. -/
def Accepts (e : MatmulKind) (params : MatmulParams) : Prop :=
  e.bytes * params.m.toNat * params.k.toNat ≤ 11 * 32768 ∧
    e.bytes * params.k.toNat ≤ 32768

instance (e : MatmulKind) (params : MatmulParams) : Decidable (Accepts e params) := by
  unfold Accepts; infer_instance

/-- The banks of the input data. -/
def fdBanksOf (e : MatmulKind) (stack : Stack) (params : MatmulParams) : U32 :=
  cbufBanks (fdBytes e (cnaSizes e stack.cna params))

/-- The descriptors an accepted run hands to `gen_matmul_task`. -/
def finalCna (e : MatmulKind) (stack : Stack) (params : MatmulParams) : NpuCnaDesc :=
  cnaBuffers e (cnaSizes e stack.cna params) params
    (NPU_CBUF_BANKS - fdBanksOf e stack params) (fdBanksOf e stack params)

def finalCore (e : MatmulKind) (stack : Stack) (params : MatmulParams) : NpuCoreDesc :=
  coreOf e stack.core (finalCna e stack params)

def finalDpu (e : MatmulKind) (stack : Stack) (params : MatmulParams) : NpuDpuDesc :=
  dpuOf e stack.dpu (finalCna e stack params) (finalCore e stack params) params

/-- The descriptors an accepted run ends up with. -/
def finalStack (e : MatmulKind) (stack : Stack) (params : MatmulParams) : Stack :=
  { cna := finalCna e stack params
    core := finalCore e stack params
    dpu := finalDpu e stack params }

section Tests

variable {e : MatmulKind} (stack : Stack) {params : MatmulParams}

/-- Where one kernel fits a bank the data byte count does not wrap. -/
theorem fdBytes_exact (hk : e.bytes * params.k.toNat ≤ 32768) :
    (fdBytes e (cnaSizes e stack.cna params)).toNat =
      e.bytes * params.m.toNat * params.k.toNat := by
  have hm := params.m.isLt
  have hle : e.bytes * params.k.toNat * params.m.toNat ≤ 32768 * 65535 :=
    Nat.mul_le_mul hk (by omega)
  have hcomm : e.bytes * params.m.toNat * params.k.toNat =
      e.bytes * params.k.toNat * params.m.toNat := by ring
  rw [toNat_fdBytes, Nat.mod_eq_of_lt (by omega)]

theorem toNat_fdBanksOf (hk : e.bytes * params.k.toNat ≤ 32768) :
    (fdBanksOf e stack params).toNat =
      e.bytes * params.m.toNat * params.k.toNat ⌈/⌉ 32768 := by
  rw [fdBanksOf, toNat_cbufBanks, fdBytes_exact stack hk]

private theorem bank_test : fdBanksOf e stack params > NPU_CBUF_BANKS - 1 ↔
    11 < (fdBanksOf e stack params).toNat :=
  BitVec.lt_def

private theorem kernel_test :
    (cnaSizes e stack.cna params).weightBytesPerKernel ≤ NPU_CBUF_BANK_SIZE ↔
      e.bytes * params.k.toNat ≤ 32768 := by
  rw [← toNat_weightBytesPerKernel stack.cna params]
  exact BitVec.le_def

theorem genMatmul_of_accepts (h : Accepts e params) :
    genMatmul e stack params =
      { ret := 0
        stores := genMatmulTask (finalCna e stack params) (finalCore e stack params)
          (finalDpu e stack params) } := by
  have hbanks : ¬ fdBanksOf e stack params > NPU_CBUF_BANKS - 1 := by
    rw [bank_test, toNat_fdBanksOf stack h.2, Nat.ceilDiv_eq_add_pred_div]
    have := h.1
    omega
  have hkernel := (kernel_test stack).mpr h.2
  unfold fdBanksOf at hbanks
  simp only [genMatmul, if_neg hbanks, if_pos hkernel]
  rfl

theorem genMatmul_of_not_accepts (h : ¬ Accepts e params) :
    ∃ code < 0, genMatmul e stack params = GenResult.refuse code := by
  by_cases hbanks : fdBanksOf e stack params > NPU_CBUF_BANKS - 1
  · refine ⟨-1, by decide, ?_⟩
    unfold fdBanksOf at hbanks
    simp only [genMatmul, if_pos hbanks]
  · have hkernel : ¬ (cnaSizes e stack.cna params).weightBytesPerKernel ≤ NPU_CBUF_BANK_SIZE := by
      rw [kernel_test]
      intro hk
      apply h
      rw [bank_test, toNat_fdBanksOf stack hk, Nat.ceilDiv_eq_add_pred_div] at hbanks
      exact ⟨by omega, hk⟩
    refine ⟨-2, by decide, ?_⟩
    unfold fdBanksOf at hbanks
    simp only [genMatmul, if_neg hbanks, if_neg hkernel]

/-- **Acceptance is exact.** -/
theorem ret_genMatmul_iff : (genMatmul e stack params).ret = 0 ↔ Accepts e params := by
  constructor
  · intro hret
    by_contra h
    obtain ⟨code, hneg, heq⟩ := genMatmul_of_not_accepts stack h
    rw [heq] at hret
    simp only [GenResult.refuse] at hret
    omega
  · intro h
    rw [genMatmul_of_accepts stack h]

/-- Registers of an accepted run, read at the index of the store that writes
them. -/
theorem reg_of_accepts (h : Accepts e params) (before : RegKey → U32) (i : ℕ) {idx : ℕ}
    {op value reg block : U32}
    (ho : (taskOps (finalCna e stack params) (finalCore e stack params)
      (finalDpu e stack params))[i]? = some ⟨idx, op, value, reg⟩)
    (hblock : op.setWidth 16 &&& ~~~(PC_OP_01.setWidth 16) = block.setWidth 16) :
    (genMatmul e stack params).reg before block reg = value := by
  rw [genMatmul_of_accepts stack h]
  exact reg_genMatmulTask _ _ _ before i ho hblock

theorem genMatmul_eq_taskRun (h : Accepts e params) :
    genMatmul e stack params = taskRun (finalStack e stack params) :=
  genMatmul_of_accepts stack h

/-- **A field of a register** of an accepted run, by the table of the encoder. -/
theorem get_of_accepts (h : Accepts e params) (before : RegKey → U32) (i j : ℕ) {unit reg : U32}
    {f : Field 32} {d : DescField} {k : ℕ} (hholds : Holds i j unit reg f d k) :
    f.get ((genMatmul e stack params).reg before unit reg) =
      (d.read (finalStack e stack params)).toNat % 2 ^ k := by
  rw [genMatmul_eq_taskRun stack h]
  exact get_of_holds _ before hholds

/-- A field the encoder leaves clear. -/
theorem get_eq_zero_of_accepts (h : Accepts e params) (before : RegKey → U32) {unit reg : U32}
    {f : Field 32} (hclear : StaysClear unit reg f) :
    f.get ((genMatmul e stack params).reg before unit reg) = 0 := by
  rw [genMatmul_eq_taskRun stack h]
  exact get_of_staysClear _ before hclear

end Tests

/-! ## The programmed split -/

section Split

variable {e : MatmulKind} (stack : Stack) {params : MatmulParams}

omit stack in
/-- At least one bank is left for the weights. -/
theorem dataBanks_le (h : Accepts e params) :
    e.bytes * params.m.toNat * params.k.toNat ⌈/⌉ 32768 ≤ 11 := by
  have := h.1
  rw [Nat.ceilDiv_eq_add_pred_div]
  omega

/-- The split of the CBUF an accepted run programs: the banks of the input,
rounded up, and all others for the weights. -/
theorem cbuf_split (h : Accepts e params) (before : RegKey → U32) :
    let cbuf := (genMatmul e stack params).reg before BLOCK_CNA CNA_CBUF_CON0
    Reg.CNA_CBUF_CON0_DATA_BANK.get cbuf =
        e.bytes * params.m.toNat * params.k.toNat ⌈/⌉ 32768 ∧
      Reg.CNA_CBUF_CON0_WEIGHT_BANK.get cbuf =
        12 - e.bytes * params.m.toNat * params.k.toNat ⌈/⌉ 32768 ∧
      e.bytes * params.m.toNat * params.k.toNat ⌈/⌉ 32768 ≤ 11 := by
  intro cbuf
  have hfd := toNat_fdBanksOf stack h.2
  have hle := dataBanks_le h
  have hdata : (finalCna e stack params).dataBank.toNat = (fdBanksOf e stack params).toNat := by
    show ((fdBanksOf e stack params).setWidth 8).toNat = _
    rw [BitVec.toNat_setWidth]
    omega
  have hweight : (finalCna e stack params).weightBank.toNat =
      12 - (fdBanksOf e stack params).toNat := by
    have hbanks : NPU_CBUF_BANKS.toNat = 12 := rfl
    have hle' : fdBanksOf e stack params ≤ NPU_CBUF_BANKS := by
      rw [BitVec.le_def]
      omega
    show ((NPU_CBUF_BANKS - fdBanksOf e stack params).setWidth 8).toNat = _
    rw [BitVec.toNat_setWidth, BitVec.toNat_sub_of_le hle', hbanks]
    omega
  refine ⟨?_, ?_, hle⟩
  · calc Reg.CNA_CBUF_CON0_DATA_BANK.get cbuf
        = (promote (finalCna e stack params).dataBank).toNat % 2 ^ 4 :=
          get_of_accepts (d := .cnaDataBank) stack h before 11 1 (by decide)
      _ = e.bytes * params.m.toNat * params.k.toNat ⌈/⌉ 32768 := by
          rw [toNat_promote_u8, hdata]
          omega
  · calc Reg.CNA_CBUF_CON0_WEIGHT_BANK.get cbuf
        = (promote (finalCna e stack params).weightBank).toNat % 2 ^ 4 :=
          get_of_accepts (d := .cnaWeightBank) stack h before 11 0 (by decide)
      _ = 12 - e.bytes * params.m.toNat * params.k.toNat ⌈/⌉ 32768 := by
          rw [toNat_promote_u8, hweight]
          omega

/-- The weight byte counts of an accepted run, with nothing wrapped. -/
theorem weight_sizes (h : Accepts e params) (before : RegKey → U32) :
    Reg.CNA_WEIGHT_SIZE0_WEIGHT_BYTES.get
        ((genMatmul e stack params).reg before BLOCK_CNA CNA_WEIGHT_SIZE0) =
        e.bytes * params.k.toNat * params.n.toNat ∧
      Reg.CNA_WEIGHT_SIZE1_WEIGHT_BYTES_PER_KERNEL.get
        ((genMatmul e stack params).reg before BLOCK_CNA CNA_WEIGHT_SIZE1) =
        e.bytes * params.k.toNat := by
  have hk := h.2
  have hn := params.n.isLt
  have hle : e.bytes * params.k.toNat * params.n.toNat ≤ 32768 * 65535 :=
    Nat.mul_le_mul hk (by omega)
  constructor
  · calc Reg.CNA_WEIGHT_SIZE0_WEIGHT_BYTES.get
          ((genMatmul e stack params).reg before BLOCK_CNA CNA_WEIGHT_SIZE0)
        = (cnaSizes e stack.cna params).weightBytes.toNat % 2 ^ 32 :=
          get_of_accepts (d := .cnaWeightBytes) stack h before 8 0 (by decide)
      _ = e.bytes * params.k.toNat * params.n.toNat := by
          rw [toNat_weightBytes]
          omega
  · calc Reg.CNA_WEIGHT_SIZE1_WEIGHT_BYTES_PER_KERNEL.get
          ((genMatmul e stack params).reg before BLOCK_CNA CNA_WEIGHT_SIZE1)
        = (cnaSizes e stack.cna params).weightBytesPerKernel.toNat % 2 ^ 19 :=
          get_of_accepts (d := .cnaWeightBytesPerKernel) stack h before 9 0 (by decide)
      _ = e.bytes * params.k.toNat := by
          rw [toNat_weightBytesPerKernel]
          omega

omit stack in
/-- The whole working set fits the CBUF exactly when the kernel count is at
most what the banks left over by the input can hold. -/
theorem cbuf_fits_iff (h : Accepts e params) (hk : 0 < e.bytes * params.k.toNat) :
    e.bytes * params.m.toNat * params.k.toNat ⌈/⌉ 32768 +
        e.bytes * params.k.toNat * params.n.toNat ⌈/⌉ 32768 ≤ 12 ↔
      params.n.toNat ≤
        (12 - e.bytes * params.m.toNat * params.k.toNat ⌈/⌉ 32768) * 32768 /
          (e.bytes * params.k.toNat) := by
  have hdata := dataBanks_le h
  rw [Nat.le_div_iff_mul_le hk, Nat.mul_comm params.n.toNat]
  generalize e.bytes * params.m.toNat * params.k.toNat ⌈/⌉ 32768 = data at *
  generalize e.bytes * params.k.toNat * params.n.toNat = weights
  rw [Nat.ceilDiv_eq_add_pred_div]
  omega

end Split

/-! ## The two generators -/

/-- What exact acceptance means for a run `r` with element size `s`: the return
value, the programmed sizes of an accepted request, and no store of a refused
one. -/
def AcceptanceExact (s : ℕ) (params : MatmulParams) (r : GenResult) : Prop :=
  let m := params.m.toNat
  let k := params.k.toNat
  let n := params.n.toNat
  (r.ret = 0 ↔ s * m * k ≤ 11 * 32768 ∧ s * k ≤ 32768) ∧
  (r.ret = 0 → ∀ before,
    let cbuf := r.reg before BLOCK_CNA CNA_CBUF_CON0
    let dataBank := Reg.CNA_CBUF_CON0_DATA_BANK.get cbuf
    let weightBank := Reg.CNA_CBUF_CON0_WEIGHT_BANK.get cbuf
    dataBank = s * m * k ⌈/⌉ 32768 ∧
    weightBank + dataBank = 12 ∧
    1 ≤ weightBank ∧
    s * k ≤ weightBank * 32768 ∧
    Reg.CNA_WEIGHT_SIZE0_WEIGHT_BYTES.get (r.reg before BLOCK_CNA CNA_WEIGHT_SIZE0) =
      s * k * n ∧
    Reg.CNA_WEIGHT_SIZE1_WEIGHT_BYTES_PER_KERNEL.get (r.reg before BLOCK_CNA CNA_WEIGHT_SIZE1) =
      s * k) ∧
  (r.ret ≠ 0 → r.ret < 0 ∧ ∀ tasks, r.tasks tasks = tasks)

theorem acceptanceExact_genMatmul (e : MatmulKind) (stack : Stack) (params : MatmulParams) :
    AcceptanceExact e.bytes params (genMatmul e stack params) := by
  refine ⟨ret_genMatmul_iff stack, ?_, ?_⟩
  · intro hret before
    have h : Accepts e params := (ret_genMatmul_iff stack).mp hret
    obtain ⟨hdata, hweight, hle⟩ := cbuf_split stack h before
    obtain ⟨hsize0, hsize1⟩ := weight_sizes stack h before
    have hk := h.2
    exact ⟨hdata, by omega, by omega, by omega, hsize0, hsize1⟩
  · intro hret
    have h : ¬ Accepts e params := fun h => hret ((ret_genMatmul_iff stack).mpr h)
    obtain ⟨code, hneg, heq⟩ := genMatmul_of_not_accepts stack h
    rw [heq]
    exact ⟨hneg, GenResult.tasks_refuse code⟩

/-- **Acceptance is exact despite the 32-bit byte counts**, for both
generators and every size. -/
theorem acceptance_exact (stack : Stack) (params : MatmulParams) :
    AcceptanceExact 2 params (genMatmulFp16 stack params) ∧
      AcceptanceExact 1 params (genMatmulInt8 stack params) :=
  ⟨acceptanceExact_genMatmul fp16Kind stack params,
    acceptanceExact_genMatmul int8Kind stack params⟩

/-- The guarantee the comment over the generators gives: a request is refused
if the CBUF is exceeded. For a run `r` with element size `s`, success means the
input and all the weights fit the 12 banks, and the weight banks programmed
cover the weight bytes programmed. -/
def CbufGuarantee (s : ℕ) (params : MatmulParams) (r : GenResult) : Prop :=
  r.ret = 0 →
    s * params.m.toNat * params.k.toNat ⌈/⌉ 32768 +
      s * params.k.toNat * params.n.toNat ⌈/⌉ 32768 ≤ 12 ∧
    ∀ before,
      Reg.CNA_WEIGHT_SIZE0_WEIGHT_BYTES.get (r.reg before BLOCK_CNA CNA_WEIGHT_SIZE0) ≤
        Reg.CNA_CBUF_CON0_WEIGHT_BANK.get (r.reg before BLOCK_CNA CNA_CBUF_CON0) * 32768

/-- Where the guarantee holds: the request is refused by the two tests there
are, or the kernel count is small enough for the banks left over. -/
def KernelsFit (s : ℕ) (params : MatmulParams) : Prop :=
  11 * 32768 < s * params.m.toNat * params.k.toNat ∨
  32768 < s * params.k.toNat ∨
  params.n.toNat ≤
    (12 - s * params.m.toNat * params.k.toNat ⌈/⌉ 32768) * 32768 / (s * params.k.toNat)

instance (s : ℕ) (params : MatmulParams) : Decidable (KernelsFit s params) := by
  unfold KernelsFit; infer_instance

theorem cbufGuarantee_genMatmul_iff (e : MatmulKind) (stack : Stack) (params : MatmulParams)
    (hk : 0 < e.bytes * params.k.toNat) :
    CbufGuarantee e.bytes params (genMatmul e stack params) ↔ KernelsFit e.bytes params := by
  by_cases h : Accepts e params
  · have hfits := cbuf_fits_iff h hk
    have hret := (ret_genMatmul_iff stack).mpr h
    have hacc := h
    unfold Accepts at hacc
    constructor
    · intro hg
      exact Or.inr (Or.inr (hfits.mp (hg hret).1))
    · rintro (hm | hm | hn) _
      · omega
      · omega
      · refine ⟨hfits.mpr hn, fun before => ?_⟩
        rw [(weight_sizes stack h before).1, (cbuf_split stack h before).2.1, Nat.mul_comm]
        exact (Nat.le_div_iff_mul_le hk).mp hn
  · constructor
    · intro _
      unfold Accepts at h
      unfold KernelsFit
      omega
    · intro _ hret
      exact absurd ((ret_genMatmul_iff stack).mp hret) h

/-- **The CBUF guarantee holds exactly up to a kernel count**, for both
generators. -/
theorem cbuf_guarantee_iff (stack : Stack) (params : MatmulParams) (hk : 1 ≤ params.k.toNat) :
    (CbufGuarantee 2 params (genMatmulFp16 stack params) ↔ KernelsFit 2 params) ∧
      (CbufGuarantee 1 params (genMatmulInt8 stack params) ↔ KernelsFit 1 params) :=
  ⟨cbufGuarantee_genMatmul_iff fp16Kind stack params (by show 0 < 2 * _; omega),
    cbufGuarantee_genMatmul_iff int8Kind stack params (by show 0 < 1 * _; omega)⟩

/-- A 4 x 4096 by 4096 x 64 product in fp16. -/
def wideKernels : MatmulParams :=
  { m := 4, k := 4096, n := 64, inputDma := 0, weightsDma := 0, outputDma := 0, fp32tofp16 := 0 }

theorem cbuf_guarantee_iff_wideKernels :
    (CbufGuarantee 2 wideKernels (genMatmulFp16 default wideKernels) ↔
        KernelsFit 2 wideKernels) ∧
      (CbufGuarantee 1 wideKernels (genMatmulInt8 default wideKernels) ↔
        KernelsFit 1 wideKernels) :=
  cbuf_guarantee_iff default wideKernels (by decide)

/-- One bank of input and sixteen of weights are accepted. -/
theorem cbuf_guarantee_fails :
    ¬ CbufGuarantee 2 wideKernels (genMatmulFp16 default wideKernels) := by
  have hiff := cbufGuarantee_genMatmul_iff fp16Kind default wideKernels (by decide)
  intro h
  have hunfit : ¬ KernelsFit fp16Kind.bytes wideKernels := by decide
  exact hunfit (hiff.mp h)

end Librocket
