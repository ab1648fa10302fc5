import Librocket.Npu.Coverage

/-!
# Two runs of the generators

What two runs have in common. The words of a run are those of its final
descriptors, row by row, and a row depends on the fields it packs; so it is
enough to know in which fields two runs end up apart.

Over one request and two stacks they agree in every field that is read
(`reads_finalStack`): no word carries what the stack held before. The int8 run
on twice the channels and the fp16 run agree in all but the fields that describe
an element (`agree_elementFields`).
-/

namespace Librocket

open Hw

/-! ## Words of a run -/

section Words

variable (s : Stack) (tasks : ℕ → U64)

theorem keys_taskRun : WriteLog.keys (taskRun s).stores = List.range 108 :=
  keys_genMatmulTask s.cna s.core s.dpu

/-- Each row's word is at the row's index. -/
theorem tasks_row {r : TaskRow} (hr : r ∈ taskRows) :
    (taskRun s).tasks tasks r.idx = (r.npuOp s).word := by
  apply WriteLog.apply_of_nodup
  · rw [keys_taskRun]
    exact List.nodup_range
  · have hmem : r.npuOp s ∈ taskOps s.cna s.core s.dpu := by
      rw [taskOps_eq]
      exact List.mem_map_of_mem hr
    exact List.mem_map_of_mem (f := fun o : NpuOp => (o.idx, o.word)) hmem

/-- The words behind the task stay as they were. -/
theorem tasks_beyond {i : ℕ} (hi : 108 ≤ i) : (taskRun s).tasks tasks i = tasks i := by
  apply WriteLog.apply_of_not_mem
  rw [keys_taskRun, List.mem_range]
  omega

theorem exists_row {i : ℕ} (hi : i < 108) : ∃ r ∈ taskRows, r.idx = i := by
  have hidx : taskRows.map TaskRow.idx = List.range 108 := rfl
  have hmem : i ∈ taskRows.map TaskRow.idx := by
    rw [hidx]
    exact List.mem_range.mpr hi
  exact List.mem_map.mp hmem

end Words

/-- Two triples of descriptors agree in every field that is read, but for
some. -/
def AgreeExcept (except : List DescField) (s s' : Stack) : Prop :=
  ∀ d : DescField, d ∉ except → d.read s = d.read s'

/-- **A word whose row packs none of the excepted fields is the same** in both
runs. -/
theorem AgreeExcept.tasks_eq {except : List DescField} {s s' : Stack}
    (h : AgreeExcept except s s') (tasks tasks' : ℕ → U64) {r : TaskRow} (hr : r ∈ taskRows)
    (hrow : ∀ p ∈ r.pieces, p.src ∉ except) :
    (taskRun s).tasks tasks r.idx = (taskRun s').tasks tasks' r.idx := by
  have hvalue : r.value s = r.value s' :=
    TaskRow.value_congr fun p hp => h p.src (hrow p hp)
  rw [tasks_row s tasks hr, tasks_row s' tasks' hr, TaskRow.npuOp, TaskRow.npuOp, hvalue]

/-! ## The descriptors of a run -/

/-- **Every field that is read has been assigned**: none depends on what the
stack held. -/
theorem reads_finalStack (e : MatmulKind) (stack stack' : Stack) (params : MatmulParams)
    (d : DescField) :
    d.read (finalStack e stack params) = d.read (finalStack e stack' params) := by
  cases d <;> rfl

/-- What independence of the stack means for a generator: an accepted request
is accepted over any other stack, with the same words and nothing behind
them touched. -/
def StackFree (gen : Stack → MatmulParams → GenResult) (params : MatmulParams) : Prop :=
  ∀ (stack stack' : Stack) (tasks tasks' : ℕ → U64), (gen stack params).ret = 0 →
    (gen stack' params).ret = 0 ∧
    (∀ i < 108, (gen stack params).tasks tasks i = (gen stack' params).tasks tasks' i) ∧
    ∀ i, 108 ≤ i → (gen stack params).tasks tasks i = tasks i ∧
      (gen stack' params).tasks tasks' i = tasks' i

theorem stackFree_genMatmul (e : MatmulKind) (params : MatmulParams) :
    StackFree (genMatmul e) params := by
  intro stack stack' tasks tasks' hret
  have h : Accepts e params := (ret_genMatmul_iff stack).mp hret
  have hagree : AgreeExcept [] (finalStack e stack params) (finalStack e stack' params) :=
    fun d _ => reads_finalStack e stack stack' params d
  rw [genMatmul_eq_taskRun stack h, genMatmul_eq_taskRun stack' h]
  refine ⟨rfl, ?_, ?_⟩
  · intro i hi
    obtain ⟨r, hr, rfl⟩ := exists_row hi
    exact hagree.tasks_eq tasks tasks' hr fun p _ => List.not_mem_nil
  · intro i hi
    exact ⟨tasks_beyond _ tasks hi, tasks_beyond _ tasks' hi⟩

/-- **The stream depends on the parameters only**, for both generators. -/
theorem stream_stack_free (params : MatmulParams) :
    StackFree genMatmulFp16 params ∧ StackFree genMatmulInt8 params :=
  ⟨stackFree_genMatmul fp16Kind params, stackFree_genMatmul int8Kind params⟩

/-- A small request, over a stack of zeros and over one that is not. -/
theorem stream_stack_free_dirty :
    let params : MatmulParams := { (default : MatmulParams) with m := 4, k := 32, n := 16 }
    let dirty : Stack := { (default : Stack) with core.dataoutWidth := 7, dpu.outPrecision := 3 }
    dirty ≠ default ∧ (genMatmulFp16 default params).ret = 0 ∧
      (genMatmulFp16 dirty params).ret = 0 ∧ ∀ (tasks tasks' : ℕ → U64), ∀ i < 108,
        (genMatmulFp16 default params).tasks tasks i =
          (genMatmulFp16 dirty params).tasks tasks' i := by
  intro params dirty
  have hdirty : dirty ≠ default := by
    intro heq
    have hwidth := congrArg (fun s : Stack => s.core.dataoutWidth) heq
    revert hwidth
    decide
  have hret : (genMatmulFp16 default params).ret = 0 := (ret_genMatmul_iff default).mpr (by decide)
  have hfree : StackFree genMatmulFp16 params := (stream_stack_free params).1
  refine ⟨hdirty, hret, (hfree default dirty (fun _ => 0) (fun _ => 0) hret).1, ?_⟩
  intro tasks tasks' i hi
  exact (hfree default dirty tasks tasks' hret).2.1 i hi

/-! ## Element sizes -/

/-- The registers that describe an element or count channels. -/
def elementRegs : List U32 :=
  [CNA_CONV_CON1, CNA_DATA_SIZE1, CNA_FC_DATA_SIZE1, CORE_MISC_CFG, DPU_DATA_FORMAT,
    DPU_BS_OW_CFG, DPU_OUT_CVT_SCALE, DPU_SURFACE_ADD]

/-- Their places in the stream. -/
def elementWords : List ℕ := (taskRows.filter fun r => r.reg ∈ elementRegs).map TaskRow.idx

example : elementWords = [1, 5, 27, 49, 55, 67, 80, 90] := by decide

/-- The descriptor fields they hold. -/
def elementFields : List DescField :=
  [.cnaInPrecision, .cnaProcPrecision, .cnaDatainChannel, .cnaDmaChannel, .coreProcPrecision,
    .coreQdEn, .dpuOutPrecision, .dpuInPrecision, .dpuProcPrecision, .dpuSizeE2, .dpuSizeE1,
    .dpuSizeE0, .dpuFp32tofp16En, .dpuSurfAdd]

theorem elementFields_rows {r : TaskRow} (hr : r ∈ taskRows) (hreg : r.reg ∉ elementRegs) :
    ∀ p ∈ r.pieces, p.src ∉ elementFields := by
  have hall : (taskRows.all fun r =>
      r.reg ∈ elementRegs || r.pieces.all fun p => p.src ∉ elementFields) = true := by
    decide +kernel
  have hrow := List.all_eq_true.mp hall r hr
  intro p hp
  rw [decide_eq_false hreg, Bool.false_or] at hrow
  exact of_decide_eq_true (List.all_eq_true.mp hrow p hp)

/-- **Two kinds agree in all fields but those of the element**, once the bytes
of a kernel, the banks of the input and the entries of a row are the same. -/
theorem agree_elementFields {e e' : MatmulKind} (stack stack' : Stack) {params : MatmulParams}
    {k : U16} {flag : U8}
    (hkernel : (cnaSizes e stack.cna params).weightBytesPerKernel =
      (cnaSizes e' stack'.cna { params with k := k, fp32tofp16 := flag }).weightBytesPerKernel)
    (hbanks : fdBanksOf e stack params =
      fdBanksOf e' stack' { params with k := k, fp32tofp16 := flag })
    (hentries : (finalCna e stack params).dataEntries =
      (finalCna e' stack' { params with k := k, fp32tofp16 := flag }).dataEntries) :
    AgreeExcept elementFields (finalStack e stack params)
      (finalStack e' stack' { params with k := k, fp32tofp16 := flag }) := by
  intro d hd
  cases d
  case cnaWeightBytesPerKernel => exact hkernel
  case cnaWeightBytes => exact congrArg (· * promote params.n) hkernel
  case cnaWeightBank =>
    exact congrArg (fun banks => promote ((NPU_CBUF_BANKS - banks).setWidth 8)) hbanks
  case cnaDataBank => exact congrArg (fun banks => promote (banks.setWidth 8)) hbanks
  case cnaDataEntries => exact congrArg promote hentries
  all_goals first | exact absurd (by decide) hd | rfl

/-- The int8 request for the same bytes: twice the channels, and any value of
the flag int8 does not read. -/
def doubled (params : MatmulParams) (flag : U8) : MatmulParams :=
  { params with k := 2 * params.k, fp32tofp16 := flag }

section Doubled

variable (stack stack' : Stack) {params : MatmulParams} (flag : U8)
  (hk : 2 * params.k.toNat ≤ 65535)

include hk

theorem toNat_doubled : (doubled params flag).k.toNat = 2 * params.k.toNat := by
  show (2 * params.k).toNat = 2 * params.k.toNat
  rw [BitVec.toNat_mul]
  exact Nat.mod_eq_of_lt (Nat.lt_of_le_of_lt hk (by decide))

theorem weightBytesPerKernel_doubled :
    (cnaSizes fp16Kind stack.cna params).weightBytesPerKernel =
      (cnaSizes int8Kind stack'.cna (doubled params flag)).weightBytesPerKernel := by
  apply BitVec.eq_of_toNat_eq
  rw [toNat_weightBytesPerKernel, toNat_weightBytesPerKernel, toNat_doubled flag hk]
  show 2 * params.k.toNat = 1 * (2 * params.k.toNat)
  rw [Nat.one_mul]

theorem fdBanksOf_doubled :
    fdBanksOf fp16Kind stack params = fdBanksOf int8Kind stack' (doubled params flag) := by
  have hbytes : fdBytes fp16Kind (cnaSizes fp16Kind stack.cna params) =
      fdBytes int8Kind (cnaSizes int8Kind stack'.cna (doubled params flag)) := by
    apply BitVec.eq_of_toNat_eq
    rw [toNat_fdBytes, toNat_fdBytes, toNat_doubled flag hk]
    show 2 * params.m.toNat * params.k.toNat % 2 ^ 32 =
      1 * params.m.toNat * (2 * params.k.toNat) % 2 ^ 32
    congr 1
    ring
  rw [fdBanksOf, fdBanksOf, hbytes]

theorem dataEntries_doubled :
    (finalCna fp16Kind stack params).dataEntries =
      (finalCna int8Kind stack' (doubled params flag)).dataEntries := by
  apply BitVec.eq_of_toNat_eq
  rw [toNat_dataEntries stack (by decide) rfl, toNat_dataEntries stack' (by decide) rfl,
    toNat_doubled flag hk]
  show params.k.toNat ⌈/⌉ 32 = 2 * params.k.toNat ⌈/⌉ 64
  rw [Nat.ceilDiv_eq_add_pred_div, Nat.ceilDiv_eq_add_pred_div]
  omega

end Doubled

/-- The return value, by the two tests. -/
theorem ret_genMatmul (e : MatmulKind) (stack : Stack) (params : MatmulParams) :
    (genMatmul e stack params).ret =
      if fdBanksOf e stack params > NPU_CBUF_BANKS - 1 then -1
      else if (cnaSizes e stack.cna params).weightBytesPerKernel ≤ NPU_CBUF_BANK_SIZE then 0
      else -2 := by
  by_cases hbanks : fdBanksOf e stack params > NPU_CBUF_BANKS - 1
  · rw [if_pos hbanks]
    unfold fdBanksOf at hbanks
    simp only [genMatmul, if_pos hbanks, GenResult.refuse]
  · rw [if_neg hbanks]
    unfold fdBanksOf at hbanks
    split
    case isTrue hkernel => simp only [genMatmul, if_neg hbanks, if_pos hkernel]
    case isFalse hkernel => simp only [genMatmul, if_neg hbanks, if_neg hkernel, GenResult.refuse]

/-- **One generator up to element size**: on twice the channels int8 returns
what fp16 does, and where that is zero the streams differ at most in the words
that describe an element. -/
theorem int8_twice_fp16 (stack stack' : Stack) (params : MatmulParams) (flag : U8)
    (hk : 2 * params.k.toNat ≤ 65535) :
    let fp16 := genMatmulFp16 stack params
    let int8 := genMatmulInt8 stack' (doubled params flag)
    int8.ret = fp16.ret ∧
    (fp16.ret = 0 → ∀ (tasks tasks' : ℕ → U64), ∀ i < 108, i ∉ elementWords →
      int8.tasks tasks i = fp16.tasks tasks' i) := by
  intro fp16 int8
  have hret : int8.ret = fp16.ret := by
    show (genMatmul int8Kind stack' (doubled params flag)).ret =
      (genMatmul fp16Kind stack params).ret
    rw [ret_genMatmul, ret_genMatmul, fdBanksOf_doubled stack stack' flag hk,
      weightBytesPerKernel_doubled stack stack' flag hk]
  refine ⟨hret, ?_⟩
  intro hzero tasks tasks' i hi hword
  have h : Accepts fp16Kind params := (ret_genMatmul_iff stack).mp hzero
  have h' : Accepts int8Kind (doubled params flag) :=
    (ret_genMatmul_iff stack').mp (hret.trans hzero)
  obtain ⟨r, hr, rfl⟩ := exists_row hi
  have hreg : r.reg ∉ elementRegs := by
    intro hreg
    apply hword
    exact List.mem_map_of_mem (List.mem_filter.mpr ⟨hr, decide_eq_true hreg⟩)
  have hagree := agree_elementFields stack stack'
    (weightBytesPerKernel_doubled stack stack' flag hk)
    (fdBanksOf_doubled stack stack' flag hk) (dataEntries_doubled stack stack' flag hk)
  have hwords := hagree.tasks_eq tasks' tasks hr (elementFields_rows hr hreg)
  show (genMatmul int8Kind stack' (doubled params flag)).tasks tasks r.idx =
    (genMatmul fp16Kind stack params).tasks tasks' r.idx
  rw [genMatmul_eq_taskRun stack h, genMatmul_eq_taskRun stack' h']
  exact hwords.symm

/-- The job of 32 fp16 or 64 int8 channels: both are accepted. -/
theorem int8_twice_fp16_aligned :
    let params : MatmulParams := { (default : MatmulParams) with m := 4, k := 32, n := 16 }
    (genMatmulFp16 default params).ret = 0 ∧ (genMatmulInt8 default (doubled params 1)).ret = 0 ∧
      ∀ (tasks tasks' : ℕ → U64), ∀ i < 108, i ∉ elementWords →
        (genMatmulInt8 default (doubled params 1)).tasks tasks i =
          (genMatmulFp16 default params).tasks tasks' i := by
  intro params
  have hret : (genMatmulFp16 default params).ret = 0 := (ret_genMatmul_iff default).mpr (by decide)
  obtain ⟨hcode, hwords⟩ := int8_twice_fp16 default default params 1 (by decide)
  exact ⟨hret, hcode.trans hret, hwords hret⟩

end Librocket
