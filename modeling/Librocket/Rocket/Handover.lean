import Librocket.Rocket.Submit

/-!
# What a submit hands over, and what it keeps

A submit describes one job with one task to the kernel, with the handles of the
bos it was given, and on whichever path it leaves, every array it allocated has
been freed once, after the kernel was done with it.
-/

namespace Librocket.Rocket.Submit

def Call.isSubmit : Call → Bool
  | .submit .. => true
  | _ => false

def Call.isFree : Call → Bool
  | .free .. => true
  | _ => false

/-- A call that frees what is at `addr`. -/
def Call.frees (addr : Addr) : Call → Bool
  | .free addr' _ => addr' == addr
  | _ => false

/-- A pointer, a count and what is found there stand for `bos`: the handles in
order, and `NULL` exactly where there are none. -/
structure BoArray.Stands (bos : BoArray) (addr : U64) (count : U32) (handles : List U32) :
    Prop where
  handles_eq : handles = bos.handles
  count_eq : count.toNat = bos.handles.length
  null_iff : addr = NULL ↔ count = 0

/-- One task, and the two arrays. -/
structure JobRead.HandsOver (read : JobRead) (inBos outBos : BoArray) : Prop where
  one_task : read.tasks.length = 1
  inBos : inBos.Stands read.job.inBoHandles read.job.inBoHandleCount read.inBos
  outBos : outBos.Stands read.job.outBoHandles read.job.outBoHandleCount read.outBos

/-- **What a submit owes its caller**, given the code it returns and the calls it
makes. -/
structure Handover (ctx : RocketCtx) (inBos outBos : BoArray) (ret : ℤ) (calls : List Call) :
    Prop where
  handed : (ret = -ENOMEM.code ∧ (∃ count, .calloc count none ∈ calls) ∧
      calls.filter Call.isSubmit = []) ∨
    ∃ request read outcome,
      calls.filter Call.isSubmit = [.submit ctx.fd request (some [read]) outcome] ∧
        read.HandsOver inBos outBos
  freed_once : ∀ count (ptr : Ptr), .calloc count (some ptr) ∈ calls →
    calls.countP (Call.frees ptr) = 1
  freed_valid : ∀ addr valid, .free addr valid ∈ calls → valid = true
  freed_after : calls.Pairwise fun c c' => c.isFree → ¬ c'.isSubmit
  ret_zero_iff : ret = 0 ↔ ∃ fd request jobs, .submit fd request jobs (.ok ()) ∈ calls
  ret_neg : ret ≠ 0 → ret < 0

/-! ## Allocations in a trace -/

section Allocated

variable {a : Option Ptr} {count : U32} {c : Call} {addr : Addr}

theorem mem_allocated :
    c ∈ allocated count a ↔ ∃ ptr, a = some ptr ∧ c = .calloc count (some ptr) := by
  cases a with
  | none => simp [allocated]
  | some ptr => simp [allocated]

@[simp] theorem filter_allocated : (allocated count a).filter Call.isSubmit = [] := by
  rw [List.filter_eq_nil_iff]
  intro c hc
  obtain ⟨ptr, -, rfl⟩ := mem_allocated.mp hc
  simp [Call.isSubmit]

@[simp] theorem countP_allocated : (allocated count a).countP (Call.frees addr) = 0 := by
  rw [List.countP_eq_zero]
  intro c hc
  obtain ⟨ptr, -, rfl⟩ := mem_allocated.mp hc
  simp [Call.frees]

theorem not_isFree_allocated (hc : c ∈ allocated count a) : c.isFree = false := by
  obtain ⟨ptr, -, rfl⟩ := mem_allocated.mp hc
  rfl

/-- Allocations go before anything. -/
theorem pairwise_allocated {calls : List Call}
    (h : calls.Pairwise fun c c' => c.isFree → ¬ c'.isSubmit) :
    (allocated count a ++ calls).Pairwise fun c c' => c.isFree → ¬ c'.isSubmit := by
  rw [List.pairwise_append]
  refine ⟨List.pairwise_of_forall_mem_list ?_, h, ?_⟩
  · intro c hc c' _ hfree
    simp [not_isFree_allocated hc] at hfree
  · intro c hc c' _ hfree
    simp [not_isFree_allocated hc] at hfree

theorem pointer_eq_iff {ptr : Ptr} : pointer a = ptr.1 ↔ a = some ptr := by
  cases a with
  | none => simpa [pointer] using ptr.2.symm
  | some ptr' => simp [pointer, Subtype.ext_iff]

end Allocated

section

variable {env : SubmitEnv} {ctx : RocketCtx} {regcmdBo : RocketBo} {regcmdCount : U32}
  {inBos outBos : BoArray}

theorem pointer_null_iff {bos : BoArray} {outcome : Option Ptr} (h : ¬ bos.Refused outcome) :
    pointer (bos.array outcome) = NULL ↔ bos.count = 0 := by
  by_cases hcount : bos.count = 0
  · simp [array_of_eq hcount, pointer, hcount]
  · cases outcome with
    | none => exact absurd ⟨hcount, rfl⟩ h
    | some ptr => exact iff_of_false (by rw [array_of_ne hcount]; exact ptr.2) hcount

theorem submitRead_handsOver (hin : ¬ inBos.Refused env.callocIn)
    (hout : ¬ outBos.Refused env.callocOut) :
    (submitRead env regcmdBo regcmdCount inBos outBos).HandsOver inBos outBos where
  one_task := rfl
  inBos := ⟨rfl, inBos.length_handles.symm, pointer_null_iff hin⟩
  outBos := ⟨rfl, outBos.length_handles.symm, pointer_null_iff hout⟩

/-! ## Every way a submit can end -/

theorem handover_in_refused :
    Handover ctx inBos outBos (-ENOMEM.code) [.calloc inBos.count none] where
  handed := Or.inl ⟨rfl, ⟨inBos.count, by simp⟩, by simp [Call.isSubmit]⟩
  freed_once := by simp
  freed_valid := by simp
  freed_after := by simp
  ret_zero_iff := by simp [ENOMEM]
  ret_neg _ := by decide

theorem handover_out_refused {a : Option Ptr} : Handover ctx inBos outBos (-ENOMEM.code)
    (allocated inBos.count a ++ [.calloc outBos.count none, .free (pointer a) true]) where
  handed := Or.inl ⟨rfl, ⟨outBos.count, by simp⟩, by simp [Call.isSubmit]⟩
  freed_once := by
    intro count ptr hmem
    simp only [List.mem_append, mem_allocated] at hmem
    rcases hmem with ⟨ptr', rfl, heq⟩ | hmem
    · cases heq
      simp [Call.frees, pointer]
    · simp at hmem
  freed_valid := by simp [mem_allocated]
  freed_after := pairwise_allocated (by simp [Call.isFree])
  ret_zero_iff := by simp [mem_allocated, ENOMEM]
  ret_neg _ := by decide

theorem filter_submitCalls :
    (submitCalls env ctx regcmdBo regcmdCount inBos outBos).filter Call.isSubmit =
      [.submit ctx.fd (submitRequest env.job)
        (some [submitRead env regcmdBo regcmdCount inBos outBos]) env.submit] := by
  simp only [submitCalls, List.filter_append, filter_allocated]
  rfl

section Issued

variable {tail : List Call} (htail : ∀ c ∈ tail, ∃ text, c = .perror text)
include htail

theorem filter_issued : (submitCalls env ctx regcmdBo regcmdCount inBos outBos ++ tail).filter
      Call.isSubmit = [.submit ctx.fd (submitRequest env.job)
        (some [submitRead env regcmdBo regcmdCount inBos outBos]) env.submit] := by
  have hquiet : tail.filter Call.isSubmit = [] := by
    rw [List.filter_eq_nil_iff]
    intro c hc
    obtain ⟨text, rfl⟩ := htail c hc
    simp [Call.isSubmit]
  rw [List.filter_append, filter_submitCalls, hquiet, List.append_nil]

theorem submit_mem_issued {fd : CInt} {request : DrmRocketSubmit} {jobs : Option (List JobRead)}
    {outcome : Except Errno Unit} :
    .submit fd request jobs outcome ∈
        submitCalls env ctx regcmdBo regcmdCount inBos outBos ++ tail ↔
      Call.submit fd request jobs outcome = .submit ctx.fd (submitRequest env.job)
        (some [submitRead env regcmdBo regcmdCount inBos outBos]) env.submit := by
  rw [← List.mem_singleton, ← filter_issued htail, List.mem_filter]
  simp [Call.isSubmit]

theorem countP_issued (addr : Addr) :
    (submitCalls env ctx regcmdBo regcmdCount inBos outBos ++ tail).countP (Call.frees addr) =
      (if pointer (inBos.array env.callocIn) = addr then 1 else 0) +
        if pointer (outBos.array env.callocOut) = addr then 1 else 0 := by
  have hquiet : tail.countP (Call.frees addr) = 0 := by
    rw [List.countP_eq_zero]
    intro c hc
    obtain ⟨text, rfl⟩ := htail c hc
    simp [Call.frees]
  simp only [submitCalls, List.countP_append, countP_allocated, hquiet]
  simp [List.countP_cons, Call.frees, add_comm]

theorem handover_issued {m : Memory} {ret : ℤ} (h : env.Lawful inBos outBos m)
    (hin : ¬ inBos.Refused env.callocIn) (hout : ¬ outBos.Refused env.callocOut)
    (hret : ret = 0 ↔ env.submit = .ok ()) (hneg : ret ≠ 0 → ret < 0) :
    Handover ctx inBos outBos ret (submitCalls env ctx regcmdBo regcmdCount inBos outBos ++ tail)
    where
  handed := Or.inr ⟨_, _, _, filter_issued htail, submitRead_handsOver hin hout⟩
  freed_once := by
    intro count ptr hmem
    simp only [countP_issued htail, pointer_eq_iff]
    rcases List.mem_append.mp hmem with hmem | hmem
    · simp only [submitCalls, List.mem_append, mem_allocated] at hmem
      rcases hmem with (⟨ptr', hptr, heq⟩ | ⟨ptr', hptr, heq⟩) | hmem
      · cases heq
        have hother : outBos.array env.callocOut ≠ some ptr :=
          fun hptr' => h.arrays_ne hptr hptr' rfl
        rw [if_pos hptr, if_neg hother]
      · cases heq
        have hother : inBos.array env.callocIn ≠ some ptr :=
          fun hptr' => h.arrays_ne hptr' hptr rfl
        rw [if_neg hother, if_pos hptr]
      · simp at hmem
    · obtain ⟨text, heq⟩ := htail _ hmem
      cases heq
  freed_valid := by
    intro addr valid hmem
    rcases List.mem_append.mp hmem with hmem | hmem
    · simp only [submitCalls, List.mem_append, mem_allocated] at hmem
      rcases hmem with (⟨ptr, -, heq⟩ | ⟨ptr, -, heq⟩) | hmem
      · cases heq
      · cases heq
      · simp at hmem
        rcases hmem with ⟨-, rfl⟩ | ⟨-, rfl⟩ <;> rfl
    · obtain ⟨text, heq⟩ := htail _ hmem
      cases heq
  freed_after := by
    -- Nothing before the `SUBMIT` is a free, and nothing after it a `SUBMIT`.
    rw [submitCalls, List.append_assoc, List.append_assoc]
    refine pairwise_allocated (pairwise_allocated ?_)
    refine List.pairwise_cons.mpr ⟨by simp [Call.isFree], List.pairwise_of_forall_mem_list ?_⟩
    intro c _ c' hc' _
    rcases List.mem_append.mp hc' with hc' | hc'
    · simp only [List.mem_cons, List.not_mem_nil, or_false] at hc'
      rcases hc' with rfl | rfl <;> simp [Call.isSubmit]
    · obtain ⟨text, rfl⟩ := htail c' hc'
      simp [Call.isSubmit]
  ret_zero_iff := by
    rw [hret]
    constructor
    · intro hsubmit
      exact ⟨_, _, _, (submit_mem_issued htail).mpr (by rw [hsubmit])⟩
    · rintro ⟨fd, request, jobs, hmem⟩
      obtain ⟨-, -, -, hsubmit⟩ := Call.submit.inj ((submit_mem_issued htail).mp hmem)
      exact hsubmit.symm
  ret_neg := hneg

end Issued

/-- **Exactly the buffers given, and nothing kept**, for bos of any number and
whatever fails. -/
theorem rocketSubmit_handover {p : Process} (h : env.Lawful inBos outBos p.memory) :
    ∃ calls, (rocketSubmit env ctx regcmdBo regcmdCount inBos outBos p).2.trace =
        p.trace ++ calls ∧
      (rocketSubmit env ctx regcmdBo regcmdCount inBos outBos p).2.memory = p.memory ∧
      Handover ctx inBos outBos
        (rocketSubmit env ctx regcmdBo regcmdCount inBos outBos p).1 calls := by
  have hend : SubmitEnd env ctx regcmdBo regcmdCount inBos outBos p _ _ := rocketSubmit_end h
  generalize rocketSubmit env ctx regcmdBo regcmdCount inBos outBos p = r at hend ⊢
  obtain ⟨ret, p'⟩ := r
  dsimp only at hend ⊢
  cases hend with
  | in_refused hin hmemory htrace => exact ⟨_, htrace, hmemory, handover_in_refused⟩
  | out_refused hin hout hmemory htrace => exact ⟨_, htrace, hmemory, handover_out_refused⟩
  | @failed e _ hin hout hsubmit hmemory htrace =>
      have hneg := neg_neg_of_pos (e.after (env.left inBos outBos)).pos
      refine ⟨_, htrace, hmemory, handover_issued (by simp) h hin hout ?_ fun _ => hneg⟩
      exact iff_of_false hneg.ne (by simp [hsubmit])
  | submitted hin hout hsubmit hmemory htrace =>
      refine ⟨_, htrace.trans (by rw [List.append_nil]), hmemory,
        handover_issued (by simp) h hin hout (iff_of_true rfl hsubmit) fun hne => absurd rfl hne⟩

end

/-- Two input bos, one output bo, and addresses apart from each other. -/
def twoIn : BoArray := { count := 2, bo := fun i => ⟨3, 5 + i.val, 0x10000, 4096, NULL⟩ }

def oneOut : BoArray := { count := 1, bo := fun _ => ⟨3, 9, 0x20000, 4096, NULL⟩ }

def apartEnv (submit : Except Errno Unit) : SubmitEnv where
  callocIn := some ⟨0x1000, by decide⟩
  callocOut := some ⟨0x2000, by decide⟩
  task := 0x7000
  job := 0x7010
  submit := submit

def emptyProcess : Process := { memory := fun _ => none, errno := 0, trace := [] }

theorem apartEnv_lawful (submit : Except Errno Unit) :
    (apartEnv submit).Lawful twoIn oneOut emptyProcess.memory where
  in_free _ := rfl
  out_free _ := rfl
  arrays_ne := by
    rintro _ _ ⟨⟩ ⟨⟩
    decide
  in_frame := by
    rintro _ ⟨⟩
    exact ⟨(by decide : (0x1000 : Addr) ≠ 0x7000), (by decide : (0x1000 : Addr) ≠ 0x7010)⟩
  out_frame := by
    rintro _ ⟨⟩
    exact ⟨(by decide : (0x2000 : Addr) ≠ 0x7000), (by decide : (0x2000 : Addr) ≠ 0x7010)⟩
  frame_ne := (by decide : (0x7000 : Addr) ≠ 0x7010)

/-- A submit the kernel refuses. -/
def refusedSubmit : ℤ × Process :=
  rocketSubmit (apartEnv (.error EINVAL)) ⟨3⟩ ⟨3, 1, 0x30000, 4096, NULL⟩ 108 twoIn oneOut
    emptyProcess

theorem rocketSubmit_handover_refused :
    refusedSubmit.2.memory = emptyProcess.memory ∧
      Handover ⟨3⟩ twoIn oneOut refusedSubmit.1 refusedSubmit.2.trace := by
  obtain ⟨calls, htrace, hmemory, hover⟩ :
      ∃ calls, refusedSubmit.2.trace = emptyProcess.trace ++ calls ∧
        refusedSubmit.2.memory = emptyProcess.memory ∧
        Handover ⟨3⟩ twoIn oneOut refusedSubmit.1 calls :=
    rocketSubmit_handover (apartEnv_lawful (.error EINVAL))
  exact ⟨hmemory, htrace ▸ hover⟩

end Librocket.Rocket.Submit
