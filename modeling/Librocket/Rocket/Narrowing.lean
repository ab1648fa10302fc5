import Librocket.Rocket.Handover
import Librocket.Rocket.Mapping

/-!
# 64-bit values in 32-bit fields

`rocket_bo_create` takes a `size_t` and `rocket_submit` the `uint64_t dma_addr`
of a bo, but `CREATE_BO` and a task have room for 32 bits of them. Nothing
checks, so a bo of `2 ^ 32` bytes and more is smaller than its `size` and its
mapping say, and a task for a bo beyond the first 4 GiB is fetched elsewhere.
-/

namespace Librocket.Rocket

/-- **Nothing of the size is lost**: the create fails and leaves no object, or
the `CREATE_BO` request, `*bo` and the mapping all have it. -/
def CreateCarries (env : CreateEnv) (ctx : RocketCtx) (bo : RocketBo) (size : U64) (w : World) :
    Prop :=
  let r := rocketBoCreate env ctx bo size w
  (r.1.1 < 0 ∧ ∀ reply, env.createBo = .ok reply → reply.handle ∉ r.2.handles) ∨
    ∃ request created length offset mapped calls,
      r.2.trace = w.trace ++ .createBo request created :: .mmap length offset mapped :: calls ∧
        request.size.toNat = size.toNat ∧ r.1.2.size = size ∧ length = size ∧
        ∀ addr, mapped = .ok addr → (r.2.mappings addr).map Region.length = some size

/-- A submit fails without a `SUBMIT`, or the one task it submits has the address
of the bo and the count. -/
def TaskCarries (ctx : RocketCtx) (regcmdBo : RocketBo) (regcmdCount : U32) (ret : ℤ)
    (calls : List Submit.Call) : Prop :=
  (ret < 0 ∧ calls.filter Submit.Call.isSubmit = []) ∨
    ∃ request read task outcome, calls.filter Submit.Call.isSubmit =
        [.submit ctx.fd request (some [read]) outcome] ∧ read.tasks = [task] ∧
      task.regcmd.toNat = regcmdBo.dmaAddr.toNat ∧ task.regcmdCount.toNat = regcmdCount.toNat

/-- **Nothing of the task is lost.** -/
def SubmitCarries (env : Submit.SubmitEnv) (ctx : RocketCtx) (regcmdBo : RocketBo)
    (regcmdCount : U32) (inBos outBos : Submit.BoArray) (p : Submit.Process) : Prop :=
  let r := Submit.rocketSubmit env ctx regcmdBo regcmdCount inBos outBos p
  ∃ calls, r.2.trace = p.trace ++ calls ∧ TaskCarries ctx regcmdBo regcmdCount r.1 calls

theorem toNat_setWidth_eq_iff (x : U64) : (x.setWidth 32).toNat = x.toNat ↔ x.toNat < 2 ^ 32 := by
  rw [BitVec.toNat_setWidth]
  exact Nat.mod_eq_iff_lt (by decide)

/-! ## Creating -/

/-- No object is left: none was made, or it was closed after its mapping failed. -/
def CreateEnv.LeavesNothing (env : CreateEnv) : Prop :=
  (∃ e, env.createBo = .error e) ∨ (∃ e, env.mmap = .error e) ∧ env.close = none

section Create

variable {env : CreateEnv} {ctx : RocketCtx} {bo : RocketBo} {size : U64} {w : World}
  {reply : CreateReply}

/-- Where there is an object, its size has been cut to 32 bits. -/
theorem createCarries_object_iff {calls : List Event} (hcreate : env.createBo = .ok reply)
    (htrace : (rocketBoCreate env ctx bo size w).2.trace = w.trace ++
      .createBo (createRequest size) env.createBo :: .mmap size reply.offset env.mmap :: calls)
    (hsize : (rocketBoCreate env ctx bo size w).1.2.size = size)
    (hlength : ∀ addr, env.mmap = .ok addr →
      ((rocketBoCreate env ctx bo size w).2.mappings addr).map Region.length = some size) :
    CreateCarries env ctx bo size w ↔ size.toNat < 2 ^ 32 ∨
      ((rocketBoCreate env ctx bo size w).1.1 < 0 ∧
        reply.handle ∉ (rocketBoCreate env ctx bo size w).2.handles) := by
  rw [CreateCarries, or_comm]
  refine or_congr ?_ ?_
  · rw [← toNat_setWidth_eq_iff]
    constructor
    · rintro ⟨request, created, length, offset, mapped, calls', htrace', hrequest, -⟩
      obtain ⟨heq, -⟩ := List.cons.inj (List.append_cancel_left (htrace.symm.trans htrace'))
      rw [← (Event.createBo.inj heq).1] at hrequest
      exact hrequest
    · intro hrequest
      exact ⟨_, _, _, _, _, _, htrace, hrequest, hsize, rfl, hlength⟩
  · simp [hcreate]

theorem createCarries_iff (hmap : env.mmap ≠ .ok MAP_FAILED) :
    CreateCarries env ctx bo size w ↔ size.toNat < 2 ^ 32 ∨ env.LeavesNothing := by
  rcases hcreate : env.createBo with e | reply
  · refine iff_of_true (Or.inl ⟨?_, ?_⟩) (Or.inr (Or.inl ⟨e, hcreate⟩))
    · rw [rocketBoCreate_createBo_error hcreate]
      exact neg_neg_of_pos (Errno.pos _)
    · intro reply hreply
      rw [hcreate] at hreply
      cases hreply
  rcases hmapped : env.mmap with e | addr
  · have hrun : rocketBoCreate env ctx bo size w = _ := rocketBoCreate_mmap_error hcreate hmapped
    rw [createCarries_object_iff hcreate (by rw [hrun]) (by rw [hrun]; rfl) (by simp [hmapped]),
      hrun]
    -- The create fails; whether its object is left is up to the close.
    refine or_congr_right ((and_iff_right (neg_neg_of_pos (Errno.pos _))).trans ?_)
    by_cases hclose : env.close = none
    · simp [hclose, CreateEnv.LeavesNothing, hmapped]
    · simp [hclose, CreateEnv.LeavesNothing, hcreate]
  · have hne : addr ≠ MAP_FAILED := by
      rintro rfl
      exact hmap hmapped
    have hrun : rocketBoCreate env ctx bo size w = _ := rocketBoCreate_created hcreate hmapped hne
    have hlength : ∀ addr', env.mmap = .ok addr' →
        ((rocketBoCreate env ctx bo size w).2.mappings addr').map Region.length = some size := by
      intro addr' haddr
      rw [hmapped] at haddr
      cases haddr
      simp [hrun]
    rw [createCarries_object_iff hcreate (by rw [hrun]) (by rw [hrun]; rfl) hlength, hrun]
    simp [CreateEnv.LeavesNothing, hcreate, hmapped]

end Create

/-! ## Submitting -/

section Submit

open Submit

variable {env : SubmitEnv} {ctx : RocketCtx} {regcmdBo : RocketBo} {regcmdCount : U32}
  {inBos outBos : BoArray} {p : Process}

/-- A `SUBMIT` that is made carries the address cut to 32 bits. -/
theorem taskCarries_issued_iff {ret : ℤ} {calls : List Call}
    (hcalls : calls.filter Call.isSubmit = [.submit ctx.fd (submitRequest env.job)
      (some [submitRead env regcmdBo regcmdCount inBos outBos]) env.submit]) :
    TaskCarries ctx regcmdBo regcmdCount ret calls ↔ regcmdBo.dmaAddr.toNat < 2 ^ 32 := by
  rw [TaskCarries, hcalls, ← toNat_setWidth_eq_iff]
  constructor
  · rintro (⟨-, hnone⟩ | ⟨request, read, task, outcome, heq, htasks, hregcmd, -⟩)
    · cases hnone
    · cases heq
      cases htasks
      exact hregcmd
  · intro hregcmd
    exact Or.inr ⟨_, _, _, _, rfl, rfl, hregcmd, rfl⟩

theorem submitCarries_iff (h : env.Lawful inBos outBos p.memory) :
    SubmitCarries env ctx regcmdBo regcmdCount inBos outBos p ↔
      regcmdBo.dmaAddr.toNat < 2 ^ 32 ∨
        inBos.Refused env.callocIn ∨ outBos.Refused env.callocOut := by
  have hend : SubmitEnd env ctx regcmdBo regcmdCount inBos outBos p _ _ := rocketSubmit_end h
  unfold SubmitCarries
  generalize rocketSubmit env ctx regcmdBo regcmdCount inBos outBos p = r at hend ⊢
  obtain ⟨ret, p'⟩ := r
  dsimp only at hend ⊢
  cases hend with
  | in_refused hin _ htrace =>
      refine iff_of_true ⟨_, htrace, Or.inl ⟨by decide, ?_⟩⟩ (Or.inr (Or.inl hin))
      simp [Call.isSubmit]
  | out_refused hin hout _ htrace =>
      refine iff_of_true ⟨_, htrace, Or.inl ⟨by decide, ?_⟩⟩ (Or.inr (Or.inr hout))
      simp [Call.isSubmit]
  | failed hin hout hsubmit _ htrace =>
      have htail : ∀ c ∈ [Call.perror "DRM_IOCTL_ROCKET_SUBMIT failed"], ∃ text, c = .perror text :=
        by simp
      simp [htrace, hin, hout, taskCarries_issued_iff (filter_issued htail)]
  | submitted hin hout hsubmit _ htrace =>
      simp [htrace, hin, hout, taskCarries_issued_iff filter_submitCalls]

end Submit

/-! ## When nothing is narrowed -/

/-- **Sizes below 4 GiB and command buffers below 4 GiB** are exactly what gets
through unchanged, where anything gets through at all. -/
theorem nothing_narrowed_iff {env : CreateEnv} {ctx : RocketCtx} {bo : RocketBo} {size : U64}
    {w : World} {submitEnv : Submit.SubmitEnv} {regcmdBo : RocketBo} {regcmdCount : U32}
    {inBos outBos : Submit.BoArray} {p : Submit.Process} (hmap : env.mmap ≠ .ok MAP_FAILED)
    (hsubmit : submitEnv.Lawful inBos outBos p.memory) :
    (CreateCarries env ctx bo size w ↔ size.toNat < 2 ^ 32 ∨ env.LeavesNothing) ∧
      (SubmitCarries submitEnv ctx regcmdBo regcmdCount inBos outBos p ↔
        regcmdBo.dmaAddr.toNat < 2 ^ 32 ∨
          inBos.Refused submitEnv.callocIn ∨ outBos.Refused submitEnv.callocOut) :=
  ⟨createCarries_iff hmap, submitCarries_iff hsubmit⟩

/-- A bo for register commands. -/
def commandBo (dmaAddr : U64) : RocketBo := ⟨3, 1, dmaAddr, 4096, NULL⟩

theorem nothing_narrowed_iff_page :
    CreateCarries mappedEnv ⟨3⟩ unusedBo 4096 (Sys.initial fun _ => unusedBo).world ∧
      SubmitCarries (Submit.apartEnv (.ok ())) ⟨3⟩ (commandBo 0x30000) 108 Submit.twoIn
        Submit.oneOut Submit.emptyProcess := by
  have hmap : mappedEnv.mmap ≠ .ok MAP_FAILED := by
    rintro ⟨⟩
  obtain ⟨hcreate, hsubmit⟩ := nothing_narrowed_iff hmap (Submit.apartEnv_lawful (.ok ()))
  exact ⟨hcreate.mpr (Or.inl (by decide)), hsubmit.mpr (Or.inl (by decide))⟩

/-- 4 GiB and a page are requested as a page, and mapped in full; a command buffer
beyond 4 GiB is submitted at the address 4 GiB below. -/
theorem nothing_narrowed_fails_wide :
    (createRequest 0x100001000).size = 0x1000 ∧
      ¬ CreateCarries mappedEnv ⟨3⟩ unusedBo 0x100001000
        (Sys.initial fun _ => unusedBo).world ∧
      (Submit.submitTask (commandBo 0x100030000) 108).regcmd = 0x30000 ∧
      ¬ SubmitCarries (Submit.apartEnv (.ok ())) ⟨3⟩ (commandBo 0x100030000) 108 Submit.twoIn
        Submit.oneOut Submit.emptyProcess := by
  refine ⟨by decide, ?_, by decide, ?_⟩
  · rw [createCarries_iff (by rintro ⟨⟩)]
    rintro (hsize | ⟨e, he⟩ | ⟨⟨e, he⟩, -⟩)
    · revert hsize
      decide
    · cases he
    · cases he
  · rw [submitCarries_iff (Submit.apartEnv_lawful (.ok ()))]
    rintro (haddr | ⟨-, hin⟩ | ⟨-, hout⟩)
    · revert haddr
      decide
    · cases hin
    · cases hout

end Librocket.Rocket
