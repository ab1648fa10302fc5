import Librocket.Rocket.Process
import Mathlib.Data.List.FinRange

/-!
# `rocket_interface.c`: submitting a job

`rocket_submit` copies the handles of the input and output bos into arrays of
its own, points a job at them, submits it, and frees the arrays.
-/

namespace Librocket.Rocket.Submit

/-- `struct rocket_bo **bos` and its count. -/
structure BoArray where
  count : U32
  bo : Fin count.toNat → RocketBo

def BoArray.handles (bos : BoArray) : List U32 := List.ofFn fun i => (bos.bo i).handle

/-- The choices of the C library and the kernel during one `rocket_submit`, and
where its local variables `task` and `job` are. -/
structure SubmitEnv where
  callocIn : Option Ptr
  callocOut : Option Ptr
  task : Addr
  job : Addr
  submit : Except Errno Unit
  freeIn : Option Errno := none
  freeOut : Option Errno := none
  perror : Option Errno := none

/-- `for (uint32_t i = 0; i < count; i++) handles[i] = bos[i]->handle;` -/
def copyHandles (handles : Addr) (bos : BoArray) : StateM Process Unit :=
  (List.finRange bos.count.toNat).forM fun i => store handles i (bos.bo i).handle

/-- The two blocks that build `in_handles` and `out_handles`: `NULL` where there
are no bos, and nothing if the allocation fails. -/
def buildHandles (outcome : Option Ptr) (bos : BoArray) : StateM Process (Option Addr) := do
  if bos.count > 0 then
    let handles ← calloc outcome bos.count
    if handles = NULL then
      return none
    copyHandles handles bos
    return some handles
  else
    return some NULL

/-- `struct drm_rocket_task task`. -/
def submitTask (regcmdBo : RocketBo) (regcmdCount : U32) : DrmRocketTask where
  regcmd := regcmdBo.dmaAddr.setWidth 32
  regcmdCount := regcmdCount

/-- `struct drm_rocket_job job`. -/
def submitJob (task inHandles outHandles : Addr) (inBos outBos : BoArray) : DrmRocketJob where
  tasks := task
  inBoHandles := inHandles
  outBoHandles := outHandles
  taskCount := 1
  taskStructSize := sizeofDrmRocketTask
  inBoHandleCount := inBos.count
  outBoHandleCount := outBos.count

/-- `struct drm_rocket_submit submit`. -/
def submitRequest (job : Addr) : DrmRocketSubmit where
  jobs := job
  jobCount := 1
  jobStructSize := sizeofDrmRocketJob
  reserved := 0

/-- Where the local variables are while they live. -/
def submitFrame (env : SubmitEnv) (task : DrmRocketTask) (job : DrmRocketJob) :
    List (Addr × Option Block) :=
  [(env.task, some (.tasks [task])), (env.job, some (.jobs [job]))]

def rocketSubmit (env : SubmitEnv) (ctx : RocketCtx) (regcmdBo : RocketBo) (regcmdCount : U32)
    (inBos outBos : BoArray) : StateM Process ℤ := do
  let some inHandles ← buildHandles env.callocIn inBos
    | return -ENOMEM.code
  let some outHandles ← buildHandles env.callocOut outBos
    | do
      -- The input array is all there is so far.
      free env.freeIn inHandles
      return -ENOMEM.code
  let task := submitTask regcmdBo regcmdCount
  let job := submitJob env.task inHandles outHandles inBos outBos
  let ret ← ioctlSubmit env.submit ctx.fd (submitRequest env.job) (submitFrame env task job)
  free env.freeIn inHandles
  free env.freeOut outHandles
  if ret < 0 then
    -- By now `errno` is what the frees and `perror` made of it.
    perror env.perror "DRM_IOCTL_ROCKET_SUBMIT failed"
    return -(← errno)
  return 0

/-! ## Building the arrays -/

theorem store_run {handles : Addr} {i : ℕ} {v : U32} {xs : List U32} {p : Process}
    (h : p.memory handles = some (.u32s xs)) (hi : i < xs.length) :
    store handles i v p =
      ((), { p with
        memory := Function.update p.memory handles (some (.u32s (xs.set i v))) }) := by
  simp [store, h, hi]

/-- The loop over any of the indices, in any order: a log of writes to the array. -/
theorem forM_store {n : ℕ} {handles : Addr} {f : Fin n → U32} (is : List (Fin n)) :
    ∀ {xs : List U32} {p : Process}, p.memory handles = some (.u32s xs) → xs.length = n →
      (is.forM fun i => store handles i (f i)) p = ((), { p with
        memory := Function.update p.memory handles
          (some (.u32s (WriteLog.applyList (is.map fun i => (i.val, f i)) xs))) }) := by
  induction is with
  | nil =>
      intro xs p hp _
      simp [WriteLog.applyList, ← hp]
  | cons i is ih =>
      -- A store changes what the array holds, not that it is there or its length.
      intro xs p hp hlength
      have hstore := store_run (v := f i) hp (i.isLt.trans_eq hlength.symm)
      rw [List.forM_eq_forM, List.forM_cons, ← List.forM_eq_forM, bind_run, hstore,
        ih (Function.update_self ..) (by rw [List.length_set, hlength])]
      simp [WriteLog.applyList]

theorem copyHandles_run {handles : Addr} {bos : BoArray} {xs : List U32} {p : Process}
    (hp : p.memory handles = some (.u32s xs)) (hlength : xs.length = bos.count.toNat) :
    copyHandles handles bos p = ((), { p with
      memory := Function.update p.memory handles (some (.u32s bos.handles)) }) := by
  rw [copyHandles, forM_store _ hp hlength, WriteLog.applyList_finRange _ hlength, BoArray.handles]

/-- The array is needed and its allocation fails. -/
def BoArray.Refused (bos : BoArray) (outcome : Option Ptr) : Prop :=
  bos.count ≠ 0 ∧ outcome = none

/-- The array allocated for `bos`, if there is one. -/
def BoArray.array (bos : BoArray) (outcome : Option Ptr) : Option Ptr :=
  if bos.count = 0 then none else outcome

def pointer (a : Option Ptr) : Addr := a.elim NULL Subtype.val

def allocated (count : U32) (a : Option Ptr) : List Call :=
  a.elim [] fun ptr => [.calloc count (some ptr)]

def Memory.place (m : Memory) (a : Option Ptr) (xs : List U32) : Memory :=
  a.elim m fun ptr => Function.update m ptr (some (.u32s xs))

def Memory.drop (m : Memory) (a : Option Ptr) : Memory :=
  a.elim m fun ptr => Function.update m ptr none

section Build

variable {outcome : Option Ptr} {bos : BoArray} {p : Process}

theorem buildHandles_refused (h : bos.Refused outcome) :
    buildHandles outcome bos p = (none, { p with
      errno := ENOMEM.code
      trace := p.trace ++ [.calloc bos.count none] }) := by
  obtain ⟨hcount, rfl⟩ := h
  have hpos : bos.count > 0 := (BitVec.pos_iff_ne_zero _).mpr hcount
  rw [buildHandles, if_pos hpos]
  simp [calloc, Process.log]

theorem array_of_ne (h : bos.count ≠ 0) : bos.array outcome = outcome := if_neg h

theorem array_of_eq (h : bos.count = 0) : bos.array outcome = none := if_pos h

theorem eq_of_array {ptr ptr' : Ptr} (h : bos.array (some ptr) = some ptr') : ptr' = ptr := by
  unfold BoArray.array at h
  split at h
  · cases h
  · exact (Option.some.inj h).symm

theorem buildHandles_built (h : ¬ bos.Refused outcome) :
    buildHandles outcome bos p = (some (pointer (bos.array outcome)), { p with
      memory := p.memory.place (bos.array outcome) bos.handles
      trace := p.trace ++ allocated bos.count (bos.array outcome) }) := by
  by_cases hcount : bos.count = 0
  · simp [buildHandles, hcount, array_of_eq, pointer, Memory.place, allocated]
  · cases outcome with
    | none => exact absurd ⟨hcount, rfl⟩ h
    | some ptr =>
        have hpos : bos.count > 0 := (BitVec.pos_iff_ne_zero _).mpr hcount
        rw [buildHandles, if_pos hpos]
        have hne : (calloc (some ptr) bos.count p).1 ≠ NULL := ptr.2
        have hzeros : (calloc (some ptr) bos.count p).2.memory (calloc (some ptr) bos.count p).1 =
            some (.u32s (List.replicate bos.count.toNat 0)) := Function.update_self ..
        rw [bind_run, if_neg hne, bind_run, copyHandles_run hzeros List.length_replicate,
          array_of_ne hcount]
        simp [calloc, pointer, Memory.place, allocated, Process.log]

/-! ## Freeing them -/

/-- What freeing an array may leave in `errno`; freeing `NULL` leaves nothing. -/
def leftBy (a : Option Ptr) (left : Option Errno) : Option Errno := a.bind fun _ => left

theorem free_pointer {left : Option Errno} {a : Option Ptr}
    (h : ∀ {ptr}, a = some ptr → ∃ xs, p.memory ptr = some (.u32s xs)) :
    free left (pointer a) p = ((), {
      memory := p.memory.drop a
      errno := ((leftBy a left).map Errno.code).getD p.errno
      trace := p.trace ++ [.free (pointer a) true] }) := by
  cases a with
  | none => simp [free, pointer, Memory.drop, leftBy, Process.log]
  | some ptr =>
      obtain ⟨xs, hxs⟩ := h rfl
      simp [free, pointer, Memory.drop, leftBy, Process.log, hxs, ptr.2]

/-- Whatever is there to free. -/
theorem free_errno (left : Option Errno) (a : Option Ptr) :
    (free left (pointer a) p).2.errno = ((leftBy a left).map Errno.code).getD p.errno := by
  cases a with
  | none => simp [free, pointer, leftBy, Process.log]
  | some ptr =>
      rw [pointer, Option.elim_some, free, if_neg ptr.2]
      dsimp only
      split
      · rfl
      · rfl

end Build

/-! ## Memory while the arrays are there -/

section Memory

variable {m : Memory} {a b : Option Ptr} {xs ys : List U32}

theorem Memory.drop_place (h : ∀ {ptr}, a = some ptr → m ptr = none) :
    (m.place a xs).drop a = m := by
  cases a with
  | none => rfl
  | some ptr => simp [Memory.place, Memory.drop, ← h rfl]

theorem Memory.place_of_ne {addr : Addr} (h : ∀ {ptr}, a = some ptr → addr ≠ ptr) :
    m.place a xs addr = m addr := by
  cases a with
  | none => rfl
  | some ptr => exact Function.update_of_ne (h rfl) _ _

theorem Memory.drop_of_ne {addr : Addr} (h : ∀ {ptr}, a = some ptr → addr ≠ ptr) :
    m.drop a addr = m addr := by
  cases a with
  | none => rfl
  | some ptr => exact Function.update_of_ne (h rfl) _ _

theorem Memory.drop_place_comm (h : ∀ {ptr ptr'}, a = some ptr → b = some ptr' → ptr ≠ ptr') :
    (m.place b ys).drop a = (m.drop a).place b ys := by
  cases a with
  | none => rfl
  | some ptr =>
      cases b with
      | none => rfl
      | some ptr' =>
          have hne : ptr.val ≠ ptr'.val := fun heq => h rfl rfl (Subtype.ext heq)
          exact Function.update_comm hne.symm _ _ _

end Memory

/-! ## What the kernel finds -/

section Read

variable {env : SubmitEnv} {task : DrmRocketTask} {job : DrmRocketJob} {m : Memory}
  {inBos outBos bos : BoArray} {outcome : Option Ptr}

theorem submitFrame_job :
    WriteLog.apply (submitFrame env task job) m env.job = some (.jobs [job]) :=
  Function.update_self ..

theorem submitFrame_task (h : env.task ≠ env.job) :
    WriteLog.apply (submitFrame env task job) m env.task = some (.tasks [task]) :=
  (Function.update_of_ne h _ _).trans (Function.update_self ..)

theorem submitFrame_other {addr : Addr} (htask : addr ≠ env.task) (hjob : addr ≠ env.job) :
    WriteLog.apply (submitFrame env task job) m addr = m addr :=
  WriteLog.apply_of_not_mem m (by simp [WriteLog.keys, submitFrame, htask, hjob])

theorem BoArray.length_handles (bos : BoArray) : bos.handles.length = bos.count.toNat :=
  List.length_ofFn

theorem array_one {α : Type} {elems : Block → Option (List α)} {addr : Addr} {block : Block} {x : α}
    (hblock : m addr = some block) (helems : elems block = some [x]) :
    m.array elems addr 1#32 = some [x] := by
  simp [Memory.array, hblock, helems]

theorem array_handles (hbuilt : ¬ bos.Refused outcome)
    (h : ∀ {ptr}, bos.array outcome = some ptr → m ptr = some (.u32s bos.handles)) :
    m.array Block.u32s? (pointer (bos.array outcome)) bos.count = some bos.handles := by
  by_cases hcount : bos.count = 0
  · have hnil : bos.handles = [] := by
      rw [← List.length_eq_zero_iff, bos.length_handles, hcount]
      rfl
    rw [Memory.array, if_pos hcount, hnil]
  · cases outcome with
    | none => exact absurd ⟨hcount, rfl⟩ hbuilt
    | some ptr =>
        rw [array_of_ne hcount] at h ⊢
        rw [Memory.array, if_neg hcount]
        simp [pointer, h rfl, Block.u32s?, ← bos.length_handles]

/-! ## What is assumed -/

/-- What is assumed of the choices: an array allocated is where nothing else is,
and the local variables are apart from each other and from the arrays. -/
structure SubmitEnv.Lawful (env : SubmitEnv) (inBos outBos : BoArray) (m : Memory) : Prop where
  in_free : ∀ {ptr}, inBos.array env.callocIn = some ptr → m ptr = none
  out_free : ∀ {ptr}, outBos.array env.callocOut = some ptr → m ptr = none
  arrays_ne : ∀ {ptr ptr'}, inBos.array env.callocIn = some ptr →
    outBos.array env.callocOut = some ptr' → ptr ≠ ptr'
  in_frame : ∀ {ptr}, inBos.array env.callocIn = some ptr → ptr.1 ≠ env.task ∧ ptr.1 ≠ env.job
  out_frame : ∀ {ptr}, outBos.array env.callocOut = some ptr → ptr.1 ≠ env.task ∧ ptr.1 ≠ env.job
  frame_ne : env.task ≠ env.job

/-- The memory a `SUBMIT` is made over, without its local variables. -/
def SubmitEnv.memory (env : SubmitEnv) (inBos outBos : BoArray) (m : Memory) : Memory :=
  (m.place (inBos.array env.callocIn) inBos.handles).place (outBos.array env.callocOut)
    outBos.handles

theorem SubmitEnv.Lawful.memory_in (h : env.Lawful inBos outBos m) {ptr : Ptr}
    (hptr : inBos.array env.callocIn = some ptr) :
    env.memory inBos outBos m ptr = some (.u32s inBos.handles) := by
  rw [SubmitEnv.memory, Memory.place_of_ne, hptr]
  · exact Function.update_self ..
  · intro ptr' hptr' heq
    exact h.arrays_ne hptr hptr' (Subtype.ext heq)

theorem memory_out {ptr : Ptr} (hptr : outBos.array env.callocOut = some ptr) :
    env.memory inBos outBos m ptr = some (.u32s outBos.handles) := by
  rw [SubmitEnv.memory, hptr]
  exact Function.update_self ..

/-- The one job a `SUBMIT` describes. -/
def submitRead (env : SubmitEnv) (regcmdBo : RocketBo) (regcmdCount : U32)
    (inBos outBos : BoArray) : JobRead where
  job := submitJob env.task (pointer (inBos.array env.callocIn))
    (pointer (outBos.array env.callocOut)) inBos outBos
  tasks := [submitTask regcmdBo regcmdCount]
  inBos := inBos.handles
  outBos := outBos.handles

/-- The job is found in any memory that holds the four arrays. -/
theorem readSubmit_of {regcmdBo : RocketBo} {regcmdCount : U32}
    (hin : ¬ inBos.Refused env.callocIn) (hout : ¬ outBos.Refused env.callocOut)
    (hjob : m env.job = some (.jobs [(submitRead env regcmdBo regcmdCount inBos outBos).job]))
    (htask : m env.task = some (.tasks [submitTask regcmdBo regcmdCount]))
    (hins : ∀ {ptr}, inBos.array env.callocIn = some ptr → m ptr = some (.u32s inBos.handles))
    (houts : ∀ {ptr}, outBos.array env.callocOut = some ptr → m ptr = some (.u32s outBos.handles)) :
    m.readSubmit (submitRequest env.job) =
      some [submitRead env regcmdBo regcmdCount inBos outBos] := by
  have hjobs := array_one (m := m) hjob (rfl : Block.jobs? _ = _)
  have htasks := array_one (m := m) htask (rfl : Block.tasks? _ = _)
  have hread : m.readJob (submitRead env regcmdBo regcmdCount inBos outBos).job =
      some (submitRead env regcmdBo regcmdCount inBos outBos) := by
    simp [Memory.readJob, submitRead, submitJob, htasks, array_handles hin hins,
      array_handles hout houts]
  simp [Memory.readSubmit, submitRequest, hjobs, hread]

theorem readSubmit_run {regcmdBo : RocketBo} {regcmdCount : U32} (h : env.Lawful inBos outBos m)
    (hin : ¬ inBos.Refused env.callocIn) (hout : ¬ outBos.Refused env.callocOut) :
    Memory.readSubmit (WriteLog.apply (submitFrame env (submitTask regcmdBo regcmdCount)
      (submitRead env regcmdBo regcmdCount inBos outBos).job) (env.memory inBos outBos m))
      (submitRequest env.job) = some [submitRead env regcmdBo regcmdCount inBos outBos] := by
  refine readSubmit_of hin hout submitFrame_job (submitFrame_task h.frame_ne) ?_ ?_
  · intro ptr hptr
    rw [submitFrame_other (h.in_frame hptr).1 (h.in_frame hptr).2, h.memory_in hptr]
  · intro ptr hptr
    rw [submitFrame_other (h.out_frame hptr).1 (h.out_frame hptr).2, memory_out hptr]

end Read

/-! ## What a submit does -/

/-- What the calls after a failed `SUBMIT` may leave in `errno`. -/
def SubmitEnv.left (env : SubmitEnv) (inBos outBos : BoArray) : List (Option Errno) :=
  [leftBy (inBos.array env.callocIn) env.freeIn, leftBy (outBos.array env.callocOut) env.freeOut,
    env.perror]

/-- The calls of a submit that gets to its `SUBMIT`, up to the frees. -/
def submitCalls (env : SubmitEnv) (ctx : RocketCtx) (regcmdBo : RocketBo) (regcmdCount : U32)
    (inBos outBos : BoArray) : List Call :=
  allocated inBos.count (inBos.array env.callocIn) ++
    allocated outBos.count (outBos.array env.callocOut) ++
    [.submit ctx.fd (submitRequest env.job)
        (some [submitRead env regcmdBo regcmdCount inBos outBos]) env.submit,
      .free (pointer (inBos.array env.callocIn)) true,
      .free (pointer (outBos.array env.callocOut)) true]

/-- The four ways a submit can end: code, and the process left behind. -/
inductive SubmitEnd (env : SubmitEnv) (ctx : RocketCtx) (regcmdBo : RocketBo) (regcmdCount : U32)
    (inBos outBos : BoArray) (p : Process) : ℤ → Process → Prop
  | in_refused {p'} (hin : inBos.Refused env.callocIn) (hmemory : p'.memory = p.memory)
      (htrace : p'.trace = p.trace ++ [.calloc inBos.count none]) :
      SubmitEnd env ctx regcmdBo regcmdCount inBos outBos p (-ENOMEM.code) p'
  | out_refused {p'} (hin : ¬ inBos.Refused env.callocIn) (hout : outBos.Refused env.callocOut)
      (hmemory : p'.memory = p.memory)
      (htrace : p'.trace = p.trace ++ (allocated inBos.count (inBos.array env.callocIn) ++
        [.calloc outBos.count none, .free (pointer (inBos.array env.callocIn)) true])) :
      SubmitEnd env ctx regcmdBo regcmdCount inBos outBos p (-ENOMEM.code) p'
  | failed {e p'} (hin : ¬ inBos.Refused env.callocIn) (hout : ¬ outBos.Refused env.callocOut)
      (hsubmit : env.submit = .error e) (hmemory : p'.memory = p.memory)
      (htrace : p'.trace = p.trace ++ (submitCalls env ctx regcmdBo regcmdCount inBos outBos ++
        [.perror "DRM_IOCTL_ROCKET_SUBMIT failed"])) :
      SubmitEnd env ctx regcmdBo regcmdCount inBos outBos p
        (-(e.after (env.left inBos outBos)).code) p'
  | submitted {p'} (hin : ¬ inBos.Refused env.callocIn) (hout : ¬ outBos.Refused env.callocOut)
      (hsubmit : env.submit = .ok ()) (hmemory : p'.memory = p.memory)
      (htrace : p'.trace = p.trace ++ submitCalls env ctx regcmdBo regcmdCount inBos outBos) :
      SubmitEnd env ctx regcmdBo regcmdCount inBos outBos p 0 p'

section Run

variable {env : SubmitEnv} {ctx : RocketCtx} {regcmdBo : RocketBo} {regcmdCount : U32}
  {inBos outBos : BoArray} {p : Process}

/-- The process with both arrays built. -/
def SubmitEnv.built (env : SubmitEnv) (inBos outBos : BoArray) (p : Process) : Process where
  memory := env.memory inBos outBos p.memory
  errno := p.errno
  trace := p.trace ++ (allocated inBos.count (inBos.array env.callocIn) ++
    allocated outBos.count (outBos.array env.callocOut))

/-- The process after the `SUBMIT`. -/
def SubmitEnv.issued (env : SubmitEnv) (ctx : RocketCtx) (regcmdBo : RocketBo) (regcmdCount : U32)
    (inBos outBos : BoArray) (p : Process) : Process :=
  (ioctlSubmit env.submit ctx.fd (submitRequest env.job)
    (submitFrame env (submitTask regcmdBo regcmdCount)
      (submitRead env regcmdBo regcmdCount inBos outBos).job) (env.built inBos outBos p)).2

/-- The process after the two frees. -/
def SubmitEnv.freed (env : SubmitEnv) (inBos outBos : BoArray) (p : Process) : Process :=
  (free env.freeOut (pointer (outBos.array env.callocOut))
    (free env.freeIn (pointer (inBos.array env.callocIn)) p).2).2

theorem rocketSubmit_built (hin : ¬ inBos.Refused env.callocIn)
    (hout : ¬ outBos.Refused env.callocOut) :
    rocketSubmit env ctx regcmdBo regcmdCount inBos outBos p = (do
      let ret ← ioctlSubmit env.submit ctx.fd (submitRequest env.job)
        (submitFrame env (submitTask regcmdBo regcmdCount)
          (submitRead env regcmdBo regcmdCount inBos outBos).job)
      free env.freeIn (pointer (inBos.array env.callocIn))
      free env.freeOut (pointer (outBos.array env.callocOut))
      if ret < 0 then
        perror env.perror "DRM_IOCTL_ROCKET_SUBMIT failed"
        return -(← errno)
      return 0) (env.built inBos outBos p) := by
  simp only [rocketSubmit, bind_run, buildHandles_built hin, buildHandles_built hout,
    List.append_assoc]
  rfl

theorem ioctlSubmit_ret (outcome : Except Errno Unit) (fd : CInt) (submit : DrmRocketSubmit)
    (frame : List (Addr × Option Block)) :
    (ioctlSubmit outcome fd submit frame p).1 < 0 ↔ outcome ≠ .ok () := by
  rcases outcome with e | ⟨⟩
  · simp [ioctlSubmit]
  · simp [ioctlSubmit]

theorem rocketSubmit_error {e : Errno} (hin : ¬ inBos.Refused env.callocIn)
    (hout : ¬ outBos.Refused env.callocOut) (hsubmit : env.submit = .error e) :
    rocketSubmit env ctx regcmdBo regcmdCount inBos outBos p = (do
      perror env.perror "DRM_IOCTL_ROCKET_SUBMIT failed"
      return -(← errno))
        (env.freed inBos outBos (env.issued ctx regcmdBo regcmdCount inBos outBos p)) := by
  rw [rocketSubmit_built hin hout, bind_run, bind_run, bind_run,
    if_pos ((ioctlSubmit_ret ..).mpr (by simp [hsubmit]))]
  rfl

theorem rocketSubmit_ok (hin : ¬ inBos.Refused env.callocIn)
    (hout : ¬ outBos.Refused env.callocOut) (hsubmit : env.submit = .ok ()) :
    rocketSubmit env ctx regcmdBo regcmdCount inBos outBos p =
      (0, env.freed inBos outBos (env.issued ctx regcmdBo regcmdCount inBos outBos p)) := by
  rw [rocketSubmit_built hin hout, bind_run, bind_run, bind_run,
    if_neg (by simp [ioctlSubmit_ret, hsubmit])]
  rfl

theorem issued_memory :
    (env.issued ctx regcmdBo regcmdCount inBos outBos p).memory =
      env.memory inBos outBos p.memory := by
  rcases hsubmit : env.submit with e | ⟨⟩
  · simp only [SubmitEnv.issued, ioctlSubmit, hsubmit]
    rfl
  · simp only [SubmitEnv.issued, ioctlSubmit, hsubmit]
    rfl

theorem issued_errno {e : Errno} (hsubmit : env.submit = .error e) :
    (env.issued ctx regcmdBo regcmdCount inBos outBos p).errno = e.code := by
  simp [SubmitEnv.issued, ioctlSubmit, hsubmit]

theorem issued_trace (h : env.Lawful inBos outBos p.memory)
    (hin : ¬ inBos.Refused env.callocIn) (hout : ¬ outBos.Refused env.callocOut) :
    (env.issued ctx regcmdBo regcmdCount inBos outBos p).trace =
      (env.built inBos outBos p).trace ++ [.submit ctx.fd (submitRequest env.job)
        (some [submitRead env regcmdBo regcmdCount inBos outBos]) env.submit] := by
  have hread : Memory.readSubmit (WriteLog.apply (submitFrame env
      (submitTask regcmdBo regcmdCount) (submitRead env regcmdBo regcmdCount inBos outBos).job)
      (env.built inBos outBos p).memory) (submitRequest env.job) = _ := readSubmit_run h hin hout
  rcases hsubmit : env.submit with e | ⟨⟩
  · simp [SubmitEnv.issued, ioctlSubmit, hsubmit, hread, Process.log]
  · simp [SubmitEnv.issued, ioctlSubmit, hsubmit, hread, Process.log]

theorem SubmitEnv.Lawful.drop_memory {m : Memory} (h : env.Lawful inBos outBos m) :
    ((env.memory inBos outBos m).drop (inBos.array env.callocIn)).drop
      (outBos.array env.callocOut) = m := by
  rw [SubmitEnv.memory, Memory.drop_place_comm h.arrays_ne, Memory.drop_place h.in_free,
    Memory.drop_place h.out_free]

/-- The two frees hit their arrays and leave no other trace in memory. -/
theorem freed_run {m : Memory} (h : env.Lawful inBos outBos m)
    (hp : p.memory = env.memory inBos outBos m) :
    (env.freed inBos outBos p).memory = m ∧
      (env.freed inBos outBos p).trace =
        p.trace ++ [.free (pointer (inBos.array env.callocIn)) true,
          .free (pointer (outBos.array env.callocOut)) true] := by
  have hin : ∀ {ptr}, inBos.array env.callocIn = some ptr →
      ∃ xs, p.memory ptr = some (.u32s xs) := by
    intro ptr hptr
    exact ⟨inBos.handles, by rw [hp, h.memory_in hptr]⟩
  have hout : ∀ {ptr}, outBos.array env.callocOut = some ptr →
      ∃ xs, (p.memory.drop (inBos.array env.callocIn)) ptr = some (.u32s xs) := by
    intro ptr hptr
    -- The first free was of another array.
    have hne : ∀ {ptr'}, inBos.array env.callocIn = some ptr' → ptr.1 ≠ ptr'.1 :=
      fun hptr' heq => h.arrays_ne hptr' hptr (Subtype.ext heq.symm)
    exact ⟨outBos.handles, by rw [Memory.drop_of_ne hne, hp, memory_out hptr]⟩
  rw [SubmitEnv.freed, free_pointer hin, free_pointer hout]
  exact ⟨by rw [hp, h.drop_memory], List.append_assoc ..⟩

/-- Whatever is there to free. -/
theorem freed_errno {e : Errno} (hp : p.errno = e.code) :
    (env.freed inBos outBos p).errno =
      (e.after [leftBy (inBos.array env.callocIn) env.freeIn,
        leftBy (outBos.array env.callocOut) env.freeOut]).code := by
  rw [SubmitEnv.freed, free_errno, free_errno, hp, Errno.getD_code, Errno.getD_code]
  rfl

theorem rocketSubmit_failed {e : Errno} (hin : ¬ inBos.Refused env.callocIn)
    (hout : ¬ outBos.Refused env.callocOut) (hsubmit : env.submit = .error e) :
    (rocketSubmit env ctx regcmdBo regcmdCount inBos outBos p).1 =
      -(e.after (env.left inBos outBos)).code := by
  rw [rocketSubmit_error hin hout hsubmit]
  simp only [bind_run, perror, errno, pure_run]
  rw [freed_errno (issued_errno hsubmit), Errno.getD_code]
  rfl

theorem rocketSubmit_end (h : env.Lawful inBos outBos p.memory) :
    SubmitEnd env ctx regcmdBo regcmdCount inBos outBos p
      (rocketSubmit env ctx regcmdBo regcmdCount inBos outBos p).1
      (rocketSubmit env ctx regcmdBo regcmdCount inBos outBos p).2 := by
  by_cases hin : inBos.Refused env.callocIn
  · simp only [rocketSubmit, bind_run, buildHandles_refused hin]
    exact .in_refused hin rfl rfl
  by_cases hout : outBos.Refused env.callocOut
  · simp only [rocketSubmit, bind_run, buildHandles_built hin, buildHandles_refused hout]
    rw [free_pointer]
    · exact .out_refused hin hout (Memory.drop_place h.in_free) (by simp)
    · intro ptr hptr
      rw [hptr]
      exact ⟨inBos.handles, Function.update_self ..⟩
  have hissued : (env.issued ctx regcmdBo regcmdCount inBos outBos p).memory = _ := issued_memory
  obtain ⟨hmemory, htrace⟩ := freed_run h hissued
  have hcalls : (env.freed inBos outBos
      (env.issued ctx regcmdBo regcmdCount inBos outBos p)).trace =
        p.trace ++ submitCalls env ctx regcmdBo regcmdCount inBos outBos := by
    rw [htrace, issued_trace h hin hout]
    simp [SubmitEnv.built, submitCalls]
  rcases hsubmit : env.submit with e | ⟨⟩
  · rw [rocketSubmit_failed hin hout hsubmit, rocketSubmit_error hin hout hsubmit]
    refine .failed hin hout hsubmit hmemory ?_
    simp [perror, errno, Process.log, hcalls]
  · rw [rocketSubmit_ok hin hout hsubmit]
    exact .submitted hin hout hsubmit hmemory hcalls

end Run

end Librocket.Rocket.Submit
