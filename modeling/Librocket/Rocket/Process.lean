import Librocket.Lib.WriteLog
import Librocket.Rocket.Interface

/-!
# What a submit sees of the process

The memory the handle arrays are allocated in, the structures of
`rocket_accel.h` that a `SUBMIT` points the kernel at, and how the kernel finds
the jobs by following the pointers at the time of the call.
-/

namespace Librocket.Rocket.Submit

/-! ## The structures of a submit -/

/-- `struct drm_rocket_task`. -/
structure DrmRocketTask where
  regcmd : U32
  regcmdCount : U32
deriving DecidableEq

/-- `struct drm_rocket_job`. -/
structure DrmRocketJob where
  tasks : U64
  inBoHandles : U64
  outBoHandles : U64
  taskCount : U32
  taskStructSize : U32
  inBoHandleCount : U32
  outBoHandleCount : U32
deriving DecidableEq

/-- `struct drm_rocket_submit`. -/
structure DrmRocketSubmit where
  jobs : U64
  jobCount : U32
  jobStructSize : U32
  reserved : U64
deriving DecidableEq

/-- `sizeof(struct drm_rocket_task)`: two words of 32 bits. -/
def sizeofDrmRocketTask : U32 := 8

/-- `sizeof(struct drm_rocket_job)`: three words of 64 bits and four of 32. -/
def sizeofDrmRocketJob : U32 := 40

/-! ## Memory -/

/-- What a pointer can point at: an array of one of these types. -/
inductive Block
  | u32s (xs : List U32)
  | tasks (xs : List DrmRocketTask)
  | jobs (xs : List DrmRocketJob)

def Block.u32s? : Block → Option (List U32)
  | .u32s xs => some xs
  | _ => none

def Block.tasks? : Block → Option (List DrmRocketTask)
  | .tasks xs => some xs
  | _ => none

def Block.jobs? : Block → Option (List DrmRocketJob)
  | .jobs xs => some xs
  | _ => none

abbrev Memory := Addr → Option Block

/-- What `calloc` returns when it succeeds. -/
abbrev Ptr := {addr : Addr // addr ≠ NULL}

/-- `count` elements of the array at `addr`. No elements can be had anywhere. -/
def Memory.array {α : Type} (m : Memory) (elems : Block → Option (List α)) (addr : Addr)
    (count : U32) : Option (List α) :=
  if count = 0 then
    some []
  else do
    let xs ← elems (← m addr)
    if count.toNat ≤ xs.length then some (xs.take count.toNat) else none

/-- A job with the arrays it points at. -/
structure JobRead where
  job : DrmRocketJob
  tasks : List DrmRocketTask
  inBos : List U32
  outBos : List U32
deriving DecidableEq

/-- The arrays of a job, its tasks at the stride it gives. -/
def Memory.readJob (m : Memory) (job : DrmRocketJob) : Option JobRead := do
  guard (job.taskStructSize = sizeofDrmRocketTask)
  let tasks ← m.array Block.tasks? job.tasks job.taskCount
  let inBos ← m.array Block.u32s? job.inBoHandles job.inBoHandleCount
  let outBos ← m.array Block.u32s? job.outBoHandles job.outBoHandleCount
  return { job, tasks, inBos, outBos }

/-- The jobs of a submit. -/
def Memory.readSubmit (m : Memory) (submit : DrmRocketSubmit) : Option (List JobRead) := do
  guard (submit.jobStructSize = sizeofDrmRocketJob)
  let jobs ← m.array Block.jobs? submit.jobs submit.jobCount
  jobs.mapM m.readJob

/-! ## Calls -/

/-- A `SUBMIT` is recorded with the jobs the kernel finds. -/
inductive Call
  | calloc (count : U32) (outcome : Option Ptr)
  | wildStore (addr : Addr) (i : ℕ)
  | submit (fd : CInt) (request : DrmRocketSubmit) (jobs : Option (List JobRead))
      (outcome : Except Errno Unit)
  | free (addr : Addr) (valid : Bool)
  | perror (text : String)

structure Process where
  memory : Memory
  errno : ℤ
  trace : List Call

def Process.log (p : Process) (c : Call) : Process := { p with trace := p.trace ++ [c] }

@[simp] theorem pure_run {α : Type} (a : α) (p : Process) :
    (pure a : StateM Process α) p = (a, p) := rfl

@[simp] theorem bind_run {α β : Type} (x : StateM Process α) (f : α → StateM Process β)
    (p : Process) : (x >>= f) p = f (x p).1 (x p).2 := rfl

@[simp] theorem map_run {α β : Type} (f : α → β) (x : StateM Process α) (p : Process) :
    (f <$> x) p = (f (x p).1, (x p).2) := rfl

/-- `calloc(count, sizeof(uint32_t))`. Four bytes for each of fewer than `2 ^ 32`
elements do not overflow a `size_t`. -/
def calloc (outcome : Option Ptr) (count : U32) : StateM Process Addr := fun p =>
  match outcome with
  | none => (NULL, { p.log (.calloc count outcome) with errno := ENOMEM.code })
  | some ptr =>
      (ptr, { p.log (.calloc count outcome) with
        memory := Function.update p.memory ptr (some (.u32s (List.replicate count.toNat 0))) })

/-- `handles[i] = value`. A store that misses is marked in the trace. -/
def store (handles : Addr) (i : ℕ) (value : U32) : StateM Process Unit := fun p =>
  match p.memory handles with
  | some (.u32s xs) =>
      if i < xs.length then
        ((), { p with memory := Function.update p.memory handles (some (.u32s (xs.set i value))) })
      else
        ((), p.log (.wildStore handles i))
  | _ => ((), p.log (.wildStore handles i))

/-- `free(addr)`, which may leave an error number behind. `NULL` is nothing to
free; an array that is not there is marked in the trace. -/
def free (left : Option Errno) (addr : Addr) : StateM Process Unit := fun p =>
  if addr = NULL then
    ((), p.log (.free addr true))
  else
    let p := { p with errno := (left.map Errno.code).getD p.errno }
    match p.memory addr with
    | some (.u32s _) =>
        ((), { p.log (.free addr true) with memory := Function.update p.memory addr none })
    | _ => ((), p.log (.free addr false))

/-- `ioctl(fd, DRM_IOCTL_ROCKET_SUBMIT, &submit)`, made over a frame of local
variables. -/
def ioctlSubmit (outcome : Except Errno Unit) (fd : CInt) (submit : DrmRocketSubmit)
    (frame : List (Addr × Option Block)) : StateM Process ℤ := fun p =>
  let jobs := Memory.readSubmit (WriteLog.apply frame p.memory) submit
  match outcome with
  | .error e => (-1, { p.log (.submit fd submit jobs outcome) with errno := e.code })
  | .ok () => (0, p.log (.submit fd submit jobs outcome))

/-- `perror(text)`, which may leave an error number of its own behind. -/
def perror (left : Option Errno) (text : String) : StateM Process Unit := fun p =>
  ((), { p.log (.perror text) with errno := (left.map Errno.code).getD p.errno })

/-- The value of `errno`. -/
def errno : StateM Process ℤ := fun p => (p.errno, p)

end Librocket.Rocket.Submit
