import Librocket.Registers
import Mathlib.Data.Finset.Basic
import Mathlib.Logic.Function.Basic

/-!
# What the library sees of the kernel

The state a run of `rocket_interface.c` can change: the GEM handles live on the
one open descriptor, the CPU mappings of the process, `errno`, and a trace of
the calls made. Where the kernel is free to choose a call's outcome the call
takes it as an argument; what the kernel promises about its choices is stated
where it is assumed.
-/

namespace Librocket.Rocket

/-- A CPU address. -/
abbrev Addr := U64

def NULL : Addr := 0

/-- `(void *) -1`. -/
def MAP_FAILED : Addr := -1

/-- What a failed call leaves in `errno`. -/
structure Errno where
  code : ℤ
  pos : 0 < code := by decide

def EINVAL : Errno := { code := 22 }
def ENOMEM : Errno := { code := 12 }

/-- What stands in `errno` when further calls were made after it was set to `e`,
each of which may have left a number of its own: the last that did wins. -/
def Errno.after (e : Errno) (left : List (Option Errno)) : Errno :=
  left.foldl (fun e l => l.getD e) e

@[simp] theorem Errno.after_nil (e : Errno) : e.after [] = e := rfl

@[simp] theorem Errno.after_cons (e : Errno) (l : Option Errno) (left : List (Option Errno)) :
    e.after (l :: left) = (l.getD e).after left := rfl

theorem Errno.getD_code (l : Option Errno) (e : Errno) :
    (l.map Errno.code).getD e.code = (l.getD e).code := by
  cases l with
  | none => rfl
  | some e' => rfl

/-- `struct drm_rocket_create_bo`. -/
structure DrmRocketCreateBo where
  size : U32
  handle : U32
  dmaAddress : U64
  offset : U64

/-- What `CREATE_BO` fills in. -/
structure CreateReply where
  handle : U32
  dmaAddress : U64
  offset : U64

def DrmRocketCreateBo.fill (create : DrmRocketCreateBo) (reply : CreateReply) :
    DrmRocketCreateBo where
  size := create.size
  handle := reply.handle
  dmaAddress := reply.dmaAddress
  offset := reply.offset

/-- The part of the device node a mapping shows. -/
structure Region where
  length : U64
  offset : U64
deriving DecidableEq

inductive Event
  | createBo (request : DrmRocketCreateBo) (outcome : Except Errno CreateReply)
  | mmap (length offset : U64) (outcome : Except Errno Addr)
  | munmap (addr : Addr) (length : U64) (whole : Bool)
  | gemClose (handle : U32) (closed : Bool)
  | perror (text : String)

/-- `mappings addr` is the mapping that starts at `addr`. -/
structure World where
  handles : Finset U32
  mappings : Addr → Option Region
  errno : ℤ
  trace : List Event

def World.log (w : World) (e : Event) : World := { w with trace := w.trace ++ [e] }

@[simp] theorem World.log_handles (w : World) (e : Event) : (w.log e).handles = w.handles := rfl

@[simp] theorem World.log_mappings (w : World) (e : Event) :
    (w.log e).mappings = w.mappings := rfl

@[simp] theorem World.log_trace (w : World) (e : Event) : (w.log e).trace = w.trace ++ [e] := rfl

@[simp] theorem pure_run {α : Type} (a : α) (w : World) : (pure a : StateM World α) w = (a, w) :=
  rfl

@[simp] theorem bind_run {α β : Type} (x : StateM World α) (f : α → StateM World β) (w : World) :
    (x >>= f) w = f (x w).1 (x w).2 := rfl

@[simp] theorem map_run {α β : Type} (f : α → β) (x : StateM World α) (w : World) :
    (f <$> x) w = (f (x w).1, (x w).2) := rfl

/-! ## The calls -/

/-- `ioctl(fd, DRM_IOCTL_ROCKET_CREATE_BO, &create)`. -/
def ioctlCreateBo (outcome : Except Errno CreateReply) (create : DrmRocketCreateBo) :
    StateM World (ℤ × DrmRocketCreateBo) := fun w =>
  match outcome with
  | .error e => ((-1, create), { w.log (.createBo create outcome) with errno := e.code })
  | .ok reply =>
      ((0, create.fill reply),
        { w.log (.createBo create outcome) with handles := insert reply.handle w.handles })

/-- `mmap(NULL, length, PROT_READ | PROT_WRITE, MAP_SHARED, fd, offset)`. -/
def mmap (outcome : Except Errno Addr) (length offset : U64) : StateM World Addr := fun w =>
  match outcome with
  | .error e => (MAP_FAILED, { w.log (.mmap length offset outcome) with errno := e.code })
  | .ok addr =>
      (addr, { w.log (.mmap length offset outcome) with
        mappings := Function.update w.mappings addr (some ⟨length, offset⟩) })

/-- `munmap(addr, length)` of a whole mapping. Anything else it could take apart
is left alone here and marked in the trace. -/
def munmap (addr : Addr) (length : U64) : StateM World Unit := fun w =>
  if (w.mappings addr).map Region.length = some length then
    ((), { w.log (.munmap addr length true) with
      mappings := Function.update w.mappings addr none })
  else
    ((), w.log (.munmap addr length false))

/-- `ioctl(fd, DRM_IOCTL_GEM_CLOSE, &close_args)`. A `failure` is of the kernel's
own making; without one the call removes a live handle and refuses any other. -/
def gemClose (failure : Option Errno) (handle : U32) : StateM World ℤ := fun w =>
  match failure with
  | some e => (-1, { w.log (.gemClose handle false) with errno := e.code })
  | none =>
      if handle ∈ w.handles then
        (0, { w.log (.gemClose handle true) with handles := w.handles.erase handle })
      else
        (-1, { w.log (.gemClose handle false) with errno := EINVAL.code })

/-- `perror(text)`, which may leave an error number of its own behind. -/
def perror (left : Option Errno) (text : String) : StateM World Unit := fun w =>
  match left with
  | some e => ((), { w.log (.perror text) with errno := e.code })
  | none => ((), w.log (.perror text))

/-- The value of `errno`. -/
def errno : StateM World ℤ := fun w => (w.errno, w)

end Librocket.Rocket
