import Librocket.Rocket.Kernel

/-!
# `rocket_interface.c`: buffer objects

`rocket_bo_create`, `rocket_bo_destroy`, `rocket_bo_map` and `rocket_bo_unmap`,
and what each does to the kernel's tables. A `*bo` is passed in and handed back.
-/

namespace Librocket.Rocket

/-- `struct rocket_ctx`. -/
structure RocketCtx where
  fd : CInt

/-- `struct rocket_bo`. -/
structure RocketBo where
  fd : CInt
  handle : U32
  dmaAddr : U64
  size : U64
  map : Addr

/-- The kernel's choices during one `rocket_bo_create`. -/
structure CreateEnv where
  createBo : Except Errno CreateReply
  perror : Option Errno := none
  mmap : Except Errno Addr
  close : Option Errno := none

/-- `struct drm_rocket_create_bo create = { .size = size }`. -/
def createRequest (size : U64) : DrmRocketCreateBo where
  size := size.setWidth 32
  handle := 0
  dmaAddress := 0
  offset := 0

def rocketBoCreate (env : CreateEnv) (ctx : RocketCtx) (bo : RocketBo) (size : U64) :
    StateM World (ℤ × RocketBo) := do
  let (ret, create) ← ioctlCreateBo env.createBo (createRequest size)
  if ret < 0 then
    perror env.perror "DRM_IOCTL_ROCKET_CREATE_BO failed"
    return (-(← errno), bo)
  let bo : RocketBo :=
    { fd := ctx.fd, handle := create.handle, dmaAddr := create.dmaAddress, size := size
      map := NULL }
  let map ← mmap env.mmap size create.offset
  if map = MAP_FAILED then
    -- Of the assignments above only `map` is taken back.
    let _ ← gemClose env.close create.handle
    return (-(← errno), { bo with map := NULL })
  return (0, { bo with map := map })

def rocketBoUnmap (bo : RocketBo) : StateM World RocketBo := do
  if bo.map ≠ NULL then
    munmap bo.map bo.size
    return { bo with map := NULL }
  else
    return bo

def rocketBoDestroy (close : Option Errno) (bo : RocketBo) : StateM World RocketBo := do
  let handle := bo.handle
  let bo ← if bo.map ≠ NULL then rocketBoUnmap bo else pure bo
  let _ ← gemClose close handle
  return { bo with handle := 0, dmaAddr := 0, size := 0 }

def rocketBoMap (bo : RocketBo) : Addr := bo.map

/-! ## What the kernel promises -/

/-- What is assumed of the kernel's choices during a create that starts in `w`:
a handle it gives out is not zero and not live, a mapping it makes is not `NULL`
and starts where no other does, and closing a live handle succeeds. A handle
that was closed may be given out again. -/
structure CreateEnv.Lawful (env : CreateEnv) (w : World) : Prop where
  handle_ne : ∀ {reply}, env.createBo = .ok reply → reply.handle ≠ 0
  handle_fresh : ∀ {reply}, env.createBo = .ok reply → reply.handle ∉ w.handles
  map_ne : ∀ {addr}, env.mmap = .ok addr → addr ≠ NULL ∧ addr ≠ MAP_FAILED
  map_fresh : ∀ {addr}, env.mmap = .ok addr → w.mappings addr = none
  close : env.close = none

/-- A create that succeeds is lawful if it hands out what is free. -/
theorem CreateEnv.Lawful.ok {w : World} {reply : CreateReply} {addr : Addr}
    (hne : reply.handle ≠ 0) (hfresh : reply.handle ∉ w.handles)
    (hmap : addr ≠ NULL ∧ addr ≠ MAP_FAILED) (hfree : w.mappings addr = none) :
    CreateEnv.Lawful { createBo := .ok reply, mmap := .ok addr } w where
  handle_ne := by
    rintro _ ⟨⟩
    exact hne
  handle_fresh := by
    rintro _ ⟨⟩
    exact hfresh
  map_ne := by
    rintro _ ⟨⟩
    exact hmap
  map_fresh := by
    rintro _ ⟨⟩
    exact hfree
  close := rfl

/-- So is one whose mapping fails. -/
theorem CreateEnv.Lawful.mmap_error {w : World} {reply : CreateReply} {e : Errno}
    (hne : reply.handle ≠ 0) (hfresh : reply.handle ∉ w.handles) :
    CreateEnv.Lawful { createBo := .ok reply, mmap := .error e } w where
  handle_ne := by
    rintro _ ⟨⟩
    exact hne
  handle_fresh := by
    rintro _ ⟨⟩
    exact hfresh
  map_ne := by
    rintro _ ⟨⟩
  map_fresh := by
    rintro _ ⟨⟩
  close := rfl

/-! ## What each call does -/

/-- What a create makes of `*bo`, up to its mapping. -/
def createdBo (ctx : RocketCtx) (size : U64) (reply : CreateReply) (map : Addr) : RocketBo where
  fd := ctx.fd
  handle := reply.handle
  dmaAddr := reply.dmaAddress
  size := size
  map := map

/-- The three ways a create can end: code, `*bo`, and the world left behind. -/
inductive CreateEnd (env : CreateEnv) (ctx : RocketCtx) (bo : RocketBo) (size : U64) (w : World) :
    ℤ → RocketBo → World → Prop
  | refused {e ret w'} (hcreate : env.createBo = .error e) (hret : ret < 0)
      (hhandles : w'.handles = w.handles) (hmappings : w'.mappings = w.mappings)
      (htrace : w'.trace = w.trace ++ [.createBo (createRequest size) env.createBo,
        .perror "DRM_IOCTL_ROCKET_CREATE_BO failed"]) :
      CreateEnd env ctx bo size w ret bo w'
  | unmapped {reply e ret w'} (hcreate : env.createBo = .ok reply) (hmap : env.mmap = .error e)
      (hret : ret < 0) (hhandles : w'.handles = w.handles) (hmappings : w'.mappings = w.mappings)
      (htrace : w'.trace = w.trace ++ [.createBo (createRequest size) env.createBo,
        .mmap size reply.offset env.mmap, .gemClose reply.handle true]) :
      CreateEnd env ctx bo size w ret (createdBo ctx size reply NULL) w'
  | created {reply addr w'} (hcreate : env.createBo = .ok reply) (hmap : env.mmap = .ok addr)
      (hhandles : w'.handles = insert reply.handle w.handles)
      (hmappings : w'.mappings =
        Function.update w.mappings addr (some { length := size, offset := reply.offset }))
      (htrace : w'.trace = w.trace ++ [.createBo (createRequest size) env.createBo,
        .mmap size reply.offset env.mmap]) :
      CreateEnd env ctx bo size w 0 (createdBo ctx size reply addr) w'

section Spec

variable {env : CreateEnv} {ctx : RocketCtx} {bo : RocketBo} {size : U64} {w : World}

theorem gemClose_live {handle : U32} (h : handle ∈ w.handles) :
    gemClose none handle w =
      (0, { w.log (.gemClose handle true) with handles := w.handles.erase handle }) := by
  simp [gemClose, h]

theorem gemClose_not_live {handle : U32} (h : handle ∉ w.handles) :
    gemClose none handle w =
      (-1, { w.log (.gemClose handle false) with errno := EINVAL.code }) := by
  simp [gemClose, h]

/-- The code is whatever number `perror` leaves, its own or that of the failed
call. -/
theorem rocketBoCreate_createBo_error {e : Errno} (hcreate : env.createBo = .error e) :
    rocketBoCreate env ctx bo size w = ((-(e.after [env.perror]).code, bo),
      { w with
        errno := (e.after [env.perror]).code
        trace := w.trace ++ [.createBo (createRequest size) env.createBo,
          .perror "DRM_IOCTL_ROCKET_CREATE_BO failed"] }) := by
  cases hperror : env.perror with
  | none => simp [rocketBoCreate, ioctlCreateBo, hcreate, perror, hperror, errno, World.log]
  | some e' => simp [rocketBoCreate, ioctlCreateBo, hcreate, perror, hperror, errno, World.log]

theorem rocketBoCreate_refused {e : Errno} (hcreate : env.createBo = .error e) :
    ∃ e' : Errno, rocketBoCreate env ctx bo size w = ((-e'.code, bo),
      { w with
        errno := e'.code
        trace := w.trace ++ [.createBo (createRequest size) env.createBo,
          .perror "DRM_IOCTL_ROCKET_CREATE_BO failed"] }) :=
  ⟨_, rocketBoCreate_createBo_error hcreate⟩

/-- A mapping that fails, whatever becomes of the close. -/
theorem rocketBoCreate_mmap_error {reply : CreateReply} {e : Errno}
    (hcreate : env.createBo = .ok reply) (hmap : env.mmap = .error e) :
    rocketBoCreate env ctx bo size w =
      ((-(e.after [env.close]).code, createdBo ctx size reply NULL),
        { w with
          handles := if env.close = none then w.handles.erase reply.handle
            else insert reply.handle w.handles
          errno := (e.after [env.close]).code
          trace := w.trace ++ [.createBo (createRequest size) env.createBo,
            .mmap size reply.offset env.mmap, .gemClose reply.handle (env.close = none)] }) := by
  cases hclose : env.close with
  | none =>
      simp [rocketBoCreate, ioctlCreateBo, hcreate, mmap, hmap, hclose, gemClose, errno, createdBo,
        DrmRocketCreateBo.fill, World.log, Finset.erase_insert_eq_erase]
  | some e' =>
      simp [rocketBoCreate, ioctlCreateBo, hcreate, mmap, hmap, hclose, gemClose, errno, createdBo,
        DrmRocketCreateBo.fill, World.log]

/-- The handle made is closed again; only `*bo` still knows its number. -/
theorem rocketBoCreate_unmapped {reply : CreateReply} {e : Errno}
    (hcreate : env.createBo = .ok reply) (hmap : env.mmap = .error e) (hclose : env.close = none)
    (hfresh : reply.handle ∉ w.handles) :
    rocketBoCreate env ctx bo size w = ((-e.code, createdBo ctx size reply NULL),
      { w with
        errno := e.code
        trace := w.trace ++ [.createBo (createRequest size) env.createBo,
          .mmap size reply.offset env.mmap, .gemClose reply.handle true] }) := by
  rw [rocketBoCreate_mmap_error hcreate hmap, hclose]
  simp [Finset.erase_eq_of_notMem hfresh]

theorem rocketBoCreate_created {reply : CreateReply} {addr : Addr}
    (hcreate : env.createBo = .ok reply) (hmap : env.mmap = .ok addr) (hne : addr ≠ MAP_FAILED) :
    rocketBoCreate env ctx bo size w = ((0, createdBo ctx size reply addr),
      { w with
        handles := insert reply.handle w.handles
        mappings := Function.update w.mappings addr
          (some { length := size, offset := reply.offset })
        trace := w.trace ++ [.createBo (createRequest size) env.createBo,
          .mmap size reply.offset env.mmap] }) := by
  simp [rocketBoCreate, ioctlCreateBo, hcreate, mmap, hmap, createdBo, DrmRocketCreateBo.fill,
    World.log, hne]

theorem rocketBoCreate_end (h : env.Lawful w) :
    CreateEnd env ctx bo size w (rocketBoCreate env ctx bo size w).1.1
      (rocketBoCreate env ctx bo size w).1.2 (rocketBoCreate env ctx bo size w).2 := by
  rcases hcreate : env.createBo with e | reply
  · obtain ⟨e', hrun⟩ := rocketBoCreate_refused hcreate
    rw [hrun]
    exact .refused hcreate (neg_neg_of_pos e'.pos) rfl rfl rfl
  rcases hmap : env.mmap with e | addr
  · rw [rocketBoCreate_unmapped hcreate hmap h.close (h.handle_fresh hcreate)]
    exact .unmapped hcreate hmap (neg_neg_of_pos e.pos) rfl rfl rfl
  · rw [rocketBoCreate_created hcreate hmap (h.map_ne hmap).2]
    exact .created hcreate hmap rfl rfl rfl

theorem rocketBoUnmap_null (h : bo.map = NULL) : rocketBoUnmap bo w = (bo, w) := by
  simp [rocketBoUnmap, h]

theorem rocketBoUnmap_mapped {region : Region} (h : bo.map ≠ NULL)
    (hmap : w.mappings bo.map = some region) (hlength : region.length = bo.size) :
    rocketBoUnmap bo w = ({ bo with map := NULL },
      { w.log (.munmap bo.map bo.size true) with
        mappings := Function.update w.mappings bo.map none }) := by
  simp [rocketBoUnmap, h, munmap, hmap, hlength]

theorem rocketBoUnmap_bo : (rocketBoUnmap bo w).1 = { bo with map := NULL } := by
  by_cases h : bo.map = NULL
  · rw [rocketBoUnmap_null h, ← h]
  · simp [rocketBoUnmap, h]

/-- A destroyed `*bo`: only the descriptor is kept. -/
def destroyedBo (bo : RocketBo) : RocketBo where
  fd := bo.fd
  handle := 0
  dmaAddr := 0
  size := 0
  map := NULL

/-- A destroy is an unmap, a close and a reset. -/
theorem rocketBoDestroy_eq (close : Option Errno) : rocketBoDestroy close bo w =
    (destroyedBo bo, (gemClose close bo.handle (rocketBoUnmap bo w).2).2) := by
  have hreset : { (rocketBoUnmap bo w).1 with handle := 0, dmaAddr := 0, size := 0 } =
      destroyedBo bo := by
    rw [rocketBoUnmap_bo]
    rfl
  rw [← hreset]
  by_cases h : bo.map = NULL
  · simp [rocketBoDestroy, h, rocketBoUnmap_null h]
  · simp [rocketBoDestroy, h]

end Spec

end Librocket.Rocket
