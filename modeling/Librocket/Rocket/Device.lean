import Librocket.Rocket.Reporting

/-!
# The whole of `rocket_interface.c` on one process

`rocket_open`, `rocket_close`, `rocket_bo_prep` and `rocket_bo_fini`, over a
host that has any number of descriptors open, each with GEM handles of its own.
The calls on buffer objects and `rocket_submit` are those of `Interface` and
`Submit`, run on the part of the host they see.
-/

namespace Librocket.Rocket.Device

/-- A descriptor `open` may return. -/
abbrev Fd := {fd : CInt // 0 ≤ fd.toInt}

/-- `struct drm_rocket_prep_bo`. -/
structure DrmRocketPrepBo where
  handle : U32
  reserved : U32
  timeoutNs : BitVec 64

/-- `struct drm_rocket_fini_bo`. -/
structure DrmRocketFiniBo where
  handle : U32
  reserved : U32

inductive HostEvent
  | openFile (path : String) (outcome : Except Errno Fd)
  | closeFile (fd : CInt) (valid : Bool)
  | bo (fd : CInt) (e : Event)
  | submit (c : Submit.Call)
  | prepBo (fd : CInt) (request : DrmRocketPrepBo) (outcome : Except Errno Unit)
  | finiBo (fd : CInt) (request : DrmRocketFiniBo) (outcome : Except Errno Unit)

/-- `files fd` is the handles live on `fd`, if that is open on a device node. -/
structure Host where
  files : CInt → Option (Finset U32)
  mappings : Addr → Option Region
  memory : Submit.Memory
  errno : ℤ
  trace : List HostEvent

def Host.log (h : Host) (e : HostEvent) : Host := { h with trace := h.trace ++ [e] }

@[simp] theorem pure_run {α : Type} (a : α) (h : Host) : (pure a : StateM Host α) h = (a, h) :=
  rfl

@[simp] theorem bind_run {α β : Type} (x : StateM Host α) (f : α → StateM Host β) (h : Host) :
    (x >>= f) h = f (x h).1 (x h).2 := rfl

@[simp] theorem map_run {α β : Type} (f : α → β) (x : StateM Host α) (h : Host) :
    (f <$> x) h = (f (x h).1, (x h).2) := rfl

/-! ## The parts of the host -/

/-- What a call on `fd` sees. A descriptor that is not open has no handles. -/
def Host.world (h : Host) (fd : CInt) : World where
  handles := (h.files fd).getD ∅
  mappings := h.mappings
  errno := h.errno
  trace := []

@[simp] theorem world_mappings (h : Host) (fd : CInt) : (h.world fd).mappings = h.mappings := rfl

@[simp] theorem world_trace (h : Host) (fd : CInt) : (h.world fd).trace = [] := rfl

theorem world_handles {h : Host} {fd : CInt} {handles : Finset U32}
    (hfile : h.files fd = some handles) : (h.world fd).handles = handles := by
  simp [Host.world, hfile]

/-- A call on `fd`, of which only the handles of an open descriptor are kept. -/
def onFile {α : Type} (fd : CInt) (x : StateM World α) : StateM Host α := fun h =>
  let r := x (h.world fd)
  (r.1, { h with
    files := Function.update h.files fd ((h.files fd).map fun _ => r.2.handles)
    mappings := r.2.mappings
    errno := r.2.errno
    trace := h.trace ++ r.2.trace.map (.bo fd) })

def Host.process (h : Host) : Submit.Process where
  memory := h.memory
  errno := h.errno
  trace := []

def onProcess {α : Type} (x : StateM Submit.Process α) : StateM Host α := fun h =>
  let r := x h.process
  (r.1, { h with
    memory := r.2.memory
    errno := r.2.errno
    trace := h.trace ++ r.2.trace.map .submit })

/-! ## Opening and closing -/

/-- `open(path, O_RDWR)`. -/
def openFile (outcome : Except Errno Fd) (path : String) : StateM Host CInt := fun h =>
  match outcome with
  | .error e => (-1, { h.log (.openFile path outcome) with errno := e.code })
  | .ok fd =>
      (fd.1, { h.log (.openFile path outcome) with
        files := Function.update h.files fd.1 (some ∅) })

/-- `close(fd)`, which takes the handles along. -/
def closeFile (fd : CInt) : StateM Host Unit := fun h =>
  match h.files fd with
  | some _ =>
      ((), { h.log (.closeFile fd true) with files := Function.update h.files fd none })
  | none => ((), { h.log (.closeFile fd false) with errno := EBADF.code })

/-- The value of `errno`. -/
def errno : StateM Host ℤ := fun h => (h.errno, h)

/-- What the two nodes answer. -/
structure OpenEnv where
  accel0 : Except Errno Fd
  accel1 : Except Errno Fd

def rocketOpen (env : OpenEnv) (ctx : Option RocketCtx) : StateM Host (ℤ × Option RocketCtx) := do
  let some ctx := ctx | return (-EINVAL.code, none)
  let mut ctx : RocketCtx := { ctx with fd := ← openFile env.accel0 "/dev/accel/accel0" }
  if ctx.fd.toInt < 0 then
    ctx := { ctx with fd := ← openFile env.accel1 "/dev/accel/accel1" }
  if ctx.fd.toInt < 0 then
    return (-(← errno), some ctx)
  return (0, some ctx)

def rocketClose (ctx : RocketCtx) : StateM Host RocketCtx := do
  if 0 ≤ ctx.fd.toInt then
    closeFile ctx.fd
    return { ctx with fd := -1 }
  return ctx

/-! ## CPU access -/

/-- An `ioctl` that takes a request and gives nothing back. -/
def ioctl (outcome : Except Errno Unit) (request : HostEvent) : StateM Host ℤ := fun h =>
  match outcome with
  | .error e => (-1, { h.log request with errno := e.code })
  | .ok () => (0, h.log request)

/-- The two calls on either side of an access differ in the request only. -/
def access (outcome : Except Errno Unit) (request : HostEvent) : StateM Host ℤ := do
  let ret ← ioctl outcome request
  if ret < 0 then
    return -(← errno)
  return 0

/-- `DRM_IOCTL_ROCKET_PREP_BO`. -/
def rocketBoPrep (outcome : Except Errno Unit) (ctx : RocketCtx) (bo : RocketBo)
    (timeoutNs : BitVec 64) : StateM Host ℤ :=
  access outcome (.prepBo ctx.fd { handle := bo.handle, reserved := 0, timeoutNs := timeoutNs }
    outcome)

/-- `DRM_IOCTL_ROCKET_FINI_BO`. -/
def rocketBoFini (outcome : Except Errno Unit) (ctx : RocketCtx) (bo : RocketBo) :
    StateM Host ℤ :=
  access outcome (.finiBo ctx.fd { handle := bo.handle, reserved := 0 } outcome)

/-! ## The calls of `Interface` and `Submit` -/

def boCreate (env : CreateEnv) (ctx : RocketCtx) (bo : RocketBo) (size : U64) :
    StateM Host (ℤ × RocketBo) := onFile ctx.fd (rocketBoCreate env ctx bo size)

def boUnmap (bo : RocketBo) : StateM Host RocketBo := onFile bo.fd (rocketBoUnmap bo)

/-- What becomes of a `GEM_CLOSE` on `fd` before its handle is looked at. -/
def Host.refusal (h : Host) (fd : CInt) : Option Errno :=
  if (h.files fd).isSome then none else some EBADF

def boDestroy (ctx : RocketCtx) (bo : RocketBo) : StateM Host RocketBo := fun h =>
  onFile ctx.fd (rocketBoDestroy (h.refusal ctx.fd) bo) h

def submit (env : Submit.SubmitEnv) (ctx : RocketCtx) (regcmdBo : RocketBo) (regcmdCount : U32)
    (inBos outBos : Submit.BoArray) : StateM Host ℤ :=
  onProcess (Submit.rocketSubmit env ctx regcmdBo regcmdCount inBos outBos)

/-! ## What the kernel promises -/

/-- A descriptor handed out is not open yet. -/
structure OpenEnv.Lawful (env : OpenEnv) (h : Host) : Prop where
  accel0 : ∀ {fd}, env.accel0 = .ok fd → h.files fd.1 = none
  accel1 : ∀ {fd}, env.accel1 = .ok fd → h.files fd.1 = none

/-- On an open descriptor a create is lawful, and on any other `CREATE_BO`
fails. -/
def CreateLawful (env : CreateEnv) (h : Host) (fd : CInt) : Prop :=
  if (h.files fd).isSome then env.Lawful (h.world fd) else ∃ e, env.createBo = .error e

/-- A handle live on its descriptor. -/
def Host.LiveHandle (h : Host) (k : CInt × U32) : Prop :=
  ∃ handles, h.files k.1 = some handles ∧ k.2 ∈ handles

theorem Host.liveHandle_congr {h h' : Host} (hfiles : h'.files = h.files) :
    h'.LiveHandle = h.LiveHandle := by
  funext k
  simp only [Host.LiveHandle, hfiles]

/-! ## What each call does -/

/-- The part of the host `rocket_open` and `rocket_close` leave alone. -/
structure Host.SameMemory (h h' : Host) : Prop where
  mappings : h'.mappings = h.mappings
  memory : h'.memory = h.memory

/-- A call that leaves its trace and nothing else, `errno` apart. -/
structure Host.Logged (h h' : Host) (es : List HostEvent) : Prop where
  files : h'.files = h.files
  mappings : h'.mappings = h.mappings
  memory : h'.memory = h.memory
  trace : h'.trace = h.trace ++ es

/-- The two ways an open can end. -/
inductive OpenEnd (env : OpenEnv) (h : Host) : ℤ → RocketCtx → Host → Prop
  | opened {fd : Fd} {es h'} (hfd : env.accel0 = .ok fd ∨ env.accel1 = .ok fd)
      (hfiles : h'.files = Function.update h.files fd.1 (some ∅)) (hmemory : h.SameMemory h')
      (htrace : h'.trace = h.trace ++ es)
      (hes : ∀ e ∈ es, ∃ path outcome, e = .openFile path outcome) :
      OpenEnd env h 0 ⟨fd.1⟩ h'
  | refused {e e' h'} (haccel0 : env.accel0 = .error e') (haccel1 : env.accel1 = .error e)
      (hfiles : h'.files = h.files) (hmemory : h.SameMemory h')
      (htrace : h'.trace = h.trace ++ [.openFile "/dev/accel/accel0" env.accel0,
        .openFile "/dev/accel/accel1" env.accel1]) :
      OpenEnd env h (-e.code) ⟨-1⟩ h'

/-- The two ways a create can end: code, `*bo`, and the host left behind. -/
inductive CreateBoEnd (env : CreateEnv) (ctx : RocketCtx) (size : U64) (h : Host) :
    ℤ → RocketBo → Host → Prop
  | failed {ret : ℤ} {bo : RocketBo} {es : List Event} {h' : Host} (hret : ret < 0)
      (hfiles : h'.files = h.files) (hmappings : h'.mappings = h.mappings)
      (hmemory : h'.memory = h.memory)
      (htrace : h'.trace = h.trace ++ es.map (.bo ctx.fd)) (hes : ∀ e ∈ es, Event.Proper e) :
      CreateBoEnd env ctx size h ret bo h'
  | created {reply : CreateReply} {addr : Addr} {handles : Finset U32} {es : List Event}
      {h' : Host} (hfile : h.files ctx.fd = some handles)
      (hne : reply.handle ≠ 0) (hfresh : reply.handle ∉ handles) (hnull : addr ≠ NULL)
      (hfree : h.mappings addr = none)
      (hfiles : h'.files =
        Function.update h.files ctx.fd (some (insert reply.handle handles)))
      (hmappings : h'.mappings =
        Function.update h.mappings addr (some { length := size, offset := reply.offset }))
      (hmemory : h'.memory = h.memory)
      (htrace : h'.trace = h.trace ++ es.map (.bo ctx.fd)) (hes : ∀ e ∈ es, Event.Proper e) :
      CreateBoEnd env ctx size h 0 (createdBo ctx size reply addr) h'

/-- What an unmap does to the mappings. -/
def unmapped (bo : RocketBo) (mappings : Addr → Option Region) : Addr → Option Region :=
  if bo.map = NULL then mappings else Function.update mappings bo.map none

/-- The two ways a destroy can end: it closes the handle, or there is none to
close on that descriptor. -/
inductive DestroyEnd (ctx : RocketCtx) (bo : RocketBo) (h : Host) : Host → Prop
  | closed {handles : Finset U32} {es : List Event} {h' : Host}
      (hfile : h.files ctx.fd = some handles) (hmem : bo.handle ∈ handles)
      (hfiles : h'.files = Function.update h.files ctx.fd (some (handles.erase bo.handle)))
      (hmappings : h'.mappings = unmapped bo h.mappings) (hmemory : h'.memory = h.memory)
      (htrace : h'.trace = h.trace ++ (es ++ [Event.gemClose bo.handle true]).map (.bo ctx.fd))
      (hes : ∀ e ∈ es, Event.Proper e) : DestroyEnd ctx bo h h'
  | missed {es : List Event} {h' : Host} (hmiss : ¬ h.LiveHandle (ctx.fd, bo.handle))
      (hfiles : h'.files = h.files) (hmappings : h'.mappings = unmapped bo h.mappings)
      (hmemory : h'.memory = h.memory)
      (htrace : h'.trace = h.trace ++ (es ++ [Event.gemClose bo.handle false]).map (.bo ctx.fd))
      (hes : ∀ e ∈ es, Event.Proper e) : DestroyEnd ctx bo h h'

section Spec

variable {env : OpenEnv} {ctx : RocketCtx} {h : Host}

theorem rocketOpen_accel0 {fd : Fd} (haccel0 : env.accel0 = .ok fd) :
    rocketOpen env (some ctx) h = ((0, some ⟨fd.1⟩), { h with
      files := Function.update h.files fd.1 (some ∅)
      trace := h.trace ++ [.openFile "/dev/accel/accel0" env.accel0] }) := by
  simp [rocketOpen, openFile, haccel0, not_lt.mpr fd.2, Host.log]

theorem rocketOpen_accel1 {e : Errno} {fd : Fd} (haccel0 : env.accel0 = .error e)
    (haccel1 : env.accel1 = .ok fd) :
    rocketOpen env (some ctx) h = ((0, some ⟨fd.1⟩), { h with
      files := Function.update h.files fd.1 (some ∅)
      errno := e.code
      trace := h.trace ++ [.openFile "/dev/accel/accel0" env.accel0,
        .openFile "/dev/accel/accel1" env.accel1] }) := by
  simp [rocketOpen, openFile, haccel0, haccel1, not_lt.mpr fd.2, Host.log]

/-- What the first node answered is not in the code. -/
theorem rocketOpen_refused {e e' : Errno} (haccel0 : env.accel0 = .error e')
    (haccel1 : env.accel1 = .error e) :
    rocketOpen env (some ctx) h = ((-e.code, some ⟨-1⟩), { h with
      errno := e.code
      trace := h.trace ++ [.openFile "/dev/accel/accel0" env.accel0,
        .openFile "/dev/accel/accel1" env.accel1] }) := by
  simp [rocketOpen, openFile, haccel0, haccel1, errno, Host.log]

theorem rocketOpen_end :
    ∃ ctx', (rocketOpen env (some ctx) h).1.2 = some ctx' ∧
      OpenEnd env h (rocketOpen env (some ctx) h).1.1 ctx' (rocketOpen env (some ctx) h).2 := by
  rcases haccel0 : env.accel0 with e' | fd
  · rcases haccel1 : env.accel1 with e | fd
    · rw [rocketOpen_refused haccel0 haccel1]
      exact ⟨_, rfl, .refused haccel0 haccel1 rfl ⟨rfl, rfl⟩ rfl⟩
    · rw [rocketOpen_accel1 haccel0 haccel1]
      exact ⟨_, rfl, .opened (Or.inr haccel1) rfl ⟨rfl, rfl⟩ rfl (by simp)⟩
  · rw [rocketOpen_accel0 haccel0]
    exact ⟨_, rfl, .opened (Or.inl haccel0) rfl ⟨rfl, rfl⟩ rfl (by simp)⟩

theorem rocketClose_closed (hfd : ctx.fd.toInt < 0) : rocketClose ctx h = (ctx, h) := by
  simp [rocketClose, not_le.mpr hfd]

theorem rocketClose_open {handles : Finset U32} (hfd : 0 ≤ ctx.fd.toInt)
    (hfile : h.files ctx.fd = some handles) : rocketClose ctx h = (⟨-1⟩,
      { h.log (.closeFile ctx.fd true) with files := Function.update h.files ctx.fd none }) := by
  simp [rocketClose, hfd, closeFile, hfile]

theorem closeFile_files_of_ne {fd fd' : CInt} (hne : fd' ≠ fd) :
    (closeFile fd h).2.files fd' = h.files fd' := by
  unfold closeFile
  split
  · exact Function.update_of_ne hne _ _
  · rfl

theorem rocketClose_files_of_ne {fd' : CInt} (hne : fd' ≠ ctx.fd) :
    (rocketClose ctx h).2.files fd' = h.files fd' := by
  by_cases hfd : 0 ≤ ctx.fd.toInt
  · simp only [rocketClose, if_pos hfd]
    exact closeFile_files_of_ne hne
  · rw [rocketClose_closed (not_le.mp hfd)]

/-- Neither the mappings nor the heap. -/
theorem rocketClose_memory : h.SameMemory (rocketClose ctx h).2 := by
  by_cases hfd : 0 ≤ ctx.fd.toInt
  · simp only [rocketClose, if_pos hfd, bind_run, pure_run, closeFile]
    cases h.files ctx.fd with
    | none => exact ⟨rfl, rfl⟩
    | some handles => exact ⟨rfl, rfl⟩
  · rw [rocketClose_closed (not_le.mp hfd)]
    exact ⟨rfl, rfl⟩

theorem OpenEnd.sameMemory {ret : ℤ} {ctx' : RocketCtx} {h' : Host}
    (hend : OpenEnd env h ret ctx' h') : h.SameMemory h' := by
  cases hend with
  | opened _ _ hmemory => exact hmemory
  | refused _ _ _ hmemory => exact hmemory

/-! ### CPU access -/

theorem access_error {e : Errno} {request : HostEvent} :
    access (.error e) request h = (-e.code, { h.log request with errno := e.code }) := rfl

theorem access_logged {outcome : Except Errno Unit} {request : HostEvent} :
    h.Logged (access outcome request h).2 [request] := by
  cases outcome with
  | error e => exact ⟨rfl, rfl, rfl, rfl⟩
  | ok u => exact ⟨rfl, rfl, rfl, rfl⟩

/-- The code is 0 where the kernel granted the access. -/
theorem access_eq_zero_iff {outcome : Except Errno Unit} {request : HostEvent} :
    (access outcome request h).1 = 0 ↔ outcome = .ok () := by
  cases outcome with
  | error e => simp [access_error, e.pos.ne']
  | ok u => exact iff_of_true rfl rfl

/-! ### Submitting -/

section Submit

variable {env : Submit.SubmitEnv} {regcmdBo : RocketBo} {regcmdCount : U32}
  {inBos outBos : Submit.BoArray}

theorem submitEnd_memory {p p' : Submit.Process} {ret : ℤ}
    (hend : Submit.SubmitEnd env ctx regcmdBo regcmdCount inBos outBos p ret p') :
    p'.memory = p.memory := by
  cases hend with
  | in_refused _ hmemory => exact hmemory
  | out_refused _ _ hmemory => exact hmemory
  | failed _ _ _ hmemory => exact hmemory
  | submitted _ _ _ hmemory => exact hmemory

/-- The arrays of a submit are gone when it returns. -/
theorem submit_logged (henv : env.Lawful inBos outBos h.memory) :
    ∃ p', Submit.SubmitEnd env ctx regcmdBo regcmdCount inBos outBos h.process
        (submit env ctx regcmdBo regcmdCount inBos outBos h).1 p' ∧
      h.Logged (submit env ctx regcmdBo regcmdCount inBos outBos h).2 (p'.trace.map .submit) := by
  have hend := @Submit.rocketSubmit_end env ctx regcmdBo regcmdCount inBos outBos h.process henv
  exact ⟨_, hend, rfl, rfl, submitEnd_memory hend, rfl⟩

end Submit

/-! ### Calls on one descriptor -/

theorem files_onFile_of_ne {α : Type} {fd fd' : CInt} {x : StateM World α} (hne : fd' ≠ fd) :
    (onFile fd x h).2.files fd' = h.files fd' := Function.update_of_ne hne _ _

/-- A call that leaves the handles of its descriptor leaves those of all. -/
theorem files_onFile_of_eq {α : Type} {fd : CInt} {x : StateM World α}
    (hx : (x (h.world fd)).2.handles = (h.world fd).handles) :
    (onFile fd x h).2.files = h.files := by
  have hfile : (h.files fd).map (fun _ => (x (h.world fd)).2.handles) = h.files fd := by
    rw [hx]
    cases hfile : h.files fd with
    | none => rfl
    | some handles => simp [Host.world, hfile]
  simp only [onFile, hfile, Function.update_eq_self]

theorem boCreate_end {env : CreateEnv} {bo : RocketBo} {size : U64}
    (henv : CreateLawful env h ctx.fd) :
    CreateBoEnd env ctx size h (boCreate env ctx bo size h).1.1 (boCreate env ctx bo size h).1.2
      (boCreate env ctx bo size h).2 := by
  rw [CreateLawful] at henv
  cases hfile : h.files ctx.fd with
  | none =>
      -- No descriptor: the kernel refuses, and nothing has happened.
      rw [if_neg (by simp [hfile])] at henv
      obtain ⟨e, hcreate⟩ := henv
      obtain ⟨e', hrun⟩ := @rocketBoCreate_refused env ctx bo size (h.world ctx.fd) e hcreate
      have hes : ∀ e ∈ (rocketBoCreate env ctx bo size (h.world ctx.fd)).2.trace,
          Event.Proper e := by
        simp [hrun, Event.Proper]
      refine .failed ?_ (files_onFile_of_eq ?_) ?_ rfl rfl hes
      · simp [boCreate, onFile, hrun, e'.pos]
      · rw [hrun]
      · simp [boCreate, onFile, hrun]
  | some handles =>
      rw [if_pos (by rw [hfile]; rfl)] at henv
      have hhandles := world_handles hfile
      have hend : CreateEnd env ctx bo size (h.world ctx.fd) _ _ _ := rocketBoCreate_end henv
      simp only [boCreate, onFile]
      generalize rocketBoCreate env ctx bo size (h.world ctx.fd) = r at hend ⊢
      obtain ⟨⟨ret, bo'⟩, w⟩ := r
      dsimp only at hend ⊢
      rw [hfile, Option.map_some]
      -- The handles of the others are those they were.
      have hself : ∀ {w : World}, w.handles = (h.world ctx.fd).handles →
          Function.update h.files ctx.fd (some w.handles) = h.files := by
        intro w hw
        rw [hw, hhandles, ← hfile, Function.update_eq_self]
      cases hend with
      | refused _ hret hw hmappings htrace =>
          exact .failed hret (hself hw) hmappings rfl (by rw [htrace])
            (by simp [Event.Proper])
      | unmapped _ _ hret hw hmappings htrace =>
          exact .failed hret (hself hw) hmappings rfl (by rw [htrace])
            (by simp [Event.Proper])
      | created hcreate hmap hw hmappings htrace =>
          exact .created hfile (henv.handle_ne hcreate) (hhandles ▸ henv.handle_fresh hcreate)
            (henv.map_ne hmap).1 (henv.map_fresh hmap) (by rw [hw, hhandles]) hmappings rfl
            (by rw [htrace]) (by simp [Event.Proper])

section Unmap

variable {bo : RocketBo}
  (hmap : bo.map ≠ NULL → (h.mappings bo.map).map Region.length = some bo.size)
include hmap

/-- An unmap of what is mapped, or of nothing. -/
theorem rocketBoUnmap_world {w : World} (hw : w.mappings = h.mappings) :
    ∃ es : List Event, (∀ e ∈ es, Event.Proper e) ∧ rocketBoUnmap bo w = ({ bo with map := NULL },
      { w with mappings := unmapped bo h.mappings, trace := w.trace ++ es }) := by
  by_cases hnull : bo.map = NULL
  · refine ⟨[], by simp, ?_⟩
    rw [rocketBoUnmap_null hnull, unmapped, if_pos hnull, ← hw, ← hnull, List.append_nil]
  · obtain ⟨region, hregion, hlength⟩ := Option.map_eq_some_iff.mp (hmap hnull)
    refine ⟨[.munmap bo.map bo.size true], by simp [Event.Proper], ?_⟩
    rw [rocketBoUnmap_mapped hnull (hw ▸ hregion) hlength, unmapped, if_neg hnull, ← hw]
    rfl

theorem boUnmap_run : ∃ es : List Event, (∀ e ∈ es, Event.Proper e) ∧
    boUnmap bo h = ({ bo with map := NULL },
      { h with
        mappings := unmapped bo h.mappings
        trace := h.trace ++ es.map (.bo bo.fd) }) := by
  obtain ⟨es, hes, hrun⟩ := rocketBoUnmap_world hmap (world_mappings h bo.fd)
  refine ⟨es, hes, ?_⟩
  have hfiles : (boUnmap bo h).2.files = h.files := files_onFile_of_eq (by rw [hrun])
  refine Prod.ext ?_ ?_
  · simp [boUnmap, onFile, hrun]
  · rw [← hfiles]
    simp only [boUnmap, onFile, hrun]
    rfl

theorem boDestroy_end :
    (boDestroy ctx bo h).1 = destroyedBo bo ∧ DestroyEnd ctx bo h (boDestroy ctx bo h).2 := by
  obtain ⟨es, hes, hrun⟩ := rocketBoUnmap_world hmap (world_mappings h ctx.fd)
  refine ⟨by simp [boDestroy, onFile, rocketBoDestroy_eq], ?_⟩
  cases hfile : h.files ctx.fd with
  | none =>
      have hrefusal : h.refusal ctx.fd = some EBADF := by simp [Host.refusal, hfile]
      refine .missed ?_ (files_onFile_of_eq ?_) ?_ rfl ?_ hes
      · simp [Host.LiveHandle, hfile]
      · rw [rocketBoDestroy_eq, hrefusal, hrun]
        rfl
      · simp [boDestroy, onFile, rocketBoDestroy_eq, hrefusal, hrun, gemClose]
      · simp [boDestroy, onFile, rocketBoDestroy_eq, hrefusal, hrun, gemClose]
  | some handles =>
      have hrefusal : h.refusal ctx.fd = none := by simp [Host.refusal, hfile]
      have hhandles := world_handles hfile
      by_cases hmem : bo.handle ∈ handles
      · refine .closed hfile hmem ?_ ?_ rfl ?_ hes
        · simp [boDestroy, onFile, rocketBoDestroy_eq, hrefusal, hrun, gemClose, hhandles, hmem,
            hfile]
        · simp [boDestroy, onFile, rocketBoDestroy_eq, hrefusal, hrun, gemClose, hhandles, hmem]
        · simp [boDestroy, onFile, rocketBoDestroy_eq, hrefusal, hrun, gemClose, hhandles, hmem]
      · refine .missed ?_ (files_onFile_of_eq ?_) ?_ rfl ?_ hes
        · simp [Host.LiveHandle, hfile, hmem]
        · simp [rocketBoDestroy_eq, hrefusal, hrun, gemClose, hhandles, hmem]
        · simp [boDestroy, onFile, rocketBoDestroy_eq, hrefusal, hrun, gemClose, hhandles, hmem]
        · simp [boDestroy, onFile, rocketBoDestroy_eq, hrefusal, hrun, gemClose, hhandles, hmem]

end Unmap

end Spec

end Librocket.Rocket.Device
