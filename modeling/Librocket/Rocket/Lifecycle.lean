import Librocket.Lib.Machine
import Librocket.Lib.Ownership
import Librocket.Rocket.Interface

/-!
# Buffer objects over whole runs

Any number of bos on one open context, and a client that creates, maps, unmaps
and destroys them in any order while creates fail at either point. The bos own
the kernel's tables exactly: the live handles are those of the bos created and
not yet destroyed, the live mappings are the non-`NULL` `map` fields of those.

The route: `handleOf` and `addrOf` read off the bos who holds what; every call
moves them as it moves the kernel's table, so the rules for exact ownership
carry the invariant over one operation, and the machine's rule over a run.
-/

namespace Librocket.Rocket

/-- Where a bo stands with its client. `idle` is a bo whose latest create
failed, or that was never created. -/
inductive Status
  | idle
  | live
  | destroyed
deriving DecidableEq

structure Sys where
  world : World
  bo : ℕ → RocketBo
  status : ℕ → Status

inductive Op
  | create (b : ℕ) (size : U64) (env : CreateEnv)
  | map (b : ℕ)
  | unmap (b : ℕ)
  | destroy (b : ℕ)

/-- The bo an operation is called on. -/
def Op.target : Op → ℕ
  | .create b _ _ => b
  | .map b => b
  | .unmap b => b
  | .destroy b => b

/-- A call on bo `b` leaves its mark on that bo and the world. -/
def Sys.put (s : Sys) (b : ℕ) (bo : RocketBo) (status : Status) (world : World) : Sys where
  world := world
  bo := Function.update s.bo b bo
  status := Function.update s.status b status

/-- One operation. Closing needs no choice of the kernel's: it succeeds on live
handles and fails on others. -/
def Sys.step (ctx : RocketCtx) (s : Sys) : Op → Sys
  | .create b size env =>
      let r := rocketBoCreate env ctx (s.bo b) size s.world
      s.put b r.1.2 (if r.1.1 = 0 then .live else .idle) r.2
  -- `rocketBoMap` reads the bo and nothing else.
  | .map _ => s
  | .unmap b =>
      let r := rocketBoUnmap (s.bo b) s.world
      s.put b r.1 (s.status b) r.2
  | .destroy b =>
      let r := rocketBoDestroy none (s.bo b) s.world
      s.put b r.1 .destroyed r.2

/-- What the client may call where: no create on a live bo, and unmap and destroy
only, but then any number of times, on bos whose latest create succeeded. -/
def Sys.Allowed (s : Sys) : Op → Prop
  | .create b _ env => s.status b ≠ .live ∧ env.Lawful s.world
  | .map _ => True
  | .unmap b => s.status b ≠ .idle
  | .destroy b => s.status b ≠ .idle

def lifecycle (ctx : RocketCtx) : Machine Sys Op where
  allowed := Sys.Allowed
  step := Sys.step ctx

/-- A context just opened: no handle, no mapping, and bos with any contents. -/
def Sys.initial (bo : ℕ → RocketBo) : Sys where
  world := { handles := ∅, mappings := fun _ => none, errno := 0, trace := [] }
  bo := bo
  status := fun _ => .idle

/-! ## Who owns what -/

def Sys.handleOf (s : Sys) (b : ℕ) : Option U32 :=
  if s.status b = .live then some (s.bo b).handle else none

def Sys.addrOf (s : Sys) (b : ℕ) : Option Addr :=
  if s.status b = .live ∧ (s.bo b).map ≠ NULL then some (s.bo b).map else none

/-- A release that hit something: a close removed a handle, or was of handle 0,
and an unmap removed a whole mapping. -/
def Event.Proper : Event → Prop
  | .gemClose handle closed => closed = true ∨ handle = 0
  | .munmap _ _ whole => whole = true
  | _ => True

/-- **The invariant.** -/
structure Sys.Accounted (s : Sys) : Prop where
  handles : Ownership s.handleOf (· ∈ s.world.handles)
  addrs : Ownership s.addrOf (fun addr => (s.world.mappings addr).isSome)
  zero_free : 0 ∉ s.world.handles
  null_free : s.world.mappings NULL = none
  length : ∀ {b addr}, s.addrOf b = some addr →
    (s.world.mappings addr).map Region.length = some (s.bo b).size
  destroyed : ∀ {b}, s.status b = .destroyed → (s.bo b).handle = 0 ∧ (s.bo b).map = NULL
  proper : ∀ e ∈ s.world.trace, e.Proper

section Put

variable {s : Sys} {b : ℕ} {bo : RocketBo} {status : Status} {world : World}

theorem handleOf_put : (s.put b bo status world).handleOf =
    Function.update s.handleOf b (if status = .live then some bo.handle else none) := by
  funext i
  by_cases h : i = b
  · subst h
    simp [Sys.handleOf, Sys.put]
  · simp [Sys.handleOf, Sys.put, h]

theorem addrOf_put : (s.put b bo status world).addrOf =
    Function.update s.addrOf b (if status = .live ∧ bo.map ≠ NULL then some bo.map else none) := by
  funext i
  by_cases h : i = b
  · subst h
    simp [Sys.addrOf, Sys.put]
  · simp [Sys.addrOf, Sys.put, h]

@[simp] theorem put_world : (s.put b bo status world).world = world := rfl

@[simp] theorem put_bo : (s.put b bo status world).bo = Function.update s.bo b bo := rfl

@[simp] theorem put_status :
    (s.put b bo status world).status = Function.update s.status b status := rfl

theorem put_self : s.put b (s.bo b) (s.status b) s.world = s := by
  simp [Sys.put]

theorem handleOf_eq_none (h : s.status b ≠ .live) : s.handleOf b = none := by
  simp [Sys.handleOf, h]

theorem handleOf_live (h : s.status b = .live) : s.handleOf b = some (s.bo b).handle := by
  simp [Sys.handleOf, h]

theorem addrOf_eq_none (h : s.status b ≠ .live ∨ (s.bo b).map = NULL) : s.addrOf b = none := by
  rcases h with h | h <;> simp [Sys.addrOf, h]

theorem addrOf_live (h : s.status b = .live) (hmap : (s.bo b).map ≠ NULL) :
    s.addrOf b = some (s.bo b).map := by
  simp [Sys.addrOf, h, hmap]

end Put

namespace Sys.Accounted

variable {s : Sys} {b : ℕ}

theorem initial (bo : ℕ → RocketBo) : (Sys.initial bo).Accounted where
  handles := .empty (fun _ => rfl) (fun _ => Finset.notMem_empty _)
  addrs := .empty (fun _ => rfl) (fun _ => by simp [Sys.initial])
  zero_free := Finset.notMem_empty _
  null_free := rfl
  length := by
    intro b addr h
    simp [Sys.addrOf, Sys.initial] at h
  destroyed := by
    intro b h
    simp [Sys.initial] at h
  proper := by
    intro e h
    simp [Sys.initial] at h

/-- A call on `b` keeps the books if it does so for the two tables and for `b`
itself: where the mappings of the others stay, their entries do. -/
theorem put {bo : RocketBo} {status : Status} {w : World} {es : List Event} (h : s.Accounted)
    (hhandles : Ownership (s.put b bo status w).handleOf (· ∈ w.handles))
    (haddrs : Ownership (s.put b bo status w).addrOf (fun addr => (w.mappings addr).isSome))
    (hzero : 0 ∉ w.handles) (hnull : w.mappings NULL = none)
    (hothers : ∀ i addr, i ≠ b → s.addrOf i = some addr →
      w.mappings addr = s.world.mappings addr)
    (hlength : status = .live → bo.map ≠ NULL →
      (w.mappings bo.map).map Region.length = some bo.size)
    (hdestroyed : status = .destroyed → bo.handle = 0 ∧ bo.map = NULL)
    (htrace : w.trace = s.world.trace ++ es) (hes : ∀ e ∈ es, e.Proper) :
    (s.put b bo status w).Accounted where
  handles := hhandles
  addrs := haddrs
  zero_free := hzero
  null_free := hnull
  length := by
    intro i addr hi
    rw [addrOf_put] at hi
    by_cases hib : i = b
    · subst hib
      rw [Function.update_self] at hi
      split at hi
      next hlive =>
        cases hi
        simpa using hlength hlive.1 hlive.2
      next => cases hi
    · rw [Function.update_of_ne hib] at hi
      rw [put_world, put_bo, Function.update_of_ne hib, hothers i addr hib hi]
      exact h.length hi
  destroyed := by
    intro i hi
    by_cases hib : i = b
    · subst hib
      simpa using hdestroyed (by simpa using hi)
    · rw [put_status, Function.update_of_ne hib] at hi
      rw [put_bo, Function.update_of_ne hib]
      exact h.destroyed hi
  proper := by
    intro e he
    rw [put_world, htrace] at he
    rcases List.mem_append.mp he with he | he
    · exact h.proper e he
    · exact hes e he

/-! ### Create -/

/-- A bo that holds nothing, and still holds nothing after the call. -/
theorem put_idle {bo : RocketBo} {w : World} {es : List Event} (h : s.Accounted)
    (hb : s.status b ≠ .live) (hhandles : w.handles = s.world.handles)
    (hmappings : w.mappings = s.world.mappings) (htrace : w.trace = s.world.trace ++ es)
    (hes : ∀ e ∈ es, e.Proper) : (s.put b bo .idle w).Accounted := by
  refine h.put ?_ ?_ ?_ ?_ ?_ (by simp) (by simp) htrace hes
  · rw [handleOf_put, if_neg (by simp), ← handleOf_eq_none hb, Function.update_eq_self, hhandles]
    exact h.handles
  · rw [addrOf_put, if_neg (by simp), ← addrOf_eq_none (Or.inl hb), Function.update_eq_self,
      hmappings]
    exact h.addrs
  · rw [hhandles]
    exact h.zero_free
  · rw [hmappings]
    exact h.null_free
  · intro i addr _ _
    rw [hmappings]

theorem put_created {env : CreateEnv} {ctx : RocketCtx} {size : U64} {ret : ℤ} {bo : RocketBo}
    {w : World} (h : s.Accounted) (hb : s.status b ≠ .live) (henv : env.Lawful s.world)
    (hend : CreateEnd env ctx (s.bo b) size s.world ret bo w) :
    (s.put b bo (if ret = 0 then .live else .idle) w).Accounted := by
  cases hend with
  | refused _ hret hhandles hmappings htrace =>
      rw [if_neg hret.ne]
      exact h.put_idle hb hhandles hmappings htrace (by simp [Event.Proper])
  | unmapped _ _ hret hhandles hmappings htrace =>
      rw [if_neg hret.ne]
      exact h.put_idle hb hhandles hmappings htrace (by simp [Event.Proper])
  | @created reply addr _ hcreate hmap hhandles hmappings htrace =>
      have hnull : addr ≠ NULL := (henv.map_ne hmap).1
      have hfresh : s.world.mappings addr = none := henv.map_fresh hmap
      rw [if_pos rfl]
      refine h.put ?_ ?_ ?_ ?_ ?_ ?_ (by simp) htrace (by simp [Event.Proper])
      · rw [handleOf_put, if_pos rfl]
        refine h.handles.acquire (handleOf_eq_none hb) (henv.handle_fresh hcreate) ?_
        intro handle
        rw [hhandles, Finset.mem_insert]
        rfl
      · rw [addrOf_put, if_pos ⟨rfl, hnull⟩]
        refine h.addrs.acquire (addrOf_eq_none (Or.inl hb)) (by simp [createdBo, hfresh]) ?_
        intro addr'
        rw [hmappings]
        by_cases heq : addr' = addr
        · simp [heq, createdBo]
        · simp [heq, createdBo]
      · rw [hhandles, Finset.mem_insert]
        rintro (hzero | hzero)
        · exact henv.handle_ne hcreate hzero.symm
        · exact h.zero_free hzero
      · rw [hmappings, Function.update_of_ne hnull.symm]
        exact h.null_free
      · intro i addr' _ hi
        have hne : addr' ≠ addr := by
          rintro rfl
          have hlive := h.addrs.live_of_owns hi
          simp [hfresh] at hlive
        rw [hmappings, Function.update_of_ne hne]
      · intro _ _
        rw [hmappings]
        simp [createdBo]

/-! ### Unmap -/

/-- A bo that may be unmapped and has something to unmap is live. -/
theorem live_of_mapped (h : s.Accounted) (hb : s.status b ≠ .idle) (hmap : (s.bo b).map ≠ NULL) :
    s.status b = .live := by
  cases hstatus : s.status b with
  | idle => exact absurd hstatus hb
  | live => rfl
  | destroyed => exact absurd (h.destroyed hstatus).2 hmap

theorem step_unmap {ctx : RocketCtx} (h : s.Accounted) (hb : s.status b ≠ .idle) :
    (s.step ctx (.unmap b)).Accounted := by
  by_cases hmap : (s.bo b).map = NULL
  · simp only [Sys.step, rocketBoUnmap_null hmap, put_self]
    exact h
  · have hlive : s.status b = .live := h.live_of_mapped hb hmap
    have haddr := addrOf_live hlive hmap
    obtain ⟨region, hregion, hlength⟩ := Option.map_eq_some_iff.mp (h.length haddr)
    simp only [Sys.step, rocketBoUnmap_mapped hmap hregion hlength]
    refine h.put ?_ ?_ h.zero_free ?_ ?_ (by simp) (by simp [hlive]) rfl (by simp [Event.Proper])
    · rw [handleOf_put, if_pos hlive, ← handleOf_live hlive, Function.update_eq_self]
      exact h.handles
    · rw [addrOf_put, if_neg (by simp)]
      refine h.addrs.release haddr ?_
      intro addr
      by_cases heq : addr = (s.bo b).map
      · simp [heq]
      · simp [heq]
    · exact (Function.update_of_ne (Ne.symm hmap) _ _).trans h.null_free
    · intro i addr hib hi
      have hne : addr ≠ (s.bo b).map := by
        rintro rfl
        exact hib (h.addrs.inj hi haddr)
      exact Function.update_of_ne hne _ _

/-! ### Destroy -/

/-- The close and the reset, once the bo is unmapped. -/
theorem put_closed (h : s.Accounted) (bo : RocketBo) (hb : s.status b ≠ .idle)
    (hunmapped : (s.bo b).map = NULL) (hhandle : bo.handle = 0) (hmap : bo.map = NULL) :
    (s.put b bo .destroyed (gemClose none (s.bo b).handle s.world).2).Accounted := by
  have haddr : (s.put b bo .destroyed (gemClose none (s.bo b).handle s.world).2).addrOf =
      s.addrOf := by
    rw [addrOf_put, if_neg (by simp), ← addrOf_eq_none (Or.inr hunmapped), Function.update_eq_self]
  cases hstatus : s.status b with
  | idle => exact absurd hstatus hb
  | live =>
      have howns := handleOf_live hstatus
      have hlive : (s.bo b).handle ∈ s.world.handles := h.handles.live_of_owns howns
      rw [gemClose_live hlive] at haddr ⊢
      refine h.put ?_ ?_ ?_ h.null_free (fun _ _ _ _ => rfl) (by simp) (fun _ => ⟨hhandle, hmap⟩)
        rfl (by simp [Event.Proper])
      · rw [handleOf_put, if_neg (by simp)]
        exact h.handles.release howns fun handle => Finset.mem_erase
      · rw [haddr]
        exact h.addrs
      · exact fun hzero => h.zero_free (Finset.mem_of_mem_erase hzero)
  | destroyed =>
      -- A repeated destroy closes handle 0, which is never live.
      have hclosed : (s.bo b).handle ∉ s.world.handles := by
        rw [(h.destroyed hstatus).1]
        exact h.zero_free
      rw [gemClose_not_live hclosed] at haddr ⊢
      have howns : s.handleOf b = none := handleOf_eq_none (by simp [hstatus])
      refine h.put ?_ ?_ h.zero_free h.null_free (fun _ _ _ _ => rfl) (by simp)
        (fun _ => ⟨hhandle, hmap⟩) rfl (by simp [Event.Proper, (h.destroyed hstatus).1])
      · rw [handleOf_put, if_neg (by simp), ← howns, Function.update_eq_self]
        exact h.handles
      · rw [haddr]
        exact h.addrs

theorem step_destroy {ctx : RocketCtx} (h : s.Accounted) (hb : s.status b ≠ .idle) :
    (s.step ctx (.destroy b)).Accounted := by
  have hunmap : (s.step ctx (.unmap b)).Accounted := h.step_unmap hb
  have hput := hunmap.put_closed (b := b) (destroyedBo (s.bo b))
    (by simpa [Sys.step] using hb) (by simp [Sys.step, rocketBoUnmap_bo]) rfl rfl
  simpa [Sys.step, Sys.put, rocketBoDestroy_eq, rocketBoUnmap_bo] using hput

/-! ### Runs -/

theorem step {ctx : RocketCtx} {op : Op} (h : s.Accounted) (hop : s.Allowed op) :
    (s.step ctx op).Accounted := by
  cases op with
  | create b size env => exact h.put_created hop.1 hop.2 (rocketBoCreate_end hop.2)
  | map b => exact h
  | unmap b => exact h.step_unmap hop
  | destroy b => exact h.step_destroy hop

theorem run {ctx : RocketCtx} {ops : List Op} (h : s.Accounted)
    (hops : (lifecycle ctx).Legal s ops) : ((lifecycle ctx).run s ops).Accounted :=
  Machine.invariant_run (M := lifecycle ctx) (fun _ _ hs hop => Sys.Accounted.step hs hop) h hops

end Sys.Accounted

/-! ## Exactness -/

/-- The kernel's tables against the bos: the live handles and mappings are those
of the live bos, no two of them share one, and no release missed its object. -/
structure Sys.Exact (s : Sys) : Prop where
  handle_iff : ∀ handle, handle ∈ s.world.handles ↔
    ∃ b, s.status b = .live ∧ (s.bo b).handle = handle
  handle_inj : ∀ {b b'}, s.status b = .live → s.status b' = .live →
    (s.bo b).handle = (s.bo b').handle → b = b'
  mapping_iff : ∀ addr length, (s.world.mappings addr).map Region.length = some length ↔
    ∃ b, s.status b = .live ∧ (s.bo b).map ≠ NULL ∧ (s.bo b).map = addr ∧ (s.bo b).size = length
  map_inj : ∀ {b b'}, s.status b = .live → s.status b' = .live → (s.bo b).map ≠ NULL →
    (s.bo b).map = (s.bo b').map → b = b'
  proper : ∀ e ∈ s.world.trace, e.Proper

/-- **Nothing leaks**: where no bo is live the kernel's tables are empty. -/
theorem Sys.Exact.no_leak {s : Sys} (h : s.Exact) (hidle : ∀ b, s.status b ≠ .live) :
    s.world.handles = ∅ ∧ ∀ addr, s.world.mappings addr = none := by
  constructor
  · apply Finset.eq_empty_of_forall_notMem
    intro handle hmem
    obtain ⟨b, hb, -⟩ := (h.handle_iff handle).mp hmem
    exact hidle b hb
  · intro addr
    cases hregion : s.world.mappings addr with
    | none => rfl
    | some region =>
        obtain ⟨b, hb, -⟩ := (h.mapping_iff addr region.length).mp (by rw [hregion]; rfl)
        exact absurd hb (hidle b)

/-- What bo `b` holds in `s`, if it is live there, the kernel still has in `s'`. -/
def Sys.Keeps (s s' : Sys) (b : ℕ) : Prop :=
  s.status b = .live → (s.bo b).handle ∈ s'.world.handles ∧
    ((s.bo b).map ≠ NULL →
      (s'.world.mappings (s.bo b).map).map Region.length = some (s.bo b).size)

theorem handleOf_eq_some_iff {s : Sys} {b : ℕ} {handle : U32} :
    s.handleOf b = some handle ↔ s.status b = .live ∧ (s.bo b).handle = handle := by
  simp [Sys.handleOf]

theorem addrOf_eq_some_iff {s : Sys} {b : ℕ} {addr : Addr} :
    s.addrOf b = some addr ↔
      s.status b = .live ∧ (s.bo b).map ≠ NULL ∧ (s.bo b).map = addr := by
  simp [Sys.addrOf, and_assoc]

namespace Sys.Accounted

variable {s : Sys}

theorem exact (h : s.Accounted) : s.Exact where
  handle_iff handle := by
    rw [h.handles.live_iff]
    exact exists_congr fun _ => handleOf_eq_some_iff
  handle_inj := by
    intro b b' hb hb' heq
    exact h.handles.inj (handleOf_live hb) (by rw [handleOf_live hb', heq])
  mapping_iff addr length := by
    constructor
    · intro hmap
      have hlive : (s.world.mappings addr).isSome := by
        obtain ⟨region, hregion, _⟩ := Option.map_eq_some_iff.mp hmap
        rw [hregion]
        rfl
      obtain ⟨b, hb⟩ := (h.addrs.live_iff addr).mp hlive
      have hsize := h.length hb
      rw [hmap, Option.some.injEq] at hsize
      obtain ⟨hstatus, hnull, haddr⟩ := addrOf_eq_some_iff.mp hb
      exact ⟨b, hstatus, hnull, haddr, hsize.symm⟩
    · rintro ⟨b, hstatus, hnull, rfl, rfl⟩
      exact h.length (addrOf_live hstatus hnull)
  map_inj := by
    intro b b' hb hb' hnull heq
    exact h.addrs.inj (addrOf_live hb hnull) (by rw [addrOf_live hb' (heq ▸ hnull), heq])
  proper := h.proper

/-- An accounted state still has what a bo holds, if the bo is as it was. -/
theorem keeps {s' : Sys} {b : ℕ} (h : s'.Accounted) (hbo : s'.bo b = s.bo b)
    (hstatus : s'.status b = s.status b) : s.Keeps s' b := by
  intro hlive
  rw [← hbo]
  rw [← hstatus] at hlive
  refine ⟨h.handles.live_of_owns (handleOf_live hlive), ?_⟩
  intro hmap
  exact h.length (addrOf_live hlive hmap)

end Sys.Accounted

/-- An operation leaves the other bos alone. -/
theorem step_frame (ctx : RocketCtx) {s : Sys} {op : Op} {b : ℕ} (hb : b ≠ op.target) :
    (s.step ctx op).bo b = s.bo b ∧ (s.step ctx op).status b = s.status b := by
  cases op with
  | map b' => exact ⟨rfl, rfl⟩
  | create b' size env =>
      exact ⟨Function.update_of_ne hb _ _, Function.update_of_ne hb _ _⟩
  | unmap b' => exact ⟨Function.update_of_ne hb _ _, Function.update_of_ne hb _ _⟩
  | destroy b' => exact ⟨Function.update_of_ne hb _ _, Function.update_of_ne hb _ _⟩

theorem step_create_ok (ctx : RocketCtx) {s : Sys} {b : ℕ} {size : U64} {env : CreateEnv}
    {reply : CreateReply} {addr : Addr} (henv : env.Lawful s.world)
    (hcreate : env.createBo = .ok reply) (hmap : env.mmap = .ok addr) :
    (s.step ctx (.create b size env)).status b = .live ∧
      (s.step ctx (.create b size env)).bo b = createdBo ctx size reply addr := by
  simp [Sys.step, rocketBoCreate_created hcreate hmap (henv.map_ne hmap).2]

/-- **The lifecycle of buffer objects.** After every run the tables are exact, and
whatever is called next, it takes nothing from any other bo. -/
theorem bo_lifecycle {ctx : RocketCtx} {bo : ℕ → RocketBo} {ops : List Op}
    (h : (lifecycle ctx).Legal (Sys.initial bo) ops) :
    ((lifecycle ctx).run (Sys.initial bo) ops).Exact ∧
      ∀ op b, ((lifecycle ctx).run (Sys.initial bo) ops).Allowed op → b ≠ op.target →
        ((lifecycle ctx).run (Sys.initial bo) ops).Keeps
          (((lifecycle ctx).run (Sys.initial bo) ops).step ctx op) b := by
  have hacc : ((lifecycle ctx).run (Sys.initial bo) ops).Accounted :=
    (Sys.Accounted.initial bo).run h
  refine ⟨hacc.exact, ?_⟩
  intro op b hop hb
  obtain ⟨hbo, hstatus⟩ := step_frame ctx hb
  exact (hacc.step hop).keeps hbo hstatus

/-- Two bos of one page, the second without a mapping at first; the first is
unmapped and destroyed twice, and its handle and address go to the second. -/
def twoPages : List Op :=
  [.create 0 4096 { createBo := .ok ⟨1, 0x10000, 0x100000⟩, mmap := .ok 0x7000 },
    .create 1 4096 { createBo := .ok ⟨2, 0x20000, 0x200000⟩, mmap := .error ENOMEM },
    .unmap 0, .unmap 0, .destroy 0, .destroy 0,
    .create 1 4096 { createBo := .ok ⟨1, 0x10000, 0x100000⟩, mmap := .ok 0x7000 }]

def unusedBo : RocketBo := ⟨0, 0, 0, 0, NULL⟩

theorem bo_lifecycle_twoPages :
    (lifecycle ⟨3⟩).Legal (Sys.initial fun _ => unusedBo) twoPages ∧
      ((lifecycle ⟨3⟩).run (Sys.initial fun _ => unusedBo) twoPages).Exact := by
  have hlegal : (lifecycle ⟨3⟩).Legal (Sys.initial fun _ => unusedBo) twoPages := by
    refine ⟨⟨by decide, ?_⟩, ⟨by decide, ?_⟩, ?_, ?_, ?_, ?_, ⟨by decide, ?_⟩, trivial⟩
    · exact .ok (by decide) (by decide) (by decide) (by decide)
    · exact .mmap_error (by decide) (by decide)
    · show _ ≠ _
      decide
    · show _ ≠ _
      decide
    · show _ ≠ _
      decide
    · show _ ≠ _
      decide
    · exact .ok (by decide) (by decide) (by decide) (by decide)
  exact ⟨hlegal, (bo_lifecycle hlegal).1⟩

end Librocket.Rocket
