import Librocket.Rocket.Lifecycle

/-!
# Cleaning up after a failed create

`rocket_bo_destroy` resets `handle` to 0, so that a second destroy closes
nothing. `rocket_bo_create` does not do so when its `mmap` fails: the handle is
closed, but its number stays in `*bo`, and the kernel may give it out again
before the client's cleanup closes it once more.
-/

namespace Librocket.Rocket

/-- A state some run leads to. -/
def Sys.Reachable (ctx : RocketCtx) (s : Sys) : Prop :=
  ∃ bo ops, (lifecycle ctx).Legal (Sys.initial bo) ops ∧
    (lifecycle ctx).run (Sys.initial bo) ops = s

theorem Sys.Reachable.accounted {ctx : RocketCtx} {s : Sys} (h : s.Reachable ctx) :
    s.Accounted := by
  obtain ⟨bo, ops, hlegal, rfl⟩ := h
  exact (Sys.Accounted.initial bo).run hlegal

/-! ## Any client -/

/-- Of the client nothing is asked, of the kernel that it keeps its promises. -/
def Sys.Promised (s : Sys) : Op → Prop
  | .create _ _ env => env.Lawful s.world
  | .map _ => True
  | .unmap _ => True
  | .destroy _ => True

/-- The calls in any order, whatever came of those before: a bo may be destroyed
though its create failed, or was never made. -/
def anyCalls (ctx : RocketCtx) : Machine Sys Op where
  allowed := Sys.Promised
  step := Sys.step ctx

/-- A state some calls lead to, whoever made them. -/
def Sys.Arises (ctx : RocketCtx) (s : Sys) : Prop :=
  ∃ bo ops, (anyCalls ctx).Legal (Sys.initial bo) ops ∧
    (anyCalls ctx).run (Sys.initial bo) ops = s

/-- A create or a destroy of a bo other than `b`. -/
def Op.Elsewhere (b : ℕ) : Op → Prop
  | .create b' _ _ => b' ≠ b
  | .destroy b' => b' ≠ b
  | .map _ => False
  | .unmap _ => False

theorem Op.Elsewhere.target_ne {b : ℕ} {op : Op} (h : op.Elsewhere b) : op.target ≠ b := by
  cases op with
  | create b' size env => exact h
  | destroy b' => exact h
  | map b' => exact h.elim
  | unmap b' => exact h.elim

/-- Wherever creates and destroys of other bos lead from `s`, destroying `b` there
leaves the kernel's tables as they are. -/
def Sys.NothingToRelease (ctx : RocketCtx) (s : Sys) (b : ℕ) : Prop :=
  ∀ ops, (anyCalls ctx).Legal s ops → (∀ op ∈ ops, op.Elsewhere b) →
    (((anyCalls ctx).run s ops).step ctx (.destroy b)).world.handles =
        ((anyCalls ctx).run s ops).world.handles ∧
      (((anyCalls ctx).run s ops).step ctx (.destroy b)).world.mappings =
        ((anyCalls ctx).run s ops).world.mappings

/-- If the create fails, it leaves nothing behind to release. -/
def FailureIsClean (ctx : RocketCtx) (s : Sys) (b : ℕ) (size : U64) (env : CreateEnv) : Prop :=
  (rocketBoCreate env ctx (s.bo b) size s.world).1.1 < 0 →
    (s.step ctx (.create b size env)).NothingToRelease ctx b

/-- No `mmap` can succeed any more: every address is taken, and no bo but `b` can
give one back. -/
structure Sys.Exhausted (s : Sys) (b : ℕ) : Prop where
  taken : ∀ addr, addr ≠ NULL → addr ≠ MAP_FAILED → s.world.mappings addr ≠ none
  kept : ∀ b', b' ≠ b → (s.bo b').map ≠ NULL →
    (s.world.mappings (s.bo b').map).map Region.length ≠ some (s.bo b').size

/-! ## What the calls do to the tables -/

section Tables

variable {bo : RocketBo} {w : World}

theorem gemClose_handles (handle : U32) :
    (gemClose none handle w).2.handles = w.handles.erase handle := by
  by_cases h : handle ∈ w.handles
  · rw [gemClose_live h]
  · rw [gemClose_not_live h, Finset.erase_eq_of_notMem h]
    rfl

theorem gemClose_mappings (close : Option Errno) (handle : U32) (w : World) :
    (gemClose close handle w).2.mappings = w.mappings := by
  cases close with
  | some e => rfl
  | none =>
      by_cases h : handle ∈ w.handles
      · rw [gemClose_live h]
        rfl
      · rw [gemClose_not_live h]
        rfl

theorem rocketBoUnmap_handles : (rocketBoUnmap bo w).2.handles = w.handles := by
  by_cases hnull : bo.map = NULL
  · rw [rocketBoUnmap_null hnull]
  · by_cases hwhole : (w.mappings bo.map).map Region.length = some bo.size
    · simp [rocketBoUnmap, hnull, munmap, hwhole]
    · simp [rocketBoUnmap, hnull, munmap, hwhole]

theorem rocketBoUnmap_mappings {addr : Addr} (hne : addr ≠ bo.map) :
    (rocketBoUnmap bo w).2.mappings addr = w.mappings addr := by
  by_cases hnull : bo.map = NULL
  · rw [rocketBoUnmap_null hnull]
  · by_cases hwhole : (w.mappings bo.map).map Region.length = some bo.size
    · simp [rocketBoUnmap, hnull, munmap, hwhole, Function.update_of_ne hne]
    · simp [rocketBoUnmap, hnull, munmap, hwhole]

/-- An unmap that misses takes nothing away. -/
theorem rocketBoUnmap_missed
    (h : bo.map ≠ NULL → (w.mappings bo.map).map Region.length ≠ some bo.size) :
    (rocketBoUnmap bo w).2.mappings = w.mappings := by
  by_cases hnull : bo.map = NULL
  · rw [rocketBoUnmap_null hnull]
  · simp [rocketBoUnmap, hnull, munmap, h hnull]

/-- Nor does one bring a mapping about. -/
theorem rocketBoUnmap_mappings_none {addr : Addr} (h : w.mappings addr = none) :
    (rocketBoUnmap bo w).2.mappings addr = none := by
  by_cases heq : addr = bo.map
  · rw [rocketBoUnmap_missed, h]
    intro _
    simp [← heq, h]
  · rw [rocketBoUnmap_mappings heq, h]

/-- What holds of the tables whatever the client does. -/
structure World.Sane (w : World) : Prop where
  zero_free : 0 ∉ w.handles
  failed_free : w.mappings MAP_FAILED = none

theorem CreateEnd.sane {env : CreateEnv} {ctx : RocketCtx} {size : U64} {ret : ℤ} {bo' : RocketBo}
    {w' : World} (hend : CreateEnd env ctx bo size w ret bo' w') (henv : env.Lawful w)
    (h : w.Sane) : w'.Sane := by
  cases hend with
  | refused _ _ hhandles hmappings => exact ⟨hhandles ▸ h.zero_free, hmappings ▸ h.failed_free⟩
  | unmapped _ _ _ hhandles hmappings => exact ⟨hhandles ▸ h.zero_free, hmappings ▸ h.failed_free⟩
  | created hcreate hmap hhandles hmappings =>
      constructor
      · rw [hhandles, Finset.mem_insert, not_or]
        exact ⟨(henv.handle_ne hcreate).symm, h.zero_free⟩
      · rw [hmappings, Function.update_of_ne (henv.map_ne hmap).2.symm]
        exact h.failed_free

end Tables

section

variable {ctx : RocketCtx} {s : Sys} {b : ℕ}

theorem step_destroy : s.step ctx (.destroy b) = s.put b (destroyedBo (s.bo b)) .destroyed
    (gemClose none (s.bo b).handle (rocketBoUnmap (s.bo b) s.world).2).2 := by
  simp only [Sys.step, rocketBoDestroy_eq]

theorem step_destroy_handles :
    (s.step ctx (.destroy b)).world.handles = s.world.handles.erase (s.bo b).handle := by
  rw [step_destroy, put_world, gemClose_handles, rocketBoUnmap_handles]

theorem step_destroy_mappings : (s.step ctx (.destroy b)).world.mappings =
    (rocketBoUnmap (s.bo b) s.world).2.mappings := by
  rw [step_destroy, put_world, gemClose_mappings]

theorem sane_step {op : Op} (h : s.world.Sane) (hop : s.Promised op) :
    (s.step ctx op).world.Sane := by
  cases op with
  | map b => exact h
  | unmap b =>
      refine ⟨?_, rocketBoUnmap_mappings_none h.failed_free⟩
      rw [Sys.step, put_world, rocketBoUnmap_handles]
      exact h.zero_free
  | destroy b =>
      constructor
      · rw [step_destroy_handles]
        exact fun hzero => h.zero_free (Finset.mem_of_mem_erase hzero)
      · rw [step_destroy_mappings]
        exact rocketBoUnmap_mappings_none h.failed_free
  | create b size env => exact (rocketBoCreate_end hop).sane hop h

theorem sane_run {ops : List Op} (h : s.world.Sane) (hops : (anyCalls ctx).Legal s ops) :
    ((anyCalls ctx).run s ops).world.Sane :=
  @Machine.invariant_run _ _ (anyCalls ctx) (fun s => s.world.Sane) s
    (fun _ _ hs hop => sane_step hs hop) h ops hops

theorem Sys.Arises.sane (h : s.Arises ctx) : s.world.Sane := by
  obtain ⟨bo, ops, hlegal, rfl⟩ := h
  exact sane_run ⟨Finset.notMem_empty _, rfl⟩ hlegal

/-! ## What the cleanup closes -/

theorem bo_run {ops : List Op} (h : ∀ op ∈ ops, op.Elsewhere b) :
    ((anyCalls ctx).run s ops).bo b = s.bo b :=
  Machine.frame_run (M := anyCalls ctx) (fun s => s.bo b)
    (fun _ _ (hop : Op.Elsewhere b _) => (step_frame ctx hop.target_ne.symm).1) s h

/-- An unmapped bo releases something exactly where its handle may come to live. -/
theorem nothingToRelease_iff (hmap : (s.bo b).map = NULL) : s.NothingToRelease ctx b ↔
    ∀ ops, (anyCalls ctx).Legal s ops → (∀ op ∈ ops, op.Elsewhere b) →
      (s.bo b).handle ∉ ((anyCalls ctx).run s ops).world.handles := by
  refine forall_congr' fun ops => imp_congr_right fun _ => imp_congr_right fun hops => ?_
  have hbo : ((anyCalls ctx).run s ops).bo b = s.bo b := bo_run hops
  rw [step_destroy_handles, step_destroy_mappings, hbo, Finset.erase_eq_self,
    rocketBoUnmap_null hmap]
  exact and_iff_left rfl

/-- With handle 0 it closes nothing. -/
theorem nothingToRelease_of_empty (h : s.world.Sane) (hhandle : (s.bo b).handle = 0)
    (hmap : (s.bo b).map = NULL) : s.NothingToRelease ctx b := by
  refine (nothingToRelease_iff hmap).mpr fun ops hlegal _ => ?_
  rw [hhandle]
  exact (sane_run h hlegal).zero_free

/-! ## A bo that kept a closed handle -/

/-- Where the kernel can map something, it may hand a closed number out again. -/
theorem exists_reuse (ctx : RocketCtx) {handle : U32} {addr : Addr} (hne : handle ≠ 0)
    (hclosed : handle ∉ s.world.handles) (haddr : addr ≠ NULL ∧ addr ≠ MAP_FAILED)
    (hfree : s.world.mappings addr = none) :
    ∃ env : CreateEnv, env.Lawful s.world ∧
      ∀ b size, handle ∈ (s.step ctx (.create b size env)).world.handles := by
  refine ⟨{ createBo := .ok ⟨handle, 0, 0⟩, mmap := .ok addr }, ?_, fun b size => ?_⟩
  · exact .ok hne hclosed haddr hfree
  · rw [Sys.step, put_world, rocketBoCreate_created rfl rfl haddr.2]
    exact Finset.mem_insert_self _ _

theorem not_nothingToRelease_of_stale (h : s.world.Sane) (hne : (s.bo b).handle ≠ 0)
    (hclosed : (s.bo b).handle ∉ s.world.handles) (hmap : (s.bo b).map = NULL)
    (hroom : ¬ s.Exhausted b) : ¬ s.NothingToRelease ctx b := by
  rw [nothingToRelease_iff hmap]
  intro hstale
  refine hroom ⟨?_, ?_⟩
  · -- A free address: the next create of another bo takes it.
    intro addr hnull hfailed hfree
    obtain ⟨env, henv, hmem⟩ := exists_reuse ctx hne hclosed ⟨hnull, hfailed⟩ hfree
    exact hstale [.create (b + 1) 4096 env] ⟨henv, trivial⟩ (by simp [Op.Elsewhere]) (hmem _ _)
  · -- A bo that is still mapped: its destroy makes room first.
    intro b' hb' hnull hwhole
    obtain ⟨region, hregion, hlength⟩ := Option.map_eq_some_iff.mp hwhole
    have hfailed : (s.bo b').map ≠ MAP_FAILED := by
      intro heq
      rw [heq, h.failed_free] at hregion
      cases hregion
    have hclosed' : (s.bo b).handle ∉ (s.step ctx (.destroy b')).world.handles := by
      rw [step_destroy_handles]
      exact fun hmem => hclosed (Finset.mem_of_mem_erase hmem)
    have hfree : (s.step ctx (.destroy b')).world.mappings (s.bo b').map = none := by
      rw [step_destroy_mappings, rocketBoUnmap_mapped hnull hregion hlength]
      exact Function.update_self _ _ _
    obtain ⟨env, henv, hmem⟩ := exists_reuse ctx hne hclosed' ⟨hnull, hfailed⟩ hfree
    exact hstale [.destroy b', .create b' 4096 env] ⟨trivial, henv, trivial⟩
      (by simp [Op.Elsewhere, hb']) (hmem _ _)

theorem Sys.Exhausted.put {b' : ℕ} {bo : RocketBo} {status : Status} {w : World}
    (h : s.Exhausted b) (hmappings : w.mappings = s.world.mappings)
    (hbo : bo.map ≠ NULL → (s.world.mappings bo.map).map Region.length ≠ some bo.size) :
    (s.put b' bo status w).Exhausted b where
  taken := by
    rw [put_world, hmappings]
    exact h.taken
  kept := by
    intro i hi
    rw [put_world, hmappings, put_bo]
    by_cases hib : i = b'
    · rw [hib, Function.update_self]
      exact hbo
    · rw [Function.update_of_ne hib]
      exact h.kept i hi

/-- Whether anything can be mapped does not depend on `b` itself. -/
theorem exhausted_put_self {bo : RocketBo} {status : Status} {w : World}
    (hmappings : w.mappings = s.world.mappings) :
    (s.put b bo status w).Exhausted b ↔ s.Exhausted b := by
  have hbo : ∀ i, i ≠ b → (s.put b bo status w).bo i = s.bo i :=
    fun i hi => Function.update_of_ne hi _ _
  constructor
  · rintro ⟨htaken, hkept⟩
    rw [put_world, hmappings] at htaken hkept
    exact ⟨htaken, fun i hi => hbo i hi ▸ hkept i hi⟩
  · rintro ⟨htaken, hkept⟩
    refine ⟨?_, fun i hi => ?_⟩
    · rwa [put_world, hmappings]
    · rw [put_world, hmappings, hbo i hi]
      exact hkept i hi

/-- A create that finds no address free leaves every closed number closed. -/
theorem exhausted_create (ctx : RocketCtx) {b' : ℕ} {size : U64} {env : CreateEnv}
    {handle : U32} (h : s.Exhausted b) (hb' : b' ≠ b) (hclosed : handle ∉ s.world.handles)
    (henv : env.Lawful s.world) :
    handle ∉ (s.step ctx (.create b' size env)).world.handles ∧
      (s.step ctx (.create b' size env)).Exhausted b := by
  have hend : CreateEnd env ctx (s.bo b') size s.world _ _ _ := rocketBoCreate_end henv
  dsimp only [Sys.step]
  generalize rocketBoCreate env ctx (s.bo b') size s.world = r at hend ⊢
  obtain ⟨⟨ret, bo⟩, w⟩ := r
  dsimp only at hend ⊢
  cases hend with
  | refused _ _ hhandles hmappings =>
      exact ⟨by rwa [put_world, hhandles], h.put hmappings (h.kept b' hb')⟩
  | unmapped _ _ _ hhandles hmappings =>
      exact ⟨by rwa [put_world, hhandles], h.put hmappings (absurd rfl)⟩
  | created _ hmap =>
      have haddr := henv.map_ne hmap
      exact absurd (henv.map_fresh hmap) (h.taken _ haddr.1 haddr.2)

theorem exhausted_destroy (ctx : RocketCtx) {b' : ℕ} {handle : U32} (h : s.Exhausted b)
    (hb' : b' ≠ b) (hclosed : handle ∉ s.world.handles) :
    handle ∉ (s.step ctx (.destroy b')).world.handles ∧
      (s.step ctx (.destroy b')).Exhausted b := by
  constructor
  · rw [step_destroy_handles]
    exact fun hmem => hclosed (Finset.mem_of_mem_erase hmem)
  · rw [step_destroy]
    refine h.put ?_ (absurd rfl)
    rw [gemClose_mappings, rocketBoUnmap_missed (h.kept b' hb')]

theorem nothingToRelease_of_exhausted (h : s.Exhausted b)
    (hclosed : (s.bo b).handle ∉ s.world.handles) (hmap : (s.bo b).map = NULL) :
    s.NothingToRelease ctx b := by
  refine (nothingToRelease_iff hmap).mpr fun ops hlegal hops => ?_
  refine (@Machine.invariant_run_of_kind _ _ (anyCalls ctx)
    (fun t => (s.bo b).handle ∉ t.world.handles ∧ t.Exhausted b) (Op.Elsewhere b) s ?_
    ⟨hclosed, h⟩ ops hlegal hops).1
  rintro t op ⟨hclosed, h⟩ hop helse
  cases op with
  | create b' size env => exact exhausted_create ctx h helse hclosed hop
  | destroy b' => exact exhausted_destroy ctx h helse hclosed
  | map b' => exact helse.elim
  | unmap b' => exact helse.elim

end

/-! ## When a failed create is clean -/

/-- **A failed create leaves nothing behind to release** exactly if it did not get
past `CREATE_BO`, or if nothing can be created any more. -/
theorem failureIsClean_iff {ctx : RocketCtx} {s : Sys} {b : ℕ} {size : U64} {env : CreateEnv}
    (hs : s.Arises ctx) (hhandle : (s.bo b).handle = 0) (hmap : (s.bo b).map = NULL)
    (henv : env.Lawful s.world) :
    FailureIsClean ctx s b size env ↔
      ((∃ reply, env.createBo = .ok reply) → ∃ addr, env.mmap = .ok addr) ∨ s.Exhausted b := by
  have hsane : (s.step ctx (.create b size env)).world.Sane := sane_step hs.sane henv
  have hend : CreateEnd env ctx (s.bo b) size s.world _ _ _ := rocketBoCreate_end henv
  dsimp only [FailureIsClean, Sys.step] at hsane ⊢
  generalize rocketBoCreate env ctx (s.bo b) size s.world = r at hsane hend ⊢
  obtain ⟨⟨ret, bo⟩, w⟩ := r
  dsimp only at hsane hend ⊢
  cases hend with
  | refused hcreate hret =>
      refine iff_of_true (fun _ => ?_) (.inl ?_)
      · refine nothingToRelease_of_empty hsane ?_ ?_
        · rw [put_bo, Function.update_self, hhandle]
        · rw [put_bo, Function.update_self, hmap]
      · rintro ⟨reply, hreply⟩
        rw [hcreate] at hreply
        cases hreply
  | @unmapped reply e _ _ hcreate hfailed hret hhandles hmappings =>
      have hne : reply.handle ≠ 0 := henv.handle_ne hcreate
      have hclosed : reply.handle ∉ w.handles := hhandles ▸ henv.handle_fresh hcreate
      constructor
      · intro hclean
        by_contra hcond
        rw [not_or, ← exhausted_put_self hmappings] at hcond
        refine not_nothingToRelease_of_stale hsane ?_ ?_ ?_ hcond.2 (hclean hret)
        · rwa [put_bo, Function.update_self]
        · rwa [put_bo, Function.update_self]
        · rw [put_bo, Function.update_self]
          rfl
      · rintro (hok | hfull) _
        · obtain ⟨addr, haddr⟩ := hok ⟨reply, hcreate⟩
          rw [hfailed] at haddr
          cases haddr
        · refine nothingToRelease_of_exhausted ((exhausted_put_self hmappings).mpr hfull) ?_ ?_
          · rwa [put_bo, Function.update_self]
          · rw [put_bo, Function.update_self]
            rfl
  | @created reply addr _ hcreate hmapped =>
      exact iff_of_true (fun hret => absurd hret (lt_irrefl 0)) (.inl fun _ => ⟨addr, hmapped⟩)

/-- `CREATE_BO` refuses. -/
def refusedEnv : CreateEnv := { createBo := .error ENOMEM, mmap := .error ENOMEM }

/-- `CREATE_BO` gives out handle 1, the mapping fails. -/
def unmappedEnv : CreateEnv := { createBo := .ok ⟨1, 0x10000, 0x100000⟩, mmap := .error ENOMEM }

theorem failureIsClean_iff_refused :
    FailureIsClean ⟨3⟩ (Sys.initial fun _ => unusedBo) 0 4096 refusedEnv := by
  have henv : refusedEnv.Lawful (Sys.initial fun _ => unusedBo).world := by
    constructor <;> simp [refusedEnv]
  refine (failureIsClean_iff ⟨fun _ => unusedBo, [], trivial, rfl⟩ rfl rfl henv).mpr (.inl ?_)
  rintro ⟨reply, hreply⟩
  cases hreply

/-- Bo 0 fails to map; bo 1 is created and given the same handle; destroying bo 0
closes the handle of bo 1. -/
theorem failureIsClean_fails_unmapped :
    ¬ FailureIsClean ⟨3⟩ (Sys.initial fun _ => unusedBo) 0 4096 unmappedEnv := by
  intro hclean
  let next : Op := .create 1 4096 { createBo := .ok ⟨1, 0x10000, 0x100000⟩, mmap := .ok 0x7000 }
  have hlegal : (anyCalls ⟨3⟩).Legal
      ((Sys.initial fun _ => unusedBo).step ⟨3⟩ (.create 0 4096 unmappedEnv)) [next] :=
    ⟨.ok (by decide) (by decide) (by decide) (by decide), trivial⟩
  have hlost := (hclean (by decide) [next] hlegal (by simp [next, Op.Elsewhere])).1
  revert hlost
  decide

end Librocket.Rocket
