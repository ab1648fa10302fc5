import Librocket.Rocket.Contexts

/-!
# Contexts apart

What the books of `Contexts` say in the words of a client: in every state a run
reaches the tables of the kernel are those of the contexts and bos, the heap is
as it was, and a call through one context leaves the descriptors of the others
alone. The other half is `destroy` through a context that is not the bo's, which
the library does not notice: the books are right afterwards for the bo's own
context only.
-/

namespace Librocket.Rocket.Device

namespace System

/-! ## Exactness -/

/-- The kernel's tables against the contexts and bos. -/
structure Exact (s : System) : Prop where
  file_iff : ∀ fd, (s.host.files fd).isSome ↔ ∃ c, s.ctxStatus c = .opened ∧ (s.ctx c).fd = fd
  file_inj : ∀ {c c'}, s.ctxStatus c = .opened → s.ctxStatus c' = .opened →
    (s.ctx c).fd = (s.ctx c').fd → c = c'
  handle_iff : ∀ fd handle, s.host.LiveHandle (fd, handle) ↔
    ∃ b c, s.boStatus b = .live c ∧ (s.ctx c).fd = fd ∧ (s.bo b).handle = handle
  handle_inj : ∀ {b b' c}, s.boStatus b = .live c → s.boStatus b' = .live c →
    (s.bo b).handle = (s.bo b').handle → b = b'
  mapping_iff : ∀ addr length, (s.host.mappings addr).map Region.length = some length ↔
    ∃ b, (s.boStatus b).held = true ∧ (s.bo b).map ≠ NULL ∧ (s.bo b).map = addr ∧
      (s.bo b).size = length
  map_inj : ∀ {b b'}, (s.boStatus b).held = true → (s.boStatus b').held = true →
    (s.bo b).map ≠ NULL → (s.bo b).map = (s.bo b').map → b = b'
  proper : ∀ e ∈ s.host.trace, e.Proper

theorem addrOf_eq_some_iff {s : System} {b : ℕ} {addr : Addr} : s.addrOf b = some addr ↔
    (s.boStatus b).held = true ∧ (s.bo b).map ≠ NULL ∧ (s.bo b).map = addr := by
  simp [addrOf, and_assoc]

theorem handleOf_eq_some_iff {s : System} {b : ℕ} {fd : CInt} {handle : U32} :
    s.handleOf b = some (fd, handle) ↔
      ∃ c, s.boStatus b = .live c ∧ (s.ctx c).fd = fd ∧ (s.bo b).handle = handle := by
  simp [handleOf]

theorem fdOf_eq_some_iff {s : System} {c : ℕ} {fd : CInt} :
    s.fdOf c = some fd ↔ s.ctxStatus c = .opened ∧ (s.ctx c).fd = fd := by
  simp [fdOf]

theorem Accounted.exact {s : System} (hs : s.Accounted) : s.Exact where
  file_iff fd := by
    rw [hs.files.live_iff]
    exact exists_congr fun _ => fdOf_eq_some_iff
  file_inj := by
    intro c c' hc hc' heq
    exact hs.files.inj (fdOf_opened hc) (by rw [fdOf_opened hc', heq])
  handle_iff fd handle := by
    rw [hs.handles.live_iff]
    exact exists_congr fun _ => handleOf_eq_some_iff
  handle_inj := by
    intro b b' c hb hb' heq
    exact hs.handles.inj (handleOf_live hb) (by rw [handleOf_live hb', heq])
  mapping_iff addr length := by
    constructor
    · intro hmap
      obtain ⟨region, hregion, -⟩ := Option.map_eq_some_iff.mp hmap
      obtain ⟨b, hb⟩ := (hs.addrs.live_iff addr).mp (by rw [hregion]; rfl)
      have hsize := hs.length hb
      rw [hmap, Option.some.injEq] at hsize
      obtain ⟨hheld, hnull, haddr⟩ := addrOf_eq_some_iff.mp hb
      exact ⟨b, hheld, hnull, haddr, hsize.symm⟩
    · rintro ⟨b, hheld, hnull, rfl, rfl⟩
      exact hs.length (addrOf_held hheld hnull)
  map_inj := by
    intro b b' hb hb' hnull heq
    exact hs.addrs.inj (addrOf_held hb hnull) (by rw [addrOf_held hb' (heq ▸ hnull), heq])
  proper := hs.proper

/-! ## Interference -/

/-- A closed context's descriptor is none, an open one's its own. -/
theorem Accounted.fd_ne {s : System} (hs : s.Accounted) {c c' : ℕ} (hc : s.ctxStatus c = .opened)
    (hc' : s.ctxStatus c' ≠ .fresh) (hne : c' ≠ c) : (s.ctx c).fd ≠ (s.ctx c').fd := by
  intro hfd
  have hopened : s.ctxStatus c' = .opened := by
    refine hs.opened_of_file hc' ?_
    obtain ⟨handles, hfile⟩ := hs.file hc
    rw [← hfd, hfile]
    exact Option.some_ne_none handles
  exact hne (hs.exact.file_inj hopened hc hfd.symm)

theorem mayDestroy_ne_fresh {s : System} (hs : s.Accounted) {c b : ℕ} (hb : s.MayDestroy c b) :
    s.ctxStatus c ≠ .fresh := by
  unfold MayDestroy at hb
  intro hfresh
  cases hstatus : s.boStatus b with
  | idle => simp [hstatus] at hb
  | live c' =>
      simp only [hstatus] at hb
      have hopened := hs.home hstatus
      rw [hb, hfresh] at hopened
      cases hopened
  | orphan => simp [hstatus, hfresh] at hb
  | destroyed => simp [hstatus, hfresh] at hb

theorem MayDestroy.ne_idle {s : System} {c b : ℕ} (hb : s.MayDestroy c b) :
    s.boStatus b ≠ .idle := by
  intro hidle
  simp [MayDestroy, hidle] at hb

section Step

variable {s : System} {i : Call} {o : i.Outcome}

theorem step_files_other (hs : s.Accounted) (hduty : s.Duty i) (hpromise : s.Promise i o) {c : ℕ}
    (hc : s.ctxStatus c = .opened) (hother : i.context ≠ some c) :
    (s.step i o).host.files (s.ctx c).fd = s.host.files (s.ctx c).fd := by
  have hne : ∀ {c'}, some c' ≠ some c → c' ≠ c := fun h heq => h (congrArg some heq)
  cases i with
  | rocketOpen c' =>
      obtain ⟨ctx', hctx, hend⟩ := @rocketOpen_end o (s.ctx c') s.host
      simp only [System.step, putCtx_host]
      generalize (rocketOpen o (some (s.ctx c')) s.host).1.1 = ret at hend
      generalize (rocketOpen o (some (s.ctx c')) s.host).2 = h at hend ⊢
      cases hend with
      | @opened fd es _ hfd hfiles hmemory htrace hes =>
          have hfree : s.host.files fd.1 = none := hfd.elim (hpromise.accel0 ·) (hpromise.accel1 ·)
          obtain ⟨handles, hfile⟩ := hs.file hc
          have hfd : (s.ctx c).fd ≠ fd.1 := by
            intro heq
            rw [heq, hfree] at hfile
            cases hfile
          rw [hfiles, Function.update_of_ne hfd]
      | refused _ _ hfiles => rw [hfiles]
  | rocketClose c' => exact rocketClose_files_of_ne (hs.fd_ne hc hduty (hne hother))
  | boCreate c' b size => exact files_onFile_of_ne (hs.fd_ne hc hduty.1 (hne hother))
  | boDestroy c' b =>
      exact files_onFile_of_ne (hs.fd_ne hc (mayDestroy_ne_fresh hs hduty) (hne hother))
  | boUnmap b =>
      obtain ⟨es, -, hrun⟩ := @boUnmap_run s.host (s.bo b) (hs.mapped_length hduty)
      simp only [System.step, hrun, put_host]
  | boPrep c b timeoutNs => exact congrFun access_logged.files _
  | boFini c b => exact congrFun access_logged.files _
  | submit c regcmd regcmdCount ins outs =>
      obtain ⟨p, hend, hlog⟩ := submit_logged hpromise
      exact congrFun hlog.files _
  | boMap c b => rfl
  | store b size i v => rfl
  | load b size i => rfl
  | clear b size count => rfl
  | print stream format args => rfl
  | undefined => exact o.elim

/-- What a bo has mapped only a call on that bo unmaps. -/
theorem step_mappings_other (hs : s.Accounted) (hduty : s.Duty i) (hpromise : s.Promise i o)
    {b : ℕ} {addr : Addr} (hb : s.addrOf b = some addr) (hother : i.target ≠ some b) :
    (s.step i o).host.mappings addr = s.host.mappings addr := by
  have hne : ∀ {b'}, some b' ≠ some b → b ≠ b' := fun h heq => h (congrArg some heq.symm)
  cases i with
  | rocketOpen c =>
      obtain ⟨ctx', -, hend⟩ := @rocketOpen_end o (s.ctx c) s.host
      exact congrFun hend.sameMemory.mappings addr
  | rocketClose c => exact congrFun rocketClose_memory.mappings addr
  | boCreate c b' size =>
      have hend := @boCreate_end (s.ctx c) s.host o (s.bo b') size hpromise
      simp only [System.step, put_host]
      generalize boCreate o (s.ctx c) (s.bo b') size s.host = r at hend ⊢
      obtain ⟨⟨ret, bo⟩, h⟩ := r
      dsimp only at hend ⊢
      cases hend with
      | failed _ _ hmappings => rw [hmappings]
      | created _ _ _ _ hfree _ hmappings =>
          have haddr := hs.addrs.live_of_owns hb
          rw [hmappings, Function.update_of_ne]
          rintro rfl
          simp [hfree] at haddr
  | boDestroy c b' =>
      obtain ⟨-, hend⟩ := @boDestroy_end (s.ctx c) s.host (s.bo b') (hs.mapped_length hduty.ne_idle)
      have hmappings : (s.step (.boDestroy c b') o).host.mappings =
          unmapped (s.bo b') s.host.mappings := by
        cases hend with
        | closed _ _ _ hmappings => exact hmappings
        | missed _ _ hmappings => exact hmappings
      rw [hmappings, hs.unmapped_other hduty.ne_idle (hne hother) hb]
  | boUnmap b' =>
      obtain ⟨es, -, hrun⟩ := @boUnmap_run s.host (s.bo b') (hs.mapped_length hduty)
      simp only [System.step, hrun, put_host]
      exact hs.unmapped_other hduty (hne hother) hb
  | boPrep c b timeoutNs => exact congrFun access_logged.mappings addr
  | boFini c b => exact congrFun access_logged.mappings addr
  | submit c regcmd regcmdCount ins outs =>
      obtain ⟨p, hend, hlog⟩ := submit_logged hpromise
      exact congrFun hlog.mappings addr
  | boMap c b => rfl
  | store b size i v => rfl
  | load b size i => rfl
  | clear b size count => rfl
  | print stream format args => rfl
  | undefined => exact o.elim

/-- The heap is as it was after every call. -/
theorem step_memory (hpromise : s.Promise i o) : (s.step i o).host.memory = s.host.memory := by
  cases i with
  | rocketOpen c =>
      obtain ⟨ctx', -, hend⟩ := @rocketOpen_end o (s.ctx c) s.host
      exact hend.sameMemory.memory
  | rocketClose c => exact rocketClose_memory.memory
  | boPrep c b timeoutNs => exact access_logged.memory
  | boFini c b => exact access_logged.memory
  | submit c regcmd regcmdCount ins outs =>
      obtain ⟨p, hend, hlog⟩ := submit_logged hpromise
      exact hlog.memory
  | boCreate c b size => rfl
  | boDestroy c b => rfl
  | boUnmap b => rfl
  | boMap c b => rfl
  | store b size i v => rfl
  | load b size i => rfl
  | clear b size count => rfl
  | print stream format args => rfl
  | undefined => exact o.elim

theorem run_memory {calls : List (Σ i : Call, i.Outcome)} (hcalls : api.machine.Legal s calls) :
    (api.machine.run s calls).host.memory = s.host.memory := by
  induction calls generalizing s with
  | nil => rfl
  | cons call calls ih =>
      obtain ⟨⟨-, hpromise⟩, hcalls⟩ := hcalls
      exact (ih hcalls).trans (step_memory hpromise)

/-- A live bo and its context are as they were after every call that is neither on
the bo nor the close of the context. -/
theorem step_live (hs : s.Accounted) (hduty : s.Duty i) {b c : ℕ} (hb : s.boStatus b = .live c)
    (hclose : i ≠ .rocketClose c) (hother : i.target ≠ some b) :
    (s.step i o).boStatus b = .live c ∧ (s.step i o).ctx c = s.ctx c ∧
      (s.step i o).bo b = s.bo b := by
  have hne : ∀ {b'}, some b' ≠ some b → b ≠ b' := fun h heq => h (congrArg some heq.symm)
  cases i with
  | rocketOpen c' =>
      have hcc : c ≠ c' := by
        rintro rfl
        exact hduty (hs.home hb)
      exact ⟨hb, Function.update_of_ne hcc _ _, rfl⟩
  | rocketClose c' =>
      have hcc : c ≠ c' := by
        rintro rfl
        exact hclose rfl
      refine ⟨?_, Function.update_of_ne hcc _ _, rfl⟩
      exact Accounted.home_close.mpr ⟨hb, hcc⟩
  | boCreate c' b' size =>
      exact ⟨(Function.update_of_ne (hne hother) _ _).trans hb, rfl,
        Function.update_of_ne (hne hother) _ _⟩
  | boDestroy c' b' =>
      exact ⟨(Function.update_of_ne (hne hother) _ _).trans hb, rfl,
        Function.update_of_ne (hne hother) _ _⟩
  | boUnmap b' =>
      exact ⟨(Function.update_of_ne (hne hother) _ _).trans hb, rfl,
        Function.update_of_ne (hne hother) _ _⟩
  | boPrep c' b' timeoutNs => exact ⟨hb, rfl, rfl⟩
  | boFini c' b' => exact ⟨hb, rfl, rfl⟩
  | submit c' regcmd regcmdCount ins outs => exact ⟨hb, rfl, rfl⟩
  | boMap c' b' => exact ⟨hb, rfl, rfl⟩
  | store b' size i v => exact ⟨hb, rfl, rfl⟩
  | load b' size i => exact ⟨hb, rfl, rfl⟩
  | clear b' size count => exact ⟨hb, rfl, rfl⟩
  | print stream format args => exact ⟨hb, rfl, rfl⟩
  | undefined => exact o.elim

/-- Of the handles on one descriptor only that of the bo destroyed goes, or with the
descriptor all of them. -/
theorem step_handle_other (hs : s.Accounted) (hduty : s.Duty i) (hpromise : s.Promise i o)
    {b c : ℕ} (hb : s.boStatus b = .live c) (hclose : i ≠ .rocketClose c)
    (hother : i.target ≠ some b) :
    (s.step i o).host.LiveHandle ((s.ctx c).fd, (s.bo b).handle) := by
  obtain ⟨hlive, hctx, hbo⟩ := @step_live s i o hs hduty b c hb hclose hother
  rw [← hctx, ← hbo]
  exact (hs.step hduty hpromise).handle_live hlive

end Step

/-- What a call may not do to the contexts and bos it does not name. -/
structure Spares (s : System) (i : Call) (s' : System) : Prop where
  files : ∀ c, i.context ≠ some c → s.ctxStatus c = .opened →
    s'.host.files (s.ctx c).fd = s.host.files (s.ctx c).fd
  handles : ∀ b c, i.target ≠ some b → i ≠ .rocketClose c → s.boStatus b = .live c →
    s'.host.LiveHandle ((s.ctx c).fd, (s.bo b).handle)
  mappings : ∀ b, i.target ≠ some b → (s.boStatus b).held = true → (s.bo b).map ≠ NULL →
    s'.host.mappings (s.bo b).map = s.host.mappings (s.bo b).map

/-- A state that some run of a client that keeps its duties leads to. -/
def Reachable (s : System) : Prop :=
  ∃ ctx bo calls, api.machine.Legal (initial ctx bo) calls ∧
    api.machine.run (initial ctx bo) calls = s

theorem Reachable.accounted {s : System} (h : s.Reachable) : s.Accounted := by
  obtain ⟨ctx, bo, calls, hlegal, rfl⟩ := h
  exact (Accounted.initial ctx bo).run hlegal

theorem Reachable.memory {s : System} (h : s.Reachable) : s.host.memory = fun _ => none := by
  obtain ⟨ctx, bo, calls, hlegal, rfl⟩ := h
  exact run_memory hlegal

/-- **Any number of contexts, apart.** In every state a run reaches the tables are
exact and the heap is as it was, and whatever is called next, where the client may
call it, spares the contexts and bos it is not called on. -/
theorem contexts_isolated {s : System} (h : s.Reachable) :
    s.Exact ∧ (∀ addr, s.host.memory addr = none) ∧
      ∀ i o, s.Duty i → s.Promise i o → s.Spares i (s.step i o) := by
  refine ⟨h.accounted.exact, fun addr => congrFun h.memory addr, ?_⟩
  intro i o hduty hpromise
  constructor
  · intro c hother hc
    exact step_files_other h.accounted hduty hpromise hc hother
  · intro b c hother hclose hb
    exact step_handle_other h.accounted hduty hpromise hb hclose hother
  · intro b hother hheld hmap
    exact step_mappings_other h.accounted hduty hpromise (addrOf_held hheld hmap) hother

/-- Two contexts, a bo on each, of the same number. -/
def twoContexts : List (Σ i : Call, i.Outcome) :=
  [⟨.rocketOpen 0, { accel0 := .ok ⟨3, by decide⟩, accel1 := .error EBADF }⟩,
    ⟨.rocketOpen 1, { accel0 := .error EBADF, accel1 := .ok ⟨4, by decide⟩ }⟩,
    ⟨.boCreate 0 0 4096, { createBo := .ok ⟨1, 0x10000, 0x100000⟩, mmap := .ok 0x7000 }⟩,
    ⟨.boCreate 1 1 4096, { createBo := .ok ⟨1, 0x20000, 0x200000⟩, mmap := .ok 0x9000 }⟩]

theorem legal_cons {s : System} {i : Call} {o : i.Outcome} {calls : List (Σ i : Call, i.Outcome)}
    (hduty : s.Duty i) (hpromise : s.Promise i o) (hcalls : api.machine.Legal (s.step i o) calls) :
    api.machine.Legal s (⟨i, o⟩ :: calls) := ⟨⟨hduty, hpromise⟩, hcalls⟩

/-- A create on a context that is open. -/
theorem promise_create {s : System} {c b : ℕ} {size : U64} {env : CreateEnv}
    (hfile : (s.host.files (s.ctx c).fd).isSome = true)
    (henv : env.Lawful (s.host.world (s.ctx c).fd)) : s.Promise (.boCreate c b size) env := by
  simp only [Promise, CreateLawful, if_pos hfile]
  exact henv

theorem twoContexts_legal :
    api.machine.Legal (initial (fun _ => ⟨-1⟩) fun _ => unusedBo) twoContexts := by
  unfold twoContexts
  refine legal_cons ?_ ?_ (legal_cons ?_ ?_ (legal_cons ?_ ?_ (legal_cons ?_ ?_ trivial)))
  · show _ ≠ _
    decide
  · exact ⟨fun _ => rfl, fun _ => rfl⟩
  · show _ ≠ _
    decide
  · constructor
    · rintro _ ⟨⟩
    · rintro _ ⟨⟩
      rfl
  · exact ⟨by decide, rfl⟩
  · exact promise_create rfl (.ok (by decide) (by decide) (by decide) (by decide))
  · exact ⟨by decide, rfl⟩
  · exact promise_create rfl (.ok (by decide) (by decide) (by decide) (by decide))

theorem twoContexts_reachable :
    (api.machine.run (initial (fun _ => ⟨-1⟩) fun _ => unusedBo) twoContexts).Reachable :=
  ⟨_, _, _, twoContexts_legal, rfl⟩

theorem contexts_isolated_twoContexts :
    (api.machine.run (initial (fun _ => ⟨-1⟩) fun _ => unusedBo) twoContexts).Exact :=
  (contexts_isolated twoContexts_reachable).1

/-! ## The wrong context -/

section Destroy

variable {s : System} {b c c' : ℕ}

/-- A close on another descriptor leaves the handle where it is. -/
theorem liveHandle_destroy_other (hs : s.Accounted) (hb : s.boStatus b = .live c)
    (hc' : s.ctxStatus c' ≠ .fresh) (hne : c' ≠ c) :
    (s.step (.boDestroy c' b) ()).host.LiveHandle ((s.ctx c).fd, (s.bo b).handle) := by
  obtain ⟨handles, hfile, hmem⟩ := hs.handle_live hb
  have hkept : (s.step (.boDestroy c' b) ()).host.files (s.ctx c).fd =
      s.host.files (s.ctx c).fd := files_onFile_of_ne (hs.fd_ne (hs.home hb) hc' hne)
  exact ⟨handles, hkept.trans hfile, hmem⟩

/-- Nobody is left who knows it. -/
theorem handleOf_destroy_ne (hs : s.Accounted) (hb : s.boStatus b = .live c) (b' : ℕ) :
    (s.step (.boDestroy c' b) ()).handleOf b' ≠ some ((s.ctx c).fd, (s.bo b).handle) := by
  rw [Ne, handleOf_eq_some_iff]
  rintro ⟨c'', hb', hfd, hhandle⟩
  have hbb : b' ≠ b := by
    rintro rfl
    simp [System.step] at hb'
  simp only [System.step, put_boStatus, put_ctx, put_bo, Function.update_of_ne hbb]
    at hb' hfd hhandle
  have hcc : c'' = c := hs.exact.file_inj (hs.home hb') (hs.home hb) hfd
  exact hbb (hs.exact.handle_inj (hcc ▸ hb') hb hhandle)

theorem not_exact_destroy_other (hs : s.Accounted) (hb : s.boStatus b = .live c)
    (hc' : s.ctxStatus c' ≠ .fresh) (hne : c' ≠ c) : ¬ (s.step (.boDestroy c' b) ()).Exact := by
  intro hexact
  obtain ⟨b', howner⟩ := (hexact.handle_iff _ _).mp (liveHandle_destroy_other hs hb hc' hne)
  exact handleOf_destroy_ne hs hb b' (handleOf_eq_some_iff.mpr howner)

/-- A bo of the context used that has the same number loses its handle. -/
theorem not_liveHandle_destroy (hs : s.Accounted) (hb : s.boStatus b = .live c) {b' : ℕ}
    (hb' : s.boStatus b' = .live c') (hhandle : (s.bo b').handle = (s.bo b).handle) :
    ¬ (s.step (.boDestroy c' b) ()).host.LiveHandle ((s.ctx c').fd, (s.bo b').handle) := by
  have hidle : s.boStatus b ≠ .idle := by simp [hb]
  have hlive := hs.handle_live hb'
  obtain ⟨-, hend⟩ := @boDestroy_end (s.ctx c') s.host (s.bo b) (hs.mapped_length hidle)
  rw [hhandle] at hlive ⊢
  cases hend with
  | missed hmiss => exact absurd hlive hmiss
  | closed hfile _ hfiles =>
      intro hstill
      exact ((liveHandle_erase hfile hfiles _).mp hstill).1 rfl

end Destroy

/-- **Destroying through a context.** A bo has its descriptor in `fd`, but it is the
context's that counts: the books are right after a destroy through the context
the bo was created on and through no other. Through another its handle stays live
without an owner, and a bo of that context with the same number loses its own. -/
theorem destroy_exact_iff {s : System} (h : s.Reachable) {b c c' : ℕ}
    (hb : s.boStatus b = .live c) (hc' : s.ctxStatus c' ≠ .fresh) :
    ((s.step (.boDestroy c' b) ()).Exact ↔ c' = c) ∧
      (c' ≠ c →
        (s.step (.boDestroy c' b) ()).host.LiveHandle ((s.ctx c).fd, (s.bo b).handle) ∧
        (∀ b', (s.step (.boDestroy c' b) ()).handleOf b' ≠
          some ((s.ctx c).fd, (s.bo b).handle)) ∧
        ∀ b', s.boStatus b' = .live c' → (s.bo b').handle = (s.bo b).handle →
          ¬ (s.step (.boDestroy c' b) ()).host.LiveHandle ((s.ctx c').fd, (s.bo b').handle)) := by
  have hs := h.accounted
  refine ⟨⟨?_, ?_⟩, ?_⟩
  · intro hexact
    by_contra hne
    exact not_exact_destroy_other hs hb hc' hne hexact
  · rintro rfl
    have hmay : s.MayDestroy c' b := by
      unfold MayDestroy
      rw [hb]
    exact (hs.step_destroy hmay).exact
  · intro hne
    refine ⟨liveHandle_destroy_other hs hb hc' hne, handleOf_destroy_ne hs hb, ?_⟩
    intro b' hb' hhandle
    exact not_liveHandle_destroy hs hb hb' hhandle

theorem destroy_exact_iff_twoContexts :
    ¬ ((api.machine.run (initial (fun _ => ⟨-1⟩) fun _ => unusedBo) twoContexts).step
      (.boDestroy 1 0) ()).Exact := by
  intro hexact
  have hiff := (@destroy_exact_iff _ twoContexts_reachable 0 0 1 rfl (by decide)).1
  exact absurd (hiff.mp hexact) (by decide)

end System

end Librocket.Rocket.Device
