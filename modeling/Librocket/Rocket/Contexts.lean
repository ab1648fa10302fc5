import Librocket.Rocket.System

/-!
# Contexts and buffer objects over whole runs

Any number of contexts, each opened and closed any number of times, and any
number of bos on each. In every state a run reaches the open descriptors are
those of the open contexts, the handles live on each are those of its bos, and
the mappings are those of the bos that still have one.

The route is that of one context: `fdOf`, `handleOf` and `addrOf` read off who
holds what, a handle together with the descriptor it is on, and every call moves
them as it moves the tables. Closing a context takes all its handles at once.
-/

namespace Librocket.Rocket.Device

namespace System

/-! ## Who owns what -/

def fdOf (s : System) (c : ℕ) : Option CInt :=
  if s.ctxStatus c = .opened then some (s.ctx c).fd else none

def handleOf (s : System) (b : ℕ) : Option (CInt × U32) :=
  (s.boStatus b).home.map fun c => ((s.ctx c).fd, (s.bo b).handle)

def addrOf (s : System) (b : ℕ) : Option Addr :=
  if (s.boStatus b).held = true ∧ (s.bo b).map ≠ NULL then some (s.bo b).map else none

end System

/-- A release that hit something: a close was of an open descriptor, a handle was
removed, or was 0, or was on no descriptor, an unmap removed a whole mapping, and
an array freed was there. -/
def HostEvent.Proper : HostEvent → Prop
  | .closeFile _ valid => valid = true
  | .bo fd (.gemClose handle closed) => closed = true ∨ handle = 0 ∨ fd = -1
  | .bo _ (.munmap _ _ whole) => whole = true
  | .submit (.free _ valid) => valid = true
  | .submit (.wildStore ..) => False
  | _ => True

theorem proper_bo {fd : CInt} {es : List Event} (hes : ∀ e ∈ es, Event.Proper e) :
    ∀ e ∈ es.map (HostEvent.bo fd), e.Proper := by
  intro e he
  obtain ⟨e', he', rfl⟩ := List.mem_map.mp he
  have hproper := hes e' he'
  cases e' with
  | gemClose handle closed => exact hproper.imp_right Or.inl
  | munmap addr length whole => exact hproper
  | createBo request outcome => trivial
  | mmap length offset outcome => trivial
  | perror text => trivial

theorem proper_submit {env : Submit.SubmitEnv} {ctx : RocketCtx} {regcmdBo : RocketBo}
    {regcmdCount : U32} {inBos outBos : Submit.BoArray} {h : Host} {ret : ℤ} {p : Submit.Process}
    (hend : Submit.SubmitEnd env ctx regcmdBo regcmdCount inBos outBos h.process ret p) :
    ∀ e ∈ p.trace.map HostEvent.submit, e.Proper := by
  have hallocated : ∀ (count : U32) (a : Option Submit.Ptr), ∀ c ∈ Submit.allocated count a,
      (HostEvent.submit c).Proper := by
    intro count a c hc
    obtain ⟨ptr, -, rfl⟩ := Submit.mem_allocated.mp hc
    trivial
  have hcalls : ∀ c ∈ Submit.submitCalls env ctx regcmdBo regcmdCount inBos outBos,
      (HostEvent.submit c).Proper := by
    intro c hc
    rcases List.mem_append.mp hc with hc | hc
    · exact (List.mem_append.mp hc).elim (hallocated _ _ c) (hallocated _ _ c)
    · simp only [List.mem_cons, List.not_mem_nil, or_false] at hc
      rcases hc with rfl | rfl | rfl
      · trivial
      · rfl
      · rfl
  intro e he
  obtain ⟨c, hc, rfl⟩ := List.mem_map.mp he
  have hstart : h.process.trace = [] := rfl
  cases hend with
  | in_refused _ _ htrace =>
      rw [htrace, hstart, List.nil_append, List.mem_singleton] at hc
      rw [hc]
      trivial
  | out_refused _ _ _ htrace =>
      rw [htrace, hstart, List.nil_append] at hc
      rcases List.mem_append.mp hc with hc | hc
      · exact hallocated _ _ c hc
      · simp only [List.mem_cons, List.not_mem_nil, or_false] at hc
        rcases hc with rfl | rfl
        · trivial
        · rfl
  | failed _ _ _ _ htrace =>
      rw [htrace, hstart, List.nil_append] at hc
      rcases List.mem_append.mp hc with hc | hc
      · exact hcalls c hc
      · rw [List.mem_singleton.mp hc]
        trivial
  | submitted _ _ _ _ htrace =>
      rw [htrace, hstart, List.nil_append] at hc
      exact hcalls c hc

section LiveHandle

variable {h h' : Host} {fd : CInt} {handle : U32} {handles handles' : Finset U32}

theorem isSome_files_update (hfile : h.files fd = some handles)
    (hfiles : h'.files = Function.update h.files fd (some handles')) (fd' : CInt) :
    (h'.files fd').isSome = (h.files fd').isSome := by
  by_cases hfd : fd' = fd
  · simp [hfiles, hfd, hfile]
  · simp [hfiles, hfd]

theorem liveHandle_update (hfiles : h'.files = Function.update h.files fd (some handles))
    (k : CInt × U32) :
    h'.LiveHandle k ↔ (k.1 = fd ∧ k.2 ∈ handles) ∨ (k.1 ≠ fd ∧ h.LiveHandle k) := by
  by_cases hfd : k.1 = fd
  · simp [Host.LiveHandle, hfiles, hfd]
  · simp [Host.LiveHandle, hfiles, hfd]

theorem liveHandle_iff (hfile : h.files fd = some handles) {k : CInt × U32} (hk : k.1 = fd) :
    h.LiveHandle k ↔ k.2 ∈ handles := by
  simp [Host.LiveHandle, hk, hfile]

theorem liveHandle_insert (hfile : h.files fd = some handles)
    (hfiles : h'.files = Function.update h.files fd (some (insert handle handles)))
    (k : CInt × U32) : h'.LiveHandle k ↔ k = (fd, handle) ∨ h.LiveHandle k := by
  rw [liveHandle_update hfiles]
  by_cases hfd : k.1 = fd
  · simp [hfd, Prod.ext_iff, liveHandle_iff hfile hfd]
  · simp [hfd, Prod.ext_iff]

theorem liveHandle_erase (hfile : h.files fd = some handles)
    (hfiles : h'.files = Function.update h.files fd (some (handles.erase handle)))
    (k : CInt × U32) : h'.LiveHandle k ↔ k ≠ (fd, handle) ∧ h.LiveHandle k := by
  rw [liveHandle_update hfiles]
  by_cases hfd : k.1 = fd
  · simp [hfd, Prod.ext_iff, liveHandle_iff hfile hfd]
  · simp [hfd, Prod.ext_iff]

end LiveHandle

namespace System

/-- **The invariant.** -/
structure Accounted (s : System) : Prop where
  files : Ownership s.fdOf (fun fd => (s.host.files fd).isSome)
  handles : Ownership s.handleOf s.host.LiveHandle
  addrs : Ownership s.addrOf (fun addr => (s.host.mappings addr).isSome)
  home : ∀ {b c}, s.boStatus b = .live c → s.ctxStatus c = .opened
  opened : ∀ {c}, s.ctxStatus c = .opened → 0 ≤ (s.ctx c).fd.toInt
  closed : ∀ {c}, s.ctxStatus c = .closed → (s.ctx c).fd = -1
  zero_free : ∀ fd, ¬ s.host.LiveHandle (fd, 0)
  null_free : s.host.mappings NULL = none
  length : ∀ {b addr}, s.addrOf b = some addr →
    (s.host.mappings addr).map Region.length = some (s.bo b).size
  destroyed : ∀ {b}, s.boStatus b = .destroyed → (s.bo b).handle = 0 ∧ (s.bo b).map = NULL
  proper : ∀ e ∈ s.host.trace, e.Proper

section Put

variable {s : System} {b c : ℕ} {bo : RocketBo} {status : BoStatus} {h : Host}

@[simp] theorem put_host : (s.put b bo status h).host = h := rfl

@[simp] theorem put_ctx : (s.put b bo status h).ctx = s.ctx := rfl

@[simp] theorem put_ctxStatus : (s.put b bo status h).ctxStatus = s.ctxStatus := rfl

@[simp] theorem put_bo : (s.put b bo status h).bo = Function.update s.bo b bo := rfl

@[simp] theorem put_boStatus :
    (s.put b bo status h).boStatus = Function.update s.boStatus b status := rfl

theorem put_self : s.put b (s.bo b) (s.boStatus b) s.host = s := by
  simp [System.put]

theorem handleOf_put : (s.put b bo status h).handleOf =
    Function.update s.handleOf b (status.home.map fun c => ((s.ctx c).fd, bo.handle)) := by
  funext i
  by_cases hi : i = b
  · subst hi
    simp [handleOf]
  · simp [handleOf, hi]

theorem handleOf_put_live : (s.put b bo (.live c) h).handleOf =
    Function.update s.handleOf b (some ((s.ctx c).fd, bo.handle)) := handleOf_put

theorem handleOf_put_none (hstatus : status.home = none) : (s.put b bo status h).handleOf =
    Function.update s.handleOf b none := by
  rw [handleOf_put, hstatus, Option.map_none]

theorem addrOf_put : (s.put b bo status h).addrOf = Function.update s.addrOf b
    (if status.held = true ∧ bo.map ≠ NULL then some bo.map else none) := by
  funext i
  by_cases hi : i = b
  · subst hi
    simp [addrOf]
  · simp [addrOf, hi]

theorem addrOf_put_none (hstatus : status.held = false ∨ bo.map = NULL) :
    (s.put b bo status h).addrOf = Function.update s.addrOf b none := by
  rw [addrOf_put, if_neg]
  rcases hstatus with hstatus | hstatus
  · simp [hstatus]
  · simp [hstatus]

theorem handleOf_live (hb : s.boStatus b = .live c) :
    s.handleOf b = some ((s.ctx c).fd, (s.bo b).handle) := by
  simp [handleOf, hb, BoStatus.home]

theorem handleOf_eq_none (hb : (s.boStatus b).home = none) : s.handleOf b = none := by
  simp [handleOf, hb]

theorem addrOf_held (hb : (s.boStatus b).held = true) (hmap : (s.bo b).map ≠ NULL) :
    s.addrOf b = some (s.bo b).map := by
  simp [addrOf, hb, hmap]

theorem addrOf_eq_none (hb : (s.boStatus b).held = false ∨ (s.bo b).map = NULL) :
    s.addrOf b = none := by
  rcases hb with hb | hb <;> simp [addrOf, hb]

theorem home_eq_none (hb : (s.boStatus b).held = false) : (s.boStatus b).home = none := by
  cases hstatus : s.boStatus b with
  | live c => simp [hstatus, BoStatus.held] at hb
  | idle => rfl
  | orphan => rfl
  | destroyed => rfl

theorem fdOf_opened (hc : s.ctxStatus c = .opened) : s.fdOf c = some (s.ctx c).fd := if_pos hc

theorem fdOf_eq_none (hc : s.ctxStatus c ≠ .opened) : s.fdOf c = none := if_neg hc

@[simp] theorem putCtx_host {ctx : RocketCtx} {status : CtxStatus} :
    (s.putCtx c ctx status h).host = h := rfl

@[simp] theorem putCtx_ctx {ctx : RocketCtx} {status : CtxStatus} :
    (s.putCtx c ctx status h).ctx = Function.update s.ctx c ctx := rfl

@[simp] theorem putCtx_ctxStatus {ctx : RocketCtx} {status : CtxStatus} :
    (s.putCtx c ctx status h).ctxStatus = Function.update s.ctxStatus c status := rfl

theorem fdOf_putCtx {ctx : RocketCtx} {status : CtxStatus} : (s.putCtx c ctx status h).fdOf =
    Function.update s.fdOf c (if status = .opened then some ctx.fd else none) := by
  funext i
  by_cases hi : i = c
  · subst hi
    simp [fdOf]
  · simp [fdOf, hi]

/-- A context no bo is live on may be given another descriptor. -/
theorem handleOf_putCtx {ctx : RocketCtx} {status : CtxStatus}
    (hnone : ∀ b, s.boStatus b ≠ .live c) : (s.putCtx c ctx status h).handleOf = s.handleOf := by
  funext b
  simp only [handleOf, System.putCtx]
  cases hb : s.boStatus b with
  | live c' =>
      have hne : c' ≠ c := by
        rintro rfl
        exact hnone b hb
      simp only [BoStatus.home, Option.map_some, Function.update_of_ne hne]
  | idle => rfl
  | orphan => rfl
  | destroyed => rfl

end Put

namespace Accounted

variable {s : System} {b c : ℕ}

theorem initial (ctx : ℕ → RocketCtx) (bo : ℕ → RocketBo) : (initial ctx bo).Accounted where
  files := .empty (fun _ => rfl) (by simp [System.initial])
  handles := .empty (fun _ => rfl) (by simp [Host.LiveHandle, System.initial])
  addrs := .empty (fun _ => rfl) (by simp [System.initial])
  home := by simp [System.initial]
  opened := by simp [System.initial]
  closed := by simp [System.initial]
  zero_free := by simp [Host.LiveHandle, System.initial]
  null_free := rfl
  length := by
    intro b addr h
    simp [addrOf, System.initial, BoStatus.held] at h
  destroyed := by simp [System.initial]
  proper := by simp [System.initial]

/-- An open context has its descriptor open. -/
theorem file (hs : s.Accounted) (hc : s.ctxStatus c = .opened) :
    ∃ handles, s.host.files (s.ctx c).fd = some handles :=
  Option.isSome_iff_exists.mp (hs.files.live_of_owns (fdOf_opened hc))

/-- No descriptor is negative. -/
theorem files_neg (hs : s.Accounted) : s.host.files (-1) = none := by
  by_contra hopen
  obtain ⟨c, hc⟩ := (hs.files.live_iff (-1)).mp (Option.isSome_iff_ne_none.mpr hopen)
  by_cases hopened : s.ctxStatus c = .opened
  · rw [fdOf_opened hopened, Option.some.injEq] at hc
    have hnonneg := hs.opened hopened
    rw [hc] at hnonneg
    exact absurd hnonneg (by decide)
  · rw [fdOf_eq_none hopened] at hc
    cases hc

/-- A context that has an open descriptor is open. -/
theorem opened_of_file (hs : s.Accounted) (hc : s.ctxStatus c ≠ .fresh)
    (hfile : s.host.files (s.ctx c).fd ≠ none) : s.ctxStatus c = .opened := by
  cases hstatus : s.ctxStatus c with
  | fresh => exact absurd hstatus hc
  | opened => rfl
  | closed =>
      rw [hs.closed hstatus] at hfile
      exact absurd hs.files_neg hfile

/-- The handle of a live bo is live on the descriptor of its context. -/
theorem handle_live (hs : s.Accounted) (hb : s.boStatus b = .live c) :
    s.host.LiveHandle ((s.ctx c).fd, (s.bo b).handle) :=
  hs.handles.live_of_owns (handleOf_live hb)

/-- A bo that may be unmapped and has something to unmap is held. -/
theorem held_of_mapped (hs : s.Accounted) (hb : s.boStatus b ≠ .idle)
    (hmap : (s.bo b).map ≠ NULL) : (s.boStatus b).held = true := by
  cases hstatus : s.boStatus b with
  | idle => exact absurd hstatus hb
  | live c => rfl
  | orphan => rfl
  | destroyed => exact absurd (hs.destroyed hstatus).2 hmap

/-! ### Calls on a bo -/

/-- A call on `b` keeps the books if it does so for the tables and for `b`
itself: where the mappings of the others stay, their entries do. -/
theorem put {bo : RocketBo} {status : BoStatus} {h : Host} {es : List HostEvent}
    (hs : s.Accounted)
    (hfiles : ∀ fd, (h.files fd).isSome = (s.host.files fd).isSome)
    (hhandles : Ownership (s.put b bo status h).handleOf h.LiveHandle)
    (haddrs : Ownership (s.put b bo status h).addrOf (fun addr => (h.mappings addr).isSome))
    (hzero : ∀ fd, ¬ h.LiveHandle (fd, 0)) (hnull : h.mappings NULL = none)
    (hothers : ∀ i addr, i ≠ b → s.addrOf i = some addr →
      h.mappings addr = s.host.mappings addr)
    (hlength : status.held = true → bo.map ≠ NULL →
      (h.mappings bo.map).map Region.length = some bo.size)
    (hhome : ∀ c, status = .live c → s.ctxStatus c = .opened)
    (hdestroyed : status = .destroyed → bo.handle = 0 ∧ bo.map = NULL)
    (htrace : h.trace = s.host.trace ++ es) (hes : ∀ e ∈ es, e.Proper) :
    (s.put b bo status h).Accounted where
  files := by
    simp only [put_host, hfiles]
    exact hs.files
  handles := hhandles
  addrs := haddrs
  home := by
    intro i c' hi
    by_cases hib : i = b
    · subst hib
      exact hhome c' (by simpa using hi)
    · rw [put_boStatus, Function.update_of_ne hib] at hi
      exact hs.home hi
  opened := hs.opened
  closed := hs.closed
  zero_free := hzero
  null_free := hnull
  length := by
    intro i addr hi
    rw [addrOf_put] at hi
    by_cases hib : i = b
    · subst hib
      rw [Function.update_self] at hi
      split at hi
      next hheld =>
        cases hi
        simpa using hlength hheld.1 hheld.2
      next => cases hi
    · rw [Function.update_of_ne hib] at hi
      rw [put_host, put_bo, Function.update_of_ne hib, hothers i addr hib hi]
      exact hs.length hi
  destroyed := by
    intro i hi
    by_cases hib : i = b
    · subst hib
      simpa using hdestroyed (by simpa using hi)
    · rw [put_boStatus, Function.update_of_ne hib] at hi
      rw [put_bo, Function.update_of_ne hib]
      exact hs.destroyed hi
  proper := by
    intro e he
    rw [put_host, htrace] at he
    rcases List.mem_append.mp he with he | he
    · exact hs.proper e he
    · exact hes e he

/-- A call that only leaves its trace. -/
theorem onHost {h : Host} {es : List HostEvent} (hs : s.Accounted) (hlog : s.host.Logged h es)
    (hes : ∀ e ∈ es, e.Proper) : (s.onHost h).Accounted where
  files := by
    simp only [System.onHost, hlog.files]
    exact hs.files
  handles := by
    show Ownership s.handleOf h.LiveHandle
    rw [Host.liveHandle_congr hlog.files]
    exact hs.handles
  addrs := by
    simp only [System.onHost, hlog.mappings]
    exact hs.addrs
  home := hs.home
  opened := hs.opened
  closed := hs.closed
  zero_free := by
    show ∀ fd, ¬ h.LiveHandle (fd, 0)
    rw [Host.liveHandle_congr hlog.files]
    exact hs.zero_free
  null_free := by
    rw [System.onHost, hlog.mappings]
    exact hs.null_free
  length := by
    intro b addr hb
    rw [System.onHost, hlog.mappings]
    exact hs.length hb
  destroyed := hs.destroyed
  proper := by
    intro e he
    simp only [System.onHost, hlog.trace] at he
    rcases List.mem_append.mp he with he | he
    · exact hs.proper e he
    · exact hes e he

/-! ### Create -/

/-- A bo that holds nothing, and still holds nothing after the call. -/
theorem put_idle {bo : RocketBo} {h : Host} {es : List HostEvent} (hs : s.Accounted)
    (hb : (s.boStatus b).held = false) (hfiles : h.files = s.host.files)
    (hmappings : h.mappings = s.host.mappings) (htrace : h.trace = s.host.trace ++ es)
    (hes : ∀ e ∈ es, e.Proper) : (s.put b bo .idle h).Accounted := by
  refine hs.put ?_ ?_ ?_ ?_ ?_ ?_ ?_ ?_ ?_ htrace hes
  · intro fd
    rw [hfiles]
  · rw [handleOf_put_none rfl, ← handleOf_eq_none (home_eq_none hb), Function.update_eq_self,
      Host.liveHandle_congr hfiles]
    exact hs.handles
  · rw [addrOf_put_none (Or.inl rfl), ← addrOf_eq_none (Or.inl hb), Function.update_eq_self,
      hmappings]
    exact hs.addrs
  · rw [Host.liveHandle_congr hfiles]
    exact hs.zero_free
  · rw [hmappings]
    exact hs.null_free
  · intro i addr _ _
    rw [hmappings]
  · simp [BoStatus.held]
  · simp
  · simp

theorem step_create (hs : s.Accounted) {size : U64} {env : CreateEnv}
    (hduty : s.Duty (.boCreate c b size)) (henv : s.Promise (.boCreate c b size) env) :
    (s.step (.boCreate c b size) env).Accounted := by
  obtain ⟨hc, hb⟩ := hduty
  have hend := @boCreate_end (s.ctx c) s.host env (s.bo b) size henv
  simp only [System.step]
  generalize boCreate env (s.ctx c) (s.bo b) size s.host = r at hend ⊢
  obtain ⟨⟨ret, bo⟩, h⟩ := r
  dsimp only at hend ⊢
  cases hend with
  | failed hret hfiles hmappings _ htrace hes =>
      rw [if_neg hret.ne]
      exact hs.put_idle hb hfiles hmappings htrace (proper_bo hes)
  | @created reply addr handles _ _ hfile hne hfresh hnull hfree hfiles hmappings _ htrace hes =>
      rw [if_pos rfl]
      have hopened : s.ctxStatus c = .opened := hs.opened_of_file hc (by simp [hfile])
      have hmissing : ¬ s.host.LiveHandle ((s.ctx c).fd, reply.handle) := by
        rintro ⟨handles', hfile', hmem⟩
        rw [hfile, Option.some.injEq] at hfile'
        exact hfresh (hfile' ▸ hmem)
      refine hs.put (isSome_files_update hfile hfiles) ?_ ?_ ?_ ?_ ?_ ?_ ?_ (by simp) htrace
        (proper_bo hes)
      · rw [handleOf_put_live]
        exact hs.handles.acquire (handleOf_eq_none (home_eq_none hb)) hmissing
          (liveHandle_insert hfile hfiles)
      · rw [addrOf_put, if_pos ⟨rfl, hnull⟩]
        refine hs.addrs.acquire (addrOf_eq_none (Or.inl hb)) (by simp [createdBo, hfree]) ?_
        intro addr'
        rw [hmappings]
        by_cases heq : addr' = addr
        · simp [heq, createdBo]
        · simp [heq, createdBo]
      · intro fd hzero
        rcases (liveHandle_insert hfile hfiles (fd, 0)).mp hzero with hzero | hzero
        · exact hne (Prod.ext_iff.mp hzero).2.symm
        · exact hs.zero_free fd hzero
      · rw [hmappings, Function.update_of_ne hnull.symm]
        exact hs.null_free
      · intro i addr' _ hi
        have hne : addr' ≠ addr := by
          rintro rfl
          have hlive := hs.addrs.live_of_owns hi
          simp [hfree] at hlive
        rw [hmappings, Function.update_of_ne hne]
      · intro _ _
        rw [hmappings]
        simp [createdBo]
      · rintro c' ⟨⟩
        exact hopened

/-! ### Unmap and destroy -/

/-- What an unmap of a bo that was created does, by the invariant. -/
theorem mapped_length (hs : s.Accounted) (hb : s.boStatus b ≠ .idle)
    (hmap : (s.bo b).map ≠ NULL) :
    (s.host.mappings (s.bo b).map).map Region.length = some (s.bo b).size :=
  hs.length (addrOf_held (hs.held_of_mapped hb hmap) hmap)

theorem addrs_unmapped (hs : s.Accounted) (hb : s.boStatus b ≠ .idle) :
    Ownership (Function.update s.addrOf b none)
      (fun addr => (unmapped (s.bo b) s.host.mappings addr).isSome) := by
  by_cases hmap : (s.bo b).map = NULL
  · rw [unmapped, if_pos hmap, ← addrOf_eq_none (Or.inr hmap), Function.update_eq_self]
    exact hs.addrs
  · rw [unmapped, if_neg hmap]
    refine hs.addrs.release (addrOf_held (hs.held_of_mapped hb hmap) hmap) ?_
    intro addr
    by_cases heq : addr = (s.bo b).map
    · simp [heq]
    · simp [heq]

theorem unmapped_null (hs : s.Accounted) : unmapped (s.bo b) s.host.mappings NULL = none := by
  by_cases hmap : (s.bo b).map = NULL
  · rw [unmapped, if_pos hmap]
    exact hs.null_free
  · rw [unmapped, if_neg hmap, Function.update_of_ne (Ne.symm hmap)]
    exact hs.null_free

/-- The mappings of the others stay. -/
theorem unmapped_other (hs : s.Accounted) (hb : s.boStatus b ≠ .idle) {i : ℕ} {addr : Addr}
    (hib : i ≠ b) (hi : s.addrOf i = some addr) :
    unmapped (s.bo b) s.host.mappings addr = s.host.mappings addr := by
  by_cases hmap : (s.bo b).map = NULL
  · rw [unmapped, if_pos hmap]
  · have hne : addr ≠ (s.bo b).map := by
      rintro rfl
      exact hib (hs.addrs.inj hi (addrOf_held (hs.held_of_mapped hb hmap) hmap))
    rw [unmapped, if_neg hmap, Function.update_of_ne hne]

theorem step_unmap (hs : s.Accounted) (hb : s.boStatus b ≠ .idle) :
    (s.step (.boUnmap b) ()).Accounted := by
  obtain ⟨es, hes, hrun⟩ := @boUnmap_run s.host (s.bo b) (hs.mapped_length hb)
  simp only [System.step, hrun]
  refine hs.put (fun _ => rfl) ?_ ?_ hs.zero_free hs.unmapped_null
    (fun i addr hib hi => hs.unmapped_other hb hib hi) (by simp) (fun c' hc' => hs.home hc') ?_ rfl
    (proper_bo hes)
  · -- The handle is where it was.
    have hhandle : (s.put b { s.bo b with map := NULL } (s.boStatus b) s.host).handleOf =
        s.handleOf := by
      rw [handleOf_put]
      exact Function.update_eq_self ..
    exact hhandle ▸ hs.handles
  · rw [addrOf_put_none (Or.inr rfl)]
    exact hs.addrs_unmapped hb
  · intro hdestroyed
    exact ⟨(hs.destroyed hdestroyed).1, rfl⟩

/-- A context whose descriptor is open is open, and a handle of the client's is
closed through the context it is on or not at all. -/
theorem mayDestroy_cases (hs : s.Accounted) (hb : s.MayDestroy c b) :
    s.boStatus b = .live c ∨ (s.boStatus b).home = none ∧
      ((s.bo b).handle = 0 ∨ (s.ctx c).fd = -1) := by
  unfold MayDestroy at hb
  cases hstatus : s.boStatus b with
  | idle => simp [hstatus] at hb
  | live c' =>
      simp only [hstatus] at hb
      exact Or.inl (by rw [hb])
  | orphan =>
      simp only [hstatus] at hb
      exact Or.inr ⟨rfl, Or.inr (hs.closed hb)⟩
  | destroyed => exact Or.inr ⟨rfl, Or.inl (hs.destroyed hstatus).1⟩

theorem step_destroy (hs : s.Accounted) (hb : s.MayDestroy c b) :
    (s.step (.boDestroy c b) ()).Accounted := by
  have hidle : s.boStatus b ≠ .idle := by
    intro hidle
    simp [MayDestroy, hidle] at hb
  obtain ⟨hbo, hend⟩ := @boDestroy_end (s.ctx c) s.host (s.bo b) (hs.mapped_length hidle)
  simp only [System.step, hbo]
  generalize (boDestroy (s.ctx c) (s.bo b) s.host).2 = h at hend
  rcases hs.mayDestroy_cases hb with hlive | ⟨hhome, hnothing⟩
  · cases hend with
    | missed hmiss => exact absurd (hs.handle_live hlive) hmiss
    | closed hfile hmem hfiles hmappings _ htrace hes =>
        refine hs.put (isSome_files_update hfile hfiles) ?_ ?_ ?_ ?_ ?_ ?_ ?_
          (fun _ => ⟨rfl, rfl⟩) htrace (proper_bo ?_)
        · rw [handleOf_put_none rfl]
          exact hs.handles.release (handleOf_live hlive) (liveHandle_erase hfile hfiles)
        · rw [addrOf_put_none (Or.inl rfl), hmappings]
          exact hs.addrs_unmapped hidle
        · intro fd hzero
          exact hs.zero_free fd ((liveHandle_erase hfile hfiles _).mp hzero).2
        · rw [hmappings]
          exact hs.unmapped_null
        · intro i addr hib hi
          rw [hmappings]
          exact hs.unmapped_other hidle hib hi
        · simp [BoStatus.held]
        · simp
        · intro e he
          rcases List.mem_append.mp he with he | he
          · exact hes e he
          · rw [List.mem_singleton] at he
            exact he ▸ Or.inl rfl
  · have hmissing : ¬ s.host.LiveHandle ((s.ctx c).fd, (s.bo b).handle) := by
      rcases hnothing with hzero | hclosed
      · rw [hzero]
        exact hs.zero_free _
      · rintro ⟨handles, hfile, -⟩
        rw [hclosed, hs.files_neg] at hfile
        cases hfile
    cases hend with
    | closed hfile hmem => exact absurd ⟨_, hfile, hmem⟩ hmissing
    | missed _ hfiles hmappings _ htrace hes =>
        refine hs.put ?_ ?_ ?_ ?_ ?_ ?_ ?_ ?_ (fun _ => ⟨rfl, rfl⟩) htrace ?_
        · intro fd
          rw [hfiles]
        · rw [handleOf_put_none rfl, ← handleOf_eq_none hhome, Function.update_eq_self,
            Host.liveHandle_congr hfiles]
          exact hs.handles
        · rw [addrOf_put_none (Or.inl rfl), hmappings]
          exact hs.addrs_unmapped hidle
        · rw [Host.liveHandle_congr hfiles]
          exact hs.zero_free
        · rw [hmappings]
          exact hs.unmapped_null
        · intro i addr hib hi
          rw [hmappings]
          exact hs.unmapped_other hidle hib hi
        · simp [BoStatus.held]
        · simp
        · -- The close misses, and it may: it is of handle 0 or of no descriptor.
          intro e he
          rw [List.map_append] at he
          rcases List.mem_append.mp he with he | he
          · exact proper_bo hes e he
          · rw [List.map_singleton, List.mem_singleton] at he
            exact he ▸ Or.inr hnothing

/-! ### Open and close -/

/-- No bo is live on a context that is not open. -/
theorem not_live (hs : s.Accounted) (hc : s.ctxStatus c ≠ .opened) : s.boStatus b ≠ .live c :=
  fun hb => hc (hs.home hb)

/-- A context that was not open is given a descriptor, or none. -/
theorem putCtx {ctx : RocketCtx} {status : CtxStatus} {h : Host} {es : List HostEvent}
    (hs : s.Accounted) (hc : s.ctxStatus c ≠ .opened)
    (hfiles : Ownership (s.putCtx c ctx status h).fdOf (fun fd => (h.files fd).isSome))
    (hlive : h.LiveHandle = s.host.LiveHandle) (hmappings : h.mappings = s.host.mappings)
    (hopened : status = .opened → 0 ≤ ctx.fd.toInt) (hclosed : status = .closed → ctx.fd = -1)
    (htrace : h.trace = s.host.trace ++ es) (hes : ∀ e ∈ es, e.Proper) :
    (s.putCtx c ctx status h).Accounted where
  files := hfiles
  handles := by
    rw [handleOf_putCtx fun b => hs.not_live hc, putCtx_host, hlive]
    exact hs.handles
  addrs := by
    rw [putCtx_host, hmappings]
    exact hs.addrs
  home := by
    intro b c' hb
    have hne : c' ≠ c := by
      rintro rfl
      exact hs.not_live hc hb
    exact (Function.update_of_ne hne _ _).trans (hs.home hb)
  opened := by
    intro c' hc'
    by_cases heq : c' = c
    · subst heq
      simpa using hopened (by simpa using hc')
    · simp only [putCtx_ctxStatus, putCtx_ctx, Function.update_of_ne heq] at hc' ⊢
      exact hs.opened hc'
  closed := by
    intro c' hc'
    by_cases heq : c' = c
    · subst heq
      simpa using hclosed (by simpa using hc')
    · simp only [putCtx_ctxStatus, putCtx_ctx, Function.update_of_ne heq] at hc' ⊢
      exact hs.closed hc'
  zero_free := hlive ▸ hs.zero_free
  null_free := hmappings ▸ hs.null_free
  length := by
    intro b addr hb
    rw [putCtx_host, hmappings]
    exact hs.length hb
  destroyed := hs.destroyed
  proper := by
    intro e he
    rw [putCtx_host, htrace] at he
    rcases List.mem_append.mp he with he | he
    · exact hs.proper e he
    · exact hes e he

theorem step_open (hs : s.Accounted) {env : OpenEnv} (hc : s.ctxStatus c ≠ .opened)
    (henv : env.Lawful s.host) : (s.step (.rocketOpen c) env).Accounted := by
  obtain ⟨ctx', hctx, hend⟩ := @rocketOpen_end env (s.ctx c) s.host
  simp only [System.step, hctx, Option.getD_some]
  generalize (rocketOpen env (some (s.ctx c)) s.host).1.1 = ret at hend ⊢
  generalize (rocketOpen env (some (s.ctx c)) s.host).2 = h at hend ⊢
  cases hend with
  | @opened fd es _ hfd hfiles hmemory htrace hes =>
      have hfree : s.host.files fd.1 = none := hfd.elim (henv.accel0 ·) (henv.accel1 ·)
      rw [if_pos rfl]
      refine hs.putCtx hc ?_ ?_ hmemory.mappings (fun _ => fd.2) (by simp) htrace ?_
      · rw [fdOf_putCtx, if_pos rfl]
        refine hs.files.acquire (fdOf_eq_none hc) (by simp [hfree]) ?_
        intro fd'
        rw [hfiles]
        by_cases heq : fd' = fd.1
        · simp [heq]
        · simp [heq]
      · -- A descriptor just opened has no handles.
        funext k
        rw [liveHandle_update hfiles, eq_iff_iff]
        by_cases heq : k.1 = fd.1
        · simp [heq, Host.LiveHandle, hfree]
        · simp [heq]
      · intro e he
        obtain ⟨path, outcome, rfl⟩ := hes e he
        trivial
  | @refused e e' _ _ _ hfiles hmemory htrace =>
      rw [if_neg (neg_ne_zero.mpr e.pos.ne')]
      refine hs.putCtx hc ?_ (Host.liveHandle_congr hfiles) hmemory.mappings (by simp) (by simp)
        htrace (by simp [HostEvent.Proper])
      rw [fdOf_putCtx, if_neg (by simp), ← fdOf_eq_none hc, Function.update_eq_self, hfiles]
      exact hs.files

/-- What a close does to the bos. -/
theorem home_close {status : BoStatus} {c' : ℕ} :
    (if status = .live c then BoStatus.orphan else status) = .live c' ↔
      status = .live c' ∧ c' ≠ c := by
  by_cases hb : status = .live c
  · rw [if_pos hb, hb]
    constructor
    · rintro ⟨⟩
    · rintro ⟨⟨⟩, hne⟩
      exact absurd rfl hne
  · rw [if_neg hb]
    constructor
    · rintro rfl
      exact ⟨rfl, fun heq => hb (heq ▸ rfl)⟩
    · exact And.left

theorem held_close (status : BoStatus) :
    (if status = .live c then BoStatus.orphan else status).held = status.held := by
  by_cases hb : status = .live c
  · rw [if_pos hb, hb]
    rfl
  · rw [if_neg hb]

/-- An open context is closed: its descriptor goes, with the handles on it. -/
theorem shut {h : Host} {es : List HostEvent} (hs : s.Accounted) (hc : s.ctxStatus c = .opened)
    (hfiles : h.files = Function.update s.host.files (s.ctx c).fd none)
    (hmappings : h.mappings = s.host.mappings) (htrace : h.trace = s.host.trace ++ es)
    (hes : ∀ e ∈ es, e.Proper) :
    Accounted { s.putCtx c ⟨-1⟩ .closed h with
      boStatus := fun b => if s.boStatus b = .live c then .orphan else s.boStatus b } where
  files := by
    show Ownership (s.putCtx c ⟨-1⟩ .closed h).fdOf _
    rw [fdOf_putCtx, if_neg (by simp)]
    refine hs.files.release (fdOf_opened hc) ?_
    intro fd
    simp only [putCtx_host, hfiles]
    by_cases heq : fd = (s.ctx c).fd
    · simp [heq]
    · simp [heq]
  handles := by
    -- Of the handles those on the descriptor closed are taken from their bos.
    refine cast ?_ (hs.handles.restrict fun k => k.1 ≠ (s.ctx c).fd)
    refine congrArg₂ Ownership ?_ ?_
    · funext b
      simp only [handleOf, System.putCtx]
      cases hb : s.boStatus b with
      | live c' =>
          by_cases heq : c' = c
          · simp [heq, BoStatus.home]
          · have hne : (s.ctx c').fd ≠ (s.ctx c).fd := fun hfd =>
              heq (hs.files.inj (fdOf_opened (hs.home hb)) (by rw [fdOf_opened hc, hfd]))
            simp [heq, hne, BoStatus.home]
      | idle => simp [BoStatus.home]
      | orphan => simp [BoStatus.home]
      | destroyed => simp [BoStatus.home]
    · funext k
      by_cases heq : k.1 = (s.ctx c).fd
      · simp [Host.LiveHandle, hfiles, heq]
      · simp [Host.LiveHandle, hfiles, heq]
  addrs := by
    have haddrOf : addrOf { s.putCtx c ⟨-1⟩ .closed h with
        boStatus := fun b => if s.boStatus b = .live c then .orphan else s.boStatus b } =
        s.addrOf := by
      funext b
      simp only [addrOf, held_close, System.putCtx]
    rw [haddrOf, putCtx_host, hmappings]
    exact hs.addrs
  home := by
    intro b c' hb
    obtain ⟨hb, hne⟩ := home_close.mp hb
    exact (Function.update_of_ne hne _ _).trans (hs.home hb)
  opened := by
    intro c' hc'
    by_cases heq : c' = c
    · simp [System.putCtx, heq] at hc'
    · simp only [putCtx_ctxStatus, putCtx_ctx, Function.update_of_ne heq] at hc' ⊢
      exact hs.opened hc'
  closed := by
    intro c' hc'
    by_cases heq : c' = c
    · subst heq
      simp
    · simp only [putCtx_ctxStatus, putCtx_ctx, Function.update_of_ne heq] at hc' ⊢
      exact hs.closed hc'
  zero_free := by
    rintro fd ⟨handles, hfile, hmem⟩
    simp only [putCtx_host, hfiles] at hfile
    by_cases heq : fd = (s.ctx c).fd
    · simp [heq] at hfile
    · rw [Function.update_of_ne heq] at hfile
      exact hs.zero_free fd ⟨handles, hfile, hmem⟩
  null_free := by
    rw [putCtx_host, hmappings]
    exact hs.null_free
  length := by
    intro b addr hb
    rw [putCtx_host, hmappings]
    refine hs.length ?_
    simpa only [addrOf, held_close, System.putCtx] using hb
  destroyed := by
    intro b hb
    refine hs.destroyed ?_
    by_cases hlive : s.boStatus b = .live c
    · simp [hlive] at hb
    · simpa [hlive] using hb
  proper := by
    intro e he
    rw [putCtx_host, htrace] at he
    rcases List.mem_append.mp he with he | he
    · exact hs.proper e he
    · exact hes e he

/-- A close takes the handles of its descriptor along, and the bos that had them
are no longer on any context. -/
theorem step_close (hs : s.Accounted) (hc : s.ctxStatus c ≠ .fresh) :
    (s.step (.rocketClose c) ()).Accounted := by
  cases hstatus : s.ctxStatus c with
  | fresh => exact absurd hstatus hc
  | closed =>
      -- A second close does nothing.
      have hrun : rocketClose (s.ctx c) s.host = (s.ctx c, s.host) :=
        rocketClose_closed (by rw [hs.closed hstatus]; decide)
      have hself : s.step (.rocketClose c) () = s := by
        have hlive : ∀ b, s.boStatus b ≠ .live c := fun b =>
          hs.not_live (by simp [hstatus])
        simp [System.step, hrun, hlive, System.putCtx, ← hstatus]
      rw [hself]
      exact hs
  | opened =>
      obtain ⟨handles, hfile⟩ := hs.file hstatus
      have hrun := @rocketClose_open (s.ctx c) s.host handles (hs.opened hstatus) hfile
      simp only [System.step, hrun]
      refine hs.shut hstatus rfl rfl rfl (by simp [HostEvent.Proper])

/-! ### Runs -/

theorem step (hs : s.Accounted) {i : Call} {o : i.Outcome} (hduty : s.Duty i)
    (hpromise : s.Promise i o) : (s.step i o).Accounted := by
  cases i with
  | rocketOpen c => exact hs.step_open hduty hpromise
  | rocketClose c => exact hs.step_close hduty
  | boCreate c b size => exact hs.step_create hduty hpromise
  | boDestroy c b => exact hs.step_destroy hduty
  | boUnmap b => exact hs.step_unmap hduty
  | boPrep c b timeoutNs => exact hs.onHost access_logged (by simp [HostEvent.Proper])
  | boFini c b => exact hs.onHost access_logged (by simp [HostEvent.Proper])
  | submit c regcmd regcmdCount ins outs =>
      obtain ⟨p, hend, hlog⟩ := submit_logged hpromise
      exact hs.onHost hlog (proper_submit hend)
  | boMap c b => exact hs
  | store b size i v => exact hs
  | load b size i => exact hs
  | clear b size count => exact hs
  | print stream format args => exact hs
  | undefined => exact o.elim

theorem run (hs : s.Accounted) {calls : List (Σ i : Call, i.Outcome)}
    (hcalls : api.machine.Legal s calls) : (api.machine.run s calls).Accounted :=
  Machine.invariant_run (M := api.machine)
    (fun _ _ hs hop => Accounted.step hs hop.1 hop.2) hs hcalls

end Accounted

end System

end Librocket.Rocket.Device
