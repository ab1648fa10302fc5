import Librocket.Rocket.Progress
import Librocket.Rocket.Sequential

/-!
# Programs that break the ownership of their buffers

`Dutiful` is a program that breaks no duty over the device, `SubmitsOwned` one that
has a run up to a job on a buffer it still owns. Such a run is put together from the
parts of the program: a part that is in order both on the tables and on one copy is
passed along any of its runs, and a call whose answer matters is given that answer.
-/

namespace Librocket.Rocket.Device

open Coherence (Owner)

/-- No path of the program breaks a duty, of the tables or of the buffers. -/
def Program.Dutiful (hw : Hardware) (p : Program ℤ) : Prop := ∀ ctx bo of dma cpu dev,
  p.Ensures (device hw) (fun _ _ => True)
    (System.initial ctx bo, Shared.initial of dma cpu dev)

/-- A submit that succeeds, of a job that reads an object the CPU owns. -/
def SubmitOwned (hw : Hardware) (x : System × Shared) :
    (i : Call) → i.Outcome × (i.Reply × List BoEvent) → Prop
  | .submit _ regcmd count ins outs, o => o.2.1 = (0 : ℤ) ∧
      ∃ b ∈ (x.2.objects.job hw regcmd count ins outs).reads, x.2.buffers.owner b = .cpu
  | _, _ => False

/-- Some run to the end makes one, its first call that breaks a duty. -/
def Program.SubmitsOwned (hw : Hardware) (p : Program ℤ) : Prop := ∀ ctx bo of dma cpu dev,
  ∃ calls call after ret x', Client.Runs (device hw) p
      (System.initial ctx bo, Shared.initial of dma cpu dev) (calls ++ call :: after) ret x' ∧
    (device hw).machine.Legal (System.initial ctx bo, Shared.initial of dma cpu dev) calls ∧
    SubmitOwned hw ((device hw).machine.run
      (System.initial ctx bo, Shared.initial of dma cpu dev) calls) call.1 call.2

section

variable {hw : Hardware}

theorem SubmitOwned.not_duty {x : System × Shared} {i : Call}
    {o : i.Outcome × (i.Reply × List BoEvent)} (h : SubmitOwned hw x i o) :
    ¬ (device hw).duty x i := by
  cases i with
  | submit c regcmd count ins outs =>
      obtain ⟨-, b, hb, hcpu⟩ := h
      rintro ⟨-, hduty⟩
      obtain ⟨-, howner⟩ := hduty _ rfl
      rw [howner b (Or.inl hb)] at hcpu
      cases hcpu
  | _ => exact h.elim

theorem Program.SubmitsOwned.not_dutiful {p : Program ℤ} (h : p.SubmitsOwned hw) :
    ¬ p.Dutiful hw := by
  intro hduty
  obtain ⟨calls, call, after, ret, x', hrun, -, howned⟩ :=
    h (fun _ => ⟨-1⟩) (fun _ => unusedBo) id (fun _ => 0) (fun _ => default) fun _ => default
  have hlegal := (hrun.legal (hduty _ _ _ _ _ _)).1
  exact howned.not_duty ((Machine.legal_append.mp hlegal).2.1).1

theorem Program.Dutiful.of_ensures {p : Program ℤ}
    (hapi : ∀ s : System, s.Released → p.Ensures api (fun _ _ => True) s)
    (hmemory : p.Disciplined hw) : p.Dutiful hw := by
  intro ctx bo of dma cpu dev
  have hshared := ensures_shared (initial_represents of dma cpu dev) (hmemory of dma cpu)
  exact ((hapi _ (.initial ctx bo)).prod hshared).mono fun _ _ _ => trivial

/-! ## Every call can be answered -/

/-- An answer with nothing in the background. -/
theorem device_promise {x : System × Shared} {i : Call} (o : i.Outcome) (ho : x.1.Promise i o)
    (hgranted : ∀ e ∈ i.effect hw x.2.objects (x.1.reply i o), x.2.buffers.Granted e)
    (hobjects : x.2.objects.Promise hw x.2.buffers.cpu i (x.1.reply i o)) :
    (device hw).promise x i (o, x.1.reply i o, []) :=
  ⟨ho, ⟨nofun, trivial, hgranted, hobjects⟩, rfl⟩

/-- A call that failed did nothing. -/
theorem granted_of_failed {s : Shared} {i : Call} {r : i.Reply} (h : i.failed r = true) :
    ∀ e ∈ i.effect hw s.objects r, s.buffers.Granted e := by
  intro e he
  rw [Call.effect, if_pos h] at he
  cases he

/-- One that succeeds is granted where its event is. -/
theorem granted_of_event {s : Shared} {i : Call} {r : i.Reply}
    (h : ∀ e ∈ i.event hw s.objects, s.buffers.Granted e) :
    ∀ e ∈ i.effect hw s.objects r, s.buffers.Granted e := by
  intro e he
  unfold Call.effect at he
  split at he
  · cases he
  · exact h e he

theorem granted_of_quiet {s : Shared} {i : Call} {r : i.Reply}
    (h : i.event hw s.objects = none) :
    ∀ e ∈ i.effect hw s.objects r, s.buffers.Granted e := by
  refine granted_of_event ?_
  rw [h]
  rintro _ ⟨⟩

theorem device_live (x : System × Shared) (i : Call) (hduty : api.duty x.1 i) :
    ∃ o, (device hw).promise x i o := by
  cases i with
  | undefined => exact hduty.elim
  | rocketOpen c =>
      let env : OpenEnv := { accel0 := .error ENOMEM, accel1 := .error ENOMEM }
      refine ⟨_, device_promise (i := .rocketOpen c) env ?_ (granted_of_quiet rfl) trivial⟩
      constructor <;> simp [env]
  | boCreate c b size =>
      let env : CreateEnv := { createBo := .error ENOMEM, mmap := .error ENOMEM }
      refine ⟨_, device_promise (i := .boCreate c b size) env ?_ (granted_of_failed ?_) trivial⟩
      · simp only [System.Promise, CreateLawful]
        split
        · constructor <;> simp [env]
        · exact ⟨ENOMEM, rfl⟩
      · show decide ((rocketBoCreate env (x.1.ctx c) (x.1.bo b) size
          (x.1.host.world (x.1.ctx c).fd)).1.1 < 0) = true
        rw [rocketBoCreate_createBo_error rfl]
        exact decide_eq_true (neg_neg_of_pos (Errno.pos _))
  | boPrep c b timeoutNs =>
      refine ⟨_, device_promise (i := .boPrep c b timeoutNs) (.error ENOMEM) trivial
        (granted_of_failed ?_) trivial⟩
      exact decide_eq_true (neg_neg_of_pos ENOMEM.pos)
  | boFini c b =>
      refine ⟨_, device_promise (i := .boFini c b) (.ok ()) trivial (granted_of_event ?_) ?_⟩
      · rintro _ ⟨⟩
        trivial
      · exact fun _ => lt_irrefl (0 : ℤ)
  | submit c regcmd count ins outs =>
      let env : Submit.SubmitEnv :=
        { callocIn := none, callocOut := none, task := 0, job := 1, submit := .ok () }
      have harray : ∀ bos : Submit.BoArray, bos.array none = none := fun bos => ite_self none
      refine ⟨_, device_promise (i := .submit c regcmd count ins outs) env ?_
        (granted_of_event ?_) trivial⟩
      · constructor <;> simp [env, harray]
      · rintro _ ⟨⟩
        trivial
  | load b size j =>
      refine ⟨_, device_promise (i := .load b size j)
        (Bytes.load size j.toNat (x.2.buffers.cpu (x.2.objects.of b))) trivial
        (granted_of_event ?_) rfl⟩
      rintro _ ⟨⟩
      trivial
  | store b size j v =>
      refine ⟨_, device_promise (i := .store b size j v) () trivial (granted_of_event ?_) trivial⟩
      rintro _ ⟨⟩
      trivial
  | clear b size count =>
      refine ⟨_, device_promise (i := .clear b size count) () trivial (granted_of_event ?_) trivial⟩
      rintro _ ⟨⟩
      trivial
  | rocketClose c =>
      exact ⟨_, device_promise (i := .rocketClose c) () trivial (granted_of_quiet rfl) trivial⟩
  | boDestroy c b =>
      exact ⟨_, device_promise (i := .boDestroy c b) () trivial (granted_of_quiet rfl) trivial⟩
  | boMap c b =>
      exact ⟨_, device_promise (i := .boMap c b) () trivial (granted_of_quiet rfl) trivial⟩
  | boUnmap b =>
      exact ⟨_, device_promise (i := .boUnmap b) () trivial (granted_of_quiet rfl) trivial⟩
  | print stream format args =>
      exact ⟨_, device_promise (i := .print stream format args) () trivial
        (granted_of_quiet rfl) trivial⟩

/-! ## Along a run -/

open Client

/-- What a program holds at a point, on the tables and in the buffers. The heap is as
it was at the start. -/
structure Stands (x : System × Shared) (c : ℕ) (sizes : ℕ → Option U64) (m : Memory) : Prop where
  tables : x.1.Holding c sizes
  heap : x.1.host.memory = fun _ => none
  buffers : x.2.Represents m

variable {α β : Type} {P : System × Shared → (i : Call) → i.Outcome × (i.Reply × List BoEvent) → Prop}
  {x : System × Shared} {m : Memory} {c b : ℕ} {size : U64} {sizes : ℕ → Option U64}

/-- A part that is in order on both sides. -/
theorem Stands.meets_bind (h : Stands x c sizes m) {p : Program α} {f : α → Program β}
    {Q : α → Memory → Prop} (hapi : p.Ensures api (fun _ s' => s'.Holding c sizes) x.1)
    (hmemory : p.Ensures (sequential hw) Q m)
    (hf : ∀ a x' m', Stands x' c sizes m' → Q a m' → (f a).Meets (device hw) P x') :
    (p >>= f).Meets (device hw) P x := by
  have hheap := hapi.keep (I := fun s => s.host.memory = fun _ => none)
    (fun s i o heap ho => (System.step_memory ho).trans heap) h.heap
  refine Client.meets_bind (fun x i hduty => device_live x i hduty.1)
    (hheap.prod (ensures_shared h.buffers hmemory)) ?_
  rintro a x' ⟨⟨htables, hheap⟩, m', hbuffers, hQ⟩
  exact hf a x' m' ⟨htables, hheap, hbuffers⟩ hQ

theorem meets_print {stream : Stream} {format : String} {args : List Arg} {f : Unit → Program β}
    (hf : (f ()).Meets (device hw) P x) :
    (Program.print stream format args >>= f).Meets (device hw) P x :=
  meets_call ((), (), []) ⟨trivial, nofun⟩ ⟨trivial, ⟨nofun, trivial, nofun, trivial⟩, rfl⟩ hf

/-- A call with a given answer, and nothing in the background. -/
theorem meets_reply (h : x.2.Represents m) {i : Call} (o : i.Outcome) (hduty : x.1.Duty i)
    (hdisciplined : i.Disciplined hw m.objects m.owner) (ho : x.1.Promise i o)
    (hgranted : ∀ e ∈ i.effect hw x.2.objects (x.1.reply i o), x.2.buffers.Granted e)
    (hobjects : x.2.objects.Promise hw x.2.buffers.cpu i (x.1.reply i o))
    {f : i.Reply → Program β}
    (hf : ((shared hw).step x.2 i (x.1.reply i o, [])).Represents
        ((sequential hw).step m i (x.1.reply i o)) →
      (f (x.1.reply i o)).Meets (device hw) P
        (x.1.step i o, (shared hw).step x.2 i (x.1.reply i o, []))) :
    (Program.call i >>= f).Meets (device hw) P x := by
  have hpromise := device_promise o ho hgranted hobjects
  refine meets_call (o, x.1.reply i o, []) ⟨hduty, ?_⟩ hpromise (hf ?_)
  · show i.Disciplined hw x.2.objects x.2.buffers.owner
    rw [h.objects, h.owner]
    exact hdisciplined
  · exact (step_represents h hdisciplined hpromise.2.1).2

theorem meets_open (hreleased : x.1.Released) (hheap : x.1.host.memory = fun _ => none)
    (hbuffers : x.2.Represents m) {f : ℤ → Program β}
    (hf : ∀ x', Stands x' c (fun _ => none) m → x'.2.buffers.queue = x.2.buffers.queue →
      (f 0).Meets (device hw) P x') :
    (Program.rocketOpen c >>= f).Meets (device hw) P x := by
  obtain ⟨env, henv, hret, hheld⟩ := @System.Released.can_open x.1 c hreleased
  refine meets_reply (i := .rocketOpen c) hbuffers env (hreleased.closed c) nofun henv
    (granted_of_quiet rfl) trivial fun hbuffers => ?_
  have hstep : (sequential hw).step m (.rocketOpen c) (0 : ℤ) = m := rfl
  rw [hret] at hbuffers ⊢
  rw [hstep] at hbuffers
  exact hf _ ⟨hheld, (System.step_memory (i := .rocketOpen c) henv).trans hheap, hbuffers⟩
    (queue_step _ nofun)

/-- A create while no job is waiting. -/
theorem Stands.meets_create (h : Stands x c sizes m) (hqueue : x.2.buffers.queue = [])
    (hb : sizes b = none) {n : ℕ} (hn : n + 2 < 2 ^ 32) (hfew : ∀ b, sizes b ≠ none → b < n)
    {f : ℤ × RocketBo → Program β}
    (hf : ∀ bo x', Stands x' c (Function.update sizes b (some size)) (m.create hw b bo) →
      x'.2.buffers.queue = [] → (f (0, bo)).Meets (device hw) P x') :
    (Program.boCreate c b size >>= f).Meets (device hw) P x := by
  obtain ⟨env, bo, henv, hret, hheld⟩ :=
    @System.Holding.can_create x.1 c b size sizes h.tables hb n hn hfew
  have hduty : x.1.Duty (.boCreate c b size) := by
    refine ⟨?_, h.tables.rest hb⟩
    rw [h.tables.opened]
    simp
  refine meets_reply (i := .boCreate c b size) h.buffers env hduty ?_ henv (granted_of_event ?_)
    trivial fun hbuffers => ?_
  · rintro _ ⟨⟩
    trivial
  · rintro _ ⟨⟩
    intro j hj
    rw [hqueue] at hj
    cases hj
  rw [hret] at hbuffers ⊢
  have hstep : (sequential hw).step m (.boCreate c b size) ((0 : ℤ), bo) = m.create hw b bo := rfl
  rw [hstep] at hbuffers
  refine hf bo _ ⟨hheld, (System.step_memory (i := .boCreate c b size) henv).trans h.heap,
    hbuffers⟩ ?_
  exact (queue_step (i := .boCreate c b size) ((0 : ℤ), bo) nofun).trans hqueue

theorem Stands.meets_fini (h : Stands x c sizes m) (hb : sizes b = some size)
    (howner : m.owner (m.objects.of b) = .cpu) {f : ℤ → Program β}
    (hf : ∀ x', Stands x' c sizes (m.own b .device) → (f 0).Meets (device hw) P x') :
    (Program.boFini c b >>= f).Meets (device hw) P x := by
  refine meets_reply (i := .boFini c b) h.buffers (.ok ()) (h.tables.live hb) ?_ trivial
    (granted_of_event ?_) (fun _ => lt_irrefl (0 : ℤ)) fun hbuffers => ?_
  · rintro _ ⟨⟩
    exact howner
  · rintro _ ⟨⟩
    trivial
  exact hf _ ⟨h.tables.fini _, (System.step_memory (i := .boFini c b) trivial).trans h.heap,
    hbuffers⟩

/-- The CPU goes on owning what it meant to hand over. -/
theorem Stands.meets_fini_failed (h : Stands x c sizes m) (hfini : hw.finiFails)
    (hb : sizes b = some size) (howner : m.owner (m.objects.of b) = .cpu) {f : ℤ → Program β}
    (hf : ∀ ret x', Stands x' c sizes m.fail → (f ret).Meets (device hw) P x') :
    (Program.boFini c b >>= f).Meets (device hw) P x := by
  have hfailed : Call.failed (.boFini c b) (x.1.reply (.boFini c b) (.error EINVAL)) = true :=
    decide_eq_true (neg_neg_of_pos EINVAL.pos)
  refine meets_reply (i := .boFini c b) h.buffers (.error EINVAL) (h.tables.live hb) ?_ trivial
    (granted_of_failed hfailed) (fun hnot => absurd hfini hnot) fun hbuffers => ?_
  · rintro _ ⟨⟩
    exact howner
  rw [step_of_failed hfailed] at hbuffers
  exact hf _ _ ⟨h.tables.fini _, (System.step_memory (i := .boFini c b) trivial).trans h.heap,
    hbuffers⟩

/-- The submit goes through though the CPU owns the commands. -/
theorem Stands.meets_submit (h : Stands x c sizes m) {regcmd : ℕ} {count : U32}
    {ins outs : List ℕ} (howner : m.owner (m.objects.of regcmd) = .cpu) {f : ℤ → Program β} :
    (Program.submit c regcmd count ins outs >>= f).Meets (device hw) (SubmitOwned hw) x := by
  obtain ⟨env, henv, hret⟩ := @System.can_submit x.1 c h.heap regcmd count ins outs
  have hgranted : ∀ e ∈ Call.event hw x.2.objects (.submit c regcmd count ins outs),
      x.2.buffers.Granted e := by
    rintro _ ⟨⟩
    trivial
  refine meets_here _ (device_promise (i := .submit c regcmd count ins outs) env henv
    (granted_of_event hgranted) trivial) ⟨hret, m.objects.of regcmd, ?_, ?_⟩
  · rw [h.buffers.objects]
    exact List.mem_cons_self
  · rw [h.buffers.owner]
    exact howner

end

end Librocket.Rocket.Device
