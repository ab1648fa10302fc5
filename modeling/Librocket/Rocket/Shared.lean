import Librocket.Lib.Bytes
import Librocket.Lib.Coherence
import Librocket.Rocket.Program

/-!
# What is in the buffers

`System` is silent on contents: a load finds anything. Here the object behind a
bo is a buffer of bytes shared with the NPU, and the calls are what
`rocket_accel.h` says of them: a create makes an object, `FINI_BO` ends the CPU's
ownership, `PREP_BO` starts it and waits for the jobs known to use the object, and
a submit queues a job on the objects in its two lists.

`shared` has the two copies of `Coherence` and its schedules, `sequential` one
copy and no queue. A client that keeps its duties on the second keeps them on the
first and ends the same (`ensures_shared`); `device` joins this with `api`.
-/

namespace Librocket.Rocket.Device

open Coherence (Owner)

abbrev BoEvent := Coherence.Event ℕ Bytes.Image

abbrev Buffers := Coherence.Buffers ℕ Bytes.Image

/-! ## Objects -/

/-- The object behind each bo, the objects' addresses, and the number of the next.
An object lives on when its handle is closed. `failed` says whether a call has. -/
structure Objects where
  of : ℕ → ℕ
  dma : ℕ → U64
  next : ℕ
  failed : Bool

/-- What is open about the hardware and the kernel. -/
structure Hardware where
  /-- What the NPU makes of the objects a job may touch, from `count` commands at the
  start of the object `regcmd`. -/
  run (dma : ℕ → U64) (regcmd : ℕ) (count : U32) (images : ℕ → Bytes.Image) : ℕ → Bytes.Image
  /-- What a new object contains. -/
  fresh : ℕ → Bytes.Image
  /-- May a `FINI_BO` fail? -/
  finiFails : Prop

/-- The job reads its commands and what is in the lists, and writes what is in `outs`.
That a job keeps to its lists is an assumption: nothing checks what the commands tell
the NPU to touch. -/
def Objects.job (o : Objects) (hw : Hardware) (regcmd : ℕ) (count : U32) (ins outs : List ℕ) :
    Coherence.Job ℕ Bytes.Image :=
  .ofCompute (ins.map o.of) (outs.map o.of) (o.of regcmd :: ins.map o.of) (outs.map o.of)
    (hw.run o.dma (o.of regcmd) count)

/-- What a call does to the objects, if it succeeds. -/
def Call.event (hw : Hardware) (o : Objects) : Call → Option BoEvent
  | .boCreate .. => some (.alloc o.next (hw.fresh o.next))
  | .boPrep _ b _ => some (.takeBack (o.of b))
  | .boFini _ b => some (.handOver (o.of b))
  | .submit _ regcmd count ins outs => some (.submit (o.job hw regcmd count ins outs))
  | .store b size i v => some (.store (o.of b) (Bytes.store size i.toNat v))
  | .clear b size count => some (.store (o.of b) (Bytes.clear (count * size)))
  | .load b _ _ => some (.load (o.of b))
  | .rocketOpen _ | .rocketClose _ | .boDestroy .. | .boMap .. | .boUnmap _ | .print ..
  | .undefined => none

/-- A client touches what it owns, and lists what its job touches. -/
def Call.Disciplined (hw : Hardware) (o : Objects) (owner : ℕ → Owner) : Call → Prop
  | .undefined => False
  | i => ∀ e ∈ i.event hw o, e.Disciplined owner

/-- A negative code. -/
def Call.failed : (i : Call) → i.Reply → Bool
  | .rocketOpen _, (ret : ℤ) => ret < 0
  | .boCreate .., (ret : ℤ × RocketBo) => ret.1 < 0
  | .boPrep .., (ret : ℤ) => ret < 0
  | .boFini .., (ret : ℤ) => ret < 0
  | .submit .., (ret : ℤ) => ret < 0
  | _, _ => false

/-- What a call did. -/
def Call.effect (hw : Hardware) (o : Objects) (i : Call) (r : i.Reply) : Option BoEvent :=
  if i.failed r then none else i.event hw o

/-- A bo that was created stands for the new object. -/
def Objects.create (o : Objects) (b : ℕ) (bo : RocketBo) : Objects :=
  { o with
    of := Function.update o.of b o.next
    dma := Function.update o.dma o.next bo.dmaAddr
    next := o.next + 1 }

def Objects.after (o : Objects) (i : Call) (r : i.Reply) : Objects :=
  if i.failed r then
    { o with failed := true }
  else
    match i, r with
    | .boCreate _ b _, (r : ℤ × RocketBo) => o.create b r.2
    | _, _ => o

/-- What the replies say, of what the CPU sees. -/
def Objects.Promise (o : Objects) (hw : Hardware) (cpu : ℕ → Bytes.Image) :
    (i : Call) → i.Reply → Prop
  | .load b size i, (v : U64) => v = Bytes.load size i.toNat (cpu (o.of b))
  | .boFini .., (ret : ℤ) => ¬ hw.finiFails → ¬ ret < 0
  | _, _ => True

/-! ## One copy -/

structure Memory where
  objects : Objects
  owner : ℕ → Owner
  image : ℕ → Bytes.Image

/-- Every call is done when it returns. -/
def sequential (hw : Hardware) : Service Memory Call Call.Reply Call.Reply where
  duty m i := i.Disciplined hw m.objects m.owner
  promise m i r := m.objects.Promise hw m.image i r
  step m i r :=
    { objects := m.objects.after i r
      owner := (i.effect hw m.objects r).elim m.owner fun e => e.own m.owner
      image := (i.effect hw m.objects r).elim m.image fun e => e.sequential m.image }
  reply _ _ r := r

/-! ## Two copies -/

structure Shared where
  objects : Objects
  buffers : Buffers

/-- What happened since the call before comes first: jobs that ran, and traffic of
the cache. -/
def Shared.settled (s : Shared) (es : List BoEvent) : Buffers :=
  (Coherence.machine ℕ Bytes.Image).run s.buffers es

def shared (hw : Hardware) : Service Shared Call (fun i => i.Reply × List BoEvent) Call.Reply where
  duty s i := i.Disciplined hw s.objects s.buffers.owner
  promise s i o :=
    (∀ e ∈ o.2, e.Background) ∧ (Coherence.machine ℕ Bytes.Image).Legal s.buffers o.2 ∧
      (∀ e ∈ i.effect hw s.objects o.1, (s.settled o.2).Granted e) ∧
      s.objects.Promise hw (s.settled o.2).cpu i o.1
  step s i o :=
    { objects := s.objects.after i o.1
      buffers := (i.effect hw s.objects o.1).elim (s.settled o.2) (s.settled o.2).step }
  reply _ _ o := o.1

/-- Both halves of a call. -/
def device (hw : Hardware) :=
  api.prod (shared hw)

/-- A call that is no submit leaves the queue. -/
theorem queue_step {hw : Hardware} {s : Shared} {i : Call} (r : i.Reply)
    (hsubmit : ∀ j, i.event hw s.objects ≠ some (.submit j)) :
    ((shared hw).step s i (r, [])).buffers.queue = s.buffers.queue := by
  simp only [shared]
  cases heffect : i.effect hw s.objects r with
  | none => rfl
  | some e =>
      unfold Call.effect at heffect
      split at heffect
      · cases heffect
      cases i with
      | submit c regcmd count ins outs => exact absurd rfl (hsubmit _)
      | boCreate c b size =>
          cases heffect
          rfl
      | boPrep c b timeoutNs =>
          cases heffect
          rfl
      | boFini c b =>
          cases heffect
          rfl
      | store b size i v =>
          cases heffect
          rfl
      | clear b size count =>
          cases heffect
          rfl
      | load b size i =>
          cases heffect
          rfl
      | _ => cases heffect

/-! ## One copy for two -/

structure Shared.Represents (s : Shared) (m : Memory) : Prop where
  objects : s.objects = m.objects
  owner : s.buffers.owner = m.owner
  agrees : s.buffers.Agrees m.image

section Refinement

variable {hw : Hardware} {s : Shared} {m : Memory}

/-- The duty is on the event of the call, whatever comes of it. -/
theorem Call.Disciplined.event {o : Objects} {owner : ℕ → Owner} {i : Call}
    (h : i.Disciplined hw o owner) {e : BoEvent} (he : i.event hw o = some e) :
    e.Disciplined owner := by
  cases i with
  | undefined => exact h.elim
  | _ => exact h e he

theorem Call.Disciplined.effect {o : Objects} {owner : ℕ → Owner} {i : Call}
    (h : i.Disciplined hw o owner) {r : i.Reply} {e : BoEvent} (he : i.effect hw o r = some e) :
    e.Disciplined owner := by
  unfold Call.effect at he
  split at he
  · cases he
  · exact h.event he

theorem Shared.Represents.settled (h : s.Represents m) {es : List BoEvent}
    (hback : ∀ e ∈ es, e.Background)
    (hlegal : (Coherence.machine ℕ Bytes.Image).Legal s.buffers es) :
    (s.settled es).owner = m.owner ∧ (s.settled es).Agrees m.image :=
  ⟨(Coherence.owner_background hback).trans h.owner, h.agrees.background hlegal hback⟩

/-- A reply is one the single copy gives as well: what is loaded is the CPU's. -/
theorem promise_congr {o : Objects} {cpu image : ℕ → Bytes.Image} {i : Call} {r : i.Reply}
    (hload : ∀ b size j, i = .load b size j → cpu (o.of b) = image (o.of b))
    (h : o.Promise hw cpu i r) : o.Promise hw image i r := by
  cases i with
  | load b size j =>
      have heq := hload b size j rfl
      simp only [Objects.Promise] at h ⊢
      rw [h, heq]
  | boFini c b => exact h
  | _ => trivial

theorem step_represents (h : s.Represents m) {i : Call} (hduty : (sequential hw).duty m i)
    {o : i.Reply × List BoEvent} (ho : (shared hw).promise s i o) :
    (sequential hw).promise m i o.1 ∧
      ((shared hw).step s i o).Represents ((sequential hw).step m i o.1) := by
  have hduty : i.Disciplined hw m.objects m.owner := hduty
  obtain ⟨hback, hlegal, hgranted, hpromise⟩ := ho
  obtain ⟨howner, hagrees⟩ := h.settled hback hlegal
  simp only [shared, sequential, h.objects] at hgranted hpromise ⊢
  refine ⟨promise_congr ?_ hpromise, rfl, ?_, ?_⟩
  · rintro b size j rfl
    have hcpu : m.owner (m.objects.of b) = .cpu := hduty.event rfl
    exact hagrees.cpu_eq (howner ▸ hcpu)
  · cases heffect : i.effect hw m.objects o.1 with
    | none => exact howner
    | some e =>
        show ((s.settled o.2).step e).owner = e.own m.owner
        rw [Coherence.Buffers.step_owner, howner]
  · cases heffect : i.effect hw m.objects o.1 with
    | none => exact hagrees
    | some e =>
        refine hagrees.step ?_ (hgranted e heffect)
        rw [howner]
        exact hduty.effect heffect

/-- **One copy is enough**: what a client ensures where every job is done when its
submit returns, it ensures whatever the NPU and the caches do in between. -/
theorem ensures_shared {α : Type} {p : Program α} {Q : α → Memory → Prop}
    (h : s.Represents m) (hp : p.Ensures (sequential hw) Q m) :
    p.Ensures (shared hw) (fun a s' => ∃ m', s'.Represents m' ∧ Q a m') s := by
  refine hp.simulate (R := Shared.Represents) ?_ ?_ h
  · intro s m i h hduty
    show i.Disciplined hw s.objects s.buffers.owner
    rw [h.objects, h.owner]
    exact hduty
  · intro s m i o h hduty ho
    obtain ⟨hpromise, hstep⟩ := step_represents h hduty ho
    exact ⟨o.1, hpromise, rfl, hstep⟩

end Refinement

end Librocket.Rocket.Device
