import Librocket.Rocket.Shared

/-!
# Programs on one copy

The rules of the calls on `sequential`: what a call asks of the owners, and the
memory it leaves when it succeeds and when it does not. A program's images are
then computed as the program computes them, and `ensures_device` takes what it
ensures there, and what it ensures of `api`, to the device.
-/

namespace Librocket.Rocket.Device

open Coherence (Owner)

namespace Memory

/-! ## What calls leave -/

/-- A call that failed. -/
def fail (m : Memory) : Memory := { m with objects := { m.objects with failed := true } }

def create (m : Memory) (hw : Hardware) (b : ℕ) (bo : RocketBo) : Memory where
  objects := m.objects.create b bo
  owner := Function.update m.owner m.objects.next .cpu
  image := Function.update m.image m.objects.next (hw.fresh m.objects.next)

/-- A store, or a `memset`. -/
def write (m : Memory) (b : ℕ) (f : Bytes.Image → Bytes.Image) : Memory :=
  { m with image := Function.update m.image (m.objects.of b) (f (m.image (m.objects.of b))) }

def own (m : Memory) (b : ℕ) (owner : Owner) : Memory :=
  { m with owner := Function.update m.owner (m.objects.of b) owner }

def submit (m : Memory) (hw : Hardware) (regcmd : ℕ) (count : U32) (ins outs : List ℕ) : Memory :=
  { m with image := (m.objects.job hw regcmd count ins outs).effect m.image }

end Memory

section Rules

variable {hw : Hardware} {m : Memory} {c b : ℕ}

theorem step_of_failed {i : Call} {r : i.Reply} (h : i.failed r = true) :
    (sequential hw).step m i r = m.fail := by
  simp [sequential, Objects.after, Call.effect, h, Memory.fail]

/-- The rule for a call that returns a code. -/
theorem ensures_code {i : Call} {Q : i.Reply → Memory → Prop}
    (hduty : (sequential hw).duty m i)
    (hfailed : ∀ r, i.failed r = true → m.objects.Promise hw m.image i r → Q r m.fail)
    (hok : ∀ r, i.failed r = false → Q r ((sequential hw).step m i r)) :
    (Program.call i).Ensures (sequential hw) Q m := by
  refine ⟨hduty, fun r hr => ?_⟩
  show Q r ((sequential hw).step m i r)
  cases h : i.failed r with
  | true =>
      rw [step_of_failed h]
      exact hfailed r h hr
  | false => exact hok r h

theorem sequential_open {Q : ℤ → Memory → Prop} (hfailed : ∀ ret, ret < 0 → Q ret m.fail)
    (hok : ∀ ret, ¬ ret < 0 → Q ret m) :
    (Program.rocketOpen c).Ensures (sequential hw) Q m := by
  refine ensures_code (i := .rocketOpen c) ?_ ?_ ?_
  · rintro _ ⟨⟩
  · intro (ret : ℤ) hret _
    exact hfailed ret (of_decide_eq_true hret)
  · intro (ret : ℤ) hret
    have hstep : (sequential hw).step m (.rocketOpen c) ret = m := by
      simp [sequential, Objects.after, Call.effect, hret, Call.event]
    rw [hstep]
    exact hok ret (of_decide_eq_false hret)

theorem sequential_create {size : U64} {Q : ℤ × RocketBo → Memory → Prop}
    (hfailed : ∀ ret bo, ret < 0 → Q (ret, bo) m.fail)
    (hok : ∀ ret bo, ¬ ret < 0 → Q (ret, bo) (m.create hw b bo)) :
    (Program.boCreate c b size).Ensures (sequential hw) Q m := by
  refine ensures_code (i := .boCreate c b size) ?_ ?_ ?_
  · rintro _ ⟨⟩
    trivial
  · rintro ⟨ret, bo⟩ hret _
    exact hfailed ret bo (of_decide_eq_true hret)
  · rintro ⟨ret, bo⟩ hret
    have hstep : (sequential hw).step m (.boCreate c b size) (ret, bo) = m.create hw b bo := by
      simp [sequential, Objects.after, Call.effect, hret, Call.event, Memory.create,
        Coherence.Event.own, Coherence.Event.sequential]
    rw [hstep]
    exact hok ret bo (of_decide_eq_false hret)

theorem sequential_fini {Q : ℤ → Memory → Prop} (howner : m.owner (m.objects.of b) = .cpu)
    (hfailed : hw.finiFails → ∀ ret, ret < 0 → Q ret m.fail)
    (hok : ∀ ret, ¬ ret < 0 → Q ret (m.own b .device)) :
    (Program.boFini c b).Ensures (sequential hw) Q m := by
  refine ensures_code (i := .boFini c b) ?_ ?_ ?_
  · rintro _ ⟨⟩
    exact howner
  · intro (ret : ℤ) hret hpromise
    have hneg : ret < 0 := of_decide_eq_true hret
    have hfails : hw.finiFails := by
      by_contra hnot
      exact hpromise hnot hneg
    exact hfailed hfails ret hneg
  · intro (ret : ℤ) hret
    have hstep : (sequential hw).step m (.boFini c b) ret = m.own b .device := by
      simp [sequential, Objects.after, Call.effect, hret, Call.event, Memory.own,
        Coherence.Event.own, Coherence.Event.sequential]
    rw [hstep]
    exact hok ret (of_decide_eq_false hret)

theorem sequential_prep {timeoutNs : BitVec 64} {Q : ℤ → Memory → Prop}
    (howner : m.owner (m.objects.of b) = .device) (hfailed : ∀ ret, ret < 0 → Q ret m.fail)
    (hok : ∀ ret, ¬ ret < 0 → Q ret (m.own b .cpu)) :
    (Program.boPrep c b timeoutNs).Ensures (sequential hw) Q m := by
  refine ensures_code (i := .boPrep c b timeoutNs) ?_ ?_ ?_
  · rintro _ ⟨⟩
    exact howner
  · intro (ret : ℤ) hret _
    exact hfailed ret (of_decide_eq_true hret)
  · intro (ret : ℤ) hret
    have hstep : (sequential hw).step m (.boPrep c b timeoutNs) ret = m.own b .cpu := by
      simp [sequential, Objects.after, Call.effect, hret, Call.event, Memory.own,
        Coherence.Event.own, Coherence.Event.sequential]
    rw [hstep]
    exact hok ret (of_decide_eq_false hret)

theorem sequential_submit {regcmd : ℕ} {count : U32} {ins outs : List ℕ} {Q : ℤ → Memory → Prop}
    (hhonest : (m.objects.job hw regcmd count ins outs).Honest)
    (howner : ∀ b, (m.objects.job hw regcmd count ins outs).Touches b → m.owner b = .device)
    (hfailed : ∀ ret, ret < 0 → Q ret m.fail)
    (hok : ∀ ret, ¬ ret < 0 → Q ret (m.submit hw regcmd count ins outs)) :
    (Program.submit c regcmd count ins outs).Ensures (sequential hw) Q m := by
  refine ensures_code (i := .submit c regcmd count ins outs) ?_ ?_ ?_
  · rintro _ ⟨⟩
    exact ⟨hhonest, howner⟩
  · intro (ret : ℤ) hret _
    exact hfailed ret (of_decide_eq_true hret)
  · intro (ret : ℤ) hret
    have hstep : (sequential hw).step m (.submit c regcmd count ins outs) ret =
        m.submit hw regcmd count ins outs := by
      simp [sequential, Objects.after, Call.effect, hret, Call.event, Memory.submit,
        Coherence.Event.own, Coherence.Event.sequential]
    rw [hstep]
    exact hok ret (of_decide_eq_false hret)

theorem sequential_store {size : ℕ} {i : ℤ} {v : U64} {Q : Unit → Memory → Prop}
    (howner : m.owner (m.objects.of b) = .cpu)
    (hQ : Q () (m.write b (Bytes.store size i.toNat v))) :
    (Program.store b size i v).Ensures (sequential hw) Q m := by
  refine ⟨?_, fun _ _ => hQ⟩
  rintro _ ⟨⟩
  exact howner

theorem sequential_clear {size count : ℕ} {Q : Unit → Memory → Prop}
    (howner : m.owner (m.objects.of b) = .cpu)
    (hQ : Q () (m.write b (Bytes.clear (count * size)))) :
    (Program.clear b size count).Ensures (sequential hw) Q m := by
  refine ⟨?_, fun _ _ => hQ⟩
  rintro _ ⟨⟩
  exact howner

theorem sequential_load {size : ℕ} {i : ℤ} {Q : U64 → Memory → Prop}
    (howner : m.owner (m.objects.of b) = .cpu)
    (hQ : Q (Bytes.load size i.toNat (m.image (m.objects.of b))) m) :
    (Program.load b size i).Ensures (sequential hw) Q m := by
  refine ⟨?_, ?_⟩
  · rintro _ ⟨⟩
    exact howner
  · rintro v rfl
    exact hQ

/-- A call that has no part in it. -/
theorem sequential_quiet {i : Call} {Q : i.Reply → Memory → Prop}
    (hduty : (sequential hw).duty m i) (hstep : ∀ r, (sequential hw).step m i r = m)
    (hQ : ∀ r, Q r m) : (Program.call i).Ensures (sequential hw) Q m := by
  refine ⟨hduty, fun r _ => ?_⟩
  show Q r ((sequential hw).step m i r)
  rw [hstep]
  exact hQ r

theorem sequential_print {stream : Stream} {format : String} {args : List Arg}
    {Q : Unit → Memory → Prop} (hQ : Q () m) :
    (Program.print stream format args).Ensures (sequential hw) Q m :=
  sequential_quiet nofun (fun _ => rfl) fun _ => hQ

theorem sequential_destroy {Q : Unit → Memory → Prop} (hQ : Q () m) :
    (Program.boDestroy c b).Ensures (sequential hw) Q m :=
  sequential_quiet nofun (fun _ => rfl) fun _ => hQ

theorem sequential_close {Q : Unit → Memory → Prop} (hQ : Q () m) :
    (Program.rocketClose c).Ensures (sequential hw) Q m :=
  sequential_quiet nofun (fun _ => rfl) fun _ => hQ

theorem sequential_map {Q : Addr → Memory → Prop} (hQ : ∀ addr, Q addr m) :
    (Program.boMap c b).Ensures (sequential hw) Q m :=
  sequential_quiet nofun (fun _ => rfl) hQ

end Rules

/-! ## From the start -/

/-- Nothing has happened, and the CPU owns whatever will be created. -/
def Shared.initial (of : ℕ → ℕ) (dma : ℕ → U64) (cpu device : ℕ → Bytes.Image) : Shared where
  objects := { of := of, dma := dma, next := 0, failed := false }
  buffers := { cpu := cpu, device := device, owner := fun _ => .cpu, queue := [] }

def Memory.initial (of : ℕ → ℕ) (dma : ℕ → U64) (image : ℕ → Bytes.Image) : Memory where
  objects := { of := of, dma := dma, next := 0, failed := false }
  owner := fun _ => .cpu
  image := image

theorem initial_represents (of : ℕ → ℕ) (dma : ℕ → U64) (cpu device : ℕ → Bytes.Image) :
    (Shared.initial of dma cpu device).Represents (.initial of dma cpu) where
  objects := rfl
  owner := rfl
  agrees :=
    { cpu_eq := fun _ => rfl
      device_eq := by rintro _ ⟨⟩
      handed := fun hj => nomatch hj
      honest := fun _ hj => nomatch hj }

/-- Wherever a program starts, it keeps to the ownership of its buffers. -/
def Program.Disciplined (hw : Hardware) (p : Program ℤ) : Prop := ∀ of dma image,
  p.Ensures (sequential hw) (fun _ _ => True) (.initial of dma image)

/-- Every run on two copies, whatever its schedule, is with the same replies a run on
one. -/
def Program.OneCopy (hw : Hardware) (p : Program ℤ) : Prop := ∀ of dma cpu dev calls ret s',
  Client.Runs (shared hw) p (Shared.initial of dma cpu dev) calls ret s' →
    ∃ m, Client.Runs (sequential hw) p (Memory.initial of dma cpu)
      (calls.map fun call => ⟨call.1, call.2.1⟩) ret m ∧ s'.Represents m

/-- **Schedules cannot be told apart** by a client that keeps to the ownership of its
buffers, however it mixes its calls. -/
theorem schedules_agree {hw : Hardware} {p : Program ℤ} (h : p.Disciplined hw) :
    p.OneCopy hw := by
  intro of dma cpu dev calls ret s' hrun
  refine hrun.simulate (R := Shared.Represents) (fun i o => o.1) ?_
    (initial_represents of dma cpu dev) (h of dma cpu)
  intro s m i o hrepr hduty ho
  obtain ⟨hpromise, hstep⟩ := step_represents hrepr hduty ho
  exact ⟨hpromise, rfl, hstep⟩

/-- Writes a word, has a job at the bo it stands in, and reads what came of it. -/
def echo : Program ℤ := do
  let (ret, _) ← Program.boCreate 0 0 4096
  if ret < 0 then
    return ret
  Program.store 0 8 0 42
  let ret ← Program.boFini 0 0
  if ret < 0 then
    return ret
  let ret ← Program.submit 0 0 1 [] [0]
  if ret < 0 then
    return ret
  let ret ← Program.boPrep 0 0 0
  if ret < 0 then
    return ret
  let v ← Program.load 0 8 0
  return v.toInt

theorem echo_disciplined (hw : Hardware) : echo.Disciplined hw := by
  intro of dma image
  refine Client.ensures_bind.mpr (sequential_create ?_ ?_)
  · intro ret bo hret
    simp only [if_pos hret]
    trivial
  intro ret bo hret
  simp only [if_neg hret]
  generalize hm : (Memory.initial of dma image).create hw 0 bo = m
  have hcpu : m.owner (m.objects.of 0) = .cpu := by
    simp [← hm, Memory.create, Objects.create]
  have hdevice : (m.own 0 .device).owner (m.objects.of 0) = .device := by
    simp [Memory.own]
  refine Client.ensures_bind.mpr (sequential_store hcpu ?_)
  refine Client.ensures_bind.mpr (sequential_fini hcpu ?_ ?_)
  · intro _ ret hret
    rw [if_pos hret]
    trivial
  intro ret hret
  rw [if_neg hret]
  refine Client.ensures_bind.mpr (sequential_submit ?_ ?_ ?_ ?_)
  · constructor
    · intro b hb
      exact Or.inr hb
    · intro b hb
      exact hb
  · rintro b (hb | hb)
    · rw [List.mem_singleton.mp hb]
      exact hdevice
    · rw [List.mem_singleton.mp hb]
      exact hdevice
  · intro ret hret
    rw [if_pos hret]
    trivial
  intro ret hret
  rw [if_neg hret]
  refine Client.ensures_bind.mpr (sequential_prep hdevice ?_ ?_)
  · intro ret hret
    rw [if_pos hret]
    trivial
  intro ret hret
  rw [if_neg hret]
  refine Client.ensures_bind.mpr (sequential_load ?_ trivial)
  simp [Memory.own, Memory.submit]

/-- The job adds a word of its own, and `FINI_BO` may fail. -/
theorem schedules_agree_echo : echo.OneCopy
    { run := fun _ _ _ images b => Bytes.store 8 0 43 (images b)
      fresh := fun _ => default
      finiFails := True } :=
  schedules_agree (echo_disciplined _)

/-- Over the device no path of the program breaks a duty, and a run to the end
returns zero exactly if no call failed and `P` holds of the objects it made. -/
def Program.Decides (hw : Hardware) (p : Program ℤ) (P : Objects → Prop) : Prop :=
  ∀ ctx bo of dma cpu dev,
    p.Ensures (device hw) (fun _ _ => True)
        (System.initial ctx bo, Shared.initial of dma cpu dev) ∧
      ∀ calls ret s', Client.Runs (device hw) p
        (System.initial ctx bo, Shared.initial of dma cpu dev) calls ret s' →
        (ret = 0 ↔ s'.2.objects.failed = false ∧ P s'.2.objects)

/-- What the program keeps to on its tables, and what it ensures on one copy, are
enough. -/
theorem Program.Decides.of_ensures {hw : Hardware} {p : Program ℤ} {P : Objects → Prop}
    (hapi : ∀ s : System, s.Released → p.Ensures api (fun _ _ => True) s)
    (hmemory : ∀ of dma image, p.Ensures (sequential hw)
      (fun ret m => ret = 0 ↔ m.objects.failed = false ∧ P m.objects)
      (.initial of dma image)) : p.Decides hw P := by
  intro ctx bo of dma cpu dev
  have hshared := ensures_shared (initial_represents of dma cpu dev) (hmemory of dma cpu)
  have hdevice := (hapi _ (.initial ctx bo)).prod hshared
  refine ⟨hdevice.mono fun _ _ _ => trivial, ?_⟩
  intro calls ret s' hrun
  obtain ⟨-, -, -, m, hm, hverdict⟩ := hrun.legal hdevice
  rw [hm.objects]
  exact hverdict

end Librocket.Rocket.Device
