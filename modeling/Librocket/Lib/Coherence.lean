import Librocket.Lib.Machine
import Mathlib.Logic.Function.Basic

/-!
# Buffers shared with a device, without coherent caches

The CPU and a device each see a copy of every buffer. The CPU hands a buffer
over and takes it back; the device runs queued jobs, in any order that keeps
conflicting ones in turn, as far as it was told what they touch. In between lines
of the cache may be written back or fetched at any time.

The sequential reading has one copy and runs a job where it is submitted.
`Agrees.step` is the simulation: as long as the CPU touches what it owns only,
and jobs what the device owns and was told of, the copies cannot be told from it,
so what the CPU loads does not depend on the schedule.
-/

namespace Coherence

variable {ι κ : Type}

inductive Owner
  | cpu
  | device
deriving DecidableEq

/-! ## Jobs -/

/-- A job changes the buffers `writes` only, and what it makes of them depends on
these and on `reads` only. The device was told `ins` and `outs`. -/
structure Job (ι κ : Type) where
  ins : List ι
  outs : List ι
  reads : List ι
  writes : List ι
  effect : (ι → κ) → ι → κ
  frame : ∀ m b, b ∉ writes → effect m b = m b
  congr : ∀ {m m'}, (∀ b, b ∈ reads ∨ b ∈ writes → m b = m' b) →
    ∀ b ∈ writes, effect m b = effect m' b

def Job.Touches (j : Job ι κ) (b : ι) : Prop := b ∈ j.reads ∨ b ∈ j.writes

def Job.Told (j : Job ι κ) (b : ι) : Prop := b ∈ j.ins ∨ b ∈ j.outs

/-- The device was told of all it touches. -/
structure Job.Honest (j : Job ι κ) : Prop where
  reads : ∀ b ∈ j.reads, j.Told b
  writes : ∀ b ∈ j.writes, b ∈ j.outs

theorem Job.Honest.told {j : Job ι κ} (h : j.Honest) {b : ι} (hb : j.Touches b) : j.Told b := by
  rcases hb with hb | hb
  · exact h.reads b hb
  · exact Or.inr (h.writes b hb)

/-- As far as the device was told, neither writes what the other touches. -/
def Job.Independent (j j' : Job ι κ) : Prop :=
  (∀ b ∈ j.outs, ¬ j'.Told b) ∧ ∀ b ∈ j'.outs, ¬ j.Told b

/-- What a computation may see of the buffers: the others are blank. -/
def visible [DecidableEq ι] [Inhabited κ] (reads writes : List ι) (m : ι → κ) : ι → κ := fun b =>
  if b ∈ reads ∨ b ∈ writes then m b else default

/-- Any computation is a job once it sees no more than it may and the rest of
what it computes is dropped. -/
def Job.ofCompute [DecidableEq ι] [Inhabited κ] (ins outs reads writes : List ι)
    (compute : (ι → κ) → ι → κ) : Job ι κ where
  ins := ins
  outs := outs
  reads := reads
  writes := writes
  effect m b := if b ∈ writes then compute (visible reads writes m) b else m b
  frame _ _ hb := if_neg hb
  congr := by
    intro m m' h b hb
    have hseen : visible reads writes m = visible reads writes m' := by
      funext b'
      by_cases hb' : b' ∈ reads ∨ b' ∈ writes
      · simp only [visible, if_pos hb', h b' hb']
      · simp only [visible, if_neg hb']
    simp only [if_pos hb, hseen]

/-- Running jobs one after the other. -/
def effects (js : List (Job ι κ)) (m : ι → κ) : ι → κ := js.foldl (fun m j => j.effect m) m

@[simp] theorem effects_nil (m : ι → κ) : effects [] m = m := rfl

@[simp] theorem effects_cons (j : Job ι κ) (js : List (Job ι κ)) (m : ι → κ) :
    effects (j :: js) m = effects js (j.effect m) := rfl

theorem effects_append (js js' : List (Job ι κ)) (m : ι → κ) :
    effects (js ++ js') m = effects js' (effects js m) := List.foldl_append

/-- A buffer no job touches stays as it is. -/
theorem effects_frame {b : ι} {js : List (Job ι κ)} (h : ∀ j ∈ js, ¬ j.Touches b) (m : ι → κ) :
    effects js m b = m b := by
  induction js generalizing m with
  | nil => rfl
  | cons j js ih =>
      rw [effects_cons, ih (fun j' hj' => h j' (List.mem_cons_of_mem j hj')),
        j.frame m b fun hb => h j List.mem_cons_self (Or.inr hb)]

theorem Job.effect_congr {j : Job ι κ} {P : ι → Prop} {m m' : ι → κ}
    (hj : ∀ b, j.Touches b → P b) (h : ∀ b, P b → m b = m' b) {b : ι} (hb : P b) :
    j.effect m b = j.effect m' b := by
  by_cases hw : b ∈ j.writes
  · exact j.congr (fun b' hb' => h b' (hj b' hb')) b hw
  · rw [j.frame m b hw, j.frame m' b hw, h b hb]

/-- Jobs that keep to some buffers make the same of them wherever these agree. -/
theorem effects_congr {P : ι → Prop} {js : List (Job ι κ)} (hjs : ∀ j ∈ js, ∀ b, j.Touches b → P b)
    {m m' : ι → κ} (h : ∀ b, P b → m b = m' b) {b : ι} (hb : P b) :
    effects js m b = effects js m' b := by
  induction js generalizing m m' with
  | nil => exact h b hb
  | cons j js ih =>
      refine ih (fun j' hj' => hjs j' (List.mem_cons_of_mem j hj')) fun b' hb' => ?_
      exact Job.effect_congr (hjs j List.mem_cons_self) h hb'

/-- What one job writes the other does not see. -/
theorem Job.effect_comm_of_mem {j j' : Job ι κ} (h : j.Independent j') (hj : j.Honest)
    (hj' : j'.Honest) (m : ι → κ) {b : ι} (hb : b ∈ j.writes) :
    j.effect (j'.effect m) b = j'.effect (j.effect m) b := by
  have hother : b ∉ j'.writes := fun hb' => h.1 b (hj.writes b hb) (hj'.told (Or.inr hb'))
  rw [j'.frame (j.effect m) b hother]
  refine j.congr (fun b' hb' => j'.frame m b' ?_) b hb
  exact fun hw => h.2 b' (hj'.writes b' hw) (hj.told hb')

/-- **Independent jobs commute.** -/
theorem Job.effect_comm {j j' : Job ι κ} (h : j.Independent j') (hj : j.Honest)
    (hj' : j'.Honest) (m : ι → κ) : j.effect (j'.effect m) = j'.effect (j.effect m) := by
  funext b
  by_cases hb : b ∈ j.writes
  · exact effect_comm_of_mem h hj hj' m hb
  by_cases hb' : b ∈ j'.writes
  · exact (effect_comm_of_mem ⟨h.2, h.1⟩ hj' hj m hb').symm
  · rw [j.frame _ b hb, j'.frame _ b hb', j'.frame _ b hb', j.frame _ b hb]

/-- A job may run before jobs it is independent of. -/
theorem effects_comm {j : Job ι κ} {js : List (Job ι κ)} (h : ∀ j' ∈ js, j.Independent j')
    (hj : j.Honest) (hjs : ∀ j' ∈ js, j'.Honest) (m : ι → κ) :
    effects js (j.effect m) = j.effect (effects js m) := by
  induction js generalizing m with
  | nil => rfl
  | cons j' js ih =>
      rw [effects_cons, effects_cons,
        ← Job.effect_comm (h j' List.mem_cons_self) hj (hjs j' List.mem_cons_self),
        ih (fun j'' hj'' => h j'' (List.mem_cons_of_mem j' hj''))
          fun j'' hj'' => hjs j'' (List.mem_cons_of_mem j' hj'')]

/-! ## The two copies -/

structure Buffers (ι κ : Type) where
  cpu : ι → κ
  device : ι → κ
  owner : ι → Owner
  queue : List (Job ι κ)

/-- What the CPU does, and from `run` on what happens of itself. -/
inductive Event (ι κ : Type)
  | alloc (b : ι) (v : κ)
  | store (b : ι) (f : κ → κ)
  | load (b : ι)
  | handOver (b : ι)
  | takeBack (b : ι)
  | submit (j : Job ι κ)
  | run (i : ℕ)
  | writeBack (b : ι)
  | fetch (b : ι)

def Event.Background : Event ι κ → Prop
  | .run _ | .writeBack _ | .fetch _ => True
  | _ => False

/-- The CPU's part of the discipline: it touches what it owns, and a job what the
device owns and was told of. -/
def Event.Disciplined (owner : ι → Owner) : Event ι κ → Prop
  | .store b _ | .load b | .handOver b => owner b = .cpu
  | .takeBack b => owner b = .device
  | .submit j => j.Honest ∧ ∀ b, j.Touches b → owner b = .device
  | .alloc .. | .run _ | .writeBack _ | .fetch _ => True

/-- No job waiting is known to touch `b`. -/
def Buffers.Free (s : Buffers ι κ) (b : ι) : Prop := ∀ j ∈ s.queue, ¬ j.Told b

/-- The other part: a buffer is new, or taken back, once it is free, a job
overtakes only those it is independent of, and a line in the cache is written back
while the CPU owns the buffer and fetched while it does not. -/
def Buffers.Granted (s : Buffers ι κ) : Event ι κ → Prop
  | .alloc b _ | .takeBack b => s.Free b
  | .run i => ∃ j, s.queue[i]? = some j ∧ ∀ j' ∈ s.queue.take i, j.Independent j'
  | .writeBack b => s.owner b = .cpu
  | .fetch b => s.owner b = .device
  | .store .. | .load _ | .handOver _ | .submit _ => True

variable [DecidableEq ι]

/-- What an event does. Two things are assumed here: that a new buffer belongs to the
CPU, which finds in it what it was made with, and that a job keeps to its lists. -/
def Buffers.step (s : Buffers ι κ) : Event ι κ → Buffers ι κ
  | .alloc b v =>
      { s with cpu := Function.update s.cpu b v, owner := Function.update s.owner b .cpu }
  | .store b f => { s with cpu := Function.update s.cpu b (f (s.cpu b)) }
  | .load _ => s
  | .handOver b =>
      { s with
        device := Function.update s.device b (s.cpu b)
        owner := Function.update s.owner b .device }
  | .takeBack b =>
      { s with
        cpu := Function.update s.cpu b (s.device b)
        owner := Function.update s.owner b .cpu }
  | .submit j => { s with queue := s.queue ++ [j] }
  | .run i =>
      match s.queue[i]? with
      | some j => { s with device := j.effect s.device, queue := s.queue.eraseIdx i }
      | none => s
  | .writeBack b => { s with device := Function.update s.device b (s.cpu b) }
  | .fetch b => { s with cpu := Function.update s.cpu b (s.device b) }

def machine (ι κ : Type) [DecidableEq ι] : Machine (Buffers ι κ) (Event ι κ) where
  allowed s e := e.Disciplined s.owner ∧ s.Granted e
  step := Buffers.step

/-- What becomes of the owners. -/
def Event.own (owner : ι → Owner) : Event ι κ → ι → Owner
  | .alloc b _ | .takeBack b => Function.update owner b .cpu
  | .handOver b => Function.update owner b .device
  | _ => owner

theorem Buffers.step_owner (s : Buffers ι κ) (e : Event ι κ) :
    (s.step e).owner = e.own s.owner := by
  cases e with
  | run i =>
      simp only [Buffers.step, Event.own]
      split
      · rfl
      · rfl
  | _ => rfl

/-- A job waits since before, or was submitted just now. -/
theorem Buffers.mem_queue_step {s : Buffers ι κ} {e : Event ι κ} {j : Job ι κ}
    (hj : j ∈ (s.step e).queue) : j ∈ s.queue ∨ e = .submit j := by
  cases e with
  | submit j' =>
      rcases List.mem_append.mp hj with hj | hj
      · exact Or.inl hj
      · exact Or.inr (by rw [List.mem_singleton.mp hj])
  | run i =>
      simp only [Buffers.step] at hj
      split at hj
      · exact Or.inl (List.eraseIdx_subset hj)
      · exact Or.inl hj
  | _ => exact Or.inl hj

/-- Nothing is submitted in the background. -/
theorem mem_queue_background {s : Buffers ι κ} {es : List (Event ι κ)}
    (hes : ∀ e ∈ es, e.Background) {j : Job ι κ} (hj : j ∈ ((machine ι κ).run s es).queue) :
    j ∈ s.queue := by
  induction es generalizing s with
  | nil => exact hj
  | cons e es ih =>
      rcases Buffers.mem_queue_step (ih (fun e' he' => hes e' (List.mem_cons_of_mem e he')) hj) with
        hj | rfl
      · exact hj
      · exact (hes _ List.mem_cons_self).elim

theorem Event.own_background {owner : ι → Owner} {e : Event ι κ} (he : e.Background) :
    e.own owner = owner := by
  cases e with
  | run i => rfl
  | writeBack b => rfl
  | fetch b => rfl
  | _ => exact he.elim

/-! ## The sequential reading -/

/-- One copy, and a job runs where it is submitted. -/
def Event.sequential (v : ι → κ) : Event ι κ → ι → κ
  | .alloc b w => Function.update v b w
  | .store b f => Function.update v b (f (v b))
  | .submit j => j.effect v
  | _ => v

theorem Event.sequential_background {v : ι → κ} {e : Event ι κ} (he : e.Background) :
    e.sequential v = v := by
  cases e with
  | run i => rfl
  | writeBack b => rfl
  | fetch b => rfl
  | _ => exact he.elim

/-- **The invariant**: the owner's copy of a buffer is the one copy, the device's
once it has run what is waiting. -/
structure Buffers.Agrees (s : Buffers ι κ) (v : ι → κ) : Prop where
  cpu_eq : ∀ {b}, s.owner b = .cpu → s.cpu b = v b
  device_eq : ∀ {b}, s.owner b = .device → effects s.queue s.device b = v b
  handed : ∀ {j b}, j ∈ s.queue → j.Touches b → s.owner b = .device
  honest : ∀ j ∈ s.queue, j.Honest

namespace Buffers.Agrees

variable {s : Buffers ι κ} {v : ι → κ} {b : ι}

omit [DecidableEq ι] in
/-- No job touches a buffer of the CPU. -/
theorem untouched (h : s.Agrees v) (hb : s.owner b = .cpu) : ∀ j ∈ s.queue, ¬ j.Touches b := by
  intro j hj ht
  have hdevice := h.handed hj ht
  rw [hb] at hdevice
  cases hdevice

omit [DecidableEq ι] in
/-- Nor a free one. -/
theorem untouched_of_free (h : s.Agrees v) (hb : s.Free b) : ∀ j ∈ s.queue, ¬ j.Touches b :=
  fun j hj ht => hb j hj ((h.honest j hj).told ht)

/-- The device's copy of a free buffer matters to no other. -/
theorem effects_update (hb : ∀ j ∈ s.queue, ¬ j.Touches b) (x : κ) {b' : ι} (hne : b' ≠ b) :
    effects s.queue (Function.update s.device b x) b' = effects s.queue s.device b' := by
  refine effects_congr (P := (· ≠ b)) ?_ ?_ hne
  · rintro j hj _ ht rfl
    exact hb j hj ht
  · intro b'' hb''
    exact Function.update_of_ne hb'' _ _

theorem owner_update {o o' : Owner} {b' : ι} (hne : o ≠ o')
    (h : Function.update s.owner b o b' = o') : b' ≠ b ∧ s.owner b' = o' := by
  by_cases heq : b' = b
  · rw [heq, Function.update_self] at h
    exact absurd h hne
  · rw [Function.update_of_ne heq] at h
    exact ⟨heq, h⟩

theorem alloc (h : s.Agrees v) (hb : s.Free b) (w : κ) :
    (s.step (.alloc b w)).Agrees (Function.update v b w) where
  cpu_eq := by
    intro b' hb'
    by_cases heq : b' = b
    · subst heq
      simp [Buffers.step]
    · simp only [Buffers.step, Function.update_of_ne heq] at hb' ⊢
      exact h.cpu_eq hb'
  device_eq := by
    intro b' hb'
    obtain ⟨hne, hdevice⟩ := owner_update (by decide) hb'
    rw [Function.update_of_ne hne]
    exact h.device_eq hdevice
  handed := by
    intro j b' hj ht
    have hne : b' ≠ b := by
      rintro rfl
      exact h.untouched_of_free hb j hj ht
    simp only [Buffers.step, Function.update_of_ne hne]
    exact h.handed hj ht
  honest := h.honest

theorem store (h : s.Agrees v) (hb : s.owner b = .cpu) (f : κ → κ) :
    (s.step (.store b f)).Agrees (Function.update v b (f (v b))) where
  cpu_eq := by
    intro b' hb'
    by_cases heq : b' = b
    · subst heq
      simp [Buffers.step, h.cpu_eq hb]
    · simp only [Buffers.step, Function.update_of_ne heq]
      exact h.cpu_eq hb'
  device_eq := by
    intro b' hb'
    have hne : b' ≠ b := by
      rintro rfl
      simp [Buffers.step, hb] at hb'
    rw [Function.update_of_ne hne]
    exact h.device_eq hb'
  handed := h.handed
  honest := h.honest

theorem handOver (h : s.Agrees v) (hb : s.owner b = .cpu) : (s.step (.handOver b)).Agrees v where
  cpu_eq := by
    intro b' hb'
    obtain ⟨-, hcpu⟩ := owner_update (by decide) hb'
    exact h.cpu_eq hcpu
  device_eq := by
    intro b' hb'
    have hfree := h.untouched hb
    by_cases heq : b' = b
    · subst heq
      simp only [Buffers.step]
      rw [effects_frame hfree, Function.update_self]
      exact h.cpu_eq hb
    · simp only [Buffers.step, Function.update_of_ne heq] at hb' ⊢
      rw [effects_update hfree _ heq]
      exact h.device_eq hb'
  handed := by
    intro j b' hj ht
    have hne : b' ≠ b := by
      rintro rfl
      exact h.untouched hb j hj ht
    simp only [Buffers.step, Function.update_of_ne hne]
    exact h.handed hj ht
  honest := h.honest

theorem takeBack (h : s.Agrees v) (hb : s.owner b = .device) (hfree : s.Free b) :
    (s.step (.takeBack b)).Agrees v where
  cpu_eq := by
    intro b' hb'
    by_cases heq : b' = b
    · subst heq
      simp only [Buffers.step, Function.update_self]
      rw [← h.device_eq hb, effects_frame (h.untouched_of_free hfree)]
    · simp only [Buffers.step, Function.update_of_ne heq] at hb' ⊢
      exact h.cpu_eq hb'
  device_eq := by
    intro b' hb'
    obtain ⟨-, hdevice⟩ := owner_update (by decide) hb'
    exact h.device_eq hdevice
  handed := by
    intro j b' hj ht
    have hne : b' ≠ b := by
      rintro rfl
      exact h.untouched_of_free hfree j hj ht
    simp only [Buffers.step, Function.update_of_ne hne]
    exact h.handed hj ht
  honest := h.honest

theorem submit {j : Job ι κ} (h : s.Agrees v) (hhonest : j.Honest)
    (hj : ∀ b, j.Touches b → s.owner b = .device) :
    (s.step (.submit j)).Agrees (j.effect v) where
  cpu_eq := by
    intro b' hb'
    have hw : b' ∉ j.writes := by
      intro hw
      have hdevice := hj b' (Or.inr hw)
      rw [show s.owner b' = .cpu from hb'] at hdevice
      cases hdevice
    rw [j.frame v b' hw]
    exact h.cpu_eq hb'
  device_eq := by
    intro b' hb'
    simp only [Buffers.step, effects_append, effects_cons, effects_nil]
    exact Job.effect_congr (P := fun b => s.owner b = .device) hj (fun _ hb => h.device_eq hb) hb'
  handed := by
    intro j' b' hj' ht
    rcases List.mem_append.mp hj' with hj' | hj'
    · exact h.handed hj' ht
    · rw [List.mem_singleton] at hj'
      exact hj b' (hj' ▸ ht)
  honest := by
    intro j' hj'
    rcases List.mem_append.mp hj' with hj' | hj'
    · exact h.honest j' hj'
    · rw [List.mem_singleton] at hj'
      exact hj' ▸ hhonest

/-- A job that runs ahead of those it is independent of. -/
theorem run_job {i : ℕ} {j : Job ι κ} (h : s.Agrees v) (hi : s.queue[i]? = some j)
    (hahead : ∀ j' ∈ s.queue.take i, j.Independent j') : (s.step (.run i)).Agrees v := by
  obtain ⟨hlt, hget⟩ := List.getElem?_eq_some_iff.mp hi
  have hqueue : s.queue = s.queue.take i ++ j :: s.queue.drop (i + 1) := by
    rw [← hget, List.getElem_cons_drop, List.take_append_drop]
  have hrest : s.queue.eraseIdx i = s.queue.take i ++ s.queue.drop (i + 1) :=
    List.eraseIdx_eq_take_drop_succ s.queue i
  have heffects : effects (s.queue.eraseIdx i) (j.effect s.device) = effects s.queue s.device := by
    rw [hrest, effects_append, effects_comm hahead (h.honest j (List.mem_of_getElem? hi))
      fun j' hj' => h.honest j' (List.mem_of_mem_take hj')]
    conv_rhs => rw [hqueue, effects_append, effects_cons]
  simp only [Buffers.step, hi]
  constructor
  · intro b hb
    exact h.cpu_eq hb
  · intro b hb
    simp only
    rw [heffects]
    exact h.device_eq hb
  · intro j' b hj' ht
    exact h.handed (List.mem_of_mem_eraseIdx hj') ht
  · intro j' hj'
    exact h.honest j' (List.mem_of_mem_eraseIdx hj')

theorem writeBack (h : s.Agrees v) (hb : s.owner b = .cpu) : (s.step (.writeBack b)).Agrees v where
  cpu_eq := h.cpu_eq
  device_eq := by
    intro b' hb'
    have hne : b' ≠ b := by
      rintro rfl
      simp [Buffers.step, hb] at hb'
    simp only [Buffers.step]
    rw [effects_update (h.untouched hb) _ hne]
    exact h.device_eq hb'
  handed := h.handed
  honest := h.honest

theorem fetch (h : s.Agrees v) (hb : s.owner b = .device) : (s.step (.fetch b)).Agrees v where
  cpu_eq := by
    intro b' hb'
    have hne : b' ≠ b := by
      rintro rfl
      simp [Buffers.step, hb] at hb'
    simp only [Buffers.step, Function.update_of_ne hne]
    exact h.cpu_eq hb'
  device_eq := h.device_eq
  handed := h.handed
  honest := h.honest

/-- **Simulation.** -/
theorem step {e : Event ι κ} (h : s.Agrees v) (he : e.Disciplined s.owner) (hs : s.Granted e) :
    (s.step e).Agrees (e.sequential v) := by
  cases e with
  | alloc b w => exact h.alloc hs w
  | store b f => exact h.store he f
  | load b => exact h
  | handOver b => exact h.handOver he
  | takeBack b => exact h.takeBack he hs
  | submit j => exact h.submit he.1 he.2
  | run i =>
      obtain ⟨j, hi, hahead⟩ := hs
      exact h.run_job hi hahead
  | writeBack b => exact h.writeBack hs
  | fetch b => exact h.fetch hs

/-- **Whatever the schedule**: what happens of itself is not seen. -/
theorem background {es : List (Event ι κ)} (h : s.Agrees v) (hes : (machine ι κ).Legal s es)
    (hback : ∀ e ∈ es, e.Background) : ((machine ι κ).run s es).Agrees v := by
  induction es generalizing s with
  | nil => exact h
  | cons e es ih =>
      have hstep : (s.step e).Agrees v := by
        have := h.step hes.1.1 hes.1.2
        rwa [Event.sequential_background (hback e List.mem_cons_self)] at this
      exact ih hstep hes.2 fun e' he' => hback e' (List.mem_cons_of_mem e he')

end Buffers.Agrees

/-- Nor do the owners change. -/
theorem owner_background {s : Buffers ι κ} {es : List (Event ι κ)}
    (hback : ∀ e ∈ es, e.Background) : ((machine ι κ).run s es).owner = s.owner := by
  have hstep : ∀ (s : Buffers ι κ) (e : Event ι κ), e.Background →
      ((machine ι κ).step s e).owner = s.owner :=
    fun s e he => (s.step_owner e).trans (Event.own_background he)
  exact Machine.frame_run Buffers.owner hstep s hback

end Coherence
