import Mathlib.Data.List.Basic

/-!
# Machines driven by operations

A deterministic machine whose operations may only be applied where they are
allowed. Runs are lists of operations; the two rules are the induction over a
run for what every allowed operation preserves, and for what none of the
operations of a run touches.
-/

/-- States, operations, where an operation may be applied and what it does. -/
structure Machine (σ ι : Type*) where
  allowed : σ → ι → Prop
  step : σ → ι → σ

namespace Machine

variable {σ ι : Type*} (M : Machine σ ι)

/-- The state after a run. -/
def run (s : σ) (ops : List ι) : σ := ops.foldl M.step s

/-- Every operation of the run is allowed where it is applied. -/
def Legal : σ → List ι → Prop
  | _, [] => True
  | s, op :: ops => M.allowed s op ∧ Legal (M.step s op) ops

@[simp] theorem run_nil (s : σ) : M.run s [] = s := rfl

@[simp] theorem run_cons (s : σ) (op : ι) (ops : List ι) :
    M.run s (op :: ops) = M.run (M.step s op) ops := rfl

theorem run_append (s : σ) (ops ops' : List ι) :
    M.run s (ops ++ ops') = M.run (M.run s ops) ops' :=
  List.foldl_append

variable {M}

theorem legal_append {s : σ} {ops ops' : List ι} :
    M.Legal s (ops ++ ops') ↔ M.Legal s ops ∧ M.Legal (M.run s ops) ops' := by
  induction ops generalizing s with
  | nil => exact (and_iff_right trivial).symm
  | cons op ops ih =>
    simp only [List.cons_append, Legal, run_cons, ih, and_assoc]

/-- **Invariant rule**, for runs all of whose operations are of one kind. -/
theorem invariant_run_of_kind {Inv : σ → Prop} {kind : ι → Prop} {s : σ}
    (hstep : ∀ s op, Inv s → M.allowed s op → kind op → Inv (M.step s op)) (hs : Inv s) :
    ∀ {ops : List ι}, M.Legal s ops → (∀ op ∈ ops, kind op) → Inv (M.run s ops) := by
  intro ops
  induction ops generalizing s with
  | nil => exact fun _ _ => hs
  | cons op ops ih =>
    rintro ⟨hop, hops⟩ hkind
    exact ih (hstep s op hs hop (hkind op List.mem_cons_self)) hops
      fun op' h => hkind op' (List.mem_cons_of_mem op h)

/-- **Invariant rule.** -/
theorem invariant_run {Inv : σ → Prop} {s : σ}
    (hstep : ∀ s op, Inv s → M.allowed s op → Inv (M.step s op)) (hs : Inv s) {ops : List ι}
    (hops : M.Legal s ops) : Inv (M.run s ops) :=
  invariant_run_of_kind (fun s op hInv hop (_ : True) => hstep s op hInv hop) hs hops
    fun _ _ => trivial

/-- **Frame rule**: what no operation of a kind changes, no run of them does. -/
theorem frame_run {β : Type*} (part : σ → β) {kind : ι → Prop}
    (hstep : ∀ s op, kind op → part (M.step s op) = part s) (s : σ) :
    ∀ {ops : List ι}, (∀ op ∈ ops, kind op) → part (M.run s ops) = part s := by
  intro ops
  induction ops generalizing s with
  | nil => exact fun _ => rfl
  | cons op ops ih =>
    intro hops
    rw [run_cons, ih _ fun op' h => hops op' (List.mem_cons_of_mem op h),
      hstep s op (hops op List.mem_cons_self)]

end Machine
