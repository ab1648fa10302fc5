import Librocket.Lib.Machine
import Mathlib.Control.Basic

/-!
# Clients of a service

A service answers calls. Each call moves its state and returns a reply, and
where the service is free to choose, the choice is part of the step. A call puts
a duty on the client that makes it, and the service makes promises about its
choices in return.

A client is a program that ends or makes a call and goes on with the reply.
`Ensures` is its weakest precondition: every duty is met, and the postcondition
holds at the end, whatever the service chooses within its promises. `Runs.legal`
brings that down to runs: a run of the client is a legal run of the machine
whose operations are the calls with their choices. `Ensures.simulate` and
`Ensures.prod` bring it from one service to another, and from two to both.
`Allows` is the other half: the service may choose so that the postcondition
holds. `Meets` is the same for a call on the way, made before the first duty broken.
-/

/-- A program over calls `ι` with replies `ρ`. -/
inductive Client (ι : Type) (ρ : ι → Type) (α : Type)
  | done (a : α)
  | call (i : ι) (next : ρ i → Client ι ρ α)

/-- What a call asks of its client, what the service may choose then, and what
the call does. -/
structure Service (σ ι : Type) (ω ρ : ι → Type) where
  duty : σ → ι → Prop
  promise : σ → (i : ι) → ω i → Prop
  step : σ → (i : ι) → ω i → σ
  reply : σ → (i : ι) → ω i → ρ i

/-- The machine whose operations are calls with their choices. -/
def Service.machine {σ ι : Type} {ω ρ : ι → Type} (S : Service σ ι ω ρ) :
    Machine σ (Σ i, ω i) where
  allowed s op := S.duty s op.1 ∧ S.promise s op.1 op.2
  step s op := S.step s op.1 op.2

/-- Two services that answer the same calls, with one answer. -/
def Service.prod {σ τ ι : Type} {ω ω' ρ : ι → Type} (S : Service σ ι ω ρ)
    (T : Service τ ι ω' ρ) : Service (σ × τ) ι (fun i => ω i × ω' i) ρ where
  duty s i := S.duty s.1 i ∧ T.duty s.2 i
  promise s i o := S.promise s.1 i o.1 ∧ T.promise s.2 i o.2 ∧
    S.reply s.1 i o.1 = T.reply s.2 i o.2
  step s i o := (S.step s.1 i o.1, T.step s.2 i o.2)
  reply s i o := S.reply s.1 i o.1

namespace Client

variable {σ ι : Type} {ω ρ : ι → Type} {α β γ : Type}

def bind : Client ι ρ α → (α → Client ι ρ β) → Client ι ρ β
  | .done a, f => f a
  | .call i next, f => .call i fun r => (next r).bind f

instance : Monad (Client ι ρ) where
  pure := .done
  bind := .bind

/-- One call. -/
def request (i : ι) : Client ι ρ (ρ i) := .call i .done

@[simp] theorem pure_eq (a : α) : (pure a : Client ι ρ α) = .done a := rfl

@[simp] theorem done_bind (a : α) (f : α → Client ι ρ β) : (Client.done a >>= f) = f a := rfl

@[simp] theorem call_bind (i : ι) (next : ρ i → Client ι ρ α) (f : α → Client ι ρ β) :
    (Client.call i next >>= f) = .call i fun r => next r >>= f := rfl

theorem bind_done (c : Client ι ρ α) : c.bind .done = c := by
  induction c with
  | done a => rfl
  | call i next ih => exact congrArg (Client.call i) (funext ih)

theorem bind_assoc (c : Client ι ρ α) (f : α → Client ι ρ β) (g : β → Client ι ρ γ) :
    (c.bind f).bind g = c.bind fun a => (f a).bind g := by
  induction c with
  | done a => rfl
  | call i next ih => exact congrArg (Client.call i) (funext ih)

instance : LawfulMonad (Client ι ρ) :=
  LawfulMonad.mk' _ bind_done (fun _ _ => rfl) bind_assoc

/-! ## Runs -/

/-- The run that makes the calls `calls` and ends with `a` in `s'`, the service
keeping its promises throughout. -/
inductive Runs (S : Service σ ι ω ρ) :
    Client ι ρ α → σ → List (Σ i, ω i) → α → σ → Prop
  | done {a s} : Runs S (.done a) s [] a s
  | call {i next s o calls a s'} (ho : S.promise s i o)
      (hrun : Runs S (next (S.reply s i o)) (S.step s i o) calls a s') :
      Runs S (.call i next) s (⟨i, o⟩ :: calls) a s'

/-! ## The weakest precondition -/

/-- Every duty is met and `Q` holds at the end, for every choice within the
promises. -/
def Ensures (S : Service σ ι ω ρ) : Client ι ρ α → (α → σ → Prop) → σ → Prop
  | .done a, Q, s => Q a s
  | .call i next, Q, s => S.duty s i ∧
      ∀ o, S.promise s i o → (next (S.reply s i o)).Ensures S Q (S.step s i o)

variable {S : Service σ ι ω ρ} {Q Q' : α → σ → Prop} {s : σ}

@[simp] theorem ensures_done (a : α) : (Client.done a : Client ι ρ α).Ensures S Q s ↔ Q a s :=
  Iff.rfl

theorem ensures_call (i : ι) (next : ρ i → Client ι ρ α) :
    (Client.call i next).Ensures S Q s ↔ S.duty s i ∧
      ∀ o, S.promise s i o → (next (S.reply s i o)).Ensures S Q (S.step s i o) := Iff.rfl

/-- **Sequencing.** -/
theorem ensures_bind {c : Client ι ρ α} {f : α → Client ι ρ β} {Q : β → σ → Prop} :
    (c >>= f).Ensures S Q s ↔ c.Ensures S (fun a s' => (f a).Ensures S Q s') s := by
  induction c generalizing s with
  | done a => rfl
  | call i next ih =>
      rw [call_bind, ensures_call, ensures_call]
      exact and_congr_right fun _ => forall₂_congr fun _ _ => ih _

/-- **Consequence.** -/
theorem Ensures.mono {c : Client ι ρ α} (h : c.Ensures S Q s) (hQ : ∀ a s', Q a s' → Q' a s') :
    c.Ensures S Q' s := by
  induction c generalizing s with
  | done a => exact hQ _ _ h
  | call i next ih => exact ⟨h.1, fun o ho => ih _ (h.2 o ho)⟩

/-- Sequencing through an intermediate condition. -/
theorem Ensures.bind {c : Client ι ρ α} {f : α → Client ι ρ β} {Q' : β → σ → Prop}
    (h : c.Ensures S Q s) (hf : ∀ a s', Q a s' → (f a).Ensures S Q' s') :
    (c >>= f).Ensures S Q' s :=
  ensures_bind.mpr (h.mono hf)

/-- **Loops**: an invariant of the count. -/
theorem Ensures.foldlM_range {f : β → ℕ → Client ι ρ β} {I : ℕ → β → σ → Prop} {n : ℕ}
    (hbody : ∀ k < n, ∀ b s, I k b s → (f b k).Ensures S (I (k + 1)) s) {b : β}
    (h : I 0 b s) : ((List.range n).foldlM f b).Ensures S (I n) s := by
  induction n with
  | zero => exact h
  | succ n ih =>
      rw [List.range_succ, List.foldlM_append]
      refine (ih fun k hk => hbody k (Nat.lt_succ_of_lt hk)).bind fun b' s' hI => ?_
      simp only [List.foldlM_cons, List.foldlM_nil, bind_pure]
      exact hbody n (Nat.lt_succ_self n) b' s' hI

theorem forM_eq_foldlM (f : γ → Client ι ρ PUnit) (xs : List γ) :
    xs.forM f = xs.foldlM (fun _ x => f x) ⟨⟩ := by
  induction xs with
  | nil => rfl
  | cons x xs ih => exact congrArg (f x >>= ·) (funext fun _ => ih)

theorem Ensures.forM_range {f : ℕ → Client ι ρ PUnit} {I : ℕ → σ → Prop} {n : ℕ}
    (hbody : ∀ k < n, ∀ s, I k s → (f k).Ensures S (fun _ => I (k + 1)) s) (h : I 0 s) :
    ((List.range n).forM f).Ensures S (fun _ => I n) s := by
  rw [forM_eq_foldlM]
  exact Ensures.foldlM_range (fun k hk _ s => hbody k hk s) h

/-- Loops over a list that keep a condition. -/
theorem Ensures.forM {f : γ → Client ι ρ PUnit} {I : σ → Prop} {xs : List γ}
    (hbody : ∀ x ∈ xs, ∀ s, I s → (f x).Ensures S (fun _ => I) s) (h : I s) :
    (xs.forM f).Ensures S (fun _ => I) s := by
  induction xs generalizing s with
  | nil => exact h
  | cons x xs ih =>
      refine (hbody x List.mem_cons_self s h).bind fun _ s' h' => ?_
      exact ih (fun y hy => hbody y (List.mem_cons_of_mem x hy)) h'

/-! ## From preconditions to runs -/

/-- **Adequacy**: a run of a client that ensures `Q` is legal, and ends in `Q`. -/
theorem Runs.legal {c : Client ι ρ α} {calls : List (Σ i, ω i)} {a : α} {s' : σ}
    (hrun : Runs S c s calls a s') (h : c.Ensures S Q s) :
    S.machine.Legal s calls ∧ S.machine.run s calls = s' ∧ Q a s' := by
  induction hrun with
  | done => exact ⟨trivial, rfl, h⟩
  | call ho _ ih =>
      obtain ⟨hlegal, hend, hQ⟩ := ih (h.2 _ ho)
      exact ⟨⟨⟨h.1, ho⟩, hlegal⟩, hend, hQ⟩

/-- Along one answer a client may be refuted. -/
theorem not_ensures_call {i : ι} {f : ρ i → Client ι ρ α} (o : ω i) (ho : S.promise s i o)
    (hf : ¬ (f (S.reply s i o)).Ensures S Q (S.step s i o)) :
    ¬ (request i >>= f).Ensures S Q s := fun h => hf (h.2 o ho)

/-- What every step keeps a client has at the end. -/
theorem Ensures.keep {I : σ → Prop} (hstep : ∀ s i o, I s → S.promise s i o → I (S.step s i o))
    {c : Client ι ρ α} (h : c.Ensures S Q s) (hI : I s) :
    c.Ensures S (fun a s' => Q a s' ∧ I s') s := by
  induction c generalizing s with
  | done a => exact ⟨h, hI⟩
  | call i next ih => exact ⟨h.1, fun o ho => ih _ (h.2 o ho) (hstep s i o hI ho)⟩

/-! ## What may happen -/

/-- The service may choose so that `Q` holds at the end. -/
def Allows (S : Service σ ι ω ρ) : Client ι ρ α → (α → σ → Prop) → σ → Prop
  | .done a, Q, s => Q a s
  | .call i next, Q, s => ∃ o, S.promise s i o ∧
      (next (S.reply s i o)).Allows S Q (S.step s i o)

theorem allows_bind {c : Client ι ρ α} {f : α → Client ι ρ β} {Q : β → σ → Prop} :
    (c >>= f).Allows S Q s ↔ c.Allows S (fun a s' => (f a).Allows S Q s') s := by
  induction c generalizing s with
  | done a => rfl
  | call i next ih => exact exists_congr fun _ => and_congr_right fun _ => ih _

theorem Allows.mono {c : Client ι ρ α} (h : c.Allows S Q s) (hQ : ∀ a s', Q a s' → Q' a s') :
    c.Allows S Q' s := by
  induction c generalizing s with
  | done a => exact hQ _ _ h
  | call i next ih =>
      obtain ⟨o, ho, hnext⟩ := h
      exact ⟨o, ho, ih _ hnext⟩

theorem Allows.bind {c : Client ι ρ α} {f : α → Client ι ρ β} {Q' : β → σ → Prop}
    (h : c.Allows S Q s) (hf : ∀ a s', Q a s' → (f a).Allows S Q' s') :
    (c >>= f).Allows S Q' s :=
  allows_bind.mpr (h.mono hf)

theorem Allows.forM {f : γ → Client ι ρ PUnit} {I : σ → Prop} {xs : List γ}
    (hbody : ∀ x ∈ xs, ∀ s, I s → (f x).Allows S (fun _ => I) s) (h : I s) :
    (xs.forM f).Allows S (fun _ => I) s := by
  induction xs generalizing s with
  | nil => exact h
  | cons x xs ih =>
      refine (hbody x List.mem_cons_self s h).bind fun _ s' h' => ?_
      exact ih (fun y hy => hbody y (List.mem_cons_of_mem x hy)) h'

/-- What may happen does so in some run. -/
theorem Allows.exists_run {c : Client ι ρ α} (h : c.Allows S Q s) :
    ∃ calls a s', Runs S c s calls a s' ∧ Q a s' := by
  induction c generalizing s with
  | done a => exact ⟨[], a, s, .done, h⟩
  | call i next ih =>
      obtain ⟨o, ho, hnext⟩ := h
      obtain ⟨calls, a, s', hrun, hQ⟩ := ih _ hnext
      exact ⟨⟨i, o⟩ :: calls, a, s', .call ho hrun, hQ⟩

/-! ## What may be called -/

/-- The service may choose so that the client, which has kept its duties so far, makes
a call and gets an answer where `P` holds. -/
def Meets (S : Service σ ι ω ρ) (P : σ → (i : ι) → ω i → Prop) : Client ι ρ α → σ → Prop
  | .done _, _ => False
  | .call i next, s => (∃ o, S.promise s i o ∧ P s i o) ∨
      S.duty s i ∧ ∃ o, S.promise s i o ∧ (next (S.reply s i o)).Meets S P (S.step s i o)

section Meets

variable {P : σ → (i : ι) → ω i → Prop}

/-- This is the call. -/
theorem meets_here {i : ι} {f : ρ i → Client ι ρ α} (o : ω i) (ho : S.promise s i o)
    (hP : P s i o) : (request i >>= f).Meets S P s := Or.inl ⟨o, ho, hP⟩

/-- It comes after this one. -/
theorem meets_call {i : ι} {f : ρ i → Client ι ρ α} (o : ω i) (hduty : S.duty s i)
    (ho : S.promise s i o) (hf : (f (S.reply s i o)).Meets S P (S.step s i o)) :
    (request i >>= f).Meets S P s := Or.inr ⟨hduty, o, ho, hf⟩

/-- It is in the first part. -/
theorem Meets.bind {c : Client ι ρ α} (h : c.Meets S P s) (f : α → Client ι ρ β) :
    (c >>= f).Meets S P s := by
  induction c generalizing s with
  | done a => exact h.elim
  | call i next ih =>
      rcases h with hhere | ⟨hduty, o, ho, hnext⟩
      · exact Or.inl hhere
      · exact Or.inr ⟨hduty, o, ho, ih _ hnext⟩

/-- It comes after a part that is in order, where every call made dutifully can be
answered. -/
theorem meets_bind (hlive : ∀ s i, S.duty s i → ∃ o, S.promise s i o) {c : Client ι ρ α}
    {f : α → Client ι ρ β} {I : α → σ → Prop} (hc : c.Ensures S I s)
    (hf : ∀ a s', I a s' → (f a).Meets S P s') : (c >>= f).Meets S P s := by
  induction c generalizing s with
  | done a => exact hf a s hc
  | call i next ih =>
      obtain ⟨o, ho⟩ := hlive s i hc.1
      exact Or.inr ⟨hc.1, o, ho, ih _ (hc.2 o ho)⟩

end Meets

/-- What every step keeps holds at the end of a run. -/
theorem Runs.invariant {I : σ → Prop}
    (hstep : ∀ s i o, I s → S.promise s i o → I (S.step s i o)) {c : Client ι ρ α}
    {calls : List (Σ i, ω i)} {a : α} {s' : σ} (hrun : Runs S c s calls a s') (h : I s) : I s' := by
  induction hrun with
  | done => exact h
  | call ho _ ih => exact ih (hstep _ _ _ h ho)

/-! ## Two services -/

/-- **Simulation**: a client keeps its duties, and ends as well, on a service that
takes each step as one that the other may take too. -/
theorem Ensures.simulate {τ : Type} {ω' : ι → Type} {T : Service τ ι ω' ρ} {R : τ → σ → Prop}
    (hduty : ∀ t s i, R t s → S.duty s i → T.duty t i)
    (hstep : ∀ t s i o', R t s → S.duty s i → T.promise t i o' →
      ∃ o, S.promise s i o ∧ S.reply s i o = T.reply t i o' ∧ R (T.step t i o') (S.step s i o))
    {c : Client ι ρ α} {t : τ} (hR : R t s) (h : c.Ensures S Q s) :
    c.Ensures T (fun a t' => ∃ s', R t' s' ∧ Q a s') t := by
  induction c generalizing s t with
  | done a => exact ⟨s, hR, h⟩
  | call i next ih =>
      refine ⟨hduty t s i hR h.1, fun o' ho' => ?_⟩
      obtain ⟨o, ho, hreply, hR'⟩ := hstep t s i o' hR h.1 ho'
      have hnext := h.2 o ho
      rw [hreply] at hnext
      exact ih _ hR' hnext

/-- The same for a run, whose choices are taken over one by one. -/
theorem Runs.simulate {τ : Type} {ω' : ι → Type} {T : Service τ ι ω' ρ} {R : τ → σ → Prop}
    (f : ∀ i, ω' i → ω i)
    (hstep : ∀ t s i o', R t s → S.duty s i → T.promise t i o' →
      S.promise s i (f i o') ∧ S.reply s i (f i o') = T.reply t i o' ∧
        R (T.step t i o') (S.step s i (f i o')))
    {c : Client ι ρ α} {t t' : τ} {calls : List (Σ i, ω' i)} {a : α}
    (hrun : Runs T c t calls a t') (hR : R t s) (h : c.Ensures S Q s) :
    ∃ s', Runs S c s (calls.map fun call => ⟨call.1, f call.1 call.2⟩) a s' ∧ R t' s' := by
  induction hrun generalizing s with
  | done => exact ⟨s, .done, hR⟩
  | @call i next t o' calls a t' ho' _ ih =>
      obtain ⟨ho, hreply, hR'⟩ := hstep _ _ _ _ hR h.1 ho'
      have hnext := h.2 _ ho
      rw [hreply] at hnext
      obtain ⟨s', hrun, hend⟩ := ih hR' hnext
      refine ⟨s', .call ho ?_, hend⟩
      rw [hreply]
      exact hrun

/-- What a client ensures of each. -/
theorem Ensures.prod {τ : Type} {ω' : ι → Type} {T : Service τ ι ω' ρ} {c : Client ι ρ α}
    {Q' : α → τ → Prop} {t : τ} (h : c.Ensures S Q s) (h' : c.Ensures T Q' t) :
    c.Ensures (S.prod T) (fun a s => Q a s.1 ∧ Q' a s.2) (s, t) := by
  induction c generalizing s t with
  | done a => exact ⟨h, h'⟩
  | call i next ih =>
      refine ⟨⟨h.1, h'.1⟩, fun o ho => ?_⟩
      obtain ⟨ho, ho', hreply⟩ := ho
      have hnext := h'.2 o.2 ho'
      rw [← hreply] at hnext
      exact ih _ (h.2 o.1 ho) hnext

section Both

variable {τ : Type} {ω' : ι → Type} {T : Service τ ι ω' ρ}
  (hlive : ∀ x i, S.duty x.1 i → ∃ o, (S.prod T).promise x i o)
include hlive

/-- Where every call dutiful to the first can be answered by both, a client that keeps
its duties to the first runs to the end. -/
theorem Ensures.exists_run_prod {c : Client ι ρ α} (h : c.Ensures S Q s) (t : τ) :
    ∃ calls a x', Runs (S.prod T) c (s, t) calls a x' := by
  induction c generalizing s t with
  | done a => exact ⟨[], a, (s, t), .done⟩
  | call i next ih =>
      obtain ⟨o, ho⟩ := hlive (s, t) i h.1
      obtain ⟨calls, a, x', hrun⟩ := ih _ (h.2 o.1 ho.1) _
      exact ⟨⟨i, o⟩ :: calls, a, x', .call ho hrun⟩

/-- The call met, on a run to the end. -/
theorem Meets.exists_run {P : σ × τ → (i : ι) → ω i × ω' i → Prop} {c : Client ι ρ α} {t : τ}
    (h : c.Meets (S.prod T) P (s, t)) (hS : c.Ensures S Q s) :
    ∃ calls call after a x', Runs (S.prod T) c (s, t) (calls ++ call :: after) a x' ∧
      (S.prod T).machine.Legal (s, t) calls ∧
      P ((S.prod T).machine.run (s, t) calls) call.1 call.2 := by
  induction c generalizing s t with
  | done a => exact h.elim
  | call i next ih =>
      rcases h with ⟨o, ho, hP⟩ | ⟨hduty, o, ho, hnext⟩
      · obtain ⟨after, a, x', hrun⟩ := (hS.2 o.1 ho.1).exists_run_prod hlive (T.step t i o.2)
        exact ⟨[], ⟨i, o⟩, after, a, x', .call ho hrun, trivial, hP⟩
      · obtain ⟨calls, call, after, a, x', hrun, hlegal, hP⟩ := ih _ hnext (hS.2 o.1 ho.1)
        exact ⟨⟨i, o⟩ :: calls, call, after, a, x', .call ho hrun, ⟨⟨hduty, ho⟩, hlegal⟩, hP⟩

end Both

/-- A run on both is a run on the second. -/
theorem Runs.snd {τ : Type} {ω' : ι → Type} {T : Service τ ι ω' ρ} {c : Client ι ρ α}
    {x x' : σ × τ} {calls : List (Σ i, ω i × ω' i)} {a : α}
    (hrun : Runs (S.prod T) c x calls a x') :
    Runs T c x.2 (calls.map fun call => ⟨call.1, call.2.2⟩) a x'.2 := by
  induction hrun with
  | done => exact .done
  | call ho _ ih =>
      obtain ⟨-, ho', hreply⟩ := ho
      refine .call ho' ?_
      rw [← hreply]
      exact ih

end Client
