import Librocket.Rocket.Program
import Mathlib.Data.FinEnum

/-!
# What the kernel may grant

The promises of `api` leave every call free to fail. They leave it free to succeed
as well: an open from a released state, a create while few bos are held, and a submit
on an empty heap. A program that breaks a duty somewhere is refuted along such a run, one call at a time.
-/

namespace Librocket.Rocket.Device

/-- Some number is not taken. -/
theorem exists_fresh {w : ℕ} {used : Finset (BitVec w)} (h : used.card < 2 ^ w) :
    ∃ x, x ∉ used := by
  by_contra hall
  push Not at hall
  have huniv : used = Finset.univ := Finset.eq_univ_of_forall hall
  rw [huniv, Finset.card_univ, ← FinEnum.card_eq_fintypeCard, FinEnum.card_bitVec] at h
  exact lt_irrefl _ h

namespace System

section Grants

variable {s : System} {c b : ℕ} {size : U64} {sizes : ℕ → Option U64}

/-- **An open may succeed**: both nodes are there. -/
theorem Released.can_open (h : s.Released) : ∃ env : OpenEnv, env.Lawful s.host ∧
    s.reply (.rocketOpen c) env = (0 : ℤ) ∧
    (s.step (.rocketOpen c) env).Holding c fun _ => none := by
  obtain ⟨hfiles, -⟩ := h.tables
  let fd : Fd := ⟨3, by decide⟩
  have hfree : ∀ fd' : Fd, s.host.files fd'.1 = none := fun fd' => congrFun hfiles fd'.1
  let env : OpenEnv := { accel0 := .ok fd, accel1 := .ok fd }
  have henv : env.Lawful s.host := ⟨fun _ => hfree _, fun _ => hfree _⟩
  have hret : s.reply (.rocketOpen c) env = (0 : ℤ) := by
    show (rocketOpen env (some (s.ctx c)) s.host).1.1 = 0
    rw [rocketOpen_accel0 rfl]
  have hend := h.open (c := c) henv
  refine ⟨env, henv, hret, ?_⟩
  rw [hret] at hend
  cases hend with
  | ok hheld => exact hheld
  | failed hneg => exact absurd hneg (lt_irrefl 0)

/-- The handles of the context are those of the bos held. -/
theorem Holding.handles_subset (h : s.Holding c sizes) {n : ℕ} (hfew : ∀ b, sizes b ≠ none → b < n)
    {handles : Finset U32} (hfile : s.host.files (s.ctx c).fd = some handles) :
    handles ⊆ (Finset.range n).image fun b => (s.bo b).handle := by
  intro handle hmem
  obtain ⟨b, c', hb, -, hhandle⟩ :=
    (h.accounted.exact.handle_iff _ _).mp ⟨handles, hfile, hmem⟩
  refine Finset.mem_image.mpr ⟨b, Finset.mem_range.mpr (hfew b ?_), hhandle⟩
  intro hnone
  have hrest := h.rest hnone
  rw [hb] at hrest
  cases hrest

/-- So are the mappings. -/
theorem Holding.mapping_free (h : s.Holding c sizes) {n : ℕ} (hfew : ∀ b, sizes b ≠ none → b < n)
    {addr : Addr} (haddr : addr ∉ (Finset.range n).image fun b => (s.bo b).map) :
    s.host.mappings addr = none := by
  cases hregion : s.host.mappings addr with
  | none => rfl
  | some region =>
      obtain ⟨b, hheld, -, heq, -⟩ := (h.accounted.exact.mapping_iff addr region.length).mp
        (by rw [hregion]; rfl)
      refine absurd (Finset.mem_image.mpr ⟨b, Finset.mem_range.mpr (hfew b ?_), heq⟩) haddr
      intro hnone
      rw [h.rest hnone] at hheld
      cases hheld

/-- **A create may succeed** while fewer bos are held than there are numbers. -/
theorem Holding.can_create (h : s.Holding c sizes) (hb : sizes b = none) {n : ℕ}
    (hn : n + 2 < 2 ^ 32) (hfew : ∀ b, sizes b ≠ none → b < n) :
    ∃ env bo, s.Promise (.boCreate c b size) env ∧
      s.reply (.boCreate c b size) env = ((0 : ℤ), bo) ∧
      (s.step (.boCreate c b size) env).Holding c (Function.update sizes b (some size)) := by
  have hopen : (s.host.files (s.ctx c).fd).isSome = true :=
    (h.accounted.exact.file_iff _).mpr ⟨c, h.opened, rfl⟩
  obtain ⟨handles, hfile⟩ := Option.isSome_iff_exists.mp hopen
  have hcard : ∀ {α : Type} [DecidableEq α] (f : ℕ → α), ((Finset.range n).image f).card ≤ n :=
    fun f => Finset.card_image_le.trans (Finset.card_range n).le
  obtain ⟨handle, hhandle⟩ : ∃ handle, handle ∉ insert 0 handles := by
    refine exists_fresh (lt_of_le_of_lt (Finset.card_insert_le _ _) ?_)
    have hle := (Finset.card_le_card (h.handles_subset hfew hfile)).trans (hcard _)
    omega
  let taken : Finset Addr := (Finset.range n).image fun b => (s.bo b).map
  obtain ⟨addr, haddr⟩ : ∃ addr, addr ∉ insert NULL (insert MAP_FAILED taken) := by
    refine exists_fresh (lt_of_le_of_lt (Finset.card_insert_le _ _) ?_)
    have hle := Finset.card_insert_le MAP_FAILED taken
    have htaken : taken.card ≤ n := hcard _
    omega
  simp only [Finset.mem_insert, not_or] at hhandle haddr
  have hfree := h.mapping_free hfew haddr.2.2
  let env : CreateEnv := { createBo := .ok ⟨handle, 0, 0⟩, mmap := .ok addr }
  have henv : s.Promise (.boCreate c b size) env := by
    refine promise_create hopen (.ok hhandle.1 ?_ ⟨haddr.1, haddr.2.1⟩ hfree)
    rw [world_handles hfile]
    exact hhandle.2
  have hret : (s.reply (.boCreate c b size) env : ℤ × RocketBo).1 = 0 := by
    show (rocketBoCreate env (s.ctx c) (s.bo b) size (s.host.world (s.ctx c).fd)).1.1 = 0
    rw [rocketBoCreate_created rfl rfl haddr.2.1]
  have hend := h.create hb henv
  refine ⟨env, (s.reply (.boCreate c b size) env : ℤ × RocketBo).2, henv, Prod.ext hret rfl, ?_⟩
  generalize (s.reply (.boCreate c b size) env : ℤ × RocketBo) = r at hret hend
  cases hend with
  | ok _ hheld => exact hheld
  | failed hneg => exact absurd hret hneg.ne

/-- **A submit may succeed** on an empty heap: both arrays find a place. -/
theorem can_submit (hheap : s.host.memory = fun _ => none) {regcmd : ℕ} {count : U32}
    {ins outs : List ℕ} : ∃ env, s.Promise (.submit c regcmd count ins outs) env ∧
      s.reply (.submit c regcmd count ins outs) env = (0 : ℤ) := by
  let env : Submit.SubmitEnv :=
    { callocIn := some ⟨16, by decide⟩, callocOut := some ⟨32, by decide⟩, task := 0, job := 1
      submit := .ok () }
  refine ⟨env, ?_, ?_⟩
  · constructor
    · intro ptr _
      rw [hheap]
    · intro ptr _
      rw [hheap]
    · intro ptr ptr' hptr hptr'
      rw [Submit.eq_of_array hptr, Submit.eq_of_array hptr']
      decide
    · intro ptr hptr
      rw [Submit.eq_of_array hptr]
      decide
    · intro ptr hptr
      rw [Submit.eq_of_array hptr]
      decide
    · decide
  · have hbuilt : ∀ (bos : Submit.BoArray) (ptr : Submit.Ptr), ¬ bos.Refused (some ptr) := by
      rintro bos ptr ⟨-, hnone⟩
      cases hnone
    show (onProcess (Submit.rocketSubmit env _ _ _ _ _) s.host).1 = 0
    rw [onProcess, Submit.rocketSubmit_ok (hbuilt _ _) (hbuilt _ _) rfl]

/-! ## Refuting a program -/

open Client

variable {α : Type} {Q : α → System → Prop}

theorem refute_print {stream : Stream} {format : String} {args : List Arg}
    {f : Unit → Program α} (hf : ¬ (f ()).Ensures api Q s) :
    ¬ (Program.print stream format args >>= f).Ensures api Q s :=
  not_ensures_call () trivial hf

theorem refute_undefined {β : Type} {f : β → Program α} :
    ¬ (Program.defined none >>= f).Ensures api Q s := fun h => h.1

theorem Released.refute_open (h : s.Released) {f : ℤ → Program α}
    (hf : ∀ s' : System, (s'.Holding c fun _ => none) → ¬ (f 0).Ensures api Q s') :
    ¬ (Program.rocketOpen c >>= f).Ensures api Q s := by
  intro hopen
  obtain ⟨env, henv, hret, hheld⟩ := @Released.can_open s c h
  have hnext := hopen.2 env henv
  change (f (s.reply (.rocketOpen c) env)).Ensures api Q _ at hnext
  rw [hret] at hnext
  exact hf _ hheld hnext

theorem Holding.refute_create (h : s.Holding c sizes) (hb : sizes b = none) {n : ℕ}
    (hn : n + 2 < 2 ^ 32) (hfew : ∀ b, sizes b ≠ none → b < n) {f : ℤ × RocketBo → Program α}
    (hf : ∀ (bo : RocketBo) (s' : System),
      s'.Holding c (Function.update sizes b (some size)) → ¬ (f (0, bo)).Ensures api Q s') :
    ¬ (Program.boCreate c b size >>= f).Ensures api Q s := by
  intro hcreate
  obtain ⟨env, bo, henv, hret, hheld⟩ := @Holding.can_create s c b size sizes h hb n hn hfew
  have hnext := hcreate.2 env henv
  change (f (s.reply (.boCreate c b size) env)).Ensures api Q _ at hnext
  rw [hret] at hnext
  exact hf _ _ hheld hnext

end Grants

end System

end Librocket.Rocket.Device
