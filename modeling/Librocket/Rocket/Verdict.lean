import Librocket.Rocket.Misuse
import Librocket.Rocket.Packed
import Mathlib.Tactic.IntervalCases

/-!
# What the verdict of the matmul test is about

`main` over the device, with a NPU that may compute anything and run its job at
any time after the submit. It keeps to the ownership of its buffers, and it
returns zero exactly if no call failed and the NPU's answer to the packed operands,
read through the layout of the output, equals the reference in every row and in
every column but the last.

All this as long as `FINI_BO` does not fail: `main` would not notice.
-/

namespace Librocket.MatmulTest

open Rocket Rocket.Device Rocket.Device.Program Client
open Coherence (Owner)
open Mesa (ValidSizes)

section Compute

variable {T : Setup} {M K N : U32} {m : Memory} {o : Objects} {w : ℕ → Owner}
  {v : ℕ → Bytes.Image} {b : ℕ}

/-! ## The job on one copy -/

theorem objects_of (h : ∀ b < 4, o.of b = b) : o.of regcmdBo = regcmdBo ∧ o.of inputBo = inputBo ∧
    o.of weightsBo = weightsBo ∧ o.of outputBo = outputBo :=
  ⟨h _ (by decide), h _ (by decide), h _ (by decide), h _ (by decide)⟩

/-- The lists of `main` name what its job touches. -/
theorem job_honest (h : ∀ b < 4, o.of b = b) (count : U32) :
    (o.job T.hw regcmdBo count [inputBo, weightsBo, regcmdBo] [outputBo]).Honest := by
  obtain ⟨hregcmd, hinput, hweights, houtput⟩ := objects_of h
  constructor
  · intro b hb
    simp only [Objects.job, Coherence.Job.ofCompute, Coherence.Job.Told, List.map_cons,
      List.map_nil, List.mem_cons] at hb ⊢
    tauto
  · intro b hb
    exact hb

theorem job_touches (h : ∀ b < 4, o.of b = b) {count : U32} {b : ℕ}
    (hb : (o.job T.hw regcmdBo count [inputBo, weightsBo, regcmdBo] [outputBo]).Touches b) :
    b < 4 := by
  obtain ⟨hregcmd, hinput, hweights, houtput⟩ := objects_of h
  simp only [Objects.job, Coherence.Job.ofCompute, Coherence.Job.Touches, List.map_cons,
    List.map_nil, hregcmd, hinput, hweights, houtput, List.mem_cons, List.not_mem_nil,
    or_false] at hb
  simp only [regcmdBo, inputBo, weightsBo, outputBo] at hb
  omega

/-- It sees the four buffers and leaves its result in the last. -/
theorem job_effect (h : Ready m o w v) {count : U32}
    (hcount : count = BitVec.ofInt 32 (T.generated M K N o.dma).ret)
    (hoperands : ∀ b < 4, v b = T.operands M K N o.dma b) :
    Ready (m.submit T.hw regcmdBo count [inputBo, weightsBo, regcmdBo] [outputBo]) o w
      (Function.update v outputBo (T.result M K N o.dma)) where
  objects := h.objects
  of := h.of
  owner := h.owner
  image := by
    obtain ⟨hregcmd, hinput, hweights, houtput⟩ := objects_of h.of
    intro b hb
    have hseen : Coherence.visible [regcmdBo, inputBo, weightsBo, regcmdBo] [outputBo] m.image =
        T.operands M K N o.dma := by
      funext b'
      unfold Coherence.visible
      split
      next hb' =>
        have hlt : b' < 4 := by
          simp only [List.mem_cons, List.not_mem_nil, or_false, regcmdBo, inputBo, weightsBo,
            outputBo] at hb'
          omega
        rw [h.image b' hlt, hoperands b' hlt]
      next hb' =>
        simp only [List.mem_cons, List.not_mem_nil, or_false, not_or] at hb'
        obtain ⟨⟨hr, hi, hw, -⟩, ho⟩ := hb'
        simp only [Setup.operands, if_neg hr, if_neg hi, if_neg hw, if_neg ho]
    simp only [Memory.submit, Objects.job, Coherence.Job.ofCompute, h.objects, List.map_cons,
      List.map_nil, hregcmd, hinput, hweights, houtput, hseen, List.mem_singleton]
    by_cases heq : b = outputBo
    · rw [if_pos heq, heq, Function.update_self, hcount]
      rfl
    · rw [if_neg heq, Function.update_of_ne heq, h.image b hb]

/-- What is left to say at the end: zero means a verified result and no failure. -/
def Told (T : Setup) (M K N : U32) (ret : ℤ) (m : Memory) : Prop :=
  ret = 0 ↔ m.objects.failed = false ∧ T.Verified M K N m.objects.dma

theorem told_fail {ret : ℤ} (hret : ret ≠ 0) : Told T M K N ret m.fail :=
  iff_of_false hret fun h => by simp [Memory.fail] at h

theorem told_refused {ret : ℤ} (hret : ret ≠ 0) (h : ¬ T.Verified M K N m.objects.dma) :
    Told T M K N ret m := iff_of_false hret fun h' => h h'.2

/-- From the submit on. -/
theorem verdict_sequential (hlib : T.lib.Fits) (hsizes : ValidSizes M.toNat K.toNat N.toNat)
    (hfailed : o.failed = false) (hgenerated : 0 ≤ (T.generated M K N o.dma).ret)
    (h : Ready m o w (Function.update v outputBo (T.result M K N o.dma)))
    (hw : w outputBo = .cpu) :
    (do
      let errors ← verify T.lib T.F M.toNat N.toNat (WriteLog.apply
        ((grid M.toNat N.toNat).map fun a => (a.1 * N.toNat + a.2,
          expected T.F K.toNat (T.matrixA M K) (T.matrixB M K N) a.1 a.2)) fun _ => 0)
      if errors = 0 then
        printf "SUCCESS: [%d x %d] x [%d x %d] matmul verified!\n"
          [.int M.toNat, .int K.toNat, .int K.toNat, .int N.toNat]
        return 0
      else
        printf "FAILED: %d mismatches out of %d values\n" [.int errors, .int (M * N).toNat]
        return 1 : Program ℤ).Ensures (sequential T.hw) (Told T M K N) m := by
  refine (verify_sequential hlib hsizes h hw _).bind ?_
  rintro errors m ⟨h, herrors⟩
  rw [Function.update_self] at herrors
  have hverified : T.Verified M K N m.objects.dma ↔ errors = 0 := by
    rw [h.objects, herrors]
    constructor
    · intro hv i hi j hj
      rw [expectedResult_apply hi (lt_of_lt_of_le hj (Nat.sub_le _ _))]
      exact hv.equal i hi j hj
    · intro hall
      refine ⟨hgenerated, fun i hi j hj => ?_⟩
      have hij := hall i hi j hj
      rw [expectedResult_apply hi (lt_of_lt_of_le hj (Nat.sub_le _ _))] at hij
      exact hij
  have hfailed' : m.objects.failed = false := by rw [h.objects, hfailed]
  split
  next herr =>
    exact ensures_bind.mpr (sequential_print (iff_of_true rfl ⟨hfailed', hverified.mpr herr⟩))
  next herr =>
    refine ensures_bind.mpr (sequential_print (told_refused (by decide) ?_))
    rwa [hverified]

theorem operands_regcmd (dma : ℕ → U64) : T.operands M K N dma regcmdBo =
    commandImage (T.generated M K N dma).ret.toNat ((T.generated M K N dma).tasks fun _ => 0)
      (T.hw.fresh regcmdBo) := rfl

theorem operands_input (hsizes : ValidSizes M.toNat K.toNat N.toNat) (dma : ℕ → U64) :
    T.operands M K N dma inputBo =
      storeRows M.toNat K.toNat (T.lib.input M.toNat K.toNat) (T.matrixA M K)
        (Bytes.clear ((M * K).toNat * 2) (T.hw.fresh inputBo)) := by
  rw [toNat_inputCount hsizes]
  rfl

theorem operands_weights (hsizes : ValidSizes M.toNat K.toNat N.toNat) (dma : ℕ → U64) :
    T.operands M K N dma weightsBo =
      storeRows N.toNat K.toNat (T.lib.weights K.toNat) (T.matrixB M K N)
        (Bytes.clear ((N * K).toNat * 2) (T.hw.fresh weightsBo)) := by
  rw [toNat_weightsCount hsizes]
  rfl

theorem operands_output (hsizes : ValidSizes M.toNat K.toNat N.toNat) (dma : ℕ → U64) :
    T.operands M K N dma outputBo =
      Bytes.clear ((M * N).toNat * 4) (T.hw.fresh outputBo) := by
  rw [toNat_outputCount hsizes]
  rfl

/-- **The computation.** -/
theorem compute_sequential (hlib : T.lib.Fits) (hsizes : ValidSizes M.toNat K.toNat N.toNat)
    (hfini : ¬ T.hw.finiFails) (hfailed : o.failed = false)
    (h : Ready m o (fun _ => .cpu) T.hw.fresh) {input weights output : RocketBo}
    (hinput : o.dma inputBo = input.dmaAddr) (hweights : o.dma weightsBo = weights.dmaAddr)
    (houtput : o.dma outputBo = output.dmaAddr) :
    (compute T.lib T.F T.random M K N input weights output).Ensures (sequential T.hw)
      (Told T M K N) m := by
  obtain ⟨hM, hK, hN⟩ := le_sizes hsizes
  have hA' : M.toNat * K.toNat ≤ MAX_M * MAX_K := Nat.mul_le_mul hM hK
  have hB' : N.toNat * K.toNat ≤ MAX_N * MAX_K := Nat.mul_le_mul hN hK
  have hA : (M * K).toNat ≤ MAX_M * MAX_K := toNat_inputCount hsizes ▸ hA'
  have hB : (N * K).toNat ≤ MAX_N * MAX_K := toNat_weightsCount hsizes ▸ hB'
  unfold compute
  rw [← hinput, ← hweights, ← houtput]
  have hstores := hlib.stores (params M K N (o.dma inputBo) (o.dma weightsBo) (o.dma outputBo))
  have hle := hlib.ret_le (params M K N (o.dma inputBo) (o.dma weightsBo) (o.dma outputBo))
  generalize hr : T.lib.genMatmulFp16 _ = r at hstores hle ⊢
  replace hr : T.generated M K N o.dma = r := hr
  refine ensures_bind.mpr (sequential_defined (if_pos hstores) ?_)
  split
  next hret =>
    refine ensures_bind.mpr (sequential_print (told_refused hret.ne ?_))
    rw [h.objects]
    intro hv
    have hge := hv.generated
    rw [hr] at hge
    exact absurd hge (not_le.mpr hret)
  next hgenerated =>
  refine ensures_bind.mpr (sequential_print ?_)
  refine (copyCommands_sequential h rfl (Int.toNat_le.mpr hle) _).bind fun _ m h => ?_
  have hcommands := @operands_regcmd T M K N o.dma
  rw [hr] at hcommands
  rw [← hcommands] at h
  refine ensures_bind.mpr (sequential_defined (if_pos hA) ?_)
  refine ensures_bind.mpr (sequential_defined (if_pos hB) ?_)
  refine (h.ensures_clear (by decide) rfl).bind fun _ m h => ?_
  refine (packRows_sequential (by decide) hB' (hlib.weights hsizes) h rfl
    (T.matrixB M K N)).bind fun _ m h => ?_
  rw [Function.update_self, Function.update_idem, Function.update_of_ne (by decide),
    ← operands_weights hsizes o.dma] at h
  refine (h.ensures_clear (by decide) rfl).bind fun _ m h => ?_
  refine (packRows_sequential (by decide) hA' (hlib.input hsizes) h rfl
    (T.matrixA M K)).bind fun _ m h => ?_
  rw [Function.update_self, Function.update_idem, Function.update_of_ne (by decide),
    Function.update_of_ne (by decide), ← operands_input hsizes o.dma] at h
  refine (h.ensures_clear (by decide) rfl).bind fun _ m h => ?_
  rw [Function.update_of_ne (by decide), Function.update_of_ne (by decide),
    Function.update_of_ne (by decide), ← operands_output hsizes o.dma] at h
  refine ensures_bind.mpr (sequential_defined (matmulFp32Cpu_eq hM hK hN _ _) ?_)
  -- handed over, which does not fail
  refine ensures_bind.mpr (sequential_fini (h.owner_of (by decide))
    (fun hfails => absurd hfails hfini) fun _ _ => ?_)
  replace h := h.own (b := regcmdBo) (by decide) .device
  refine ensures_bind.mpr (sequential_fini (h.owner_of (by decide))
    (fun hfails => absurd hfails hfini) fun _ _ => ?_)
  replace h := h.own (b := inputBo) (by decide) .device
  refine ensures_bind.mpr (sequential_fini (h.owner_of (by decide))
    (fun hfails => absurd hfails hfini) fun _ _ => ?_)
  replace h := h.own (b := weightsBo) (by decide) .device
  refine ensures_bind.mpr (sequential_fini (h.owner_of (by decide))
    (fun hfails => absurd hfails hfini) fun _ _ => ?_)
  replace h := h.own (b := outputBo) (by decide) .device
  refine ensures_bind.mpr (sequential_print ?_)
  refine ensures_bind.mpr (sequential_submit ?_ ?_ ?_ ?_)
  · rw [h.objects]
    exact job_honest h.of _
  · intro b hb
    rw [h.objects] at hb
    have hlt := job_touches h.of hb
    rw [h.owner b hlt]
    interval_cases b <;> rfl
  · intro ret hret
    rw [if_pos hret]
    exact ensures_bind.mpr (sequential_print (told_fail hret.ne))
  intro ret hret
  rw [if_neg hret]
  have hoperands : ∀ b < 4, Function.update (Function.update (Function.update (Function.update
      T.hw.fresh regcmdBo (T.operands M K N o.dma regcmdBo))
      weightsBo (T.operands M K N o.dma weightsBo))
      inputBo (T.operands M K N o.dma inputBo))
      outputBo (T.operands M K N o.dma outputBo) b = T.operands M K N o.dma b := by
    intro b hb
    interval_cases b <;> rfl
  replace h := job_effect h (by rw [hr]) hoperands
  refine ensures_bind.mpr (sequential_print ?_)
  refine ensures_bind.mpr (sequential_prep (h.owner_of (by decide)) ?_ ?_)
  · intro ret hret
    rw [if_pos hret]
    exact ensures_bind.mpr (sequential_print (told_fail hret.ne))
  intro ret hret
  rw [if_neg hret]
  replace h := h.own (b := outputBo) (by decide) .cpu
  refine ensures_bind.mpr (sequential_print ?_)
  exact verdict_sequential hlib hsizes hfailed (hr ▸ not_lt.mp hgenerated) h rfl

/-! ## Before and after it -/

/-- The first `n` bos are there, at these addresses. -/
structure Stage (T : Setup) (n : ℕ) (addr : ℕ → U64) (m : Memory) : Prop where
  of : ∀ b < n, m.objects.of b = b
  dma : ∀ b < n, m.objects.dma b = addr b
  next : m.objects.next = n
  failed : m.objects.failed = false
  owner : ∀ b < n, m.owner b = .cpu
  image : ∀ b < n, m.image b = T.hw.fresh b

theorem Stage.create {n : ℕ} {addr : ℕ → U64} (h : Stage T n addr m) (bo : RocketBo) :
    Stage T (n + 1) (Function.update addr n bo.dmaAddr) (m.create T.hw n bo) where
  of := by
    intro b hb
    simp only [Memory.create, Objects.create, h.next]
    rcases Nat.lt_succ_iff_lt_or_eq.mp hb with hb | rfl
    · rw [Function.update_of_ne hb.ne, h.of b hb]
    · exact Function.update_self ..
  dma := by
    intro b hb
    simp only [Memory.create, Objects.create, h.next]
    rcases Nat.lt_succ_iff_lt_or_eq.mp hb with hb | rfl
    · rw [Function.update_of_ne hb.ne, Function.update_of_ne hb.ne, h.dma b hb]
    · rw [Function.update_self, Function.update_self]
  next := by
    simp only [Memory.create, Objects.create, h.next]
  failed := h.failed
  owner := by
    intro b hb
    simp only [Memory.create, h.next]
    rcases Nat.lt_succ_iff_lt_or_eq.mp hb with hb | rfl
    · rw [Function.update_of_ne hb.ne, h.owner b hb]
    · exact Function.update_self ..
  image := by
    intro b hb
    simp only [Memory.create, h.next]
    rcases Nat.lt_succ_iff_lt_or_eq.mp hb with hb | rfl
    · rw [Function.update_of_ne hb.ne, h.image b hb]
    · exact Function.update_self ..

theorem Stage.ready {addr : ℕ → U64} (h : Stage T 4 addr m) :
    Ready m m.objects (fun _ => .cpu) T.hw.fresh :=
  ⟨rfl, h.of, h.owner, h.image⟩

section Labels

variable {ret : ℤ} {Q : ℤ → Memory → Prop} (hQ : Q ret m)
include hQ

theorem errClose_sequential : (errClose ret).Ensures (sequential T.hw) Q m :=
  ensures_bind.mpr (sequential_close hQ)

theorem errFreeRegcmd_sequential : (errFreeRegcmd ret).Ensures (sequential T.hw) Q m :=
  ensures_bind.mpr (sequential_destroy (errClose_sequential hQ))

theorem errFreeInput_sequential : (errFreeInput ret).Ensures (sequential T.hw) Q m :=
  ensures_bind.mpr (sequential_destroy (errFreeRegcmd_sequential hQ))

theorem errFreeWeights_sequential : (errFreeWeights ret).Ensures (sequential T.hw) Q m :=
  ensures_bind.mpr (sequential_destroy (errFreeInput_sequential hQ))

theorem errFreeOutput_sequential : (errFreeOutput ret).Ensures (sequential T.hw) Q m :=
  ensures_bind.mpr (sequential_destroy (errFreeWeights_sequential hQ))

end Labels

theorem test_sequential (hlib : T.lib.Fits) (hsizes : ValidSizes M.toNat K.toNat N.toNat)
    (hfini : ¬ T.hw.finiFails) {addr : ℕ → U64} (h : Stage T 0 addr m) :
    (test T.lib T.F T.random M K N).Ensures (sequential T.hw) (Told T M K N) m := by
  unfold test
  refine ensures_bind.mpr (sequential_open ?_ ?_)
  · intro ret hret
    rw [if_pos hret]
    exact ensures_bind.mpr (sequential_print (told_fail (by decide)))
  intro ret hret
  rw [if_neg hret]
  refine ensures_bind.mpr (sequential_print ?_)
  refine ensures_bind.mpr (sequential_create ?_ ?_)
  · intro ret bo hret
    simp only [if_pos hret]
    exact errClose_sequential (told_fail hret.ne)
  intro ret regcmd hret
  simp only [if_neg hret]
  replace h := h.create regcmd
  refine ensures_bind.mpr (sequential_create ?_ ?_)
  · intro ret bo hret
    simp only [if_pos hret]
    exact errFreeRegcmd_sequential (told_fail hret.ne)
  intro ret input hret
  simp only [if_neg hret]
  replace h := h.create input
  refine ensures_bind.mpr (sequential_create ?_ ?_)
  · intro ret bo hret
    simp only [if_pos hret]
    exact errFreeInput_sequential (told_fail hret.ne)
  intro ret weights hret
  simp only [if_neg hret]
  replace h := h.create weights
  refine ensures_bind.mpr (sequential_create ?_ ?_)
  · intro ret bo hret
    simp only [if_pos hret]
    exact errFreeWeights_sequential (told_fail hret.ne)
  intro ret output hret
  simp only [if_neg hret]
  replace h := h.create output
  refine ensures_bind.mpr (sequential_print (ensures_bind.mpr (sequential_print
    (ensures_bind.mpr (sequential_print (ensures_bind.mpr (sequential_print
      (ensures_bind.mpr (sequential_print ?_)))))))))
  refine (compute_sequential hlib hsizes hfini h.failed h.ready (h.dma inputBo (by decide))
    (h.dma weightsBo (by decide)) (h.dma outputBo (by decide))).bind fun ret m htold => ?_
  exact errFreeOutput_sequential htold

end Compute

/-! ## The verdict -/

/-- The command lines `main` goes on with. -/
def Accepted (args : List (List Char)) (M K N : U32) : Prop :=
  args.map atoi = [some M, some K, some N] ∧ ValidSizes M.toNat K.toNat N.toNat

theorem main_sequential {T : Setup} (hlib : T.lib.Fits) (hfini : ¬ T.hw.finiFails)
    {name : List Char} {args : List (List Char)}
    (hargs : args.length = 3 → ∀ arg ∈ args, (atoi arg).isSome = true) {m : Memory}
    {addr : ℕ → U64} (h : Stage T 0 addr m) :
    (main T.lib T.F T.random name args).Ensures (sequential T.hw)
      (fun ret m => ret = 0 ↔ m.objects.failed = false ∧
        ∃ M K N, Accepted args M K N ∧ T.Verified M K N m.objects.dma) m := by
  unfold main
  split
  next a b c =>
    obtain ⟨M, hM⟩ := Option.isSome_iff_exists.mp (hargs rfl a (by simp))
    obtain ⟨K, hK⟩ := Option.isSome_iff_exists.mp (hargs rfl b (by simp))
    obtain ⟨N, hN⟩ := Option.isSome_iff_exists.mp (hargs rfl c (by simp))
    have haccepted : ∀ M' K' N', Accepted [a, b, c] M' K' N' ↔
        (M' = M ∧ K' = K ∧ N' = N) ∧ ValidSizes M.toNat K.toNat N.toNat := by
      intro M' K' N'
      simp only [Accepted, List.map_cons, List.map_nil, hM, hK, hN, List.cons.injEq,
        Option.some.injEq, and_true]
      constructor
      · rintro ⟨⟨rfl, rfl, rfl⟩, hsizes⟩
        exact ⟨⟨rfl, rfl, rfl⟩, hsizes⟩
      · rintro ⟨⟨rfl, rfl, rfl⟩, hsizes⟩
        exact ⟨⟨rfl, rfl, rfl⟩, hsizes⟩
    -- a line that is refused is not accepted
    have hrefused : ∀ {m : Memory}, ¬ ValidSizes M.toNat K.toNat N.toNat →
        ((1 : ℤ) = 0 ↔ m.objects.failed = false ∧
          ∃ M K N, Accepted [a, b, c] M K N ∧ T.Verified M K N m.objects.dma) := by
      intro m hnot
      refine iff_of_false (by decide) ?_
      rintro ⟨-, M', K', N', hacc, -⟩
      exact hnot ((haccepted _ _ _).mp hacc).2
    refine ensures_bind.mpr (sequential_defined hM ?_)
    refine ensures_bind.mpr (sequential_defined hK ?_)
    refine ensures_bind.mpr (sequential_defined hN ?_)
    split
    next hcheck =>
      exact ensures_bind.mpr (sequential_print (hrefused fun hv => checkM_iff.mp hcheck hv.m))
    next hcheckM =>
    split
    next hcheck =>
      exact ensures_bind.mpr (sequential_print (hrefused fun hv => check_iff.mp hcheck hv.k))
    next hcheckK =>
    split
    next hcheck =>
      exact ensures_bind.mpr (sequential_print (hrefused fun hv => check_iff.mp hcheck hv.n))
    next hcheckN =>
    have hsizes : ValidSizes M.toNat K.toNat N.toNat :=
      ⟨not_not.mp (checkM_iff.not.mp hcheckM), not_not.mp (check_iff.not.mp hcheckK),
        not_not.mp (check_iff.not.mp hcheckN)⟩
    refine ensures_bind.mpr (sequential_print ?_)
    refine (test_sequential hlib hsizes hfini h).mono fun ret m htold => htold.trans ?_
    refine and_congr_right fun _ =>
      ⟨fun hv => ⟨M, K, N, (haccepted _ _ _).mpr ⟨⟨rfl, rfl, rfl⟩, hsizes⟩, hv⟩, ?_⟩
    rintro ⟨M', K', N', hacc, hv⟩
    obtain ⟨⟨rfl, rfl, rfl⟩, -⟩ := (haccepted _ _ _).mp hacc
    exact hv
  next hthree =>
    refine ensures_bind.mpr (sequential_print ?_)
    refine ensures_bind.mpr (sequential_print ?_)
    refine ensures_bind.mpr (sequential_print ?_)
    refine ensures_bind.mpr (sequential_print (iff_of_false (by decide) ?_))
    rintro ⟨-, M, K, N, ⟨hmap, -⟩, -⟩
    obtain ⟨a, b, c, rfl⟩ : ∃ a b c, args = [a, b, c] :=
      List.length_eq_three.mp (by simpa using congrArg List.length hmap)
    exact hthree a b c rfl

theorem Stage.initial (T : Setup) (of : ℕ → ℕ) (dma : ℕ → U64) (image : ℕ → Bytes.Image) :
    Stage T 0 dma (.initial of dma image) :=
  ⟨by simp, by simp, rfl, rfl, by simp, by simp⟩

/-- The same, of what a verified result comes to. -/
theorem decides_of_verified {T : Setup} {P : U32 → U32 → U32 → (ℕ → U64) → Prop}
    (hP : ∀ {M K N dma}, ValidSizes M.toNat K.toNat N.toNat → (T.Verified M K N dma ↔ P M K N dma))
    (hlib : T.lib.Fits) (hfini : ¬ T.hw.finiFails) {name : List Char} {args : List (List Char)}
    (hargs : args.length = 3 → ∀ arg ∈ args, (atoi arg).isSome = true) :
    (main T.lib T.F T.random name args).Decides T.hw fun o =>
      ∃ M K N, Accepted args M K N ∧ P M K N o.dma := by
  refine .of_ensures ?_ ?_
  · intro s h
    exact (main_ensures hlib hargs h).mono fun _ _ _ => trivial
  · intro of dma image
    refine (main_sequential hlib hfini hargs (.initial T of dma image)).mono ?_
    intro ret m hverdict
    rw [hverdict]
    refine and_congr_right fun _ => exists_congr fun M => exists_congr fun K =>
      exists_congr fun N => and_congr_right fun haccepted => hP haccepted.2

/-- **The verdict.** Linked with a library that fits, `main` returns zero exactly if
no call failed, the command line was accepted, and the NPU's result for the operands
as they were packed equals the reference wherever the two are compared. -/
theorem main_verdict {T : Setup} (hlib : T.lib.Fits) (hfini : ¬ T.hw.finiFails)
    {name : List Char} {args : List (List Char)}
    (hargs : args.length = 3 → ∀ arg ∈ args, (atoi arg).isSome = true) :
    (main T.lib T.F T.random name args).Decides T.hw fun o =>
      ∃ M K N, Accepted args M K N ∧ T.Verified M K N o.dma :=
  decides_of_verified (fun _ => Iff.rfl) hlib hfini hargs

/-- Integers in place of floating point, and a NPU that does nothing. -/
def sample (impl : Impl) : Setup where
  lib := library impl
  F :=
    { element := fun r => BitVec.ofNat 16 (10 * r.toNat / 2147483647)
      zero := 0
      mulAdd := fun sum x y => sum + x.setWidth 32 * y.setWidth 32
      ne := fun actual expected => actual ≠ expected }
  random := fun i => BitVec.ofNat 32 i
  hw := { run := fun _ _ _ images => images, fresh := fun _ => default, finiFails := False }

def smallest : List (List Char) := [['1'], ['3', '2'], ['1', '6']]

theorem smallest_isSome : smallest.length = 3 → ∀ arg ∈ smallest, (atoi arg).isSome = true :=
  fun _ => by decide

theorem main_verdict_sample :
    (main (library .mesa) (sample .mesa).F (sample .mesa).random [] smallest).Decides
      (sample .mesa).hw fun o =>
        ∃ M K N, Accepted smallest M K N ∧ (sample .mesa).Verified M K N o.dma :=
  main_verdict (T := sample .mesa) mesa_fits id smallest_isSome

/-! ## A `FINI_BO` that fails -/

section Ignored

variable {T : Setup} {M K N : U32} {m : Memory} {x : System × Shared} {α : Type}
  {P : System × Shared → (i : Call) → i.Outcome × (i.Reply × List BoEvent) → Prop}

theorem fail_ready {o : Objects} {w : ℕ → Owner} {v : ℕ → Bytes.Image} (h : Ready m o w v) :
    Ready m.fail { o with failed := true } w v where
  objects := by
    rw [← h.objects]
    rfl
  of := h.of
  owner := h.owner
  image := h.image

theorem meets_defined {β : Type} {y : Option β} {a : β} (hy : y = some a) {f : β → Program α}
    (hf : (f a).Meets (device T.hw) P x) : (defined y >>= f).Meets (device T.hw) P x := by
  rw [hy]
  exact hf

theorem create_meets {n : ℕ} (hn : n + 2 < 2 ^ 32) (h : Stands x ctx (created M K N n) m)
    (hqueue : x.2.buffers.queue = []) {f : ℤ × RocketBo → Program α}
    (hf : ∀ bo x', Stands x' ctx (created M K N (n + 1)) (m.create T.hw n bo) →
      x'.2.buffers.queue = [] → (f (0, bo)).Meets (device T.hw) P x') :
    (boCreate ctx n (boSize M K N n) >>= f).Meets (device T.hw) P x := by
  refine h.meets_create hqueue (created_self n) hn ?_ ?_
  · intro b hb
    by_contra hle
    exact hb (if_neg hle)
  · rw [← created_succ]
    exact hf

/-- Until the buffers are handed over all is in order. The first failure then goes
unnoticed, and the job reads commands that are the CPU's. -/
theorem compute_meets (hlib : T.lib.Fits) (hsizes : ValidSizes M.toNat K.toNat N.toNat)
    (hfini : T.hw.finiFails) (hstands : Stands x ctx (created M K N 4) m) {o : Objects}
    (h : Ready m o (fun _ => .cpu) T.hw.fresh) {input weights output : RocketBo}
    (hret : 0 ≤ (T.lib.genMatmulFp16
      (params M K N input.dmaAddr weights.dmaAddr output.dmaAddr)).ret) :
    (compute T.lib T.F T.random M K N input weights output).Meets (device T.hw)
      (SubmitOwned T.hw) x := by
  obtain ⟨hM, hK, hN⟩ := le_sizes hsizes
  have hin := toNat_inputCount hsizes
  have hweights := toNat_weightsCount hsizes
  have hA' : M.toNat * K.toNat ≤ MAX_M * MAX_K := Nat.mul_le_mul hM hK
  have hB' : N.toNat * K.toNat ≤ MAX_N * MAX_K := Nat.mul_le_mul hN hK
  have hA : (M * K).toNat ≤ MAX_M * MAX_K := hin ▸ hA'
  have hB : (N * K).toNat ≤ MAX_N * MAX_K := hweights ▸ hB'
  unfold compute
  have hstores := hlib.stores (params M K N input.dmaAddr weights.dmaAddr output.dmaAddr)
  have hle := hlib.ret_le (params M K N input.dmaAddr weights.dmaAddr output.dmaAddr)
  generalize T.lib.genMatmulFp16 _ = r at hstores hle hret ⊢
  have hcount : r.ret.toNat ≤ taskWords := Int.toNat_le.mpr hle
  refine meets_defined (if_pos hstores) ?_
  rw [if_neg (not_lt.mpr hret)]
  refine meets_print ?_
  refine hstands.meets_bind (copyCommands_ensures hstands.tables hcount _)
    (copyCommands_sequential h rfl hcount _) fun _ x m hstands h => ?_
  refine meets_defined (if_pos hA) (meets_defined (if_pos hB) ?_)
  refine hstands.meets_bind (hstands.tables.ensures_clear (created_four (by decide)) ?_
    hstands.tables) (h.ensures_clear (by decide) rfl) fun _ x m hstands h => ?_
  · rw [toNat_weightsBytes hsizes, hweights]
    exact le_refl _
  refine hstands.meets_bind (packWeights_ensures hlib hsizes hstands.tables _)
    (packRows_sequential (by decide) hB' (hlib.weights hsizes) h rfl _) fun _ x m hstands h => ?_
  refine hstands.meets_bind (hstands.tables.ensures_clear (created_four (by decide)) ?_
    hstands.tables) (h.ensures_clear (by decide) rfl) fun _ x m hstands h => ?_
  · rw [toNat_inputBytes hsizes, hin]
    exact le_refl _
  refine hstands.meets_bind (packInput_ensures hlib hsizes hstands.tables _)
    (packRows_sequential (by decide) hA' (hlib.input hsizes) h rfl _) fun _ x m hstands h => ?_
  refine hstands.meets_bind (hstands.tables.ensures_clear (created_four (by decide)) ?_
    hstands.tables) (h.ensures_clear (by decide) rfl) fun _ x m hstands h => ?_
  · rw [toNat_outputBytes hsizes, toNat_outputCount hsizes]
    exact le_refl _
  refine meets_defined (matmulFp32Cpu_eq hM hK hN _ _) ?_
  -- The first is not handed over, the others are.
  refine hstands.meets_fini_failed hfini (created_four (by decide)) (h.owner_of (by decide))
    fun _ x hstands => ?_
  replace h := fail_ready h
  refine hstands.meets_fini (created_four (by decide)) (h.owner_of (by decide))
    fun x hstands => ?_
  replace h := h.own (b := inputBo) (by decide) .device
  refine hstands.meets_fini (created_four (by decide)) (h.owner_of (by decide))
    fun x hstands => ?_
  replace h := h.own (b := weightsBo) (by decide) .device
  refine hstands.meets_fini (created_four (by decide)) (h.owner_of (by decide))
    fun x hstands => ?_
  replace h := h.own (b := outputBo) (by decide) .device
  exact meets_print (hstands.meets_submit (h.owner_of (by decide)))

theorem test_meets (hlib : T.lib.Fits) (hsizes : ValidSizes M.toNat K.toNat N.toNat)
    (hfini : T.hw.finiFails) (hreleased : x.1.Released)
    (hheap : x.1.host.memory = fun _ => none) (hbuffers : x.2.Represents m)
    (hqueue : x.2.buffers.queue = []) {addr : ℕ → U64} (h : Stage T 0 addr m)
    (hret : ∀ input weights output,
      0 ≤ (T.lib.genMatmulFp16 (params M K N input weights output)).ret) :
    (test T.lib T.F T.random M K N).Meets (device T.hw) (SubmitOwned T.hw) x := by
  unfold test
  refine meets_open hreleased hheap hbuffers fun x hstands hqueue' => ?_
  replace hqueue := hqueue'.trans hqueue
  rw [if_neg (lt_irrefl 0)]
  refine meets_print ?_
  refine create_meets (n := regcmdBo) (M := M) (K := K) (N := N) (by decide) hstands hqueue
    fun regcmd x hstands hqueue => ?_
  simp only [lt_irrefl, if_false]
  replace h := h.create regcmd
  refine create_meets (n := inputBo) (by decide) hstands hqueue fun input x hstands hqueue => ?_
  simp only [lt_irrefl, if_false]
  replace h := h.create input
  refine create_meets (n := weightsBo) (by decide) hstands hqueue
    fun weights x hstands hqueue => ?_
  simp only [lt_irrefl, if_false]
  replace h := h.create weights
  refine create_meets (n := outputBo) (by decide) hstands hqueue
    fun output x hstands hqueue => ?_
  simp only [lt_irrefl, if_false]
  replace h := h.create output
  refine meets_print (meets_print (meets_print (meets_print (meets_print ?_))))
  exact (compute_meets hlib hsizes hfini hstands h.ready (hret _ _ _)).bind _

end Ignored

/-- What it takes for `main` to go on. -/
theorem Accepted.eq_three {args : List (List Char)} {M K N : U32} (h : Accepted args M K N) :
    ∃ a b c, args = [a, b, c] ∧ atoi a = some M ∧ atoi b = some K ∧ atoi c = some N := by
  obtain ⟨a, b, c, rfl⟩ : ∃ a b c, args = [a, b, c] :=
    List.length_eq_three.mp (by simpa using congrArg List.length h.1)
  simpa using h.1

theorem main_submitsOwned {T : Setup} (hlib : T.lib.Fits) (hfini : T.hw.finiFails)
    (name : List Char) {args : List (List Char)} {M K N : U32} (haccepted : Accepted args M K N)
    (hret : ∀ input weights output,
      0 ≤ (T.lib.genMatmulFp16 (params M K N input weights output)).ret) :
    (main T.lib T.F T.random name args).SubmitsOwned T.hw := by
  intro ctx bo of dma cpu dev
  obtain ⟨a, b, c, rfl, hM, hK, hN⟩ := haccepted.eq_three
  have hsizes := haccepted.2
  have hargs : ∀ arg ∈ [a, b, c], (atoi arg).isSome = true := by
    simp [hM, hK, hN]
  have hmeets : (main T.lib T.F T.random name [a, b, c]).Meets (device T.hw) (SubmitOwned T.hw)
      (System.initial ctx bo, Shared.initial of dma cpu dev) := by
    refine meets_defined hM (meets_defined hK (meets_defined hN ?_))
    rw [if_neg fun hcheck => checkM_iff.mp hcheck hsizes.m,
      if_neg fun hcheck => check_iff.mp hcheck hsizes.k,
      if_neg fun hcheck => check_iff.mp hcheck hsizes.n]
    refine meets_print ?_
    exact test_meets hlib hsizes hfini (.initial ctx bo) rfl (initial_represents of dma cpu dev) rfl
      (.initial T of dma cpu) hret
  exact hmeets.exists_run (fun x i hduty => device_live x i hduty)
    (main_ensures hlib (fun _ => hargs) (.initial ctx bo))

/-- **What `main` ignores.** It keeps to the ownership of its buffers on every path
if `FINI_BO` cannot fail, and only then: it looks at none of the four codes, so where
the first is bad it submits a job whose commands it never handed over. -/
theorem main_disciplined_iff {T : Setup} (hlib : T.lib.Fits) (name : List Char)
    {args : List (List Char)} {M K N : U32} (haccepted : Accepted args M K N)
    (hret : ∀ input weights output,
      0 ≤ (T.lib.genMatmulFp16 (params M K N input weights output)).ret) :
    ((∀ args : List (List Char), (args.length = 3 → ∀ arg ∈ args, (atoi arg).isSome = true) →
      (main T.lib T.F T.random name args).Dutiful T.hw) ↔ ¬ T.hw.finiFails) ∧
      (T.hw.finiFails → (main T.lib T.F T.random name args).SubmitsOwned T.hw) := by
  have howned : T.hw.finiFails → (main T.lib T.F T.random name args).SubmitsOwned T.hw :=
    fun hfini => main_submitsOwned hlib hfini name haccepted hret
  refine ⟨⟨?_, ?_⟩, howned⟩
  · intro hall hfini
    obtain ⟨a, b, c, rfl, hM, hK, hN⟩ := haccepted.eq_three
    exact (howned hfini).not_dutiful (hall _ fun _ => by simp [hM, hK, hN])
  · intro hfini args hargs
    refine .of_ensures ?_ ?_
    · intro s h
      exact (main_ensures hlib hargs h).mono fun _ _ _ => trivial
    · intro of dma image
      exact (main_sequential hlib hfini hargs (.initial T of dma image)).mono fun _ _ _ => trivial

/-- `npu_matmul_mesa.c` takes every request. -/
theorem mesa_generated (params : MatmulParams) :
    0 ≤ ((library .mesa).genMatmulFp16 params).ret := by
  obtain ⟨words, heq, -⟩ := length_mesa params
  show 0 ≤ (Mesa.genMatmulFp16 params).ret
  rw [heq, GenResult.emit, emitFrom_last, Nat.zero_add]
  exact Int.natCast_nonneg _

/-- The smallest product, on hardware where `FINI_BO` may fail. -/
theorem main_disciplined_iff_sample :
    (main (library .mesa) (sample .mesa).F (sample .mesa).random [] smallest).SubmitsOwned
      { (sample .mesa).hw with finiFails := True } :=
  (main_disciplined_iff (T := { sample .mesa with
      hw := { (sample .mesa).hw with finiFails := True } }) mesa_fits []
    (M := 1) (K := 32) (N := 16) ⟨by decide, ⟨by decide, by decide, by decide⟩⟩
    fun _ _ _ => mesa_generated _).2 trivial

end Librocket.MatmulTest
