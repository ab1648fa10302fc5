import Librocket.Rocket.MatmulTest
import Librocket.Rocket.Progress

/-!
# The matmul test cleans up

Whatever the kernel answers and whatever the command line is, `main` makes no
call it may not make, touches nothing outside its mappings, and comes out with
nothing open, live or mapped: the labels undo exactly what was done before the
jump. This takes of the library it is linked with that its generator stays within
`npu_regs` and its layout functions within the buffers (`Library.Fits`), which is
so for `npu_matmul.c` and `npu_matmul_mesa.c`, and not for `npu_matmul_full.c`.
-/

namespace Librocket.MatmulTest

open Rocket Rocket.Device Rocket.Device.Program Client

/-! ## The sizes -/

open Mesa (ValidSizes)

section Sizes

variable {M K N : U32}

theorem toNat_mul_of_le {a b : U32} {x y : ℕ} (ha : a.toNat ≤ x) (hb : b.toNat ≤ y)
    (hfit : x * y < 2 ^ 32) : (a * b).toNat = a.toNat * b.toNat := by
  rw [BitVec.toNat_mul]
  exact Nat.mod_eq_of_lt (lt_of_le_of_lt (Nat.mul_le_mul ha hb) hfit)

theorem toNat_bytes {a b : U32} {x y size : ℕ} (ha : a.toNat ≤ x) (hb : b.toNat ≤ y)
    (hfit : x * y < 2 ^ 32) (hsize : size < 2 ^ 32) :
    (bytes a b size).toNat = a.toNat * b.toNat * size := by
  have hmul := toNat_mul_of_le ha hb hfit
  have hlt : a.toNat * b.toNat < 2 ^ 32 := lt_of_le_of_lt (Nat.mul_le_mul ha hb) hfit
  have hprod : a.toNat * b.toNat * size < 2 ^ 64 := by
    calc a.toNat * b.toNat * size < 2 ^ 32 * 2 ^ 32 :=
          Nat.mul_lt_mul'' hlt hsize
      _ = 2 ^ 64 := by decide
  rw [bytes, BitVec.toNat_mul, BitVec.toNat_setWidth, hmul, BitVec.toNat_ofNat,
    Nat.mod_eq_of_lt (lt_trans hlt (by decide)), Nat.mod_eq_of_lt (lt_trans hsize (by decide)),
    Nat.mod_eq_of_lt hprod]

end Sizes

/-! ## The ladder -/

/-- What the bos are created with, in the order they are. -/
def boSize (M K N : U32) (b : ℕ) : U64 :=
  if b = regcmdBo then sizeofNpuRegs
  else if b = inputBo then bytes M K 2
  else if b = weightsBo then bytes N K 2
  else bytes M N 4

/-- The first `n` bos are there. -/
def created (M K N : U32) (n : ℕ) : ℕ → Option U64 := fun b =>
  if b < n then some (boSize M K N b) else none

section Ladder

variable {M K N : U32} {s : System} {ret : ℤ}

section Bytes

variable (h : ValidSizes M.toNat K.toNat N.toNat)
include h

theorem le_sizes : M.toNat ≤ MAX_M ∧ K.toNat ≤ MAX_K ∧ N.toNat ≤ MAX_N :=
  ⟨h.m.2.1, h.k.2.1, h.n.2.1⟩

theorem toNat_inputBytes : (boSize M K N inputBo).toNat = M.toNat * K.toNat * 2 :=
  toNat_bytes (le_sizes h).1 (le_sizes h).2.1 (by decide) (by decide)

theorem toNat_weightsBytes : (boSize M K N weightsBo).toNat = N.toNat * K.toNat * 2 :=
  toNat_bytes (le_sizes h).2.2 (le_sizes h).2.1 (by decide) (by decide)

theorem toNat_outputBytes : (boSize M K N outputBo).toNat = M.toNat * N.toNat * 4 :=
  toNat_bytes (le_sizes h).1 (le_sizes h).2.2 (by decide) (by decide)

theorem toNat_inputCount : (M * K).toNat = M.toNat * K.toNat :=
  toNat_mul_of_le (le_sizes h).1 (le_sizes h).2.1 (by decide)

theorem toNat_weightsCount : (N * K).toNat = N.toNat * K.toNat :=
  toNat_mul_of_le (le_sizes h).2.2 (le_sizes h).2.1 (by decide)

theorem toNat_outputCount : (M * N).toNat = M.toNat * N.toNat :=
  toNat_mul_of_le (le_sizes h).1 (le_sizes h).2.2 (by decide)

end Bytes

theorem toNat_regcmdBytes : (boSize M K N regcmdBo).toNat = taskWords * 8 := rfl

theorem created_succ (n : ℕ) : created M K N (n + 1) =
    Function.update (created M K N n) n (some (boSize M K N n)) := by
  funext b
  by_cases heq : b = n
  · simp [created, heq]
  · simp only [created, Function.update_of_ne heq, Nat.lt_succ_iff_lt_or_eq, heq, or_false]

theorem created_self (n : ℕ) : created M K N n n = none := if_neg (lt_irrefl n)

/-- The next bo is created, or what there is stays. -/
theorem create_ensures {n : ℕ} (h : s.Holding ctx (created M K N n))
    {Q : ℤ × RocketBo → System → Prop}
    (hfailed : ∀ ret bo s', ret < 0 → s'.Holding ctx (created M K N n) → Q (ret, bo) s')
    (hok : ∀ bo s', s'.Holding ctx (created M K N (n + 1)) → Q (0, bo) s') :
    (boCreate ctx n (boSize M K N n)).Ensures api Q s := by
  refine h.ensures_create (created_self n) fun r s' hcreate => ?_
  cases hcreate with
  | ok _ h =>
      rw [← created_succ] at h
      exact hok _ _ h
  | failed hret h => exact hfailed _ _ _ hret h

theorem errClose_ensures (h : s.Holding ctx (created M K N 0)) :
    (errClose ret).Ensures api (fun _ s' => s'.Released) s :=
  ensures_bind.mpr (h.ensures_close fun _ h => h)

theorem errFreeRegcmd_ensures (h : s.Holding ctx (created M K N 1)) :
    (errFreeRegcmd ret).Ensures api (fun _ s' => s'.Released) s := by
  rw [created_succ] at h
  exact ensures_bind.mpr (h.ensures_destroy (created_self 0) fun _ h => errClose_ensures h)

theorem errFreeInput_ensures (h : s.Holding ctx (created M K N 2)) :
    (errFreeInput ret).Ensures api (fun _ s' => s'.Released) s := by
  rw [created_succ] at h
  exact ensures_bind.mpr (h.ensures_destroy (created_self 1) fun _ h => errFreeRegcmd_ensures h)

theorem errFreeWeights_ensures (h : s.Holding ctx (created M K N 3)) :
    (errFreeWeights ret).Ensures api (fun _ s' => s'.Released) s := by
  rw [created_succ] at h
  exact ensures_bind.mpr (h.ensures_destroy (created_self 2) fun _ h => errFreeInput_ensures h)

theorem errFreeOutput_ensures (h : s.Holding ctx (created M K N 4)) :
    (errFreeOutput ret).Ensures api (fun _ s' => s'.Released) s := by
  rw [created_succ] at h
  exact ensures_bind.mpr (h.ensures_destroy (created_self 3) fun _ h => errFreeWeights_ensures h)

end Ladder

/-! ## The library -/

/-- What `main` needs of the library: a generator that stays within `npu_regs` and
does not count past it, and layouts that stay within the buffers. -/
structure Library.Fits (lib : Library) : Prop where
  stores : ∀ params, ∀ i ∈ WriteLog.keys (lib.genMatmulFp16 params).stores, i < taskWords
  ret_le : ∀ params, (lib.genMatmulFp16 params).ret ≤ taskWords
  weights : ∀ {M K N : ℕ}, ValidSizes M K N → ∀ n < N, ∀ k < K,
    ∃ slot < N * K, lib.weights K (n + 1) (k + 1) = some (slot : ℤ)
  input : ∀ {M K N : ℕ}, ValidSizes M K N → ∀ m < M, ∀ k < K,
    ∃ slot < M * K, lib.input M K (m + 1) (k + 1) = some (slot : ℤ)
  output : ∀ {M K N : ℕ}, ValidSizes M K N → ∀ m < M, ∀ n < N,
    ∃ slot < M * N, lib.output M N (m + 1) (n + 1) = some (slot : ℤ)

/-- A matrix let through is far from the end of an `int`. -/
theorem mul_lt_of_le {x y : ℕ} (hx : x ≤ MAX_N) (hy : y ≤ MAX_K) : x * y < 2 ^ 31 := by
  calc x * y ≤ MAX_N * MAX_K := Nat.mul_le_mul hx hy
    _ < 2 ^ 31 := by decide

theorem reference_fits (stack : Stack) : (library (.reference stack)).Fits where
  stores params := by
    show ∀ i ∈ WriteLog.keys (genMatmul fp16Kind stack params).stores, i < taskWords
    by_cases h : Accepts fp16Kind params
    · rw [genMatmul_of_accepts stack h, keys_genMatmulTask]
      intro i hi
      exact lt_trans (List.mem_range.mp hi) (by decide)
    · obtain ⟨code, -, heq⟩ := genMatmul_of_not_accepts stack h
      rw [heq]
      intro i hi
      cases hi
  ret_le params := by
    show (genMatmul fp16Kind stack params).ret ≤ taskWords
    by_cases h : Accepts fp16Kind params
    · rw [genMatmul_of_accepts stack h]
      exact Int.natCast_nonneg taskWords
    · obtain ⟨code, hneg, heq⟩ := genMatmul_of_not_accepts stack h
      rw [heq]
      exact le_trans hneg.le (by decide)
  weights := by
    rintro M K N ⟨-, ⟨-, hK, hK32⟩, ⟨-, hN, hN16⟩⟩ n hn k hk
    exact ⟨_, (weightLayout 16 K N (by decide) hK32 hN16).slot_lt (n, k) (mem_grid.mpr ⟨hn, hk⟩),
      weightTile_slot (by decide) hK32 hN16 (mul_lt_of_le hN hK) hn hk⟩
  input := by
    rintro M K N ⟨⟨-, hM, -⟩, ⟨-, hK, hK32⟩, -⟩ m hm k hk
    have hK8 : 8 ∣ K := dvd_trans (by decide) hK32
    exact ⟨_, (featureLayout K M 8 (by decide) hK8).slot_lt (m, k) (mem_grid.mpr ⟨hm, hk⟩),
      featureData_slot (by decide) hK8 (mul_lt_of_le (le_trans hM (by decide)) hK) hm hk⟩
  output := by
    rintro M K N ⟨⟨-, hM, -⟩, -, ⟨-, hN, hN16⟩⟩ m hm n hn
    have hN4 : 4 ∣ N := dvd_trans (by decide) hN16
    exact ⟨_, (featureLayout N M 4 (by decide) hN4).slot_lt (m, n) (mem_grid.mpr ⟨hm, hn⟩),
      featureData_slot (by decide) hN4 (mul_lt_of_le (le_trans hM (by decide)) hN) hm hn⟩

/-- A generator that returns its running index. -/
theorem emit_fits {words : List U64} (hlength : words.length ≤ taskWords) :
    (∀ i ∈ WriteLog.keys (GenResult.emit words).stores, i < taskWords) ∧
      (GenResult.emit words).ret ≤ taskWords := by
  have hkeys : WriteLog.keys (GenResult.emit words).stores = List.range' 0 words.length :=
    keys_emitFrom 0 words
  constructor
  · intro i hi
    rw [hkeys, List.mem_range'_1] at hi
    omega
  · rw [GenResult.emit, emitFrom_last, Nat.zero_add]
    exact Int.ofNat_le.mpr hlength

theorem length_mesa (params : MatmulParams) :
    ∃ words : List U64, Mesa.genMatmulFp16 params = GenResult.emit words ∧
      words.length ≤ taskWords := by
  refine ⟨_, rfl, ?_⟩
  rw [List.length_map, Mesa.length_regcmds]
  decide

theorem mesa_fits : (library .mesa).Fits where
  stores params := by
    obtain ⟨words, heq, hlength⟩ := length_mesa params
    show ∀ i ∈ WriteLog.keys (Mesa.genMatmulFp16 params).stores, i < taskWords
    rw [heq]
    exact (emit_fits hlength).1
  ret_le params := by
    obtain ⟨words, heq, hlength⟩ := length_mesa params
    show (Mesa.genMatmulFp16 params).ret ≤ taskWords
    rw [heq]
    exact (emit_fits hlength).2
  weights := by
    rintro M K N ⟨-, ⟨hK, -⟩, ⟨hN, -⟩⟩ n _ k _
    exact ⟨0, Nat.mul_pos hN hK, rfl⟩
  input := by
    rintro M K N ⟨⟨hM, -⟩, ⟨hK, -⟩, -⟩ m _ k _
    exact ⟨0, Nat.mul_pos hM hK, rfl⟩
  output := by
    rintro M K N ⟨⟨hM, -⟩, -, ⟨hN, -⟩⟩ m _ n _
    exact ⟨0, Nat.mul_pos hM hN, rfl⟩

/-! ## The parts of `main` -/

section Parts

variable {lib : Library} {F : Floats} {random : ℕ → CInt} {M K N : U32} {s : System}

/-- What the program has while it computes. -/
theorem created_four {b : ℕ} (hb : b < 4) : created M K N 4 b = some (boSize M K N b) := if_pos hb

theorem ensures_defined {α : Type} {x : Option α} {a : α} (hx : x = some a)
    {Q : α → System → Prop} (hQ : Q a s) : (defined x).Ensures api Q s := by
  rw [hx]
  exact hQ

/-- An element of a buffer ends before the buffer does. -/
theorem slot_bytes {slot count size : ℕ} (hslot : slot < count) :
    ((slot : ℤ) + 1) * size ≤ ((count * size : ℕ) : ℤ) := by
  exact_mod_cast Nat.mul_le_mul_right size hslot

theorem copyCommands_ensures (h : s.Holding ctx (created M K N 4)) {numCommands : ℕ}
    (hcount : numCommands ≤ taskWords) (npuRegs : ℕ → U64) :
    (copyCommands numCommands npuRegs).Ensures api (fun _ s' => s'.Holding ctx (created M K N 4))
      s := by
  refine Ensures.forM_range (I := fun _ s' => System.Holding s' ctx (created M K N 4)) ?_ h
  intro i hi s h
  have hi' : i < taskWords := lt_of_lt_of_le hi hcount
  refine ensures_bind.mpr (ensures_defined (if_pos hi') ?_)
  refine h.ensures_store (created_four (by decide)) (Int.natCast_nonneg i) ?_ h
  rw [toNat_regcmdBytes]
  exact slot_bytes hi'

theorem packRows_ensures {b size rows K' : ℕ} {place : ℤ → ℤ → Option ℤ} (hb : b < 4)
    (hsize : rows * K' ≤ size) (hbytes : (boSize M K N b).toNat = rows * K' * 2)
    (hplace : ∀ r < rows, ∀ k < K', ∃ slot < rows * K', place (r + 1) (k + 1) = some (slot : ℤ))
    (h : s.Holding ctx (created M K N 4)) (matrix : ℕ → Fp16) :
    (packRows b size rows K' place matrix).Ensures api
      (fun _ s' => s'.Holding ctx (created M K N 4)) s := by
  refine Ensures.forM_range (I := fun _ s' => System.Holding s' ctx (created M K N 4)) ?_ h
  intro r hr s h
  refine Ensures.forM_range (I := fun _ s' => System.Holding s' ctx (created M K N 4)) ?_ h
  intro k hk s h
  have hindex : r * K' + k < size := lt_of_lt_of_le (Tile.lt_mul hr hk) hsize
  obtain ⟨slot, hslot, heq⟩ := hplace r hr k hk
  refine ensures_bind.mpr (ensures_defined (if_pos hindex) ?_)
  refine ensures_bind.mpr (ensures_defined heq ?_)
  refine h.ensures_store (created_four hb) (Int.natCast_nonneg slot) ?_ h
  rw [hbytes]
  exact slot_bytes hslot

theorem packWeights_ensures (hlib : lib.Fits) (hsizes : ValidSizes M.toNat K.toNat N.toNat)
    (h : s.Holding ctx (created M K N 4)) (matrixB : ℕ → Fp16) :
    (packWeights lib N.toNat K.toNat matrixB).Ensures api
      (fun _ s' => s'.Holding ctx (created M K N 4)) s := by
  obtain ⟨-, hK, hN⟩ := le_sizes hsizes
  exact packRows_ensures (by decide) (Nat.mul_le_mul hN hK) (toNat_weightsBytes hsizes)
    (hlib.weights hsizes) h matrixB

theorem packInput_ensures (hlib : lib.Fits) (hsizes : ValidSizes M.toNat K.toNat N.toNat)
    (h : s.Holding ctx (created M K N 4)) (matrixA : ℕ → Fp16) :
    (packInput lib M.toNat K.toNat matrixA).Ensures api
      (fun _ s' => s'.Holding ctx (created M K N 4)) s := by
  obtain ⟨hM, hK, -⟩ := le_sizes hsizes
  exact packRows_ensures (by decide) (Nat.mul_le_mul hM hK) (toNat_inputBytes hsizes)
    (hlib.input hsizes) h matrixA

theorem report_ensures (h : s.Holding ctx (created M K N 4)) (errors m n : ℕ)
    (expected actual : Fp32) : (report errors m n expected actual).Ensures api
      (fun _ s' => s'.Holding ctx (created M K N 4)) s := by
  unfold report
  split
  · exact System.ensures_print h
  · exact h

theorem verify_ensures (hlib : lib.Fits) (hsizes : ValidSizes M.toNat K.toNat N.toNat)
    (h : s.Holding ctx (created M K N 4)) (expectedResult : ℕ → Fp32) :
    (verify lib F M.toNat N.toNat expectedResult).Ensures api
      (fun _ s' => s'.Holding ctx (created M K N 4)) s := by
  obtain ⟨hM, -, hN⟩ := le_sizes hsizes
  refine Ensures.foldlM_range (I := fun _ _ s' => System.Holding s' ctx (created M K N 4)) ?_ h
  intro m hm errors s h
  refine Ensures.foldlM_range (I := fun _ _ s' => System.Holding s' ctx (created M K N 4)) ?_ h
  intro n hn errors s h
  have hn' : n < N.toNat := lt_of_lt_of_le hn (Nat.sub_le _ _)
  have hindex : m * N.toNat + n < MAX_M * MAX_N :=
    lt_of_lt_of_le (Tile.lt_mul hm hn') (Nat.mul_le_mul hM hN)
  obtain ⟨slot, hslot, heq⟩ := hlib.output hsizes m hm n hn'
  refine ensures_bind.mpr (ensures_defined heq ?_)
  refine ensures_bind.mpr ?_
  refine h.ensures_load (created_four (by decide)) (Int.natCast_nonneg slot) ?_ ?_
  · rw [toNat_outputBytes hsizes]
    exact slot_bytes hslot
  intro actual
  refine ensures_bind.mpr (ensures_defined (if_pos hindex) ?_)
  split
  · exact ensures_bind.mpr (report_ensures h errors m n _ _)
  · exact h

/-- Every end of the computation leaves the four bos as they are. -/
theorem compute_ensures (hlib : lib.Fits) (hsizes : ValidSizes M.toNat K.toNat N.toNat)
    (h : s.Holding ctx (created M K N 4)) (input weights output : RocketBo) :
    (compute lib F random M K N input weights output).Ensures api
      (fun _ s' => s'.Holding ctx (created M K N 4)) s := by
  obtain ⟨hM, hK, hN⟩ := le_sizes hsizes
  have hin := toNat_inputCount hsizes
  have hweights := toNat_weightsCount hsizes
  have hA : (M * K).toNat ≤ MAX_M * MAX_K := hin ▸ Nat.mul_le_mul hM hK
  have hB : (N * K).toNat ≤ MAX_N * MAX_K := hweights ▸ Nat.mul_le_mul hN hK
  unfold compute
  refine ensures_bind.mpr (ensures_defined (if_pos (hlib.stores _)) ?_)
  split
  next => exact ensures_bind.mpr (System.ensures_print h)
  next hret =>
    refine ensures_bind.mpr (System.ensures_print ?_)
    refine (copyCommands_ensures h ?_ _).bind fun _ s h => ?_
    · exact Int.toNat_le.mpr (hlib.ret_le _)
    refine ensures_bind.mpr (ensures_defined (if_pos hA) ?_)
    refine ensures_bind.mpr (ensures_defined (if_pos hB) ?_)
    refine ensures_bind.mpr (h.ensures_clear (created_four (by decide)) ?_ ?_)
    · rw [toNat_weightsBytes hsizes, hweights]
      exact le_refl _
    refine (packWeights_ensures hlib hsizes h _).bind fun _ s h => ?_
    refine ensures_bind.mpr (h.ensures_clear (created_four (by decide)) ?_ ?_)
    · rw [toNat_inputBytes hsizes, hin]
      exact le_refl _
    refine (packInput_ensures hlib hsizes h _).bind fun _ s h => ?_
    refine ensures_bind.mpr (h.ensures_clear (created_four (by decide)) ?_ ?_)
    · rw [toNat_outputBytes hsizes, toNat_outputCount hsizes]
      exact le_refl _
    refine ensures_bind.mpr (ensures_defined (matmulFp32Cpu_eq hM hK hN _ _) ?_)
    refine ensures_bind.mpr (h.ensures_fini (created_four (by decide)) fun _ s h => ?_)
    refine ensures_bind.mpr (h.ensures_fini (created_four (by decide)) fun _ s h => ?_)
    refine ensures_bind.mpr (h.ensures_fini (created_four (by decide)) fun _ s h => ?_)
    refine ensures_bind.mpr (h.ensures_fini (created_four (by decide)) fun _ s h => ?_)
    refine ensures_bind.mpr (System.ensures_print ?_)
    refine ensures_bind.mpr (h.ensures_submit ?_ fun ret s h => ?_)
    · simp [created, regcmdBo, inputBo, weightsBo, outputBo]
    split
    · exact ensures_bind.mpr (System.ensures_print h)
    refine ensures_bind.mpr (System.ensures_print ?_)
    refine ensures_bind.mpr (h.ensures_prep (created_four (by decide)) fun ret s h => ?_)
    split
    · exact ensures_bind.mpr (System.ensures_print h)
    refine ensures_bind.mpr (System.ensures_print ?_)
    refine (verify_ensures hlib hsizes h _).bind fun errors s h => ?_
    split
    · exact ensures_bind.mpr (System.ensures_print h)
    · exact ensures_bind.mpr (System.ensures_print h)

theorem test_ensures (hlib : lib.Fits) (hsizes : ValidSizes M.toNat K.toNat N.toNat)
    (h : s.Released) : (test lib F random M K N).Ensures api (fun _ s' => s'.Released) s := by
  unfold test
  refine ensures_bind.mpr (h.ensures_open fun ret s hopen => ?_)
  cases hopen with
  | failed hret h =>
      rw [if_pos hret]
      exact ensures_bind.mpr (System.ensures_print h)
  | ok h =>
  rw [if_neg (lt_irrefl 0)]
  refine ensures_bind.mpr (System.ensures_print ?_)
  -- One bo after the other: a create that fails jumps to the label for those before it.
  refine ensures_bind.mpr (create_ensures (n := regcmdBo) (M := M) (K := K) (N := N) h
    (fun ret bo s hret h => ?_) fun bo s h => ?_)
  · simp only [if_pos hret]
    exact errClose_ensures h
  simp only [lt_irrefl, if_false]
  refine ensures_bind.mpr (create_ensures (n := inputBo) h
    (fun ret bo s hret h => ?_) fun bo s h => ?_)
  · simp only [if_pos hret]
    exact errFreeRegcmd_ensures h
  simp only [lt_irrefl, if_false]
  refine ensures_bind.mpr (create_ensures (n := weightsBo) h
    (fun ret bo s hret h => ?_) fun bo s h => ?_)
  · simp only [if_pos hret]
    exact errFreeInput_ensures h
  simp only [lt_irrefl, if_false]
  refine ensures_bind.mpr (create_ensures (n := outputBo) h
    (fun ret bo s hret h => ?_) fun bo s h => ?_)
  · simp only [if_pos hret]
    exact errFreeWeights_ensures h
  simp only [lt_irrefl, if_false]
  refine ensures_bind.mpr (System.ensures_print ?_)
  refine ensures_bind.mpr (System.ensures_print ?_)
  refine ensures_bind.mpr (System.ensures_print ?_)
  refine ensures_bind.mpr (System.ensures_print ?_)
  refine ensures_bind.mpr (System.ensures_print ?_)
  exact (compute_ensures hlib hsizes h _ _ _).bind fun _ _ h => errFreeOutput_ensures h

/-! ## The checks of the command line -/

theorem mod_ne_zero_iff {x d : U32} : x % d ≠ 0 ↔ ¬ d.toNat ∣ x.toNat := by
  rw [Nat.dvd_iff_mod_eq_zero, ← BitVec.toNat_umod, not_iff_not]
  exact ⟨fun h => congrArg BitVec.toNat h, fun h => BitVec.eq_of_toNat_eq h⟩

theorem checkM_iff : (M ≤ 0 ∨ M > BitVec.ofNat 32 MAX_M ∨ (M % 4 ≠ 0 ∧ M ≠ 1)) ↔
    ¬ (0 < M.toNat ∧ M.toNat ≤ 384 ∧ (4 ∣ M.toNat ∨ M.toNat = 1)) := by
  have hone : M ≠ 1 ↔ ¬ M.toNat = 1 :=
    not_congr ⟨congrArg _, fun h => BitVec.eq_of_toNat_eq h⟩
  rw [mod_ne_zero_iff, hone, not_and_or, not_and_or, not_or, gt_iff_lt, BitVec.lt_def,
    BitVec.le_def, not_lt, not_le]
  rfl

/-- The checks of `K` and `N`. -/
theorem check_iff {x top d : U32} : (x ≤ 0 ∨ x > top ∨ x % d ≠ 0) ↔
    ¬ (0 < x.toNat ∧ x.toNat ≤ top.toNat ∧ d.toNat ∣ x.toNat) := by
  rw [mod_ne_zero_iff, not_and_or, not_and_or, gt_iff_lt, BitVec.lt_def, BitVec.le_def, not_lt,
    not_le]
  rfl

theorem main_ensures (hlib : lib.Fits) {name : List Char} {args : List (List Char)}
    (hargs : args.length = 3 → ∀ arg ∈ args, (atoi arg).isSome = true) (h : s.Released) :
    (main lib F random name args).Ensures api (fun _ s' => s'.Released) s := by
  unfold main
  split
  next m k n =>
    obtain ⟨M, hM⟩ := Option.isSome_iff_exists.mp (hargs rfl m (by simp))
    obtain ⟨K, hK⟩ := Option.isSome_iff_exists.mp (hargs rfl k (by simp))
    obtain ⟨N, hN⟩ := Option.isSome_iff_exists.mp (hargs rfl n (by simp))
    refine ensures_bind.mpr (ensures_defined hM ?_)
    refine ensures_bind.mpr (ensures_defined hK ?_)
    refine ensures_bind.mpr (ensures_defined hN ?_)
    split
    next => exact ensures_bind.mpr (System.ensures_print h)
    next hM =>
    split
    next => exact ensures_bind.mpr (System.ensures_print h)
    next hK =>
    split
    next => exact ensures_bind.mpr (System.ensures_print h)
    next hN =>
    refine ensures_bind.mpr (System.ensures_print ?_)
    exact test_ensures hlib ⟨not_not.mp (checkM_iff.not.mp hM), not_not.mp (check_iff.not.mp hK),
      not_not.mp (check_iff.not.mp hN)⟩ h
  next =>
    refine ensures_bind.mpr (System.ensures_print ?_)
    refine ensures_bind.mpr (System.ensures_print ?_)
    refine ensures_bind.mpr (System.ensures_print ?_)
    exact ensures_bind.mpr (System.ensures_print h)

end Parts

/-! ## Past the end of `npu_regs` -/

section Overrun

variable {lib : Library} {F : Floats} {random : ℕ → CInt} {M K N : U32} {s : System}
  {α : Type} {Q : α → System → Prop}

theorem create_refute {n : ℕ} (hn : n + 2 < 2 ^ 32) (h : s.Holding ctx (created M K N n))
    {f : ℤ × RocketBo → Program α}
    (hf : ∀ (bo : RocketBo) (s' : System), s'.Holding ctx (created M K N (n + 1)) →
      ¬ (f (0, bo)).Ensures api Q s') :
    ¬ (boCreate ctx n (boSize M K N n) >>= f).Ensures api Q s := by
  refine h.refute_create (created_self n) hn ?_ ?_
  · intro b hb
    by_contra hle
    exact hb (if_neg hle)
  · rw [← created_succ]
    exact hf

theorem compute_refute {input weights output : RocketBo} {Q : ℤ → System → Prop}
    (hlib : ∀ params, ∃ i ∈ WriteLog.keys (lib.genMatmulFp16 params).stores, taskWords ≤ i) :
    ¬ (compute lib F random M K N input weights output).Ensures api Q s := by
  have hleft : ∀ params, npuRegs (lib.genMatmulFp16 params) = none := by
    intro params
    obtain ⟨i, hi, hle⟩ := hlib params
    exact if_neg fun hall => absurd (hall i hi) (not_lt.mpr hle)
  unfold compute
  simp only [hleft]
  exact System.refute_undefined

/-- A generator that leaves `npu_regs` is reached once four bos are there. -/
theorem test_refute {Q : ℤ → System → Prop}
    (hlib : ∀ params, ∃ i ∈ WriteLog.keys (lib.genMatmulFp16 params).stores, taskWords ≤ i)
    (h : s.Released) : ¬ (test lib F random M K N).Ensures api Q s := by
  unfold test
  refine h.refute_open fun s h => ?_
  rw [if_neg (lt_irrefl 0)]
  refine System.refute_print ?_
  refine create_refute (n := regcmdBo) (M := M) (K := K) (N := N) (by decide) h fun _ s h => ?_
  simp only [lt_irrefl, if_false]
  refine create_refute (n := inputBo) (by decide) h fun _ s h => ?_
  simp only [lt_irrefl, if_false]
  refine create_refute (n := weightsBo) (by decide) h fun _ s h => ?_
  simp only [lt_irrefl, if_false]
  refine create_refute (n := outputBo) (by decide) h fun _ s h => ?_
  simp only [lt_irrefl, if_false]
  refine System.refute_print (System.refute_print (System.refute_print (System.refute_print
    (System.refute_print ?_))))
  rw [ensures_bind]
  exact compute_refute hlib

theorem full_leaves (consts : Full.Undefined) (params : MatmulParams) :
    ∃ i ∈ WriteLog.keys (Full.genMatmulFp16 consts params).stores, taskWords ≤ i := by
  have hkeys : WriteLog.keys (Full.genMatmulFp16 consts params).stores =
      List.range' 0 (Full.words consts params).length := keys_emitFrom 0 _
  rw [hkeys, Full.length_words]
  exact ⟨taskWords, by decide, le_rfl⟩

/-- The smallest product there is. -/
theorem main_refute
    (hlib : ∀ params, ∃ i ∈ WriteLog.keys (lib.genMatmulFp16 params).stores, taskWords ≤ i)
    (name : List Char) {Q : ℤ → System → Prop} (h : s.Released) :
    ¬ (main lib F random name [['1'], ['3', '2'], ['1', '6']]).Ensures api Q s := by
  have hm : atoi ['1'] = some 1 := by decide
  have hk : atoi ['3', '2'] = some 32 := by decide
  have hn : atoi ['1', '6'] = some 16 := by decide
  unfold main
  simp only [hm, hk, hn]
  exact System.refute_print (test_refute hlib h)

end Overrun

/-- **Cleaning up.** Linked with `npu_matmul.c` or with `npu_matmul_mesa.c`, and with
`npu_matmul_full.c` not, `main` breaks no duty of its calls on any path, stays inside
its mappings and arrays and leaves nothing behind, on every command line whose numbers
fit an `int`. -/
theorem main_cleansUp_iff (impl : Impl) (F : Floats) (random : ℕ → CInt) (name : List Char) :
    (∀ args : List (List Char), (args.length = 3 → ∀ arg ∈ args, (atoi arg).isSome = true) →
      (main (library impl) F random name args).CleansUp) ↔ ∀ consts, impl ≠ .full consts := by
  constructor
  · rintro hall consts rfl
    have hsmall := hall [['1'], ['3', '2'], ['1', '6']] fun _ => by decide
    obtain ⟨hensures, -⟩ := hsmall (fun _ => ⟨-1⟩) fun _ => unusedBo
    exact main_refute (full_leaves consts) name (.initial _ _) hensures
  · intro hfull args hargs
    refine .of_ensures fun s h => ?_
    cases impl with
    | reference stack => exact main_ensures (reference_fits stack) hargs h
    | mesa => exact main_ensures mesa_fits hargs h
    | full consts => exact absurd rfl (hfull consts)

end Librocket.MatmulTest
