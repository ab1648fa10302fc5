import Librocket.Rocket.Verdict

/-!
# What the test says of each library

With the layouts of `npu_matmul.c` the operands reach the NPU bit for bit, but no
command does, and on an NPU that does nothing without commands the test passes
for a product of zeros only. With `npu_matmul_mesa.c` the commands arrive and the
operands do not: its layouts put every element in one place, and the test compares
the whole reference with the one element it finds there.
-/

namespace Librocket.MatmulTest

open Rocket Rocket.Device Rocket.Device.Program Client
open Mesa (ValidSizes)

/-! ## Operands -/

/-- A buffer of `rows * K` elements that is a matrix, element by element. -/
structure Carries (place : ℤ → ℤ → Option ℤ) (rows K : ℕ) (matrix : ℕ → Fp16)
    (image : Bytes.Image) : Prop where
  read : ∀ r < rows, ∀ k < K,
    Bytes.load 2 (slotOf place r k) image = (matrix (r * K + k)).setWidth 64
  bijOn : Set.BijOn (fun a : ℕ × ℕ => slotOf place a.1 a.2) {a | a.1 < rows ∧ a.2 < K}
    (Set.Iio (rows * K))

section Words

variable {rows K : ℕ} {place : ℤ → ℤ → Option ℤ}

/-- The stores as a log of words. -/
theorem words_storeRows (matrix : ℕ → Fp16) (image : Bytes.Image) :
    Bytes.words 2 (storeRows rows K place matrix image) =
      WriteLog.apply ((grid rows K).map fun a =>
        (slotOf place a.1 a.2, (matrix (a.1 * K + a.2)).setWidth 64)) (Bytes.words 2 image) := by
  have hstore : ∀ (a : ℕ × ℕ) (image : Bytes.Image),
      Bytes.words 2 (Bytes.store 2 (slotOf place a.1 a.2) ((matrix (a.1 * K + a.2)).setWidth 64)
        image) = Function.update (Bytes.words 2 image) (slotOf place a.1 a.2)
          ((matrix (a.1 * K + a.2)).setWidth 64) := by
    intro a image
    apply Bytes.words_store (by decide)
    rw [BitVec.toNat_setWidth]
    exact lt_of_le_of_lt (Nat.mod_le _ _) (matrix _).isLt
  have hgrid : storeRows rows K place matrix image = (grid rows K).foldl (fun image a =>
      Bytes.store 2 (slotOf place a.1 a.2) ((matrix (a.1 * K + a.2)).setWidth 64) image) image := by
    show _ = ((List.range rows).flatMap fun r => (List.range K).map (Prod.mk r)).foldl _ _
    simp only [List.foldl_flatMap, List.foldl_map]
    rfl
  rw [hgrid, WriteLog.apply, List.foldl_map]
  clear hgrid
  induction grid rows K generalizing image with
  | nil => rfl
  | cons a as ih => rw [List.foldl_cons, List.foldl_cons, ih, hstore]

/-- A full layout carries the matrix. -/
theorem carries_of_layout (L : Layout (ℕ × ℕ)) (hcells : L.cells = grid rows K)
    (hsize : L.size = rows * K) (hfull : L.Full)
    (hplace : ∀ r < rows, ∀ k < K, slotOf place r k = L.slot (r, k)) (matrix : ℕ → Fp16)
    (image : Bytes.Image) : Carries place rows K matrix (storeRows rows K place matrix image) where
  read := by
    intro r hr k hk
    show Bytes.words 2 _ _ = _
    have hlog : ((grid rows K).map fun a =>
        (slotOf place a.1 a.2, (matrix (a.1 * K + a.2)).setWidth 64)) =
        L.log fun a => (matrix (a.1 * K + a.2)).setWidth 64 := by
      rw [Layout.log, hcells]
      refine List.map_congr_left fun a ha => ?_
      obtain ⟨ha1, ha2⟩ := mem_grid.mp ha
      rw [hplace a.1 ha1 a.2 ha2]
    have hmem : (r, k) ∈ L.cells := by
      rw [hcells]
      exact mem_grid.mpr ⟨hr, hk⟩
    rw [words_storeRows, hlog, hplace r hr k hk, L.read _ _ hmem]
  bijOn := by
    have hbij := hfull.bijOn
    rw [hcells, hsize] at hbij
    have hset : {a : ℕ × ℕ | a ∈ grid rows K} = {a | a.1 < rows ∧ a.2 < K} := by
      ext a
      exact mem_grid
    rw [hset] at hbij
    exact hbij.congr fun a ha => (hplace a.1 ha.1 a.2 ha.2).symm

end Words

/-- An accepted size is not cut in `params`. -/
theorem toNat_size {x : U32} (hx : x.toNat ≤ 4096) : (x.setWidth 16).toNat = x.toNat := by
  rw [BitVec.toNat_setWidth]
  exact Nat.mod_eq_of_lt (lt_of_le_of_lt hx (by decide))

theorem validSizes_smallest :
    ValidSizes (1 : U32).toNat (32 : U32).toNat (16 : U32).toNat :=
  ⟨by decide, by decide, by decide⟩

section Reference

variable {T : Setup} {stack : Stack} {M K N : U32}

/-- **What the NPU is given by `npu_matmul.c`**: both matrices, without a gap, an
overlap or a lost bit. -/
theorem reference_operands (hlib : T.lib = library (.reference stack))
    (hsizes : ValidSizes M.toNat K.toNat N.toNat) (dma : ℕ → U64) :
    Carries (T.lib.input M.toNat K.toNat) M.toNat K.toNat (T.matrixA M K)
        (T.operands M K N dma inputBo) ∧
      Carries (T.lib.weights K.toNat) N.toNat K.toNat (T.matrixB M K N)
        (T.operands M K N dma weightsBo) := by
  obtain ⟨⟨-, hM, -⟩, ⟨-, hK, hK32⟩, ⟨-, hN, hN16⟩⟩ := hsizes
  have hK8 : 8 ∣ K.toNat := dvd_trans (by decide) hK32
  obtain ⟨lib, F, random, hw⟩ := T
  cases hlib
  constructor
  · refine carries_of_layout (featureLayout K.toNat M.toNat 8 (by decide) hK8) rfl rfl
      (featureLayout_full _ _ _ _ _) ?_ _ _
    intro m hm k hk
    exact slotOf_eq (featureData_slot (by decide) hK8
      (mul_lt_of_le (le_trans hM (by decide)) hK) hm hk)
  · refine carries_of_layout (weightLayout 16 K.toNat N.toNat (by decide) hK32 hN16) rfl rfl
      (weightLayout_full _ _ _ _ _ _) ?_ _ _
    intro n hn k hk
    exact slotOf_eq (weightTile_slot (by decide) hK32 hN16 (mul_lt_of_le hN hK) hn hk)

theorem reference_operands_sample :
    let T := sample (.reference default)
    Carries (T.lib.input 1 32) 1 32 (T.matrixA 1 32) (T.operands 1 32 16 (fun _ => 0) inputBo) ∧
      Carries (T.lib.weights 32) 16 32 (T.matrixB 1 32 16)
        (T.operands 1 32 16 (fun _ => 0) weightsBo) :=
  reference_operands (T := sample (.reference default)) rfl validSizes_smallest fun _ => 0

/-- It accepts what fits eleven banks, and returns no count. -/
theorem reference_generated (hlib : T.lib = library (.reference stack))
    (hsizes : ValidSizes M.toNat K.toNat N.toNat) (dma : ℕ → U64) :
    (T.generated M K N dma).ret = 0 ∧ M.toNat * K.toNat ≤ 180224 ∨
      (T.generated M K N dma).ret < 0 ∧ ¬ M.toNat * K.toNat ≤ 180224 := by
  obtain ⟨lib, F, random, hw⟩ := T
  cases hlib
  show (genMatmul fp16Kind stack _).ret = 0 ∧ _ ∨ (genMatmul fp16Kind stack _).ret < 0 ∧ _
  have haccepts : Accepts fp16Kind (params M K N (dma inputBo) (dma weightsBo) (dma outputBo)) ↔
      M.toNat * K.toNat ≤ 180224 := by
    obtain ⟨⟨-, hM, -⟩, ⟨-, hK, -⟩, -⟩ := hsizes
    have hm : (M.setWidth 16).toNat = M.toNat := toNat_size (le_trans hM (by decide))
    have hk : (K.setWidth 16).toNat = K.toNat := toNat_size hK
    have hbytes : fp16Kind.bytes = 2 := rfl
    simp only [Accepts, params, hm, hk, hbytes]
    rw [Nat.mul_assoc]
    omega
  rw [← haccepts]
  by_cases h : Accepts fp16Kind (params M K N (dma inputBo) (dma weightsBo) (dma outputBo))
  · exact Or.inl ⟨(ret_genMatmul_iff stack).mpr h, h⟩
  · obtain ⟨code, hneg, heq⟩ := genMatmul_of_not_accepts stack h
    rw [heq]
    exact Or.inr ⟨hneg, h⟩

/-- **What the test says of `npu_matmul.c`**, on an NPU that does nothing unless it
is told to: the sizes are accepted, and the reference is zero wherever it is
compared. No command is submitted. -/
theorem reference_verdict (hlib : T.lib = library (.reference stack))
    (hidle : ∀ dma regcmd images, T.hw.run dma regcmd 0 images = images)
    (hfini : ¬ T.hw.finiFails) {name : List Char} {args : List (List Char)}
    (hargs : args.length = 3 → ∀ arg ∈ args, (atoi arg).isSome = true) :
    (main T.lib T.F T.random name args).Decides T.hw fun _ =>
      ∃ M K N, Accepted args M K N ∧ M.toNat * K.toNat ≤ 180224 ∧
        ∀ m < M.toNat, ∀ n < N.toNat - 1, T.F.ne 0 (T.expected M K N m n) = false := by
  refine decides_of_verified (P := fun M K N _ => M.toNat * K.toNat ≤ 180224 ∧
    ∀ m < M.toNat, ∀ n < N.toNat - 1, T.F.ne 0 (T.expected M K N m n) = false) ?_
    (hlib ▸ reference_fits stack) hfini hargs
  intro M K N dma hsizes
  have hactual : (T.generated M K N dma).ret = 0 → ∀ m < M.toNat, ∀ n < N.toNat - 1,
      T.actual M K N dma m n = 0 := by
    intro hret m hm n hn
    have hresult : T.result M K N dma =
        Bytes.clear (M.toNat * N.toNat * 4) (T.hw.fresh outputBo) := by
      rw [Setup.result, hret]
      exact congrFun (hidle dma regcmdBo _) outputBo
    obtain ⟨slot, hslot, heq⟩ := (hlib ▸ reference_fits stack : T.lib.Fits).output hsizes m hm n
      (lt_of_lt_of_le hn (Nat.sub_le _ _))
    rw [Setup.actual, slotOf_eq heq, hresult, Bytes.load_clear (Nat.mul_le_mul_right 4 hslot)]
    rfl
  rcases reference_generated hlib hsizes dma with ⟨hret, hfit⟩ | ⟨hret, hfit⟩
  · constructor
    · intro hv
      refine ⟨hfit, fun m hm n hn => ?_⟩
      rw [← hactual hret m hm n hn]
      exact hv.equal m hm n hn
    · rintro ⟨-, hequal⟩
      refine ⟨hret.ge, fun m hm n hn => ?_⟩
      rw [hactual hret m hm n hn]
      exact hequal m hm n hn
  · exact iff_of_false (fun hv => absurd hv.generated (not_le.mpr hret)) fun h => hfit h.1

theorem reference_verdict_sample :
    let T := sample (.reference default)
    (main T.lib T.F T.random [] smallest).Decides T.hw fun _ =>
      ∃ M K N, Accepted smallest M K N ∧ M.toNat * K.toNat ≤ 180224 ∧
        ∀ m < M.toNat, ∀ n < N.toNat - 1, T.F.ne 0 (T.expected M K N m n) = false :=
  reference_verdict (T := sample (.reference default)) rfl (fun _ _ _ => rfl) id smallest_isSome

end Reference

section Mesa

variable {T : Setup} {M K N : U32}

/-- The last of a log that writes one key. -/
theorem apply_one_key {V : Type} {a : ℕ × ℕ} {as : List (ℕ × ℕ)} (f : ℕ × ℕ → V) (mem : ℕ → V) :
    WriteLog.apply ((as ++ [a]).map fun a => (0, f a)) mem = Function.update mem 0 (f a) := by
  induction as generalizing mem with
  | nil => rfl
  | cons a' as ih =>
      rw [List.cons_append, List.map_cons, WriteLog.apply_cons, ih, Function.update_idem]

/-- The last cell of a grid that has one. -/
theorem grid_eq_append {rows cols : ℕ} (hrows : 0 < rows) (hcols : 0 < cols) :
    ∃ as, grid rows cols = as ++ [(rows - 1, cols - 1)] := by
  obtain ⟨r, rfl⟩ := Nat.exists_eq_succ_of_ne_zero hrows.ne'
  obtain ⟨c, rfl⟩ := Nat.exists_eq_succ_of_ne_zero hcols.ne'
  refine ⟨List.range r ×ˢ List.range (c + 1) ++ (List.range c).map (Prod.mk r), ?_⟩
  show (List.range (r + 1)).flatMap (fun r => (List.range (c + 1)).map (Prod.mk r)) =
    (List.range r).flatMap (fun r => (List.range (c + 1)).map (Prod.mk r)) ++ _ ++ _
  rw [List.range_succ (n := r), List.flatMap_append, List.append_assoc]
  congr 1
  simp [List.range_succ]

/-- One place for all: the last element is left, in a buffer of zeros. -/
theorem read_storeRows {rows : ℕ} {K' : ℕ} {place : ℤ → ℤ → Option ℤ} (hrows : 0 < rows)
    (hK : 0 < K') (hplace : ∀ r k, slotOf place r k = 0) (matrix : ℕ → Fp16)
    (image : Bytes.Image) {i : ℕ} (hi : i < rows * K') :
    Bytes.load 2 i (storeRows rows K' place matrix (Bytes.clear (rows * K' * 2) image)) =
      if i = 0 then (matrix (rows * K' - 1)).setWidth 64 else 0 := by
  obtain ⟨as, hgrid⟩ := grid_eq_append hrows hK
  show Bytes.words 2 _ i = _
  have hlast : (rows - 1) * K' + (K' - 1) = rows * K' - 1 := by
    have hle : K' ≤ rows * K' := Nat.le_mul_of_pos_left K' hrows
    rw [Nat.sub_mul, Nat.one_mul]
    omega
  simp only [words_storeRows, hplace, hgrid]
  rw [apply_one_key, hlast]
  by_cases heq : i = 0
  · rw [heq, Function.update_self, if_pos rfl]
  · rw [Function.update_of_ne heq, if_neg heq]
    exact Bytes.load_clear (Nat.mul_le_mul_right 2 hi)

/-- **What the NPU is given by `npu_matmul_mesa.c`**: of either matrix the last
element, and zeros. -/
theorem mesa_operands (hlib : T.lib = library .mesa) (hsizes : ValidSizes M.toNat K.toNat N.toNat)
    (dma : ℕ → U64) :
    (∀ i < M.toNat * K.toNat, Bytes.load 2 i (T.operands M K N dma inputBo) =
        if i = 0 then (T.matrixA M K (M.toNat * K.toNat - 1)).setWidth 64 else 0) ∧
      ∀ i < N.toNat * K.toNat, Bytes.load 2 i (T.operands M K N dma weightsBo) =
        if i = 0 then (T.matrixB M K N (N.toNat * K.toNat - 1)).setWidth 64 else 0 := by
  obtain ⟨lib, F, random, hw⟩ := T
  cases hlib
  obtain ⟨⟨hM, -⟩, ⟨hK, -⟩, ⟨hN, -⟩⟩ := hsizes
  constructor
  · intro i hi
    exact read_storeRows hM hK (fun _ _ => rfl) _ _ hi
  · intro i hi
    exact read_storeRows hN hK (fun _ _ => rfl) _ _ hi

theorem mesa_operands_sample :
    let T := sample .mesa
    (∀ i < 1 * 32, Bytes.load 2 i (T.operands 1 32 16 (fun _ => 0) inputBo) =
        if i = 0 then (T.matrixA 1 32 (1 * 32 - 1)).setWidth 64 else 0) ∧
      ∀ i < 16 * 32, Bytes.load 2 i (T.operands 1 32 16 (fun _ => 0) weightsBo) =
        if i = 0 then (T.matrixB 1 32 16 (16 * 32 - 1)).setWidth 64 else 0 :=
  mesa_operands (T := sample .mesa) rfl validSizes_smallest fun _ => 0

/-- **What the test says of `npu_matmul_mesa.c`**, on any NPU: the whole reference,
the last column aside, equals the first element of the result. -/
theorem mesa_verdict (hlib : T.lib = library .mesa) (hfini : ¬ T.hw.finiFails) {name : List Char}
    {args : List (List Char)}
    (hargs : args.length = 3 → ∀ arg ∈ args, (atoi arg).isSome = true) :
    (main T.lib T.F T.random name args).Decides T.hw fun o =>
      ∃ M K N, Accepted args M K N ∧ ∀ m < M.toNat, ∀ n < N.toNat - 1,
        T.F.ne ((Bytes.load 4 0 (T.result M K N o.dma)).setWidth 32) (T.expected M K N m n) =
          false := by
  refine decides_of_verified (P := fun M K N dma => ∀ m < M.toNat, ∀ n < N.toNat - 1,
    T.F.ne ((Bytes.load 4 0 (T.result M K N dma)).setWidth 32) (T.expected M K N m n) = false) ?_
    (hlib ▸ mesa_fits) hfini hargs
  intro M K N dma hsizes
  obtain ⟨lib, F, random, hw⟩ := T
  cases hlib
  exact ⟨fun hv => hv.equal, fun hequal => ⟨mesa_generated _, hequal⟩⟩

theorem mesa_verdict_sample :
    let T := sample .mesa
    (main T.lib T.F T.random [] smallest).Decides T.hw fun o =>
      ∃ M K N, Accepted smallest M K N ∧ ∀ m < M.toNat, ∀ n < N.toNat - 1,
        T.F.ne ((Bytes.load 4 0 (T.result M K N o.dma)).setWidth 32) (T.expected M K N m n) =
          false :=
  mesa_verdict (T := sample .mesa) rfl id smallest_isSome

end Mesa

end Librocket.MatmulTest
