import Librocket.Rocket.Sequential
import Librocket.Rocket.Teardown

/-!
# The buffers of the matmul test

What `main` puts in its four buffers, as functions of the setup, and the parts of
`main` on one copy: each loop changes one image, as its fold says.
-/

namespace Librocket.MatmulTest

open Rocket Rocket.Device Rocket.Device.Program Client
open Coherence (Owner)
open Mesa (ValidSizes)

/-! ## What is packed -/

/-- Where a place is that is defined, of a row and a column counted from zero. -/
def slotOf (place : ℤ → ℤ → Option ℤ) (r c : ℕ) : ℕ := ((place (r + 1) (c + 1)).getD 0).toNat

theorem slotOf_eq {place : ℤ → ℤ → Option ℤ} {r c slot : ℕ}
    (h : place (r + 1) (c + 1) = some (slot : ℤ)) : slotOf place r c = slot := by
  simp [slotOf, h]

/-- `count` commands over what was there. -/
def commandImage (count : ℕ) (npuRegs : ℕ → U64) (image : Bytes.Image) : Bytes.Image :=
  (List.range count).foldl (fun image i => Bytes.store 8 i (npuRegs i) image) image

/-- The stores of `packRows`. -/
def storeRows (rows K : ℕ) (place : ℤ → ℤ → Option ℤ) (matrix : ℕ → Fp16) (image : Bytes.Image) :
    Bytes.Image :=
  (List.range rows).foldl (fun image r => (List.range K).foldl (fun image k =>
    Bytes.store 2 (slotOf place r k) ((matrix (r * K + k)).setWidth 64) image) image) image

/-! ## The job -/

/-- The program and everything it depends on but the kernel. -/
structure Setup where
  lib : Library
  F : Floats
  random : ℕ → CInt
  hw : Hardware

section Job

variable (T : Setup) (M K N : U32) (dma : ℕ → U64)

def Setup.matrixA : ℕ → Fp16 := filled T.F T.random 0 (M * K).toNat

def Setup.matrixB : ℕ → Fp16 := filled T.F T.random (M * K).toNat (N * K).toNat

/-- What the generator gives for the addresses the bos got. -/
def Setup.generated : GenResult :=
  T.lib.genMatmulFp16 (params M K N (dma inputBo) (dma weightsBo) (dma outputBo))

/-- The four buffers when they are handed over. -/
def Setup.operands : ℕ → Bytes.Image := fun b =>
  if b = regcmdBo then
    commandImage (T.generated M K N dma).ret.toNat ((T.generated M K N dma).tasks fun _ => 0)
      (T.hw.fresh regcmdBo)
  else if b = inputBo then
    storeRows M.toNat K.toNat (T.lib.input M.toNat K.toNat) (T.matrixA M K)
      (Bytes.clear (M.toNat * K.toNat * 2) (T.hw.fresh inputBo))
  else if b = weightsBo then
    storeRows N.toNat K.toNat (T.lib.weights K.toNat) (T.matrixB M K N)
      (Bytes.clear (N.toNat * K.toNat * 2) (T.hw.fresh weightsBo))
  else if b = outputBo then
    Bytes.clear (M.toNat * N.toNat * 4) (T.hw.fresh outputBo)
  else
    default

/-- What the NPU leaves in the output. -/
def Setup.result : Bytes.Image :=
  T.hw.run dma regcmdBo (BitVec.ofInt 32 (T.generated M K N dma).ret) (T.operands M K N dma)
    outputBo

/-- An element of it. -/
def Setup.actual (m n : ℕ) : Fp32 :=
  (Bytes.load 4 (slotOf (T.lib.output M.toNat N.toNat) m n) (T.result M K N dma)).setWidth 32

def Setup.expected (m n : ℕ) : Fp32 :=
  MatmulTest.expected T.F K.toNat (T.matrixA M K) (T.matrixB M K N) m n

/-- The generator takes the request, and the comparison finds no mismatch. -/
structure Setup.Verified : Prop where
  generated : 0 ≤ (T.generated M K N dma).ret
  equal : ∀ m < M.toNat, ∀ n < N.toNat - 1,
    T.F.ne (T.actual M K N dma m n) (T.expected M K N m n) = false

end Job

/-! ## The parts on one copy -/

/-- The program at a point of `compute`: bo `b` stands for object `b`, with what it
holds and who owns it. -/
structure Ready (m : Memory) (o : Objects) (w : ℕ → Owner) (v : ℕ → Bytes.Image) : Prop where
  objects : m.objects = o
  of : ∀ b < 4, o.of b = b
  owner : ∀ b < 4, m.owner b = w b
  image : ∀ b < 4, m.image b = v b

section Parts

variable {T : Setup} {M K N : U32} {m : Memory} {o : Objects} {w : ℕ → Owner}
  {v : ℕ → Bytes.Image} {b : ℕ}

namespace Ready

theorem owner_of (h : Ready m o w v) (hb : b < 4) : m.owner (m.objects.of b) = w b := by
  rw [h.objects, h.of b hb, h.owner b hb]

theorem image_of (h : Ready m o w v) (hb : b < 4) : m.image (m.objects.of b) = v b := by
  rw [h.objects, h.of b hb, h.image b hb]

theorem write (h : Ready m o w v) (hb : b < 4) (f : Bytes.Image → Bytes.Image) :
    Ready (m.write b f) o w (Function.update v b (f (v b))) where
  objects := h.objects
  of := h.of
  owner := h.owner
  image := by
    intro b' hb'
    have himage := h.image_of hb
    simp only [Memory.write, himage]
    rw [h.objects, h.of b hb]
    by_cases heq : b' = b
    · rw [heq, Function.update_self, Function.update_self]
    · rw [Function.update_of_ne heq, Function.update_of_ne heq, h.image b' hb']

theorem own (h : Ready m o w v) (hb : b < 4) (owner : Owner) :
    Ready (m.own b owner) o (Function.update w b owner) v where
  objects := h.objects
  of := h.of
  owner := by
    intro b' hb'
    simp only [Memory.own]
    rw [h.objects, h.of b hb]
    by_cases heq : b' = b
    · rw [heq, Function.update_self, Function.update_self]
    · rw [Function.update_of_ne heq, Function.update_of_ne heq, h.owner b' hb']
  image := h.image

theorem ensures_store (h : Ready m o w v) (hb : b < 4) (hw : w b = .cpu) {size i : ℕ} {x : U64} :
    (store b size i x).Ensures (sequential T.hw)
      (fun _ m' => Ready m' o w (Function.update v b (Bytes.store size i x (v b)))) m :=
  sequential_store ((h.owner_of hb).trans hw) (h.write hb _)

theorem ensures_clear (h : Ready m o w v) (hb : b < 4) (hw : w b = .cpu) {size count : ℕ} :
    (clear b size count).Ensures (sequential T.hw)
      (fun _ m' => Ready m' o w (Function.update v b (Bytes.clear (count * size) (v b)))) m :=
  sequential_clear ((h.owner_of hb).trans hw) (h.write hb _)

end Ready

/-- A loop whose turns change the image of one bo. -/
theorem forM_image {n : ℕ} {f : ℕ → Program Unit} {g : Bytes.Image → ℕ → Bytes.Image}
    (hbody : ∀ k < n, ∀ m v, Ready m o w v → (f k).Ensures (sequential T.hw)
      (fun _ m' => Ready m' o w (Function.update v b (g (v b) k))) m) (h : Ready m o w v) :
    ((List.range n).forM f).Ensures (sequential T.hw)
      (fun _ m' => Ready m' o w (Function.update v b ((List.range n).foldl g (v b)))) m := by
  have hstart : Ready m o w (Function.update v b ((List.range 0).foldl g (v b))) := by
    rw [List.range_zero, List.foldl_nil, Function.update_eq_self]
    exact h
  refine Ensures.forM_range
    (I := fun k m' => Ready m' o w (Function.update v b ((List.range k).foldl g (v b)))) ?_ hstart
  intro k hk m h
  have hnext := hbody k hk m _ h
  rw [Function.update_self, Function.update_idem] at hnext
  rw [List.range_succ, List.foldl_append]
  exact hnext

theorem copyCommands_sequential (h : Ready m o w v) (hw : w regcmdBo = .cpu) {numCommands : ℕ}
    (hcount : numCommands ≤ taskWords) (npuRegs : ℕ → U64) :
    (copyCommands numCommands npuRegs).Ensures (sequential T.hw)
      (fun _ m' => Ready m' o w (Function.update v regcmdBo
        (commandImage numCommands npuRegs (v regcmdBo)))) m := by
  refine forM_image (g := fun image i => Bytes.store 8 i (npuRegs i) image) ?_ h
  intro i hi m v h
  have helement : element taskWords npuRegs i = some (npuRegs i) :=
    if_pos (lt_of_lt_of_le hi hcount)
  rw [helement]
  exact h.ensures_store (by decide) hw

theorem packRows_sequential {size rows K' : ℕ} {place : ℤ → ℤ → Option ℤ} (hb : b < 4)
    (hsize : rows * K' ≤ size)
    (hplace : ∀ r < rows, ∀ k < K', ∃ slot < rows * K', place (r + 1) (k + 1) = some (slot : ℤ))
    (h : Ready m o w v) (hw : w b = .cpu) (matrix : ℕ → Fp16) :
    (packRows b size rows K' place matrix).Ensures (sequential T.hw)
      (fun _ m' =>
        Ready m' o w (Function.update v b (storeRows rows K' place matrix (v b)))) m := by
  refine forM_image (g := fun image r => (List.range K').foldl (fun image k =>
    Bytes.store 2 (slotOf place r k) ((matrix (r * K' + k)).setWidth 64) image) image) ?_ h
  intro r hr m v h
  refine forM_image (g := fun image k => Bytes.store 2 (slotOf place r k)
    ((matrix (r * K' + k)).setWidth 64) image) ?_ h
  intro k hk m v h
  have hindex : r * K' + k < size := lt_of_lt_of_le (Tile.lt_mul hr hk) hsize
  obtain ⟨slot, -, heq⟩ := hplace r hr k hk
  have hslot := slotOf_eq heq
  have helement : element size matrix (r * K' + k) = some (matrix (r * K' + k)) := if_pos hindex
  rw [helement, heq, hslot]
  exact h.ensures_store hb hw

theorem sequential_defined {α : Type} {x : Option α} {a : α} (hx : x = some a)
    {Q : α → Memory → Prop} (hQ : Q a m) : (defined x).Ensures (sequential T.hw) Q m := by
  rw [hx]
  exact hQ

theorem report_sequential {errors i j : ℕ} {expected actual : Fp32} {Q : Unit → Memory → Prop}
    (hQ : Q () m) : (report errors i j expected actual).Ensures (sequential T.hw) Q m := by
  unfold report
  split
  · exact sequential_print hQ
  · exact hQ

/-- One more element to compare. -/
theorem forall_lt_succ {n : ℕ} {P : ℕ → Prop} :
    (∀ j < n + 1, P j) ↔ (∀ j < n, P j) ∧ P n := by
  simp only [Nat.lt_succ_iff_lt_or_eq, or_imp, forall_and, forall_eq]

/-- The count is zero as long as everything compared was equal. -/
theorem verify_sequential (hlib : T.lib.Fits) (hsizes : ValidSizes M.toNat K.toNat N.toNat)
    (h : Ready m o w v) (hw : w outputBo = .cpu) (expectedResult : ℕ → Fp32) :
    (verify T.lib T.F M.toNat N.toNat expectedResult).Ensures (sequential T.hw)
      (fun errors m' => Ready m' o w v ∧ (errors = 0 ↔ ∀ i < M.toNat, ∀ j < N.toNat - 1,
        T.F.ne ((Bytes.load 4 (slotOf (T.lib.output M.toNat N.toNat) i j) (v outputBo)).setWidth 32)
          (expectedResult (i * N.toNat + j)) = false)) m := by
  obtain ⟨hM, -, hN⟩ := le_sizes hsizes
  let equal : ℕ → ℕ → Prop := fun i j =>
    T.F.ne ((Bytes.load 4 (slotOf (T.lib.output M.toNat N.toNat) i j) (v outputBo)).setWidth 32)
      (expectedResult (i * N.toNat + j)) = false
  refine Ensures.foldlM_range
    (I := fun k errors m' => Ready m' o w v ∧
      (errors = 0 ↔ ∀ i < k, ∀ j < N.toNat - 1, equal i j)) ?_ ⟨h, by simp⟩
  rintro i hi errors m ⟨h, herrors⟩
  have hrow : Ready m o w v ∧ (errors = 0 ↔ (∀ i' < i, ∀ j < N.toNat - 1, equal i' j) ∧
      ∀ j < 0, equal i j) := ⟨h, by simpa using herrors⟩
  simp only [forall_lt_succ]
  refine Ensures.foldlM_range
    (I := fun l errors m' => Ready m' o w v ∧
      (errors = 0 ↔ (∀ i' < i, ∀ j < N.toNat - 1, equal i' j) ∧ ∀ j < l, equal i j)) ?_ hrow
  rintro j hj errors m ⟨h, herrors⟩
  have hj' : j < N.toNat := lt_of_lt_of_le hj (Nat.sub_le _ _)
  have hindex : i * N.toNat + j < MAX_M * MAX_N :=
    lt_of_lt_of_le (Tile.lt_mul hi hj') (Nat.mul_le_mul hM hN)
  obtain ⟨slot, -, heq⟩ := hlib.output hsizes i hi j hj'
  have hslot := slotOf_eq heq
  refine ensures_bind.mpr (sequential_defined heq ?_)
  refine ensures_bind.mpr (sequential_load ((h.owner_of (by decide)).trans hw) ?_)
  rw [h.image_of (by decide)]
  refine ensures_bind.mpr (sequential_defined (if_pos hindex) ?_)
  have hequal : equal i j ↔ T.F.ne ((Bytes.load 4 slot (v outputBo)).setWidth 32)
      (expectedResult (i * N.toNat + j)) = false := by
    rw [← hslot]
  split
  next hne =>
    have hnot : ¬ equal i j := fun heq => by simp [hequal.mp heq] at hne
    refine ensures_bind.mpr (report_sequential ⟨h, iff_of_false (Nat.succ_ne_zero errors) ?_⟩)
    rintro ⟨-, hall⟩
    exact hnot (hall j (Nat.lt_succ_self j))
  next hne =>
    have hequal' : equal i j := hequal.mpr (Bool.eq_false_iff.mpr hne)
    refine ⟨h, ?_⟩
    rw [herrors, forall_lt_succ]
    simp only [hequal', and_true]

/-- The reference result holds every entry at its place. -/
theorem expectedResult_apply {F : Floats} {M K N : ℕ} {A B : ℕ → Fp16} {i j : ℕ} (hi : i < M)
    (hj : j < N) :
    WriteLog.apply ((grid M N).map fun a => (a.1 * N + a.2, expected F K A B a.1 a.2)) (fun _ => 0)
      (i * N + j) = expected F K A B i j := by
  refine WriteLog.apply_of_nodup _ ?_ (List.mem_map.mpr ⟨(i, j), mem_grid.mpr ⟨hi, hj⟩, rfl⟩)
  rw [WriteLog.keys, List.map_map]
  refine List.Nodup.map_on ?_ (nodup_grid M N)
  intro a ha a' ha' heq
  obtain ⟨hrow, hcol⟩ := Tile.inj (mem_grid.mp ha).2 (mem_grid.mp ha').2 heq
  exact Prod.ext hrow hcol

end Parts

end Librocket.MatmulTest
