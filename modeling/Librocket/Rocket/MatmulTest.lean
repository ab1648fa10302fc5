import Librocket.Npu.Count
import Librocket.Npu.Stubs
import Librocket.Rocket.Program

/-!
# `tests/matmul_fp16_rocket.c`

`main` as a program over the calls of the library: the command line, the four
bos with their ladder of labels, the commands, the operands in their layouts,
the submit, the wait and the comparison. It is linked with one of the three files
that define `gen_matmul_fp16`, takes what `rand` will give as an argument, and
leaves arithmetic in floating point open.
-/

namespace Librocket.MatmulTest

open Rocket Rocket.Device Rocket.Device.Program

/-! ## What it is linked with -/

/-- The functions of `npu_matmul.h` it uses. A generator is a function of the request:
its own signed arithmetic wraps, also where C leaves it undefined. -/
structure Library where
  genMatmulFp16 : MatmulParams → GenResult
  featureData (C H W C2 c h w : ℤ) : Option ℤ
  weightFp16 (C k c : ℤ) : Option ℤ

/-- A file with its own layout functions. -/
def library : Impl → Library
  | .reference stack =>
      { genMatmulFp16 := (Impl.reference stack).genMatmulFp16
        featureData := Librocket.featureData
        weightFp16 := Librocket.weightFp16 }
  | .mesa =>
      { genMatmulFp16 := Impl.mesa.genMatmulFp16
        featureData := Mesa.featureData
        weightFp16 := Mesa.weightFp16 }
  -- Its layout functions are stubs like those of `npu_matmul_mesa.c`.
  | .full consts =>
      { genMatmulFp16 := (Impl.full consts).genMatmulFp16
        featureData := fun _ _ _ _ _ _ _ => some 0
        weightFp16 := fun _ _ _ => some 0 }

/-- The bits of a `_Float16`. -/
abbrev Fp16 := BitVec 16

/-- The bits of a `float`. -/
abbrev Fp32 := BitVec 32

/-- Arithmetic in floating point. -/
structure Floats where
  /-- `(_Float16)((int)(10.0 * rand_float()))`, of what `rand` gives. -/
  element : CInt → Fp16
  zero : Fp32
  /-- `sum += x * y`. -/
  mulAdd (sum : Fp32) (x y : Fp16) : Fp32
  /-- `actual != expected`. -/
  ne (actual expected : Fp32) : Bool

/-! ## The command line -/

def isSpace (c : Char) : Bool := c = ' ' ∨ ('\t' ≤ c ∧ c ≤ '\r')

/-- The number at the start of a string of digits. -/
def digits (s : List Char) : ℕ :=
  (s.takeWhile Char.isDigit).foldl (fun v c => 10 * v + (c.toNat - '0'.toNat)) 0

/-- `atoi`, which is defined where the number fits an `int`. -/
def atoi (s : List Char) : Option CInt :=
  let value : ℤ := match s.dropWhile isSpace with
    | '-' :: t => -digits t
    | '+' :: t => digits t
    | t => digits t
  (int.check value).map (BitVec.ofInt 32)

def MAX_M : ℕ := 384
def MAX_K : ℕ := 4096
def MAX_N : ℕ := 4096

/-! ## The static arrays -/

/-- An element of an array of `size`. -/
def element {R : Type} (size : ℕ) (a : ℕ → R) (i : ℕ) : Option R :=
  if i < size then some (a i) else none

/-- An array whose first `count` elements come from `rand`, from its number `start` on. -/
def filled (F : Floats) (random : ℕ → CInt) (start count : ℕ) : ℕ → Fp16 := fun i =>
  if i < count then F.element (random (start + i)) else 0

/-- `matrix[i] = ...` for `i` below `count`. -/
def fillMatrix (F : Floats) (random : ℕ → CInt) (size start count : ℕ) : Option (ℕ → Fp16) :=
  if count ≤ size then some (filled F random start count) else none

/-- `matmul_fp32_cpu`. -/
def matmulFp32Cpu (F : Floats) (m k n : ℕ) (src0 src1 : ℕ → Fp16) : Option (ℕ → Fp32) :=
  (List.range m).foldlM (fun dst (i : ℕ) =>
    (List.range n).foldlM (fun dst (j : ℕ) => do
      let sum ← (List.range k).foldlM (fun sum (l : ℕ) => do
        let x ← Librocket.load (MAX_M * MAX_K) src0 (do int.add (← int.mul i k) l)
        let y ← Librocket.load (MAX_N * MAX_K) src1 (do int.add (← int.mul j k) l)
        pure (F.mulAdd sum x y)) F.zero
      let slot ← inBuffer (MAX_M * MAX_N) (← int.add (← int.mul i n) j)
      pure (Function.update dst slot sum)) dst) fun _ => 0

section Reference

variable {F : Floats} {M K N : ℕ}

/-- An entry of the reference result. -/
def expected (F : Floats) (K : ℕ) (A B : ℕ → Fp16) (i j : ℕ) : Fp32 :=
  (List.range K).foldl (fun sum l => F.mulAdd sum (A (i * K + l)) (B (j * K + l))) F.zero

/-- `a * n + b`, where it stays in an array of at most 16M elements. -/
theorem int_index {rows n size a b : ℕ} (ha : a < rows) (hb : b < n) (hsize : rows * n ≤ size)
    (hfit : size ≤ 16777216) :
    int.mul (a : ℤ) n = some ((a * n : ℕ) : ℤ) ∧
      int.add ((a * n : ℕ) : ℤ) b = some ((a * n + b : ℕ) : ℤ) ∧
      inBuffer size ((a * n + b : ℕ) : ℤ) = some (a * n + b) := by
  have hlt : a * n + b < size := lt_of_lt_of_le (Tile.lt_mul ha hb) hsize
  have hmax : int.max = 2147483647 := rfl
  exact ⟨CArith.IntType.mul_nat (by omega), CArith.IntType.add_nat (by omega), inBuffer_nat hlt⟩

theorem load_index {rows n size a b : ℕ} (mem : ℕ → Fp16) (ha : a < rows) (hb : b < n)
    (hsize : rows * n ≤ size) (hfit : size ≤ 16777216) :
    Librocket.load size mem (do int.add (← int.mul a n) b) = some (mem (a * n + b)) := by
  obtain ⟨hmul, hadd, hin⟩ := int_index ha hb hsize hfit
  simp only [Librocket.load, hmul, hadd, hin, Option.bind_eq_bind, Option.bind_some,
    Option.map_some]

/-- **The reference is defined**, and its loops store their entries row by row. -/
theorem matmulFp32Cpu_eq (hM : M ≤ MAX_M) (hK : K ≤ MAX_K) (hN : N ≤ MAX_N) (A B : ℕ → Fp16) :
    matmulFp32Cpu F M K N A B =
      some (WriteLog.apply ((grid M N).map fun a => (a.1 * N + a.2, expected F K A B a.1 a.2))
        fun _ => 0) := by
  have hentry : ∀ i < M, ∀ j < N, (List.range K).foldlM (fun sum (l : ℕ) => do
      let x ← Librocket.load (MAX_M * MAX_K) A (do int.add (← int.mul i K) l)
      let y ← Librocket.load (MAX_N * MAX_K) B (do int.add (← int.mul j K) l)
      pure (F.mulAdd sum x y)) F.zero = some (expected F K A B i j) := by
    intro i hi j hj
    apply Loop.foldlM_some
    intro l hl sum
    have hl' := List.mem_range.mp hl
    rw [load_index A hi hl' (Nat.mul_le_mul hM hK) (by decide),
      load_index B hj hl' (Nat.mul_le_mul hN hK) (by decide)]
    rfl
  have hrow : ∀ i ∈ List.range M, ∀ dst, (List.range N).foldlM (fun dst (j : ℕ) => do
      let sum ← (List.range K).foldlM (fun sum (l : ℕ) => do
        let x ← Librocket.load (MAX_M * MAX_K) A (do int.add (← int.mul i K) l)
        let y ← Librocket.load (MAX_N * MAX_K) B (do int.add (← int.mul j K) l)
        pure (F.mulAdd sum x y)) F.zero
      let slot ← inBuffer (MAX_M * MAX_N) (← int.add (← int.mul i N) j)
      pure (Function.update dst slot sum)) dst =
      some (WriteLog.apply
        ((List.range N).map fun j => (i * N + j, expected F K A B i j)) dst) := by
    intro i hi dst
    have hi' := List.mem_range.mp hi
    rw [WriteLog.apply, List.foldl_map]
    apply Loop.foldlM_some
    intro j hj dst
    have hj' := List.mem_range.mp hj
    obtain ⟨hmul, hadd, hin⟩ := int_index hi' hj' (Nat.mul_le_mul hM hN) (by decide)
    rw [hentry i hi' j hj', hmul]
    show ((int.add _ _).bind fun a => (inBuffer _ a).bind _) = _
    rw [hadd, Option.bind_some, hin, Option.bind_some]
    rfl
  rw [matmulFp32Cpu, Loop.foldlM_some _ _ hrow]
  -- the rows one after the other are the grid
  have hgrid : (grid M N).map (fun a => (a.1 * N + a.2, expected F K A B a.1 a.2)) =
      (List.range M).flatMap fun i =>
        (List.range N).map fun j => (i * N + j, expected F K A B i j) := by
    show ((List.range M).flatMap fun i => (List.range N).map (Prod.mk i)).map _ = _
    rw [List.map_flatMap]
    apply List.flatMap_congr
    intro i _
    rw [List.map_map]
    rfl
  rw [hgrid, WriteLog.apply, List.foldl_flatMap]
  rfl

end Reference

/-- `npu_regs` after a generator, which must not have left it. -/
def npuRegs (r : GenResult) : Option (ℕ → U64) :=
  if ∀ i ∈ WriteLog.keys r.stores, i < taskWords then some (r.tasks fun _ => 0) else none

/-! ## The bos -/

def ctx : ℕ := 0
def regcmdBo : ℕ := 0
def inputBo : ℕ := 1
def weightsBo : ℕ := 2
def outputBo : ℕ := 3

/-- `sizeof(npu_regs)`. -/
def sizeofNpuRegs : U64 := BitVec.ofNat 64 (8 * taskWords)

/-- `a * b * sizeof(type)`: an `unsigned int` product, then a `size_t` one. -/
def bytes (a b : U32) (size : ℕ) : U64 := (a * b).setWidth 64 * BitVec.ofNat 64 size

/-! ## The labels -/

def errClose (ret : ℤ) : Program ℤ := do
  rocketClose ctx
  return ret

def errFreeRegcmd (ret : ℤ) : Program ℤ := do
  boDestroy ctx regcmdBo
  errClose ret

def errFreeInput (ret : ℤ) : Program ℤ := do
  boDestroy ctx inputBo
  errFreeRegcmd ret

def errFreeWeights (ret : ℤ) : Program ℤ := do
  boDestroy ctx weightsBo
  errFreeInput ret

def errFreeOutput (ret : ℤ) : Program ℤ := do
  boDestroy ctx outputBo
  errFreeWeights ret

/-! ## The parts of `main` -/

/-- `params`, but for `tasks`. -/
def params (M K N : U32) (inputDma weightsDma outputDma : U64) : MatmulParams where
  m := M.setWidth 16
  k := K.setWidth 16
  n := N.setWidth 16
  inputDma := inputDma.setWidth 32
  weightsDma := weightsDma.setWidth 32
  outputDma := outputDma.setWidth 32
  fp32tofp16 := 0

/-- `memcpy(regcmd_bo.map, npu_regs, num_commands * sizeof(uint64_t))`. -/
def copyCommands (numCommands : ℕ) (npuRegs : ℕ → U64) : Program Unit :=
  (List.range numCommands).forM fun i => do
    let word ← defined (element taskWords npuRegs i)
    store regcmdBo 8 i word

/-- The indices of the source, of a row and a column. -/
def Library.weights (lib : Library) (K : ℤ) (n k : ℤ) : Option ℤ := lib.weightFp16 K n k

def Library.input (lib : Library) (M K : ℤ) (m k : ℤ) : Option ℤ := lib.featureData K M 1 8 k m 1

def Library.output (lib : Library) (M N : ℤ) (m n : ℤ) : Option ℤ := lib.featureData N M 1 4 n m 1

/-- `buf[place(r, k)] = matrix[((r-1)*K) + (k-1)]`, of an array of `size`. -/
def packRows (b size rows K : ℕ) (place : ℤ → ℤ → Option ℤ) (matrix : ℕ → Fp16) : Program Unit :=
  (List.range rows).forM fun (r : ℕ) => (List.range K).forM fun (k : ℕ) => do
    let x ← defined (element size matrix (r * K + k))
    let i ← defined (place (r + 1) (k + 1))
    store b 2 i (x.setWidth 64)

/-- `weights_fp16[weight_fp16(K, n, k)] = matrixB[((n-1)*K) + (k-1)]`. -/
def packWeights (lib : Library) (N K : ℕ) (matrixB : ℕ → Fp16) : Program Unit :=
  packRows weightsBo (MAX_N * MAX_K) N K (lib.weights K) matrixB

/-- `input_fp16[feature_data(K, M, 1, 8, k, m, 1)] = matrixA[((m-1)*K) + (k-1)]`. -/
def packInput (lib : Library) (M K : ℕ) (matrixA : ℕ → Fp16) : Program Unit :=
  packRows inputBo (MAX_M * MAX_K) M K (lib.input M K) matrixA

/-- The first ten mismatches are shown. -/
def report (errors m n : ℕ) (expected actual : Fp32) : Program Unit :=
  if errors < 10 then
    printf "MISMATCH m=%d n=%d: expected=%f actual=%f\n"
      [.int (m + 1), .int (n + 1), .float (expected.setWidth 64), .float (actual.setWidth 64)]
  else
    pure ()

/-- The comparison, which stops before the last column. -/
def verify (lib : Library) (F : Floats) (M N : ℕ) (expectedResult : ℕ → Fp32) : Program ℕ :=
  (List.range M).foldlM (fun errors (m : ℕ) =>
    (List.range (N - 1)).foldlM (fun errors (n : ℕ) => do
      let i ← defined (lib.output M N (m + 1) (n + 1))
      let actual : Fp32 := (← Program.load outputBo 4 i).setWidth 32
      let expected ← defined (element (MAX_M * MAX_N) expectedResult (m * N + n))
      if F.ne actual expected then
        report errors m n expected actual
        return errors + 1
      else
        return errors) errors) 0

/-- From `matmul_params_t params` on. Where the source jumps to a label this returns:
it is always `err_free_output`, which is also what comes at the end. -/
def compute (lib : Library) (F : Floats) (random : ℕ → CInt) (M K N : U32)
    (input weights output : RocketBo) : Program ℤ := do
  let r := lib.genMatmulFp16 (params M K N input.dmaAddr weights.dmaAddr output.dmaAddr)
  let npuRegs ← defined (npuRegs r)
  if r.ret < 0 then
    printf "gen_matmul_fp16 failed: %d\n" [.int r.ret]
    return r.ret
  printf "Generated %d register commands\n" [.int r.ret]
  copyCommands r.ret.toNat npuRegs
  let matrixA ← defined (fillMatrix F random (MAX_M * MAX_K) 0 (M * K).toNat)
  let matrixB ← defined (fillMatrix F random (MAX_N * MAX_K) (M * K).toNat (N * K).toNat)
  clear weightsBo 2 (N * K).toNat
  packWeights lib N.toNat K.toNat matrixB
  clear inputBo 2 (M * K).toNat
  packInput lib M.toNat K.toNat matrixA
  clear outputBo 4 (M * N).toNat
  let expectedResult ← defined (matmulFp32Cpu F M.toNat K.toNat N.toNat matrixA matrixB)
  let _ ← boFini ctx regcmdBo
  let _ ← boFini ctx inputBo
  let _ ← boFini ctx weightsBo
  let _ ← boFini ctx outputBo
  printf "Submitting to NPU...\n" []
  let ret ← submit ctx regcmdBo (BitVec.ofInt 32 r.ret) [inputBo, weightsBo, regcmdBo] [outputBo]
  if ret < 0 then
    printf "rocket_submit failed: %d\n" [.int ret]
    return ret
  printf "NPU job submitted\n" []
  let ret ← boPrep ctx outputBo 5000000000
  if ret < 0 then
    printf "rocket_bo_prep (wait) failed: %d\n" [.int ret]
    return ret
  printf "Verifying results...\n" []
  let errors ← verify lib F M.toNat N.toNat expectedResult
  if errors = 0 then
    printf "SUCCESS: [%d x %d] x [%d x %d] matmul verified!\n"
      [.int M.toNat, .int K.toNat, .int K.toNat, .int N.toNat]
    return 0
  else
    printf "FAILED: %d mismatches out of %d values\n" [.int errors, .int (M * N).toNat]
    return 1

/-- From `rocket_open` on. -/
def test (lib : Library) (F : Floats) (random : ℕ → CInt) (M K N : U32) : Program ℤ := do
  let ret ← rocketOpen ctx
  if ret < 0 then
    printf "Failed to open Rocket NPU: %d\n" [.int ret]
    return 1
  printf "Opened /dev/accel/accel0 successfully\n" []
  let (ret, regcmd) ← boCreate ctx regcmdBo sizeofNpuRegs
  if ret < 0 then
    return ← errClose ret
  let (ret, input) ← boCreate ctx inputBo (bytes M K 2)
  if ret < 0 then
    return ← errFreeRegcmd ret
  let (ret, weights) ← boCreate ctx weightsBo (bytes N K 2)
  if ret < 0 then
    return ← errFreeInput ret
  let (ret, output) ← boCreate ctx outputBo (bytes M N 4)
  if ret < 0 then
    return ← errFreeWeights ret
  printf "Buffers allocated:\n" []
  printf "  regcmd:  dma=0x%lx size=%zu\n" [.int regcmd.dmaAddr.toNat, .int regcmd.size.toNat]
  printf "  input:   dma=0x%lx size=%zu\n" [.int input.dmaAddr.toNat, .int input.size.toNat]
  printf "  weights: dma=0x%lx size=%zu\n" [.int weights.dmaAddr.toNat, .int weights.size.toNat]
  printf "  output:  dma=0x%lx size=%zu\n" [.int output.dmaAddr.toNat, .int output.size.toNat]
  let ret ← compute lib F random M K N input weights output
  errFreeOutput ret

/-- `main`, of its name and its arguments. -/
def main (lib : Library) (F : Floats) (random : ℕ → CInt) (name : List Char) :
    List (List Char) → Program ℤ
  | [m, k, n] => do
      let M ← defined (atoi m)
      let K ← defined (atoi k)
      let N ← defined (atoi n)
      if M ≤ 0 ∨ M > BitVec.ofNat 32 MAX_M ∨ (M % 4 ≠ 0 ∧ M ≠ 1) then
        printf "M [%d] must be 1 or multiple of 4, max %d\n" [.int M.toInt, .int MAX_M]
        return 1
      if K ≤ 0 ∨ K > BitVec.ofNat 32 MAX_K ∨ K % 32 ≠ 0 then
        printf "K [%d] must be multiple of 32, max %d\n" [.int K.toInt, .int MAX_K]
        return 1
      if N ≤ 0 ∨ N > BitVec.ofNat 32 MAX_N ∨ N % 16 ≠ 0 then
        printf "N [%d] must be multiple of 16, max %d\n" [.int N.toInt, .int MAX_N]
        return 1
      printf "Testing matmul: [%d x %d] x [%d x %d] = [%d x %d]\n"
        [.int M.toNat, .int K.toNat, .int K.toNat, .int N.toNat, .int M.toNat, .int N.toNat]
      test lib F random M K N
  | _ => do
      printf "Usage: %s <M> <K> <N>\n" [.str name]
      printf "  M: rows of matrix A (multiple of 4, max %d)\n" [.int MAX_M]
      printf "  K: cols of A / rows of B (multiple of 32, max %d)\n" [.int MAX_K]
      printf "  N: cols of matrix B (multiple of 16, max %d)\n" [.int MAX_N]
      return 1

end Librocket.MatmulTest
