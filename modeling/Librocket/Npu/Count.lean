import Librocket.Npu.Acceptance
import Librocket.Npu.Mesa
import Librocket.Npu.Full

/-!
# The return value as a command count

Three files define `gen_matmul_fp16`, and a caller links whichever the build
picked. It copies as many words as the call returned and submits that number.
`CountExact` is what it relies on; `countExact_iff` says which implementation
provides it, and for which requests. `npu_matmul_mesa.c` always does.
`npu_matmul.c` returns zero after storing its 108 words, so it does only where
it refuses. `npu_matmul_full.c` stores ten words more than the buffer holds.
-/

namespace Librocket

/-- The words of the caller's task buffer, and of `npu_cna_core_task.ops`. -/
def taskWords : ℕ := 112

/-- Either the request is refused and the buffer untouched, or the return value
counts the words stored from the buffer's start and the buffer holds them. -/
def CountExact (r : GenResult) : Prop :=
  (r.ret < 0 ∧ ∀ tasks, r.tasks tasks = tasks) ∨
    ∃ count : ℕ, r.ret = count ∧ (∀ i, i ∈ WriteLog.keys r.stores ↔ i < count) ∧
      count ≤ taskWords

/-- A run that returns zero but stores is not exact. -/
theorem not_countExact_of_ret_zero {r : GenResult} (hret : r.ret = 0)
    (hstore : 0 ∈ WriteLog.keys r.stores) : ¬ CountExact r := by
  rintro (⟨hneg, -⟩ | ⟨count, hcount, hkeys, -⟩)
  · omega
  · have hlt : 0 < count := (hkeys 0).mp hstore
    omega

/-! ## Generators that count their stores -/

/-- A generator that returns its running index is exact while the index fits
the buffer. -/
theorem countExact_emit_iff (words : List U64) :
    CountExact (GenResult.emit words) ↔ words.length ≤ taskWords := by
  have hret : (GenResult.emit words).ret = (words.length : ℕ) := by
    rw [GenResult.emit, emitFrom_last, Nat.zero_add]
  have hkeys : WriteLog.keys (GenResult.emit words).stores = List.range' 0 words.length :=
    keys_emitFrom 0 words
  constructor
  · rintro (⟨hneg, -⟩ | ⟨count, hcount, -, hle⟩)
    · rw [hret] at hneg
      omega
    · rw [hret] at hcount
      omega
  · intro hle
    refine Or.inr ⟨words.length, hret, ?_, hle⟩
    intro i
    rw [hkeys, List.mem_range'_1]
    omega

/-- What the caller copies is what was stored. -/
theorem copy_emit (words : List U64) (tasks : ℕ → U64) :
    (List.range words.length).map ((GenResult.emit words).tasks tasks) = words := by
  apply List.ext_getElem
  · rw [List.length_map, List.length_range]
  · intro i hi hi'
    rw [List.getElem_map, List.getElem_range]
    exact GenResult.tasks_emit tasks (List.getElem?_eq_getElem hi')

/-! ## The three implementations -/

/-- A file that defines `gen_matmul_fp16`, with what its run depends on beside
the request. -/
inductive Impl
  | reference (stack : Stack)
  | mesa
  | full (consts : Full.Undefined)

/-- `gen_matmul_fp16` as that file defines it. -/
def Impl.genMatmulFp16 : Impl → MatmulParams → GenResult
  | .reference stack, params => Librocket.genMatmulFp16 stack params
  | .mesa, params => Mesa.genMatmulFp16 params
  | .full consts, params => Full.genMatmulFp16 consts params

/-- Where an implementation returns its command count: `npu_matmul.c` only on
the sizes it refuses. -/
def Impl.Counts : Impl → MatmulParams → Prop
  | .reference _, params =>
    11 * 32768 < 2 * params.m.toNat * params.k.toNat ∨ 32768 < 2 * params.k.toNat
  | .mesa, _ => True
  | .full _, _ => False

/-- An accepted request is stored in 108 words and counted as none. -/
theorem not_countExact_of_accepts {e : MatmulKind} (stack : Stack) {params : MatmulParams}
    (h : Accepts e params) : ¬ CountExact (genMatmul e stack params) := by
  rw [genMatmul_of_accepts stack h]
  apply not_countExact_of_ret_zero rfl
  rw [keys_genMatmulTask]
  decide

/-- **Who returns the command count**: `npu_matmul_mesa.c` always,
`npu_matmul.c` exactly on the sizes it refuses, `npu_matmul_full.c` never. -/
theorem countExact_iff (impl : Impl) (params : MatmulParams) :
    CountExact (impl.genMatmulFp16 params) ↔ impl.Counts params := by
  cases impl with
  | reference stack =>
    show CountExact (genMatmul fp16Kind stack params) ↔ _
    by_cases h : Accepts fp16Kind params
    · constructor
      · intro hexact
        exact absurd hexact (not_countExact_of_accepts stack h)
      · obtain ⟨h₁, h₂⟩ := h
        rintro (hm | hk)
        · exact absurd hm (Nat.not_lt.mpr h₁)
        · exact absurd hk (Nat.not_lt.mpr h₂)
    · obtain ⟨code, hneg, heq⟩ := genMatmul_of_not_accepts stack h
      rw [heq]
      constructor
      · intro _
        by_contra hcounts
        apply h
        constructor
        · exact Nat.not_lt.mp fun hm => hcounts (Or.inl hm)
        · exact Nat.not_lt.mp fun hk => hcounts (Or.inr hk)
      · intro _
        exact Or.inl ⟨hneg, GenResult.tasks_refuse code⟩
  | mesa =>
    show CountExact (GenResult.emit _) ↔ True
    rw [countExact_emit_iff, List.length_map, Mesa.length_regcmds]
    exact ⟨fun _ => trivial, fun _ => by decide⟩
  | full consts =>
    show CountExact (GenResult.emit _) ↔ False
    rw [countExact_emit_iff, Full.length_words]
    exact ⟨fun h => absurd h (by decide), False.elim⟩

/-- The smallest aligned product is stored in 108 words and counted as none. -/
theorem count_zero_smallJob :
    let r := Impl.genMatmulFp16 (.reference default) Mesa.smallJob
    ¬ CountExact r ∧ r.ret = 0 ∧ WriteLog.keys r.stores = List.range 108 := by
  intro r
  have h : Accepts fp16Kind Mesa.smallJob := by decide
  have hrun : r = _ := genMatmul_of_accepts default h
  refine ⟨not_countExact_of_accepts default h, ?_, ?_⟩
  · rw [hrun]
  · rw [hrun, keys_genMatmulTask]

end Librocket
