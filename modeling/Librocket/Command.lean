import Librocket.Registers
import Librocket.Lib.WriteLog
import Mathlib.Tactic.Ring

/-!
# Command words

A job is a list of 64-bit words, each one register write: the unit in bits
63..48, the value in bits 47..16, the register number in bits 15..0. Two macros
pack such words. `NPUOP` of `npu_hw.h` masks its arguments; `MESA_REGCMD` does
not, so an argument wider than its place runs into the next one.

Reading a word back is stated once for the unmasked packing
(`valueOf_packWord` and its neighbours say exactly which bits meet) and both
macros are instances.
-/

namespace Librocket

/-- Bits 63..48. -/
def targetOf (word : U64) : U16 := (word >>> 48).setWidth 16

/-- Bits 47..16. -/
def valueOf (word : U64) : U32 := (word >>> 16).setWidth 32

/-- Bits 15..0. -/
def regOf (word : U64) : U16 := word.setWidth 16

/-- The three parts shifted to their places and ORed, nothing masked. -/
def packWord (target value reg : U64) : U64 :=
  (target <<< 48) ||| (value <<< 16) ||| reg

theorem regOf_packWord (target value reg : U64) :
    regOf (packWord target value reg) = reg.setWidth 16 := by
  apply BitVec.eq_of_getLsbD_eq
  intro i hi
  simp only [regOf, packWord, BitVec.getLsbD_setWidth, BitVec.getLsbD_or,
    BitVec.getLsbD_shiftLeft]
  grind

/-- The high bits of the register number land in the value. -/
theorem valueOf_packWord (target value reg : U64) :
    valueOf (packWord target value reg) = value.setWidth 32 ||| (reg >>> 16).setWidth 32 := by
  apply BitVec.eq_of_getLsbD_eq
  intro i hi
  simp only [valueOf, packWord, BitVec.getLsbD_setWidth, BitVec.getLsbD_ushiftRight,
    BitVec.getLsbD_or, BitVec.getLsbD_shiftLeft]
  grind

/-- The high bits of the value and of the register number land in the target. -/
theorem targetOf_packWord (target value reg : U64) :
    targetOf (packWord target value reg) =
      target.setWidth 16 ||| (value >>> 32).setWidth 16 ||| (reg >>> 48).setWidth 16 := by
  apply BitVec.eq_of_getLsbD_eq
  intro i hi
  simp only [targetOf, packWord, BitVec.getLsbD_setWidth, BitVec.getLsbD_ushiftRight,
    BitVec.getLsbD_or, BitVec.getLsbD_shiftLeft]
  grind

/-! ## `NPUOP` -/

/-- `NPUOP(op, value, reg)` of `npu_hw.h`. -/
def NPUOP (op value reg : U32) : U64 :=
  packWord ((op &&& 0xffff).setWidth 64) ((value &&& 0xffffffff).setWidth 64)
    ((reg &&& 0xffff).setWidth 64)

/-- Masking with `0xffff` is a cast to 16 bits and back. -/
private theorem and_low16 (x : U32) : x &&& 0xffff = (x.setWidth 16).setWidth 32 := by
  apply BitVec.eq_of_toNat_eq
  rw [Bitfield.toNat_and_lowMask 16 rfl, BitVec.toNat_setWidth, BitVec.toNat_setWidth]
  omega

private theorem and_low32 (x : U32) : x &&& 0xffffffff = x :=
  BitVec.and_allOnes

@[simp] theorem targetOf_NPUOP (op value reg : U32) :
    targetOf (NPUOP op value reg) = op.setWidth 16 := by
  rw [NPUOP, targetOf_packWord, and_low16, and_low16, and_low32]
  apply BitVec.eq_of_getLsbD_eq
  intro i hi
  simp only [BitVec.getLsbD_or, BitVec.getLsbD_setWidth, BitVec.getLsbD_ushiftRight]
  grind

@[simp] theorem valueOf_NPUOP (op value reg : U32) :
    valueOf (NPUOP op value reg) = value := by
  rw [NPUOP, valueOf_packWord, and_low16, and_low32]
  apply BitVec.eq_of_getLsbD_eq
  intro i hi
  simp only [BitVec.getLsbD_or, BitVec.getLsbD_setWidth, BitVec.getLsbD_ushiftRight]
  grind

@[simp] theorem regOf_NPUOP (op value reg : U32) :
    regOf (NPUOP op value reg) = reg.setWidth 16 := by
  rw [NPUOP, regOf_packWord, and_low16]
  apply BitVec.eq_of_getLsbD_eq
  intro i hi
  simp only [BitVec.getLsbD_setWidth]
  grind

/-! ## Replaying a stream of words -/

/-- The unit a word addresses: its target without the `PC_OP_01` bit. -/
def unitOf (word : U64) : U16 := targetOf word &&& ~~~(Hw.PC_OP_01.setWidth 16)

/-- A register of the map: unit and number. -/
abbrev RegKey := U16 × U16

/-- The register writes of a stream, in order. -/
def regWrites (words : List U64) : List (RegKey × U32) :=
  words.map fun word => ((unitOf word, regOf word), valueOf word)

/-- The register file after a stream, from any contents before it. -/
def replay (words : List U64) (before : RegKey → U32) : RegKey → U32 :=
  WriteLog.apply (regWrites words) before

/-! ## What a generator leaves behind -/

/-- A run of a generator: its return value and its stores into
`params->tasks`, in order. -/
structure GenResult where
  ret : ℤ
  stores : List (ℕ × U64)

/-- The words stored, in order. -/
def GenResult.words (r : GenResult) : List U64 := r.stores.map Prod.snd

/-- `params->tasks` after the run. -/
def GenResult.tasks (r : GenResult) (tasks : ℕ → U64) : ℕ → U64 :=
  WriteLog.apply r.stores tasks

/-- A register of a block after the stored words are replayed, whatever the
register file held before. -/
def GenResult.reg (r : GenResult) (before : RegKey → U32) (block reg : U32) : U32 :=
  replay r.words before (block.setWidth 16, reg.setWidth 16)

/-- A refused request: an error code and no store. -/
def GenResult.refuse (code : ℤ) : GenResult := { ret := code, stores := [] }

theorem GenResult.tasks_refuse (code : ℤ) (tasks : ℕ → U64) :
    (GenResult.refuse code).tasks tasks = tasks := rfl

/-! ## Generators that count their stores -/

/-- `regcmd[idx++] = word` for one word after the other: the stores, and `idx`
after the last of them. -/
def emitFrom (idx : ℕ) : List U64 → List (ℕ × U64) × ℕ
  | [] => ([], idx)
  | word :: words =>
    let rest := emitFrom (idx + 1) words
    ((idx, word) :: rest.1, rest.2)

/-- A run that stores these words from `tasks[0]` on and returns `idx`. -/
def GenResult.emit (words : List U64) : GenResult :=
  { ret := (emitFrom 0 words).2, stores := (emitFrom 0 words).1 }

theorem keys_emitFrom (idx : ℕ) (words : List U64) :
    WriteLog.keys (emitFrom idx words).1 = List.range' idx words.length := by
  induction words generalizing idx with
  | nil => rfl
  | cons word words ih =>
    simp only [emitFrom, WriteLog.keys, List.map_cons, List.length_cons, List.range'_succ] at *
    rw [ih]

theorem emitFrom_last (idx : ℕ) (words : List U64) :
    (emitFrom idx words).2 = idx + words.length := by
  induction words generalizing idx with
  | nil => rfl
  | cons word words ih =>
    simp only [emitFrom, List.length_cons]
    rw [ih]
    omega

theorem words_emitFrom (idx : ℕ) (words : List U64) :
    (emitFrom idx words).1.map Prod.snd = words := by
  induction words generalizing idx with
  | nil => rfl
  | cons word words ih =>
    simp only [emitFrom, List.map_cons]
    rw [ih]

theorem mem_emitFrom (idx : ℕ) {i : ℕ} {word : U64} {words : List U64}
    (h : words[i]? = some word) : (idx + i, word) ∈ (emitFrom idx words).1 := by
  induction words generalizing idx i with
  | nil => simp at h
  | cons first words ih =>
    cases i with
    | zero =>
      obtain rfl : first = word := by simpa using h
      exact List.mem_cons_self
    | succ i =>
      have hrest := ih (idx + 1) (by simpa using h)
      rw [show idx + 1 + i = idx + (i + 1) from by omega] at hrest
      exact List.mem_cons_of_mem _ hrest

theorem GenResult.words_emit (words : List U64) : (GenResult.emit words).words = words :=
  words_emitFrom 0 words

/-- The buffer after the run holds each word at its place. -/
theorem GenResult.tasks_emit {words : List U64} {i : ℕ} {word : U64} (tasks : ℕ → U64)
    (h : words[i]? = some word) : (GenResult.emit words).tasks tasks i = word := by
  apply WriteLog.apply_of_nodup
  · rw [GenResult.emit, keys_emitFrom]
    exact List.nodup_range'
  · have hmem := mem_emitFrom 0 h
    rwa [Nat.zero_add] at hmem

end Librocket
