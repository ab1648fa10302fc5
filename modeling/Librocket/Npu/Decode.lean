import Librocket.Npu.Fields

/-!
# The encoder loses nothing

For descriptors in range `gen_matmul_task` is injective: the register file its
stream leaves behind decodes, by the fields of `mesa_registers.h`, to the
descriptors it was given.

The argument is `value_lt`: in range every piece of a row fits the field it is
meant for. A row is then a word assembled from disjoint fields, and what is
read, what stays zero and what a change leaves alone are the three lemmas about
such words.
-/

namespace Librocket

open Hw Bitfield

/-! ## Descriptors in range -/

/-- Every field fits the mask the encoder applies to it; the channel count also
fits when stored as one less in fourteen bits, and the surface stride is a
28-bit two's complement number. -/
structure InRange (s : Stack) : Prop where
  masks : ∀ r ∈ taskRows, ∀ p ∈ r.pieces, p.src ≠ .cnaSurfStride →
    p.src.read s &&& p.mask = p.src.read s
  channel : 1 ≤ s.cna.datainChannel.toNat ∧ s.cna.datainChannel.toNat ≤ 0x4000
  surfStride : -2 ^ 27 ≤ s.cna.surfStride.toInt ∧ s.cna.surfStride.toInt < 2 ^ 27

/-- The run of the encoder on three descriptors. -/
def taskRun (s : Stack) : GenResult :=
  { ret := 0, stores := genMatmulTask s.cna s.core s.dpu }

/-- The register file after the stream. -/
def taskFile (s : Stack) (before : RegKey → U32) : RegKey → U32 :=
  replay (taskRun s).words before

theorem taskFile_row (s : Stack) (before : RegKey → U32) {r : TaskRow} (hr : r ∈ taskRows) :
    taskFile s before r.key = r.value s := by
  have hmem : r.npuOp s ∈ taskOps s.cna s.core s.dpu := by
    rw [taskOps_eq]
    exact List.mem_map_of_mem hr
  have hwords : (taskRun s).words = (genMatmulTask s.cna s.core s.dpu).map Prod.snd := rfl
  have hkey : (r.npuOp s).key = r.key := rfl
  rw [taskFile, hwords, ← hkey, replay_genMatmulTask s.cna s.core s.dpu before hmem]
  rfl

/-! ## Rows as assembled words -/

section Rows

variable {s s' : Stack} {r : TaskRow}

theorem TaskRow.value_eq_assemble (r : TaskRow) (s : Stack) :
    r.value s = assemble Piece.field (fun p => p.value s) r.const r.pieces := by
  have hstep : (fun (v : U32) (p : Piece) => v ||| p.value s <<< p.shift) =
      fun v p => v ||| p.value s <<< p.field.shift := by
    funext v p
    rw [p.aligned]
  rw [TaskRow.value, hstep]
  rfl

/-- A row depends on the fields it packs. -/
theorem TaskRow.value_congr (h : ∀ p ∈ r.pieces, p.src.read s = p.src.read s') :
    r.value s = r.value s' := by
  apply List.foldl_ext
  intro v p hp
  rw [Piece.value, Piece.value, h p hp]

theorem Piece.value_of_less_zero {p : Piece} (h : p.less = 0) :
    p.value s = p.src.read s &&& p.mask := by
  rw [Piece.value, h]
  exact congrArg (· &&& p.mask) (BitVec.sub_zero _)

/-- The channel count less one, as `CNA_DATA_SIZE1` has it. -/
theorem toNat_channelReal (h : InRange s) :
    (promote s.cna.datainChannel - 1 &&& 0xFFFF).toNat + 1 = s.cna.datainChannel.toNat := by
  obtain ⟨hlo, hhi⟩ := h.channel
  have hone : (1 : U32) ≤ promote s.cna.datainChannel := by
    rw [BitVec.le_def, toNat_promote_u16]
    exact hlo
  rw [toNat_and_lowMask 16 rfl, BitVec.toNat_sub_of_le hone, toNat_promote_u16]
  show (s.cna.datainChannel.toNat - 1) % 2 ^ 16 + 1 = s.cna.datainChannel.toNat
  omega

/-- A piece stored as it is fits its field, whatever the descriptors hold. -/
theorem value_lt_of_less_zero (hr : r ∈ taskRows) {p : Piece} (hp : p ∈ r.pieces)
    (hless : p.less = 0) : (p.value s).toNat < 2 ^ p.field.width := by
  rcases taskRows_narrow hr hp with ⟨-, hmask⟩ | ⟨hone, -⟩
  · rw [Piece.value_of_less_zero hless, BitVec.toNat_and]
    exact lt_of_le_of_lt Nat.and_le_right hmask
  · rw [hless] at hone
    exact absurd hone (by decide)

/-- **In range every piece fits its field.** -/
theorem value_lt (h : InRange s) (hr : r ∈ taskRows) :
    ∀ p ∈ r.pieces, (p.value s).toNat < 2 ^ p.field.width := by
  intro p hp
  rcases taskRows_narrow hr hp with ⟨hless, -⟩ | ⟨hless, hsrc, hmask, hwidth⟩
  · exact value_lt_of_less_zero hr hp hless
  · have hreal := toNat_channelReal h
    have hhi := h.channel.2
    rw [Piece.value, hless, hsrc, hmask, hwidth]
    show (promote s.cna.datainChannel - 1 &&& 0xFFFF).toNat < 2 ^ 14
    omega

/-- **A field reads back** what its piece holds, where every piece fits. -/
theorem get_row (before : RegKey → U32) (hr : r ∈ taskRows)
    (hfit : ∀ q ∈ r.pieces, (q.value s).toNat < 2 ^ q.field.width) {p : Piece}
    (hp : p ∈ r.pieces) : p.field.get (taskFile s before r.key) = (p.value s).toNat := by
  obtain ⟨hsep, hconst, -⟩ := taskRows_separate hr
  have hclear : ∀ q ∈ r.pieces, q.field.get r.const = 0 := by
    intro q hq
    simp [Field.get, hconst q hq]
  rw [taskFile_row s before hr, r.value_eq_assemble]
  exact get_assemble_own hfit hsep hclear hp

/-- **The reserved fields stay zero.** -/
theorem get_reserved (before : RegKey → U32) (hr : r ∈ taskRows)
    (hfit : ∀ q ∈ r.pieces, (q.value s).toNat < 2 ^ q.field.width) {f : Field 32}
    (hf : f ∈ r.reserved) : f.get (taskFile s before r.key) = 0 := by
  obtain ⟨-, -, hreserved⟩ := taskRows_separate hr
  obtain ⟨hconst, hout⟩ := hreserved f hf
  rw [taskFile_row s before hr, r.value_eq_assemble, get_assemble_other hfit hout]
  simp [Field.get, hconst]

/-- **Frame**: where two descriptors differ in one field only, a field of a
register that does not meet the places of that one reads the same. -/
theorem get_frame (h : InRange s) (h' : InRange s') (before : RegKey → U32) {d : DescField}
    (hsame : ∀ e, e ≠ d → e.read s = e.read s') (hr : r ∈ taskRows) {f : Field 32}
    (hout : ∀ p ∈ r.pieces, p.src = d → p.field.mask &&& f.mask = 0) :
    f.get (taskFile s before r.key) = f.get (taskFile s' before r.key) := by
  rw [taskFile_row s before hr, taskFile_row s' before hr, r.value_eq_assemble,
    r.value_eq_assemble]
  apply get_assemble_congr (value_lt h hr) (value_lt h' hr)
  intro p hp
  by_cases hd : p.src = d
  · exact Or.inl (hout p hp hd)
  · refine Or.inr ?_
    rw [Piece.value, Piece.value, hsame p.src hd]

end Rows

/-- A register of a unit. -/
def regKey (unit reg : U32) : RegKey := (unit.setWidth 16, reg.setWidth 16)

/-! ## Single fields -/

section Single

variable {unit reg : U32} {f : Field 32}

/-- Field `f` of a register holds the low `k` bits of a descriptor field: piece
`j` of row `i`, in a row of pieces stored as they are. -/
def Holds (i j : ℕ) (unit reg : U32) (f : Field 32) (d : DescField) (k : ℕ) : Prop :=
  ∃ (hi : i < taskRows.length) (hj : j < taskRows[i].pieces.length),
    taskRows[i].key = regKey unit reg ∧ (∀ q ∈ taskRows[i].pieces, q.less = 0) ∧
      taskRows[i].pieces[j].field = f ∧ taskRows[i].pieces[j].src = d ∧
      taskRows[i].pieces[j].mask.toNat = 2 ^ k - 1

instance (i j : ℕ) (unit reg : U32) (f : Field 32) (d : DescField) (k : ℕ) :
    Decidable (Holds i j unit reg f d k) := by
  unfold Holds; infer_instance

/-- Field `f` of a register is clear, whatever the descriptors hold. -/
def StaysClear (unit reg : U32) (f : Field 32) : Prop :=
  ∃ r ∈ taskRows, r.key = regKey unit reg ∧ (∀ q ∈ r.pieces, q.less = 0) ∧ f ∈ r.reserved

instance (unit reg : U32) (f : Field 32) : Decidable (StaysClear unit reg f) := by
  unfold StaysClear; infer_instance

theorem get_of_holds {i j : ℕ} {d : DescField} {k : ℕ} (s : Stack) (before : RegKey → U32)
    (h : Holds i j unit reg f d k) :
    f.get (taskFile s before (regKey unit reg)) = (d.read s).toNat % 2 ^ k := by
  obtain ⟨hi, hj, hkey, hless, rfl, rfl, hmask⟩ := h
  have hr : taskRows[i] ∈ taskRows := List.getElem_mem hi
  have hp : taskRows[i].pieces[j] ∈ taskRows[i].pieces := List.getElem_mem hj
  rw [← hkey, get_row before hr (fun q hq => value_lt_of_less_zero hr hq (hless q hq)) hp,
    Piece.value_of_less_zero (hless _ hp), toNat_and_lowMask k hmask]

theorem get_of_staysClear (s : Stack) (before : RegKey → U32) (h : StaysClear unit reg f) :
    f.get (taskFile s before (regKey unit reg)) = 0 := by
  obtain ⟨r, hr, hkey, hless, hf⟩ := h
  rw [← hkey]
  exact get_reserved before hr (fun q hq => value_lt_of_less_zero hr hq (hless q hq)) hf

end Single

/-! ## Decoding -/

/-- A register file decodes to three descriptors: each field that is stored as
it is reads back, the surface stride as a signed number, the channel counts
from both halves of their registers, and the reserved fields are zero. -/
structure Decodes (s : Stack) (file : RegKey → U32) : Prop where
  fields : ∀ r ∈ taskRows, ∀ p ∈ r.pieces, p.less = 0 → p.src ≠ .cnaSurfStride →
    p.field.get (file r.key) = (p.src.read s).toNat
  surfStride :
    Reg.CNA_DMA_CON2_SURF_STRIDE.getSigned (file (regKey BLOCK_CNA CNA_DMA_CON2)) =
      s.cna.surfStride.toInt
  channelReal :
    Reg.CNA_DATA_SIZE1_DATAIN_CHANNEL_REAL.get (file (regKey BLOCK_CNA CNA_DATA_SIZE1)) + 1 =
      s.cna.datainChannel.toNat
  channel :
    Reg.CNA_DATA_SIZE1_DATAIN_CHANNEL.get (file (regKey BLOCK_CNA CNA_DATA_SIZE1)) =
      s.cna.datainChannel.toNat
  cubeOrigChannel :
    Reg.DPU_DATA_CUBE_CHANNEL_ORIG_CHANNEL.get (file (regKey BLOCK_DPU DPU_DATA_CUBE_CHANNEL)) =
      s.dpu.channel.toNat
  cubeChannel :
    Reg.DPU_DATA_CUBE_CHANNEL_CHANNEL.get (file (regKey BLOCK_DPU DPU_DATA_CUBE_CHANNEL)) =
      s.dpu.channel.toNat
  reserved : ∀ r ∈ taskRows, ∀ f ∈ r.reserved, f.get (file r.key) = 0

theorem decodes_taskFile {s : Stack} (h : InRange s) (before : RegKey → U32) :
    Decodes s (taskFile s before) := by
  have hfields : ∀ r ∈ taskRows, ∀ p ∈ r.pieces, p.less = 0 → p.src ≠ .cnaSurfStride →
      p.field.get (taskFile s before r.key) = (p.src.read s).toNat := by
    intro r hr p hp hless hsrc
    rw [get_row before hr (value_lt h hr) hp, Piece.value_of_less_zero hless,
      h.masks r hr p hp hsrc]
  have hsize1 : taskRows[5] ∈ taskRows := List.getElem_mem _
  have hcon2 : taskRows[25] ∈ taskRows := List.getElem_mem _
  have hcube : taskRows[62] ∈ taskRows := List.getElem_mem _
  constructor
  case fields => exact hfields
  case surfStride =>
    have hstride : Reg.CNA_DMA_CON2_SURF_STRIDE.get
        (taskFile s before (regKey BLOCK_CNA CNA_DMA_CON2)) =
        Reg.CNA_DMA_CON2_SURF_STRIDE.get s.cna.surfStride := by
      have hrow := get_row before hcon2 (value_lt h hcon2) (p := taskRows[25].pieces[0])
        List.mem_cons_self
      have hcut : Reg.CNA_DMA_CON2_SURF_STRIDE.get (s.cna.surfStride &&& 0xFFFFFFF) =
          (s.cna.surfStride &&& 0xFFFFFFF).toNat :=
        Field.get_aligned_zero s.cna.surfStride rfl (by decide)
      rw [Piece.value_of_less_zero rfl] at hrow
      rw [← Field.get_and_mask Reg.CNA_DMA_CON2_SURF_STRIDE s.cna.surfStride]
      exact hrow.trans hcut.symm
    rw [Field.getSigned, hstride]
    exact Field.getSigned_of_range _ rfl h.surfStride.1 h.surfStride.2 (by decide)
  case channelReal =>
    have hrow := get_row before hsize1 (value_lt h hsize1) (p := taskRows[5].pieces[0])
      List.mem_cons_self
    have hreal := toNat_channelReal h
    rw [← hreal]
    exact congrArg (· + 1) hrow
  case channel =>
    have hchannel := hfields _ hsize1 taskRows[5].pieces[1] (List.getElem_mem _) rfl (by decide)
    rw [← toNat_promote_u16]
    exact hchannel
  case cubeOrigChannel =>
    have hchannel := hfields _ hcube taskRows[62].pieces[0] (List.getElem_mem _) rfl (by decide)
    rw [← toNat_promote_u16]
    exact hchannel
  case cubeChannel =>
    have hchannel := hfields _ hcube taskRows[62].pieces[1] (List.getElem_mem _) rfl (by decide)
    rw [← toNat_promote_u16]
    exact hchannel
  case reserved => exact fun r hr f hf => get_reserved before hr (value_lt h hr) hf

/-- **A register file decodes to one triple of descriptors only**, as far as
they are read. -/
theorem Decodes.read_eq {s s' : Stack} {file : RegKey → U32} (h : Decodes s file)
    (h' : Decodes s' file) (d : DescField) : d.read s = d.read s' := by
  by_cases hd : d = .cnaSurfStride
  · subst hd
    apply BitVec.eq_of_toInt_eq
    show s.cna.surfStride.toInt = s'.cna.surfStride.toInt
    rw [← h.surfStride, ← h'.surfStride]
  · obtain ⟨r, hr, p, hp, rfl, hless⟩ := exists_piece d
    apply BitVec.eq_of_toNat_eq
    rw [← h.fields r hr p hp hless hd, ← h'.fields r hr p hp hless hd]

/-- The stream is a function of the fields that are read. -/
theorem taskRun_congr {s s' : Stack} (h : ∀ d : DescField, d.read s = d.read s') :
    taskRun s = taskRun s' := by
  have hops : taskOps s.cna s.core s.dpu = taskOps s'.cna s'.core s'.dpu := by
    rw [taskOps_eq, taskOps_eq]
    apply List.map_congr_left
    intro r _
    have hvalue : r.value s = r.value s' := TaskRow.value_congr fun p _ => h p.src
    rw [TaskRow.npuOp, TaskRow.npuOp, hvalue]
  rw [taskRun, taskRun, genMatmulTask, genMatmulTask, hops]

/-! ## The encoder is faithful -/

/-- **`gen_matmul_task` is a faithful encoder.** For descriptors in range the
stream decodes to them; a change of one field changes no other decoded field of
any register, whatever bits the field is made of; and two streams agree exactly
where the fields that are read do. -/
theorem encoder_faithful {s : Stack} (h : InRange s) (before : RegKey → U32) :
    Decodes s (taskFile s before) ∧
    (∀ d : DescField, ∃ r ∈ taskRows, ∃ p ∈ r.pieces, p.src = d ∧ p.less = 0) ∧
    ∀ s' : Stack, InRange s' →
      (∀ d : DescField, (∀ e, e ≠ d → e.read s = e.read s') → ∀ r ∈ taskRows, ∀ f : Field 32,
        (∀ p ∈ r.pieces, p.src = d → p.field.mask &&& f.mask = 0) →
        f.get (taskFile s before r.key) = f.get (taskFile s' before r.key)) ∧
      (genMatmulTask s.cna s.core s.dpu = genMatmulTask s'.cna s'.core s'.dpu ↔
        ∀ d : DescField, d.read s = d.read s') := by
  refine ⟨decodes_taskFile h before, exists_piece, ?_⟩
  intro s' h'
  refine ⟨?_, ?_, ?_⟩
  · intro d hsame r hr f hout
    exact get_frame h h' before hsame hr hout
  · intro hstream d
    have hfile : taskFile s before = taskFile s' before := by
      rw [taskFile, taskFile, taskRun, taskRun, hstream]
    have hdecodes := decodes_taskFile h' before
    rw [← hfile] at hdecodes
    exact (decodes_taskFile h before).read_eq hdecodes d
  · intro hsame
    exact congrArg GenResult.stores (taskRun_congr hsame)

/-- Descriptors with a negative surface stride and every other field zero or
small. -/
def plainStack : Stack :=
  { cna := { (default : NpuCnaDesc) with datainChannel := 32, surfStride := -3 }
    core := default
    dpu := { (default : NpuDpuDesc) with channel := 15, outPrecision := 5 } }

theorem encoder_faithful_plainStack : Decodes plainStack (taskFile plainStack fun _ => 0) :=
  (encoder_faithful (s := plainStack)
    { masks := by decide +kernel, channel := by decide, surfStride := by decide } _).1

end Librocket
