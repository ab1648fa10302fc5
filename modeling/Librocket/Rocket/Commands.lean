import Librocket.Npu.Agreement
import Librocket.Rocket.Linked

/-!
# The commands of the matmul test

What the NPU reads from the object of the commands: the words the generator
stored, if it counts them. With `npu_matmul_mesa.c` they tell it the sizes. The
input's address is told where it has 32 bits; the addresses of the weights and of
the output are told by no word, so they are what the registers held before.
-/

namespace Librocket.MatmulTest

open Hw Bitfield Rocket
open Mesa (ValidSizes)

/-- The commands lie in front of what was there. -/
theorem words_commandImage (count : ℕ) (npuRegs : ℕ → U64) (image : Bytes.Image) :
    Bytes.words 8 (commandImage count npuRegs image) =
      fun i => if i < count then npuRegs i else Bytes.words 8 image i := by
  induction count with
  | zero => rfl
  | succ count ih =>
      have hlast : commandImage (count + 1) npuRegs image =
          Bytes.store 8 count (npuRegs count) (commandImage count npuRegs image) := by
        unfold commandImage
        rw [List.range_succ, List.foldl_append]
        rfl
      rw [hlast, Bytes.words_store (by decide) (npuRegs count).isLt, ih]
      funext i
      rcases lt_trichotomy i count with hlt | heq | hgt
      · rw [Function.update_of_ne hlt.ne, if_pos hlt, if_pos (Nat.lt_succ_of_lt hlt)]
      · rw [heq, Function.update_self, if_pos (Nat.lt_succ_self count)]
      · rw [Function.update_of_ne hgt.ne', if_neg (not_lt.mpr hgt.le), if_neg (not_lt.mpr hgt)]

section Submitted

variable (T : Setup) (M K N : U32) (dma : ℕ → U64)

/-- The words the NPU is sent to: as many as the submit counts, from the start of
the object. -/
def Setup.submitted : List U64 :=
  (List.range (BitVec.ofInt 32 (T.generated M K N dma).ret).toNat).map fun i =>
    Bytes.load 8 i (T.operands M K N dma regcmdBo)

/-- What a register holds once they are carried out. -/
def Setup.reg (before : RegKey → U32) (block reg : U32) : U32 :=
  replay (T.submitted M K N dma) before (block.setWidth 16, reg.setWidth 16)

variable {T M K N dma}

/-- The words of a generator that counts them arrive. -/
theorem submitted_emit {words : List U64}
    (hgenerated : T.generated M K N dma = GenResult.emit words)
    (hlength : words.length ≤ taskWords) : T.submitted M K N dma = words := by
  have hret : (GenResult.emit words).ret = (words.length : ℤ) := by
    rw [GenResult.emit, emitFrom_last, Nat.zero_add]
  have hcount : (BitVec.ofInt 32 (words.length : ℤ)).toNat = words.length := by
    rw [BitVec.ofInt_natCast, BitVec.toNat_ofNat]
    exact Nat.mod_eq_of_lt (lt_of_le_of_lt hlength (by decide))
  rw [Setup.submitted, hgenerated, hret, hcount]
  have hword : ∀ i ∈ List.range words.length, Bytes.load 8 i (T.operands M K N dma regcmdBo) =
      (GenResult.emit words).tasks (fun _ => 0) i := by
    intro i hi
    show Bytes.words 8 (commandImage _ _ _) i = _
    rw [words_commandImage, hgenerated, hret]
    exact if_pos (List.mem_range.mp hi)
  rw [List.map_congr_left hword, copy_emit]

end Submitted

section Mesa

variable {T : Setup} {M K N : U32} {dma : ℕ → U64}

/-- The shipped generator's registers are those of its stream. -/
theorem reg_mesa (hlib : T.lib = library .mesa) (before : RegKey → U32) (block reg : U32) :
    T.reg M K N dma before block reg =
      (Mesa.genMatmulFp16 (params M K N (dma inputBo) (dma weightsBo) (dma outputBo))).reg before
        block reg := by
  have hgenerated : T.generated M K N dma = GenResult.emit ((Mesa.regcmds
      (params M K N (dma inputBo) (dma weightsBo) (dma outputBo))).map Mesa.Regcmd.word) := by
    rw [Setup.generated, hlib]
    rfl
  have hlength : ((Mesa.regcmds (params M K N (dma inputBo) (dma weightsBo)
      (dma outputBo))).map Mesa.Regcmd.word).length ≤ taskWords := by
    rw [List.length_map, Mesa.length_regcmds]
    decide
  rw [Setup.reg, submitted_emit hgenerated hlength, GenResult.reg, Mesa.genMatmulFp16,
    GenResult.words_emit]

/-- An address is kept by a register if it has no more bits than that. -/
theorem address_kept_iff (addr : U64) :
    (addr.setWidth 32).setWidth 64 = addr ↔ addr.toNat < 2 ^ 32 := by
  have hlow : ((addr.setWidth 32).setWidth 64).toNat = addr.toNat % 2 ^ 32 := by
    rw [BitVec.toNat_setWidth, BitVec.toNat_setWidth]
    exact Nat.mod_eq_of_lt (lt_trans (Nat.mod_lt _ (by decide)) (by decide))
  rw [← BitVec.toNat_inj, hlow]
  exact Nat.mod_eq_iff_lt (by decide)

/-- **What the commands tell the NPU**, in a library as it is built: the sizes; the input's
address, where it has 32 bits; neither the weights' address nor the output's, whose
registers keep what they held. -/
theorem mesa_commands (hlib : T.lib = library .mesa) (hsizes : ValidSizes M.toNat K.toNat N.toNat)
    (dma : ℕ → U64) (before : RegKey → U32) :
    let reg := T.reg M K N dma before
    (Reg.CNA_DATA_SIZE0_DATAIN_HEIGHT.get (reg BLOCK_CNA CNA_DATA_SIZE0) = M.toNat ∧
        Reg.CNA_DATA_SIZE1_DATAIN_CHANNEL.get (reg BLOCK_CNA CNA_DATA_SIZE1) = K.toNat ∧
        Reg.CNA_WEIGHT_SIZE2_WEIGHT_KERNELS.get (reg BLOCK_CNA CNA_WEIGHT_SIZE2) = N.toNat) ∧
      ((reg BLOCK_CNA CNA_FEATURE_DATA_ADDR).setWidth 64 = dma inputBo ↔
        (dma inputBo).toNat < 2 ^ 32) ∧
      reg BLOCK_CNA CNA_DCOMP_ADDR0 =
        before (BLOCK_CNA.setWidth 16, CNA_DCOMP_ADDR0.setWidth 16) ∧
      reg BLOCK_DPU DPU_DST_BASE_ADD =
        before (BLOCK_DPU.setWidth 16, DPU_DST_BASE_ADD.setWidth 16) := by
  intro reg
  obtain ⟨⟨-, hM, -⟩, ⟨-, hK, -⟩, ⟨-, hN, -⟩⟩ := hsizes
  have hm : (M.setWidth 16).toNat = M.toNat := toNat_size (le_trans hM (by decide))
  have hk : (K.setWidth 16).toNat = K.toNat := toNat_size hK
  have hn : (N.setWidth 16).toNat = N.toNat := toNat_size hN
  have hsurface : 2 * (M.setWidth 16).toNat * (N.setWidth 16).toNat < 2 ^ 31 := by
    have hle : M.toNat * N.toNat ≤ 384 * 4096 := Nat.mul_le_mul hM hN
    rw [hm, hn, Nat.mul_assoc]
    omega
  have hreg : ∀ block num, reg block num = (Mesa.genMatmulFp16
      (params M K N (dma inputBo) (dma weightsBo) (dma outputBo))).reg before block num :=
    reg_mesa hlib before
  have hsize0 : reg BLOCK_CNA CNA_DATA_SIZE0 =
      (promote (M.setWidth 16) <<< 0) ||| ((1 : U32) <<< 16) :=
    (hreg _ _).trans (Mesa.reg_ofUInt32 hsurface before 3 rfl (by decide) (by decide))
  have hsize1 : reg BLOCK_CNA CNA_DATA_SIZE1 = promote (K.setWidth 16) <<< 0 :=
    (hreg _ _).trans (Mesa.reg_ofUInt32 hsurface before 4 rfl (by decide) (by decide))
  have hsize2 : reg BLOCK_CNA CNA_WEIGHT_SIZE2 =
      (promote (N.setWidth 16) <<< 0) ||| ((1 : U32) <<< 16) ||| ((1 : U32) <<< 24) :=
    (hreg _ _).trans (Mesa.reg_ofUInt32 hsurface before 5 rfl (by decide) (by decide))
  have hinput : reg BLOCK_CNA CNA_FEATURE_DATA_ADDR = (dma inputBo).setWidth 32 &&& 0xFFFFFFFF :=
    (hreg _ _).trans (Mesa.reg_ofUInt32 hsurface before 6 rfl (by decide) (by decide))
  rw [BitVec.shiftLeft_zero] at hsize0 hsize1 hsize2
  refine ⟨⟨?_, ?_, ?_⟩, ?_, ?_, ?_⟩
  · rw [hsize0, Field.get_or, get_promote, hm]
    simp [Reg.CNA_DATA_SIZE0_DATAIN_HEIGHT, Field.get]
    omega
  · rw [hsize1, get_promote, hk]
    simp [Reg.CNA_DATA_SIZE1_DATAIN_CHANNEL]
    omega
  · rw [hsize2, Field.get_or, Field.get_or, get_promote, hn]
    simp [Reg.CNA_WEIGHT_SIZE2_WEIGHT_KERNELS, Field.get]
    omega
  · have hmask : (dma inputBo).setWidth 32 &&& 0xFFFFFFFF = (dma inputBo).setWidth 32 :=
      BitVec.and_allOnes
    rw [hinput, hmask]
    exact address_kept_iff _
  · exact (hreg _ _).trans (Mesa.reg_of_untouched hsurface before (by decide))
  · exact (hreg _ _).trans (Mesa.reg_of_untouched hsurface before (by decide))

theorem mesa_commands_sample :
    let reg := (sample .mesa).reg 1 32 16 (fun b => 0x100000000 * b) fun _ => 0
    (reg BLOCK_CNA CNA_FEATURE_DATA_ADDR).setWidth 64 ≠ (0x100000000 : U64) := by
  intro reg
  obtain ⟨-, hinput, -⟩ := mesa_commands (T := sample .mesa) rfl validSizes_smallest
    (fun b => 0x100000000 * b) fun _ => 0
  intro heq
  have hlt := hinput.mp heq
  revert hlt
  decide

end Mesa

end Librocket.MatmulTest
