import Mathlib.Data.BitVec
import Mathlib.Tactic.Ring

/-!
# Bit fields of a register word

A field is a contiguous run of bits of a `w`-bit word, given the way register
headers give it: by its mask and its shift. Reading a field distributes over
the `|||` that assembles a word, so a word packed from masked and shifted
pieces is read back one piece at a time: the piece aligned with the field comes
back, every piece that does not meet the field's mask reads zero. Both side
conditions speak of the constants only and are decidable.

The last section is about a word assembled from a list of fields, each holding
a value that fits it. Where the fields are disjoint the word is a faithful
record of the values: each reads back (`get_assemble_own`), and any other field
reads what the word held before (`get_assemble_other`).
-/

namespace Bitfield

/-- A field of a `w`-bit word: its mask and shift, and the proof that the mask
is one contiguous run of `width` bits starting at `shift`. -/
structure Field (w : ℕ) where
  mask : BitVec w
  shift : ℕ
  width : ℕ
  fits : shift + width ≤ w := by decide
  mask_eq : mask = (BitVec.allOnes width).setWidth w <<< shift := by decide
deriving DecidableEq

variable {w : ℕ}

/-- The value of a field in a word. -/
def Field.get (f : Field w) (v : BitVec w) : ℕ := ((v &&& f.mask) >>> f.shift).toNat

/-- A word with the value in the field's place, cut to the field. -/
def Field.put (f : Field w) (x : BitVec w) : BitVec w := (x <<< f.shift) &&& f.mask

theorem Field.getLsbD_mask (f : Field w) (i : ℕ) :
    f.mask.getLsbD i = (decide (f.shift ≤ i) && decide (i < f.shift + f.width)) := by
  have hfits := f.fits
  rw [f.mask_eq]
  simp only [BitVec.getLsbD_shiftLeft, BitVec.getLsbD_setWidth, BitVec.getLsbD_allOnes]
  by_cases h₁ : f.shift ≤ i <;> by_cases h₂ : i < f.shift + f.width <;>
    simp [h₁, h₂] <;> omega

/-- Arithmetic reading: shift right by division, cut by remainder. -/
theorem Field.get_eq_div_mod (f : Field w) (v : BitVec w) :
    f.get v = v.toNat / 2 ^ f.shift % 2 ^ f.width := by
  have hbits : (v &&& f.mask) >>> f.shift =
      (v >>> f.shift) &&& (BitVec.allOnes f.width).setWidth w := by
    apply BitVec.eq_of_getLsbD_eq
    intro i hi
    have hfits := f.fits
    simp only [BitVec.getLsbD_ushiftRight, BitVec.getLsbD_and, f.getLsbD_mask,
      BitVec.getLsbD_setWidth, BitVec.getLsbD_allOnes]
    by_cases hw : i < f.width
    · have h₂ : f.shift + i < f.shift + f.width := by omega
      simp [hw, hi]
    · simp [hw]
  have hle : f.width ≤ w := by have := f.fits; omega
  rw [Field.get, hbits, BitVec.toNat_and, BitVec.toNat_ushiftRight, BitVec.toNat_setWidth,
    BitVec.toNat_allOnes, Nat.shiftRight_eq_div_pow,
    Nat.mod_eq_of_lt (lt_of_lt_of_le (Nat.sub_lt (Nat.two_pow_pos _) Nat.one_pos)
      (Nat.pow_le_pow_right (by omega) hle)),
    Nat.and_two_pow_sub_one_eq_mod]

theorem Field.get_or (f : Field w) (a b : BitVec w) :
    f.get (a ||| b) = f.get a ||| f.get b := by
  unfold Field.get
  rw [BitVec.and_or_distrib_right, BitVec.ushiftRight_or_distrib, BitVec.toNat_or]

/-- Masking with the field's own mask changes nothing in the field. -/
theorem Field.get_and_mask (f : Field w) (v : BitVec w) : f.get (v &&& f.mask) = f.get v := by
  rw [Field.get, Field.get, BitVec.and_assoc, BitVec.and_self]

/-! ## Signed fields -/

/-- The value of a field read as two's complement. -/
def Field.getSigned (f : Field w) (v : BitVec w) : ℤ := (BitVec.ofNat f.width (f.get v)).toInt

/-- A lowest field holds every signed value of its range. -/
theorem Field.getSigned_of_range {f : Field w} (v : BitVec w) (hs : f.shift = 0)
    (hlo : -2 ^ (f.width - 1) ≤ v.toInt) (hhi : v.toInt < 2 ^ (f.width - 1))
    (hpos : 0 < f.width) : f.getSigned v = v.toInt := by
  have hdvd : 2 ^ f.width ∣ 2 ^ w := Nat.pow_dvd_pow 2 (by have := f.fits; omega)
  have hhalf : 2 ^ f.width = 2 * 2 ^ (f.width - 1) := by
    rw [← Nat.pow_succ', Nat.succ_eq_add_one, Nat.sub_add_cancel hpos]
  calc f.getSigned v
      = ((v.toNat % 2 ^ f.width : ℕ) : ℤ).bmod (2 ^ f.width) := by
        rw [Field.getSigned, BitVec.toInt_ofNat', f.get_eq_div_mod, hs, pow_zero, Nat.div_one]
    _ = ((v.toNat : ℤ).bmod (2 ^ w)).bmod (2 ^ f.width) := by
        rw [Int.bmod_bmod_of_dvd hdvd, Int.natCast_mod, Int.emod_bmod]
    _ = v.toInt.bmod (2 ^ f.width) := by rw [← BitVec.toInt_eq_toNat_bmod]
    _ = v.toInt := by
        apply Int.bmod_eq_of_le
        · rw [hhalf]
          push_cast
          omega
        · rw [hhalf]
          push_cast
          omega

/-- A value put into a field reads back, cut to its width. -/
theorem Field.get_put (f : Field w) (x : BitVec w) :
    f.get (f.put x) = x.toNat % 2 ^ f.width := by
  have hfits := f.fits
  have hsplit : 2 ^ w = 2 ^ (w - f.shift) * 2 ^ f.shift := by
    rw [← Nat.pow_add]
    congr 1
    omega
  have hdvd : 2 ^ f.width ∣ 2 ^ (w - f.shift) := Nat.pow_dvd_pow 2 (by omega)
  rw [Field.put, f.get_and_mask, f.get_eq_div_mod, BitVec.toNat_shiftLeft, Nat.shiftLeft_eq, hsplit,
    Nat.mul_mod_mul_right, Nat.mul_div_cancel _ (Nat.two_pow_pos _), Nat.mod_mod_of_dvd _ hdvd]

/-- It does not show in another field. -/
theorem Field.get_put_disjoint {f g : Field w} (h : g.mask &&& f.mask = 0#w) (x : BitVec w) :
    f.get (g.put x) = 0 := by
  rw [Field.get, Field.put, BitVec.and_assoc, h, BitVec.and_zero]
  simp

/-! ## Masked and shifted pieces -/

/-- A piece whose mask lands inside the field reads back whole. -/
theorem Field.get_aligned {f : Field w} {m : BitVec w} {s : ℕ} (x : BitVec w)
    (hs : s = f.shift) (hin : (m <<< s) &&& f.mask = m <<< s) (hkeep : (m <<< s) >>> s = m) :
    f.get ((x &&& m) <<< s) = (x &&& m).toNat := by
  subst hs
  have hmask : ((x &&& m) <<< f.shift) &&& f.mask = (x &&& m) <<< f.shift := by
    rw [BitVec.shiftLeft_and_distrib, BitVec.and_assoc, hin]
  have hback : ((x &&& m) <<< f.shift) >>> f.shift = x &&& m := by
    apply BitVec.eq_of_getLsbD_eq
    intro i hi
    have hbit := congrArg (fun v => v.getLsbD i) hkeep
    simp only [BitVec.getLsbD_ushiftRight, BitVec.getLsbD_shiftLeft] at hbit
    simp only [BitVec.getLsbD_ushiftRight, BitVec.getLsbD_shiftLeft, BitVec.getLsbD_and]
    rw [show f.shift + i - f.shift = i from by omega] at *
    rw [← hbit]
    by_cases h₁ : f.shift + i < w <;> simp [h₁]
  rw [Field.get, hmask, hback]

/-- A piece whose mask misses the field reads zero. -/
theorem Field.get_disjoint {f : Field w} {m : BitVec w} {s : ℕ} (x : BitVec w)
    (hout : (m <<< s) &&& f.mask = 0#w) : f.get ((x &&& m) <<< s) = 0 := by
  have hmask : ((x &&& m) <<< s) &&& f.mask = 0#w := by
    rw [BitVec.shiftLeft_and_distrib, BitVec.and_assoc, hout, BitVec.and_zero]
  simp [Field.get, hmask]

/-- The unshifted forms, as a word's lowest piece is written. -/
theorem Field.get_aligned_zero {f : Field w} {m : BitVec w} (x : BitVec w)
    (hs : f.shift = 0) (hin : m &&& f.mask = m) : f.get (x &&& m) = (x &&& m).toNat := by
  have h := Field.get_aligned (f := f) (m := m) (s := 0) x hs.symm (by simpa using hin) (by simp)
  simpa using h

theorem Field.get_disjoint_zero {f : Field w} {m : BitVec w} (x : BitVec w)
    (hout : m &&& f.mask = 0#w) : f.get (x &&& m) = 0 := by
  have h := Field.get_disjoint (f := f) (m := m) (s := 0) x (by simpa using hout)
  simpa using h

/-! ## Assembled words -/

/-- A value that fits a field stays inside it. -/
theorem Field.place_and_mask {f : Field w} {x : BitVec w} (hx : x.toNat < 2 ^ f.width) :
    (x <<< f.shift) &&& f.mask = x <<< f.shift := by
  apply BitVec.eq_of_getLsbD_eq
  intro i hi
  simp only [BitVec.getLsbD_and, BitVec.getLsbD_shiftLeft, f.getLsbD_mask]
  by_cases h₁ : f.shift ≤ i
  · by_cases h₂ : i < f.shift + f.width
    · simp [h₁, h₂]
    · have hbit : x.getLsbD (i - f.shift) = false :=
        Nat.testBit_lt_two_pow
          (lt_of_lt_of_le hx (Nat.pow_le_pow_right (by omega) (by omega)))
      simp [hbit]
  · simp [h₁]

theorem Field.get_place {f : Field w} {x : BitVec w} (hx : x.toNat < 2 ^ f.width) :
    f.get (x <<< f.shift) = x.toNat := by
  have hfits := f.fits
  have hlt : x.toNat * 2 ^ f.shift < 2 ^ w :=
    calc x.toNat * 2 ^ f.shift < 2 ^ f.width * 2 ^ f.shift :=
          Nat.mul_lt_mul_of_pos_right hx (Nat.two_pow_pos _)
      _ = 2 ^ (f.shift + f.width) := by rw [← Nat.pow_add, Nat.add_comm]
      _ ≤ 2 ^ w := Nat.pow_le_pow_right (by omega) hfits
  rw [f.get_eq_div_mod, BitVec.toNat_shiftLeft, Nat.shiftLeft_eq, Nat.mod_eq_of_lt hlt,
    Nat.mul_div_cancel _ (Nat.two_pow_pos _), Nat.mod_eq_of_lt hx]

theorem Field.get_place_disjoint {f g : Field w} {x : BitVec w} (hx : x.toNat < 2 ^ g.width)
    (h : g.mask &&& f.mask = 0#w) : f.get (x <<< g.shift) = 0 := by
  have hmiss : (x <<< g.shift) &&& f.mask = 0#w := by
    rw [← Field.place_and_mask hx, BitVec.and_assoc, h, BitVec.and_zero]
  simp [Field.get, hmiss]

section Assemble

variable {ι : Type*} (field : ι → Field w) (value : ι → BitVec w)

/-- A word that holds the value of every entry in the entry's field, over the
bits of `c`. -/
def assemble (c : BitVec w) (l : List ι) : BitVec w :=
  l.foldl (fun v i => v ||| value i <<< (field i).shift) c

variable {field value} {c : BitVec w} {l : List ι}

theorem assemble_append (l' : List ι) :
    assemble field value c (l ++ l') = assemble field value (assemble field value c l) l' :=
  List.foldl_append

/-- **A field no entry meets** reads what the word held before. -/
theorem get_assemble_other {f : Field w} (hfit : ∀ i ∈ l, (value i).toNat < 2 ^ (field i).width)
    (hout : ∀ i ∈ l, (field i).mask &&& f.mask = 0#w) :
    f.get (assemble field value c l) = f.get c := by
  induction l generalizing c with
  | nil => rfl
  | cons i l ih =>
    have hhead : f.get (value i <<< (field i).shift) = 0 :=
      Field.get_place_disjoint (hfit i List.mem_cons_self) (hout i List.mem_cons_self)
    calc f.get (assemble field value (c ||| value i <<< (field i).shift) l)
        = f.get (c ||| value i <<< (field i).shift) :=
          ih (fun j hj => hfit j (List.mem_cons_of_mem i hj))
            fun j hj => hout j (List.mem_cons_of_mem i hj)
      _ = f.get c := by rw [Field.get_or, hhead, Nat.or_zero]

/-- **Every entry reads back**, where the fields are disjoint and the word was
clear in them. -/
theorem get_assemble_own {i : ι} (hfit : ∀ j ∈ l, (value j).toNat < 2 ^ (field j).width)
    (hsep : l.Pairwise fun j k => (field j).mask &&& (field k).mask = 0#w)
    (hclear : ∀ j ∈ l, (field j).get c = 0) (hi : i ∈ l) :
    (field i).get (assemble field value c l) = (value i).toNat := by
  obtain ⟨before, after, rfl⟩ := List.append_of_mem hi
  rw [List.pairwise_append, List.pairwise_cons] at hsep
  obtain ⟨-, ⟨hafter, -⟩, hbefore⟩ := hsep
  have hmem : ∀ j ∈ after, j ∈ before ++ i :: after := fun j hj =>
    List.mem_append_right _ (List.mem_cons_of_mem i hj)
  -- the entries after `i` and those before it leave the field alone
  have hrest : (field i).get (assemble field value c (before ++ i :: after)) =
      (field i).get (assemble field value c before ||| value i <<< (field i).shift) := by
    rw [assemble_append]
    apply get_assemble_other (fun j hj => hfit j (hmem j hj))
    intro j hj
    rw [BitVec.and_comm]
    exact hafter j hj
  have hfirst : (field i).get (assemble field value c before) = (field i).get c :=
    get_assemble_other (fun j hj => hfit j (List.mem_append_left _ hj))
      fun j hj => hbefore j hj i List.mem_cons_self
  rw [hrest, Field.get_or, hfirst, hclear i hi, Nat.zero_or, Field.get_place (hfit i hi)]

/-- **Frame**: entries that do not meet a field may change their values. -/
theorem get_assemble_congr {value' : ι → BitVec w} {f : Field w}
    (hfit : ∀ i ∈ l, (value i).toNat < 2 ^ (field i).width)
    (hfit' : ∀ i ∈ l, (value' i).toNat < 2 ^ (field i).width)
    (hsame : ∀ i ∈ l, (field i).mask &&& f.mask = 0#w ∨ value i = value' i) :
    f.get (assemble field value c l) = f.get (assemble field value' c l) := by
  induction l using List.reverseRecOn with
  | nil => rfl
  | append_singleton l i ih =>
    have hmem : i ∈ l ++ [i] := List.mem_append_right _ List.mem_cons_self
    have hinit := ih (fun j hj => hfit j (List.mem_append_left _ hj))
      (fun j hj => hfit' j (List.mem_append_left _ hj))
      fun j hj => hsame j (List.mem_append_left _ hj)
    have hlast : f.get (value i <<< (field i).shift) = f.get (value' i <<< (field i).shift) := by
      rcases hsame i hmem with hmiss | heq
      · rw [Field.get_place_disjoint (hfit i hmem) hmiss,
          Field.get_place_disjoint (hfit' i hmem) hmiss]
      · rw [heq]
    rw [assemble_append, assemble_append]
    show f.get (assemble field value c l ||| value i <<< (field i).shift) =
      f.get (assemble field value' c l ||| value' i <<< (field i).shift)
    rw [Field.get_or, Field.get_or, hinit, hlast]

end Assemble

/-- A low mask is a remainder. -/
theorem toNat_and_lowMask {x m : BitVec w} (k : ℕ) (hm : m.toNat = 2 ^ k - 1) :
    (x &&& m).toNat = x.toNat % 2 ^ k := by
  rw [BitVec.toNat_and, hm, Nat.and_two_pow_sub_one_eq_mod]

end Bitfield
