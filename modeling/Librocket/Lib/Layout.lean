import Librocket.Lib.WriteLog
import Mathlib.Algebra.Order.Floor.Div
import Mathlib.Data.List.Perm.Subperm
import Mathlib.Data.List.ProdSigma
import Mathlib.Data.Set.Function
import Mathlib.Tactic.Ring

/-!
# Lossless layouts

How a table is laid out in linear memory. The first half is arithmetic: an
index built from a block number, a position and a lane within the block is a
mixed-radix number, so the three come back by division (`Blocked`), and indices
of different elements differ. The second half is what such an index is for: a
`Layout` assigns every cell of a table its own slot, so storing the table cell
by cell and reading it back loses nothing, in whatever order the stores run.
`Numbering` carries such facts over to an index function that may fail.
-/

/-! ## Mixed-radix indices -/

namespace Tile

variable {d q q' r r' : ℕ}

theorem div_eq (hr : r < d) : (q * d + r) / d = q := by
  rw [Nat.mul_comm, Nat.mul_add_div (Nat.zero_lt_of_lt hr), Nat.div_eq_of_lt hr, Nat.add_zero]

theorem mod_eq (hr : r < d) : (q * d + r) % d = r := by
  rw [Nat.mul_comm, Nat.mul_add_mod, Nat.mod_eq_of_lt hr]

/-- A tile number and an offset within the tile are determined by the index. -/
theorem inj (hr : r < d) (hr' : r' < d) (h : q * d + r = q' * d + r') : q = q' ∧ r = r' := by
  constructor
  · rw [← div_eq (q := q) hr, h, div_eq hr']
  · rw [← mod_eq (q := q) hr, h, mod_eq hr']

theorem lt_mul {n : ℕ} (hq : q < n) (hr : r < d) : q * d + r < n * d :=
  calc q * d + r < q * d + d := Nat.add_lt_add_left hr _
    _ = (q + 1) * d := (Nat.succ_mul q d).symm
    _ ≤ n * d := Nat.mul_le_mul_right d hq

/-- The indices of a tile are a run of length `d`. -/
theorem div_eq_iff {i : ℕ} (hd : 0 < d) : i / d = q ↔ q * d ≤ i ∧ i < q * d + d := by
  rw [Nat.div_eq_iff hd]
  omega

/-- What a length lacks to the next multiple of `d`. -/
def fill (d n : ℕ) : ℕ := (d - n % d) % d

variable {n : ℕ}

theorem fill_lt (hd : 0 < d) : fill d n < d := Nat.mod_lt _ hd

/-- The last tile is filled up by what follows its last element. -/
theorem fill_succ (hd : 0 < d) : fill d (n + 1) = d - 1 - n % d := by
  have hr := Nat.mod_lt n hd
  have hsplit := Nat.div_add_mod' n d
  rcases Nat.lt_or_ge (n % d + 1) d with hlt | hge
  · have hmod : (n + 1) % d = n % d + 1 := by
      rw [← hsplit, Nat.add_assoc, mod_eq hlt, hsplit]
    rw [fill, hmod, Nat.mod_eq_of_lt (by omega)]
    omega
  · have hmod : (n + 1) % d = 0 := by
      have hnext : n + 1 = (n / d + 1) * d := by
        rw [Nat.succ_mul]
        omega
      rw [hnext, Nat.mul_mod_left]
    rw [fill, hmod, Nat.sub_zero, Nat.mod_self]
    omega

/-- Rounding up, as it is programmed. -/
theorem ceilDiv_eq_ite (hd : 0 < d) : n ⌈/⌉ d = if n % d = 0 then n / d else n / d + 1 := by
  have hr := Nat.mod_lt n hd
  have hsplit := Nat.div_add_mod' n d
  rw [Nat.ceilDiv_eq_add_pred_div]
  split
  case isTrue hzero =>
    rw [show n + d - 1 = n / d * d + (d - 1) from by omega]
    exact div_eq (by omega)
  case isFalse hpos =>
    have hnext : n + d - 1 = (n / d + 1) * d + (n % d - 1) := by
      rw [Nat.succ_mul]
      omega
    rw [hnext]
    exact div_eq (by omega)

/-- Every element is in one of the tiles, the last one partly filled. -/
theorem div_lt_ceilDiv {i : ℕ} (hd : 0 < d) (hi : i < n) : i / d < n ⌈/⌉ d := by
  rw [Nat.ceilDiv_eq_add_pred_div, Nat.div_lt_iff_lt_mul hd]
  have hdiv := Nat.div_add_mod' (n + d - 1) d
  have hmod := Nat.mod_lt (n + d - 1) hd
  omega

/-- Rounding up adds what is lacking. -/
theorem ceilDiv_mul (hd : 0 < d) : n ⌈/⌉ d * d = n + fill d n := by
  have hr := Nat.mod_lt n hd
  have hsplit := Nat.div_add_mod' n d
  rw [ceilDiv_eq_ite hd, fill]
  split
  case isTrue hzero =>
    rw [hzero, Nat.sub_zero, Nat.mod_self]
    omega
  case isFalse hpos =>
    rw [Nat.succ_mul, Nat.mod_eq_of_lt (by omega)]
    omega

theorem fill_eq_zero_iff (hd : 0 < d) : fill d n = 0 ↔ d ∣ n := by
  constructor
  · intro hfill
    have hceil := ceilDiv_mul (n := n) hd
    rw [hfill, Nat.add_zero] at hceil
    exact Dvd.intro_left _ hceil
  · intro hdvd
    rw [fill, Nat.mod_eq_zero_of_dvd hdvd, Nat.sub_zero, Nat.mod_self]

end Tile

namespace Blocked

/-- Channel `c` at position `p`, in blocks of `B` channels over `P` positions:
the blocks follow each other, within a block the positions, within a position
the channels of the block. -/
def index (B P c p : ℕ) : ℕ := (c / B * P + p) * B + c % B

/-- The channel an index belongs to. -/
def channel (B P i : ℕ) : ℕ := i / (P * B) * B + i % B

/-- The position an index belongs to. -/
def position (B P i : ℕ) : ℕ := i / B % P

variable {B P c c' p p' : ℕ}

/-- The block an index is in. -/
theorem index_div (hB : 0 < B) (hp : p < P) : index B P c p / (P * B) = c / B := by
  rw [index, Nat.mul_comm P B, ← Nat.div_div_eq_div_mul, Tile.div_eq (Nat.mod_lt c hB),
    Tile.div_eq hp]

theorem channel_index (hB : 0 < B) (hp : p < P) : channel B P (index B P c p) = c := by
  rw [channel, index_div hB hp, index, Tile.mod_eq (Nat.mod_lt c hB)]
  exact Nat.div_add_mod' c B

theorem position_index (hB : 0 < B) (hp : p < P) : position B P (index B P c p) = p := by
  rw [position, index, Tile.div_eq (Nat.mod_lt c hB), Tile.mod_eq hp]

theorem index_channel_position (hB : 0 < B) (i : ℕ) :
    index B P (channel B P i) (position B P i) = i := by
  have hlane : i % B < B := Nat.mod_lt i hB
  rw [index, channel, position, Tile.div_eq hlane, Tile.mod_eq hlane, Nat.mul_comm P B,
    ← Nat.div_div_eq_div_mul, Nat.div_add_mod', Nat.div_add_mod']

/-- **Injectivity**: an index determines channel and position. -/
theorem index_inj (hB : 0 < B) (hp : p < P) (hp' : p' < P)
    (h : index B P c p = index B P c' p') : c = c' ∧ p = p' := by
  constructor
  · calc c = channel B P (index B P c p) := (channel_index hB hp).symm
      _ = c' := by rw [h, channel_index hB hp']
  · calc p = position B P (index B P c p) := (position_index hB hp).symm
      _ = p' := by rw [h, position_index hB hp']

/-- A partly filled last block still takes the room of a whole one. -/
theorem index_lt {C : ℕ} (hB : 0 < B) (hc : c < C) (hp : p < P) :
    index B P c p < (C ⌈/⌉ B) * P * B :=
  Tile.lt_mul (Tile.lt_mul (Tile.div_lt_ceilDiv hB hc) hp) (Nat.mod_lt c hB)

/-- Where the blocks are full the image is `[0, C * P)`. -/
theorem index_lt_of_dvd {C : ℕ} (hB : 0 < B) (hdvd : B ∣ C) (hc : c < C) (hp : p < P) :
    index B P c p < C * P := by
  obtain ⟨Q, rfl⟩ := hdvd
  have hblock : c / B < Q := by
    rw [Nat.div_lt_iff_lt_mul hB, Nat.mul_comm]
    exact hc
  have hlt := Tile.lt_mul (Tile.lt_mul hblock hp) (Nat.mod_lt c hB)
  calc index B P c p < Q * P * B := hlt
    _ = B * Q * P := by ring

theorem channel_lt_of_dvd {C i : ℕ} (hB : 0 < B) (hP : 0 < P) (hdvd : B ∣ C) (hi : i < C * P) :
    channel B P i < C := by
  obtain ⟨Q, rfl⟩ := hdvd
  have hblock : i / (P * B) < Q := by
    rw [Nat.div_lt_iff_lt_mul (Nat.mul_pos hP hB)]
    calc i < B * Q * P := hi
      _ = Q * (P * B) := by ring
  rw [Nat.mul_comm B Q]
  exact Tile.lt_mul hblock (Nat.mod_lt i hB)

theorem position_lt {i : ℕ} (hP : 0 < P) : position B P i < P := Nat.mod_lt _ hP

/-- The pitch from a block to the next. -/
theorem index_add_block (hB : 0 < B) : index B P (c + B) p = index B P c p + P * B := by
  rw [index, index, Nat.add_div_right c hB, Nat.add_mod_right]
  ring

end Blocked

/-! ## Layouts -/

/-- A table laid out in `size` slots: the cells in the order a loop visits
them, and a slot of its own for each. -/
structure Layout (α : Type*) where
  cells : List α
  slot : α → ℕ
  size : ℕ
  nodup : cells.Nodup
  slot_lt : ∀ a ∈ cells, slot a < size
  slot_inj : ∀ a ∈ cells, ∀ b ∈ cells, slot a = slot b → a = b

namespace Layout

variable {α R : Type*} (L : Layout α)

/-- The stores of a table, cell by cell. -/
def log (f : α → R) : List (ℕ × R) := L.cells.map fun a => (L.slot a, f a)

theorem keys_log (f : α → R) : WriteLog.keys (L.log f) = L.cells.map L.slot := by
  rw [WriteLog.keys, log, List.map_map]
  rfl

theorem keys_nodup (f : α → R) : (WriteLog.keys (L.log f)).Nodup := by
  rw [keys_log]
  exact L.nodup.map_on fun a ha b hb => L.slot_inj a ha b hb

/-- **Every stored cell is read back.** -/
theorem read {a : α} (f : α → R) (mem : ℕ → R) (ha : a ∈ L.cells) :
    WriteLog.apply (L.log f) mem (L.slot a) = f a :=
  WriteLog.apply_of_nodup mem (L.keys_nodup f)
    (List.mem_map_of_mem (f := fun a => (L.slot a, f a)) ha)

/-- A layout with as many cells as slots. -/
def Full : Prop := L.cells.length = L.size

/-- **Every slot of a full layout is written exactly once.** -/
theorem Full.keys_perm {L : Layout α} (h : L.Full) (f : α → R) :
    (WriteLog.keys (L.log f)).Perm (List.range L.size) := by
  have hsub : WriteLog.keys (L.log f) ⊆ List.range L.size := by
    intro i hi
    rw [keys_log] at hi
    obtain ⟨a, ha, rfl⟩ := List.mem_map.mp hi
    exact List.mem_range.mpr (L.slot_lt a ha)
  have hlen : (List.range L.size).length ≤ (WriteLog.keys (L.log f)).length := by
    rw [keys_log, List.length_map, List.length_range]
    exact h.ge
  exact (List.subperm_of_subset (L.keys_nodup f) hsub).perm_of_length_le hlen

/-- The slots of a full layout are its cells, renamed. -/
theorem Full.bijOn {L : Layout α} (h : L.Full) :
    Set.BijOn L.slot {a | a ∈ L.cells} (Set.Iio L.size) := by
  refine ⟨fun a ha => L.slot_lt a ha, fun a ha b hb => L.slot_inj a ha b hb, ?_⟩
  intro i hi
  have hmem : i ∈ WriteLog.keys (L.log id) :=
    (h.keys_perm id).mem_iff.mpr (List.mem_range.mpr hi)
  rw [keys_log] at hmem
  exact List.mem_map.mp hmem

end Layout

/-! ## Index functions that may fail -/

namespace Numbering

/-- The slots from `a` up to `b`, as results of an index function. -/
def slots (a b : ℕ) : Set (Option ℤ) := (fun i : ℕ => some (i : ℤ)) '' Set.Ico a b

variable {α : Type*} {f : α → Option ℤ} {slot : α → ℕ} {s : Set α} {a b n : ℕ}

theorem mapsTo (heq : Set.EqOn f (fun p => some (slot p : ℤ)) s)
    (h : Set.MapsTo slot s (Set.Ico a b)) : Set.MapsTo f s (slots a b) := by
  intro p hp
  rw [heq hp]
  exact ⟨slot p, h hp, rfl⟩

theorem injOn (heq : Set.EqOn f (fun p => some (slot p : ℤ)) s) (h : Set.InjOn slot s) :
    Set.InjOn f s := by
  intro p hp q hq hpq
  rw [heq hp, heq hq] at hpq
  exact h hp hq (Nat.cast_injective (Option.some.inj hpq))

theorem bijOn (heq : Set.EqOn f (fun p => some (slot p : ℤ)) s)
    (h : Set.BijOn slot s (Set.Ico a b)) : Set.BijOn f s (slots a b) := by
  refine ⟨mapsTo heq h.mapsTo, injOn heq h.injOn, ?_⟩
  rintro _ ⟨i, hi, rfl⟩
  obtain ⟨p, hp, rfl⟩ := h.surjOn hi
  exact ⟨p, hp, heq hp⟩

/-- **Runs**: where an index function numbers a set without gaps, the elements
with a slot between two bounds take up all of that run. -/
theorem bijOn_run (heq : Set.EqOn f (fun p => some (slot p : ℤ)) s)
    (h : Set.BijOn slot s (Set.Iio n)) (hb : b ≤ n) {box : Set α}
    (hbox : ∀ p, p ∈ box ↔ p ∈ s ∧ a ≤ slot p ∧ slot p < b) : Set.BijOn f box (slots a b) := by
  have hset : box = s ∩ Set.preimage slot (Set.Ico a b) := Set.ext hbox
  have hrun : Set.Ico a b ⊆ Set.Iio n := fun i hi => lt_of_lt_of_le hi.2 hb
  rw [hset]
  exact bijOn (heq.mono Set.inter_subset_left) (h.subset_right hrun)

end Numbering

/-! ## The loops that fill them -/

namespace Loop

variable {α β : Type*}

/-- A loop whose body appends to a log: the log grows by what each round
appends, in order. -/
theorem foldlM_log {body : List β → α → Option (List β)} {appended : α → List β} :
    ∀ (l : List α) (log : List β), (∀ a ∈ l, ∀ log, body log a = some (log ++ appended a)) →
      l.foldlM body log = some (log ++ l.flatMap appended) := by
  intro l
  induction l with
  | nil =>
    intro log _
    simp
  | cons a l ih =>
    intro log hbody
    rw [List.foldlM_cons, hbody a List.mem_cons_self]
    rw [show (some (log ++ appended a) >>= fun log => l.foldlM body log) =
      l.foldlM body (log ++ appended a) from rfl]
    rw [ih _ fun b hb => hbody b (List.mem_cons_of_mem a hb), List.flatMap_cons,
      List.append_assoc]

/-- A loop whose body never fails is a fold. -/
theorem foldlM_some {σ : Type*} {body : σ → α → Option σ} {step : σ → α → σ} :
    ∀ (l : List α) (s : σ), (∀ a ∈ l, ∀ s, body s a = some (step s a)) →
      l.foldlM body s = some (l.foldl step s) := by
  intro l
  induction l with
  | nil => exact fun s _ => rfl
  | cons a l ih =>
    intro s hbody
    rw [List.foldlM_cons, hbody a List.mem_cons_self, List.foldl_cons]
    exact ih _ fun b hb => hbody b (List.mem_cons_of_mem a hb)

end Loop
