import Librocket.Npu.Packing

/-!
# The layouts are lossless

What the index functions do as maps, over all sizes whose tiles fit an `int`:
none of their products overflows, no two elements share a slot, and where the
last tile is full they number their elements without gaps. `featureElement` is
the way back for the feature layout; for the weights a group of kernels and a
block of channels in it are runs of slots (`weightSlot_mem_group`,
`weightSlot_mem_block`).
-/

namespace Librocket

open Numbering

/-- An index function on `s`: it has a value within `size` slots everywhere and
no two elements share one. -/
structure Lossless {α : Type*} (f : α → Option ℤ) (s : Set α) (size : ℕ) : Prop where
  mapsTo : Set.MapsTo f s (slots 0 size)
  injOn : Set.InjOn f s

/-! ## Feature planes -/

/-- Channels, rows and columns, counted from one. -/
def cube (C H W : ℕ) : Set (ℕ × ℕ × ℕ) := Set.Icc 1 C ×ˢ Set.Icc 1 H ×ˢ Set.Icc 1 W

/-- `feature_data` of an element of the cube. -/
def featureAt (C H W C2 : ℕ) (p : ℕ × ℕ × ℕ) : Option ℤ :=
  featureData C H W C2 p.1 p.2.1 p.2.2

/-- The element in slot `i`. -/
def featureElement (H W C2 i : ℕ) : ℕ × ℕ × ℕ :=
  (i / (H * W * C2) * C2 + i % C2 + 1, i / C2 % (H * W) / W + 1, i / C2 % W + 1)

section Feature

variable {C H W C2 : ℕ}

/-- The slot of an element counted from one. -/
def featureSlotAt (H W C2 : ℕ) (p : ℕ × ℕ × ℕ) : ℕ :=
  featureSlot H W C2 (p.1 - 1) (p.2.1 - 1) (p.2.2 - 1)

/-- Coordinates counted from zero. -/
private theorem exists_of_mem_cube {p : ℕ × ℕ × ℕ} (hp : p ∈ cube C H W) :
    ∃ c < C, ∃ h < H, ∃ w < W, p = (c + 1, h + 1, w + 1) := by
  obtain ⟨c, h, w⟩ := p
  obtain ⟨⟨hc, hc'⟩, ⟨hh, hh'⟩, hw, hw'⟩ := hp
  obtain ⟨c, rfl⟩ := Nat.exists_eq_add_of_le' hc
  obtain ⟨h, rfl⟩ := Nat.exists_eq_add_of_le' hh
  obtain ⟨w, rfl⟩ := Nat.exists_eq_add_of_le' hw
  exact ⟨c, hc', h, hh', w, hw', rfl⟩

theorem featureSlot_lt_ceil {c h w : ℕ} (hC2 : 0 < C2) (hc : c < C) (hh : h < H) (hw : w < W) :
    featureSlot H W C2 c h w < C ⌈/⌉ C2 * C2 * H * W :=
  calc featureSlot H W C2 c h w
      < (C ⌈/⌉ C2) * (H * W) * C2 := Blocked.index_lt hC2 hc (Tile.lt_mul hh hw)
    _ = C ⌈/⌉ C2 * C2 * H * W := by ring

theorem featureAt_eqOn (hC2 : 0 < C2) (hfit : C ⌈/⌉ C2 * C2 * H * W ≤ 2147483647) :
    Set.EqOn (featureAt C H W C2) (fun p => some (featureSlotAt H W C2 p : ℤ)) (cube C H W) := by
  intro p hp
  obtain ⟨c, hc, h, hh, w, hw, rfl⟩ := exists_of_mem_cube hp
  have hlt := featureSlot_lt_ceil hC2 hc hh hw
  exact featureData_eq C (Nat.zero_lt_of_lt hh) (Nat.zero_lt_of_lt hw) hC2 (by omega)

theorem featureSlotAt_injOn (hC2 : 0 < C2) : Set.InjOn (featureSlotAt H W C2) (cube C H W) := by
  intro p hp q hq heq
  obtain ⟨c, -, h, hh, w, hw, rfl⟩ := exists_of_mem_cube hp
  obtain ⟨c', -, h', hh', w', hw', rfl⟩ := exists_of_mem_cube hq
  obtain ⟨rfl, rfl, rfl⟩ := featureSlot_inj hC2 hh hw hh' hw' heq
  rfl

/-- Channel and cell come back by division, row and column from the cell. -/
theorem featureElement_featureSlotAt {p : ℕ × ℕ × ℕ} (hC2 : 0 < C2) (hp : p ∈ cube C H W) :
    featureElement H W C2 (featureSlotAt H W C2 p) = p := by
  obtain ⟨c, -, h, hh, w, hw, rfl⟩ := exists_of_mem_cube hp
  have hcell : h * W + w < H * W := Tile.lt_mul hh hw
  have hchannel : Blocked.channel C2 (H * W) (featureSlot H W C2 c h w) = c :=
    Blocked.channel_index hC2 hcell
  have hposition : featureSlot H W C2 c h w / C2 % (H * W) = h * W + w :=
    Blocked.position_index hC2 hcell
  have hcol : featureSlot H W C2 c h w / C2 % W = w := by
    rw [← Nat.mod_mul_left_mod _ H W, hposition, Tile.mod_eq hw]
  show (Blocked.channel C2 (H * W) (featureSlot H W C2 c h w) + 1,
    featureSlot H W C2 c h w / C2 % (H * W) / W + 1,
    featureSlot H W C2 c h w / C2 % W + 1) = _
  rw [hchannel, hposition, hcol, Tile.div_eq hw]

theorem featureElement_mem {i : ℕ} (hC2 : 0 < C2) (hH : 0 < H) (hW : 0 < W) (hdvd : C2 ∣ C)
    (hi : i < C * H * W) : featureElement H W C2 i ∈ cube C H W := by
  have hcells : 0 < H * W := Nat.mul_pos hH hW
  have hchannel : Blocked.channel C2 (H * W) i < C :=
    Blocked.channel_lt_of_dvd hC2 hcells hdvd (by rwa [← Nat.mul_assoc])
  have hrow : i / C2 % (H * W) / W < H := by
    rw [Nat.div_lt_iff_lt_mul hW]
    exact Blocked.position_lt hcells
  have hcol : i / C2 % W < W := Nat.mod_lt _ hW
  exact ⟨⟨Nat.le_add_left 1 _, hchannel⟩, ⟨Nat.le_add_left 1 _, hrow⟩,
    Nat.le_add_left 1 _, hcol⟩

theorem featureSlotAt_featureElement (hC2 : 0 < C2) (i : ℕ) :
    featureSlotAt H W C2 (featureElement H W C2 i) = i := by
  have hcell : i / C2 % (H * W) / W * W + i / C2 % W = Blocked.position C2 (H * W) i := by
    rw [← Nat.mod_mul_left_mod _ H W]
    exact Nat.div_add_mod' _ W
  show Blocked.index C2 (H * W) (Blocked.channel C2 (H * W) i)
    (i / C2 % (H * W) / W * W + i / C2 % W) = i
  rw [hcell, Blocked.index_channel_position hC2]

theorem featureSlotAt_bijOn (hC2 : 0 < C2) (hH : 0 < H) (hW : 0 < W) (hdvd : C2 ∣ C) :
    Set.BijOn (featureSlotAt H W C2) (cube C H W) (Set.Ico 0 (C * H * W)) := by
  have hinv : Set.InvOn (featureElement H W C2) (featureSlotAt H W C2) (cube C H W)
      (Set.Ico 0 (C * H * W)) :=
    ⟨fun p hp => featureElement_featureSlotAt hC2 hp, fun i _ => featureSlotAt_featureElement hC2 i⟩
  refine hinv.bijOn ?_ fun i hi => featureElement_mem hC2 hH hW hdvd hi.2
  intro p hp
  obtain ⟨c, hc, h, hh, w, hw, rfl⟩ := exists_of_mem_cube hp
  have hlt := featureSlot_lt hC2 hdvd hc hh hw
  exact ⟨Nat.zero_le _, by rwa [Nat.mul_assoc]⟩

end Feature

/-- **`feature_data` is a lossless plane layout**, a bijection with the inverse
`featureElement` where the planes are full. -/
theorem feature_data_lossless {C H W C2 : ℕ} (hH : 1 ≤ H) (hW : 1 ≤ W) (hC2 : 1 ≤ C2)
    (hfit : C ⌈/⌉ C2 * C2 * H * W ≤ 2147483647) :
    Lossless (featureAt C H W C2) (cube C H W) (C ⌈/⌉ C2 * C2 * H * W) ∧
    (C2 ∣ C → Set.BijOn (featureAt C H W C2) (cube C H W) (slots 0 (C * H * W)) ∧
      ∀ i < C * H * W, featureElement H W C2 i ∈ cube C H W ∧
        featureAt C H W C2 (featureElement H W C2 i) = some (i : ℤ)) := by
  have heq := featureAt_eqOn hC2 hfit
  have hmaps : Set.MapsTo (featureSlotAt H W C2) (cube C H W)
      (Set.Ico 0 (C ⌈/⌉ C2 * C2 * H * W)) := by
    intro p hp
    obtain ⟨c, hc, h, hh, w, hw, rfl⟩ := exists_of_mem_cube hp
    exact ⟨Nat.zero_le _, featureSlot_lt_ceil hC2 hc hh hw⟩
  refine ⟨⟨mapsTo heq hmaps, injOn heq (featureSlotAt_injOn hC2)⟩, ?_⟩
  intro hdvd
  refine ⟨bijOn heq (featureSlotAt_bijOn hC2 hH hW hdvd), ?_⟩
  intro i hi
  have hmem := featureElement_mem hC2 hH hW hdvd hi
  refine ⟨hmem, ?_⟩
  calc featureAt C H W C2 (featureElement H W C2 i)
      = some (featureSlotAt H W C2 (featureElement H W C2 i) : ℤ) := heq hmem
    _ = some (i : ℤ) := by rw [featureSlotAt_featureElement hC2]

/-- Two planes of four channels over three rows of two. -/
theorem feature_data_lossless_twoPlanes :
    Lossless (featureAt 8 3 2 4) (cube 8 3 2) (8 ⌈/⌉ 4 * 4 * 3 * 2) ∧
    (4 ∣ 8 → Set.BijOn (featureAt 8 3 2 4) (cube 8 3 2) (slots 0 (8 * 3 * 2)) ∧
      ∀ i < 8 * 3 * 2, featureElement 3 2 4 i ∈ cube 8 3 2 ∧
        featureAt 8 3 2 4 (featureElement 3 2 4 i) = some (i : ℤ)) :=
  feature_data_lossless (by decide) (by decide) (by decide) (by decide)

/-! ## Weight tiles -/

/-- Kernels and channels, counted from one. -/
def table (N C : ℕ) : Set (ℕ × ℕ) := Set.Icc 1 N ×ˢ Set.Icc 1 C

/-- A weight function at an element of the table. -/
def weightAt (weight : ℤ → ℤ → ℤ → Option ℤ) (C : ℕ) (p : ℕ × ℕ) : Option ℤ := weight C p.1 p.2

section Weights

variable {G N C : ℕ}

/-- The slot of a weight counted from one. -/
def weightSlotAt (G C : ℕ) (p : ℕ × ℕ) : ℕ := weightSlot G C (p.1 - 1) (p.2 - 1)

private theorem exists_of_mem_table {p : ℕ × ℕ} (hp : p ∈ table N C) :
    ∃ k < N, ∃ c < C, p = (k + 1, c + 1) := by
  obtain ⟨k, c⟩ := p
  obtain ⟨⟨hk, hk'⟩, hc, hc'⟩ := hp
  obtain ⟨k, rfl⟩ := Nat.exists_eq_add_of_le' hk
  obtain ⟨c, rfl⟩ := Nat.exists_eq_add_of_le' hc
  exact ⟨k, hk', c, hc', rfl⟩

theorem weightSlot_lt_ceil {k c : ℕ} (hG : 0 < G) (hC : 32 ∣ C) (hk : k < N) (hc : c < C) :
    weightSlot G C k c < N ⌈/⌉ G * G * C :=
  calc weightSlot G C k c
      < N ⌈/⌉ G * (G * C) := Tile.lt_mul (Tile.div_lt_ceilDiv hG hk) (weightOffset_lt hG hC hc)
    _ = N ⌈/⌉ G * G * C := by ring

theorem weightAt_eqOn (hG : 0 < G) (hC : 32 ∣ C) (hfit : N ⌈/⌉ G * G * C ≤ 2147483647) :
    Set.EqOn (weightAt (weightTile G) C) (fun p => some (weightSlotAt G C p : ℤ))
      (table N C) := by
  intro p hp
  obtain ⟨k, hk, c, hc, rfl⟩ := exists_of_mem_table hp
  have hlt := weightSlot_lt_ceil hG hC hk hc
  exact weightTile_eq hG (Nat.zero_lt_of_lt hc) (by omega)

theorem weightSlotAt_injOn (hG : 0 < G) (hC : 32 ∣ C) :
    Set.InjOn (weightSlotAt G C) (table N C) := by
  intro p hp q hq heq
  obtain ⟨k, -, c, hc, rfl⟩ := exists_of_mem_table hp
  obtain ⟨k', -, c', hc', rfl⟩ := exists_of_mem_table hq
  obtain ⟨rfl, rfl⟩ := weightSlot_inj hG hC hc hc' heq
  rfl

theorem bijOn_pred (N C : ℕ) :
    Set.BijOn (fun p : ℕ × ℕ => (p.1 - 1, p.2 - 1)) (table N C) {a | a ∈ grid N C} := by
  refine ⟨?_, ?_, ?_⟩
  · intro p hp
    obtain ⟨k, hk, c, hc, rfl⟩ := exists_of_mem_table hp
    exact mem_grid.mpr ⟨hk, hc⟩
  · intro p hp q hq heq
    obtain ⟨k, -, c, -, rfl⟩ := exists_of_mem_table hp
    obtain ⟨k', -, c', -, rfl⟩ := exists_of_mem_table hq
    obtain ⟨rfl, rfl⟩ := Prod.ext_iff.mp heq
    rfl
  · rintro ⟨k, c⟩ ha
    obtain ⟨hk, hc⟩ := mem_grid.mp ha
    exact ⟨(k + 1, c + 1), ⟨⟨Nat.le_add_left 1 k, hk⟩, Nat.le_add_left 1 c, hc⟩, rfl⟩

/-- **The weights fill their slots**: as many cells as slots. -/
theorem weightSlotAt_bijOn (hG : 0 < G) (hC : 32 ∣ C) (hN : G ∣ N) :
    Set.BijOn (weightSlotAt G C) (table N C) (Set.Iio (N * C)) :=
  (weightLayout_full G C N hG hC hN).bijOn.comp (bijOn_pred N C)

/-- **A group of kernels is a run of slots.** -/
theorem weightSlot_mem_group {k c g : ℕ} (hG : 0 < G) (hC : 32 ∣ C) (hc : c < C) :
    g * (G * C) ≤ weightSlot G C k c ∧ weightSlot G C k c < g * (G * C) + G * C ↔ k / G = g := by
  have hgroup : weightSlot G C k c / (G * C) = k / G := Tile.div_eq (weightOffset_lt hG hC hc)
  rw [← hgroup]
  exact (Tile.div_eq_iff (Nat.mul_pos hG (Nat.zero_lt_of_lt hc))).symm

theorem blockRun_le {b : ℕ} (hb : b < C / 32) : b * (G * 32) + G * 32 ≤ G * C :=
  calc b * (G * 32) + G * 32 = G * ((b + 1) * 32) := by ring
    _ ≤ G * C := Nat.mul_le_mul_left G ((Nat.le_div_iff_mul_le (by decide)).mp hb)

/-- **A block of channels is a run within the group.** -/
theorem weightSlot_mem_block {k c g b : ℕ} (hG : 0 < G) (hC : 32 ∣ C) (hc : c < C)
    (hb : b < C / 32) :
    g * (G * C) + b * (G * 32) ≤ weightSlot G C k c ∧
        weightSlot G C k c < g * (G * C) + b * (G * 32) + G * 32 ↔ k / G = g ∧ c / 32 = b := by
  have hrun := blockRun_le (G := G) hb
  have hgroup := weightSlot_mem_group (k := k) (g := g) hG hC hc
  have hblock : Blocked.index 32 G c (k % G) / (G * 32) = c / 32 :=
    Blocked.index_div (by decide) (Nat.mod_lt k hG)
  have hwidth : 0 < G * 32 := Nat.mul_pos hG (by decide)
  rw [← hblock, Tile.div_eq_iff hwidth]
  constructor
  · rintro ⟨hlo, hhi⟩
    have hg : k / G = g := hgroup.mp ⟨by omega, by omega⟩
    rw [weightSlot, hg] at hlo hhi
    exact ⟨hg, by omega, by omega⟩
  · rintro ⟨hg, hlo, hhi⟩
    rw [weightSlot, hg]
    exact ⟨by omega, by omega⟩

/-- The kernels of group `g`. -/
def groupBox (G C g : ℕ) : Set (ℕ × ℕ) := Set.Icc (g * G + 1) (g * G + G) ×ˢ Set.Icc 1 C

/-- The channels of block `b` in it. -/
def blockBox (G g b : ℕ) : Set (ℕ × ℕ) :=
  Set.Icc (g * G + 1) (g * G + G) ×ˢ Set.Icc (b * 32 + 1) (b * 32 + 32)

theorem mem_groupBox_iff {g : ℕ} (hG : 0 < G) (hC : 32 ∣ C) (hg : g * G + G ≤ N) (p : ℕ × ℕ) :
    p ∈ groupBox G C g ↔ p ∈ table N C ∧ g * (G * C) ≤ weightSlotAt G C p ∧
      weightSlotAt G C p < g * (G * C) + G * C := by
  obtain ⟨k, c⟩ := p
  constructor
  · rintro ⟨⟨hk, hk'⟩, hc, hc'⟩
    have hgroup : (k - 1) / G = g := (Tile.div_eq_iff hG).mpr ⟨by omega, by omega⟩
    exact ⟨⟨⟨by omega, by omega⟩, hc, hc'⟩,
      (weightSlot_mem_group hG hC (by omega)).mpr hgroup⟩
  · rintro ⟨⟨⟨hk, -⟩, hc, hc'⟩, hrun⟩
    have hgroup := (weightSlot_mem_group hG hC (by omega)).mp hrun
    obtain ⟨hlo, hhi⟩ := (Tile.div_eq_iff hG).mp hgroup
    exact ⟨⟨by omega, by omega⟩, hc, hc'⟩

theorem mem_blockBox_iff {g b : ℕ} (hG : 0 < G) (hC : 32 ∣ C) (hg : g * G + G ≤ N)
    (hb : b < C / 32) (p : ℕ × ℕ) :
    p ∈ blockBox G g b ↔ p ∈ table N C ∧
      g * (G * C) + b * (G * 32) ≤ weightSlotAt G C p ∧
      weightSlotAt G C p < g * (G * C) + b * (G * 32) + G * 32 := by
  obtain ⟨k, c⟩ := p
  have hlast : b * 32 + 32 ≤ C := by omega
  constructor
  · rintro ⟨⟨hk, hk'⟩, hc, hc'⟩
    have hgroup : (k - 1) / G = g := (Tile.div_eq_iff hG).mpr ⟨by omega, by omega⟩
    have hblock : (c - 1) / 32 = b := by omega
    exact ⟨⟨⟨by omega, by omega⟩, by omega, by omega⟩,
      (weightSlot_mem_block hG hC (by omega) hb).mpr ⟨hgroup, hblock⟩⟩
  · rintro ⟨⟨⟨hk, -⟩, hc, hc'⟩, hrun⟩
    obtain ⟨hgroup, hblock⟩ := (weightSlot_mem_block hG hC (by omega) hb).mp hrun
    obtain ⟨hlo, hhi⟩ := (Tile.div_eq_iff hG).mp hgroup
    exact ⟨⟨by omega, by omega⟩, by omega, by omega⟩

end Weights

/-- A weight function that tiles: no two weights share a slot, and where the
last group of kernels is full there are no gaps, each group is a run of `G * C`
slots and each block of 32 channels in it one of `G * 32`. -/
structure Tiles (G : ℕ) (weight : ℤ → ℤ → ℤ → Option ℤ) (N C : ℕ) : Prop where
  lossless : Lossless (weightAt weight C) (table N C) (N ⌈/⌉ G * G * C)
  full : G ∣ N → Set.BijOn (weightAt weight C) (table N C) (slots 0 (N * C))
  group : G ∣ N → ∀ g < N / G,
    Set.BijOn (weightAt weight C) (groupBox G C g)
      (slots (g * (G * C)) (g * (G * C) + G * C))
  block : G ∣ N → ∀ g < N / G, ∀ b < C / 32,
    Set.BijOn (weightAt weight C) (blockBox G g b)
      (slots (g * (G * C) + b * (G * 32)) (g * (G * C) + b * (G * 32) + G * 32))

theorem tiles_weightTile {G N C : ℕ} (hG : 0 < G) (hC : 32 ∣ C)
    (hfit : N ⌈/⌉ G * G * C ≤ 2147483647) : Tiles G (weightTile G) N C := by
  have heq := weightAt_eqOn hG hC hfit
  have hgroups : ∀ g < N / G, g * G + G ≤ N ∧ g * (G * C) + G * C ≤ N * C := by
    intro g hg
    have hle : (g + 1) * G ≤ N := (Nat.le_div_iff_mul_le hG).mp hg
    have hmul : (g + 1) * G * C ≤ N * C := Nat.mul_le_mul_right C hle
    have hrun : g * (G * C) + G * C = (g + 1) * G * C := by ring
    have hkernels : g * G + G = (g + 1) * G := by ring
    rw [hrun, hkernels]
    exact ⟨hle, hmul⟩
  constructor
  case lossless =>
    refine ⟨mapsTo heq ?_, injOn heq (weightSlotAt_injOn hG hC)⟩
    intro p hp
    obtain ⟨k, hk, c, hc, rfl⟩ := exists_of_mem_table hp
    exact ⟨Nat.zero_le _, weightSlot_lt_ceil hG hC hk hc⟩
  case full =>
    intro hN
    have hbij := weightSlotAt_bijOn hG hC hN
    refine bijOn_run heq hbij le_rfl fun p => ⟨fun hp => ⟨hp, Nat.zero_le _, hbij.mapsTo hp⟩, ?_⟩
    exact fun hp => hp.1
  case group =>
    intro hN g hg
    obtain ⟨hkernels, hrun⟩ := hgroups g hg
    exact bijOn_run heq (weightSlotAt_bijOn hG hC hN) hrun (mem_groupBox_iff hG hC hkernels)
  case block =>
    intro hN g hg b hb
    obtain ⟨hkernels, hrun⟩ := hgroups g hg
    have hlast := blockRun_le (G := G) hb
    exact bijOn_run heq (weightSlotAt_bijOn hG hC hN) (by omega)
      (mem_blockBox_iff hG hC hkernels hb)

/-- **The weight tilings are lossless**, in groups of 16 kernels for fp16 and of
32 for int8. -/
theorem weights_lossless {N C : ℕ} (hC : 32 ∣ C) :
    (N ⌈/⌉ 16 * 16 * C ≤ 2147483647 → Tiles 16 weightFp16 N C) ∧
      (N ⌈/⌉ 32 * 32 * C ≤ 2147483647 → Tiles 32 weightInt8 N C) := by
  constructor
  · intro hfit
    exact tiles_weightTile (G := 16) (by decide) hC hfit
  · intro hfit
    exact tiles_weightTile (G := 32) (by decide) hC hfit

/-- 48 kernels of 64 channels. -/
theorem weights_lossless_threeGroups : Tiles 16 weightFp16 48 64 ∧ Tiles 32 weightInt8 48 64 := by
  obtain ⟨hfp16, hint8⟩ := weights_lossless (N := 48) (C := 64) (by decide)
  exact ⟨hfp16 (by decide), hint8 (by decide)⟩

end Librocket
