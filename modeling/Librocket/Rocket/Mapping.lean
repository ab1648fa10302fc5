import Librocket.Rocket.Cleanup

/-!
# Mapping a live bo again

`rocket_bo_create` maps the object once and for all, `rocket_bo_map` hands out
`bo->map`, and `rocket_bo_unmap` ends the mapping and clears the field. No
other call maps the object: a live bo can be mapped exactly until it is
unmapped for the first time, and from then on `rocket_bo_map` returns `NULL`.
-/

namespace Librocket.Rocket

/-- `rocket_bo_map` on `b` gives the CPU all of the object at `offset`. -/
def Sys.MapsWhole (s : Sys) (b : ℕ) (offset : U64) : Prop :=
  rocketBoMap (s.bo b) ≠ NULL ∧
    s.world.mappings (rocketBoMap (s.bo b)) =
      some { length := (s.bo b).size, offset := offset }

/-- An operation that neither creates nor destroys `b`. -/
def Op.Spares (b : ℕ) : Op → Prop
  | .create b' _ _ => b' ≠ b
  | .destroy b' => b' ≠ b
  | .map _ => True
  | .unmap _ => True

/-- One that does not unmap it either is no call on `b`, or maps it. -/
theorem Op.Spares.target_ne_or_map {b : ℕ} {op : Op} (h : op.Spares b) (hunmap : op ≠ .unmap b) :
    b ≠ op.target ∨ op = .map b := by
  cases op with
  | create b' size env => exact Or.inl (Ne.symm h)
  | destroy b' => exact Or.inl (Ne.symm h)
  | map b' =>
      rcases eq_or_ne b' b with rfl | hne
      · exact Or.inr rfl
      · exact Or.inl hne.symm
  | unmap b' =>
      refine Or.inl ?_
      rintro rfl
      exact hunmap rfl

section

variable {ctx : RocketCtx} {s : Sys} {b : ℕ} {addr : Addr}

/-! ## What an operation leaves of the other mappings -/

theorem CreateEnd.mappings_live {env : CreateEnv} {bo bo' : RocketBo} {size : U64} {w w' : World}
    {ret : ℤ} (h : CreateEnd env ctx bo size w ret bo' w') (henv : env.Lawful w)
    (hlive : w.mappings addr ≠ none) : w'.mappings addr = w.mappings addr := by
  cases h with
  | refused _ _ _ hmappings => rw [hmappings]
  | unmapped _ _ _ _ hmappings => rw [hmappings]
  | @created reply addr' _ _ hmap _ hmappings =>
      have hne : addr ≠ addr' := by
        rintro rfl
        exact hlive (henv.map_fresh hmap)
      rw [hmappings, Function.update_of_ne hne]

/-- No bo that may be unmapped or destroyed has another bo's mapping in `map`. -/
theorem Sys.Accounted.addr_ne_map {b' : ℕ} (h : s.Accounted) (haddr : s.addrOf b = some addr)
    (hb' : s.status b' ≠ .idle) (hne : b ≠ b') : addr ≠ (s.bo b').map := by
  obtain ⟨-, hnull, rfl⟩ := addrOf_eq_some_iff.mp haddr
  intro heq
  have hmap : (s.bo b').map ≠ NULL := heq ▸ hnull
  have haddr' : s.addrOf b' = some (s.bo b').map := addrOf_live (h.live_of_mapped hb' hmap) hmap
  exact hne (h.addrs.inj haddr (by rw [haddr', heq]))

theorem step_mappings {op : Op} (h : s.Accounted) (hop : s.Allowed op) (hb : b ≠ op.target)
    (haddr : s.addrOf b = some addr) :
    (s.step ctx op).world.mappings addr = s.world.mappings addr := by
  cases op with
  | create b' size env =>
      have hlive : s.world.mappings addr ≠ none :=
        Option.isSome_iff_ne_none.mp (h.addrs.live_of_owns haddr)
      exact (rocketBoCreate_end hop.2).mappings_live hop.2 hlive
  | map b' => rfl
  | unmap b' => exact rocketBoUnmap_mappings (h.addr_ne_map haddr hop hb)
  | destroy b' =>
      simp only [Sys.step, put_world, rocketBoDestroy_eq, gemClose_mappings]
      exact rocketBoUnmap_mappings (h.addr_ne_map haddr hop hb)

/-! ## Until the first unmap -/

/-- **The invariant**: `b` is live and as it was created, over its mapping. -/
structure Sys.Holds (s : Sys) (b : ℕ) (bo : RocketBo) (region : Region) : Prop where
  accounted : s.Accounted
  live : s.status b = .live
  bo_eq : s.bo b = bo
  map_ne : bo.map ≠ NULL
  mapping : s.world.mappings bo.map = some region

namespace Sys.Holds

variable {bo : RocketBo} {region : Region}

theorem step {op : Op} (h : s.Holds b bo region) (hop : s.Allowed op)
    (hspares : op.Spares b) (hunmap : op ≠ .unmap b) : (s.step ctx op).Holds b bo region := by
  rcases hspares.target_ne_or_map hunmap with hb | rfl
  · obtain ⟨hbo, hstatus⟩ := step_frame ctx hb
    have haddr : s.addrOf b = some bo.map := by
      rw [addrOf_live h.live (h.bo_eq ▸ h.map_ne), h.bo_eq]
    exact {
      accounted := h.accounted.step hop
      live := hstatus.trans h.live
      bo_eq := hbo.trans h.bo_eq
      map_ne := h.map_ne
      mapping := (step_mappings h.accounted hop hb haddr).trans h.mapping }
  · exact h

theorem run {ops : List Op} (h : s.Holds b bo region) (hlegal : (lifecycle ctx).Legal s ops)
    (hops : ∀ op ∈ ops, op.Spares b) (hunmap : Op.unmap b ∉ ops) :
    ((lifecycle ctx).run s ops).Holds b bo region := by
  refine Machine.invariant_run_of_kind (M := lifecycle ctx) (fun s op (hs : s.Holds b bo region) hop
    (hkind : op.Spares b ∧ op ≠ .unmap b) => hs.step hop hkind.1 hkind.2) h hlegal ?_
  intro op hop
  refine ⟨hops op hop, ?_⟩
  rintro rfl
  exact hunmap hop

end Sys.Holds

theorem holds_created {size : U64} {env : CreateEnv} {reply : CreateReply} (hs : s.Accounted)
    (hop : s.Allowed (.create b size env)) (hcreate : env.createBo = .ok reply)
    (hmap : env.mmap = .ok addr) :
    (s.step ctx (.create b size env)).Holds b (createdBo ctx size reply addr)
      { length := size, offset := reply.offset } := by
  obtain ⟨hlive, hbo⟩ : (s.step ctx (.create b size env)).status b = .live ∧
      (s.step ctx (.create b size env)).bo b = createdBo ctx size reply addr :=
    step_create_ok ctx hop.2 hcreate hmap
  refine ⟨hs.step hop, hlive, hbo, (hop.2.map_ne hmap).1, ?_⟩
  simp [Sys.step, rocketBoCreate_created hcreate hmap (hop.2.map_ne hmap).2, createdBo]

/-! ## After it -/

/-- Only a create can make `map` anything but `NULL` again. -/
theorem step_map_null {op : Op} (h : (s.bo b).map = NULL) (hspares : op.Spares b) :
    ((s.step ctx op).bo b).map = NULL := by
  by_cases hb : b = op.target
  · cases op with
    | create b' size env => exact absurd hb.symm hspares
    | destroy b' => exact absurd hb.symm hspares
    | map b' => exact h
    | unmap b' =>
        obtain rfl : b = b' := hb
        simp [Sys.step, rocketBoUnmap_bo]
  · rw [(step_frame ctx hb).1]
    exact h

theorem run_map_null {ops : List Op} (h : (s.bo b).map = NULL) (hops : ∀ op ∈ ops, op.Spares b) :
    (((lifecycle ctx).run s ops).bo b).map = NULL := by
  induction ops generalizing s with
  | nil => exact h
  | cons op ops ih =>
      obtain ⟨hop, hops⟩ := List.forall_mem_cons.mp hops
      exact ih (step_map_null h hop) hops

theorem not_mapsWhole_of_null {offset : U64} (h : (s.bo b).map = NULL) :
    ¬ s.MapsWhole b offset :=
  fun hmaps => hmaps.1 h

theorem not_mapsWhole_unmap (ctx : RocketCtx) (offset : U64) :
    ¬ (s.step ctx (.unmap b)).MapsWhole b offset :=
  not_mapsWhole_of_null (by simp [Sys.step, rocketBoUnmap_bo])

end

/-! ## Which runs leave a live bo mappable -/

/-- **A live bo can be mapped exactly as long as it has never been unmapped**,
whatever happens to other bos, and mapping it does not undo an unmap. -/
theorem mapsWhole_iff {ctx : RocketCtx} {s : Sys} {b : ℕ} {size : U64} {env : CreateEnv}
    {reply : CreateReply} {ops : List Op} (hs : s.Reachable ctx)
    (hop : s.Allowed (.create b size env)) (hcreate : env.createBo = .ok reply)
    (hret : (rocketBoCreate env ctx (s.bo b) size s.world).1.1 = 0)
    (hlegal : (lifecycle ctx).Legal (s.step ctx (.create b size env)) ops)
    (hops : ∀ op ∈ ops, op.Spares b) :
    (((lifecycle ctx).run (s.step ctx (.create b size env)) ops).MapsWhole b reply.offset ↔
        Op.unmap b ∉ ops) ∧
      ¬ (((lifecycle ctx).run (s.step ctx (.create b size env)) ops).step ctx
        (.unmap b)).MapsWhole b reply.offset := by
  refine ⟨⟨?_, ?_⟩, not_mapsWhole_unmap ctx _⟩
  · intro hmaps hmem
    -- From the first unmap on, `map` is `NULL` for the rest of the run.
    obtain ⟨pre, post, rfl⟩ := List.append_of_mem hmem
    rw [Machine.run_append, Machine.run_cons] at hmaps
    refine not_mapsWhole_of_null (run_map_null ?_ ?_) hmaps
    · simp [lifecycle, Sys.step, rocketBoUnmap_bo]
    · intro op hmem
      exact hops op (List.mem_append_right pre (List.mem_cons_of_mem _ hmem))
  · intro hunmap
    rcases hmap : env.mmap with e | addr
    · -- A create that returned 0 has its mapping.
      rw [rocketBoCreate_unmapped hcreate hmap hop.2.close (hop.2.handle_fresh hcreate)] at hret
      exact absurd hret (neg_neg_of_pos e.pos).ne
    · have hholds := (holds_created hs.accounted hop hcreate hmap).run hlegal hops hunmap
      rw [Sys.MapsWhole, rocketBoMap, hholds.bo_eq]
      exact ⟨hholds.map_ne, hholds.mapping⟩

/-- `CREATE_BO` gives out handle 1, mapped at `0x7000`. -/
def mappedEnv : CreateEnv := { createBo := .ok ⟨1, 0x10000, 0x100000⟩, mmap := .ok 0x7000 }

theorem mappedEnv_lawful : mappedEnv.Lawful (Sys.initial fun _ => unusedBo).world :=
  .ok (by decide) (by decide) (by decide) (by decide)

/-- A page on a fresh context. -/
def onePage : Sys := (Sys.initial fun _ => unusedBo).step ⟨3⟩ (.create 0 4096 mappedEnv)

theorem mapsWhole_iff_twice :
    ((lifecycle ⟨3⟩).run onePage [.map 0, .map 0]).MapsWhole 0 0x100000 := by
  have hlegal : (lifecycle ⟨3⟩).Legal onePage [.map 0, .map 0] := ⟨trivial, trivial, trivial⟩
  exact (mapsWhole_iff ⟨fun _ => unusedBo, [], trivial, rfl⟩ ⟨by decide, mappedEnv_lawful⟩ rfl
    (by decide) hlegal (by simp [Op.Spares])).1.mpr (by simp)

/-- Unmapped and mapped, a live bo has no mapping and gets none. -/
theorem mapsWhole_fails_unmap :
    let s := (lifecycle ⟨3⟩).run onePage [.unmap 0, .map 0]
    (lifecycle ⟨3⟩).Legal onePage [.unmap 0, .map 0] ∧ s.status 0 = .live ∧
      rocketBoMap (s.bo 0) = NULL ∧ ¬ s.MapsWhole 0 0x100000 := by
  refine ⟨⟨?_, trivial, trivial⟩, by decide, by decide, ?_⟩
  · show _ ≠ _
    decide
  · exact not_mapsWhole_unmap ⟨3⟩ 0x100000

end Librocket.Rocket
