import Librocket.Rocket.Isolation

/-!
# Programs with one context

A program is a client that starts with nothing, opens one context and creates
its bos there. `Holding` says what it has at a point: the context, and the bos
with their sizes. Each call has one rule, what is held before it and what after,
with the two ways a call can end as two cases; `Released` is where a program has
to come out on every path.
-/

namespace Librocket.Rocket.Device

abbrev Program := Client Call Call.Reply

/-! ## The calls as programs -/

namespace Program

def call (i : Call) : Program i.Reply := Client.request i

def rocketOpen (c : ℕ) : Program ℤ := call (.rocketOpen c)

def rocketClose (c : ℕ) : Program Unit := call (.rocketClose c)

def boCreate (c b : ℕ) (size : U64) : Program (ℤ × RocketBo) :=
  call (.boCreate c b size)

def boDestroy (c b : ℕ) : Program Unit := call (.boDestroy c b)

def boMap (c b : ℕ) : Program Addr := call (.boMap c b)

def boPrep (c b : ℕ) (timeoutNs : BitVec 64) : Program ℤ :=
  call (.boPrep c b timeoutNs)

def boFini (c b : ℕ) : Program ℤ := call (.boFini c b)

def submit (c regcmd : ℕ) (regcmdCount : U32) (ins outs : List ℕ) : Program ℤ :=
  call (.submit c regcmd regcmdCount ins outs)

def store (b size : ℕ) (i : ℤ) (v : U64) : Program Unit := call (.store b size i v)

/-- `memset(map, 0, count * size)`. -/
def clear (b size count : ℕ) : Program Unit := call (.clear b size count)

def load (b size : ℕ) (i : ℤ) : Program U64 := call (.load b size i)

def print (stream : Stream) (format : String) (args : List Arg) : Program Unit :=
  call (.print stream format args)

def printf (format : String) (args : List Arg) : Program Unit := print .stdout format args

/-- `fprintf(stderr, format, ...)`. -/
def eprintf (format : String) (args : List Arg) : Program Unit := print .stderr format args

/-- A value C may not define. -/
def defined {α : Type} : Option α → Program α
  | some a => pure a
  | none => Client.call .undefined Empty.elim

end Program

namespace System

/-! ## What a program holds -/

/-- Context `c` is open and no other; `sizes` are the bos live on it, mapped, with
their sizes, and no other bo holds anything. -/
structure Holding (s : System) (c : ℕ) (sizes : ℕ → Option U64) : Prop where
  accounted : s.Accounted
  opened : s.ctxStatus c = .opened
  others : ∀ {c'}, c' ≠ c → s.ctxStatus c' ≠ .opened
  live : ∀ {b size}, sizes b = some size → s.boStatus b = .live c
  mapped : ∀ {b size}, sizes b = some size → (s.bo b).map ≠ NULL ∧ (s.bo b).size = size
  rest : ∀ {b}, sizes b = none → (s.boStatus b).held = false

/-- Nothing is held. -/
structure Released (s : System) : Prop where
  accounted : s.Accounted
  closed : ∀ c, s.ctxStatus c ≠ .opened
  rest : ∀ b, (s.boStatus b).held = false

/-- The tables of a released process are empty. -/
theorem Released.tables {s : System} (h : s.Released) :
    (s.host.files = fun _ => none) ∧ s.host.mappings = fun _ => none := by
  constructor
  · funext fd
    cases hfile : s.host.files fd with
    | none => rfl
    | some handles =>
        obtain ⟨c, hc, -⟩ := (h.accounted.exact.file_iff fd).mp (by rw [hfile]; rfl)
        exact absurd hc (h.closed c)
  · funext addr
    cases hregion : s.host.mappings addr with
    | none => rfl
    | some region =>
        obtain ⟨b, hb, -⟩ := (h.accounted.exact.mapping_iff addr region.length).mp
          (by rw [hregion]; rfl)
        rw [h.rest b] at hb
        cases hb

theorem Released.initial (ctx : ℕ → RocketCtx) (bo : ℕ → RocketBo) :
    (System.initial ctx bo).Released where
  accounted := .initial ctx bo
  closed _ := by simp [System.initial]
  rest _ := rfl

/-- How an open ends. -/
inductive Opened (c : ℕ) : ℤ → System → Prop
  | ok {s' : System} (h : s'.Holding c fun _ => none) : Opened c 0 s'
  | failed {ret : ℤ} {s' : System} (hret : ret < 0) (h : s'.Released) : Opened c ret s'

/-- How a create ends. -/
inductive Created (c b : ℕ) (size : U64) (sizes : ℕ → Option U64) :
    ℤ × RocketBo → System → Prop
  | ok {bo : RocketBo} {s' : System} (hbo : s'.bo b = bo)
      (h : s'.Holding c (Function.update sizes b (some size))) : Created c b size sizes (0, bo) s'
  | failed {ret : ℤ} {bo : RocketBo} {s' : System} (hret : ret < 0) (h : s'.Holding c sizes) :
      Created c b size sizes (ret, bo) s'

section Calls

variable {s : System} {c b : ℕ} {size : U64} {sizes : ℕ → Option U64}

theorem Released.open (h : s.Released) {env : OpenEnv} (henv : env.Lawful s.host) :
    Opened c (s.reply (.rocketOpen c) env) (s.step (.rocketOpen c) env) := by
  have hacc := h.accounted.step_open (h.closed c) henv
  obtain ⟨ctx', hctx, hend⟩ := @rocketOpen_end env (s.ctx c) s.host
  simp only [System.step, System.reply, hctx] at hacc ⊢
  generalize (rocketOpen env (some (s.ctx c)) s.host).1.1 = ret at hend hacc ⊢
  generalize (rocketOpen env (some (s.ctx c)) s.host).2 = host at hend hacc ⊢
  have hothers : ∀ (status : CtxStatus) {c'}, c' ≠ c →
      Function.update s.ctxStatus c status c' ≠ .opened := by
    intro status c' hne
    rw [Function.update_of_ne hne]
    exact h.closed c'
  cases hend with
  | opened _ _ _ _ _ =>
      exact .ok ⟨hacc, by simp, hothers _, by simp, by simp, fun _ => h.rest _⟩
  | @refused e _ _ _ _ _ _ _ =>
      have hneg : -e.code < 0 := neg_neg_of_pos e.pos
      refine .failed hneg ⟨hacc, ?_, h.rest⟩
      intro c'
      by_cases heq : c' = c
      · simp [heq, hneg.ne]
      · exact hothers _ heq

/-- A call on one bo changes the entry of that bo. -/
theorem Holding.put {bo : RocketBo} {status : BoStatus} {host : Host} {entry : Option U64}
    (h : s.Holding c sizes) (hacc : (s.put b bo status host).Accounted)
    (hlive : ∀ {size}, entry = some size → status = .live c ∧ bo.map ≠ NULL ∧ bo.size = size)
    (hrest : entry = none → status.held = false) :
    (s.put b bo status host).Holding c (Function.update sizes b entry) where
  accounted := hacc
  opened := h.opened
  others := h.others
  live := by
    intro b' size hb'
    by_cases heq : b' = b
    · subst heq
      simpa using (hlive (by simpa using hb')).1
    · rw [Function.update_of_ne heq] at hb'
      exact (Function.update_of_ne heq _ _).trans (h.live hb')
  mapped := by
    intro b' size hb'
    by_cases heq : b' = b
    · subst heq
      simpa using (hlive (by simpa using hb')).2
    · rw [Function.update_of_ne heq] at hb'
      simpa [Function.update_of_ne heq] using h.mapped hb'
  rest := by
    intro b' hb'
    by_cases heq : b' = b
    · subst heq
      simpa using hrest (by simpa using hb')
    · rw [Function.update_of_ne heq] at hb'
      simpa [Function.update_of_ne heq] using h.rest hb'

theorem Holding.create (h : s.Holding c sizes) (hb : sizes b = none) {env : CreateEnv}
    (henv : s.Promise (.boCreate c b size) env) :
    Created c b size sizes (s.reply (.boCreate c b size) env)
      (s.step (.boCreate c b size) env) := by
  have hacc := h.accounted.step_create (c := c) (b := b)
    ⟨by simp [h.opened], h.rest hb⟩ henv
  have hend := @boCreate_end (s.ctx c) s.host env (s.bo b) size henv
  simp only [System.step, System.reply] at hacc ⊢
  generalize boCreate env (s.ctx c) (s.bo b) size s.host = r at hend hacc ⊢
  obtain ⟨⟨ret, bo⟩, host⟩ := r
  dsimp only at hend hacc ⊢
  cases hend with
  | failed hret =>
      rw [if_neg hret.ne] at hacc ⊢
      have hput : (s.put b bo .idle host).Holding c (Function.update sizes b none) :=
        h.put hacc (by simp) fun _ => rfl
      rw [← hb, Function.update_eq_self] at hput
      exact .failed hret hput
  | created _ _ _ hnull _ _ _ _ _ _ =>
      rw [if_pos rfl] at hacc ⊢
      refine .ok (Function.update_self ..) (h.put hacc ?_ (by simp))
      rintro _ ⟨⟩
      exact ⟨rfl, hnull, rfl⟩

theorem Holding.destroy (h : s.Holding c sizes) (hb : sizes b = some size) :
    (s.step (.boDestroy c b) ()).Holding c (Function.update sizes b none) := by
  have hmay : s.MayDestroy c b := by
    unfold MayDestroy
    rw [h.live hb]
  exact h.put (h.accounted.step_destroy hmay) (by simp) fun _ => rfl

theorem Holding.close (h : s.Holding c fun _ => none) :
    (s.step (.rocketClose c) ()).Released where
  accounted := h.accounted.step_close (by simp [h.opened])
  closed c' := by
    by_cases heq : c' = c
    · simp [System.step, heq]
    · simpa [System.step, heq] using h.others heq
  rest b := (Accounted.held_close (s.boStatus b)).trans (h.rest rfl)

theorem Holding.onHost {host : Host} {es : List HostEvent} (h : s.Holding c sizes)
    (hlog : s.host.Logged host es) (hes : ∀ e ∈ es, e.Proper) :
    (s.onHost host).Holding c sizes :=
  ⟨h.accounted.onHost hlog hes, h.opened, h.others, h.live, h.mapped, h.rest⟩

theorem Holding.prep (h : s.Holding c sizes) (timeoutNs : BitVec 64)
    (outcome : Except Errno Unit) : (s.step (.boPrep c b timeoutNs) outcome).Holding c sizes :=
  h.onHost access_logged (by simp [HostEvent.Proper])

theorem Holding.fini (h : s.Holding c sizes) (outcome : Except Errno Unit) :
    (s.step (.boFini c b) outcome).Holding c sizes :=
  h.onHost access_logged (by simp [HostEvent.Proper])

theorem Holding.submit (h : s.Holding c sizes) {regcmd : ℕ} {regcmdCount : U32}
    {ins outs : List ℕ} {env : Submit.SubmitEnv}
    (henv : s.Promise (.submit c regcmd regcmdCount ins outs) env) :
    (s.step (.submit c regcmd regcmdCount ins outs) env).Holding c sizes := by
  obtain ⟨p, hend, hlog⟩ := submit_logged henv
  exact h.onHost hlog (proper_submit hend)

/-- A bo held is mapped at its size. -/
theorem Holding.inRange (h : s.Holding c sizes) (hb : sizes b = some size) {n : ℕ} {i j : ℤ}
    (hi : 0 ≤ i) (hj : j * n ≤ (size.toNat : ℤ)) : s.InRange b n i j := by
  obtain ⟨hmap, hsize⟩ := h.mapped hb
  have hheld : (s.boStatus b).held = true := by
    rw [h.live hb]
    rfl
  obtain ⟨region, hregion, hlength⟩ :=
    Option.map_eq_some_iff.mp (h.accounted.length (addrOf_held hheld hmap))
  exact ⟨region, hregion, hi, by rw [hlength, hsize]; exact hj⟩

/-! ## The rules -/

open Client

theorem Released.ensures_open (h : s.Released) {Q : ℤ → System → Prop}
    (hQ : ∀ ret s', Opened c ret s' → Q ret s') : (Program.rocketOpen c).Ensures api Q s :=
  ⟨h.closed c, fun _ henv => hQ _ _ (h.open henv)⟩

theorem Holding.ensures_close (h : s.Holding c fun _ => none) {Q : Unit → System → Prop}
    (hQ : ∀ s', s'.Released → Q () s') : (Program.rocketClose c).Ensures api Q s := by
  refine ⟨?_, fun _ _ => hQ _ h.close⟩
  show s.ctxStatus c ≠ .fresh
  rw [h.opened]
  simp

theorem Holding.ensures_create (h : s.Holding c sizes) (hb : sizes b = none)
    {Q : ℤ × RocketBo → System → Prop} (hQ : ∀ r s', Created c b size sizes r s' → Q r s') :
    (Program.boCreate c b size).Ensures api Q s := by
  refine ⟨⟨?_, h.rest hb⟩, fun _ henv => hQ _ _ (h.create hb henv)⟩
  rw [h.opened]
  simp

theorem Holding.ensures_destroy (h : s.Holding c (Function.update sizes b (some size)))
    (hb : sizes b = none) {Q : Unit → System → Prop} (hQ : ∀ s', s'.Holding c sizes → Q () s') :
    (Program.boDestroy c b).Ensures api Q s := by
  have hheld : Function.update sizes b (some size) b = some size := Function.update_self ..
  refine ⟨?_, fun _ _ => hQ _ ?_⟩
  · show s.MayDestroy c b
    unfold MayDestroy
    rw [h.live hheld]
  · have hdestroyed := h.destroy hheld
    rwa [Function.update_idem, ← hb, Function.update_eq_self] at hdestroyed

theorem Holding.ensures_map (h : s.Holding c sizes) (hb : sizes b = some size)
    {Q : Addr → System → Prop} (hQ : ∀ addr, addr ≠ NULL → Q addr s) :
    (Program.boMap c b).Ensures api Q s := by
  refine ⟨?_, fun _ _ => hQ _ (h.mapped hb).1⟩
  show s.boStatus b ≠ .idle
  rw [h.live hb]
  simp

theorem Holding.ensures_fini (h : s.Holding c sizes) (hb : sizes b = some size)
    {Q : ℤ → System → Prop} (hQ : ∀ ret s', s'.Holding c sizes → Q ret s') :
    (Program.boFini c b).Ensures api Q s :=
  ⟨h.live hb, fun outcome _ => hQ _ _ (h.fini outcome)⟩

theorem Holding.ensures_prep (h : s.Holding c sizes) (hb : sizes b = some size)
    {timeoutNs : BitVec 64} {Q : ℤ → System → Prop}
    (hQ : ∀ ret s', s'.Holding c sizes → Q ret s') :
    (Program.boPrep c b timeoutNs).Ensures api Q s :=
  ⟨h.live hb, fun outcome _ => hQ _ _ (h.prep timeoutNs outcome)⟩

theorem Holding.ensures_submit (h : s.Holding c sizes) {regcmd : ℕ} {regcmdCount : U32}
    {ins outs : List ℕ} (hbos : ∀ b ∈ regcmd :: ins ++ outs, (sizes b).isSome = true)
    {Q : ℤ → System → Prop} (hQ : ∀ ret s', s'.Holding c sizes → Q ret s') :
    (Program.submit c regcmd regcmdCount ins outs).Ensures api Q s := by
  refine ⟨?_, fun _ henv => hQ _ _ (h.submit henv)⟩
  intro b hb
  obtain ⟨size, hsize⟩ := Option.isSome_iff_exists.mp (hbos b hb)
  exact h.live hsize

theorem Holding.ensures_store (h : s.Holding c sizes) (hb : sizes b = some size) {n : ℕ} {i : ℤ}
    {v : U64} (hi : 0 ≤ i) (hj : (i + 1) * n ≤ (size.toNat : ℤ)) {Q : Unit → System → Prop}
    (hQ : Q () s) : (Program.store b n i v).Ensures api Q s :=
  ⟨h.inRange hb hi hj, fun _ _ => hQ⟩

theorem Holding.ensures_clear (h : s.Holding c sizes) (hb : sizes b = some size) {n count : ℕ}
    (hj : (count : ℤ) * n ≤ (size.toNat : ℤ)) {Q : Unit → System → Prop} (hQ : Q () s) :
    (Program.clear b n count).Ensures api Q s :=
  ⟨h.inRange hb le_rfl hj, fun _ _ => hQ⟩

theorem Holding.ensures_load (h : s.Holding c sizes) (hb : sizes b = some size) {n : ℕ} {i : ℤ}
    (hi : 0 ≤ i) (hj : (i + 1) * n ≤ (size.toNat : ℤ)) {Q : U64 → System → Prop}
    (hQ : ∀ v, Q v s) : (Program.load b n i).Ensures api Q s :=
  ⟨h.inRange hb hi hj, fun v _ => hQ v⟩

theorem ensures_print {stream : Stream} {format : String} {args : List Arg}
    {Q : Unit → System → Prop} (hQ : Q () s) :
    (Program.print stream format args).Ensures api Q s := ⟨trivial, fun _ _ => hQ⟩

end Calls

/-! ## Cleaning up -/

/-- What a process leaves that cleaned up after itself. -/
structure CleanExit (s : System) : Prop where
  files : ∀ fd, s.host.files fd = none
  mappings : ∀ addr, s.host.mappings addr = none
  memory : ∀ addr, s.host.memory addr = none
  proper : ∀ e ∈ s.host.trace, e.Proper

end System

/-- No path of the program breaks a duty, also where it is cut short, and every
run to the end cleans up. -/
def Program.CleansUp (p : Program ℤ) : Prop := ∀ ctx bo,
  p.Ensures api (fun _ _ => True) (System.initial ctx bo) ∧
    ∀ calls ret s', Client.Runs api p (System.initial ctx bo) calls ret s' → s'.CleanExit

theorem Program.CleansUp.of_ensures {p : Program ℤ}
    (h : ∀ s : System, s.Released → p.Ensures api (fun _ s' => s'.Released) s) :
    p.CleansUp := by
  intro ctx bo
  have hp := h _ (.initial ctx bo)
  refine ⟨hp.mono fun _ _ _ => trivial, ?_⟩
  intro calls ret s' hrun
  obtain ⟨hlegal, hend, hreleased⟩ := hrun.legal hp
  have hreachable : s'.Reachable := ⟨ctx, bo, calls, hlegal, hend⟩
  obtain ⟨hfiles, hmappings⟩ := hreleased.tables
  exact ⟨congrFun hfiles, congrFun hmappings, congrFun hreachable.memory,
    hreleased.accounted.proper⟩

end Librocket.Rocket.Device
