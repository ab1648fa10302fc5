import Librocket.Npu.Mesa
import Librocket.Rocket.Progress
import Librocket.Rocket.Sequential

/-!
# The tests with one buffer

`tests/minimal_mesa_test.c`, `minimal_npu_test.c` and `test_cna_enable.c` differ
in their commands, their texts and how long they wait: each opens the device,
creates a bo, writes its commands there, submits them with no other bo, and waits
for that bo.

They look at every code, so they clean up and say what happened. But `PREP_BO`
waits for the jobs known to use a bo, and none of the three names the bo of its
commands when it submits: what it waits for is never its own job.
-/

namespace Librocket.MinimalTests

open Rocket Rocket.Device Rocket.Device.Program

/-! ## The tests -/

/-- A line of output. -/
abbrev Line := String × List Arg

def text (format : String) : Line := (format, [])

/-- What the three differ in. `ins` are the bos listed at the submit. -/
structure Test where
  banner : List Line
  openFailed : String
  opened : String
  createFailed : String
  created : List Line
  mapFailed : String
  words : List U64
  generated : List Line
  submitting : String
  ins : List ℕ
  submitFailed : String
  submitted : String
  waiting : String
  timeoutNs : BitVec 64
  waitFailed : String
  completed : String
  passed : List Line
  /-- The commands fit the buffer. -/
  fits : words.length ≤ 512
  /-- There is one bo to list. -/
  ins_eq : ∀ b ∈ ins, b = 0

def ctx : ℕ := 0
def regcmdBo : ℕ := 0

def printAll (lines : List Line) : Program Unit := lines.forM fun line => printf line.1 line.2

/-- What follows a failed call once there is a bo. -/
def giveUp (format : String) (args : List Arg) : Program ℤ := do
  eprintf format args
  boDestroy ctx regcmdBo
  rocketClose ctx
  return 1

/-- `regcmd[i] = words[i]`. -/
def writeWords (words : List U64) : Program Unit :=
  (List.range words.length).forM fun i => store regcmdBo 8 i (words.getD i 0)

def Test.main (t : Test) : Program ℤ := do
  printAll t.banner
  let ret ← rocketOpen ctx
  if ret < 0 then
    eprintf t.openFailed [.int ret]
    return 1
  printf t.opened []
  let (ret, _) ← boCreate ctx regcmdBo 4096
  if ret < 0 then
    eprintf t.createFailed [.int ret]
    rocketClose ctx
    return 1
  printAll t.created
  let regcmd ← boMap ctx regcmdBo
  if regcmd = NULL then
    return ← giveUp t.mapFailed []
  clear regcmdBo 1 4096
  writeWords t.words
  printAll t.generated
  let ret ← boFini ctx regcmdBo
  if ret < 0 then
    return ← giveUp "Failed to sync buffer: %d\n" [.int ret]
  printf t.submitting []
  let ret ← submit ctx regcmdBo (BitVec.ofNat 32 t.words.length) t.ins []
  if ret < 0 then
    return ← giveUp t.submitFailed [.int ret]
  printf t.submitted []
  printf t.waiting []
  let ret ← boPrep ctx regcmdBo t.timeoutNs
  if ret < 0 then
    return ← giveUp t.waitFailed [.int ret]
  printf t.completed []
  boDestroy ctx regcmdBo
  rocketClose ctx
  printAll t.passed
  return 0

open Mesa in
/-- `main` of `tests/minimal_mesa_test.c`. -/
def minimalMesaTest : Test where
  banner :=
    [text "=== Minimal NPU Test (Mesa Format) ===\n",
      text "Using Mesa/Teflon register command format\n\n"]
  openFailed := "Failed to open /dev/accel/accel0: %d\n"
  opened := "✓ Opened /dev/accel/accel0 successfully\n"
  createFailed := "Failed to allocate register command buffer: %d\n"
  created := [text "✓ Allocated register command buffer\n"]
  mapFailed := "Failed to map register command buffer\n"
  words :=
    [(Mesa.regcmd TARGET_PC (ofInt 0) REG_PC_BASE_ADDRESS).word,
      (Mesa.regcmd TARGET_PC (ofInt 0) REG_PC_REGISTER_AMOUNTS).word,
      (Mesa.regcmd TARGET_PC (ofInt 1) REG_PC_OPERATION_ENABLE).word]
  generated :=
    [("✓ Generated %d register commands (Mesa format)\n", [.int 3]),
      ("  Command 0: target=0x%03x value=0x%08x reg=0x%08x\n",
        [.int TARGET_PC.toNat, .int 0, .int REG_PC_BASE_ADDRESS.toNat]),
      ("  Command 1: target=0x%03x value=0x%08x reg=0x%08x\n",
        [.int TARGET_PC.toNat, .int 0, .int REG_PC_REGISTER_AMOUNTS.toNat]),
      ("  Command 2: target=0x%03x value=0x%08x reg=0x%08x\n",
        [.int TARGET_PC.toNat, .int 1, .int REG_PC_OPERATION_ENABLE.toNat])]
  submitting := "\nSubmitting NPU job...\n"
  ins := []
  submitFailed := "✗ NPU job submission failed: %d\n"
  submitted := "✓ NPU job submitted successfully\n"
  waiting := "Waiting for NPU job completion...\n"
  timeoutNs := 5000
  waitFailed := "✗ NPU job wait failed: %d (timeout or error)\n"
  completed := "✓ NPU job completed successfully!\n"
  passed :=
    [text "\n=== Test PASSED ===\n", text "NPU hardware path is working with Mesa format!\n"]
  fits := by decide
  ins_eq := nofun

open Hw in
/-- `main` of `tests/minimal_npu_test.c`. -/
def minimalNpuTest : Test where
  banner :=
    [text "=== Minimal NPU Test ===\n", text "Testing basic NPU enable/disable cycle\n\n"]
  openFailed := "Failed to open /dev/accel/accel0: %d\n"
  opened := "✓ Opened /dev/accel/accel0 successfully\n"
  createFailed := "Failed to allocate register command buffer: %d\n"
  created := [text "✓ Allocated register command buffer\n"]
  mapFailed := "Failed to map register command buffer\n"
  words :=
    [NPUOP OP_REG_PC 0 PC_BASE_ADDRESS, NPUOP OP_REG_PC 0 PC_REGISTER_AMOUNTS,
      NPUOP OP_ENABLE PC_ENABLE PC_OPERATION_ENABLE, NPUOP OP_NONE 0 PC_OPERATION_ENABLE]
  generated := [("✓ Generated %d register commands\n", [.int 4])]
  submitting := "Submitting minimal NPU job...\n"
  ins := []
  submitFailed := "✗ NPU job submission failed: %d\n"
  submitted := "✓ NPU job submitted successfully\n"
  waiting := "Waiting for NPU job completion...\n"
  timeoutNs := -1
  waitFailed := "✗ NPU job wait failed: %d\n"
  completed := "✓ NPU job completed successfully!\n"
  passed := [text "\n=== Test PASSED ===\n", text "NPU hardware path is working!\n"]
  fits := by decide
  ins_eq := nofun

open Mesa in
/-- `main` of `tests/test_cna_enable.c`. -/
def testCnaEnable : Test where
  banner := [text "=== CNA Enable Test ===\n"]
  openFailed := "Failed to open device: %d\n"
  opened := "✓ Opened device\n"
  createFailed := "Failed to create buffer: %d\n"
  created := []
  mapFailed := "Failed to map buffer\n"
  words :=
    [(Mesa.regcmd TARGET_PC (ofInt 0) REG_PC_BASE_ADDRESS).word,
      (Mesa.regcmd TARGET_PC (ofInt 0) REG_PC_REGISTER_AMOUNTS).word,
      (Mesa.regcmd TARGET_PC (ofInt 1) REG_PC_OPERATION_ENABLE).word,
      (Mesa.regcmd TARGET_CNA (ofInt 1) REG_CNA_OPERATION_ENABLE).word,
      (Mesa.regcmd TARGET_CNA (ofInt 0) REG_CNA_OPERATION_ENABLE).word,
      (Mesa.regcmd TARGET_PC (ofInt 0) REG_PC_OPERATION_ENABLE).word]
  generated := [("✓ Generated %d commands\n", [.int 6])]
  submitting := "Submitting job...\n"
  ins := []
  submitFailed := "✗ Submit failed: %d\n"
  submitted := "✓ Job submitted\n"
  waiting := "Waiting for completion...\n"
  timeoutNs := 5000
  waitFailed := "✗ Wait failed: %d\n"
  completed := "✓ Job completed!\n"
  passed := [text "\n=== CNA Enable Test PASSED ===\n"]
  fits := by decide
  ins_eq := nofun

def minimalTests : List Test := [minimalMesaTest, minimalNpuTest, testCnaEnable]

/-! ## What they report -/

/-- Has a call failed? -/
def failures : Service Bool Call Call.Reply Call.Reply where
  duty _ _ := True
  promise _ _ _ := True
  step failed i r := failed || i.failed r
  reply _ _ r := r

/-- A run to the end returns 1 if a call failed, and 0 if none did. -/
def Reports (p : Program ℤ) : Prop := ∀ ctx bo calls ret s',
  Client.Runs (api.prod failures) p (System.initial ctx bo, false) calls ret s' →
    ret = if s'.2 then 1 else 0

section Failures

open Client

variable {s : System} {failed : Bool} {i : Call}

theorem ensures_failures {Q : i.Reply → System → Prop} {Q' : i.Reply → System × Bool → Prop}
    (h : (Program.call i).Ensures api Q s) (hQ : ∀ r s', Q r s' → Q' r (s', failed || i.failed r)) :
    (Program.call i).Ensures (api.prod failures) Q' (s, failed) := by
  have hfailures : (Program.call i).Ensures failures
      (fun r failed' => failed' = (failed || i.failed r)) failed := ⟨trivial, fun _ _ => rfl⟩
  refine (h.prod hfailures).mono ?_
  rintro r ⟨s', failed'⟩ ⟨h, rfl⟩
  exact hQ r s' h

/-- A call without a code. -/
theorem ensures_quiet (hquiet : ∀ r, i.failed r = false) {Q : i.Reply → System → Prop}
    {Q' : i.Reply → System × Bool → Prop} (h : (Program.call i).Ensures api Q s)
    (hQ : ∀ r s', Q r s' → Q' r (s', failed)) :
    (Program.call i).Ensures (api.prod failures) Q' (s, failed) := by
  refine ensures_failures h fun r s' h => ?_
  rw [hquiet, Bool.or_false]
  exact hQ r s' h

/-- The second half follows whatever the first does. -/
theorem ensures_api {α : Type} {p : Program α} {Q : α → System × Bool → Prop}
    (h : p.Ensures (api.prod failures) Q (s, failed)) :
    p.Ensures api (fun a s' => ∃ failed', Q a (s', failed')) s := by
  have hsim : p.Ensures api (fun a s' => ∃ x : System × Bool, x.1 = s' ∧ Q a x) s := by
    refine Ensures.simulate (R := fun s x => x.1 = s) ?_ ?_ rfl h
    · rintro _ x i rfl hduty
      exact hduty.1
    · rintro _ x i o rfl hduty ho
      exact ⟨(o, api.reply x.1 i o), ⟨ho, trivial, rfl⟩, rfl, rfl⟩
  refine hsim.mono ?_
  rintro a _ ⟨⟨s', failed'⟩, rfl, hQ⟩
  exact ⟨failed', hQ⟩

theorem print_ensures {stream : Stream} {format : String} {args : List Arg}
    {Q : Unit → System × Bool → Prop} (hQ : Q () (s, failed)) :
    (print stream format args).Ensures (api.prod failures) Q (s, failed) :=
  ensures_quiet (i := .print stream format args) (fun _ => rfl)
    (System.ensures_print (Q := fun _ s' => s' = s) rfl) fun _ _ heq => heq ▸ hQ

theorem printAll_ensures (lines : List Line) {Q : Unit → System × Bool → Prop}
    (hQ : Q () (s, failed)) : (printAll lines).Ensures (api.prod failures) Q (s, failed) := by
  have hlines : (printAll lines).Ensures (api.prod failures) (fun _ x => x = (s, failed))
      (s, failed) := by
    refine Ensures.forM (I := fun x => x = (s, failed)) ?_ rfl
    rintro line - _ rfl
    exact print_ensures rfl
  refine hlines.mono ?_
  rintro _ _ rfl
  exact hQ

/-! ### The calls of a test -/

/-- The bo is there. -/
def held : ℕ → Option U64 := Function.update (fun _ => none) regcmdBo (some 4096)

theorem giveUp_ensures (h : s.Holding ctx held) {format : String} {args : List Arg} :
    (giveUp format args).Ensures (api.prod failures)
      (fun ret x => x.1.Released ∧ ret = 1 ∧ x.2 = failed) (s, failed) := by
  refine ensures_bind.mpr (print_ensures ?_)
  refine ensures_bind.mpr (ensures_quiet (i := .boDestroy ctx regcmdBo) (fun _ => rfl)
    (h.ensures_destroy (Q := fun _ s' => s'.Holding ctx fun _ => none) rfl fun _ h => h) ?_)
  intro _ s h
  exact ensures_bind.mpr (ensures_quiet (i := .rocketClose ctx) (fun _ => rfl)
    (h.ensures_close (Q := fun _ s' => s'.Released) fun _ h => h) fun _ s h => ⟨h, rfl, rfl⟩)

/-- A failed call is followed by the way out. -/
theorem giveUp_reports (h : s.Holding ctx held) {format : String} {args : List Arg} :
    (giveUp format args).Ensures (api.prod failures)
      (fun ret x => x.1.Released ∧ ret = if x.2 then 1 else 0) (s, true) := by
  refine (giveUp_ensures h).mono ?_
  rintro _ ⟨s', _⟩ ⟨h, rfl, rfl⟩
  exact ⟨h, rfl⟩

theorem writeWords_ensures (h : s.Holding ctx held) {words : List U64}
    (hwords : words.length ≤ 512) :
    (writeWords words).Ensures (api.prod failures) (fun _ x => x.1.Holding ctx held ∧ x.2 = failed)
      (s, failed) := by
  refine Ensures.forM (I := fun x : System × Bool => x.1.Holding ctx held ∧ x.2 = failed) ?_
    ⟨h, rfl⟩
  rintro i hi ⟨s, _⟩ ⟨h, rfl⟩
  have hi' : i < 512 := lt_of_lt_of_le (List.mem_range.mp hi) hwords
  refine ensures_quiet (i := .store regcmdBo 8 i _) (fun _ => rfl)
    (h.ensures_store (n := 8) rfl (Int.natCast_nonneg i) ?_
      (Q := fun _ s' => s'.Holding ctx held) h) fun _ _ h => ⟨h, rfl⟩
  show ((i : ℤ) + 1) * 8 ≤ 4096
  omega

/-- A code below zero is a failure, and the first. -/
theorem code_ensures {i : Call} (code : i.Reply → ℤ)
    (hcode : ∀ r, i.failed r = decide (code r < 0)) {Q : i.Reply → System → Prop}
    {Q' : i.Reply → System × Bool → Prop} (h : (Program.call i).Ensures api Q s)
    (hfailed : ∀ r s', Q r s' → code r < 0 → Q' r (s', true))
    (hok : ∀ r s', Q r s' → ¬ code r < 0 → Q' r (s', false)) :
    (Program.call i).Ensures (api.prod failures) Q' (s, false) := by
  refine ensures_failures h fun r s' h => ?_
  rw [hcode, Bool.false_or]
  by_cases hret : code r < 0
  · rw [decide_eq_true hret]
    exact hfailed r s' h hret
  · rw [decide_eq_false hret]
    exact hok r s' h hret

/-- A code that is looked at, once there is a bo. -/
theorem checked_ensures {i : Call} (code : i.Reply → ℤ)
    (hcode : ∀ r, i.failed r = decide (code r < 0))
    (h : (Program.call i).Ensures api (fun _ s' => s'.Holding ctx held) s) {format : String}
    {next : Program ℤ} (hnext : ∀ s : System, s.Holding ctx held →
      next.Ensures (api.prod failures) (fun ret x => x.1.Released ∧ ret = if x.2 then 1 else 0)
        (s, false)) :
    (Program.call i >>= fun r =>
        if code r < 0 then giveUp format [.int (code r)] else next).Ensures (api.prod failures)
      (fun ret x => x.1.Released ∧ ret = if x.2 then 1 else 0) (s, false) := by
  refine ensures_bind.mpr (code_ensures code hcode h ?_ ?_)
  · intro r s h hret
    rw [if_pos hret]
    exact giveUp_reports h
  · intro r s h hret
    rw [if_neg hret]
    exact hnext s h

theorem main_ensures (t : Test) (h : s.Released) :
    t.main.Ensures (api.prod failures)
      (fun ret x => x.1.Released ∧ ret = if x.2 then 1 else 0) (s, false) := by
  unfold Test.main
  refine ensures_bind.mpr (printAll_ensures _ ?_)
  refine ensures_bind.mpr (code_ensures (i := .rocketOpen ctx) (fun ret => ret) (fun _ => rfl)
    (h.ensures_open fun _ _ h => h) ?_ ?_)
  · intro (ret : ℤ) s hopen hret
    rw [if_pos hret]
    cases hopen with
    | failed _ h => exact ensures_bind.mpr (print_ensures ⟨h, rfl⟩)
    | ok _ => exact absurd hret (lt_irrefl 0)
  intro (ret : ℤ) s hopen hret
  rw [if_neg hret]
  cases hopen with
  | failed hneg _ => exact absurd hneg hret
  | ok h =>
  refine ensures_bind.mpr (print_ensures ?_)
  refine ensures_bind.mpr (code_ensures (i := .boCreate ctx regcmdBo 4096) Prod.fst (fun _ => rfl)
    (h.ensures_create rfl fun _ _ h => h) ?_ ?_)
  · rintro ⟨ret, bo⟩ s hcreate hret
    simp only [if_pos hret]
    cases hcreate with
    | failed _ h =>
        refine ensures_bind.mpr (print_ensures ?_)
        exact ensures_bind.mpr (ensures_quiet (i := .rocketClose ctx) (fun _ => rfl)
          (h.ensures_close (Q := fun _ s' => s'.Released) fun _ h => h) fun _ s h => ⟨h, rfl⟩)
    | ok _ _ => exact absurd hret (lt_irrefl 0)
  rintro ⟨ret, bo⟩ s hcreate hret
  simp only [if_neg hret]
  cases hcreate with
  | failed hneg _ => exact absurd hneg hret
  | ok _ h =>
  refine ensures_bind.mpr (printAll_ensures _ ?_)
  refine ensures_bind.mpr (ensures_quiet (i := .boMap ctx regcmdBo) (fun _ => rfl)
    (h.ensures_map (Q := fun addr s' => addr ≠ NULL ∧ s'.Holding ctx held) rfl
      fun _ hne => ⟨hne, h⟩) ?_)
  rintro addr s ⟨hne, h⟩
  rw [if_neg hne]
  refine ensures_bind.mpr (ensures_quiet (i := .clear regcmdBo 1 4096) (fun _ => rfl)
    (h.ensures_clear (Q := fun _ s' => s'.Holding ctx held) rfl (by decide) h) fun _ s h => ?_)
  refine (writeWords_ensures h t.fits).bind ?_
  rintro _ ⟨s, _⟩ ⟨h, rfl⟩
  refine ensures_bind.mpr (printAll_ensures _ ?_)
  refine checked_ensures (i := .boFini ctx regcmdBo) (fun ret => ret) (fun _ => rfl)
    (h.ensures_fini rfl fun _ _ h => h) fun s h => ?_
  refine ensures_bind.mpr (print_ensures ?_)
  refine checked_ensures (i := .submit ctx regcmdBo _ t.ins []) (fun ret => ret) (fun _ => rfl)
    (h.ensures_submit ?_ fun _ _ h => h) fun s h => ?_
  · intro b hb
    have hb0 : b = 0 := by
      rcases List.mem_cons.mp hb with rfl | hb
      · rfl
      · exact t.ins_eq b (by simpa using hb)
    rw [hb0]
    rfl
  refine ensures_bind.mpr (print_ensures (ensures_bind.mpr (print_ensures ?_)))
  refine checked_ensures (i := .boPrep ctx regcmdBo t.timeoutNs) (fun ret => ret) (fun _ => rfl)
    (h.ensures_prep rfl fun _ _ h => h) fun s h => ?_
  refine ensures_bind.mpr (print_ensures ?_)
  refine ensures_bind.mpr (ensures_quiet (i := .boDestroy ctx regcmdBo) (fun _ => rfl)
    (h.ensures_destroy (Q := fun _ s' => s'.Holding ctx fun _ => none) rfl fun _ h => h) ?_)
  intro _ s h
  refine ensures_bind.mpr (ensures_quiet (i := .rocketClose ctx) (fun _ => rfl)
    (h.ensures_close (Q := fun _ s' => s'.Released) fun _ h => h) fun _ s h => ?_)
  exact ensures_bind.mpr (printAll_ensures _ ⟨h, rfl⟩)

end Failures

/-- **Cleaning up and telling.** Each test, whatever the kernel answers, leaves nothing
behind and returns 0 exactly if no call failed. -/
theorem tests_report (t : Test) : t.main.CleansUp ∧ Reports t.main := by
  constructor
  · refine .of_ensures fun s h => (ensures_api (main_ensures t h)).mono ?_
    rintro _ s' ⟨_, h, -⟩
    exact h
  · intro ctx bo calls ret s' hrun
    obtain ⟨-, -, -, hret⟩ := hrun.legal (main_ensures t (.initial ctx bo))
    exact hret

/-! ## What they wait for -/

open Coherence (Owner)

/-- Where it returns zero, no job of its is waiting to run. -/
def Waits (hw : Hardware) (p : Program ℤ) : Prop := ∀ ctx bo of dma cpu dev calls s',
  Client.Runs (device hw) p (System.initial ctx bo, Shared.initial of dma cpu dev) calls 0 s' →
    s'.2.buffers.queue = []

section Listed

open Client

variable {hw : Hardware} {m : Memory} {t : Test}

/-- A job of a program reads its commands at least. -/
theorem touches_step {s : Shared} {i : Call} {o : i.Reply × List BoEvent}
    (ho : (shared hw).promise s i o) (h : ∀ j ∈ s.buffers.queue, ∃ b, j.Touches b) :
    ∀ j ∈ ((shared hw).step s i o).buffers.queue, ∃ b, j.Touches b := by
  intro j hj
  have hsettled : ∀ j ∈ (s.settled o.2).queue, ∃ b, j.Touches b := fun j hj =>
    h j (Coherence.mem_queue_background ho.1 hj)
  simp only [shared] at hj
  cases heffect : i.effect hw s.objects o.1 with
  | none =>
      rw [heffect] at hj
      exact hsettled j hj
  | some e =>
      rw [heffect] at hj
      rcases Coherence.Buffers.mem_queue_step hj with hj | rfl
      · exact hsettled j hj
      · unfold Call.effect at heffect
        split at heffect
        · cases heffect
        cases i with
        | submit c regcmd count ins outs =>
            cases heffect
            exact ⟨s.objects.of regcmd, Or.inl List.mem_cons_self⟩
        | _ => cases heffect

/-- Once the CPU owns everything no job is left. -/
theorem drained {s : Shared} (h : s.Represents m) (hcpu : ∀ b, m.owner b = .cpu)
    (htouches : ∀ j ∈ s.buffers.queue, ∃ b, j.Touches b) : s.buffers.queue = [] := by
  refine List.eq_nil_iff_forall_not_mem.mpr fun j hj => ?_
  obtain ⟨b, hb⟩ := htouches j hj
  have hdevice := h.agrees.handed hj hb
  rw [h.owner, hcpu b] at hdevice
  cases hdevice

theorem printAll_sequential (lines : List Line) {Q : Unit → Memory → Prop} (hQ : Q () m) :
    (printAll lines).Ensures (sequential hw) Q m := by
  have hlines : (printAll lines).Ensures (sequential hw) (fun _ m' => m' = m) m := by
    refine Ensures.forM (I := fun m' => m' = m) ?_ rfl
    rintro line - _ rfl
    exact sequential_print rfl
  refine hlines.mono ?_
  rintro _ _ rfl
  exact hQ

theorem giveUp_sequential {format : String} {args : List Arg} {Q : ℤ → Memory → Prop}
    (hQ : ∀ m, Q 1 m) : (giveUp format args).Ensures (sequential hw) Q m :=
  ensures_bind.mpr (sequential_print (ensures_bind.mpr (sequential_destroy
    (ensures_bind.mpr (sequential_close (hQ m))))))

/-- What a test owns, and which object its bo stands for. -/
structure Owns (m : Memory) (b : ℕ) (o : Owner) : Prop where
  of : m.objects.of regcmdBo = b
  owner : m.owner = Function.update (fun _ => .cpu) b o

theorem Owns.self {b : ℕ} {o : Owner} (h : Owns m b o) : m.owner (m.objects.of regcmdBo) = o := by
  rw [h.of, h.owner]
  exact Function.update_self ..

theorem Owns.cpu {b : ℕ} (h : Owns m b .cpu) (b' : ℕ) : m.owner b' = .cpu := by
  rw [h.owner]
  exact congrFun (Function.update_eq_self b fun _ => Owner.cpu) b'

theorem Owns.own {b : ℕ} {o : Owner} (h : Owns m b o) (o' : Owner) :
    Owns (m.own regcmdBo o') b o' where
  of := h.of
  owner := by
    show Function.update m.owner (m.objects.of regcmdBo) o' = _
    rw [h.of, h.owner, Function.update_idem]

theorem Owns.write {b : ℕ} {o : Owner} (h : Owns m b o) (f : Bytes.Image → Bytes.Image) :
    Owns (m.write regcmdBo f) b o := ⟨h.of, h.owner⟩

theorem Owns.submit {b : ℕ} {o : Owner} (h : Owns m b o) (count : U32) (ins : List ℕ) :
    Owns (m.submit hw regcmdBo count ins []) b o := ⟨h.of, h.owner⟩

theorem writeWords_sequential {b : ℕ} (h : Owns m b .cpu) (words : List U64) :
    (writeWords words).Ensures (sequential hw) (fun _ m' => Owns m' b .cpu) m := by
  refine Ensures.forM (I := fun m' => Owns m' b .cpu) ?_ h
  intro i _ m h
  exact sequential_store h.self (h.write _)

theorem job_honest (o : Objects) (count : U32) (h : regcmdBo ∈ t.ins) :
    (o.job hw regcmdBo count t.ins []).Honest where
  reads := by
    intro b hb
    rcases List.mem_cons.mp hb with rfl | hb
    · exact Or.inl (List.mem_map_of_mem h)
    · exact Or.inl hb
  writes := nofun

theorem job_touches {o : Objects} {count : U32} {b : ℕ}
    (hb : (o.job hw regcmdBo count t.ins []).Touches b) : b = o.of regcmdBo := by
  rcases hb with hb | hb
  · rcases List.mem_cons.mp hb with rfl | hb
    · rfl
    · obtain ⟨b', hb', rfl⟩ := List.mem_map.mp hb
      rw [t.ins_eq b' hb', regcmdBo]
  · cases hb

/-- With its bo listed a test takes back what it handed over. -/
theorem main_sequential (hlisted : regcmdBo ∈ t.ins) (hcpu : ∀ b, m.owner b = .cpu) :
    t.main.Ensures (sequential hw) (fun ret m' => ret = 0 → ∀ b, m'.owner b = .cpu) m := by
  have hone : ∀ m : Memory, (1 : ℤ) = 0 → ∀ b, m.owner b = .cpu := nofun
  unfold Test.main
  refine ensures_bind.mpr (printAll_sequential _ ?_)
  refine ensures_bind.mpr (sequential_open ?_ ?_)
  · intro ret hret
    rw [if_pos hret]
    exact ensures_bind.mpr (sequential_print (hone _))
  intro ret hret
  rw [if_neg hret]
  refine ensures_bind.mpr (sequential_print ?_)
  refine ensures_bind.mpr (sequential_create ?_ ?_)
  · intro ret bo hret
    simp only [if_pos hret]
    exact ensures_bind.mpr (sequential_print (ensures_bind.mpr (sequential_close (hone _))))
  intro ret bo hret
  simp only [if_neg hret]
  have h : Owns (m.create hw regcmdBo bo) m.objects.next .cpu := by
    constructor
    · exact Function.update_self regcmdBo m.objects.next m.objects.of
    · show Function.update m.owner _ _ = _
      rw [funext hcpu]
  refine ensures_bind.mpr (printAll_sequential _ ?_)
  refine ensures_bind.mpr (sequential_map fun addr => ?_)
  split
  · exact giveUp_sequential hone
  refine ensures_bind.mpr (sequential_clear h.self ?_)
  refine (writeWords_sequential (h.write _) _).bind fun _ m h => ?_
  refine ensures_bind.mpr (printAll_sequential _ ?_)
  refine ensures_bind.mpr (sequential_fini h.self ?_ ?_)
  · intro _ ret hret
    rw [if_pos hret]
    exact giveUp_sequential hone
  intro ret hret
  rw [if_neg hret]
  replace h := h.own .device
  refine ensures_bind.mpr (sequential_print ?_)
  refine ensures_bind.mpr (sequential_submit (job_honest _ _ hlisted) ?_ ?_ ?_)
  · intro b hb
    rw [job_touches hb, h.self]
  · intro ret hret
    rw [if_pos hret]
    exact giveUp_sequential hone
  intro ret hret
  rw [if_neg hret]
  refine ensures_bind.mpr (sequential_print (ensures_bind.mpr (sequential_print ?_)))
  refine ensures_bind.mpr (sequential_prep h.self ?_ ?_)
  · intro ret hret
    rw [if_pos hret]
    exact giveUp_sequential hone
  intro ret hret
  rw [if_neg hret]
  refine ensures_bind.mpr (sequential_print (ensures_bind.mpr (sequential_destroy
    (ensures_bind.mpr (sequential_close ?_)))))
  refine ensures_bind.mpr (printAll_sequential _ ?_)
  intro _
  exact ((h.submit _ _).own .cpu).cpu

theorem waits_of_listed (hlisted : regcmdBo ∈ t.ins) : Waits hw t.main := by
  intro ctx bo of dma cpu dev calls s' hrun
  have hmain : t.main.Ensures (sequential hw) _ (.initial of dma cpu) :=
    main_sequential hlisted fun _ => rfl
  have hshared := ensures_shared (initial_represents of dma cpu dev) hmain
  obtain ⟨-, -, m, hm, hcpu⟩ := hrun.snd.legal hshared
  refine drained hm (hcpu rfl) ?_
  exact hrun.snd.invariant (I := fun s : Shared => ∀ j ∈ s.buffers.queue, ∃ b, j.Touches b)
    (fun _ _ _ h ho => touches_step ho h) nofun

end Listed

section Unlisted

open Client

variable {hw : Hardware} {t : Test} {x : System × Shared}

/-- The waiting jobs were told of nothing, and there are `n` of them. -/
structure Unseen (s : Shared) (n : ℕ) : Prop where
  told : ∀ j ∈ s.buffers.queue, ∀ b, ¬ j.Told b
  length : s.buffers.queue.length = n

theorem Unseen.free {s : Shared} {n : ℕ} (h : Unseen s n) (b : ℕ) : s.buffers.Free b :=
  fun j hj => h.told j hj b

/-- Nothing is refused because of jobs that were told of nothing. -/
theorem Unseen.granted {s : Shared} {n : ℕ} (h : Unseen s n) {i : Call} {e : BoEvent}
    (he : i.event hw s.objects = some e) : s.buffers.Granted e := by
  cases i with
  | boCreate c b size =>
      cases he
      exact h.free _
  | boPrep c b timeoutNs =>
      cases he
      exact h.free _
  | boFini c b =>
      cases he
      trivial
  | submit c regcmd count ins outs =>
      cases he
      trivial
  | store b size i v =>
      cases he
      trivial
  | clear b size count =>
      cases he
      trivial
  | load b size i =>
      cases he
      trivial
  | _ => cases he

/-- A call with nothing in the background. -/
theorem Unseen.step {s : Shared} {n : ℕ} (h : Unseen s n) {i : Call} (r : i.Reply)
    (hsubmit : ∀ j, i.event hw s.objects ≠ some (.submit j)) :
    Unseen ((shared hw).step s i (r, [])) n := by
  have hqueue := queue_step r hsubmit
  exact ⟨hqueue ▸ h.told, hqueue ▸ h.length⟩

theorem allows_call {n : ℕ} (h : Unseen x.2 n) {i : Call} (o : i.Outcome) (ho : x.1.Promise i o)
    (hobjects : x.2.objects.Promise hw x.2.buffers.cpu i (x.1.reply i o))
    {Q : i.Reply → System × Shared → Prop}
    (hQ : Q (x.1.reply i o) (x.1.step i o, (shared hw).step x.2 i (x.1.reply i o, []))) :
    (Program.call i).Allows (device hw) Q x := by
  refine ⟨(o, x.1.reply i o, []), ⟨ho, ⟨nofun, trivial, ?_, hobjects⟩, rfl⟩, hQ⟩
  intro e he
  unfold Call.effect at he
  split at he
  · cases he
  · exact h.granted he

theorem allows_quiet {n : ℕ} (h : Unseen x.2 n) {i : Call} (o : i.Outcome) (ho : x.1.Promise i o)
    (hobjects : x.2.objects.Promise hw x.2.buffers.cpu i (x.1.reply i o))
    (hsubmit : ∀ j, i.event hw x.2.objects ≠ some (.submit j))
    {P : System → Prop} (hP : P (x.1.step i o)) {Q : i.Reply → System × Shared → Prop}
    (hQ : ∀ x' : System × Shared, P x'.1 → Unseen x'.2 n → Q (x.1.reply i o) x') :
    (Program.call i).Allows (device hw) Q x :=
  allows_call h o ho hobjects (hQ _ hP (h.step _ hsubmit))

theorem allows_print {stream : Stream} {format : String} {args : List Arg}
    {Q : Unit → System × Shared → Prop} (hQ : Q () x) :
    (print stream format args).Allows (device hw) Q x :=
  ⟨((), (), []), ⟨trivial, ⟨nofun, trivial, nofun, trivial⟩, rfl⟩, hQ⟩

theorem allows_printAll (lines : List Line) {Q : Unit → System × Shared → Prop} (hQ : Q () x) :
    (printAll lines).Allows (device hw) Q x := by
  have hlines : (printAll lines).Allows (device hw) (fun _ x' => x' = x) x := by
    refine Allows.forM (I := fun x' => x' = x) ?_ rfl
    rintro line - _ rfl
    exact allows_print rfl
  refine hlines.mono ?_
  rintro _ _ rfl
  exact hQ

theorem allows_open (hreleased : x.1.Released) {n : ℕ} (h : Unseen x.2 n)
    {Q : ℤ → System × Shared → Prop}
    (hQ : ∀ x' : System × Shared, (x'.1.Holding ctx fun _ => none) → Unseen x'.2 n → Q 0 x') :
    (rocketOpen ctx).Allows (device hw) Q x := by
  obtain ⟨env, henv, hret, hheld⟩ := @System.Released.can_open x.1 ctx hreleased
  refine allows_quiet (i := .rocketOpen ctx) h env henv trivial nofun
    (P := fun s => s.Holding ctx fun _ => none) hheld ?_
  rw [hret]
  exact hQ

theorem allows_create (hnone : x.1.Holding ctx fun _ => none) {n : ℕ} (h : Unseen x.2 n)
    {Q : ℤ × RocketBo → System × Shared → Prop}
    (hQ : ∀ bo (x' : System × Shared), x'.1.Holding ctx held → Unseen x'.2 n → Q (0, bo) x') :
    (boCreate ctx regcmdBo 4096).Allows (device hw) Q x := by
  obtain ⟨env, bo, henv, hret, hheld⟩ :=
    @System.Holding.can_create x.1 ctx regcmdBo 4096 _ hnone rfl 0 (by decide) (by simp)
  refine allows_quiet (i := .boCreate ctx regcmdBo 4096) h env henv trivial nofun
    (P := fun s => s.Holding ctx held) hheld ?_
  rw [hret]
  exact hQ bo

section Held

variable (hheld : x.1.Holding ctx held)
include hheld

theorem allows_map {Q : Addr → System × Shared → Prop} (hQ : ∀ addr, addr ≠ NULL → Q addr x) :
    (boMap ctx regcmdBo).Allows (device hw) Q x :=
  ⟨((), _, []), ⟨trivial, ⟨nofun, trivial, nofun, trivial⟩, rfl⟩, hQ _ (hheld.mapped rfl).1⟩

theorem allows_write {n : ℕ} (h : Unseen x.2 n) (words : List U64)
    {Q : Unit → System × Shared → Prop}
    (hQ : ∀ x' : System × Shared, x'.1.Holding ctx held → Unseen x'.2 n → Q () x') :
    (writeWords words).Allows (device hw) Q x := by
  have hwords : (writeWords words).Allows (device hw)
      (fun _ x => x.1.Holding ctx held ∧ Unseen x.2 n) x := by
    refine Allows.forM (I := fun x : System × Shared => x.1.Holding ctx held ∧ Unseen x.2 n) ?_
      ⟨hheld, h⟩
    rintro i - x ⟨hheld, h⟩
    exact allows_quiet (i := .store regcmdBo 8 i _) h () trivial trivial nofun
      (P := fun s => s.Holding ctx held) hheld fun _ hheld h => ⟨hheld, h⟩
  exact hwords.mono fun _ x' hx => hQ x' hx.1 hx.2

theorem allows_fini {n : ℕ} (h : Unseen x.2 n) {Q : ℤ → System × Shared → Prop}
    (hQ : ∀ x' : System × Shared, x'.1.Holding ctx held → Unseen x'.2 n → Q 0 x') :
    (boFini ctx regcmdBo).Allows (device hw) Q x := by
  have hret : x.1.reply (.boFini ctx regcmdBo) (.ok ()) = (0 : ℤ) := access_eq_zero_iff.mpr rfl
  refine allows_quiet (i := .boFini ctx regcmdBo) h (.ok ()) trivial ?_ nofun
    (P := fun s => s.Holding ctx held) (hheld.fini _) ?_
  · intro _
    rw [hret]
    exact lt_irrefl 0
  · rw [hret]
    exact hQ

theorem allows_prep {n : ℕ} (h : Unseen x.2 n) {timeoutNs : BitVec 64}
    {Q : ℤ → System × Shared → Prop}
    (hQ : ∀ x' : System × Shared, x'.1.Holding ctx held → Unseen x'.2 n → Q 0 x') :
    (boPrep ctx regcmdBo timeoutNs).Allows (device hw) Q x := by
  have hret : x.1.reply (.boPrep ctx regcmdBo timeoutNs) (.ok ()) = (0 : ℤ) :=
    access_eq_zero_iff.mpr rfl
  refine allows_quiet (i := .boPrep ctx regcmdBo timeoutNs) h (.ok ()) trivial trivial nofun
    (P := fun s => s.Holding ctx held) (hheld.prep _ _) ?_
  rw [hret]
  exact hQ

/-- Without bos there is nothing to allocate. -/
theorem allows_submit {n : ℕ} (h : Unseen x.2 n) {count : U32} {Q : ℤ → System × Shared → Prop}
    (hQ : ∀ x' : System × Shared, x'.1.Holding ctx held → Unseen x'.2 (n + 1) → Q 0 x') :
    (Program.submit ctx regcmdBo count [] []).Allows (device hw) Q x := by
  let env : Submit.SubmitEnv :=
    { callocIn := none, callocOut := none, task := 0, job := 1, submit := .ok () }
  have henv : x.1.Promise (.submit ctx regcmdBo count [] []) env :=
    ⟨nofun, nofun, nofun, nofun, nofun, by decide⟩
  have hret : x.1.reply (.submit ctx regcmdBo count [] []) env = (0 : ℤ) := by
    have hnone : ¬ (x.1.boArray []).Refused none := fun hrefused => hrefused.1 rfl
    show (onProcess (Submit.rocketSubmit env _ _ _ _ _) x.1.host).1 = 0
    rw [onProcess, Submit.rocketSubmit_ok hnone hnone rfl]
  refine allows_call (i := .submit ctx regcmdBo count [] []) h env henv trivial ?_
  rw [hret]
  refine hQ _ (hheld.submit henv) ⟨?_, ?_⟩
  · intro j hj
    rcases List.mem_append.mp hj with hj | hj
    · exact h.told j hj
    · rw [List.mem_singleton.mp hj]
      rintro b (hb | hb)
      · cases hb
      · cases hb
  · show (x.2.buffers.queue ++ [_]).length = n + 1
    rw [List.length_append, h.length, List.length_singleton]

end Held

/-- Without its bo listed a test may pass with its job still waiting. -/
theorem main_allows (hunlisted : regcmdBo ∉ t.ins) (hreleased : x.1.Released) (h : Unseen x.2 0) :
    t.main.Allows (device hw) (fun ret x => ret = 0 ∧ Unseen x.2 1) x := by
  have hins : t.ins = [] := by
    refine List.eq_nil_iff_forall_not_mem.mpr fun b hb => hunlisted ?_
    rw [t.ins_eq b hb] at hb
    exact hb
  unfold Test.main
  refine allows_bind.mpr (allows_printAll _ ?_)
  refine allows_bind.mpr (allows_open hreleased h fun x hnone h => ?_)
  rw [if_neg (lt_irrefl 0)]
  refine allows_bind.mpr (allows_print ?_)
  refine allows_bind.mpr (allows_create hnone h fun bo x hheld h => ?_)
  simp only [lt_irrefl, if_false]
  refine allows_bind.mpr (allows_printAll _ ?_)
  refine allows_bind.mpr (allows_map hheld fun addr hne => ?_)
  rw [if_neg hne]
  refine allows_bind.mpr (allows_quiet (i := .clear regcmdBo 1 4096) h () trivial trivial nofun
    (P := fun s => s.Holding ctx held) hheld fun x hheld h => ?_)
  refine allows_bind.mpr (allows_write hheld h _ fun x hheld h => ?_)
  refine allows_bind.mpr (allows_printAll _ ?_)
  refine allows_bind.mpr (allows_fini hheld h fun x hheld h => ?_)
  rw [if_neg (lt_irrefl 0)]
  refine allows_bind.mpr (allows_print ?_)
  rw [hins]
  refine allows_bind.mpr (allows_submit hheld h fun x hheld h => ?_)
  rw [if_neg (lt_irrefl 0)]
  refine allows_bind.mpr (allows_print (allows_bind.mpr (allows_print ?_)))
  refine allows_bind.mpr (allows_prep hheld h fun x hheld h => ?_)
  rw [if_neg (lt_irrefl 0)]
  refine allows_bind.mpr (allows_print ?_)
  refine allows_bind.mpr (allows_quiet (i := .boDestroy ctx regcmdBo) h () trivial trivial nofun
    (P := fun _ => True) trivial fun x _ h => ?_)
  refine allows_bind.mpr (allows_quiet (i := .rocketClose ctx) h () trivial trivial nofun
    (P := fun _ => True) trivial fun x _ h => ?_)
  exact allows_bind.mpr (allows_printAll _ ⟨rfl, h⟩)

theorem not_waits (hunlisted : regcmdBo ∉ t.ins) : ¬ Waits hw t.main := by
  intro hwaits
  let x : System × Shared := (System.initial (fun _ => ⟨-1⟩) fun _ => unusedBo,
    Shared.initial id (fun _ => 0) (fun _ => default) fun _ => default)
  have hallows : t.main.Allows (device hw) _ x :=
    main_allows hunlisted (.initial _ _) ⟨nofun, rfl⟩
  obtain ⟨calls, ret, x, hrun, rfl, h⟩ := hallows.exists_run
  have hlength := h.length
  rw [hwaits _ _ _ _ _ _ _ _ hrun] at hlength
  cases hlength

end Unlisted

/-- **What a test waits for.** A test that passes has waited for its job if it lists
the bo of its commands, and only then; none of the three does. -/
theorem waits_iff (hw : Hardware) :
    (∀ t : Test, Waits hw t.main ↔ regcmdBo ∈ t.ins) ∧
      ∀ t ∈ minimalTests, ¬ Waits hw t.main := by
  constructor
  · intro t
    refine ⟨fun hwaits => ?_, waits_of_listed⟩
    by_contra hunlisted
    exact not_waits hunlisted hwaits
  · intro t ht
    refine not_waits ?_
    simp only [minimalTests, List.mem_cons, List.not_mem_nil, or_false] at ht
    rcases ht with rfl | rfl | rfl
    · exact List.not_mem_nil
    · exact List.not_mem_nil
    · exact List.not_mem_nil

end Librocket.MinimalTests
