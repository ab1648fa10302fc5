import Librocket.Rocket.Handover
import Librocket.Rocket.Lifecycle
import Mathlib.Data.List.ReduceOption

/-!
# Which error is reported

`errno` is read after the calls that clean up or report, not after the call that
failed. Its number is the one returned unless one of those calls leaves a
number of its own.
-/

namespace Librocket.Rocket

/-! ## A number that survives -/

/-- None of the calls made after `e` leaves a number, or the last that does leaves
the same one. -/
def Errno.Survives (e : Errno) (left : List (Option Errno)) : Prop :=
  ∀ e', left.reduceOption.getLast? = some e' → e'.code = e.code

theorem Errno.after_eq (e : Errno) (left : List (Option Errno)) :
    e.after left = left.reduceOption.getLast?.getD e := by
  induction left generalizing e with
  | nil => rfl
  | cons l left ih =>
      -- What `l` left behind is what the rest of the calls find.
      cases l with
      | none => rw [Errno.after_cons, ih, List.reduceOption_cons_of_none, Option.getD_none]
      | some e' =>
          rw [Errno.after_cons, ih, List.reduceOption_cons_of_some, List.getLast?_cons,
            Option.getD_some, Option.getD_some]

theorem Errno.after_code_iff {e : Errno} {left : List (Option Errno)} :
    (e.after left).code = e.code ↔ e.Survives left := by
  rw [Errno.after_eq, Errno.Survives]
  cases left.reduceOption.getLast? with
  | none => simp
  | some e' => simp

/-! ## Creating -/

section Create

variable {env : CreateEnv} {ctx : RocketCtx} {bo : RocketBo} {size : U64} {w : World}

/-- **A create that fails returns minus the number of the call that failed.** -/
structure CreateReports (env : CreateEnv) (ctx : RocketCtx) (bo : RocketBo) (size : U64)
    (w : World) : Prop where
  createBo : ∀ e, env.createBo = .error e → (rocketBoCreate env ctx bo size w).1.1 = -e.code
  mmap : ∀ reply e, env.createBo = .ok reply → env.mmap = .error e →
    (rocketBoCreate env ctx bo size w).1.1 = -e.code

/-- The call after the one that failed leaves its number in place: `perror` after
`CREATE_BO`, `GEM_CLOSE` after `mmap`. -/
structure CreateEnv.Keeps (env : CreateEnv) : Prop where
  createBo : ∀ e, env.createBo = .error e → e.Survives [env.perror]
  mmap : ∀ reply e, env.createBo = .ok reply → env.mmap = .error e → e.Survives [env.close]

theorem createBo_reported_iff {e : Errno} (hcreate : env.createBo = .error e) :
    (rocketBoCreate env ctx bo size w).1.1 = -e.code ↔ e.Survives [env.perror] := by
  rw [rocketBoCreate_createBo_error hcreate, neg_inj]
  exact Errno.after_code_iff

theorem mmap_reported_iff {reply : CreateReply} {e : Errno} (hcreate : env.createBo = .ok reply)
    (hmap : env.mmap = .error e) :
    (rocketBoCreate env ctx bo size w).1.1 = -e.code ↔ e.Survives [env.close] := by
  rw [rocketBoCreate_mmap_error hcreate hmap, neg_inj]
  exact Errno.after_code_iff

theorem createReports_iff : CreateReports env ctx bo size w ↔ env.Keeps := by
  constructor
  · intro h
    constructor
    · intro e hcreate
      exact (createBo_reported_iff hcreate).mp (h.createBo e hcreate)
    · intro reply e hcreate hmap
      exact (mmap_reported_iff hcreate hmap).mp (h.mmap reply e hcreate hmap)
  · intro h
    constructor
    · intro e hcreate
      exact (createBo_reported_iff hcreate).mpr (h.createBo e hcreate)
    · intro reply e hcreate hmap
      exact (mmap_reported_iff hcreate hmap).mpr (h.mmap reply e hcreate hmap)

end Create

/-! ## Submitting -/

section Submit

open Submit

variable {env : SubmitEnv} {ctx : RocketCtx} {regcmdBo : RocketBo} {regcmdCount : U32}
  {inBos outBos : BoArray} {p : Process}

/-- **A submit whose `SUBMIT` fails returns minus its number.** -/
def SubmitReports (env : SubmitEnv) (ctx : RocketCtx) (regcmdBo : RocketBo) (regcmdCount : U32)
    (inBos outBos : BoArray) (p : Process) : Prop :=
  ∀ e, ¬ inBos.Refused env.callocIn → ¬ outBos.Refused env.callocOut → env.submit = .error e →
    (rocketSubmit env ctx regcmdBo regcmdCount inBos outBos p).1 = -e.code

/-- The frees and `perror` leave the number of a `SUBMIT` that failed in place. -/
def Submit.SubmitEnv.Keeps (env : SubmitEnv) (inBos outBos : BoArray) : Prop :=
  ∀ e, ¬ inBos.Refused env.callocIn → ¬ outBos.Refused env.callocOut → env.submit = .error e →
    e.Survives (env.left inBos outBos)

theorem submitReports_iff :
    SubmitReports env ctx regcmdBo regcmdCount inBos outBos p ↔ env.Keeps inBos outBos := by
  refine forall₄_congr fun e hin hout hsubmit => ?_
  rw [rocketSubmit_failed hin hout hsubmit, neg_inj]
  exact Errno.after_code_iff

end Submit

/-! ## When the error reported is the one that happened -/

/-- **The error reported is the error that happened** exactly if the calls made
between the failure and the reading of `errno` leave its number there. -/
theorem error_reported_iff {env : CreateEnv} {ctx : RocketCtx} {bo : RocketBo} {size : U64}
    {w : World} {submitEnv : Submit.SubmitEnv} {regcmdBo : RocketBo} {regcmdCount : U32}
    {inBos outBos : Submit.BoArray} {p : Submit.Process} :
    (CreateReports env ctx bo size w ↔ env.Keeps) ∧
      (SubmitReports submitEnv ctx regcmdBo regcmdCount inBos outBos p ↔
        submitEnv.Keeps inBos outBos) :=
  ⟨createReports_iff, submitReports_iff⟩

def EBADF : Errno := { code := 9 }

/-- `CREATE_BO` fails, and `perror` has no `stderr` to write to. -/
def shutStderr : CreateEnv :=
  { createBo := .error ENOMEM, perror := some EBADF, mmap := .error ENOMEM }

/-- The mapping fails, and so does closing the handle. -/
def failedClose : CreateEnv :=
  { createBo := .ok ⟨1, 0x10000, 0x100000⟩, mmap := .error ENOMEM, close := some EINVAL }

/-- `SUBMIT` fails, and freeing the output array leaves a number. -/
def failedFree : Submit.SubmitEnv := { Submit.apartEnv (.error EINVAL) with freeOut := some ENOMEM }

/-- In each of the three places another number than that of the failure is returned. -/
theorem error_reported_fails_cleanup :
    ¬ CreateReports shutStderr ⟨3⟩ unusedBo 4096 (Sys.initial fun _ => unusedBo).world ∧
      ¬ CreateReports failedClose ⟨3⟩ unusedBo 4096 (Sys.initial fun _ => unusedBo).world ∧
      ¬ SubmitReports failedFree ⟨3⟩ unusedBo 108 Submit.twoIn Submit.oneOut
        Submit.emptyProcess := by
  refine ⟨?_, ?_, ?_⟩
  · intro h
    have hret := h.createBo ENOMEM rfl
    rw [rocketBoCreate_createBo_error rfl] at hret
    revert hret
    decide
  · intro h
    have hret := h.mmap _ ENOMEM rfl rfl
    rw [rocketBoCreate_mmap_error rfl rfl] at hret
    revert hret
    decide
  · intro h
    have hin : ¬ Submit.twoIn.Refused failedFree.callocIn := by
      rintro ⟨-, ⟨⟩⟩
    have hout : ¬ Submit.oneOut.Refused failedFree.callocOut := by
      rintro ⟨-, ⟨⟩⟩
    have hret := h EINVAL hin hout rfl
    rw [Submit.rocketSubmit_failed hin hout rfl] at hret
    revert hret
    decide

end Librocket.Rocket
