import Librocket.Lib.Client
import Librocket.Lib.Ownership
import Librocket.Rocket.Device

/-!
# Clients of the library

Every function of `rocket_interface.h`, as calls of a client that owns any number
of contexts and bos, together with the client's own accesses to what it mapped.
`System.Duty` is what a call asks of the client, `System.Promise` what the kernel
gives in return, and `api` puts the two and the functions of `Device` together.

A handle means something on its descriptor only, and a bo knows the descriptor it
was made on but no call looks: the context that comes with the call decides.
-/

namespace Librocket.Rocket.Device

/-! ## The state -/

inductive CtxStatus
  | fresh
  | opened
  | closed
deriving DecidableEq

/-- Where a bo stands with its client. `idle` is a bo whose latest create failed,
or that was never created; `orphan` one whose context was closed under it. -/
inductive BoStatus
  | idle
  | live (c : ℕ)
  | orphan
  | destroyed
deriving DecidableEq

/-- The context a bo has a handle on. -/
def BoStatus.home : BoStatus → Option ℕ
  | .live c => some c
  | _ => none

/-- May the bo have a mapping? -/
def BoStatus.held : BoStatus → Bool
  | .live _ | .orphan => true
  | _ => false

@[simp] theorem home_eq_some_iff {status : BoStatus} {c : ℕ} :
    status.home = some c ↔ status = .live c := by
  cases status <;> simp [BoStatus.home]

structure System where
  host : Host
  ctx : ℕ → RocketCtx
  ctxStatus : ℕ → CtxStatus
  bo : ℕ → RocketBo
  boStatus : ℕ → BoStatus

/-- A process that has opened nothing, with contexts and bos of any contents. -/
def System.initial (ctx : ℕ → RocketCtx) (bo : ℕ → RocketBo) : System where
  host :=
    { files := fun _ => none, mappings := fun _ => none, memory := fun _ => none, errno := 0
      trace := [] }
  ctx := ctx
  ctxStatus := fun _ => .fresh
  bo := bo
  boStatus := fun _ => .idle

/-- A call on bo `b` leaves its mark on that bo and the host. -/
def System.put (s : System) (b : ℕ) (bo : RocketBo) (status : BoStatus) (host : Host) : System where
  host := host
  ctx := s.ctx
  ctxStatus := s.ctxStatus
  bo := Function.update s.bo b bo
  boStatus := Function.update s.boStatus b status

/-- A call on context `c` leaves its mark on that context and the host. -/
def System.putCtx (s : System) (c : ℕ) (ctx : RocketCtx) (status : CtxStatus) (host : Host) :
    System where
  host := host
  ctx := Function.update s.ctx c ctx
  ctxStatus := Function.update s.ctxStatus c status
  bo := s.bo
  boStatus := s.boStatus

/-- A call that leaves its mark on the host only. -/
def System.onHost (s : System) (host : Host) : System := { s with host := host }

/-! ## The calls -/

inductive Stream
  | stdout
  | stderr

/-- What is printed: an integer, a string, or the bits of a number in floating
point. -/
inductive Arg
  | int (v : ℤ)
  | str (s : List Char)
  | float (v : U64)

/-- A client calls the library, touches elements of `size` bytes of what it mapped
(number `i`, or the first `count` to clear them), or prints. `undefined` is where
it has no defined behaviour. -/
inductive Call
  | rocketOpen (c : ℕ)
  | rocketClose (c : ℕ)
  | boCreate (c b : ℕ) (size : U64)
  | boDestroy (c b : ℕ)
  | boMap (c b : ℕ)
  | boUnmap (b : ℕ)
  | boPrep (c b : ℕ) (timeoutNs : BitVec 64)
  | boFini (c b : ℕ)
  | submit (c regcmd : ℕ) (regcmdCount : U32) (ins outs : List ℕ)
  | store (b : ℕ) (size : ℕ) (i : ℤ) (v : U64)
  | clear (b : ℕ) (size count : ℕ)
  | load (b : ℕ) (size : ℕ) (i : ℤ)
  | print (stream : Stream) (format : String) (args : List Arg)
  | undefined

/-- What is not the client's to choose: the kernel's answers, and what a load
finds. Nothing comes after undefined behaviour. -/
def Call.Outcome : Call → Type
  | .rocketOpen _ => OpenEnv
  | .boCreate .. => CreateEnv
  | .boPrep .. | .boFini .. => Except Errno Unit
  | .submit .. => Submit.SubmitEnv
  | .load .. => U64
  | .undefined => Empty
  | .rocketClose _ | .boDestroy .. | .boMap .. | .boUnmap _ | .store .. | .clear .. | .print .. =>
      Unit

/-- What the client gets back: the code, and the pointer or `*bo`. -/
def Call.Reply : Call → Type
  | .rocketOpen _ | .boPrep .. | .boFini .. | .submit .. => ℤ
  | .boCreate .. => ℤ × RocketBo
  | .boMap .. => Addr
  | .load .. => U64
  | .undefined => Empty
  | .rocketClose _ | .boDestroy .. | .boUnmap _ | .store .. | .clear .. | .print .. => Unit

/-- The context a call goes through. -/
def Call.context : Call → Option ℕ
  | .rocketOpen c | .rocketClose c | .boCreate c _ _ | .boDestroy c _ | .boMap c _
  | .boPrep c _ _ | .boFini c _ | .submit c _ _ _ _ => some c
  | .boUnmap _ | .store .. | .clear .. | .load .. | .print .. | .undefined => none

/-- The bo a call makes anew, takes down, or takes the mapping of. -/
def Call.target : Call → Option ℕ
  | .boCreate _ b _ | .boDestroy _ b | .boUnmap b => some b
  | _ => none

/-- `struct rocket_bo *bos[]` and its count. -/
def System.boArray (s : System) (bs : List ℕ) : Submit.BoArray where
  count := BitVec.ofNat 32 bs.length
  bo i := s.bo (bs.getD i 0)

namespace System

/-- One call. -/
def step (s : System) : (i : Call) → i.Outcome → System
  | .rocketOpen c, env =>
      let r := rocketOpen env (some (s.ctx c)) s.host
      s.putCtx c (r.1.2.getD (s.ctx c)) (if r.1.1 = 0 then .opened else .closed) r.2
  | .rocketClose c, _ =>
      let r := rocketClose (s.ctx c) s.host
      { s.putCtx c r.1 .closed r.2 with
        boStatus := fun b => if s.boStatus b = .live c then .orphan else s.boStatus b }
  | .boCreate c b size, env =>
      let r := boCreate env (s.ctx c) (s.bo b) size s.host
      s.put b r.1.2 (if r.1.1 = 0 then .live c else .idle) r.2
  | .boDestroy c b, _ =>
      let r := boDestroy (s.ctx c) (s.bo b) s.host
      s.put b r.1 .destroyed r.2
  | .boUnmap b, _ =>
      let r := boUnmap (s.bo b) s.host
      s.put b r.1 (s.boStatus b) r.2
  | .boPrep c b timeoutNs, outcome =>
      s.onHost (rocketBoPrep outcome (s.ctx c) (s.bo b) timeoutNs s.host).2
  | .boFini c b, outcome => s.onHost (rocketBoFini outcome (s.ctx c) (s.bo b) s.host).2
  | .submit c regcmd regcmdCount ins outs, env =>
      s.onHost (submit env (s.ctx c) (s.bo regcmd) regcmdCount (s.boArray ins) (s.boArray outs)
        s.host).2
  | .boMap .., _ | .store .., _ | .clear .., _ | .load .., _ | .print .., _ => s
  | .undefined, o => o.elim

/-- What it returns. -/
def reply (s : System) : (i : Call) → i.Outcome → i.Reply
  | .rocketOpen c, env => (rocketOpen env (some (s.ctx c)) s.host).1.1
  | .boCreate c b size, env => (boCreate env (s.ctx c) (s.bo b) size s.host).1
  | .boMap _ b, _ => rocketBoMap (s.bo b)
  | .boPrep c b timeoutNs, outcome => (rocketBoPrep outcome (s.ctx c) (s.bo b) timeoutNs s.host).1
  | .boFini c b, outcome => (rocketBoFini outcome (s.ctx c) (s.bo b) s.host).1
  | .submit c regcmd regcmdCount ins outs, env =>
      (submit env (s.ctx c) (s.bo regcmd) regcmdCount (s.boArray ins) (s.boArray outs) s.host).1
  | .load _ _ _, v => v
  | .rocketClose _, _ => ()
  | .boDestroy _ _, _ => ()
  | .boUnmap _, _ => ()
  | .store _ _ _ _, _ => ()
  | .clear _ _ _, _ => ()
  | .print _ _ _, _ => ()
  | .undefined, o => o.elim

/-- The elements from `i` to `j` of `size` bytes lie in the mapping of `b`. -/
def InRange (s : System) (b size : ℕ) (i j : ℤ) : Prop :=
  ∃ region, s.host.mappings (s.bo b).map = some region ∧ 0 ≤ i ∧
    j * size ≤ (region.length.toNat : ℤ)

/-- May `b` be destroyed through context `c`? Through its own, through one that
is closed once its own is, and any number of times after that. -/
def MayDestroy (s : System) (c b : ℕ) : Prop :=
  match s.boStatus b with
  | .idle => False
  | .live c' => c' = c
  | .orphan => s.ctxStatus c = .closed
  | .destroyed => s.ctxStatus c ≠ .fresh

/-- What a call asks of its client. -/
def Duty (s : System) : Call → Prop
  | .rocketOpen c => s.ctxStatus c ≠ .opened
  | .rocketClose c => s.ctxStatus c ≠ .fresh
  | .boCreate c b _ => s.ctxStatus c ≠ .fresh ∧ (s.boStatus b).held = false
  | .boDestroy c b => s.MayDestroy c b
  | .boMap _ b | .boUnmap b => s.boStatus b ≠ .idle
  | .boPrep c b _ | .boFini c b => s.boStatus b = .live c
  | .submit c regcmd _ ins outs => ∀ b ∈ regcmd :: ins ++ outs, s.boStatus b = .live c
  | .store b size i _ | .load b size i => s.InRange b size i (i + 1)
  | .clear b size count => s.InRange b size 0 count
  | .print .. => True
  | .undefined => False

/-- What the kernel gives in return. -/
def Promise (s : System) : (i : Call) → i.Outcome → Prop
  | .rocketOpen _, env => OpenEnv.Lawful env s.host
  | .boCreate c _ _, env => CreateLawful env s.host (s.ctx c).fd
  | .submit _ _ _ ins outs, env =>
      Submit.SubmitEnv.Lawful env (s.boArray ins) (s.boArray outs) s.host.memory
  | _, _ => True

end System

def api : Service System Call Call.Outcome Call.Reply where
  duty := System.Duty
  promise := System.Promise
  step := System.step
  reply := System.reply

end Librocket.Rocket.Device
