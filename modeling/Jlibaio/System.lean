import Jlibaio.Context

set_option autoImplicit false

/-! # Runs of a context

A run interleaves the threads that use one context with the kernel. Submitting threads are cut
where the source calls `submit`: between `getIOCB` and `io_submit` a descriptor belongs to its
thread (`System.submitting`). Harvesting is serialized, as `blockedPoll`'s `pollLock` and the
callers of `poll` ensure: the one harvesting call in progress is `System.harvester`, advanced one
round of its loop at a time, and `deleteContext` drains only when no harvesting call runs. The
kernel queues what `io_submit` accepts, completes queued requests in any order, and answers the
`io_getevents` system call with an error or a read of at most `max`, at least `min_nr` and at most
the waiting completions.

`System.lost` is ghost state: the descriptors of the events `blockedPoll` harvested after the
sentinel of their batch, which the loop never looks at. `System.userFds` are the descriptors the
Java side opened, which it passes to `submitWrite` and `submitRead`. -/

namespace Jlibaio

/-- Where the harvesting call in progress is. -/
inductive Harvester where
  | idle
  /-- `poll` at round `i` of its loop over `result` events -/
  | poll (result : Int) (i : Nat)
  /-- `blockedPoll`, holding `pollLock`, about to call `artemis_io_getevents` -/
  | blockedWaiting (useFdatasync : Bool)
  /-- `blockedPoll` at round `i` of its `for` loop over `result` events -/
  | blockedBatch (useFdatasync : Bool) (result : Int) (i : Nat) (lastFile : Int)
  deriving DecidableEq, Repr

/-- Where `deleteContext` is. -/
inductive Deleter where
  | idle
  /-- the sentinel descriptor taken and prepared, `submit` not yet called -/
  | submitting (iocb : Nat)
  /-- the sentinel accepted, waiting for `pollLock` -/
  | waiting
  /-- returned after freeing the context -/
  | finished
  deriving DecidableEq, Repr

/-- A run's state: the process, the threads, and the ghost `lost`. -/
structure System where
  proc : Process
  harvester : Harvester
  deleter : Deleter
  submitting : List Nat
  userFds : List Int
  lost : List Nat

/-- The answers the kernel may give to the `io_getevents` system call on ring `r`. -/
def IoGeteventsAnswer.Admissible (r : AioRing IoEvent) (minNr max : Int) :
    IoGeteventsAnswer → Prop
  | .error code => code < 0
  | .read k => k ≤ r.pending ∧ minNr ≤ k ∧ (k : Int) ≤ max

instance (r : AioRing IoEvent) (minNr max : Int) :
    (answer : IoGeteventsAnswer) → Decidable (answer.Admissible r minNr max)
  | .error code => inferInstanceAs (Decidable (code < 0))
  | .read k => inferInstanceAs (Decidable (k ≤ r.pending ∧ minNr ≤ k ∧ (k : Int) ≤ max))

/-- The results the kernel may give to `io_submit` of the descriptor at `iocb`: it queues a
request on an open file while the queue exists (`deleteContext` releases it when it frees the
control block), and may refuse any request. -/
def SubmitAdmissible (s : Process) (iocb : Nat) (result : Int) : Prop :=
  (result = 1 ∧ (s.heap iocb).aioFildes ∈ s.openFds ∧ s.control.isSome) ∨ result < 0

instance (s : Process) (iocb : Nat) (result : Int) : Decidable (SubmitAdmissible s iocb result) :=
  inferInstanceAs
    (Decidable ((result = 1 ∧ (s.heap iocb).aioFildes ∈ s.openFds ∧ s.control.isSome) ∨ result < 0))

/-- The descriptors of `events[i..n)`. -/
def bufferObjs (buffer : Nat → IoEvent) (i n : Nat) : List Nat :=
  (List.range (n - i)).map fun j => (buffer (i + j)).obj

/-- One step of a run. `hooks` says whether `shutdownHook` may run. -/
inductive Step (hooks : Bool) : System → System → Prop
  /-- `submitWrite` or `submitRead` up to `submit` -/
  | prepare (S : System) (opcode : Opcode) (fd : Int) (position size : Int) (buffer : Nat)
      (callback : Option Nat) (s : Process) (iocb : Option Nat) :
      fd ∈ S.userFds →
      submitPrepare opcode S.proc fd position size buffer callback = some (s, iocb) →
      Step hooks S { S with proc := s, submitting := iocb.toList ++ S.submitting }
  /-- their call of `submit` -/
  | submit (S : System) (iocb : Nat) (result : Int) (s : Process) (ok : Bool) :
      iocb ∈ S.submitting → SubmitAdmissible S.proc iocb result →
      Jlibaio.submit S.proc iocb result = some (s, ok) →
      Step hooks S { S with proc := s, submitting := S.submitting.erase iocb }
  /-- the kernel completing a queued request -/
  | complete (S : System) (iocb : Nat) (res : Int) :
      iocb ∈ S.proc.inflight → S.proc.ring.pending + 1 < S.proc.ring.nr →
      -2 ^ 31 < res → res < 2 ^ 31 →
      Step hooks S { S with proc := kernelComplete S.proc iocb res }
  /-- `poll`'s call of `artemis_io_getevents` -/
  | pollStart (S : System) (min max : Int) (answer : IoGeteventsAnswer) (s : Process)
      (result : Int) :
      S.harvester = .idle → -2 ^ 31 ≤ max → answer.Admissible S.proc.ring min max →
      (getIOControl S.proc).2.isSome →
      getevents S.proc min max answer = some (s, result) →
      Step hooks S { S with proc := s, harvester := .poll result 0 }
  /-- a round of `poll`'s loop -/
  | pollRound (S : System) (result : Int) (i : Nat) (s : Process) :
      S.harvester = .poll result i → i < result.toNat → pollEvent S.proc i = some s →
      Step hooks S { S with proc := s, harvester := .poll result (i + 1) }
  /-- `poll` returning -/
  | pollReturn (S : System) (result : Int) (i : Nat) :
      S.harvester = .poll result i → result.toNat ≤ i →
      Step hooks S { S with harvester := .idle }
  /-- `blockedPoll` taking `pollLock` -/
  | blockedStart (S : System) (useFdatasync : Bool) :
      S.harvester = .idle → (getIOControl S.proc).2.isSome → S.proc.control.isSome →
      Step hooks S { S with harvester := .blockedWaiting useFdatasync }
  /-- `blockedPoll`'s call of `artemis_io_getevents` -/
  | blockedGetevents (S : System) (useFdatasync : Bool) (answer : IoGeteventsAnswer)
      (c : IoControl) (s : Process) (result : Int) :
      S.harvester = .blockedWaiting useFdatasync → S.proc.control = some c →
      answer.Admissible S.proc.ring 1 c.queueSize →
      getevents S.proc 1 c.queueSize answer = some (s, result) →
      Step hooks S
        { S with
          proc := if result < 0 ∧ result ≠ -eintr then
              s.throw (.ioErrno "Error while calling io_getevents IO: " (-result)) else s
          harvester := if result = -eintr then .blockedWaiting useFdatasync
            else if result < 0 then .idle else .blockedBatch useFdatasync result 0 (-1) }
  /-- a round of `blockedPoll`'s `for` loop; at the sentinel the loop and the call end -/
  | blockedRound (S : System) (useFdatasync : Bool) (result : Int) (i : Nat) (lastFile : Int)
      (s : Process) (lastFile' : Int) (running : Bool) (c : IoControl) :
      S.harvester = .blockedBatch useFdatasync result i lastFile → i < result.toNat →
      S.proc.control = some c →
      blockedPollEvent S.proc useFdatasync lastFile i = some (s, lastFile', running) →
      Step hooks S
        { S with
          proc := s
          harvester := if running then .blockedBatch useFdatasync result (i + 1) lastFile'
            else .idle
          lost := if running then S.lost else S.lost ++ bufferObjs c.events (i + 1) result.toNat }
  /-- the end of a batch: back to `artemis_io_getevents` -/
  | blockedNext (S : System) (useFdatasync : Bool) (result : Int) (i : Nat) (lastFile : Int) :
      S.harvester = .blockedBatch useFdatasync result i lastFile → result.toNat ≤ i →
      Step hooks S { S with harvester := .blockedWaiting useFdatasync }
  /-- `deleteContext` up to `submit` -/
  | deletePrepare (S : System) (s : Process) (iocb : Option Nat) :
      S.deleter = .idle → deleteContextPrepare S.proc = some (s, iocb) →
      Step hooks S
        { S with
          proc := s
          deleter := match iocb with
            | some iocb => .submitting iocb
            | none => .idle }
  /-- `deleteContext`'s call of `submit` -/
  | deleteSubmit (S : System) (iocb : Nat) (result : Int) (s : Process) (ok : Bool) :
      S.deleter = .submitting iocb → SubmitAdmissible S.proc iocb result →
      Jlibaio.submit S.proc iocb result = some (s, ok) →
      Step hooks S { S with proc := s, deleter := if ok then .waiting else .idle }
  /-- `deleteContext` past `pollLock`, with no harvesting call running -/
  | deleteFinish (S : System) (answer : IoGeteventsAnswer) (s : Process) :
      S.deleter = .waiting → S.harvester = .idle → answer.Admissible S.proc.ring 0 1 →
      deleteContextFinish S.proc answer = some s →
      Step hooks S { S with proc := s, deleter := .finished }
  /-- `shutdownHook` -/
  | shutdownHook (S : System) :
      hooks = true → Step hooks S { S with proc := Jlibaio.shutdownHook S.proc }
  /-- `open` succeeding -/
  | openFile (S : System) :
      Step hooks S
        { S with proc := (Jlibaio.openFile S.proc).1, userFds := (Jlibaio.openFile S.proc).2 :: S.userFds }
  /-- `close` of a file the Java side opened -/
  | closeFile (S : System) (fd : Int) :
      fd ∈ S.userFds →
      Step hooks S
        { S with
          proc := if (closeFd S.proc fd).2 < 0 then
              (closeFd S.proc fd).1.throw (.ioErrno "Error closing file:" 9) else (closeFd S.proc fd).1
          userFds := S.userFds.erase fd }

/-- The state after `JNI_OnLoad` and a `newContext` that allocated the descriptors `descs`: the
scratch file open, an empty kernel queue, the global reference to `thisObject` taken, nothing
harvested, nothing logged. -/
structure System.Initial (descs : List Nat) (S : System) : Prop where
  nodup : descs.Nodup
  length_pos : 0 < descs.length
  control : ∃ c, S.proc.control = some c ∧ c.Fresh descs
  address : S.proc.address ≠ 0
  dumb : S.proc.dumbWriteHandler ∈ S.proc.openFds
  fds_nonneg : ∀ fd ∈ S.proc.openFds, 0 ≤ fd
  inflight : S.proc.inflight = []
  ring : RingInv S.proc.ring
  ring_empty : S.proc.ring.pending = 0
  thisObject : ∀ c, S.proc.control = some c →
    S.proc.refs = [c.thisObject] ∧ c.thisObject < S.proc.nextRef
  log : S.proc.log = []
  harvester : S.harvester = .idle
  deleter : S.deleter = .idle
  submitting : S.submitting = []
  userFds : S.userFds = []
  lost : S.lost = []

/-- A context over the descriptors `threeDescs`, as `JNI_OnLoad` and `newContext` leave it: the
standard streams and the scratch file `3` open, a ring of four slots, and the global reference `0`
to `thisObject`. -/
def threeContext : System where
  proc :=
    { dumbWriteHandler := 3, openFds := [0, 1, 2, 3], address := 1, control := some freshPool,
      heap := fun _ => ioPrep .pread (-1) 0 0 0, inflight := [],
      ring := AioRing.init 4 (by decide) (by decide) fun _ => ⟨0, 0⟩, refs := [0], nextRef := 1,
      log := [] }
  harvester := .idle
  deleter := .idle
  submitting := []
  userFds := []
  lost := []

theorem threeContext_initial : threeContext.Initial threeDescs where
  nodup := by decide
  length_pos := by decide
  control := ⟨freshPool, rfl, rfl, by decide, rfl, rfl, rfl⟩
  address := by decide
  dumb := by decide
  fds_nonneg := by decide
  inflight := rfl
  ring := (RingReachable.init 4 (by decide) (by decide) _).inv
  ring_empty := rfl
  thisObject := by
    rintro c ⟨⟩
    decide
  log := rfl
  harvester := rfl
  deleter := rfl
  submitting := rfl
  userFds := rfl
  lost := rfl

/-- The states a run reaches. -/
inductive Reachable (hooks : Bool) (descs : List Nat) : System → Prop
  | init (S : System) : S.Initial descs → Reachable hooks descs S
  | step {S S' : System} : Reachable hooks descs S → Step hooks S S' → Reachable hooks descs S'

end Jlibaio
