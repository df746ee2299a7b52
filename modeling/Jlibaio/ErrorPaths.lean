import Jlibaio.Conservation
import Jlibaio.Exec

set_option autoImplicit false

/-! # Error paths

A call of `submitWrite`, `submitRead` or `deleteContext` that fails, because the pool is exhausted
or because `io_submit` refuses the request, undoes what it did: the count `used`, the multiset of
free descriptors (the descriptor taken goes back, at the end of the window), the live global
references, the kernel queue and the ring are as before (`Process.engine`), and the log has grown
by one exception and, for a refused `submitWrite`/`submitRead` with a callback, by the reference
created and its one deletion. `deleteContext` passes its marker `(void *) -1` to no
`DeleteGlobalRef`, and returns before `pollLock`.

A call after `deleteContext` has returned is a different matter: the context buffer's address is
the freed control block itself, nothing clears it, so `getIOControl` lets every later call
through to the freed block. -/

namespace Jlibaio

/-! ## What a caller depends on -/

/-- The state of a live context that its callers depend on: the pool's count, the multiset of
free descriptors, the live global references, the kernel queue and the waiting completions. -/
structure Engine where
  used : Int
  free : Multiset Nat
  refs : List Nat
  inflight : List Nat
  ring : List IoEvent

/-- The engine state of a process whose control block is live. -/
def Process.engine (s : Process) : Option Engine :=
  s.control.map fun c => ⟨c.used, c.freeList, s.refs, s.inflight, s.ring.contents⟩

/-- The exception a failing `submitWrite`, `submitRead` or `deleteContext` raises. -/
def failure (c : IoControl) (result : Int) : Exception :=
  if c.used < c.queueSize then .ioErrno "Error while submitting IO: " (-result)
  else .io "Not enough space in libaio queue"

/-- The reference effects of a failing `submitWrite` or `submitRead`: the reference
`NewGlobalRef` created for the callback and its deletion, when the call got a descriptor. -/
def refEffects (s : Process) (c : IoControl) (callback : Option Nat) : List Effect :=
  if c.used < c.queueSize ∧ callback.isSome then
    [.newGlobalRef s.nextRef, .deleteGlobalRef (.ref s.nextRef)]
  else []

/-- A failed call: the engine state as before, and the log grown by `extra` and then `e`. -/
def FailedCall (s s' : Process) (extra : List Effect) (e : Exception) : Prop :=
  s'.engine = s.engine ∧ s'.log = s.log ++ extra ++ [.throw e]

theorem getIOCB_used_of_lt {c : IoControl} (h : c.used < c.queueSize) :
    (getIOCB c).1.used = c.used + 1 := by
  simp only [getIOCB, h, if_true]

/-- `getIOCB` and then `putIOCB` of the same descriptor keep the free multiset. -/
theorem putIOCB_getIOCB_freeList {c : IoControl} (hi : PoolInv c) (h : c.used < c.queueSize) :
    ((putIOCB (getIOCB c).1 (c.iocb c.iocbGet)).freeList : Multiset Nat) = c.freeList := by
  have hpos : 0 < (getIOCB c).1.used := by
    rw [getIOCB_used_of_lt h]
    have := hi.used_nonneg
    omega
  rw [putIOCB_freeList (getIOCB_poolInv hi) hpos, (getIOCB_freeList hi h).1]
  exact Multiset.coe_eq_coe.2 (List.perm_append_singleton _ _)

/-! ## Failing calls -/

section Failing

variable {s : Process} {c : IoControl} (hc : s.control = some c) (hi : PoolInv c)
  (ha : s.address ≠ 0)

include hc hi ha in
/-- A failing `submitWrite` or `submitRead`. -/
theorem submitRequest_of_fail (opcode : Opcode) (fd position size : Int) (buffer : Nat)
    (callback : Option Nat) {result : Int} (hfail : ¬ c.used < c.queueSize ∨ result < 0) :
    ∃ s', submitRequest opcode s fd position size buffer callback result = some s' ∧
      FailedCall s s' (refEffects s c callback) (failure c result) := by
  obtain ⟨⟨s₁, iocb⟩, hprep⟩ := Option.isSome_iff_exists.1
    (submitPrepare_isSome hc ha opcode fd position size buffer callback)
  rcases submitPrepare_spec hc ha hprep with ⟨hfull, rfl, rfl⟩ | ⟨hlt, rfl, rfl⟩
  · refine ⟨_, by simp only [submitRequest, hprep, Option.bind_eq_bind, Option.some_bind]; rfl, ?_⟩
    simp [FailedCall, Process.engine, hc, refEffects, failure, hfull, Process.throw, Process.emit]
  · have hneg : result < 0 := hfail.resolve_left (not_not.2 hlt)
    have hfree := putIOCB_getIOCB_freeList hi hlt
    set s₁ := (((s.setControl (getIOCB c).1).setIocb (c.iocb c.iocbGet)
          (ioPrep opcode fd buffer (toSizeT size) position)).newGlobalRef callback).1.setIocb
        (c.iocb c.iocbGet)
        { ioPrep opcode fd buffer (toSizeT size) position with
          data := (((s.setControl (getIOCB c).1).setIocb (c.iocb c.iocbGet)
            (ioPrep opcode fd buffer (toSizeT size) position)).newGlobalRef callback).2 } with hs₁
    have hc₁ : s₁.control = some (getIOCB c).1 := by simp [hs₁]
    obtain ⟨⟨s₂, ok⟩, hsub⟩ := Option.isSome_iff_exists.1 (submit_isSome hc₁ (c.iocb c.iocbGet) result)
    rcases submit_spec hc₁ hsub with ⟨-, -, rfl⟩ | ⟨hnn, -, -⟩
    · refine ⟨_, by simp only [submitRequest, hprep, hsub, Option.bind_eq_bind, Option.some_bind]; rfl, ?_⟩
      cases callback <;>
        simp [hs₁, FailedCall, Process.engine, hc, refEffects, failure, hlt, getIOCB_used_of_lt hlt, hfree,
          Process.releaseData, Process.newGlobalRef, Process.setIocb, Process.throw, Process.emit,
          Process.deleteGlobalRef, Process.setControl]
    · omega

include hc hi ha in
/-- A failing `deleteContext`: it returns before `pollLock`, with no reference deleted. -/
theorem deleteContext_of_fail {result : Int} (answer : IoGeteventsAnswer)
    (hfail : ¬ c.used < c.queueSize ∨ result < 0) :
    ∃ s', deleteContext s result answer = some s' ∧ FailedCall s s' [] (failure c result) := by
  obtain ⟨⟨s₁, iocb⟩, hprep⟩ := Option.isSome_iff_exists.1 (deleteContextPrepare_isSome hc ha)
  rcases deleteContextPrepare_spec hc ha hprep with ⟨hfull, rfl, rfl⟩ | ⟨hlt, rfl, rfl⟩
  · refine ⟨_, by simp only [deleteContext, hprep, Option.bind_eq_bind, Option.some_bind]; rfl, ?_⟩
    simp [FailedCall, Process.engine, hc, failure, hfull, Process.throw, Process.emit]
  · have hneg : result < 0 := hfail.resolve_left (not_not.2 hlt)
    have hfree := putIOCB_getIOCB_freeList hi hlt
    have hc₁ : ((s.setControl (getIOCB c).1).setIocb (c.iocb c.iocbGet)
        { ioPrep .pwrite s.dumbWriteHandler 0 0 0 with data := .marker }).control =
        some (getIOCB c).1 := rfl
    obtain ⟨⟨s₂, ok⟩, hsub⟩ := Option.isSome_iff_exists.1 (submit_isSome hc₁ (c.iocb c.iocbGet) result)
    rcases submit_spec hc₁ hsub with ⟨-, rfl, rfl⟩ | ⟨hnn, -, -⟩
    · refine ⟨_, by simp only [deleteContext, hprep, hsub, Option.bind_eq_bind, Option.some_bind]; rfl, ?_⟩
      simp [FailedCall, Process.engine, hc, failure, hlt, getIOCB_used_of_lt hlt, hfree,
        Process.releaseData, Process.setIocb, Process.throw, Process.emit, Process.setControl, ioPrep]
    · omega

end Failing

/-- In every reachable state of a live context, a `submitWrite`, `submitRead` or `deleteContext`
that fails, because the pool is exhausted or `io_submit` refuses the request, leaves `used`, the
free descriptors, the live references, the kernel queue and the ring as they were. It raises one
`IOException`; a refused `submitWrite` or `submitRead` with a callback also creates the callback's
reference and deletes it once, and `deleteContext` deletes no reference at all. -/
theorem failed_calls_restore {hooks : Bool} {descs : List Nat} {S : System} {c : IoControl}
    (hS : Reachable hooks descs S) (hc : S.proc.control = some c) (fd position size : Int)
    (buffer : Nat) (callback : Option Nat) (result : Int) (answer : IoGeteventsAnswer)
    (hfail : ¬ c.used < c.queueSize ∨ result < 0) :
    (∃ s', submitWrite S.proc fd position size buffer callback result = some s' ∧
      FailedCall S.proc s' (refEffects S.proc c callback) (failure c result)) ∧
    (∃ s', submitRead S.proc fd position size buffer callback result = some s' ∧
      FailedCall S.proc s' (refEffects S.proc c callback) (failure c result)) ∧
    (∃ s', deleteContext S.proc result answer = some s' ∧
      FailedCall S.proc s' [] (failure c result)) :=
  have hl := hS.liveInv hc
  ⟨submitRequest_of_fail hc hl.pool hl.address .pwrite fd position size buffer callback hfail,
    submitRequest_of_fail hc hl.pool hl.address .pread fd position size buffer callback hfail,
    deleteContext_of_fail hc hl.pool hl.address answer hfail⟩

theorem failed_calls_restore_threeContext :
    Reachable false threeDescs threeContext ∧ threeContext.proc.control = some freshPool ∧
      (¬ freshPool.used < freshPool.queueSize ∨ (-11 : Int) < 0) ∧
      (∃ s', submitWrite threeContext.proc 4 0 4096 0 (some 7) (-11) = some s' ∧
        FailedCall threeContext.proc s' (refEffects threeContext.proc freshPool (some 7))
          (failure freshPool (-11))) ∧
      (∃ s', submitRead threeContext.proc 4 0 4096 0 (some 7) (-11) = some s' ∧
        FailedCall threeContext.proc s' (refEffects threeContext.proc freshPool (some 7))
          (failure freshPool (-11))) ∧
      (∃ s', deleteContext threeContext.proc (-11) (.read 0) = some s' ∧
        FailedCall threeContext.proc s' [] (failure freshPool (-11))) :=
  ⟨.init _ threeContext_initial, rfl, .inr (by decide),
    failed_calls_restore (.init _ threeContext_initial : Reachable false threeDescs threeContext)
      rfl 4 0 4096 0 (some 7) (-11) (.read 0) (.inr (by decide))⟩

/-! ## Calls after `deleteContext` -/

/-- Once `deleteContext` has returned, the address `getIOControl` reads is still set: no later
call is rejected as "Controller not initialized", and `submitWrite`, `submitRead`, `poll`, a pass
of `blockedPoll` and `deleteContext` all go on to read the freed control block. -/
theorem calls_after_deleteContext {hooks : Bool} {descs : List Nat} {S : System}
    (hS : Reachable hooks descs S) (hfin : S.deleter = .finished) (fd position size : Int)
    (buffer : Nat) (callback : Option Nat) (result min max : Int) (answer : IoGeteventsAnswer)
    (useFdatasync : Bool) :
    getIOControl S.proc = (S.proc, some S.proc.address) ∧
      submitWrite S.proc fd position size buffer callback result = none ∧
      submitRead S.proc fd position size buffer callback result = none ∧
      poll S.proc min max answer = none ∧
      blockedPollRound S.proc useFdatasync answer = none ∧
      deleteContext S.proc result answer = none := by
  rcases hS.sysInv with ⟨-, hc, -, ha⟩ | ⟨hlive, -⟩
  · have hget := getIOControl_of_ne ha
    refine ⟨hget, ?_, ?_, ?_, ?_, ?_⟩ <;>
      simp [submitWrite, submitRead, submitRequest, submitPrepare, poll, blockedPollRound,
        deleteContext, deleteContextPrepare, takeIOCB, getevents, hget, hc]
  · exact absurd hfin hlive

/-- `threeContext` after a `deleteContext` that ran alone: the sentinel taken and accepted, the
final drain reading nothing. -/
def threeContextDeleted : System :=
  (threeContext.run false [.deletePrepare, .deleteSubmit 1, .deleteFinish (.read 0)]).getD
    threeContext

theorem calls_after_deleteContext_threeContextDeleted :
    Reachable false threeDescs threeContextDeleted ∧ threeContextDeleted.deleter = .finished ∧
      getIOControl threeContextDeleted.proc =
        (threeContextDeleted.proc, some threeContextDeleted.proc.address) ∧
      submitWrite threeContextDeleted.proc 4 0 4096 0 (some 7) 1 = none ∧
      submitRead threeContextDeleted.proc 4 0 4096 0 (some 7) 1 = none ∧
      poll threeContextDeleted.proc 1 3 (.read 0) = none ∧
      blockedPollRound threeContextDeleted.proc false (.read 0) = none ∧
      deleteContext threeContextDeleted.proc 1 (.read 0) = none :=
  have hS : Reachable false threeDescs threeContextDeleted :=
    System.run_reachable (.init _ threeContext_initial)
      (show threeContext.run false [.deletePrepare, .deleteSubmit 1, .deleteFinish (.read 0)] =
        some threeContextDeleted from rfl)
  ⟨hS, rfl, calls_after_deleteContext hS rfl 4 0 4096 0 (some 7) 1 1 3 (.read 0) false⟩

end Jlibaio
