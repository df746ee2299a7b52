import Jlibaio.Exec

set_option autoImplicit false

/-! # What each piece of an entry point does

One lemma per function of `Jlibaio.Context`, giving the state it returns as an explicit update of
the state it was given, so that the invariants of `Jlibaio.Conservation` never unfold the code:
`ringRead_spec` (the `artemis_io_getevents` read is the kernel's read of `k ≤ pending` events),
`getevents_spec`, `submitPrepare_spec`, `submit_spec`, `pollEvent_eq` (with the effects
`pollDispatch` of a round of `poll`'s loop), the frame lemmas `pollEvent_frame` and
`blockedPollEvent_frame`, and `deleteContextPrepare_spec`. -/

namespace Jlibaio

/-! ## Field lemmas -/

namespace Process

variable (s : Process)

@[simp] theorem emit_control (e : Effect) : (s.emit e).control = s.control := rfl
@[simp] theorem emit_ring (e : Effect) : (s.emit e).ring = s.ring := rfl
@[simp] theorem emit_inflight (e : Effect) : (s.emit e).inflight = s.inflight := rfl
@[simp] theorem emit_address (e : Effect) : (s.emit e).address = s.address := rfl
@[simp] theorem throw_control (e : Exception) : (s.throw e).control = s.control := rfl
@[simp] theorem throw_ring (e : Exception) : (s.throw e).ring = s.ring := rfl
@[simp] theorem throw_inflight (e : Exception) : (s.throw e).inflight = s.inflight := rfl
@[simp] theorem throw_address (e : Exception) : (s.throw e).address = s.address := rfl
@[simp] theorem setControl_control (c : IoControl) : (s.setControl c).control = some c := rfl
@[simp] theorem setControl_ring (c : IoControl) : (s.setControl c).ring = s.ring := rfl
@[simp] theorem setControl_inflight (c : IoControl) : (s.setControl c).inflight = s.inflight := rfl
@[simp] theorem setControl_address (c : IoControl) : (s.setControl c).address = s.address := rfl
@[simp] theorem setIocb_control (p : Nat) (i : Iocb) : (s.setIocb p i).control = s.control := rfl
@[simp] theorem setIocb_ring (p : Nat) (i : Iocb) : (s.setIocb p i).ring = s.ring := rfl
@[simp] theorem setIocb_inflight (p : Nat) (i : Iocb) : (s.setIocb p i).inflight = s.inflight :=
  rfl
@[simp] theorem setIocb_address (p : Nat) (i : Iocb) : (s.setIocb p i).address = s.address := rfl
@[simp] theorem deleteGlobalRef_control (d : IocbData) :
    (s.deleteGlobalRef d).control = s.control := rfl
@[simp] theorem deleteGlobalRef_ring (d : IocbData) : (s.deleteGlobalRef d).ring = s.ring := rfl
@[simp] theorem deleteGlobalRef_inflight (d : IocbData) :
    (s.deleteGlobalRef d).inflight = s.inflight := rfl
@[simp] theorem deleteGlobalRef_address (d : IocbData) :
    (s.deleteGlobalRef d).address = s.address := rfl
@[simp] theorem newGlobalRef_control (o : Option Nat) : (s.newGlobalRef o).1.control = s.control := by
  cases o <;> rfl
@[simp] theorem newGlobalRef_ring (o : Option Nat) : (s.newGlobalRef o).1.ring = s.ring := by
  cases o <;> rfl
@[simp] theorem newGlobalRef_inflight (o : Option Nat) :
    (s.newGlobalRef o).1.inflight = s.inflight := by
  cases o <;> rfl
@[simp] theorem newGlobalRef_address (o : Option Nat) :
    (s.newGlobalRef o).1.address = s.address := by
  cases o <;> rfl

end Process

/-! ## Harvesting -/

theorem ringRead_syscall {r : AioRing IoEvent} (hh : r.head < r.nr) {minNr max : Int}
    {answer : IoGeteventsAnswer} (hadm : answer.Admissible r minNr max) :
    ∃ result k, k ≤ r.pending ∧ result.toNat = k ∧
      (match answer with
        | .error code => some (code, [], r)
        | .read k => some ((k : Int), (r.kernelRead k).1, (r.kernelRead k).2)) =
        some (result, (r.kernelRead k).1, (r.kernelRead k).2) := by
  cases answer with
  | error code =>
    refine ⟨code, 0, Nat.zero_le _, ?_, by simp [AioRing.kernelRead_zero hh]⟩
    simp only [IoGeteventsAnswer.Admissible] at hadm
    omega
  | read k => exact ⟨k, k, hadm.1, by simp, rfl⟩

/-- The read of `artemis_io_getevents`, for a Java `int` `max` and any answer the kernel may give,
is the kernel's read of some `k ≤ pending` events, and the result counts them. -/
theorem ringRead_spec {r : AioRing IoEvent} (hi : RingInv r) {minNr max : Int}
    (hmax : -2 ^ 31 ≤ max) {answer : IoGeteventsAnswer} (hadm : answer.Admissible r minNr max) :
    ∃ result k, k ≤ r.pending ∧ result.toNat = k ∧
      ringRead r minNr max answer = some (result, (r.kernelRead k).1, (r.kernelRead k).2) := by
  have hz := AioRing.kernelRead_zero hi.head_lt
  unfold ringRead
  rcases le_or_lt 0 max with h0 | h0
  · rw [artemisIoGetevents_of_inv hi minNr h0]
    split_ifs
    · exact ⟨0, 0, Nat.zero_le _, rfl, by simp [hz]⟩
    · exact ⟨min (r.pending : Int) max, (min (r.pending : Int) max).toNat, by omega, rfl, rfl⟩
    · exact ringRead_syscall hi.head_lt hadm
  · rw [artemisIoGetevents_of_neg hi minNr hmax h0]
    split_ifs
    · exact ⟨0, 0, Nat.zero_le _, rfl, by simp [hz]⟩
    · exact ⟨max, 0, Nat.zero_le _, by omega, by simp [hz]⟩
    · exact ringRead_syscall hi.head_lt hadm

theorem getevents_spec {s s' : Process} {c : IoControl} (hc : s.control = some c)
    (hi : RingInv s.ring) {minNr max result : Int} (hmax : -2 ^ 31 ≤ max)
    {answer : IoGeteventsAnswer} (hadm : answer.Admissible s.ring minNr max)
    (h : getevents s minNr max answer = some (s', result)) :
    ∃ k, k ≤ s.ring.pending ∧ result.toNat = k ∧ k ≤ c.queueSize ∧
      s' = { s with
        ring := (s.ring.kernelRead k).2
        control := some { c with events := writeEvents c.events (s.ring.kernelRead k).1 } } := by
  obtain ⟨result', k, hk, hres, hread⟩ := ringRead_spec hi hmax hadm
  simp only [getevents, hc, hread, Option.bind_eq_bind, Option.some_bind] at h
  split at h
  · rename_i hlen
    simp only [pure, Option.some.injEq, Prod.mk.injEq] at h
    obtain ⟨rfl, rfl⟩ := h
    exact ⟨k, hk, hres, by simpa [AioRing.kernelRead] using hlen, rfl⟩
  · cases h

theorem bufferObjs_succ (b : Nat → IoEvent) {i n : Nat} (h : i < n) :
    bufferObjs b i n = (b i).obj :: bufferObjs b (i + 1) n := by
  simp only [bufferObjs, show n - i = (n - (i + 1)) + 1 by omega, List.range_succ_eq_map,
    List.map_cons, Nat.add_zero, List.map_map]
  congr 1
  exact List.map_congr_left fun j _ => by simp [Nat.add_assoc, Nat.add_comm 1 j]

theorem bufferObjs_of_le (b : Nat → IoEvent) {i n : Nat} (h : n ≤ i) : bufferObjs b i n = [] := by
  simp [bufferObjs, Nat.sub_eq_zero_of_le h]

theorem bufferObjs_writeEvents (b : Nat → IoEvent) (es : List IoEvent) :
    bufferObjs (writeEvents b es) 0 es.length = es.map IoEvent.obj := by
  apply List.ext_getElem
  · simp [bufferObjs]
  · intro n h _
    simp only [bufferObjs, List.length_map, List.length_range, Nat.sub_zero] at h
    simp [bufferObjs, writeEvents, List.getElem?_eq_getElem h]

/-! ## Entry points -/

theorem Process.setControl_self {s : Process} {c : IoControl} (hc : s.control = some c) :
    s.setControl c = s := by
  cases s; cases hc; rfl

theorem takeIOCB_eq {s : Process} {c : IoControl} (hc : s.control = some c) :
    takeIOCB s = some (s.setControl (getIOCB c).1, (getIOCB c).2) := by
  simp only [takeIOCB, hc, Option.bind_eq_bind, Option.some_bind, pure]

theorem getIOControl_of_ne {s : Process} (ha : s.address ≠ 0) :
    getIOControl s = (s, some s.address) := by
  simp only [getIOControl, ha, if_false]

/-- On a live context `submitWrite`/`submitRead` always get to their call of `submit`. -/
theorem submitPrepare_isSome {s : Process} {c : IoControl} (hc : s.control = some c)
    (ha : s.address ≠ 0) (opcode : Opcode) (fd position size : Int) (buffer : Nat)
    (callback : Option Nat) :
    (submitPrepare opcode s fd position size buffer callback).isSome := by
  simp only [submitPrepare, getIOControl_of_ne ha, takeIOCB_eq hc, Option.bind_eq_bind,
    Option.some_bind]
  split <;> rfl

/-- `submitWrite`/`submitRead` up to `submit`: on a full pool an `IOException` and nothing else;
otherwise the front free descriptor, prepared and holding a reference to the callback. -/
theorem submitPrepare_spec {opcode : Opcode} {s s' : Process} {fd position size : Int}
    {buffer : Nat} {callback : Option Nat} {iocb : Option Nat} {c : IoControl}
    (hc : s.control = some c) (ha : s.address ≠ 0)
    (h : submitPrepare opcode s fd position size buffer callback = some (s', iocb)) :
    (¬ c.used < c.queueSize ∧ iocb = none ∧ s' = s.throw (.io "Not enough space in libaio queue")) ∨
    (c.used < c.queueSize ∧ iocb = some (c.iocb c.iocbGet) ∧
      s' = (((s.setControl (getIOCB c).1).setIocb (c.iocb c.iocbGet)
          (ioPrep opcode fd buffer (toSizeT size) position)).newGlobalRef callback).1.setIocb
        (c.iocb c.iocbGet)
        { ioPrep opcode fd buffer (toSizeT size) position with
          data := (((s.setControl (getIOCB c).1).setIocb (c.iocb c.iocbGet)
            (ioPrep opcode fd buffer (toSizeT size) position)).newGlobalRef callback).2 }) := by
  simp only [submitPrepare, getIOControl_of_ne ha, takeIOCB_eq hc, Option.bind_eq_bind,
    Option.some_bind] at h
  by_cases hlt : c.used < c.queueSize
  · simp only [getIOCB_of_lt hlt, pure, Option.some.injEq, Prod.mk.injEq] at h
    obtain ⟨rfl, rfl⟩ := h
    refine .inr ⟨hlt, rfl, ?_⟩
    cases callback <;> simp [Process.newGlobalRef, Process.setIocb]
  · simp only [getIOCB_of_full hlt, Process.setControl_self hc, pure, Option.some.injEq,
      Prod.mk.injEq] at h
    exact .inl ⟨hlt, h.2.symm, h.1.symm⟩

/-- The handle's reference `submit` releases when the kernel refuses the request. -/
def Process.releaseData (s : Process) (iocb : Nat) : Process :=
  if (s.heap iocb).data ≠ .null ∧ (s.heap iocb).data ≠ .marker then
    s.deleteGlobalRef (s.heap iocb).data else s

@[simp] theorem Process.releaseData_control (s : Process) (iocb : Nat) :
    (s.releaseData iocb).control = s.control := by
  unfold Process.releaseData; split <;> rfl

@[simp] theorem Process.releaseData_ring (s : Process) (iocb : Nat) :
    (s.releaseData iocb).ring = s.ring := by
  unfold Process.releaseData; split <;> rfl

@[simp] theorem Process.releaseData_inflight (s : Process) (iocb : Nat) :
    (s.releaseData iocb).inflight = s.inflight := by
  unfold Process.releaseData; split <;> rfl

@[simp] theorem Process.releaseData_address (s : Process) (iocb : Nat) :
    (s.releaseData iocb).address = s.address := by
  unfold Process.releaseData; split <;> rfl

/-- `submit`: a refused request has its reference released, its descriptor put back and an
`IOException` raised; an accepted one is queued in the kernel. -/
theorem submit_spec {s s' : Process} {c : IoControl} (hc : s.control = some c) {iocb : Nat}
    {result : Int} {ok : Bool} (h : submit s iocb result = some (s', ok)) :
    (result < 0 ∧ ok = false ∧
      s' = ((s.releaseData iocb).setControl (putIOCB c iocb)).throw
        (.ioErrno "Error while submitting IO: " (-result))) ∨
    (0 ≤ result ∧ ok = true ∧ s' = { s with inflight := iocb :: s.inflight }) := by
  unfold submit ioSubmit at h
  by_cases hr : result < 0
  · simp only [hr, if_true, Option.bind_eq_bind] at h
    rw [show (if (s.heap iocb).data ≠ .null ∧ (s.heap iocb).data ≠ .marker then
        s.deleteGlobalRef (s.heap iocb).data else s) = s.releaseData iocb from rfl] at h
    simp only [Process.releaseData_control, hc, Option.some_bind, pure, Option.some.injEq,
      Prod.mk.injEq] at h
    exact .inl ⟨hr, h.2.symm, h.1.symm⟩
  · simp only [hr, if_false, pure, Option.some.injEq, Prod.mk.injEq] at h
    exact .inr ⟨by omega, h.2.symm, h.1.symm⟩

/-- What a round of `poll`'s loop hands to the JVM for `data`: `onError` for a negative
`result`, then the handle stored at `callbacks[index]` and its reference deleted; nothing for
`NULL` or the marker. -/
def pollDispatch (index : Nat) (result : Int) (data : IocbData) : List Effect :=
  if data ≠ .null ∧ data ≠ .marker then
    (if result < 0 then [.onError data (-result)] else []) ++
      [.setCallback index data, .deleteGlobalRef data]
  else []

/-- A round of `poll`'s loop: the dispatch of the event's handle and its descriptor put back. -/
theorem pollEvent_eq {s : Process} {c : IoControl} (hc : s.control = some c) (i : Nat) :
    pollEvent s i = some { s with
      control := some (putIOCB c (c.events i).obj)
      refs := (s.deleteGlobalRef (s.heap (c.events i).obj).data).refs
      log := s.log ++ pollDispatch i (eventResult (c.events i)) (s.heap (c.events i).obj).data } := by
  simp only [pollEvent, pollDispatch, hc, Option.bind_eq_bind, Option.some_bind]
  cases (s.heap (c.events i).obj).data with
  | null | marker => simp [Process.deleteGlobalRef, Process.setControl]
  | ref r =>
    by_cases hr : eventResult (c.events i) < 0 <;>
      simp [hr, Process.emit, Process.deleteGlobalRef, Process.setControl]

/-- A round of `poll`'s loop puts the event's descriptor back and touches neither the kernel
nor the context buffer. -/
theorem pollEvent_frame {s s' : Process} {c : IoControl} (hc : s.control = some c) {i : Nat}
    (h : pollEvent s i = some s') :
    s'.control = some (putIOCB c (c.events i).obj) ∧ s'.ring = s.ring ∧
      s'.inflight = s.inflight ∧ s'.address = s.address := by
  rw [pollEvent_eq hc] at h
  cases h
  exact ⟨rfl, rfl, rfl, rfl⟩

/-- A round of `blockedPoll`'s loop puts the event's descriptor back and touches neither the
kernel nor the context buffer. -/
theorem blockedPollEvent_frame {s s' : Process} {c : IoControl} (hc : s.control = some c)
    {useFdatasync : Bool} {lastFile lastFile' : Int} {i : Nat} {running : Bool}
    (h : blockedPollEvent s useFdatasync lastFile i = some (s', lastFile', running)) :
    s'.control = some (putIOCB c (c.events i).obj) ∧ s'.ring = s.ring ∧
      s'.inflight = s.inflight ∧ s'.address = s.address := by
  simp only [blockedPollEvent, hc, Option.bind_eq_bind, Option.some_bind] at h
  split_ifs at h <;> simp only [pure, Option.some.injEq, Prod.mk.injEq] at h <;>
    obtain ⟨rfl, -, -⟩ := h <;> simp

theorem submit_isSome {s : Process} {c : IoControl} (hc : s.control = some c) (iocb : Nat)
    (result : Int) : (submit s iocb result).isSome := by
  unfold submit ioSubmit
  split_ifs <;> simp [hc, Process.releaseData_control, apply_ite Process.control]

theorem deleteContextPrepare_isSome {s : Process} {c : IoControl} (hc : s.control = some c)
    (ha : s.address ≠ 0) : (deleteContextPrepare s).isSome := by
  simp only [deleteContextPrepare, getIOControl_of_ne ha, takeIOCB_eq hc, Option.bind_eq_bind,
    Option.some_bind]
  split <;> rfl

/-- `deleteContext` up to `submit`: on a full pool an `IOException` and nothing else; otherwise
the front free descriptor, prepared as the sentinel. -/
theorem deleteContextPrepare_spec {s s' : Process} {iocb : Option Nat} {c : IoControl}
    (hc : s.control = some c) (ha : s.address ≠ 0) (h : deleteContextPrepare s = some (s', iocb)) :
    (¬ c.used < c.queueSize ∧ iocb = none ∧ s' = s.throw (.io "Not enough space in libaio queue")) ∨
    (c.used < c.queueSize ∧ iocb = some (c.iocb c.iocbGet) ∧
      s' = (s.setControl (getIOCB c).1).setIocb (c.iocb c.iocbGet)
        { ioPrep .pwrite s.dumbWriteHandler 0 0 0 with data := .marker }) := by
  simp only [deleteContextPrepare, getIOControl_of_ne ha, takeIOCB_eq hc, Option.bind_eq_bind,
    Option.some_bind] at h
  by_cases hlt : c.used < c.queueSize
  · simp only [getIOCB_of_lt hlt, pure, Option.some.injEq, Prod.mk.injEq] at h
    obtain ⟨rfl, rfl⟩ := h
    refine .inr ⟨hlt, rfl, ?_⟩
    simp [Process.setIocb, Process.setControl]
  · simp only [getIOCB_of_full hlt, Process.setControl_self hc, pure, Option.some.injEq,
      Prod.mk.injEq] at h
    exact .inl ⟨hlt, h.2.symm, h.1.symm⟩

/-! ## Process-wide calls and the end of `deleteContext` -/

@[simp] theorem closeFd_control (s : Process) (fd : Int) : (closeFd s fd).1.control = s.control := by
  unfold closeFd; split <;> rfl
@[simp] theorem closeFd_ring (s : Process) (fd : Int) : (closeFd s fd).1.ring = s.ring := by
  unfold closeFd; split <;> rfl
@[simp] theorem closeFd_inflight (s : Process) (fd : Int) :
    (closeFd s fd).1.inflight = s.inflight := by
  unfold closeFd; split <;> rfl
@[simp] theorem closeFd_address (s : Process) (fd : Int) :
    (closeFd s fd).1.address = s.address := by
  unfold closeFd; split <;> rfl
@[simp] theorem shutdownHook_control (s : Process) : (shutdownHook s).control = s.control := by
  unfold shutdownHook closeDumbHandlers; split <;> simp
@[simp] theorem shutdownHook_ring (s : Process) : (shutdownHook s).ring = s.ring := by
  unfold shutdownHook closeDumbHandlers; split <;> simp
@[simp] theorem shutdownHook_inflight (s : Process) : (shutdownHook s).inflight = s.inflight := by
  unfold shutdownHook closeDumbHandlers; split <;> simp
@[simp] theorem shutdownHook_address (s : Process) : (shutdownHook s).address = s.address := by
  unfold shutdownHook closeDumbHandlers; split <;> simp
@[simp] theorem openFile_control (s : Process) : (openFile s).1.control = s.control := rfl
@[simp] theorem openFile_ring (s : Process) : (openFile s).1.ring = s.ring := rfl
@[simp] theorem openFile_inflight (s : Process) : (openFile s).1.inflight = s.inflight := rfl
@[simp] theorem openFile_address (s : Process) : (openFile s).1.address = s.address := rfl

/-- Whatever the kernel answers, `getevents` writes only the ring and the events buffer. -/
theorem getevents_frame {s s' : Process} {minNr max result : Int} {answer : IoGeteventsAnswer}
    (h : getevents s minNr max answer = some (s', result)) :
    ∃ c ring events, s.control = some c ∧
      s' = { s with ring := ring, control := some { c with events := events } } := by
  simp only [getevents, Option.bind_eq_bind, Option.bind_eq_some] at h
  obtain ⟨c, hc, ⟨_, _, ring⟩, _, h⟩ := h
  split at h
  · simp only [pure, Option.some.injEq, Prod.mk.injEq] at h
    exact ⟨c, ring, _, hc, h.1.symm⟩
  · cases h

theorem getevents_address {s s' : Process} {minNr max result : Int} {answer : IoGeteventsAnswer}
    (h : getevents s minNr max answer = some (s', result)) : s'.address = s.address := by
  obtain ⟨_, _, _, _, rfl⟩ := getevents_frame h
  rfl

theorem drainLoop_address {i n : Nat} : ∀ {s s' : Process}, drainLoop s i n = some s' →
    s'.address = s.address := by
  induction n generalizing i with
  | zero => intro s s' h; cases h; rfl
  | succ n ih =>
    intro s s' h
    simp only [drainLoop, Option.bind_eq_bind, Option.bind_eq_some] at h
    obtain ⟨c, -, h⟩ := h
    exact (ih h).trans rfl

@[simp] theorem iocbDestroy_address (s : Process) (c : IoControl) :
    (iocbDestroy s c).address = s.address := rfl

/-- After `deleteContext` the control block is freed and the kernel queue released; nothing
clears the context buffer's address. -/
theorem deleteContextFinish_freed {s s' : Process} {answer : IoGeteventsAnswer}
    (h : deleteContextFinish s answer = some s') :
    s'.control = none ∧ s'.inflight = [] ∧ s'.address = s.address := by
  simp only [deleteContextFinish, Option.bind_eq_bind, Option.bind_eq_some] at h
  obtain ⟨⟨s₁, _⟩, h₁, s₂, h₂, _, _, h⟩ := h
  simp only [pure, Option.some.injEq] at h
  subst h
  refine ⟨rfl, rfl, ?_⟩
  simp only [Process.emit_address, Process.deleteGlobalRef_address, iocbDestroy_address]
  exact (drainLoop_address h₂).trans (getevents_address h₁)

/-! ## The final drain on a concrete run

`deleteContext` drains with `artemis_io_getevents(ctx, 0, 1, ...)`, puts back what the drain
returned and frees `iocb[0..queueSize)`. With two completed writes waiting, the drain returns one
of them, `putIOCB` writes it over the slot of the other, and `iocb_destroy` frees one descriptor
twice and the other never. -/

/-- Two writes to file `4` on descriptors `100` and `101`, the kernel completing the second first,
and `deleteContext` with its sentinel on `102` accepted and waiting for `pollLock`. -/
def teardownRun : List Action :=
  [.openFile,
    .prepare .pwrite 4 0 512 0 (some 1), .submit 100 1,
    .prepare .pwrite 4 512 512 0 (some 2), .submit 101 1,
    .complete 101 512, .complete 100 512,
    .deletePrepare, .deleteSubmit 1]

/-- The state `teardownRun` reaches: both writes completed, only the sentinel in flight. -/
def teardownContext : System := (threeContext.run false teardownRun).getD threeContext

/-- `teardownContext` after `deleteContext`'s drain of at most one event and the frees. -/
def teardownFreed : System :=
  (teardownContext.exec false (.deleteFinish (.read 0))).getD teardownContext

/-- Every write has completed when `deleteContext` drains, yet `iocb_destroy` frees descriptor
`101` twice and `100` never: the drain put back only `101`, into the slot `100` held. -/
theorem deleteContext_frees_twice :
    Reachable false threeDescs teardownContext ∧ teardownContext.proc.inflight = [102] ∧
      teardownContext.deleter = .waiting ∧ Step false teardownContext teardownFreed ∧
      teardownFreed.proc.log.count (.freeIocb 101) = 2 ∧ .freeIocb 100 ∉ teardownFreed.proc.log :=
  ⟨System.run_reachable (.init _ threeContext_initial)
      (show threeContext.run false teardownRun = some teardownContext from rfl),
    by decide, rfl,
    System.exec_step
      (show teardownContext.exec false (.deleteFinish (.read 0)) = some teardownFreed from rfl),
    by decide, by decide⟩

end Jlibaio
