import Jlibaio.System

set_option autoImplicit false

/-! # `newContext` and its failure paths

`newContext(thisObject, queueSize)` allocates the `io_control` block, creates the kernel queue
with `io_queue_init`, allocates the `iocb` array and then each of its `queueSize` descriptors,
initializes the two mutexes, allocates `events`, takes a global reference to `thisObject` and
returns a direct buffer over the block. Each step can fail; what the allocator, the kernel and the
JVM answer is an argument (`NewContextAnswers`), so the theorems hold for every answer.

Every failure up to `events` gives back what the call took (`newContext_rollback`): the frees
match the allocations one for one, with `iocb_destroy_bounded` freeing exactly the descriptors
the loop allocated. The one extra release is `io_queue_release` after a failed `io_queue_init`.
When `NewDirectByteBuffer` fails nothing is given back (`newContext_leaks`): the block, the queue,
the array, every descriptor, `events` and the reference to `thisObject` stay taken. A successful
call leaves the pool `Jlibaio.System` starts from (`newContext_fresh`). -/

namespace Jlibaio

/-! ## What the call takes -/

/-- What `newContext` acquires and must give back on failure. -/
inductive Resource where
  | control
  | queue
  | iocbArray
  | iocb (p : Nat)
  | events
  | globalRef (r : Nat)
  deriving DecidableEq, Repr

/-- The resource an effect acquires. -/
def Effect.acquired : Effect → Option Resource
  | .mallocControl => some .control
  | .ioQueueInit => some .queue
  | .mallocIocbArray => some .iocbArray
  | .mallocIocb p => some (.iocb p)
  | .mallocEvents => some .events
  | .newGlobalRef r => some (.globalRef r)
  | _ => none

/-- The resource an effect gives back. -/
def Effect.released : Effect → Option Resource
  | .freeControl => some .control
  | .ioQueueRelease => some .queue
  | .freeIocbArray => some .iocbArray
  | .freeIocb p => some (.iocb p)
  | .freeEvents => some .events
  | .deleteGlobalRef (.ref r) => some (.globalRef r)
  | _ => none

/-! ## The model -/

/-- What the allocator, the kernel and the JVM answer to `newContext`'s calls: the address
`malloc` returns for the block and for the `i`-th descriptor (`none` for `NULL`), whether the
array and `events` are allocated, the results of `io_queue_init` and of the two
`pthread_mutex_init`, the context `io_queue_init` writes, and whether `NewDirectByteBuffer`
returns a buffer. -/
structure NewContextAnswers where
  control : Option Nat
  ioQueueInit : Int
  ioContext : Nat
  iocbArray : Bool
  iocb : Nat → Option Nat
  iocbLock : Int
  pollLock : Int
  events : Bool
  directBuffer : Bool

/-- `theControl` while `newContext` fills it: `ioContext`, the `iocb` array and `queueSize`. The
fields it has not written yet read as `0`; no path reads them before they are written. -/
def IoControl.building (ioContext : Nat) (iocb : Nat → Nat) (queueSize : Nat) : IoControl :=
  { ioContext, events := fun _ => ⟨0, 0⟩, thisObject := 0, iocb, queueSize, iocbPut := 0,
    iocbGet := 0, used := 0 }

/-- The loop `theControl->iocb[i] = malloc(sizeof(struct iocb))` from index `i`, `n` rounds: the
array as it ends, and the index whose `malloc` returned `NULL`, if one did. -/
def allocIocbs (answer : Nat → Option Nat) (s : Process) (iocb : Nat → Nat) (i : Nat) :
    Nat → Process × (Nat → Nat) × Option Nat
  | 0 => (s, iocb, none)
  | n + 1 =>
    match answer i with
    | none => (s, Function.update iocb i 0, some i)
    | some p => allocIocbs answer (s.emit (.mallocIocb p)) (Function.update iocb i p) (i + 1) n

/-- The end of every failure after `io_queue_init`: `io_queue_release`, `free(theControl)`, the
exception, and `NULL`. -/
def newContextFail (s : Process) (e : Exception) : Process × Option Nat :=
  (((s.emit .ioQueueRelease).emit .freeControl).throw e, none)

/-- `Java_..._newContext(env, thisObject, queueSize)`: the direct buffer's address, or `NULL`.
`NewDirectByteBuffer` fails with the JVM's `OutOfMemoryError` pending. -/
def newContext (s : Process) (a : NewContextAnswers) (queueSize : Int) : Process × Option Nat :=
  match a.control with
  | none => (s.throw .outOfMemory, none)
  | some control =>
    let s := s.emit .mallocControl
    if a.ioQueueInit ≠ 0 then
      newContextFail s (.runtimeErrno "Cannot initialize queue:" a.ioQueueInit)
    else
      let s := s.emit .ioQueueInit
      if !a.iocbArray then newContextFail s .outOfMemory
      else
        let s := s.emit .mallocIocbArray
        match allocIocbs a.iocb s (fun _ => 0) 0 queueSize.toNat with
        | (s, iocb, some i) =>
          newContextFail (iocbDestroyBounded s (IoControl.building a.ioContext iocb 0) i)
            .outOfMemory
        | (s, iocb, none) =>
          let c := IoControl.building a.ioContext iocb queueSize.toNat
          if a.iocbLock ≠ 0 then
            newContextFail (iocbDestroy s c) (.runtimeErrno "Can't initialize mutext:" a.iocbLock)
          else if a.pollLock ≠ 0 then
            newContextFail (iocbDestroy s c) (.runtimeErrno "Can't initialize mutext:" a.pollLock)
          else if !a.events then
            newContextFail (iocbDestroy s c) (.runtimeErrno
              "Can't initialize mutext (not enough memory for the events member): " a.pollLock)
          else
            let s := s.emit .mallocEvents
            let thisObject := s.nextRef
            let s := (s.newGlobalRef (some 0)).1
            if a.directBuffer then
              ({ s with address := control, control := some { c with thisObject } }, some control)
            else (s.throw .outOfMemory, none)

/-! ## The descriptor loop -/

/-- The loop allocates from index `i` on: `k` rounds succeed, each logging the address it
stored, and it stops at the first `NULL` or after `n` rounds. -/
theorem allocIocbs_eq (answer : Nat → Option Nat) (s : Process) (iocb : Nat → Nat) (i n : Nat) :
    ∃ k iocb', k ≤ n ∧ allocIocbs answer s iocb i n =
        ({ s with log := s.log ++ (List.range' i k).map fun j => .mallocIocb (iocb' j) }, iocb',
          if k = n then none else some (i + k)) ∧
      (∀ j < i, iocb' j = iocb j) ∧ (∀ j < k, answer (i + j) = some (iocb' (i + j))) ∧
      (k < n → answer (i + k) = none) := by
  induction n generalizing s iocb i with
  | zero => exact ⟨0, iocb, le_rfl, by simp [allocIocbs], fun _ _ => rfl, by simp, by simp⟩
  | succ n ih =>
    cases ha : answer i with
    | none =>
      refine ⟨0, Function.update iocb i 0, by omega, by simp [allocIocbs, ha], fun j hj => ?_,
        by simp, by simpa using ha⟩
      exact Function.update_noteq (by omega) _ _
    | some p =>
      obtain ⟨k, iocb', hk, heq, hframe, hans, hstop⟩ :=
        ih (s.emit (.mallocIocb p)) (Function.update iocb i p) (i + 1)
      have hi : iocb' i = p := by simpa using hframe i (by omega)
      refine ⟨k + 1, iocb', by omega, ?_, fun j hj => ?_, fun j hj => ?_, fun hlt => ?_⟩
      · rw [show allocIocbs answer s iocb i (n + 1) = allocIocbs answer (s.emit (.mallocIocb p))
          (Function.update iocb i p) (i + 1) n by simp only [allocIocbs, ha], heq]
        simp only [Process.emit, List.range'_succ, List.map_cons, hi, List.append_assoc,
          List.singleton_append, Nat.add_right_cancel_iff, Nat.add_right_comm i 1 k, Nat.add_assoc]
      · rw [hframe j (by omega)]
        exact Function.update_noteq (by omega) _ _
      · rcases j with _ | j
        · simpa [hi] using ha
        · simpa [Nat.add_assoc, Nat.add_comm 1 j] using hans j (by omega)
      · simpa [Nat.add_assoc, Nat.add_comm 1 k] using hstop (by omega)


/-! ## Failures give back what they took -/

/-- A failure after the loop allocated the descriptors `ms` frees them, the array, the queue and
the block: one release for each allocation. -/
theorem rollback_perm (ms : List Nat) :
    (([.mallocControl, .ioQueueInit, .mallocIocbArray] ++ ms.map Effect.mallocIocb ++
        ms.map Effect.freeIocb ++ [.freeIocbArray, .ioQueueRelease, .freeControl] :
        List Effect).filterMap Effect.released).Perm
      (([.mallocControl, .ioQueueInit, .mallocIocbArray] ++ ms.map Effect.mallocIocb ++
        ms.map Effect.freeIocb ++ [.freeIocbArray, .ioQueueRelease, .freeControl] :
        List Effect).filterMap Effect.acquired) := by
  have hnone : ms.filterMap (fun _ => (none : Option Resource)) = [] :=
    List.filterMap_eq_nil_iff.2 fun _ _ => rfl
  simp [List.filterMap_map, Function.comp_def, Effect.released, Effect.acquired, hnone]
  exact List.perm_append_comm.trans (List.Perm.append_right _
    (by decide : [Resource.iocbArray, .queue, .control].Perm [.control, .queue, .iocbArray]))

/-- A failure past the loop, which allocated `k` descriptors: the log gains the allocations, the
frees of `iocb_destroy_bounded`, `io_queue_release`, `free(theControl)` and the exception. -/
theorem newContextFail_destroyBounded (s : Process) (iocb : Nat → Nat) (ctx n k : Nat)
    (e : Exception) :
    (newContextFail (iocbDestroyBounded
        { ((s.emit .mallocControl).emit .ioQueueInit).emit .mallocIocbArray with
          log := (((s.emit .mallocControl).emit .ioQueueInit).emit .mallocIocbArray).log ++
            (List.range' 0 k).map fun j => .mallocIocb (iocb j) }
        (IoControl.building ctx iocb n) k) e).1 =
      { s with log := s.log ++ ([.mallocControl, .ioQueueInit, .mallocIocbArray] ++
          ((List.range k).map iocb).map Effect.mallocIocb ++
          ((List.range k).map iocb).map Effect.freeIocb ++
          [.freeIocbArray, .ioQueueRelease, .freeControl]) ++ [.throw e] } := by
  simp [newContextFail, iocbDestroyBounded, iocbDestroyMembers, IoControl.building, Process.throw,
    Process.emit, List.range_eq_range', Function.comp_def]

/-- Every failure of `newContext` before `NewDirectByteBuffer` leaves the process as it was but for
its log: what the call took, a release for each, and the exception. The one release of something
not taken is `io_queue_release` after a failed `io_queue_init`. -/
theorem newContext_rollback (s : Process) (a : NewContextAnswers) (queueSize : Int)
    (hbuf : a.directBuffer = true) (hfail : (newContext s a queueSize).2 = none) :
    ∃ es e, (newContext s a queueSize).1 = { s with log := s.log ++ es ++ [.throw e] } ∧
      (es.filterMap Effect.released).Perm (es.filterMap Effect.acquired ++
        if a.control.isSome ∧ a.ioQueueInit ≠ 0 then [.queue] else []) := by
  unfold newContext at hfail ⊢
  cases hc : a.control with
  | none => exact ⟨[], .outOfMemory, by simp [Process.throw, Process.emit], by simp⟩
  | some control =>
  simp only [hc] at hfail ⊢
  by_cases hinit : a.ioQueueInit = 0
  swap
  · refine ⟨[.mallocControl, .ioQueueRelease, .freeControl],
      .runtimeErrno "Cannot initialize queue:" a.ioQueueInit, ?_, ?_⟩
    · simp [hinit, newContextFail, Process.throw, Process.emit]
    · simpa [hinit, Effect.released, Effect.acquired] using List.Perm.swap _ _ []
  simp only [hinit, ne_eq, not_true_eq_false, and_false, if_false, List.append_nil] at hfail ⊢
  cases harr : a.iocbArray
  · refine ⟨[.mallocControl, .ioQueueInit, .ioQueueRelease, .freeControl], .outOfMemory, ?_, ?_⟩
    · simp [newContextFail, Process.throw, Process.emit]
    · simpa [Effect.released, Effect.acquired] using List.Perm.swap _ _ []
  simp only [harr, Bool.not_true, Bool.false_eq_true, if_false] at hfail ⊢
  obtain ⟨k, iocb', hk, hloop, -, -, -⟩ := allocIocbs_eq a.iocb
    (((s.emit .mallocControl).emit .ioQueueInit).emit .mallocIocbArray) (fun _ => 0) 0
    queueSize.toNat
  rw [hloop] at hfail ⊢
  -- every failure past `io_queue_init` is `iocb_destroy_bounded` over the descriptors taken
  by_cases hkn : k = queueSize.toNat
  swap
  · simp only [hkn, if_false, Nat.zero_add]
    exact ⟨_, _, newContextFail_destroyBounded s iocb' a.ioContext 0 k _, rollback_perm _⟩
  subst hkn
  simp only [if_true, iocbDestroy] at hfail ⊢
  by_cases hlock : a.iocbLock = 0
  · by_cases hpoll : a.pollLock = 0
    · cases hev : a.events
      · simp only [hlock, hpoll, hev, not_true_eq_false, if_false, Bool.not_false, if_true]
        exact ⟨_, _, newContextFail_destroyBounded s iocb' a.ioContext _ _ _, rollback_perm _⟩
      · simp [hlock, hpoll, hev, hbuf] at hfail
    · simp only [hlock, hpoll, not_true_eq_false, not_false_eq_true, if_false, if_true]
      exact ⟨_, _, newContextFail_destroyBounded s iocb' a.ioContext _ _ _, rollback_perm _⟩
  · simp only [hlock, not_false_eq_true, if_true]
    exact ⟨_, _, newContextFail_destroyBounded s iocb' a.ioContext _ _ _, rollback_perm _⟩

/-- A `newContext(thisObject, 3)` whose second descriptor allocation returns `NULL`. -/
def descriptorFailAnswers : NewContextAnswers :=
  { control := some 1, ioQueueInit := 0, ioContext := 7, iocbArray := true,
    iocb := fun j => if j = 0 then some 100 else none, iocbLock := 0, pollLock := 0,
    events := true, directBuffer := true }

theorem newContext_rollback_descriptorFail :
    ∃ es e, (newContext threeContext.proc descriptorFailAnswers 3).1 =
        { threeContext.proc with log := threeContext.proc.log ++ es ++ [.throw e] } ∧
      (es.filterMap Effect.released).Perm (es.filterMap Effect.acquired ++
        if descriptorFailAnswers.control.isSome ∧ descriptorFailAnswers.ioQueueInit ≠ 0 then
          [.queue] else []) :=
  newContext_rollback threeContext.proc descriptorFailAnswers 3 rfl rfl

/-- When `NewDirectByteBuffer` fails, `newContext` returns `NULL` having given nothing back: the
block, the queue, the array, each descriptor, `events` and the reference to `thisObject` stay
taken. -/
theorem newContext_leaks (s : Process) (a : NewContextAnswers) (queueSize : Int) {control : Nat}
    (hc : a.control = some control) (hinit : a.ioQueueInit = 0) (harr : a.iocbArray = true)
    (hiocb : ∀ j < queueSize.toNat, (a.iocb j).isSome) (hlock : a.iocbLock = 0)
    (hpoll : a.pollLock = 0) (hev : a.events = true) (hbuf : a.directBuffer = false) :
    (newContext s a queueSize).2 = none ∧
      ∃ es, (newContext s a queueSize).1.log = s.log ++ es ∧
        es.filterMap Effect.released = [] ∧
        es.filterMap Effect.acquired = [.control, .queue, .iocbArray] ++
          (List.range queueSize.toNat).map (fun j => .iocb ((a.iocb j).getD 0)) ++
          [.events, .globalRef s.nextRef] ∧
        s.nextRef ∈ (newContext s a queueSize).1.refs := by
  obtain ⟨k, iocb', hk, hloop, -, hans, hstop⟩ := allocIocbs_eq a.iocb
    (((s.emit .mallocControl).emit .ioQueueInit).emit .mallocIocbArray) (fun _ => 0) 0
    queueSize.toNat
  have hkn : k = queueSize.toNat := by
    by_contra hne
    have hnone := hstop (by omega)
    rw [Nat.zero_add] at hnone
    simpa [hnone] using hiocb k (by omega)
  subst hkn
  have haddr : (List.range queueSize.toNat).map (fun j => Resource.iocb ((a.iocb j).getD 0)) =
      (List.range queueSize.toNat).map fun j => .iocb (iocb' j) :=
    List.map_congr_left fun j hj => by simp [by simpa using hans j (List.mem_range.1 hj)]
  simp only [newContext, hc, hinit, harr, hlock, hpoll, hev, hbuf, hloop, ne_eq, not_true_eq_false,
    Bool.not_true, Bool.false_eq_true, if_true, if_false]
  refine ⟨trivial, [.mallocControl, .ioQueueInit, .mallocIocbArray] ++
    (List.range queueSize.toNat).map (fun j => .mallocIocb (iocb' j)) ++
    [.mallocEvents, .newGlobalRef s.nextRef, .throw .outOfMemory], ?_, ?_, ?_, ?_⟩
  · simp [Process.throw, Process.emit, Process.newGlobalRef, List.range_eq_range']
  · simp [Effect.released]
  · have hsome : ∀ l : List Nat, l.filterMap (fun j => some (Resource.iocb (iocb' j))) =
        l.map fun j => .iocb (iocb' j) := congrFun (List.filterMap_eq_map _)
    simp [List.filterMap_map, Function.comp_def, Effect.acquired, haddr, hsome]
  · simp [Process.throw, Process.emit, Process.newGlobalRef]

/-- A `newContext(thisObject, 2)` whose calls all succeed but `NewDirectByteBuffer`. -/
def leakAnswers : NewContextAnswers :=
  { control := some 1, ioQueueInit := 0, ioContext := 7, iocbArray := true,
    iocb := fun j => some (100 + j), iocbLock := 0, pollLock := 0, events := true,
    directBuffer := false }

theorem newContext_leaks_leakAnswers :
    (newContext threeContext.proc leakAnswers 2).2 = none ∧
      ∃ es, (newContext threeContext.proc leakAnswers 2).1.log = threeContext.proc.log ++ es ∧
        es.filterMap Effect.released = [] ∧
        es.filterMap Effect.acquired = [.control, .queue, .iocbArray] ++
          (List.range (2 : Int).toNat).map (fun j => .iocb ((leakAnswers.iocb j).getD 0)) ++
          [.events, .globalRef threeContext.proc.nextRef] ∧
        threeContext.proc.nextRef ∈ (newContext threeContext.proc leakAnswers 2).1.refs :=
  newContext_leaks threeContext.proc leakAnswers 2 rfl rfl rfl (by decide) rfl rfl rfl rfl

/-! ## A successful call -/

/-- A successful `newContext` returns the control block `malloc` gave and changes the process
only in the address field, the `io_control` block over the descriptors it allocated, the
reference to `thisObject` and the log. -/
theorem newContext_of_some {s : Process} {a : NewContextAnswers} {queueSize : Int}
    {address : Nat} (h : (newContext s a queueSize).2 = some address) :
    a.control = some address ∧ ∃ iocb es, (∀ j < queueSize.toNat, a.iocb j = some (iocb j)) ∧
      (newContext s a queueSize).1 = { s with
        address := address
        control := some { IoControl.building a.ioContext iocb queueSize.toNat with
          thisObject := s.nextRef }
        refs := s.nextRef :: s.refs
        nextRef := s.nextRef + 1
        log := s.log ++ es } := by
  unfold newContext at h ⊢
  cases hc : a.control with
  | none => simp [hc] at h
  | some control =>
  simp only [hc] at h ⊢
  have hinit : a.ioQueueInit = 0 := by
    by_contra hne
    simp [hne, newContextFail] at h
  have harr : a.iocbArray = true := by
    by_contra hne
    simp [hinit, hne, newContextFail] at h
  obtain ⟨k, iocb', -, hloop, -, hans, -⟩ := allocIocbs_eq a.iocb
    (((s.emit .mallocControl).emit .ioQueueInit).emit .mallocIocbArray) (fun _ => 0) 0
    queueSize.toNat
  simp only [hinit, harr, hloop, ne_eq, not_true_eq_false, Bool.not_true, Bool.false_eq_true,
    if_false] at h ⊢
  have hkn : k = queueSize.toNat := by
    by_contra hne
    simp [hne, newContextFail] at h
  subst hkn
  simp only [if_true] at h ⊢
  have hlock : a.iocbLock = 0 := by
    by_contra hne
    simp [hne, newContextFail] at h
  have hpoll : a.pollLock = 0 := by
    by_contra hne
    simp [hlock, hne, newContextFail] at h
  have hev : a.events = true := by
    by_contra hne
    simp [hlock, hpoll, hne, newContextFail] at h
  have hbuf : a.directBuffer = true := by
    by_contra hne
    simp [hlock, hpoll, hev, hne] at h
  simp only [hlock, hpoll, hev, hbuf, not_true_eq_false, Bool.not_true, Bool.false_eq_true,
    if_true, if_false, Option.some.injEq] at h ⊢
  subst h
  exact ⟨rfl, iocb', [.mallocControl, .ioQueueInit, .mallocIocbArray] ++
    (List.range' 0 queueSize.toNat).map (fun j => .mallocIocb (iocb' j)) ++
    [.mallocEvents, .newGlobalRef s.nextRef], fun j hj => by simpa using hans j hj,
    by simp [Process.emit, Process.newGlobalRef]⟩

/-- A successful `newContext` returns the block's address, leaves the pool fresh over the
descriptors it allocated and holds the reference to `thisObject`: the state `System.Initial`
starts from. -/
theorem newContext_fresh (s : Process) (a : NewContextAnswers) (queueSize : Int) {address : Nat}
    (h : (newContext s a queueSize).2 = some address) :
    a.control = some address ∧ (newContext s a queueSize).1.address = address ∧
      ∃ c, (newContext s a queueSize).1.control = some c ∧
        c.Fresh ((List.range queueSize.toNat).map fun j => (a.iocb j).getD 0) ∧
        c.thisObject = s.nextRef ∧ (newContext s a queueSize).1.refs = s.nextRef :: s.refs := by
  obtain ⟨hctl, iocb, es, hans, heq⟩ := newContext_of_some h
  rw [heq]
  refine ⟨hctl, rfl, _, rfl, ⟨by simp [IoControl.building], fun i hi => ?_, rfl, rfl, rfl⟩, rfl,
    rfl⟩
  simp only [List.length_map, List.length_range] at hi
  simp [IoControl.building, hans i hi]

theorem newContext_fresh_twoDescs :
    let a := { leakAnswers with directBuffer := true }
    a.control = some 1 ∧ (newContext threeContext.proc a 2).1.address = 1 ∧
      ∃ c, (newContext threeContext.proc a 2).1.control = some c ∧
        c.Fresh ((List.range (2 : Int).toNat).map fun j => (a.iocb j).getD 0) ∧
        c.thisObject = threeContext.proc.nextRef ∧
        (newContext threeContext.proc a 2).1.refs =
          threeContext.proc.nextRef :: threeContext.proc.refs :=
  newContext_fresh threeContext.proc { leakAnswers with directBuffer := true } 2 rfl


end Jlibaio
