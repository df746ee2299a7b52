import Jlibaio.Handles
import Jlibaio.NewContext
import Jlibaio.Fill

set_option autoImplicit false

/-! # The library's lifetime: `JNI_OnLoad`, the calls between, `JNI_OnUnload`

Besides one context, the library keeps process-wide state: `oneMegaMutex`, the scratch file
`dumbWriteHandler` that `deleteContext` writes to, the global references to five classes, the
method and field IDs, and the zero buffer `fill` shares. `JNI_OnLoad` takes them in a fixed
order and returns `JNI_ERR` at the first lookup that fails, giving nothing back. `JNI_OnUnload`
gives them back: it closes the scratch file (`closeDumbHandlers`), frees the zero buffer, destroys
the mutex and deletes each class reference that is not `NULL`.

What the JVM, `pthread_mutex_init` and `mkstemp` answer is an argument. The lookups after the
scratch file are one list of steps (`onLoadSteps`) in the source's order, run by one loop.

Over the library's whole lifetime, with any calls of `fill` and `shutdownHook` between,
`JNI_OnUnload` gives back each class reference and the mutex exactly once and the one block any
`fill` allocated, and closes descriptor `0` where it means the scratch file, which stays open
(`library_lifetime`). A successful `JNI_OnLoad` followed by a successful `newContext` leaves the
state every run of `Jlibaio.System` starts from (`newContext_initial`). -/

namespace Jlibaio

/-! ## The model -/

/-- `JNI_ERR` -/
def jniErr : Int := -1

/-- `JNI_VERSION_1_6` -/
def jniVersion16 : Int := 0x10006

/-- The classes the library keeps global references to: `runtimeExceptionClass`,
`ioExceptionClass`, `submitClass`, `libaioContextClass` and `nioBufferClass`. -/
inductive JClass where
  | runtimeException
  | ioException
  | submitInfo
  | libaioContext
  | nioBuffer
  deriving DecidableEq, Repr

/-- The IDs `JNI_OnLoad` looks up: `errorMethod`, `doneMethod`, `libaioContextDone` and
`nioBufferAddressFieldId`. -/
inductive JMember where
  | onError
  | done
  | libaioContextDone
  | address
  deriving DecidableEq, Repr

/-- What `JNI_OnLoad` and `JNI_OnUnload` do to process-wide resources. -/
inductive LibEffect where
  /-- `pthread_mutex_init(&oneMegaMutex, 0)` -/
  | mutexInit
  /-- `pthread_mutex_destroy(&oneMegaMutex)` -/
  | mutexDestroy
  /-- `NewGlobalRef` of a class, stored in its global -/
  | newClassRef (k : JClass)
  /-- `DeleteGlobalRef` of a class -/
  | deleteClassRef (k : JClass)
  /-- `free(oneMegaBuffer)` -/
  | freeOneMega (p : Nat)
  /-- a pending Java exception -/
  | throw (e : Exception)
  deriving DecidableEq, Repr

/-- The process-wide state: the process (its `dumbWriteHandler`, its open descriptors and the
context the other entry points work on), the state `fill` shares, whether `oneMegaMutex` is
initialised, which class globals hold a reference (`NULL` is `false`), which IDs were found, and
the log. -/
structure Library where
  proc : Process
  fill : FillState
  mutex : Bool
  classRef : JClass → Bool
  member : JMember → Bool
  log : List LibEffect

/-- What `JNI_OnLoad` is answered: `GetEnv` returns `JNI_OK`, the result of
`pthread_mutex_init`, `mkstemp` creates the file (it opens the lowest free descriptor),
`FindClass` finds a class, `NewGlobalRef` of it is not `NULL`, and `GetMethodID`/`GetFieldID`
find an ID. -/
structure OnLoadAnswers where
  getEnv : Bool
  mutexInit : Int
  mkstemp : Bool
  findClass : JClass → Bool
  newGlobalRef : JClass → Bool
  member : JMember → Bool

/-- One lookup of `JNI_OnLoad` after the scratch file. -/
inductive LoadStep where
  /-- `FindClass` and `NewGlobalRef`, both checked; a `NULL` reference raises
  `OutOfMemoryError` -/
  | checkedClass (k : JClass)
  /-- `FindClass` checked, `NewGlobalRef` not -/
  | uncheckedClass (k : JClass)
  /-- `GetMethodID`, checked -/
  | method (m : JMember)
  /-- `GetFieldID`, not checked -/
  | field (m : JMember)
  deriving DecidableEq, Repr

/-- The lookups of `JNI_OnLoad`, in the source's order. -/
def onLoadSteps : List LoadStep :=
  [.checkedClass .runtimeException, .checkedClass .ioException, .uncheckedClass .submitInfo,
    .method .onError, .method .done, .uncheckedClass .libaioContext, .method .libaioContextDone,
    .uncheckedClass .nioBuffer, .field .address]

namespace Library

/-- Record an effect. -/
def emit (L : Library) (e : LibEffect) : Library := { L with log := L.log ++ [e] }

/-- `NewGlobalRef` of class `k`, stored in its global. -/
def holdClass (L : Library) (k : JClass) : Library :=
  { L with classRef := Function.update L.classRef k true, log := L.log ++ [.newClassRef k] }

/-- An ID stored in its global, `found` or `NULL`. -/
def setMember (L : Library) (m : JMember) (found : Bool) : Library :=
  { L with member := Function.update L.member m found }

/-- `if (k != NULL) DeleteGlobalRef(env, k)`; the global keeps its value. -/
def deleteClassRef (L : Library) (k : JClass) : Library :=
  if L.classRef k then L.emit (.deleteClassRef k) else L

end Library

/-- One lookup: `false` where `JNI_OnLoad` returns `JNI_ERR`. -/
def LoadStep.run (a : OnLoadAnswers) (L : Library) : LoadStep → Library × Bool
  | .checkedClass k =>
    if !a.findClass k then (L, false)
    else if !a.newGlobalRef k then (L.emit (.throw .outOfMemory), false)
    else (L.holdClass k, true)
  | .uncheckedClass k =>
    if !a.findClass k then (L, false)
    else (if a.newGlobalRef k then L.holdClass k else L, true)
  | .method m => (L.setMember m (a.member m), a.member m)
  | .field m => (L.setMember m (a.member m), true)

/-- The lookups run in order, stopping at the first that fails. -/
def runLoadSteps (a : OnLoadAnswers) : Library → List LoadStep → Library × Bool
  | L, [] => (L, true)
  | L, st :: sts =>
    let (L, ok) := st.run a L
    if ok then runLoadSteps a L sts else (L, false)

/-- `JNI_OnLoad(vm, reserved)`: `JNI_VERSION_1_6`, or `JNI_ERR`. `dumbWriteHandler` takes what
`mkstemp` returns, `-1` included. -/
def onLoad (L : Library) (a : OnLoadAnswers) : Library × Int :=
  if !a.getEnv then (L, jniErr)
  else if a.mutexInit ≠ 0 then (L, jniErr)
  else
    let L := { L with mutex := true }.emit .mutexInit
    let fd := if a.mkstemp then lowestFreeFd L.proc.openFds else -1
    let fds := if a.mkstemp then fd :: L.proc.openFds else L.proc.openFds
    let L := { L with proc := { L.proc with dumbWriteHandler := fd, openFds := fds } }
    if fd < 0 then (L, jniErr)
    else
      let (L, ok) := runLoadSteps a L onLoadSteps
      (L, if ok then jniVersion16 else jniErr)

/-- The class globals `JNI_OnUnload` deletes, in its order. -/
def unloadClasses : List JClass :=
  [.runtimeException, .ioException, .submitInfo, .libaioContext, .nioBuffer]

/-- `JNI_OnUnload(vm, reserved)`, `getEnv` the answer of `GetEnv`. -/
def onUnload (L : Library) (getEnv : Bool) : Library :=
  if !getEnv then L
  else
    let L := { L with proc := closeDumbHandlers L.proc }
    let L := match L.fill.oneMegaBuffer with
      | some p => { L with fill := { L.fill with oneMegaBuffer := none } }.emit (.freeOneMega p)
      | none => L
    let L := { L with mutex := false }.emit .mutexDestroy
    unloadClasses.foldl Library.deleteClassRef L

/-- A call between `JNI_OnLoad` and `JNI_OnUnload` that uses the process-wide state. -/
inductive LibCall where
  | fill (c : FillCall)
  | shutdownHook

/-- One call. -/
def LibCall.run (L : Library) : LibCall → Library
  | .fill c => { L with fill := Jlibaio.fill L.fill c.fd c.alignment c.size c.memalign c.writes }
  | .shutdownHook => { L with proc := Jlibaio.shutdownHook L.proc }

/-- Calls one after the other. -/
def runLib (L : Library) (calls : List LibCall) : Library := calls.foldl LibCall.run L

namespace Library

@[simp] theorem emit_proc (L : Library) (e : LibEffect) : (L.emit e).proc = L.proc := rfl
@[simp] theorem emit_fill (L : Library) (e : LibEffect) : (L.emit e).fill = L.fill := rfl
@[simp] theorem emit_mutex (L : Library) (e : LibEffect) : (L.emit e).mutex = L.mutex := rfl
@[simp] theorem emit_classRef (L : Library) (e : LibEffect) :
    (L.emit e).classRef = L.classRef := rfl
@[simp] theorem emit_log (L : Library) (e : LibEffect) : (L.emit e).log = L.log ++ [e] := rfl

@[simp] theorem holdClass_proc (L : Library) (k : JClass) : (L.holdClass k).proc = L.proc := rfl
@[simp] theorem holdClass_fill (L : Library) (k : JClass) : (L.holdClass k).fill = L.fill := rfl
@[simp] theorem holdClass_mutex (L : Library) (k : JClass) :
    (L.holdClass k).mutex = L.mutex := rfl
@[simp] theorem holdClass_classRef (L : Library) (k : JClass) :
    (L.holdClass k).classRef = Function.update L.classRef k true := rfl
@[simp] theorem holdClass_log (L : Library) (k : JClass) :
    (L.holdClass k).log = L.log ++ [.newClassRef k] := rfl

@[simp] theorem setMember_proc (L : Library) (m : JMember) (b : Bool) :
    (L.setMember m b).proc = L.proc := rfl
@[simp] theorem setMember_fill (L : Library) (m : JMember) (b : Bool) :
    (L.setMember m b).fill = L.fill := rfl
@[simp] theorem setMember_mutex (L : Library) (m : JMember) (b : Bool) :
    (L.setMember m b).mutex = L.mutex := rfl
@[simp] theorem setMember_classRef (L : Library) (m : JMember) (b : Bool) :
    (L.setMember m b).classRef = L.classRef := rfl
@[simp] theorem setMember_log (L : Library) (m : JMember) (b : Bool) :
    (L.setMember m b).log = L.log := rfl

end Library

/-! ## `JNI_OnLoad` -/

/-- The class a lookup takes a reference to. -/
def LoadStep.jclass : LoadStep → Option JClass
  | .checkedClass k | .uncheckedClass k => some k
  | .method _ | .field _ => none

/-- Lookups that all succeed take a reference to each class whose `NewGlobalRef` is not `NULL`,
in their order, and change nothing else but the IDs. -/
theorem runLoadSteps_of_ok {a : OnLoadAnswers} {L : Library} {sts : List LoadStep}
    (h : (runLoadSteps a L sts).2 = true) :
    (runLoadSteps a L sts).1.proc = L.proc ∧ (runLoadSteps a L sts).1.fill = L.fill ∧
      (runLoadSteps a L sts).1.mutex = L.mutex ∧
      (runLoadSteps a L sts).1.classRef =
        (fun k => L.classRef k || (decide (k ∈ sts.filterMap LoadStep.jclass) && a.newGlobalRef k)) ∧
      (runLoadSteps a L sts).1.log =
        L.log ++ ((sts.filterMap LoadStep.jclass).filter a.newGlobalRef).map .newClassRef := by
  induction sts generalizing L with
  | nil => simp [runLoadSteps]
  | cons st sts ih =>
    cases st with
    | checkedClass k =>
      have hf : a.findClass k = true := by
        by_contra hne
        simp [runLoadSteps, LoadStep.run, hne] at h
      have hg : a.newGlobalRef k = true := by
        by_contra hne
        simp [runLoadSteps, LoadStep.run, hf, hne] at h
      simp only [runLoadSteps, LoadStep.run, hf, hg, Bool.not_true, Bool.false_eq_true, if_false,
        if_true] at h ⊢
      obtain ⟨h1, h2, h3, h4, h5⟩ := ih h
      refine ⟨by simpa using h1, by simpa using h2, by simpa using h3, ?_, by simp [h5, hg, LoadStep.jclass]⟩
      rw [h4]
      funext k'
      by_cases hk : k' = k <;> simp [hk, hg, LoadStep.jclass]
    | uncheckedClass k =>
      have hf : a.findClass k = true := by
        by_contra hne
        simp [runLoadSteps, LoadStep.run, hne] at h
      simp only [runLoadSteps, LoadStep.run, hf, Bool.not_true, Bool.false_eq_true, if_false,
        if_true] at h ⊢
      cases hg : a.newGlobalRef k
      · simp only [hg, Bool.false_eq_true, if_false] at h ⊢
        obtain ⟨h1, h2, h3, h4, h5⟩ := ih h
        refine ⟨h1, h2, h3, ?_, by simp [h5, hg, LoadStep.jclass]⟩
        rw [h4]
        funext k'
        by_cases hk : k' = k <;> simp [hk, hg, LoadStep.jclass]
      · simp only [hg, if_true] at h ⊢
        obtain ⟨h1, h2, h3, h4, h5⟩ := ih h
        refine ⟨by simpa using h1, by simpa using h2, by simpa using h3, ?_, by simp [h5, hg, LoadStep.jclass]⟩
        rw [h4]
        funext k'
        by_cases hk : k' = k <;> simp [hk, hg, LoadStep.jclass]
    | method m =>
      have hm : a.member m = true := by
        by_contra hne
        simp [runLoadSteps, LoadStep.run, hne] at h
      simp only [runLoadSteps, LoadStep.run, hm, if_true] at h ⊢
      simpa [LoadStep.jclass] using ih h
    | field m =>
      simp only [runLoadSteps, LoadStep.run, if_true] at h ⊢
      simpa [LoadStep.jclass] using ih h

/-- The state once `pthread_mutex_init` and `mkstemp` succeeded. -/
def Library.scratchOpened (L : Library) : Library :=
  { L with
    proc := { L.proc with
      dumbWriteHandler := lowestFreeFd L.proc.openFds
      openFds := lowestFreeFd L.proc.openFds :: L.proc.openFds }
    mutex := true
    log := L.log ++ [.mutexInit] }

/-- Past `GetEnv`, the mutex and the scratch file, `JNI_OnLoad` is its lookups. -/
theorem onLoad_eq {L : Library} {a : OnLoadAnswers} (henv : a.getEnv = true)
    (hmutex : a.mutexInit = 0) (hmk : a.mkstemp = true) :
    onLoad L a = ((runLoadSteps a L.scratchOpened onLoadSteps).1,
      if (runLoadSteps a L.scratchOpened onLoadSteps).2 then jniVersion16 else jniErr) := by
  simp only [onLoad, henv, hmutex, hmk, Bool.not_true, Bool.false_eq_true, if_false, ne_eq,
    not_true_eq_false, if_true, Library.emit_proc, not_lt.2 (lowestFreeFd_nonneg _)]
  rfl

/-- What a successful `JNI_OnLoad` leaves: the scratch file open at the lowest free descriptor,
the mutex initialised, and a reference to each class whose `NewGlobalRef` was not `NULL`, taken
in the order `JNI_OnUnload` deletes them. -/
theorem onLoad_of_ok {L : Library} {a : OnLoadAnswers} (h : (onLoad L a).2 = jniVersion16) :
    (onLoad L a).1.proc = L.scratchOpened.proc ∧ (onLoad L a).1.fill = L.fill ∧
      (onLoad L a).1.mutex = true ∧
      (onLoad L a).1.classRef = (fun k => L.classRef k || a.newGlobalRef k) ∧
      (onLoad L a).1.log =
        L.log ++ .mutexInit :: (unloadClasses.filter a.newGlobalRef).map .newClassRef := by
  have hne : jniErr ≠ jniVersion16 := by decide
  have henv : a.getEnv = true := by
    by_contra hc
    simp [onLoad, hc] at h
    exact hne h
  have hmutex : a.mutexInit = 0 := by
    by_contra hc
    simp [onLoad, henv, hc] at h
    exact hne h
  have hmk : a.mkstemp = true := by
    by_contra hc
    simp [onLoad, henv, hmutex, hc] at h
    exact hne h
  rw [onLoad_eq henv hmutex hmk] at h ⊢
  have hok : (runLoadSteps a L.scratchOpened onLoadSteps).2 = true := by
    by_contra hc
    simp [hc] at h
    exact hne h
  obtain ⟨h1, h2, h3, h4, h5⟩ := runLoadSteps_of_ok hok
  refine ⟨h1, h2, h3, ?_, ?_⟩
  · rw [h4]
    funext k
    cases k <;> rfl
  · rw [h5, show onLoadSteps.filterMap LoadStep.jclass = unloadClasses from rfl]
    simp [Library.scratchOpened]

/-! ## The calls between and `JNI_OnUnload` -/

/-- After the first `closeDumbHandlers` the handler is `0` and later calls do nothing. -/
theorem closeDumbHandlers_idem (s : Process) :
    closeDumbHandlers (closeDumbHandlers s) = closeDumbHandlers s := by
  unfold closeDumbHandlers
  by_cases h : s.dumbWriteHandler = 0
  · simp [h]
  · simp only [ne_eq, h, not_false_eq_true, if_true]
    unfold closeFd
    split <;> simp

/-- The block `verifyBuffer` would allocate for a call. -/
def LibCall.allocation : LibCall → Option Nat
  | .fill c => c.memalign c.alignment
  | .shutdownHook => none

/-- The calls between leave the mutex, the class references and the log alone; the zero buffer
is the one the library had or else the first a call allocated; and whatever `shutdownHook`
closed, a later `closeDumbHandlers` ends in the same process. -/
theorem runLib_eq (L : Library) (calls : List LibCall) :
    (runLib L calls).mutex = L.mutex ∧ (runLib L calls).classRef = L.classRef ∧
      (runLib L calls).log = L.log ∧
      (runLib L calls).fill.oneMegaBuffer =
        L.fill.oneMegaBuffer.or (calls.findSome? LibCall.allocation) ∧
      closeDumbHandlers (runLib L calls).proc = closeDumbHandlers L.proc := by
  induction calls generalizing L with
  | nil => simp [runLib]
  | cons c cs ih =>
    obtain ⟨h1, h2, h3, h4, h5⟩ := ih (c.run L)
    simp only [runLib, List.foldl_cons] at h1 h2 h3 h4 h5 ⊢
    refine ⟨by rw [h1]; cases c <;> rfl, by rw [h2]; cases c <;> rfl,
      by rw [h3]; cases c <;> rfl, ?_, ?_⟩
    · rw [h4, findSome_cons_eq_or, ← Option.or_assoc]
      cases c with
      | fill c => simp only [LibCall.run, (fill_buffer ..).1, verifyBuffer_oneMegaBuffer,
          LibCall.allocation]
      | shutdownHook => simp [LibCall.run, LibCall.allocation]
    · rw [h5]
      cases c with
      | fill c => rfl
      | shutdownHook => exact closeDumbHandlers_idem _

/-- The class references deleted: those not `NULL`, in the list's order. -/
theorem foldl_deleteClassRef (L : Library) (ks : List JClass) :
    (ks.foldl Library.deleteClassRef L).proc = L.proc ∧
      (ks.foldl Library.deleteClassRef L).fill = L.fill ∧
      (ks.foldl Library.deleteClassRef L).mutex = L.mutex ∧
      (ks.foldl Library.deleteClassRef L).log =
        L.log ++ (ks.filter L.classRef).map .deleteClassRef := by
  induction ks generalizing L with
  | nil => simp
  | cons k ks ih =>
    simp only [List.foldl_cons]
    obtain ⟨h1, h2, h3, h4⟩ := ih (L.deleteClassRef k)
    have hc : (L.deleteClassRef k).classRef = L.classRef := by
      unfold Library.deleteClassRef; split <;> rfl
    unfold Library.deleteClassRef at h1 h2 h3 h4 hc ⊢
    split <;> simp_all [List.filter_cons]

/-- `JNI_OnUnload` with `GetEnv` succeeding: the scratch file closed as `closeDumbHandlers` does,
the zero buffer freed if there is one, the mutex destroyed, and each class reference that is not
`NULL` deleted. -/
theorem onUnload_eq (L : Library) :
    (onUnload L true).proc = closeDumbHandlers L.proc ∧
      (onUnload L true).fill.oneMegaBuffer = none ∧ (onUnload L true).mutex = false ∧
      (onUnload L true).log = L.log ++ (L.fill.oneMegaBuffer.map .freeOneMega).toList ++
        .mutexDestroy :: (unloadClasses.filter L.classRef).map .deleteClassRef := by
  simp only [onUnload, Bool.not_true, Bool.false_eq_true, if_false]
  split <;>
    simp_all [(foldl_deleteClassRef _ _).1, (foldl_deleteClassRef _ _).2.1,
      (foldl_deleteClassRef _ _).2.2.1, (foldl_deleteClassRef _ _).2.2.2, Library.emit]

/-! ## The lifetime -/

/-- A process-wide resource the library takes and gives back. -/
inductive LibResource where
  | mutex
  | classRef (k : JClass)
  | oneMega (p : Nat)
  deriving DecidableEq, Repr

/-- The resource an effect takes. The zero buffer is taken inside `fill`, not logged here. -/
def LibEffect.acquired : LibEffect → Option LibResource
  | .mutexInit => some .mutex
  | .newClassRef k => some (.classRef k)
  | _ => none

/-- The resource an effect gives back. -/
def LibEffect.released : LibEffect → Option LibResource
  | .mutexDestroy => some .mutex
  | .deleteClassRef k => some (.classRef k)
  | .freeOneMega p => some (.oneMega p)
  | _ => none

/-- A process the library is not loaded into: no context yet, descriptor `0` open, the open
descriptors distinct and nonnegative, no zero buffer, no class reference and an empty log. -/
structure Library.Unloaded (L : Library) : Prop where
  stdin : 0 ∈ L.proc.openFds
  nodup : L.proc.openFds.Nodup
  fds_nonneg : ∀ fd ∈ L.proc.openFds, 0 ≤ fd
  inflight : L.proc.inflight = []
  refs : L.proc.refs = []
  buffer : L.fill.oneMegaBuffer = none
  classRef : L.classRef = fun _ => false
  log : L.log = []

/-- The library's lifetime: `JNI_OnLoad`, the calls, and `JNI_OnUnload` with `GetEnv`
succeeding. -/
def lifetime (L : Library) (a : OnLoadAnswers) (calls : List LibCall) : Library :=
  onUnload (runLib (onLoad L a).1 calls) true

/-- `closeDumbHandlers` after the scratch file was opened on top of descriptor `0`: the scratch
file stays open and descriptor `0` is closed. -/
theorem closeDumbHandlers_scratchOpened {L : Library} (h0 : 0 ∈ L.proc.openFds)
    (hnd : L.proc.openFds.Nodup) :
    lowestFreeFd L.proc.openFds ∈ (closeDumbHandlers L.scratchOpened.proc).openFds ∧
      0 ∉ (closeDumbHandlers L.scratchOpened.proc).openFds := by
  have hfree := lowestFreeFd_not_mem L.proc.openFds
  have hne : lowestFreeFd L.proc.openFds ≠ 0 := fun h => hfree (h ▸ h0)
  simp only [closeDumbHandlers, Library.scratchOpened, ne_eq, hne, not_false_eq_true, if_true,
    closeFd, List.mem_cons, h0, or_true, if_true]
  rw [List.erase_cons_tail (by simpa using hne)]
  exact ⟨List.mem_cons_self _ _, by simpa [Ne.symm hne] using hnd.not_mem_erase⟩

/-- Over the library's whole lifetime, with any calls of `fill` and `shutdownHook` between,
`JNI_OnUnload` gives back the mutex and each class reference exactly once each and the one zero
buffer the calls allocated, if any; the scratch file's descriptor is never closed, and
descriptor `0` is closed in its place. -/
theorem library_lifetime (L : Library) (a : OnLoadAnswers) (calls : List LibCall)
    (hL : L.Unloaded) (hload : (onLoad L a).2 = jniVersion16) :
    ((lifetime L a calls).log.filterMap LibEffect.released).Perm
        ((lifetime L a calls).log.filterMap LibEffect.acquired ++
          ((calls.findSome? LibCall.allocation).map LibResource.oneMega).toList) ∧
      (lifetime L a calls).fill.oneMegaBuffer = none ∧ (lifetime L a calls).mutex = false ∧
      (onLoad L a).1.proc.dumbWriteHandler ∈ (lifetime L a calls).proc.openFds ∧
      0 ∉ (lifetime L a calls).proc.openFds := by
  obtain ⟨l1, -, -, l4, l5⟩ := onLoad_of_ok hload
  obtain ⟨r1, r2, r3, r4, r5⟩ := runLib_eq (onLoad L a).1 calls
  obtain ⟨u1, u2, u3, u4⟩ := onUnload_eq (runLib (onLoad L a).1 calls)
  refine ⟨?_, u2, u3, ?_⟩
  · simp only [lifetime, u4, r2, r3, r4, l4, l5, (onLoad_of_ok hload).2.1, hL.classRef, hL.log,
      hL.buffer, Bool.false_or, Option.none_or, List.nil_append]
    have hnone (l : List JClass) : l.filterMap (fun _ => (none : Option LibResource)) = [] :=
      List.filterMap_eq_nil_iff.2 fun _ _ => rfl
    rcases calls.findSome? LibCall.allocation with _ | p <;>
      simp only [List.filterMap_append, List.filterMap_cons, List.filterMap_map, Function.comp_def,
        LibEffect.released, LibEffect.acquired, hnone, Option.map_none', Option.map_some',
        Option.toList_none, Option.toList_some, List.append_nil, List.nil_append,
        List.singleton_append, List.cons_append, List.filterMap_nil]
    · exact List.Perm.refl _
    · exact (List.perm_append_singleton (LibResource.oneMega p) (.mutex :: _)).symm
  · simpa only [lifetime, u1, r5, l1, Library.scratchOpened] using
      closeDumbHandlers_scratchOpened hL.stdin hL.nodup

/-- A process with the standard streams open, before the library loads. -/
def bootLibrary : Library where
  proc := { threeContext.proc with
    dumbWriteHandler := 0, openFds := [0, 1, 2], control := none, address := 0, refs := [],
    nextRef := 0 }
  fill := dirtyFiles
  mutex := false
  classRef := fun _ => false
  member := fun _ => false
  log := []

theorem bootLibrary_unloaded : bootLibrary.Unloaded :=
  ⟨by decide, by decide, by decide, rfl, rfl, rfl, rfl, rfl⟩

/-- A `JNI_OnLoad` all of whose calls succeed. -/
def loadAnswers : OnLoadAnswers :=
  { getEnv := true, mutexInit := 0, mkstemp := true, findClass := fun _ => true,
    newGlobalRef := fun _ => true, member := fun _ => true }

/-- A `fill` that allocates the zero buffer at `4096`, then `shutdownHook`. -/
def bootCalls : List LibCall :=
  [.fill ⟨4, 512, 4096, fun _ => some 4096, fillRequest 4096⟩, .shutdownHook]

theorem library_lifetime_boot :
    ((lifetime bootLibrary loadAnswers bootCalls).log.filterMap LibEffect.released).Perm
        ((lifetime bootLibrary loadAnswers bootCalls).log.filterMap LibEffect.acquired ++
          ((bootCalls.findSome? LibCall.allocation).map LibResource.oneMega).toList) ∧
      (lifetime bootLibrary loadAnswers bootCalls).fill.oneMegaBuffer = none ∧
      (lifetime bootLibrary loadAnswers bootCalls).mutex = false ∧
      (onLoad bootLibrary loadAnswers).1.proc.dumbWriteHandler ∈
        (lifetime bootLibrary loadAnswers bootCalls).proc.openFds ∧
      0 ∉ (lifetime bootLibrary loadAnswers bootCalls).proc.openFds :=
  library_lifetime bootLibrary loadAnswers bootCalls bootLibrary_unloaded rfl

/-! ## The start of every run -/

/-- The system when a context's calls begin: the process `newContext` left, its log counted from
here, and no thread inside a call. -/
def System.start (p : Process) : System :=
  { proc := { p with log := [] }, harvester := .idle, deleter := .idle, submitting := [],
    userFds := [], lost := [] }

/-- Every run the system model starts from is one the code starts: after `JNI_OnLoad` succeeds
in a process the library is not loaded into, a `newContext` that returns a buffer leaves
`System.Initial` over the descriptors it allocated, given a positive queue size, an allocator
that returned distinct descriptors and a non-`NULL` control block, and an empty new ring. -/
theorem newContext_initial (L : Library) (a : OnLoadAnswers) (na : NewContextAnswers)
    (queueSize : Int) {address : Nat} (hL : L.Unloaded) (hload : (onLoad L a).2 = jniVersion16)
    (hring : RingInv L.proc.ring) (hempty : L.proc.ring.pending = 0) (hq : 0 < queueSize)
    (haddr : address ≠ 0)
    (hdescs : ((List.range queueSize.toNat).map fun j => (na.iocb j).getD 0).Nodup)
    (h : (newContext (onLoad L a).1.proc na queueSize).2 = some address) :
    System.Initial ((List.range queueSize.toNat).map fun j => (na.iocb j).getD 0)
      (System.start (newContext (onLoad L a).1.proc na queueSize).1) := by
  obtain ⟨-, iocb, es, hans, heq⟩ := newContext_of_some h
  rw [heq, (onLoad_of_ok hload).1]
  have hslot : ∀ i < queueSize.toNat, (na.iocb i).getD 0 = iocb i := fun i hi => by
    simp [hans i hi]
  refine ⟨hdescs, by simp; omega, ⟨_, rfl, ⟨by simp [IoControl.building], fun i hi => ?_, rfl,
    rfl, rfl⟩⟩, haddr, List.mem_cons_self _ _, ?_, hL.inflight, hring, hempty, ?_, rfl, rfl, rfl,
    rfl, rfl, rfl⟩
  · simp only [List.length_map, List.length_range] at hi
    simp [IoControl.building, hslot i hi]
  · simp only [System.start, Library.scratchOpened, List.mem_cons]
    rintro fd (rfl | hfd)
    · exact lowestFreeFd_nonneg _
    · exact hL.fds_nonneg fd hfd
  · rintro c ⟨⟩
    simp [System.start, Library.scratchOpened, hL.refs]

theorem newContext_initial_boot :
    System.Initial ((List.range (2 : Int).toNat).map fun j =>
        ({ leakAnswers with directBuffer := true }.iocb j).getD 0)
      (System.start (newContext (onLoad bootLibrary loadAnswers).1.proc
        { leakAnswers with directBuffer := true } 2).1) :=
  newContext_initial bootLibrary loadAnswers { leakAnswers with directBuffer := true } 2
    bootLibrary_unloaded rfl threeContext_initial.ring threeContext_initial.ring_empty
    (by decide) (show (1 : Nat) ≠ 0 by decide) (by decide) rfl

end Jlibaio
