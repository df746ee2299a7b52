import Jlibaio.Pool

set_option autoImplicit false

/-! # The JNI entry points of `LibaioContext`

The process state (`Process`) holds what the native library, the kernel and the JVM keep for one
context: the process-wide `dumbWriteHandler` and open file descriptors, the address field of
the context's direct buffer and the `io_control` block at it (`none` once freed), the
`struct iocb` at every descriptor address, the kernel's queue (requests in flight and the
completion ring), the live JNI global references, and the log of what the code does that the
outside sees (`Effect`): Java calls, reference deletions, `fdatasync`, exceptions, allocations
and frees.

Each entry point is translated statement by statement. What the kernel decides (the result of
`io_submit`, the answer of the `io_getevents` system call) is an argument, and undefined
behaviour (a freed control block, a write past `events`) is `none`. `submitWrite` and
`submitRead` are cut at their call of `submit`, and `deleteContext` at its call of `submit` and
at its `pollLock`: the system model in `Jlibaio.System` interleaves those pieces with the other
threads. -/

namespace Jlibaio

/-! ## Data -/

/-- `iocb->data`: a global reference to the completion handle, `NULL`, or the marker
`(void *) -1` that `deleteContext` stores. -/
inductive IocbData where
  | null
  | marker
  | ref (r : Nat)
  deriving DecidableEq, Repr

/-- The operation `io_prep_pread` or `io_prep_pwrite` sets. -/
inductive Opcode where
  | pread
  | pwrite
  deriving DecidableEq, Repr

/-- `struct iocb`, the fields `io_prep_pread`/`io_prep_pwrite` set and `data`. -/
structure Iocb where
  opcode : Opcode
  aioFildes : Int
  buf : Nat
  nbytes : Nat
  offset : Int
  data : IocbData
  deriving DecidableEq, Repr

/-- A Java exception the code raises: `throwRuntimeException`, `throwIOException`, their
`ErrorNo` variants (the message followed by `strerror` of the error number) and
`throwOutOfMemoryError`. -/
inductive Exception where
  | runtime (message : String)
  | runtimeErrno (message : String) (errorNumber : Int)
  | io (message : String)
  | ioErrno (message : String) (errorNumber : Int)
  | outOfMemory
  deriving DecidableEq, Repr

/-- What the code does that is seen outside the process state. -/
inductive Effect where
  /-- `NewGlobalRef` of a completion handle -/
  | newGlobalRef (r : Nat)
  /-- `DeleteGlobalRef` -/
  | deleteGlobalRef (obj : IocbData)
  /-- `CallVoidMethod(obj, errorMethod, code, message)`: `SubmitInfo.onError` -/
  | onError (obj : IocbData) (code : Int)
  /-- `CallVoidMethod(thisObject, libaioContextDone, obj)`: `LibaioContext.done` -/
  | done (obj : IocbData)
  /-- `SetObjectArrayElement(callbacks, index, obj)` -/
  | setCallback (index : Nat) (obj : IocbData)
  /-- `fdatasync(fd)` -/
  | fdatasync (fd : Int)
  /-- a pending Java exception -/
  | throw (e : Exception)
  /-- `free` of a descriptor -/
  | freeIocb (p : Nat)
  /-- `free(theControl->iocb)` -/
  | freeIocbArray
  /-- `free(theControl->events)` -/
  | freeEvents
  /-- `free(theControl)` -/
  | freeControl
  /-- `io_queue_release` -/
  | ioQueueRelease
  /-- `malloc` of the `io_control` block -/
  | mallocControl
  /-- `io_queue_init` creating the kernel queue -/
  | ioQueueInit
  /-- `malloc` of the `iocb` array -/
  | mallocIocbArray
  /-- `malloc` of a descriptor, at `p` -/
  | mallocIocb (p : Nat)
  /-- `malloc` of `events` -/
  | mallocEvents
  deriving DecidableEq, Repr

/-- The state of the process, the kernel and the JVM that one context's calls read and write. -/
structure Process where
  dumbWriteHandler : Int
  openFds : List Int
  address : Nat
  control : Option IoControl
  heap : Nat → Iocb
  inflight : List Nat
  ring : AioRing IoEvent
  refs : List Nat
  nextRef : Nat
  log : List Effect

namespace Process

/-- Record an effect. -/
def emit (s : Process) (e : Effect) : Process := { s with log := s.log ++ [e] }

/-- Raise a Java exception. -/
def throw (s : Process) (e : Exception) : Process := s.emit (.throw e)

/-- Write the `io_control` block. -/
def setControl (s : Process) (c : IoControl) : Process := { s with control := some c }

/-- Write the `struct iocb` at `p`. -/
def setIocb (s : Process) (p : Nat) (iocb : Iocb) : Process :=
  { s with heap := Function.update s.heap p iocb }

/-- `NewGlobalRef(env, obj)`: a fresh reference, or `NULL` for a null object. -/
def newGlobalRef (s : Process) : Option Nat → Process × IocbData
  | none => (s, .null)
  | some _ =>
    ({ s with
        refs := s.nextRef :: s.refs
        nextRef := s.nextRef + 1
        log := s.log ++ [.newGlobalRef s.nextRef] }, .ref s.nextRef)

/-- `DeleteGlobalRef(env, obj)` -/
def deleteGlobalRef (s : Process) (obj : IocbData) : Process :=
  { s with
    refs := match obj with
      | .ref r => s.refs.erase r
      | _ => s.refs
    log := s.log ++ [.deleteGlobalRef obj] }

end Process

/-! ## The kernel

The kernel is not code of this repository: these are its steps as its interface describes them. -/

/-- `io_submit(ctx, 1, &iocb)` as the kernel carries it out: a non-negative result queues the
request. -/
def ioSubmit (s : Process) (iocb : Nat) (result : Int) : Process :=
  if result < 0 then s else { s with inflight := iocb :: s.inflight }

/-- The kernel completing the request of `iocb` with result `res`: the request leaves the queue
and its event is published in the ring. -/
def kernelComplete (s : Process) (iocb : Nat) (res : Int) : Process :=
  { s with inflight := s.inflight.erase iocb, ring := s.ring.append ⟨iocb, res⟩ }

/-- The kernel's answer when `artemis_io_getevents` falls through to `io_getevents`: an error
number, or the number of completions it read from the ring. -/
inductive IoGeteventsAnswer where
  | error (code : Int)
  | read (k : Nat)
  deriving DecidableEq, Repr

/-- `-EINTR` is the answer `blockedPoll` retries on. -/
def eintr : Int := 4

/-! ## Harvesting -/

/-- The events written to `events[0..)`, the buffer unchanged past them. -/
def writeEvents (buffer : Nat → IoEvent) (events : List IoEvent) : Nat → IoEvent :=
  fun j => events.getD j (buffer j)

/-- What `artemis_io_getevents(..., minNr, max, ..., 0)` reads: its result, the events it
copies and the ring after it, the kernel answering when it falls through to `io_getevents`.
`none` when it reads past the end of the ring. -/
def ringRead (r : AioRing IoEvent) (minNr max : Int) (answer : IoGeteventsAnswer) :
    Option (Int × List IoEvent × AioRing IoEvent) :=
  match artemisIoGetevents r minNr max none with
  | none => none
  | some (.ring count events ring) => some (count, events, ring)
  | some .syscall =>
    match answer with
    | .error code => some (code, [], r)
    | .read k => some ((k : Int), (r.kernelRead k).1, (r.kernelRead k).2)

/-- `artemis_io_getevents(theControl->ioContext, minNr, max, theControl->events, 0)`: the result
and the state with the events written to `theControl->events`. `none` for undefined behaviour:
a read past the ring, a write past the `queueSize` slots of `events`, or a freed control. -/
def getevents (s : Process) (minNr max : Int) (answer : IoGeteventsAnswer) :
    Option (Process × Int) := do
  let c ← s.control
  let (result, events, ring) ← ringRead s.ring minNr max answer
  if events.length ≤ c.queueSize then
    pure ({ s with ring := ring, control := some { c with events := writeEvents c.events events } },
      result)
  else none

/-- `(int)event->res` -/
def eventResult (e : IoEvent) : Int := toSigned (toUnsigned e.res)

/-- One round of `poll`'s loop, on `theControl->events[i]`. -/
def pollEvent (s : Process) (i : Nat) : Option Process := do
  let c ← s.control
  let event := c.events i
  let iocbp := event.obj
  let data := (s.heap iocbp).data
  let handle := data ≠ .null ∧ data ≠ .marker
  let s := if eventResult event < 0 ∧ handle then s.emit (.onError data (-eventResult event)) else s
  let s := if handle then (s.emit (.setCallback i data)).deleteGlobalRef data else s
  pure (s.setControl (putIOCB c iocbp))

/-- `poll`'s loop over `events[i..i+n)`. -/
def pollLoop (s : Process) (i : Nat) : Nat → Option Process
  | 0 => some s
  | n + 1 => do
    let s ← pollEvent s i
    pollLoop s (i + 1) n

/-- One round of `blockedPoll`'s `for` loop, on `theControl->events[i]`: the new state, the new
`lastFile`, and `false` when the event is the shutdown sentinel and the loop ends. -/
def blockedPollEvent (s : Process) (useFdatasync : Bool) (lastFile : Int) (i : Nat) :
    Option (Process × Int × Bool) := do
  let c ← s.control
  let event := c.events i
  let iocbp := event.obj
  let fd := (s.heap iocbp).aioFildes
  if fd = s.dumbWriteHandler then
    pure (s.setControl (putIOCB c iocbp), lastFile, false)
  else
    let (s, lastFile) :=
      if useFdatasync ∧ lastFile ≠ fd then (s.emit (.fdatasync fd), fd) else (s, lastFile)
    let data := (s.heap iocbp).data
    let s := if eventResult event < 0 ∧ data ≠ .null then
      s.emit (.onError data (-eventResult event)) else s
    let s := s.setControl (putIOCB c iocbp)
    let s := if data ≠ .null then (s.emit (.done data)).deleteGlobalRef data else s
    pure (s, lastFile, true)

/-- `blockedPoll`'s `for` loop over `events[i..i+n)`, ended early by the sentinel. -/
def blockedPollLoop (useFdatasync : Bool) :
    Process → Int → Nat → Nat → Option (Process × Int × Bool)
  | s, lastFile, _, 0 => some (s, lastFile, true)
  | s, lastFile, i, n + 1 => do
    let (s, lastFile, running) ← blockedPollEvent s useFdatasync lastFile i
    if running then blockedPollLoop useFdatasync s lastFile (i + 1) n else pure (s, lastFile, false)

/-! ## Entry points -/

/-- `getIOControl`: the control address the context buffer holds; `NULL` raises
"Controller not initialized". -/
def getIOControl (s : Process) : Process × Option Nat :=
  if s.address = 0 then (s.throw (.runtime "Controller not initialized"), none)
  else (s, some s.address)

/-- `getIOCB` on the control block. -/
def takeIOCB (s : Process) : Option (Process × Option Nat) := do
  let c ← s.control
  pure (s.setControl (getIOCB c).1, (getIOCB c).2)

/-- `submit`: hand the descriptor to the kernel; on a negative result release the handle's
reference (not the marker), put the descriptor back and raise an `IOException`. The `Bool` is
the value `submit` returns. -/
def submit (s : Process) (iocb : Nat) (result : Int) : Option (Process × Bool) := do
  let s := ioSubmit s iocb result
  if result < 0 then
    let data := (s.heap iocb).data
    let s := if data ≠ .null ∧ data ≠ .marker then s.deleteGlobalRef data else s
    let c ← s.control
    let s := s.setControl (putIOCB c iocb)
    pure (s.throw (.ioErrno "Error while submitting IO: " (-result)), false)
  else pure (s, true)

/-- `io_prep_pread` / `io_prep_pwrite`: the descriptor cleared and filled, `data` `NULL`. -/
def ioPrep (opcode : Opcode) (fd : Int) (buf : Nat) (count : Nat) (offset : Int) : Iocb :=
  { opcode := opcode, aioFildes := fd, buf := buf, nbytes := count, offset := offset,
    data := .null }

/-- `(size_t)size` -/
def toSizeT (size : Int) : Nat := (size % 2 ^ 64).toNat

/-- `submitWrite` and `submitRead` up to their call of `submit`: the descriptor taken from the
pool, prepared, and holding a global reference to `callback`; `none` in the second component
when the call already returned. -/
def submitPrepare (opcode : Opcode) (s : Process) (fileHandle : Int) (position : Int) (size : Int)
    (buffer : Nat) (callback : Option Nat) : Option (Process × Option Nat) :=
  match getIOControl s with
  | (s, none) => some (s, none)
  | (s, some _) => do
    let (s, iocb) ← takeIOCB s
    match iocb with
    | none => pure (s.throw (.io "Not enough space in libaio queue"), none)
    | some iocb =>
      let s := s.setIocb iocb (ioPrep opcode fileHandle buffer (toSizeT size) position)
      let (s, data) := s.newGlobalRef callback
      pure (s.setIocb iocb { s.heap iocb with data := data }, some iocb)

/-- The body shared by `submitWrite` and `submitRead`. -/
def submitRequest (opcode : Opcode) (s : Process) (fileHandle : Int) (position : Int) (size : Int)
    (buffer : Nat) (callback : Option Nat) (result : Int) : Option Process := do
  let (s, iocb) ← submitPrepare opcode s fileHandle position size buffer callback
  match iocb with
  | none => pure s
  | some iocb => do
    let (s, _) ← submit s iocb result
    pure s

/-- `Java_..._submitWrite` -/
def submitWrite (s : Process) (fileHandle : Int) (position : Int) (size : Int) (bufferWrite : Nat)
    (callback : Option Nat) (result : Int) : Option Process :=
  submitRequest .pwrite s fileHandle position size bufferWrite callback result

/-- `Java_..._submitRead` -/
def submitRead (s : Process) (fileHandle : Int) (position : Int) (size : Int) (bufferRead : Nat)
    (callback : Option Nat) (result : Int) : Option Process :=
  submitRequest .pread s fileHandle position size bufferRead callback result

/-- `Java_..._poll`: the state and the value returned. -/
def poll (s : Process) (min max : Int) (answer : IoGeteventsAnswer) : Option (Process × Int) :=
  match getIOControl s with
  | (s, none) => some (s, 0)
  | (s, some _) => do
    let (s, result) ← getevents s min max answer
    let s ← pollLoop s 0 result.toNat
    pure (s, result)

/-- One pass of `blockedPoll`'s `while (running)` loop: `artemis_io_getevents` with
`min_nr = 1, max = queueSize`, then the `for` loop over what it returned. The `Bool` is
`running` after the pass. -/
def blockedPollRound (s : Process) (useFdatasync : Bool) (answer : IoGeteventsAnswer) :
    Option (Process × Bool) := do
  let c ← s.control
  let (s, result) ← getevents s 1 c.queueSize answer
  if result = -eintr then pure (s, true)
  else if result < 0 then
    pure (s.throw (.ioErrno "Error while calling io_getevents IO: " (-result)), false)
  else do
    let (s, _, running) ← blockedPollLoop useFdatasync s (-1) 0 result.toNat
    pure (s, running)

/-- `deleteContext` up to its call of `submit`: the sentinel descriptor, a zero-length write to
`dumbWriteHandler` marked `(void *) -1`; `none` in the second component when the call already
returned. -/
def deleteContextPrepare (s : Process) : Option (Process × Option Nat) :=
  match getIOControl s with
  | (s, none) => some (s, none)
  | (s, some _) => do
    let (s, iocb) ← takeIOCB s
    match iocb with
    | none => pure (s.throw (.io "Not enough space in libaio queue"), none)
    | some iocb =>
      let s := s.setIocb iocb (ioPrep .pwrite s.dumbWriteHandler 0 0 0)
      pure (s.setIocb iocb { s.heap iocb with data := .marker }, some iocb)

/-- `deleteContext`'s final drain: `putIOCB` of `events[i..i+n)`. -/
def drainLoop (s : Process) (i : Nat) : Nat → Option Process
  | 0 => some s
  | n + 1 => do
    let c ← s.control
    drainLoop (s.setControl (putIOCB c (c.events i).obj)) (i + 1) n

/-- `iocb_destroy_members` -/
def iocbDestroyMembers (s : Process) (c : IoControl) (upperBound : Nat) : Process :=
  { s with log := s.log ++ (List.range upperBound).map fun i => .freeIocb (c.iocb i) }

/-- `iocb_destroy_bounded` -/
def iocbDestroyBounded (s : Process) (c : IoControl) (upperBound : Nat) : Process :=
  (iocbDestroyMembers s c upperBound).emit .freeIocbArray

/-- `iocb_destroy` -/
def iocbDestroy (s : Process) (c : IoControl) : Process :=
  iocbDestroyBounded s c c.queueSize

/-- `deleteContext` after `pollLock` was taken and released: the drain of at most one event,
`io_queue_release`, the pool and the control block freed. -/
def deleteContextFinish (s : Process) (answer : IoGeteventsAnswer) : Option Process := do
  let (s, result) ← getevents s 0 1 answer
  let s ← drainLoop s 0 result.toNat
  let s := { s.emit .ioQueueRelease with inflight := [] }
  let c ← s.control
  let s := iocbDestroy s c
  let s := s.deleteGlobalRef (.ref c.thisObject)
  let s := (s.emit .freeEvents).emit .freeControl
  pure { s with control := none }

/-- `Java_..._deleteContext`, run without another thread holding `pollLock`. -/
def deleteContext (s : Process) (result : Int) (answer : IoGeteventsAnswer) : Option Process := do
  let (s, iocb) ← deleteContextPrepare s
  match iocb with
  | none => pure s
  | some iocb => do
    let (s, ok) ← submit s iocb result
    if ok then deleteContextFinish s answer else pure s

/-- `close(fd)`: `0` and the descriptor released, or `-1` when it is not open. -/
def closeFd (s : Process) (fd : Int) : Process × Int :=
  if fd ∈ s.openFds then ({ s with openFds := s.openFds.erase fd }, 0) else (s, -1)

/-- The lowest file descriptor not open, which `open` and `mkstemp` return. -/
def lowestFreeFd (fds : List Int) : Int :=
  ((List.range (fds.length + 1)).find? fun n => (n : Int) ∉ fds).getD fds.length

/-- `closeDumbHandlers`: `dumbWriteHandler` is set to `0` before `close(dumbWriteHandler)`. -/
def closeDumbHandlers (s : Process) : Process :=
  if s.dumbWriteHandler ≠ 0 then
    let s := { s with dumbWriteHandler := 0 }
    (closeFd s s.dumbWriteHandler).1
  else s

/-- `Java_..._shutdownHook` -/
def shutdownHook (s : Process) : Process := closeDumbHandlers s

/-- `Java_..._open` when the system call succeeds: the lowest free descriptor. -/
def openFile (s : Process) : Process × Int :=
  let fd := lowestFreeFd s.openFds
  ({ s with openFds := fd :: s.openFds }, fd)

end Jlibaio
