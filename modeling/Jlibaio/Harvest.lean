import Jlibaio.Exec
import Jlibaio.Spec
import Jlibaio.Conservation

set_option autoImplicit false

/-! # A batch of `blockedPoll`

`blockedPoll` handles what one call of `artemis_io_getevents` returned in a `for` loop, setting
`lastFile = -1` before it. For each event it first compares the event's file with `lastFile`
and, with `useFdatasync` set, calls `fdatasync` on a change; then it calls `onError` for a
negative result and `LibaioContext.done`, and deletes the handle's reference. The loop ends early
at the shutdown sentinel, an event whose file is `dumbWriteHandler`.

`syncedBatch` says what a batch emits: for each event before the first sentinel, an
`fdatasync` of its file exactly when it begins a maximal run of consecutive events on one file,
followed by the event's dispatch. The one-round lemmas `blockedPollEvent_of_sentinel` and
`blockedPollEvent_of_ne` say what a round does; `Jlibaio.Batch` carries them over the rounds of a
batch in a run. The sentinel test by file goes wrong once `shutdownHook` has set
`dumbWriteHandler` to `0` (`sentinel_test_by_fd`). -/

namespace Jlibaio

/-! ## What a batch emits -/

/-- The events `events[i..n)`. -/
def bufferEvents (buffer : Nat → IoEvent) (i n : Nat) : List IoEvent :=
  (List.range (n - i)).map fun j => buffer (i + j)

/-- What `blockedPoll` does for the handle of an event it processes: `onError` for a negative
result, then `LibaioContext.done` and the deletion of the reference. -/
def blockedDispatch (heap : Nat → Iocb) (e : IoEvent) : List Effect :=
  (if eventResult e < 0 ∧ (heap e.obj).data ≠ .null then
    [.onError (heap e.obj).data (-eventResult e)] else []) ++
  (if (heap e.obj).data ≠ .null then [.done (heap e.obj).data, .deleteGlobalRef (heap e.obj).data]
    else [])

/-- The effects of a batch: the events before the first sentinel, each preceded by an
`fdatasync` of its file when it begins a maximal run of consecutive events on one file (`prev`
is the file of the event processed before it in the batch), and followed by its dispatch. -/
def syncedBatch (useFdatasync : Bool) (dumb : Int) (heap : Nat → Iocb) :
    Option Int → List IoEvent → List Effect
  | _, [] => []
  | prev, e :: es =>
    if (heap e.obj).aioFildes = dumb then []
    else
      (if useFdatasync ∧ prev ≠ some (heap e.obj).aioFildes then
        [.fdatasync (heap e.obj).aioFildes] else []) ++
      blockedDispatch heap e ++ syncedBatch useFdatasync dumb heap (some (heap e.obj).aioFildes) es

/-! ## One round -/

section Round

variable {s : Process} {c : IoControl} (hc : s.control = some c) (useFdatasync : Bool)
  (lastFile : Int) (i : Nat)

include hc in
/-- At the sentinel a round puts the descriptor back and ends the loop. -/
theorem blockedPollEvent_of_sentinel
    (hd : (s.heap (c.events i).obj).aioFildes = s.dumbWriteHandler) :
    blockedPollEvent s useFdatasync lastFile i =
      some (s.setControl (putIOCB c (c.events i).obj), lastFile, false) := by
  simp [blockedPollEvent, hc, hd, pure]

include hc in
/-- Any other event: the `fdatasync` due, the event's dispatch, and the descriptor put back. -/
theorem blockedPollEvent_of_ne
    (hd : (s.heap (c.events i).obj).aioFildes ≠ s.dumbWriteHandler) :
    blockedPollEvent s useFdatasync lastFile i =
      some ({ s with
          control := some (putIOCB c (c.events i).obj)
          refs := if (s.heap (c.events i).obj).data ≠ .null then
              (s.deleteGlobalRef (s.heap (c.events i).obj).data).refs else s.refs
          log := s.log ++
            (if useFdatasync ∧ lastFile ≠ (s.heap (c.events i).obj).aioFildes then
              [.fdatasync (s.heap (c.events i).obj).aioFildes] else []) ++
            blockedDispatch s.heap (c.events i) },
        if useFdatasync ∧ lastFile ≠ (s.heap (c.events i).obj).aioFildes then
          (s.heap (c.events i).obj).aioFildes else lastFile, true) := by
  simp only [blockedPollEvent, hc, hd, Option.bind_eq_bind, Option.some_bind, if_false]
  by_cases hsync : useFdatasync = true ∧ lastFile ≠ (s.heap (c.events i).obj).aioFildes <;>
    by_cases hnull : (s.heap (c.events i).obj).data = .null <;>
    by_cases hres : eventResult (c.events i) < 0 <;>
    simp [hsync, hnull, hres, blockedDispatch, pure, Process.emit, Process.setControl,
      Process.deleteGlobalRef]

end Round

/-! ## The sentinel test after `shutdownHook`

`blockedPoll` takes an event for the sentinel when its file is `dumbWriteHandler`, and
`shutdownHook` sets `dumbWriteHandler` to `0` before closing it. A user write to the file `open`
then returns, `0`, is taken for the sentinel, and a sentinel submitted before the hook is
dispatched as a request, its marker passed to `done` and `DeleteGlobalRef`. -/

/-- `shutdownHook`, then a file opened (it gets `0`, the descriptor the hook closed), a write to
it completed, and `blockedPoll` getting its event back. -/
def hookedRun : List Action :=
  [.shutdownHook, .openFile, .prepare .pwrite 0 0 512 0 (some 1), .submit 100 1,
    .complete 100 512, .blockedStart false, .blockedGetevents (.read 1)]

/-- The state `hookedRun` reaches, `blockedPoll` about to look at the write's event. -/
def hookedContext : System := (threeContext.run true hookedRun).getD threeContext

/-- `hookedContext` after `blockedPoll`'s round on the write's event. -/
def hookedRound : System := (hookedContext.exec true .blockedRound).getD hookedContext

/-- `deleteContext`'s sentinel accepted and completed, then `shutdownHook`, then `blockedPoll`
getting the sentinel's event back. -/
def markedRun : List Action :=
  [.deletePrepare, .deleteSubmit 1, .complete 100 0, .shutdownHook,
    .blockedStart false, .blockedGetevents (.read 1)]

/-- The state `markedRun` reaches, `blockedPoll` about to look at the sentinel's event. -/
def markedContext : System := (threeContext.run true markedRun).getD threeContext

/-- `markedContext` after `blockedPoll`'s round on the sentinel's event. -/
def markedRound : System := (markedContext.exec true .blockedRound).getD markedContext

/-- Once `shutdownHook` has run, `blockedPoll`'s test by file and the marker disagree. A user
write, holding the reference `1` to its callback, is taken for the sentinel: the loop ends without
calling `done` or deleting the reference. And a sentinel submitted before the hook is dispatched
as a request: its marker `(void *) -1` is passed to `done` and to `DeleteGlobalRef`. -/
theorem sentinel_test_by_fd :
    (Reachable true threeDescs hookedContext ∧
      hookedContext.harvester.batch (hookedContext.proc.control.getD freshPool) = [100] ∧
      (hookedContext.proc.heap 100).data = .ref 1 ∧
      (hookedContext.proc.heap 100).aioFildes = hookedContext.proc.dumbWriteHandler ∧
      Step true hookedContext hookedRound ∧ hookedRound.harvester = .idle ∧
      1 ∈ hookedRound.proc.refs ∧ .done (.ref 1) ∉ hookedRound.proc.log) ∧
    (Reachable true threeDescs markedContext ∧
      (markedContext.proc.heap 100).data = .marker ∧
      Step true markedContext markedRound ∧
      markedRound.proc.log = markedContext.proc.log ++ [.done .marker, .deleteGlobalRef .marker]) :=
  ⟨⟨System.run_reachable (.init _ threeContext_initial)
        (show threeContext.run true hookedRun = some hookedContext from rfl),
      by decide, by decide, by decide,
      System.exec_step (show hookedContext.exec true .blockedRound = some hookedRound from rfl),
      rfl, by decide, by decide⟩,
    ⟨System.run_reachable (.init _ threeContext_initial)
        (show threeContext.run true markedRun = some markedContext from rfl),
      by decide,
      System.exec_step (show markedContext.exec true .blockedRound = some markedRound from rfl),
      by decide⟩⟩

/-! ## A run with a batch on two files -/

/-- Three writes, two to file `5` and one to file `4`, completed in order (the last with
`-EIO`), and `blockedPoll` with `useFdatasync` getting the three back in one batch. -/
def syncBatchRun : List Action :=
  [.openFile, .openFile,
    .prepare .pwrite 5 0 512 0 (some 1), .submit 100 1,
    .prepare .pwrite 5 512 512 0 (some 2), .submit 101 1,
    .prepare .pwrite 4 0 512 0 (some 3), .submit 102 1,
    .complete 100 512, .complete 101 512, .complete 102 (-5),
    .blockedStart true, .blockedGetevents (.read 3)]

/-- The state `syncBatchRun` reaches from `threeContext`. -/
def syncBatchContext : System := (threeContext.run false syncBatchRun).getD threeContext

end Jlibaio
