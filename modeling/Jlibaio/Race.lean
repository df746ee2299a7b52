import Jlibaio.Conservation

set_option autoImplicit false

/-! # Harvesting calls at the granularity of their memory accesses

`Jlibaio.System` runs one harvesting call at a time, as `pollLock` would make it. `poll` does not
take `pollLock`, so two `poll` calls, or `poll` beside `blockedPoll`, can interleave inside
`artemis_io_getevents`, whose comment says it assumes to be "the exclusive writer to head". Here a
`poll` call is cut where it touches memory another thread may touch: the load of `ring->head`,
the load of `ring->tail`, each copy `events[i] = ring->io_events[head]`, the store of
`ring->head`, and each round of its loop over `events` (a `putIOCB` and a dispatch). Threads and
the kernel's completions interleave in any order (`raceRun` runs a schedule).

A call that runs with no other thread between its steps computes what `Jlibaio.poll` computes
(`raceRun_solo`). `poll_race` is a schedule of two calls: both load the same `head` before either
stores it, copy the same two completions, and both dispatch them, so each handle's reference is
deleted twice and each descriptor is put back twice. -/

namespace Jlibaio

/-- Where a thread in `poll` is. -/
inductive PollPc where
  /-- past `getIOControl`, about to test the ring and load `ring->head` -/
  | start
  /-- `head = ring->head` loaded, about to load `ring->tail` -/
  | loadedHead (head : Nat)
  /-- in the copy loop at round `i` of `availableNr`, its local `head` advanced to `head` -/
  | copying (availableNr : Int) (i : Nat) (head : Nat) (needMod : Bool)
  /-- about to store `ring->head = head` and return `availableNr` -/
  | storing (availableNr : Int) (head : Nat)
  /-- in `poll`'s loop at round `i` over the `result` events -/
  | dispatching (result : Int) (i : Nat)
  /-- returned `result` -/
  | returned (result : Int)
  deriving DecidableEq, Repr

/-- A `poll(min, max)` call in progress. -/
structure PollThread where
  min : Int
  max : Int
  pc : PollPc
  deriving DecidableEq, Repr

/-- `artemis_io_getevents` falling through to the `io_getevents` system call, which the kernel
carries out at once: its answer and the events it wrote. -/
def syscallGetevents (s : Process) (answer : IoGeteventsAnswer) : Option (Process × PollPc) :=
  match answer with
  | .error code => some (s, .dispatching code 0)
  | .read k => do
    let c ← s.control
    if k ≤ c.queueSize then
      pure ({ s with
          ring := (s.ring.kernelRead k).2
          control := some { c with events := writeEvents c.events (s.ring.kernelRead k).1 } },
        .dispatching k 0)
    else none

/-- `events[i] = e`: `none` past the `queueSize` slots of the buffer. -/
def Process.writeEvent (s : Process) (i : Nat) (e : IoEvent) : Option Process := do
  let c ← s.control
  if i < c.queueSize then
    pure { s with control := some { c with events := Function.update c.events i e } }
  else none

/-- One step of a thread in `poll(min, max)` (its `timeout` is `NULL`), the kernel answering
`answer` if it makes the system call. -/
def pollThreadStep (min max : Int) (answer : IoGeteventsAnswer) (s : Process) :
    PollPc → Option (Process × PollPc)
  | .start =>
    if hasUsableRing s.ring then some (s, .loadedHead s.ring.head)
    else syscallGetevents s answer
  | .loadedHead head =>
    let r := s.ring.setHead head
    let available := ringAvailable r
    if min ≤ available then
      if available = 0 then some (s, .dispatching 0 0)
      else
        let availableNr := toSigned (toUnsigned (if available < max then available else max))
        some (s, .copying availableNr 0 head (decide (r.nr ≤ toUnsigned (head + availableNr))))
    else syscallGetevents s answer
  | .copying availableNr i head needMod =>
    if i < availableNr.toNat then do
      let e ← s.ring.readEvent head
      let s ← s.writeEvent i e
      let head' := if needMod then toUnsigned (head + 1) % s.ring.nr else toUnsigned (head + 1)
      pure (s, .copying availableNr (i + 1) head' needMod)
    else some (s, .storing availableNr head)
  | .storing availableNr head => some ({ s with ring := s.ring.setHead head },
      .dispatching availableNr 0)
  | .dispatching result i =>
    if i < result.toNat then (pollEvent s i).map fun s => (s, .dispatching result (i + 1))
    else some (s, .returned result)
  | .returned _ => none

/-- A step of the interleaving: thread `j` takes a step, or the kernel completes a request. -/
inductive RaceAction where
  | thread (j : Nat) (answer : IoGeteventsAnswer)
  | complete (iocb : Nat) (res : Int)

/-- The state after a step of the interleaving, when it can be taken. -/
def raceStep (st : Process × List PollThread) : RaceAction → Option (Process × List PollThread)
  | .thread j answer => do
    let t ← st.2[j]?
    let (s, pc) ← pollThreadStep t.min t.max answer st.1 t.pc
    pure (s, st.2.set j { t with pc := pc })
  | .complete iocb res =>
    if iocb ∈ st.1.inflight ∧ st.1.ring.pending + 1 < st.1.ring.nr ∧ -2 ^ 31 < res ∧
        res < 2 ^ 31 then
      some (kernelComplete st.1 iocb res, st.2)
    else none

/-- A schedule run in order. -/
def raceRun (st : Process × List PollThread) : List RaceAction → Option (Process × List PollThread)
  | [] => some st
  | a :: as => (raceStep st a).bind fun st' => raceRun st' as

/-! ## One `poll` alone

Run alone, the steps of the copy loop add up to `getevents` and the rounds of the dispatch loop to
`pollLoop`. -/

/-- `events[i..]` set to `events`, the other slots left as they are. -/
def writeEventsFrom (buffer : Nat → IoEvent) (i : Nat) (events : List IoEvent) : Nat → IoEvent :=
  fun j => if i ≤ j then events.getD (j - i) (buffer j) else buffer j

theorem writeEventsFrom_zero (buffer : Nat → IoEvent) (events : List IoEvent) :
    writeEventsFrom buffer 0 events = writeEvents buffer events := by
  funext j
  simp [writeEventsFrom, writeEvents]

theorem writeEventsFrom_nil (buffer : Nat → IoEvent) (i : Nat) :
    writeEventsFrom buffer i [] = buffer := by
  funext j
  simp [writeEventsFrom]

theorem writeEventsFrom_cons (buffer : Nat → IoEvent) (i : Nat) (e : IoEvent)
    (events : List IoEvent) :
    writeEventsFrom (Function.update buffer i e) (i + 1) events =
      writeEventsFrom buffer i (e :: events) := by
  funext j
  rcases lt_trichotomy j i with h | rfl | h
  · simp [writeEventsFrom, Function.update_noteq h.ne, not_le.2 h, not_le.2 (Nat.lt_succ_of_lt h)]
  · simp [writeEventsFrom]
  · obtain ⟨k, rfl⟩ : ∃ k, j = i + 1 + k := ⟨j - (i + 1), by omega⟩
    simp [writeEventsFrom, Function.update_noteq (show i + 1 + k ≠ i by omega),
      show i + 1 + k - i = k + 1 by omega, show i ≤ i + 1 + k by omega]

theorem raceRun_append (st : Process × List PollThread) (as bs : List RaceAction) :
    raceRun st (as ++ bs) = (raceRun st as).bind fun st' => raceRun st' bs := by
  induction as generalizing st with
  | nil => rfl
  | cons a as ih =>
    rw [List.cons_append, raceRun, raceRun, Option.bind_assoc]
    simp only [ih]

/-- A `poll(min, max)` call alone on the process, the kernel answering `answer` to the system
call, goes from `pc` in `s` to `pc'` in `s'`. -/
def SoloReaches (min max : Int) (answer : IoGeteventsAnswer) (s : Process) (pc : PollPc)
    (s' : Process) (pc' : PollPc) : Prop :=
  ∃ n, raceRun (s, [⟨min, max, pc⟩]) (List.replicate n (.thread 0 answer)) =
    some (s', [⟨min, max, pc'⟩])

section Solo

variable {min max : Int} {answer : IoGeteventsAnswer}

theorem SoloReaches.refl (s : Process) (pc : PollPc) : SoloReaches min max answer s pc s pc :=
  ⟨0, rfl⟩

theorem SoloReaches.head {s s₁ s' : Process} {pc pc₁ pc' : PollPc}
    (h : pollThreadStep min max answer s pc = some (s₁, pc₁))
    (h' : SoloReaches min max answer s₁ pc₁ s' pc') : SoloReaches min max answer s pc s' pc' := by
  obtain ⟨n, hn⟩ := h'
  exact ⟨n + 1, by simp [List.replicate_succ, raceRun, raceStep, h, hn]⟩

theorem SoloReaches.trans {s s₁ s' : Process} {pc pc₁ pc' : PollPc}
    (h₁ : SoloReaches min max answer s pc s₁ pc₁) (h₂ : SoloReaches min max answer s₁ pc₁ s' pc') :
    SoloReaches min max answer s pc s' pc' := by
  obtain ⟨n, hn⟩ := h₁
  obtain ⟨m, hm⟩ := h₂
  exact ⟨n + m, by rw [List.replicate_add, raceRun_append, hn, Option.some_bind, hm]⟩

theorem copyEvents_length {r : AioRing IoEvent} {needMod : Bool} (n : Nat) :
    ∀ {head : Nat} {es : List IoEvent} {last : Nat},
      copyEvents r needMod n head = some (es, last) → es.length = n := by
  induction n with
  | zero =>
    intro head es last h
    cases h
    rfl
  | succ n ih =>
    intro head es last h
    simp only [copyEvents, Option.bind_eq_bind, Option.bind_eq_some] at h
    obtain ⟨e, -, ⟨es', last'⟩, hrest, heq⟩ := h
    simp only [pure, Option.some.injEq, Prod.mk.injEq] at heq
    obtain ⟨rfl, rfl⟩ := heq
    simp [ih hrest]

/-- The copy loop of `artemis_io_getevents`, one event a step, writes what `copyEvents` reads. -/
theorem soloReaches_copying {r : AioRing IoEvent} {availableNr : Int} {needMod : Bool} (n : Nat) :
    ∀ {i head : Nat} {s : Process} {c : IoControl} {es : List IoEvent} {last : Nat},
      s.control = some c → s.ring = r → i + n = availableNr.toNat → i + n ≤ c.queueSize →
      copyEvents r needMod n head = some (es, last) →
      SoloReaches min max answer s (.copying availableNr i head needMod)
        (s.setControl { c with events := writeEventsFrom c.events i es })
        (.storing availableNr last) := by
  induction n with
  | zero =>
    intro i head s c es last hc _ hn _ h
    simp only [copyEvents, Option.some.injEq, Prod.mk.injEq] at h
    obtain ⟨rfl, rfl⟩ := h
    rw [writeEventsFrom_nil, Process.setControl_self hc]
    exact .head (by simp [pollThreadStep, ← hn]) (.refl _ _)
  | succ n ih =>
    intro i head s c es last hc hr hn hq h
    simp only [copyEvents, Option.bind_eq_bind, Option.bind_eq_some] at h
    obtain ⟨e, he, ⟨es', last'⟩, hrest, heq⟩ := h
    simp only [pure, Option.some.injEq, Prod.mk.injEq] at heq
    obtain ⟨rfl, rfl⟩ := heq
    have hstep := ih (i := i + 1) (s := s.setControl { c with events := Function.update c.events i e })
      (c := { c with events := Function.update c.events i e }) rfl hr (by omega) (by dsimp only; omega)
      hrest
    dsimp only at hstep
    rw [writeEventsFrom_cons] at hstep
    refine .head ?_ hstep
    simp [pollThreadStep, show i < availableNr.toNat by omega, hr, he, Process.writeEvent, hc,
      show i < c.queueSize by omega, Process.setControl]

/-- `poll`'s loop, one round a step, is `pollLoop`. -/
theorem soloReaches_dispatching (result : Int) (n : Nat) :
    ∀ {i : Nat} {s s' : Process}, i + n = result.toNat → pollLoop s i n = some s' →
      SoloReaches min max answer s (.dispatching result i) s' (.returned result) := by
  induction n with
  | zero =>
    intro i s s' hn h
    cases h
    exact .head (by simp [pollThreadStep, ← hn]) (.refl _ _)
  | succ n ih =>
    intro i s s' hn h
    simp only [pollLoop, Option.bind_eq_bind, Option.bind_eq_some] at h
    obtain ⟨s₁, h₁, h⟩ := h
    exact .head (by simp [pollThreadStep, show i < result.toNat by omega, h₁])
      (ih (by omega) h)

theorem writeEvents_nil (buffer : Nat → IoEvent) : writeEvents buffer [] = buffer := rfl

/-- When `artemis_io_getevents` falls through to the system call, the thread's call of it is
`getevents`. -/
theorem syscallGetevents_of_getevents {s s₁ : Process} {result : Int}
    (hsys : artemisIoGetevents s.ring min max none = some .syscall)
    (h : getevents s min max answer = some (s₁, result)) :
    syscallGetevents s answer = some (s₁, .dispatching result 0) := by
  obtain ⟨c, -, -, hc, -⟩ := getevents_frame h
  cases answer with
  | error code =>
    simp only [getevents, ringRead, hc, hsys, writeEvents_nil, Option.bind_eq_bind,
      Option.some_bind, List.length_nil, Nat.zero_le, if_true, pure, Option.some.injEq,
      Prod.mk.injEq] at h
    obtain ⟨rfl, rfl⟩ := h
    exact congrArg (fun t => some (t, PollPc.dispatching code 0)) (Process.setControl_self hc).symm
  | read k =>
    simp [getevents, ringRead, hc, hsys, pure] at h
    obtain ⟨hk, rfl, rfl⟩ := h
    simp [syscallGetevents, hc, hk]

/-- `artemis_io_getevents` falling through to the system call, a step at a time. -/
theorem soloReaches_of_syscall {s s₁ : Process} {result : Int}
    (hg : artemisIoGetevents s.ring min max none = some .syscall)
    (h : getevents s min max answer = some (s₁, result)) :
    SoloReaches min max answer s .start s₁ (.dispatching result 0) := by
  have hsys := syscallGetevents_of_getevents hg h
  by_cases hu : hasUsableRing s.ring
  · have hmin : ¬ min ≤ ringAvailable s.ring := fun hle => by
      simp only [artemisIoGetevents, hu, hle, true_or, if_true] at hg
      generalize toSigned (toUnsigned
        (if ringAvailable s.ring < max then ringAvailable s.ring else max)) = A at hg
      split_ifs at hg
      · cases hg
      · split at hg <;> cases hg
    exact .head (by rw [pollThreadStep, if_pos hu])
      (.head (by simp only [pollThreadStep, AioRing.setHead_self, hmin, hsys, if_false])
        (.refl _ _))
  · exact .head (by simp only [pollThreadStep, hu, hsys, Bool.false_eq_true, if_false])
      (.refl _ _)

/-- `artemis_io_getevents` completing in user space, a step at a time: the loads of `head` and
`tail`, the copies, the store of `head`. -/
theorem soloReaches_of_ring {s s₁ : Process} {result count : Int} {events : List IoEvent}
    {ring : AioRing IoEvent}
    (hg : artemisIoGetevents s.ring min max none = some (.ring count events ring))
    (h : getevents s min max answer = some (s₁, result)) :
    SoloReaches min max answer s .start s₁ (.dispatching result 0) := by
  obtain ⟨c, -, -, hc, -⟩ := getevents_frame h
  simp [getevents, ringRead, hc, hg, pure] at h
  obtain ⟨hlen, rfl, rfl⟩ := h
  unfold artemisIoGetevents at hg
  simp only [isZeroTimeout, Bool.false_eq_true, or_false] at hg
  generalize hA : toSigned (toUnsigned
    (if ringAvailable s.ring < max then ringAvailable s.ring else max)) = A at hg
  by_cases hu : hasUsableRing s.ring
  swap
  · simp [hu] at hg
  by_cases hmin : min ≤ ringAvailable s.ring
  swap
  · simp [hu, hmin] at hg
  rw [if_pos hu, if_pos hmin] at hg
  have hstart : pollThreadStep min max answer s .start = some (s, .loadedHead s.ring.head) := by
    rw [pollThreadStep, if_pos hu]
  by_cases h0 : ringAvailable s.ring = 0
  · -- nothing to copy
    simp only [h0, if_true, Option.some.injEq, Getevents.ring.injEq] at hg
    obtain ⟨rfl, rfl, rfl⟩ := hg
    refine .head hstart (.head ?_ (.refl _ _))
    simp only [pollThreadStep, AioRing.setHead_self, h0, h0 ▸ hmin, if_true]
    exact congrArg (fun t => some (t, PollPc.dispatching 0 0)) (Process.setControl_self hc).symm
  rw [if_neg h0] at hg
  split at hg
  · cases hg
  rename_i last hcopy
  simp only [Option.some.injEq, Getevents.ring.injEq] at hg
  obtain ⟨rfl, rfl, rfl⟩ := hg
  refine .head hstart (.head ?_ ((soloReaches_copying _ hc rfl (zero_add _)
    (by rw [zero_add, ← copyEvents_length _ hcopy]; exact hlen) hcopy).trans
      (.head (by rw [pollThreadStep]) ?_)))
  · simp only [pollThreadStep, AioRing.setHead_self, hmin, h0, hA, if_true, if_false]
  · rw [writeEventsFrom_zero]
    exact .refl _ _

/-- `artemis_io_getevents` a step at a time is `getevents`. -/
theorem soloReaches_getevents {s s₁ : Process} {result : Int}
    (h : getevents s min max answer = some (s₁, result)) :
    SoloReaches min max answer s .start s₁ (.dispatching result 0) := by
  obtain ⟨c, -, -, hc, -⟩ := getevents_frame h
  cases hg : artemisIoGetevents s.ring min max none with
  | none => simp [getevents, ringRead, hc, hg] at h
  | some g =>
    cases g with
    | syscall => exact soloReaches_of_syscall hg h
    | ring count events ring => exact soloReaches_of_ring hg h

end Solo

/-- A `poll(min, max)` call on a live context with no other thread between its steps, the kernel
answering `answer` to the system call, computes what `poll` computes: it returns `poll`'s result
and leaves `poll`'s state. -/
theorem raceRun_solo {s s' : Process} {min max result : Int} {answer : IoGeteventsAnswer}
    (ha : s.address ≠ 0) (h : poll s min max answer = some (s', result)) :
    ∃ n, raceRun (s, [⟨min, max, .start⟩]) (List.replicate n (.thread 0 answer)) =
      some (s', [⟨min, max, .returned result⟩]) := by
  simp only [poll, getIOControl_of_ne ha, Option.bind_eq_bind, Option.bind_eq_some] at h
  obtain ⟨⟨s₁, r⟩, hget, s₂, hloop, heq⟩ := h
  simp only [pure, Option.some.injEq, Prod.mk.injEq] at heq
  obtain ⟨rfl, rfl⟩ := heq
  exact (soloReaches_getevents hget).trans (soloReaches_dispatching _ _ (zero_add _) hloop)

/-! ## Two `poll` calls -/

/-- Two `poll(1, 3)` calls: both load `head` before either stores it, then the first runs to its
return, then the second. -/
def pollRaceSchedule : List RaceAction :=
  [.thread 0 (.read 0), .thread 1 (.read 0)] ++
    List.replicate 8 (.thread 0 (.read 0)) ++ List.replicate 8 (.thread 1 (.read 0))

/-- Where the two calls end. -/
def pollRaceEnd : Process × List PollThread :=
  (raceRun (twoCompleted.proc, [⟨1, 3, .start⟩, ⟨1, 3, .start⟩]) pollRaceSchedule).getD
    (twoCompleted.proc, [])

/-- From a state a serialized run reaches, with two completions waiting, two concurrent `poll`
calls both return both completions: each call hands the two callbacks to Java, each reference
is deleted twice, and `used` goes from `2` to `-2` as each descriptor is put back twice. -/
theorem poll_race :
    Reachable false threeDescs twoCompleted ∧ twoCompleted.proc.ring.pending = 2 ∧
      (twoCompleted.proc.control.map IoControl.used) = some 2 ∧
      raceRun (twoCompleted.proc, [⟨1, 3, .start⟩, ⟨1, 3, .start⟩]) pollRaceSchedule =
        some pollRaceEnd ∧
      pollRaceEnd.2 = [⟨1, 3, .returned 2⟩, ⟨1, 3, .returned 2⟩] ∧
      pollRaceEnd.1.log.count (.setCallback 0 (.ref 1)) = 2 ∧
      pollRaceEnd.1.log.count (.deleteGlobalRef (.ref 1)) = 2 ∧
      pollRaceEnd.1.log.count (.deleteGlobalRef (.ref 2)) = 2 ∧
      (pollRaceEnd.1.control.map IoControl.used) = some (-2) :=
  ⟨System.run_reachable (.init _ threeContext_initial)
      (show threeContext.run false twoCompletedRun = some twoCompleted from rfl),
    by decide, by decide, rfl, by decide, by decide, by decide, by decide, by decide⟩

/-- Where `poll(1, 3)` alone leaves `twoCompleted`. -/
def soloPollEnd : Process := ((poll twoCompleted.proc 1 3 (.read 0)).map Prod.fst).getD twoCompleted.proc

theorem raceRun_solo_twoCompleted :
    twoCompleted.proc.address ≠ 0 ∧ poll twoCompleted.proc 1 3 (.read 0) = some (soloPollEnd, 2) ∧
      ∃ n, raceRun (twoCompleted.proc, [⟨1, 3, .start⟩]) (List.replicate n (.thread 0 (.read 0))) =
        some (soloPollEnd, [⟨1, 3, .returned 2⟩]) :=
  have ha : twoCompleted.proc.address ≠ 0 := by decide
  have h : poll twoCompleted.proc 1 3 (.read 0) = some (soloPollEnd, 2) := rfl
  ⟨ha, h, raceRun_solo ha h⟩

end Jlibaio
