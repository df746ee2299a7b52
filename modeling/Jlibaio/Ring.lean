import Mathlib.Algebra.Group.Int
import Mathlib.Data.List.Range

set_option autoImplicit false

/-! # The kernel completion ring and `artemis_io_getevents`

`artemis_io_getevents` reads the completion ring the kernel maps at the `io_context_t` address
(`struct aio_ring`) and, when the ring is usable and enough completions are waiting, copies them
out in user space instead of calling `io_getevents`. The C code computes with 32-bit `unsigned`
and `int` values; `toUnsigned` and `toSigned` are the conversions it relies on, so the model
computes exactly as the source does, wrap-around of `tail - head` included.

The ring is a FIFO of completions: `AioRing.contents` lists the waiting events oldest first, the
kernel appends at `tail` (`AioRing.append`) and its own read for the system call consumes from
`head` (`AioRing.kernelRead`). The main result, `artemisIoGetevents_eq_kernelRead`, says that on
every ring reachable by appends, kernel reads and user-space reads, the user-space branch is taken
exactly when the code's `available` reaches `min_nr` (or the timeout is zero), and then returns
exactly what the kernel's own read would return, leaving the ring as that read leaves it. -/

namespace Jlibaio

/-! ## C integer conversions -/

/-- Reduction of an integer value to a 32-bit `unsigned`. -/
def toUnsigned (x : Int) : Nat := (x % 2 ^ 32).toNat

/-- Conversion of a 32-bit `unsigned` to `int`, two's complement as gcc converts it. -/
def toSigned (u : Nat) : Int := if u < 2 ^ 31 then u else u - 2 ^ 32

theorem toSigned_toUnsigned_of_range {x : Int} (h0 : -2 ^ 31 ≤ x) (h1 : x < 2 ^ 31) :
    toSigned (toUnsigned x) = x := by
  simp only [toSigned, toUnsigned]
  split <;> omega

/-! ## The ring -/

/-- `AIO_RING_MAGIC` -/
def aioRingMagic : Nat := 0xa10a10a1

/-- `AIO_RING_INCOMPAT_FEATURES` -/
def aioRingIncompatFeatures : Nat := 0

/-- `struct aio_ring` with its `io_events` array, as the kernel maps it. The kernel sizes the ring
when it sets it up: `nr` is positive and below `2^31`. -/
structure AioRing (E : Type) where
  nr : Nat
  head : Nat
  tail : Nat
  magic : Nat
  incompatFeatures : Nat
  ioEvents : Fin nr → E
  nr_pos : 0 < nr
  nr_lt : nr < 2 ^ 31

/-- `struct timespec` -/
structure Timespec where
  tvSec : Int
  tvNsec : Int
  deriving DecidableEq, Repr

variable {E : Type}

/-- `has_usable_ring` -/
def hasUsableRing (r : AioRing E) : Bool :=
  r.magic == aioRingMagic && r.incompatFeatures == aioRingIncompatFeatures

/-- `timeout && timeout->tv_sec == 0 && timeout->tv_nsec == 0` -/
def isZeroTimeout : Option Timespec → Bool
  | some t => t.tvSec == 0 && t.tvNsec == 0
  | none => false

/-- `ring->io_events[i]`: reading past `nr` is undefined behaviour, `none` here. -/
def AioRing.readEvent (r : AioRing E) (i : Nat) : Option E :=
  if h : i < r.nr then some (r.ioEvents ⟨i, h⟩) else none

/-- The copy loop of `artemis_io_getevents`: `n` rounds of `events[i] = ring->io_events[head]`
followed by the advance of `head`, modulo `ring_nr` when `needMod` is set. -/
def copyEvents (r : AioRing E) (needMod : Bool) : Nat → Nat → Option (List E × Nat)
  | 0, head => some ([], head)
  | n + 1, head => do
    let e ← r.readEvent head
    let head' := if needMod then toUnsigned (head + 1) % r.nr else toUnsigned (head + 1)
    let (es, last) ← copyEvents r needMod n head'
    pure (e :: es, last)

/-- What `artemis_io_getevents` does: either it completes in user space, returning the count,
the events written to `events[0..count)` and the ring with the `head` it stored, or it falls
through to the `io_getevents` system call. -/
inductive Getevents (E : Type) where
  | ring (count : Int) (events : List E) (ring : AioRing E)
  | syscall

/-- `available` as the source computes it: the `unsigned` difference converted to `int`, then
`available += ring_nr` when it came out negative. -/
def ringAvailable (r : AioRing E) : Int :=
  let available := toSigned (toUnsigned (r.tail - r.head))
  if available < 0 then toSigned (toUnsigned (available + r.nr)) else available

/-- `ring->head = head` -/
def AioRing.setHead (r : AioRing E) (head : Nat) : AioRing E := { r with head := head }

/-- `artemis_io_getevents`, `none` when it reads past the end of `io_events`. -/
def artemisIoGetevents (r : AioRing E) (minNr max : Int) (timeout : Option Timespec) :
    Option (Getevents E) :=
  if hasUsableRing r then
    let available := ringAvailable r
    if minNr ≤ available ∨ isZeroTimeout timeout = true then
      if available = 0 then some (.ring 0 [] r)
      else
        let availableNr := toSigned (toUnsigned (if available < max then available else max))
        let needMod := decide (r.nr ≤ toUnsigned (r.head + availableNr))
        match copyEvents r needMod availableNr.toNat r.head with
        | none => none
        | some (events, head) => some (.ring availableNr events (r.setHead head))
    else some .syscall
  else some .syscall

/-! ## The kernel's side of the ring -/

/-- The slot `i` places after slot `0`, counting modulo `nr`. -/
def AioRing.slot (r : AioRing E) (i : Nat) : E :=
  r.ioEvents ⟨i % r.nr, Nat.mod_lt _ r.nr_pos⟩

/-- The number of completions waiting, `(tail - head) mod nr`. -/
def AioRing.pending (r : AioRing E) : Nat := (r.tail + r.nr - r.head) % r.nr

/-- The waiting completions, oldest first. -/
def AioRing.contents (r : AioRing E) : List E :=
  (List.range r.pending).map fun i => r.slot (r.head + i)

/-- The kernel publishing a completion: the event goes to slot `tail`, which then advances. -/
def AioRing.append (r : AioRing E) (e : E) : AioRing E :=
  { r with
    ioEvents := fun j => if j.val = r.tail then e else r.ioEvents j
    tail := (r.tail + 1) % r.nr }

/-- The kernel's own read for the `io_getevents` system call: `k` events from `head` on, in
order, and `head` advanced by `k` modulo `nr`. -/
def AioRing.kernelRead (r : AioRing E) (k : Nat) : List E × AioRing E :=
  ((List.range k).map fun i => r.slot (r.head + i), r.setHead ((r.head + k) % r.nr))

@[simp] theorem AioRing.length_contents (r : AioRing E) : r.contents.length = r.pending := by
  simp [AioRing.contents]

@[simp] theorem AioRing.length_kernelRead (r : AioRing E) (k : Nat) :
    (r.kernelRead k).1.length = k := by
  simp [AioRing.kernelRead]

/-- The ring as the kernel sets it up: empty, with its magic and no incompatible features. -/
def AioRing.init (nr : Nat) (h0 : 0 < nr) (h1 : nr < 2 ^ 31) (slots : Fin nr → E) : AioRing E :=
  { nr := nr, head := 0, tail := 0, magic := aioRingMagic,
    incompatFeatures := aioRingIncompatFeatures, ioEvents := slots, nr_pos := h0, nr_lt := h1 }

/-! ## Arithmetic of the ring indices -/

@[simp] theorem AioRing.setHead_nr (r : AioRing E) (h : Nat) : (r.setHead h).nr = r.nr := rfl
@[simp] theorem AioRing.setHead_head (r : AioRing E) (h : Nat) : (r.setHead h).head = h := rfl
@[simp] theorem AioRing.setHead_tail (r : AioRing E) (h : Nat) : (r.setHead h).tail = r.tail := rfl
@[simp] theorem AioRing.setHead_magic (r : AioRing E) (h : Nat) :
    (r.setHead h).magic = r.magic := rfl
@[simp] theorem AioRing.setHead_incompatFeatures (r : AioRing E) (h : Nat) :
    (r.setHead h).incompatFeatures = r.incompatFeatures := rfl
@[simp] theorem AioRing.setHead_slot (r : AioRing E) (h i : Nat) :
    (r.setHead h).slot i = r.slot i := rfl

@[simp] theorem AioRing.append_nr (r : AioRing E) (e : E) : (r.append e).nr = r.nr := rfl
@[simp] theorem AioRing.append_head (r : AioRing E) (e : E) : (r.append e).head = r.head := rfl
@[simp] theorem AioRing.append_tail (r : AioRing E) (e : E) :
    (r.append e).tail = (r.tail + 1) % r.nr := rfl
@[simp] theorem AioRing.append_magic (r : AioRing E) (e : E) :
    (r.append e).magic = r.magic := rfl
@[simp] theorem AioRing.append_incompatFeatures (r : AioRing E) (e : E) :
    (r.append e).incompatFeatures = r.incompatFeatures := rfl

theorem AioRing.slot_append (r : AioRing E) (e : E) (j : Nat) :
    (r.append e).slot j = if j % r.nr = r.tail then e else r.slot j := rfl

theorem mod_eq_ite {a n : Nat} (h : a < 2 * n) : a % n = if a < n then a else a - n := by
  split
  · exact Nat.mod_eq_of_lt ‹_›
  · rw [Nat.mod_eq_sub_mod (by omega), Nat.mod_eq_of_lt (by omega)]

@[simp] theorem AioRing.slot_mod_add (r : AioRing E) (a b : Nat) :
    r.slot (a % r.nr + b) = r.slot (a + b) := by
  simp only [AioRing.slot, Nat.mod_add_mod]

theorem AioRing.slot_of_lt (r : AioRing E) {i : Nat} (h : i < r.nr) :
    r.slot i = r.ioEvents ⟨i, h⟩ := by
  simp only [AioRing.slot, Nat.mod_eq_of_lt h]

theorem AioRing.readEvent_of_lt (r : AioRing E) {i : Nat} (h : i < r.nr) :
    r.readEvent i = some (r.slot i) := by
  simp only [AioRing.readEvent, h, dif_pos, AioRing.slot_of_lt]

/-- `pending` is the one distance below `nr` that leads from `head` to `tail`. -/
theorem AioRing.pending_lt (r : AioRing E) : r.pending < r.nr :=
  Nat.mod_lt _ r.nr_pos

theorem AioRing.head_add_pending (r : AioRing E) (hh : r.head < r.nr) (ht : r.tail < r.nr) :
    (r.head + r.pending) % r.nr = r.tail := by
  have h2 := mod_eq_ite (a := r.tail + r.nr - r.head) (n := r.nr) (by omega)
  simp only [AioRing.pending, h2]
  split <;> rw [mod_eq_ite (by omega)] <;> split <;> omega

theorem AioRing.pending_unique (r : AioRing E) (hh : r.head < r.nr) {d : Nat} (hd : d < r.nr)
    (ht : (r.head + d) % r.nr = r.tail) : r.pending = d := by
  rw [mod_eq_ite (by omega)] at ht
  have h2 := mod_eq_ite (a := r.tail + r.nr - r.head) (n := r.nr) (by split at ht <;> omega)
  simp only [AioRing.pending, h2]
  split at ht <;> split <;> omega

/-- The `int` the source computes for `available` is `pending`, wrap-around included. -/
theorem ringAvailable_eq_pending (r : AioRing E) (hh : r.head < r.nr) (ht : r.tail < r.nr) :
    ringAvailable r = r.pending := by
  have := r.nr_lt
  have h2 := mod_eq_ite (a := r.tail + r.nr - r.head) (n := r.nr) (by omega)
  simp only [ringAvailable, AioRing.pending, h2,
    toSigned_toUnsigned_of_range (x := (r.tail : Int) - r.head) (by omega) (by omega)]
  split_ifs
  all_goals first | omega | rw [toSigned_toUnsigned_of_range (by omega) (by omega)]; omega

/-! ## The copy loop -/

/-- With the modulo, the loop reads `n` consecutive slots from any `head` below `nr`. -/
theorem copyEvents_mod (r : AioRing E) (n : Nat) :
    ∀ h, h < r.nr →
      copyEvents r true n h = some ((List.range n).map fun i => r.slot (h + i), (h + n) % r.nr) := by
  induction n with
  | zero => intro h hh; simp [copyEvents, Nat.mod_eq_of_lt hh]
  | succ n ih =>
    intro h hh
    have := r.nr_lt
    have hu : toUnsigned (h + 1) = h + 1 := by simp only [toUnsigned]; omega
    simp only [copyEvents, r.readEvent_of_lt hh, hu, if_true, ih _ (Nat.mod_lt _ r.nr_pos),
      Option.some_bind, List.range_succ_eq_map, List.map_cons, List.map_map]
    simp [Function.comp_def, Nat.add_assoc, Nat.add_comm 1]

/-- Without the modulo, the loop reads `n` consecutive slots when `head + n` stays below `nr`. -/
theorem copyEvents_noMod (r : AioRing E) (n : Nat) :
    ∀ h, h + n < r.nr →
      copyEvents r false n h = some ((List.range n).map fun i => r.slot (h + i), h + n) := by
  induction n with
  | zero => intro h _; simp [copyEvents]
  | succ n ih =>
    intro h hh
    have := r.nr_lt
    have hu : toUnsigned (h + 1) = h + 1 := by simp only [toUnsigned]; omega
    simp only [copyEvents, r.readEvent_of_lt (by omega : h < r.nr), hu, Bool.false_eq_true,
      if_false, ih (h + 1) (by omega), Option.some_bind, List.range_succ_eq_map, List.map_cons, List.map_map]
    simp [Function.comp_def, Nat.add_assoc, Nat.add_comm 1]

/-- In either loop, copying `a ≤ nr - 1` events from `head` is the kernel's read of `a` events. -/
theorem copyEvents_eq_kernelRead (r : AioRing E) (hh : r.head < r.nr) {a : Int} (h0 : 0 ≤ a)
    (h1 : a < r.nr) :
    copyEvents r (decide (r.nr ≤ toUnsigned (r.head + a))) a.toNat r.head =
      some ((r.kernelRead a.toNat).1, (r.kernelRead a.toNat).2.head) := by
  have := r.nr_lt
  have hu : toUnsigned (r.head + a) = r.head + a.toNat := by simp only [toUnsigned]; omega
  rw [hu]
  by_cases hm : r.nr ≤ r.head + a.toNat
  · simp only [hm, decide_True, copyEvents_mod r a.toNat r.head hh, AioRing.kernelRead,
      AioRing.setHead_head]
  · simp only [hm, decide_False, copyEvents_noMod r a.toNat r.head (by omega), AioRing.kernelRead,
      AioRing.setHead_head, Nat.mod_eq_of_lt (by omega : r.head + a.toNat < r.nr)]

/-! ## `artemis_io_getevents` on a well-formed ring -/

/-- What holds of the ring in every reachable state. -/
structure RingInv (r : AioRing E) : Prop where
  head_lt : r.head < r.nr
  tail_lt : r.tail < r.nr
  usable : hasUsableRing r = true

/-- On a well-formed ring, `artemis_io_getevents` with `max ≥ 0` either falls through to the system
call, or returns `min available max` events exactly as the kernel's read of that many would. -/
theorem artemisIoGetevents_of_inv {r : AioRing E} (hi : RingInv r) (minNr : Int) {max : Int}
    (hmax : 0 ≤ max) (timeout : Option Timespec) :
    artemisIoGetevents r minNr max timeout =
      if minNr ≤ r.pending ∨ isZeroTimeout timeout = true then
        if r.pending = 0 then some (.ring 0 [] r)
        else some (.ring (min (r.pending : Int) max) (r.kernelRead (min (r.pending : Int) max).toNat).1
          (r.kernelRead (min (r.pending : Int) max).toNat).2)
      else some .syscall := by
  have hlt := r.pending_lt
  have hnr := r.nr_lt
  have hmin : toSigned (toUnsigned (if (r.pending : Int) < max then (r.pending : Int) else max)) =
      min (r.pending : Int) max := by
    rw [toSigned_toUnsigned_of_range] <;> split <;> omega
  simp only [artemisIoGetevents, hi.usable, if_true, ringAvailable_eq_pending r hi.head_lt hi.tail_lt,
    Int.ofNat_eq_zero, hmin]
  split_ifs
  · rfl
  · rw [copyEvents_eq_kernelRead r hi.head_lt (by omega) (by omega)]
    rfl
  · rfl

@[simp] theorem AioRing.setHead_self (r : AioRing E) : r.setHead r.head = r := rfl

theorem AioRing.kernelRead_zero {r : AioRing E} (hh : r.head < r.nr) :
    r.kernelRead 0 = ([], r) := by
  simp [AioRing.kernelRead, Nat.mod_eq_of_lt hh]

/-- With a negative `max`, as a Java `int` can be, the user-space branch copies nothing, stores
`head` back unchanged and returns `max`. -/
theorem artemisIoGetevents_of_neg {r : AioRing E} (hi : RingInv r) (minNr : Int) {max : Int}
    (h0 : -2 ^ 31 ≤ max) (h1 : max < 0) (timeout : Option Timespec) :
    artemisIoGetevents r minNr max timeout =
      if minNr ≤ r.pending ∨ isZeroTimeout timeout = true then
        if r.pending = 0 then some (.ring 0 [] r) else some (.ring max [] r)
      else some .syscall := by
  have hmax : toSigned (toUnsigned (if (r.pending : Int) < max then (r.pending : Int) else max)) =
      max := by
    rw [if_neg (by omega)]
    simp only [toSigned, toUnsigned]
    split <;> omega
  simp only [artemisIoGetevents, hi.usable, if_true, ringAvailable_eq_pending r hi.head_lt hi.tail_lt,
    Int.ofNat_eq_zero, hmax, show max.toNat = 0 by omega]
  split_ifs <;> rfl

/-! ## The ring is a FIFO -/

section Fifo

variable {r : AioRing E} (hi : RingInv r)
include hi

theorem AioRing.pending_append {e : E} (hp : r.pending + 1 < r.nr) :
    (r.append e).pending = r.pending + 1 := by
  apply AioRing.pending_unique (r.append e) hi.head_lt hp
  show (r.head + (r.pending + 1)) % r.nr = (r.tail + 1) % r.nr
  rw [← Nat.add_assoc, ← Nat.mod_add_mod, r.head_add_pending hi.head_lt hi.tail_lt]

/-- A completion the kernel publishes goes to the back of the queue. -/
theorem AioRing.contents_append {e : E} (hp : r.pending + 1 < r.nr) :
    (r.append e).contents = r.contents ++ [e] := by
  have htail := r.head_add_pending hi.head_lt hi.tail_lt
  have hlt := r.pending_lt
  have hh := hi.head_lt
  simp only [AioRing.contents, AioRing.pending_append hi hp, List.range_succ, List.map_append,
    List.map_cons, List.map_nil, AioRing.slot_append, AioRing.append_head, htail, if_true]
  congr 1
  refine List.map_congr_left fun i hmem => if_neg ?_
  rw [List.mem_range] at hmem
  rw [← htail, mod_eq_ite (by omega), mod_eq_ite (by omega)]
  split <;> split <;> omega

theorem AioRing.pending_kernelRead {k : Nat} (hk : k ≤ r.pending) :
    (r.kernelRead k).2.pending = r.pending - k := by
  have hlt := r.pending_lt
  apply AioRing.pending_unique _ (Nat.mod_lt _ r.nr_pos) (by show r.pending - k < r.nr; omega)
  show ((r.head + k) % r.nr + (r.pending - k)) % r.nr = r.tail
  rw [Nat.mod_add_mod, Nat.add_assoc, Nat.add_sub_cancel' hk,
    r.head_add_pending hi.head_lt hi.tail_lt]

/-- The kernel's read takes the front of the queue and leaves the rest. -/
theorem AioRing.kernelRead_contents {k : Nat} (hk : k ≤ r.pending) :
    (r.kernelRead k).1 = r.contents.take k ∧ (r.kernelRead k).2.contents = r.contents.drop k := by
  constructor
  · simp only [AioRing.kernelRead, AioRing.contents, ← List.map_take, List.take_range,
      Nat.min_eq_left hk]
  · apply List.ext_getElem
    · simp [AioRing.contents, AioRing.pending_kernelRead hi hk]
    · intro n _ _
      simp [AioRing.contents, AioRing.kernelRead, List.getElem_drop, Nat.add_assoc]

end Fifo

/-! ## Runs of the ring -/

/-- One step of a run on the ring: the kernel publishes a completion while fewer than `nr - 1` are
waiting, the kernel reads for the `io_getevents` system call, or a call of `artemis_io_getevents`
with `0 ≤ min_nr ≤ max` completes in user space. -/
inductive RingStep : AioRing E → AioRing E → Prop
  | append (r : AioRing E) (e : E) : r.pending + 1 < r.nr → RingStep r (r.append e)
  | kernelRead (r : AioRing E) (k : Nat) : k ≤ r.pending → RingStep r (r.kernelRead k).2
  | getevents (r r' : AioRing E) (minNr max count : Int) (timeout : Option Timespec)
      (events : List E) : 0 ≤ minNr → minNr ≤ max →
      artemisIoGetevents r minNr max timeout = some (.ring count events r') → RingStep r r'

/-- The rings a run reaches from the kernel's setup. -/
inductive RingReachable : AioRing E → Prop
  | init (nr : Nat) (h0 : 0 < nr) (h1 : nr < 2 ^ 31) (slots : Fin nr → E) :
      RingReachable (AioRing.init nr h0 h1 slots)
  | step {r r' : AioRing E} : RingReachable r → RingStep r r' → RingReachable r'

theorem RingStep.inv {r r' : AioRing E} (hs : RingStep r r') (hi : RingInv r) : RingInv r' := by
  cases hs with
  | append e _ => exact ⟨hi.head_lt, Nat.mod_lt _ r.nr_pos, hi.usable⟩
  | kernelRead k _ => exact ⟨Nat.mod_lt _ r.nr_pos, hi.tail_lt, hi.usable⟩
  | getevents _ minNr max count timeout events h0 h1 h =>
    rw [artemisIoGetevents_of_inv hi minNr (by omega) timeout] at h
    split_ifs at h <;> cases h
    · exact hi
    · exact ⟨Nat.mod_lt _ r.nr_pos, hi.tail_lt, hi.usable⟩

theorem RingReachable.inv {r : AioRing E} (h : RingReachable r) : RingInv r := by
  induction h with
  | init nr h0 _ _ => exact ⟨h0, h0, by simp [hasUsableRing, AioRing.init]⟩
  | step _ hs ih => exact hs.inv ih

/-- Fast path and system call agree. On every ring a run reaches, `head` and `tail` stay below
`nr`, the code's `available` is `(tail - head) mod nr`, and a call with `0 ≤ min_nr ≤ max`
completes in user space exactly when `available` reaches `min_nr` or the timeout is zero. It then
returns `0` and consumes nothing on an empty ring, and otherwise returns the `min available max`
events `io_events[(head + i) mod nr]` the kernel's own read returns, reads no slot past `nr` in
either loop (the result is not `none`), and stores the `head` that read leaves. -/
theorem artemisIoGetevents_eq_kernelRead {r : AioRing E} (hr : RingReachable r) {minNr max : Int}
    (hmin : 0 ≤ minNr) (hmax : minNr ≤ max) (timeout : Option Timespec) :
    r.head < r.nr ∧ r.tail < r.nr ∧ ringAvailable r = r.pending ∧
      artemisIoGetevents r minNr max timeout =
        if minNr ≤ r.pending ∨ isZeroTimeout timeout = true then
          if r.pending = 0 then some (.ring 0 [] r)
          else some (.ring (min (r.pending : Int) max)
            (r.kernelRead (min (r.pending : Int) max).toNat).1
            (r.kernelRead (min (r.pending : Int) max).toNat).2)
        else some .syscall := by
  have hi := hr.inv
  exact ⟨hi.head_lt, hi.tail_lt, ringAvailable_eq_pending r hi.head_lt hi.tail_lt,
    artemisIoGetevents_of_inv hi minNr (by omega) timeout⟩

/-- A ring of four slots after a wrap: three completions published and read, two more published,
so `head = 3` and `tail = 1`. -/
def wrappedRing : AioRing Nat :=
  ((((((AioRing.init 4 (by decide) (by decide) fun i => i.val).append 10).append 11).append 12
    |>.kernelRead 3).2.append 13).append 14)

theorem wrappedRing_reachable : RingReachable wrappedRing :=
  .step (.step (.step (.step (.step (.step (.init _ _ _ _) (.append _ 10 (by decide)))
    (.append _ 11 (by decide))) (.append _ 12 (by decide))) (.kernelRead _ 3 (by decide)))
    (.append _ 13 (by decide))) (.append _ 14 (by decide))

theorem artemisIoGetevents_wrappedRing :
    RingReachable wrappedRing ∧ (0 : Int) ≤ 1 ∧ (1 : Int) ≤ 4 ∧
      (wrappedRing.head < wrappedRing.nr ∧ wrappedRing.tail < wrappedRing.nr ∧
        ringAvailable wrappedRing = wrappedRing.pending ∧
        artemisIoGetevents wrappedRing 1 4 none =
          if 1 ≤ wrappedRing.pending ∨ isZeroTimeout none = true then
            if wrappedRing.pending = 0 then some (.ring 0 [] wrappedRing)
            else some (.ring (min (wrappedRing.pending : Int) 4)
              (wrappedRing.kernelRead (min (wrappedRing.pending : Int) 4).toNat).1
              (wrappedRing.kernelRead (min (wrappedRing.pending : Int) 4).toNat).2)
          else some .syscall) :=
  ⟨wrappedRing_reachable, by decide, by decide,
    artemisIoGetevents_eq_kernelRead wrappedRing_reachable (by decide) (by decide) none⟩

example : wrappedRing.head = 3 ∧ wrappedRing.tail = 1 ∧ wrappedRing.pending = 2 ∧
    (wrappedRing.kernelRead 2).1 = [13, 14] := by decide

end Jlibaio
