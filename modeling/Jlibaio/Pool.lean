import Jlibaio.Ring
import Mathlib.Data.List.Nodup

set_option autoImplicit false

/-! # The iocb pool of `struct io_control`

A context keeps its `queueSize` request descriptors (`struct iocb *`) in the circular array
`iocb`: `getIOCB` hands out the one at `iocbGet`, `putIOCB` stores a returned one at `iocbPut`,
and `used` counts the descriptors handed out, which tells a full pool from an empty one when
`iocbGet = iocbPut`.

The free descriptors are the `queueSize - used` slots from `iocbGet` on (`IoControl.freeList`);
on that list `getIOCB` pops the front and `putIOCB` pushes at the back (`getIOCB_freeList`,
`putIOCB_freeList`), so the pool is a FIFO queue of free descriptors. Over every run of
`getIOCB` and `putIOCB` calls from the state `newContext` builds, in which only outstanding
descriptors are put back, the free list and the outstanding descriptors together are the
descriptors `newContext` allocated, each once (`getIOCB_putIOCB_run`). -/

namespace Jlibaio

/-- `struct io_event`, the fields the code reads: the iocb it completes and its result. -/
structure IoEvent where
  obj : Nat
  res : Int
  deriving DecidableEq, Repr

/-- `struct io_control`. Descriptors and other pointers are addresses (`Nat`); `events` is the
buffer of `queueSize` events and `thisObject` the global reference `newContext` takes. The two
mutexes are not data here: `iocbLock` makes `getIOCB` and `putIOCB` atomic, and `pollLock` is
part of the harvesting threads' state in the system model. -/
structure IoControl where
  ioContext : Nat
  events : Nat → IoEvent
  thisObject : Nat
  iocb : Nat → Nat
  queueSize : Nat
  iocbPut : Nat
  iocbGet : Nat
  used : Int

/-- `getIOCB`: the descriptor at `iocbGet`, or `NULL` (`none`) when all are in use. -/
def getIOCB (control : IoControl) : IoControl × Option Nat :=
  if control.used < control.queueSize then
    let get := control.iocbGet + 1
    ({ control with
        used := control.used + 1
        iocbGet := if get ≥ control.queueSize then 0 else get },
      some (control.iocb control.iocbGet))
  else (control, none)

/-- `putIOCB` -/
def putIOCB (control : IoControl) (iocbBack : Nat) : IoControl :=
  let put := control.iocbPut + 1
  { control with
    used := control.used - 1
    iocb := Function.update control.iocb control.iocbPut iocbBack
    iocbPut := if put ≥ control.queueSize then 0 else put }

/-- The free descriptors, from `iocbGet` on: the pool as a FIFO queue. -/
def IoControl.freeList (c : IoControl) : List Nat :=
  (List.range (c.queueSize - c.used.toNat)).map fun i => c.iocb ((c.iocbGet + i) % c.queueSize)

/-- The bookkeeping of the pool in every reachable state. -/
structure PoolInv (c : IoControl) : Prop where
  size_pos : 0 < c.queueSize
  used_nonneg : 0 ≤ c.used
  used_le : c.used ≤ c.queueSize
  get_lt : c.iocbGet < c.queueSize
  put_lt : c.iocbPut < c.queueSize
  get_eq : c.iocbGet = (c.iocbPut + c.used.toNat) % c.queueSize

/-! ## The pool operations on the free list -/

@[simp] theorem getIOCB_queueSize (c : IoControl) : (getIOCB c).1.queueSize = c.queueSize := by
  unfold getIOCB; split <;> rfl

@[simp] theorem putIOCB_queueSize (c : IoControl) (p : Nat) :
    (putIOCB c p).queueSize = c.queueSize := rfl

@[simp] theorem putIOCB_used (c : IoControl) (p : Nat) : (putIOCB c p).used = c.used - 1 := rfl

@[simp] theorem getIOCB_events (c : IoControl) : (getIOCB c).1.events = c.events := by
  unfold getIOCB; split <;> rfl

@[simp] theorem putIOCB_events (c : IoControl) (p : Nat) : (putIOCB c p).events = c.events := rfl

@[simp] theorem getIOCB_thisObject (c : IoControl) : (getIOCB c).1.thisObject = c.thisObject := by
  unfold getIOCB; split <;> rfl

@[simp] theorem putIOCB_thisObject (c : IoControl) (p : Nat) :
    (putIOCB c p).thisObject = c.thisObject := rfl

theorem getIOCB_eq_none_iff (c : IoControl) : (getIOCB c).2 = none ↔ c.used = c.queueSize ∨
    (c.queueSize : Int) < c.used := by
  unfold getIOCB; split <;> simp <;> omega

theorem getIOCB_of_lt {c : IoControl} (h : c.used < c.queueSize) :
    (getIOCB c).2 = some (c.iocb c.iocbGet) := by
  simp only [getIOCB, h, if_true]

theorem getIOCB_of_full {c : IoControl} (h : ¬ c.used < c.queueSize) : getIOCB c = (c, none) := by
  simp only [getIOCB, h, if_false]

@[simp] theorem IoControl.length_freeList (c : IoControl) :
    c.freeList.length = c.queueSize - c.used.toNat := by
  simp [IoControl.freeList]

/-- The wrap of `iocbGet` and `iocbPut` after their increment. -/
theorem wrap_succ {x n : Nat} (h : x < n) : (if x + 1 ≥ n then 0 else x + 1) = (x + 1) % n := by
  rw [mod_eq_ite (by omega)]
  split <;> split <;> omega

section Inv

variable {c : IoControl} (hi : PoolInv c)
include hi

/-- `getIOCB` pops the front of the free list. -/
theorem getIOCB_freeList (hlt : c.used < c.queueSize) :
    c.freeList = c.iocb c.iocbGet :: (getIOCB c).1.freeList ∧
      (getIOCB c).2 = some (c.iocb c.iocbGet) := by
  have hg := hi.get_lt
  have hu := hi.used_nonneg
  have hn : c.queueSize - c.used.toNat = (c.queueSize - (c.used + 1).toNat) + 1 := by omega
  simp only [getIOCB, hlt, if_true, IoControl.freeList, hn, List.range_succ_eq_map,
    List.map_cons, List.map_map, Nat.add_zero, Nat.mod_eq_of_lt hg, and_true]
  congr 1
  refine List.map_congr_left fun i _ => ?_
  simp only [Function.comp_apply]
  congr 1
  split <;> rename_i hge
  · rw [show c.iocbGet + (i + 1) = (0 + i) + c.queueSize by omega, Nat.add_mod_right]
  · rw [Nat.add_assoc, Nat.add_comm 1 i]

/-- `putIOCB` pushes at the back of the free list, while a descriptor is out. -/
theorem putIOCB_freeList (hpos : 0 < c.used) (p : Nat) :
    (putIOCB c p).freeList = c.freeList ++ [p] := by
  have hg := hi.get_lt
  have hp := hi.put_lt
  have hle := hi.used_le
  have heq := hi.get_eq
  have hn : c.queueSize - (c.used - 1).toNat = (c.queueSize - c.used.toNat) + 1 := by omega
  simp only [IoControl.freeList, putIOCB, hn, List.range_succ, List.map_append, List.map_cons,
    List.map_nil]
  congr 1
  · refine List.map_congr_left fun i hmem => ?_
    rw [List.mem_range] at hmem
    refine Function.update_noteq (fun h => ?_) _ _
    rw [heq, Nat.mod_add_mod, mod_eq_ite (by omega)] at h
    split at h <;> omega
  · have hput : (c.iocbGet + (c.queueSize - c.used.toNat)) % c.queueSize = c.iocbPut := by
      rw [heq, Nat.mod_add_mod, mod_eq_ite (by omega)]
      split <;> omega
    rw [hput, Function.update_same]

theorem getIOCB_poolInv : PoolInv (getIOCB c).1 := by
  unfold getIOCB
  split
  · have hg := hi.get_lt
    have hu := hi.used_nonneg
    refine ⟨hi.size_pos, by simp only; omega, by simp only; omega, ?_, hi.put_lt, ?_⟩ <;>
      simp only [wrap_succ hg]
    · exact Nat.mod_lt _ hi.size_pos
    · rw [hi.get_eq, Nat.mod_add_mod, show (c.used + 1).toNat = c.used.toNat + 1 by omega,
        Nat.add_assoc]
  · exact hi

theorem putIOCB_poolInv (hpos : 0 < c.used) (p : Nat) : PoolInv (putIOCB c p) := by
  have hp := hi.put_lt
  have hle := hi.used_le
  refine ⟨hi.size_pos, by simp only [putIOCB]; omega, by simp only [putIOCB]; omega, hi.get_lt,
    ?_, ?_⟩ <;> simp only [putIOCB, wrap_succ hp]
  · exact Nat.mod_lt _ hi.size_pos
  · rw [hi.get_eq, Nat.mod_add_mod, show (c.used - 1).toNat = c.used.toNat - 1 by omega,
      Nat.add_assoc, Nat.add_sub_cancel' (by omega)]

end Inv

/-! ## Runs of the pool -/

/-- What `newContext` leaves in the pool: the descriptors it allocated, in order in `iocb`, and
`iocbPut = iocbGet = used = 0`. -/
structure IoControl.Fresh (c : IoControl) (descs : List Nat) : Prop where
  size : c.queueSize = descs.length
  slots : ∀ i (h : i < descs.length), c.iocb i = descs[i]
  put : c.iocbPut = 0
  get : c.iocbGet = 0
  used : c.used = 0

theorem IoControl.Fresh.freeList {c : IoControl} {descs : List Nat} (h : c.Fresh descs) :
    c.freeList = descs := by
  apply List.ext_getElem
  · simp [h.size, h.used]
  · intro n h1 _
    have : n < descs.length := by simpa [h.size, h.used] using h1
    simp [IoControl.freeList, h.get, h.size, Nat.mod_eq_of_lt this, h.slots n this]

theorem IoControl.Fresh.poolInv {c : IoControl} {descs : List Nat} (h : c.Fresh descs)
    (hN : 0 < descs.length) : PoolInv c := by
  have hlt : 0 < c.queueSize := h.size ▸ hN
  exact ⟨hlt, by rw [h.used], by rw [h.used]; omega, h.get ▸ hlt, h.put ▸ hlt,
    by simp [h.get, h.put, h.used]⟩

/-- A descriptor outside the free list means one is in use. -/
theorem PoolInv.used_pos {c : IoControl} (hi : PoolInv c) {descs taken : List Nat}
    (hsize : c.queueSize = descs.length) (hperm : (c.freeList ++ taken).Perm descs) {p : Nat}
    (hp : p ∈ taken) : 0 < c.used := by
  have hlen := hperm.length_eq
  have hout : 0 < taken.length := List.length_pos_of_mem hp
  have hle := hi.used_le
  simp only [List.length_append, IoControl.length_freeList, hsize] at hlen
  omega

/-- One call on the pool, with the descriptors outstanding as ghost state: a `getIOCB`, or a
`putIOCB` of an outstanding descriptor, in any order. -/
inductive PoolStep : IoControl × List Nat → IoControl × List Nat → Prop
  | get (c : IoControl) (out : List Nat) :
      PoolStep (c, out) ((getIOCB c).1, (getIOCB c).2.toList ++ out)
  | put (c : IoControl) (out : List Nat) (p : Nat) :
      p ∈ out → PoolStep (c, out) (putIOCB c p, out.erase p)

/-- The pool states a run reaches from the one `newContext` builds over `descs`. -/
inductive PoolReachable (descs : List Nat) : IoControl × List Nat → Prop
  | init (c : IoControl) : c.Fresh descs → PoolReachable descs (c, [])
  | step {s s' : IoControl × List Nat} :
      PoolReachable descs s → PoolStep s s' → PoolReachable descs s'

/-- The pool's bookkeeping, and every descriptor either free or outstanding, once. -/
structure PoolRunInv (descs : List Nat) (s : IoControl × List Nat) : Prop where
  pool : PoolInv s.1
  size : s.1.queueSize = descs.length
  perm : (s.1.freeList ++ s.2).Perm descs

theorem PoolStep.runInv {descs : List Nat} {s s' : IoControl × List Nat} (hs : PoolStep s s')
    (hi : PoolRunInv descs s) : PoolRunInv descs s' := by
  cases hs with
  | get c out =>
    by_cases hlt : c.used < c.queueSize
    · obtain ⟨hfree, hget⟩ := getIOCB_freeList hi.pool hlt
      refine ⟨getIOCB_poolInv hi.pool, by simpa using hi.size, ?_⟩
      rw [hget]
      refine List.perm_middle.trans ?_
      simpa [hfree] using hi.perm
    · simpa [getIOCB_of_full hlt] using hi
  | put c out p hp =>
    have hpos := hi.pool.used_pos hi.size hi.perm hp
    refine ⟨putIOCB_poolInv hi.pool hpos p, hi.size, ?_⟩
    rw [putIOCB_freeList hi.pool hpos, List.append_assoc, List.singleton_append]
    exact ((List.perm_cons_erase hp).append_left _).symm.trans hi.perm

theorem PoolReachable.runInv {descs : List Nat} (hN : 0 < descs.length)
    {s : IoControl × List Nat} (h : PoolReachable descs s) : PoolRunInv descs s := by
  induction h with
  | init c hc => exact ⟨hc.poolInv hN, hc.size, by simp [hc.freeList]⟩
  | step _ hs ih => exact hs.runInv ih

/-- The pool never loses nor duplicates a descriptor. Over every run of `getIOCB` and `putIOCB`
from the pool `newContext` builds over `N ≥ 1` distinct descriptors, in which only outstanding
descriptors are put back, in any order: `0 ≤ used ≤ N`, both indices stay below `N`,
`iocbGet = (iocbPut + used) mod N`, and the `N - used` slots from `iocbGet` on hold exactly the
descriptors not outstanding, each once. So `getIOCB` returns `NULL` and changes nothing exactly
when `used = N`, and otherwise returns a descriptor no request holds. -/
theorem getIOCB_putIOCB_run {descs : List Nat} (hnodup : descs.Nodup) (hN : 0 < descs.length)
    {c : IoControl} {out : List Nat} (h : PoolReachable descs (c, out)) :
    (0 ≤ c.used ∧ c.used ≤ c.queueSize) ∧ c.iocbGet < c.queueSize ∧ c.iocbPut < c.queueSize ∧
      c.iocbGet = (c.iocbPut + c.used.toNat) % c.queueSize ∧
      c.freeList.length = c.queueSize - c.used.toNat ∧ (c.freeList ++ out).Perm descs ∧
      c.freeList.Nodup ∧ (∀ p, p ∈ c.freeList ↔ p ∈ descs ∧ p ∉ out) ∧
      ((getIOCB c).2 = none ↔ c.used = c.queueSize) ∧
      ((getIOCB c).2 = none → (getIOCB c).1 = c) ∧
      (∀ p, (getIOCB c).2 = some p → p ∉ out) := by
  have hi := h.runInv hN
  have hnd : (c.freeList ++ out).Nodup := hi.perm.nodup_iff.mpr hnodup
  have hdisj := (List.nodup_append.mp hnd).2.2
  have hmem : ∀ p, p ∈ c.freeList ↔ p ∈ descs ∧ p ∉ out := fun p => by
    rw [← hi.perm.mem_iff, List.mem_append]
    exact ⟨fun hp => ⟨Or.inl hp, fun ho => hdisj hp ho⟩, fun ⟨hp, ho⟩ => hp.resolve_right ho⟩
  have hle : c.used ≤ c.queueSize := hi.pool.used_le
  refine ⟨⟨hi.pool.used_nonneg, hle⟩, hi.pool.get_lt, hi.pool.put_lt, hi.pool.get_eq, by simp,
    hi.perm, (List.nodup_append.mp hnd).1, hmem, ?_, ?_, ?_⟩
  · rw [getIOCB_eq_none_iff]; omega
  · intro hnone
    rw [getIOCB_eq_none_iff] at hnone
    exact congrArg Prod.fst (getIOCB_of_full (by omega))
  · intro p hp
    by_cases hlt : c.used < c.queueSize
    · obtain ⟨hfree, hget⟩ := getIOCB_freeList hi.pool hlt
      rw [hget, Option.some.injEq] at hp
      exact ((hmem p).mp (hfree ▸ hp ▸ List.mem_cons_self _ _)).2
    · simp [getIOCB_of_full hlt] at hp

/-- A pool of three descriptors after two `getIOCB` calls and the return of the second one. -/
def threeDescs : List Nat := [100, 101, 102]

/-- The pool `newContext` builds over `threeDescs`. -/
def freshPool : IoControl :=
  { ioContext := 0, events := fun _ => ⟨0, 0⟩, thisObject := 0, iocb := fun i => threeDescs.getD i 0,
    queueSize := 3, iocbPut := 0, iocbGet := 0, used := 0 }

theorem freshPool_reachable :
    PoolReachable threeDescs (putIOCB (getIOCB (getIOCB freshPool).1).1 101, [100]) :=
  .step (.step (.step (.init _ ⟨rfl, by decide, rfl, rfl, rfl⟩) (.get _ _)) (.get _ _))
    (.put _ _ 101 (by decide))

theorem getIOCB_putIOCB_run_freshPool :
    threeDescs.Nodup ∧ 0 < threeDescs.length ∧
      PoolReachable threeDescs (putIOCB (getIOCB (getIOCB freshPool).1).1 101, [100]) ∧
      let c := putIOCB (getIOCB (getIOCB freshPool).1).1 101
      (0 ≤ c.used ∧ c.used ≤ c.queueSize) ∧ c.iocbGet < c.queueSize ∧ c.iocbPut < c.queueSize ∧
      c.iocbGet = (c.iocbPut + c.used.toNat) % c.queueSize ∧
      c.freeList.length = c.queueSize - c.used.toNat ∧ (c.freeList ++ [100]).Perm threeDescs ∧
      c.freeList.Nodup ∧ (∀ p, p ∈ c.freeList ↔ p ∈ threeDescs ∧ p ∉ [100]) ∧
      ((getIOCB c).2 = none ↔ c.used = c.queueSize) ∧
      ((getIOCB c).2 = none → (getIOCB c).1 = c) ∧
      (∀ p, (getIOCB c).2 = some p → p ∉ [100]) :=
  ⟨by decide, by decide, freshPool_reachable,
    getIOCB_putIOCB_run (by decide) (by decide) freshPool_reachable⟩

end Jlibaio
