import Jlibaio.Spec
import Jlibaio.Exec
import Mathlib.Data.Multiset.Basic
import Mathlib.Tactic.Abel

set_option autoImplicit false

/-! # Conservation of descriptors

While the context is live every descriptor `newContext` allocated is in exactly one place: free in
the pool's window, held by a thread between `getIOCB` and `submit` (a submitting thread, or
`deleteContext` with its sentinel), queued in the kernel, waiting in the completion ring, in the
batch the harvesting call in progress still has to look at, or lost after a sentinel. Counted as a
multiset the free window and the taken descriptors make up the allocation (`LiveInv.perm`), and
every step of a run only moves descriptors between places. Since the free window holds
`queueSize - used` descriptors, the taken ones number `used`; the completions in the ring are among
them, so no call of `artemis_io_getevents` copies more than `queueSize` events into the buffer of
`queueSize` slots, whatever `max` its caller passes.

After `deleteContext` returns the control block is gone and the kernel queue released, and no step
brings them back. -/

namespace Jlibaio

/-! ## Where the descriptors are -/

/-- The descriptors of the events the harvesting call in progress has still to look at. -/
def Harvester.batch (c : IoControl) : Harvester → List Nat
  | .poll result i => bufferObjs c.events i result.toNat
  | .blockedBatch _ result i _ => bufferObjs c.events i result.toNat
  | _ => []

/-- The sentinel descriptor `deleteContext` holds between `getIOCB` and `submit`. -/
def Deleter.iocbs : Deleter → List Nat
  | .submitting iocb => [iocb]
  | _ => []

/-- The descriptors out of the pool's free window, place by place. -/
def System.taken (S : System) (c : IoControl) : List Nat :=
  S.submitting ++ S.deleter.iocbs ++ S.proc.inflight ++ S.proc.ring.contents.map IoEvent.obj ++
    S.harvester.batch c ++ S.lost

/-- What a thread holds or a harvesting call has still to look at is out of the pool, in the part
of it that is not lost. -/
theorem System.mem_held {S : System} {c : IoControl} {p : Nat}
    (hp : p ∈ S.submitting ++ S.deleter.iocbs ++ S.harvester.batch c) :
    p ∈ S.submitting ++ S.deleter.iocbs ++ S.proc.inflight ++
      S.proc.ring.contents.map IoEvent.obj ++ S.harvester.batch c := by
  simp only [List.mem_append] at hp ⊢
  rcases hp with (hp | hp) | hp <;> simp [hp]

theorem System.mem_taken_of_held {S : System} {c : IoControl} {p : Nat}
    (hp : p ∈ S.submitting ++ S.deleter.iocbs ++ S.harvester.batch c) : p ∈ S.taken c :=
  List.mem_append_left _ (System.mem_held hp)

theorem Harvester.batch_congr (h : Harvester) {c c' : IoControl} (he : c'.events = c.events) :
    h.batch c' = h.batch c := by
  cases h <;> simp [Harvester.batch, he]

@[simp] theorem Harvester.batch_getIOCB (h : Harvester) (c : IoControl) :
    h.batch (getIOCB c).1 = h.batch c :=
  h.batch_congr (getIOCB_events c)

@[simp] theorem Harvester.batch_putIOCB (h : Harvester) (c : IoControl) (p : Nat) :
    h.batch (putIOCB c p) = h.batch c :=
  h.batch_congr (putIOCB_events c p)

theorem System.coe_taken (S : System) (c : IoControl) :
    (S.taken c : Multiset Nat) = (↑S.submitting + ↑S.deleter.iocbs) + ↑S.proc.inflight +
      ↑(S.proc.ring.contents.map IoEvent.obj) + (↑(S.harvester.batch c) + ↑S.lost) := by
  simp only [System.taken, ← Multiset.coe_add, add_assoc]

theorem coe_eq_singleton_add_erase {l : List Nat} {a : Nat} (h : a ∈ l) :
    (l : Multiset Nat) = {a} + ↑(l.erase a) := by
  rw [← Multiset.coe_erase, Multiset.singleton_add, Multiset.cons_erase (Multiset.mem_coe.2 h)]

/-- A read of `k` waiting completions moves their descriptors from the ring to the buffer. -/
theorem AioRing.coe_kernelRead_objs {r : AioRing IoEvent} (hi : RingInv r) {k : Nat}
    (hk : k ≤ r.pending) :
    (((r.kernelRead k).1.map IoEvent.obj : List Nat) : Multiset Nat) +
        ↑((r.kernelRead k).2.contents.map IoEvent.obj) = ↑(r.contents.map IoEvent.obj) := by
  rw [(AioRing.kernelRead_contents hi hk).1, (AioRing.kernelRead_contents hi hk).2,
    Multiset.coe_add, ← List.map_append, List.take_append_drop]

/-- The descriptors of the events a read of `k` completions wrote to the buffer. -/
theorem bufferObjs_kernelRead (b : Nat → IoEvent) (r : AioRing IoEvent) (k : Nat) :
    bufferObjs (writeEvents b (r.kernelRead k).1) 0 k = (r.kernelRead k).1.map IoEvent.obj := by
  simpa only [AioRing.length_kernelRead] using bufferObjs_writeEvents b (r.kernelRead k).1

/-! ## The invariant -/

/-- The invariant of a live context with control block `c`: the pool is well formed and sized by
the allocation, the free window and the taken descriptors are the allocation, the ring is well
formed, and the context buffer holds the control block's address. -/
structure LiveInv (descs : List Nat) (S : System) (c : IoControl) : Prop where
  pool : PoolInv c
  size : c.queueSize = descs.length
  perm : (c.freeList ++ S.taken c).Perm descs
  ring : RingInv S.proc.ring
  address : S.proc.address ≠ 0

/-- The invariant of every reachable state: the context is live until `deleteContext` returns,
and after that its control block is freed, nothing is queued in the kernel, and the address
`getIOControl` reads is still set. -/
def SysInv (descs : List Nat) (S : System) : Prop :=
  (S.deleter = .finished ∧ S.proc.control = none ∧ S.proc.inflight = [] ∧ S.proc.address ≠ 0) ∨
    (S.deleter ≠ .finished ∧ ∃ c, S.proc.control = some c ∧ LiveInv descs S c)

section Live

variable {descs : List Nat} {S S' : System} {c c' : IoControl}

/-- A descriptor out of the free window is counted in `used`. -/
theorem LiveInv.used_pos (hl : LiveInv descs S c) {p : Nat} (hp : p ∈ S.taken c) : 0 < c.used :=
  hl.pool.used_pos hl.size hl.perm hp

theorem LiveInv.length_taken (hl : LiveInv descs S c) : ((S.taken c).length : Int) = c.used := by
  have hlen := hl.perm.length_eq
  have hu := hl.pool.used_nonneg
  have hle := hl.pool.used_le
  rw [List.length_append, IoControl.length_freeList, ← hl.size] at hlen
  omega

/-- A step that moves descriptors between places keeps the invariant. -/
theorem LiveInv.move (hl : LiveInv descs S c) (hpool : PoolInv c')
    (hsize : c'.queueSize = c.queueSize) (hring : RingInv S'.proc.ring)
    (haddr : S'.proc.address ≠ 0)
    (hmove : (c'.freeList : Multiset Nat) + ↑(S'.taken c') = ↑c.freeList + ↑(S.taken c)) :
    LiveInv descs S' c' :=
  ⟨hpool, hsize.trans hl.size,
    (Multiset.coe_eq_coe.1 (by simpa only [Multiset.coe_add] using hmove)).trans hl.perm, hring,
    haddr⟩

/-- A step that leaves the pool, the ring, the address and every place as they were keeps the
invariant. -/
theorem LiveInv.frame (hl : LiveInv descs S c) (htaken : S'.taken c = S.taken c)
    (hring : S'.proc.ring = S.proc.ring) (haddr : S'.proc.address = S.proc.address) :
    LiveInv descs S' c :=
  ⟨hl.pool, hl.size, htaken ▸ hl.perm, hring ▸ hl.ring, haddr ▸ hl.address⟩

theorem PoolInv.setEvents (hi : PoolInv c) (e : Nat → IoEvent) : PoolInv { c with events := e } :=
  ⟨hi.size_pos, hi.used_nonneg, hi.used_le, hi.get_lt, hi.put_lt, hi.get_eq⟩

/-- The start of a harvesting call: its read moves `k` completions from the ring to the batch. -/
theorem LiveInv.harvest (hl : LiveInv descs S c) (hidle : S.harvester.batch c = [])
    {k : Nat} (hk : k ≤ S.proc.ring.pending) (e : Nat → IoEvent)
    (hring : S'.proc.ring = (S.proc.ring.kernelRead k).2)
    (hbatch : S'.harvester.batch { c with events := e } =
      (S.proc.ring.kernelRead k).1.map IoEvent.obj)
    (hinfl : S'.proc.inflight = S.proc.inflight) (haddr : S'.proc.address = S.proc.address)
    (hsub : S'.submitting = S.submitting) (hdel : S'.deleter = S.deleter)
    (hlost : S'.lost = S.lost) :
    LiveInv descs S' { c with events := e } := by
  refine hl.move (hl.pool.setEvents e) rfl
    (hring ▸ (RingStep.kernelRead _ k hk).inv hl.ring) (haddr ▸ hl.address) ?_
  have hread := AioRing.coe_kernelRead_objs hl.ring hk
  rw [System.coe_taken, System.coe_taken, hbatch, hidle, hring, hinfl, hsub, hdel, hlost, ← hread]
  simp only [Multiset.coe_nil]
  show (c.freeList : Multiset Nat) + _ = ↑c.freeList + _
  abel

/-- A round of a harvesting loop puts the descriptor of the event it looked at back. -/
theorem LiveInv.putBack (hl : LiveInv descs S c) {p : Nat} {rest : List Nat}
    (hbatch : S.harvester.batch c = p :: rest)
    (hring : S'.proc.ring = S.proc.ring) (hinfl : S'.proc.inflight = S.proc.inflight)
    (haddr : S'.proc.address = S.proc.address) (hsub : S'.submitting = S.submitting)
    (hdel : S'.deleter = S.deleter)
    (hrest : (↑(S'.harvester.batch c) : Multiset Nat) + ↑S'.lost = ↑rest + ↑S.lost) :
    LiveInv descs S' (putIOCB c p) := by
  have hpos := hl.used_pos (p := p) (by simp [System.taken, hbatch])
  refine hl.move (putIOCB_poolInv hl.pool hpos p) rfl (hring ▸ hl.ring) (haddr ▸ hl.address) ?_
  rw [putIOCB_freeList hl.pool hpos, System.coe_taken, System.coe_taken, hbatch,
    Harvester.batch_putIOCB, hring, hinfl, hsub, hdel, hrest]
  simp only [← Multiset.coe_add, ← Multiset.cons_coe, ← Multiset.singleton_add, Multiset.coe_nil]
  abel

/-- `getIOCB` by a thread moves the front free descriptor to that thread. -/
theorem LiveInv.take (hl : LiveInv descs S c) (hlt : c.used < c.queueSize)
    (hring : S'.proc.ring = S.proc.ring) (hinfl : S'.proc.inflight = S.proc.inflight)
    (haddr : S'.proc.address = S.proc.address) (hbatch : S'.harvester = S.harvester)
    (hlost : S'.lost = S.lost)
    (hheld : (↑S'.submitting : Multiset Nat) + ↑S'.deleter.iocbs =
      {c.iocb c.iocbGet} + ↑S.submitting + ↑S.deleter.iocbs) :
    LiveInv descs S' (getIOCB c).1 := by
  refine hl.move (getIOCB_poolInv hl.pool) (getIOCB_queueSize c) (hring ▸ hl.ring)
    (haddr ▸ hl.address) ?_
  rw [(getIOCB_freeList hl.pool hlt).1, System.coe_taken, System.coe_taken, hbatch,
    Harvester.batch_getIOCB, hring, hinfl, hlost, hheld]
  simp only [← Multiset.coe_add, ← Multiset.cons_coe, ← Multiset.singleton_add]
  abel

/-- A refused `io_submit` puts the descriptor the thread held back. -/
theorem LiveInv.giveBack (hl : LiveInv descs S c) {p : Nat}
    (hp : p ∈ S.submitting ++ S.deleter.iocbs)
    (hring : S'.proc.ring = S.proc.ring) (hinfl : S'.proc.inflight = S.proc.inflight)
    (haddr : S'.proc.address = S.proc.address) (hbatch : S'.harvester = S.harvester)
    (hlost : S'.lost = S.lost)
    (hheld : {p} + (↑S'.submitting + ↑S'.deleter.iocbs : Multiset Nat) =
      ↑S.submitting + ↑S.deleter.iocbs) :
    LiveInv descs S' (putIOCB c p) := by
  have hpos := hl.used_pos (System.mem_taken_of_held (List.mem_append_left _ hp))
  refine hl.move (putIOCB_poolInv hl.pool hpos p) rfl (hring ▸ hl.ring) (haddr ▸ hl.address) ?_
  rw [putIOCB_freeList hl.pool hpos, System.coe_taken, System.coe_taken, hbatch,
    Harvester.batch_putIOCB, hring, hinfl, hlost, ← hheld]
  simp only [← Multiset.coe_add, ← Multiset.cons_coe, ← Multiset.singleton_add, Multiset.coe_nil]
  abel

/-- An accepted `io_submit` moves the descriptor the thread held to the kernel queue. -/
theorem LiveInv.queue (hl : LiveInv descs S c) {p : Nat}
    (hring : S'.proc.ring = S.proc.ring) (hinfl : S'.proc.inflight = p :: S.proc.inflight)
    (haddr : S'.proc.address = S.proc.address) (hbatch : S'.harvester = S.harvester)
    (hlost : S'.lost = S.lost)
    (hheld : {p} + (↑S'.submitting + ↑S'.deleter.iocbs : Multiset Nat) =
      ↑S.submitting + ↑S.deleter.iocbs) :
    LiveInv descs S' c := by
  refine hl.move hl.pool rfl (hring ▸ hl.ring) (haddr ▸ hl.address) ?_
  rw [System.coe_taken, System.coe_taken, hbatch, hring, hinfl, hlost, ← hheld]
  simp only [← Multiset.coe_add, ← Multiset.cons_coe, ← Multiset.singleton_add]
  abel

/-- The kernel completing a queued request moves its descriptor to the back of the ring. -/
theorem LiveInv.publish (hl : LiveInv descs S c) {p : Nat} (hp : p ∈ S.proc.inflight)
    {res : Int} (hroom : S.proc.ring.pending + 1 < S.proc.ring.nr) :
    LiveInv descs { S with proc := kernelComplete S.proc p res } c := by
  refine hl.move hl.pool rfl ((RingStep.append _ _ hroom).inv hl.ring) hl.address ?_
  rw [System.coe_taken, System.coe_taken]
  simp only [kernelComplete, AioRing.contents_append hl.ring hroom, List.map_append,
    coe_eq_singleton_add_erase hp]
  simp only [← Multiset.coe_add, ← Multiset.cons_coe, ← Multiset.singleton_add, Multiset.coe_nil,
    List.map_cons, List.map_nil]
  abel

/-! ## Every step keeps the invariant -/

/-- A step from a live context leaves it live with the descriptors conserved, or is
`deleteContext` freeing it. -/
theorem Step.sysInv_of_live {hooks : Bool} (hs : Step hooks S S') (hdel : S.deleter ≠ .finished)
    (hc : S.proc.control = some c) (hl : LiveInv descs S c) : SysInv descs S' := by
  cases hs with
  | prepare opcode fd position size buffer callback s iocb _ h =>
    rcases submitPrepare_spec hc hl.address h with ⟨-, rfl, rfl⟩ | ⟨hlt, rfl, rfl⟩
    · exact .inr ⟨hdel, c, hc, hl.frame (by simp [System.taken]) rfl rfl⟩
    · refine .inr ⟨hdel, _, by simp, hl.take hlt (by simp) (by simp) (by simp) rfl rfl ?_⟩
      simp only [Option.toList_some, List.singleton_append, ← Multiset.cons_coe,
        ← Multiset.singleton_add]
  | submit iocb result s ok hmem _ h =>
    rcases submit_spec hc h with ⟨-, -, rfl⟩ | ⟨-, -, rfl⟩
    · refine .inr ⟨hdel, _, by simp, hl.giveBack (p := iocb) (by simp [hmem]) (by simp) (by simp)
        (by simp) rfl rfl ?_⟩
      rw [coe_eq_singleton_add_erase hmem, add_assoc]
    · exact .inr ⟨hdel, c, hc, hl.queue rfl rfl rfl rfl rfl
        (by rw [coe_eq_singleton_add_erase hmem, add_assoc])⟩
  | complete iocb res hmem hroom _ _ => exact .inr ⟨hdel, c, hc, hl.publish hmem hroom⟩
  | pollStart min max answer s result hidle hmax hadm _ h =>
    obtain ⟨k, hk, hres, -, rfl⟩ := getevents_spec hc hl.ring hmax hadm h
    refine .inr ⟨hdel, _, rfl, hl.harvest (by rw [hidle]; rfl) hk _ rfl ?_ rfl rfl rfl rfl rfl⟩
    simp only [Harvester.batch, hres, bufferObjs_kernelRead]
  | pollRound result i s hh hi h =>
    obtain ⟨hc', hring, hinfl, haddr⟩ := pollEvent_frame hc h
    exact .inr ⟨hdel, _, hc', hl.putBack (by rw [hh]; exact bufferObjs_succ _ hi) hring hinfl haddr
      rfl rfl rfl⟩
  | pollReturn result i hh hle =>
    exact .inr ⟨hdel, c, hc, hl.frame (by simp [System.taken, hh, Harvester.batch,
      bufferObjs_of_le _ hle]) rfl rfl⟩
  | blockedStart useFdatasync hidle _ _ =>
    exact .inr ⟨hdel, c, hc, hl.frame (by simp [System.taken, hidle, Harvester.batch]) rfl rfl⟩
  | blockedGetevents useFdatasync answer c₀ s result hh hc₀ hadm h =>
    rw [hc] at hc₀
    cases hc₀
    obtain ⟨k, hk, hres, -, rfl⟩ := getevents_spec hc hl.ring (by omega) hadm h
    have hk0 : result < 0 → (S.proc.ring.kernelRead k).1 = [] := fun hneg => by
      rw [← hres, show result.toNat = 0 by omega, AioRing.kernelRead_zero hl.ring.head_lt]
    refine .inr ⟨hdel, _, by split <;> rfl, hl.harvest (by rw [hh]; rfl) hk _
      (by split <;> rfl) ?_ (by split <;> rfl) (by split <;> rfl) rfl rfl rfl⟩
    rcases lt_or_le result 0 with hneg | hnn
    · rw [hk0 hneg]
      split_ifs <;> simp [Harvester.batch, bufferObjs, show result.toNat = 0 by omega]
    · have hne : result ≠ -eintr := by simp only [eintr]; omega
      simp only [hne, not_lt.2 hnn, if_false, Harvester.batch, hres, bufferObjs_kernelRead]
  | blockedRound useFdatasync result i lastFile s lastFile' running c₀ hh hi hc₀ h =>
    rw [hc] at hc₀
    cases hc₀
    obtain ⟨hc', hring, hinfl, haddr⟩ := blockedPollEvent_frame hc h
    refine .inr ⟨hdel, _, hc', hl.putBack (by rw [hh]; exact bufferObjs_succ _ hi) hring hinfl
      haddr rfl rfl ?_⟩
    cases running <;> simp [Harvester.batch, add_comm]
  | blockedNext useFdatasync result i lastFile hh hle =>
    exact .inr ⟨hdel, c, hc, hl.frame (by simp [System.taken, hh, Harvester.batch,
      bufferObjs_of_le _ hle]) rfl rfl⟩
  | deletePrepare s iocb hidle h =>
    rcases deleteContextPrepare_spec hc hl.address h with ⟨-, rfl, rfl⟩ | ⟨hlt, rfl, rfl⟩
    · exact .inr ⟨by simp, c, hc, hl.frame (by simp [System.taken, hidle]) rfl rfl⟩
    · refine .inr ⟨by simp, _, by simp, hl.take hlt (by simp) (by simp) (by simp) rfl rfl ?_⟩
      simp [hidle, Deleter.iocbs, add_comm]
  | deleteSubmit iocb result s ok hsub _ h =>
    rcases submit_spec hc h with ⟨-, rfl, rfl⟩ | ⟨-, rfl, rfl⟩
    · refine .inr ⟨by simp, _, by simp, hl.giveBack (p := iocb) (by simp [hsub, Deleter.iocbs])
        (by simp) (by simp) (by simp) rfl rfl ?_⟩
      simp [hsub, Deleter.iocbs, add_comm]
    · exact .inr ⟨by simp, c, hc, hl.queue rfl rfl rfl rfl rfl
        (by simp [hsub, Deleter.iocbs, add_comm])⟩
  | deleteFinish answer s _ _ _ h =>
    obtain ⟨hc', hinfl, haddr⟩ := deleteContextFinish_freed h
    exact .inl ⟨rfl, hc', hinfl, haddr ▸ hl.address⟩
  | shutdownHook _ =>
    exact .inr ⟨hdel, c, by simpa using hc, hl.frame (by simp [System.taken]) (by simp) (by simp)⟩
  | openFile =>
    exact .inr ⟨hdel, c, by simpa using hc, hl.frame (by simp [System.taken]) (by simp) (by simp)⟩
  | closeFile fd _ =>
    refine .inr ⟨hdel, c, ?_, hl.frame ?_ ?_ ?_⟩ <;> split_ifs <;> simp [System.taken, hc]

end Live

/-- After `deleteContext` every call that needs the control block fails: a step is `poll` or
`blockedPoll` leaving its loop, `shutdownHook`, or a file opened or closed. -/
theorem Step.cases_of_freed {hooks : Bool} {S S' : System} (hs : Step hooks S S')
    (hdel : S.deleter = .finished) (hc : S.proc.control = none) (hinfl : S.proc.inflight = [])
    (haddr : S.proc.address ≠ 0) :
    (∃ h, S' = { S with harvester := h }) ∨
      (hooks = true ∧ S' = { S with proc := Jlibaio.shutdownHook S.proc }) ∨
      S' = { S with
        proc := (Jlibaio.openFile S.proc).1, userFds := (Jlibaio.openFile S.proc).2 :: S.userFds } ∨
      ∃ fd ∈ S.userFds, S' = { S with
        proc := if (closeFd S.proc fd).2 < 0 then
            (closeFd S.proc fd).1.throw (.ioErrno "Error closing file:" 9) else (closeFd S.proc fd).1
        userFds := S.userFds.erase fd } := by
  cases hs with
  | prepare _ _ _ _ _ _ _ _ _ h =>
    simp [submitPrepare, getIOControl_of_ne haddr, takeIOCB, hc] at h
  | submit iocb result _ _ _ hadm h =>
    rcases hadm with ⟨-, -, hsome⟩ | hneg
    · simp [hc] at hsome
    · simp only [Jlibaio.submit, ioSubmit, hneg, if_true, Option.bind_eq_bind] at h
      split_ifs at h <;> simp [hc] at h
  | complete _ _ hmem => simp [hinfl] at hmem
  | pollStart _ _ _ _ _ _ _ _ _ h => simp [getevents, hc] at h
  | pollRound _ _ _ _ _ h => simp [pollEvent, hc] at h
  | pollReturn => exact .inl ⟨_, rfl⟩
  | blockedStart _ _ _ hsome => simp [hc] at hsome
  | blockedGetevents _ _ _ _ _ _ hc' => simp [hc] at hc'
  | blockedRound _ _ _ _ _ _ _ _ _ _ hc' => simp [hc] at hc'
  | blockedNext => exact .inl ⟨_, rfl⟩
  | deletePrepare _ _ hidle => simp [hdel] at hidle
  | deleteSubmit _ _ _ _ hsub => simp [hdel] at hsub
  | deleteFinish _ _ hwait => simp [hdel] at hwait
  | shutdownHook hk => exact .inr (.inl ⟨hk, rfl⟩)
  | openFile => exact .inr (.inr (.inl rfl))
  | closeFile fd hfd => exact .inr (.inr (.inr ⟨fd, hfd, rfl⟩))

/-- After `deleteContext` no step brings the control block back: it stays freed, the kernel
queue empty and the address set. -/
theorem Step.sysInv_of_freed {hooks : Bool} {S S' : System} (hs : Step hooks S S')
    (hdel : S.deleter = .finished) (hc : S.proc.control = none) (hinfl : S.proc.inflight = [])
    (haddr : S.proc.address ≠ 0) :
    S'.deleter = .finished ∧ S'.proc.control = none ∧ S'.proc.inflight = [] ∧
      S'.proc.address ≠ 0 := by
  rcases hs.cases_of_freed hdel hc hinfl haddr with ⟨_, rfl⟩ | ⟨-, rfl⟩ | rfl | ⟨fd, -, rfl⟩
  · exact ⟨hdel, hc, hinfl, haddr⟩
  · simpa using ⟨hdel, hc, hinfl, haddr⟩
  · simpa using ⟨hdel, hc, hinfl, haddr⟩
  · split_ifs <;> simpa using ⟨hdel, hc, hinfl, haddr⟩

theorem Step.sysInv {hooks : Bool} {descs : List Nat} {S S' : System} (hs : Step hooks S S')
    (hi : SysInv descs S) : SysInv descs S' := by
  rcases hi with ⟨hdel, hc, hinfl, haddr⟩ | ⟨hdel, c, hc, hl⟩
  · exact .inl (hs.sysInv_of_freed hdel hc hinfl haddr)
  · exact hs.sysInv_of_live hdel hc hl

theorem System.Initial.sysInv {descs : List Nat} {S : System} (h : S.Initial descs) :
    SysInv descs S := by
  obtain ⟨c, hc, hfresh⟩ := h.control
  refine .inr ⟨by simp [h.deleter], c, hc, hfresh.poolInv h.length_pos, hfresh.size, ?_, h.ring,
    h.address⟩
  have hempty : S.proc.ring.contents = [] := by simp [AioRing.contents, h.ring_empty]
  simp [System.taken, hfresh.freeList, h.submitting, h.deleter, h.inflight, hempty, h.harvester,
    h.lost, Deleter.iocbs, Harvester.batch]

theorem Reachable.sysInv {hooks : Bool} {descs : List Nat} {S : System}
    (h : Reachable hooks descs S) : SysInv descs S := by
  induction h with
  | init S hS => exact hS.sysInv
  | step _ hs ih => exact hs.sysInv ih


/-! ## The count of `used` and the bound on the events buffer -/

theorem Reachable.liveInv {hooks : Bool} {descs : List Nat} {S : System} {c : IoControl}
    (hS : Reachable hooks descs S) (hc : S.proc.control = some c) : LiveInv descs S c := by
  rcases hS.sysInv with ⟨-, hnone, -⟩ | ⟨-, c', hc', hl⟩
  · simp [hnone] at hc
  · rw [hc] at hc'
    cases hc'
    exact hl

/-- On every state of a run with a live context, the completions waiting in the ring, the
requests queued in the kernel, the harvested events whose descriptor is not back (in the batch
being looked at, or after a sentinel) and the descriptors held between `getIOCB` and `submit`
number `used`, which is at most `queueSize`. So every call of `artemis_io_getevents`, with any
Java `int` `max` and any answer the kernel may give, copies at most `queueSize` events, and
`getevents` never writes past the `queueSize` slots of the events buffer. -/
theorem used_conserved {hooks : Bool} {descs : List Nat} {S : System} {c : IoControl}
    (hS : Reachable hooks descs S) (hc : S.proc.control = some c) :
    ((S.proc.ring.pending + S.proc.inflight.length + (S.harvester.batch c ++ S.lost).length +
        (S.submitting ++ S.deleter.iocbs).length : Nat) : Int) = c.used ∧
      c.used ≤ c.queueSize ∧
      ∀ (minNr max : Int) (answer : IoGeteventsAnswer), -2 ^ 31 ≤ max →
        answer.Admissible S.proc.ring minNr max →
        ∃ result events ring, ringRead S.proc.ring minNr max answer = some (result, events, ring) ∧
          events.length ≤ c.queueSize ∧ ∃ s, getevents S.proc minNr max answer = some (s, result) := by
  have hl := hS.liveInv hc
  have hcount : ((S.proc.ring.pending + S.proc.inflight.length +
      (S.harvester.batch c ++ S.lost).length + (S.submitting ++ S.deleter.iocbs).length : Nat) :
        Int) = c.used := by
    rw [← hl.length_taken]
    simp only [System.taken, List.length_append, AioRing.length_contents, List.length_map]
    omega
  have hle := hl.pool.used_le
  refine ⟨hcount, hle, fun minNr max answer hmax hadm => ?_⟩
  obtain ⟨result, k, hk, -, hread⟩ := ringRead_spec hl.ring hmax hadm
  have hkq : k ≤ c.queueSize := by omega
  refine ⟨result, _, _, hread, by simpa using hkq, ?_⟩
  simp [getevents, hc, hread, hkq]

/-- Two writes to file `4`, on descriptors `100` and `101` with callbacks, both completed: a
state of a serialized run with two completions waiting. -/
def twoCompletedRun : List Action :=
  [.openFile,
    .prepare .pwrite 4 0 512 0 (some 1), .submit 100 1,
    .prepare .pwrite 4 512 512 0 (some 2), .submit 101 1,
    .complete 100 512, .complete 101 512]

/-- The state `twoCompletedRun` reaches. -/
def twoCompleted : System := (threeContext.run false twoCompletedRun).getD threeContext

/-- The control block of `twoCompleted`. -/
def twoCompletedControl : IoControl := twoCompleted.proc.control.getD freshPool

theorem used_conserved_twoCompleted :
    Reachable false threeDescs twoCompleted ∧
      twoCompleted.proc.control = some twoCompletedControl ∧
      twoCompleted.proc.ring.pending = 2 ∧ twoCompletedControl.used = 2 ∧
      ((twoCompleted.proc.ring.pending + twoCompleted.proc.inflight.length +
          (twoCompleted.harvester.batch twoCompletedControl ++ twoCompleted.lost).length +
          (twoCompleted.submitting ++ twoCompleted.deleter.iocbs).length : Nat) : Int) =
        twoCompletedControl.used ∧
      twoCompletedControl.used ≤ twoCompletedControl.queueSize ∧
      ∀ (minNr max : Int) (answer : IoGeteventsAnswer), -2 ^ 31 ≤ max →
        answer.Admissible twoCompleted.proc.ring minNr max →
        ∃ result events ring,
          ringRead twoCompleted.proc.ring minNr max answer = some (result, events, ring) ∧
          events.length ≤ twoCompletedControl.queueSize ∧
          ∃ s, getevents twoCompleted.proc minNr max answer = some (s, result) :=
  have hS : Reachable false threeDescs twoCompleted :=
    System.run_reachable (.init _ threeContext_initial)
      (show threeContext.run false twoCompletedRun = some twoCompleted from rfl)
  ⟨hS, rfl, by decide, by decide, used_conserved hS rfl⟩

end Jlibaio
