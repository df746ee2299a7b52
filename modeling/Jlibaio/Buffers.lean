import Jlibaio.Context

set_option autoImplicit false

/-! # Native buffers: `newAlignedBuffer`, `memsetBuffer`, `freeBuffer`

Java does its `O_DIRECT` reads and writes from blocks the library allocates outside the Java
heap. `newAlignedBuffer(size, alignment)` checks that `size` is a multiple of `alignment`,
allocates the block with `posix_memalign`, zeroes it and wraps it in a direct `ByteBuffer` of
capacity `size`; `freeBuffer` frees the buffer's `address` field, and `memsetBuffer` zeroes
`size` bytes from it. `getBuffer` reads the address field, `0` for a buffer on the Java heap.

What `posix_memalign` and `NewDirectByteBuffer` answer is an argument, and undefined behaviour
(`size % alignment` for `alignment = 0`, a `free` of an address that is no block) is `none`.
When `NewDirectByteBuffer` fails, the block stays allocated with nothing pointing to it (the
`NULL` case of `newAlignedBuffer_cases` that adds a block).

Over every run in which Java zeroes and frees only buffers it holds, zeroing within their
capacity, no call is undefined: every buffer Java holds is a block of its own, live and of the
buffer's capacity, freeing it gives back exactly that block, and `memsetBuffer` writes only
inside it (`buffers_safe`, from the invariant `BufferReachable.inv`). -/

namespace Jlibaio

/-! ## The model -/

/-- A Java `ByteBuffer` as `getBuffer` reads it: the `address` field (`0` unless the buffer is
direct) and the capacity. -/
structure JBuffer where
  address : Nat
  capacity : Int
  deriving DecidableEq, Repr

/-- Native memory as the buffer calls use it: the blocks `posix_memalign` returned and `free`
has not given back, each with its size, the bytes, and the log of exceptions. -/
structure NativeHeap where
  blocks : List (Nat × Nat)
  bytes : Nat → UInt8
  log : List Effect

/-- What `posix_memalign` answers: a nonzero error number, or the block's address. -/
inductive MemalignAnswer where
  | error (code : Int)
  | block (p : Nat)
  deriving DecidableEq, Repr

namespace NativeHeap

/-- Raise a Java exception. -/
def throw (h : NativeHeap) (e : Exception) : NativeHeap := { h with log := h.log ++ [.throw e] }

/-- `memset(p, 0, n)` -/
def zero (h : NativeHeap) (p n : Nat) : NativeHeap :=
  { h with bytes := fun j => if p ≤ j ∧ j < p + n then 0 else h.bytes j }

/-- `free(p)`: nothing for `NULL`, the block at `p` given back, `none` if no block starts at `p`. -/
def free (h : NativeHeap) (p : Nat) : Option NativeHeap :=
  if p = 0 then some h
  else match h.blocks.find? (·.1 = p) with
    | some blk => some { h with blocks := h.blocks.erase blk }
    | none => none

@[simp] theorem throw_blocks (h : NativeHeap) (e : Exception) : (h.throw e).blocks = h.blocks :=
  rfl

@[simp] theorem zero_blocks (h : NativeHeap) (p n : Nat) : (h.zero p n).blocks = h.blocks := rfl

end NativeHeap

/-- `getBuffer(env, pointer)`: the buffer's `address` field. -/
def getBuffer (b : JBuffer) : Nat := b.address

/-- `Java_..._newAlignedBuffer(env, clazz, size, alignment)`: the direct buffer, or `NULL`.
`NewDirectByteBuffer` answers `direct`; when it fails it has raised `OutOfMemoryError`. -/
def newAlignedBuffer (h : NativeHeap) (size alignment : Int) (memalign : MemalignAnswer)
    (direct : Bool) : Option (NativeHeap × Option JBuffer) :=
  if alignment = 0 ∨ (size = -2 ^ 31 ∧ alignment = -1) then none
  else if size.tmod alignment ≠ 0 then
    some (h.throw (.runtime "Buffer size needs to be aligned to passed argument"), none)
  else match memalign with
    | .error result => some (h.throw (.runtimeErrno "Can't allocate posix buffer:" result), none)
    | .block p =>
      let h := ({ h with blocks := (p, toSizeT size) :: h.blocks } : NativeHeap).zero p (toSizeT size)
      if direct then some (h, some ⟨p, size⟩) else some (h.throw .outOfMemory, none)

/-- `Java_..._freeBuffer(env, clazz, jbuffer)`; `none` where `free` is undefined. -/
def freeBuffer (h : NativeHeap) (jbuffer : Option JBuffer) : Option NativeHeap :=
  match jbuffer with
  | none => some (h.throw (.runtime "Null pointer"))
  | some b => h.free (getBuffer b)

/-- `Java_..._memsetBuffer(env, clazz, jbuffer, size)`. -/
def memsetBuffer (h : NativeHeap) (jbuffer : JBuffer) (size : Int) : NativeHeap :=
  if getBuffer jbuffer = 0 then
    h.throw (.runtime "Invalid Buffer used, libaio requires NativeBuffer instead of Java ByteBuffer")
  else h.zero (getBuffer jbuffer) (toSizeT size)

/-! ## Runs -/

/-- Java's side of the native buffers: the direct buffers it holds, and the native heap. -/
structure BufferWorld where
  heap : NativeHeap
  held : List JBuffer

/-- One call on native buffers. `posix_memalign` returns a nonzero address no live block starts
at, `NewDirectByteBuffer` makes a buffer only of a capacity a Java `int` holds, and Java zeroes and frees only buffers it
holds, zeroing within their capacity. -/
inductive BufferStep : BufferWorld → BufferWorld → Prop
  | allocate (w : BufferWorld) (size alignment : Int) (memalign : MemalignAnswer) (direct : Bool)
      (h : NativeHeap) (b : Option JBuffer)
      (hfresh : ∀ p, memalign = .block p → p ≠ 0 ∧ p ∉ w.heap.blocks.map Prod.fst)
      (hcap : direct = true → 0 ≤ size ∧ size < 2 ^ 31)
      (hcall : newAlignedBuffer w.heap size alignment memalign direct = some (h, b)) :
      BufferStep w ⟨h, b.toList ++ w.held⟩
  | memset (w : BufferWorld) (b : JBuffer) (size : Int) (hb : b ∈ w.held)
      (hsize : 0 ≤ size ∧ size ≤ b.capacity) :
      BufferStep w ⟨memsetBuffer w.heap b size, w.held⟩
  | free (w : BufferWorld) (b : JBuffer) (h : NativeHeap) (hb : b ∈ w.held)
      (hcall : freeBuffer w.heap (some b) = some h) :
      BufferStep w ⟨h, w.held.erase b⟩

/-- The worlds reachable from a heap with no block and no buffer. -/
inductive BufferReachable : BufferWorld → Prop
  | init (bytes : Nat → UInt8) (log : List Effect) : BufferReachable ⟨⟨[], bytes, log⟩, []⟩
  | step {w w' : BufferWorld} : BufferReachable w → BufferStep w w' → BufferReachable w'

/-- Every buffer Java holds is a live block of its own, at a nonzero address and of the buffer's
capacity; no two blocks start at one address. -/
structure BufferInv (w : BufferWorld) : Prop where
  starts_nodup : (w.heap.blocks.map Prod.fst).Nodup
  held_nodup : (w.held.map getBuffer).Nodup
  held_block : ∀ b ∈ w.held, 0 < getBuffer b ∧ 0 ≤ b.capacity ∧ b.capacity < 2 ^ 31 ∧
    (getBuffer b, toSizeT b.capacity) ∈ w.heap.blocks

/-- `newAlignedBuffer` either changes no block and returns `NULL`, or adds one block at the
address `posix_memalign` gave, wrapped in a buffer of capacity `size` or in none. -/
theorem newAlignedBuffer_cases {h h' : NativeHeap} {size alignment : Int}
    {memalign : MemalignAnswer} {direct : Bool} {b : Option JBuffer}
    (hcall : newAlignedBuffer h size alignment memalign direct = some (h', b)) :
    (h'.blocks = h.blocks ∧ b = none) ∨
      ∃ p, memalign = .block p ∧ h'.blocks = (p, toSizeT size) :: h.blocks ∧
        (b = none ∨ direct = true ∧ b = some ⟨p, size⟩) := by
  unfold newAlignedBuffer at hcall
  split_ifs at hcall with hub hdvd hdirect
  · cases hcall; exact .inl ⟨rfl, rfl⟩
  all_goals cases memalign with
    | error code => cases hcall; exact .inl ⟨rfl, rfl⟩
    | block p => cases hcall; exact .inr ⟨p, rfl, rfl, by simp [hdirect]⟩

@[simp] theorem memsetBuffer_blocks (h : NativeHeap) (b : JBuffer) (size : Int) :
    (memsetBuffer h b size).blocks = h.blocks := by
  unfold memsetBuffer; split <;> rfl

/-- A `free` that succeeds on a nonzero address gives back the block starting there. -/
theorem NativeHeap.free_blocks {h h' : NativeHeap} {p : Nat} (hp : p ≠ 0)
    (hfree : h.free p = some h') : ∃ blk ∈ h.blocks, blk.1 = p ∧ h'.blocks = h.blocks.erase blk := by
  unfold free at hfree
  rw [if_neg hp] at hfree
  split at hfree
  · next blk hfind =>
    cases hfree
    exact ⟨blk, List.mem_of_find?_eq_some hfind, by simpa using List.find?_some hfind, rfl⟩
  · cases hfree

/-- `memsetBuffer` changes bytes only in the `size` bytes from the buffer's address. -/
theorem memsetBuffer_bytes {h : NativeHeap} {b : JBuffer} {size : Int} {j : Nat}
    (hj : (memsetBuffer h b size).bytes j ≠ h.bytes j) :
    getBuffer b ≤ j ∧ j < getBuffer b + toSizeT size := by
  unfold memsetBuffer at hj
  split at hj
  · exact absurd rfl hj
  · by_contra hout
    exact hj (if_neg hout)

/-- `(size_t)` keeps the order of counts that fit it. -/
theorem toSizeT_le {a b : Int} (ha : 0 ≤ a) (hab : a ≤ b) (hb : b < 2 ^ 64) :
    toSizeT a ≤ toSizeT b := by
  unfold toSizeT
  rw [Int.emod_eq_of_lt ha (by omega), Int.emod_eq_of_lt (by omega) hb]
  omega

section Step

variable {w : BufferWorld} (hi : BufferInv w)
include hi

theorem BufferInv.start_mem {b : JBuffer} (hb : b ∈ w.held) :
    getBuffer b ∈ w.heap.blocks.map Prod.fst :=
  List.mem_map.2 ⟨_, (hi.held_block b hb).2.2.2, rfl⟩

/-- `newAlignedBuffer` keeps the invariant: its block starts at an address no live block starts
at, and the buffer it returns, if any, wraps that block. -/
theorem BufferInv.allocate {h : NativeHeap} {size alignment : Int} {memalign : MemalignAnswer}
    {direct : Bool} {b : Option JBuffer}
    (hfresh : ∀ p, memalign = .block p → p ≠ 0 ∧ p ∉ w.heap.blocks.map Prod.fst)
    (hcap : direct = true → 0 ≤ size ∧ size < 2 ^ 31)
    (hcall : newAlignedBuffer w.heap size alignment memalign direct = some (h, b)) :
    BufferInv ⟨h, b.toList ++ w.held⟩ := by
  rcases newAlignedBuffer_cases hcall with ⟨hblocks, rfl⟩ | ⟨p, rfl, hblocks, hb⟩
  · exact ⟨hblocks ▸ hi.starts_nodup, hi.held_nodup, by simpa [hblocks] using hi.held_block⟩
  obtain ⟨hp0, hpfresh⟩ := hfresh p rfl
  have hstarts : (h.blocks.map Prod.fst).Nodup := by
    rw [hblocks]; exact List.nodup_cons.2 ⟨hpfresh, hi.starts_nodup⟩
  have hold : ∀ c ∈ w.held, 0 < getBuffer c ∧ 0 ≤ c.capacity ∧ c.capacity < 2 ^ 31 ∧
      (getBuffer c, toSizeT c.capacity) ∈ h.blocks := fun c hc =>
    have ⟨hpos, hnonneg, hlt, hmem⟩ := hi.held_block c hc
    ⟨hpos, hnonneg, hlt, hblocks ▸ List.mem_cons_of_mem _ hmem⟩
  rcases hb with rfl | ⟨hdirect, rfl⟩
  · exact ⟨hstarts, hi.held_nodup, hold⟩
  · have hnew : p ∉ w.held.map getBuffer := fun hp => hpfresh (by
      obtain ⟨c, hc, rfl⟩ := List.mem_map.1 hp
      exact hi.start_mem hc)
    refine ⟨hstarts, List.nodup_cons.2 ⟨hnew, hi.held_nodup⟩, ?_⟩
    exact List.forall_mem_cons.2 ⟨⟨Nat.pos_of_ne_zero hp0, (hcap hdirect).1, (hcap hdirect).2,
      hblocks ▸ List.mem_cons_self _ _⟩, hold⟩

/-- Freeing a held buffer keeps the invariant: the block it gives back is that buffer's, and no
other held buffer starts there. -/
theorem BufferInv.free {b : JBuffer} {h : NativeHeap} (hb : b ∈ w.held)
    (hcall : freeBuffer w.heap (some b) = some h) : BufferInv ⟨h, w.held.erase b⟩ := by
  obtain ⟨hpos, -, -, hmem⟩ := hi.held_block b hb
  obtain ⟨blk, hblk, hstart, hblocks⟩ := NativeHeap.free_blocks hpos.ne' hcall
  have hheld : w.held.Nodup := List.Nodup.of_map _ hi.held_nodup
  refine ⟨?_, ?_, fun c hc => ?_⟩
  · rw [hblocks]; exact ((List.erase_sublist _ _).map _).nodup hi.starts_nodup
  · exact ((List.erase_sublist _ _).map _).nodup hi.held_nodup
  · obtain ⟨hcb, hc⟩ := (hheld.mem_erase_iff).1 hc
    obtain ⟨hcpos, hccap, hccap', hcmem⟩ := hi.held_block c hc
    have hne : getBuffer c ≠ getBuffer b := fun heq => hcb (List.inj_on_of_nodup_map hi.held_nodup hc hb heq)
    refine ⟨hcpos, hccap, hccap', hblocks ▸ List.mem_erase_of_ne ?_ |>.2 hcmem⟩
    rintro rfl
    exact hne hstart

/-- Freeing a buffer Java holds gives back exactly its block. -/
theorem BufferInv.freeBuffer_held {b : JBuffer} (hb : b ∈ w.held) :
    ∃ h, freeBuffer w.heap (some b) = some h ∧
      h.blocks = w.heap.blocks.erase (getBuffer b, toSizeT b.capacity) := by
  obtain ⟨hpos, -, -, hmem⟩ := hi.held_block b hb
  obtain ⟨blk, hfind⟩ : ∃ blk, w.heap.blocks.find? (·.1 = getBuffer b) = some blk :=
    Option.isSome_iff_exists.1 (List.find?_isSome.2 ⟨_, hmem, by simp⟩)
  have hblk : blk = (getBuffer b, toSizeT b.capacity) :=
    List.inj_on_of_nodup_map hi.starts_nodup (List.mem_of_find?_eq_some hfind) hmem
      (by simpa using List.find?_some hfind)
  refine ⟨{ w.heap with blocks := w.heap.blocks.erase blk }, ?_, by rw [hblk]⟩
  simp only [freeBuffer, NativeHeap.free, if_neg hpos.ne', hfind]

end Step

/-- Every call keeps the invariant. -/
theorem BufferStep.inv {w w' : BufferWorld} (hs : BufferStep w w') (hi : BufferInv w) :
    BufferInv w' := by
  cases hs with
  | allocate _ _ _ _ _ _ hfresh hcap hcall => exact hi.allocate hfresh hcap hcall
  | memset _ _ _ _ => exact ⟨by simpa using hi.starts_nodup, hi.held_nodup, by simpa using hi.held_block⟩
  | free _ _ hb hcall => exact hi.free hb hcall

/-- The invariant holds over every run. -/
theorem BufferReachable.inv {w : BufferWorld} (hw : BufferReachable w) : BufferInv w := by
  induction hw with
  | init bytes log => exact ⟨List.nodup_nil, List.nodup_nil, fun _ hb => absurd hb (List.not_mem_nil _)⟩
  | step _ hs ih => exact hs.inv ih

/-- Over every run in which Java zeroes and frees only buffers it holds, zeroing within their
capacity: the buffers Java holds start at distinct addresses, and each is a live block of its
own, at a nonzero address and of the buffer's capacity; freeing it is defined and gives back
exactly that block; and zeroing it writes only inside that block. -/
theorem buffers_safe {w : BufferWorld} (hw : BufferReachable w) :
    (w.held.map getBuffer).Nodup ∧
      ∀ b ∈ w.held, (0 < getBuffer b ∧ 0 ≤ b.capacity ∧ b.capacity < 2 ^ 31 ∧
        (getBuffer b, toSizeT b.capacity) ∈ w.heap.blocks) ∧
      (∃ h, freeBuffer w.heap (some b) = some h ∧
        h.blocks = w.heap.blocks.erase (getBuffer b, toSizeT b.capacity)) ∧
      ∀ size, 0 ≤ size → size ≤ b.capacity → ∀ j,
        (memsetBuffer w.heap b size).bytes j ≠ w.heap.bytes j →
          getBuffer b ≤ j ∧ j < getBuffer b + toSizeT b.capacity := by
  have hi := hw.inv
  refine ⟨hi.held_nodup, fun b hb => ⟨hi.held_block b hb, hi.freeBuffer_held hb,
    fun size hsize hcap j hj => ?_⟩⟩
  obtain ⟨hlo, hhi⟩ := memsetBuffer_bytes hj
  have hcap' : b.capacity < 2 ^ 64 := by have := (hi.held_block b hb).2.2.1; omega
  exact ⟨hlo, lt_of_lt_of_le hhi (Nat.add_le_add_left (toSizeT_le hsize hcap hcap') _)⟩

/-- Java's world after one buffer of 4096 bytes, aligned to 512, is allocated at address 4096 on
an empty heap. -/
def oneBuffer : BufferWorld :=
  ⟨NativeHeap.zero ⟨[(4096, 4096)], fun _ => 0, []⟩ 4096 4096, [⟨4096, 4096⟩]⟩

theorem oneBuffer_reachable : BufferReachable oneBuffer :=
  .step (.init (fun _ => 0) [])
    (.allocate _ 4096 512 (.block 4096) true _ (some ⟨4096, 4096⟩)
      (fun p hp => by cases hp; simp) (fun _ => by decide) rfl)

theorem buffers_safe_oneBuffer :
    (oneBuffer.held.map getBuffer).Nodup ∧
      ∀ b ∈ oneBuffer.held, (0 < getBuffer b ∧ 0 ≤ b.capacity ∧ b.capacity < 2 ^ 31 ∧
        (getBuffer b, toSizeT b.capacity) ∈ oneBuffer.heap.blocks) ∧
      (∃ h, freeBuffer oneBuffer.heap (some b) = some h ∧
        h.blocks = oneBuffer.heap.blocks.erase (getBuffer b, toSizeT b.capacity)) ∧
      ∀ size, 0 ≤ size → size ≤ b.capacity → ∀ j,
        (memsetBuffer oneBuffer.heap b size).bytes j ≠ oneBuffer.heap.bytes j →
          getBuffer b ≤ j ∧ j < getBuffer b + toSizeT b.capacity :=
  buffers_safe oneBuffer_reachable

end Jlibaio
