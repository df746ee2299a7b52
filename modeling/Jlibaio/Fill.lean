import Jlibaio.Context
import Mathlib.Algebra.BigOperators.Group.List
import Mathlib.Algebra.Order.Ring.Nat

set_option autoImplicit false

/-! # `fill` and the shared zero buffer

`fill(fd, alignment, size)` makes sure the process-wide `oneMegaBuffer` exists (`verifyBuffer`:
the first call allocates it with `posix_memalign(..., alignment, ONE_MEGA)` and zeroes it), then
writes it `blocks = size / ONE_MEGA` times and once more for `rest = size % ONE_MEGA` bytes, both
stored in `int`. A write that returns a negative count raises an `IOException`; a short count is
not noticed.

What the allocator and the kernel answer is an argument. With every write answering its full
request or `-1`, `fill` either raises an `IOException` or leaves the file's bytes `[0, size)`
zero (`fill_zeroes`; after any run of calls, `fillRun_zeroes`). A short write, or a `size` whose block count does not fit in `int`, makes
`fill` return normally with less written (`fill_short`). The buffer is allocated once, with the
alignment of the call that allocated it, and every later call writes from it whatever its own
alignment (`fillRun_buffers`, `fill_misaligned`). -/

namespace Jlibaio

/-! ## The model -/

/-- `ONE_MEGA` -/
def oneMega : Int := 1048576

theorem oneMega_toNat : oneMega.toNat = 1048576 := rfl

/-- A file as `fill` sees it: its bytes and the offset of the descriptor. -/
structure FileState where
  bytes : Nat → UInt8
  offset : Nat

/-- The process-wide state `fill` reads and writes: `oneMegaBuffer` (`none` for `NULL`), the
bytes of the block it points to, the files by descriptor, and the log of exceptions. -/
structure FillState where
  oneMegaBuffer : Option Nat
  buffer : Nat → UInt8
  files : Int → FileState
  log : List Effect

namespace FillState

/-- Raise a Java exception. -/
def throw (s : FillState) (e : Exception) : FillState := { s with log := s.log ++ [.throw e] }

/-- `lseek(fd, 0, SEEK_SET)` -/
def rewind (s : FillState) (fd : Int) : FillState :=
  { s with files := Function.update s.files fd { s.files fd with offset := 0 } }

/-- `write(fd, oneMegaBuffer, count)` answered `result`: from a `NULL` buffer the kernel fails
with `EFAULT`; a count `n ≥ 0` copies the buffer's first `n` bytes to the file at its offset,
which advances by `n`. -/
def write (s : FillState) (fd : Int) (result : Int) : FillState × Int :=
  match s.oneMegaBuffer with
  | none => (s, -1)
  | some _ =>
    if result < 0 then (s, result)
    else
      let f := s.files fd
      let f' : FileState :=
        { bytes := fun j => if f.offset ≤ j ∧ j < f.offset + result.toNat then
            s.buffer (j - f.offset) else f.bytes j
          offset := f.offset + result.toNat }
      ({ s with files := Function.update s.files fd f' }, result)

@[simp] theorem throw_oneMegaBuffer (s : FillState) (e : Exception) :
    (s.throw e).oneMegaBuffer = s.oneMegaBuffer := rfl

@[simp] theorem throw_buffer (s : FillState) (e : Exception) : (s.throw e).buffer = s.buffer := rfl

@[simp] theorem throw_log (s : FillState) (e : Exception) : (s.throw e).log = s.log ++ [.throw e] :=
  rfl

@[simp] theorem rewind_oneMegaBuffer (s : FillState) (fd : Int) :
    (s.rewind fd).oneMegaBuffer = s.oneMegaBuffer := rfl

@[simp] theorem rewind_buffer (s : FillState) (fd : Int) : (s.rewind fd).buffer = s.buffer := rfl

@[simp] theorem rewind_log (s : FillState) (fd : Int) : (s.rewind fd).log = s.log := rfl

/-- A write changes only the files. -/
@[simp] theorem write_oneMegaBuffer (s : FillState) (fd r : Int) :
    (s.write fd r).1.oneMegaBuffer = s.oneMegaBuffer := by
  unfold write; split <;> [rfl; split <;> rfl]

@[simp] theorem write_buffer (s : FillState) (fd r : Int) : (s.write fd r).1.buffer = s.buffer := by
  unfold write; split <;> [rfl; split <;> rfl]

@[simp] theorem write_log (s : FillState) (fd r : Int) : (s.write fd r).1.log = s.log := by
  unfold write; split <;> [rfl; split <;> rfl]

/-- A write from a `NULL` buffer fails with `-1` and changes nothing. -/
theorem write_of_null {s : FillState} (hs : s.oneMegaBuffer = none) (fd r : Int) :
    s.write fd r = (s, -1) := by
  simp [write, hs]

end FillState

/-- `verifyBuffer(alignment)` under `oneMegaMutex`: while `oneMegaBuffer == 0` it calls
`posix_memalign(&oneMegaBuffer, alignment, ONE_MEGA)`, whose answer to `alignment` is `memalign`
(the address, or `none` when it fails), and zeroes the block; `-1` when the allocation fails. -/
def verifyBuffer (s : FillState) (alignment : Int) (memalign : Int → Option Nat) :
    FillState × Int :=
  match s.oneMegaBuffer with
  | some _ => (s, 0)
  | none =>
    match memalign alignment with
    | none => (s, -1)
    | some p => ({ s with oneMegaBuffer := some p, buffer := fun _ => 0 }, 0)

/-- `fill`'s loop `for (i = 0; i < blocks; i++)` from write `i`, `n` more rounds: `false` once a
write returns a negative count and the `IOException` is raised. -/
def fillBlocks (s : FillState) (fd : Int) (writes : Nat → Int) (i : Nat) :
    Nat → FillState × Bool
  | 0 => (s, true)
  | n + 1 =>
    let (s, r) := s.write fd (writes i)
    if r < 0 then (s.throw (.io "Cannot initialize file"), false)
    else fillBlocks s fd writes (i + 1) n

/-- `Java_..._fill(env, clazz, fd, alignment, size)`, the kernel answering the `k`-th `write`
with `writes k`. `blocks` and `rest` are the `long` quotient and remainder stored in `int`. -/
def fill (s : FillState) (fd alignment size : Int) (memalign : Int → Option Nat)
    (writes : Nat → Int) : FillState :=
  let blocks := toSigned (toUnsigned (size.tdiv oneMega))
  let rest := toSigned (toUnsigned (size.tmod oneMega))
  let s := (verifyBuffer s alignment memalign).1
  let s := s.rewind fd
  let (s, ok) := fillBlocks s fd writes 0 blocks.toNat
  if !ok then s
  else if rest ≠ 0 then
    let (s, r) := s.write fd (writes blocks.toNat)
    if r < 0 then s.throw (.io "Cannot initialize file with final rest")
    else s.rewind fd
  else s.rewind fd

/-! ## The shared buffer -/

/-- The invariant of `oneMegaBuffer`: once allocated it holds zeroes (`verifyBuffer` zeroes it and
nothing writes to it). -/
def FillState.BufferZero (s : FillState) : Prop :=
  ∀ p, s.oneMegaBuffer = some p → s.buffer = fun _ => 0

@[simp] theorem verifyBuffer_oneMegaBuffer (s : FillState) (alignment : Int)
    (memalign : Int → Option Nat) :
    (verifyBuffer s alignment memalign).1.oneMegaBuffer =
      s.oneMegaBuffer.or (memalign alignment) := by
  rcases h : s.oneMegaBuffer <;> rcases hm : memalign alignment <;> simp [verifyBuffer, h, hm]

@[simp] theorem verifyBuffer_files (s : FillState) (alignment : Int) (memalign : Int → Option Nat) :
    (verifyBuffer s alignment memalign).1.files = s.files := by
  unfold verifyBuffer; split <;> [rfl; split <;> rfl]

@[simp] theorem verifyBuffer_log (s : FillState) (alignment : Int) (memalign : Int → Option Nat) :
    (verifyBuffer s alignment memalign).1.log = s.log := by
  unfold verifyBuffer; split <;> [rfl; split <;> rfl]

theorem verifyBuffer_bufferZero {s : FillState} (hs : s.BufferZero) (alignment : Int)
    (memalign : Int → Option Nat) : (verifyBuffer s alignment memalign).1.BufferZero := by
  unfold verifyBuffer
  split <;> [exact hs; split <;> [exact hs; simp [FillState.BufferZero]]]

/-- The loop writes files only: it keeps the buffer. -/
theorem fillBlocks_buffer (s : FillState) (fd : Int) (writes : Nat → Int) (i n : Nat) :
    (fillBlocks s fd writes i n).1.oneMegaBuffer = s.oneMegaBuffer ∧
      (fillBlocks s fd writes i n).1.buffer = s.buffer := by
  induction n generalizing s i with
  | zero => exact ⟨rfl, rfl⟩
  | succ n ih =>
    simp only [fillBlocks]
    split <;> simp [ih]

/-- `fill` writes from the buffer `verifyBuffer` leaves, and keeps it. -/
theorem fill_buffer (s : FillState) (fd alignment size : Int) (memalign : Int → Option Nat)
    (writes : Nat → Int) :
    (fill s fd alignment size memalign writes).oneMegaBuffer =
        (verifyBuffer s alignment memalign).1.oneMegaBuffer ∧
      (fill s fd alignment size memalign writes).buffer =
        (verifyBuffer s alignment memalign).1.buffer := by
  have ht := fillBlocks_buffer ((verifyBuffer s alignment memalign).1.rewind fd) fd writes 0
    (toSigned (toUnsigned (size.tdiv oneMega))).toNat
  simp only [fill]
  split_ifs <;> simp [ht]

theorem fill_bufferZero {s : FillState} (hs : s.BufferZero) (fd alignment size : Int)
    (memalign : Int → Option Nat) (writes : Nat → Int) :
    (fill s fd alignment size memalign writes).BufferZero := by
  obtain ⟨h1, h2⟩ := fill_buffer s fd alignment size memalign writes
  intro p hp
  rw [h2]
  exact verifyBuffer_bufferZero hs alignment memalign p (h1 ▸ hp)

/-- From a `NULL` buffer the loop fails at its first write. -/
theorem fillBlocks_of_null {s : FillState} (hs : s.oneMegaBuffer = none) (fd : Int)
    (writes : Nat → Int) (i n : Nat) :
    fillBlocks s fd writes i (n + 1) = (s.throw (.io "Cannot initialize file"), false) := by
  simp [fillBlocks, FillState.write_of_null hs]

/-! ## Writes from the zeroed buffer -/

/-- The file with the bytes `[o, o + n)` zero and its offset at `o + n`. -/
def FileState.zeroed (f : FileState) (o n : Nat) : FileState :=
  { bytes := fun j => if o ≤ j ∧ j < o + n then 0 else f.bytes j, offset := o + n }

@[simp] theorem FileState.zeroed_offset (f : FileState) (o n : Nat) :
    (f.zeroed o n).offset = o + n := rfl

theorem FileState.zeroed_zero (f : FileState) : f.zeroed f.offset 0 = f := by
  cases f with
  | mk bytes offset =>
    simp only [zeroed, Nat.add_zero, FileState.mk.injEq, and_true]
    funext j
    rw [if_neg (by omega)]

theorem FileState.zeroed_zeroed (f : FileState) (o n m : Nat) :
    (f.zeroed o n).zeroed (o + n) m = f.zeroed o (n + m) := by
  simp only [zeroed, FileState.mk.injEq, Nat.add_assoc, and_true]
  funext j
  split_ifs <;> first | rfl | omega

/-- `n` zero bytes written to `fd` at its offset. -/
def FillState.zeroWrite (s : FillState) (fd : Int) (n : Nat) : FillState :=
  { s with files := Function.update s.files fd ((s.files fd).zeroed (s.files fd).offset n) }

@[simp] theorem FillState.zeroWrite_buffer (s : FillState) (fd : Int) (n : Nat) :
    (s.zeroWrite fd n).buffer = s.buffer := rfl

@[simp] theorem FillState.zeroWrite_oneMegaBuffer (s : FillState) (fd : Int) (n : Nat) :
    (s.zeroWrite fd n).oneMegaBuffer = s.oneMegaBuffer := rfl

@[simp] theorem FillState.zeroWrite_log (s : FillState) (fd : Int) (n : Nat) :
    (s.zeroWrite fd n).log = s.log := rfl

theorem FillState.zeroWrite_zero (s : FillState) (fd : Int) : s.zeroWrite fd 0 = s := by
  simp [zeroWrite, FileState.zeroed_zero]

theorem FillState.zeroWrite_zeroWrite (s : FillState) (fd : Int) (n m : Nat) :
    (s.zeroWrite fd n).zeroWrite fd m = s.zeroWrite fd (n + m) := by
  simp [zeroWrite, FileState.zeroed_zeroed]

/-- A write of `r ≥ 0` bytes from the zeroed buffer zeroes `r` bytes at the file's offset. -/
theorem FillState.write_of_zero {s : FillState} {p : Nat} (hp : s.oneMegaBuffer = some p)
    (hz : s.buffer = fun _ => 0) (fd : Int) {r : Int} (hr : 0 ≤ r) :
    s.write fd r = (s.zeroWrite fd r.toNat, r) := by
  simp [FillState.write, zeroWrite, hp, hz, not_lt.2 hr, FileState.zeroed]

/-- The loop either raises the `IOException` of a failed write, or every write returned a count
`≥ 0` and the file is zeroed over their sum from its offset. -/
theorem fillBlocks_cases {s : FillState} {p : Nat} (hp : s.oneMegaBuffer = some p)
    (hz : s.buffer = fun _ => 0) (fd : Int) (writes : Nat → Int) (i n : Nat) :
    ((fillBlocks s fd writes i n).2 = false ∧
        (fillBlocks s fd writes i n).1.log = s.log ++ [.throw (.io "Cannot initialize file")]) ∨
      ((∀ k < n, 0 ≤ writes (i + k)) ∧ fillBlocks s fd writes i n =
        (s.zeroWrite fd ((List.range n).map fun k => (writes (i + k)).toNat).sum, true)) := by
  induction n generalizing s i with
  | zero =>
    refine .inr ⟨fun _ h => absurd h (Nat.not_lt_zero _), ?_⟩
    simp [fillBlocks, FillState.zeroWrite_zero]
  | succ n ih =>
    by_cases hr : writes i < 0
    · left
      simp [fillBlocks, FillState.write, hp, hr, FillState.throw]
    · have hw := FillState.write_of_zero hp hz fd (not_lt.1 hr)
      rcases ih (s := (s.write fd (writes i)).1) (by simp [hw, hp]) (by simp [hw, hz]) (i + 1)
        with ⟨hf, hlog⟩ | ⟨hnn, heq⟩
      · left
        simp only [fillBlocks, hw, hr, if_false] at hf hlog ⊢
        exact ⟨hf, hlog⟩
      · right
        refine ⟨fun k hk => ?_, ?_⟩
        · rcases k with _ | k
          · exact not_lt.1 hr
          · simpa [Nat.add_assoc, Nat.add_comm 1 k] using hnn k (by omega)
        · simp only [fillBlocks, hw, hr, if_false] at heq ⊢
          rw [heq]
          simp [FillState.zeroWrite_zeroWrite, List.range_succ_eq_map, List.map_map,
            Function.comp_def, Nat.add_assoc, Nat.add_comm 1]

/-! ## What `fill` guarantees -/

/-- The file after a complete `fill` of `size` bytes: `[0, size)` zero, the other bytes as they
were, the offset back at `0`. -/
def FileState.filled (f : FileState) (size : Nat) : FileState :=
  { bytes := fun j => if j < size then 0 else f.bytes j, offset := 0 }

/-- The count `fill`'s `k`-th write asks for: `ONE_MEGA` for each of the `size / ONE_MEGA` blocks,
then the rest. -/
def fillRequest (size : Int) (k : Nat) : Int :=
  if (k : Int) < size / oneMega then oneMega else size % oneMega

/-- Zeroes written from offset `0` and the offset put back leave the file `filled`. -/
theorem FillState.rewind_zeroWrite_rewind (s : FillState) (fd : Int) (n : Nat) :
    ((s.rewind fd).zeroWrite fd n).rewind fd =
      { s with files := Function.update s.files fd ((s.files fd).filled n) } := by
  simp only [rewind, zeroWrite, Function.update_same, Function.update_idem, FileState.zeroed,
    FileState.filled, Nat.zero_le, true_and, Nat.zero_add]

/-- For `0 ≤ size < 2^51` the `int` block count and rest are the quotient and remainder by
`ONE_MEGA`, and together they cover `size`. -/
theorem fill_counts {size : Int} (hsize : 0 ≤ size) (hfit : size < 2 ^ 51) :
    toSigned (toUnsigned (size.tdiv oneMega)) = size / oneMega ∧
      toSigned (toUnsigned (size.tmod oneMega)) = size % oneMega ∧
      (size / oneMega).toNat * oneMega.toNat + (size % oneMega).toNat = size.toNat := by
  have := Int.ediv_add_emod size oneMega
  rw [Int.tdiv_eq_ediv hsize (by decide), Int.tmod_eq_emod hsize (by decide), oneMega_toNat]
  simp only [oneMega] at this ⊢
  refine ⟨?_, ?_, by omega⟩ <;> rw [toSigned_toUnsigned_of_range] <;> omega

/-- Blocks each answered with their full request write `ONE_MEGA` bytes each. -/
theorem fillBlocks_total {size : Int} {writes : Nat → Int}
    (hw : ∀ k, writes k = -1 ∨ writes k = fillRequest size k) {n : Nat}
    (hn : (n : Int) ≤ size / oneMega) (hnn : ∀ k < n, 0 ≤ writes (0 + k)) :
    ((List.range n).map fun k => (writes (0 + k)).toNat).sum = n * oneMega.toNat := by
  have hfull : ∀ k ∈ List.range n, (writes (0 + k)).toNat = oneMega.toNat := by
    intro k hk
    rw [List.mem_range] at hk
    have hk' := hnn k hk
    rw [Nat.zero_add] at hk' ⊢
    rcases hw k with h | h
    · omega
    · rw [h, fillRequest, if_pos (by omega)]
  rw [List.map_congr_left hfull, List.map_const', List.length_range, List.sum_const_nat]

theorem fill_zeroes_or_throws (s : FillState) (fd alignment size : Int) (memalign : Int → Option Nat)
    (writes : Nat → Int) (hs : s.BufferZero) (hsize : 0 ≤ size) (hfit : size < 2 ^ 51)
    (hw : ∀ k, writes k = -1 ∨ writes k = fillRequest size k) :
    (∃ m, (fill s fd alignment size memalign writes).log = s.log ++ [.throw (.io m)]) ∨
      (fill s fd alignment size memalign writes).log = s.log ∧
        (fill s fd alignment size memalign writes).files =
          Function.update s.files fd ((s.files fd).filled size.toNat) := by
  obtain ⟨hblocks, hrest, hdiv⟩ := fill_counts hsize hfit
  have hvz := verifyBuffer_bufferZero hs alignment memalign
  have hvl := verifyBuffer_log s alignment memalign
  have hvf := verifyBuffer_files s alignment memalign
  simp only [fill, hblocks, hrest]
  generalize (verifyBuffer s alignment memalign).1 = v at hvz hvl hvf ⊢
  obtain ⟨n, hn⟩ : ∃ n : Nat, (size / oneMega).toNat = n := ⟨_, rfl⟩
  have hnq : (n : Int) = size / oneMega := by
    rw [← hn, Int.toNat_of_nonneg (Int.ediv_nonneg hsize (by decide))]
  rw [hn] at hdiv ⊢
  have hfin : (((v.rewind fd).zeroWrite fd size.toNat).rewind fd).log = s.log ∧
      (((v.rewind fd).zeroWrite fd size.toNat).rewind fd).files =
        Function.update s.files fd ((s.files fd).filled size.toNat) := by
    rw [FillState.rewind_zeroWrite_rewind]
    exact ⟨hvl, by rw [hvf]⟩
  rcases hb : v.oneMegaBuffer with _ | p
  · -- `posix_memalign` failed: the first write fails, if there is one
    rcases n with _ | n
    · by_cases hr0 : size % oneMega = 0
      · right
        have h0 : size.toNat = 0 := by rw [hr0] at hdiv; omega
        simpa [fillBlocks, hr0, h0, FillState.zeroWrite_zero] using hfin
      · left
        exact ⟨"Cannot initialize file with final rest",
          by simp [fillBlocks, hr0, FillState.write_of_null, hb, hvl]⟩
    · left
      exact ⟨"Cannot initialize file", by simp [fillBlocks_of_null, hb, hvl]⟩
  · have hz := hvz p hb
    rcases fillBlocks_cases (s := v.rewind fd) hb hz fd writes 0 n with ⟨hf, hlog⟩ | ⟨hnn, heq⟩
    · left
      exact ⟨"Cannot initialize file", by simp [hf, hlog, hvl]⟩
    rw [heq, fillBlocks_total hw hnq.le hnn]
    by_cases hr0 : size % oneMega = 0
    · right
      have h0 : n * oneMega.toNat = size.toNat := by rw [hr0] at hdiv; omega
      simpa [hr0, h0] using hfin
    rcases hw n with h | h
    · left
      exact ⟨"Cannot initialize file with final rest", by simp [hr0, h, FillState.write, hb, hvl]⟩
    · right
      have hreq : fillRequest size n = size % oneMega := by
        rw [fillRequest, if_neg (by omega)]
      simp only [Bool.not_true, Bool.false_eq_true, if_false, ne_eq, hr0, not_false_eq_true,
        if_true]
      rw [h, hreq, FillState.write_of_zero (by simpa using hb) (by simpa using hz) fd
        (Int.emod_nonneg _ (by decide)), FillState.zeroWrite_zeroWrite, hdiv]
      dsimp only
      rw [if_neg (not_lt.2 (Int.emod_nonneg _ (by decide)))]
      exact hfin

/-- With the blocks fitting in `int` and every write answering `-1` or its full request, `fill`
either raises an `IOException` or leaves the file's bytes `[0, size)` zero and its offset at `0`,
touching nothing else. -/
theorem fill_zeroes (s : FillState) (fd alignment size : Int) (memalign : Int → Option Nat)
    (writes : Nat → Int) (hs : s.BufferZero) (hsize : 0 ≤ size) (hfit : size < 2 ^ 51)
    (hw : ∀ k, writes k = -1 ∨ writes k = fillRequest size k) :
    (∃ m, (fill s fd alignment size memalign writes).log = s.log ++ [.throw (.io m)]) ∨
      (fill s fd alignment size memalign writes).log = s.log ∧
        (fill s fd alignment size memalign writes).files =
          Function.update s.files fd ((s.files fd).filled size.toNat) :=
  fill_zeroes_or_throws s fd alignment size memalign writes hs hsize hfit hw

/-- A process before its first `fill` (`oneMegaBuffer` is `NULL`) whose files hold `1`s. -/
def dirtyFiles : FillState :=
  { oneMegaBuffer := none, buffer := fun _ => 0, files := fun _ => ⟨fun _ => 1, 0⟩, log := [] }

theorem fill_zeroes_dirtyFiles :
    (∃ m, (fill dirtyFiles 4 512 10 (fun _ => some 4096) (fillRequest 10)).log =
        dirtyFiles.log ++ [.throw (.io m)]) ∨
      (fill dirtyFiles 4 512 10 (fun _ => some 4096) (fillRequest 10)).log = dirtyFiles.log ∧
        (fill dirtyFiles 4 512 10 (fun _ => some 4096) (fillRequest 10)).files =
          Function.update dirtyFiles.files 4 ((dirtyFiles.files 4).filled (10 : Int).toNat) :=
  fill_zeroes dirtyFiles 4 512 10 (fun _ => some 4096) (fillRequest 10) (fun _ h => nomatch h)
    (by decide) (by decide) (fun _ => .inr rfl)

/-- Two runs in which `fill` returns normally with the file not zeroed: a write of `10` bytes
answering `5`, a count `write` may return, leaves byte `7` as it was; and for `size = 2^51`, every
write answering its full request, the block count `2^31` wraps to a negative `int` and nothing is
written. -/
theorem fill_short :
    (0 ≤ (5 : Int) ∧ 5 < fillRequest 10 0) ∧
      (fill dirtyFiles 4 512 10 (fun _ => some 4096) (fun _ => 5)).log = [] ∧
      ((fill dirtyFiles 4 512 10 (fun _ => some 4096) (fun _ => 5)).files 4).bytes 7 = 1 ∧
      (fill dirtyFiles 4 512 (2 ^ 51) (fun _ => some 4096) (fillRequest (2 ^ 51))).log = [] ∧
      ((fill dirtyFiles 4 512 (2 ^ 51) (fun _ => some 4096) (fillRequest (2 ^ 51))).files 4).bytes 0
        = 1 := by
  decide

/-! ## Calls of `fill` in one process -/

/-- One call `fill(fd, alignment, size)` with the allocator's and the kernel's answers to it. -/
structure FillCall where
  fd : Int
  alignment : Int
  size : Int
  memalign : Int → Option Nat
  writes : Nat → Int

/-- What `posix_memalign` is promised and promises: an alignment it accepts (a power of two and a
multiple of `sizeof (void *)`), and an address that is a multiple of the alignment asked for. -/
def FillCall.Admissible (c : FillCall) : Prop :=
  (∃ k, 3 ≤ k ∧ c.alignment = 2 ^ k) ∧ ∀ a p, c.memalign a = some p → a ∣ (p : Int)

/-- Calls of `fill` one after the other in one process, with the buffer each call writes from.
Concurrent calls come to the same: `oneMegaMutex` orders their `verifyBuffer`s, and nothing else
they do reads or writes `oneMegaBuffer`. -/
def fillRun (s : FillState) : List FillCall → FillState × List (Option Nat)
  | [] => (s, [])
  | c :: cs =>
    let r := fillRun (fill s c.fd c.alignment c.size c.memalign c.writes) cs
    (r.1, (verifyBuffer s c.alignment c.memalign).1.oneMegaBuffer :: r.2)

/-- The buffer invariant holds over every run. -/
theorem fillRun_bufferZero {s : FillState} (hs : s.BufferZero) (calls : List FillCall) :
    (fillRun s calls).1.BufferZero := by
  induction calls generalizing s with
  | nil => exact hs
  | cons c cs ih => exact ih (fill_bufferZero hs c.fd c.alignment c.size c.memalign c.writes)

/-- Over every run of `fill` calls from a process whose buffer, if it has one, holds zeroes (as
before the first call, when it is `NULL`): a further call whose block count fits in `int` and
whose writes answer `-1` or their full request raises an `IOException` or leaves the file's
bytes `[0, size)` zero, touching nothing else. -/
theorem fillRun_zeroes {s : FillState} (hs : s.BufferZero) (calls : List FillCall) (c : FillCall)
    (hsize : 0 ≤ c.size) (hfit : c.size < 2 ^ 51)
    (hw : ∀ k, c.writes k = -1 ∨ c.writes k = fillRequest c.size k) :
    (∃ m, (fill (fillRun s calls).1 c.fd c.alignment c.size c.memalign c.writes).log =
        (fillRun s calls).1.log ++ [.throw (.io m)]) ∨
      (fill (fillRun s calls).1 c.fd c.alignment c.size c.memalign c.writes).log =
          (fillRun s calls).1.log ∧
        (fill (fillRun s calls).1 c.fd c.alignment c.size c.memalign c.writes).files =
          Function.update (fillRun s calls).1.files c.fd
            (((fillRun s calls).1.files c.fd).filled c.size.toNat) :=
  fill_zeroes_or_throws _ c.fd c.alignment c.size c.memalign c.writes
    (fillRun_bufferZero hs calls) hsize hfit hw

theorem findSome_cons_eq_or {α β : Type} (f : α → Option β) (a : α) (l : List α) :
    (a :: l).findSome? f = (f a).or (l.findSome? f) := by
  rw [List.findSome?_cons]
  cases f a <;> rfl

/-- The buffer call `k` writes from is the one the process had, or else the first one any of the
calls `0..k` allocated: whatever alignment call `k` passes, it is not asked for again. -/
theorem fillRun_buffers (s : FillState) (calls : List FillCall) :
    (fillRun s calls).2 = (List.range calls.length).map fun k =>
      s.oneMegaBuffer.or ((calls.take (k + 1)).findSome? fun c => c.memalign c.alignment) := by
  induction calls generalizing s with
  | nil => rfl
  | cons c cs ih =>
    simp only [fillRun, ih, (fill_buffer ..).1, verifyBuffer_oneMegaBuffer, List.length_cons,
      List.range_succ_eq_map, List.map_cons, List.map_map, Function.comp_def, List.take_succ_cons,
      findSome_cons_eq_or, List.take_zero, List.findSome?_nil, Option.or_none, Option.or_assoc]

/-- `posix_memalign` answering with the lowest address the alignment allows. -/
def lowestAligned (alignment : Int) : Option Nat := some alignment.toNat

theorem lowestAligned_dvd (a : Int) (p : Nat) (h : lowestAligned a = some p) : a ∣ (p : Int) := by
  cases h
  rcases le_or_lt 0 a with ha | ha
  · rw [Int.toNat_of_nonneg ha]
  · simp [Int.toNat_eq_zero.2 ha.le]

/-- Two calls `fill(4, 512, 4096)` then `fill(5, 4096, 4096)`: the first allocates the buffer at
`512`, aligned as it asked, and the second writes from `512`, which is not a multiple of its own
alignment `4096`. -/
def misalignedCalls : List FillCall :=
  [⟨4, 512, 4096, lowestAligned, fillRequest 4096⟩,
    ⟨5, 4096, 4096, lowestAligned, fillRequest 4096⟩]

theorem fill_misaligned :
    (∀ c ∈ misalignedCalls, c.Admissible) ∧
      (fillRun dirtyFiles misalignedCalls).2 = [some 512, some 512] ∧ ¬ (4096 : Int) ∣ 512 := by
  refine ⟨?_, by decide, by decide⟩
  intro c hc
  simp only [misalignedCalls, List.mem_cons, List.mem_singleton, List.not_mem_nil, or_false] at hc
  rcases hc with rfl | rfl
  · exact ⟨⟨9, by decide, by decide⟩, lowestAligned_dvd⟩
  · exact ⟨⟨12, by decide, by decide⟩, lowestAligned_dvd⟩

/-- A third call `fill(6, 512, 10)` after `misalignedCalls`, from the buffer they allocated. -/
def tailCall : FillCall := ⟨6, 512, 10, lowestAligned, fillRequest 10⟩

theorem fillRun_zeroes_misalignedCalls :
    dirtyFiles.BufferZero ∧ 0 ≤ tailCall.size ∧ tailCall.size < 2 ^ 51 ∧
      (∀ k, tailCall.writes k = -1 ∨ tailCall.writes k = fillRequest tailCall.size k) ∧
      ((∃ m, (fill (fillRun dirtyFiles misalignedCalls).1 tailCall.fd tailCall.alignment
          tailCall.size tailCall.memalign tailCall.writes).log =
          (fillRun dirtyFiles misalignedCalls).1.log ++ [.throw (.io m)]) ∨
        (fill (fillRun dirtyFiles misalignedCalls).1 tailCall.fd tailCall.alignment tailCall.size
            tailCall.memalign tailCall.writes).log = (fillRun dirtyFiles misalignedCalls).1.log ∧
          (fill (fillRun dirtyFiles misalignedCalls).1 tailCall.fd tailCall.alignment
              tailCall.size tailCall.memalign tailCall.writes).files =
            Function.update (fillRun dirtyFiles misalignedCalls).1.files tailCall.fd
              (((fillRun dirtyFiles misalignedCalls).1.files tailCall.fd).filled
                tailCall.size.toNat)) :=
  have hs : dirtyFiles.BufferZero := fun _ h => nomatch h
  have hw : ∀ k, tailCall.writes k = -1 ∨ tailCall.writes k = fillRequest tailCall.size k :=
    fun _ => .inr rfl
  ⟨hs, by decide, by decide, hw,
    fillRun_zeroes hs misalignedCalls tailCall (by decide) (by decide) hw⟩

end Jlibaio
