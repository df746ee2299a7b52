import Jlibaio.Library

set_option autoImplicit false

/-! # File calls: `open`, `close`, `getSize`, `getBlockSizeFD`, `getBlockSize`, `fallocate`, `lock`

The wrappers Java calls around its journal files. Each makes one system call, or two for
`fallocate`, and on failure raises an `IOException` whose message is followed by
`strerror(errno)`. `open` and `getBlockSize` take a path, which they read with
`GetStringUTFChars`. What the kernel answers is an argument, `.error errno` for a failure; a
call on a descriptor that is not open fails with `EBADF`.

`open` releases the path before it checks the result, but `getBlockSize` returns on a failed
`stat` before `ReleaseStringUTFChars`. Over every run the paths left pinned are exactly those of
the `getBlockSize` calls whose `stat` failed, and the descriptor table never holds a descriptor
twice (`fileRun_pinned`). -/

namespace Jlibaio

/-! ## The model -/

/-- What `fstat` and `stat` fill in that the calls read: `st_size` and `st_blksize`. -/
structure Stat where
  size : Int
  blksize : Int
  deriving DecidableEq, Repr

/-- What the file calls read and write: the descriptor table, each descriptor's offset, the
paths `GetStringUTFChars` returned and no `ReleaseStringUTFChars` gave back, and the exceptions
raised. -/
structure FileTable where
  openFds : List Int
  offset : Int → Nat
  pinned : List String
  log : List Exception

/-- `EBADF` -/
def ebadf : Int := 9

namespace FileTable

/-- Raise a Java exception. -/
def throw (t : FileTable) (e : Exception) : FileTable := { t with log := t.log ++ [e] }

/-- `GetStringUTFChars(env, path, 0)` -/
def getStringUtfChars (t : FileTable) (path : String) : FileTable :=
  { t with pinned := path :: t.pinned }

/-- `ReleaseStringUTFChars(env, path, f_path)` -/
def releaseStringUtfChars (t : FileTable) (path : String) : FileTable :=
  { t with pinned := t.pinned.erase path }

/-- A system call on `fd`: `EBADF` when it is not open, else the kernel's answer. -/
def onFd {α : Type} (t : FileTable) (fd : Int) (answer : Except Int α) : Except Int α :=
  if fd ∈ t.openFds then answer else .error ebadf

@[simp] theorem throw_openFds (t : FileTable) (e : Exception) : (t.throw e).openFds = t.openFds :=
  rfl

@[simp] theorem throw_pinned (t : FileTable) (e : Exception) : (t.throw e).pinned = t.pinned := rfl

@[simp] theorem getStringUtfChars_openFds (t : FileTable) (path : String) :
    (t.getStringUtfChars path).openFds = t.openFds := rfl

@[simp] theorem getStringUtfChars_pinned (t : FileTable) (path : String) :
    (t.getStringUtfChars path).pinned = path :: t.pinned := rfl

@[simp] theorem releaseStringUtfChars_openFds (t : FileTable) (path : String) :
    (t.releaseStringUtfChars path).openFds = t.openFds := rfl

@[simp] theorem releaseStringUtfChars_pinned (t : FileTable) (path : String) :
    (t.releaseStringUtfChars path).pinned = t.pinned.erase path := rfl

end FileTable

/-- `Java_..._open(env, clazz, path, direct)`: `open` answers the lowest free descriptor, or
fails with `errno`. -/
def «open» (t : FileTable) (path : String) (answer : Except Int Unit) : FileTable × Int :=
  let t := t.getStringUtfChars path
  let (t, res) : FileTable × Int := match answer with
    | .ok () =>
      let fd := lowestFreeFd t.openFds
      ({ t with openFds := fd :: t.openFds }, fd)
    | .error _ => (t, -1)
  let t := t.releaseStringUtfChars path
  if res < 0 then
    match answer with
    | .error errno => (t.throw (.ioErrno "Cannot open file:" errno), res)
    | .ok () => (t, res)
  else (t, res)

/-- `Java_..._close(env, clazz, fd)`: `close` fails only on a descriptor that is not open. -/
def close (t : FileTable) (fd : Int) : FileTable :=
  match t.onFd fd (.ok ()) with
  | .ok () => { t with openFds := t.openFds.erase fd }
  | .error errno => t.throw (.ioErrno "Error closing file:" errno)

/-- `getSize` and `getBlockSizeFD`: `fstat(fd)`, and the field `field` of its answer as the
function returns it; `-1` when it fails. -/
def fstatField (field : Stat → Int) (t : FileTable) (fd : Int) (answer : Except Int Stat) :
    FileTable × Int :=
  match t.onFd fd answer with
  | .ok st => (t, field st)
  | .error errno => (t.throw (.ioErrno "Cannot determine file size:" errno), -1)

/-- `Java_..._getSize(env, clazz, fd)`: `st_size`, an `off_t` returned as `jlong`. -/
def getSize (t : FileTable) (fd : Int) (answer : Except Int Stat) : FileTable × Int :=
  fstatField Stat.size t fd answer

/-- `Java_..._getBlockSizeFD(env, clazz, fd)`: `st_blksize` returned as `jint`. -/
def getBlockSizeFD (t : FileTable) (fd : Int) (answer : Except Int Stat) : FileTable × Int :=
  fstatField (fun st => toSigned (toUnsigned st.blksize)) t fd answer

/-- `Java_..._getBlockSize(env, clazz, path)`: `stat(f_path)`; on failure it returns before
`ReleaseStringUTFChars`. -/
def getBlockSize (t : FileTable) (path : String) (answer : Except Int Stat) : FileTable × Int :=
  let t := t.getStringUtfChars path
  match answer with
  | .error errno => (t.throw (.ioErrno "Cannot determine file size:" errno), -1)
  | .ok st => (t.releaseStringUtfChars path, toSigned (toUnsigned st.blksize))

/-- `Java_..._fallocate(env, clazz, fd, size)`: `fallocate(fd, 0, 0, size)`, then `fsync(fd)`
and `lseek(fd, 0, SEEK_SET)` whether it failed or not. -/
def fallocate (t : FileTable) (fd : Int) (answer : Except Int Unit) : FileTable :=
  let t := match t.onFd fd answer with
    | .ok () => t
    | .error errno => t.throw (.ioErrno "Could not preallocate file" errno)
  if fd ∈ t.openFds then { t with offset := Function.update t.offset fd 0 } else t

/-- `Java_..._lock(env, clazz, handle)`: `flock(handle, LOCK_EX | LOCK_NB) == 0`. -/
def lock (t : FileTable) (handle : Int) (answer : Except Int Unit) : Bool :=
  match t.onFd handle answer with
  | .ok () => true
  | .error _ => false

@[simp] theorem close_pinned (t : FileTable) (fd : Int) : (close t fd).pinned = t.pinned := by
  unfold close; split <;> rfl

@[simp] theorem fstatField_openFds (field : Stat → Int) (t : FileTable) (fd : Int)
    (answer : Except Int Stat) : (fstatField field t fd answer).1.openFds = t.openFds := by
  unfold fstatField; split <;> rfl

@[simp] theorem fstatField_pinned (field : Stat → Int) (t : FileTable) (fd : Int)
    (answer : Except Int Stat) : (fstatField field t fd answer).1.pinned = t.pinned := by
  unfold fstatField; split <;> rfl

@[simp] theorem fallocate_openFds (t : FileTable) (fd : Int) (answer : Except Int Unit) :
    (fallocate t fd answer).openFds = t.openFds := by
  unfold fallocate; split <;> (dsimp only; split <;> rfl)

@[simp] theorem fallocate_pinned (t : FileTable) (fd : Int) (answer : Except Int Unit) :
    (fallocate t fd answer).pinned = t.pinned := by
  unfold fallocate; split <;> (dsimp only; split <;> rfl)

/-! ## Runs -/

/-- A file call with the kernel's answer. -/
inductive FileCall where
  | «open» (path : String) (answer : Except Int Unit)
  | close (fd : Int)
  | getSize (fd : Int) (answer : Except Int Stat)
  | getBlockSizeFD (fd : Int) (answer : Except Int Stat)
  | getBlockSize (path : String) (answer : Except Int Stat)
  | fallocate (fd : Int) (answer : Except Int Unit)
  | lock (handle : Int) (answer : Except Int Unit)

/-- The table after the call. -/
def FileCall.run (t : FileTable) : FileCall → FileTable
  | .open path answer => (Jlibaio.«open» t path answer).1
  | .close fd => Jlibaio.close t fd
  | .getSize fd answer => (Jlibaio.getSize t fd answer).1
  | .getBlockSizeFD fd answer => (Jlibaio.getBlockSizeFD t fd answer).1
  | .getBlockSize path answer => (Jlibaio.getBlockSize t path answer).1
  | .fallocate fd answer => Jlibaio.fallocate t fd answer
  | .lock _ _ => t

/-- The calls one after another. -/
def fileRun (t : FileTable) (calls : List FileCall) : FileTable := calls.foldl FileCall.run t

/-- The path a call leaves pinned: that of a `getBlockSize` whose `stat` failed. -/
def FileCall.leaked : FileCall → List String
  | .getBlockSize path (.error _) => [path]
  | _ => []

/-- A call pins a path only when it is a `getBlockSize` whose `stat` failed. -/
theorem FileCall.run_pinned (t : FileTable) (c : FileCall) :
    (c.run t).pinned = c.leaked ++ t.pinned := by
  cases c with
  | «open» path answer =>
    cases answer <;> simp [run, leaked, Jlibaio.«open», not_lt.2 (lowestFreeFd_nonneg _)]
  | getBlockSize path answer => cases answer <;> simp [run, leaked, Jlibaio.getBlockSize]
  | _ => simp [run, leaked, Jlibaio.getSize, Jlibaio.getBlockSizeFD]

/-- A call never puts a descriptor in the table twice: `open` adds the lowest free one. -/
theorem FileCall.run_nodup (t : FileTable) (c : FileCall) (hnd : t.openFds.Nodup) :
    (c.run t).openFds.Nodup := by
  cases c with
  | «open» path answer =>
    cases answer with
    | error errno => simpa [run, Jlibaio.«open»] using hnd
    | ok u =>
      have hfresh := lowestFreeFd_not_mem t.openFds
      simpa [run, Jlibaio.«open», not_lt.2 (lowestFreeFd_nonneg _), hfresh] using hnd
  | close fd =>
    simp only [run, Jlibaio.close]
    split
    · exact hnd.erase fd
    · exact hnd
  | getBlockSize path answer => cases answer <;> simpa [run, Jlibaio.getBlockSize] using hnd
  | _ => simpa [run, Jlibaio.getSize, Jlibaio.getBlockSizeFD] using hnd

/-- Over every sequence of file calls, whatever the kernel answers, from a table that holds no
descriptor twice: the paths left pinned are exactly those of the `getBlockSize` calls whose
`stat` failed, latest first, and the table still holds no descriptor twice. -/
theorem fileRun_pinned (t : FileTable) (calls : List FileCall) (hnd : t.openFds.Nodup) :
    (fileRun t calls).pinned = calls.reverse.flatMap FileCall.leaked ++ t.pinned ∧
      (fileRun t calls).openFds.Nodup := by
  induction calls generalizing t with
  | nil => exact ⟨rfl, hnd⟩
  | cons c calls ih =>
    obtain ⟨hpin, hnd'⟩ := ih (c.run t) (c.run_nodup t hnd)
    refine ⟨?_, hnd'⟩
    simp only [fileRun, List.foldl_cons] at hpin ⊢
    rw [hpin, c.run_pinned]
    simp

/-- A process with the standard streams open and nothing pinned. -/
def stdTable : FileTable := ⟨[0, 1, 2], fun _ => 0, [], []⟩

/-- Open a journal, fail to `stat` it by path, preallocate and close it, then `stat` another
path. -/
def journalCalls : List FileCall :=
  [.open "journal" (.ok ()), .getBlockSize "journal" (.error 2), .fallocate 3 (.ok ()), .close 3,
    .getBlockSize "data" (.ok ⟨0, 4096⟩)]

theorem fileRun_pinned_journal :
    (fileRun stdTable journalCalls).pinned =
        journalCalls.reverse.flatMap FileCall.leaked ++ stdTable.pinned ∧
      (fileRun stdTable journalCalls).openFds.Nodup :=
  fileRun_pinned stdTable journalCalls (by decide)

/-- The failed `stat` leaves its path pinned after the file is closed. -/
example : (fileRun stdTable journalCalls).pinned = ["journal"] ∧
    (fileRun stdTable journalCalls).openFds = [0, 1, 2] := by
  decide

end Jlibaio
