import Jlibaio.Harvest

set_option autoImplicit false

/-! # Completion handles

`submitWrite` and `submitRead` take a global reference to their `callback`, the completion handle,
and store it in the descriptor's `data`; `deleteContext` stores the marker `(void *) -1` in its
sentinel's. The request is settled by `submit` when `io_submit` refuses it, which deletes the
reference, or when its completion is harvested: `poll` stores the handle in `callbacks[i]` and
`blockedPoll` calls `LibaioContext.done`, each after `onError` for a negative result, and both
delete the reference.

`history log r` is what the log records of the reference `r`, and `Life r` lists the histories a
handle may have. `HandleStep` says once what a step of a run without `shutdownHook` can do to
the handles: nothing, take a descriptor (and a new reference), settle one request, or end the
context. From it every step keeps `HandleInv` (`Step.handleInv`): every handle's history is one of
`Life`'s, its reference is held exactly while it is pending, neither `NULL` nor the marker is ever
handed to the JVM, and while the context is live the references held besides `thisObject`'s are
those of the descriptors out of the pool, one each.

The invariant does not say that a pending handle is ever settled, and two runs show that some never
are (`handles_left_pending`): an event after the sentinel in a batch of `blockedPoll`, and an event
returned to `deleteContext`'s final drain, are taken from the ring, but their handles are never
called and their references never deleted. A descriptor lost after the sentinel is on no list a
later step reads, so its handle stays pending in every later state (`lost_handle_pending`). -/

namespace Jlibaio

/-! ## Histories -/

/-- The global reference `data` holds. -/
def IocbData.reference : IocbData → Option Nat
  | .ref r => some r
  | _ => none

/-- The object an effect hands to the JVM: the reference `NewGlobalRef` returns, or the `data`
passed to `DeleteGlobalRef`, `onError` or `done`, or stored in `callbacks`. -/
def Effect.target : Effect → Option IocbData
  | .newGlobalRef r => some (.ref r)
  | .deleteGlobalRef obj => some obj
  | .onError obj _ => some obj
  | .done obj => some obj
  | .setCallback _ obj => some obj
  | _ => none

/-- The effects on the global reference `r`, in order. -/
def history (log : List Effect) (r : Nat) : List Effect :=
  log.filter fun e => e.target = some (.ref r)

@[simp] theorem history_append (l₁ l₂ : List Effect) (r : Nat) :
    history (l₁ ++ l₂) r = history l₁ r ++ history l₂ r :=
  List.filter_append _ _

theorem history_eq_nil {es : List Effect} {r : Nat} (h : ∀ e ∈ es, e.target ≠ some (.ref r)) :
    history es r = [] :=
  List.filter_eq_nil_iff.2 fun e he => by simpa using h e he

theorem history_of_none {es : List Effect} (h : ∀ e ∈ es, e.target = none) (r : Nat) :
    history es r = [] :=
  history_eq_nil fun e he => by simp [h e he]

theorem history_eq_self {es : List Effect} {r : Nat} (h : ∀ e ∈ es, e.target = some (.ref r)) :
    history es r = es :=
  List.filter_eq_self.2 fun e he => by simpa using h e he

theorem newGlobalRef_mem_history {log : List Effect} {r : Nat} :
    .newGlobalRef r ∈ history log r ↔ .newGlobalRef r ∈ log := by
  simp [history, List.mem_filter, Effect.target]

theorem newGlobalRef_mem_of_append {log es : List Effect} {r : Nat} (hes : history es r = [])
    (h : .newGlobalRef r ∈ log ++ es) : .newGlobalRef r ∈ log := by
  rw [List.mem_append] at h
  exact h.resolve_right fun h' => by rw [← newGlobalRef_mem_history, hes] at h'; cases h'

/-- The histories a handle's reference may have: held; deleted by `submit` after a refused
`io_submit`, no method of the handle called; or delivered once, by `done` (`blockedPoll`) or into
`callbacks` (`poll`), after at most one `onError` with a positive code, and then deleted. -/
inductive Life (r : Nat) : List Effect → Prop
  | pending : Life r [.newGlobalRef r]
  | refused : Life r [.newGlobalRef r, .deleteGlobalRef (.ref r)]
  | delivered (errors : List Effect) (delivery : Effect) :
      (errors = [] ∨ ∃ code, 0 < code ∧ errors = [.onError (.ref r) code]) →
      (delivery = .done (.ref r) ∨ ∃ index, delivery = .setCallback index (.ref r)) →
      Life r (.newGlobalRef r :: (errors ++ [delivery, .deleteGlobalRef (.ref r)]))

/-- The delivery of a handle after `onError` for a negative `result`. -/
theorem Life.dispatch {r : Nat} (result : Int) {delivery : Effect}
    (hd : delivery = .done (.ref r) ∨ ∃ index, delivery = .setCallback index (.ref r)) :
    Life r (.newGlobalRef r :: ((if result < 0 then [.onError (.ref r) (-result)] else []) ++
      [delivery, .deleteGlobalRef (.ref r)])) := by
  split_ifs with h
  · exact .delivered _ _ (.inr ⟨-result, by omega, rfl⟩) hd
  · exact .delivered _ _ (.inl rfl) hd

/-! ## Settling a request -/

/-- `es` settles the request whose descriptor holds `data`: the history of `data`'s reference goes
on to one of `Life`'s final forms, no other reference is touched, and neither `NULL` nor the
marker is handed to the JVM. -/
structure Settles (data : IocbData) (es : List Effect) : Prop where
  other : ∀ r, data ≠ .ref r → history es r = []
  life : ∀ r, data = .ref r → Life r (.newGlobalRef r :: history es r) ∧ history es r ≠ []
  target : ∀ e ∈ es, e.target ≠ some .marker ∧ e.target ≠ some .null

theorem Settles.of_none {data : IocbData} {es : List Effect} (hd : data.reference = none)
    (hes : ∀ e ∈ es, e.target = none) : Settles data es :=
  ⟨fun r _ => history_of_none hes r, fun r h => by simp [h, IocbData.reference] at hd,
    fun e he => by simp [hes e he]⟩

theorem Settles.of_ref {r : Nat} {es : List Effect} (hes : ∀ e ∈ es, e.target = some (.ref r))
    (hlife : Life r (.newGlobalRef r :: es)) (hne : es ≠ []) : Settles (.ref r) es where
  other r' hr' := history_eq_nil fun e he => by simpa [hes e he] using hr'
  life r' hr' := by cases hr'; rw [history_eq_self hes]; exact ⟨hlife, hne⟩
  target e he := by simp [hes e he]

/-- Effects handing nothing to the JVM around a settlement. -/
theorem Settles.append_quiet {data : IocbData} {es : List Effect} (hs : Settles data es)
    (pre post : List Effect) (hpre : ∀ e ∈ pre, e.target = none)
    (hpost : ∀ e ∈ post, e.target = none) : Settles data (pre ++ es ++ post) where
  other r hr := by simp [history_of_none hpre, history_of_none hpost, hs.other r hr]
  life r hr := by simpa [history_of_none hpre, history_of_none hpost] using hs.life r hr
  target e he := by
    simp only [List.mem_append] at he
    rcases he with (he | he) | he
    · simp [hpre e he]
    · exact hs.target e he
    · simp [hpost e he]

theorem pollDispatch_settles (index : Nat) (result : Int) (data : IocbData) :
    Settles data (pollDispatch index result data) := by
  cases data with
  | null => exact .of_none rfl (by simp [pollDispatch])
  | marker => exact .of_none rfl (by simp [pollDispatch])
  | ref r =>
    simp only [pollDispatch, ne_eq, reduceCtorEq, not_false_eq_true, and_self, if_true]
    refine .of_ref (fun e he => ?_) (Life.dispatch result (.inr ⟨index, rfl⟩)) (by simp)
    split_ifs at he <;> simp at he <;> rcases he with rfl | rfl | rfl <;> rfl

theorem blockedDispatch_settles (heap : Nat → Iocb) (e : IoEvent)
    (hm : (heap e.obj).data ≠ .marker) : Settles (heap e.obj).data (blockedDispatch heap e) := by
  unfold blockedDispatch
  generalize (heap e.obj).data = data at hm ⊢
  cases data with
  | null => exact .of_none rfl (by simp)
  | marker => exact absurd rfl hm
  | ref r =>
    simp only [ne_eq, reduceCtorEq, not_false_eq_true, and_true, if_true]
    refine .of_ref (fun e he => ?_) (Life.dispatch _ (.inl rfl)) (by simp)
    split_ifs at he <;> simp at he <;> rcases he with rfl | rfl | rfl <;> rfl

/-! ## The log -/

/-- What the log says of the references: none at or past `nextRef` has a history yet, every
handle's history is one of `Life`'s with its reference held exactly while it is pending, and
neither `NULL` nor the marker has been handed to the JVM. -/
structure LogInv (s : Process) : Prop where
  fresh : ∀ r, s.nextRef ≤ r → history s.log r = []
  life : ∀ r, .newGlobalRef r ∈ s.log →
    Life r (history s.log r) ∧ (r ∈ s.refs ↔ history s.log r = [.newGlobalRef r])
  target : ∀ e ∈ s.log, e.target ≠ some .marker ∧ e.target ≠ some .null

/-- `s'` is `s` as far as the handles go, with `es` logged: no reference taken or deleted, no
descriptor written, `dumbWriteHandler` kept, and nothing in `es` handed to the JVM. -/
structure Quiet (s s' : Process) (es : List Effect) : Prop where
  log : s'.log = s.log ++ es
  target : ∀ e ∈ es, e.target = none
  refs : s'.refs = s.refs
  nextRef : s'.nextRef = s.nextRef
  heap : s'.heap = s.heap
  dumb : s'.dumbWriteHandler = s.dumbWriteHandler

section Log

variable {s s' : Process} {es : List Effect}

theorem LogInv.lt_of_mem (hl : LogInv s) {r : Nat} (hr : .newGlobalRef r ∈ s.log) :
    r < s.nextRef := by
  by_contra hge
  have := hl.fresh r (by omega)
  rw [← newGlobalRef_mem_history, this] at hr
  cases hr

theorem LogInv.quiet (hl : LogInv s) (hlog : s'.log = s.log ++ es)
    (htarget : ∀ e ∈ es, e.target = none) (hrefs : s'.refs = s.refs)
    (hnext : s'.nextRef = s.nextRef) : LogInv s' where
  fresh r hr := by simpa [hlog, history_of_none htarget] using hl.fresh r (hnext ▸ hr)
  life r hr := by
    have hr' := newGlobalRef_mem_of_append (history_of_none htarget r) (hlog ▸ hr)
    simpa [hlog, hrefs, history_of_none htarget] using hl.life r hr'
  target e he := by
    rw [hlog, List.mem_append] at he
    rcases he with he | he
    · exact hl.target e he
    · simp [htarget e he]

/-- `NewGlobalRef` of a callback. -/
theorem LogInv.newRef (hl : LogInv s) (hlog : s'.log = s.log ++ [.newGlobalRef s.nextRef])
    (hrefs : s'.refs = s.nextRef :: s.refs) (hnext : s'.nextRef = s.nextRef + 1) : LogInv s' where
  fresh r hr := by
    rw [hlog, history_append, hl.fresh r (by omega)]
    exact history_eq_nil fun e he => by simp at he; subst he; simp [Effect.target]; omega
  life r hr := by
    by_cases hn : r = s.nextRef
    · subst hn
      have hh : history s'.log s.nextRef = [.newGlobalRef s.nextRef] := by
        rw [hlog, history_append, hl.fresh _ le_rfl]; simp [history, Effect.target]
      rw [hh, hrefs]
      exact ⟨.pending, by simp⟩
    · have h0 : history [.newGlobalRef s.nextRef] r = [] :=
        history_eq_nil (by simp [Effect.target, Ne.symm hn])
      have hr' := newGlobalRef_mem_of_append h0 (hlog ▸ hr)
      have hh : history s'.log r = history s.log r := by
        rw [hlog, history_append, h0, List.append_nil]
      rw [hh, hrefs, List.mem_cons, or_iff_right hn]
      exact hl.life r hr'
  target e he := by
    rw [hlog, List.mem_append] at he
    rcases he with he | he
    · exact hl.target e he
    · simp at he; subst he; simp [Effect.target]

/-- A settlement of a request holding a reference that is held and logged. -/
theorem LogInv.settle (hl : LogInv s) {data : IocbData} (hs : Settles data es)
    (hheld : ∀ r, data = .ref r → r ∈ s.refs ∧ .newGlobalRef r ∈ s.log) (hnd : s.refs.Nodup)
    (hlog : s'.log = s.log ++ es) (hrefs : s'.refs = (s.deleteGlobalRef data).refs)
    (hnext : s'.nextRef = s.nextRef) : LogInv s' where
  fresh r hr := by
    rw [hlog, history_append, hl.fresh r (hnext ▸ hr), List.nil_append]
    refine hs.other r fun hd => ?_
    have := hl.lt_of_mem (hheld r hd).2
    omega
  life r hr := by
    by_cases hd : data = .ref r
    · obtain ⟨hmem, hnew⟩ := hheld r hd
      have hpend := (hl.life r hnew).2.1 hmem
      obtain ⟨hlife, hne⟩ := hs.life r hd
      rw [hlog, history_append, hpend, hrefs, hd]
      refine ⟨hlife, ?_⟩
      simpa [Process.deleteGlobalRef, hne] using hnd.not_mem_erase
    · have hh : history s'.log r = history s.log r := by
        rw [hlog, history_append, hs.other r hd, List.append_nil]
      have hr' : .newGlobalRef r ∈ s.log := by
        rwa [← newGlobalRef_mem_history, hh, newGlobalRef_mem_history] at hr
      rw [hh, hrefs]
      cases data with
      | ref r' =>
        have hne : r ≠ r' := fun h => hd (h ▸ rfl)
        simpa [Process.deleteGlobalRef, List.mem_erase_of_ne hne] using hl.life r hr'
      | _ => exact hl.life r hr'
  target e he := by
    rw [hlog, List.mem_append] at he
    rcases he with he | he
    · exact hl.target e he
    · exact hs.target e he

/-- `deleteContext` freeing the context: only the reference `this`, never logged, is deleted. -/
theorem LogInv.finish (hl : LogInv s) {this : Nat} (hthis : this < s.nextRef)
    (hunused : history s.log this = []) (hlog : s'.log = s.log ++ es)
    (hes : ∀ e ∈ es, e.target = none ∨ e = .deleteGlobalRef (.ref this))
    (hrefs : s'.refs = s.refs.erase this) (hnext : s'.nextRef = s.nextRef) : LogInv s' := by
  have hes' : ∀ r ≠ this, history es r = [] := fun r hr => history_eq_nil fun e he => by
    rcases hes e he with h | rfl
    · simp [h]
    · simp [Effect.target, Ne.symm hr]
  have hother : ∀ r ≠ this, history s'.log r = history s.log r := fun r hr => by
    rw [hlog, history_append, hes' r hr, List.append_nil]
  refine ⟨fun r hr => ?_, fun r hr => ?_, fun e he => ?_⟩
  · rw [hother r (by omega)]
    exact hl.fresh r (hnext ▸ hr)
  · have hr' : .newGlobalRef r ∈ s.log := by
      rw [hlog, List.mem_append] at hr
      exact hr.resolve_right fun h => by simpa [Effect.target] using hes _ h
    have hne : r ≠ this := by
      rintro rfl
      rw [← newGlobalRef_mem_history, hunused] at hr'
      cases hr'
    rw [hother r hne, hrefs, List.mem_erase_of_ne hne]
    exact hl.life r hr'
  · rw [hlog, List.mem_append] at he
    rcases he with he | he
    · exact hl.target e he
    · rcases hes e he with h | rfl
      · simp [h]
      · simp [Effect.target]

end Log

/-! ## The descriptors out of the pool -/

/-- The references held by the descriptors out of the pool. -/
def System.handles (S : System) (c : IoControl) : List Nat :=
  (S.taken c).filterMap fun p => (S.proc.heap p).data.reference

/-- A descriptor holds the marker exactly when it writes to `dumbWriteHandler`, the file by which
`blockedPoll` tells the sentinel. -/
def Iocb.MarkerAgrees (dumb : Int) (iocb : Iocb) : Prop :=
  iocb.data = .marker ↔ iocb.aioFildes = dumb

/-- The handles while the context is live: the references held are `thisObject`'s and one for
each descriptor out of the pool that holds a handle, each of these logged; `thisObject`'s
reference is older than the log and untouched by it; and a descriptor out of the pool holds the
marker exactly when it writes to `dumbWriteHandler`. -/
structure LiveHandles (S : System) (c : IoControl) : Prop where
  refs : S.proc.refs.Perm (c.thisObject :: S.handles c)
  nodup : S.proc.refs.Nodup
  logged : ∀ r ∈ S.handles c, .newGlobalRef r ∈ S.proc.log
  this_lt : c.thisObject < S.proc.nextRef
  this_unused : history S.proc.log c.thisObject = []
  marker : ∀ p ∈ S.taken c, (S.proc.heap p).MarkerAgrees S.proc.dumbWriteHandler

/-- `s'` is `s` after the request whose descriptor holds `data` is settled with `es` logged: its
reference released, no other taken, no descriptor written, the files and `dumbWriteHandler`
kept. -/
structure SettleStep (s s' : Process) (data : IocbData) (es : List Effect) : Prop where
  settles : Settles data es
  log : s'.log = s.log ++ es
  refs : s'.refs = (s.deleteGlobalRef data).refs
  nextRef : s'.nextRef = s.nextRef
  heap : s'.heap = s.heap
  dumb : s'.dumbWriteHandler = s.dumbWriteHandler
  openFds : s'.openFds = s.openFds

section Live

variable {S S' : System} {c c' : IoControl}

theorem System.handles_perm (extra : List Nat) (ht : (S'.taken c').Perm (extra ++ S.taken c))
    (hheap : ∀ p ∈ S.taken c, S'.proc.heap p = S.proc.heap p) :
    (S'.handles c').Perm
      (extra.filterMap (fun p => (S'.proc.heap p).data.reference) ++ S.handles c) := by
  refine (ht.filterMap _).trans ?_
  rw [List.filterMap_append]
  exact .append_left _ (.of_eq (List.filterMap_congr fun p hp => by rw [hheap p hp]))

theorem LiveHandles.not_mem (hh : LiveHandles S c) : c.thisObject ∉ S.handles c :=
  (List.nodup_cons.1 (hh.refs.nodup_iff.1 hh.nodup)).1

theorem System.mem_handles {p : Nat} (hp : p ∈ S.taken c) {r : Nat}
    (hd : (S.proc.heap p).data = .ref r) : r ∈ S.handles c :=
  List.mem_filterMap.2 ⟨p, hp, by simp [hd, IocbData.reference]⟩

theorem LiveHandles.quiet (hh : LiveHandles S c) {es : List Effect} (hq : Quiet S.proc S'.proc es)
    (ht : (S'.taken c').Perm (S.taken c)) (hthis : c'.thisObject = c.thisObject) :
    LiveHandles S' c' := by
  have hp : (S'.handles c').Perm (S.handles c) := by
    simpa using System.handles_perm [] ht fun p _ => by rw [hq.heap]
  refine ⟨?_, hq.refs ▸ hh.nodup, fun r hr => ?_, ?_, ?_, fun p hp' => ?_⟩
  · rw [hq.refs, hthis]
    exact hh.refs.trans (hp.symm.cons _)
  · rw [hq.log]
    exact List.mem_append_left _ (hh.logged r (hp.mem_iff.1 hr))
  · rw [hq.nextRef, hthis]
    exact hh.this_lt
  · rw [hq.log, history_append, hthis, hh.this_unused, history_of_none hq.target]
    rfl
  · rw [hq.heap, hq.dumb]
    exact hh.marker p (ht.mem_iff.1 hp')

theorem LiveHandles.settle (hh : LiveHandles S c) {p : Nat}
    (ht : (S.taken c).Perm (p :: S'.taken c')) (hthis : c'.thisObject = c.thisObject)
    {es : List Effect} (hst : SettleStep S.proc S'.proc (S.proc.heap p).data es) :
    LiveHandles S' c' := by
  have hp : (S.handles c).Perm
      ((S.proc.heap p).data.reference.toList ++ S'.handles c') := by
    have := System.handles_perm [p] ht fun q _ => by rw [hst.heap]
    cases h : (S.proc.heap p).data.reference <;> simpa [h] using this
  have hmem : ∀ r ∈ S'.handles c', r ∈ S.handles c := fun r hr =>
    hp.mem_iff.2 (List.mem_append_right _ hr)
  have hthis_ne : (S.proc.heap p).data ≠ .ref c.thisObject := fun hd =>
    hh.not_mem (hp.mem_iff.2 (List.mem_append_left _ (by simp [hd, IocbData.reference])))
  have hrefs : S'.proc.refs.Perm (c.thisObject :: S'.handles c') ∧ S'.proc.refs.Nodup := by
    rw [hst.refs]
    cases hd : (S.proc.heap p).data with
    | ref r =>
      have hne : c.thisObject ≠ r := fun h => hthis_ne (hd.trans (h ▸ rfl))
      simp only [hd, IocbData.reference, Option.toList_some, List.singleton_append] at hp
      refine ⟨?_, hh.nodup.erase r⟩
      simpa [Process.deleteGlobalRef, hne] using (hh.refs.trans (hp.cons _)).erase r
    | null | marker =>
      simp only [hd, IocbData.reference, Option.toList_none, List.nil_append] at hp
      exact ⟨hh.refs.trans (hp.cons _), hh.nodup⟩
  refine ⟨hthis ▸ hrefs.1, hrefs.2, fun r hr => ?_, ?_, ?_, fun q hq => ?_⟩
  · rw [hst.log]
    exact List.mem_append_left _ (hh.logged r (hmem r hr))
  · rw [hst.nextRef, hthis]
    exact hh.this_lt
  · rw [hst.log, history_append, hthis, hh.this_unused, hst.settles.other _ hthis_ne]
    rfl
  · rw [hst.heap, hst.dumb]
    exact hh.marker q (ht.mem_iff.2 (List.mem_cons_of_mem _ hq))

theorem LiveHandles.take (hh : LiveHandles S c) (hlog : LogInv S.proc) {p : Nat}
    (hpn : p ∉ S.taken c) (ht : (S'.taken c').Perm (p :: S.taken c))
    (hthis : c'.thisObject = c.thisObject) (hheap : ∀ q ≠ p, S'.proc.heap q = S.proc.heap q)
    (hdumb : S'.proc.dumbWriteHandler = S.proc.dumbWriteHandler)
    (hmark : (S'.proc.heap p).MarkerAgrees S.proc.dumbWriteHandler)
    (hnew : ((S'.proc.heap p).data.reference = none ∧ S'.proc.refs = S.proc.refs ∧
        S'.proc.nextRef = S.proc.nextRef ∧ S'.proc.log = S.proc.log) ∨
      ((S'.proc.heap p).data = .ref S.proc.nextRef ∧ S'.proc.refs = S.proc.nextRef :: S.proc.refs ∧
        S'.proc.nextRef = S.proc.nextRef + 1 ∧
        S'.proc.log = S.proc.log ++ [.newGlobalRef S.proc.nextRef])) :
    LiveHandles S' c' := by
  have hagree : ∀ q ∈ S.taken c, S'.proc.heap q = S.proc.heap q := fun q hq =>
    hheap q (by rintro rfl; exact hpn hq)
  have hp : (S'.handles c').Perm ((S'.proc.heap p).data.reference.toList ++ S.handles c) := by
    have := System.handles_perm [p] ht hagree
    cases h : (S'.proc.heap p).data.reference <;> simpa [h] using this
  have hmarker : ∀ q ∈ S'.taken c', (S'.proc.heap q).MarkerAgrees S'.proc.dumbWriteHandler := by
    intro q hq
    rw [hdumb]
    rcases List.mem_cons.1 (ht.mem_iff.1 hq) with rfl | hq
    · exact hmark
    · rw [hagree q hq]
      exact hh.marker q hq
  have hthis_lt := hh.this_lt
  rcases hnew with ⟨hnone, hrefs, hnext, hlog'⟩ | ⟨hdata, hrefs, hnext, hlog'⟩
  · simp only [hnone, Option.toList_none, List.nil_append] at hp
    refine ⟨?_, hrefs ▸ hh.nodup, fun r hr => ?_, ?_, ?_, hmarker⟩
    · rw [hrefs, hthis]
      exact hh.refs.trans (hp.symm.cons _)
    · rw [hlog']
      exact hh.logged r (hp.mem_iff.1 hr)
    · rw [hnext, hthis]
      exact hthis_lt
    · rw [hlog', hthis]
      exact hh.this_unused
  · simp only [hdata, IocbData.reference, Option.toList_some, List.singleton_append] at hp
    have hfresh : S.proc.nextRef ∉ S.proc.refs := fun h => by
      rcases List.mem_cons.1 (hh.refs.mem_iff.1 h) with h | h
      · omega
      · exact lt_irrefl _ (hlog.lt_of_mem (hh.logged _ h))
    refine ⟨?_, ?_, fun r hr => ?_, ?_, ?_, hmarker⟩
    · rw [hrefs, hthis]
      exact ((hh.refs.cons _).trans (.swap _ _ _)).trans (hp.symm.cons _)
    · rw [hrefs]
      exact List.nodup_cons.2 ⟨hfresh, hh.nodup⟩
    · rw [hlog']
      rcases List.mem_cons.1 (hp.mem_iff.1 hr) with rfl | hr
      · simp
      · exact List.mem_append_left _ (hh.logged r hr)
    · rw [hnext, hthis]
      omega
    · rw [hlog', history_append, hthis, hh.this_unused]
      exact history_eq_nil fun e he => by
        simp only [List.mem_singleton] at he
        subst he
        simp only [Effect.target, ne_eq, Option.some.injEq, IocbData.ref.injEq]
        omega

end Live

/-! ## What the calls do to the handles -/

theorem Process.releaseData_eq (s : Process) (p : Nat) :
    s.releaseData p = { s with
      refs := (s.deleteGlobalRef (s.heap p).data).refs
      log := s.log ++ (s.heap p).data.reference.toList.map fun r => .deleteGlobalRef (.ref r) } := by
  unfold Process.releaseData
  cases hd : (s.heap p).data <;> simp [hd, Process.deleteGlobalRef, IocbData.reference]

/-- `submit` after a refused `io_submit` settles the request: the reference is deleted, and no
method of the handle is called. -/
theorem submit_refused_settleStep (s : Process) (iocb : Nat) (c : IoControl) (e : Exception) :
    ∃ es, SettleStep s (((s.releaseData iocb).setControl c).throw e) (s.heap iocb).data es := by
  refine ⟨(s.heap iocb).data.reference.toList.map (fun r => .deleteGlobalRef (.ref r)) ++
      [.throw e], ?_, ?_, ?_, ?_, ?_, ?_, ?_⟩
  · cases (s.heap iocb).data with
    | ref r =>
      simpa using (Settles.of_ref (r := r) (by simp [Effect.target]) .refused (by simp)).append_quiet
        [] [.throw e] (by simp) (by simp [Effect.target])
    | null | marker => exact .of_none rfl (by simp [Effect.target, IocbData.reference])
  all_goals simp [Process.releaseData_eq, Process.throw, Process.emit, Process.setControl]

/-- A round of `blockedPoll`'s loop settles the request of the event's descriptor: a handle's
dispatch, or nothing at the sentinel. -/
theorem blockedPollEvent_settleStep {s : Process} {c : IoControl} (hc : s.control = some c)
    (useFdatasync : Bool) (lastFile : Int) (i : Nat)
    (hmark : (s.heap (c.events i).obj).MarkerAgrees s.dumbWriteHandler) :
    ∃ s' lastFile' running es,
      blockedPollEvent s useFdatasync lastFile i = some (s', lastFile', running) ∧
      s'.control = some (putIOCB c (c.events i).obj) ∧
      SettleStep s s' (s.heap (c.events i).obj).data es := by
  by_cases hfd : (s.heap (c.events i).obj).aioFildes = s.dumbWriteHandler
  · refine ⟨_, _, _, [], blockedPollEvent_of_sentinel hc useFdatasync lastFile i hfd, rfl, ?_⟩
    rw [hmark.2 hfd]
    exact ⟨.of_none rfl (by simp), (List.append_nil _).symm, rfl, rfl, rfl, rfl, rfl⟩
  · have hsync : ∀ e ∈ (if useFdatasync ∧ lastFile ≠ (s.heap (c.events i).obj).aioFildes then
        [Effect.fdatasync (s.heap (c.events i).obj).aioFildes] else []), e.target = none := by
      split_ifs <;> simp [Effect.target]
    refine ⟨_, _, _, _, blockedPollEvent_of_ne hc useFdatasync lastFile i hfd, rfl,
      (blockedDispatch_settles s.heap _ (mt hmark.1 hfd)).append_quiet _ [] hsync (by simp),
      by simp, ?_, rfl, rfl, rfl, rfl⟩
    cases hd : (s.heap (c.events i).obj).data <;> simp [hd, Process.deleteGlobalRef]

/-- `drainLoop` writes only the control block, and keeps its `thisObject`. -/
theorem drainLoop_eq {i n : Nat} : ∀ {s s' : Process} {c : IoControl}, s.control = some c →
    drainLoop s i n = some s' → ∃ c', s' = s.setControl c' ∧ c'.thisObject = c.thisObject := by
  induction n generalizing i with
  | zero =>
    intro s s' c hc h
    cases h
    exact ⟨c, (Process.setControl_self hc).symm, rfl⟩
  | succ n ih =>
    intro s s' c hc h
    simp only [drainLoop, hc, Option.bind_eq_bind, Option.some_bind] at h
    obtain ⟨c', rfl, hthis⟩ := ih rfl h
    exact ⟨c', rfl, hthis⟩

/-- `deleteContext` past `pollLock` deletes `thisObject`'s reference and hands nothing else to
the JVM. -/
theorem deleteContextFinish_handles {s s' : Process} {c : IoControl} (hc : s.control = some c)
    {answer : IoGeteventsAnswer} (h : deleteContextFinish s answer = some s') :
    ∃ es, s'.log = s.log ++ es ∧
      (∀ e ∈ es, e.target = none ∨ e = .deleteGlobalRef (.ref c.thisObject)) ∧
      s'.refs = s.refs.erase c.thisObject ∧ s'.nextRef = s.nextRef ∧
      s'.dumbWriteHandler = s.dumbWriteHandler ∧ s'.openFds = s.openFds ∧ s'.control = none := by
  simp only [deleteContextFinish, Option.bind_eq_bind, Option.bind_eq_some] at h
  obtain ⟨⟨s₁, _⟩, h₁, s₂, h₂, c₂, hc₂, h⟩ := h
  obtain ⟨c₁, ring, events, hc₁, rfl⟩ := getevents_frame h₁
  cases hc.symm.trans hc₁
  obtain ⟨c₃, hs₂, hthis⟩ := drainLoop_eq rfl h₂
  have hthis₂ : c₂.thisObject = c.thisObject := by
    rw [hs₂] at hc₂
    cases hc₂
    exact hthis
  have hlog₂ : s₂.log = s.log := by rw [hs₂]; rfl
  have hrefs₂ : s₂.refs = s.refs := by rw [hs₂]; rfl
  have hnext₂ : s₂.nextRef = s.nextRef := by rw [hs₂]; rfl
  have hdumb₂ : s₂.dumbWriteHandler = s.dumbWriteHandler := by rw [hs₂]; rfl
  have hopen₂ : s₂.openFds = s.openFds := by rw [hs₂]; rfl
  simp only [pure, Option.some.injEq] at h
  subst h
  refine ⟨.ioQueueRelease :: (List.range c₂.queueSize).map (fun i => .freeIocb (c₂.iocb i)) ++
      [.freeIocbArray, .deleteGlobalRef (.ref c₂.thisObject), .freeEvents, .freeControl],
    by simp [iocbDestroy, iocbDestroyBounded, iocbDestroyMembers, Process.emit,
      Process.deleteGlobalRef, hlog₂], fun e he => ?_,
    by simp [iocbDestroy, iocbDestroyBounded, iocbDestroyMembers, Process.emit,
      Process.deleteGlobalRef, hrefs₂, hthis₂], by simp [iocbDestroy, iocbDestroyBounded,
      iocbDestroyMembers, Process.emit, Process.deleteGlobalRef, hnext₂], by simp [iocbDestroy,
      iocbDestroyBounded, iocbDestroyMembers, Process.emit, Process.deleteGlobalRef, hdumb₂],
    by simp [iocbDestroy, iocbDestroyBounded, iocbDestroyMembers, Process.emit,
      Process.deleteGlobalRef, hopen₂], rfl⟩
  simp only [List.mem_cons, List.mem_append, List.mem_map, List.mem_singleton, List.not_mem_nil,
    or_false] at he
  rcases he with (rfl | ⟨_, _, rfl⟩) | rfl | rfl | rfl | rfl <;> simp [Effect.target, hthis₂]

/-- `open` never returns a descriptor that is open. -/
theorem lowestFreeFd_not_mem (fds : List Int) : lowestFreeFd fds ∉ fds := by
  unfold lowestFreeFd
  cases h : List.find? (fun n => decide (n ∉ fds))
      (do let a ← List.range (fds.length + 1); pure (a : Int)) with
  | some n => simpa using List.find?_some h
  | none =>
    have hall : ∀ n ∈ List.range (fds.length + 1), (n : Int) ∈ fds := fun n hn => by
      have := List.find?_eq_none.1 h
      simp only [decide_not, Bool.not_eq_eq_eq_not, Bool.not_true, decide_eq_false_iff_not,
        not_not] at this
      exact this _ (List.mem_flatMap.2 ⟨n, hn, List.mem_singleton_self _⟩)
    have hsub := List.subperm_of_subset ((List.nodup_range _).map fun _ _ h => Int.ofNat_inj.1 h)
      fun x hx => by
        obtain ⟨n, hn, rfl⟩ := List.mem_map.1 hx
        exact hall n hn
    exact absurd hsub.length_le (by simp)

theorem lowestFreeFd_nonneg (fds : List Int) : 0 ≤ lowestFreeFd fds := by
  unfold lowestFreeFd
  cases h : List.find? (fun n => decide (n ∉ fds))
      (do let a ← List.range (fds.length + 1); pure (a : Int)) with
  | none => exact Int.natCast_nonneg _
  | some n =>
    obtain ⟨a, -, rfl⟩ : ∃ a, a < fds.length + 1 ∧ n = (a : Int) := by
      simpa using List.mem_of_find?_eq_some h
    exact Int.natCast_nonneg a

/-! ## The invariant -/

/-- The handles over a run without `shutdownHook`: the log's account of the references,
`dumbWriteHandler` open and not a file of the Java side, and the handles while the context is
live. -/
structure HandleInv (S : System) : Prop where
  log : LogInv S.proc
  dumb_open : S.proc.dumbWriteHandler ∈ S.proc.openFds
  dumb_user : S.proc.dumbWriteHandler ∉ S.userFds
  live : ∀ c, S.proc.control = some c → LiveHandles S c

/-- Nothing is out of the pool in an initial state. -/
theorem System.Initial.taken_eq_nil {descs : List Nat} {S : System} (h : S.Initial descs)
    (c : IoControl) : S.taken c = [] := by
  have hempty : S.proc.ring.contents = [] := by simp [AioRing.contents, h.ring_empty]
  simp [System.taken, h.submitting, h.deleter, h.inflight, hempty, h.harvester, h.lost,
    Deleter.iocbs, Harvester.batch]

theorem System.Initial.handleInv {descs : List Nat} {S : System} (h : S.Initial descs) :
    HandleInv S := by
  refine ⟨⟨fun r _ => by simp [h.log, history], fun r hr => by simp [h.log] at hr,
    fun e he => by simp [h.log] at he⟩, h.dumb, by simp [h.userFds], fun c hc => ?_⟩
  have htaken := h.taken_eq_nil c
  obtain ⟨hrefs, hlt⟩ := h.thisObject c hc
  refine ⟨by simp [hrefs, System.handles, htaken], by simp [hrefs], by simp [System.handles, htaken],
    hlt, by simp [h.log, history], by simp [htaken]⟩

theorem Reachable.nodup {hooks : Bool} {descs : List Nat} {S : System}
    (h : Reachable hooks descs S) : descs.Nodup := by
  induction h with
  | init S hS => exact hS.nodup
  | step _ _ ih => exact ih

section Step

variable {descs : List Nat} {S S' : System} {c : IoControl}

/-- The descriptors out of the pool after a step that moved `extra` out of the free window. -/
theorem LiveInv.taken_perm {c' : IoControl} (hl : LiveInv descs S c) (hl' : LiveInv descs S' c')
    (extra : List Nat) (hfree : c.freeList.Perm (extra ++ c'.freeList)) :
    (S'.taken c').Perm (extra ++ S.taken c) := by
  refine (List.perm_append_left_iff c'.freeList).1 (hl'.perm.trans (hl.perm.symm.trans ?_))
  refine (hfree.append_right _).trans ?_
  rw [List.append_assoc]
  exact List.perm_append_comm_assoc _ _ _

/-- The descriptor `getIOCB` hands out is not out of the pool already. -/
theorem LiveInv.get_not_mem (hl : LiveInv descs S c) (hnd : descs.Nodup)
    (hlt : c.used < c.queueSize) : c.iocb c.iocbGet ∉ S.taken c := by
  have h := hl.perm.nodup_iff.2 hnd
  rw [(getIOCB_freeList hl.pool hlt).1, List.cons_append, List.nodup_cons] at h
  exact fun hm => h.1 (List.mem_append_right _ hm)

/-- A step that keeps the pool, or only refills the events buffer, keeps the descriptors out of
it and `thisObject`. -/
theorem LiveInv.taken_perm_quiet {c' : IoControl} (hl : LiveInv descs S c)
    (hl' : LiveInv descs S' c') (hc : S.proc.control = some c) (hc' : S'.proc.control = some c')
    (hctl : S'.proc.control = S.proc.control ∨
      ∃ events, S'.proc.control = some { c with events := events }) :
    (S'.taken c').Perm (S.taken c) ∧ c'.thisObject = c.thisObject := by
  obtain rfl | ⟨events, rfl⟩ : c' = c ∨ ∃ events, c' = { c with events := events } := by
    rcases hctl with h | ⟨events, h⟩
    · exact .inl (Option.some.inj (hc'.symm.trans (h.trans hc)))
    · exact .inr ⟨events, Option.some.inj (hc'.symm.trans h)⟩
  all_goals exact ⟨hl.taken_perm hl' [] (.refl _), rfl⟩

/-- After `getIOCB` the descriptors out of the pool are the one it handed out and the others. -/
theorem LiveInv.taken_perm_take (hl : LiveInv descs S c) (hl' : LiveInv descs S' (getIOCB c).1)
    (hlt : c.used < c.queueSize) :
    (S'.taken (getIOCB c).1).Perm (c.iocb c.iocbGet :: S.taken c) :=
  hl.taken_perm hl' [c.iocb c.iocbGet] ((getIOCB_freeList hl.pool hlt).1 ▸ .refl _)

/-- After `putIOCB` of a descriptor out of the pool, the others are out of it. -/
theorem LiveInv.taken_perm_put {p : Nat} (hl : LiveInv descs S c)
    (hl' : LiveInv descs S' (putIOCB c p)) (hp : p ∈ S.taken c) :
    (S.taken c).Perm (p :: S'.taken (putIOCB c p)) :=
  hl'.taken_perm hl [p]
    (by rw [putIOCB_freeList hl.pool (hl.used_pos hp)]; exact List.perm_append_comm)

theorem HandleInv.quiet (hi : HandleInv S) {es : List Effect} (hq : Quiet S.proc S'.proc es)
    (hopen : S.proc.dumbWriteHandler ∈ S'.proc.openFds)
    (huser : S.proc.dumbWriteHandler ∉ S'.userFds)
    (hlive : ∀ c', S'.proc.control = some c' → LiveHandles S' c') : HandleInv S' :=
  ⟨hi.log.quiet hq.log hq.target hq.refs hq.nextRef, hq.dumb ▸ hopen, hq.dumb ▸ huser, hlive⟩

/-- A step of a live context that only reads the pool and writes the events buffer. -/
theorem HandleInv.quiet_live (hS : Reachable false descs S) (hS' : Reachable false descs S')
    (hi : HandleInv S) (hc : S.proc.control = some c) {es : List Effect}
    (hq : Quiet S.proc S'.proc es) (hopen : S.proc.dumbWriteHandler ∈ S'.proc.openFds)
    (huser : S.proc.dumbWriteHandler ∉ S'.userFds)
    (hctl : S'.proc.control = S.proc.control ∨
      ∃ events, S'.proc.control = some { c with events := events }) : HandleInv S' := by
  refine hi.quiet hq hopen huser fun c' hc' => ?_
  obtain ⟨ht, hthis⟩ := (hS.liveInv hc).taken_perm_quiet (hS'.liveInv hc') hc hc' hctl
  exact (hi.live c hc).quiet hq ht hthis

/-- `getIOCB` by a thread that then prepares the descriptor it took. -/
theorem HandleInv.take (hS : Reachable false descs S) (hS' : Reachable false descs S')
    (hi : HandleInv S) (hc : S.proc.control = some c) (hlt : c.used < c.queueSize)
    (hc' : S'.proc.control = some (getIOCB c).1)
    (hheap : ∀ q ≠ c.iocb c.iocbGet, S'.proc.heap q = S.proc.heap q)
    (hmark : (S'.proc.heap (c.iocb c.iocbGet)).MarkerAgrees S.proc.dumbWriteHandler)
    (hdumb : S'.proc.dumbWriteHandler = S.proc.dumbWriteHandler)
    (hopen : S'.proc.openFds = S.proc.openFds) (huser : S'.userFds = S.userFds)
    (hnew : ((S'.proc.heap (c.iocb c.iocbGet)).data.reference = none ∧
        S'.proc.refs = S.proc.refs ∧ S'.proc.nextRef = S.proc.nextRef ∧
        S'.proc.log = S.proc.log) ∨
      ((S'.proc.heap (c.iocb c.iocbGet)).data = .ref S.proc.nextRef ∧
        S'.proc.refs = S.proc.nextRef :: S.proc.refs ∧ S'.proc.nextRef = S.proc.nextRef + 1 ∧
        S'.proc.log = S.proc.log ++ [.newGlobalRef S.proc.nextRef])) : HandleInv S' := by
  have hl := hS.liveInv hc
  have ht := hl.taken_perm_take (hS'.liveInv hc') hlt
  refine ⟨?_, by rw [hdumb, hopen]; exact hi.dumb_open, by rw [hdumb, huser]; exact hi.dumb_user,
    fun c' hc'' => ?_⟩
  · rcases hnew with ⟨-, hrefs, hnext, hlog⟩ | ⟨-, hrefs, hnext, hlog⟩
    · exact hi.log.quiet (by simp [hlog] : S'.proc.log = S.proc.log ++ []) (by simp) hrefs hnext
    · exact hi.log.newRef hlog hrefs hnext
  · cases hc'.symm.trans hc''
    exact (hi.live c hc).take hi.log (hl.get_not_mem hS.nodup hlt) ht (getIOCB_thisObject c) hheap
      hdumb hmark hnew

/-- A round of a harvesting loop, or a refused `io_submit`, putting back the descriptor `p` and
settling its request. -/
theorem HandleInv.settle (hS : Reachable false descs S) (hS' : Reachable false descs S')
    (hi : HandleInv S) (hc : S.proc.control = some c) {p : Nat} (hp : p ∈ S.taken c)
    (hc' : S'.proc.control = some (putIOCB c p)) {es : List Effect}
    (hst : SettleStep S.proc S'.proc (S.proc.heap p).data es) (huser : S'.userFds = S.userFds) :
    HandleInv S' := by
  have hl := hS.liveInv hc
  have hh := hi.live c hc
  have ht := hl.taken_perm_put (hS'.liveInv hc') hp
  have hheld : ∀ r, (S.proc.heap p).data = .ref r →
      r ∈ S.proc.refs ∧ .newGlobalRef r ∈ S.proc.log := fun r hd =>
    ⟨hh.refs.mem_iff.2 (List.mem_cons_of_mem _ (System.mem_handles hp hd)),
      hh.logged r (System.mem_handles hp hd)⟩
  refine ⟨hi.log.settle hst.settles hheld hh.nodup hst.log hst.refs hst.nextRef,
    by rw [hst.dumb, hst.openFds]; exact hi.dumb_open, by rw [hst.dumb, huser]; exact hi.dumb_user,
    fun c' hc'' => ?_⟩
  cases hc'.symm.trans hc''
  exact hh.settle ht (putIOCB_thisObject c p) hst

/-- `deleteContext` freeing the context. -/
theorem HandleInv.finish (hi : HandleInv S) (hc : S.proc.control = some c) {es : List Effect}
    (hlog : S'.proc.log = S.proc.log ++ es)
    (hes : ∀ e ∈ es, e.target = none ∨ e = .deleteGlobalRef (.ref c.thisObject))
    (hrefs : S'.proc.refs = S.proc.refs.erase c.thisObject)
    (hnext : S'.proc.nextRef = S.proc.nextRef)
    (hdumb : S'.proc.dumbWriteHandler = S.proc.dumbWriteHandler)
    (hopen : S'.proc.openFds = S.proc.openFds) (huser : S'.userFds = S.userFds)
    (hc' : S'.proc.control = none) : HandleInv S' :=
  ⟨hi.log.finish (hi.live c hc).this_lt (hi.live c hc).this_unused hlog hes hrefs hnext,
    by rw [hdumb, hopen]; exact hi.dumb_open, by rw [hdumb, huser]; exact hi.dumb_user,
    fun c' h => by simp [hc'] at h⟩

/-- `open` changes no handle and returns a file other than `dumbWriteHandler`. -/
theorem HandleInv.openFile_quiet (hi : HandleInv S)
    (hS' : S' = { S with
      proc := (Jlibaio.openFile S.proc).1, userFds := (Jlibaio.openFile S.proc).2 :: S.userFds }) :
    Quiet S.proc S'.proc [] ∧ S.proc.dumbWriteHandler ∈ S'.proc.openFds ∧
      S.proc.dumbWriteHandler ∉ S'.userFds ∧ S'.proc.control = S.proc.control := by
  subst hS'
  have hne : lowestFreeFd S.proc.openFds ≠ S.proc.dumbWriteHandler := fun h =>
    lowestFreeFd_not_mem S.proc.openFds (h ▸ hi.dumb_open)
  exact ⟨⟨(List.append_nil _).symm, by simp, rfl, rfl, rfl, rfl⟩,
    List.mem_cons_of_mem _ hi.dumb_open,
    show S.proc.dumbWriteHandler ∉ lowestFreeFd S.proc.openFds :: S.userFds by
      simpa [Ne.symm hne] using hi.dumb_user, rfl⟩

/-- `close` of a file of the Java side changes no handle and keeps `dumbWriteHandler` open. -/
theorem HandleInv.closeFile_quiet (hi : HandleInv S) {fd : Int} (hfd : fd ∈ S.userFds)
    (hS' : S' = { S with
      proc := if (closeFd S.proc fd).2 < 0 then
          (closeFd S.proc fd).1.throw (.ioErrno "Error closing file:" 9) else (closeFd S.proc fd).1
      userFds := S.userFds.erase fd }) :
    ∃ es, Quiet S.proc S'.proc es ∧ S.proc.dumbWriteHandler ∈ S'.proc.openFds ∧
      S.proc.dumbWriteHandler ∉ S'.userFds ∧ S'.proc.control = S.proc.control := by
  subst hS'
  have hne : fd ≠ S.proc.dumbWriteHandler := fun h => hi.dumb_user (h ▸ hfd)
  have hopen : S.proc.dumbWriteHandler ∈ (closeFd S.proc fd).1.openFds := by
    unfold closeFd
    split_ifs
    · exact (List.mem_erase_of_ne (Ne.symm hne)).2 hi.dumb_open
    · exact hi.dumb_open
  have huser : S.proc.dumbWriteHandler ∉ S.userFds.erase fd := fun h =>
    hi.dumb_user (List.mem_of_mem_erase h)
  have hcl : Quiet S.proc (closeFd S.proc fd).1 [] := by
    unfold closeFd
    split <;> exact ⟨(List.append_nil _).symm, by simp, rfl, rfl, rfl, rfl⟩
  split_ifs
  · exact ⟨[.throw (.ioErrno "Error closing file:" 9)], ⟨by simp [Process.throw, Process.emit,
      hcl.log], by simp [Effect.target], hcl.refs, hcl.nextRef, hcl.heap, hcl.dumb⟩, hopen, huser,
      by simp⟩
  · exact ⟨_, hcl, hopen, huser, by simp⟩

end Step

/-! ## Every step keeps the invariant -/

/-- What a step of a live context with control block `c` does to the handles: nothing, a
descriptor taken and prepared (for the scratch file or a file of the Java side), a request
settled and its descriptor put back, or the context freed. -/
inductive HandleStep (S S' : System) (c : IoControl) : Prop
  | quiet (es : List Effect) : Quiet S.proc S'.proc es →
      S.proc.dumbWriteHandler ∈ S'.proc.openFds → S.proc.dumbWriteHandler ∉ S'.userFds →
      (S'.proc.control = S.proc.control ∨
        ∃ events, S'.proc.control = some { c with events := events }) → HandleStep S S' c
  | take : c.used < c.queueSize → S'.proc.control = some (getIOCB c).1 →
      (∀ q ≠ c.iocb c.iocbGet, S'.proc.heap q = S.proc.heap q) →
      (S'.proc.heap (c.iocb c.iocbGet)).MarkerAgrees S.proc.dumbWriteHandler →
      S'.proc.dumbWriteHandler = S.proc.dumbWriteHandler →
      S'.proc.openFds = S.proc.openFds → S'.userFds = S.userFds →
      ((S'.proc.heap (c.iocb c.iocbGet)).data.reference = none ∧
          S'.proc.refs = S.proc.refs ∧ S'.proc.nextRef = S.proc.nextRef ∧
          S'.proc.log = S.proc.log) ∨
        ((S'.proc.heap (c.iocb c.iocbGet)).data = .ref S.proc.nextRef ∧
          S'.proc.refs = S.proc.nextRef :: S.proc.refs ∧ S'.proc.nextRef = S.proc.nextRef + 1 ∧
          S'.proc.log = S.proc.log ++ [.newGlobalRef S.proc.nextRef]) →
      (S'.proc.heap (c.iocb c.iocbGet)).aioFildes ∈ S.proc.dumbWriteHandler :: S.userFds →
      HandleStep S S' c
  | settle (p : Nat) (es : List Effect) :
      p ∈ S.submitting ++ S.deleter.iocbs ++ S.harvester.batch c →
      S'.proc.control = some (putIOCB c p) → SettleStep S.proc S'.proc (S.proc.heap p).data es →
      S'.userFds = S.userFds → HandleStep S S' c
  | finish (es : List Effect) : S'.proc.log = S.proc.log ++ es →
      (∀ e ∈ es, e.target = none ∨ e = .deleteGlobalRef (.ref c.thisObject)) →
      S'.proc.refs = S.proc.refs.erase c.thisObject → S'.proc.nextRef = S.proc.nextRef →
      S'.proc.dumbWriteHandler = S.proc.dumbWriteHandler →
      S'.proc.openFds = S.proc.openFds → S'.userFds = S.userFds →
      S'.proc.control = none → HandleStep S S' c

section Run

variable {descs : List Nat} {S S' : System} {c : IoControl}

/-- Every step of a live context, read through the calls' lemmas. -/
theorem Step.handleStep (hS : Reachable false descs S) (hs : Step false S S')
    (hc : S.proc.control = some c) (hi : HandleInv S) : HandleStep S S' c := by
  have hl := hS.liveInv hc
  cases hs with
  | prepare opcode fd position size buffer callback s iocb hfd h =>
    rcases submitPrepare_spec hc hl.address h with ⟨-, rfl, rfl⟩ | ⟨hlt, rfl, rfl⟩
    · exact .quiet _ ⟨rfl, by simp [Effect.target], rfl, rfl, rfl, rfl⟩ hi.dumb_open
        hi.dumb_user (.inl rfl)
    · have hmark : ∀ data : IocbData, data ≠ .marker →
          Iocb.MarkerAgrees S.proc.dumbWriteHandler
            { ioPrep opcode fd buffer (toSizeT size) position with data := data } :=
        fun data hd => iff_of_false hd fun h => hi.dumb_user (h ▸ hfd)
      have hfile : (ioPrep opcode fd buffer (toSizeT size) position).aioFildes ∈
          S.proc.dumbWriteHandler :: S.userFds := List.mem_cons_of_mem _ hfd
      cases callback with
      | none =>
        refine .take hlt rfl (fun q hq => ?_) ?_ rfl rfl rfl (.inl ⟨?_, rfl, rfl, rfl⟩) ?_ <;>
          simp [Process.setIocb, Process.newGlobalRef, Process.setControl, hmark,
            IocbData.reference, Function.update_noteq, *]
      | some callback =>
        refine .take hlt rfl (fun q hq => ?_) ?_ rfl rfl rfl (.inr ⟨?_, rfl, rfl, rfl⟩) ?_ <;>
          simp [Process.setIocb, Process.newGlobalRef, Process.setControl, hmark,
            Function.update_noteq, *]
  | submit iocb result s ok hmem _ h =>
    rcases submit_spec hc h with ⟨-, -, rfl⟩ | ⟨-, -, rfl⟩
    · obtain ⟨es, hst⟩ := submit_refused_settleStep S.proc iocb (putIOCB c iocb)
        (.ioErrno "Error while submitting IO: " (-result))
      exact .settle iocb es (by simp [hmem]) rfl hst rfl
    · exact .quiet _ ⟨(List.append_nil _).symm, by simp, rfl, rfl, rfl, rfl⟩ hi.dumb_open
        hi.dumb_user (.inl rfl)
  | complete | pollReturn | blockedStart | blockedNext =>
    exact .quiet _ ⟨(List.append_nil _).symm, by simp, rfl, rfl, rfl, rfl⟩ hi.dumb_open
      hi.dumb_user (.inl rfl)
  | pollStart min max answer s result _ _ _ _ h =>
    obtain ⟨c₁, ring, events, hc₁, rfl⟩ := getevents_frame h
    cases hc.symm.trans hc₁
    exact .quiet _ ⟨(List.append_nil _).symm, by simp, rfl, rfl, rfl, rfl⟩ hi.dumb_open
      hi.dumb_user (.inr ⟨events, rfl⟩)
  | pollRound result i s hh hi' h =>
    rw [pollEvent_eq hc] at h
    cases h
    exact .settle (c.events i).obj _ (by simp [hh, Harvester.batch, bufferObjs_succ _ hi']) rfl
      ⟨pollDispatch_settles _ _ _, rfl, rfl, rfl, rfl, rfl, rfl⟩ rfl
  | blockedGetevents useFdatasync answer c₀ s result _ _ _ h =>
    obtain ⟨c₁, ring, events, hc₁, rfl⟩ := getevents_frame h
    cases hc.symm.trans hc₁
    split
    · exact .quiet _ ⟨rfl, by simp [Effect.target], rfl, rfl, rfl, rfl⟩ hi.dumb_open
        hi.dumb_user (.inr ⟨events, rfl⟩)
    · exact .quiet _ ⟨(List.append_nil _).symm, by simp, rfl, rfl, rfl, rfl⟩ hi.dumb_open
        hi.dumb_user (.inr ⟨events, rfl⟩)
  | blockedRound useFdatasync result i lastFile s lastFile' running c₀ hh hi' hc₀ h =>
    cases hc.symm.trans hc₀
    have hp : (c.events i).obj ∈ S.submitting ++ S.deleter.iocbs ++ S.harvester.batch c := by
      simp [hh, Harvester.batch, bufferObjs_succ _ hi']
    obtain ⟨s', lf, rn, es, h', hc', hst⟩ := blockedPollEvent_settleStep hc useFdatasync lastFile i
      ((hi.live c hc).marker _ (System.mem_taken_of_held hp))
    rw [h'] at h
    cases h
    exact .settle _ es hp hc' hst rfl
  | deletePrepare s iocb _ h =>
    rcases deleteContextPrepare_spec hc hl.address h with ⟨-, rfl, rfl⟩ | ⟨hlt, rfl, rfl⟩
    · exact .quiet _ ⟨rfl, by simp [Effect.target], rfl, rfl, rfl, rfl⟩ hi.dumb_open
        hi.dumb_user (.inl rfl)
    · refine .take hlt rfl (fun q hq => ?_) ?_ rfl rfl rfl (.inl ⟨?_, rfl, rfl, rfl⟩) ?_ <;>
        simp [Process.setIocb, Process.setControl, Iocb.MarkerAgrees, ioPrep, IocbData.reference,
          Function.update_noteq, *]
  | deleteSubmit iocb result s ok hsub _ h =>
    rcases submit_spec hc h with ⟨-, rfl, rfl⟩ | ⟨-, rfl, rfl⟩
    · obtain ⟨es, hst⟩ := submit_refused_settleStep S.proc iocb (putIOCB c iocb)
        (.ioErrno "Error while submitting IO: " (-result))
      exact .settle iocb es (by simp [hsub, Deleter.iocbs]) rfl hst rfl
    · exact .quiet _ ⟨(List.append_nil _).symm, by simp, rfl, rfl, rfl, rfl⟩ hi.dumb_open
        hi.dumb_user (.inl rfl)
  | deleteFinish answer s _ _ _ h =>
    obtain ⟨es, hlog, hes, hrefs, hnext, hdumb, hopen, hc'⟩ := deleteContextFinish_handles hc h
    exact .finish es hlog hes hrefs hnext hdumb hopen rfl hc'
  | shutdownHook hk => cases hk
  | openFile =>
    obtain ⟨hq, hopen, huser, hctl⟩ := hi.openFile_quiet rfl
    exact .quiet _ hq hopen huser (.inl hctl)
  | closeFile fd hfd =>
    obtain ⟨es, hq, hopen, huser, hctl⟩ := hi.closeFile_quiet hfd rfl
    exact .quiet es hq hopen huser (.inl hctl)

theorem Step.handleInv_of_live (hS : Reachable false descs S) (hs : Step false S S')
    (hc : S.proc.control = some c) (hi : HandleInv S) : HandleInv S' := by
  have hS' := hS.step hs
  rcases hs.handleStep hS hc hi with ⟨es, hq, hopen, huser, hctl⟩ |
    ⟨hlt, hc', hheap, hmark, hdumb, hopen, huser, hnew, -⟩ | ⟨p, es, hp, hc', hst, huser⟩ |
    ⟨es, hlog, hes, hrefs, hnext, hdumb, hopen, huser, hc'⟩
  · exact hi.quiet_live hS hS' hc hq hopen huser hctl
  · exact hi.take hS hS' hc hlt hc' hheap hmark hdumb hopen huser hnew
  · exact hi.settle hS hS' hc (System.mem_taken_of_held hp) hc' hst huser
  · exact hi.finish hc hlog hes hrefs hnext hdumb hopen huser hc'

/-- After `deleteContext` a step hands nothing to the JVM: the log grows by exceptions at most. -/
theorem Step.quiet_of_freed (hs : Step false S S') (hdel : S.deleter = .finished)
    (hc : S.proc.control = none) (hinfl : S.proc.inflight = []) (haddr : S.proc.address ≠ 0)
    (hi : HandleInv S) :
    ∃ es, Quiet S.proc S'.proc es ∧ S.proc.dumbWriteHandler ∈ S'.proc.openFds ∧
      S.proc.dumbWriteHandler ∉ S'.userFds ∧ S'.proc.control = none := by
  rcases hs.cases_of_freed hdel hc hinfl haddr with ⟨_, rfl⟩ | ⟨hk, -⟩ | rfl | ⟨fd, hfd, rfl⟩
  · exact ⟨[], ⟨(List.append_nil _).symm, by simp, rfl, rfl, rfl, rfl⟩, hi.dumb_open,
      hi.dumb_user, hc⟩
  · cases hk
  · obtain ⟨hq, hopen, huser, hctl⟩ := hi.openFile_quiet rfl
    exact ⟨[], hq, hopen, huser, hctl.trans hc⟩
  · obtain ⟨es, hq, hopen, huser, hctl⟩ := hi.closeFile_quiet hfd rfl
    exact ⟨es, hq, hopen, huser, hctl.trans hc⟩

theorem Step.handleInv_of_freed (hs : Step false S S') (hdel : S.deleter = .finished)
    (hc : S.proc.control = none) (hinfl : S.proc.inflight = []) (haddr : S.proc.address ≠ 0)
    (hi : HandleInv S) : HandleInv S' := by
  obtain ⟨es, hq, hopen, huser, hc'⟩ := hs.quiet_of_freed hdel hc hinfl haddr hi
  exact hi.quiet hq hopen huser fun c' h => by simp [hc'] at h

theorem Step.handleInv (hS : Reachable false descs S) (hs : Step false S S') (hi : HandleInv S) :
    HandleInv S' := by
  rcases hS.sysInv with ⟨hdel, hc, hinfl, haddr⟩ | ⟨-, c, hc, -⟩
  · exact hs.handleInv_of_freed hdel hc hinfl haddr hi
  · exact hs.handleInv_of_live hS hc hi

theorem Reachable.handleInv (hS : Reachable false descs S) : HandleInv S := by
  induction hS with
  | init S h => exact h.handleInv
  | step hS hs ih => exact hs.handleInv hS ih

end Run

/-- Over every run without `shutdownHook`, with any calls in any order and the kernel completing
requests in any order: the history of every completion handle's reference is one of `Life`'s, so
a handle is delivered at most once, `onError` comes at most once and before the delivery, and a
handle whose request `io_submit` refused sees no call; a reference is held exactly while its
handle is pending; neither `NULL` nor the sentinel's marker is ever handed to the JVM; and while
the context is live, the references held besides `thisObject`'s are those of the descriptors out
of the pool, each held by exactly one of them. -/
theorem handle_lifecycle {descs : List Nat} {S : System} (hS : Reachable false descs S) :
    (∀ r, .newGlobalRef r ∈ S.proc.log →
      Life r (history S.proc.log r) ∧
        (r ∈ S.proc.refs ↔ history S.proc.log r = [.newGlobalRef r])) ∧
    (∀ e ∈ S.proc.log, e.target ≠ some .marker ∧ e.target ≠ some .null) ∧
    (∀ c, S.proc.control = some c →
      S.proc.refs.Perm (c.thisObject :: S.handles c) ∧ S.proc.refs.Nodup) :=
  ⟨hS.handleInv.log.life, hS.handleInv.log.target,
    fun c hc => ⟨(hS.handleInv.live c hc).refs, (hS.handleInv.live c hc).nodup⟩⟩

theorem handle_lifecycle_syncBatchContext :
    Reachable false threeDescs syncBatchContext ∧
    (∀ r, .newGlobalRef r ∈ syncBatchContext.proc.log →
      Life r (history syncBatchContext.proc.log r) ∧
        (r ∈ syncBatchContext.proc.refs ↔
          history syncBatchContext.proc.log r = [.newGlobalRef r])) ∧
    (∀ e ∈ syncBatchContext.proc.log, e.target ≠ some .marker ∧ e.target ≠ some .null) ∧
    (∀ c, syncBatchContext.proc.control = some c →
      syncBatchContext.proc.refs.Perm (c.thisObject :: syncBatchContext.handles c) ∧
        syncBatchContext.proc.refs.Nodup) :=
  have hS : Reachable false threeDescs syncBatchContext :=
    System.run_reachable (.init _ threeContext_initial)
      (show threeContext.run false syncBatchRun = some syncBatchContext from rfl)
  ⟨hS, handle_lifecycle hS⟩

/-! ## Handles that are never settled -/

/-- After `deleteContext` the histories are final: no step hands anything more to the JVM. -/
theorem history_of_freed {S S' : System} (hdel : S.deleter = .finished)
    (hc : S.proc.control = none) (hinfl : S.proc.inflight = []) (haddr : S.proc.address ≠ 0)
    (h : Relation.ReflTransGen (Step false) S S') (r : Nat) :
    history S'.proc.log r = history S.proc.log r := by
  suffices (S'.deleter = .finished ∧ S'.proc.control = none ∧ S'.proc.inflight = [] ∧
      S'.proc.address ≠ 0) ∧ history S'.proc.log r = history S.proc.log r from this.2
  induction h with
  | refl => exact ⟨⟨hdel, hc, hinfl, haddr⟩, rfl⟩
  | tail _ hs ih =>
    obtain ⟨⟨hdel', hc', hinfl', haddr'⟩, hh⟩ := ih
    refine ⟨hs.sysInv_of_freed hdel' hc' hinfl' haddr', hh ▸ ?_⟩
    rcases hs.cases_of_freed hdel' hc' hinfl' haddr' with ⟨_, rfl⟩ | ⟨hk, -⟩ | rfl | ⟨fd, -, rfl⟩
    · rfl
    · cases hk
    · rfl
    · unfold closeFd
      split_ifs <;> simp [Process.throw, Process.emit, history, Effect.target]

theorem Step.lost_subset {hooks : Bool} {S S' : System} (hs : Step hooks S S') :
    S.lost ⊆ S'.lost := by
  cases hs <;> first | exact List.Subset.refl _ | exact fun x hx => by split <;> simp [hx]

/-- No two descriptors out of the pool hold the same reference. -/
theorem LiveHandles.holder_unique {S : System} {c : IoControl} (hh : LiveHandles S c)
    {p q r : Nat} (hp : p ∈ S.taken c) (hq : q ∈ S.taken c) (hpq : p ≠ q)
    (hdp : (S.proc.heap p).data = .ref r) : (S.proc.heap q).data ≠ .ref r := by
  intro hdq
  have hperm := ((List.perm_cons_erase hp).trans
    ((List.perm_cons_erase ((List.mem_erase_of_ne (Ne.symm hpq)).2 hq)).cons p)).filterMap
      fun p => (S.proc.heap p).data.reference
  have := hperm.nodup_iff.1 (List.nodup_cons.1 (hh.refs.nodup_iff.1 hh.nodup)).2
  simp [hdp, hdq, IocbData.reference] at this

/-- The descriptors a thread holds or a harvesting call has still to look at are not lost. -/
theorem System.ne_of_lost {S : System} {c : IoControl} (hnd : (S.taken c).Nodup) {p q : Nat}
    (hq : q ∈ S.submitting ++ S.deleter.iocbs ++ S.harvester.batch c) (hp : p ∈ S.lost) :
    q ≠ p := by
  rintro rfl
  exact List.disjoint_of_nodup_append hnd (System.mem_held hq) hp

/-- A handle whose descriptor `p` was lost: its reference `r` is held and was created, and while
the context lives `p` is lost and still holds `r`. -/
structure LostHandle (descs : List Nat) (S : System) (p r : Nat) : Prop where
  reachable : Reachable false descs S
  held : r ∈ S.proc.refs
  created : .newGlobalRef r ∈ S.proc.log
  lost : ∀ c, S.proc.control = some c → p ∈ S.lost ∧ (S.proc.heap p).data = .ref r

section Lost

variable {descs : List Nat} {S S' : System} {p r : Nat}

theorem LostHandle.step (hL : LostHandle descs S p r) (hs : Step false S S') :
    LostHandle descs S' p r := by
  obtain ⟨hS, hr, hn, hlive⟩ := hL
  have hi := hS.handleInv
  suffices h : r ∈ S'.proc.refs ∧ .newGlobalRef r ∈ S'.proc.log ∧
      ∀ c, S'.proc.control = some c → p ∈ S'.lost ∧ (S'.proc.heap p).data = .ref r from
    ⟨hS.step hs, h.1, h.2.1, h.2.2⟩
  rcases hS.sysInv with ⟨hdel, hc, hinfl, haddr⟩ | ⟨-, c, hc, -⟩
  · obtain ⟨es, hq, -, -, hc'⟩ := hs.quiet_of_freed hdel hc hinfl haddr hi
    exact ⟨hq.refs ▸ hr, hq.log ▸ List.mem_append_left _ hn, fun _ h => by simp [hc'] at h⟩
  obtain ⟨hp, hd⟩ := hlive c hc
  have hh := hi.live c hc
  have hl := hS.liveInv hc
  have hpt : p ∈ S.taken c := by simp [System.taken, hp]
  have hlost := hs.lost_subset hp
  rcases hs.handleStep hS hc hi with ⟨es, hq, -, -, -⟩ | ⟨hlt, -, hheap, -, -, -, -, hnew⟩ |
    ⟨q, es, hq, -, hst, -⟩ | ⟨es, hlog, -, hrefs, -, -, -, -, hc'⟩
  case quiet =>
    exact ⟨hq.refs ▸ hr, hq.log ▸ List.mem_append_left _ hn, fun _ _ => ⟨hlost, hq.heap ▸ hd⟩⟩
  case take =>
    have hne : p ≠ c.iocb c.iocbGet := fun h => hl.get_not_mem hS.nodup hlt (h ▸ hpt)
    rcases hnew with ⟨-, hrefs, -, hlog⟩ | ⟨-, hrefs, -, hlog⟩
    · exact ⟨hrefs ▸ hr, hlog ▸ hn, fun _ _ => ⟨hlost, (hheap p hne) ▸ hd⟩⟩
    · exact ⟨by rw [hrefs]; exact List.mem_cons_of_mem _ hr,
        by rw [hlog]; exact List.mem_append_left _ hn, fun _ _ => ⟨hlost, (hheap p hne) ▸ hd⟩⟩
  case settle =>
    have hqp := System.ne_of_lost (hl.perm.nodup_iff.2 hS.nodup).of_append_right hq hp
    have hdq := hh.holder_unique hpt (System.mem_taken_of_held hq) (Ne.symm hqp) hd
    refine ⟨?_, by rw [hst.log]; exact List.mem_append_left _ hn, fun _ _ => ⟨hlost, hst.heap ▸ hd⟩⟩
    rw [hst.refs]
    cases hdata : (S.proc.heap q).data with
    | ref r' =>
      have hne : r ≠ r' := fun h => hdq (hdata.trans (h ▸ rfl))
      simpa [Process.deleteGlobalRef, List.mem_erase_of_ne hne] using hr
    | null | marker => exact hr
  case finish =>
    have hne : r ≠ c.thisObject := fun h => hh.not_mem (h ▸ System.mem_handles hpt hd)
    exact ⟨by rw [hrefs]; exact (List.mem_erase_of_ne hne).2 hr,
      by rw [hlog]; exact List.mem_append_left _ hn, fun _ h => by simp [hc'] at h⟩

theorem LostHandle.run (hL : LostHandle descs S p r)
    (h : Relation.ReflTransGen (Step false) S S') : LostHandle descs S' p r := by
  induction h with
  | refl => exact hL
  | tail _ hs ih => exact ih.step hs

theorem LostHandle.history_eq (hL : LostHandle descs S p r) :
    history S.proc.log r = [.newGlobalRef r] :=
  (hL.reachable.handleInv.log.life r hL.created).2.1 hL.held

/-- A handle whose descriptor was lost after a sentinel is never settled: in every state a run
reaches from there its reference is held and its history is `[NewGlobalRef]`. -/
theorem lost_handle_pending {c : IoControl} (hS : Reachable false descs S)
    (hc : S.proc.control = some c) (hp : p ∈ S.lost) (hd : (S.proc.heap p).data = .ref r)
    (h : Relation.ReflTransGen (Step false) S S') : history S'.proc.log r = [.newGlobalRef r] := by
  have hh := hS.handleInv.live c hc
  have hmem := System.mem_handles (c := c) (by simp [System.taken, hp]) hd
  exact (LostHandle.run ⟨hS, hh.refs.mem_iff.2 (List.mem_cons_of_mem _ hmem), hh.logged r hmem,
    fun _ _ => ⟨hp, hd⟩⟩ h).history_eq

end Lost

/-- A write to file `4` on descriptor `100`, holding the reference `1`, and `deleteContext`'s
sentinel on `101`, both accepted; the kernel completes the sentinel first; `blockedPoll` gets both
events back in one batch. -/
def lostRun : List Action :=
  [.openFile, .prepare .pwrite 4 0 512 0 (some 1), .submit 100 1, .deletePrepare, .deleteSubmit 1,
    .complete 101 0, .complete 100 512, .blockedStart false, .blockedGetevents (.read 2)]

/-- The state `lostRun` reaches, `blockedPoll` about to look at the sentinel's event. -/
def lostContext : System := (threeContext.run false lostRun).getD threeContext

/-- `lostContext` after `blockedPoll`'s round on the sentinel's event. -/
def lostRound : System := (lostContext.exec false .blockedRound).getD lostContext

/-- Two requests whose completions `artemis_io_getevents` returns and whose handles are never
called. In a batch of `blockedPoll` that starts with the sentinel the loop ends at it: the write's
event after it is consumed, its descriptor stays out of the pool, and its handle (reference `1`)
is still pending when `blockedPoll` returns and in every later state. And `deleteContext`'s final drain returns the event
of the write on `101` (reference `2`) and only puts the descriptor back: that handle stays pending
in every later state. -/
theorem handles_left_pending :
    (Reachable false threeDescs lostContext ∧
      lostContext.harvester.batch (lostContext.proc.control.getD freshPool) = [101, 100] ∧
      (lostContext.proc.heap 101).data = .marker ∧ (lostContext.proc.heap 100).data = .ref 1 ∧
      Step false lostContext lostRound ∧ lostRound.harvester = .idle ∧ lostRound.lost = [100] ∧
      ∀ S', Relation.ReflTransGen (Step false) lostRound S' →
        history S'.proc.log 1 = [.newGlobalRef 1]) ∧
    (Reachable false threeDescs teardownContext ∧
      (getevents teardownContext.proc 0 1 (.read 0)).map
          (fun r => (r.2, r.1.control.map fun c => (c.events 0).obj)) = some (1, some 101) ∧
      (teardownContext.proc.heap 101).data = .ref 2 ∧ Step false teardownContext teardownFreed ∧
      ∀ S', Relation.ReflTransGen (Step false) teardownFreed S' →
        history S'.proc.log 2 = [.newGlobalRef 2]) := by
  have hctx : Reachable false threeDescs lostContext := System.run_reachable
    (.init _ threeContext_initial) (show threeContext.run false lostRun = some lostContext from rfl)
  have hstep : Step false lostContext lostRound :=
    System.exec_step (show lostContext.exec false .blockedRound = some lostRound from rfl)
  exact ⟨⟨hctx, by decide, by decide, by decide, hstep, rfl, rfl,
      fun _ h => lost_handle_pending (hctx.step hstep) (c := lostRound.proc.control.getD freshPool)
        rfl (show 100 ∈ lostRound.lost by decide) (by decide) h⟩,
    ⟨System.run_reachable (.init _ threeContext_initial)
        (show threeContext.run false teardownRun = some teardownContext from rfl),
      by decide, by decide,
      System.exec_step
        (show teardownContext.exec false (.deleteFinish (.read 0)) = some teardownFreed from rfl),
      fun _ h => (history_of_freed rfl rfl rfl (by decide) h 2).trans (by decide)⟩⟩

end Jlibaio
