import Jlibaio.System

set_option autoImplicit false

/-! # Running the system

`Step` says what a run may do; `System.exec` does it, for a step named by an `Action` that carries
every choice the step leaves open (the arguments of the call, what the kernel answers). It checks
the step's guards and returns `none` when the step cannot be taken. Every step `exec` takes is a
`Step` (`System.exec_step`), so a list of actions that runs from a reachable state ends in a
reachable state (`System.run_reachable`): concrete runs are evaluated, not built by hand. -/

namespace Jlibaio

/-- A step of a run, with the choices it makes. -/
inductive Action where
  | prepare (opcode : Opcode) (fd position size : Int) (buffer : Nat) (callback : Option Nat)
  | submit (iocb : Nat) (result : Int)
  | complete (iocb : Nat) (res : Int)
  | pollStart (min max : Int) (answer : IoGeteventsAnswer)
  | pollRound
  | pollReturn
  | blockedStart (useFdatasync : Bool)
  | blockedGetevents (answer : IoGeteventsAnswer)
  | blockedRound
  | blockedNext
  | deletePrepare
  | deleteSubmit (result : Int)
  | deleteFinish (answer : IoGeteventsAnswer)
  | shutdownHook
  | openFile
  | closeFile (fd : Int)

/-- The step named by an action, when its guards hold. -/
def System.exec (hooks : Bool) (S : System) : Action → Option System
  | .prepare opcode fd position size buffer callback =>
    if fd ∈ S.userFds then
      (submitPrepare opcode S.proc fd position size buffer callback).map fun (s, iocb) =>
        { S with proc := s, submitting := iocb.toList ++ S.submitting }
    else none
  | .submit iocb result =>
    if iocb ∈ S.submitting ∧ SubmitAdmissible S.proc iocb result then
      (Jlibaio.submit S.proc iocb result).map fun (s, _) =>
        { S with proc := s, submitting := S.submitting.erase iocb }
    else none
  | .complete iocb res =>
    if iocb ∈ S.proc.inflight ∧ S.proc.ring.pending + 1 < S.proc.ring.nr ∧ -2 ^ 31 < res ∧
        res < 2 ^ 31 then
      some { S with proc := kernelComplete S.proc iocb res }
    else none
  | .pollStart min max answer =>
    if S.harvester = .idle ∧ -2 ^ 31 ≤ max ∧ answer.Admissible S.proc.ring min max ∧
        (getIOControl S.proc).2.isSome then
      (getevents S.proc min max answer).map fun (s, result) =>
        { S with proc := s, harvester := .poll result 0 }
    else none
  | .pollRound =>
    match S.harvester with
    | .poll result i =>
      if i < result.toNat then
        (pollEvent S.proc i).map fun s => { S with proc := s, harvester := .poll result (i + 1) }
      else none
    | _ => none
  | .pollReturn =>
    match S.harvester with
    | .poll result i => if result.toNat ≤ i then some { S with harvester := .idle } else none
    | _ => none
  | .blockedStart useFdatasync =>
    if S.harvester = .idle ∧ (getIOControl S.proc).2.isSome ∧ S.proc.control.isSome then
      some { S with harvester := .blockedWaiting useFdatasync }
    else none
  | .blockedGetevents answer =>
    match S.harvester, S.proc.control with
    | .blockedWaiting useFdatasync, some c =>
      if answer.Admissible S.proc.ring 1 c.queueSize then
        (getevents S.proc 1 c.queueSize answer).map fun (s, result) =>
          { S with
            proc := if result < 0 ∧ result ≠ -eintr then
                s.throw (.ioErrno "Error while calling io_getevents IO: " (-result)) else s
            harvester := if result = -eintr then .blockedWaiting useFdatasync
              else if result < 0 then .idle else .blockedBatch useFdatasync result 0 (-1) }
      else none
    | _, _ => none
  | .blockedRound =>
    match S.harvester, S.proc.control with
    | .blockedBatch useFdatasync result i lastFile, some c =>
      if i < result.toNat then
        (blockedPollEvent S.proc useFdatasync lastFile i).map fun (s, lastFile', running) =>
          { S with
            proc := s
            harvester := if running then .blockedBatch useFdatasync result (i + 1) lastFile'
              else .idle
            lost := if running then S.lost
              else S.lost ++ bufferObjs c.events (i + 1) result.toNat }
      else none
    | _, _ => none
  | .blockedNext =>
    match S.harvester with
    | .blockedBatch useFdatasync result i _ =>
      if result.toNat ≤ i then some { S with harvester := .blockedWaiting useFdatasync } else none
    | _ => none
  | .deletePrepare =>
    if S.deleter = .idle then
      (deleteContextPrepare S.proc).map fun (s, iocb) =>
        { S with
          proc := s
          deleter := match iocb with
            | some iocb => .submitting iocb
            | none => .idle }
    else none
  | .deleteSubmit result =>
    match S.deleter with
    | .submitting iocb =>
      if SubmitAdmissible S.proc iocb result then
        (Jlibaio.submit S.proc iocb result).map fun (s, ok) =>
          { S with proc := s, deleter := if ok then .waiting else .idle }
      else none
    | _ => none
  | .deleteFinish answer =>
    if S.deleter = .waiting ∧ S.harvester = .idle ∧ answer.Admissible S.proc.ring 0 1 then
      (deleteContextFinish S.proc answer).map fun s => { S with proc := s, deleter := .finished }
    else none
  | .shutdownHook =>
    if hooks then some { S with proc := Jlibaio.shutdownHook S.proc } else none
  | .openFile =>
    some { S with
      proc := (Jlibaio.openFile S.proc).1, userFds := (Jlibaio.openFile S.proc).2 :: S.userFds }
  | .closeFile fd =>
    if fd ∈ S.userFds then
      some { S with
        proc := if (closeFd S.proc fd).2 < 0 then
            (closeFd S.proc fd).1.throw (.ioErrno "Error closing file:" 9) else (closeFd S.proc fd).1
        userFds := S.userFds.erase fd }
    else none

/-- The actions run in order. -/
def System.run (hooks : Bool) (S : System) : List Action → Option System
  | [] => some S
  | a :: as => (S.exec hooks a).bind fun S' => S'.run hooks as

/-- Every step `exec` takes is a step of the system. -/
theorem System.exec_step {hooks : Bool} {S S' : System} {a : Action}
    (h : S.exec hooks a = some S') : Step hooks S S' := by
  cases a with
  | prepare opcode fd position size buffer callback =>
    simp only [System.exec] at h
    split_ifs at h with hfd
    obtain ⟨⟨s, iocb⟩, hprep, rfl⟩ := Option.map_eq_some'.1 h
    exact .prepare S opcode fd position size buffer callback s iocb hfd hprep
  | submit iocb result =>
    simp only [System.exec] at h
    split_ifs at h with hg
    obtain ⟨⟨s, ok⟩, hsub, rfl⟩ := Option.map_eq_some'.1 h
    exact .submit S iocb result s ok hg.1 hg.2 hsub
  | complete iocb res =>
    simp only [System.exec] at h
    split_ifs at h with hg
    cases h
    exact .complete S iocb res hg.1 hg.2.1 hg.2.2.1 hg.2.2.2
  | pollStart min max answer =>
    simp only [System.exec] at h
    split_ifs at h with hg
    obtain ⟨⟨s, result⟩, hget, rfl⟩ := Option.map_eq_some'.1 h
    exact .pollStart S min max answer s result hg.1 hg.2.1 hg.2.2.1 hg.2.2.2 hget
  | pollRound =>
    simp only [System.exec] at h
    split at h <;> try cases h
    rename_i result i hh
    split_ifs at h with hi
    obtain ⟨s, hpoll, rfl⟩ := Option.map_eq_some'.1 h
    exact .pollRound S result i s hh hi hpoll
  | pollReturn =>
    simp only [System.exec] at h
    split at h <;> try cases h
    rename_i result i hh
    split_ifs at h with hi
    cases h
    exact .pollReturn S result i hh hi
  | blockedStart useFdatasync =>
    simp only [System.exec] at h
    split_ifs at h with hg
    cases h
    exact .blockedStart S useFdatasync hg.1 hg.2.1 hg.2.2
  | blockedGetevents answer =>
    simp only [System.exec] at h
    split at h <;> try cases h
    rename_i useFdatasync c hh hc
    split_ifs at h with hadm
    obtain ⟨⟨s, result⟩, hget, rfl⟩ := Option.map_eq_some'.1 h
    exact .blockedGetevents S useFdatasync answer c s result hh hc hadm hget
  | blockedRound =>
    simp only [System.exec] at h
    split at h <;> try cases h
    rename_i useFdatasync result i lastFile c hh hc
    split_ifs at h with hi
    obtain ⟨⟨s, lastFile', running⟩, hev, rfl⟩ := Option.map_eq_some'.1 h
    exact .blockedRound S useFdatasync result i lastFile s lastFile' running c hh hi hc hev
  | blockedNext =>
    simp only [System.exec] at h
    split at h <;> try cases h
    rename_i useFdatasync result i lastFile hh
    split_ifs at h with hi
    cases h
    exact .blockedNext S useFdatasync result i lastFile hh hi
  | deletePrepare =>
    simp only [System.exec] at h
    split_ifs at h with hidle
    obtain ⟨⟨s, iocb⟩, hprep, rfl⟩ := Option.map_eq_some'.1 h
    exact .deletePrepare S s iocb hidle hprep
  | deleteSubmit result =>
    simp only [System.exec] at h
    split at h <;> try cases h
    rename_i iocb hd
    split_ifs at h with hadm
    obtain ⟨⟨s, ok⟩, hsub, rfl⟩ := Option.map_eq_some'.1 h
    exact .deleteSubmit S iocb result s ok hd hadm hsub
  | deleteFinish answer =>
    simp only [System.exec] at h
    split_ifs at h with hg
    obtain ⟨s, hfin, rfl⟩ := Option.map_eq_some'.1 h
    exact .deleteFinish S answer s hg.1 hg.2.1 hg.2.2 hfin
  | shutdownHook =>
    simp only [System.exec] at h
    split_ifs at h with hk
    cases h
    exact .shutdownHook S hk
  | openFile =>
    cases h
    exact .openFile S
  | closeFile fd =>
    simp only [System.exec] at h
    split at h
    · cases h
      exact .closeFile S fd ‹_›
    · cases h

/-- A run of actions from a reachable state ends in a reachable state. -/
theorem System.run_reachable {hooks : Bool} {descs : List Nat} {S S' : System}
    (hS : Reachable hooks descs S) {as : List Action} (h : S.run hooks as = some S') :
    Reachable hooks descs S' := by
  induction as generalizing S with
  | nil => cases h; exact hS
  | cons a as ih =>
    obtain ⟨S₁, h₁, h⟩ := Option.bind_eq_some.1 h
    exact ih (hS.step (System.exec_step h₁)) h

end Jlibaio
