import Crio.Storage.DiskScheduler

/-!
What holds of the disk scheduler over every interleaving of its threads: the channel loses
and repeats nothing (`Coherent.log`), and every synchronous call that returns, returns
`Ok(())`.
-/

namespace Crio

namespace DiskScheduler

def pendingFor (requests : List DiskRequest) (c : Nat) : List DiskRequest :=
  requests.filter fun request => request.callback == some c

def ClientCoherent (s : DiskScheduler) (c : Nat) : Prop :=
  match (s.clients c).state with
  | .idle => (s.clients c).completion = none ∧ pendingFor s.requests c = []
  | .returned result =>
    result = .ok () ∧ (s.clients c).completion = none ∧ pendingFor s.requests c = []
  | .sending request =>
    request.callback = some c ∧ (s.clients c).completion = none ∧ pendingFor s.requests c = []
  | .waiting request =>
    match (s.clients c).completion with
    | none => pendingFor s.requests c = [request]
    | some success => pendingFor s.requests c = [] ∧ (request, success) ∈ s.processed

structure Coherent (s : DiskScheduler) : Prop where
  log : s.processed.map Prod.fst ++ s.requests = s.accepted
  clients : ∀ c, ClientCoherent s c
  quiet : s.shutdown = true → ∀ c, (s.clients c).outside
  drained : s.workerExited = true → s.requests = [] ∧ s.shutdown = true

theorem coherent_init (dm : DiskManager) : Coherent (init dm) where
  log := rfl
  clients _ := ⟨rfl, rfl⟩
  quiet := by simp [init]
  drained := by simp [init]

theorem pendingFor_append_other {requests : List DiskRequest} {request : DiskRequest} {c : Nat}
    (other : request.callback ≠ some c) :
    pendingFor (requests ++ [request]) c = pendingFor requests c := by
  simp [pendingFor, List.filter_append, other]

theorem pendingFor_append_same {requests : List DiskRequest} {request : DiskRequest} {c : Nat}
    (own : request.callback = some c) :
    pendingFor (requests ++ [request]) c = pendingFor requests c ++ [request] := by
  simp [pendingFor, List.filter_append, own]

theorem pendingFor_cons_other {rest : List DiskRequest} {request : DiskRequest} {c : Nat}
    (other : request.callback ≠ some c) :
    pendingFor (request :: rest) c = pendingFor rest c := by
  simp [pendingFor, other]

theorem pendingFor_cons_same {rest : List DiskRequest} {request : DiskRequest} {c : Nat}
    (own : request.callback = some c) :
    pendingFor (request :: rest) c = request :: pendingFor rest c := by
  simp [pendingFor, own]

theorem ClientCoherent.pending_of_outside {s : DiskScheduler} {c : Nat}
    (coherent : ClientCoherent s c) (outside : (s.clients c).outside) :
    pendingFor s.requests c = [] := by
  unfold ClientCoherent at coherent
  unfold Client.outside at outside
  split at coherent
  · exact coherent.2
  · exact coherent.2.2
  · rename_i sending; simp [sending] at outside
  · rename_i waiting; simp [waiting] at outside

section Steps

variable {s : DiskScheduler}

theorem Coherent.call {c : Nat} {syncCall : SyncCall} (live : s.shutdown = false)
    (outside : (s.clients c).outside) (coherent : Coherent s) :
    Coherent (s.setClient c
      { s.clients c with state := .sending (syncCall.request c), completion := none }) where
  log := coherent.log
  clients c' := by
    by_cases same : c' = c
    · subst same
      have pending := (coherent.clients c').pending_of_outside outside
      have own : (syncCall.request c').callback = some c' := by cases syncCall <;> rfl
      simp [ClientCoherent, own, pending]
    · have before := coherent.clients c'
      simpa [ClientCoherent, same] using before
  quiet flagged := by simp [live] at flagged
  drained exited := by
    have := (coherent.drained exited).2
    simp [live] at this

theorem Coherent.send {c : Nat} {request : DiskRequest}
    (sending : (s.clients c).state = .sending request) (coherent : Coherent s) :
    Coherent ({ s with requests := s.requests ++ [request],
                       accepted := s.accepted ++ [request] }.setClient c
      { s.clients c with state := .waiting request }) where
  log := by
    simp only [setClient_processed, setClient_requests, setClient_accepted]
    rw [← List.append_assoc, coherent.log]
  clients c' := by
    have client := coherent.clients c
    simp only [ClientCoherent, sending] at client
    obtain ⟨own, unanswered, nothingQueued⟩ := client
    by_cases same : c' = c
    · subst same
      simp [ClientCoherent, unanswered, pendingFor_append_same own, nothingQueued]
    · have before := coherent.clients c'
      have other : request.callback ≠ some c' := by simp [own, Ne.symm same]
      simpa [ClientCoherent, same, pendingFor_append_other other] using before
  quiet flagged c' := by
    have outside := coherent.quiet flagged c
    simp [Client.outside, sending] at outside
  drained exited := by
    have := (coherent.drained exited).2
    have outside := coherent.quiet this c
    simp [Client.outside, sending] at outside

theorem Coherent.receive {c : Nat} {request : DiskRequest} {success : Bool}
    (waiting : (s.clients c).state = .waiting request)
    (answered : (s.clients c).completion = some success) (coherent : Coherent s) :
    Coherent (s.setClient c
      { s.clients c with state := .returned (.ok ()), completion := none }) where
  log := coherent.log
  clients c' := by
    by_cases same : c' = c
    · subst same
      have client := coherent.clients c'
      simp only [ClientCoherent, waiting, answered] at client
      simp [ClientCoherent, client.1]
    · have before := coherent.clients c'
      simpa [ClientCoherent, same] using before
  quiet flagged c' := by
    have outside := coherent.quiet flagged c
    simp [Client.outside, waiting] at outside
  drained exited := by
    have := (coherent.drained exited).2
    have outside := coherent.quiet this c
    simp [Client.outside, waiting] at outside

theorem Coherent.process {request : DiskRequest} {rest : List DiskRequest}
    (running : s.workerExited = false) (front : s.requests = request :: rest)
    (coherent : Coherent s) : Coherent (s.runFront request rest) where
  log := by
    simp only [runFront, List.map_append, List.map_cons, List.map_nil, List.append_assoc,
      List.singleton_append]
    rw [← front, coherent.log]
  clients c' := by
    have before := coherent.clients c'
    by_cases own : request.callback = some c'
    · rw [ClientCoherent, front, pendingFor_cons_same own] at before
      split at before
      · simp at before
      · simp at before
      · simp at before
      · rename_i waitingFor waiting
        split at before
        · rename_i unanswered
          obtain ⟨same, nothingElse⟩ := List.cons_eq_cons.mp before.symm
          subst same
          simp [ClientCoherent, runFront, own, waiting, completion_answer_same, nothingElse]
        · simp at before
    · rw [ClientCoherent, front, pendingFor_cons_other own] at before
      simp only [ClientCoherent, runFront, answer_other _ _ _ own]
      split at before
      · exact before
      · exact before
      · exact before
      · split at before
        · exact before
        · exact ⟨before.1, List.mem_append_left _ before.2⟩
  quiet flagged c' := by
    simpa [runFront, Client.outside] using coherent.quiet flagged c'
  drained exited := by simp [runFront, running] at exited

theorem Coherent.drop (quiet : ∀ c, (s.clients c).outside) (coherent : Coherent s) :
    Coherent { s with shutdown := true } where
  log := coherent.log
  clients c := coherent.clients c
  quiet _ := quiet
  drained exited := ⟨(coherent.drained exited).1, rfl⟩

theorem Coherent.exit (flagged : s.shutdown = true) (emptied : s.requests = [])
    (coherent : Coherent s) : Coherent { s with workerExited := true } where
  log := coherent.log
  clients c := coherent.clients c
  quiet := coherent.quiet
  drained _ := ⟨emptied, flagged⟩

theorem Coherent.step {s' : DiskScheduler} (step : Step s s') (coherent : Coherent s) :
    Coherent s' := by
  cases step with
  | call c syncCall live outside => exact coherent.call live outside
  | send c request sending room => exact coherent.send sending
  | receive c request success waiting answered => exact coherent.receive waiting answered
  | process request rest running front => exact coherent.process running front
  | drop quiet => exact coherent.drop quiet
  | exit flagged emptied => exact coherent.exit flagged emptied

end Steps

theorem coherent_of_reachable {dm : DiskManager} {s : DiskScheduler} (reached : Reachable dm s) :
    Coherent s :=
  Reachability.Reachable.invariant Coherent
    (fun start (isInit : start = init dm) => isInit ▸ coherent_init dm) (fun _ _ inv step => inv.step step) reached

theorem syncCall_returns_ok {dm : DiskManager} {s : DiskScheduler} (reached : Reachable dm s)
    {c : Nat} {result : Except CrioError Unit} (returned : (s.clients c).state = .returned result) :
    result = .ok () := by
  have client := (coherent_of_reachable reached).clients c
  simp only [ClientCoherent, returned] at client
  exact client.1

theorem processRequest_failed_read {dm : DiskManager} {pageId : PageId} (c : Nat)
    (unopened : pageId.fileId ∉ dm.files) :
    processRequest dm ((SyncCall.read pageId).request c) = (false, dm, none) := by
  simp [processRequest, SyncCall.request, DiskManager.readPage_of_unopened unopened]

/-- A synchronous read of a page whose segment is not open fails on disk, yet the call returns
`Ok(())`. -/
theorem readSync_ok_of_failed_read (dm : DiskManager) (pageId : PageId) (c : Nat)
    (unopened : pageId.fileId ∉ dm.files) :
    dm.readPage pageId = .error (.invalidPageId pageId) ∧
      ∃ s, Reachable dm s ∧ (s.clients c).state = .returned (.ok ()) ∧
        s.processed = [((SyncCall.read pageId).request c, false)] := by
  let request := (SyncCall.read pageId).request c
  let called := (init dm).setClient c
    { (init dm).clients c with state := .sending request, completion := none }
  let sent := { called with requests := called.requests ++ [request],
                            accepted := called.accepted ++ [request] }.setClient c
    { called.clients c with state := .waiting request }
  let ran := sent.runFront request []
  have reachCalled : Reachable dm called :=
    (reachable_init dm).next (Step.call (init dm) c (.read pageId) rfl trivial)
  have reachSent : Reachable dm sent :=
    reachCalled.next (Step.send _ c request (by simp [called]) (by simp [called, init, capacity]))
  have reachRan : Reachable dm ran :=
    reachSent.next (Step.process _ request [] rfl (by simp [sent, called, init]))
  have failed : processRequest dm request = (false, dm, none) :=
    processRequest_failed_read c unopened
  have sameDisk : sent.diskManager = dm := rfl
  have own : request.callback = some c := rfl
  have waiting : (ran.clients c).state = .waiting request := by simp [ran, runFront, sent]
  have answered : (ran.clients c).completion = some false := by
    simp [ran, runFront, sameDisk, failed, own, completion_answer_same]
  refine ⟨DiskManager.readPage_of_unopened unopened, _,
    reachRan.next (Step.receive _ c request false waiting answered), by simp, ?_⟩
  simp [ran, runFront, failed, sent, called, init]
  rfl

theorem readSync_ok_of_failed_read_fileOne :
    (PageId.new 0x01000000).fileId ∉ (DiskManager.fresh fun _ => none).files ∧
      ((DiskManager.fresh fun _ => none).readPage (PageId.new 0x01000000) =
          .error (.invalidPageId (PageId.new 0x01000000)) ∧
        ∃ s, Reachable (DiskManager.fresh fun _ => none) s ∧
          (s.clients 0).state = .returned (.ok ()) ∧
          s.processed = [((SyncCall.read (PageId.new 0x01000000)).request 0, false)]) :=
  ⟨by decide, readSync_ok_of_failed_read _ _ 0 (by decide)⟩

end DiskScheduler

end Crio
