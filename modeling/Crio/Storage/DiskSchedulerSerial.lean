import Crio.Storage.DiskSchedulerProtocol

/-!
The disk scheduler against a sequential disk: over every interleaving, the disk and what the
clients receive are those of the requests run one after another in channel order.
-/

namespace Crio

namespace DiskScheduler

/-- The requests run one after another from `dm`, each logged with its success. -/
def serialRun (dm : DiskManager) (requests : List DiskRequest) :
    DiskManager × List (DiskRequest × Bool) :=
  requests.foldl (fun run request =>
    let outcome := processRequest run.1 request
    (outcome.2.1, run.2 ++ [(request, outcome.1)])) (dm, [])

theorem serialRun_append_singleton (dm : DiskManager) (requests : List DiskRequest)
    (request : DiskRequest) :
    serialRun dm (requests ++ [request]) =
      ((processRequest (serialRun dm requests).1 request).2.1,
        (serialRun dm requests).2 ++ [(request, (processRequest (serialRun dm requests).1 request).1)]) := by
  rw [serialRun, List.foldl_append]
  rfl

def Serial (dm : DiskManager) (s : DiskScheduler) : Prop :=
  serialRun dm (s.processed.map Prod.fst) = (s.diskManager, s.processed)

/-- While a client waits on an answered request, that request is the last of its own in the
log, and a read delivered into its buffer what the sequential run read before it. -/
def Delivered (dm : DiskManager) (s : DiskScheduler) : Prop :=
  ∀ c request success, (s.clients c).state = .waiting request →
    (s.clients c).completion = some success →
      ∃ i, s.processed[i]? = some (request, success) ∧
        (∀ (j : Nat) entry, i < j → s.processed[j]? = some entry → entry.1.callback ≠ some c) ∧
        ∀ bytes, (processRequest (serialRun dm ((s.processed.take i).map Prod.fst)).1 request).2.2 =
          some bytes → (s.clients c).buffer = bytes

section Steps

variable {dm : DiskManager} {s : DiskScheduler}

theorem Coherent.waiting_of_front {request : DiskRequest} {rest : List DiskRequest} {c : Nat}
    (coherent : Coherent s) (front : s.requests = request :: rest)
    (own : request.callback = some c) :
    (s.clients c).state = .waiting request ∧ (s.clients c).completion = none := by
  have client := coherent.clients c
  rw [ClientCoherent, front, pendingFor_cons_same own] at client
  split at client
  · exact absurd client.2 (List.cons_ne_nil _ _)
  · exact absurd client.2.2 (List.cons_ne_nil _ _)
  · exact absurd client.2.2 (List.cons_ne_nil _ _)
  · rename_i waitingFor waiting
    split at client
    · rename_i unanswered
      obtain ⟨same, _⟩ := List.cons_eq_cons.mp client
      exact ⟨same ▸ waiting, unanswered⟩
    · exact absurd client.1 (List.cons_ne_nil _ _)

theorem Serial.step {s' : DiskScheduler} (step : Step s s') (serial : Serial dm s) :
    Serial dm s' := by
  cases step with
  | call c syncCall live outside => exact serial
  | send c request sending room => exact serial
  | receive c request success waiting answered => exact serial
  | process request rest running front =>
    unfold Serial at serial ⊢
    simp only [runFront, List.map_append, List.map_cons, List.map_nil]
    rw [serialRun_append_singleton, serial]
  | drop quiet => exact serial
  | exit flagged drained => exact serial

theorem clients_runFront_other {request : DiskRequest} {rest : List DiskRequest} {c : Nat}
    (other : request.callback ≠ some c) :
    (s.runFront request rest).clients c = s.clients c := by
  simp only [runFront]
  exact answer_other _ _ _ other

theorem getElem?_processed_runFront {request : DiskRequest} {rest : List DiskRequest} {j : Nat}
    {entry : DiskRequest × Bool} (atJ : (s.runFront request rest).processed[j]? = some entry) :
    s.processed[j]? = some entry ∨
      (j = s.processed.length ∧ entry = (request, (processRequest s.diskManager request).1)) := by
  simp only [runFront] at atJ
  by_cases old : j < s.processed.length
  · rw [List.getElem?_append_left old] at atJ
    exact .inl atJ
  · rw [List.getElem?_append_right (Nat.le_of_not_lt old)] at atJ
    have last : j - s.processed.length = 0 := by
      have := (List.getElem?_eq_some_iff.mp atJ).1
      simp at this
      omega
    rw [last, List.getElem?_cons_zero, Option.some.injEq] at atJ
    exact .inr ⟨by omega, atJ.symm⟩

theorem Delivered.of_client {t : DiskScheduler} {c : Nat} (delivered : Delivered dm s)
    (log : t.processed = s.processed) (others : ∀ c', c' ≠ c → t.clients c' = s.clients c')
    (unanswered : ∀ request success, (t.clients c).state = .waiting request →
      (t.clients c).completion ≠ some success) : Delivered dm t := by
  intro c' request success waiting answered
  by_cases same : c' = c
  · subst same
    exact absurd answered (unanswered request success waiting)
  · rw [others c' same] at waiting answered ⊢
    rw [log]
    exact delivered c' request success waiting answered

theorem Delivered.step {s' : DiskScheduler} (step : Step s s') (coherent : Coherent s)
    (serial : Serial dm s) (delivered : Delivered dm s) : Delivered dm s' := by
  cases step with
  | call c syncCall live outside =>
    refine delivered.of_client rfl (fun _ other => setClient_other _ _ other) ?_
    intro _ _ _
    simp
  | send c request sending room =>
    have client := coherent.clients c
    simp only [ClientCoherent, sending] at client
    refine delivered.of_client rfl (fun _ other => setClient_other _ _ other) ?_
    intro _ _ _
    simp [client.2.1]
  | receive c request success waiting answered =>
    refine delivered.of_client rfl (fun _ other => setClient_other _ _ other) ?_
    intro _ _ returned
    simp at returned
  | process request rest running front =>
    intro c' waitingFor success waiting answered
    by_cases own : request.callback = some c'
    · obtain ⟨waitingBefore, unanswered⟩ := coherent.waiting_of_front front own
      simp only [runFront, state_answer, waitingBefore] at waiting
      cases waiting
      have answeredNow := completion_answer_same s.clients c'
        (processRequest s.diskManager request).1 (processRequest s.diskManager request).2.2
      simp only [runFront, own, answeredNow, Option.some.injEq] at answered
      subst answered
      refine ⟨s.processed.length, List.getElem?_concat_length, ?_, ?_⟩
      · intro j entry later atJ
        rcases getElem?_processed_runFront atJ with old | ⟨last, -⟩
        · have := (List.getElem?_eq_some_iff.mp old).1
          omega
        · omega
      · intro bytes read
        simp only [runFront, List.take_left'] at read ⊢
        rw [serial] at read
        simp [answer, own, read]
    · rw [clients_runFront_other own] at waiting answered ⊢
      obtain ⟨i, atI, after, bytesOk⟩ := delivered c' waitingFor success waiting answered
      have inside : i < s.processed.length := (List.getElem?_eq_some_iff.mp atI).1
      refine ⟨i, ?_, ?_, ?_⟩
      · simp only [runFront]
        rw [List.getElem?_append_left inside]
        exact atI
      · intro j entry later atJ
        rcases getElem?_processed_runFront atJ with old | ⟨-, rfl⟩
        · exact after j entry later old
        · exact own
      · simp only [runFront]
        rw [List.take_append_of_le_length (Nat.le_of_lt inside)]
        exact bytesOk
  | drop quiet => exact delivered
  | exit flagged drained => exact delivered

end Steps

theorem serial_init (dm : DiskManager) : Serial dm (init dm) := rfl

theorem delivered_init (dm : DiskManager) : Delivered dm (init dm) := by
  intro c request success waiting _
  simp [init] at waiting

theorem invariant_of_reachable {dm : DiskManager} {s : DiskScheduler} (reached : Reachable dm s) :
    Coherent s ∧ Serial dm s ∧ Delivered dm s :=
  Reachability.Reachable.invariant (fun s => Coherent s ∧ Serial dm s ∧ Delivered dm s)
    (fun start (isInit : start = init dm) =>
      isInit ▸ ⟨coherent_init dm, serial_init dm, delivered_init dm⟩)
    (fun _ _ inv step =>
      ⟨inv.1.step step, inv.2.1.step step, inv.2.2.step step inv.1 inv.2.1⟩) reached

section ReadRun

def directoryRead : DiskRequest := (SyncCall.read directoryPageId).request 0

def readCalled : DiskScheduler :=
  (init (DiskManager.fresh fun _ => none)).setClient 0
    { (init (DiskManager.fresh fun _ => none)).clients 0 with
      state := .sending directoryRead, completion := none }

def readSent : DiskScheduler :=
  { readCalled with requests := readCalled.requests ++ [directoryRead],
                    accepted := readCalled.accepted ++ [directoryRead] }.setClient 0
    { readCalled.clients 0 with state := .waiting directoryRead }

def readAnswered : DiskScheduler := readSent.runFront directoryRead []

theorem reachable_readAnswered : Reachable (DiskManager.fresh fun _ => none) readAnswered :=
  (((reachable_init _).next (Step.call _ 0 (.read _) rfl trivial)).next
    (Step.send _ 0 _ rfl (by decide))).next (Step.process _ _ [] rfl rfl)

end ReadRun

/-- Over every interleaving, an answered client finds its request logged with its answer, and a read
delivered what the sequential run read at its place. -/
theorem delivered_of_reachable {dm : DiskManager} {s : DiskScheduler} (reached : Reachable dm s) :
    Delivered dm s :=
  (invariant_of_reachable reached).2.2

theorem delivered_of_reachable_readAnswered :
    ∃ i, readAnswered.processed[i]? = some (directoryRead, true) ∧
      (∀ (j : Nat) entry, i < j → readAnswered.processed[j]? = some entry →
        entry.1.callback ≠ some 0) ∧
      ∀ bytes, (processRequest (serialRun (DiskManager.fresh fun _ => none)
          ((readAnswered.processed.take i).map Prod.fst)).1 directoryRead).2.2 = some bytes →
        (readAnswered.clients 0).buffer = bytes :=
  delivered_of_reachable reachable_readAnswered 0 directoryRead true rfl rfl

end DiskScheduler

end Crio
