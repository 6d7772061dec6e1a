import Crio.Storage.DiskManager
import Crio.Lib.Reachability

/-!
The disk scheduler of `src/storage/disk/disk_scheduler.rs`: client threads and one worker
sharing a bounded channel. Each thread's step is one transition of `Step`, so a run is any
interleaving. A request's raw `data` pointer is modelled by what it points to, and channel
errors, which cannot occur before the worker exits, are left out.
-/

namespace Crio

structure DiskRequest where
  isWrite : Bool
  pageId : PageId
  numPages : UInt32
  data : Nat → UInt8
  callback : Option Nat

inductive SyncCall where
  | read (pageId : PageId)
  | write (pageId : PageId) (data : PageData)
  | readPages (startPageId : PageId) (numPages : UInt32)
  | writePages (startPageId : PageId) (numPages : UInt32) (data : Nat → UInt8)

def SyncCall.request (call : SyncCall) (client : Nat) : DiskRequest :=
  match call with
  | .read pageId => ⟨false, pageId, 1, fun _ => 0, some client⟩
  | .write pageId data => ⟨true, pageId, 1, ByteBuffer.byteAt data, some client⟩
  | .readPages startPageId numPages => ⟨false, startPageId, numPages, fun _ => 0, some client⟩
  | .writePages startPageId numPages data => ⟨true, startPageId, numPages, data, some client⟩

inductive ClientState where
  | idle
  | sending (request : DiskRequest)
  | waiting (request : DiskRequest)
  | returned (result : Except CrioError Unit)

structure Client where
  state : ClientState
  completion : Option Bool
  buffer : Nat → UInt8

def Client.outside (client : Client) : Prop :=
  match client.state with
  | .idle | .returned _ => True
  | .sending _ | .waiting _ => False

/-- `accepted` and `processed` are ghost state: the requests the channel took, and those the worker
ran with their `success`, in order. -/
structure DiskScheduler where
  diskManager : DiskManager
  requests : List DiskRequest
  shutdown : Bool
  workerExited : Bool
  clients : Nat → Client
  accepted : List DiskRequest
  processed : List (DiskRequest × Bool)

namespace DiskScheduler

def capacity : Nat := 128

def init (dm : DiskManager) : DiskScheduler :=
  ⟨dm, [], false, false, fun _ => ⟨.idle, none, fun _ => 0⟩, [], []⟩

def processRequest (dm : DiskManager) (request : DiskRequest) :
    Bool × DiskManager × Option (Nat → UInt8) :=
  if request.numPages = 1 then
    if request.isWrite then
      match dm.writePage request.pageId fun i => request.data i.val with
      | .ok dm' => (true, dm', none)
      | .error _ => (false, dm, none)
    else
      match dm.readPage request.pageId with
      | .ok data => (true, dm, some (ByteBuffer.byteAt data))
      | .error _ => (false, dm, none)
  else
    if request.isWrite then
      match dm.writePages request.pageId request.numPages fun i => request.data i.val with
      | .ok dm' => (true, dm', none)
      | .error _ => (false, dm, none)
    else
      match dm.readPages request.pageId request.numPages with
      | .ok data => (true, dm, some (ByteBuffer.byteAt data))
      | .error _ => (false, dm, none)

def answer (clients : Nat → Client) (callback : Option Nat) (success : Bool)
    (read : Option (Nat → UInt8)) : Nat → Client :=
  match callback with
  | some c =>
    Function.update clients c
      { clients c with completion := some success, buffer := read.getD (clients c).buffer }
  | none => clients

def setClient (s : DiskScheduler) (c : Nat) (client : Client) : DiskScheduler :=
  { s with clients := Function.update s.clients c client }

def runFront (s : DiskScheduler) (request : DiskRequest) (rest : List DiskRequest) :
    DiskScheduler :=
  let outcome := processRequest s.diskManager request
  { s with diskManager := outcome.2.1, requests := rest,
           clients := answer s.clients request.callback outcome.1 outcome.2.2,
           processed := s.processed ++ [(request, outcome.1)] }

/-- One step of one thread. No call starts once Drop has begun, since Drop needs the
scheduler unborrowed. -/
inductive Step : DiskScheduler → DiskScheduler → Prop where
  | call (s : DiskScheduler) (c : Nat) (syncCall : SyncCall) (live : s.shutdown = false)
      (outside : (s.clients c).outside) :
      Step s (s.setClient c
        { s.clients c with state := .sending (syncCall.request c), completion := none })
  | send (s : DiskScheduler) (c : Nat) (request : DiskRequest)
      (sending : (s.clients c).state = .sending request) (room : s.requests.length < capacity) :
      Step s ({ s with requests := s.requests ++ [request],
                       accepted := s.accepted ++ [request] }.setClient c
        { s.clients c with state := .waiting request })
  | receive (s : DiskScheduler) (c : Nat) (request : DiskRequest) (success : Bool)
      (waiting : (s.clients c).state = .waiting request)
      (answered : (s.clients c).completion = some success) :
      Step s (s.setClient c { s.clients c with state := .returned (.ok ()), completion := none })
  | process (s : DiskScheduler) (request : DiskRequest) (rest : List DiskRequest)
      (running : s.workerExited = false) (front : s.requests = request :: rest) :
      Step s (s.runFront request rest)
  | drop (s : DiskScheduler) (quiet : ∀ c, (s.clients c).outside) :
      Step s { s with shutdown := true }
  | exit (s : DiskScheduler) (flagged : s.shutdown = true) (drained : s.requests = []) :
      Step s { s with workerExited := true }

@[simp] theorem setClient_same (s : DiskScheduler) (c : Nat) (client : Client) :
    (s.setClient c client).clients c = client := by
  simp [setClient]

@[simp] theorem setClient_other (s : DiskScheduler) {c c' : Nat} (client : Client)
    (other : c' ≠ c) : (s.setClient c client).clients c' = s.clients c' := by
  simp [setClient, other]

@[simp] theorem setClient_diskManager (s : DiskScheduler) (c : Nat) (client : Client) :
    (s.setClient c client).diskManager = s.diskManager := rfl

@[simp] theorem setClient_requests (s : DiskScheduler) (c : Nat) (client : Client) :
    (s.setClient c client).requests = s.requests := rfl

@[simp] theorem setClient_accepted (s : DiskScheduler) (c : Nat) (client : Client) :
    (s.setClient c client).accepted = s.accepted := rfl

@[simp] theorem setClient_processed (s : DiskScheduler) (c : Nat) (client : Client) :
    (s.setClient c client).processed = s.processed := rfl

@[simp] theorem setClient_shutdown (s : DiskScheduler) (c : Nat) (client : Client) :
    (s.setClient c client).shutdown = s.shutdown := rfl

@[simp] theorem setClient_workerExited (s : DiskScheduler) (c : Nat) (client : Client) :
    (s.setClient c client).workerExited = s.workerExited := rfl

@[simp] theorem state_answer (clients : Nat → Client) (callback : Option Nat) (success : Bool)
    (read : Option (Nat → UInt8)) (c : Nat) :
    (answer clients callback success read c).state = (clients c).state := by
  unfold answer
  split
  · rename_i target
    by_cases same : c = target
    · subst same; simp
    · simp [same]
  · rfl

theorem completion_answer_same (clients : Nat → Client) (c : Nat) (success : Bool)
    (read : Option (Nat → UInt8)) : (answer clients (some c) success read c).completion = some success := by
  simp [answer]

theorem answer_other (clients : Nat → Client) {callback : Option Nat} {c : Nat} (success : Bool)
    (read : Option (Nat → UInt8)) (other : callback ≠ some c) :
    answer clients callback success read c = clients c := by
  unfold answer
  split
  · rename_i target
    have : c ≠ target := fun same => other (by rw [same])
    simp [this]
  · rfl

def Reachable (dm : DiskManager) (s : DiskScheduler) : Prop :=
  Reachability.Reachable (fun start => start = init dm) Step s

theorem reachable_init (dm : DiskManager) : Reachable dm (init dm) :=
  Reachability.Reachable.initial rfl

theorem Reachable.next {dm : DiskManager} {s s' : DiskScheduler} (reached : Reachable dm s)
    (step : Step s s') : Reachable dm s' :=
  Reachability.Reachable.step reached step

end DiskScheduler

end Crio
