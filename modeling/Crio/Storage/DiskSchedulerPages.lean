import Crio.Storage.DiskSchedulerSerial
import Crio.Storage.DiskManagerPages

/-!
What the pages behind the disk scheduler hold: each page as the last write of it that the
worker ran with success, or as it read at the start (`pageView`).
-/

namespace Crio

open ByteBuffer DiskManager

namespace DiskRequest

def Covers (request : DiskRequest) (q : PageId) : Prop :=
  if request.numPages = 1 then q = request.pageId else InRun request.pageId request.numPages q

instance (request : DiskRequest) (q : PageId) : Decidable (request.Covers q) := by
  unfold Covers
  infer_instance

def pageData (request : DiskRequest) (q : PageId) : PageData :=
  if request.numPages = 1 then fun i => request.data i.val
  else runSlice (fun i : Fin (request.numPages.toNat * pageSize) => request.data i.val)
    request.pageId q

end DiskRequest

namespace DiskScheduler

def wrote (q : PageId) (entry : DiskRequest × Bool) : Bool :=
  entry.1.isWrite && entry.2 && decide (entry.1.Covers q)

def lastWrite (log : List (DiskRequest × Bool)) (q : PageId) : Option DiskRequest :=
  (log.reverse.find? (wrote q)).map Prod.fst

/-- Page `q` as the log leaves it: the bytes of its last write, or what `dm` read. -/
def pageView (dm : DiskManager) (log : List (DiskRequest × Bool)) (q : PageId) :
    Except CrioError PageData :=
  match lastWrite log q with
  | some request => .ok (request.pageData q)
  | none => dm.readPage q

theorem lastWrite_append_singleton (log : List (DiskRequest × Bool)) (entry : DiskRequest × Bool)
    (q : PageId) :
    lastWrite (log ++ [entry]) q = if wrote q entry then some entry.1 else lastWrite log q := by
  unfold lastWrite
  rw [List.reverse_append, List.reverse_singleton, List.singleton_append, List.find?_cons]
  cases wrote q entry <;> rfl

theorem pageView_append_singleton (dm : DiskManager) (log : List (DiskRequest × Bool))
    (entry : DiskRequest × Bool) (q : PageId) :
    pageView dm (log ++ [entry]) q =
      if wrote q entry then .ok (entry.1.pageData q) else pageView dm log q := by
  unfold pageView
  rw [lastWrite_append_singleton]
  cases wrote q entry <;> rfl

theorem readPage_processRequest (dm : DiskManager) (request : DiskRequest) (q : PageId) :
    (processRequest dm request).2.1.readPage q =
      if wrote q (request, (processRequest dm request).1) then .ok (request.pageData q)
      else dm.readPage q := by
  unfold processRequest wrote DiskRequest.pageData DiskRequest.Covers
  by_cases one : request.numPages = 1 <;> cases writing : request.isWrite
  case pos.true =>
    simp only [if_pos one, if_true]
    cases written : dm.writePage request.pageId fun i => request.data i.val with
    | error e => rfl
    | ok dm' =>
      rw [readPage_writePage written q]
      simp
  case neg.true =>
    simp only [if_neg one, if_true]
    cases written : dm.writePages request.pageId request.numPages
        fun i => request.data i.val with
    | error e => rfl
    | ok dm' =>
      rw [readPage_writePages written q]
      simp
  case pos.false =>
    simp only [if_pos one, Bool.false_eq_true, if_false, Bool.false_and]
    split <;> rfl
  case neg.false =>
    simp only [if_neg one, Bool.false_eq_true, if_false, Bool.false_and]
    split <;> rfl

theorem readPage_serialRun (dm : DiskManager) (requests : List DiskRequest) (q : PageId) :
    (serialRun dm requests).1.readPage q = pageView dm (serialRun dm requests).2 q := by
  induction requests using List.reverseRecOn with
  | nil => rfl
  | append_singleton requests request ih =>
    rw [serialRun_append_singleton, readPage_processRequest, ih, pageView_append_singleton]

theorem length_serialRun (dm : DiskManager) (requests : List DiskRequest) :
    (serialRun dm requests).2.length = requests.length := by
  induction requests using List.reverseRecOn with
  | nil => rfl
  | append_singleton requests request ih =>
    rw [serialRun_append_singleton, List.length_append, ih, List.length_append]
    rfl

theorem serialRun_take (dm : DiskManager) (requests : List DiskRequest) (i : Nat) :
    (serialRun dm (requests.take i)).2 = (serialRun dm requests).2.take i := by
  induction requests using List.reverseRecOn with
  | nil =>
    rw [List.take_nil]
    exact List.take_nil.symm
  | append_singleton requests request ih =>
    have logged := length_serialRun dm requests
    rw [serialRun_append_singleton]
    by_cases before : i ≤ requests.length
    · rw [List.take_append_of_le_length before, ih,
        List.take_append_of_le_length (logged ▸ before)]
    · have whole : requests.length + 1 ≤ i := by omega
      rw [List.take_of_length_le (by rw [List.length_append, List.length_singleton]; exact whole),
        serialRun_append_singleton, List.take_of_length_le]
      rw [List.length_append, logged, List.length_singleton]
      exact whole

section Log

variable {dm : DiskManager} {s : DiskScheduler}

theorem Serial.log_take (serial : Serial dm s) (i : Nat) :
    (serialRun dm ((s.processed.take i).map Prod.fst)).2 = s.processed.take i := by
  rw [List.map_take, serialRun_take, serial]

theorem Serial.success {i : Nat} {request : DiskRequest} {success : Bool} (serial : Serial dm s)
    (atI : s.processed[i]? = some (request, success)) :
    success = (processRequest (serialRun dm ((s.processed.take i).map Prod.fst)).1 request).1 := by
  have next := serial.log_take (i + 1)
  rw [List.take_add_one, atI, Option.toList_some, List.map_append, List.map_cons, List.map_nil,
    serialRun_append_singleton,
    serial.log_take i] at next
  have same := List.append_cancel_left next
  simp only [List.cons.injEq, Prod.mk.injEq, true_and, and_true] at same
  exact same.symm

end Log

end DiskScheduler

end Crio
