import Crio.Buffer.LruKReplacer
import Crio.Storage.DiskScheduler

/-!
The buffer pool manager of `src/buffer/buffer_pool_manager.rs`, with its frames and page
guards, on one thread. An operation ends in `Ok`, in `Err` with the changes made before it, or
in `none`, a panic or a deadlock. A synchronous disk call is its request run at once by the
worker, answered `Ok(())` whatever the disk manager returned.
-/

namespace Crio

/-- `FrameHeader`, without its `frame_id`, which is its index in the pool. -/
structure FrameHeader where
  pageId : PageId
  pinCount : UInt32
  isDirty : Bool
  data : PageData

namespace FrameHeader

def new : FrameHeader := ⟨invalidPageId, 0, false, fun _ => 0⟩

def pin (frame : FrameHeader) : FrameHeader := { frame with pinCount := frame.pinCount + 1 }

def unpin (frame : FrameHeader) : Option UInt32 × FrameHeader :=
  if frame.pinCount = 0 then (none, frame)
  else (some (frame.pinCount - 1), { frame with pinCount := frame.pinCount - 1 })

def reset (_ : FrameHeader) : FrameHeader := new

end FrameHeader

/-- A live page guard: its page id, the frame its `Arc<FrameHeader>` holds with the data lock,
whether it is a `WritePageGuard`, and its `is_dirty`. -/
structure PageGuard where
  pageId : PageId
  frameId : FrameId
  isWrite : Bool
  isDirty : Bool
  deriving DecidableEq, Repr

def sequentialThreshold : Nat := 3

def prefetchLookahead : UInt32 := 4

namespace AccessTracker

def record (recent : List PageId) (pageId : PageId) : List PageId :=
  (if recent.length ≥ sequentialThreshold + 1 then recent.tail else recent) ++ [pageId]

def consecutive : List PageId → Bool
  | a :: b :: rest => b.asU32 == a.asU32 + 1 && consecutive (b :: rest)
  | _ => true

def isSequential (recent : List PageId) : Bool :=
  if recent.length < sequentialThreshold then false else consecutive recent

end AccessTracker

structure BufferPoolManager where
  poolSize : Nat
  frames : Nat → FrameHeader
  pageTable : AList fun _ : PageId => FrameId
  freeList : List FrameId
  replacer : LruKReplacer
  recentAccesses : List PageId
  diskManager : DiskManager
  guards : List (Option PageGuard)

namespace BufferPoolManager

def new (poolSize k : Nat) (dm : DiskManager) : BufferPoolManager :=
  ⟨poolSize, fun _ => FrameHeader.new, ∅, (List.range poolSize).map fun i => ⟨i.toUInt32⟩,
    LruKReplacer.new k poolSize, [], dm, []⟩

def readSync (dm : DiskManager) (pageId : PageId) : PageData :=
  let outcome := DiskScheduler.processRequest dm ((SyncCall.read pageId).request 0)
  fun i => (outcome.2.2.getD fun _ => 0) i.val

def writeSync (dm : DiskManager) (pageId : PageId) (data : PageData) : DiskManager :=
  (DiskScheduler.processRequest dm ((SyncCall.write pageId data).request 0)).2.1

def readPagesSync (dm : DiskManager) (startPageId : PageId) (numPages : UInt32) : Nat → UInt8 :=
  ((DiskScheduler.processRequest dm ((SyncCall.readPages startPageId numPages).request 0)).2.2).getD
    fun _ => 0

def writePagesSync (dm : DiskManager) (startPageId : PageId) (numPages : UInt32)
    (data : Nat → UInt8) : DiskManager :=
  (DiskScheduler.processRequest dm ((SyncCall.writePages startPageId numPages data).request 0)).2.1

end BufferPoolManager

abbrev PoolM := ExceptT CrioError (StateT BufferPoolManager Option)

namespace PoolM

/-- A panic or a deadlock: the thread never returns. -/
def stuck {α : Type} : PoolM α := ExceptT.mk fun _ => none

def attempt {α : Type} (action : PoolM α) : PoolM (Except CrioError α) := ExceptT.lift action.run

end PoolM

namespace BufferPoolManager

open PoolM

def frameAt (frameId : FrameId) : PoolM FrameHeader := do
  let s ← get
  if frameId.asUsize < s.poolSize then pure (s.frames frameId.asUsize) else stuck

def setFrame (frameId : FrameId) (frame : FrameHeader) : PoolM Unit :=
  modify fun s => { s with frames := Function.update s.frames frameId.asUsize frame }

/-- Taking a frame's data lock inside the pool: a write lock waits for every guard of the
frame, a read lock for its write guard. -/
def lockData (frameId : FrameId) (write : Bool) : PoolM Unit := do
  let held := (← get).guards.any fun guard =>
    match guard with
    | some g => g.frameId == frameId && (write || g.isWrite)
    | none => false
  if held then stuck else pure ()

def recordAccess (frameId : FrameId) : PoolM Unit :=
  modify fun s => { s with replacer := s.replacer.recordAccess frameId }

def setEvictable (frameId : FrameId) (isEvictable : Bool) : PoolM Unit :=
  modify fun s => { s with replacer := s.replacer.setEvictable frameId isEvictable }

def mapPage (pageId : PageId) (frameId : FrameId) : PoolM Unit :=
  modify fun s => { s with pageTable := s.pageTable.insert pageId frameId }

def unmapPage (pageId : PageId) : PoolM Unit :=
  modify fun s => { s with pageTable := s.pageTable.erase pageId }

def evict : PoolM (Option FrameId) := do
  let s ← get
  match s.replacer.evict with
  | none => stuck
  | some (victim, replacer) =>
    set { s with replacer }
    pure victim

def getFreeFrame : PoolM FrameId := do
  let s ← get
  match s.freeList with
  | frameId :: rest =>
    set { s with freeList := rest }
    pure frameId
  | [] =>
    match ← evict with
    | none => throw .bufferPoolFull
    | some frameId =>
      let frame ← frameAt frameId
      let oldPageId := frame.pageId
      if frame.isDirty then
        lockData frameId false
        modify fun s => { s with diskManager := writeSync s.diskManager oldPageId frame.data }
      unmapPage oldPageId
      lockData frameId true
      setFrame frameId frame.reset
      pure frameId

def takeFrames : Nat → PoolM (List FrameId)
  | 0 => pure []
  | n + 1 => do
    match ← attempt getFreeFrame with
    | .ok frameId => return frameId :: (← takeFrames n)
    | .error _ => return []

def installPrefetched (bulk : Nat → UInt8) (first rangeSize : UInt32) :
    List (PageId × FrameId) → PoolM Unit
  | [] => pure ()
  | (pageId, frameId) :: rest => do
    let dataStart := (pageId.asU32 - first).toNat * pageSize
    if dataStart + pageSize > rangeSize.toNat * pageSize then stuck
    let frame ← frameAt frameId
    lockData frameId true
    setFrame frameId { frame with pageId, data := fun i => bulk (dataStart + i.val), isDirty := false }
    mapPage pageId frameId
    recordAccess frameId
    setEvictable frameId true
    installPrefetched bulk first rangeSize rest

def prefetchPages (startPageId : PageId) (numPages : UInt32) : PoolM UInt32 := do
  if numPages = 0 then return 0
  let table := (← get).pageTable
  let pagesToFetch := ((List.range numPages.toNat).map fun i =>
    PageId.new (startPageId.asU32 + i.toUInt32)).filter fun pageId => (table.lookup pageId).isNone
  if pagesToFetch.isEmpty then return 0
  let frameIds ← takeFrames pagesToFetch.length
  if frameIds.isEmpty then return 0
  let pagesToFetch := pagesToFetch.take frameIds.length
  match pagesToFetch.head?, pagesToFetch.getLast? with
  | some first, some last =>
    let rangeSize := last.asU32 - first.asU32 + 1
    let bulk := readPagesSync (← get).diskManager first rangeSize
    installPrefetched bulk first.asU32 rangeSize (pagesToFetch.zip frameIds)
    return pagesToFetch.length.toUInt32
  | _, _ => stuck

def maybePrefetch (pageId : PageId) : PoolM Unit := do
  modify fun s => { s with recentAccesses := AccessTracker.record s.recentAccesses pageId }
  if AccessTracker.isSequential (← get).recentAccesses then
    let _ ← attempt (prefetchPages (PageId.new (pageId.asU32 + 1)) prefetchLookahead)

def fetchPage (pageId : PageId) : PoolM FrameId := do
  match (← get).pageTable.lookup pageId with
  | some frameId =>
    let frame ← frameAt frameId
    setFrame frameId frame.pin
    recordAccess frameId
    setEvictable frameId false
    pure frameId
  | none =>
    let frameId ← getFreeFrame
    let frame ← frameAt frameId
    let data := readSync (← get).diskManager pageId
    lockData frameId true
    setFrame frameId { frame with pageId, data, isDirty := false }.pin
    mapPage pageId frameId
    recordAccess frameId
    setEvictable frameId false
    maybePrefetch pageId
    pure frameId

def newPage : PoolM PageId := do
  let frameId ← getFreeFrame
  let frame ← frameAt frameId
  let s ← get
  match s.diskManager.allocatePage with
  | none => stuck
  | some (allocated, dm) =>
    set { s with diskManager := dm }
    match allocated with
    | .error e => throw e
    | .ok pageId =>
      lockData frameId true
      setFrame frameId { frame.reset with pageId }
      mapPage pageId frameId
      recordAccess frameId
      setEvictable frameId true
      pure pageId

def deletePage (pageId : PageId) : PoolM Bool := do
  match (← get).pageTable.lookup pageId with
  | none => pure false
  | some frameId =>
    unmapPage pageId
    let frame ← frameAt frameId
    if frame.pinCount > 0 then
      mapPage pageId frameId
      throw (.pageStillPinned pageId)
    lockData frameId true
    setFrame frameId frame.reset
    modify fun s => { s with replacer := s.replacer.remove frameId,
                             freeList := s.freeList ++ [frameId] }
    modify fun s => { s with diskManager := s.diskManager.deallocatePage pageId }
    pure true

/-- The guard takes the data lock; the handle is `Some` always, as the source's `Option` is. -/
def checkedPage (pageId : PageId) (isWrite : Bool) : PoolM (Option Nat) := do
  if pageId = invalidPageId then throw (.invalidPageId pageId)
  let frameId ← fetchPage pageId
  lockData frameId isWrite
  let s ← get
  set { s with guards := s.guards ++ [some (PageGuard.mk pageId frameId isWrite false)] }
  pure (some s.guards.length)

def checkedReadPage (pageId : PageId) : PoolM (Option Nat) := checkedPage pageId false

def checkedWritePage (pageId : PageId) : PoolM (Option Nat) := checkedPage pageId true

def guardAt (handle : Nat) : PoolM PageGuard := do
  match (← get).guards[handle]? with
  | some (some guard) => pure guard
  | _ => stuck

def guardData (s : BufferPoolManager) (handle : Nat) : Option PageData :=
  match s.guards[handle]? with
  | some (some guard) => some (s.frames guard.frameId.asUsize).data
  | _ => none

def writeThrough (handle : Nat) (data : PageData) : PoolM Unit := do
  let guard ← guardAt handle
  if !guard.isWrite then stuck
  let frame ← frameAt guard.frameId
  setFrame guard.frameId { frame with data }
  modify fun s => { s with guards := s.guards.set handle (some { guard with isDirty := true }) }

/-- The release callback unpins the frame the page table maps the guard's page to now, not the
guard's own frame. -/
def dropGuard (handle : Nat) : PoolM Unit := do
  let guard ← guardAt handle
  match (← get).pageTable.lookup guard.pageId with
  | some frameId =>
    let frame ← frameAt frameId
    let (count, unpinned) := (if guard.isDirty then { frame with isDirty := true } else frame).unpin
    setFrame frameId unpinned
    if count = some 0 then setEvictable frameId true
  | none => pure ()
  modify fun s => { s with guards := s.guards.set handle none }

def flushPage (pageId : PageId) : PoolM Bool := do
  if pageId = invalidPageId then throw (.invalidPageId pageId)
  match (← get).pageTable.lookup pageId with
  | none => pure false
  | some frameId =>
    let frame ← frameAt frameId
    lockData frameId false
    modify fun s => { s with diskManager := writeSync s.diskManager pageId frame.data }
    setFrame frameId { frame with isDirty := false }
    pure true

def groupRuns : List (PageId × FrameId) → List (List (PageId × FrameId))
  | [] => []
  | a :: rest =>
    match groupRuns rest with
    | (b :: run) :: runs =>
      if b.1.asU32 = a.1.asU32 + 1 then (a :: b :: run) :: runs else [a] :: (b :: run) :: runs
    | runs => [a] :: runs

def flushRun : List (PageId × FrameId) → PoolM Unit
  | [] => pure ()
  | [(pageId, frameId)] => do
    let frame ← frameAt frameId
    lockData frameId false
    modify fun s => { s with diskManager := writeSync s.diskManager pageId frame.data }
    setFrame frameId { frame with isDirty := false }
  | run@((startPage, _) :: _) => do
    let frames : List FrameHeader ← run.mapM fun (_, frameId) => do
      lockData frameId false
      frameAt frameId
    let bulk : Nat → UInt8 := fun j =>
      match frames[j / pageSize]? with
      | some frame => frame.data ⟨j % pageSize, Nat.mod_lt _ (by decide)⟩
      | none => 0
    modify fun s =>
      { s with diskManager := writePagesSync s.diskManager startPage run.length.toUInt32 bulk }
    run.forM fun (_, frameId) => do
      let frame ← frameAt frameId
      setFrame frameId { frame with isDirty := false }

def flushAllPages : PoolM Unit := do
  let s ← get
  let mapped := s.pageTable.entries.map fun entry => (entry.1, entry.2)
  if mapped.any fun (_, frameId) => !(frameId.asUsize < s.poolSize) then stuck
  let dirty := mapped.filter fun (_, frameId) => (s.frames frameId.asUsize).isDirty
  let sorted := dirty.mergeSort fun a b => a.1.asU32 ≤ b.1.asU32
  (groupRuns sorted).forM flushRun

def getPinCount (s : BufferPoolManager) (pageId : PageId) : Option UInt32 :=
  (s.pageTable.lookup pageId).map fun frameId => (s.frames frameId.asUsize).pinCount

def freeFrameCount (s : BufferPoolManager) : Nat := s.freeList.length

end BufferPoolManager

end Crio
