import Crio.Storage.ExtentAllocator
import Crio.Storage.Page.DirectoryPage
import Crio.Lib.ByteFile

/-!
The disk manager of `src/storage/disk/disk_manager.rs`. The segment files are part of the
state, so that reopening a database is `new` applied to what a manager leaves behind. The I/O
counters, the path and `sync` are left out, and every operation on an open segment
succeeds.
-/

namespace Crio

def directoryPageId : PageId := PageId.new 0

structure DiskManager where
  files : List UInt8
  segments : UInt8 → Option ByteFile
  numPages : UInt32
  extentAllocator : ExtentAllocator

namespace DiskManager

def segment (dm : DiskManager) (fileId : UInt8) : ByteFile :=
  (dm.segments fileId).getD ByteFile.empty

def writeSegment (dm : DiskManager) (fileId : UInt8) (off : Nat) {len : Nat}
    (data : Fin len → UInt8) : DiskManager :=
  let written := (dm.segment fileId).writeAt off data
  { dm with segments := Function.update dm.segments fileId (some written) }

def pagesInFile (f : ByteFile) : UInt32 := (f.size / pageSize).toUInt32

/-- The segment ids from 0 up to the first one missing; with all 256 present the `u8` counter wraps
and the loop never ends, `none`. -/
def existingSegments (segments : UInt8 → Option ByteFile) : Option (List UInt8) :=
  let found := (List.range 256).takeWhile fun i => (segments i.toUInt8).isSome
  if found.length = 256 then none else some (found.map Nat.toUInt8)

def initDirectoryPage (dm : DiskManager) : Option DiskManager :=
  if (0 : UInt8) ∈ dm.files then
    some ({ dm with numPages := 1 }.writeSegment 0 0 DirectoryPage.init)
  else none

def validateDirectoryPage (dm : DiskManager) : Except CrioError Unit :=
  if (0 : UInt8) ∈ dm.files then
    match (dm.segment 0).readExact 0 pageSize with
    | some data => if DirectoryPage.isValid data then .ok () else .error .invalidDatabaseFile
    | none => .ok ()
  else .ok ()

def countPages (segments : UInt8 → Option ByteFile) (found : List UInt8) : UInt32 :=
  found.foldl (fun total fileId => total + pagesInFile ((segments fileId).getD ByteFile.empty)) 0

def new (segments : UInt8 → Option ByteFile) : Option (Except CrioError DiskManager) := do
  let found ← existingSegments segments
  let totalPages := countPages segments found
  let opened : List UInt8 × (UInt8 → Option ByteFile) :=
    if found.isEmpty then ([0], Function.update segments 0 (some ByteFile.empty))
    else (found, segments)
  let extentAllocator :=
    if totalPages > 0 then ExtentAllocator.fromExisting totalPages else ExtentAllocator.new
  let dm : DiskManager := ⟨opened.1, opened.2, totalPages, extentAllocator⟩
  if totalPages = 0 then
    let initialised ← dm.initDirectoryPage
    pure (.ok initialised)
  else
    pure (dm.validateDirectoryPage.map fun _ => dm)

def addFile (dm : DiskManager) : Except CrioError (UInt8 × DiskManager) :=
  let nextFileId := dm.files.length.toUInt8
  if nextFileId = 255 then .error (.diskScheduler "Max files reached")
  else
    let segments := match dm.segments nextFileId with
      | some _ => dm.segments
      | none => Function.update dm.segments nextFileId (some ByteFile.empty)
    let files := if nextFileId ∈ dm.files then dm.files else dm.files ++ [nextFileId]
    .ok (nextFileId, { dm with files, segments })

def byteOffset (pageId : PageId) : Nat := pageId.pageOffset.toNat * pageSize

def readPage (dm : DiskManager) (pageId : PageId) : Except CrioError PageData :=
  if pageId.fileId ∈ dm.files then
    .ok ((dm.segment pageId.fileId).readAt (byteOffset pageId) pageSize)
  else .error (.invalidPageId pageId)

def writePage (dm : DiskManager) (pageId : PageId) (data : PageData) :
    Except CrioError DiskManager :=
  if pageId.fileId ∈ dm.files then .ok (dm.writeSegment pageId.fileId (byteOffset pageId) data)
  else .error (.invalidPageId pageId)

def checkRange (operation : String) (startPageId : PageId) (numPages : UInt32) :
    Except CrioError Unit :=
  let startOffset := startPageId.pageOffset
  if 2 ^ 32 ≤ startOffset.toNat + numPages.toNat then
    .error (.diskScheduler "Page range overflow")
  else if startOffset + numPages > PageId.pageOffsetMask + 1 then
    .error (.diskScheduler ("Sequential " ++ operation ++ " crosses file boundary: start=" ++
      toString startOffset ++ ", count=" ++ toString numPages))
  else .ok ()

def readPages (dm : DiskManager) (startPageId : PageId) (numPages : UInt32) :
    Except CrioError (Fin (numPages.toNat * pageSize) → UInt8) := do
  checkRange "read" startPageId numPages
  if startPageId.fileId ∈ dm.files then
    pure ((dm.segment startPageId.fileId).readAt (byteOffset startPageId) _)
  else throw (.invalidPageId startPageId)

def writePages (dm : DiskManager) (startPageId : PageId) (numPages : UInt32)
    (data : Fin (numPages.toNat * pageSize) → UInt8) : Except CrioError DiskManager := do
  checkRange "write" startPageId numPages
  if startPageId.fileId ∈ dm.files then
    pure (dm.writeSegment startPageId.fileId (byteOffset startPageId) data)
  else throw (.invalidPageId startPageId)

def finishWith {α : Type} (dm : DiskManager) (result : α) :
    Except CrioError DiskManager → Except CrioError α × DiskManager
  | .ok dm' => (.ok result, dm')
  | .error e => (.error e, dm)

def offsetTooLarge (pageOffset : UInt32) : CrioError :=
  .diskScheduler ("Page offset " ++ toString pageOffset ++ " exceeds 24-bit limit")

/-- `PageId::from_parts` panics once `num_pages` passes 24 bits. -/
def allocatePage (dm : DiskManager) : Option (Except CrioError PageId × DiskManager) := do
  let rawCount := dm.numPages
  let counted := { dm with numPages := rawCount + 1 }
  let pageId ← PageId.fromParts 0 rawCount
  pure (finishWith counted pageId (counted.writePage pageId fun _ => 0))

def coverPage (dm : DiskManager) (pageOffset : UInt32) : DiskManager :=
  let requiredPages := pageOffset + 1
  if requiredPages > dm.numPages then { dm with numPages := requiredPages } else dm

def allocatePageForTable (dm : DiskManager) (tableId : UInt32) :
    Option (Except CrioError PageId × DiskManager) := do
  let (virtualPageId, extentAllocator) := dm.extentAllocator.allocatePageForTable tableId
  let allocated := { dm with extentAllocator }
  let pageOffset := virtualPageId.asU32
  if pageOffset > PageId.pageOffsetMask then
    pure (.error (offsetTooLarge pageOffset), allocated)
  else
    let pageId ← PageId.fromParts 0 pageOffset
    let covered := allocated.coverPage pageOffset
    pure (finishWith covered pageId (covered.writePage pageId fun _ => 0))

def allocateExtentForTable (dm : DiskManager) (tableId : UInt32) :
    Option (Except CrioError (List PageId) × DiskManager) := do
  let (virtualPages, extentAllocator) := dm.extentAllocator.allocateExtentForTable tableId
  let allocated := { dm with extentAllocator }
  match virtualPages.find? fun vp => vp.asU32 > PageId.pageOffsetMask with
  | some vp => pure (.error (offsetTooLarge vp.asU32), allocated)
  | none =>
    let covered := match virtualPages.getLast? with
      | some lastPage => allocated.coverPage lastPage.asU32
      | none => allocated
    let written ← match virtualPages.head? with
      | some firstVirtual => do
        let startPage ← PageId.fromParts 0 firstVirtual.asU32
        pure (covered.writePages startPage virtualPages.length.toUInt32 fun _ => 0)
      | none => pure (.ok covered)
    let realPages ← virtualPages.mapM fun vp => PageId.fromParts 0 vp.asU32
    pure (finishWith covered realPages written)

def getTablePageRanges (dm : DiskManager) (tableId : UInt32) : Option (List (PageId × UInt32)) :=
  (dm.extentAllocator.getContiguousPages tableId).mapM fun range =>
    (PageId.fromParts 0 range.1.asU32).map fun pageId => (pageId, range.2)

def deallocatePage (dm : DiskManager) (pageId : PageId) : DiskManager :=
  if pageId.fileId = 0 then
    let virtualPid := PageId.new pageId.pageOffset
    { dm with extentAllocator := dm.extentAllocator.deallocatePage virtualPid }
  else dm

def readDirectoryPage (dm : DiskManager) : Except CrioError PageData :=
  dm.readPage directoryPageId

def writeDirectoryPage (dm : DiskManager) (data : PageData) : Except CrioError DiskManager :=
  dm.writePage directoryPageId data

def getNumPages (dm : DiskManager) : UInt32 := dm.numPages

@[simp] theorem fileId_directory : directoryPageId.fileId = 0 := by decide

@[simp] theorem byteOffset_directory : byteOffset directoryPageId = 0 := by decide

@[simp] theorem segment_writeSegment_same (dm : DiskManager) (fileId : UInt8) (off : Nat)
    {len : Nat} (data : Fin len → UInt8) :
    (dm.writeSegment fileId off data).segment fileId = (dm.segment fileId).writeAt off data := by
  simp [segment, writeSegment]

@[simp] theorem files_writeSegment (dm : DiskManager) (fileId : UInt8) (off : Nat) {len : Nat}
    (data : Fin len → UInt8) : (dm.writeSegment fileId off data).files = dm.files := rfl

theorem readPage_of_unopened {dm : DiskManager} {pageId : PageId}
    (unopened : pageId.fileId ∉ dm.files) : dm.readPage pageId = .error (.invalidPageId pageId) := by
  simp [readPage, unopened]

theorem existingSegments_of_missing {segments : UInt8 → Option ByteFile}
    (missing : segments 0 = none) : existingSegments segments = some [] := by
  have first : List.range 256 = 0 :: (List.range 255).map Nat.succ := List.range_succ_eq_map
  simp [existingSegments, first, missing]

def fresh (segments : UInt8 → Option ByteFile) : DiskManager :=
  ⟨[0], Function.update segments 0 (some (ByteFile.empty.writeAt 0 DirectoryPage.init)), 1,
    ExtentAllocator.new⟩

theorem new_of_missing {segments : UInt8 → Option ByteFile} (missing : segments 0 = none) :
    new segments = some (.ok (fresh segments)) := by
  simp [new, existingSegments_of_missing missing, countPages, initDirectoryPage, fresh,
    writeSegment, segment]

theorem existingSegments_first {segments : UInt8 → Option ByteFile} (present : (segments 0).isSome)
    (missing : segments 1 = none) : existingSegments segments = some [0] := by
  have first : List.range 256 = 0 :: (List.range 255).map Nat.succ := List.range_succ_eq_map
  have second : List.range 255 = 0 :: (List.range 254).map Nat.succ := List.range_succ_eq_map
  simp [existingSegments, first, second, present, missing]

theorem validateDirectoryPage_invalid {dm : DiskManager} (opened : 0 ∈ dm.files)
    (whole : pageSize ≤ (dm.segment 0).size)
    (invalid : DirectoryPage.isValid ((dm.segment 0).readAt 0 pageSize) = false) :
    dm.validateDirectoryPage = .error .invalidDatabaseFile := by
  have fits : 0 + pageSize ≤ (dm.segment 0).size := by simpa using whole
  simp [validateDirectoryPage, opened, ByteFile.readExact_of_le _ fits, invalid]

theorem new_of_invalid_directory {segments : UInt8 → Option ByteFile} {found : List UInt8}
    (scan : existingSegments segments = some found) (opened : 0 ∈ found)
    (counted : countPages segments found ≠ 0)
    (whole : pageSize ≤ ((segments 0).getD ByteFile.empty).size)
    (invalid : DirectoryPage.isValid (((segments 0).getD ByteFile.empty).readAt 0 pageSize) = false) :
    new segments = some (.error .invalidDatabaseFile) := by
  have nonempty : found ≠ [] := List.ne_nil_of_mem opened
  have positive : 0 < countPages segments found := UInt32.pos_iff_ne_zero.mpr counted
  have rejected : (⟨found, segments, countPages segments found,
      ExtentAllocator.fromExisting (countPages segments found)⟩ : DiskManager).validateDirectoryPage =
        .error .invalidDatabaseFile := validateDirectoryPage_invalid opened whole invalid
  simp [new, scan, nonempty, counted, positive, rejected, Except.map]

end DiskManager

end Crio
