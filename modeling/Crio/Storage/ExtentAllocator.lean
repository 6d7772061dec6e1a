import Crio.Common.Types
import Crio.Lib.Bitmap

/-!
The extent allocator of `src/storage/disk/extent_allocator.rs`. Its two hash maps, which the
code never iterates, are functions: an absent table owns the empty list, and an absent extent
has no info.
-/

namespace Crio

def extentSize : UInt32 := 8

structure ExtentId where
  val : UInt32
  deriving DecidableEq, Repr, Inhabited

def ExtentId.startPage (e : ExtentId) : PageId := PageId.new (e.val * extentSize)

structure ExtentInfo where
  allocatedBitmap : UInt8
  allocatedCount : UInt8
  deriving DecidableEq, Repr, Inhabited

namespace ExtentInfo

def new : ExtentInfo := ⟨0, 0⟩

def firstFree (bitmap : UInt8) : List UInt8 → Option UInt8
  | [] => none
  | i :: rest => if bitmap &&& Bitmap.mask i = 0 then some i else firstFree bitmap rest

def allocateNext (info : ExtentInfo) : Option UInt8 × ExtentInfo :=
  if info.allocatedCount ≥ 8 then (none, info)
  else
    match firstFree info.allocatedBitmap [0, 1, 2, 3, 4, 5, 6, 7] with
    | some i =>
      (some i, { allocatedBitmap := info.allocatedBitmap ||| Bitmap.mask i
                 allocatedCount := info.allocatedCount + 1 })
    | none => (none, info)

def deallocate (info : ExtentInfo) (offset : UInt8) : Bool × ExtentInfo :=
  if info.allocatedBitmap &&& Bitmap.mask offset ≠ 0 then
    (true, { allocatedBitmap := info.allocatedBitmap &&& ~~~Bitmap.mask offset
             allocatedCount := info.allocatedCount - 1 })
  else (false, info)

def isFull (info : ExtentInfo) : Bool := info.allocatedCount == 8

end ExtentInfo

structure ExtentAllocator where
  tableExtents : UInt32 → List ExtentId
  extentInfo : ExtentId → Option ExtentInfo
  nextExtentId : UInt32

namespace ExtentAllocator

def new : ExtentAllocator := ⟨fun _ => [], fun _ => none, 0⟩

def existingInfo (numPages extentIdx : UInt32) : ExtentInfo :=
  let start := extentIdx * extentSize
  let stop := min ((extentIdx + 1) * extentSize) numPages
  let pagesInExtent := (stop - start).toUInt8
  { allocatedBitmap := (List.range pagesInExtent.toNat).foldl
      (fun bitmap i => bitmap ||| Bitmap.mask i.toUInt8) 0
    allocatedCount := pagesInExtent }

def fromExisting (numPages : UInt32) : ExtentAllocator :=
  let numExtents := (numPages + extentSize - 1) / extentSize
  { tableExtents := fun _ => []
    extentInfo := (List.range numExtents.toNat).foldl
      (fun info idx => Function.update info ⟨idx.toUInt32⟩
        (some (existingInfo numPages idx.toUInt32))) fun _ => none
    nextExtentId := numExtents }

def pageOf (e : ExtentId) (offset : UInt8) : PageId :=
  PageId.new (e.val * extentSize + offset.toUInt32)

def scanExtents (info : ExtentId → Option ExtentInfo) :
    List ExtentId → Option (ExtentId × UInt8 × ExtentInfo)
  | [] => none
  | e :: rest =>
    match info e with
    | some i =>
      if !i.isFull then
        match i.allocateNext with
        | (some offset, i') => some (e, offset, i')
        | (none, _) => scanExtents info rest
      else scanExtents info rest
    | none => scanExtents info rest

/-- It never returns `Err`: the fresh extent's `allocate_next().unwrap()` always yields slot 0. -/
def allocatePageForTable (a : ExtentAllocator) (tableId : UInt32) :
    PageId × ExtentAllocator :=
  match scanExtents a.extentInfo (a.tableExtents tableId).reverse with
  | some (e, offset, i') =>
    (pageOf e offset, { a with extentInfo := Function.update a.extentInfo e (some i') })
  | none =>
    let e : ExtentId := ⟨a.nextExtentId⟩
    let fresh := ExtentInfo.new.allocateNext
    (pageOf e (fresh.1.getD 0),
      { tableExtents := Function.update a.tableExtents tableId (a.tableExtents tableId ++ [e])
        extentInfo := Function.update a.extentInfo e (some fresh.2)
        nextExtentId := a.nextExtentId + 1 })

def allocateRepeatedly : Nat → ExtentInfo → List UInt8 × ExtentInfo
  | 0, info => ([], info)
  | n + 1, info =>
    match info.allocateNext with
    | (some offset, info') =>
      let rest := allocateRepeatedly n info'
      (offset :: rest.1, rest.2)
    | (none, info') => allocateRepeatedly n info'

def allocateExtentForTable (a : ExtentAllocator) (tableId : UInt32) :
    List PageId × ExtentAllocator :=
  let e : ExtentId := ⟨a.nextExtentId⟩
  let filled := allocateRepeatedly extentSize.toNat ExtentInfo.new
  (filled.1.map (pageOf e),
    { tableExtents := Function.update a.tableExtents tableId (a.tableExtents tableId ++ [e])
      extentInfo := Function.update a.extentInfo e (some filled.2)
      nextExtentId := a.nextExtentId + 1 })

def deallocatePage (a : ExtentAllocator) (pageId : PageId) : ExtentAllocator :=
  let e : ExtentId := ⟨pageId.asU32 / extentSize⟩
  let offset := (pageId.asU32 % extentSize).toUInt8
  match a.extentInfo e with
  | some info => { a with extentInfo := Function.update a.extentInfo e (some (info.deallocate offset).2) }
  | none => a

def getTableExtents (a : ExtentAllocator) (tableId : UInt32) : List ExtentId :=
  a.tableExtents tableId

def getContiguousPages (a : ExtentAllocator) (tableId : UInt32) : List (PageId × UInt32) :=
  (a.tableExtents tableId).filterMap fun e =>
    match a.extentInfo e with
    | some info => if info.allocatedCount > 0 then some (e.startPage, info.allocatedCount.toUInt32)
                   else none
    | none => none

def totalPagesAllocated (a : ExtentAllocator) : UInt32 := a.nextExtentId * extentSize

end ExtentAllocator

theorem new_allocateNext : ExtentInfo.new.allocateNext = (some 0, ⟨1, 1⟩) := by decide

theorem ExtentAllocator.new_allocatePageForTable (tableId : UInt32) :
    ExtentAllocator.new.allocatePageForTable tableId =
      (PageId.new 0,
        { tableExtents := Function.update (fun _ => []) tableId [⟨0⟩]
          extentInfo := Function.update (fun _ => none) ⟨0⟩ (some ⟨1, 1⟩)
          nextExtentId := 1 }) := by
  simp [ExtentAllocator.allocatePageForTable, ExtentAllocator.new, ExtentAllocator.scanExtents,
    new_allocateNext, ExtentAllocator.pageOf]

end Crio
