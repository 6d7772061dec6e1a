import Crio.Common.Types
import Crio.Lib.ByteBuffer

/-!
The directory page of `src/storage/page/directory_page.rs`: a header of five `u32` fields,
then the table entries, read and written through checked slices.
-/

namespace Crio

namespace DirectoryPage

open ByteBuffer

def magicNumber : UInt32 := 0x4352494F

def version : UInt32 := 1

def magicOffset : Nat := 0

def versionOffset : Nat := 4

def pageCountOffset : Nat := 8

def freePageListHeadOffset : Nat := 12

def tableCountOffset : Nat := 16

def invalidPage : UInt32 := 0xFFFFFFFF

def init : PageData :=
  let zeroed : PageData := fun _ => 0
  let withMagic := setU32 zeroed magicOffset magicNumber
  let withVersion := setU32 withMagic versionOffset version
  let withPageCount := setU32 withVersion pageCountOffset 1
  let withFreeList := setU32 withPageCount freePageListHeadOffset invalidPage
  setU32 withFreeList tableCountOffset 0

def magic (data : PageData) : UInt32 := getU32 data magicOffset

def isValid (data : PageData) : Bool := magic data == magicNumber

def tableEntriesOffset : Nat := 20

def tableEntrySize : Nat := 12

def maxTables : Nat := (pageSize - tableEntriesOffset) / tableEntrySize

structure TableEntry where
  tableId : UInt32
  firstPageId : PageId
  pageCount : UInt32
  deriving DecidableEq, Repr

def readVersion (data : PageData) : UInt32 := getU32 data versionOffset

def pageCount (data : PageData) : UInt32 := getU32 data pageCountOffset

def setPageCount (data : PageData) (count : UInt32) : PageData :=
  setU32 data pageCountOffset count

def freePageListHead (data : PageData) : Option PageId :=
  let val := getU32 data freePageListHeadOffset
  if val = invalidPage then none else some (PageId.new val)

def setFreePageListHead (data : PageData) (pageId : Option PageId) : PageData :=
  setU32 data freePageListHeadOffset ((pageId.map PageId.asU32).getD invalidPage)

def tableCount (data : PageData) : UInt32 := getU32 data tableCountOffset

def setTableCount (data : PageData) (count : UInt32) : PageData :=
  setU32 data tableCountOffset count

/-- The count wraps, as a release build's `u32` addition does. -/
def incrementPageCount (data : PageData) : UInt32 × PageData :=
  let count := pageCount data + 1
  (count, setPageCount data count)

def tableEntryOffset (index : Nat) : Nat := tableEntriesOffset + index * tableEntrySize

def readU32 (data : PageData) (offset : Nat) : Option UInt32 :=
  (slice data offset 4).map fun bytes => (ofLeBytes bytes).toUInt32

/-- `some none` past the count; `none` is the panic of a slice past the page's end. -/
def getTableEntry (data : PageData) (index : Nat) : Option (Option TableEntry) :=
  if index ≥ (tableCount data).toNat then some none
  else do
    let offset := tableEntryOffset index
    let tableId ← readU32 data offset
    let firstPage ← readU32 data (offset + 4)
    let pageCount ← readU32 data (offset + 8)
    pure (some ⟨tableId, PageId.new firstPage, pageCount⟩)

def setTableEntry (data : PageData) (index : Nat) (entry : TableEntry) : Option PageData := do
  let offset := tableEntryOffset index
  let data ← copyFrom data offset (leBytes 4 entry.tableId.toNat)
  let data ← copyFrom data (offset + 4) (leBytes 4 entry.firstPageId.asU32.toNat)
  copyFrom data (offset + 8) (leBytes 4 entry.pageCount.toNat)

def findTableIn (data : PageData) (tableId : UInt32) : List Nat → Option (Option TableEntry)
  | [] => some none
  | i :: rest =>
    match getTableEntry data i with
    | none => none
    | some none => findTableIn data tableId rest
    | some (some entry) =>
      if entry.tableId = tableId then some (some entry) else findTableIn data tableId rest

def findTable (data : PageData) (tableId : UInt32) : Option (Option TableEntry) :=
  findTableIn data tableId (List.range (tableCount data).toNat)

def registerTable (data : PageData) (tableId : UInt32) (firstPageId : PageId) :
    Option (Except CrioError Unit × PageData) := do
  let found ← findTable data tableId
  if found.isSome then return (.error (.tableAlreadyExists tableId), data)
  let count := (tableCount data).toNat
  if count ≥ maxTables then return (.error .directoryFull, data)
  let data ← setTableEntry data count ⟨tableId, firstPageId, 1⟩
  pure (.ok (), setTableCount data (count + 1).toUInt32)

def updateTablePageCountIn (data : PageData) (tableId pageCount : UInt32) :
    List Nat → Option (Except CrioError Unit × PageData)
  | [] => some (.error (.tableNotFound tableId), data)
  | i :: rest =>
    match getTableEntry data i with
    | none => none
    | some none => updateTablePageCountIn data tableId pageCount rest
    | some (some entry) =>
      if entry.tableId = tableId then
        (setTableEntry data i { entry with pageCount }).map fun data => (.ok (), data)
      else updateTablePageCountIn data tableId pageCount rest

def updateTablePageCount (data : PageData) (tableId pageCount : UInt32) :
    Option (Except CrioError Unit × PageData) :=
  updateTablePageCountIn data tableId pageCount (List.range (tableCount data).toNat)

def removeTableIn (data : PageData) (tableId : UInt32) (count : Nat) :
    List Nat → Option (Except CrioError TableEntry × PageData)
  | [] => some (.error (.tableNotFound tableId), data)
  | i :: rest =>
    match getTableEntry data i with
    | none => none
    | some none => removeTableIn data tableId count rest
    | some (some entry) =>
      if entry.tableId = tableId then do
        let data ←
          if i < count - 1 then
            match getTableEntry data (count - 1) with
            | none => none
            | some none => some data
            | some (some lastEntry) => setTableEntry data i lastEntry
          else some data
        pure (.ok entry, setTableCount data (count - 1).toUInt32)
      else removeTableIn data tableId count rest

def removeTable (data : PageData) (tableId : UInt32) :
    Option (Except CrioError TableEntry × PageData) :=
  let count := (tableCount data).toNat
  removeTableIn data tableId count (List.range count)

def allTablesIn (data : PageData) : List Nat → Option (List TableEntry)
  | [] => some []
  | i :: rest =>
    match getTableEntry data i with
    | none => none
    | some none => allTablesIn data rest
    | some (some entry) => (allTablesIn data rest).map (entry :: ·)

def allTables (data : PageData) : Option (List TableEntry) :=
  allTablesIn data (List.range (tableCount data).toNat)

def refFindTableIn (data : PageData) (tableId : UInt32) : List Nat → Option (Option TableEntry)
  | [] => some none
  | i :: rest => do
    let offset := tableEntriesOffset + i * tableEntrySize
    let tid ← readU32 data offset
    if tid = tableId then
      let firstPage ← readU32 data (offset + 4)
      let pageCount ← readU32 data (offset + 8)
      pure (some ⟨tableId, PageId.new firstPage, pageCount⟩)
    else refFindTableIn data tableId rest

def refFindTable (data : PageData) (tableId : UInt32) : Option (Option TableEntry) :=
  refFindTableIn data tableId (List.range (tableCount data).toNat)

theorem isValid_init : isValid init = true := by
  simp only [isValid, magic, init]
  rw [getU32_setU32_disjoint _ _ (by decide), getU32_setU32_disjoint _ _ (by decide),
    getU32_setU32_disjoint _ _ (by decide), getU32_setU32_disjoint _ _ (by decide),
    getU32_setU32_same _ _ (by decide)]
  rfl

theorem isValid_zeros : isValid (fun _ => 0) = false := by decide

end DirectoryPage

end Crio
