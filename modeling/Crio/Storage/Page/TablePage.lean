import Crio.Storage.Page.SlottedPage

/-!
The table page of `src/storage/page/table_page.rs`: a slotted page with five more header
fields, whose slot array starts at 36. `TablePageRef` is left out.
-/

namespace Crio

open ByteBuffer

namespace TablePage

def tableHeaderOffset : Nat := 16

def nextPageIdOffset : Nat := tableHeaderOffset

def prevPageIdOffset : Nat := tableHeaderOffset + 4

def lsnOffset : Nat := tableHeaderOffset + 8

def tableIdOffset : Nat := tableHeaderOffset + 16

def tableHeaderSize : Nat := tableIdOffset + 4

def invalidPage : UInt32 := 0xFFFFFFFF

def linkAt (p : PageData) (off : Nat) : Option PageId :=
  let value := getU32 p off
  if value = invalidPage then none else some (PageId.new value)

def setLinkAt (p : PageData) (off : Nat) (pageId : Option PageId) : PageData :=
  setU32 p off ((pageId.map PageId.asU32).getD invalidPage)

def nextPageId (p : PageData) : Option PageId := linkAt p nextPageIdOffset

def setNextPageId (p : PageData) (pageId : Option PageId) : PageData :=
  setLinkAt p nextPageIdOffset pageId

def prevPageId (p : PageData) : Option PageId := linkAt p prevPageIdOffset

def setPrevPageId (p : PageData) (pageId : Option PageId) : PageData :=
  setLinkAt p prevPageIdOffset pageId

def lsn (p : PageData) : UInt64 := getU64 p lsnOffset

def setLsn (p : PageData) (lsn : UInt64) : PageData := setU64 p lsnOffset lsn

def tableId (p : PageData) : UInt32 := getU32 p tableIdOffset

def setTableId (p : PageData) (tableId : UInt32) : PageData := setU32 p tableIdOffset tableId

def init (pageId : PageId) (tableId : UInt32) : PageData :=
  let p := SlottedPage.init pageId
  let p := SlottedPage.setFreeSpaceStart p tableHeaderSize.toUInt16
  let p := setNextPageId p none
  let p := setPrevPageId p none
  let p := setLsn p invalidLsn
  setTableId p tableId

def insertTuple (p : PageData) (tuple : List UInt8) :
    Option (Except CrioError RecordId × PageData) :=
  (SlottedPage.insertTuple p tuple).map fun (result, p) =>
    (result.map fun slotId => RecordId.mk (SlottedPage.pageId p) slotId, p)

def recordIds (p : PageData) : Option (List RecordId) :=
  (SlottedPage.slotIds p).map fun slotIds =>
    slotIds.map fun slotId => RecordId.mk (SlottedPage.pageId p) slotId

end TablePage

end Crio
