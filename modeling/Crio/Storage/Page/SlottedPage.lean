import Crio.Common.Types
import Crio.Lib.ByteBuffer

/-!
The slotted page of `src/storage/page/slotted_page.rs` over the bytes of the page. Every slice
is checked, so an index past the page is the panic `none`; `u16` arithmetic wraps. The
read-only `SlottedPageRef` and `get_tuple_mut` read what `get_tuple` reads and are left out.
-/

namespace Crio

open ByteBuffer

structure SlotEntry where
  offset : UInt16
  length : UInt16
  deriving DecidableEq, Repr

namespace SlotEntry

def empty : SlotEntry := ⟨0, 0⟩

def isEmpty (entry : SlotEntry) : Bool := entry.length == 0

end SlotEntry

namespace SlottedPage

def headerSize : Nat := 16

def slotSize : Nat := 4

def pageIdOffset : Nat := 0

def numSlotsOffset : Nat := 4

def freeSpaceStartOffset : Nat := 8

def freeSpaceEndOffset : Nat := 12

def pageId (p : PageData) : PageId := PageId.new (getU32 p pageIdOffset)

def setPageId (p : PageData) (pageId : PageId) : PageData := setU32 p pageIdOffset pageId.asU32

def numSlots (p : PageData) : UInt16 := (getU32 p numSlotsOffset).toUInt16

def setNumSlots (p : PageData) (numSlots : UInt16) : PageData :=
  setU32 p numSlotsOffset numSlots.toUInt32

def freeSpaceStart (p : PageData) : UInt16 := (getU32 p freeSpaceStartOffset).toUInt16

def setFreeSpaceStart (p : PageData) (offset : UInt16) : PageData :=
  setU32 p freeSpaceStartOffset offset.toUInt32

def freeSpaceEnd (p : PageData) : UInt16 := (getU32 p freeSpaceEndOffset).toUInt16

def setFreeSpaceEnd (p : PageData) (offset : UInt16) : PageData :=
  setU32 p freeSpaceEndOffset offset.toUInt32

def init (pageId : PageId) : PageData :=
  let p := setPageId (fun _ => 0) pageId
  let p := setNumSlots p 0
  let p := setFreeSpaceStart p headerSize.toUInt16
  setFreeSpaceEnd p pageSize.toUInt16

def freeSpace (p : PageData) : Nat := (freeSpaceEnd p).toNat - (freeSpaceStart p).toNat

def canInsert (p : PageData) (tupleSize : Nat) : Bool := freeSpace p ≥ tupleSize + slotSize

def slotArrayBase (p : PageData) : Nat :=
  (freeSpaceStart p).toNat - (numSlots p).toNat * slotSize

/-- `some none` past the slot count; `none` is the panic of an entry past the page. -/
def getSlot (p : PageData) (slotId : SlotId) : Option (Option SlotEntry) :=
  let slotNum := slotId.val
  if slotNum ≥ numSlots p then some none
  else do
    let slotOffset := slotArrayBase p + slotNum.toNat * slotSize
    let offsetBytes ← slice p slotOffset 2
    let lengthBytes ← slice p (slotOffset + 2) 2
    pure (some ⟨(ofLeBytes offsetBytes).toUInt16, (ofLeBytes lengthBytes).toUInt16⟩)

def setSlot (p : PageData) (slotId : SlotId) (entry : SlotEntry) : Option PageData := do
  let slotOffset := slotArrayBase p + slotId.val.toNat * slotSize
  let p ← copyFrom p slotOffset (leBytes 2 entry.offset.toNat)
  copyFrom p (slotOffset + 2) (leBytes 2 entry.length.toNat)

def slotRange (n : UInt16) : List UInt16 := (List.range n.toNat).map Nat.toUInt16

def findEmptySlot (p : PageData) : List UInt16 → Option (Option SlotId)
  | [] => some none
  | i :: rest =>
    match getSlot p ⟨i⟩ with
    | none => none
    | some (some entry) => if entry.isEmpty then some (some ⟨i⟩) else findEmptySlot p rest
    | some none => findEmptySlot p rest

def findOrCreateSlot (p : PageData) : Option ((SlotId × Bool) × PageData) :=
  let numSlots := numSlots p
  match findEmptySlot p (slotRange numSlots) with
  | none => none
  | some (some slotId) => some ((slotId, false), p)
  | some none => some ((⟨numSlots⟩, true), setNumSlots p (numSlots + 1))

def placeTuple (p : PageData) (slotId : SlotId) (tuple : List UInt8) : Option PageData := do
  let tupleOffset := freeSpaceEnd p - tuple.length.toUInt16
  let p ← copyFrom p tupleOffset.toNat tuple
  let p ← setSlot p slotId ⟨tupleOffset, tuple.length.toUInt16⟩
  pure (setFreeSpaceEnd p tupleOffset)

def insertTuple (p : PageData) (tuple : List UInt8) :
    Option (Except CrioError SlotId × PageData) :=
  let tupleSize := tuple.length
  if !canInsert p tupleSize then
    some (.error (.pageOverflow tupleSize (freeSpace p - slotSize)), p)
  else do
    let ((slotId, isNewSlot), p) ← findOrCreateSlot p
    let p := if isNewSlot then setFreeSpaceStart p (freeSpaceStart p + slotSize.toUInt16) else p
    let p ← placeTuple p slotId tuple
    pure (.ok slotId, p)

def getTuple (p : PageData) (slotId : SlotId) : Option (Except CrioError (List UInt8)) :=
  match getSlot p slotId with
  | none => none
  | some none => some (.error (.invalidSlotId slotId.val))
  | some (some entry) =>
    if entry.isEmpty then some (.error (.emptySlot slotId.val))
    else (slice p entry.offset.toNat entry.length.toNat).map .ok

def deleteTuple (p : PageData) (slotId : SlotId) : Option (Except CrioError Unit × PageData) :=
  match getSlot p slotId with
  | none => none
  | some none => some (.error (.invalidSlotId slotId.val), p)
  | some (some _) => (setSlot p slotId SlotEntry.empty).map fun p => (.ok (), p)

def updateTuple (p : PageData) (slotId : SlotId) (newData : List UInt8) :
    Option (Except CrioError Unit × PageData) :=
  match getSlot p slotId with
  | none => none
  | some none => some (.error (.invalidSlotId slotId.val), p)
  | some (some entry) =>
    if entry.isEmpty then some (.error (.emptySlot slotId.val), p)
    else if newData.length > entry.length.toNat then
      some (.error (.pageOverflow newData.length entry.length.toNat), p)
    else do
      let p ← copyFrom p entry.offset.toNat newData
      let p ← if newData.length < entry.length.toNat then
          setSlot p slotId ⟨entry.offset, newData.length.toUInt16⟩
        else some p
      pure (.ok (), p)

def collectTuples (p : PageData) : List UInt16 → Option (List (SlotId × List UInt8))
  | [] => some []
  | i :: rest =>
    match getTuple p ⟨i⟩ with
    | none => none
    | some (.ok tuple) => (collectTuples p rest).map fun tuples => (⟨i⟩, tuple) :: tuples
    | some (.error _) => collectTuples p rest

def clearSlots (p : PageData) : List UInt16 → Option PageData
  | [] => some p
  | i :: rest => (setSlot p ⟨i⟩ SlotEntry.empty).bind fun p => clearSlots p rest

def reinsertTuples (p : PageData) : List (SlotId × List UInt8) → Option PageData
  | [] => some p
  | (slotId, tuple) :: rest => (placeTuple p slotId tuple).bind fun p => reinsertTuples p rest

def compact (p : PageData) : Option PageData :=
  let numSlots := numSlots p
  if numSlots = 0 then some p
  else do
    let tuples ← collectTuples p (slotRange numSlots)
    let p := setFreeSpaceEnd p pageSize.toUInt16
    let p ← clearSlots p (slotRange numSlots)
    reinsertTuples p tuples

def liveSlotIds (p : PageData) : List UInt16 → Option (List SlotId)
  | [] => some []
  | i :: rest =>
    match getSlot p ⟨i⟩ with
    | none => none
    | some (some entry) =>
      if entry.isEmpty then liveSlotIds p rest
      else (liveSlotIds p rest).map fun ids => ⟨i⟩ :: ids
    | some none => liveSlotIds p rest

def slotIds (p : PageData) : Option (List SlotId) := liveSlotIds p (slotRange (numSlots p))

def tupleCount (p : PageData) : Option Nat := (slotIds p).map List.length

@[simp] theorem numSlots_setNumSlots (p : PageData) (v : UInt16) :
    numSlots (setNumSlots p v) = v := by
  rw [numSlots, setNumSlots, getU32_setU32_same _ _ (by decide)]
  simp

@[simp] theorem numSlots_setFreeSpaceStart (p : PageData) (v : UInt16) :
    numSlots (setFreeSpaceStart p v) = numSlots p := by
  rw [numSlots, setFreeSpaceStart, getU32_setU32_disjoint _ _ (by decide), numSlots]

@[simp] theorem numSlots_setFreeSpaceEnd (p : PageData) (v : UInt16) :
    numSlots (setFreeSpaceEnd p v) = numSlots p := by
  rw [numSlots, setFreeSpaceEnd, getU32_setU32_disjoint _ _ (by decide), numSlots]

@[simp] theorem freeSpaceStart_setNumSlots (p : PageData) (v : UInt16) :
    freeSpaceStart (setNumSlots p v) = freeSpaceStart p := by
  rw [freeSpaceStart, setNumSlots, getU32_setU32_disjoint _ _ (by decide), freeSpaceStart]

@[simp] theorem freeSpaceStart_setFreeSpaceStart (p : PageData) (v : UInt16) :
    freeSpaceStart (setFreeSpaceStart p v) = v := by
  rw [freeSpaceStart, setFreeSpaceStart, getU32_setU32_same _ _ (by decide)]
  simp

@[simp] theorem freeSpaceStart_setFreeSpaceEnd (p : PageData) (v : UInt16) :
    freeSpaceStart (setFreeSpaceEnd p v) = freeSpaceStart p := by
  rw [freeSpaceStart, setFreeSpaceEnd, getU32_setU32_disjoint _ _ (by decide), freeSpaceStart]

@[simp] theorem freeSpaceEnd_setNumSlots (p : PageData) (v : UInt16) :
    freeSpaceEnd (setNumSlots p v) = freeSpaceEnd p := by
  rw [freeSpaceEnd, setNumSlots, getU32_setU32_disjoint _ _ (by decide), freeSpaceEnd]

@[simp] theorem freeSpaceEnd_setFreeSpaceStart (p : PageData) (v : UInt16) :
    freeSpaceEnd (setFreeSpaceStart p v) = freeSpaceEnd p := by
  rw [freeSpaceEnd, setFreeSpaceStart, getU32_setU32_disjoint _ _ (by decide), freeSpaceEnd]

@[simp] theorem freeSpaceEnd_setFreeSpaceEnd (p : PageData) (v : UInt16) :
    freeSpaceEnd (setFreeSpaceEnd p v) = v := by
  rw [freeSpaceEnd, setFreeSpaceEnd, getU32_setU32_same _ _ (by decide)]
  simp

section PastHeader

variable {off : Nat} (p : PageData) (src : List UInt8)

theorem numSlots_overwrite (past : headerSize ≤ off) :
    numSlots (overwrite p off src) = numSlots p := by
  unfold numSlots getU32
  rw [field_overwrite_disjoint p (by unfold numSlotsOffset headerSize at *; omega)]

theorem freeSpaceStart_overwrite (past : headerSize ≤ off) :
    freeSpaceStart (overwrite p off src) = freeSpaceStart p := by
  unfold freeSpaceStart getU32
  rw [field_overwrite_disjoint p (by unfold freeSpaceStartOffset headerSize at *; omega)]

theorem freeSpaceEnd_overwrite (past : headerSize ≤ off) :
    freeSpaceEnd (overwrite p off src) = freeSpaceEnd p := by
  unfold freeSpaceEnd getU32
  rw [field_overwrite_disjoint p (by unfold freeSpaceEndOffset headerSize at *; omega)]

end PastHeader

end SlottedPage

end Crio
