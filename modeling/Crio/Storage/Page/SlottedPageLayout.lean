import Crio.Storage.Page.TablePage
import Crio.Lib.Intervals
import Crio.Lib.Reachability

/-!
The layout a slotted page keeps, and each read of the page after each write an operation
makes.
-/

namespace Crio

namespace SlotEntry

theorem isEmpty_iff (entry : SlotEntry) : entry.isEmpty = true ↔ entry.length.toNat = 0 := by
  simp [isEmpty, ← UInt16.toNat_inj]

end SlotEntry

namespace SlottedPage

open ByteBuffer Intervals

section Arithmetic

theorem toNat_add_toUInt16 {a : UInt16} {n : Nat} (small : a.toNat + n < 2 ^ 16) :
    (a + n.toUInt16).toNat = a.toNat + n := by
  rw [UInt16.toNat_add, toNat_toUInt16 (by omega)]
  omega

theorem toNat_sub_toUInt16 {a : UInt16} {n : Nat} (le : n ≤ a.toNat) :
    (a - n.toUInt16).toNat = a.toNat - n := by
  have small := a.toNat_lt
  rw [UInt16.toNat_sub_of_le]
  · rw [toNat_toUInt16 (by omega)]
  · rw [UInt16.le_iff_toNat_le, toNat_toUInt16 (by omega)]
    exact le

end Arithmetic

def entryAt (p : PageData) (base i : Nat) : SlotEntry :=
  ⟨getU16 p (base + i * slotSize), getU16 p (base + i * slotSize + 2)⟩

def writeSlot (p : PageData) (base i : Nat) (entry : SlotEntry) : PageData :=
  setU16 (setU16 p (base + i * slotSize) entry.offset) (base + i * slotSize + 2) entry.length

def HeaderKept (headerEnd : Nat) (p p' : PageData) : Prop :=
  ∀ j < headerEnd, j < numSlotsOffset ∨ headerSize ≤ j → byteAt p' j = byteAt p j

section Entries

variable (p : PageData) {base : Nat}

theorem entryAt_overwrite {i off : Nat} {src : List UInt8}
    (apart : base + i * slotSize + slotSize ≤ off ∨ off + src.length ≤ base + i * slotSize) :
    entryAt (overwrite p off src) base i = entryAt p base i := by
  have first : base + i * slotSize + 2 ≤ off ∨ off + src.length ≤ base + i * slotSize := by
    unfold slotSize at *
    omega
  have second : base + i * slotSize + 2 + 2 ≤ off ∨ off + src.length ≤ base + i * slotSize + 2 := by
    unfold slotSize at *
    omega
  simp only [entryAt, getU16, field_overwrite_disjoint p first, field_overwrite_disjoint p second]

theorem entryAt_setU32 {off : Nat} (i : Nat) (v : UInt32) (below : off + 4 ≤ base) :
    entryAt (setU32 p off v) base i = entryAt p base i := by
  apply entryAt_overwrite p
  simp only [length_leBytes]
  omega

theorem entryAt_setNumSlots (header : headerSize ≤ base) (i : Nat) (v : UInt16) :
    entryAt (setNumSlots p v) base i = entryAt p base i :=
  entryAt_setU32 p i _ (by unfold numSlotsOffset; unfold headerSize at header; omega)

theorem entryAt_setFreeSpaceStart (header : headerSize ≤ base) (i : Nat) (v : UInt16) :
    entryAt (setFreeSpaceStart p v) base i = entryAt p base i :=
  entryAt_setU32 p i _ (by unfold freeSpaceStartOffset; unfold headerSize at header; omega)

theorem entryAt_setFreeSpaceEnd (header : headerSize ≤ base) (i : Nat) (v : UInt16) :
    entryAt (setFreeSpaceEnd p v) base i = entryAt p base i :=
  entryAt_setU32 p i _ (by unfold freeSpaceEndOffset; unfold headerSize at header; omega)

theorem entryAt_writeSlot_same {i : Nat} (entry : SlotEntry)
    (fits : base + i * slotSize + slotSize ≤ pageSize) :
    entryAt (writeSlot p base i entry) base i = entry := by
  unfold slotSize at fits
  have offsetKept : getU16 (writeSlot p base i entry) (base + i * slotSize) = entry.offset := by
    rw [writeSlot, getU16_setU16_disjoint _ _ (by omega),
      getU16_setU16_same _ _ (by unfold slotSize; omega)]
  have lengthSet : getU16 (writeSlot p base i entry) (base + i * slotSize + 2) = entry.length := by
    rw [writeSlot, getU16_setU16_same _ _ (by unfold slotSize; omega)]
  simp only [entryAt, offsetKept, lengthSet]

theorem entryAt_writeSlot_other {i j : Nat} (entry : SlotEntry) (other : j ≠ i) :
    entryAt (writeSlot p base i entry) base j = entryAt p base j := by
  have apart : j * slotSize + slotSize ≤ i * slotSize ∨ i * slotSize + slotSize ≤ j * slotSize := by
    unfold slotSize
    omega
  simp only [entryAt, writeSlot, slotSize] at apart ⊢
  rw [getU16_setU16_disjoint _ _ (by omega), getU16_setU16_disjoint _ _ (by omega),
    getU16_setU16_disjoint _ _ (by omega), getU16_setU16_disjoint _ _ (by omega)]

end Entries

section SlotWrites

variable (p : PageData) {base : Nat} (i : Nat) (entry : SlotEntry)

theorem numSlots_writeSlot (header : headerSize ≤ base) :
    numSlots (writeSlot p base i entry) = numSlots p := by
  rw [writeSlot, setU16, numSlots_overwrite _ _ (by omega), setU16,
    numSlots_overwrite _ _ (by omega)]

theorem freeSpaceStart_writeSlot (header : headerSize ≤ base) :
    freeSpaceStart (writeSlot p base i entry) = freeSpaceStart p := by
  rw [writeSlot, setU16, freeSpaceStart_overwrite _ _ (by omega), setU16,
    freeSpaceStart_overwrite _ _ (by omega)]

theorem freeSpaceEnd_writeSlot (header : headerSize ≤ base) :
    freeSpaceEnd (writeSlot p base i entry) = freeSpaceEnd p := by
  rw [writeSlot, setU16, freeSpaceEnd_overwrite _ _ (by omega), setU16,
    freeSpaceEnd_overwrite _ _ (by omega)]

theorem bytesAt_writeSlot {off len : Nat}
    (apart : off + len ≤ base + i * slotSize ∨ base + i * slotSize + slotSize ≤ off) :
    bytesAt (writeSlot p base i entry) off len = bytesAt p off len := by
  unfold writeSlot slotSize at *
  rw [setU16, bytesAt_overwrite_disjoint _ (by simp only [length_leBytes]; omega),
    setU16, bytesAt_overwrite_disjoint _ (by simp only [length_leBytes]; omega)]

theorem byteAt_writeSlot {j : Nat}
    (outside : j < base + i * slotSize ∨ base + i * slotSize + slotSize ≤ j) :
    byteAt (writeSlot p base i entry) j = byteAt p j := by
  unfold writeSlot slotSize at *
  rw [setU16, byteAt_overwrite_outside _ (by simp only [length_leBytes]; omega),
    setU16, byteAt_overwrite_outside _ (by simp only [length_leBytes]; omega)]

end SlotWrites

section Kept

variable {headerEnd : Nat}

theorem HeaderKept.refl (p : PageData) : HeaderKept headerEnd p p := fun _ _ _ => rfl

theorem HeaderKept.trans {p q r : PageData} (first : HeaderKept headerEnd p q)
    (second : HeaderKept headerEnd q r) : HeaderKept headerEnd p r :=
  fun j inside notCount => (second j inside notCount).trans (first j inside notCount)

theorem headerKept_overwrite (p : PageData) {off : Nat} (src : List UInt8)
    (past : headerEnd ≤ off) : HeaderKept headerEnd p (overwrite p off src) := by
  intro j inside _
  apply byteAt_overwrite_outside
  omega

theorem headerKept_setU32 (p : PageData) {off : Nat} (v : UInt32)
    (after : numSlotsOffset ≤ off) (before : off + 4 ≤ headerSize) :
    HeaderKept headerEnd p (setU32 p off v) := by
  intro j _ notCount
  apply byteAt_overwrite_outside
  simp only [length_leBytes]
  omega

theorem headerKept_setNumSlots (p : PageData) (v : UInt16) :
    HeaderKept headerEnd p (setNumSlots p v) :=
  headerKept_setU32 p _ (by decide) (by decide)

theorem headerKept_setFreeSpaceStart (p : PageData) (v : UInt16) :
    HeaderKept headerEnd p (setFreeSpaceStart p v) :=
  headerKept_setU32 p _ (by decide) (by decide)

theorem headerKept_setFreeSpaceEnd (p : PageData) (v : UInt16) :
    HeaderKept headerEnd p (setFreeSpaceEnd p v) :=
  headerKept_setU32 p _ (by decide) (by decide)

theorem headerKept_writeSlot (p : PageData) {base : Nat} (i : Nat) (entry : SlotEntry)
    (past : headerEnd ≤ base) : HeaderKept headerEnd p (writeSlot p base i entry) := by
  intro j inside _
  apply byteAt_writeSlot
  omega

end Kept

theorem getSlot_of_ge (p : PageData) {slotId : SlotId}
    (past : (numSlots p).toNat ≤ slotId.val.toNat) : getSlot p slotId = some none := by
  have beyond : slotId.val ≥ numSlots p := UInt16.le_iff_toNat_le.mpr past
  simp [getSlot, beyond]

theorem getSlot_of_lt (p : PageData) {slotId : SlotId}
    (counted : slotId.val.toNat < (numSlots p).toNat)
    (fits : slotArrayBase p + slotId.val.toNat * slotSize + slotSize ≤ pageSize) :
    getSlot p slotId = some (some (entryAt p (slotArrayBase p) slotId.val.toNat)) := by
  have notPast : ¬ slotId.val ≥ numSlots p := by
    rw [ge_iff_le, UInt16.le_iff_toNat_le]
    omega
  have first : slotArrayBase p + slotId.val.toNat * slotSize + 2 ≤ pageSize := by
    unfold slotSize at *
    omega
  have second : slotArrayBase p + slotId.val.toNat * slotSize + 2 + 2 ≤ pageSize := by
    unfold slotSize at *
    omega
  simp only [getSlot, notPast, if_false, slice_eq_bytesAt p first, slice_eq_bytesAt p second,
    Option.bind_eq_bind, Option.bind_some]
  rfl

theorem setSlot_of_fits (p : PageData) (slotId : SlotId) (entry : SlotEntry)
    (fits : slotArrayBase p + slotId.val.toNat * slotSize + slotSize ≤ pageSize) :
    setSlot p slotId entry =
      some (writeSlot p (slotArrayBase p) slotId.val.toNat entry) := by
  have first : slotArrayBase p + slotId.val.toNat * slotSize +
      (leBytes 2 entry.offset.toNat).length ≤ pageSize := by
    unfold slotSize at *
    simp only [length_leBytes]
    omega
  have second : slotArrayBase p + slotId.val.toNat * slotSize + 2 +
      (leBytes 2 entry.length.toNat).length ≤ pageSize := by
    unfold slotSize at *
    simp only [length_leBytes]
    omega
  simp only [setSlot, copyFrom_of_le p first, Option.bind_eq_bind, Option.bind_some,
    copyFrom_of_le _ second]
  rfl

def Live (headerEnd : Nat) (p : PageData) (i : Nat) : Prop :=
  i < (numSlots p).toNat ∧ 0 < (entryAt p headerEnd i).length.toNat

def InDataArea (headerEnd : Nat) (p : PageData) (i : Nat) : Prop :=
  (freeSpaceEnd p).toNat ≤ (entryAt p headerEnd i).offset.toNat ∧
    (entryAt p headerEnd i).offset.toNat + (entryAt p headerEnd i).length.toNat ≤ pageSize

def TuplesApart (headerEnd : Nat) (p : PageData) (i j : Nat) : Prop :=
  Apart (entryAt p headerEnd i).offset.toNat (entryAt p headerEnd i).length.toNat
    (entryAt p headerEnd j).offset.toNat (entryAt p headerEnd j).length.toNat

structure Layout (headerEnd : Nat) (p : PageData) : Prop where
  header_le : headerSize ≤ headerEnd
  start_eq : (freeSpaceStart p).toNat = headerEnd + (numSlots p).toNat * slotSize
  start_le_end : (freeSpaceStart p).toNat ≤ (freeSpaceEnd p).toNat
  end_le : (freeSpaceEnd p).toNat ≤ pageSize
  inside : ∀ i, Live headerEnd p i → InDataArea headerEnd p i
  apart : ∀ i j, i ≠ j → Live headerEnd p i → Live headerEnd p j → TuplesApart headerEnd p i j
  noSlots_end : numSlots p = 0 → (freeSpaceEnd p).toNat = pageSize

structure TuplesFit (headerEnd : Nat) (p : PageData) (skip : Nat) : Prop where
  inside : ∀ i, i ≠ skip → Live headerEnd p i → InDataArea headerEnd p i
  apart : ∀ i j, i ≠ skip → j ≠ skip → i ≠ j → Live headerEnd p i → Live headerEnd p j →
    TuplesApart headerEnd p i j

def tupleAt (headerEnd : Nat) (p : PageData) (i : Nat) : Option (List UInt8) :=
  if (entryAt p headerEnd i).isEmpty then none
  else some (bytesAt p (entryAt p headerEnd i).offset.toNat (entryAt p headerEnd i).length.toNat)

theorem live_iff (headerEnd : Nat) (p : PageData) (i : Nat) :
    Live headerEnd p i ↔ i < (numSlots p).toNat ∧ (entryAt p headerEnd i).isEmpty = false := by
  rw [Live, Bool.eq_false_iff, ne_eq, SlotEntry.isEmpty_iff]
  omega

theorem tupleAt_of_isEmpty {headerEnd : Nat} {p : PageData} {i : Nat}
    (empty : (entryAt p headerEnd i).isEmpty = true) : tupleAt headerEnd p i = none := by
  simp [tupleAt, empty]

section Layout

variable {headerEnd : Nat} {p : PageData}

theorem Layout.tuplesFit (layout : Layout headerEnd p) (skip : Nat) :
    TuplesFit headerEnd p skip :=
  ⟨fun i _ live => layout.inside i live, fun i j _ _ other liveI liveJ =>
    layout.apart i j other liveI liveJ⟩

theorem Layout.slotArrayBase (layout : Layout headerEnd p) : slotArrayBase p = headerEnd := by
  rw [SlottedPage.slotArrayBase, layout.start_eq]
  omega

theorem Layout.array_le (layout : Layout headerEnd p) :
    headerEnd + (numSlots p).toNat * slotSize ≤ pageSize := by
  have := layout.start_le_end
  have := layout.end_le
  rw [layout.start_eq] at *
  omega

theorem Layout.slot_fits (layout : Layout headerEnd p) {i : Nat} (counted : i < (numSlots p).toNat) :
    headerEnd + i * slotSize + slotSize ≤ (freeSpaceStart p).toNat := by
  rw [layout.start_eq]
  unfold slotSize
  omega

theorem Layout.getSlot (layout : Layout headerEnd p) {slotId : SlotId}
    (counted : slotId.val.toNat < (numSlots p).toNat) :
    getSlot p slotId = some (some (entryAt p headerEnd slotId.val.toNat)) := by
  have fits := layout.slot_fits counted
  have := layout.start_le_end
  have := layout.end_le
  rw [getSlot_of_lt p counted (by rw [layout.slotArrayBase]; omega), layout.slotArrayBase]

theorem Layout.setSlot (layout : Layout headerEnd p) {slotId : SlotId}
    (counted : slotId.val.toNat < (numSlots p).toNat) (entry : SlotEntry) :
    setSlot p slotId entry = some (writeSlot p headerEnd slotId.val.toNat entry) := by
  have fits := layout.slot_fits counted
  have := layout.start_le_end
  have := layout.end_le
  rw [setSlot_of_fits p slotId entry (by rw [layout.slotArrayBase]; omega), layout.slotArrayBase]

theorem Layout.getTuple (layout : Layout headerEnd p) {slotId : SlotId}
    (counted : slotId.val.toNat < (numSlots p).toNat) :
    getTuple p slotId = some (match tupleAt headerEnd p slotId.val.toNat with
      | some tuple => .ok tuple
      | none => .error (.emptySlot slotId.val)) := by
  rw [SlottedPage.getTuple, layout.getSlot counted]
  cases empty : (entryAt p headerEnd slotId.val.toNat).isEmpty with
  | true => simp [tupleAt, empty]
  | false =>
    have live : Live headerEnd p slotId.val.toNat := (live_iff _ _ _).mpr ⟨counted, empty⟩
    have fits := (layout.inside _ live).2
    simp [tupleAt, empty, slice_eq_bytesAt p fits]

end Layout

theorem numSlots_init (pageId : PageId) : numSlots (init pageId) = 0 := by
  simp [init]

theorem freeSpaceStart_init (pageId : PageId) :
    freeSpaceStart (init pageId) = headerSize.toUInt16 := by
  simp [init]

theorem freeSpaceEnd_init (pageId : PageId) : freeSpaceEnd (init pageId) = pageSize.toUInt16 := by
  simp [init]

theorem layout_of_empty {headerEnd : Nat} {p : PageData} (header : headerSize ≤ headerEnd)
    (noSlots : numSlots p = 0) (start : (freeSpaceStart p).toNat = headerEnd)
    (stop : (freeSpaceEnd p).toNat = pageSize) (small : headerEnd ≤ pageSize) :
    Layout headerEnd p where
  header_le := header
  start_eq := by simp [noSlots, start]
  start_le_end := by omega
  end_le := by omega
  inside i live := by simp [Live, noSlots] at live
  apart i _ _ live := by simp [Live, noSlots] at live
  noSlots_end _ := stop

theorem layout_init (pageId : PageId) : Layout headerSize (init pageId) :=
  layout_of_empty (Nat.le_refl _) (numSlots_init pageId)
    (by rw [freeSpaceStart_init]; decide) (by rw [freeSpaceEnd_init]; decide) (by decide)

theorem layout_tablePageInit (pageId : PageId) (tableId : UInt32) :
    Layout TablePage.tableHeaderSize (TablePage.init pageId tableId) := by
  have unfolded : TablePage.init pageId tableId =
      overwrite (overwrite (overwrite (overwrite
        (setFreeSpaceStart (init pageId) TablePage.tableHeaderSize.toUInt16)
        TablePage.nextPageIdOffset (leBytes 4 TablePage.invalidPage.toNat))
        TablePage.prevPageIdOffset (leBytes 4 TablePage.invalidPage.toNat))
        TablePage.lsnOffset (leBytes 8 invalidLsn.toNat))
        TablePage.tableIdOffset (leBytes 4 tableId.toNat) := rfl
  have past : ∀ off ∈ [TablePage.nextPageIdOffset, TablePage.prevPageIdOffset,
      TablePage.lsnOffset, TablePage.tableIdOffset], headerSize ≤ off := by decide
  apply layout_of_empty (by decide)
  · rw [unfolded, numSlots_overwrite _ _ (past _ (by simp)), numSlots_overwrite _ _ (past _ (by simp)),
      numSlots_overwrite _ _ (past _ (by simp)), numSlots_overwrite _ _ (past _ (by simp)),
      numSlots_setFreeSpaceStart, numSlots_init]
  · rw [unfolded, freeSpaceStart_overwrite _ _ (past _ (by simp)),
      freeSpaceStart_overwrite _ _ (past _ (by simp)), freeSpaceStart_overwrite _ _ (past _ (by simp)),
      freeSpaceStart_overwrite _ _ (past _ (by simp)), freeSpaceStart_setFreeSpaceStart]
    decide
  · rw [unfolded, freeSpaceEnd_overwrite _ _ (past _ (by simp)),
      freeSpaceEnd_overwrite _ _ (past _ (by simp)), freeSpaceEnd_overwrite _ _ (past _ (by simp)),
      freeSpaceEnd_overwrite _ _ (past _ (by simp)), freeSpaceEnd_setFreeSpaceStart,
      freeSpaceEnd_init]
    decide
  · decide

end SlottedPage

end Crio
