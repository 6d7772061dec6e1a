import Crio.Storage.Page.SlottedPageLayout

/-!
The tuple operations of `SlottedPage` on a page with the layout: the writes each makes, the
layout it keeps, and what `get_tuple` reads afterwards.
-/

namespace Crio

namespace SlottedPage

open ByteBuffer Intervals

section Counts

variable {headerEnd : Nat} {p : PageData}

theorem Layout.numSlots_lt (layout : Layout headerEnd p) : (numSlots p).toNat + 1 < 2 ^ 16 := by
  have := layout.array_le
  have := layout.header_le
  unfold slotSize pageSize headerSize at *
  omega

theorem Layout.toNat_slot (layout : Layout headerEnd p) {i : Nat}
    (counted : i < (numSlots p).toNat) : i.toUInt16.toNat = i :=
  toNat_toUInt16 (by have := layout.numSlots_lt; omega)

theorem Layout.getSlot_index (layout : Layout headerEnd p) {i : Nat}
    (counted : i < (numSlots p).toNat) :
    SlottedPage.getSlot p ⟨i.toUInt16⟩ = some (some (entryAt p headerEnd i)) := by
  have small := layout.toNat_slot counted
  have inRange : (SlotId.mk i.toUInt16).val.toNat < (numSlots p).toNat := by
    simpa only [small] using counted
  rw [layout.getSlot inRange]
  simp only [small]

theorem Layout.getTuple_index (layout : Layout headerEnd p) {i : Nat}
    (counted : i < (numSlots p).toNat) :
    SlottedPage.getTuple p ⟨i.toUInt16⟩ = some (match tupleAt headerEnd p i with
      | some tuple => .ok tuple
      | none => .error (.emptySlot i.toUInt16)) := by
  have small := layout.toNat_slot counted
  have inRange : (SlotId.mk i.toUInt16).val.toNat < (numSlots p).toNat := by
    simpa only [small] using counted
  rw [layout.getTuple inRange]
  -- the match of `Layout.getTuple` is its module's own matcher: restate it with this one
  show some (match tupleAt headerEnd p i.toUInt16.toNat with
    | some tuple => Except.ok tuple
    | none => Except.error (CrioError.emptySlot i.toUInt16)) = _
  rw [small]

end Counts

def firstEmptySlot (headerEnd : Nat) (p : PageData) : Option Nat :=
  (List.range (numSlots p).toNat).find? fun i => (entryAt p headerEnd i).isEmpty

section Find

variable {headerEnd : Nat} {p : PageData}

theorem Layout.findEmptySlot (layout : Layout headerEnd p) :
    ∀ ids : List Nat, (∀ i ∈ ids, i < (numSlots p).toNat) →
      SlottedPage.findEmptySlot p (ids.map Nat.toUInt16) =
        some ((ids.find? fun i => (entryAt p headerEnd i).isEmpty).map fun i => ⟨i.toUInt16⟩)
  | [], _ => rfl
  | i :: rest, counted => by
    have read := layout.getSlot_index (counted i List.mem_cons_self)
    cases empty : (entryAt p headerEnd i).isEmpty with
    | true => simp [SlottedPage.findEmptySlot, read, empty]
    | false =>
      have later := layout.findEmptySlot rest fun j member =>
        counted j (List.mem_cons_of_mem i member)
      simp [SlottedPage.findEmptySlot, read, empty, later]

theorem Layout.findOrCreateSlot (layout : Layout headerEnd p) :
    SlottedPage.findOrCreateSlot p = some (match firstEmptySlot headerEnd p with
      | some i => ((⟨i.toUInt16⟩, false), p)
      | none => ((⟨numSlots p⟩, true), setNumSlots p (numSlots p + 1))) := by
  have search := layout.findEmptySlot (List.range (numSlots p).toNat) fun i member =>
    List.mem_range.mp member
  unfold SlottedPage.findOrCreateSlot slotRange firstEmptySlot
  dsimp only
  rw [search]
  cases (List.range (numSlots p).toNat).find? fun i => (entryAt p headerEnd i).isEmpty with
  | none => rfl
  | some i => rfl

theorem firstEmptySlot_lt {i : Nat} (found : firstEmptySlot headerEnd p = some i) :
    i < (numSlots p).toNat := by
  unfold firstEmptySlot at found
  exact List.mem_range.mp (List.mem_of_find?_eq_some found)

end Find

def tupleOffset (q : PageData) (tuple : List UInt8) : UInt16 :=
  freeSpaceEnd q - tuple.length.toUInt16

def placed (q : PageData) (base : Nat) (slotId : SlotId) (tuple : List UInt8) : PageData :=
  setFreeSpaceEnd
    (writeSlot (overwrite q (tupleOffset q tuple).toNat tuple) base slotId.val.toNat
      ⟨tupleOffset q tuple, tuple.length.toUInt16⟩)
    (tupleOffset q tuple)

structure PlaceFits (q : PageData) (base : Nat) (slotId : SlotId) (tuple : List UInt8) :
    Prop where
  header_le : headerSize ≤ base
  room : base + slotId.val.toNat * slotSize + slotSize + tuple.length ≤ (freeSpaceEnd q).toNat
  end_le : (freeSpaceEnd q).toNat ≤ pageSize

section Placed

variable {q : PageData} {base : Nat} {slotId : SlotId} {tuple : List UInt8}

theorem PlaceFits.offset_toNat (fits : PlaceFits q base slotId tuple) :
    (tupleOffset q tuple).toNat = (freeSpaceEnd q).toNat - tuple.length :=
  toNat_sub_toUInt16 (by have := fits.room; omega)

theorem PlaceFits.length_toNat (fits : PlaceFits q base slotId tuple) :
    tuple.length.toUInt16.toNat = tuple.length :=
  toNat_toUInt16 (by have := fits.room; have := fits.end_le; unfold pageSize at *; omega)

theorem PlaceFits.past_slot (fits : PlaceFits q base slotId tuple) :
    base + slotId.val.toNat * slotSize + slotSize ≤ (tupleOffset q tuple).toNat := by
  rw [fits.offset_toNat]
  have := fits.room
  omega

theorem PlaceFits.past_header (fits : PlaceFits q base slotId tuple) :
    headerSize ≤ (tupleOffset q tuple).toNat := by
  have := fits.past_slot
  have := fits.header_le
  omega

theorem PlaceFits.copy_fits (fits : PlaceFits q base slotId tuple) :
    (tupleOffset q tuple).toNat + tuple.length ≤ pageSize := by
  rw [fits.offset_toNat]
  have := fits.room
  have := fits.end_le
  omega

theorem placeTuple_of_fits (arrayAt : slotArrayBase q = base)
    (fits : PlaceFits q base slotId tuple) :
    placeTuple q slotId tuple = some (placed q base slotId tuple) := by
  have arrayKept : slotArrayBase (overwrite q (tupleOffset q tuple).toNat tuple) = base := by
    rw [SlottedPage.slotArrayBase, numSlots_overwrite _ _ fits.past_header,
      freeSpaceStart_overwrite _ _ fits.past_header, ← SlottedPage.slotArrayBase, arrayAt]
  have slotFits : slotArrayBase (overwrite q (tupleOffset q tuple).toNat tuple) +
      slotId.val.toNat * slotSize + slotSize ≤ pageSize := by
    have := fits.past_slot
    have := fits.copy_fits
    omega
  simp only [placeTuple]
  rw [show freeSpaceEnd q - tuple.length.toUInt16 = tupleOffset q tuple from rfl,
    copyFrom_of_le q fits.copy_fits, Option.bind_eq_bind, Option.bind_some,
    setSlot_of_fits _ _ _ slotFits, Option.bind_some, arrayKept]
  rfl

theorem numSlots_placed (fits : PlaceFits q base slotId tuple) :
    numSlots (placed q base slotId tuple) = numSlots q := by
  rw [placed, numSlots_setFreeSpaceEnd, numSlots_writeSlot _ _ _ fits.header_le,
    numSlots_overwrite _ _ fits.past_header]

theorem freeSpaceStart_placed (fits : PlaceFits q base slotId tuple) :
    freeSpaceStart (placed q base slotId tuple) = freeSpaceStart q := by
  rw [placed, freeSpaceStart_setFreeSpaceEnd, freeSpaceStart_writeSlot _ _ _ fits.header_le,
    freeSpaceStart_overwrite _ _ fits.past_header]

theorem freeSpaceEnd_placed (fits : PlaceFits q base slotId tuple) :
    (freeSpaceEnd (placed q base slotId tuple)).toNat = (freeSpaceEnd q).toNat - tuple.length := by
  rw [placed, freeSpaceEnd_setFreeSpaceEnd, fits.offset_toNat]

theorem entryAt_placed_same (fits : PlaceFits q base slotId tuple) :
    entryAt (placed q base slotId tuple) base slotId.val.toNat =
      ⟨tupleOffset q tuple, tuple.length.toUInt16⟩ := by
  have := fits.past_slot
  have := fits.copy_fits
  rw [placed, entryAt_setFreeSpaceEnd _ fits.header_le, entryAt_writeSlot_same _ _ (by omega)]

theorem entryAt_placed_other (fits : PlaceFits q base slotId tuple) {j : Nat}
    (other : j ≠ slotId.val.toNat)
    (below : base + j * slotSize + slotSize ≤ (tupleOffset q tuple).toNat) :
    entryAt (placed q base slotId tuple) base j = entryAt q base j := by
  rw [placed, entryAt_setFreeSpaceEnd _ fits.header_le, entryAt_writeSlot_other _ _ other,
    entryAt_overwrite _ (Or.inl below)]

theorem bytesAt_placed_same (fits : PlaceFits q base slotId tuple) :
    bytesAt (placed q base slotId tuple) (tupleOffset q tuple).toNat tuple.length = tuple := by
  have pastHeader := fits.past_header
  unfold headerSize at pastHeader
  rw [placed, setFreeSpaceEnd, setU32,
    bytesAt_overwrite_disjoint _ (by simp only [length_leBytes, freeSpaceEndOffset]; omega),
    bytesAt_writeSlot _ _ _ (Or.inr fits.past_slot), bytesAt_overwrite_same _ fits.copy_fits]

theorem bytesAt_placed_of_le (fits : PlaceFits q base slotId tuple) {off len : Nat}
    (above : (freeSpaceEnd q).toNat ≤ off) :
    bytesAt (placed q base slotId tuple) off len = bytesAt q off len := by
  have pastSlot := fits.past_slot
  have pastHeader := fits.past_header
  have offset := fits.offset_toNat
  unfold headerSize at pastHeader
  rw [placed, setFreeSpaceEnd, setU32,
    bytesAt_overwrite_disjoint _ (by simp only [length_leBytes, freeSpaceEndOffset]; omega),
    bytesAt_writeSlot _ _ _ (Or.inr (by omega)), bytesAt_overwrite_disjoint _ (Or.inr (by omega))]

theorem headerKept_placed (fits : PlaceFits q base slotId tuple) {headerEnd : Nat}
    (past : headerEnd ≤ base) : HeaderKept headerEnd q (placed q base slotId tuple) := by
  have := fits.past_slot
  exact (headerKept_overwrite q tuple (by omega)).trans
    ((headerKept_writeSlot _ _ _ past).trans (headerKept_setFreeSpaceEnd _ _))

end Placed

section PlacedLayout

variable {headerEnd : Nat} {q : PageData} {slotId : SlotId} {tuple : List UInt8}

theorem PlaceFits.of_room (header : headerSize ≤ headerEnd)
    (start : (freeSpaceStart q).toNat = headerEnd + (numSlots q).toNat * slotSize)
    (room : (freeSpaceStart q).toNat + tuple.length ≤ (freeSpaceEnd q).toNat)
    (endFits : (freeSpaceEnd q).toNat ≤ pageSize)
    (counted : slotId.val.toNat < (numSlots q).toNat) : PlaceFits q headerEnd slotId tuple where
  header_le := header
  room := by
    rw [start] at room
    unfold slotSize at *
    omega
  end_le := endFits

theorem layout_placed (header : headerSize ≤ headerEnd)
    (start : (freeSpaceStart q).toNat = headerEnd + (numSlots q).toNat * slotSize)
    (room : (freeSpaceStart q).toNat + tuple.length ≤ (freeSpaceEnd q).toNat)
    (endFits : (freeSpaceEnd q).toNat ≤ pageSize)
    (counted : slotId.val.toNat < (numSlots q).toNat)
    (fit : TuplesFit headerEnd q slotId.val.toNat) :
    Layout headerEnd (placed q headerEnd slotId tuple) := by
  have fits := PlaceFits.of_room header start room endFits counted
  have offset := fits.offset_toNat
  have length := fits.length_toNat
  have slotsKept : numSlots (placed q headerEnd slotId tuple) = numSlots q := numSlots_placed fits
  have newEnd := freeSpaceEnd_placed fits
  have kept : ∀ j, j < (numSlots q).toNat → j ≠ slotId.val.toNat →
      entryAt (placed q headerEnd slotId tuple) headerEnd j = entryAt q headerEnd j := by
    intro j below other
    apply entryAt_placed_other fits other
    rw [offset]
    rw [start] at room
    unfold slotSize at *
    omega
  have liveKept : ∀ j, j ≠ slotId.val.toNat → Live headerEnd (placed q headerEnd slotId tuple) j →
      Live headerEnd q j ∧
        entryAt (placed q headerEnd slotId tuple) headerEnd j = entryAt q headerEnd j := by
    intro j other live
    rw [Live, slotsKept] at live
    rw [Live, ← kept j live.1 other]
    exact ⟨live, rfl⟩
  have newEntry := entryAt_placed_same fits
  refine ⟨header, ?_, ?_, ?_, ?_, ?_, ?_⟩
  · rw [freeSpaceStart_placed fits, slotsKept]
    exact start
  · rw [freeSpaceStart_placed fits, newEnd]
    omega
  · rw [newEnd]
    omega
  · intro i live
    by_cases same : i = slotId.val.toNat
    · subst same
      rw [InDataArea, newEntry, newEnd]
      simp only [offset, length]
      omega
    · obtain ⟨liveBefore, entryEq⟩ := liveKept i same live
      have before := fit.inside i same liveBefore
      rw [InDataArea, entryEq, newEnd]
      unfold InDataArea at before
      omega
  · intro i j other liveI liveJ
    by_cases sameI : i = slotId.val.toNat
    · subst sameI
      have otherJ : j ≠ slotId.val.toNat := fun same => other same.symm
      obtain ⟨liveBefore, entryEq⟩ := liveKept j otherJ liveJ
      have before := fit.inside j otherJ liveBefore
      unfold InDataArea at before
      rw [TuplesApart, newEntry, entryEq]
      left
      simp only [offset, length]
      omega
    · by_cases sameJ : j = slotId.val.toNat
      · subst sameJ
        obtain ⟨liveBefore, entryEq⟩ := liveKept i sameI liveI
        have before := fit.inside i sameI liveBefore
        unfold InDataArea at before
        rw [TuplesApart, newEntry, entryEq]
        right
        simp only [offset, length]
        omega
      · obtain ⟨liveBeforeI, entryEqI⟩ := liveKept i sameI liveI
        obtain ⟨liveBeforeJ, entryEqJ⟩ := liveKept j sameJ liveJ
        rw [TuplesApart, entryEqI, entryEqJ]
        exact fit.apart i j sameI sameJ other liveBeforeI liveBeforeJ
  · intro noSlots
    rw [slotsKept] at noSlots
    rw [noSlots] at counted
    exact absurd counted (Nat.not_lt_zero _)

theorem tupleAt_placed_same (fits : PlaceFits q headerEnd slotId tuple) (nonempty : tuple ≠ []) :
    tupleAt headerEnd (placed q headerEnd slotId tuple) slotId.val.toNat = some tuple := by
  have positive : 0 < tuple.length := List.length_pos_iff.mpr nonempty
  have notEmpty : (SlotEntry.mk (tupleOffset q tuple) tuple.length.toUInt16).isEmpty = false := by
    rw [Bool.eq_false_iff, ne_eq, SlotEntry.isEmpty_iff, fits.length_toNat]
    omega
  rw [tupleAt, entryAt_placed_same fits, if_neg (by rw [notEmpty]; decide)]
  simp only [fits.length_toNat, bytesAt_placed_same fits]

theorem tupleAt_placed_other (header : headerSize ≤ headerEnd)
    (start : (freeSpaceStart q).toNat = headerEnd + (numSlots q).toNat * slotSize)
    (room : (freeSpaceStart q).toNat + tuple.length ≤ (freeSpaceEnd q).toNat)
    (endFits : (freeSpaceEnd q).toNat ≤ pageSize)
    (counted : slotId.val.toNat < (numSlots q).toNat)
    (fit : TuplesFit headerEnd q slotId.val.toNat) {j : Nat} (other : j ≠ slotId.val.toNat)
    (countedJ : j < (numSlots q).toNat) :
    tupleAt headerEnd (placed q headerEnd slotId tuple) j = tupleAt headerEnd q j := by
  have fits := PlaceFits.of_room header start room endFits counted
  have entryEq : entryAt (placed q headerEnd slotId tuple) headerEnd j = entryAt q headerEnd j := by
    apply entryAt_placed_other fits other
    rw [fits.offset_toNat]
    rw [start] at room
    unfold slotSize at *
    omega
  unfold tupleAt
  rw [entryEq]
  cases empty : (entryAt q headerEnd j).isEmpty with
  | true => rfl
  | false =>
    have live : Live headerEnd q j := (live_iff _ _ _).mpr ⟨countedJ, empty⟩
    have inData := fit.inside j other live
    simp only [Bool.false_eq_true, if_false, bytesAt_placed_of_le fits inData.1]

end PlacedLayout

def addSlot (p : PageData) : PageData :=
  setFreeSpaceStart (setNumSlots p (numSlots p + 1)) (freeSpaceStart p + slotSize.toUInt16)

section AddSlot

variable {headerEnd : Nat} {p : PageData}

theorem Layout.numSlots_addSlot (layout : Layout headerEnd p) :
    (numSlots (addSlot p)).toNat = (numSlots p).toNat + 1 := by
  have small := layout.numSlots_lt
  rw [addSlot, numSlots_setFreeSpaceStart, numSlots_setNumSlots, UInt16.toNat_add]
  simp only [UInt16.toNat_one]
  omega

theorem Layout.freeSpaceStart_addSlot (layout : Layout headerEnd p) :
    (freeSpaceStart (addSlot p)).toNat = (freeSpaceStart p).toNat + slotSize := by
  have := layout.start_le_end
  have := layout.end_le
  rw [addSlot, freeSpaceStart_setFreeSpaceStart, toNat_add_toUInt16]
  unfold slotSize pageSize at *
  omega

theorem freeSpaceEnd_addSlot (p : PageData) : freeSpaceEnd (addSlot p) = freeSpaceEnd p := by
  rw [addSlot, freeSpaceEnd_setFreeSpaceStart, freeSpaceEnd_setNumSlots]

theorem entryAt_addSlot (header : headerSize ≤ headerEnd) (i : Nat) :
    entryAt (addSlot p) headerEnd i = entryAt p headerEnd i := by
  rw [addSlot, entryAt_setFreeSpaceStart _ header, entryAt_setNumSlots _ header]

theorem headerKept_addSlot (p : PageData) : HeaderKept headerEnd p (addSlot p) :=
  (headerKept_setNumSlots p _).trans (headerKept_setFreeSpaceStart _ _)

theorem Layout.addSlot_start (layout : Layout headerEnd p) :
    (freeSpaceStart (addSlot p)).toNat = headerEnd + (numSlots (addSlot p)).toNat * slotSize := by
  rw [layout.freeSpaceStart_addSlot, layout.numSlots_addSlot, layout.start_eq]
  unfold slotSize
  omega

theorem Layout.tuplesFit_addSlot (layout : Layout headerEnd p) :
    TuplesFit headerEnd (addSlot p) (numSlots p).toNat := by
  have liveBefore : ∀ i, i ≠ (numSlots p).toNat → Live headerEnd (addSlot p) i →
      Live headerEnd p i := by
    intro i other live
    rw [Live, layout.numSlots_addSlot, entryAt_addSlot layout.header_le] at live
    exact ⟨by omega, live.2⟩
  constructor
  · intro i other live
    have := layout.inside i (liveBefore i other live)
    rw [InDataArea, freeSpaceEnd_addSlot, entryAt_addSlot layout.header_le]
    exact this
  · intro i j otherI otherJ other liveI liveJ
    rw [TuplesApart, entryAt_addSlot layout.header_le, entryAt_addSlot layout.header_le]
    exact layout.apart i j other (liveBefore i otherI liveI) (liveBefore j otherJ liveJ)

end AddSlot

section Insert

variable {headerEnd : Nat} {p : PageData} {tuple : List UInt8}

theorem insertTuple_overflow (short : freeSpace p < tuple.length + slotSize) :
    insertTuple p tuple =
      some (.error (.pageOverflow tuple.length (freeSpace p - slotSize)), p) := by
  have refused : canInsert p tuple.length = false := by
    simp only [canInsert, decide_eq_false_iff_not]
    omega
  simp [SlottedPage.insertTuple, refused]

theorem Layout.room_of_freeSpace (layout : Layout headerEnd p)
    (room : tuple.length + slotSize ≤ freeSpace p) :
    (freeSpaceStart p).toNat + slotSize + tuple.length ≤ (freeSpaceEnd p).toNat := by
  unfold freeSpace at room
  have := layout.start_le_end
  omega

theorem Layout.insertTuple_reuse (layout : Layout headerEnd p)
    (room : tuple.length + slotSize ≤ freeSpace p) {i : Nat}
    (found : firstEmptySlot headerEnd p = some i) :
    SlottedPage.insertTuple p tuple =
      some (.ok ⟨i.toUInt16⟩, placed p headerEnd ⟨i.toUInt16⟩ tuple) := by
  have accepted : canInsert p tuple.length = true := by
    simp only [canInsert, decide_eq_true_eq]
    omega
  have counted : (SlotId.mk i.toUInt16).val.toNat < (numSlots p).toNat := by
    show i.toUInt16.toNat < _
    rw [layout.toNat_slot (firstEmptySlot_lt found)]
    exact firstEmptySlot_lt found
  have fits : PlaceFits p headerEnd ⟨i.toUInt16⟩ tuple :=
    PlaceFits.of_room layout.header_le layout.start_eq
      (by have := layout.room_of_freeSpace room; omega) layout.end_le counted
  simp only [SlottedPage.insertTuple, accepted, Bool.not_true, Bool.false_eq_true, if_false,
    layout.findOrCreateSlot, found, Option.bind_eq_bind, Option.bind_some,
    placeTuple_of_fits layout.slotArrayBase fits]
  rfl

theorem Layout.insertTuple_new (layout : Layout headerEnd p)
    (room : tuple.length + slotSize ≤ freeSpace p) (full : firstEmptySlot headerEnd p = none) :
    SlottedPage.insertTuple p tuple =
      some (.ok ⟨numSlots p⟩, placed (addSlot p) headerEnd ⟨numSlots p⟩ tuple) := by
  have accepted : canInsert p tuple.length = true := by
    simp only [canInsert, decide_eq_true_eq]
    omega
  have arrayAt : SlottedPage.slotArrayBase (addSlot p) = headerEnd := by
    rw [SlottedPage.slotArrayBase, layout.addSlot_start]
    omega
  have fits : PlaceFits (addSlot p) headerEnd ⟨numSlots p⟩ tuple := by
    apply PlaceFits.of_room layout.header_le layout.addSlot_start
    · rw [layout.freeSpaceStart_addSlot, freeSpaceEnd_addSlot]
      have := layout.room_of_freeSpace room
      omega
    · rw [freeSpaceEnd_addSlot]
      exact layout.end_le
    · show (numSlots p).toNat < _
      rw [layout.numSlots_addSlot]
      omega
  simp only [SlottedPage.insertTuple, accepted, Bool.not_true, Bool.false_eq_true, if_false,
    layout.findOrCreateSlot, full, Option.bind_eq_bind, Option.bind_some, if_true,
    freeSpaceStart_setNumSlots]
  rw [show setFreeSpaceStart (setNumSlots p (numSlots p + 1)) (freeSpaceStart p + slotSize.toUInt16) =
      addSlot p from rfl, placeTuple_of_fits arrayAt fits]
  rfl

theorem Layout.insertTuple_step (layout : Layout headerEnd p) (tuple : List UInt8) :
    ∃ result p', SlottedPage.insertTuple p tuple = some (result, p') ∧ Layout headerEnd p' ∧
      HeaderKept headerEnd p p' := by
  by_cases room : tuple.length + slotSize ≤ freeSpace p
  · have start := layout.room_of_freeSpace room
    cases found : firstEmptySlot headerEnd p with
    | some i =>
      have counted := firstEmptySlot_lt found
      have countedId : (SlotId.mk i.toUInt16).val.toNat < (numSlots p).toNat := by
        show i.toUInt16.toNat < _
        rw [layout.toNat_slot counted]
        exact counted
      refine ⟨_, _, layout.insertTuple_reuse room found, ?_, ?_⟩
      · exact layout_placed layout.header_le layout.start_eq (by omega) layout.end_le countedId
          (layout.tuplesFit _)
      · exact headerKept_placed (PlaceFits.of_room layout.header_le layout.start_eq (by omega)
          layout.end_le countedId) (Nat.le_refl _)
    | none =>
      have countedId : (SlotId.mk (numSlots p)).val.toNat < (numSlots (addSlot p)).toNat := by
        show (numSlots p).toNat < _
        rw [layout.numSlots_addSlot]
        omega
      have roomAfter : (freeSpaceStart (addSlot p)).toNat + tuple.length ≤
          (freeSpaceEnd (addSlot p)).toNat := by
        rw [layout.freeSpaceStart_addSlot, freeSpaceEnd_addSlot]
        omega
      have endFits : (freeSpaceEnd (addSlot p)).toNat ≤ pageSize := by
        rw [freeSpaceEnd_addSlot]
        exact layout.end_le
      refine ⟨_, _, layout.insertTuple_new room found, ?_, ?_⟩
      · exact layout_placed layout.header_le layout.addSlot_start roomAfter endFits countedId
          layout.tuplesFit_addSlot
      · exact (headerKept_addSlot p).trans (headerKept_placed (PlaceFits.of_room
          layout.header_le layout.addSlot_start roomAfter endFits countedId) (Nat.le_refl _))
  · exact ⟨_, _, insertTuple_overflow (by omega), layout, HeaderKept.refl p⟩

end Insert

section Delete

variable {headerEnd : Nat} {p : PageData}

theorem deleteTuple_of_ge {slotId : SlotId} (past : (numSlots p).toNat ≤ slotId.val.toNat) :
    deleteTuple p slotId = some (.error (.invalidSlotId slotId.val), p) := by
  simp [SlottedPage.deleteTuple, getSlot_of_ge p past]

theorem Layout.deleteTuple (layout : Layout headerEnd p) {slotId : SlotId}
    (counted : slotId.val.toNat < (numSlots p).toNat) :
    SlottedPage.deleteTuple p slotId =
      some (.ok (), writeSlot p headerEnd slotId.val.toNat SlotEntry.empty) := by
  simp [SlottedPage.deleteTuple, layout.getSlot counted, layout.setSlot counted]

theorem Layout.writeSlot_empty (layout : Layout headerEnd p) {i : Nat}
    (counted : i < (numSlots p).toNat) : Layout headerEnd (writeSlot p headerEnd i SlotEntry.empty) := by
  have header := layout.header_le
  have fits := layout.slot_fits counted
  have := layout.start_le_end
  have := layout.end_le
  have cleared : entryAt (writeSlot p headerEnd i SlotEntry.empty) headerEnd i = SlotEntry.empty :=
    entryAt_writeSlot_same _ _ (by omega)
  have liveBefore : ∀ j, Live headerEnd (writeSlot p headerEnd i SlotEntry.empty) j →
      j ≠ i ∧ Live headerEnd p j := by
    intro j live
    by_cases same : j = i
    · subst same
      rw [Live, cleared] at live
      exact absurd live.2 (by decide)
    · rw [Live, numSlots_writeSlot _ _ _ header, entryAt_writeSlot_other _ _ same] at live
      exact ⟨same, live⟩
  refine ⟨header, ?_, ?_, ?_, ?_, ?_, ?_⟩
  · rw [freeSpaceStart_writeSlot _ _ _ header, numSlots_writeSlot _ _ _ header]
    exact layout.start_eq
  · rw [freeSpaceStart_writeSlot _ _ _ header, freeSpaceEnd_writeSlot _ _ _ header]
    omega
  · rw [freeSpaceEnd_writeSlot _ _ _ header]
    omega
  · intro j live
    obtain ⟨other, liveP⟩ := liveBefore j live
    rw [InDataArea, freeSpaceEnd_writeSlot _ _ _ header, entryAt_writeSlot_other _ _ other]
    exact layout.inside j liveP
  · intro j k different liveJ liveK
    obtain ⟨otherJ, liveJ'⟩ := liveBefore j liveJ
    obtain ⟨otherK, liveK'⟩ := liveBefore k liveK
    rw [TuplesApart, entryAt_writeSlot_other _ _ otherJ, entryAt_writeSlot_other _ _ otherK]
    exact layout.apart j k different liveJ' liveK'
  · intro noSlots
    rw [numSlots_writeSlot _ _ _ header] at noSlots
    rw [noSlots] at counted
    exact absurd counted (Nat.not_lt_zero _)

theorem tupleAt_writeSlot_empty_same (p : PageData) {i : Nat}
    (fits : headerEnd + i * slotSize + slotSize ≤ pageSize) :
    tupleAt headerEnd (writeSlot p headerEnd i SlotEntry.empty) i = none := by
  rw [tupleAt, entryAt_writeSlot_same _ _ fits]
  rfl

theorem Layout.tupleAt_writeSlot_other (layout : Layout headerEnd p) {i j : Nat}
    (entry : SlotEntry) (counted : i < (numSlots p).toNat) (other : j ≠ i)
    (countedJ : j < (numSlots p).toNat) :
    tupleAt headerEnd (writeSlot p headerEnd i entry) j = tupleAt headerEnd p j := by
  have fits := layout.slot_fits counted
  unfold tupleAt
  rw [entryAt_writeSlot_other _ _ other]
  cases empty : (entryAt p headerEnd j).isEmpty with
  | true => rfl
  | false =>
    have inData := layout.inside j ((live_iff _ _ _).mpr ⟨countedJ, empty⟩)
    have := layout.start_le_end
    unfold InDataArea at inData
    have apart : headerEnd + i * slotSize + slotSize ≤ (entryAt p headerEnd j).offset.toNat := by
      omega
    simp only [Bool.false_eq_true, if_false, bytesAt_writeSlot p i entry (Or.inr apart)]

theorem Layout.deleteTuple_step (layout : Layout headerEnd p) (slotId : SlotId) :
    ∃ result p', SlottedPage.deleteTuple p slotId = some (result, p') ∧ Layout headerEnd p' ∧
      HeaderKept headerEnd p p' := by
  by_cases counted : slotId.val.toNat < (numSlots p).toNat
  · exact ⟨_, _, layout.deleteTuple counted, layout.writeSlot_empty counted,
      headerKept_writeSlot _ _ _ (Nat.le_refl _)⟩
  · exact ⟨_, _, deleteTuple_of_ge (by omega), layout, HeaderKept.refl p⟩

end Delete

def updated (p : PageData) (base : Nat) (slotId : SlotId) (newData : List UInt8) : PageData :=
  if newData.length < (entryAt p base slotId.val.toNat).length.toNat then
    writeSlot (overwrite p (entryAt p base slotId.val.toNat).offset.toNat newData) base
      slotId.val.toNat ⟨(entryAt p base slotId.val.toNat).offset, newData.length.toUInt16⟩
  else overwrite p (entryAt p base slotId.val.toNat).offset.toNat newData

section Update

variable {headerEnd : Nat} {p : PageData} {slotId : SlotId} {newData : List UInt8}

theorem updateTuple_of_ge (past : (numSlots p).toNat ≤ slotId.val.toNat) :
    updateTuple p slotId newData = some (.error (.invalidSlotId slotId.val), p) := by
  simp [SlottedPage.updateTuple, getSlot_of_ge p past]

theorem Layout.updateTuple_empty (layout : Layout headerEnd p)
    (counted : slotId.val.toNat < (numSlots p).toNat)
    (empty : (entryAt p headerEnd slotId.val.toNat).isEmpty = true) :
    SlottedPage.updateTuple p slotId newData = some (.error (.emptySlot slotId.val), p) := by
  simp [SlottedPage.updateTuple, layout.getSlot counted, empty]

theorem Layout.updateTuple_too_long (layout : Layout headerEnd p)
    (counted : slotId.val.toNat < (numSlots p).toNat)
    (live : (entryAt p headerEnd slotId.val.toNat).isEmpty = false)
    (long : (entryAt p headerEnd slotId.val.toNat).length.toNat < newData.length) :
    SlottedPage.updateTuple p slotId newData = some (.error
      (.pageOverflow newData.length (entryAt p headerEnd slotId.val.toNat).length.toNat), p) := by
  simp [SlottedPage.updateTuple, layout.getSlot counted, live, long]

theorem Layout.update_bounds (layout : Layout headerEnd p)
    (counted : slotId.val.toNat < (numSlots p).toNat)
    (live : (entryAt p headerEnd slotId.val.toNat).isEmpty = false) :
    (freeSpaceStart p).toNat ≤ (entryAt p headerEnd slotId.val.toNat).offset.toNat ∧
      (entryAt p headerEnd slotId.val.toNat).offset.toNat +
        (entryAt p headerEnd slotId.val.toNat).length.toNat ≤ pageSize := by
  have inData := layout.inside _ ((live_iff _ _ _).mpr ⟨counted, live⟩)
  have := layout.start_le_end
  unfold InDataArea at inData
  omega

theorem Layout.updateTuple (layout : Layout headerEnd p)
    (counted : slotId.val.toNat < (numSlots p).toNat)
    (live : (entryAt p headerEnd slotId.val.toNat).isEmpty = false)
    (short : newData.length ≤ (entryAt p headerEnd slotId.val.toNat).length.toNat) :
    SlottedPage.updateTuple p slotId newData = some (.ok (), updated p headerEnd slotId newData) := by
  have bounds := layout.update_bounds counted live
  have start := layout.start_eq
  have header := layout.header_le
  have copyFits : (entryAt p headerEnd slotId.val.toNat).offset.toNat + newData.length ≤
      pageSize := by omega
  have arrayKept : SlottedPage.slotArrayBase
      (overwrite p (entryAt p headerEnd slotId.val.toNat).offset.toNat newData) = headerEnd := by
    have past : headerSize ≤ (entryAt p headerEnd slotId.val.toNat).offset.toNat := by omega
    rw [SlottedPage.slotArrayBase, numSlots_overwrite _ _ past, freeSpaceStart_overwrite _ _ past,
      start]
    omega
  have slotFits : SlottedPage.slotArrayBase
      (overwrite p (entryAt p headerEnd slotId.val.toNat).offset.toNat newData) +
        slotId.val.toNat * slotSize + slotSize ≤ pageSize := by
    rw [arrayKept]
    have := layout.slot_fits counted
    omega
  simp only [SlottedPage.updateTuple, layout.getSlot counted, live, Bool.false_eq_true, if_false,
    gt_iff_lt, Nat.not_lt.mpr short, copyFrom_of_le p copyFits, Option.bind_eq_bind,
    Option.bind_some]
  unfold updated
  by_cases shorter : newData.length < (entryAt p headerEnd slotId.val.toNat).length.toNat
  · simp only [shorter, if_true, setSlot_of_fits _ _ _ slotFits, arrayKept, Option.bind_some]
    rfl
  · simp only [shorter, if_false]
    rfl

theorem numSlots_updated (header : headerSize ≤ headerEnd)
    (past : headerSize ≤ (entryAt p headerEnd slotId.val.toNat).offset.toNat) :
    numSlots (updated p headerEnd slotId newData) = numSlots p := by
  unfold updated
  split
  · rw [numSlots_writeSlot _ _ _ header, numSlots_overwrite _ _ past]
  · rw [numSlots_overwrite _ _ past]

theorem Layout.entryAt_updated_other (layout : Layout headerEnd p)
    (counted : slotId.val.toNat < (numSlots p).toNat)
    (live : (entryAt p headerEnd slotId.val.toNat).isEmpty = false) {j : Nat}
    (other : j ≠ slotId.val.toNat) (countedJ : j < (numSlots p).toNat) :
    entryAt (updated p headerEnd slotId newData) headerEnd j = entryAt p headerEnd j := by
  have bounds := layout.update_bounds counted live
  have fits := layout.slot_fits countedJ
  have kept : entryAt (overwrite p (entryAt p headerEnd slotId.val.toNat).offset.toNat newData)
      headerEnd j = entryAt p headerEnd j := entryAt_overwrite _ (Or.inl (by omega))
  unfold updated
  split
  · rw [entryAt_writeSlot_other _ _ other, kept]
  · exact kept

theorem Layout.headerKept_updated (layout : Layout headerEnd p)
    (counted : slotId.val.toNat < (numSlots p).toNat)
    (live : (entryAt p headerEnd slotId.val.toNat).isEmpty = false) :
    HeaderKept headerEnd p (updated p headerEnd slotId newData) := by
  have bounds := layout.update_bounds counted live
  have start := layout.start_eq
  have written : HeaderKept headerEnd p
      (overwrite p (entryAt p headerEnd slotId.val.toNat).offset.toNat newData) :=
    headerKept_overwrite p newData (by omega)
  unfold updated
  split
  · exact written.trans (headerKept_writeSlot _ _ _ (Nat.le_refl _))
  · exact written

end Update

theorem layout_of_shrunk {headerEnd : Nat} {p q : PageData} (layout : Layout headerEnd p)
    (slotsEq : numSlots q = numSlots p) (startEq : freeSpaceStart q = freeSpaceStart p)
    (endEq : freeSpaceEnd q = freeSpaceEnd p) {i : Nat}
    (others : ∀ j < (numSlots p).toNat, j ≠ i → entryAt q headerEnd j = entryAt p headerEnd j)
    (shrunk : (entryAt q headerEnd i).length.toNat = 0 ∨
      (entryAt q headerEnd i).offset = (entryAt p headerEnd i).offset ∧
        (entryAt q headerEnd i).length.toNat ≤ (entryAt p headerEnd i).length.toNat) :
    Layout headerEnd q := by
  have within : ∀ j, Live headerEnd q j → Live headerEnd p j ∧
      (entryAt q headerEnd j).offset.toNat = (entryAt p headerEnd j).offset.toNat ∧
      (entryAt q headerEnd j).length.toNat ≤ (entryAt p headerEnd j).length.toNat := by
    intro j live
    rw [Live, slotsEq] at live
    by_cases same : j = i
    · subst same
      rcases shrunk with empty | ⟨offsetEq, shorter⟩
      · omega
      · exact ⟨⟨live.1, by omega⟩, by rw [offsetEq], shorter⟩
    · rw [others j live.1 same]
      rw [others j live.1 same] at live
      exact ⟨live, rfl, Nat.le_refl _⟩
  refine ⟨layout.header_le, ?_, ?_, ?_, ?_, ?_, ?_⟩
  · rw [startEq, slotsEq]
    exact layout.start_eq
  · rw [startEq, endEq]
    exact layout.start_le_end
  · rw [endEq]
    exact layout.end_le
  · intro j live
    obtain ⟨liveP, offsetEq, shorter⟩ := within j live
    have before := layout.inside j liveP
    unfold InDataArea at before ⊢
    rw [endEq]
    omega
  · intro j k other liveJ liveK
    obtain ⟨liveJ', offsetJ, shorterJ⟩ := within j liveJ
    obtain ⟨liveK', offsetK, shorterK⟩ := within k liveK
    have before := layout.apart j k other liveJ' liveK'
    unfold TuplesApart at before ⊢
    rw [offsetJ, offsetK]
    have shrunkJ : Apart (entryAt p headerEnd j).offset.toNat (entryAt q headerEnd j).length.toNat
        (entryAt p headerEnd k).offset.toNat (entryAt p headerEnd k).length.toNat :=
      before.mono_left (Nat.le_refl _) (by omega)
    exact (shrunkJ.symm.mono_left (Nat.le_refl _) (by omega)).symm
  · intro noSlots
    rw [endEq]
    exact layout.noSlots_end (slotsEq ▸ noSlots)

section UpdateLayout

variable {headerEnd : Nat} {p : PageData} {slotId : SlotId} {newData : List UInt8}

theorem layout_updated (layout : Layout headerEnd p)
    (counted : slotId.val.toNat < (numSlots p).toNat)
    (live : (entryAt p headerEnd slotId.val.toNat).isEmpty = false)
    (short : newData.length ≤ (entryAt p headerEnd slotId.val.toNat).length.toNat) :
    Layout headerEnd (updated p headerEnd slotId newData) := by
  have bounds := layout.update_bounds counted live
  have header := layout.header_le
  have start := layout.start_eq
  have fits := layout.slot_fits counted
  have := layout.start_le_end
  have := layout.end_le
  have past : headerSize ≤ (entryAt p headerEnd slotId.val.toNat).offset.toNat := by omega
  apply layout_of_shrunk layout (numSlots_updated header past) _ _
    (fun j countedJ other => layout.entryAt_updated_other counted live other countedJ)
  · right
    unfold updated
    split
    · rename_i shorter
      rw [entryAt_writeSlot_same _ _ (by omega)]
      refine ⟨rfl, ?_⟩
      rw [toNat_toUInt16 (by unfold pageSize at *; omega)]
      omega
    · rw [entryAt_overwrite _ (Or.inl (by omega))]
      exact ⟨rfl, Nat.le_refl _⟩
  · unfold updated
    split
    · rw [freeSpaceStart_writeSlot _ _ _ header, freeSpaceStart_overwrite _ _ past]
    · rw [freeSpaceStart_overwrite _ _ past]
  · unfold updated
    split
    · rw [freeSpaceEnd_writeSlot _ _ _ header, freeSpaceEnd_overwrite _ _ past]
    · rw [freeSpaceEnd_overwrite _ _ past]

theorem tupleAt_updated_same (layout : Layout headerEnd p)
    (counted : slotId.val.toNat < (numSlots p).toNat)
    (live : (entryAt p headerEnd slotId.val.toNat).isEmpty = false)
    (short : newData.length ≤ (entryAt p headerEnd slotId.val.toNat).length.toNat)
    (nonempty : newData ≠ []) :
    tupleAt headerEnd (updated p headerEnd slotId newData) slotId.val.toNat = some newData := by
  have bounds := layout.update_bounds counted live
  have fits := layout.slot_fits counted
  have positive : 0 < newData.length := List.length_pos_iff.mpr nonempty
  have written : bytesAt (overwrite p (entryAt p headerEnd slotId.val.toNat).offset.toNat newData)
      (entryAt p headerEnd slotId.val.toNat).offset.toNat newData.length = newData :=
    bytesAt_overwrite_same _ (by omega)
  unfold updated
  split
  · rename_i shorter
    have lengthEq : newData.length.toUInt16.toNat = newData.length :=
      toNat_toUInt16 (by unfold pageSize at *; omega)
    have notEmpty : (SlotEntry.mk (entryAt p headerEnd slotId.val.toNat).offset
        newData.length.toUInt16).isEmpty = false := by
      rw [Bool.eq_false_iff, ne_eq, SlotEntry.isEmpty_iff, lengthEq]
      omega
    rw [tupleAt, entryAt_writeSlot_same _ _ (by omega), if_neg (by rw [notEmpty]; decide)]
    simp only [lengthEq]
    rw [bytesAt_writeSlot _ _ _ (Or.inr (by omega)), written]
  · rename_i notShorter
    have same : newData.length = (entryAt p headerEnd slotId.val.toNat).length.toNat := by omega
    rw [tupleAt, entryAt_overwrite _ (Or.inl (by omega)), live, if_neg (by decide), ← same,
      written]

theorem tupleAt_updated_other (layout : Layout headerEnd p)
    (counted : slotId.val.toNat < (numSlots p).toNat)
    (live : (entryAt p headerEnd slotId.val.toNat).isEmpty = false)
    (short : newData.length ≤ (entryAt p headerEnd slotId.val.toNat).length.toNat) {j : Nat}
    (other : j ≠ slotId.val.toNat) (countedJ : j < (numSlots p).toNat) :
    tupleAt headerEnd (updated p headerEnd slotId newData) j = tupleAt headerEnd p j := by
  unfold tupleAt
  rw [layout.entryAt_updated_other counted live other countedJ]
  cases empty : (entryAt p headerEnd j).isEmpty with
  | true => rfl
  | false =>
    have liveJ : Live headerEnd p j := (live_iff _ _ _).mpr ⟨countedJ, empty⟩
    have liveS : Live headerEnd p slotId.val.toNat := (live_iff _ _ _).mpr ⟨counted, live⟩
    have apart := layout.apart j _ other liveJ liveS
    have inData := layout.inside j liveJ
    have fits := layout.slot_fits counted
    have := layout.start_le_end
    unfold TuplesApart Apart at apart
    unfold InDataArea at inData
    have untouched : bytesAt (overwrite p (entryAt p headerEnd slotId.val.toNat).offset.toNat
        newData) (entryAt p headerEnd j).offset.toNat (entryAt p headerEnd j).length.toNat =
        bytesAt p (entryAt p headerEnd j).offset.toNat (entryAt p headerEnd j).length.toNat :=
      bytesAt_overwrite_disjoint _ (by omega)
    simp only [Bool.false_eq_true, if_false]
    unfold updated
    split
    · rw [bytesAt_writeSlot _ _ _ (Or.inr (by omega)), untouched]
    · rw [untouched]

theorem Layout.updateTuple_step (layout : Layout headerEnd p) (slotId : SlotId)
    (newData : List UInt8) :
    ∃ result p', SlottedPage.updateTuple p slotId newData = some (result, p') ∧
      Layout headerEnd p' ∧ HeaderKept headerEnd p p' := by
  by_cases counted : slotId.val.toNat < (numSlots p).toNat
  · cases empty : (entryAt p headerEnd slotId.val.toNat).isEmpty with
    | true => exact ⟨_, _, layout.updateTuple_empty counted empty, layout, HeaderKept.refl p⟩
    | false =>
      by_cases short : newData.length ≤ (entryAt p headerEnd slotId.val.toNat).length.toNat
      · exact ⟨_, _, layout.updateTuple counted empty short,
          layout_updated layout counted empty short, layout.headerKept_updated counted empty⟩
      · exact ⟨_, _, layout.updateTuple_too_long counted empty (by omega), layout,
          HeaderKept.refl p⟩
  · exact ⟨_, _, updateTuple_of_ge (by omega), layout, HeaderKept.refl p⟩

end UpdateLayout

end SlottedPage

end Crio
