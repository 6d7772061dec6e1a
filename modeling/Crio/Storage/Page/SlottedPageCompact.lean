import Crio.Storage.Page.SlottedPageSpec

/-!
`compact` on a page with the layout, its three loops one at a time. The tuples fit again
because live tuples do not overlap (`Layout.usedBytes_le`).
-/

namespace Crio

namespace SlottedPage

open ByteBuffer Intervals

def liveSlots (headerEnd : Nat) (p : PageData) : List Nat :=
  (List.range (numSlots p).toNat).filter fun i => !(entryAt p headerEnd i).isEmpty

def liveTuples (headerEnd : Nat) (p : PageData) : List (SlotId × List UInt8) :=
  (liveSlots headerEnd p).map fun i =>
    (⟨i.toUInt16⟩,
      bytesAt p (entryAt p headerEnd i).offset.toNat (entryAt p headerEnd i).length.toNat)

def usedBytes (headerEnd : Nat) (p : PageData) : Nat :=
  ((liveSlots headerEnd p).map fun i => (entryAt p headerEnd i).length.toNat).sum

def cleared (q : PageData) (base : Nat) (ids : List Nat) : PageData :=
  ids.foldl (fun q i => writeSlot q base i SlotEntry.empty) q

section Live

variable {headerEnd : Nat} {p : PageData}

theorem mem_liveSlots {i : Nat} : i ∈ liveSlots headerEnd p ↔ Live headerEnd p i := by
  rw [liveSlots, List.mem_filter, List.mem_range, live_iff, Bool.not_eq_true']

theorem nodup_liveSlots : (liveSlots headerEnd p).Nodup :=
  List.nodup_range.filter _

theorem Layout.usedBytes_le (layout : Layout headerEnd p) :
    usedBytes headerEnd p + (freeSpaceEnd p).toNat ≤ pageSize := by
  have packed := sum_map_le_of_apart (fun i => (entryAt p headerEnd i).offset.toNat)
    (fun i => (entryAt p headerEnd i).length.toNat) (liveSlots headerEnd p) nodup_liveSlots
    (freeSpaceEnd p).toNat pageSize
    (fun i inI j inJ other =>
      layout.apart i j other (mem_liveSlots.mp inI) (mem_liveSlots.mp inJ))
    (fun i inI => layout.inside i (mem_liveSlots.mp inI))
  have := layout.end_le
  unfold usedBytes
  omega

theorem Layout.collectTuples (layout : Layout headerEnd p) :
    ∀ ids : List Nat, (∀ i ∈ ids, i < (numSlots p).toNat) →
      SlottedPage.collectTuples p (ids.map Nat.toUInt16) =
        some ((ids.filter fun i => !(entryAt p headerEnd i).isEmpty).map fun i =>
          (⟨i.toUInt16⟩,
            bytesAt p (entryAt p headerEnd i).offset.toNat (entryAt p headerEnd i).length.toNat))
  | [], _ => rfl
  | i :: rest, counted => by
    have read := layout.getTuple_index (counted i List.mem_cons_self)
    have later := layout.collectTuples rest fun j member =>
      counted j (List.mem_cons_of_mem i member)
    cases empty : (entryAt p headerEnd i).isEmpty with
    | true => simp [SlottedPage.collectTuples, read, tupleAt, empty, later]
    | false => simp [SlottedPage.collectTuples, read, tupleAt, empty, later]

end Live

section Cleared

variable {q : PageData} {base : Nat}

theorem numSlots_cleared (header : headerSize ≤ base) :
    ∀ (ids : List Nat) (q : PageData), numSlots (cleared q base ids) = numSlots q
  | [], _ => rfl
  | i :: rest, q => by
    rw [cleared, List.foldl_cons, ← cleared, numSlots_cleared header rest,
      numSlots_writeSlot _ _ _ header]

theorem freeSpaceStart_cleared (header : headerSize ≤ base) :
    ∀ (ids : List Nat) (q : PageData), freeSpaceStart (cleared q base ids) = freeSpaceStart q
  | [], _ => rfl
  | i :: rest, q => by
    rw [cleared, List.foldl_cons, ← cleared, freeSpaceStart_cleared header rest,
      freeSpaceStart_writeSlot _ _ _ header]

theorem freeSpaceEnd_cleared (header : headerSize ≤ base) :
    ∀ (ids : List Nat) (q : PageData), freeSpaceEnd (cleared q base ids) = freeSpaceEnd q
  | [], _ => rfl
  | i :: rest, q => by
    rw [cleared, List.foldl_cons, ← cleared, freeSpaceEnd_cleared header rest,
      freeSpaceEnd_writeSlot _ _ _ header]

theorem entryAt_cleared_mem :
    ∀ (ids : List Nat) (q : PageData), (∀ i ∈ ids, base + i * slotSize + slotSize ≤ pageSize) →
      ∀ j ∈ ids, entryAt (cleared q base ids) base j = SlotEntry.empty
  | [], _, _, j, member => absurd member List.not_mem_nil
  | i :: rest, q, fits, j, member => by
    rw [cleared, List.foldl_cons, ← cleared]
    by_cases later : j ∈ rest
    · exact entryAt_cleared_mem rest _ (fun k inRest => fits k (List.mem_cons_of_mem i inRest))
        j later
    · have same : j = i := by
        rcases List.mem_cons.mp member with same | inRest
        · exact same
        · exact absurd inRest later
      subst same
      rw [entryAt_cleared_other rest _ later, entryAt_writeSlot_same _ _ (fits j member)]
where
  entryAt_cleared_other : ∀ (ids : List Nat) (q : PageData) {j : Nat}, j ∉ ids →
      entryAt (cleared q base ids) base j = entryAt q base j
    | [], _, _, _ => rfl
    | i :: rest, q, j, absent => by
      rw [cleared, List.foldl_cons, ← cleared, entryAt_cleared_other rest _
        (fun inRest => absent (List.mem_cons_of_mem i inRest)),
        entryAt_writeSlot_other _ _ (fun same => absent (by rw [same]; exact List.mem_cons_self))]

theorem bytesAt_cleared {off len : Nat} :
    ∀ (ids : List Nat) (q : PageData), (∀ i ∈ ids, base + i * slotSize + slotSize ≤ off) →
      bytesAt (cleared q base ids) off len = bytesAt q off len
  | [], _, _ => rfl
  | i :: rest, q, past => by
    rw [cleared, List.foldl_cons, ← cleared,
      bytesAt_cleared rest _ (fun k inRest => past k (List.mem_cons_of_mem i inRest)),
      bytesAt_writeSlot _ _ _ (Or.inr (past i List.mem_cons_self))]

theorem headerKept_cleared {headerEnd : Nat} (past : headerEnd ≤ base) :
    ∀ (ids : List Nat) (q : PageData), HeaderKept headerEnd q (cleared q base ids)
  | [], q => HeaderKept.refl q
  | i :: rest, q => by
    rw [cleared, List.foldl_cons, ← cleared]
    exact (headerKept_writeSlot q i _ past).trans (headerKept_cleared past rest _)

theorem clearSlots_of_fits (header : headerSize ≤ base) :
    ∀ (ids : List Nat) (q : PageData), slotArrayBase q = base →
      (∀ i ∈ ids, base + i * slotSize + slotSize ≤ pageSize ∧ i < 2 ^ 16) →
      clearSlots q (ids.map Nat.toUInt16) = some (cleared q base ids)
  | [], _, _, _ => rfl
  | i :: rest, q, arrayAt, fits => by
    have first := fits i List.mem_cons_self
    have small : (SlotId.mk i.toUInt16).val.toNat = i := toNat_toUInt16 first.2
    have written : setSlot q ⟨i.toUInt16⟩ SlotEntry.empty =
        some (writeSlot q base i SlotEntry.empty) := by
      rw [setSlot_of_fits q _ _ (by rw [small, arrayAt]; exact first.1), small, arrayAt]
    have arrayKept : slotArrayBase (writeSlot q base i SlotEntry.empty) = base := by
      rw [SlottedPage.slotArrayBase, numSlots_writeSlot _ _ _ header,
        freeSpaceStart_writeSlot _ _ _ header, ← SlottedPage.slotArrayBase, arrayAt]
    rw [List.map_cons, SlottedPage.clearSlots, written, Option.bind_some,
      clearSlots_of_fits header rest _ arrayKept
        (fun k inRest => fits k (List.mem_cons_of_mem i inRest))]
    rfl

end Cleared

theorem layout_of_allEmpty {headerEnd : Nat} {q : PageData} (header : headerSize ≤ headerEnd)
    (start : (freeSpaceStart q).toNat = headerEnd + (numSlots q).toNat * slotSize)
    (small : (freeSpaceStart q).toNat ≤ pageSize) (stop : (freeSpaceEnd q).toNat = pageSize)
    (allEmpty : ∀ i < (numSlots q).toNat, (entryAt q headerEnd i).isEmpty = true) :
    Layout headerEnd q where
  header_le := header
  start_eq := start
  start_le_end := by omega
  end_le := by omega
  inside i live := by
    have empty := allEmpty i live.1
    rw [SlotEntry.isEmpty_iff] at empty
    exact absurd live.2 (by omega)
  apart i _ _ live := by
    have empty := allEmpty i live.1
    rw [SlotEntry.isEmpty_iff] at empty
    exact absurd live.2 (by omega)
  noSlots_end _ := stop

structure Reinserted (headerEnd : Nat) (q : PageData) (tuples : List (SlotId × List UInt8))
    (q' : PageData) : Prop where
  layout : Layout headerEnd q'
  numSlots_eq : numSlots q' = numSlots q
  start_eq : freeSpaceStart q' = freeSpaceStart q
  end_eq : (freeSpaceEnd q').toNat + (tuples.map fun x => x.2.length).sum = (freeSpaceEnd q).toNat
  stored : ∀ x ∈ tuples, tupleAt headerEnd q' x.1.val.toNat = some x.2
  others : ∀ i < (numSlots q).toNat, (∀ x ∈ tuples, x.1.val.toNat ≠ i) →
    tupleAt headerEnd q' i = tupleAt headerEnd q i
  kept : HeaderKept headerEnd q q'

theorem reinsertTuples_of_layout {headerEnd : Nat} :
    ∀ (tuples : List (SlotId × List UInt8)) (q : PageData), Layout headerEnd q →
      (tuples.map fun x => x.1.val.toNat).Nodup →
      (∀ x ∈ tuples, x.1.val.toNat < (numSlots q).toNat ∧
        (entryAt q headerEnd x.1.val.toNat).isEmpty = true ∧ x.2 ≠ []) →
      (freeSpaceStart q).toNat + (tuples.map fun x => x.2.length).sum ≤ (freeSpaceEnd q).toNat →
      ∃ q', reinsertTuples q tuples = some q' ∧ Reinserted headerEnd q tuples q'
  | [], q, layout, _, _, _ =>
    ⟨q, rfl, layout, rfl, rfl, by simp, by simp, fun _ _ _ => rfl, HeaderKept.refl q⟩
  | (slotId, tuple) :: rest, q, layout, distinct, slots, room => by
    obtain ⟨counted, empty, nonempty⟩ : slotId.val.toNat < (numSlots q).toNat ∧
        (entryAt q headerEnd slotId.val.toNat).isEmpty = true ∧ tuple ≠ [] :=
      slots (slotId, tuple) List.mem_cons_self
    have restSum : (freeSpaceStart q).toNat + tuple.length +
        (rest.map fun x => x.2.length).sum ≤ (freeSpaceEnd q).toNat := by
      simp only [List.map_cons, List.sum_cons] at room
      omega
    have fits : PlaceFits q headerEnd slotId tuple :=
      PlaceFits.of_room layout.header_le layout.start_eq (by omega) layout.end_le counted
    have notLive : ¬ Live headerEnd q slotId.val.toNat := by
      rw [live_iff]
      simp [empty]
    have fit : TuplesFit headerEnd q slotId.val.toNat := layout.tuplesFit _
    have placedLayout : Layout headerEnd (placed q headerEnd slotId tuple) :=
      layout_placed layout.header_le layout.start_eq (by omega) layout.end_le counted fit
    have slotsEq := numSlots_placed fits
    have stillCounted : ∀ {i}, i < (numSlots q).toNat →
        i < (numSlots (placed q headerEnd slotId tuple)).toNat := fun counted => by
      rw [slotsEq]
      exact counted
    have distinctRest : (rest.map fun x => x.1.val.toNat).Nodup := (List.nodup_cons.mp distinct).2
    have absent : ∀ x ∈ rest, x.1.val.toNat ≠ slotId.val.toNat := by
      intro x member same
      have inMap : x.1.val.toNat ∈ rest.map fun x => x.1.val.toNat := List.mem_map_of_mem member
      rw [same] at inMap
      exact (List.nodup_cons.mp distinct).1 inMap
    have restSlots : ∀ x ∈ rest, x.1.val.toNat < (numSlots (placed q headerEnd slotId tuple)).toNat ∧
        (entryAt (placed q headerEnd slotId tuple) headerEnd x.1.val.toNat).isEmpty = true ∧
          x.2 ≠ [] := by
      intro x member
      obtain ⟨countedX, emptyX, nonemptyX⟩ := slots x (List.mem_cons_of_mem _ member)
      refine ⟨stillCounted countedX, ?_, nonemptyX⟩
      rw [entryAt_placed_other fits (absent x member) (by
        rw [fits.offset_toNat]
        have := layout.slot_fits countedX
        omega)]
      exact emptyX
    have restRoom : (freeSpaceStart (placed q headerEnd slotId tuple)).toNat +
        (rest.map fun x => x.2.length).sum ≤ (freeSpaceEnd (placed q headerEnd slotId tuple)).toNat := by
      rw [freeSpaceStart_placed fits, freeSpaceEnd_placed fits]
      omega
    obtain ⟨q', reinserted, after⟩ :=
      reinsertTuples_of_layout rest _ placedLayout distinctRest restSlots restRoom
    refine ⟨q', ?_, ⟨after.layout, ?_, ?_, ?_, ?_, ?_, ?_⟩⟩
    · rw [SlottedPage.reinsertTuples, placeTuple_of_fits layout.slotArrayBase fits,
        Option.bind_some, reinserted]
    · rw [after.numSlots_eq, slotsEq]
    · rw [after.start_eq, freeSpaceStart_placed fits]
    · have endEq := after.end_eq
      rw [freeSpaceEnd_placed fits] at endEq
      simp only [List.map_cons, List.sum_cons]
      omega
    · intro x member
      rcases List.mem_cons.mp member with same | inRest
      · subst same
        rw [after.others _ (stillCounted counted) (fun x member same => absent x member same)]
        exact tupleAt_placed_same fits nonempty
      · exact after.stored x inRest
    · intro i countedI notPlaced
      rw [after.others i (stillCounted countedI)
          (fun x member => notPlaced x (List.mem_cons_of_mem _ member)),
        tupleAt_placed_other layout.header_le layout.start_eq (by omega) layout.end_le counted fit
          (fun same => notPlaced _ List.mem_cons_self same.symm) countedI]
    · exact (headerKept_placed fits (Nat.le_refl _)).trans after.kept

structure Compacted (headerEnd : Nat) (p p' : PageData) : Prop where
  layout : Layout headerEnd p'
  numSlots_eq : numSlots p' = numSlots p
  start_eq : freeSpaceStart p' = freeSpaceStart p
  tuples_eq : ∀ i < (numSlots p).toNat, tupleAt headerEnd p' i = tupleAt headerEnd p i
  end_eq : (freeSpaceEnd p').toNat + usedBytes headerEnd p = pageSize
  kept : HeaderKept headerEnd p p'

theorem Layout.compact {headerEnd : Nat} {p : PageData} (layout : Layout headerEnd p) :
    ∃ p', SlottedPage.compact p = some p' ∧ Compacted headerEnd p p' := by
  have header := layout.header_le
  by_cases noSlots : numSlots p = 0
  · have unused : usedBytes headerEnd p = 0 := by
      simp [usedBytes, liveSlots, noSlots]
    refine ⟨p, by simp [SlottedPage.compact, noSlots], layout, rfl, rfl, fun _ _ => rfl, ?_,
      HeaderKept.refl p⟩
    rw [unused, layout.noSlots_end noSlots]
    rfl
  · have arraySize := layout.array_le
    have small := layout.numSlots_lt
    have resetArray : SlottedPage.slotArrayBase (setFreeSpaceEnd p pageSize.toUInt16) = headerEnd := by
      rw [SlottedPage.slotArrayBase, numSlots_setFreeSpaceEnd, freeSpaceStart_setFreeSpaceEnd,
        ← SlottedPage.slotArrayBase, layout.slotArrayBase]
    have slotFits : ∀ i ∈ List.range (numSlots p).toNat,
        headerEnd + i * slotSize + slotSize ≤ pageSize ∧ i < 2 ^ 16 := by
      intro i member
      have := List.mem_range.mp member
      unfold slotSize at *
      omega
    obtain ⟨emptied, emptiedEq⟩ : ∃ q, q = cleared (setFreeSpaceEnd p pageSize.toUInt16) headerEnd
        (List.range (numSlots p).toNat) := ⟨_, rfl⟩
    have emptiedSlots : numSlots emptied = numSlots p := by
      rw [emptiedEq, numSlots_cleared header, numSlots_setFreeSpaceEnd]
    have emptiedStart : freeSpaceStart emptied = freeSpaceStart p := by
      rw [emptiedEq, freeSpaceStart_cleared header, freeSpaceStart_setFreeSpaceEnd]
    have emptiedEnd : (freeSpaceEnd emptied).toNat = pageSize := by
      rw [emptiedEq, freeSpaceEnd_cleared header, freeSpaceEnd_setFreeSpaceEnd]
      decide
    have emptiedEntry : ∀ i < (numSlots p).toNat,
        (entryAt emptied headerEnd i).isEmpty = true := by
      intro i counted
      rw [emptiedEq, entryAt_cleared_mem _ _ (fun j member => (slotFits j member).1) i
        (List.mem_range.mpr counted)]
      rfl
    have emptiedLayout : Layout headerEnd emptied := by
      apply layout_of_allEmpty header
      · rw [emptiedStart, emptiedSlots]
        exact layout.start_eq
      · rw [emptiedStart]
        have := layout.start_le_end
        have := layout.end_le
        omega
      · exact emptiedEnd
      · intro i counted
        exact emptiedEntry i (emptiedSlots ▸ counted)
    have emptiedKept : HeaderKept headerEnd p emptied := by
      rw [emptiedEq]
      exact (headerKept_setFreeSpaceEnd p _).trans (headerKept_cleared (Nat.le_refl _) _ _)
    have collected := layout.collectTuples (List.range (numSlots p).toNat) fun i member =>
      List.mem_range.mp member
    have slotIds : ∀ i ∈ liveSlots headerEnd p, (SlotId.mk i.toUInt16).val.toNat = i :=
      fun i member => layout.toNat_slot (mem_liveSlots.mp member).1
    have idsEq : ((liveTuples headerEnd p).map fun x => x.1.val.toNat) = liveSlots headerEnd p := by
      simp only [liveTuples, List.map_map, Function.comp_def]
      rw [List.map_congr_left slotIds, List.map_id']
    have lengthsEq : ((liveTuples headerEnd p).map fun x => x.2.length).sum =
        usedBytes headerEnd p := by
      simp [liveTuples, usedBytes, List.map_map, Function.comp_def]
    have tuplesFit : ∀ x ∈ liveTuples headerEnd p, x.1.val.toNat < (numSlots emptied).toNat ∧
        (entryAt emptied headerEnd x.1.val.toNat).isEmpty = true ∧ x.2 ≠ [] := by
      intro x member
      obtain ⟨i, liveI, rfl⟩ := List.mem_map.mp member
      have live := mem_liveSlots.mp liveI
      rw [slotIds i liveI, emptiedSlots]
      refine ⟨live.1, emptiedEntry i live.1, ?_⟩
      rw [← List.length_pos_iff, length_bytesAt]
      exact live.2
    have room : (freeSpaceStart emptied).toNat +
        ((liveTuples headerEnd p).map fun x => x.2.length).sum ≤ (freeSpaceEnd emptied).toNat := by
      rw [emptiedStart, emptiedEnd, lengthsEq]
      have := layout.usedBytes_le
      have := layout.start_le_end
      omega
    obtain ⟨p', reinserted, after⟩ := reinsertTuples_of_layout (liveTuples headerEnd p) emptied
      emptiedLayout (idsEq ▸ nodup_liveSlots) tuplesFit room
    have compacted : SlottedPage.compact p = some p' := by
      simp only [SlottedPage.compact, noSlots, if_false, slotRange, collected,
        Option.bind_eq_bind, Option.bind_some]
      rw [clearSlots_of_fits header _ _ resetArray slotFits, Option.bind_some, ← emptiedEq]
      exact reinserted
    refine ⟨p', compacted, after.layout, ?_, ?_, ?_, ?_, emptiedKept.trans after.kept⟩
    · rw [after.numSlots_eq, emptiedSlots]
    · rw [after.start_eq, emptiedStart]
    · intro i counted
      by_cases live : Live headerEnd p i
      · have member : (⟨i.toUInt16⟩, bytesAt p (entryAt p headerEnd i).offset.toNat
            (entryAt p headerEnd i).length.toNat) ∈ liveTuples headerEnd p :=
          List.mem_map_of_mem (mem_liveSlots.mpr live)
        have stored := after.stored _ member
        have notEmpty := ((live_iff _ _ _).mp live).2
        rw [layout.toNat_slot counted] at stored
        rw [stored, tupleAt, notEmpty]
        rfl
      · have notPlaced : ∀ x ∈ liveTuples headerEnd p, x.1.val.toNat ≠ i := by
          intro x member same
          obtain ⟨j, liveJ, rfl⟩ := List.mem_map.mp member
          rw [slotIds j liveJ] at same
          rw [same] at liveJ
          exact live (mem_liveSlots.mp liveJ)
        have empty : (entryAt p headerEnd i).isEmpty = true := by
          rw [live_iff] at live
          simpa [counted] using live
        rw [after.others i (emptiedSlots ▸ counted) notPlaced,
          tupleAt_of_isEmpty (emptiedEntry i counted), tupleAt_of_isEmpty empty]
    · have endEq := after.end_eq
      rw [emptiedEnd, lengthsEq] at endEq
      exact endEq

end SlottedPage

end Crio
