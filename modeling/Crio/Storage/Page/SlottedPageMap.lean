import Crio.Storage.Page.SlottedPageRuns
import Crio.Lib.SlotMap

/-!
The tuples of a slotted page as a slot map: `tupleMap p` holds, for each counted slot, what
`get_tuple` returns.
-/

namespace Crio

namespace SlottedPage

open ByteBuffer

def tupleMap (p : PageData) : List (Option (List UInt8)) :=
  (List.range (numSlots p).toNat).map fun i =>
    match getTuple p ⟨i.toUInt16⟩ with
    | some (.ok tuple) => some tuple
    | _ => none

def readSlot (m : List (Option (List UInt8))) (slotId : SlotId) : Except CrioError (List UInt8) :=
  match m[slotId.val.toNat]? with
  | some (some tuple) => .ok tuple
  | some none => .error (.emptySlot slotId.val)
  | none => .error (.invalidSlotId slotId.val)

theorem readSlot_congr {m m' : List (Option (List UInt8))} {slotId : SlotId}
    (same : m'[slotId.val.toNat]? = m[slotId.val.toNat]?) :
    readSlot m' slotId = readSlot m slotId := by
  rw [readSlot, readSlot, same]

theorem slotId_eq_of_toNat {slotId : SlotId} {i : Nat} (index : slotId.val.toNat = i) :
    slotId = ⟨i.toUInt16⟩ := by
  cases slotId
  simp only [← index, Nat.toUInt16_eq, UInt16.ofNat_toNat]

@[simp] theorem length_tupleMap (p : PageData) : (tupleMap p).length = (numSlots p).toNat := by
  simp [tupleMap]

section View

variable {headerEnd : Nat} {p : PageData}

theorem Layout.tupleMap_eq (layout : Layout headerEnd p) :
    tupleMap p = (List.range (numSlots p).toNat).map (tupleAt headerEnd p) := by
  unfold tupleMap
  apply List.map_congr_left
  intro i member
  rw [layout.getTuple_index (List.mem_range.mp member)]
  cases tupleAt headerEnd p i <;> rfl

theorem Layout.getElem?_tupleMap (layout : Layout headerEnd p) (i : Nat) :
    (tupleMap p)[i]? = if i < (numSlots p).toNat then some (tupleAt headerEnd p i) else none := by
  rw [layout.tupleMap_eq, List.getElem?_map]
  by_cases counted : i < (numSlots p).toNat
  · rw [List.getElem?_range counted, if_pos counted]
    rfl
  · rw [List.getElem?_eq_none (by simpa using Nat.le_of_not_lt counted), if_neg counted]
    rfl

theorem Layout.getTuple_eq_readSlot (layout : Layout headerEnd p) (slotId : SlotId) :
    SlottedPage.getTuple p slotId = some (readSlot (tupleMap p) slotId) := by
  rw [readSlot, layout.getElem?_tupleMap]
  by_cases counted : slotId.val.toNat < (numSlots p).toNat
  · rw [layout.getTuple counted, if_pos counted]
    cases tupleAt headerEnd p slotId.val.toNat <;> rfl
  · rw [if_neg counted, SlottedPage.getTuple, getSlot_of_ge p (by omega)]

theorem getTuple_congr {p' : PageData} (layout : Layout headerEnd p) (layout' : Layout headerEnd p')
    {slotId : SlotId} (same : (tupleMap p')[slotId.val.toNat]? = (tupleMap p)[slotId.val.toNat]?) :
    SlottedPage.getTuple p' slotId = SlottedPage.getTuple p slotId := by
  rw [layout'.getTuple_eq_readSlot, layout.getTuple_eq_readSlot, readSlot_congr same]

theorem Layout.firstFree_tupleMap (layout : Layout headerEnd p) :
    SlotMap.firstFree (tupleMap p) = (firstEmptySlot headerEnd p).getD (numSlots p).toNat := by
  have freeIff : (fun i => (tupleAt headerEnd p i).isNone) =
      fun i => (entryAt p headerEnd i).isEmpty := by
    funext i
    unfold tupleAt
    cases (entryAt p headerEnd i).isEmpty <;> rfl
  rw [layout.tupleMap_eq, SlotMap.firstFree_map_range, freeIff, firstEmptySlot]

theorem Layout.keys_tupleMap (layout : Layout headerEnd p) :
    SlotMap.keys (tupleMap p) = liveSlots headerEnd p := by
  unfold SlotMap.keys liveSlots
  rw [length_tupleMap]
  apply List.filter_congr
  intro i member
  rw [layout.getElem?_tupleMap, if_pos (List.mem_range.mp member)]
  unfold tupleAt
  cases (entryAt p headerEnd i).isEmpty <;> rfl

theorem map_length_filterMap_tupleAt :
    ∀ ids : List Nat, (ids.filterMap (tupleAt headerEnd p)).map List.length =
      (ids.filter fun i => !(entryAt p headerEnd i).isEmpty).map fun i =>
        (entryAt p headerEnd i).length.toNat
  | [] => rfl
  | i :: rest => by
    have later := map_length_filterMap_tupleAt rest
    cases empty : (entryAt p headerEnd i).isEmpty with
    | true => simp [tupleAt, empty, later]
    | false => simp [tupleAt, empty, later]

theorem Layout.usedBytes_eq_total (layout : Layout headerEnd p) :
    usedBytes headerEnd p = SlotMap.total List.length (tupleMap p) := by
  rw [SlotMap.total, layout.tupleMap_eq, List.filterMap_map, Function.id_comp,
    map_length_filterMap_tupleAt, usedBytes, liveSlots]

theorem Layout.liveSlotIds (layout : Layout headerEnd p) :
    ∀ ids : List Nat, (∀ i ∈ ids, i < (numSlots p).toNat) →
      SlottedPage.liveSlotIds p (ids.map Nat.toUInt16) =
        some ((ids.filter fun i => !(entryAt p headerEnd i).isEmpty).map fun i => ⟨i.toUInt16⟩)
  | [], _ => rfl
  | i :: rest, counted => by
    have read := layout.getSlot_index (counted i List.mem_cons_self)
    have later := layout.liveSlotIds rest fun j member => counted j (List.mem_cons_of_mem i member)
    cases empty : (entryAt p headerEnd i).isEmpty with
    | true => simp [SlottedPage.liveSlotIds, read, empty, later]
    | false => simp [SlottedPage.liveSlotIds, read, empty, later]

theorem Layout.slotIds_eq (layout : Layout headerEnd p) :
    slotIds p = some ((SlotMap.keys (tupleMap p)).map fun i => ⟨i.toUInt16⟩) := by
  rw [layout.keys_tupleMap, slotIds, slotRange]
  exact layout.liveSlotIds _ fun i member => List.mem_range.mp member

end View

section Operations

variable {headerEnd : Nat} {p : PageData}

theorem bytesAt_addSlot (p : PageData) {off len : Nat} (past : headerSize ≤ off) :
    bytesAt (addSlot p) off len = bytesAt p off len := by
  unfold headerSize at past
  rw [addSlot, setFreeSpaceStart, setU32,
    bytesAt_overwrite_disjoint _ (by simp only [length_leBytes, freeSpaceStartOffset]; omega),
    setNumSlots, setU32,
    bytesAt_overwrite_disjoint _ (by simp only [length_leBytes, numSlotsOffset]; omega)]

theorem Layout.tupleAt_addSlot (layout : Layout headerEnd p) {i : Nat}
    (counted : i < (numSlots p).toNat) : tupleAt headerEnd (addSlot p) i = tupleAt headerEnd p i := by
  unfold tupleAt
  rw [entryAt_addSlot layout.header_le]
  cases empty : (entryAt p headerEnd i).isEmpty with
  | true => rfl
  | false =>
    have inData := (layout.inside i ((live_iff _ _ _).mpr ⟨counted, empty⟩)).1
    have := layout.header_le
    have := layout.start_le_end
    have := layout.start_eq
    rw [if_neg Bool.false_ne_true, if_neg Bool.false_ne_true, bytesAt_addSlot p (by omega)]

theorem Layout.insertTuple_map (layout : Layout headerEnd p) {tuple : List UInt8}
    (room : tuple.length + slotSize ≤ freeSpace p) (nonempty : tuple ≠ []) :
    ∃ p', SlottedPage.insertTuple p tuple =
        some (.ok ⟨(SlotMap.firstFree (tupleMap p)).toUInt16⟩, p') ∧
      Layout headerEnd p' ∧ tupleMap p' = SlotMap.insert (tupleMap p) tuple := by
  have start := layout.room_of_freeSpace room
  rw [layout.firstFree_tupleMap]
  cases found : firstEmptySlot headerEnd p with
  | some i =>
    rw [Option.getD_some]
    have counted := firstEmptySlot_lt found
    have index : (SlotId.mk i.toUInt16).val.toNat = i := layout.toNat_slot counted
    have countedId : (SlotId.mk i.toUInt16).val.toNat < (numSlots p).toNat := by
      rw [index]
      exact counted
    have fits : PlaceFits p headerEnd ⟨i.toUInt16⟩ tuple :=
      PlaceFits.of_room layout.header_le layout.start_eq (by omega) layout.end_le countedId
    have layout' : Layout headerEnd (placed p headerEnd ⟨i.toUInt16⟩ tuple) :=
      layout_placed layout.header_le layout.start_eq (by omega) layout.end_le countedId
        (layout.tuplesFit _)
    refine ⟨_, layout.insertTuple_reuse room found, layout', List.ext_getElem? fun j => ?_⟩
    rw [layout'.getElem?_tupleMap, numSlots_placed fits, SlotMap.getElem?_insert,
      layout.firstFree_tupleMap, found, Option.getD_some, layout.getElem?_tupleMap]
    by_cases same : j = i
    · have stored := tupleAt_placed_same fits nonempty
      rw [index] at stored
      rw [same, if_pos counted, if_pos rfl, stored]
    · rw [if_neg same]
      by_cases countedJ : j < (numSlots p).toNat
      · rw [if_pos countedJ, if_pos countedJ, tupleAt_placed_other layout.header_le layout.start_eq
          (by omega) layout.end_le countedId (layout.tuplesFit _) (by rw [index]; exact same)
          countedJ]
      · rw [if_neg countedJ, if_neg countedJ]
  | none =>
    rw [Option.getD_none]
    have slots := layout.numSlots_addSlot
    have countedId : (SlotId.mk (numSlots p)).val.toNat < (numSlots (addSlot p)).toNat := by
      show (numSlots p).toNat < _
      omega
    have roomAfter : (freeSpaceStart (addSlot p)).toNat + tuple.length ≤
        (freeSpaceEnd (addSlot p)).toNat := by
      rw [layout.freeSpaceStart_addSlot, freeSpaceEnd_addSlot]
      omega
    have endFits : (freeSpaceEnd (addSlot p)).toNat ≤ pageSize := by
      rw [freeSpaceEnd_addSlot]
      exact layout.end_le
    have fits : PlaceFits (addSlot p) headerEnd ⟨numSlots p⟩ tuple :=
      PlaceFits.of_room layout.header_le layout.addSlot_start roomAfter endFits countedId
    have layout' : Layout headerEnd (placed (addSlot p) headerEnd ⟨numSlots p⟩ tuple) :=
      layout_placed layout.header_le layout.addSlot_start roomAfter endFits countedId
        layout.tuplesFit_addSlot
    have idEq : (numSlots p).toNat.toUInt16 = numSlots p := UInt16.ofNat_toNat
    refine ⟨placed (addSlot p) headerEnd ⟨numSlots p⟩ tuple, ?_, layout',
      List.ext_getElem? fun j => ?_⟩
    · rw [layout.insertTuple_new room found, idEq]
    rw [layout'.getElem?_tupleMap, numSlots_placed fits, slots, SlotMap.getElem?_insert,
      layout.firstFree_tupleMap, found, Option.getD_none, layout.getElem?_tupleMap]
    by_cases same : j = (numSlots p).toNat
    · rw [same, if_pos (by omega), if_pos rfl, tupleAt_placed_same fits nonempty]
    · rw [if_neg same]
      by_cases countedJ : j < (numSlots p).toNat
      · rw [if_pos (by omega), if_pos countedJ, tupleAt_placed_other layout.header_le
          layout.addSlot_start roomAfter endFits countedId layout.tuplesFit_addSlot same
          (by omega), layout.tupleAt_addSlot countedJ]
      · rw [if_neg (by omega), if_neg countedJ]

theorem Layout.deleteTuple_map (layout : Layout headerEnd p) {slotId : SlotId}
    (counted : slotId.val.toNat < (numSlots p).toNat) :
    ∃ p', SlottedPage.deleteTuple p slotId = some (.ok (), p') ∧ Layout headerEnd p' ∧
      tupleMap p' = SlotMap.erase (tupleMap p) slotId.val.toNat := by
  have layout' := layout.writeSlot_empty counted
  refine ⟨_, layout.deleteTuple counted, layout', List.ext_getElem? fun j => ?_⟩
  rw [layout'.getElem?_tupleMap, numSlots_writeSlot _ _ _ layout.header_le, SlotMap.getElem?_erase,
    length_tupleMap, layout.getElem?_tupleMap]
  by_cases same : j = slotId.val.toNat
  · have fits := layout.slot_fits counted
    have := layout.start_le_end
    have := layout.end_le
    rw [same, if_pos counted, if_pos ⟨rfl, counted⟩, tupleAt_writeSlot_empty_same _ (by omega)]
  · have elsewhere : ¬(j = slotId.val.toNat ∧ slotId.val.toNat < (numSlots p).toNat) :=
      fun both => same both.1
    rw [if_neg elsewhere]
    by_cases countedJ : j < (numSlots p).toNat
    · rw [if_pos countedJ, if_pos countedJ, layout.tupleAt_writeSlot_other _ counted same countedJ]
    · rw [if_neg countedJ, if_neg countedJ]

theorem Layout.updateTuple_map (layout : Layout headerEnd p) {slotId : SlotId}
    {newData : List UInt8} (counted : slotId.val.toNat < (numSlots p).toNat)
    (live : (entryAt p headerEnd slotId.val.toNat).isEmpty = false)
    (short : newData.length ≤ (entryAt p headerEnd slotId.val.toNat).length.toNat)
    (nonempty : newData ≠ []) :
    ∃ p', SlottedPage.updateTuple p slotId newData = some (.ok (), p') ∧ Layout headerEnd p' ∧
      tupleMap p' = SlotMap.update (tupleMap p) slotId.val.toNat newData := by
  have layout' := layout_updated layout counted live short
  have slots : numSlots (updated p headerEnd slotId newData) = numSlots p := by
    have bounds := layout.update_bounds counted live
    have := layout.start_eq
    have := layout.header_le
    exact numSlots_updated layout.header_le (by omega)
  refine ⟨_, layout.updateTuple counted live short, layout', List.ext_getElem? fun j => ?_⟩
  rw [layout'.getElem?_tupleMap, slots, SlotMap.getElem?_update, length_tupleMap,
    layout.getElem?_tupleMap]
  by_cases same : j = slotId.val.toNat
  · rw [same, if_pos counted, if_pos ⟨rfl, counted⟩,
      tupleAt_updated_same layout counted live short nonempty]
  · have elsewhere : ¬(j = slotId.val.toNat ∧ slotId.val.toNat < (numSlots p).toNat) :=
      fun both => same both.1
    rw [if_neg elsewhere]
    by_cases countedJ : j < (numSlots p).toNat
    · rw [if_pos countedJ, if_pos countedJ, tupleAt_updated_other layout counted live short same
        countedJ]
    · rw [if_neg countedJ, if_neg countedJ]

theorem Layout.compact_map (layout : Layout headerEnd p) :
    ∃ p', SlottedPage.compact p = some p' ∧ Layout headerEnd p' ∧ tupleMap p' = tupleMap p ∧
      freeSpace p' = pageSize - (freeSpaceStart p').toNat - SlotMap.total List.length (tupleMap p) := by
  obtain ⟨p', compacted, after⟩ := layout.compact
  refine ⟨p', compacted, after.layout, List.ext_getElem? fun j => ?_, ?_⟩
  · rw [after.layout.getElem?_tupleMap, after.numSlots_eq, layout.getElem?_tupleMap]
    by_cases counted : j < (numSlots p).toNat
    · rw [if_pos counted, if_pos counted, after.tuples_eq j counted]
    · rw [if_neg counted, if_neg counted]
  · have stop := after.end_eq
    rw [freeSpace, ← layout.usedBytes_eq_total]
    omega

end Operations

theorem readSlot_eq_ok {m : List (Option (List UInt8))} {slotId : SlotId} {tuple : List UInt8} :
    readSlot m slotId = .ok tuple ↔ m[slotId.val.toNat]? = some (some tuple) := by
  unfold readSlot
  cases m[slotId.val.toNat]? with
  | none => simp
  | some value => cases value <;> simp

section Reads

variable {headerEnd : Nat} {p : PageData}

theorem Layout.live_of_getTuple (layout : Layout headerEnd p) {slotId : SlotId}
    {tuple : List UInt8} (read : SlottedPage.getTuple p slotId = some (.ok tuple)) :
    slotId.val.toNat < (numSlots p).toNat ∧
      (entryAt p headerEnd slotId.val.toNat).isEmpty = false ∧
      tuple.length = (entryAt p headerEnd slotId.val.toNat).length.toNat := by
  rw [layout.getTuple_eq_readSlot, Option.some_inj, readSlot_eq_ok, layout.getElem?_tupleMap]
    at read
  by_cases counted : slotId.val.toNat < (numSlots p).toNat
  · rw [if_pos counted, Option.some_inj, tupleAt] at read
    cases empty : (entryAt p headerEnd slotId.val.toNat).isEmpty with
    | true => simp [empty] at read
    | false =>
      rw [empty, if_neg Bool.false_ne_true, Option.some_inj] at read
      exact ⟨counted, rfl, by rw [← read, length_bytesAt]⟩
  · rw [if_neg counted] at read
    exact absurd read (Option.some_ne_none _).symm

theorem Layout.toNat_firstFree (layout : Layout headerEnd p) :
    (SlotMap.firstFree (tupleMap p)).toUInt16.toNat = SlotMap.firstFree (tupleMap p) := by
  have bound := SlotMap.firstFree_le (tupleMap p)
  have small := layout.numSlots_lt
  rw [length_tupleMap] at bound
  exact toNat_toUInt16 (by omega)

theorem Layout.insertTuple_gets (layout : Layout headerEnd p) {tuple : List UInt8}
    (nonempty : tuple ≠ []) (room : tuple.length + slotSize ≤ freeSpace p) :
    ∃ slotId p', SlottedPage.insertTuple p tuple = some (.ok slotId, p') ∧
      slotId.val.toNat ≤ (numSlots p).toNat ∧
      (slotId.val.toNat < (numSlots p).toNat →
        SlottedPage.getTuple p slotId = some (.error (.emptySlot slotId.val))) ∧
      (∀ other : SlotId, other.val.toNat < slotId.val.toNat →
        ∃ t, SlottedPage.getTuple p other = some (.ok t)) ∧
      SlottedPage.getTuple p' slotId = some (.ok tuple) ∧
      ∀ other : SlotId, other ≠ slotId → SlottedPage.getTuple p' other = SlottedPage.getTuple p other := by
  obtain ⟨p', inserted, layout', mapEq⟩ := layout.insertTuple_map room nonempty
  have index := layout.toNat_firstFree
  have bound := SlotMap.firstFree_le (tupleMap p)
  rw [length_tupleMap] at bound
  refine ⟨_, p', inserted, by rw [index]; exact bound, fun free => ?_, fun other below => ?_, ?_,
    fun other different => ?_⟩
  · rw [index, ← length_tupleMap] at free
    rw [layout.getTuple_eq_readSlot, readSlot, index, SlotMap.getElem?_firstFree free]
  · rw [index] at below
    obtain ⟨t, taken⟩ := SlotMap.taken_of_lt_firstFree below
    exact ⟨t, by rw [layout.getTuple_eq_readSlot, readSlot, taken]⟩
  · rw [layout'.getTuple_eq_readSlot, mapEq, readSlot, index, SlotMap.getElem?_insert, if_pos rfl]
  · have elsewhere : other.val.toNat ≠ SlotMap.firstFree (tupleMap p) := fun same =>
      different (slotId_eq_of_toNat same)
    apply getTuple_congr layout layout'
    rw [mapEq, SlotMap.getElem?_insert, if_neg elsewhere]

theorem Layout.deleteTuple_gets (layout : Layout headerEnd p) {slotId : SlotId}
    (counted : slotId.val.toNat < (numSlots p).toNat) :
    ∃ p', SlottedPage.deleteTuple p slotId = some (.ok (), p') ∧
      SlottedPage.getTuple p' slotId = some (.error (.emptySlot slotId.val)) ∧
      ∀ other : SlotId, other ≠ slotId → SlottedPage.getTuple p' other = SlottedPage.getTuple p other := by
  obtain ⟨p', deleted, layout', mapEq⟩ := layout.deleteTuple_map counted
  have inside : slotId.val.toNat < (tupleMap p).length := by
    rw [length_tupleMap]
    exact counted
  refine ⟨p', deleted, ?_, fun other different => ?_⟩
  · rw [layout'.getTuple_eq_readSlot, mapEq, readSlot, SlotMap.getElem?_erase,
      if_pos ⟨rfl, inside⟩]
  · have elsewhere : ¬(other.val.toNat = slotId.val.toNat ∧ slotId.val.toNat < (tupleMap p).length) :=
      fun both => different (slotId_eq_of_toNat both.1 |>.trans (slotId_eq_of_toNat rfl).symm)
    apply getTuple_congr layout layout'
    rw [mapEq, SlotMap.getElem?_erase, if_neg elsewhere]

theorem Layout.updateTuple_gets (layout : Layout headerEnd p) {slotId : SlotId}
    {tuple newData : List UInt8} (read : SlottedPage.getTuple p slotId = some (.ok tuple))
    (nonempty : newData ≠ []) (short : newData.length ≤ tuple.length) :
    ∃ p', SlottedPage.updateTuple p slotId newData = some (.ok (), p') ∧
      SlottedPage.getTuple p' slotId = some (.ok newData) ∧
      ∀ other : SlotId, other ≠ slotId → SlottedPage.getTuple p' other = SlottedPage.getTuple p other := by
  obtain ⟨counted, live, length⟩ := layout.live_of_getTuple read
  obtain ⟨p', updated, layout', mapEq⟩ :=
    layout.updateTuple_map counted live (length ▸ short) nonempty
  have inside : slotId.val.toNat < (tupleMap p).length := by
    rw [length_tupleMap]
    exact counted
  refine ⟨p', updated, ?_, fun other different => ?_⟩
  · rw [layout'.getTuple_eq_readSlot, mapEq, readSlot, SlotMap.getElem?_update,
      if_pos ⟨rfl, inside⟩]
  · have elsewhere : ¬(other.val.toNat = slotId.val.toNat ∧ slotId.val.toNat < (tupleMap p).length) :=
      fun both => different (slotId_eq_of_toNat both.1 |>.trans (slotId_eq_of_toNat rfl).symm)
    apply getTuple_congr layout layout'
    rw [mapEq, SlotMap.getElem?_update, if_neg elsewhere]

theorem Layout.compact_gets (layout : Layout headerEnd p) :
    ∃ p', SlottedPage.compact p = some p' ∧
      (∀ slotId, SlottedPage.getTuple p' slotId = SlottedPage.getTuple p slotId) ∧
      freeSpace p' = pageSize - (freeSpaceStart p').toNat - SlotMap.total List.length (tupleMap p) := by
  obtain ⟨p', compacted, layout', mapEq, free⟩ := layout.compact_map
  exact ⟨p', compacted, fun slotId => getTuple_congr layout layout' (by rw [mapEq]), free⟩

theorem Layout.slotIds_gets (layout : Layout headerEnd p) :
    ∃ ids : List SlotId, slotIds p = some ids ∧ tupleCount p = some ids.length ∧
      ids.Pairwise (fun a b => a.val < b.val) ∧
      ∀ slotId : SlotId, slotId ∈ ids ↔ ∃ t, SlottedPage.getTuple p slotId = some (.ok t) := by
  have small : ∀ i ∈ SlotMap.keys (tupleMap p), i.toUInt16.toNat = i := fun i member => by
    have inside := SlotMap.lt_of_mem_keys member
    rw [length_tupleMap] at inside
    exact layout.toNat_slot inside
  refine ⟨_, layout.slotIds_eq, by rw [tupleCount, layout.slotIds_eq]; rfl, ?_, fun slotId => ?_⟩
  · rw [List.pairwise_map]
    refine (SlotMap.keys_sorted _).imp_of_mem fun memberA memberB below => ?_
    rw [UInt16.lt_iff_toNat_lt, small _ memberA, small _ memberB]
    exact below
  · constructor
    · intro listed
      obtain ⟨i, member, rfl⟩ := List.mem_map.mp listed
      obtain ⟨t, taken⟩ := SlotMap.mem_keys.mp member
      refine ⟨t, ?_⟩
      rw [layout.getTuple_eq_readSlot, readSlot, small i member, taken]
    · rintro ⟨t, read⟩
      rw [layout.getTuple_eq_readSlot, Option.some_inj, readSlot_eq_ok] at read
      exact List.mem_map.mpr ⟨_, SlotMap.mem_keys.mpr ⟨t, read⟩, (slotId_eq_of_toNat rfl).symm⟩

end Reads

/-- On every page a run of tuple operations reaches, the operations act on the map of slot ids to
tuples that `get_tuple` reads. -/
theorem tupleOps_act_as_map (reached : Reachable headerEnd p) :
    (∀ tuple : List UInt8, freeSpace p < tuple.length + slotSize →
      insertTuple p tuple =
        some (.error (.pageOverflow tuple.length (freeSpace p - slotSize)), p)) ∧
    (∀ tuple : List UInt8, tuple ≠ [] → tuple.length + slotSize ≤ freeSpace p →
      ∃ slotId p', insertTuple p tuple = some (.ok slotId, p') ∧
        slotId.val.toNat ≤ (numSlots p).toNat ∧
        (slotId.val.toNat < (numSlots p).toNat →
          getTuple p slotId = some (.error (.emptySlot slotId.val))) ∧
        (∀ other : SlotId, other.val.toNat < slotId.val.toNat →
          ∃ t, getTuple p other = some (.ok t)) ∧
        getTuple p' slotId = some (.ok tuple) ∧
        ∀ other : SlotId, other ≠ slotId → getTuple p' other = getTuple p other) ∧
    (∀ slotId : SlotId, slotId.val.toNat < (numSlots p).toNat →
      ∃ p', deleteTuple p slotId = some (.ok (), p') ∧
        getTuple p' slotId = some (.error (.emptySlot slotId.val)) ∧
        ∀ other : SlotId, other ≠ slotId → getTuple p' other = getTuple p other) ∧
    (∀ (slotId : SlotId) (tuple newData : List UInt8), getTuple p slotId = some (.ok tuple) →
      newData ≠ [] → newData.length ≤ tuple.length →
      ∃ p', updateTuple p slotId newData = some (.ok (), p') ∧
        getTuple p' slotId = some (.ok newData) ∧
        ∀ other : SlotId, other ≠ slotId → getTuple p' other = getTuple p other) ∧
    (∃ p', compact p = some p' ∧ (∀ slotId, getTuple p' slotId = getTuple p slotId) ∧
      freeSpace p' = pageSize - (freeSpaceStart p').toNat - SlotMap.total List.length (tupleMap p)) ∧
    ∃ ids : List SlotId, slotIds p = some ids ∧ tupleCount p = some ids.length ∧
      ids.Pairwise (fun a b => a.val < b.val) ∧
      ∀ slotId : SlotId, slotId ∈ ids ↔ ∃ t, getTuple p slotId = some (.ok t) := by
  have layout := layout_of_reachable reached
  exact ⟨fun _ short => insertTuple_overflow short,
    fun _ nonempty room => layout.insertTuple_gets nonempty room,
    fun _ counted => layout.deleteTuple_gets counted,
    fun _ _ _ read nonempty short => layout.updateTuple_gets read nonempty short,
    layout.compact_gets, layout.slotIds_gets⟩

def live : PageData :=
  (liveCalls.foldlM Call.run (init (PageId.new 1))).getD (init (PageId.new 1))

theorem tupleOps_act_as_map_live :
    Reachable headerSize live ∧ numSlots live = 3 ∧ getTuple live ⟨0⟩ = some (.ok [1, 2, 3]) ∧
      getTuple live ⟨1⟩ = some (.error (.emptySlot 1)) ∧ getTuple live ⟨2⟩ = some (.ok [6]) ∧
      (∀ tuple : List UInt8, freeSpace live < tuple.length + slotSize →
        insertTuple live tuple =
          some (.error (.pageOverflow tuple.length (freeSpace live - slotSize)), live)) ∧
      (∀ tuple : List UInt8, tuple ≠ [] → tuple.length + slotSize ≤ freeSpace live →
        ∃ slotId p', insertTuple live tuple = some (.ok slotId, p') ∧
          slotId.val.toNat ≤ (numSlots live).toNat ∧
          (slotId.val.toNat < (numSlots live).toNat →
            getTuple live slotId = some (.error (.emptySlot slotId.val))) ∧
          (∀ other : SlotId, other.val.toNat < slotId.val.toNat →
            ∃ t, getTuple live other = some (.ok t)) ∧
          getTuple p' slotId = some (.ok tuple) ∧
          ∀ other : SlotId, other ≠ slotId → getTuple p' other = getTuple live other) ∧
      (∀ slotId : SlotId, slotId.val.toNat < (numSlots live).toNat →
        ∃ p', deleteTuple live slotId = some (.ok (), p') ∧
          getTuple p' slotId = some (.error (.emptySlot slotId.val)) ∧
          ∀ other : SlotId, other ≠ slotId → getTuple p' other = getTuple live other) ∧
      (∀ (slotId : SlotId) (tuple newData : List UInt8), getTuple live slotId = some (.ok tuple) →
        newData ≠ [] → newData.length ≤ tuple.length →
        ∃ p', updateTuple live slotId newData = some (.ok (), p') ∧
          getTuple p' slotId = some (.ok newData) ∧
          ∀ other : SlotId, other ≠ slotId → getTuple p' other = getTuple live other) ∧
      (∃ p', compact live = some p' ∧ (∀ slotId, getTuple p' slotId = getTuple live slotId) ∧
        freeSpace p' = pageSize - (freeSpaceStart p').toNat -
          SlotMap.total List.length (tupleMap live)) ∧
      ∃ ids : List SlotId, slotIds live = some ids ∧ tupleCount live = some ids.length ∧
        ids.Pairwise (fun a b => a.val < b.val) ∧
        ∀ slotId : SlotId, slotId ∈ ids ↔ ∃ t, getTuple live slotId = some (.ok t) :=
  have ran : liveCalls.foldlM Call.run (init (PageId.new 1)) = some live := rfl
  have reached : Reachable headerSize live :=
    Reachability.Reachable.foldlM (fun _ call _ ran => ⟨call, ran⟩) liveCalls
      (Reachability.Reachable.initial (Or.inl ⟨rfl, _, rfl⟩)) ran
  ⟨reached, by decide, by decide, by decide, by decide, tupleOps_act_as_map reached⟩

/-- An empty tuple is stored, but its slot reads as empty and is handed out again. -/
theorem insertTuple_nil_reads_empty :
    ∃ p', insertTuple (init (PageId.new 1)) [] = some (.ok ⟨0⟩, p') ∧
      getTuple p' ⟨0⟩ = some (.error (.emptySlot 0)) ∧
      ∃ p'', insertTuple p' [7] = some (.ok ⟨0⟩, p'') :=
  ⟨_, rfl, by decide, _, rfl⟩

end SlottedPage

end Crio
