import Crio.Index.BTreePage
import Crio.Lib.IndexLoops

/-!
The node a `BTreeNode` page holds, and what each operation of `btree_page.rs` does to it.
Each operation has an `Inside` form, its statements with every access inside the page, and
its `_refines` lemma over `toNode`.
-/

namespace Crio

namespace BTreePage

open ByteBuffer IndexLoops

/-- The node the page holds; `none` when a read runs past the page. -/
def decode (p : PageData) : Option Node := do
  let numKeys := (numKeys p).toNat
  let keys ← (List.range numKeys).mapM (getKey p)
  let values ← if isLeaf p then (List.range numKeys).mapM (getValue p) else pure []
  let children ← if isLeaf p then pure [] else (List.range (numKeys + 1)).mapM (getChild p)
  pure ⟨pageId p, isLeaf p, keys, values, children, nextPageId p, prevPageId p, parentPageId p⟩

def toNode (p : PageData) : Node :=
  let numKeys := (numKeys p).toNat
  ⟨pageId p, isLeaf p, (List.range numKeys).map (keyAt p),
    if isLeaf p then (List.range numKeys).map (valueAt p · numKeys) else [],
    if isLeaf p then [] else (List.range (numKeys + 1)).map (childAt p · numKeys),
    nextPageId p, prevPageId p, parentPageId p⟩

def LeafFits (n : Nat) : Prop := headerSize + n * (keySize + valueSize) ≤ pageSize

def InternalFits (n : Nat) : Prop := headerSize + n * keySize + (n + 1) * childSize ≤ pageSize

def Fits (p : PageData) : Prop :=
  if isLeaf p then LeafFits (numKeys p).toNat else InternalFits (numKeys p).toNat

section Bounds

variable {n : Nat}

theorem LeafFits.mono {m : Nat} (fits : LeafFits m) (le : n ≤ m) : LeafFits n := by
  unfold LeafFits keySize valueSize at *
  omega

theorem InternalFits.mono {m : Nat} (fits : InternalFits m) (le : n ≤ m) : InternalFits n := by
  unfold InternalFits keySize childSize at *
  omega

theorem LeafFits.value (fits : LeafFits n) {i : Nat} (inside : i < n) :
    valueOffset i n + valueSize ≤ pageSize := by
  have := offsets i n
  unfold LeafFits headerSize keySize valueSize at fits
  unfold valueSize
  omega

theorem LeafFits.keyInside (fits : LeafFits n) {i : Nat} (inside : i < n) :
    keyOffset i + keySize ≤ pageSize := by
  have := offsets i n
  unfold LeafFits headerSize keySize valueSize at fits
  unfold keySize
  omega

theorem InternalFits.keyInside (fits : InternalFits n) {i : Nat} (inside : i < n) :
    keyOffset i + keySize ≤ pageSize := by
  have := offsets i n
  unfold InternalFits headerSize keySize childSize at fits
  unfold keySize
  omega

theorem InternalFits.child (fits : InternalFits n) {i : Nat} (inside : i ≤ n) :
    childOffset i n + childSize ≤ pageSize := by
  have := offsets i n
  unfold InternalFits headerSize keySize childSize at fits
  unfold childSize
  omega

theorem LeafFits.small (fits : LeafFits n) : n < 2 ^ 16 := by
  unfold LeafFits headerSize keySize valueSize pageSize at fits
  omega

theorem InternalFits.small (fits : InternalFits n) : n < 2 ^ 16 := by
  unfold InternalFits headerSize keySize childSize pageSize at fits
  omega

theorem LeafFits.separator (fits : LeafFits n) : keyOffset (n / 2) + keySize ≤ pageSize := by
  have := offsets (n / 2) 0
  unfold LeafFits headerSize keySize valueSize pageSize at *
  omega

theorem InternalFits.separator (fits : InternalFits n) :
    keyOffset (n / 2) + keySize ≤ pageSize := by
  have := offsets (n / 2) 0
  unfold InternalFits headerSize keySize childSize pageSize at *
  omega

theorem Fits.keyInside {p : PageData} (fits : Fits p) {i : Nat}
    (inside : i < (numKeys p).toNat) : keyOffset i + keySize ≤ pageSize := by
  unfold Fits at fits
  split at fits
  · exact LeafFits.keyInside fits inside
  · exact InternalFits.keyInside fits inside

end Bounds

theorem decode_eq {p : PageData} (fits : Fits p) : decode p = some (toNode p) := by
  unfold Fits at fits
  cases leaf : isLeaf p with
  | true =>
    rw [leaf, if_pos rfl] at fits
    have keys : (List.range (numKeys p).toNat).mapM (getKey p) =
        some ((List.range (numKeys p).toNat).map (keyAt p)) :=
      mapM_eq_some_map fun i member => getKey_of_fits p (fits.keyInside (List.mem_range.mp member))
    have values : (List.range (numKeys p).toNat).mapM (getValue p) =
        some ((List.range (numKeys p).toNat).map (valueAt p · (numKeys p).toNat)) :=
      mapM_eq_some_map fun i member => getValueAt_of_fits p (fits.value (List.mem_range.mp member))
    simp only [decode, toNode, leaf, keys, values, if_true, Option.bind_eq_bind, Option.bind_some]
    rfl
  | false =>
    rw [leaf, if_neg Bool.false_ne_true] at fits
    have keys : (List.range (numKeys p).toNat).mapM (getKey p) =
        some ((List.range (numKeys p).toNat).map (keyAt p)) :=
      mapM_eq_some_map fun i member => getKey_of_fits p (fits.keyInside (List.mem_range.mp member))
    have children : (List.range ((numKeys p).toNat + 1)).mapM (getChild p) =
        some ((List.range ((numKeys p).toNat + 1)).map (childAt p · (numKeys p).toNat)) :=
      mapM_eq_some_map fun i member =>
        getChildAt_of_fits p (fits.child (Nat.lt_succ_iff.mp (List.mem_range.mp member)))
    simp only [decode, toNode, leaf, keys, children, Bool.false_eq_true, if_false,
      Option.bind_eq_bind, Option.bind_some]
    rfl

section Search

variable {p : PageData} {key : UInt32} {n : Nat}

theorem searchKeyLoop_eq (keysFit : ∀ i < n, keyOffset i + keySize ≤ pageSize) :
    ∀ fuel left right, right ≤ n →
      searchKeyLoop p key fuel left right =
        some (Node.searchKeyLoop ((List.range n).map (keyAt p)) key fuel left right)
  | 0, _, _, _ => rfl
  | fuel + 1, left, right, bound => by
    unfold searchKeyLoop Node.searchKeyLoop
    by_cases open_ : left < right
    · have inside : left + (right - left) / 2 < n := by omega
      have read : ((List.range n).map (keyAt p)).getD (left + (right - left) / 2) 0 =
          keyAt p (left + (right - left) / 2) := by
        simp [List.getD_eq_getElem?_getD, inside]
      simp only [if_pos open_, getKey_of_fits p (keysFit _ inside), Option.bind_eq_bind,
        Option.bind_some, read]
      split
      · exact searchKeyLoop_eq keysFit fuel _ right bound
      · exact searchKeyLoop_eq keysFit fuel left _ (by omega)
    · simp only [if_neg open_]

theorem searchKey_eq (keysFit : ∀ i < (numKeys p).toNat, keyOffset i + keySize ≤ pageSize) :
    searchKey p key = some ((toNode p).searchKey key) := by
  have length : ((List.range (numKeys p).toNat).map (keyAt p)).length = (numKeys p).toNat := by
    simp
  rw [searchKey, searchKeyLoop_eq keysFit _ 0 _ le_rfl, Node.searchKey]
  simp only [toNode, length]

end Search

section Shift

def shiftStep (q : PageData) (i : Nat) : PageData := writeKey q (i + 1) (keyAt q i)

theorem keyAt_foldl_shiftStep (p : PageData) (pos : Nat) :
    ∀ count, keyOffset (pos + count) + keySize ≤ pageSize → ∀ j,
      keyAt ((List.range' pos count).reverse.foldl shiftStep p) j =
        if pos < j ∧ j ≤ pos + count then keyAt p (j - 1) else keyAt p j
  | 0, _, j => by
    rw [List.range'_zero, List.reverse_nil, List.foldl_nil, if_neg (by omega)]
  | count + 1, fits, j => by
    have lowerFits : keyOffset (pos + count) + keySize ≤ pageSize := by
      have := offsets (pos + count) 0; have := offsets (pos + (count + 1)) 0
      unfold keySize at *
      omega
    rw [List.range'_concat, Nat.one_mul, List.reverse_append, List.reverse_singleton,
      List.singleton_append, List.foldl_cons, keyAt_foldl_shiftStep _ pos count lowerFits j,
      shiftStep]
    have topFits : keyOffset (pos + count + 1) + keySize ≤ pageSize := fits
    simp only [keyAt_writeKey _ _ topFits]
    by_cases early : j ≤ pos + count
    · have notTop : j ≠ pos + count + 1 := by omega
      have notTop' : j - 1 ≠ pos + count + 1 := by omega
      simp only [notTop, notTop', if_false]
      by_cases after : pos < j
      · rw [if_pos ⟨after, early⟩, if_pos ⟨after, by omega⟩]
      · rw [if_neg (fun moved => after moved.1), if_neg (fun moved => after moved.1)]
    · rw [if_neg (fun moved => early moved.2)]
      by_cases top : j = pos + count + 1
      · subst top
        rw [if_pos rfl, if_pos ⟨by omega, le_rfl⟩, Nat.add_sub_cancel]
      · rw [if_neg top, if_neg (fun moved => top (by omega))]

theorem header_foldl_shiftStep (p : PageData) (l : List Nat) :
    header (l.foldl shiftStep p) = header p :=
  foldl_keeps (fun q => header q = header p) (fun q i _ kept => by rw [shiftStep, header_writeKey, kept])
    rfl

theorem shiftKeys_eq (p : PageData) {pos n : Nat} (le : pos ≤ n)
    (fits : keyOffset n + keySize ≤ pageSize) :
    shiftKeys p pos n = some ((List.range' pos (n - pos)).reverse.foldl shiftStep p) := by
  refine foldlM_eq_some_foldl p fun q i member => ?_
  have below : i < n := by
    have := List.mem_range'.mp (List.mem_reverse.mp member)
    omega
  have readFits : keyOffset i + keySize ≤ pageSize := by
    have := offsets i 0; have := offsets n 0; unfold keySize at *; omega
  have writeFits : keyOffset (i + 1) + keySize ≤ pageSize := by
    have := offsets (i + 1) 0; have := offsets n 0; unfold keySize at *; omega
  simp only [getKey_of_fits q readFits, Option.bind_eq_bind, Option.bind_some,
    setKey_of_fits q _ writeFits, shiftStep]

end Shift

def KeptBelow (lo : Nat) (q q' : PageData) : Prop := ∀ j < lo, byteAt q' j = byteAt q j

section Kept

variable {lo : Nat} {q q' q'' : PageData}

theorem KeptBelow.refl (q : PageData) : KeptBelow lo q q := fun _ _ => rfl

theorem KeptBelow.trans (first : KeptBelow lo q q') (second : KeptBelow lo q' q'') :
    KeptBelow lo q q'' :=
  fun j below => (second j below).trans (first j below)

theorem keptBelow_overwrite (q : PageData) {off : Nat} (src : List UInt8) (le : lo ≤ off) :
    KeptBelow lo q (overwrite q off src) :=
  fun _ below => byteAt_overwrite_outside q (Or.inl (by omega))

theorem keptBelow_writeKey (q : PageData) {i : Nat} (key : UInt32) (le : lo ≤ keyOffset i) :
    KeptBelow lo q (writeKey q i key) :=
  keptBelow_overwrite q _ le

theorem keptBelow_writeValue (q : PageData) {i m : Nat} (value : RecordId)
    (le : lo ≤ valueOffset i m) : KeptBelow lo q (writeValue q i value m) :=
  (keptBelow_overwrite q _ le).trans (keptBelow_overwrite _ _ (by omega))

theorem keptBelow_writeChild (q : PageData) {i m : Nat} (child : PageId)
    (le : lo ≤ childOffset i m) : KeptBelow lo q (writeChild q i child m) :=
  keptBelow_overwrite q _ le

theorem keptBelow_foldl {α : Type} {step : PageData → α → PageData} {l : List α}
    (each : ∀ r, ∀ a ∈ l, KeptBelow lo r (step r a)) (q : PageData) :
    KeptBelow lo q (l.foldl step q) :=
  foldl_keeps (KeptBelow lo q) (fun r a member kept => kept.trans (each r a member))
    (KeptBelow.refl q)

theorem KeptBelow.getU32_eq (kept : KeptBelow lo q q') {off : Nat} (below : off + 4 ≤ lo) :
    getU32 q' off = getU32 q off := by
  rw [getU32, getU32, field_congr fun i inside => kept (off + i) (by omega)]

theorem KeptBelow.keyAt (kept : KeptBelow lo q q') {j : Nat} (below : keyOffset j + keySize ≤ lo) :
    keyAt q' j = keyAt q j :=
  kept.getU32_eq below

theorem KeptBelow.header (kept : KeptBelow lo q q') (le : headerSize ≤ lo) :
    header q' = header q := by
  unfold headerSize at le
  simp only [BTreePage.header, pageId, isLeaf, nextPageId, prevPageId, parentPageId, link,
    kept.getU32_eq (show pageIdOffset + 4 ≤ lo by unfold pageIdOffset; omega),
    kept.getU32_eq (show nextPageOffset + 4 ≤ lo by unfold nextPageOffset; omega),
    kept.getU32_eq (show prevPageOffset + 4 ≤ lo by unfold prevPageOffset; omega),
    kept.getU32_eq (show parentPageOffset + 4 ≤ lo by unfold parentPageOffset; omega),
    kept isLeafOffset (by unfold isLeafOffset; omega)]

theorem KeptBelow.numKeys (kept : KeptBelow lo q q') (le : headerSize ≤ lo) :
    numKeys q' = numKeys q := by
  rw [BTreePage.numKeys, BTreePage.numKeys, getU16, getU16,
    field_congr fun i inside => kept (numKeysOffset + i) (by unfold numKeysOffset headerSize at *; omega)]

end Kept

theorem toNode_of_leaf {p q : PageData} (leaf : isLeaf p = true) (headerEq : header q = header p)
    {keys : List UInt32} {values : List RecordId} (count : (numKeys q).toNat = keys.length)
    (keysRead : (List.range keys.length).map (keyAt q) = keys)
    (valuesRead : (List.range keys.length).map (valueAt q · keys.length) = values) :
    toNode q = { toNode p with keys, values } := by
  simp only [header, Header.mk.injEq] at headerEq
  obtain ⟨pageIdEq, isLeafEq, nextEq, prevEq, parentEq⟩ := headerEq
  simp only [toNode, count, keysRead, valuesRead, pageIdEq, isLeafEq, nextEq, prevEq, parentEq,
    leaf, if_true]

theorem toNode_of_internal {p q : PageData} (internal : isLeaf p = false)
    (headerEq : header q = header p) {keys : List UInt32} {children : List PageId}
    (count : (numKeys q).toNat = keys.length)
    (keysRead : (List.range keys.length).map (keyAt q) = keys)
    (childrenRead : (List.range (keys.length + 1)).map (childAt q · keys.length) = children) :
    toNode q = { toNode p with keys, children } := by
  simp only [header, Header.mk.injEq] at headerEq
  obtain ⟨pageIdEq, isLeafEq, nextEq, prevEq, parentEq⟩ := headerEq
  simp only [toNode, count, keysRead, childrenRead, pageIdEq, isLeafEq, nextEq, prevEq, parentEq,
    internal, Bool.false_eq_true, if_false]

theorem decode_of_toNode {q : PageData} {node : Node} (read : toNode q = node)
    (fits : if node.isLeaf then LeafFits node.keys.length else InternalFits node.keys.length) :
    decode q = some node := by
  have count : node.keys.length = (numKeys q).toNat := by rw [← read]; simp [toNode]
  have flag : node.isLeaf = isLeaf q := by rw [← read]; rfl
  rw [← read, decode_eq]
  unfold Fits
  rwa [← count, ← flag]

section InsertKey

variable {p : PageData} {key : UInt32} {pos n : Nat}

theorem searchKey_le_numKeys (key : UInt32) : (toNode p).searchKey key ≤ (numKeys p).toNat := by
  simpa [toNode] using Node.searchKey_le (toNode p) key

def insertKeyInside (p : PageData) (key : UInt32) (pos n : Nat) : PageData :=
  writeKey (setNumKeys ((List.range' pos (n - pos)).reverse.foldl shiftStep p) (n + 1).toUInt16)
    pos key

theorem keyAt_insertKeyInside (le : pos ≤ n) (fits : keyOffset n + keySize ≤ pageSize) {j : Nat}
    (inside : j ≤ n) : keyAt (insertKeyInside p key pos n) j =
      if j < pos then keyAt p j else if j = pos then key else keyAt p (j - 1) := by
  have posFits : keyOffset pos + keySize ≤ pageSize := by
    have := offsets pos 0; have := offsets n 0; unfold keySize at *; omega
  have shifted := keyAt_foldl_shiftStep p pos (n - pos) (by rwa [Nat.add_sub_cancel' le]) j
  rw [Nat.add_sub_cancel' le] at shifted
  rw [insertKeyInside, keyAt_writeKey _ _ posFits, keyAt_setNumKeys, shifted]
  by_cases early : j < pos
  · rw [if_neg (by omega), if_neg (by omega), if_pos early]
  · by_cases atPos : j = pos
    · rw [if_pos atPos, if_neg early, if_pos atPos]
    · rw [if_neg atPos, if_pos ⟨by omega, inside⟩, if_neg early, if_neg atPos]

theorem header_insertKeyInside : header (insertKeyInside p key pos n) = header p := by
  rw [insertKeyInside, header_writeKey, header_setNumKeys, header_foldl_shiftStep]

theorem numKeys_insertKeyInside : numKeys (insertKeyInside p key pos n) = (n + 1).toUInt16 := by
  rw [insertKeyInside, numKeys_writeKey, numKeys_setNumKeys]

theorem keys_of_insertKeyInside {r : PageData} (le : pos ≤ n)
    (fits : keyOffset n + keySize ≤ pageSize)
    (same : ∀ j ≤ n, keyAt r j = keyAt (insertKeyInside p key pos n) j) :
    (List.range (n + 1)).map (keyAt r) = ((List.range n).map (keyAt p)).insertIdx pos key := by
  refine map_range_succ_eq_insertIdx le (fun j early => ?_) ?_ (fun j late inside => ?_)
  · rw [same j (by omega), keyAt_insertKeyInside le fits (by omega), if_pos early]
  · rw [same pos le, keyAt_insertKeyInside le fits le, if_neg (Nat.lt_irrefl pos), if_pos rfl]
  · rw [same j inside, keyAt_insertKeyInside le fits inside, if_neg (by omega), if_neg (by omega)]

theorem insertKeyInside_kept {r : PageData} (le : pos ≤ n) (small : n + 1 < 2 ^ 16)
    (fits : keyOffset n + keySize ≤ pageSize)
    (kept : KeptBelow (headerSize + (n + 1) * keySize) (insertKeyInside p key pos n) r) :
    header r = header p ∧ (numKeys r).toNat = n + 1 ∧
      (List.range (n + 1)).map (keyAt r) = ((List.range n).map (keyAt p)).insertIdx pos key := by
  refine ⟨?_, ?_, keys_of_insertKeyInside le fits fun j inside => kept.keyAt ?_⟩
  · rw [kept.header (by unfold headerSize; omega), header_insertKeyInside]
  · rw [kept.numKeys (by unfold headerSize; omega), numKeys_insertKeyInside, toNat_toUInt16 small]
  · have := offsets j 0
    unfold headerSize keySize at *
    omega

theorem length_insertIdx_searchKey (key : UInt32) :
    ((toNode p).keys.insertIdx ((toNode p).searchKey key) key).length = (numKeys p).toNat + 1 := by
  rw [List.length_insertIdx_of_le_length (Node.searchKey_le _ key)]
  simp [toNode]

end InsertKey

section InsertKeyValue

def moveValueStep (p : PageData) (pos n : Nat) (q : PageData) (i : Nat) : PageData :=
  writeValue q (if i ≥ pos then i + 1 else i) (valueAt p i n) (n + 1)

def insertKeyValueInside (p : PageData) (key : UInt32) (value : RecordId) : PageData :=
  let n := (numKeys p).toNat
  let pos := (toNode p).searchKey key
  let q := (List.range n).foldl (moveValueStep p pos n) (insertKeyInside p key pos n)
  writeValue q pos value (n + 1)

variable {p : PageData}

theorem insertKeyValue_eq_inside (key : UInt32) (value : RecordId)
    (room : LeafFits ((numKeys p).toNat + 1)) :
    insertKeyValue p key value = some (insertKeyValueInside p key value) := by
  have fits := room.mono (Nat.le_succ _)
  have posLe := searchKey_le_numKeys (p := p) key
  have values : (List.range (numKeys p).toNat).mapM (fun i => getValueAt p i (numKeys p).toNat) =
      some ((List.range (numKeys p).toNat).map (valueAt p · (numKeys p).toNat)) :=
    mapM_eq_some_map fun i member => getValueAt_of_fits p (fits.value (List.mem_range.mp member))
  have keyFits : ∀ i ≤ (numKeys p).toNat, keyOffset i + keySize ≤ pageSize :=
    fun i inside => room.keyInside (by omega)
  simp only [insertKeyValue, insertKeyValueInside, insertKeyInside,
    searchKey_eq fun i below => keyFits i (Nat.le_of_lt below), values,
    shiftKeys_eq p posLe (keyFits _ le_rfl), setKey_of_fits _ _ (keyFits _ posLe),
    Option.bind_eq_bind, Option.bind_some]
  rw [foldlM_eq_some_foldl (g := moveValueStep p ((toNode p).searchKey key) (numKeys p).toNat) _
    fun q i member => ?_, Option.bind_some]
  · exact setValueAt_of_fits _ value (room.value (by omega))
  · have inside := List.mem_range.mp member
    simp only [List.getElem?_map, List.getElem?_range inside, Option.map_some, Option.bind_some,
      moveValueStep]
    split
    · exact setValueAt_of_fits _ _ (room.value (by omega))
    · exact setValueAt_of_fits _ _ (room.value (by omega))

theorem toNode_leaf (leaf : isLeaf p = true) :
    (toNode p).keys = (List.range (numKeys p).toNat).map (keyAt p) ∧
      (toNode p).values = (List.range (numKeys p).toNat).map (valueAt p · (numKeys p).toNat) ∧
      (toNode p).children = [] ∧ (toNode p).isLeaf = true := by
  simp [toNode, leaf]

theorem toNode_insertKeyValueInside (leaf : isLeaf p = true) (key : UInt32) (value : RecordId)
    (room : LeafFits ((numKeys p).toNat + 1)) :
    toNode (insertKeyValueInside p key value) = (toNode p).insertKeyValue key value := by
  obtain ⟨keys, values, -, -⟩ := toNode_leaf leaf
  have posLe := searchKey_le_numKeys (p := p) key
  have length := length_insertIdx_searchKey (p := p) key
  generalize count : (numKeys p).toNat = n at room posLe keys values length
  generalize searched : (toNode p).searchKey key = pos at posLe length
  simp only [insertKeyValueInside, Node.insertKeyValue, count, searched]
  set moved := (List.range n).foldl (moveValueStep p pos n) (insertKeyInside p key pos n)
  obtain ⟨headerEq, countEq, keysRead⟩ := insertKeyInside_kept posLe room.small
    (room.keyInside (Nat.lt_succ_self n))
    ((keptBelow_foldl (fun r i _ => keptBelow_writeValue r _ (Nat.le_add_right _ _)) _).trans
      (keptBelow_writeValue moved value (Nat.le_add_right _ _)))
  have writes : WritesSlot (fun q j => valueAt q j (n + 1)) (moveSlot (· ≥ pos))
      (fun i => valueAt p i n) (fun _ => True) (List.range n) (moveValueStep p pos n) := by
    intro r i member j _
    have inside := List.mem_range.mp member
    exact valueAt_writeValue r _ (room.value (by split <;> omega)) j
  have upward : ∀ a b, a ≤ b → a ≥ pos → b ≥ pos := fun _ _ le moved => Nat.le_trans moved le
  refine toNode_of_leaf leaf headerEq (countEq.trans length.symm) ?_ ?_
  · rw [length, keys]
    exact keysRead
  · rw [length, values]
    refine map_range_succ_eq_insertIdx posLe (fun j early => ?_) ?_ (fun j late inside => ?_)
    · rw [valueAt_writeValue _ _ (room.value (by omega)), if_neg (by omega),
        read_foldl_moveSlot_of_stays upward writes (by omega) (by omega)]
    · rw [valueAt_writeValue _ _ (room.value (by omega)), if_pos rfl]
    · rw [valueAt_writeValue _ _ (room.value (by omega)), if_neg (by omega),
        read_foldl_moveSlot_of_moved upward writes (by omega) inside (by omega)]

theorem insertKeyValue_refines (leaf : isLeaf p = true) (key : UInt32) (value : RecordId)
    (room : LeafFits ((numKeys p).toNat + 1)) :
    (insertKeyValue p key value).bind decode = some ((toNode p).insertKeyValue key value) := by
  rw [insertKeyValue_eq_inside key value room, Option.bind_some]
  refine decode_of_toNode (toNode_insertKeyValueInside leaf key value room) ?_
  simp only [Node.insertKeyValue, (toNode_leaf leaf).2.2.2, if_true, length_insertIdx_searchKey]
  exact room

end InsertKeyValue

section InsertKeyChild

def moveChildStep (p : PageData) (pos n : Nat) (q : PageData) (i : Nat) : PageData :=
  writeChild q (if i > pos then i + 1 else i) (childAt p i n) (n + 1)

def insertKeyChildInside (p : PageData) (key : UInt32) (child : PageId) : PageData :=
  let n := (numKeys p).toNat
  let pos := (toNode p).searchKey key
  let q := (List.range (n + 1)).foldl (moveChildStep p pos n) (insertKeyInside p key pos n)
  writeChild q (pos + 1) child (n + 1)

variable {p : PageData}

theorem insertKeyChild_eq_inside (key : UInt32) (child : PageId)
    (room : InternalFits ((numKeys p).toNat + 1)) :
    insertKeyChild p key child = some (insertKeyChildInside p key child) := by
  have fits := room.mono (Nat.le_succ _)
  have posLe := searchKey_le_numKeys (p := p) key
  have children : (List.range ((numKeys p).toNat + 1)).mapM
      (fun i => getChildAt p i (numKeys p).toNat) =
      some ((List.range ((numKeys p).toNat + 1)).map (childAt p · (numKeys p).toNat)) :=
    mapM_eq_some_map fun i member =>
      getChildAt_of_fits p (fits.child (Nat.lt_succ_iff.mp (List.mem_range.mp member)))
  have keyFits : ∀ i ≤ (numKeys p).toNat, keyOffset i + keySize ≤ pageSize :=
    fun i inside => room.keyInside (by omega)
  simp only [insertKeyChild, insertKeyChildInside, insertKeyInside,
    searchKey_eq fun i below => keyFits i (Nat.le_of_lt below), children,
    shiftKeys_eq p posLe (keyFits _ le_rfl), setKey_of_fits _ _ (keyFits _ posLe),
    Option.bind_eq_bind, Option.bind_some]
  rw [foldlM_eq_some_foldl (g := moveChildStep p ((toNode p).searchKey key) (numKeys p).toNat) _
    fun q i member => ?_, Option.bind_some]
  · exact setChildAt_of_fits _ child (room.child (by omega))
  · have inside := List.mem_range.mp member
    simp only [List.getElem?_map, List.getElem?_range inside, Option.map_some, Option.bind_some,
      moveChildStep]
    split
    · exact setChildAt_of_fits _ _ (room.child (by omega))
    · exact setChildAt_of_fits _ _ (room.child (by omega))

theorem toNode_internal (internal : isLeaf p = false) :
    (toNode p).keys = (List.range (numKeys p).toNat).map (keyAt p) ∧
      (toNode p).children =
        (List.range ((numKeys p).toNat + 1)).map (childAt p · (numKeys p).toNat) ∧
      (toNode p).values = [] ∧ (toNode p).isLeaf = false := by
  simp [toNode, internal]

theorem toNode_insertKeyChildInside (internal : isLeaf p = false) (key : UInt32)
    (child : PageId) (room : InternalFits ((numKeys p).toNat + 1)) :
    toNode (insertKeyChildInside p key child) = (toNode p).insertKeyChild key child := by
  obtain ⟨keys, children, -, -⟩ := toNode_internal internal
  have posLe := searchKey_le_numKeys (p := p) key
  have length := length_insertIdx_searchKey (p := p) key
  generalize count : (numKeys p).toNat = n at room posLe keys children length
  generalize searched : (toNode p).searchKey key = pos at posLe length
  simp only [insertKeyChildInside, Node.insertKeyChild, count, searched]
  set moved := (List.range (n + 1)).foldl (moveChildStep p pos n) (insertKeyInside p key pos n)
  obtain ⟨headerEq, countEq, keysRead⟩ := insertKeyInside_kept posLe room.small
    (room.keyInside (Nat.lt_succ_self n))
    ((keptBelow_foldl (fun r i _ => keptBelow_writeChild r _ (Nat.le_add_right _ _)) _).trans
      (keptBelow_writeChild moved child (Nat.le_add_right _ _)))
  have writes : WritesSlot (fun q j => childAt q j (n + 1)) (moveSlot (· > pos))
      (fun i => childAt p i n) (fun _ => True) (List.range (n + 1)) (moveChildStep p pos n) := by
    intro r i member j _
    have inside := List.mem_range.mp member
    exact childAt_writeChild r _ (room.child (by split <;> omega)) j
  have upward : ∀ a b, a ≤ b → a > pos → b > pos := fun _ _ le moved => Nat.lt_of_lt_of_le moved le
  refine toNode_of_internal internal headerEq (countEq.trans length.symm) ?_ ?_
  · rw [length, keys]
    exact keysRead
  · rw [length, children]
    refine map_range_succ_eq_insertIdx (Nat.succ_le_succ posLe) (fun j early => ?_) ?_
      (fun j late inside => ?_)
    · rw [childAt_writeChild _ _ (room.child (by omega)), if_neg (by omega),
        read_foldl_moveSlot_of_stays upward writes (by omega) (by omega)]
    · rw [childAt_writeChild _ _ (room.child (by omega)), if_pos rfl]
    · rw [childAt_writeChild _ _ (room.child (by omega)), if_neg (by omega),
        read_foldl_moveSlot_of_moved upward writes (by omega) inside (by omega)]

theorem insertKeyChild_refines (internal : isLeaf p = false) (key : UInt32) (child : PageId)
    (room : InternalFits ((numKeys p).toNat + 1)) :
    (insertKeyChild p key child).bind decode = some ((toNode p).insertKeyChild key child) := by
  rw [insertKeyChild_eq_inside key child room, Option.bind_some]
  refine decode_of_toNode (toNode_insertKeyChildInside internal key child room) ?_
  simp only [Node.insertKeyChild, (toNode_internal internal).2.2.2, Bool.false_eq_true, if_false,
    length_insertIdx_searchKey]
  exact room

end InsertKeyChild

section Split

def rewriteValueStep (p : PageData) (n mid : Nat) (q : PageData) (i : Nat) : PageData :=
  writeValue q i (valueAt p i n) mid

def splitLeafInside (p : PageData) : (UInt32 × List KeyValuePair) × PageData :=
  let n := (numKeys p).toNat
  let mid := n / 2
  ((keyAt p mid, (List.range' mid (n - mid)).map fun i => ⟨keyAt p i, valueAt p i n⟩),
    (List.range mid).foldl (rewriteValueStep p n mid) (setNumKeys p mid.toUInt16))

variable {p : PageData}

theorem setNumKeys_kept {r : PageData} {mid n : Nat} (le : mid ≤ n) (small : mid < 2 ^ 16)
    (kept : KeptBelow (headerSize + mid * keySize) (setNumKeys p mid.toUInt16) r) :
    header r = header p ∧ (numKeys r).toNat = mid ∧
      (List.range mid).map (keyAt r) = ((List.range n).map (keyAt p)).take mid := by
  refine ⟨?_, ?_, ?_⟩
  · rw [kept.header (by unfold headerSize; omega), header_setNumKeys]
  · rw [kept.numKeys (by unfold headerSize; omega), numKeys_setNumKeys, toNat_toUInt16 small]
  · rw [← List.map_take, List.take_range, Nat.min_eq_left le]
    refine List.map_congr_left fun j member => ?_
    have below := List.mem_range.mp member
    rw [kept.keyAt (by have := offsets j 0; unfold headerSize keySize; omega), keyAt_setNumKeys]

theorem splitLeaf_eq_inside (fits : LeafFits (numKeys p).toNat) :
    splitLeaf p = some (splitLeafInside p) := by
  simp only [splitLeaf, splitLeafInside]
  generalize (numKeys p).toNat = n at fits ⊢
  have leftValues : (List.range (n / 2)).mapM (fun i => getValueAt p i n) =
      some ((List.range (n / 2)).map (valueAt p · n)) :=
    mapM_eq_some_map fun i member =>
      getValueAt_of_fits p (fits.value (by have := List.mem_range.mp member; omega))
  have rightPairs : (List.range' (n / 2) (n - n / 2)).mapM (fun i => do
        let key ← getKey p i
        let value ← getValueAt p i n
        pure (⟨key, value⟩ : KeyValuePair)) =
      some ((List.range' (n / 2) (n - n / 2)).map fun i => ⟨keyAt p i, valueAt p i n⟩) :=
    mapM_eq_some_map fun i member => by
      have inside := List.mem_range'_1.mp member
      simp only [getKey_of_fits p (fits.keyInside (i := i) (by omega)),
        getValueAt_of_fits p (fits.value (i := i) (by omega)), Option.bind_eq_bind,
        Option.bind_some]
      rfl
  rw [leftValues, rightPairs]
  simp only [getKey_of_fits p fits.separator, Option.bind_eq_bind, Option.bind_some]
  rw [foldlM_eq_some_foldl (g := rewriteValueStep p n (n / 2)) _ fun q i member => ?_]
  · rfl
  · have inside := List.mem_range.mp member
    simp only [List.getElem?_map, List.getElem?_range inside, Option.map_some, Option.bind_some,
      rewriteValueStep]
    exact setValueAt_of_fits _ _ ((fits.mono (Nat.div_le_self n 2)).value inside)

theorem splitLeafInside_eq (leaf : isLeaf p = true) (fits : LeafFits (numKeys p).toNat)
    (nonempty : 0 < (numKeys p).toNat) :
    ((splitLeafInside p).1.1, (splitLeafInside p).1.2, toNode (splitLeafInside p).2) =
      (toNode p).splitLeaf := by
  obtain ⟨keys, values, -, -⟩ := toNode_leaf leaf
  generalize count : (numKeys p).toNat = n at fits nonempty keys values
  have length : (toNode p).keys.length = n := by rw [keys, List.length_map, List.length_range]
  have sized : (toNode p).values.length = (toNode p).keys.length := by
    rw [values, length, List.length_map, List.length_range]
  have getKey : ∀ i < n, (toNode p).getKey i = keyAt p i := fun i below => by
    rw [Node.getKey, keys, getD_map_range, if_pos below]
  have getValue : ∀ i < n, (toNode p).getValue i = valueAt p i n := fun i below => by
    rw [Node.getValue, values, getD_map_range, if_pos below]
  rw [Node.splitLeaf_eq_take_drop _ sized, length]
  simp only [splitLeafInside, count, Prod.mk.injEq]
  set left := (List.range (n / 2)).foldl (rewriteValueStep p n (n / 2))
    (setNumKeys p (n / 2).toUInt16)
  have kept : KeptBelow (headerSize + n / 2 * keySize) (setNumKeys p (n / 2).toUInt16) left :=
    keptBelow_foldl (fun r i _ => keptBelow_writeValue r _ (Nat.le_add_right _ _)) _
  have writes : WritesSlot (fun q j => valueAt q j (n / 2)) id (fun i => valueAt p i n)
      (fun _ => True) (List.range (n / 2)) (rewriteValueStep p n (n / 2)) :=
    fun r i member j _ => valueAt_writeValue r _
      ((fits.mono (Nat.div_le_self n 2)).value (List.mem_range.mp member)) j
  have leftLength : ((toNode p).keys.take (n / 2)).length = n / 2 := by
    rw [List.length_take, length]
    omega
  refine ⟨(getKey _ (by omega)).symm, ?_, ?_⟩
  · rw [← Node.map_range_pair _ sized, length, ← List.map_drop, List.range_eq_range',
      List.drop_range', Nat.zero_add, Nat.mul_one]
    refine List.map_congr_left fun i member => ?_
    have inside := List.mem_range'_1.mp member
    rw [getKey i (by omega), getValue i (by omega)]
  · obtain ⟨headerEq, countEq, keysRead⟩ :=
      setNumKeys_kept (Nat.div_le_self n 2) (by have := fits.small; omega) kept
    refine toNode_of_leaf leaf headerEq (countEq.trans leftLength.symm) ?_ ?_
    · rw [leftLength, keys]
      exact keysRead
    · rw [leftLength, values, ← List.map_take, List.take_range, Nat.min_eq_left (by omega)]
      refine List.map_congr_left fun j member => ?_
      exact read_foldl_of_mem writes (pairwise_range_of_injective (fun _ _ same => same) _) j
        member trivial

theorem splitLeaf_refines (leaf : isLeaf p = true) (fits : LeafFits (numKeys p).toNat)
    (nonempty : 0 < (numKeys p).toNat) :
    ∃ q, splitLeaf p = some (((toNode p).splitLeaf.1, (toNode p).splitLeaf.2.1), q) ∧
      decode q = some (toNode p).splitLeaf.2.2 := by
  have split := splitLeafInside_eq leaf fits nonempty
  refine ⟨(splitLeafInside p).2, by rw [splitLeaf_eq_inside fits, ← split], ?_⟩
  refine decode_of_toNode (by rw [← split]) ?_
  have sized : (toNode p).values.length = (toNode p).keys.length := by simp [toNode, leaf]
  rw [Node.splitLeaf_eq_take_drop _ sized]
  simp only [(toNode_leaf leaf).2.2.2, if_true]
  exact fits.mono (by simp [toNode])

def rewriteChildStep (p : PageData) (n mid : Nat) (q : PageData) (i : Nat) : PageData :=
  writeChild q i (childAt p i n) mid

def splitInternalInside (p : PageData) : (UInt32 × List UInt32 × List PageId) × PageData :=
  let n := (numKeys p).toNat
  let mid := n / 2
  ((keyAt p mid, (List.range' (mid + 1) (n - (mid + 1))).map (keyAt p),
      (List.range' (mid + 1) (n + 1 - (mid + 1))).map (childAt p · n)),
    (List.range (mid + 1)).foldl (rewriteChildStep p n mid) (setNumKeys p mid.toUInt16))

theorem splitInternal_eq_inside (fits : InternalFits (numKeys p).toNat) :
    splitInternal p = some (splitInternalInside p) := by
  simp only [splitInternal, splitInternalInside]
  generalize (numKeys p).toNat = n at fits ⊢
  have leftChildren : (List.range (n / 2 + 1)).mapM (fun i => getChildAt p i n) =
      some ((List.range (n / 2 + 1)).map (childAt p · n)) :=
    mapM_eq_some_map fun i member =>
      getChildAt_of_fits p (fits.child (by have := List.mem_range.mp member; omega))
  have rightKeys : (List.range' (n / 2 + 1) (n - (n / 2 + 1))).mapM (getKey p) =
      some ((List.range' (n / 2 + 1) (n - (n / 2 + 1))).map (keyAt p)) :=
    mapM_eq_some_map fun i member =>
      getKey_of_fits p (fits.keyInside (by have := List.mem_range'_1.mp member; omega))
  have rightChildren : (List.range' (n / 2 + 1) (n + 1 - (n / 2 + 1))).mapM
      (fun i => getChildAt p i n) =
      some ((List.range' (n / 2 + 1) (n + 1 - (n / 2 + 1))).map (childAt p · n)) :=
    mapM_eq_some_map fun i member =>
      getChildAt_of_fits p (fits.child (by have := List.mem_range'_1.mp member; omega))
  rw [leftChildren, rightKeys, rightChildren]
  simp only [getKey_of_fits p fits.separator, Option.bind_eq_bind, Option.bind_some]
  rw [foldlM_eq_some_foldl (g := rewriteChildStep p n (n / 2)) _ fun q i member => ?_]
  · rfl
  · have inside := List.mem_range.mp member
    simp only [List.getElem?_map, List.getElem?_range inside, Option.map_some, Option.bind_some,
      rewriteChildStep]
    exact setChildAt_of_fits _ _ ((fits.mono (Nat.div_le_self n 2)).child (by omega))

theorem splitInternalInside_eq (internal : isLeaf p = false)
    (fits : InternalFits (numKeys p).toNat) (nonempty : 0 < (numKeys p).toNat) :
    ((splitInternalInside p).1.1, (splitInternalInside p).1.2.1, (splitInternalInside p).1.2.2,
      toNode (splitInternalInside p).2) = (toNode p).splitInternal := by
  obtain ⟨keys, children, -, -⟩ := toNode_internal internal
  generalize count : (numKeys p).toNat = n at fits nonempty keys children
  have length : (toNode p).keys.length = n := by rw [keys, List.length_map, List.length_range]
  have sized : (toNode p).children.length = (toNode p).keys.length + 1 := by
    rw [children, length, List.length_map, List.length_range]
  rw [Node.splitInternal_eq_take_drop _ sized, length]
  simp only [splitInternalInside, count, Prod.mk.injEq]
  set left := (List.range (n / 2 + 1)).foldl (rewriteChildStep p n (n / 2))
    (setNumKeys p (n / 2).toUInt16)
  have kept : KeptBelow (headerSize + n / 2 * keySize) (setNumKeys p (n / 2).toUInt16) left :=
    keptBelow_foldl (fun r i _ => keptBelow_writeChild r _ (Nat.le_add_right _ _)) _
  have writes : WritesSlot (fun q j => childAt q j (n / 2)) id (fun i => childAt p i n)
      (fun _ => True) (List.range (n / 2 + 1)) (rewriteChildStep p n (n / 2)) :=
    fun r i member j _ => childAt_writeChild r _
      ((fits.mono (Nat.div_le_self n 2)).child (Nat.lt_succ_iff.mp (List.mem_range.mp member))) j
  have leftLength : ((toNode p).keys.take (n / 2)).length = n / 2 := by
    rw [List.length_take, length]
    omega
  refine ⟨?_, ?_, ?_, ?_⟩
  · rw [Node.getKey, keys, getD_map_range, if_pos (by omega)]
  · rw [keys, ← List.map_drop, List.range_eq_range', List.drop_range', Nat.zero_add, Nat.mul_one]
  · rw [children, ← List.map_drop, List.range_eq_range', List.drop_range', Nat.zero_add,
      Nat.mul_one]
  · obtain ⟨headerEq, countEq, keysRead⟩ :=
      setNumKeys_kept (Nat.div_le_self n 2) (by have := fits.small; omega) kept
    refine toNode_of_internal internal headerEq (countEq.trans leftLength.symm) ?_ ?_
    · rw [leftLength, keys]
      exact keysRead
    · rw [leftLength, children, ← List.map_take, List.take_range, Nat.min_eq_left (by omega)]
      refine List.map_congr_left fun j member => ?_
      exact read_foldl_of_mem writes (pairwise_range_of_injective (fun _ _ same => same) _) j
        member trivial

theorem splitInternal_refines (internal : isLeaf p = false)
    (fits : InternalFits (numKeys p).toNat) (nonempty : 0 < (numKeys p).toNat) :
    ∃ q, splitInternal p = some (((toNode p).splitInternal.1, (toNode p).splitInternal.2.1,
        (toNode p).splitInternal.2.2.1), q) ∧
      decode q = some (toNode p).splitInternal.2.2.2 := by
  have split := splitInternalInside_eq internal fits nonempty
  refine ⟨(splitInternalInside p).2, by rw [splitInternal_eq_inside fits, ← split], ?_⟩
  refine decode_of_toNode (by rw [← split]) ?_
  have sized : (toNode p).children.length = (toNode p).keys.length + 1 := by
    simp [toNode, internal]
  rw [Node.splitInternal_eq_take_drop _ sized]
  simp only [(toNode_internal internal).2.2.2, Bool.false_eq_true, if_false]
  exact fits.mono (by simp [toNode])

end Split

section Bulk

def pairStep (n : Nat) (q : PageData) : KeyValuePair × Nat → PageData
  | (pair, i) => writeValue (writeKey q i pair.key) i pair.value n

def insertPairsInside (p : PageData) (pairs : List KeyValuePair) : PageData :=
  pairs.zipIdx.foldl (pairStep pairs.length) (setNumKeys p pairs.length.toUInt16)

def keyStep (q : PageData) : UInt32 × Nat → PageData
  | (key, i) => writeKey q i key

def childStep (n : Nat) (q : PageData) : PageId × Nat → PageData
  | (child, i) => writeChild q i child n

def insertKeysChildrenInside (p : PageData) (keys : List UInt32) (children : List PageId) :
    PageData :=
  children.zipIdx.foldl (childStep keys.length)
    (keys.zipIdx.foldl keyStep (setNumKeys p keys.length.toUInt16))

variable {p : PageData}

theorem lt_length_of_mem_zipIdx {α : Type} {l : List α} {a : α} {i : Nat}
    (member : (a, i) ∈ l.zipIdx) : i < l.length := by
  have := List.mem_zipIdx member
  omega

theorem insertPairs_eq_inside {pairs : List KeyValuePair} (fits : LeafFits pairs.length) :
    insertPairs p pairs = some (insertPairsInside p pairs) := by
  refine foldlM_eq_some_foldl _ fun q a member => ?_
  obtain ⟨pair, i⟩ := a
  have below := lt_length_of_mem_zipIdx member
  simp only [setKey_of_fits q _ (fits.keyInside below), Option.bind_eq_bind, Option.bind_some,
    pairStep]
  exact setValueAt_of_fits _ _ (fits.value below)

theorem toNode_insertPairsInside (leaf : isLeaf p = true) {pairs : List KeyValuePair}
    (fits : LeafFits pairs.length) :
    toNode (insertPairsInside p pairs) = (toNode p).insertPairs pairs := by
  have kept : KeptBelow headerSize (setNumKeys p pairs.length.toUInt16)
      (insertPairsInside p pairs) :=
    keptBelow_foldl (fun r a _ => by
      obtain ⟨pair, i⟩ := a
      exact (keptBelow_writeKey r _ (by have := offsets i 0; unfold headerSize; omega)).trans
        (keptBelow_writeValue _ _ (by have := offsets i pairs.length; unfold headerSize; omega)))
      _
  have keys : WritesSlot keyAt Prod.snd (fun a => a.1.key) (· < pairs.length) pairs.zipIdx
      (pairStep pairs.length) := by
    rintro r ⟨pair, i⟩ member j below
    rw [pairStep, keyAt_writeValue _ _ below,
      keyAt_writeKey _ _ (fits.keyInside (lt_length_of_mem_zipIdx member))]
  have values : WritesSlot (fun q j => valueAt q j pairs.length) Prod.snd (fun a => a.1.value)
      (fun _ => True) pairs.zipIdx (pairStep pairs.length) := by
    rintro r ⟨pair, i⟩ member j _
    have below := lt_length_of_mem_zipIdx member
    dsimp only
    rw [pairStep, valueAt_writeValue _ _ (fits.value below), valueAt_writeKey _ _ below]
  rw [Node.insertPairs]
  refine toNode_of_leaf leaf (by rw [kept.header le_rfl, header_setNumKeys]) ?_ ?_ ?_
  · rw [kept.numKeys le_rfl, numKeys_setNumKeys, toNat_toUInt16 fits.small, List.length_map]
  · rw [List.length_map]
    exact map_range_foldl_zipIdx keys (fun _ below => below) _
  · rw [List.length_map]
    exact map_range_foldl_zipIdx values (fun _ _ => trivial) _

theorem insertPairs_refines (leaf : isLeaf p = true) {pairs : List KeyValuePair}
    (fits : LeafFits pairs.length) :
    (insertPairs p pairs).bind decode = some ((toNode p).insertPairs pairs) := by
  rw [insertPairs_eq_inside fits, Option.bind_some]
  refine decode_of_toNode (toNode_insertPairsInside leaf fits) ?_
  simpa [Node.insertPairs, (toNode_leaf leaf).2.2.2] using fits

theorem insertKeysChildren_eq_inside {keys : List UInt32} {children : List PageId}
    (fits : InternalFits keys.length) (sized : children.length = keys.length + 1) :
    insertKeysChildren p keys children = some (insertKeysChildrenInside p keys children) := by
  have keysLoop : keys.zipIdx.foldlM (fun q (key, i) => setKey q i key)
      (setNumKeys p keys.length.toUInt16) =
      some (keys.zipIdx.foldl keyStep (setNumKeys p keys.length.toUInt16)) := by
    refine foldlM_eq_some_foldl _ fun q a member => ?_
    obtain ⟨key, i⟩ := a
    exact setKey_of_fits q _ (fits.keyInside (lt_length_of_mem_zipIdx member))
  rw [insertKeysChildren]
  simp only [keysLoop, Option.bind_eq_bind, Option.bind_some]
  refine foldlM_eq_some_foldl _ fun q a member => ?_
  obtain ⟨child, i⟩ := a
  have below := lt_length_of_mem_zipIdx member
  exact setChildAt_of_fits q _ (fits.child (by omega))

theorem toNode_insertKeysChildrenInside (internal : isLeaf p = false) {keys : List UInt32}
    {children : List PageId} (fits : InternalFits keys.length)
    (sized : children.length = keys.length + 1) :
    toNode (insertKeysChildrenInside p keys children) =
      (toNode p).insertKeysChildren keys children := by
  set keyed := keys.zipIdx.foldl keyStep (setNumKeys p keys.length.toUInt16)
  have keptKeys : KeptBelow headerSize (setNumKeys p keys.length.toUInt16) keyed :=
    keptBelow_foldl (fun r a _ => by
      obtain ⟨key, i⟩ := a
      exact keptBelow_writeKey r _ (by have := offsets i 0; unfold headerSize; omega)) _
  have keptChildren : KeptBelow (headerSize + keys.length * keySize) keyed
      (insertKeysChildrenInside p keys children) :=
    keptBelow_foldl (fun r a _ => by
      obtain ⟨child, i⟩ := a
      exact keptBelow_writeChild r _ (by
        have := offsets i keys.length; unfold headerSize keySize; omega)) _
  have kept : KeptBelow headerSize (setNumKeys p keys.length.toUInt16)
      (insertKeysChildrenInside p keys children) :=
    keptKeys.trans fun j below => keptChildren j (by omega)
  have keyWrites : WritesSlot keyAt Prod.snd (fun a => a.1) (fun _ => True) keys.zipIdx keyStep := by
    rintro r ⟨key, i⟩ member j _
    exact keyAt_writeKey _ _ (fits.keyInside (lt_length_of_mem_zipIdx member)) j
  have childWrites : WritesSlot (fun q j => childAt q j keys.length) Prod.snd (fun a => a.1)
      (fun _ => True) children.zipIdx (childStep keys.length) := by
    rintro r ⟨child, i⟩ member j _
    have below := lt_length_of_mem_zipIdx member
    exact childAt_writeChild _ _ (fits.child (by omega)) j
  rw [Node.insertKeysChildren]
  refine toNode_of_internal internal (by rw [kept.header le_rfl, header_setNumKeys])
    (by rw [kept.numKeys le_rfl, numKeys_setNumKeys, toNat_toUInt16 fits.small]) ?_ ?_
  · have read := map_range_foldl_zipIdx (h := id) keyWrites (fun _ _ => trivial)
      (setNumKeys p keys.length.toUInt16)
    rw [List.map_id] at read
    refine (List.map_congr_left fun j member => keptChildren.keyAt ?_).trans read
    have := List.mem_range.mp member
    have := offsets j 0
    unfold headerSize keySize
    omega
  · have read := map_range_foldl_zipIdx (h := id) childWrites (fun _ _ => trivial) keyed
    rwa [List.map_id, sized] at read

theorem insertKeysChildren_refines (internal : isLeaf p = false) {keys : List UInt32}
    {children : List PageId} (fits : InternalFits keys.length)
    (sized : children.length = keys.length + 1) :
    (insertKeysChildren p keys children).bind decode =
      some ((toNode p).insertKeysChildren keys children) := by
  rw [insertKeysChildren_eq_inside fits sized, Option.bind_some]
  refine decode_of_toNode (toNode_insertKeysChildrenInside internal fits sized) ?_
  simpa [Node.insertKeysChildren, (toNode_internal internal).2.2.2] using fits

end Bulk

/-- On a sorted page with room, each operation of `btree_page.rs` acts on the decoded node as the
list operation does. -/
theorem page_ops_refine_node (p : PageData) (node : Node) (decoded : decode p = some node)
    (sorted : node.keys.Pairwise (· ≤ ·))
    (room : if isLeaf p then 20 + 10 * ((numKeys p).toNat + 1) ≤ pageSize
      else 20 + 4 * ((numKeys p).toNat + 1) + 4 * ((numKeys p).toNat + 2) ≤ pageSize) :
    (∀ key, searchKey p key = some (node.keys.countP (· < key))) ∧
    (node.isLeaf = true → ∀ key value,
      (insertKeyValue p key value).bind decode = some { node with
        keys := node.keys.insertIdx (node.keys.countP (· < key)) key
        values := node.values.insertIdx (node.keys.countP (· < key)) value }) ∧
    (node.isLeaf = false → ∀ key child,
      (insertKeyChild p key child).bind decode = some { node with
        keys := node.keys.insertIdx (node.keys.countP (· < key)) key
        children := node.children.insertIdx (node.keys.countP (· < key) + 1) child }) ∧
    (node.isLeaf = true → 0 < node.keys.length → ∃ q,
      splitLeaf p = some ((node.keys.getD (node.keys.length / 2) 0,
        (List.zipWith KeyValuePair.mk node.keys node.values).drop (node.keys.length / 2)), q) ∧
      decode q = some { node with
        keys := node.keys.take (node.keys.length / 2)
        values := node.values.take (node.keys.length / 2) }) ∧
    (node.isLeaf = false → 0 < node.keys.length → ∃ q,
      splitInternal p = some ((node.keys.getD (node.keys.length / 2) 0,
        node.keys.drop (node.keys.length / 2 + 1),
        node.children.drop (node.keys.length / 2 + 1)), q) ∧
      decode q = some { node with
        keys := node.keys.take (node.keys.length / 2)
        children := node.children.take (node.keys.length / 2 + 1) }) ∧
    (node.isLeaf = true → ∀ pairs : List KeyValuePair, 20 + 10 * pairs.length ≤ pageSize →
      (insertPairs p pairs).bind decode = some { node with
        keys := pairs.map (·.key)
        values := pairs.map (·.value) }) ∧
    (node.isLeaf = false → ∀ (keys : List UInt32) (children : List PageId),
      children.length = keys.length + 1 → 20 + 4 * keys.length + 4 * children.length ≤ pageSize →
      (insertKeysChildren p keys children).bind decode = some { node with keys, children }) := by
  -- the room gives the bounds of every read and write, and `decode` returns `toNode`
  have leafRoom : isLeaf p = true → LeafFits ((numKeys p).toNat + 1) := fun leaf => by
    rw [if_pos leaf] at room
    unfold LeafFits headerSize keySize valueSize
    omega
  have internalRoom : isLeaf p = false → InternalFits ((numKeys p).toNat + 1) := fun internal => by
    rw [if_neg (by rw [internal]; decide)] at room
    unfold InternalFits headerSize keySize childSize
    omega
  have fits : Fits p := by
    unfold Fits
    cases leaf : isLeaf p
    · exact (internalRoom leaf).mono (Nat.le_succ _)
    · exact (leafRoom leaf).mono (Nat.le_succ _)
  obtain rfl : toNode p = node := Option.some_inj.mp ((decode_eq fits).symm.trans decoded)
  have length : (toNode p).keys.length = (numKeys p).toNat := by simp [toNode]
  have position := Node.searchKey_eq_countP (toNode p) sorted
  refine ⟨fun key => ?_, fun leaf key value => ?_, fun internal key child => ?_,
    fun leaf nonempty => ?_, fun internal nonempty => ?_, fun leaf pairs pairsFit => ?_,
    fun internal keys children sized bothFit => ?_⟩
  · rw [searchKey_eq fun i below => fits.keyInside below, position]
  · rw [insertKeyValue_refines leaf key value (leafRoom leaf)]
    simp only [Node.insertKeyValue, position]
  · rw [insertKeyChild_refines internal key child (internalRoom internal)]
    simp only [Node.insertKeyChild, position]
  · have leafPage : isLeaf p = true := leaf
    have sized : (toNode p).values.length = (toNode p).keys.length := by simp [toNode, leafPage]
    obtain ⟨q, split, decodedLeft⟩ := splitLeaf_refines leaf
      ((leafRoom leaf).mono (Nat.le_succ _)) (length ▸ nonempty)
    rw [Node.splitLeaf_eq_take_drop _ sized] at split decodedLeft
    exact ⟨q, split, decodedLeft⟩
  · have internalPage : isLeaf p = false := internal
    have sized : (toNode p).children.length = (toNode p).keys.length + 1 := by
      simp [toNode, internalPage]
    obtain ⟨q, split, decodedLeft⟩ := splitInternal_refines internal
      ((internalRoom internal).mono (Nat.le_succ _)) (length ▸ nonempty)
    rw [Node.splitInternal_eq_take_drop _ sized] at split decodedLeft
    exact ⟨q, split, decodedLeft⟩
  · exact insertPairs_refines leaf (by unfold LeafFits headerSize keySize valueSize; omega)
  · exact insertKeysChildren_refines internal
      (by unfold InternalFits headerSize keySize childSize; omega) sized

def liveInserts : List (UInt32 × RecordId) :=
  [(10, ⟨⟨1⟩, ⟨0⟩⟩), (30, ⟨⟨1⟩, ⟨2⟩⟩), (20, ⟨⟨1⟩, ⟨1⟩⟩)]

def liveLeaf : PageData :=
  (liveInserts.foldlM (fun p kv => insertKeyValue p kv.1 kv.2) (init ⟨7⟩ true)).getD
    (init ⟨7⟩ true)

def liveNode : Node :=
  ⟨⟨7⟩, true, [10, 20, 30], [⟨⟨1⟩, ⟨0⟩⟩, ⟨⟨1⟩, ⟨1⟩⟩, ⟨⟨1⟩, ⟨2⟩⟩], [], none, none, none⟩

theorem page_ops_refine_node_liveLeaf :
    liveInserts.foldlM (fun p kv => insertKeyValue p kv.1 kv.2) (init ⟨7⟩ true) =
        some liveLeaf ∧
      decode liveLeaf = some liveNode ∧ searchKey liveLeaf 25 = some 2 ∧
      (insertKeyValue liveLeaf 15 ⟨⟨1⟩, ⟨3⟩⟩).bind decode = some { liveNode with
        keys := [10, 15, 20, 30]
        values := [⟨⟨1⟩, ⟨0⟩⟩, ⟨⟨1⟩, ⟨3⟩⟩, ⟨⟨1⟩, ⟨1⟩⟩, ⟨⟨1⟩, ⟨2⟩⟩] } ∧
      ∃ q, splitLeaf liveLeaf = some ((20, [⟨20, ⟨⟨1⟩, ⟨1⟩⟩⟩, ⟨30, ⟨⟨1⟩, ⟨2⟩⟩⟩]), q) ∧
        decode q = some { liveNode with keys := [10], values := [⟨⟨1⟩, ⟨0⟩⟩] } := by
  have decoded : decode liveLeaf = some liveNode := by decide +kernel
  obtain ⟨search, insert, -, split, -⟩ := page_ops_refine_node liveLeaf liveNode decoded
    (by decide) (by decide +kernel)
  exact ⟨rfl, decoded, search 25, insert rfl 15 _, split rfl (by decide)⟩

end BTreePage

end Crio
