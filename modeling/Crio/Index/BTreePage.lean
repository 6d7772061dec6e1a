import Crio.Index.BTreeNode
import Crio.Lib.ByteBuffer

/-!
`BTreeNode` of `src/index/btree_page.rs` over the bytes of its page. A leaf's values or an
internal node's children start right after the last key, so they move whenever the key count
changes. A slice past the page's end is `none`, the panic. `BTreeNodeRef`, the read-only view,
is left out.
-/

namespace Crio

namespace BTreePage

open ByteBuffer

def headerSize : Nat := 20

def pageIdOffset : Nat := 0

def isLeafOffset : Nat := 4

def numKeysOffset : Nat := 5

def nextPageOffset : Nat := 8

def prevPageOffset : Nat := 12

def parentPageOffset : Nat := 16

def invalidPage : UInt32 := 0xFFFFFFFF

def keySize : Nat := 4

def valueSize : Nat := 6

def childSize : Nat := 4

def pageId (p : PageData) : PageId := PageId.new (getU32 p pageIdOffset)

def setPageId (p : PageData) (pageId : PageId) : PageData := setU32 p pageIdOffset pageId.asU32

def isLeaf (p : PageData) : Bool := byteAt p isLeafOffset == 1

def setIsLeaf (p : PageData) (isLeaf : Bool) : PageData :=
  overwrite p isLeafOffset [if isLeaf then 1 else 0]

def numKeys (p : PageData) : UInt16 := getU16 p numKeysOffset

def setNumKeys (p : PageData) (num : UInt16) : PageData := setU16 p numKeysOffset num

def link (p : PageData) (offset : Nat) : Option PageId :=
  let value := getU32 p offset
  if value = invalidPage then none else some (PageId.new value)

def setLink (p : PageData) (offset : Nat) (pageId : Option PageId) : PageData :=
  setU32 p offset ((pageId.map PageId.asU32).getD invalidPage)

def nextPageId (p : PageData) : Option PageId := link p nextPageOffset

def setNextPageId (p : PageData) (pageId : Option PageId) : PageData :=
  setLink p nextPageOffset pageId

def prevPageId (p : PageData) : Option PageId := link p prevPageOffset

def setPrevPageId (p : PageData) (pageId : Option PageId) : PageData :=
  setLink p prevPageOffset pageId

def parentPageId (p : PageData) : Option PageId := link p parentPageOffset

def setParentPageId (p : PageData) (pageId : Option PageId) : PageData :=
  setLink p parentPageOffset pageId

def init (pageId : PageId) (isLeaf : Bool) : PageData :=
  let p := setPageId (fun _ => 0) pageId
  let p := setIsLeaf p isLeaf
  let p := setNumKeys p 0
  let p := setNextPageId p none
  let p := setPrevPageId p none
  setParentPageId p none

def keyOffset (index : Nat) : Nat := headerSize + index * keySize

def valueOffset (index numKeys : Nat) : Nat := headerSize + numKeys * keySize + index * valueSize

def childOffset (index numKeys : Nat) : Nat := headerSize + numKeys * keySize + index * childSize

def getKey (p : PageData) (index : Nat) : Option UInt32 := sliceU32 p (keyOffset index)

def setKey (p : PageData) (index : Nat) (key : UInt32) : Option PageData :=
  copyU32 p (keyOffset index) key

def getValueAt (p : PageData) (index numKeys : Nat) : Option RecordId := do
  let offset := valueOffset index numKeys
  let pageId ← sliceU32 p offset
  let slotId ← sliceU16 p (offset + 4)
  pure ⟨PageId.new pageId, ⟨slotId⟩⟩

def setValueAt (p : PageData) (index : Nat) (value : RecordId) (numKeys : Nat) :
    Option PageData := do
  let offset := valueOffset index numKeys
  let p ← copyU32 p offset value.pageId.asU32
  copyU16 p (offset + 4) value.slotId.val

def getValue (p : PageData) (index : Nat) : Option RecordId :=
  getValueAt p index (numKeys p).toNat

def getChildAt (p : PageData) (index numKeys : Nat) : Option PageId :=
  (sliceU32 p (childOffset index numKeys)).map PageId.new

def setChildAt (p : PageData) (index : Nat) (child : PageId) (numKeys : Nat) : Option PageData :=
  copyU32 p (childOffset index numKeys) child.asU32

def getChild (p : PageData) (index : Nat) : Option PageId :=
  getChildAt p index (numKeys p).toNat

def searchKeyLoop (p : PageData) (key : UInt32) : Nat → Nat → Nat → Option Nat
  | 0, left, _ => some left
  | fuel + 1, left, right =>
    if left < right then do
      let mid := left + (right - left) / 2
      let midKey ← getKey p mid
      if midKey < key then searchKeyLoop p key fuel (mid + 1) right
      else searchKeyLoop p key fuel left mid
    else some left

def searchKey (p : PageData) (key : UInt32) : Option Nat :=
  let numKeys := (numKeys p).toNat
  searchKeyLoop p key numKeys 0 numKeys

def shiftKeys (p : PageData) (pos numKeys : Nat) : Option PageData :=
  (List.range' pos (numKeys - pos)).reverse.foldlM (fun p i => do
    let k ← getKey p i
    setKey p (i + 1) k) p

def insertKeyValue (p : PageData) (key : UInt32) (value : RecordId) : Option PageData := do
  let numKeys := (numKeys p).toNat
  let pos ← searchKey p key
  let values ← (List.range numKeys).mapM fun i => getValueAt p i numKeys
  let p ← shiftKeys p pos numKeys
  let p := setNumKeys p (numKeys + 1).toUInt16
  let p ← setKey p pos key
  let p ← (List.range numKeys).foldlM (fun p i => do
    let v ← values[i]?
    if i ≥ pos then setValueAt p (i + 1) v (numKeys + 1) else setValueAt p i v (numKeys + 1)) p
  setValueAt p pos value (numKeys + 1)

def insertKeyChild (p : PageData) (key : UInt32) (child : PageId) : Option PageData := do
  let numKeys := (numKeys p).toNat
  let pos ← searchKey p key
  let children ← (List.range (numKeys + 1)).mapM fun i => getChildAt p i numKeys
  let p ← shiftKeys p pos numKeys
  let p := setNumKeys p (numKeys + 1).toUInt16
  let p ← setKey p pos key
  let p ← (List.range (numKeys + 1)).foldlM (fun p i => do
    let c ← children[i]?
    if i > pos then setChildAt p (i + 1) c (numKeys + 1) else setChildAt p i c (numKeys + 1)) p
  setChildAt p (pos + 1) child (numKeys + 1)

def splitLeaf (p : PageData) : Option ((UInt32 × List KeyValuePair) × PageData) := do
  let numKeys := (numKeys p).toNat
  let mid := numKeys / 2
  let leftValues ← (List.range mid).mapM fun i => getValueAt p i numKeys
  let rightPairs ← (List.range' mid (numKeys - mid)).mapM fun i => do
    let key ← getKey p i
    let value ← getValueAt p i numKeys
    pure (⟨key, value⟩ : KeyValuePair)
  let separatorKey ← getKey p mid
  let p := setNumKeys p mid.toUInt16
  let p ← (List.range mid).foldlM (fun p i => do
    let v ← leftValues[i]?
    setValueAt p i v mid) p
  pure ((separatorKey, rightPairs), p)

def splitInternal (p : PageData) : Option ((UInt32 × List UInt32 × List PageId) × PageData) := do
  let numKeys := (numKeys p).toNat
  let mid := numKeys / 2
  let separatorKey ← getKey p mid
  let leftChildren ← (List.range (mid + 1)).mapM fun i => getChildAt p i numKeys
  let rightKeys ← (List.range' (mid + 1) (numKeys - (mid + 1))).mapM (getKey p)
  let rightChildren ← (List.range' (mid + 1) (numKeys + 1 - (mid + 1))).mapM fun i =>
    getChildAt p i numKeys
  let p := setNumKeys p mid.toUInt16
  let p ← (List.range (mid + 1)).foldlM (fun p i => do
    let c ← leftChildren[i]?
    setChildAt p i c mid) p
  pure ((separatorKey, rightKeys, rightChildren), p)

def insertPairs (p : PageData) (pairs : List KeyValuePair) : Option PageData := do
  let numKeys := pairs.length
  let p := setNumKeys p numKeys.toUInt16
  pairs.zipIdx.foldlM (fun p (pair, i) => do
    let p ← setKey p i pair.key
    setValueAt p i pair.value numKeys) p

def insertKeysChildren (p : PageData) (keys : List UInt32) (children : List PageId) :
    Option PageData := do
  let numKeys := keys.length
  let p := setNumKeys p numKeys.toUInt16
  let p ← keys.zipIdx.foldlM (fun p (key, i) => setKey p i key) p
  children.zipIdx.foldlM (fun p (child, i) => setChildAt p i child numKeys) p

def keyAt (p : PageData) (index : Nat) : UInt32 := getU32 p (keyOffset index)

def valueAt (p : PageData) (index numKeys : Nat) : RecordId :=
  ⟨PageId.new (getU32 p (valueOffset index numKeys)), ⟨getU16 p (valueOffset index numKeys + 4)⟩⟩

def childAt (p : PageData) (index numKeys : Nat) : PageId :=
  PageId.new (getU32 p (childOffset index numKeys))

def writeKey (p : PageData) (index : Nat) (key : UInt32) : PageData :=
  setU32 p (keyOffset index) key

def writeValue (p : PageData) (index : Nat) (value : RecordId) (numKeys : Nat) : PageData :=
  setU16 (setU32 p (valueOffset index numKeys) value.pageId.asU32) (valueOffset index numKeys + 4)
    value.slotId.val

def writeChild (p : PageData) (index : Nat) (child : PageId) (numKeys : Nat) : PageData :=
  setU32 p (childOffset index numKeys) child.asU32

structure Header where
  pageId : PageId
  isLeaf : Bool
  nextPageId : Option PageId
  prevPageId : Option PageId
  parentPageId : Option PageId

def header (p : PageData) : Header :=
  ⟨pageId p, isLeaf p, nextPageId p, prevPageId p, parentPageId p⟩

section Access

variable (p : PageData)

theorem getKey_of_fits {index : Nat} (fits : keyOffset index + keySize ≤ pageSize) :
    getKey p index = some (keyAt p index) :=
  sliceU32_of_fits p fits

theorem setKey_of_fits {index : Nat} (key : UInt32) (fits : keyOffset index + keySize ≤ pageSize) :
    setKey p index key = some (writeKey p index key) :=
  copyU32_of_fits p key fits

theorem getValueAt_of_fits {index numKeys : Nat}
    (fits : valueOffset index numKeys + valueSize ≤ pageSize) :
    getValueAt p index numKeys = some (valueAt p index numKeys) := by
  have pageIdFits : valueOffset index numKeys + 4 ≤ pageSize := by unfold valueSize at fits; omega
  have slotIdFits : valueOffset index numKeys + 4 + 2 ≤ pageSize := by
    unfold valueSize at fits; omega
  simp only [getValueAt, sliceU32_of_fits p pageIdFits, sliceU16_of_fits p slotIdFits]
  rfl

theorem setValueAt_of_fits {index numKeys : Nat} (value : RecordId)
    (fits : valueOffset index numKeys + valueSize ≤ pageSize) :
    setValueAt p index value numKeys = some (writeValue p index value numKeys) := by
  have pageIdFits : valueOffset index numKeys + 4 ≤ pageSize := by unfold valueSize at fits; omega
  have slotIdFits : valueOffset index numKeys + 4 + 2 ≤ pageSize := by
    unfold valueSize at fits; omega
  simp only [setValueAt, copyU32_of_fits p _ pageIdFits]
  exact copyU16_of_fits _ _ slotIdFits

theorem getChildAt_of_fits {index numKeys : Nat}
    (fits : childOffset index numKeys + childSize ≤ pageSize) :
    getChildAt p index numKeys = some (childAt p index numKeys) := by
  rw [getChildAt, sliceU32_of_fits p fits]
  rfl

theorem setChildAt_of_fits {index numKeys : Nat} (child : PageId)
    (fits : childOffset index numKeys + childSize ≤ pageSize) :
    setChildAt p index child numKeys = some (writeChild p index child numKeys) :=
  copyU32_of_fits p _ fits

end Access

section Frames

variable (p : PageData) {off : Nat} {src : List UInt8}

theorem keyAt_overwrite {j : Nat}
    (apart : keyOffset j + keySize ≤ off ∨ off + src.length ≤ keyOffset j) :
    keyAt (overwrite p off src) j = keyAt p j :=
  getU32_overwrite p apart

theorem valueAt_overwrite {j numKeys : Nat}
    (apart : valueOffset j numKeys + valueSize ≤ off ∨ off + src.length ≤ valueOffset j numKeys) :
    valueAt (overwrite p off src) j numKeys = valueAt p j numKeys := by
  have pageIdApart :
      valueOffset j numKeys + 4 ≤ off ∨ off + src.length ≤ valueOffset j numKeys := by
    unfold valueSize at apart; omega
  have slotIdApart :
      valueOffset j numKeys + 4 + 2 ≤ off ∨ off + src.length ≤ valueOffset j numKeys + 4 := by
    unfold valueSize at apart; omega
  rw [valueAt, getU32_overwrite p pageIdApart, getU16_overwrite p slotIdApart, valueAt]

theorem childAt_overwrite {j numKeys : Nat}
    (apart : childOffset j numKeys + childSize ≤ off ∨ off + src.length ≤ childOffset j numKeys) :
    childAt (overwrite p off src) j numKeys = childAt p j numKeys := by
  rw [childAt, getU32_overwrite p apart, childAt]

theorem header_overwrite (past : headerSize ≤ off) : header (overwrite p off src) = header p := by
  unfold headerSize at past
  have fieldKept : ∀ fieldOffset, fieldOffset + 4 ≤ off →
      getU32 (overwrite p off src) fieldOffset = getU32 p fieldOffset :=
    fun _ below => getU32_overwrite p (Or.inl below)
  have isLeafKept : byteAt (overwrite p off src) isLeafOffset = byteAt p isLeafOffset :=
    byteAt_overwrite_outside p (by unfold isLeafOffset; omega)
  simp only [header, pageId, isLeaf, nextPageId, prevPageId, parentPageId, link, isLeafKept,
    fieldKept pageIdOffset (by unfold pageIdOffset; omega),
    fieldKept nextPageOffset (by unfold nextPageOffset; omega),
    fieldKept prevPageOffset (by unfold prevPageOffset; omega),
    fieldKept parentPageOffset (by unfold parentPageOffset; omega)]

theorem numKeys_overwrite (past : headerSize ≤ off) : numKeys (overwrite p off src) = numKeys p :=
  getU16_overwrite p (by unfold numKeysOffset; unfold headerSize at past; omega)

end Frames

section Writes

variable (p : PageData)

theorem offsets (index numKeys : Nat) :
    keyOffset index = 20 + 4 * index ∧ valueOffset index numKeys = 20 + 4 * numKeys + 6 * index ∧
      childOffset index numKeys = 20 + 4 * numKeys + 4 * index := by
  simp only [keyOffset, valueOffset, childOffset, headerSize, keySize, valueSize, childSize]
  omega

theorem keyAt_writeKey {i : Nat} (key : UInt32) (fits : keyOffset i + keySize ≤ pageSize)
    (j : Nat) :
    keyAt (writeKey p i key) j = if j = i then key else keyAt p j := by
  split
  · rename_i same
    subst same
    exact getU32_setU32_same p key fits
  · rename_i other
    have apart : keyOffset j + 4 ≤ keyOffset i ∨ keyOffset i + 4 ≤ keyOffset j := by
      have := offsets i 0; have := offsets j 0; omega
    exact getU32_setU32_disjoint p key apart

theorem keyAt_writeValue {i j numKeys : Nat} (value : RecordId) (below : j < numKeys) :
    keyAt (writeValue p i value numKeys) j = keyAt p j := by
  have := offsets j numKeys; have := offsets i numKeys
  rw [writeValue, setU16, keyAt_overwrite _ (by unfold keySize; omega), setU32,
    keyAt_overwrite _ (by unfold keySize; omega)]

theorem keyAt_setNumKeys (num : UInt16) (j : Nat) : keyAt (setNumKeys p num) j = keyAt p j := by
  have := offsets j 0
  rw [setNumKeys, setU16, keyAt_overwrite _ (by unfold keySize numKeysOffset; simp; omega)]

theorem valueAt_writeValue {i numKeys : Nat} (value : RecordId)
    (fits : valueOffset i numKeys + valueSize ≤ pageSize) (j : Nat) :
    valueAt (writeValue p i value numKeys) j numKeys =
      if j = i then value else valueAt p j numKeys := by
  unfold valueSize at fits
  split
  · rename_i same
    subst same
    have pageIdRead : getU32 (writeValue p j value numKeys) (valueOffset j numKeys) =
        value.pageId.asU32 := by
      rw [writeValue, setU16, getU32_overwrite _ (by omega), getU32_setU32_same _ _ (by omega)]
    have slotIdRead : getU16 (writeValue p j value numKeys) (valueOffset j numKeys + 4) =
        value.slotId.val := by
      rw [writeValue, getU16_setU16_same _ _ (by omega)]
    rw [valueAt, pageIdRead, slotIdRead]
    rfl
  · rename_i other
    have := offsets j numKeys; have := offsets i numKeys
    rw [writeValue, setU16, valueAt_overwrite _ (by unfold valueSize; simp; omega), setU32,
      valueAt_overwrite _ (by unfold valueSize; simp; omega)]

theorem valueAt_writeKey {i j numKeys : Nat} (key : UInt32) (below : i < numKeys) :
    valueAt (writeKey p i key) j numKeys = valueAt p j numKeys := by
  have := offsets j numKeys; have := offsets i numKeys
  rw [writeKey, setU32, valueAt_overwrite _ (by unfold valueSize; simp; omega)]

theorem childAt_writeChild {i numKeys : Nat} (child : PageId)
    (fits : childOffset i numKeys + childSize ≤ pageSize) (j : Nat) :
    childAt (writeChild p i child numKeys) j numKeys =
      if j = i then child else childAt p j numKeys := by
  split
  · rename_i same
    subst same
    rw [childAt, writeChild, getU32_setU32_same _ _ fits]
    rfl
  · rename_i other
    have := offsets j numKeys; have := offsets i numKeys
    rw [writeChild, setU32, childAt_overwrite _ (by unfold childSize; simp; omega)]

theorem header_writeKey (i : Nat) (key : UInt32) : header (writeKey p i key) = header p :=
  header_overwrite p (by have := offsets i 0; unfold headerSize; omega)

theorem header_setNumKeys (num : UInt16) : header (setNumKeys p num) = header p := by
  have before : getU32 (setNumKeys p num) pageIdOffset = getU32 p pageIdOffset :=
    getU32_overwrite p (Or.inl (by decide))
  have after : ∀ fieldOffset, numKeysOffset + 2 ≤ fieldOffset →
      getU32 (setNumKeys p num) fieldOffset = getU32 p fieldOffset :=
    fun _ past => getU32_overwrite p (Or.inr (by simpa using past))
  have isLeafKept : byteAt (setNumKeys p num) isLeafOffset = byteAt p isLeafOffset :=
    byteAt_overwrite_outside p (by simp [isLeafOffset, numKeysOffset])
  simp only [header, pageId, isLeaf, nextPageId, prevPageId, parentPageId, link, isLeafKept,
    before, after nextPageOffset (by decide), after prevPageOffset (by decide),
    after parentPageOffset (by decide)]

theorem numKeys_writeKey (i : Nat) (key : UInt32) : numKeys (writeKey p i key) = numKeys p :=
  numKeys_overwrite p (by have := offsets i 0; unfold headerSize; omega)

theorem numKeys_setNumKeys (num : UInt16) : numKeys (setNumKeys p num) = num :=
  getU16_setU16_same p num (by decide)

end Writes

end BTreePage

end Crio
