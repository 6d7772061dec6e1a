import Crio.Index.BTreeLeafInsert

/-!
`BTreeIndex::insert` into a full root leaf: `split_and_insert_leaf` and `grow_root`. On
strictly ascending keys each key reads in its half as in the whole leaf.
-/

namespace Crio

namespace Node

section Split

variable {node : Node}

theorem pairs_splitLeaf_left (sized : node.values.length = node.keys.length) :
    node.splitLeaf.2.2.pairs = node.pairs.take (node.keys.length / 2) := by
  rw [node.splitLeaf_eq_take_drop sized]
  simp only [pairs, List.zip, List.take_zipWith]

theorem pairs_insertPairs_splitLeaf (sized : node.values.length = node.keys.length)
    (fresh : Node) :
    (fresh.insertPairs node.splitLeaf.2.1).pairs = node.pairs.drop (node.keys.length / 2) := by
  rw [node.splitLeaf_eq_take_drop sized]
  simp only [insertPairs, pairs]
  rw [List.zip_map', List.map_drop, List.map_zipWith]
  rfl

theorem pairs_sorted (sorted : node.keys.Pairwise (· < ·))
    (sized : node.values.length = node.keys.length) :
    node.pairs.Pairwise fun a b => a.1 < b.1 := by
  rw [← map_fst_pairs sized] at sorted
  exact List.pairwise_map.mp sorted

theorem fst_getElem_pairs {i : Nat} (inside : i < node.pairs.length) :
    node.pairs[i].1 = node.getKey i := by
  have inKeys : i < node.keys.length := by
    simp only [pairs, List.length_zip] at inside
    omega
  simp only [pairs, List.getElem_zip, getKey, List.getD_eq_getElem _ _ inKeys]

theorem mid_lt_length_pairs (sized : node.values.length = node.keys.length)
    (nonempty : 0 < node.keys.length) : node.keys.length / 2 < node.pairs.length := by
  simp only [pairs, List.length_zip, sized, Nat.min_self]
  omega

theorem sorted_lt_insertKeyValue (sorted : node.keys.Pairwise (· < ·)) {key : UInt32}
    (fresh : key ∉ node.keys) (value : RecordId) :
    (node.insertKeyValue key value).keys.Pairwise (· < ·) := by
  have ascending := sorted_insertKeyValue (sorted.imp UInt32.le_of_lt) key value
  have distinct : (node.insertKeyValue key value).keys.Nodup := by
    have moved : (node.insertKeyValue key value).keys.Perm (key :: node.keys) :=
      List.perm_insertIdx key node.keys (node.searchKey_le key)
    exact moved.nodup_iff.mpr (List.nodup_cons.mpr ⟨fresh, sorted.imp UInt32.ne_of_lt⟩)
  exact (ascending.and distinct).imp fun both => UInt32.lt_of_le_of_ne both.1 both.2

variable (sorted : node.keys.Pairwise (· < ·)) (sized : node.values.length = node.keys.length)
  (nonempty : 0 < node.keys.length)

include sorted sized nonempty

theorem lookup_splitLeaf_left {key : UInt32} (below : key < node.getKey (node.keys.length / 2)) :
    node.splitLeaf.2.2.lookup key = node.lookup key := by
  have ascending := sorted.imp UInt32.le_of_lt
  have leftSorted : node.splitLeaf.2.2.keys.Pairwise (· ≤ ·) := by
    rw [node.splitLeaf_eq_take_drop sized]
    exact ascending.sublist (List.take_sublist _ _)
  have leftSized : node.splitLeaf.2.2.values.length = node.splitLeaf.2.2.keys.length := by
    rw [node.splitLeaf_eq_take_drop sized]
    simp [sized]
  have inside := mid_lt_length_pairs sized nonempty
  rw [lookup_eq_find leftSorted leftSized, lookup_eq_find ascending sized,
    pairs_splitLeaf_left sized, KeyedList.find_take_of_lt
      ((pairs_sorted sorted sized).imp UInt32.le_of_lt) inside
      (by rw [fst_getElem_pairs inside]; exact below)]

theorem lookup_splitLeaf_right (fresh : Node) {key : UInt32}
    (above : node.getKey (node.keys.length / 2) ≤ key) :
    (fresh.insertPairs node.splitLeaf.2.1).lookup key = node.lookup key := by
  have ascending := sorted.imp UInt32.le_of_lt
  have rightSized : (fresh.insertPairs node.splitLeaf.2.1).values.length =
      (fresh.insertPairs node.splitLeaf.2.1).keys.length := by
    simp [insertPairs]
  have rightKeys : (fresh.insertPairs node.splitLeaf.2.1).keys =
      node.keys.drop (node.keys.length / 2) := by
    rw [← map_fst_pairs rightSized, pairs_insertPairs_splitLeaf sized fresh, List.map_drop,
      map_fst_pairs sized]
  have rightSorted : (fresh.insertPairs node.splitLeaf.2.1).keys.Pairwise (· ≤ ·) := by
    rw [rightKeys]
    exact ascending.sublist (List.drop_sublist _ _)
  have inside := mid_lt_length_pairs sized nonempty
  rw [lookup_eq_find rightSorted rightSized, lookup_eq_find ascending sized,
    pairs_insertPairs_splitLeaf sized fresh, KeyedList.find_drop_of_le (pairs_sorted sorted sized)
      inside (by rw [fst_getElem_pairs inside]; exact above)]

end Split

end Node

namespace BTreeIndex

open StateOption

theorem fromParts_zero {offset : UInt32} (fits : offset ≤ PageId.pageOffsetMask) :
    PageId.fromParts 0 offset = some ⟨offset⟩ := by
  have small : offset.toNat < 2 ^ 24 := by
    have := UInt32.le_iff_toNat_le.mp fits
    have mask : PageId.pageOffsetMask.toNat = 2 ^ 24 - 1 := rfl
    omega
  rw [PageId.fromParts, if_pos fits]
  congr 2
  apply UInt32.toNat_inj.mp
  rw [show (0 : UInt8).toUInt32 = 0 from rfl, UInt32.zero_shiftLeft, UInt32.zero_or,
    UInt32.toNat_and, show PageId.pageOffsetMask.toNat = 2 ^ 24 - 1 from rfl,
    Nat.and_two_pow_sub_one_eq_mod, Nat.mod_eq_of_lt small]

theorem newPage_run {s : BTreeIndex} (fits : s.store.numPages ≤ PageId.pageOffsetMask) :
    newPage.run s = some (.ok ⟨s.store.numPages⟩, { s with store :=
      ⟨Function.update s.store.pages ⟨s.store.numPages⟩ Node.zeros, s.store.numPages + 1⟩ }) := by
  rw [newPage, run_get_bind, fromParts_zero fits]
  rfl

theorem childIndex_single (node : Node) (separatorKey key : UInt32) (children : List PageId) :
    childIndex (node.insertKeysChildren [separatorKey] children) key =
      if key < separatorKey then 0 else 1 := by
  have searched : (node.insertKeysChildren [separatorKey] children).searchKey key =
      if separatorKey < key then 1 else 0 := by
    simp only [Node.searchKey, Node.insertKeysChildren, List.length_singleton, Node.searchKeyLoop]
    split_ifs <;> simp_all
  unfold childIndex
  rw [searched]
  by_cases above : separatorKey < key
  · have notBelow : ¬ key < separatorKey := UInt32.not_lt.mpr (UInt32.le_of_lt above)
    simp [above, notBelow, Node.insertKeysChildren]
  · by_cases same : separatorKey = key
    · subst same
      simp [Node.getKey, Node.insertKeysChildren]
    · have below : key < separatorKey := by
        have := UInt32.not_lt.mp above
        exact UInt32.lt_of_le_of_ne this (Ne.symm same)
      simp [above, below, same, Node.getKey, Node.insertKeysChildren]

theorem toNat_add_one_of_fits {offset : UInt32} (fits : offset ≤ PageId.pageOffsetMask) :
    (offset + 1).toNat = offset.toNat + 1 := by
  have small := UInt32.le_iff_toNat_le.mp fits
  have mask : PageId.pageOffsetMask.toNat = 2 ^ 24 - 1 := rfl
  rw [UInt32.toNat_add, show (1 : UInt32).toNat = 1 from rfl]
  exact Nat.mod_eq_of_lt (by omega)

structure SplitPages (s : BTreeIndex) : Prop where
  leafValid : s.rootPageId ≠ invalidPageId
  rightValid : (⟨s.store.numPages⟩ : PageId) ≠ invalidPageId
  topValid : (⟨s.store.numPages + 1⟩ : PageId) ≠ invalidPageId
  rightApart : (⟨s.store.numPages⟩ : PageId) ≠ s.rootPageId
  topApart : (⟨s.store.numPages + 1⟩ : PageId) ≠ s.rootPageId
  topRight : (⟨s.store.numPages + 1⟩ : PageId) ≠ ⟨s.store.numPages⟩
  fitsRight : s.store.numPages ≤ PageId.pageOffsetMask
  fitsTop : s.store.numPages + 1 ≤ PageId.pageOffsetMask
  started : 0 < fuel s

theorem splitPages_of_room {s : BTreeIndex} (allocated : s.rootPageId.val < s.store.numPages)
    (room : s.store.numPages.toNat + 1 ≤ PageId.pageOffsetMask.toNat) : SplitPages s := by
  have below := UInt32.lt_iff_toNat_lt.mp allocated
  have mask : PageId.pageOffsetMask.toNat = 2 ^ 24 - 1 := rfl
  have invalid : invalidPageId.val.toNat = 2 ^ 32 - 1 := rfl
  have next : (s.store.numPages + 1).toNat = s.store.numPages.toNat + 1 :=
    toNat_add_one_of_fits (UInt32.le_iff_toNat_le.mpr (by omega))
  have apart : ∀ {p q : PageId}, p.val.toNat ≠ q.val.toNat → p ≠ q :=
    fun differ same => differ (by rw [same])
  refine ⟨?_, ?_, ?_, ?_, ?_, ?_, ?_, ?_, ?_⟩
  · exact apart (by rw [invalid]; omega)
  · exact apart (by rw [invalid]; dsimp only; omega)
  · exact apart (by rw [invalid]; dsimp only; rw [next]; omega)
  · exact apart (by dsimp only; omega)
  · exact apart (by dsimp only; rw [next]; omega)
  · exact apart (by dsimp only; rw [next]; omega)
  · exact UInt32.le_iff_toNat_le.mpr (by omega)
  · exact UInt32.le_iff_toNat_le.mpr (by rw [next]; omega)
  · show 0 < s.store.numPages.toNat
    omega

theorem findLeaf_root {s : BTreeIndex} (valid : s.rootPageId ≠ invalidPageId)
    (isLeaf : (s.store.pages s.rootPageId).isLeaf = true) (started : 0 < fuel s) (key : UInt32) :
    (findLeaf key).run s = some (.ok s.rootPageId, s) := by
  obtain ⟨rounds, more⟩ : ∃ rounds, fuel s = rounds + 1 := ⟨fuel s - 1, by omega⟩
  rw [findLeaf, run_get_bind, more, findLeafFrom, run_bind_of_run (readNode_run valid s),
    if_pos isLeaf]
  rfl

def rootSplit (s : BTreeIndex) (key : UInt32) (value : RecordId) : BTreeIndex :=
  let leafPageId := s.rootPageId
  let node := (s.store.pages leafPageId).insertKeyValue key value
  let rightId : PageId := ⟨s.store.numPages⟩
  let rootId : PageId := ⟨s.store.numPages + 1⟩
  let left := (node.splitLeaf.2.2.setNextPageId (some rightId)).setParentPageId (some rootId)
  let right := (((((Node.init rightId true).insertPairs node.splitLeaf.2.1).setParentPageId
    node.parentPageId).setNextPageId node.nextPageId).setPrevPageId
      (some leafPageId)).setParentPageId (some rootId)
  let root := (Node.init rootId false).insertKeysChildren [node.splitLeaf.1] [leafPageId, rightId]
  ⟨rootId, s.order, ⟨fun q => if q = rootId then root else if q = rightId then right
    else if q = leafPageId then left else s.store.pages q, s.store.numPages + 1 + 1⟩⟩

section RootSplit

variable {s : BTreeIndex} (pages : SplitPages s)

include pages

theorem insert_run_of_full_root {key : UInt32} {value : RecordId}
    (isLeaf : (s.store.pages s.rootPageId).isLeaf = true)
    (orphan : (s.store.pages s.rootPageId).parentPageId = none)
    (alone : (s.store.pages s.rootPageId).nextPageId = none)
    (full : s.order ≤ (s.store.pages s.rootPageId).keys.length) :
    (insert key value).run s = some (.ok (), rootSplit s key value) := by
  rw [insert, run_bind_of_run (findLeaf_root pages.leafValid isLeaf pages.started key),
    run_bind_of_run (readNode_run pages.leafValid s), run_get_bind, if_pos full,
    splitAndInsertLeaf, run_bind_of_run (readNode_run pages.leafValid s)]
  dsimp only
  have noParent : ((s.store.pages s.rootPageId).insertKeyValue key value).parentPageId = none :=
    orphan
  have noNext : ((s.store.pages s.rootPageId).insertKeyValue key value).nextPageId = none := alone
  rw [noParent, noNext]
  dsimp only
  rw [run_bind_of_run (modifyNode_run pages.leafValid _ s), run_bind_of_run (newPage_run ?_),
    run_bind_of_run (modifyNode_run pages.rightValid _ _),
    run_bind_of_run (modifyNode_run pages.leafValid _ _), growRoot,
    run_bind_of_run (newPage_run ?_), run_bind_of_run (modifyNode_run pages.topValid _ _),
    run_bind_of_run (modifyNode_run pages.leafValid _ _),
    run_bind_of_run (modifyNode_run pages.rightValid _ _)]
  rotate_left
  · exact pages.fitsTop
  · exact pages.fitsRight
  show some (Except.ok (), _) = some (Except.ok (), rootSplit s key value)
  congr 2
  unfold rootSplit
  dsimp only
  congr 2
  funext q
  -- page by page: the new root, the right half, the left half, and every other page as it was
  have topLeaf := pages.topApart
  have rightLeaf := pages.rightApart
  have topRight := pages.topRight
  by_cases atTop : q = ⟨s.store.numPages + 1⟩
  · subst atTop
    simp [Function.update_apply, topLeaf, topRight]
  · by_cases atRight : q = ⟨s.store.numPages⟩
    · subst atRight
      simp [Function.update_apply, rightLeaf, Ne.symm topRight, noParent, noNext]
    · by_cases atLeaf : q = s.rootPageId
      · rw [atLeaf]
        simp [Function.update_apply, Ne.symm rightLeaf, Ne.symm topLeaf]
      · simp [Function.update_apply, atTop, atRight, atLeaf]

theorem findLeaf_rootSplit (key : UInt32) (value : RecordId)
    (isLeaf : (s.store.pages s.rootPageId).isLeaf = true) (key' : UInt32) :
    (findLeaf key').run (rootSplit s key value) =
      some (.ok (if key' < ((s.store.pages s.rootPageId).insertKeyValue key value).splitLeaf.1
        then s.rootPageId else ⟨s.store.numPages⟩), rootSplit s key value) := by
  have counted : fuel (rootSplit s key value) = fuel s + 1 + 1 := by
    show (s.store.numPages + 1 + 1).toNat = s.store.numPages.toNat + 1 + 1
    rw [toNat_add_one_of_fits pages.fitsTop, toNat_add_one_of_fits pages.fitsRight]
  have topPage : (rootSplit s key value).store.pages ⟨s.store.numPages + 1⟩ =
      (Node.init ⟨s.store.numPages + 1⟩ false).insertKeysChildren
        [((s.store.pages s.rootPageId).insertKeyValue key value).splitLeaf.1]
        [s.rootPageId, ⟨s.store.numPages⟩] := if_pos rfl
  have leafPage : ((rootSplit s key value).store.pages s.rootPageId).isLeaf = true := by
    simp only [rootSplit, if_neg (Ne.symm pages.topApart), if_neg (Ne.symm pages.rightApart)]
    exact isLeaf
  have rightPage : ((rootSplit s key value).store.pages ⟨s.store.numPages⟩).isLeaf = true := by
    simp only [rootSplit, if_neg (Ne.symm pages.topRight)]
    rfl
  rw [findLeaf, run_get_bind, counted]
  show (findLeafFrom key' (fuel s + 1 + 1) ⟨s.store.numPages + 1⟩).run _ = _
  rw [findLeafFrom, run_bind_of_run (readNode_run pages.topValid _), topPage,
    if_neg (by simp [Node.insertKeysChildren, Node.init]), childIndex_single]
  by_cases below : key' < ((s.store.pages s.rootPageId).insertKeyValue key value).splitLeaf.1
  · rw [if_pos below, if_pos below]
    show (findLeafFrom key' (fuel s + 1) s.rootPageId).run _ = _
    rw [findLeafFrom, run_bind_of_run (readNode_run pages.leafValid _), if_pos leafPage]
    rfl
  · rw [if_neg below, if_neg below]
    show (findLeafFrom key' (fuel s + 1) ⟨s.store.numPages⟩).run _ = _
    rw [findLeafFrom, run_bind_of_run (readNode_run pages.rightValid _), if_pos rightPage]
    rfl

theorem search_rootSplit {key : UInt32} {value : RecordId}
    (isLeaf : (s.store.pages s.rootPageId).isLeaf = true)
    (sorted : (s.store.pages s.rootPageId).keys.Pairwise (· < ·))
    (sized : (s.store.pages s.rootPageId).values.length = (s.store.pages s.rootPageId).keys.length)
    (fresh : key ∉ (s.store.pages s.rootPageId).keys) (key' : UInt32) :
    (search key').run (rootSplit s key value) =
      some (.ok (((s.store.pages s.rootPageId).insertKeyValue key value).lookup key'),
        rootSplit s key value) := by
  have found := findLeaf_rootSplit pages key value isLeaf key'
  set node := (s.store.pages s.rootPageId).insertKeyValue key value with nodeEq
  have ascending : node.keys.Pairwise (· < ·) := Node.sorted_lt_insertKeyValue sorted fresh value
  have counted : node.values.length = node.keys.length := Node.sized_insertKeyValue sized key value
  have nonempty : 0 < node.keys.length := by
    rw [nodeEq, Node.insertKeyValue, List.length_insertIdx_of_le_length (Node.searchKey_le _ key)]
    omega
  by_cases below : key' < node.splitLeaf.1
  · rw [if_pos below] at found
    have page : ((rootSplit s key value).store.pages s.rootPageId).lookup key' =
        node.splitLeaf.2.2.lookup key' := by
      simp only [rootSplit, if_neg (Ne.symm pages.topApart), if_neg (Ne.symm pages.rightApart)]
      rfl
    rw [search_run found pages.leafValid, page,
      Node.lookup_splitLeaf_left ascending counted nonempty below]
  · rw [if_neg below] at found
    have page : ((rootSplit s key value).store.pages ⟨s.store.numPages⟩).lookup key' =
        ((Node.init ⟨s.store.numPages⟩ true).insertPairs node.splitLeaf.2.1).lookup key' := by
      simp only [rootSplit, if_neg (Ne.symm pages.topRight)]
      rfl
    rw [search_run found pages.rightValid, page,
      Node.lookup_splitLeaf_right ascending counted nonempty _ (UInt32.not_lt.mp below)]

end RootSplit

/-- An `insert` that splits a full root leaf returns `Ok`, and `search` then finds the new value,
and every other key as before. -/
theorem insert_splits_root {s : BTreeIndex} {key : UInt32} {value : RecordId}
    (isLeaf : (s.store.pages s.rootPageId).isLeaf = true)
    (orphan : (s.store.pages s.rootPageId).parentPageId = none)
    (alone : (s.store.pages s.rootPageId).nextPageId = none)
    (full : s.order ≤ (s.store.pages s.rootPageId).keys.length)
    (sorted : (s.store.pages s.rootPageId).keys.Pairwise (· < ·))
    (sized : (s.store.pages s.rootPageId).values.length = (s.store.pages s.rootPageId).keys.length)
    (fresh : key ∉ (s.store.pages s.rootPageId).keys)
    (allocated : s.rootPageId.val < s.store.numPages)
    (room : s.store.numPages.toNat + 1 ≤ PageId.pageOffsetMask.toNat) :
    ∃ s', (insert key value).run s = some (.ok (), s') ∧
      ∀ key', (search key').run.run' s' =
        if key' = key then some (.ok (some value)) else (search key').run.run' s := by
  have pages := splitPages_of_room allocated room
  refine ⟨rootSplit s key value, insert_run_of_full_root pages isLeaf orphan alone full,
    fun key' => ?_⟩
  have before : (search key').run s = some (.ok ((s.store.pages s.rootPageId).lookup key'), s) :=
    search_run (findLeaf_root pages.leafValid isLeaf pages.started key') pages.leafValid
  rw [StateT.run', StateT.run', search_rootSplit pages isLeaf sorted sized fresh, before]
  show some (Except.ok (((s.store.pages s.rootPageId).insertKeyValue key value).lookup key')) =
    if key' = key then some (Except.ok (some value))
    else some (Except.ok ((s.store.pages s.rootPageId).lookup key'))
  rw [Node.lookup_insertKeyValue (sorted.imp UInt32.le_of_lt) sized]
  split_ifs <;> rfl

theorem pairwise_lt_ofNat_range {n : Nat} (small : n ≤ 2 ^ 32) :
    ((List.range n).map UInt32.ofNat).Pairwise (· < ·) := by
  rw [List.pairwise_map]
  refine List.pairwise_lt_range.imp_of_mem fun {a b} inA inB below => ?_
  rw [List.mem_range] at inA inB
  rw [UInt32.lt_iff_toNat_lt, UInt32.toNat_ofNat', UInt32.toNat_ofNat',
    Nat.mod_eq_of_lt (by omega), Nat.mod_eq_of_lt (by omega)]
  exact below

def fullRoot : BTreeIndex :=
  let keys := (List.range defaultBTreeOrder).map UInt32.ofNat
  let root : Node := { Node.init ⟨0⟩ true with
                       keys := keys
                       values := keys.map fun key => ⟨⟨key⟩, ⟨0⟩⟩ }
  ⟨⟨0⟩, defaultBTreeOrder, ⟨fun pageId => if pageId = ⟨0⟩ then root else Node.zeros, 1⟩⟩

theorem insert_splits_root_fullRoot :
    ∃ s', (insert 200 ⟨⟨200⟩, ⟨0⟩⟩).run fullRoot = some (.ok (), s') ∧
      ∀ key', (search key').run.run' s' =
        if key' = 200 then some (.ok (some ⟨⟨200⟩, ⟨0⟩⟩)) else (search key').run.run' fullRoot :=
  insert_splits_root (by decide) (by decide) (by decide) (by decide +kernel)
    (pairwise_lt_ofNat_range (by decide)) (by simp [fullRoot]) (by decide +kernel) (by decide)
    (by decide)

end BTreeIndex

end Crio
