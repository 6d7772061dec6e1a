import Crio.Index.BTreePool
import Crio.Lib.KeyedList

/-!
`BTreeIndex::insert` into a leaf with room, read back through `search`: a leaf is a keyed
list read by `KeyedList.find`, and a write that leaves a leaf a leaf routes every key as
before.
-/

namespace Crio

namespace Node

def lookup (node : Node) (key : UInt32) : Option RecordId :=
  let pos := node.searchKey key
  if pos < node.keys.length ∧ node.getKey pos = key then some (node.getValue pos) else none

def pairs (node : Node) : List (UInt32 × RecordId) := node.keys.zip node.values

section Leaf

variable {node : Node}

theorem map_fst_pairs (sized : node.values.length = node.keys.length) :
    node.pairs.map Prod.fst = node.keys :=
  List.map_fst_zip (Nat.le_of_eq sized.symm)

theorem pairs_take_below (sorted : node.keys.Pairwise (· ≤ ·)) (key : UInt32) :
    ∀ y ∈ node.pairs.take (node.searchKey key), y.1 < key := by
  intro y member
  obtain ⟨j, inside, rfl⟩ := List.getElem_of_mem member
  have early : j < node.searchKey key := by simp at inside; omega
  have read := (node.searchKey_spec sorted key).2.1 j early
  have bound : j < node.keys.length := by simp [pairs] at inside; omega
  rw [getKey, List.getD_eq_getElem _ _ bound] at read
  simpa [pairs] using read

theorem lookup_eq_find (sorted : node.keys.Pairwise (· ≤ ·))
    (sized : node.values.length = node.keys.length) (key : UInt32) :
    node.lookup key = (KeyedList.find Prod.fst node.pairs key).map Prod.snd := by
  obtain ⟨_, below, above⟩ := node.searchKey_spec sorted key
  unfold lookup
  dsimp only
  by_cases hit : node.searchKey key < node.keys.length ∧ node.getKey (node.searchKey key) = key
  · rw [if_pos hit]
    obtain ⟨inside, keyed⟩ := hit
    have insidePairs : node.searchKey key < node.pairs.length := by simp [pairs, sized, inside]
    have split : node.pairs = node.pairs.take (node.searchKey key) ++
        node.pairs[node.searchKey key] :: node.pairs.drop (node.searchKey key + 1) := by
      rw [← List.drop_eq_getElem_cons insidePairs, List.take_append_drop]
    have atPos : node.pairs[node.searchKey key] = (key, node.getValue (node.searchKey key)) := by
      rw [getKey, List.getD_eq_getElem _ _ inside] at keyed
      rw [getValue, List.getD_eq_getElem _ _ (sized ▸ inside)]
      simp [pairs, keyed]
    have others : ∀ y ∈ node.pairs.take (node.searchKey key), y.1 ≠ key := fun y member =>
      UInt32.ne_of_lt (pairs_take_below sorted key y member)
    rw [split, KeyedList.find_append_cons (atPos ▸ others), atPos, if_pos rfl]
    rfl
  · rw [if_neg hit]
    have missing : key ∉ node.pairs.map Prod.fst := by
      rw [map_fst_pairs sized]
      intro member
      obtain ⟨i, inside, keyed⟩ := List.getElem_of_mem member
      have read : node.getKey i = key := by rw [getKey, List.getD_eq_getElem _ _ inside, keyed]
      by_cases early : i < node.searchKey key
      · exact absurd read (UInt32.ne_of_lt (below i early))
      · have late : node.searchKey key ≤ i := Nat.le_of_not_lt early
        have posInside : node.searchKey key < node.keys.length := Nat.lt_of_le_of_lt late inside
        have upper : node.getKey (node.searchKey key) ≤ node.getKey i :=
          getD_le_getD sorted late inside
        have lower := above (node.searchKey key) le_rfl posInside
        exact hit ⟨posInside, UInt32.le_antisymm (read ▸ upper) lower⟩
    rw [KeyedList.find_eq_none_iff.mpr missing]
    rfl

theorem sized_insertKeyValue (sized : node.values.length = node.keys.length) (key : UInt32)
    (value : RecordId) :
    (node.insertKeyValue key value).values.length = (node.insertKeyValue key value).keys.length := by
  have fits := node.searchKey_le key
  simp only [insertKeyValue, List.length_insertIdx_of_le_length fits,
    List.length_insertIdx_of_le_length (sized ▸ fits), sized]

theorem pairs_insertKeyValue (sized : node.values.length = node.keys.length) (key : UInt32)
    (value : RecordId) :
    (node.insertKeyValue key value).pairs =
      node.pairs.take (node.searchKey key) ++ (key, value) :: node.pairs.drop (node.searchKey key) := by
  have fits := node.searchKey_le key
  simp only [insertKeyValue, pairs]
  rw [IndexLoops.insertIdx_eq_take_append_drop _ fits,
    IndexLoops.insertIdx_eq_take_append_drop _ (sized ▸ fits),
    List.zip_append (by simp [sized]), List.zip_cons_cons]
  simp only [List.zip_eq_zipWith, List.take_zipWith, List.drop_zipWith]

theorem sorted_insertKeyValue (sorted : node.keys.Pairwise (· ≤ ·)) (key : UInt32)
    (value : RecordId) : (node.insertKeyValue key value).keys.Pairwise (· ≤ ·) := by
  obtain ⟨fits, below, above⟩ := node.searchKey_spec sorted key
  have halves := sorted
  rw [← List.take_append_drop (node.searchKey key) node.keys, List.pairwise_append] at halves
  obtain ⟨front, back, across⟩ := halves
  have frontBelow : ∀ a ∈ node.keys.take (node.searchKey key), a < key := by
    intro a member
    obtain ⟨j, inside, rfl⟩ := List.getElem_of_mem member
    have read := below j (by simp at inside; omega)
    rw [getKey, List.getD_eq_getElem _ _ (by simp at inside; omega)] at read
    simpa using read
  have backAbove : ∀ b ∈ node.keys.drop (node.searchKey key), key ≤ b := by
    intro b member
    obtain ⟨j, inside, rfl⟩ := List.getElem_of_mem member
    have read := above (node.searchKey key + j) (by omega) (by simp at inside; omega)
    rw [getKey, List.getD_eq_getElem _ _ (by simp at inside; omega)] at read
    simpa using read
  simp only [insertKeyValue]
  rw [IndexLoops.insertIdx_eq_take_append_drop _ fits, List.pairwise_append, List.pairwise_cons]
  refine ⟨front, ⟨backAbove, back⟩, ?_⟩
  intro a member b placed
  rcases List.mem_cons.mp placed with rfl | later
  · exact UInt32.le_of_lt (frontBelow a member)
  · exact across a member b later

theorem lookup_insertKeyValue (sorted : node.keys.Pairwise (· ≤ ·))
    (sized : node.values.length = node.keys.length) (key : UInt32) (value : RecordId)
    (key' : UInt32) :
    (node.insertKeyValue key value).lookup key' =
      if key' = key then some value else node.lookup key' := by
  have others : ∀ y ∈ node.pairs.take (node.searchKey key), y.1 ≠ key := fun y member =>
    UInt32.ne_of_lt (pairs_take_below sorted key y member)
  rw [lookup_eq_find (sorted_insertKeyValue sorted key value) (sized_insertKeyValue sized key value),
    pairs_insertKeyValue sized, KeyedList.find_append_cons others, List.take_append_drop,
    lookup_eq_find sorted sized]
  by_cases same : key' = key
  · rw [if_pos same.symm, if_pos same]
    rfl
  · rw [if_neg (Ne.symm same), if_neg same]

end Leaf

end Node

namespace BTreeIndex

open StateOption

section Route

structure SameRoute (s s' : BTreeIndex) : Prop where
  internal : ∀ q, (s.store.pages q).isLeaf = false → s'.store.pages q = s.store.pages q
  leaf : ∀ q, (s.store.pages q).isLeaf = true → (s'.store.pages q).isLeaf = true
  root : s'.rootPageId = s.rootPageId
  numPages : s'.store.numPages = s.store.numPages

variable {s s' : BTreeIndex}

theorem sameRoute_update_leaf {p : PageId} (isLeaf : (s.store.pages p).isLeaf = true)
    {node : Node} (keeps : node.isLeaf = true) :
    SameRoute s { s with store := { s.store with pages := Function.update s.store.pages p node } } where
  internal q internal := by
    have other : q ≠ p := fun same => by rw [same, isLeaf] at internal; cases internal
    exact Function.update_of_ne other _ _
  leaf q leaf := by
    by_cases same : q = p
    · subst same
      simpa using keeps
    · simpa [Function.update_of_ne same] using leaf
  root := rfl
  numPages := rfl

theorem findLeafFrom_sameRoute (route : SameRoute s s') (key : UInt32) (rounds : Nat)
    (current : PageId) :
    (findLeafFrom key rounds current).run s' =
      ((findLeafFrom key rounds current).run s).map fun step => (step.1, s') := by
  induction rounds generalizing current with
  | zero => rfl
  | succ rounds ih =>
    by_cases invalid : current = invalidPageId
    · rw [findLeafFrom, readNode, if_pos invalid]
      rfl
    · rw [findLeafFrom, run_bind_of_run (readNode_run invalid s'),
        run_bind_of_run (readNode_run invalid s)]
      by_cases leaf : (s.store.pages current).isLeaf = true
      · rw [if_pos leaf, if_pos (route.leaf current leaf)]
        rfl
      · rw [route.internal current (Bool.eq_false_iff.mpr leaf), if_neg leaf]
        exact ih _

theorem findLeaf_sameRoute (route : SameRoute s s') (key : UInt32) :
    (findLeaf key).run s' = ((findLeaf key).run s).map fun step => (step.1, s') := by
  rw [findLeaf, run_get_bind, run_get_bind, fuel, fuel, route.root, route.numPages]
  exact findLeafFrom_sameRoute route key _ _

theorem findLeafFrom_leaf {key : UInt32} {rounds : Nat} {current leafPageId : PageId}
    {s'' : BTreeIndex} (found : (findLeafFrom key rounds current).run s = some (.ok leafPageId, s'')) :
    leafPageId ≠ invalidPageId ∧ (s.store.pages leafPageId).isLeaf = true := by
  induction rounds generalizing current with
  | zero => cases found
  | succ rounds ih =>
    by_cases invalid : current = invalidPageId
    · rw [findLeafFrom, readNode, if_pos invalid] at found
      cases found
    · rw [findLeafFrom, run_bind_of_run (readNode_run invalid s)] at found
      by_cases leaf : (s.store.pages current).isLeaf = true
      · rw [if_pos leaf] at found
        cases found
        exact ⟨invalid, leaf⟩
      · rw [if_neg leaf] at found
        exact ih found

end Route

section Insert

variable {s : BTreeIndex}

theorem search_run {key : UInt32} {leafPageId : PageId}
    (found : (findLeaf key).run s = some (.ok leafPageId, s)) (valid : leafPageId ≠ invalidPageId) :
    (search key).run s = some (.ok ((s.store.pages leafPageId).lookup key), s) := by
  rw [search, run_bind_of_run found, run_bind_of_run (readNode_run valid s)]
  unfold Node.lookup
  dsimp only
  split_ifs <;> rfl

def insertedInto (s : BTreeIndex) (leafPageId : PageId) (key : UInt32) (value : RecordId) :
    BTreeIndex :=
  let leaf := (s.store.pages leafPageId).insertKeyValue key value
  { s with store := { s.store with pages := Function.update s.store.pages leafPageId leaf } }

theorem insert_run_of_room {key : UInt32} {value : RecordId} {leafPageId : PageId}
    (found : (findLeaf key).run s = some (.ok leafPageId, s)) (valid : leafPageId ≠ invalidPageId)
    (room : (s.store.pages leafPageId).keys.length < s.order) :
    (insert key value).run s = some (.ok (), insertedInto s leafPageId key value) := by
  rw [insert, run_bind_of_run found, run_bind_of_run (readNode_run valid s), run_get_bind,
    if_neg (Nat.not_le_of_lt room)]
  exact modifyNode_run valid _ s

/-- After `insert` into a leaf with room, `search` finds the new value, and every other key as
before. -/
theorem search_after_insert {s' : BTreeIndex} {key : UInt32} {value : RecordId}
    {leafPageId : PageId} (found : (findLeaf key).run.run' s = some (.ok leafPageId))
    (room : (s.store.pages leafPageId).keys.length < s.order)
    (sorted : (s.store.pages leafPageId).keys.Pairwise (· ≤ ·))
    (sized : (s.store.pages leafPageId).values.length = (s.store.pages leafPageId).keys.length)
    (inserted : (insert key value).run s = some (.ok (), s')) (key' : UInt32) :
    (search key').run.run' s' =
      if key' = key then some (.ok (some value)) else (search key').run.run' s := by
  have ran := findLeaf_run_of_run' found
  obtain ⟨valid, isLeaf⟩ := findLeafFrom_leaf ran
  rw [insert_run_of_room ran valid room, Option.some.injEq, Prod.mk.injEq] at inserted
  obtain ⟨-, rfl⟩ := inserted
  have route : SameRoute s (insertedInto s leafPageId key value) :=
    sameRoute_update_leaf isLeaf isLeaf
  have reads : ∀ q, ((insertedInto s leafPageId key value).store.pages q).lookup key' =
      if q = leafPageId then (if key' = key then some value else (s.store.pages q).lookup key')
      else (s.store.pages q).lookup key' := by
    intro q
    by_cases same : q = leafPageId
    · subst same
      simp only [insertedInto, Function.update_self, if_pos]
      exact Node.lookup_insertKeyValue sorted sized key value key'
    · simp only [insertedInto, Function.update_of_ne same, if_neg same]
  obtain ⟨outcome, routed⟩ := findLeafFrom_keeps key' (fuel s) s.rootPageId s
  have before : (findLeaf key').run s = outcome.map fun result => (result, s) := by
    rw [findLeaf, run_get_bind, routed]
  have after : (findLeaf key').run (insertedInto s leafPageId key value) =
      outcome.map fun result => (result, insertedInto s leafPageId key value) := by
    rw [findLeaf_sameRoute route, before, Option.map_map]
    rfl
  by_cases same : key' = key
  · subst same
    rw [if_pos rfl]
    have afterKey := findLeaf_sameRoute route key'
    rw [ran] at afterKey
    rw [StateT.run', search_run afterKey valid, reads, if_pos rfl, if_pos rfl]
    rfl
  · rw [if_neg same]
    rcases outcome with _ | _ | leaf'
    · rw [StateT.run', StateT.run', search, run_bind, run_bind, before, after]
      rfl
    · rw [StateT.run', StateT.run', search, run_bind_of_error before, run_bind_of_error after]
      rfl
    · have validLeaf := (findLeafFrom_leaf before).1
      rw [StateT.run', StateT.run', search_run before validLeaf, search_run after validLeaf,
        reads, if_neg same, ite_self]
      rfl

def twoLevels : BTreeIndex :=
  let root : Node := { Node.init ⟨3⟩ false with
                       keys := [3]
                       children := [⟨1⟩, ⟨2⟩] }
  let first : Node := { Node.init ⟨1⟩ true with
                        keys := [1, 2]
                        values := [⟨⟨1⟩, ⟨0⟩⟩, ⟨⟨2⟩, ⟨0⟩⟩]
                        nextPageId := some ⟨2⟩
                        parentPageId := some ⟨3⟩ }
  let second : Node := { Node.init ⟨2⟩ true with
                         keys := [3, 7]
                         values := [⟨⟨3⟩, ⟨0⟩⟩, ⟨⟨7⟩, ⟨0⟩⟩]
                         prevPageId := some ⟨1⟩
                         parentPageId := some ⟨3⟩ }
  ⟨⟨3⟩, defaultBTreeOrder, ⟨fun pageId =>
    if pageId = ⟨3⟩ then root else if pageId = ⟨1⟩ then first
    else if pageId = ⟨2⟩ then second else Node.zeros, 4⟩⟩

theorem search_after_insert_twoLevels :
    ∃ s', (insert 5 ⟨⟨5⟩, ⟨0⟩⟩).run twoLevels = some (.ok (), s') ∧
      (search 5).run.run' s' = some (.ok (some ⟨⟨5⟩, ⟨0⟩⟩)) := by
  have inserted : (insert 5 ⟨⟨5⟩, ⟨0⟩⟩).run twoLevels =
      some (.ok (), insertedInto twoLevels ⟨2⟩ 5 ⟨⟨5⟩, ⟨0⟩⟩) := rfl
  exact ⟨_, inserted, (search_after_insert
    (show (findLeaf 5).run.run' twoLevels = some (.ok ⟨2⟩) from rfl) (by decide) (by decide)
    (by decide) inserted 5).trans (if_pos rfl)⟩

end Insert

end BTreeIndex

end Crio
