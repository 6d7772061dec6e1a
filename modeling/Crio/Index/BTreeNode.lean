import Crio.Common.Types
import Crio.Lib.IndexLoops

/-!
The nodes of `src/index/btree_page.rs` read through the page layout, as lists. A position past
the keys, or a value or child never written, reads the zeroed page: key 0, page 0.
-/

namespace Crio

structure KeyValuePair where
  key : UInt32
  value : RecordId
  deriving DecidableEq, Repr

structure Node where
  pageId : PageId
  isLeaf : Bool
  keys : List UInt32
  values : List RecordId
  children : List PageId
  nextPageId : Option PageId
  prevPageId : Option PageId
  parentPageId : Option PageId
  deriving DecidableEq, Repr

namespace Node

/-- A zeroed page: a leaf flag of 0, and page 0, not `None`, in each link. -/
def zeros : Node := ⟨⟨0⟩, false, [], [], [], some ⟨0⟩, some ⟨0⟩, some ⟨0⟩⟩

def init (pageId : PageId) (isLeaf : Bool) : Node :=
  ⟨pageId, isLeaf, [], [], [], none, none, none⟩

def getKey (node : Node) (index : Nat) : UInt32 := node.keys.getD index 0

def getValue (node : Node) (index : Nat) : RecordId := node.values.getD index ⟨⟨0⟩, ⟨0⟩⟩

def getChild (node : Node) (index : Nat) : PageId := node.children.getD index ⟨0⟩

def setNextPageId (node : Node) (pageId : Option PageId) : Node := { node with nextPageId := pageId }

def setPrevPageId (node : Node) (pageId : Option PageId) : Node := { node with prevPageId := pageId }

def setParentPageId (node : Node) (pageId : Option PageId) : Node :=
  { node with parentPageId := pageId }

/-- `fuel` bounds the rounds of the loop; `right - left` of them always suffice. -/
def searchKeyLoop (keys : List UInt32) (key : UInt32) : Nat → Nat → Nat → Nat
  | 0, left, _ => left
  | fuel + 1, left, right =>
    if left < right then
      let mid := left + (right - left) / 2
      if keys.getD mid 0 < key then searchKeyLoop keys key fuel (mid + 1) right
      else searchKeyLoop keys key fuel left mid
    else left

def searchKey (node : Node) (key : UInt32) : Nat :=
  searchKeyLoop node.keys key node.keys.length 0 node.keys.length

def insertKeyValue (node : Node) (key : UInt32) (value : RecordId) : Node :=
  let pos := node.searchKey key
  { node with keys := node.keys.insertIdx pos key, values := node.values.insertIdx pos value }

def insertKeyChild (node : Node) (key : UInt32) (child : PageId) : Node :=
  let pos := node.searchKey key
  { node with keys := node.keys.insertIdx pos key, children := node.children.insertIdx (pos + 1) child }

def splitLeaf (node : Node) : UInt32 × List KeyValuePair × Node :=
  let numKeys := node.keys.length
  let mid := numKeys / 2
  let rightPairs := ((List.range numKeys).drop mid).map fun i => ⟨node.getKey i, node.getValue i⟩
  (node.getKey mid, rightPairs,
    { node with keys := node.keys.take mid, values := (List.range mid).map node.getValue })

def splitInternal (node : Node) : UInt32 × List UInt32 × List PageId × Node :=
  let numKeys := node.keys.length
  let mid := numKeys / 2
  let rightKeys := ((List.range numKeys).drop (mid + 1)).map node.getKey
  let rightChildren := ((List.range (numKeys + 1)).drop (mid + 1)).map node.getChild
  (node.getKey mid, rightKeys, rightChildren,
    { node with keys := node.keys.take mid, children := (List.range (mid + 1)).map node.getChild })

def insertPairs (node : Node) (pairs : List KeyValuePair) : Node :=
  { node with keys := pairs.map (·.key), values := pairs.map (·.value) }

def insertKeysChildren (node : Node) (keys : List UInt32) (children : List PageId) : Node :=
  { node with keys, children }

section SearchKey

variable {keys : List UInt32} {key : UInt32}

structure Bracket (keys : List UInt32) (key : UInt32) (left right : Nat) : Prop where
  le : left ≤ right
  right_le : right ≤ keys.length
  below : ∀ i, i < left → keys.getD i 0 < key
  above : ∀ i, right ≤ i → i < keys.length → key ≤ keys.getD i 0

theorem getD_le_getD (sorted : keys.Pairwise (· ≤ ·)) {i j : Nat} (le : i ≤ j)
    (inside : j < keys.length) : keys.getD i 0 ≤ keys.getD j 0 := by
  rcases Nat.lt_or_eq_of_le le with lt | rfl
  · rw [← List.getElem_eq_getD (h := by omega), ← List.getElem_eq_getD (h := inside)]
    exact List.pairwise_iff_getElem.mp sorted i j (by omega) inside lt
  · exact UInt32.le_refl _

theorem Bracket.step (sorted : keys.Pairwise (· ≤ ·)) {left right : Nat}
    (bracket : Bracket keys key left right) (open_ : left < right) :
    let mid := left + (right - left) / 2
    (keys.getD mid 0 < key → Bracket keys key (mid + 1) right) ∧
      (¬ keys.getD mid 0 < key → Bracket keys key left mid) := by
  intro mid
  have midInside : mid < keys.length := by have := bracket.right_le; omega
  constructor
  · intro below
    refine ⟨by omega, bracket.right_le, fun i lt => ?_, bracket.above⟩
    exact UInt32.lt_of_le_of_lt (getD_le_getD sorted (by omega) midInside) below
  · intro notBelow
    refine ⟨by omega, by omega, bracket.below, fun i ge inside => ?_⟩
    exact UInt32.le_trans (UInt32.not_lt.mp notBelow) (getD_le_getD sorted ge inside)

theorem searchKeyLoop_bracket (sorted : keys.Pairwise (· ≤ ·)) :
    ∀ (fuel left right : Nat), right - left ≤ fuel → Bracket keys key left right →
      Bracket keys key (searchKeyLoop keys key fuel left right)
        (searchKeyLoop keys key fuel left right)
  | 0, left, right, enough, bracket => by
    have same : left = right := by have := bracket.le; omega
    subst same
    exact bracket
  | fuel + 1, left, right, enough, bracket => by
    unfold searchKeyLoop
    by_cases open_ : left < right
    · obtain ⟨toRight, toLeft⟩ := bracket.step sorted open_
      rw [if_pos open_]
      by_cases below : keys.getD (left + (right - left) / 2) 0 < key
      · rw [if_pos below]
        exact searchKeyLoop_bracket sorted fuel _ right (by omega) (toRight below)
      · rw [if_neg below]
        exact searchKeyLoop_bracket sorted fuel left _ (by omega) (toLeft below)
    · have same : left = right := by have := bracket.le; omega
      rw [if_neg open_]
      subst same
      exact bracket

theorem searchKey_spec (node : Node) (sorted : node.keys.Pairwise (· ≤ ·)) (key : UInt32) :
    node.searchKey key ≤ node.keys.length ∧
      (∀ i, i < node.searchKey key → node.getKey i < key) ∧
      ∀ i, node.searchKey key ≤ i → i < node.keys.length → key ≤ node.getKey i := by
  have start : Bracket node.keys key 0 node.keys.length :=
    ⟨Nat.zero_le _, Nat.le_refl _, fun _ lt => absurd lt (Nat.not_lt_zero _), fun _ _ inside =>
      absurd inside (by omega)⟩
  have found := searchKeyLoop_bracket sorted node.keys.length 0 node.keys.length (by omega) start
  exact ⟨found.right_le, found.below, found.above⟩

theorem searchKeyLoop_le : ∀ (fuel left right : Nat), left ≤ right →
    searchKeyLoop keys key fuel left right ≤ right
  | 0, _, _, le => le
  | fuel + 1, left, right, le => by
    unfold searchKeyLoop
    by_cases open_ : left < right
    · rw [if_pos open_]
      dsimp only
      split
      · exact searchKeyLoop_le fuel _ right (by omega)
      · exact Nat.le_trans (searchKeyLoop_le fuel left _ (by omega)) (by omega)
    · rw [if_neg open_]
      exact le

theorem searchKey_le (node : Node) (key : UInt32) : node.searchKey key ≤ node.keys.length :=
  searchKeyLoop_le _ 0 _ (Nat.zero_le _)

theorem searchKey_eq_countP (node : Node) (sorted : node.keys.Pairwise (· ≤ ·)) (key : UInt32) :
    node.searchKey key = node.keys.countP (· < key) := by
  obtain ⟨le, below, above⟩ := node.searchKey_spec sorted key
  have front : (node.keys.take (node.searchKey key)).countP (· < key) = node.searchKey key := by
    rw [List.countP_eq_length.mpr, List.length_take, Nat.min_eq_left le]
    intro k member
    obtain ⟨i, inside, rfl⟩ := List.getElem_of_mem member
    have early : i < node.searchKey key := by simp at inside; omega
    have read := below i early
    rw [getKey, List.getD_eq_getElem _ _ (by omega)] at read
    simpa [List.getElem_take] using read
  have back : (node.keys.drop (node.searchKey key)).countP (· < key) = 0 := by
    rw [List.countP_eq_zero]
    intro k member
    obtain ⟨i, inside, rfl⟩ := List.getElem_of_mem member
    have late := above (node.searchKey key + i) (by omega) (by simp at inside; omega)
    rw [getKey, List.getD_eq_getElem _ _ (by simp at inside; omega)] at late
    simpa [List.getElem_drop] using UInt32.not_lt.mpr late
  rw [← List.take_append_drop (node.searchKey key) node.keys, List.countP_append, front, back]
  rw [Nat.add_zero]

end SearchKey

section Split

variable (node : Node)

theorem map_range_getKey : (List.range node.keys.length).map node.getKey = node.keys :=
  (IndexLoops.map_range_getD le_rfl 0).trans List.take_length

theorem map_range_pair (sized : node.values.length = node.keys.length) :
    (List.range node.keys.length).map (fun i => (⟨node.getKey i, node.getValue i⟩ : KeyValuePair)) =
      List.zipWith KeyValuePair.mk node.keys node.values := by
  have values : (List.range node.keys.length).map node.getValue = node.values :=
    (IndexLoops.map_range_getD (Nat.le_of_eq sized.symm) _).trans
      (List.take_of_length_le (Nat.le_of_eq sized))
  conv_rhs => rw [← map_range_getKey node, ← values, List.zipWith_map, List.zipWith_self]

theorem splitLeaf_eq_take_drop (sized : node.values.length = node.keys.length) :
    node.splitLeaf = (node.getKey (node.keys.length / 2),
      (List.zipWith KeyValuePair.mk node.keys node.values).drop (node.keys.length / 2),
      { node with
        keys := node.keys.take (node.keys.length / 2)
        values := node.values.take (node.keys.length / 2) }) := by
  have leftValues : (List.range (node.keys.length / 2)).map node.getValue =
      node.values.take (node.keys.length / 2) :=
    IndexLoops.map_range_getD (by omega) _
  simp only [splitLeaf, List.map_drop, map_range_pair node sized, leftValues]

theorem splitInternal_eq_take_drop (sized : node.children.length = node.keys.length + 1) :
    node.splitInternal = (node.getKey (node.keys.length / 2),
      node.keys.drop (node.keys.length / 2 + 1), node.children.drop (node.keys.length / 2 + 1),
      { node with
        keys := node.keys.take (node.keys.length / 2)
        children := node.children.take (node.keys.length / 2 + 1) }) := by
  have children : (List.range (node.keys.length + 1)).map node.getChild = node.children :=
    (IndexLoops.map_range_getD (Nat.le_of_eq sized.symm) _).trans
      (List.take_of_length_le (Nat.le_of_eq sized))
  have leftChildren : (List.range (node.keys.length / 2 + 1)).map node.getChild =
      node.children.take (node.keys.length / 2 + 1) :=
    IndexLoops.map_range_getD (by omega) _
  simp only [splitInternal, List.map_drop, map_range_getKey, children, leftChildren]

end Split

end Node

end Crio
