import Crio.Index.BTreeRuns
import Crio.Buffer.BufferPoolRuns

/-!
The index of `src/index/btree_index.rs` over any buffer pool, through the three calls it
makes on it (`PoolCalls`), and over the buffer pool of this development, which may refuse
`new_page`.
-/

namespace Crio

structure PoolCalls where
  newPage : IndexM PageId
  readNode : PageId → IndexM Node
  modifyNode : PageId → (Node → Node) → IndexM Unit

namespace PoolCalls

open BTreeIndex (stuck fuel childIndex scanKeys)

variable (pool : PoolCalls)

def create : IndexM Unit := do
  let rootPageId ← pool.newPage
  pool.modifyNode rootPageId fun _ => Node.init rootPageId true
  modify fun s => { s with rootPageId, order := defaultBTreeOrder }

def findLeafFrom (key : UInt32) : Nat → PageId → IndexM PageId
  | 0, _ => stuck
  | rounds + 1, current => do
    let node ← pool.readNode current
    if node.isLeaf then return current
    findLeafFrom key rounds (node.getChild (childIndex node key))

def findLeaf (key : UInt32) : IndexM PageId := do
  let s ← get
  pool.findLeafFrom key (fuel s) s.rootPageId

def search (key : UInt32) : IndexM (Option RecordId) := do
  let leafPageId ← pool.findLeaf key
  let node ← pool.readNode leafPageId
  let pos := node.searchKey key
  if pos < node.keys.length ∧ node.getKey pos = key then return some (node.getValue pos)
  else return none

def growRoot (separatorKey : UInt32) (left right : PageId) : IndexM Unit := do
  let newRootId ← pool.newPage
  pool.modifyNode newRootId fun _ =>
    (Node.init newRootId false).insertKeysChildren [separatorKey] [left, right]
  pool.modifyNode left (·.setParentPageId (some newRootId))
  pool.modifyNode right (·.setParentPageId (some newRootId))
  modify fun s => { s with rootPageId := newRootId }

mutual

def insertIntoParent : Nat → PageId → UInt32 → PageId → IndexM Unit
  | 0, _, _, _ => stuck
  | rounds + 1, parentId, key, newChildId => do
    let node ← pool.readNode parentId
    if node.keys.length ≥ (← get).order then
      splitAndInsertInternal rounds parentId key newChildId
    else pool.modifyNode parentId (·.insertKeyChild key newChildId)

def splitAndInsertInternal : Nat → PageId → UInt32 → PageId → IndexM Unit
  | 0, _, _, _ => stuck
  | rounds + 1, internalId, key, newChildId => do
    let node := (← pool.readNode internalId).insertKeyChild key newChildId
    let parentPageId := node.parentPageId
    let (separatorKey, rightKeys, rightChildren, left) := node.splitInternal
    pool.modifyNode internalId fun _ => left
    let newInternalId ← pool.newPage
    pool.modifyNode newInternalId fun _ =>
      ((Node.init newInternalId false).insertKeysChildren rightKeys rightChildren).setParentPageId
        parentPageId
    rightChildren.forM fun childId =>
      pool.modifyNode childId (·.setParentPageId (some newInternalId))
    match parentPageId with
    | some parentId => insertIntoParent rounds parentId separatorKey newInternalId
    | none => pool.growRoot separatorKey internalId newInternalId

end

def splitAndInsertLeaf (leafPageId : PageId) (key : UInt32) (value : RecordId) : IndexM Unit := do
  let node := (← pool.readNode leafPageId).insertKeyValue key value
  let next := node.nextPageId
  let parent := node.parentPageId
  let (separatorKey, rightPairs, left) := node.splitLeaf
  pool.modifyNode leafPageId fun _ => left
  let newLeafId ← pool.newPage
  pool.modifyNode newLeafId fun _ =>
    ((((Node.init newLeafId true).insertPairs rightPairs).setParentPageId parent).setNextPageId
      next).setPrevPageId (some leafPageId)
  pool.modifyNode leafPageId (·.setNextPageId (some newLeafId))
  if let some nextId := next then pool.modifyNode nextId (·.setPrevPageId (some newLeafId))
  match parent with
  | some parentId => pool.insertIntoParent (fuel (← get)) parentId separatorKey newLeafId
  | none => pool.growRoot separatorKey leafPageId newLeafId

def insert (key : UInt32) (value : RecordId) : IndexM Unit := do
  let leafPageId ← pool.findLeaf key
  let node ← pool.readNode leafPageId
  if node.keys.length ≥ (← get).order then pool.splitAndInsertLeaf leafPageId key value
  else pool.modifyNode leafPageId (·.insertKeyValue key value)

def rangeScanFrom (startKey endKey : UInt32) :
    Nat → Option PageId → List (UInt32 × RecordId) → IndexM (List (UInt32 × RecordId))
  | _, none, results => return results
  | 0, some _, _ => stuck
  | rounds + 1, some pageId, results => do
    let node ← pool.readNode pageId
    let pairs := (List.range node.keys.length).map fun i => (node.getKey i, node.getValue i)
    let (found, foundEnd) := scanKeys startKey endKey pairs
    if foundEnd then return results ++ found
    rangeScanFrom startKey endKey rounds node.nextPageId (results ++ found)

def rangeScan (startKey endKey : UInt32) : IndexM (List (UInt32 × RecordId)) := do
  let leafPageId ← pool.findLeaf startKey
  pool.rangeScanFrom startKey endKey (fuel (← get)) (some leafPageId) []

end PoolCalls

namespace BTreeIndex

def storeCalls : PoolCalls := ⟨newPage, readNode, modifyNode⟩

section Reads

variable {pool : PoolCalls} (reads : pool.readNode = readNode)

include reads

theorem findLeafFrom_of_reads (key : UInt32) (rounds : Nat) (current : PageId) :
    pool.findLeafFrom key rounds current = findLeafFrom key rounds current := by
  induction rounds generalizing current with
  | zero => rfl
  | succ rounds ih => simp only [PoolCalls.findLeafFrom, BTreeIndex.findLeafFrom, reads, ih]

theorem findLeaf_of_reads (key : UInt32) : pool.findLeaf key = findLeaf key := by
  simp only [PoolCalls.findLeaf, BTreeIndex.findLeaf, findLeafFrom_of_reads reads]

theorem search_of_reads (key : UInt32) : pool.search key = search key := by
  simp only [PoolCalls.search, BTreeIndex.search, findLeaf_of_reads reads, reads]

theorem rangeScanFrom_of_reads (startKey endKey : UInt32) (rounds : Nat) (current : Option PageId)
    (results : List (UInt32 × RecordId)) :
    pool.rangeScanFrom startKey endKey rounds current results =
      rangeScanFrom startKey endKey rounds current results := by
  induction rounds generalizing current results with
  | zero => cases current <;> rfl
  | succ rounds ih =>
    cases current with
    | none => rfl
    | some pageId => simp only [PoolCalls.rangeScanFrom, BTreeIndex.rangeScanFrom, reads, ih]

theorem rangeScan_of_reads (startKey endKey : UInt32) :
    pool.rangeScan startKey endKey = rangeScan startKey endKey := by
  simp only [PoolCalls.rangeScan, BTreeIndex.rangeScan, findLeaf_of_reads reads,
    rangeScanFrom_of_reads reads]

end Reads

theorem storeCalls_insertIntoParent (rounds : Nat) :
    (∀ parentId key newChildId, storeCalls.insertIntoParent rounds parentId key newChildId =
      insertIntoParent rounds parentId key newChildId) ∧
    ∀ internalId key newChildId, storeCalls.splitAndInsertInternal rounds internalId key newChildId =
      splitAndInsertInternal rounds internalId key newChildId := by
  induction rounds with
  | zero => exact ⟨fun _ _ _ => rfl, fun _ _ _ => rfl⟩
  | succ rounds ih =>
    obtain ⟨parent, internal⟩ := ih
    refine ⟨fun parentId key newChildId => ?_, fun internalId key newChildId => ?_⟩
    · simp only [PoolCalls.insertIntoParent, BTreeIndex.insertIntoParent, internal]
      rfl
    · simp only [PoolCalls.splitAndInsertInternal, BTreeIndex.splitAndInsertInternal, parent]
      rfl

theorem storeCalls_insert (key : UInt32) (value : RecordId) :
    storeCalls.insert key value = insert key value := by
  simp only [PoolCalls.insert, BTreeIndex.insert, PoolCalls.splitAndInsertLeaf,
    BTreeIndex.splitAndInsertLeaf, findLeaf_of_reads (show storeCalls.readNode = readNode from rfl),
    (storeCalls_insertIntoParent _).1]
  rfl

theorem storeCalls_refines :
    storeCalls.create = create ∧ (∀ key, storeCalls.search key = search key) ∧
      (∀ key value, storeCalls.insert key value = insert key value) ∧
      ∀ startKey endKey, storeCalls.rangeScan startKey endKey = rangeScan startKey endKey :=
  ⟨rfl, search_of_reads rfl, storeCalls_insert, rangeScan_of_reads rfl⟩

open StateOption

theorem readNode_run {pageId : PageId} (valid : pageId ≠ invalidPageId) (s : BTreeIndex) :
    (readNode pageId).run s = some (.ok (s.store.pages pageId), s) := by
  rw [readNode, if_neg valid]
  rfl

theorem modifyNode_run {pageId : PageId} (valid : pageId ≠ invalidPageId) (change : Node → Node)
    (s : BTreeIndex) :
    (modifyNode pageId change).run s = some (.ok (), { s with store := { s.store with
      pages := Function.update s.store.pages pageId (change (s.store.pages pageId)) } }) := by
  rw [modifyNode, if_neg valid]
  rfl

theorem findLeafFrom_keeps (key : UInt32) (rounds : Nat) (current : PageId) (s : BTreeIndex) :
    ∃ outcome : Option (Except CrioError PageId),
      (findLeafFrom key rounds current).run s = outcome.map fun result => (result, s) := by
  induction rounds generalizing current with
  | zero => exact ⟨none, rfl⟩
  | succ rounds ih =>
    by_cases invalid : current = invalidPageId
    · refine ⟨some (.error (.invalidPageId current)), ?_⟩
      rw [findLeafFrom, readNode, if_pos invalid]
      rfl
    · rw [findLeafFrom, run_bind_of_run (readNode_run invalid s)]
      by_cases leaf : (s.store.pages current).isLeaf = true
      · exact ⟨some (.ok current), by rw [if_pos leaf]; rfl⟩
      · rw [if_neg leaf]
        exact ih _

theorem findLeaf_run_of_run' {key : UInt32} {s : BTreeIndex} {leafPageId : PageId}
    (found : (findLeaf key).run.run' s = some (.ok leafPageId)) :
    (findLeaf key).run s = some (.ok leafPageId, s) := by
  obtain ⟨outcome, ran⟩ := findLeafFrom_keeps key (fuel s) s.rootPageId s
  have whole : (findLeaf key).run s = outcome.map fun result => (result, s) := by
    rw [findLeaf, run_get_bind, ran]
  have first : outcome = some (.ok leafPageId) := by
    have read : ((findLeaf key).run s).map Prod.fst = some (.ok leafPageId) := found
    rw [whole, Option.map_map] at read
    simpa using read
  rw [whole, first]
  rfl

def storeWithNewPage (allocate : IndexM PageId) : PoolCalls := { storeCalls with newPage := allocate }

def cutLeaf (s : BTreeIndex) (leafPageId : PageId) (key : UInt32) (value : RecordId) : BTreeIndex :=
  let left := ((s.store.pages leafPageId).insertKeyValue key value).splitLeaf.2.2
  { s with store := { s.store with pages := Function.update s.store.pages leafPageId left } }

theorem insert_error_cuts_leaf {allocate : IndexM PageId} {s s' : BTreeIndex} {key : UInt32}
    {value : RecordId} {leafPageId : PageId} {e : CrioError}
    (found : (findLeaf key).run.run' s = some (.ok leafPageId)) (valid : leafPageId ≠ invalidPageId)
    (full : s.order ≤ (s.store.pages leafPageId).keys.length)
    (refused : allocate.run (cutLeaf s leafPageId key value) = some (.error e, s')) :
    ((storeWithNewPage allocate).insert key value).run s = some (.error e, s') := by
  have reads : (storeWithNewPage allocate).readNode = readNode := rfl
  have writes : (storeWithNewPage allocate).modifyNode = modifyNode := rfl
  have allocates : (storeWithNewPage allocate).newPage = allocate := rfl
  rw [PoolCalls.insert, findLeaf_of_reads reads, run_bind_of_run (findLeaf_run_of_run' found), reads,
    run_bind_of_run (readNode_run valid s), run_get_bind, if_pos full, PoolCalls.splitAndInsertLeaf,
    reads, run_bind_of_run (readNode_run valid s)]
  -- the split's three parts; the leaf is written back with the left one before `new_page`
  dsimp only
  generalize split : ((s.store.pages leafPageId).insertKeyValue key value).splitLeaf = parts
  obtain ⟨separatorKey, rightPairs, left⟩ := parts
  have cut : cutLeaf s leafPageId key value =
      { s with store := { s.store with pages := Function.update s.store.pages leafPageId left } } := by
    simp only [cutLeaf, split]
  rw [cut] at refused
  rw [writes, run_bind_of_run (modifyNode_run valid (fun _ => left) s), allocates]
  exact run_bind_of_error refused

def ascendingPairs : List (UInt32 × RecordId) :=
  (List.range 128).map fun i => (i.toUInt32, ⟨⟨i.toUInt32⟩, ⟨0⟩⟩)

/-- An `insert` whose `new_page` is refused answers `Err` after cutting the full root leaf in half:
the keys `64 .. 127` are lost. -/
theorem insert_error_loses_pairs :
    (∃ pool, BufferPoolManager.Reachable 2 2 BufferPoolManager.freshDisk pool ∧
      BufferPoolManager.newPage.run pool = some (.error .bufferPoolFull, pool)) ∧
    ∃ s s', (do create; insertAll ascendingPairs : IndexM Unit).run (unbuilt PageStore.fresh) =
        some (.ok (), s) ∧
      (search 127).run.run' s = some (.ok (some ⟨⟨127⟩, ⟨0⟩⟩)) ∧
      (rangeScan 0 255).run.run' s = some (.ok ascendingPairs) ∧
      ((storeWithNewPage (throw .bufferPoolFull)).insert 128 ⟨⟨128⟩, ⟨0⟩⟩).run s =
        some (.error .bufferPoolFull, s') ∧
      (search 127).run.run' s' = some (.ok none) ∧
      (rangeScan 0 255).run.run' s' = some (.ok (ascendingPairs.take 64)) := by
  refine ⟨?refused, ?lost⟩
  case refused =>
    obtain ⟨pool, reached, -, full⟩ := BufferPoolManager.newPage_refused_when_pinned
    exact ⟨pool, reached, full⟩
  case lost =>
    have ran : ((do create; insertAll ascendingPairs : IndexM Unit).run (unbuilt PageStore.fresh)).map
        (fun built => decide (built.1 = .ok () ∧
          (findLeaf 128).run.run' built.2 = some (.ok (PageId.new 1)) ∧
          built.2.order ≤ (built.2.store.pages (PageId.new 1)).keys.length ∧
          (search 127).run.run' built.2 = some (.ok (some ⟨⟨127⟩, ⟨0⟩⟩)) ∧
          (rangeScan 0 255).run.run' built.2 = some (.ok ascendingPairs) ∧
          (search 127).run.run' (cutLeaf built.2 (PageId.new 1) 128 ⟨⟨128⟩, ⟨0⟩⟩) =
            some (.ok none) ∧
          (rangeScan 0 255).run.run' (cutLeaf built.2 (PageId.new 1) 128 ⟨⟨128⟩, ⟨0⟩⟩) =
            some (.ok (ascendingPairs.take 64)))) = some true := by
      decide +kernel
    obtain ⟨⟨result, s⟩, built, holds⟩ := Option.map_eq_some_iff.mp ran
    obtain ⟨ok, found, full, before, scannedBefore, after, scannedAfter⟩ := of_decide_eq_true holds
    subst ok
    exact ⟨s, _, built, before, scannedBefore, insert_error_cuts_leaf found (by decide) full rfl,
      after, scannedAfter⟩

end BTreeIndex

end Crio
