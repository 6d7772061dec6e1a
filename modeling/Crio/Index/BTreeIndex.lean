import Crio.Index.BTreeNode

/-!
The B+ tree index of `src/index/btree_index.rs` over a buffer pool that behaves as a page
store. `find_leaf`, `range_scan` and the climb of `insert_into_parent` are loops the source
does not bound; each here runs for at most as many rounds as pages were allocated, and is
`none` past it, as for a panic.
-/

namespace Crio

structure PageStore where
  pages : PageId → Node
  numPages : UInt32

structure BTreeIndex where
  rootPageId : PageId
  order : Nat
  store : PageStore

def defaultBTreeOrder : Nat := 128

/-- An operation of the index: `Ok`, `Err` with what was written before, or `none`. -/
abbrev IndexM := ExceptT CrioError (StateT BTreeIndex Option)

namespace BTreeIndex

def stuck {α : Type} : IndexM α := ExceptT.mk fun _ => none

def readNode (pageId : PageId) : IndexM Node := do
  if pageId = invalidPageId then throw (.invalidPageId pageId)
  return (← get).store.pages pageId

def modifyNode (pageId : PageId) (change : Node → Node) : IndexM Unit := do
  if pageId = invalidPageId then throw (.invalidPageId pageId)
  modify fun s => { s with store := { s.store with
    pages := Function.update s.store.pages pageId (change (s.store.pages pageId)) } }

def newPage : IndexM PageId := do
  let s ← get
  match PageId.fromParts 0 s.store.numPages with
  | none => stuck
  | some pageId =>
    set { s with store := ⟨Function.update s.store.pages pageId Node.zeros, s.store.numPages + 1⟩ }
    return pageId

/-- The bound on the rounds of a loop: the pages allocated. -/
def fuel (s : BTreeIndex) : Nat := s.store.numPages.toNat

def create : IndexM Unit := do
  let rootPageId ← newPage
  modifyNode rootPageId fun _ => Node.init rootPageId true
  modify fun s => { s with rootPageId, order := defaultBTreeOrder }

def childIndex (node : Node) (key : UInt32) : Nat :=
  let pos := node.searchKey key
  if pos < node.keys.length ∧ node.getKey pos = key then pos + 1 else pos

def findLeafFrom (key : UInt32) : Nat → PageId → IndexM PageId
  | 0, _ => stuck
  | rounds + 1, current => do
    let node ← readNode current
    if node.isLeaf then return current
    findLeafFrom key rounds (node.getChild (childIndex node key))

def findLeaf (key : UInt32) : IndexM PageId := do
  let s ← get
  findLeafFrom key (fuel s) s.rootPageId

def search (key : UInt32) : IndexM (Option RecordId) := do
  let leafPageId ← findLeaf key
  let node ← readNode leafPageId
  let pos := node.searchKey key
  if pos < node.keys.length ∧ node.getKey pos = key then return some (node.getValue pos)
  else return none

def growRoot (separatorKey : UInt32) (left right : PageId) : IndexM Unit := do
  let newRootId ← newPage
  modifyNode newRootId fun _ =>
    (Node.init newRootId false).insertKeysChildren [separatorKey] [left, right]
  modifyNode left (·.setParentPageId (some newRootId))
  modifyNode right (·.setParentPageId (some newRootId))
  modify fun s => { s with rootPageId := newRootId }

mutual

def insertIntoParent : Nat → PageId → UInt32 → PageId → IndexM Unit
  | 0, _, _, _ => stuck
  | rounds + 1, parentId, key, newChildId => do
    let node ← readNode parentId
    if node.keys.length ≥ (← get).order then
      splitAndInsertInternal rounds parentId key newChildId
    else modifyNode parentId (·.insertKeyChild key newChildId)

def splitAndInsertInternal : Nat → PageId → UInt32 → PageId → IndexM Unit
  | 0, _, _, _ => stuck
  | rounds + 1, internalId, key, newChildId => do
    let node := (← readNode internalId).insertKeyChild key newChildId
    let parentPageId := node.parentPageId
    let (separatorKey, rightKeys, rightChildren, left) := node.splitInternal
    modifyNode internalId fun _ => left
    let newInternalId ← newPage
    modifyNode newInternalId fun _ =>
      ((Node.init newInternalId false).insertKeysChildren rightKeys rightChildren).setParentPageId
        parentPageId
    rightChildren.forM fun childId => modifyNode childId (·.setParentPageId (some newInternalId))
    match parentPageId with
    | some parentId => insertIntoParent rounds parentId separatorKey newInternalId
    | none => growRoot separatorKey internalId newInternalId

end

def splitAndInsertLeaf (leafPageId : PageId) (key : UInt32) (value : RecordId) : IndexM Unit := do
  let node := (← readNode leafPageId).insertKeyValue key value
  let next := node.nextPageId
  let parent := node.parentPageId
  let (separatorKey, rightPairs, left) := node.splitLeaf
  modifyNode leafPageId fun _ => left
  let newLeafId ← newPage
  modifyNode newLeafId fun _ =>
    ((((Node.init newLeafId true).insertPairs rightPairs).setParentPageId parent).setNextPageId
      next).setPrevPageId (some leafPageId)
  modifyNode leafPageId (·.setNextPageId (some newLeafId))
  if let some nextId := next then modifyNode nextId (·.setPrevPageId (some newLeafId))
  match parent with
  | some parentId => insertIntoParent (fuel (← get)) parentId separatorKey newLeafId
  | none => growRoot separatorKey leafPageId newLeafId

def insert (key : UInt32) (value : RecordId) : IndexM Unit := do
  let leafPageId ← findLeaf key
  let node ← readNode leafPageId
  if node.keys.length ≥ (← get).order then splitAndInsertLeaf leafPageId key value
  else modifyNode leafPageId (·.insertKeyValue key value)

def scanKeys (startKey endKey : UInt32) : List (UInt32 × RecordId) → List (UInt32 × RecordId) × Bool
  | [] => ([], false)
  | (key, value) :: rest =>
    let taken := if startKey ≤ key ∧ key ≤ endKey then [(key, value)] else []
    if key > endKey then (taken, true)
    else
      let (more, foundEnd) := scanKeys startKey endKey rest
      (taken ++ more, foundEnd)

def rangeScanFrom (startKey endKey : UInt32) :
    Nat → Option PageId → List (UInt32 × RecordId) → IndexM (List (UInt32 × RecordId))
  | _, none, results => return results
  | 0, some _, _ => stuck
  | rounds + 1, some pageId, results => do
    let node ← readNode pageId
    let pairs := (List.range node.keys.length).map fun i => (node.getKey i, node.getValue i)
    let (found, foundEnd) := scanKeys startKey endKey pairs
    if foundEnd then return results ++ found
    rangeScanFrom startKey endKey rounds node.nextPageId (results ++ found)

def rangeScan (startKey endKey : UInt32) : IndexM (List (UInt32 × RecordId)) := do
  let leafPageId ← findLeaf startKey
  rangeScanFrom startKey endKey (fuel (← get)) (some leafPageId) []

end BTreeIndex

end Crio
