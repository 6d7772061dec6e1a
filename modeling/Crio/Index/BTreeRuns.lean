import Crio.Index.BTreeIndex

/-!
Runs of the index: `BTreeIndex::new` over the pages of a fresh database, then inserts.
-/

namespace Crio

namespace BTreeIndex

def PageStore.fresh : PageStore := ⟨fun _ => Node.zeros, 1⟩

def unbuilt (store : PageStore) : BTreeIndex := ⟨invalidPageId, defaultBTreeOrder, store⟩

def insertAll (pairs : List (UInt32 × RecordId)) : IndexM Unit :=
  pairs.forM fun pair => insert pair.1 pair.2

def repeatedZero : List (UInt32 × RecordId) :=
  (List.range 129).map fun i => (0, ⟨⟨i.toUInt32⟩, ⟨0⟩⟩)

/-- After 129 inserts of key 0, `range_scan(0, 0)` misses the 64 copies left of the separator. -/
theorem rangeScan_after_repeated_key :
    (((do create; insertAll repeatedZero; rangeScan 0 0 : IndexM _).run).run'
        (unbuilt PageStore.fresh)) =
      some (.ok ((List.range 65).reverse.map fun i => (0, ⟨⟨i.toUInt32⟩, ⟨0⟩⟩))) := by
  decide +kernel

end BTreeIndex

end Crio
