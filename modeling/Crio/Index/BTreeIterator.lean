import Crio.Index.BTreePool

/-!
The cursor of `src/index/btree_iterator.rs` over the index's page store, drained by
`collect`, against the single loop of `range_scan`.
-/

namespace Crio

namespace BTreeIndex

/-- `BTreeIterator`, without its `bpm`: the pages it reads are the state of `IndexM`. -/
structure BTreeIterator where
  currentPageId : Option PageId
  currentIndex : Nat
  endKey : UInt32
  done : Bool
  deriving DecidableEq, Repr

namespace BTreeIterator

def new (startPageId : PageId) (endKey : UInt32) : BTreeIterator :=
  ⟨some startPageId, 0, endKey, false⟩

def nextFrom (rounds : Nat) (it : BTreeIterator) :
    IndexM (Option (UInt32 × RecordId) × BTreeIterator) :=
  match it.currentPageId, rounds with
  | none, _ => return (none, { it with done := true })
  | some _, 0 => stuck
  | some pageId, rounds + 1 => do
    let node ← readNode pageId
    if it.currentIndex < node.keys.length then
      let key := node.getKey it.currentIndex
      if key > it.endKey then return (none, { it with done := true })
      return (some (key, node.getValue it.currentIndex),
        { it with currentIndex := it.currentIndex + 1 })
    nextFrom rounds { it with currentPageId := node.nextPageId, currentIndex := 0 }

def next (it : BTreeIterator) : IndexM (Option (UInt32 × RecordId) × BTreeIterator) := do
  if it.done then return (none, it)
  nextFrom (fuel (← get)) it

/-- `collect::<Result<Vec<_>>>()`: items pushed until the first `None` or `Err`; `calls` bounds the
calls of `next`. -/
def collect : Nat → BTreeIterator → List (UInt32 × RecordId) → IndexM (List (UInt32 × RecordId))
  | 0, _, _ => stuck
  | calls + 1, it, items => do
    let (item, it) ← it.next
    match item with
    | none => return items
    | some pair => collect calls it (items ++ [pair])

section Step

open StateOption

variable {s : BTreeIndex}

theorem readNode_run_invalid {pageId : PageId} (invalid : pageId = invalidPageId) :
    (readNode pageId).run s = some (.error (.invalidPageId pageId), s) := by
  rw [readNode, if_pos invalid]
  rfl

theorem nextFrom_none (rounds : Nat) {it : BTreeIterator} (ended : it.currentPageId = none) :
    (nextFrom rounds it).run s = some (.ok (none, { it with done := true }), s) := by
  unfold nextFrom
  rw [ended]
  rfl

theorem nextFrom_invalid (rounds : Nat) {it : BTreeIterator} {pageId : PageId}
    (located : it.currentPageId = some pageId) (invalid : pageId = invalidPageId) :
    (nextFrom (rounds + 1) it).run s = some (.error (.invalidPageId pageId), s) := by
  unfold nextFrom
  rw [located]
  exact run_bind_of_error (readNode_run_invalid invalid)

theorem nextFrom_page (rounds : Nat) {it : BTreeIterator} {pageId : PageId}
    (located : it.currentPageId = some pageId) (valid : pageId ≠ invalidPageId) :
    (nextFrom (rounds + 1) it).run s =
      if it.currentIndex < (s.store.pages pageId).keys.length then
        if (s.store.pages pageId).getKey it.currentIndex > it.endKey then
          some (.ok (none, { it with done := true }), s)
        else some (.ok (some ((s.store.pages pageId).getKey it.currentIndex,
          (s.store.pages pageId).getValue it.currentIndex),
          { it with currentIndex := it.currentIndex + 1 }), s)
      else (nextFrom rounds
        { it with
          currentPageId := (s.store.pages pageId).nextPageId
          currentIndex := 0 }).run s := by
  rw [nextFrom.eq_def, located]
  dsimp only
  rw [run_bind_of_run (readNode_run valid s)]
  split_ifs <;> rfl

theorem nextFrom_zero {it : BTreeIterator} {pageId : PageId}
    (located : it.currentPageId = some pageId) : (nextFrom 0 it).run s = none := by
  rw [nextFrom.eq_def, located]
  rfl

theorem nextFrom_mono {rounds more : Nat} {it : BTreeIterator}
    {outcome : Except CrioError (Option (UInt32 × RecordId) × BTreeIterator) × BTreeIndex}
    (ran : (nextFrom rounds it).run s = some outcome) (le : rounds ≤ more) :
    (nextFrom more it).run s = some outcome := by
  induction rounds generalizing it more with
  | zero =>
    cases located : it.currentPageId with
    | none => rwa [nextFrom_none _ located] at ran ⊢
    | some pageId => rw [nextFrom_zero located] at ran; cases ran
  | succ rounds ih =>
    obtain ⟨more, rfl⟩ : ∃ more', more = more' + 1 := ⟨more - 1, by omega⟩
    cases located : it.currentPageId with
    | none => rwa [nextFrom_none _ located] at ran ⊢
    | some pageId =>
      by_cases invalid : pageId = invalidPageId
      · rwa [nextFrom_invalid _ located invalid] at ran ⊢
      · rw [nextFrom_page _ located invalid] at ran ⊢
        split_ifs at ran ⊢
        · exact ran
        · exact ran
        · exact ih ran (by omega)

theorem next_of_live {it : BTreeIterator} (live : it.done = false) :
    (next it).run s = (nextFrom (fuel s) it).run s := by
  simp only [next, live, Bool.false_eq_true, if_false]
  rfl

theorem collect_of_item {calls : Nat} {it it' : BTreeIterator} {items : List (UInt32 × RecordId)}
    {pair : UInt32 × RecordId} (stepped : (next it).run s = some (.ok (some pair, it'), s)) :
    (collect (calls + 1) it items).run s = (collect calls it' (items ++ [pair])).run s := by
  rw [collect, run_bind_of_run stepped]

theorem collect_of_end {calls : Nat} {it it' : BTreeIterator} {items : List (UInt32 × RecordId)}
    (stepped : (next it).run s = some (.ok (none, it'), s)) :
    (collect (calls + 1) it items).run s = some (.ok items, s) := by
  rw [collect, run_bind_of_run stepped]
  rfl

theorem collect_of_error {calls : Nat} {it : BTreeIterator} {items : List (UInt32 × RecordId)}
    {e : CrioError} (stepped : (next it).run s = some (.error e, s)) :
    (collect (calls + 1) it items).run s = some (.error e, s) := by
  rw [collect]
  exact run_bind_of_error stepped

theorem collect_congr {calls : Nat} {it it' : BTreeIterator} {items : List (UInt32 × RecordId)}
    (same : (next it).run s = (next it').run s) :
    (collect calls it items).run s = (collect calls it' items).run s := by
  cases calls with
  | zero => rfl
  | succ calls => rw [collect, collect, run_bind, run_bind, same]

end Step

def leafPairs (node : Node) (i n : Nat) : List (UInt32 × RecordId) :=
  (List.range' i n).map fun j => (node.getKey j, node.getValue j)

theorem leafPairs_succ (node : Node) (i n : Nat) :
    leafPairs node i (n + 1) = (node.getKey i, node.getValue i) :: leafPairs node (i + 1) n := rfl

theorem scanKeys_cons (startKey endKey key : UInt32) (value : RecordId)
    (rest : List (UInt32 × RecordId)) :
    scanKeys startKey endKey ((key, value) :: rest) =
      if endKey < key then ([], true)
      else ((if startKey ≤ key then [(key, value)] else []) ++ (scanKeys startKey endKey rest).1,
        (scanKeys startKey endKey rest).2) := by
  by_cases above : endKey < key
  · have outside : ¬ (startKey ≤ key ∧ key ≤ endKey) := fun within => absurd within.2 (UInt32.not_le.2 above)
    simp only [scanKeys, if_neg outside, gt_iff_lt, if_pos above]
  · have within : key ≤ endKey := UInt32.not_lt.1 above
    simp only [scanKeys, gt_iff_lt, if_neg above, within, and_true]

theorem scanKeys_eq_filter (startKey endKey : UInt32) :
    ∀ pairs : List (UInt32 × RecordId), scanKeys startKey endKey pairs =
      ((scanKeys 0 endKey pairs).1.filter (fun pair => startKey ≤ pair.1),
        (scanKeys 0 endKey pairs).2)
  | [] => rfl
  | (key, value) :: rest => by
    rw [scanKeys_cons, scanKeys_cons, scanKeys_eq_filter startKey endKey rest]
    by_cases above : endKey < key
    · simp only [if_pos above, List.filter_nil]
    · by_cases from_ : startKey ≤ key
      · simp [if_neg above, from_]
      · simp [if_neg above, from_]

section Leaf

open StateOption

variable {s : BTreeIndex}

theorem rangeScanFrom_none (startKey endKey : UInt32) (rounds : Nat)
    (results : List (UInt32 × RecordId)) :
    (rangeScanFrom startKey endKey rounds none results).run s = some (.ok results, s) := by
  cases rounds <;> rfl

theorem rangeScanFrom_page (startKey endKey : UInt32) (rounds : Nat) {pageId : PageId}
    (valid : pageId ≠ invalidPageId) (results : List (UInt32 × RecordId)) :
    (rangeScanFrom startKey endKey (rounds + 1) (some pageId) results).run s =
      let node := s.store.pages pageId
      let scanned := scanKeys startKey endKey (leafPairs node 0 node.keys.length)
      if scanned.2 then some (.ok (results ++ scanned.1), s)
      else (rangeScanFrom startKey endKey rounds node.nextPageId (results ++ scanned.1)).run s := by
  rw [rangeScanFrom, run_bind_of_run (readNode_run valid s)]
  have pairs : (List.range (s.store.pages pageId).keys.length).map
      (fun i => ((s.store.pages pageId).getKey i, (s.store.pages pageId).getValue i)) =
      leafPairs (s.store.pages pageId) 0 (s.store.pages pageId).keys.length := by
    rw [leafPairs, List.range_eq_range']
  dsimp only
  rw [pairs]
  obtain ⟨found, foundEnd⟩ := scanKeys startKey endKey
    (leafPairs (s.store.pages pageId) 0 (s.store.pages pageId).keys.length)
  cases foundEnd <;> rfl

theorem collect_leaf {pageId : PageId} (valid : pageId ≠ invalidPageId) (fueled : 0 < fuel s)
    (endKey : UInt32) (d : Nat) : ∀ (i : Nat) (items : List (UInt32 × RecordId)),
      i + d = (s.store.pages pageId).keys.length →
      ∃ k, ∀ calls, (collect (calls + k) ⟨some pageId, i, endKey, false⟩ items).run s =
        let scanned := scanKeys 0 endKey (leafPairs (s.store.pages pageId) i d)
        if scanned.2 then some (.ok (items ++ scanned.1), s)
        else (collect calls ⟨some pageId, (s.store.pages pageId).keys.length, endKey, false⟩
          (items ++ scanned.1)).run s := by
  obtain ⟨rounds, fuelEq⟩ : ∃ rounds, fuel s = rounds + 1 := ⟨fuel s - 1, by omega⟩
  -- induction on the keys left in the leaf, the cursor at the first of them
  induction d with
  | zero =>
    intro i items ended
    refine ⟨0, fun calls => ?_⟩
    show (collect calls ⟨some pageId, i, endKey, false⟩ items).run s =
      (collect calls ⟨some pageId, (s.store.pages pageId).keys.length, endKey, false⟩
        (items ++ [])).run s
    rw [show (s.store.pages pageId).keys.length = i by omega, List.append_nil]
  | succ d ih =>
    intro i items ended
    have inside : i < (s.store.pages pageId).keys.length := by omega
    rw [leafPairs_succ]
    by_cases above : endKey < (s.store.pages pageId).getKey i
    · have stepped : (next ⟨some pageId, i, endKey, false⟩).run s =
          some (.ok (none, ⟨some pageId, i, endKey, true⟩), s) := by
        rw [next_of_live rfl, fuelEq, nextFrom_page _ rfl valid]
        exact (if_pos inside).trans (if_pos above)
      refine ⟨1, fun calls => ?_⟩
      rw [collect_of_end stepped, scanKeys_cons, if_pos above]
      simp
    · have stepped : (next ⟨some pageId, i, endKey, false⟩).run s =
          some (.ok (some ((s.store.pages pageId).getKey i, (s.store.pages pageId).getValue i),
            ⟨some pageId, i + 1, endKey, false⟩), s) := by
        rw [next_of_live rfl, fuelEq, nextFrom_page _ rfl valid]
        exact (if_pos inside).trans (if_neg above)
      obtain ⟨k, rest⟩ := ih (i + 1)
        (items ++ [((s.store.pages pageId).getKey i, (s.store.pages pageId).getValue i)])
        (by omega)
      refine ⟨k + 1, fun calls => ?_⟩
      rw [← Nat.add_assoc, collect_of_item stepped, rest calls, scanKeys_cons, if_neg above]
      simp

theorem collect_none {calls i : Nat} {endKey : UInt32} {items : List (UInt32 × RecordId)} :
    (collect (calls + 1) ⟨none, i, endKey, false⟩ items).run s = some (.ok items, s) := by
  rw [collect_of_end]
  rw [next_of_live rfl, nextFrom_none _ rfl]

theorem nextFrom_of_leaf {rounds : Nat} {pageId : PageId} {endKey : UInt32}
    (valid : pageId ≠ invalidPageId) (nonempty : 0 < (s.store.pages pageId).keys.length) :
    ∃ first, (nextFrom (rounds + 1) ⟨some pageId, 0, endKey, false⟩).run s = some first := by
  rw [nextFrom_page _ rfl valid, if_pos nonempty]
  split_ifs <;> exact ⟨_, rfl⟩

theorem collect_of_rangeScanFrom (endKey : UInt32) (rounds : Nat) :
    ∀ (current : Option PageId) (results : List (UInt32 × RecordId))
      (outcome : Except CrioError (List (UInt32 × RecordId)) × BTreeIndex),
      rounds ≤ fuel s → (rangeScanFrom 0 endKey rounds current results).run s = some outcome →
      (∃ calls, (collect calls ⟨current, 0, endKey, false⟩ results).run s = some outcome) ∧
        ∃ first, (nextFrom rounds ⟨current, 0, endKey, false⟩).run s = some first := by
  -- induction on the rounds of `range_scan`, one leaf each
  induction rounds with
  | zero =>
    intro current results outcome _ scanned
    cases current with
    | none =>
      rw [rangeScanFrom_none] at scanned
      exact ⟨⟨1, collect_none.trans scanned⟩, ⟨_, nextFrom_none 0 rfl⟩⟩
    | some pageId => cases scanned
  | succ rounds ih =>
    intro current results outcome fueled scanned
    obtain ⟨more, fuelEq⟩ : ∃ more, fuel s = more + 1 := ⟨fuel s - 1, by omega⟩
    cases current with
    | none =>
      rw [rangeScanFrom_none] at scanned
      exact ⟨⟨1, collect_none.trans scanned⟩, ⟨_, nextFrom_none _ rfl⟩⟩
    | some pageId =>
      by_cases invalid : pageId = invalidPageId
      · have refused : (rangeScanFrom 0 endKey (rounds + 1) (some pageId) results).run s =
            some (.error (.invalidPageId pageId), s) := by
          rw [rangeScanFrom]
          exact run_bind_of_error (readNode_run_invalid invalid)
        have stepped : (next ⟨some pageId, 0, endKey, false⟩).run s =
            some (.error (.invalidPageId pageId), s) := by
          rw [next_of_live rfl, fuelEq, nextFrom_invalid _ rfl invalid]
        rw [refused] at scanned
        exact ⟨⟨1, (collect_of_error stepped).trans scanned⟩,
          ⟨_, nextFrom_invalid _ rfl invalid⟩⟩
      · obtain ⟨k, leaf⟩ := collect_leaf invalid (by omega) endKey
          (s.store.pages pageId).keys.length 0 results (Nat.zero_add _)
        rw [rangeScanFrom_page _ _ _ invalid] at scanned
        dsimp only at scanned leaf
        by_cases foundEnd : (scanKeys 0 endKey (leafPairs (s.store.pages pageId) 0
            (s.store.pages pageId).keys.length)).2
        · rw [if_pos foundEnd] at scanned
          have nonempty : 0 < (s.store.pages pageId).keys.length := by
            apply Nat.pos_of_ne_zero
            intro empty
            rw [empty] at foundEnd
            exact Bool.false_ne_true foundEnd
          refine ⟨⟨0 + k, ?_⟩, nextFrom_of_leaf invalid nonempty⟩
          rw [leaf, if_pos foundEnd]
          exact scanned
        · rw [if_neg foundEnd] at scanned
          obtain ⟨⟨calls, collected⟩, first, firstRan⟩ := ih _ _ _ (by omega) scanned
          have crossed : (next ⟨some pageId, (s.store.pages pageId).keys.length, endKey, false⟩).run s =
              (next ⟨(s.store.pages pageId).nextPageId, 0, endKey, false⟩).run s := by
            rw [next_of_live rfl, next_of_live rfl, fuelEq, nextFrom_page _ rfl invalid,
              if_neg (Nat.lt_irrefl _), nextFrom_mono firstRan (by omega),
              nextFrom_mono firstRan (by omega)]
          refine ⟨⟨calls + k, ?_⟩, ?_⟩
          · rw [leaf, if_neg foundEnd, collect_congr crossed]
            exact collected
          · by_cases empty : (s.store.pages pageId).keys.length = 0
            · refine ⟨first, ?_⟩
              rw [nextFrom_page _ rfl invalid, if_neg (by omega)]
              exact firstRan
            · exact nextFrom_of_leaf invalid (Nat.pos_of_ne_zero empty)

end Leaf

end BTreeIterator

def iteratorScan (startKey endKey : UInt32) (calls : Nat) : IndexM (List (UInt32 × RecordId)) := do
  let leafPageId ← findLeaf startKey
  let pairs ← (BTreeIterator.new leafPageId endKey).collect calls []
  return pairs.filter fun pair => startKey ≤ pair.1

section Scan

open StateOption BTreeIterator

variable {s : BTreeIndex}

theorem rangeScanFrom_eq_filter (startKey endKey : UInt32) (rounds : Nat) :
    ∀ (current : Option PageId) (results : List (UInt32 × RecordId)),
      (rangeScanFrom startKey endKey rounds current
          (results.filter fun pair => startKey ≤ pair.1)).run s =
        ((rangeScanFrom 0 endKey rounds current results).run s).map fun outcome =>
          (outcome.1.map (List.filter fun pair => startKey ≤ pair.1), outcome.2) := by
  induction rounds with
  | zero =>
    intro current results
    cases current with
    | none => rw [rangeScanFrom_none, rangeScanFrom_none]; rfl
    | some pageId => rfl
  | succ rounds ih =>
    intro current results
    cases current with
    | none => rw [rangeScanFrom_none, rangeScanFrom_none]; rfl
    | some pageId =>
      by_cases invalid : pageId = invalidPageId
      · rw [rangeScanFrom, rangeScanFrom, run_bind_of_error (readNode_run_invalid invalid),
          run_bind_of_error (readNode_run_invalid invalid)]
        rfl
      · rw [rangeScanFrom_page _ _ _ invalid, rangeScanFrom_page _ _ _ invalid]
        dsimp only
        rw [scanKeys_eq_filter startKey]
        dsimp only
        split_ifs
        · rw [← List.filter_append]
          rfl
        · rw [← List.filter_append, ih]

/-- Where `range_scan` returns, the cursor from `find_leaf(start_key)` returns the same pairs from
`start_key` on, or the same error. -/
theorem rangeScan_agrees_with_iterator {startKey endKey : UInt32}
    {outcome : Except CrioError (List (UInt32 × RecordId)) × BTreeIndex}
    (scanned : (rangeScan startKey endKey).run s = some outcome) :
    ∃ calls, (iteratorScan startKey endKey calls).run s = some outcome := by
  obtain ⟨found, ran⟩ := findLeafFrom_keeps startKey (fuel s) s.rootPageId s
  have leafRun : (findLeaf startKey).run s = found.map fun result => (result, s) := by
    rw [findLeaf, run_get_bind, ran]
  rcases found with _ | _ | leafPageId
  · rw [rangeScan, run_bind, leafRun] at scanned
    cases scanned
  · rw [rangeScan, run_bind_of_error leafRun] at scanned
    exact ⟨0, by rw [iteratorScan, run_bind_of_error leafRun, scanned]⟩
  · rw [rangeScan, run_bind_of_run leafRun, run_get_bind, ← List.filter_nil,
      rangeScanFrom_eq_filter] at scanned
    obtain ⟨plain, plainRan, filtered⟩ := Option.map_eq_some_iff.1 scanned
    obtain ⟨⟨calls, collected⟩, -⟩ :=
      collect_of_rangeScanFrom endKey (fuel s) (some leafPageId) [] plain le_rfl plainRan
    refine ⟨calls, ?_⟩
    rw [iteratorScan, run_bind_of_run leafRun, run_bind, BTreeIterator.new, collected, ← filtered]
    obtain ⟨result, s'⟩ := plain
    cases result <;> rfl

def twoLeaves : BTreeIndex :=
  let first : Node := { Node.init ⟨1⟩ true with
                        keys := [1, 2]
                        values := [⟨⟨1⟩, ⟨0⟩⟩, ⟨⟨2⟩, ⟨0⟩⟩]
                        nextPageId := some ⟨2⟩ }
  let second : Node := { Node.init ⟨2⟩ true with
                         keys := [3, 7]
                         values := [⟨⟨3⟩, ⟨0⟩⟩, ⟨⟨7⟩, ⟨0⟩⟩]
                         prevPageId := some ⟨1⟩ }
  ⟨⟨1⟩, defaultBTreeOrder,
    ⟨fun pageId => if pageId = ⟨1⟩ then first else if pageId = ⟨2⟩ then second else Node.zeros, 3⟩⟩

theorem rangeScan_agrees_with_iterator_twoLeaves :
    ∃ calls, (iteratorScan 2 5 calls).run twoLeaves =
      some (.ok [(2, ⟨⟨2⟩, ⟨0⟩⟩), (3, ⟨⟨3⟩, ⟨0⟩⟩)], twoLeaves) :=
  rangeScan_agrees_with_iterator rfl

end Scan

end BTreeIndex

end Crio
