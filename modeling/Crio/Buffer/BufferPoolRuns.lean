import Crio.Buffer.BufferPoolManager
import Crio.Buffer.LruKRuns
import Crio.Lib.Reachability
import Crio.Lib.KeyedList
import Crio.Lib.StateOption

/-!
Runs of the buffer pool on one thread: any sequence of the public calls, and of writes and
drops through the guards they return, from `BufferPoolManager::new`.
-/

namespace Crio

namespace BufferPoolManager

inductive Call where
  | newPage
  | deletePage (pageId : PageId)
  | checkedReadPage (pageId : PageId)
  | checkedWritePage (pageId : PageId)
  | writeThrough (handle : Nat) (data : PageData)
  | dropGuard (handle : Nat)
  | flushPage (pageId : PageId)
  | flushAllPages
  | prefetchPages (startPageId : PageId) (numPages : UInt32)

def Call.action : Call → PoolM Unit
  | .newPage => discard BufferPoolManager.newPage
  | .deletePage pageId => discard (BufferPoolManager.deletePage pageId)
  | .checkedReadPage pageId => discard (BufferPoolManager.checkedReadPage pageId)
  | .checkedWritePage pageId => discard (BufferPoolManager.checkedWritePage pageId)
  | .writeThrough handle data => BufferPoolManager.writeThrough handle data
  | .dropGuard handle => BufferPoolManager.dropGuard handle
  | .flushPage pageId => discard (BufferPoolManager.flushPage pageId)
  | .flushAllPages => BufferPoolManager.flushAllPages
  | .prefetchPages startPageId numPages =>
    discard (BufferPoolManager.prefetchPages startPageId numPages)

/-- The pool once the call has returned, with `Ok` or with `Err`; `none` if it never returns. -/
def Call.run (call : Call) (s : BufferPoolManager) : Option BufferPoolManager :=
  (call.action.run s).map Prod.snd

def Step (s s' : BufferPoolManager) : Prop := ∃ call : Call, call.run s = some s'

def Reachable (poolSize k : Nat) (dm : DiskManager) (s : BufferPoolManager) : Prop :=
  Reachability.Reachable (fun start => start = new poolSize k dm) Step s

def runCalls : List Call → BufferPoolManager → Option BufferPoolManager
  | [], s => some s
  | call :: rest, s => (call.run s).bind (runCalls rest)

theorem runCalls_eq_foldlM : ∀ (calls : List Call) (s : BufferPoolManager),
    runCalls calls s = calls.foldlM (fun s call => call.run s) s
  | [], _ => rfl
  | call :: rest, s => by
    rw [runCalls, List.foldlM_cons]
    congr 1
    funext s'
    exact runCalls_eq_foldlM rest s'

theorem Reachable.runCalls {poolSize k : Nat} {dm : DiskManager} :
    ∀ (calls : List Call) {s s' : BufferPoolManager}, Reachable poolSize k dm s →
      BufferPoolManager.runCalls calls s = some s' → Reachable poolSize k dm s' :=
  fun calls s _ reached ran =>
    Reachability.Reachable.foldlM (fun _ call _ moved => ⟨call, moved⟩) calls reached
      (runCalls_eq_foldlM calls s ▸ ran)

def freshDisk : DiskManager := DiskManager.fresh fun _ => none

def orphaningCalls : List Call :=
  [.checkedReadPage (PageId.new 1), .dropGuard 0, .newPage]

/-- `new_page` of a page already in the pool orphans the frame that held it. -/
theorem newPage_orphans_frame :
    ∃ s, Reachable 2 2 freshDisk s ∧ runCalls orphaningCalls (new 2 2 freshDisk) = some s ∧
      s.pageTable.lookup (PageId.new 1) = some ⟨1⟩ ∧ (s.frames 0).pageId = PageId.new 1 ∧
      (⟨0⟩ : FrameId) ∉ s.freeList ∧ (⟨0⟩ : FrameId) ∉ s.pageTable.entries.map (fun e => e.2) ∧
      (s.frames 0).pinCount = 0 ∧
      (s.replacer.frameInfo.lookup ⟨0⟩).map (fun info => info.isEvictable) = some true ∧
      s.replacer.size = 2 :=
  ⟨_, Reachable.runCalls orphaningCalls (Reachability.Reachable.initial rfl) rfl, rfl,
    by decide, by decide, by decide, by decide, by decide, by decide, by decide⟩

def lostWriteCalls : List Call :=
  orphaningCalls ++ [.checkedWritePage (PageId.new 1), .writeThrough 1 (fun _ => 1), .dropGuard 1,
    .newPage, .checkedReadPage (PageId.new 1)]

/-- A read after `new_page` of a page already in the pool returns the zeros `allocate_page` wrote,
not the last write through a guard. -/
theorem readPage_after_lost_write :
    ∃ s, Reachable 2 2 freshDisk s ∧ runCalls lostWriteCalls (new 2 2 freshDisk) = some s ∧
      (s.guards[2]?.join.map fun guard => guard.pageId) = some (PageId.new 1) ∧
      (guardData s 2).map (fun data => data ⟨0, by decide⟩) = some 0 ∧
      (s.frames 1).isDirty = true ∧ (s.frames 1).data ⟨0, by decide⟩ = 1 :=
  ⟨_, Reachable.runCalls lostWriteCalls (Reachability.Reachable.initial rfl) rfl, rfl,
    by decide, by decide, by decide, by decide⟩

open StateOption

theorem getFreeFrame_of_free {s : BufferPoolManager} {frameId : FrameId} {rest : List FrameId}
    (free : s.freeList = frameId :: rest) :
    getFreeFrame.run s = some (.ok frameId, { s with freeList := rest }) := by
  rw [getFreeFrame, run_get_bind]
  simp only [free]
  rfl

theorem evict_of_none {s : BufferPoolManager} {r : LruKReplacer}
    (noVictim : s.replacer.evict = some (none, r)) :
    evict.run s = some (.ok none, { s with replacer := r }) := by
  rw [evict, run_get_bind]
  simp only [noVictim]
  rfl

theorem getFreeFrame_of_full {s : BufferPoolManager} (noFree : s.freeList = [])
    (noneEvictable : s.replacer.numEvictable = 0) :
    getFreeFrame.run s = some (.error .bufferPoolFull, s) := by
  have noVictim : s.replacer.evict = some (none, s.replacer) := by
    simp [LruKReplacer.evict, noneEvictable]
  rw [getFreeFrame, run_get_bind]
  simp only [noFree]
  rw [run_bind_of_run (evict_of_none noVictim)]
  rfl

theorem newPage_of_full {s : BufferPoolManager} (noFree : s.freeList = [])
    (noneEvictable : s.replacer.numEvictable = 0) :
    newPage.run s = some (.error .bufferPoolFull, s) := by
  rw [newPage, run_bind_of_error (getFreeFrame_of_full noFree noneEvictable)]

theorem frameAt_of_lt {s : BufferPoolManager} {frameId : FrameId}
    (inPool : frameId.asUsize < s.poolSize) :
    (frameAt frameId).run s = some (.ok (s.frames frameId.asUsize), s) := by
  rw [frameAt, run_get_bind, if_pos inPool]
  rfl

/-- A failed `new_page` leaves its frame neither free nor mapped. -/
theorem newPage_error_loses_frame {s : BufferPoolManager} {frameId : FrameId}
    {rest : List FrameId} {e : CrioError} {dm : DiskManager} (free : s.freeList = frameId :: rest)
    (inPool : frameId.asUsize < s.poolSize)
    (failed : s.diskManager.allocatePage = some (.error e, dm)) :
    newPage.run s = some (.error e, { s with freeList := rest, diskManager := dm }) := by
  rw [newPage, run_bind_of_run (getFreeFrame_of_free free),
    run_bind_of_run (frameAt_of_lt (s := { s with freeList := rest }) inPool), run_get_bind]
  dsimp only
  rw [failed]
  rfl

def unopenedDisk : DiskManager := ⟨[], fun _ => none, 1, ExtentAllocator.new⟩

theorem newPage_error_loses_frame_unopened :
    (new 2 2 unopenedDisk).freeList = ⟨0⟩ :: [⟨1⟩] ∧ (⟨0⟩ : FrameId).asUsize < 2 ∧
      unopenedDisk.allocatePage =
        some (.error (.invalidPageId (PageId.new 1)), { unopenedDisk with numPages := 2 }) ∧
      newPage.run (new 2 2 unopenedDisk) =
        some (.error (.invalidPageId (PageId.new 1)),
          { new 2 2 unopenedDisk with
            freeList := [⟨1⟩], diskManager := { unopenedDisk with numPages := 2 } }) :=
  ⟨rfl, by decide, rfl, newPage_error_loses_frame rfl (by decide) rfl⟩

def pinningCalls : List Call :=
  [.newPage, .newPage, .checkedReadPage (PageId.new 1), .checkedReadPage (PageId.new 2)]

theorem newPage_refused_when_pinned :
    ∃ s, Reachable 2 2 freshDisk s ∧ runCalls pinningCalls (new 2 2 freshDisk) = some s ∧
      newPage.run s = some (.error .bufferPoolFull, s) := by
  have ran : (runCalls pinningCalls (new 2 2 freshDisk)).map
      (fun s => decide (s.freeList = [] ∧ s.replacer.numEvictable = 0)) = some true := by
    decide +kernel
  obtain ⟨s, reached, holds⟩ := Option.map_eq_some_iff.mp ran
  obtain ⟨noFree, noneEvictable⟩ := of_decide_eq_true holds
  exact ⟨s, Reachable.runCalls pinningCalls (Reachability.Reachable.initial rfl) reached, reached,
    newPage_of_full noFree noneEvictable⟩

def mappedPages (s : BufferPoolManager) : List (PageId × FrameId) :=
  s.pageTable.entries.map fun entry => (entry.1, entry.2)

theorem nodupKeys_mappedPages (s : BufferPoolManager) :
    KeyedList.NodupKeys (fun entry : PageId × FrameId => entry.1.asU32.toNat) (mappedPages s) := by
  have injective : Function.Injective fun p : PageId => p.asU32.toNat := by
    intro p q same
    cases p
    cases q
    simpa [PageId.asU32, UInt32.toNat_inj] using same
  have keyed : (mappedPages s).map (fun entry => entry.1.asU32.toNat) =
      s.pageTable.entries.keys.map fun p => p.asU32.toNat := by
    simp [mappedPages, List.keys]
  rw [KeyedList.NodupKeys, keyed]
  exact s.pageTable.nodupKeys.map injective

theorem flushAllPages_run (s : BufferPoolManager) :
    flushAllPages.run s =
      if (mappedPages s).any (fun entry => !(entry.2.asUsize < s.poolSize)) then none
      else ((groupRuns (((mappedPages s).filter fun entry =>
        (s.frames entry.2.asUsize).isDirty).insertionSort
          fun a b => a.1.asU32.toNat ≤ b.1.asU32.toNat)).forM flushRun).run s := by
  have byNat : (fun a b : PageId × FrameId => decide (a.1.asU32 ≤ b.1.asU32)) =
      fun a b => decide (a.1.asU32.toNat ≤ b.1.asU32.toNat) := by
    funext a b
    exact decide_eq_decide.mpr UInt32.le_iff_toNat_le
  have sorted := KeyedList.mergeSort_eq_insertionSort
    (List.Nodup.sublist ((List.filter_sublist (p := fun entry : PageId × FrameId =>
      (s.frames entry.2.asUsize).isDirty)).map _) (nodupKeys_mappedPages s))
  have unfolded : flushAllPages.run s =
      if (mappedPages s).any (fun entry => !(entry.2.asUsize < s.poolSize)) then none
      else ((groupRuns (((mappedPages s).filter fun entry =>
        (s.frames entry.2.asUsize).isDirty).mergeSort
          fun a b => a.1.asU32 ≤ b.1.asU32)).forM flushRun).run s := by
    rw [flushAllPages, run_get_bind]
    by_cases outside : (mappedPages s).any (fun entry => !(entry.2.asUsize < s.poolSize)) = true
    · rw [if_pos outside]
      simp only [mappedPages] at outside
      rw [if_pos outside]
      rfl
    · rw [if_neg outside]
      simp only [mappedPages] at outside
      rw [if_neg outside]
      rfl
  rw [unfolded, byNat, sorted]

def crossingCalls : List Call :=
  [.checkedWritePage (PageId.new 0x00FFFFFF), .writeThrough 0 (fun _ => 1), .dropGuard 0,
    .checkedWritePage (PageId.new 0x01000000), .writeThrough 1 (fun _ => 2), .dropGuard 1]

/-- `flush_all_pages` marks frames clean even where the `write_pages` of their run was refused. -/
theorem flushAllPages_clears_unwritten :
    ∃ s, Reachable 2 2 freshDisk s ∧ runCalls crossingCalls (new 2 2 freshDisk) = some s ∧
      s.pageTable.lookup (PageId.new 0x00FFFFFF) = some ⟨0⟩ ∧ (s.frames 0).isDirty = true ∧
      (s.frames 0).data ⟨0, by decide⟩ = 1 ∧
      s.pageTable.lookup (PageId.new 0x01000000) = some ⟨1⟩ ∧ (s.frames 1).isDirty = true ∧
      (flushAllPages.run s).map (fun outcome =>
        (outcome.1, (outcome.2.frames 0).isDirty, (outcome.2.frames 1).isDirty,
          (outcome.2.diskManager.readPage (PageId.new 0x00FFFFFF)).map
            fun data => data ⟨0, by decide⟩)) =
        some (.ok (), false, false, .ok 0) ∧
      ((flushPage (PageId.new 0x00FFFFFF)).run s).map
        (fun outcome => (outcome.2.diskManager.readPage (PageId.new 0x00FFFFFF)).map
          (fun data => data ⟨0, by decide⟩)) = some (.ok 1) :=
  ⟨_, Reachable.runCalls crossingCalls (Reachability.Reachable.initial rfl) rfl, rfl,
    by decide +kernel, by decide +kernel, by decide +kernel, by decide +kernel, by decide +kernel,
    by rw [flushAllPages_run]; decide +kernel, by decide +kernel⟩

theorem allocatePage_of_full (dm : DiskManager) :
    ({ dm with numPages := 0x01000000 } : DiskManager).allocatePage = none := by
  have past : PageId.fromParts 0 0x01000000 = none := by decide
  simp [DiskManager.allocatePage, past]

def wrappingCalls : List Call :=
  [.checkedReadPage (PageId.new 0xFFFFFFFC), .dropGuard 0, .checkedReadPage (PageId.new 0xFFFFFFFD),
    .dropGuard 1, .checkedReadPage (PageId.new 0xFFFFFFFE), .dropGuard 2]

/-- Sequential reads ending at `0xFFFFFFFE` prefetch from `INVALID_PAGE_ID`, which wraps round to
the directory page. -/
theorem prefetch_wraps_to_invalid :
    (∃ s, Reachable 8 2 freshDisk s ∧ runCalls wrappingCalls (new 8 2 freshDisk) = some s ∧
      (s.pageTable.lookup invalidPageId).isSome ∧
      (s.pageTable.lookup directoryPageId).map
        (fun frameId => (s.frames frameId.asUsize).data ⟨0, by decide⟩) = some 0 ∧
      (s.diskManager.readPage directoryPageId).map (fun data => data ⟨0, by decide⟩) ≠ .ok 0) ∧
    ∀ dm : DiskManager, ({ dm with numPages := 0x01000000 } : DiskManager).allocatePage = none := by
  refine ⟨?wraps, allocatePage_of_full⟩
  have ran : (runCalls wrappingCalls (new 8 2 freshDisk)).map (fun s =>
      decide ((s.pageTable.lookup invalidPageId).isSome ∧
        (s.pageTable.lookup directoryPageId).map
          (fun frameId => (s.frames frameId.asUsize).data ⟨0, by decide⟩) = some 0 ∧
        (s.diskManager.readPage directoryPageId).map (fun data => data ⟨0, by decide⟩) ≠ .ok 0)) =
      some true := by
    decide +kernel
  obtain ⟨s, reached, holds⟩ := Option.map_eq_some_iff.mp ran
  exact ⟨s, Reachable.runCalls wrappingCalls (Reachability.Reachable.initial rfl) reached, reached,
    of_decide_eq_true holds⟩

def evictingCalls : List Call := [.newPage, .newPage]

/-- With `k ≥ 1`, `evict` returns in every reachable state; with `k = 0` it panics once a frame is
evictable. -/
theorem evict_panics_when_k_zero :
    (∀ k maxFrames r, LruKReplacer.Reachable k maxFrames r →
      (∀ frameId info, r.frameInfo.lookup frameId = some info →
        ∀ t ∈ info.history, t < r.currentTimestamp) ∧
      (∀ frameId info, r.frameInfo.lookup frameId = some info → info.isEvictable = true →
        1 ≤ r.numEvictable) ∧
      (1 ≤ k → r.evict.isSome)) ∧
    (∀ maxFrames r, LruKReplacer.Reachable 0 maxFrames r →
      (r.evict = none ↔ r.numEvictable ≠ 0)) ∧
    ((LruKReplacer.new 0 1).setEvictable ⟨0⟩ true).evict = none ∧
    (new 1 0 freshDisk).replacer = LruKReplacer.new 0 1 ∧
    runCalls evictingCalls (new 1 0 freshDisk) = none := by
  refine ⟨fun k maxFrames r reached => ?_, fun maxFrames r reached => ?_, rfl, rfl, ?_⟩
  · have c := LruKReplacer.consistent_of_reachable reached
    exact ⟨c.past, fun _ _ found evictable => c.one_le_numEvictable found evictable,
      c.evict_isSome⟩
  · exact LruKReplacer.evict_eq_none_iff_of_zero (LruKReplacer.consistent_of_reachable reached)
      (LruKReplacer.emptyHistories_of_reachable reached)
  · exact Option.isNone_iff_eq_none.mp (by decide +kernel)

theorem evict_panics_when_k_zero_one_frame :
    (((LruKReplacer.new 0 1).setEvictable ⟨0⟩ true).evict = none ↔
        ((LruKReplacer.new 0 1).setEvictable ⟨0⟩ true).numEvictable ≠ 0) ∧
      1 ≤ ((LruKReplacer.new 2 1).setEvictable ⟨0⟩ true).numEvictable ∧
      ((LruKReplacer.new 2 1).setEvictable ⟨0⟩ true).evict.isSome :=
  ⟨evict_panics_when_k_zero.2.1 1 _
      (.step (.initial rfl) ⟨.setEvictable ⟨0⟩ true, rfl⟩),
    (evict_panics_when_k_zero.1 2 1 _ (.step (.initial rfl) ⟨.setEvictable ⟨0⟩ true, rfl⟩)).2.1
      ⟨0⟩ ⟨[], true⟩ rfl rfl,
    (evict_panics_when_k_zero.1 2 1 _ (.step (.initial rfl) ⟨.setEvictable ⟨0⟩ true, rfl⟩)).2.2
      (by decide)⟩

end BufferPoolManager

end Crio
