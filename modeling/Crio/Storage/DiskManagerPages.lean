import Crio.Storage.DiskManager
import Crio.Lib.ByteBuffer

/-!
The disk manager of `src/storage/disk/disk_manager.rs` as a page store: what `read_page`
returns after each call that writes.
-/

namespace Crio

namespace DiskManager

open ByteBuffer

theorem segment_writeSegment_other (dm : DiskManager) {fileId fileId' : UInt8}
    (other : fileId' ≠ fileId) (off : Nat) {len : Nat} (data : Fin len → UInt8) :
    (dm.writeSegment fileId off data).segment fileId' = dm.segment fileId' := by
  simp [segment, writeSegment, Function.update_of_ne other]

theorem byteOffset_apart {p q : PageId} (other : q.pageOffset ≠ p.pageOffset) :
    byteOffset q + pageSize ≤ byteOffset p ∨ byteOffset p + pageSize ≤ byteOffset q := by
  have differ : q.pageOffset.toNat ≠ p.pageOffset.toNat := fun same =>
    other (UInt32.toNat_inj.mp same)
  simp only [byteOffset, pageSize]
  omega

theorem readPage_writeSegment {dm : DiskManager} {p : PageId} (opened : p.fileId ∈ dm.files)
    (data : PageData) (q : PageId) :
    (dm.writeSegment p.fileId (byteOffset p) data).readPage q =
      if q = p then .ok data else dm.readPage q := by
  by_cases same : q = p
  · subst same
    rw [if_pos rfl, readPage, files_writeSegment, if_pos opened, segment_writeSegment_same,
      ByteFile.readAt_writeAt_same]
  · rw [if_neg same, readPage, readPage, files_writeSegment]
    split_ifs with qOpened
    · by_cases sameFile : q.fileId = p.fileId
      · have otherOffset : q.pageOffset ≠ p.pageOffset := fun offset =>
          same (PageId.ext_parts sameFile offset)
        rw [sameFile, segment_writeSegment_same,
          ByteFile.readAt_writeAt_disjoint _ _ (byteOffset_apart otherOffset)]
      · rw [segment_writeSegment_other _ sameFile]
    · rfl

/-- `write_page` changes what `read_page` returns for its page only. -/
theorem readPage_writePage {dm dm' : DiskManager} {p : PageId} {data : PageData}
    (written : dm.writePage p data = .ok dm') (q : PageId) :
    dm'.readPage q = if q = p then .ok data else dm.readPage q := by
  unfold writePage at written
  split_ifs at written with opened
  cases written
  exact readPage_writeSegment opened data q

theorem readPage_writePage_fresh :
    ∃ dm', (fresh fun _ => none).writePage (PageId.new 1) (fun _ => 7) = .ok dm' ∧
      dm'.readPage (PageId.new 1) = .ok fun _ => 7 := by
  have written : (fresh fun _ => none).writePage (PageId.new 1) (fun _ => 7) =
      .ok ((fresh fun _ => none).writeSegment 0 (byteOffset (PageId.new 1)) fun _ => 7) := rfl
  exact ⟨_, written, (readPage_writePage written _).trans (if_pos rfl)⟩

def InRun (startPageId : PageId) (numPages : UInt32) (q : PageId) : Prop :=
  q.fileId = startPageId.fileId ∧ startPageId.pageOffset.toNat ≤ q.pageOffset.toNat ∧
    q.pageOffset.toNat < startPageId.pageOffset.toNat + numPages.toNat

instance (startPageId : PageId) (numPages : UInt32) (q : PageId) :
    Decidable (InRun startPageId numPages q) := by
  unfold InRun
  infer_instance

def runSlice {numPages : UInt32} (bulk : Fin (numPages.toNat * pageSize) → UInt8)
    (startPageId q : PageId) : PageData :=
  fun i => byteAt bulk ((q.pageOffset.toNat - startPageId.pageOffset.toNat) * pageSize + i.val)

theorem runSlice_eq {numPages : UInt32} (bulk : Fin (numPages.toNat * pageSize) → UInt8)
    {startPageId q : PageId} (inRun : InRun startPageId numPages q) (i : Fin pageSize) :
    runSlice bulk startPageId q i =
      bulk ⟨byteOffset q - byteOffset startPageId + i.val, by
        obtain ⟨_, low, high⟩ := inRun
        have := i.isLt
        simp only [byteOffset, pageSize] at this ⊢
        omega⟩ := by
  obtain ⟨_, low, high⟩ := inRun
  have inside : (q.pageOffset.toNat - startPageId.pageOffset.toNat) * pageSize + i.val <
      numPages.toNat * pageSize := by
    have := i.isLt
    simp only [pageSize] at this ⊢
    omega
  rw [runSlice, byteAt, dif_pos inside]
  congr 2
  simp only [byteOffset, pageSize]
  omega

/-- `read_pages` reads each page of its run as `read_page` does. -/
theorem readPage_of_readPages {dm : DiskManager} {startPageId : PageId} {numPages : UInt32}
    {bulk : Fin (numPages.toNat * pageSize) → UInt8}
    (read : dm.readPages startPageId numPages = .ok bulk) {q : PageId}
    (inRun : InRun startPageId numPages q) :
    dm.readPage q = .ok (runSlice bulk startPageId q) := by
  cases checked : checkRange "read" startPageId numPages with
  | error e =>
    rw [readPages, checked] at read
    cases read
  | ok _ =>
    rw [readPages, checked] at read
    dsimp only [bind, Except.bind] at read
    split_ifs at read with opened
    cases read
    obtain ⟨sameFile, low, high⟩ := inRun
    rw [readPage, sameFile, if_pos opened, ByteFile.readAt_within _
      (show byteOffset startPageId ≤ byteOffset q by simp only [byteOffset, pageSize]; omega)
      (show byteOffset q + pageSize ≤ byteOffset startPageId + numPages.toNat * pageSize by
        simp only [byteOffset, pageSize]; omega)]
    refine congrArg Except.ok (funext fun i => ?_)
    rw [runSlice_eq _ ⟨sameFile, low, high⟩]

theorem readPage_of_readPages_fresh :
    (fresh fun _ => none).readPage (PageId.new 2) =
      .ok (runSlice (((fresh fun _ => none).segment 0).readAt (byteOffset (PageId.new 1))
        ((2 : UInt32).toNat * pageSize)) (PageId.new 1) (PageId.new 2)) :=
  readPage_of_readPages rfl (by decide)

/-- `write_pages` gives each page of its run its slice of the buffer and leaves every other page. -/
theorem readPage_writePages {dm dm' : DiskManager} {startPageId : PageId} {numPages : UInt32}
    {data : Fin (numPages.toNat * pageSize) → UInt8}
    (written : dm.writePages startPageId numPages data = .ok dm') (q : PageId) :
    dm'.readPage q =
      if InRun startPageId numPages q then .ok (runSlice data startPageId q)
      else dm.readPage q := by
  cases checked : checkRange "write" startPageId numPages with
  | error e =>
    rw [writePages, checked] at written
    cases written
  | ok _ =>
    rw [writePages, checked] at written
    dsimp only [bind, Except.bind] at written
    split_ifs at written with opened
    cases written
    rw [readPage, readPage, files_writeSegment]
    by_cases inRun : InRun startPageId numPages q
    · obtain ⟨sameFile, low, high⟩ := inRun
      rw [if_pos (show InRun startPageId numPages q from ⟨sameFile, low, high⟩), sameFile,
        if_pos opened, segment_writeSegment_same,
        ByteFile.readAt_writeAt_within _ _
          (show byteOffset startPageId ≤ byteOffset q by simp only [byteOffset, pageSize]; omega)
          (show byteOffset q + pageSize ≤ byteOffset startPageId + numPages.toNat * pageSize by
            simp only [byteOffset, pageSize]; omega)]
      refine congrArg Except.ok (funext fun i => ?_)
      rw [runSlice_eq _ ⟨sameFile, low, high⟩]
    · rw [if_neg inRun]
      split_ifs with qOpened
      · by_cases sameFile : q.fileId = startPageId.fileId
        · have apart : byteOffset q + pageSize ≤ byteOffset startPageId ∨
              byteOffset startPageId + numPages.toNat * pageSize ≤ byteOffset q := by
            simp only [InRun, sameFile, true_and, not_and, Nat.not_lt] at inRun
            simp only [byteOffset, pageSize]
            by_cases before : startPageId.pageOffset.toNat ≤ q.pageOffset.toNat
            · have := inRun before
              right
              omega
            · left
              omega
          rw [sameFile, segment_writeSegment_same, ByteFile.readAt_writeAt_disjoint _ _ apart]
        · rw [segment_writeSegment_other _ sameFile]
      · rfl

theorem readPage_writePages_fresh :
    ∃ dm', (fresh fun _ => none).writePages (PageId.new 1) 2 (fun _ => 7) = .ok dm' ∧
      dm'.readPage (PageId.new 2) =
        .ok (runSlice (fun _ => 7 : Fin ((2 : UInt32).toNat * pageSize) → UInt8) (PageId.new 1)
          (PageId.new 2)) := by
  have written : (fresh fun _ => none).writePages (PageId.new 1) 2 (fun _ => 7) =
      .ok ((fresh fun _ => none).writeSegment 0 (byteOffset (PageId.new 1)) fun _ => 7) := rfl
  exact ⟨_, written, (readPage_writePages written _).trans (if_pos (by decide))⟩

/-- `allocate_page` zeroes the page it hands out and leaves every other page. -/
theorem readPage_allocatePage {dm dm' : DiskManager} {pageId : PageId}
    (allocated : dm.allocatePage = some (.ok pageId, dm')) (q : PageId) :
    dm'.readPage q = if q = pageId then .ok (fun _ => 0) else dm.readPage q := by
  simp only [allocatePage, Option.bind_eq_bind, Option.bind_eq_some_iff, Option.pure_def,
    Option.some.injEq] at allocated
  obtain ⟨allocatedId, _, finished⟩ := allocated
  cases zeroed : ({ dm with numPages := dm.numPages + 1 } : DiskManager).writePage allocatedId
    (fun _ => 0) with
  | error e => simp [zeroed, finishWith] at finished
  | ok counted =>
    simp only [zeroed, finishWith, Prod.mk.injEq, Except.ok.injEq] at finished
    obtain ⟨rfl, rfl⟩ := finished
    unfold writePage at zeroed
    split_ifs at zeroed with opened
    cases zeroed
    rw [readPage_writeSegment opened]
    rfl

theorem readPage_allocatePage_fresh :
    ∃ dm', (fresh fun _ => none).allocatePage = some (.ok (PageId.new 1), dm') ∧
      dm'.readPage (PageId.new 1) = .ok fun _ => 0 := by
  have allocated : (fresh fun _ => none).allocatePage = some (.ok (PageId.new 1),
      ({ (fresh fun _ => none) with numPages := 2 } : DiskManager).writeSegment 0
        (byteOffset (PageId.new 1)) fun _ => 0) := rfl
  exact ⟨_, allocated, (readPage_allocatePage allocated _).trans (if_pos rfl)⟩

end DiskManager

end Crio
