import Crio.Storage.DiskManager

/-!
What the disk manager's two allocators hand out on a fresh database: `num_pages` starts at 1,
past the directory page, and the extent allocator starts at extent 0.
-/

namespace Crio

namespace DiskManager

theorem fromParts_directory : PageId.fromParts 0 0 = some directoryPageId := by decide

theorem fresh_allocatePageForTable (segments : UInt8 → Option ByteFile) (tableId : UInt32) :
    (fresh segments).allocatePageForTable tableId =
      some (.ok directoryPageId,
        { fresh segments with
          extentAllocator := (ExtentAllocator.new.allocatePageForTable tableId).2 }.writeSegment
          0 0 (fun _ => 0 : PageData)) := by
  have inRange : ¬ PageId.pageOffsetMask < 0 := by decide
  simp [allocatePageForTable, fresh, ExtentAllocator.new_allocatePageForTable, inRange,
    fromParts_directory, coverPage, writePage, finishWith]

/-- A fresh database hands its directory page to the first table allocation, which zeroes it, so the
database no longer reopens. -/
theorem fresh_allocatePageForTable_directory (tableId : UInt32) :
    ∃ dm dm', DiskManager.new (fun _ => none) = some (.ok dm) ∧
      dm.allocatePageForTable tableId = some (.ok directoryPageId, dm') ∧
      dm'.readDirectoryPage = .ok (fun _ => 0) ∧
      DiskManager.new dm'.segments = some (.error .invalidDatabaseFile) := by
  refine ⟨fresh _, _, new_of_missing rfl, fresh_allocatePageForTable _ tableId, ?_, ?_⟩
  · simp [readDirectoryPage, readPage, fresh, ByteFile.readAt_writeAt_same]
  · apply new_of_invalid_directory
      (existingSegments_first (by simp [writeSegment]) (by simp [writeSegment, fresh]))
    · simp
    · simp [countPages, pagesInFile, writeSegment, fresh, segment, ByteFile.empty]
      decide
    · simp [writeSegment, fresh, segment]
    · simp [writeSegment, fresh, segment, ByteFile.readAt_writeAt_same, DirectoryPage.isValid_zeros]

end DiskManager

end Crio
