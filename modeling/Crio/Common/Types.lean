import Mathlib

/-!
Identifiers, constants and error kinds of `src/common`. Id arithmetic wraps, as a release build
computes it. A panic is `none`, and a function that can also return `Err` returns
`Option (Except CrioError α)`.
-/

namespace Crio

def pageSize : Nat := 4096

abbrev PageData := Fin pageSize → UInt8

structure PageId where
  val : UInt32
  deriving DecidableEq, Repr, Inhabited

namespace PageId

def pageOffsetMask : UInt32 := 0x00FFFFFF

def fileIdMask : UInt32 := 0xFF000000

def fileIdShift : UInt32 := 24

def new (id : UInt32) : PageId := ⟨id⟩

def asU32 (p : PageId) : UInt32 := p.val

@[simp] theorem asU32_new (id : UInt32) : (new id).asU32 = id := rfl

def fileId (p : PageId) : UInt8 := ((p.val &&& fileIdMask) >>> fileIdShift).toUInt8

def pageOffset (p : PageId) : UInt32 := p.val &&& pageOffsetMask

/-- `from_parts`: panics (`none`) unless the offset fits in twenty-four bits. -/
def fromParts (fileId : UInt8) (pageOffset : UInt32) : Option PageId :=
  if pageOffset ≤ pageOffsetMask then
    some ⟨(fileId.toUInt32 <<< fileIdShift) ||| (pageOffset &&& pageOffsetMask)⟩
  else none

theorem toNat_pageOffset (p : PageId) : p.pageOffset.toNat = p.val.toNat % 2 ^ 24 := by
  rw [pageOffset, UInt32.toNat_and, show pageOffsetMask.toNat = 2 ^ 24 - 1 from rfl,
    Nat.and_two_pow_sub_one_eq_mod]

theorem toNat_fileId (p : PageId) : p.fileId.toNat = p.val.toNat / 2 ^ 24 := by
  have small : p.val.toNat / 2 ^ 24 < 256 := by
    have := p.val.toNat_lt
    omega
  rw [fileId, UInt32.toNat_toUInt8, UInt32.toNat_shiftRight, UInt32.toNat_and,
    show fileIdShift.toNat % 32 = 24 from rfl, Nat.shiftRight_and_distrib,
    show fileIdMask.toNat >>> 24 = 2 ^ 8 - 1 from rfl, Nat.and_two_pow_sub_one_eq_mod,
    Nat.shiftRight_eq_div_pow, Nat.mod_eq_of_lt small, Nat.mod_eq_of_lt small]

theorem ext_parts {p q : PageId} (sameFile : p.fileId = q.fileId)
    (sameOffset : p.pageOffset = q.pageOffset) : p = q := by
  have high := congrArg UInt8.toNat sameFile
  have low := congrArg UInt32.toNat sameOffset
  rw [toNat_fileId, toNat_fileId] at high
  rw [toNat_pageOffset, toNat_pageOffset] at low
  cases p
  cases q
  congr
  apply UInt32.toNat_inj.mp
  dsimp only at high low
  omega

end PageId

def invalidPageId : PageId := ⟨UInt32.ofNat 0xFFFFFFFF⟩

structure FrameId where
  val : UInt32
  deriving DecidableEq, Repr, Inhabited

def FrameId.asUsize (f : FrameId) : Nat := f.val.toNat

structure SlotId where
  val : UInt16
  deriving DecidableEq, Repr, Inhabited

structure RecordId where
  pageId : PageId
  slotId : SlotId
  deriving DecidableEq, Repr, Inhabited

def invalidLsn : UInt64 := 0

/-- `Io` carries the operating-system error, which nothing here inspects. -/
inductive CrioError where
  | io
  | pageNotFound (pageId : PageId)
  | frameNotFound (frameId : FrameId)
  | bufferPoolFull
  | invalidPageId (pageId : PageId)
  | invalidFrameId (frameId : FrameId)
  | pageStillPinned (pageId : PageId)
  | evictionFailed
  | diskScheduler (message : String)
  | pageOverflow (tupleSize available : Nat)
  | invalidSlotId (slot : UInt16)
  | emptySlot (slot : UInt16)
  | pageFull
  | lockPoisoned
  | channel (message : String)
  | tableAlreadyExists (tableId : UInt32)
  | tableNotFound (tableId : UInt32)
  | directoryFull
  | invalidDatabaseFile
  | duplicateKey (key : UInt32)
  | keyNotFound
  | indexNotFound (indexId : UInt32)
  | indexCorrupted (message : String)
  deriving DecidableEq, Repr

end Crio
