import Mathlib

/-!
A regular file as positional I/O sees it: a length, and the byte at each position below it.
A read past the end leaves the zeros of the caller's buffer, and a write past it leaves a hole
of zeros.
-/

/-- A file's length in bytes and its content. Bytes at or past `size` are never read. -/
structure ByteFile where
  size : Nat
  byte : Nat → UInt8

namespace ByteFile

def empty : ByteFile := ⟨0, fun _ => 0⟩

def readAt (f : ByteFile) (off len : Nat) : Fin len → UInt8 :=
  fun i => if off + i.val < f.size then f.byte (off + i.val) else 0

def readExact (f : ByteFile) (off len : Nat) : Option (Fin len → UInt8) :=
  if off + len ≤ f.size then some (f.readAt off len) else none

def writeAt (f : ByteFile) (off : Nat) {len : Nat} (data : Fin len → UInt8) : ByteFile where
  size := max f.size (off + len)
  byte j :=
    if h : off ≤ j ∧ j < off + len then data ⟨j - off, by omega⟩
    else if j < f.size then f.byte j else 0

variable {len len' : Nat}

@[simp] theorem size_writeAt (f : ByteFile) (off : Nat) (data : Fin len → UInt8) :
    (f.writeAt off data).size = max f.size (off + len) := rfl

theorem readAt_writeAt_within (f : ByteFile) {off off' : Nat} (data : Fin len → UInt8)
    (low : off ≤ off') (high : off' + len' ≤ off + len) :
    (f.writeAt off data).readAt off' len' =
      fun i => data ⟨off' - off + i.val, by omega⟩ := by
  funext i
  have inside : off ≤ off' + i.val ∧ off' + i.val < off + len := by omega
  have grown : off' + i.val < max f.size (off + len) := by omega
  simp only [readAt, writeAt, grown, inside, and_self, dite_true, if_true]
  congr 2
  omega

theorem readAt_writeAt_same (f : ByteFile) (off : Nat) (data : Fin len → UInt8) :
    (f.writeAt off data).readAt off len = data := by
  rw [readAt_writeAt_within f data (Nat.le_refl off) (Nat.le_refl _)]
  funext i
  simp

theorem readAt_writeAt_disjoint (f : ByteFile) {off off' : Nat} (data : Fin len → UInt8)
    (apart : off' + len' ≤ off ∨ off + len ≤ off') :
    (f.writeAt off data).readAt off' len' = f.readAt off' len' := by
  funext i
  have outside : ¬ (off ≤ off' + i.val ∧ off' + i.val < off + len) := by omega
  by_cases held : off' + i.val < f.size
  · have grown : off' + i.val < max f.size (off + len) := by omega
    simp only [readAt, writeAt, grown, held, outside, dite_false, if_true]
  · simp only [readAt, writeAt, held, outside, dite_false, if_false, ite_self]

theorem readAt_within (f : ByteFile) {off off' : Nat} (low : off ≤ off')
    (high : off' + len' ≤ off + len) :
    f.readAt off' len' = fun i => f.readAt off len ⟨off' - off + i.val, by omega⟩ := by
  funext i
  have same : off + (off' - off + i.val) = off' + i.val := by omega
  simp only [readAt, same]

theorem readExact_of_le (f : ByteFile) {off len : Nat} (fits : off + len ≤ f.size) :
    f.readExact off len = some (f.readAt off len) := by
  simp [readExact, fits]

end ByteFile
