import Mathlib

/-!
Fixed-size byte buffers as functions from positions, with the slice operations Rust code
performs on them. `slice` and `copyFrom` are the checked forms, `none` past the end; `field`
and `overwrite` are the forms for ranges that always fit.
-/

namespace ByteBuffer

def leBytes : Nat → Nat → List UInt8
  | 0, _ => []
  | width + 1, v => (v % 256).toUInt8 :: leBytes width (v / 256)

def ofLeBytes : List UInt8 → Nat
  | [] => 0
  | byte :: rest => byte.toNat + 256 * ofLeBytes rest

@[simp] theorem length_leBytes (width v : Nat) : (leBytes width v).length = width := by
  induction width generalizing v with
  | zero => rfl
  | succ width ih => simp [leBytes, ih]

theorem ofLeBytes_leBytes (width v : Nat) : ofLeBytes (leBytes width v) = v % 256 ^ width := by
  induction width generalizing v with
  | zero => simp [leBytes, ofLeBytes, Nat.mod_one]
  | succ width ih =>
    have low : ((v % 256).toUInt8).toNat = v % 256 := by simp [Nat.toUInt8]
    rw [leBytes, ofLeBytes, ih, low, Nat.pow_succ, Nat.mul_comm (256 ^ width) 256, Nat.mod_mul]

theorem ofLeBytes_leBytes_of_lt {width v : Nat} (small : v < 256 ^ width) :
    ofLeBytes (leBytes width v) = v := by
  rw [ofLeBytes_leBytes, Nat.mod_eq_of_lt small]

theorem ofLeBytes_take_leBytes {width v : Nat} (small : v < 256 ^ width) (rest : List UInt8) :
    ofLeBytes ((leBytes width v ++ rest).take width) = v := by
  rw [List.take_left' (length_leBytes width v), ofLeBytes_leBytes_of_lt small]

theorem toNat_toUInt16 {n : Nat} (small : n < 2 ^ 16) : n.toUInt16.toNat = n := by
  simp only [Nat.toUInt16_eq, UInt16.toNat_ofNat']
  omega

section Buffer

variable {n : Nat}

def byteAt (b : Fin n → UInt8) (i : Nat) : UInt8 := if h : i < n then b ⟨i, h⟩ else 0

def field (b : Fin n → UInt8) (off width : Nat) : Nat :=
  ofLeBytes ((List.range width).map fun i => byteAt b (off + i))

def overwrite (b : Fin n → UInt8) (off : Nat) (src : List UInt8) : Fin n → UInt8 :=
  fun j => if off ≤ j.val then src[j.val - off]?.getD (b j) else b j

def slice (b : Fin n → UInt8) (off len : Nat) : Option (List UInt8) :=
  if off + len ≤ n then some ((List.range len).map fun i => byteAt b (off + i)) else none

def copyFrom (b : Fin n → UInt8) (off : Nat) (src : List UInt8) : Option (Fin n → UInt8) :=
  if off + src.length ≤ n then some (overwrite b off src) else none

@[simp] theorem byteAt_mk (b : Fin n → UInt8) (i : Fin n) : byteAt b i.val = b i := by
  simp [byteAt, i.isLt]

theorem byteAt_overwrite_inside (b : Fin n → UInt8) {off : Nat} {src : List UInt8} {j : Nat}
    (low : off ≤ j) (high : j < off + src.length) (bound : j < n) :
    byteAt (overwrite b off src) j = src.getD (j - off) 0 := by
  have inSrc : j - off < src.length := by omega
  simp [byteAt, overwrite, bound, low, List.getElem?_eq_getElem inSrc]

theorem byteAt_overwrite_outside (b : Fin n → UInt8) {off : Nat} {src : List UInt8} {j : Nat}
    (outside : j < off ∨ off + src.length ≤ j) :
    byteAt (overwrite b off src) j = byteAt b j := by
  by_cases bound : j < n
  · by_cases low : off ≤ j
    · have past : src.length ≤ j - off := by omega
      simp [byteAt, overwrite, bound, low, List.getElem?_eq_none past]
    · simp [byteAt, overwrite, bound, low]
  · simp [byteAt, bound]

theorem slice_of_le (b : Fin n → UInt8) {off len : Nat} (fits : off + len ≤ n) :
    slice b off len = some ((List.range len).map fun i => byteAt b (off + i)) := by
  simp [slice, fits]

theorem copyFrom_of_le (b : Fin n → UInt8) {off : Nat} {src : List UInt8}
    (fits : off + src.length ≤ n) : copyFrom b off src = some (overwrite b off src) := by
  simp [copyFrom, fits]

theorem slice_overwrite_same (b : Fin n → UInt8) {off : Nat} {src : List UInt8}
    (fits : off + src.length ≤ n) : slice (overwrite b off src) off src.length = some src := by
  rw [slice_of_le _ fits]
  congr 1
  apply List.ext_getElem (by simp)
  intro i inMap inSrc
  simp only [List.getElem_map, List.getElem_range]
  rw [byteAt_overwrite_inside b (by omega) (by omega) (by omega)]
  simp [List.getElem?_eq_getElem inSrc]

theorem map_byteAt_overwrite_disjoint (b : Fin n → UInt8) {off off' len : Nat}
    {src : List UInt8} (apart : off' + len ≤ off ∨ off + src.length ≤ off') :
    ((List.range len).map fun i => byteAt (overwrite b off src) (off' + i)) =
      (List.range len).map fun i => byteAt b (off' + i) := by
  apply List.map_congr_left
  intro i member
  have below := List.mem_range.mp member
  exact byteAt_overwrite_outside b (by omega)

theorem field_overwrite_disjoint (b : Fin n → UInt8) {off off' width : Nat} {src : List UInt8}
    (apart : off' + width ≤ off ∨ off + src.length ≤ off') :
    field (overwrite b off src) off' width = field b off' width := by
  simp only [field, map_byteAt_overwrite_disjoint b apart]

theorem field_overwrite_same (b : Fin n → UInt8) {off width : Nat} (v : Nat)
    (fits : off + width ≤ n) :
    field (overwrite b off (leBytes width v)) off width = v % 256 ^ width := by
  have read : slice (overwrite b off (leBytes width v)) off (leBytes width v).length =
      some (leBytes width v) := slice_overwrite_same b (by simpa using fits)
  rw [slice_of_le _ (by simpa using fits), length_leBytes] at read
  simp only [field, Option.some_inj.mp read, ofLeBytes_leBytes]

def getU32 (b : Fin n → UInt8) (off : Nat) : UInt32 := (field b off 4).toUInt32

def setU32 (b : Fin n → UInt8) (off : Nat) (v : UInt32) : Fin n → UInt8 :=
  overwrite b off (leBytes 4 v.toNat)

theorem getU32_setU32_same (b : Fin n → UInt8) {off : Nat} (v : UInt32) (fits : off + 4 ≤ n) :
    getU32 (setU32 b off v) off = v := by
  have small : v.toNat < 256 ^ 4 := v.toNat_lt
  rw [getU32, setU32, field_overwrite_same b _ fits, Nat.mod_eq_of_lt small]
  simp

theorem getU32_setU32_disjoint (b : Fin n → UInt8) {off off' : Nat} (v : UInt32)
    (apart : off' + 4 ≤ off ∨ off + 4 ≤ off') :
    getU32 (setU32 b off v) off' = getU32 b off' := by
  rw [getU32, setU32, field_overwrite_disjoint b (by simpa using apart), getU32]

def getU16 (b : Fin n → UInt8) (off : Nat) : UInt16 := (field b off 2).toUInt16

def setU16 (b : Fin n → UInt8) (off : Nat) (v : UInt16) : Fin n → UInt8 :=
  overwrite b off (leBytes 2 v.toNat)

def getU64 (b : Fin n → UInt8) (off : Nat) : UInt64 := (field b off 8).toUInt64

def setU64 (b : Fin n → UInt8) (off : Nat) (v : UInt64) : Fin n → UInt8 :=
  overwrite b off (leBytes 8 v.toNat)

theorem getU16_setU16_same (b : Fin n → UInt8) {off : Nat} (v : UInt16) (fits : off + 2 ≤ n) :
    getU16 (setU16 b off v) off = v := by
  have small : v.toNat < 256 ^ 2 := v.toNat_lt
  rw [getU16, setU16, field_overwrite_same b _ fits, Nat.mod_eq_of_lt small]
  simp

theorem getU16_setU16_disjoint (b : Fin n → UInt8) {off off' : Nat} (v : UInt16)
    (apart : off' + 2 ≤ off ∨ off + 2 ≤ off') :
    getU16 (setU16 b off v) off' = getU16 b off' := by
  rw [getU16, setU16, field_overwrite_disjoint b (by simpa using apart), getU16]

theorem field_congr {b b' : Fin n → UInt8} {off width : Nat}
    (same : ∀ i < width, byteAt b (off + i) = byteAt b' (off + i)) :
    field b off width = field b' off width := by
  unfold field
  congr 1
  exact List.map_congr_left fun i member => same i (List.mem_range.mp member)

theorem getU32_overwrite (b : Fin n → UInt8) {off off' : Nat} {src : List UInt8}
    (apart : off' + 4 ≤ off ∨ off + src.length ≤ off') :
    getU32 (overwrite b off src) off' = getU32 b off' := by
  rw [getU32, field_overwrite_disjoint b apart, getU32]

theorem getU16_overwrite (b : Fin n → UInt8) {off off' : Nat} {src : List UInt8}
    (apart : off' + 2 ≤ off ∨ off + src.length ≤ off') :
    getU16 (overwrite b off src) off' = getU16 b off' := by
  rw [getU16, field_overwrite_disjoint b apart, getU16]

def sliceU32 (b : Fin n → UInt8) (off : Nat) : Option UInt32 :=
  (slice b off 4).map fun bytes => (ofLeBytes bytes).toUInt32

def sliceU16 (b : Fin n → UInt8) (off : Nat) : Option UInt16 :=
  (slice b off 2).map fun bytes => (ofLeBytes bytes).toUInt16

def copyU32 (b : Fin n → UInt8) (off : Nat) (v : UInt32) : Option (Fin n → UInt8) :=
  copyFrom b off (leBytes 4 v.toNat)

def copyU16 (b : Fin n → UInt8) (off : Nat) (v : UInt16) : Option (Fin n → UInt8) :=
  copyFrom b off (leBytes 2 v.toNat)

theorem sliceU32_of_fits (b : Fin n → UInt8) {off : Nat} (fits : off + 4 ≤ n) :
    sliceU32 b off = some (getU32 b off) := by
  rw [sliceU32, slice_of_le b fits]
  rfl

theorem sliceU16_of_fits (b : Fin n → UInt8) {off : Nat} (fits : off + 2 ≤ n) :
    sliceU16 b off = some (getU16 b off) := by
  rw [sliceU16, slice_of_le b fits]
  rfl

theorem copyU32_of_fits (b : Fin n → UInt8) {off : Nat} (v : UInt32) (fits : off + 4 ≤ n) :
    copyU32 b off v = some (setU32 b off v) :=
  copyFrom_of_le b (by simpa using fits)

theorem copyU16_of_fits (b : Fin n → UInt8) {off : Nat} (v : UInt16) (fits : off + 2 ≤ n) :
    copyU16 b off v = some (setU16 b off v) :=
  copyFrom_of_le b (by simpa using fits)

def bytesAt (b : Fin n → UInt8) (off len : Nat) : List UInt8 :=
  (List.range len).map fun i => byteAt b (off + i)

@[simp] theorem length_bytesAt (b : Fin n → UInt8) (off len : Nat) :
    (bytesAt b off len).length = len := by
  simp [bytesAt]

theorem slice_eq_bytesAt (b : Fin n → UInt8) {off len : Nat} (fits : off + len ≤ n) :
    slice b off len = some (bytesAt b off len) :=
  slice_of_le b fits

theorem bytesAt_overwrite_same (b : Fin n → UInt8) {off : Nat} {src : List UInt8}
    (fits : off + src.length ≤ n) : bytesAt (overwrite b off src) off src.length = src := by
  have read := slice_overwrite_same b fits
  rw [slice_eq_bytesAt _ fits] at read
  exact Option.some_inj.mp read

theorem bytesAt_overwrite_disjoint (b : Fin n → UInt8) {off off' len : Nat} {src : List UInt8}
    (apart : off' + len ≤ off ∨ off + src.length ≤ off') :
    bytesAt (overwrite b off src) off' len = bytesAt b off' len :=
  map_byteAt_overwrite_disjoint b apart

end Buffer

end ByteBuffer
