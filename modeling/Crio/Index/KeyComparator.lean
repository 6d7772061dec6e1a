import Crio.Lib.ByteBuffer

/-!
The key comparators of `src/index/key_comparator.rs`. `IntegerComparator` is the comparison
of one rank (`integerCompare_eq_compareOn`), and so a total preorder.
-/

namespace Crio

open ByteBuffer

def integerCompare (a b : List UInt8) : Ordering :=
  if a.length < 4 ∨ b.length < 4 then compare a.length b.length
  else compare (ofLeBytes (a.take 4)) (ofLeBytes (b.take 4))

def bytewiseCompare (a b : List UInt8) : Ordering := compare a b

def integerRank (key : List UInt8) : Nat :=
  if key.length < 4 then key.length else 4 + ofLeBytes (key.take 4)

theorem integerCompare_eq_compareOn : integerCompare = compareOn integerRank := by
  funext a b
  simp only [integerCompare, compareOn, integerRank]
  by_cases shortA : a.length < 4 <;> by_cases shortB : b.length < 4
  · simp [shortA, shortB]
  · have below : a.length < 4 + ofLeBytes (b.take 4) := by omega
    simp only [shortA, shortB, true_or, if_true, if_false]
    rw [Nat.compare_eq_lt.mpr below, Nat.compare_eq_lt.mpr (by omega)]
  · have above : b.length < 4 + ofLeBytes (a.take 4) := by omega
    simp only [shortA, shortB, or_true, if_true, if_false]
    rw [Nat.compare_eq_gt.mpr above, Nat.compare_eq_gt.mpr (by omega)]
  · simp only [shortA, shortB, or_self, if_false, Nat.compare_eq_ite_lt, Nat.add_lt_add_iff_left]

/-- `IntegerComparator` is a total preorder. -/
theorem integerCompare_transCmp : Std.TransCmp integerCompare := by
  rw [integerCompare_eq_compareOn]
  infer_instance

end Crio
