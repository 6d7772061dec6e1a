import Mathlib

/-!
Ranges of positions `[start, start + length)`, as a buffer's regions are given. Two ranges are
apart when one ends before the other starts; ranges that are pairwise apart inside a window
have lengths that add up to at most the window's width, since the positions they cover are
disjoint sets inside it.
-/

namespace Intervals

def Apart (a la b lb : Nat) : Prop := a + la ≤ b ∨ b + lb ≤ a

theorem Apart.symm {a la b lb : Nat} (apart : Apart a la b lb) : Apart b lb a la := by
  unfold Apart at *
  omega

theorem Apart.mono_left {a la a' la' b lb : Nat} (apart : Apart a la b lb) (low : a ≤ a')
    (high : a' + la' ≤ a + la) : Apart a' la' b lb := by
  unfold Apart at *
  omega

section Packing

variable {ι : Type}

theorem disjoint_Ico {start len : ι → Nat} {i j : ι} (apart : Apart (start i) (len i) (start j) (len j)) :
    Disjoint (Finset.Ico (start i) (start i + len i)) (Finset.Ico (start j) (start j + len j)) := by
  rw [Finset.disjoint_left]
  intro x inI inJ
  rw [Finset.mem_Ico] at inI inJ
  unfold Apart at apart
  omega

theorem sum_le_of_apart (start len : ι → Nat) (S : Finset ι) (lo hi : Nat)
    (apart : ∀ i ∈ S, ∀ j ∈ S, i ≠ j → Apart (start i) (len i) (start j) (len j))
    (inside : ∀ i ∈ S, lo ≤ start i ∧ start i + len i ≤ hi) :
    ∑ i ∈ S, len i ≤ hi - lo := by
  have covered : S.biUnion (fun i => Finset.Ico (start i) (start i + len i)) ⊆
      Finset.Ico lo hi := by
    intro x member
    rw [Finset.mem_biUnion] at member
    obtain ⟨i, inS, inRange⟩ := member
    have bounds := inside i inS
    rw [Finset.mem_Ico] at inRange ⊢
    omega
  have count := Finset.card_le_card covered
  rw [Finset.card_biUnion fun i inS j inS' ne => disjoint_Ico (apart i inS j inS' ne)] at count
  simpa using count

theorem sum_map_le_of_apart [DecidableEq ι] (start len : ι → Nat) (l : List ι) (nodup : l.Nodup)
    (lo hi : Nat)
    (apart : ∀ i ∈ l, ∀ j ∈ l, i ≠ j → Apart (start i) (len i) (start j) (len j))
    (inside : ∀ i ∈ l, lo ≤ start i ∧ start i + len i ≤ hi) :
    (l.map len).sum ≤ hi - lo := by
  rw [← List.sum_toFinset len nodup]
  apply sum_le_of_apart start len l.toFinset lo hi
  · intro i inI j inJ other
    exact apart i (List.mem_toFinset.mp inI) j (List.mem_toFinset.mp inJ) other
  · intro i inI
    exact inside i (List.mem_toFinset.mp inI)

end Packing

end Intervals
