import Mathlib

/-!
An eight-slot occupancy bitmap held in a `UInt8`. Slot `i` is taken when bit `i` is set;
the mask idioms `b &&& (1 <<< i)`, `b ||| (1 <<< i)` and `b &&& ~~~(1 <<< i)` test, take
and release a slot. `population` counts the taken slots, and the lemmas below say how each
idiom moves the slots and the count.
-/

namespace Bitmap

def taken (b : UInt8) (i : Nat) : Bool := b.toNat.testBit i

def population (b : UInt8) : Nat := (List.range 8).countP (taken b)

def mask (i : UInt8) : UInt8 := 1 <<< i

theorem toNat_lt_eight {i : UInt8} (bound : i < 8) : i.toNat < 8 := by
  simpa [UInt8.lt_iff_toNat_lt] using bound

theorem mask_toNat {i : UInt8} (bound : i < 8) : (mask i).toNat = 2 ^ i.toNat := by
  have small : i.toNat < 8 := toNat_lt_eight bound
  have powBound : 2 ^ i.toNat < 256 :=
    calc 2 ^ i.toNat < 2 ^ 8 := Nat.pow_lt_pow_right (by omega) small
      _ = 256 := rfl
  simp only [mask, UInt8.toNat_shiftLeft, UInt8.toNat_one, Nat.mod_eq_of_lt small,
    Nat.one_shiftLeft]
  exact Nat.mod_eq_of_lt powBound

-- The slot lemmas go through `BitVec.getLsbD`, where `&&&`, `|||` and `~~~` act bitwise.
theorem taken_toBitVec (b : UInt8) (j : Nat) : taken b j = b.toBitVec.getLsbD j := rfl

theorem taken_mask {i : UInt8} (bound : i < 8) (j : Nat) :
    taken (mask i) j = decide (j = i.toNat) := by
  rw [taken, mask_toNat bound, Nat.testBit_two_pow]
  exact decide_eq_decide.mpr eq_comm

theorem taken_of_ge {b : UInt8} {j : Nat} (high : 8 ≤ j) : taken b j = false := by
  apply Nat.testBit_lt_two_pow
  calc b.toNat < 2 ^ 8 := b.toNat_lt
    _ ≤ 2 ^ j := Nat.pow_le_pow_right (by omega) high

theorem and_mask_eq_zero_iff {b i : UInt8} (bound : i < 8) :
    b &&& mask i = 0 ↔ taken b i.toNat = false := by
  constructor
  · intro cleared
    have bit : taken (b &&& mask i) i.toNat = taken 0 i.toNat := by rw [cleared]
    rw [taken_toBitVec, UInt8.toBitVec_and, BitVec.getLsbD_and, ← taken_toBitVec,
      ← taken_toBitVec, taken_mask bound] at bit
    simpa [taken] using bit
  · intro free
    apply UInt8.toBitVec_inj.mp
    apply BitVec.eq_of_getLsbD_eq
    intro j _
    rw [UInt8.toBitVec_and, BitVec.getLsbD_and, ← taken_toBitVec, ← taken_toBitVec,
      taken_mask bound]
    by_cases same : j = i.toNat
    · simp [same, free]
    · simp [same]

theorem taken_or_mask {b i : UInt8} (bound : i < 8) (j : Nat) :
    taken (b ||| mask i) j = (taken b j || decide (j = i.toNat)) := by
  rw [taken_toBitVec, UInt8.toBitVec_or, BitVec.getLsbD_or, ← taken_toBitVec,
    ← taken_toBitVec, taken_mask bound]

theorem taken_and_not_mask {b i : UInt8} (bound : i < 8) (j : Nat) :
    taken (b &&& ~~~mask i) j = (taken b j && !decide (j = i.toNat)) := by
  by_cases high : 8 ≤ j
  · simp [taken_of_ge high]
  · have complement : taken (~~~mask i) j = !decide (j = i.toNat) := by
      rw [taken_toBitVec, UInt8.toBitVec_not, BitVec.getLsbD_not, ← taken_toBitVec,
        taken_mask bound]
      simp only [show j < 8 by omega, decide_true, Bool.true_and]
    rw [taken_toBitVec, UInt8.toBitVec_and, BitVec.getLsbD_and, ← taken_toBitVec,
      ← taken_toBitVec, complement]

theorem countP_flip_one {α : Type} [DecidableEq α] {p q : α → Bool} {x : α} :
    ∀ {l : List α}, l.Nodup → x ∈ l → p x = false → q x = true →
      (∀ y ∈ l, y ≠ x → p y = q y) → l.countP q = l.countP p + 1
  | [], _, member, _, _, _ => by simp at member
  | y :: rest, distinct, member, before, after, agree => by
      rw [List.nodup_cons] at distinct
      by_cases same : y = x
      · subst same
        have restAgree : ∀ z ∈ rest, p z = q z := fun z zMem =>
          agree z (List.mem_cons_of_mem _ zMem) (fun eq => distinct.1 (eq ▸ zMem))
        rw [List.countP_cons, List.countP_cons,
          List.countP_congr (p := q) (q := p) (fun z zMem => by rw [restAgree z zMem])]
        simp [before, after]
      · have restMember : x ∈ rest := by
          rcases List.mem_cons.mp member with eq | later
          · exact absurd eq.symm same
          · exact later
        have tail := countP_flip_one distinct.2 restMember before after
          (fun z zMem ne => agree z (List.mem_cons_of_mem _ zMem) ne)
        have headAgree : p y = q y := agree y List.mem_cons_self same
        rw [List.countP_cons, List.countP_cons, tail, headAgree]
        omega

theorem population_or_mask {b i : UInt8} (bound : i < 8) (free : taken b i.toNat = false) :
    population (b ||| mask i) = population b + 1 := by
  apply countP_flip_one List.nodup_range (List.mem_range.mpr (toNat_lt_eight bound)) free
  · simp [taken_or_mask bound]
  · intro j _ ne
    simp [taken_or_mask bound, ne]

theorem population_and_not_mask {b i : UInt8} (bound : i < 8) (set : taken b i.toNat = true) :
    population (b &&& ~~~mask i) + 1 = population b := by
  symm
  apply countP_flip_one List.nodup_range (List.mem_range.mpr (toNat_lt_eight bound))
  · simp [taken_and_not_mask bound]
  · exact set
  · intro j _ ne
    simp [taken_and_not_mask bound, ne]

end Bitmap
