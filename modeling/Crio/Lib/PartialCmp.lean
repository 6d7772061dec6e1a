import Mathlib

/-!
Partial comparators `α → α → Option Ordering` and their laws. Total comparators are lawful,
and so are their pull-backs and the comparator on a sum that never compares the summands.
-/

namespace PartialCmp

variable {α β : Type}

def chain : Ordering → Ordering → Option Ordering
  | .eq, o => some o
  | o, .eq => some o
  | .lt, .lt => some .lt
  | .gt, .gt => some .gt
  | _, _ => none

structure Lawful (cmp : α → α → Option Ordering) : Prop where
  swap : ∀ a b, cmp b a = (cmp a b).map Ordering.swap
  refl : ∀ a, cmp a a = some .eq
  trans : ∀ {a b c o₁ o₂ o}, cmp a b = some o₁ → cmp b c = some o₂ → chain o₁ o₂ = some o →
    cmp a c = some o
  comparable : ∀ {a b c}, (cmp a b).isSome → (cmp b c).isSome → (cmp a c).isSome

def total (cmp : α → α → Ordering) : α → α → Option Ordering := fun a b => some (cmp a b)

def comap (f : α → β) (cmp : β → β → Option Ordering) : α → α → Option Ordering :=
  fun a b => cmp (f a) (f b)

def sum (cmp₁ : α → α → Option Ordering) (cmp₂ : β → β → Option Ordering) :
    α ⊕ β → α ⊕ β → Option Ordering
  | .inl a, .inl b => cmp₁ a b
  | .inr a, .inr b => cmp₂ a b
  | _, _ => none

def ofLE [LE α] [DecidableRel (α := α) (· ≤ ·)] (a b : α) : Option Ordering :=
  match decide (a ≤ b), decide (b ≤ a) with
  | false, false => none
  | false, true => some .gt
  | true, false => some .lt
  | true, true => some .eq

@[simp] theorem total_apply (cmp : α → α → Ordering) (a b : α) :
    total cmp a b = some (cmp a b) := rfl

@[simp] theorem comap_apply (f : α → β) (cmp : β → β → Option Ordering) (a b : α) :
    comap f cmp a b = cmp (f a) (f b) := rfl

section Total

variable {cmp : α → α → Ordering} [Std.TransCmp cmp]

theorem chain_of_transCmp {a b c : α} {o : Ordering}
    (joined : chain (cmp a b) (cmp b c) = some o) : cmp a c = o := by
  cases first : cmp a b <;> cases second : cmp b c <;> rw [first, second] at joined <;>
    simp only [chain, Option.some_inj, reduceCtorEq] at joined <;> subst joined
  · exact Std.TransCmp.lt_trans first second
  · exact Std.TransCmp.lt_of_lt_of_eq first second
  · exact Std.TransCmp.lt_of_eq_of_lt first second
  · exact Std.TransCmp.eq_trans first second
  · exact Std.TransCmp.gt_of_eq_of_gt first second
  · exact Std.TransCmp.gt_of_gt_of_eq first second
  · exact Std.TransCmp.gt_trans first second

theorem lawful_total : Lawful (total cmp) where
  swap a b := by
    simp only [total_apply, Option.map_some, Option.some_inj]
    exact Std.OrientedCmp.eq_swap
  refl a := by
    simp only [total_apply, Option.some_inj]
    exact Std.ReflCmp.compare_self
  trans {_ _ _ _ _ _} first second joined := by
    simp only [total_apply, Option.some_inj] at first second ⊢
    subst first second
    exact chain_of_transCmp joined
  comparable {_ _ _} _ _ := rfl

end Total

variable {cmp : β → β → Option Ordering} {cmp₁ : α → α → Option Ordering}
  {cmp₂ : β → β → Option Ordering}

theorem Lawful.comap (lawful : Lawful cmp) (f : α → β) : Lawful (comap f cmp) where
  swap a b := lawful.swap (f a) (f b)
  refl a := lawful.refl (f a)
  trans {_ _ _ _ _ _} first second joined := lawful.trans first second joined
  comparable {_ _ _} first second := lawful.comparable first second

theorem Lawful.sum (lawful₁ : Lawful cmp₁) (lawful₂ : Lawful cmp₂) : Lawful (sum cmp₁ cmp₂) where
  swap a b := by
    cases a <;> cases b
    · exact lawful₁.swap _ _
    · rfl
    · rfl
    · exact lawful₂.swap _ _
  refl a := by
    cases a
    · exact lawful₁.refl _
    · exact lawful₂.refl _
  trans {a b c _ _ _} first second joined := by
    rcases a with a | a <;> rcases b with b | b <;> rcases c with c | c <;>
      simp only [PartialCmp.sum, reduceCtorEq] at first second ⊢
    · exact lawful₁.trans first second joined
    · exact lawful₂.trans first second joined
  comparable {a b c} first second := by
    rcases a with a | a <;> rcases b with b | b <;> rcases c with c | c <;>
      simp only [PartialCmp.sum, Option.isSome_none, Bool.false_eq_true] at first second ⊢
    · exact lawful₁.comparable first second
    · exact lawful₂.comparable first second

end PartialCmp
