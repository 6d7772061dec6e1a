import Crio.Tuple.Value

/-!
`Value::compare` off `Float` and `Double` is a lawful partial comparator: each value has a key
of its class, and the laws come from those of a sum of total orders (`PartialCmp.Lawful.sum`).
-/

namespace Crio

namespace Value

theorem compareOfLessAndEq_eq_compare_toInt {α : Type} [LT α] [DecidableRel (α := α) (· < ·)]
    [DecidableEq α] (f : α → Int) (lt_iff : ∀ a b : α, a < b ↔ f a < f b)
    (inj : ∀ a b : α, f a = f b ↔ a = b) (a b : α) :
    compareOfLessAndEq a b = Ord.compare (f a) (f b) := by
  simp only [compareOfLessAndEq, lt_iff, ← inj]
  rfl

theorem compare_int8 (a b : Int8) : Ord.compare a b = Ord.compare a.toInt b.toInt :=
  compareOfLessAndEq_eq_compare_toInt Int8.toInt (fun _ _ => Int8.lt_iff_toInt_lt)
    (fun _ _ => Int8.toInt_inj) a b

theorem compare_int16 (a b : Int16) : Ord.compare a b = Ord.compare a.toInt b.toInt :=
  compareOfLessAndEq_eq_compare_toInt Int16.toInt (fun _ _ => Int16.lt_iff_toInt_lt)
    (fun _ _ => Int16.toInt_inj) a b

theorem compare_int32 (a b : Int32) : Ord.compare a b = Ord.compare a.toInt b.toInt :=
  compareOfLessAndEq_eq_compare_toInt Int32.toInt (fun _ _ => Int32.lt_iff_toInt_lt)
    (fun _ _ => Int32.toInt_inj) a b

theorem compare_int64 (a b : Int64) : Ord.compare a b = Ord.compare a.toInt b.toInt :=
  compareOfLessAndEq_eq_compare_toInt Int64.toInt (fun _ _ => Int64.lt_iff_toInt_lt)
    (fun _ _ => Int64.toInt_inj) a b

def intValue : Value → Option Int
  | .tinyInt v => some v.toInt
  | .smallInt v => some v.toInt
  | .integer v => some v.toInt
  | .bigInt v => some v.toInt
  | _ => none

def intWidth : Value → Option Nat
  | .tinyInt _ => some 8
  | .smallInt _ => some 16
  | .integer _ => some 32
  | .bigInt _ => some 64
  | _ => none

def isFloating : Value → Bool
  | .float _ | .double _ => true
  | _ => false

theorem compare_of_intValue {a b : Value} {x y : Int} (ha : a.intValue = some x)
    (hb : b.intValue = some y) : a.compare b = some (Ord.compare x y) := by
  cases a <;> simp only [intValue, Option.some_inj, reduceCtorEq] at ha <;>
    cases b <;> simp only [intValue, Option.some_inj, reduceCtorEq] at hb <;> subst ha hb <;>
    simp only [compare, compare_int8, compare_int16, compare_int32, compare_int64,
      Int8.toInt_toInt16, Int8.toInt_toInt32, Int8.toInt_toInt64, Int16.toInt_toInt32,
      Int16.toInt_toInt64, Int32.toInt_toInt64]

example : (Value.smallInt (-300)).compare (.tinyInt 5) = some .lt := by decide

inductive OrderKey where
  | null
  | boolean (b : Bool)
  | integer (i : Int)
  | string (bytes : List UInt8)
  | timestamp (t : Int64)

def OrderKey.toSum : OrderKey → Unit ⊕ Bool ⊕ Int ⊕ List UInt8 ⊕ Int64
  | .null => .inl ()
  | .boolean b => .inr (.inl b)
  | .integer i => .inr (.inr (.inl i))
  | .string bytes => .inr (.inr (.inr (.inl bytes)))
  | .timestamp t => .inr (.inr (.inr (.inr t)))

def OrderKey.compare : OrderKey → OrderKey → Option Ordering :=
  open PartialCmp in
  comap OrderKey.toSum
    (sum (total Ord.compare) (sum (total Ord.compare) (sum (total Ord.compare)
      (sum (total Ord.compare) (total Ord.compare)))))

theorem OrderKey.lawful_compare : PartialCmp.Lawful OrderKey.compare :=
  (PartialCmp.lawful_total.sum (PartialCmp.lawful_total.sum (PartialCmp.lawful_total.sum
    (PartialCmp.lawful_total.sum PartialCmp.lawful_total)))).comap OrderKey.toSum

def orderKey : Value → Option OrderKey
  | .null => some .null
  | .boolean b => some (.boolean b)
  | .string s => some (.string (asBytes s))
  | .timestamp t => some (.timestamp t)
  | v => v.intValue.map .integer

theorem orderKey_isSome {v : Value} (off : v.isFloating = false) : v.orderKey.isSome := by
  cases v <;> first | rfl | simp [isFloating] at off

theorem compare_eq_orderKey {a b : Value} {ka kb : OrderKey} (ha : a.orderKey = some ka)
    (hb : b.orderKey = some kb) : a.compare b = ka.compare kb := by
  cases a <;> simp only [orderKey, intValue, Option.map_some, Option.map_none, Option.some_inj,
      reduceCtorEq] at ha <;>
    cases b <;> simp only [orderKey, intValue, Option.map_some, Option.map_none, Option.some_inj,
      reduceCtorEq] at hb <;> subst ha hb <;>
    simp only [compare, OrderKey.compare, OrderKey.toSum, PartialCmp.comap_apply, PartialCmp.sum,
      PartialCmp.total_apply, compare_int8, compare_int16, compare_int32, compare_int64,
      Int8.toInt_toInt16, Int8.toInt_toInt32, Int8.toInt_toInt64, Int16.toInt_toInt32,
      Int16.toInt_toInt64, Int32.toInt_toInt64]
  rfl

def nonFloatingKey (v : {v : Value // v.isFloating = false}) : OrderKey :=
  v.1.orderKey.get (orderKey_isSome v.2)

theorem lawful_compare_nonFloating :
    PartialCmp.Lawful (fun a b : {v : Value // v.isFloating = false} => a.1.compare b.1) := by
  have keyed : (fun a b : {v : Value // v.isFloating = false} => a.1.compare b.1) =
      PartialCmp.comap nonFloatingKey OrderKey.compare := by
    funext a b
    exact compare_eq_orderKey (Option.some_get _).symm (Option.some_get _).symm
  rw [keyed]
  exact OrderKey.lawful_compare.comap nonFloatingKey

theorem intValue_isSome_of_intWidth {v : Value} {w : Nat} (sized : v.intWidth = some w) :
    v.intValue.isSome := by
  cases v <;> first | rfl | simp [intWidth] at sized

theorem cast_of_intWidth_le {a b : Value} {wa wb : Nat} {db : DataType}
    (ha : a.intWidth = some wa) (hb : b.intWidth = some wb) (le : wa ≤ wb)
    (typed : b.inferType = some db) :
    ∃ a', a.cast db = some a' ∧ a'.inferType = some db ∧ a'.intValue = a.intValue := by
  cases a <;> simp only [intWidth, Option.some_inj, reduceCtorEq] at ha <;>
    cases b <;> simp only [intWidth, Option.some_inj, reduceCtorEq] at hb <;>
    simp only [inferType, Option.some_inj] at typed <;> subst ha hb typed <;>
    first
    | omega
    | exact ⟨_, rfl, rfl, by simp only [intValue, Int8.toInt_toInt16, Int8.toInt_toInt32,
        Int8.toInt_toInt64, Int16.toInt_toInt32, Int16.toInt_toInt64, Int32.toInt_toInt64]⟩

/-- Off `Float` and `Double`, `compare` is a lawful partial comparator, and integers of two widths
compare, and cast, by their values. -/
theorem compare_consistent :
    PartialCmp.Lawful (fun a b : {v : Value // v.isFloating = false} => a.1.compare b.1) ∧
    (∀ (a b : Value) (x y : Int), a.intValue = some x → b.intValue = some y →
      a.compare b = some (Ord.compare x y)) ∧
    ∀ (a b : Value) (wa wb : Nat) (db : DataType), a.intWidth = some wa →
      b.intWidth = some wb → wa ≤ wb → b.inferType = some db →
      ∃ a', a.cast db = some a' ∧ a'.inferType = some db ∧ a'.intValue = a.intValue ∧
        a'.compare b = a.compare b := by
  refine ⟨lawful_compare_nonFloating, fun _ _ _ _ => compare_of_intValue,
    fun a b wa wb db ha hb le typed => ?_⟩
  obtain ⟨a', cast, widened, kept⟩ := cast_of_intWidth_le ha hb le typed
  obtain ⟨x, hx⟩ := Option.isSome_iff_exists.mp (intValue_isSome_of_intWidth ha)
  obtain ⟨y, hy⟩ := Option.isSome_iff_exists.mp (intValue_isSome_of_intWidth hb)
  refine ⟨a', cast, widened, kept, ?_⟩
  rw [compare_of_intValue (kept.trans hx) hy, compare_of_intValue hx hy]

theorem compare_consistent_tinyInt_bigInt :
    (Value.tinyInt (-1)).compare (.bigInt 5) = some (Ord.compare (-1 : Int) 5) ∧
      ∃ a', (Value.tinyInt (-1)).cast .bigInt = some a' ∧ a'.inferType = some .bigInt ∧
        a'.intValue = (Value.tinyInt (-1)).intValue ∧
        a'.compare (.bigInt 5) = (Value.tinyInt (-1)).compare (.bigInt 5) :=
  ⟨compare_consistent.2.1 _ _ (-1) 5 (by decide) (by decide),
    compare_consistent.2.2 _ _ 8 64 .bigInt rfl rfl (by decide) rfl⟩

end Value

end Crio
