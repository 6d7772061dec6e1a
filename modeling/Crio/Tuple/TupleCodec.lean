import Crio.Tuple.Tuple
import Crio.Lib.KeyedList
import Crio.Lib.IndexLoops
import Crio.Lib.Bitmap

/-!
The tuple format of `src/tuple/tuple.rs` read back. A `Float` or `Double` is read back by
`from_bits`, which Lean's floats do not reason about, and is left out of the round trip.
-/

namespace Crio

open ByteBuffer

namespace Value

def restorable : Value → DataType → Bool
  | .float _, _ => false
  | .double _, _ => false
  | .string s, .char _ => Utf8.trimEnd s.toList == s.toList
  | _, _ => true

theorem toNat_lt_two (v : UInt16) : v.toNat < 256 ^ 2 := v.toNat_lt

theorem toNat_lt_four (v : UInt32) : v.toNat < 256 ^ 4 := v.toNat_lt

theorem toNat_lt_eight (v : UInt64) : v.toNat < 256 ^ 8 := v.toNat_lt

theorem trimEnd_decodeLossy_padded {s : String} (untrimmed : Utf8.trimEnd s.toList = s.toList)
    (pad : Nat) :
    Utf8.trimEnd (Utf8.decodeLossy (asBytes s ++ List.replicate pad 0x20)) = s.toList := by
  have spaces : Utf8.decodeLossy (List.replicate pad 0x20) = List.replicate pad ' ' := by
    rw [Utf8.decodeLossy_ascii (fun b member => by rw [List.eq_of_mem_replicate member]; decide),
      List.map_replicate]
    rfl
  rw [asBytes, Utf8.decodeLossy_flatMap_utf8EncodeChar_append, spaces,
    Utf8.trimEnd_append_of_whitespace (fun c member => by
      rw [List.eq_of_mem_replicate member]; rfl), untrimmed]

theorem deserialize_smallInt (v : UInt16) (rest : List UInt8) :
    deserialize (leBytes 2 v.toNat ++ rest) .smallInt = some (.smallInt v.toInt16, 2) := by
  have long : ¬ (leBytes 2 v.toNat ++ rest).length < 2 := by
    rw [List.length_append, length_leBytes]
    omega
  simp only [deserialize, if_neg long, ofLeBytes_take_leBytes (toNat_lt_two v), Nat.toUInt16_eq,
    UInt16.ofNat_toNat]

theorem deserialize_integer (v : UInt32) (rest : List UInt8) :
    deserialize (leBytes 4 v.toNat ++ rest) .integer = some (.integer v.toInt32, 4) := by
  have long : ¬ (leBytes 4 v.toNat ++ rest).length < 4 := by
    rw [List.length_append, length_leBytes]
    omega
  simp only [deserialize, if_neg long, ofLeBytes_take_leBytes (toNat_lt_four v), Nat.toUInt32_eq,
    UInt32.ofNat_toNat]

theorem deserialize_bigInt (v : UInt64) (rest : List UInt8) :
    deserialize (leBytes 8 v.toNat ++ rest) .bigInt = some (.bigInt v.toInt64, 8) := by
  have long : ¬ (leBytes 8 v.toNat ++ rest).length < 8 := by
    rw [List.length_append, length_leBytes]
    omega
  simp only [deserialize, if_neg long, ofLeBytes_take_leBytes (toNat_lt_eight v), Nat.toUInt64_eq,
    UInt64.ofNat_toNat]

theorem deserialize_timestamp (v : UInt64) (rest : List UInt8) :
    deserialize (leBytes 8 v.toNat ++ rest) .timestamp = some (.timestamp v.toInt64, 8) := by
  have long : ¬ (leBytes 8 v.toNat ++ rest).length < 8 := by
    rw [List.length_append, length_leBytes]
    omega
  simp only [deserialize, if_neg long, ofLeBytes_take_leBytes (toNat_lt_eight v), Nat.toUInt64_eq,
    UInt64.ofNat_toNat]

theorem deserialize_serialize_append {v : Value} {dataType : DataType} {bytes : List UInt8}
    (restores : v.restorable dataType = true) (present : v.isNull = false)
    (encoded : v.serialize dataType = some bytes) (rest : List UInt8) :
    ∃ stored, v.cast dataType = some stored ∧
      deserialize (bytes ++ rest) dataType = some (stored, bytes.length) := by
  cases v with
  | null => cases present
  | float => cases restores
  | double => cases restores
  | boolean b =>
    cases dataType <;> simp only [serialize, Option.some.injEq, reduceCtorEq] at encoded
    subst encoded
    exact ⟨.boolean b, rfl, by cases b <;> rfl⟩
  | tinyInt v =>
    cases dataType <;> simp only [serialize, Option.some.injEq, reduceCtorEq] at encoded <;>
      subst encoded
    case tinyInt => exact ⟨.tinyInt v, rfl, rfl⟩
    case smallInt => exact ⟨_, rfl, by simpa using deserialize_smallInt v.toInt16.toUInt16 rest⟩
    case integer => exact ⟨_, rfl, by simpa using deserialize_integer v.toInt32.toUInt32 rest⟩
    case bigInt => exact ⟨_, rfl, by simpa using deserialize_bigInt v.toInt64.toUInt64 rest⟩
  | smallInt v =>
    cases dataType <;> simp only [serialize, Option.some.injEq, reduceCtorEq] at encoded <;>
      subst encoded
    case smallInt => exact ⟨_, rfl, by simpa using deserialize_smallInt v.toUInt16 rest⟩
    case integer => exact ⟨_, rfl, by simpa using deserialize_integer v.toInt32.toUInt32 rest⟩
    case bigInt => exact ⟨_, rfl, by simpa using deserialize_bigInt v.toInt64.toUInt64 rest⟩
  | integer v =>
    cases dataType <;> simp only [serialize, Option.some.injEq, reduceCtorEq] at encoded <;>
      subst encoded
    case integer => exact ⟨_, rfl, by simpa using deserialize_integer v.toUInt32 rest⟩
    case bigInt => exact ⟨_, rfl, by simpa using deserialize_bigInt v.toInt64.toUInt64 rest⟩
  | bigInt v =>
    cases dataType <;> simp only [serialize, Option.some.injEq, reduceCtorEq] at encoded
    subst encoded
    exact ⟨_, rfl, by simpa using deserialize_bigInt v.toUInt64 rest⟩
  | timestamp v =>
    cases dataType <;> simp only [serialize, Option.some.injEq, reduceCtorEq] at encoded
    subst encoded
    exact ⟨_, rfl, by simpa using deserialize_timestamp v.toUInt64 rest⟩
  | string s =>
    cases dataType <;> simp only [serialize, reduceCtorEq] at encoded
    case char n =>
      have fits : (asBytes s).length ≤ n.toNat := by
        by_contra tooLong
        rw [if_pos (by omega)] at encoded
        cases encoded
      rw [if_neg (by omega), Option.some.injEq] at encoded
      subst encoded
      have untrimmed : Utf8.trimEnd s.toList = s.toList := by
        simpa [restorable] using restores
      have width : (asBytes s ++ List.replicate (n.toNat - (asBytes s).length) 0x20).length =
          n.toNat := by
        rw [List.length_append, List.length_replicate]
        omega
      refine ⟨.string s, by simp [cast, fits], ?_⟩
      simp only [deserialize, List.length_append, width, List.take_left' width,
        trimEnd_decodeLossy_padded untrimmed, String.ofList_toList]
      rw [if_neg (by omega)]
    case varChar n =>
      have fits : (asBytes s).length ≤ n.toNat := by
        by_contra tooLong
        rw [if_pos (by omega)] at encoded
        cases encoded
      rw [if_neg (by omega), Option.some.injEq] at encoded
      subst encoded
      have short : (asBytes s).length < 2 ^ 16 := lt_of_le_of_lt fits n.toNat_lt
      rw [toNat_toUInt16 short]
      refine ⟨.string s, by simp [cast, fits], ?_⟩
      have prefixed : (leBytes 2 (asBytes s).length ++ asBytes s ++ rest) =
          leBytes 2 (asBytes s).length ++ (asBytes s ++ rest) := List.append_assoc _ _ _
      simp only [deserialize, prefixed, ofLeBytes_take_leBytes (show (asBytes s).length < 256 ^ 2 from short),
        List.drop_left' (length_leBytes 2 _), List.take_left' rfl, decodeLossy_asBytes,
        String.ofList_toList, List.length_append, length_leBytes]
      rw [if_neg (by omega), if_neg (by omega)]

end Value

namespace Tuple

section Bitmap

theorem toNat_toUInt8_mod_eight (i : Nat) : (i % 8).toUInt8.toNat = i % 8 := by
  simp only [Nat.toUInt8_eq, UInt8.toNat_ofNat']
  omega

theorem toUInt8_mod_eight_lt (i : Nat) : (i % 8).toUInt8 < 8 := by
  rw [UInt8.lt_iff_toNat_lt, toNat_toUInt8_mod_eight]
  simp only [UInt8.reduceToNat]
  omega

theorem isNullAt_eq_taken (bitmap : List UInt8) (i : Nat) :
    isNullAt bitmap i = Bitmap.taken (bitmap.getD (i / 8) 0) (i % 8) := by
  have zeroIff := Bitmap.and_mask_eq_zero_iff (b := bitmap.getD (i / 8) 0) (toUInt8_mod_eight_lt i)
  rw [toNat_toUInt8_mod_eight] at zeroIff
  rw [isNullAt]
  by_cases zero : (bitmap.getD (i / 8) 0 &&& 1 <<< (i % 8).toUInt8) = 0
  · rw [zero, zeroIff.1 zero]
    rfl
  · have set : Bitmap.taken (bitmap.getD (i / 8) 0) (i % 8) = true := by
      by_contra clear
      exact zero (zeroIff.2 (by simpa using clear))
    rw [set]
    simpa using zero

theorem isNullAt_nullStep {bitmap : List UInt8} {k : Nat} (inside : k / 8 < bitmap.length)
    (value : Value) (j : Nat) :
    isNullAt (if value.isNull then bitmap.modify (k / 8) (· ||| 1 <<< (k % 8).toUInt8)
      else bitmap) j = (isNullAt bitmap j || (value.isNull && decide (j = k))) := by
  cases null : value.isNull with
  | false => simp
  | true =>
    rw [if_pos rfl, isNullAt_eq_taken, isNullAt_eq_taken]
    by_cases same : j / 8 = k / 8
    · have byte : (bitmap.modify (k / 8) (· ||| 1 <<< (k % 8).toUInt8)).getD (j / 8) 0 =
          bitmap.getD (k / 8) 0 ||| Bitmap.mask (k % 8).toUInt8 := by
        rw [same, List.getD_eq_getElem?_getD, List.getElem?_modify_eq,
          List.getElem?_eq_getElem inside, List.getD_eq_getElem?_getD,
          List.getElem?_eq_getElem inside]
        rfl
      rw [byte, Bitmap.taken_or_mask (toUInt8_mod_eight_lt k), toNat_toUInt8_mod_eight, same]
      have iff : j % 8 = k % 8 ↔ j = k := ⟨fun low => by omega, fun eq => eq ▸ rfl⟩
      simp [iff]
    · have byte : (bitmap.modify (k / 8) (· ||| 1 <<< (k % 8).toUInt8)).getD (j / 8) 0 =
          bitmap.getD (j / 8) 0 := by
        rw [List.getD_eq_getElem?_getD, List.getElem?_modify_ne _ _ (Ne.symm same),
          List.getD_eq_getElem?_getD]
      have other : j ≠ k := fun eq => same (eq ▸ rfl)
      rw [byte]
      simp [other]

theorem isNullAt_foldl (values : List Value) :
    ∀ (k : Nat) (bitmap : List UInt8), k + values.length ≤ 8 * bitmap.length → ∀ j,
      isNullAt ((values.zipIdx k).foldl
          (fun bitmap entry =>
            if entry.1.isNull then bitmap.modify (entry.2 / 8) (· ||| 1 <<< (entry.2 % 8).toUInt8)
            else bitmap) bitmap) j =
        (isNullAt bitmap j || (decide (k ≤ j) && (values[j - k]?.any Value.isNull))) := by
  induction values with
  | nil => intro k bitmap _ j; simp
  | cons value values ih =>
    intro k bitmap room j
    have inside : k / 8 < bitmap.length := by
      simp only [List.length_cons] at room
      omega
    have kept : (if value.isNull then bitmap.modify (k / 8) (· ||| 1 <<< (k % 8).toUInt8)
        else bitmap).length = bitmap.length := by
      split_ifs <;> simp
    rw [List.zipIdx_cons, List.foldl_cons, ih (k + 1) _ (by simp only [kept, List.length_cons] at room ⊢; omega),
      isNullAt_nullStep inside]
    rcases Nat.lt_trichotomy j k with before | same | after
    · have notFrom : ¬ k ≤ j := by omega
      have notAfter : ¬ k + 1 ≤ j := by omega
      simp [notFrom, notAfter, Nat.ne_of_lt before]
    · subst same
      simp
    · have index : j - k = (j - (k + 1)) + 1 := by omega
      simp [index, Nat.ne_of_gt after, Nat.le_of_lt after, show k + 1 ≤ j by omega]

theorem length_computeNullBitmap (t : Tuple) :
    t.computeNullBitmap.length = t.schema.nullBitmapSize := by
  rw [computeNullBitmap]
  apply IndexLoops.foldl_keeps (fun bitmap : List UInt8 => bitmap.length = t.schema.nullBitmapSize)
  · intro bitmap entry _ sized
    split_ifs <;> simp [sized]
  · simp

theorem isNullAt_computeNullBitmap {t : Tuple} (sized : t.values.length = t.schema.columnCount)
    {j : Nat} {value : Value} (at_ : t.values[j]? = some value) :
    isNullAt t.computeNullBitmap j = value.isNull := by
  have room : 0 + t.values.length ≤ 8 * (List.replicate t.schema.nullBitmapSize (0 : UInt8)).length := by
    rw [List.length_replicate, t.schema.nullBitmapSize_eq, sized, Schema.columnCount]
    omega
  have zero : isNullAt (List.replicate t.schema.nullBitmapSize 0) j = false := by
    have byte : (List.replicate t.schema.nullBitmapSize (0 : UInt8)).getD (j / 8) 0 = 0 := by simp
    rw [isNullAt_eq_taken, byte]
    simp [Bitmap.taken]
  rw [computeNullBitmap, isNullAt_foldl t.values 0 _ room j, zero, Nat.sub_zero, at_]
  simp

end Bitmap

section Regions

abbrev Entry := Nat × Column × Value

variable {bitmap : List UInt8} {stored : Column × Value → Value}

theorem sliceFrom_append (front rest : List UInt8) :
    sliceFrom (front ++ rest) front.length = some rest := by
  rw [sliceFrom, if_pos (by simp), List.drop_left]

theorem readFixed_serialized (entries : List Entry)
    (nulls : ∀ e ∈ entries, isNullAt bitmap e.1 = e.2.2.isNull)
    (reads : ∀ e ∈ entries, e.2.2.isNull = false → ∀ bytes,
      e.2.2.serialize e.2.1.dataType = some bytes → ∀ rest,
        Value.deserialize (bytes ++ rest) e.2.1.dataType = some (stored e.2, bytes.length))
    (nullStored : ∀ e ∈ entries, e.2.2.isNull = true → stored e.2 = .null) :
    ∀ (chunks : List (List UInt8)) (front back : List UInt8),
      ((entries.map Prod.snd).filter fun pair => pair.1.dataType.isFixedSize).mapM
          (fun pair => serializeColumn (fun dataType => List.replicate (dataType.fixedSize.getD 0) 0)
            pair.1 pair.2) = some chunks →
      readFixed (front ++ chunks.flatten ++ back) bitmap (entries.map fun e => (e.1, e.2.1))
          front.length =
        some (some ((entries.filter fun e => e.2.1.dataType.isFixedSize).map
          (fun e => (e.1, stored e.2)), front.length + chunks.flatten.length)) := by
  induction entries with
  | nil =>
    intro chunks front back written
    simp only [List.map_nil, List.filter_nil, List.mapM_nil, Option.pure_def,
      Option.some.injEq] at written
    subst written
    simp [readFixed]
  | cons e rest ih =>
    obtain ⟨i, column, value⟩ := e
    intro chunks front back written
    have restNulls := fun e member => nulls e (List.mem_cons_of_mem _ member)
    have restReads := fun e member => reads e (List.mem_cons_of_mem _ member)
    have restStored := fun e member => nullStored e (List.mem_cons_of_mem _ member)
    cases fixed : column.dataType.isFixedSize with
    | false =>
      simp only [List.map_cons, List.filter_cons, fixed, Bool.false_eq_true, if_false] at written ⊢
      rw [readFixed, if_neg (by simp [fixed])]
      exact ih restNulls restReads restStored chunks front back written
    | true =>
      simp only [List.map_cons, List.filter_cons, fixed, if_true, List.mapM_cons] at written ⊢
      simp only [Option.bind_eq_bind, Option.bind_eq_some_iff, Option.pure_def,
        Option.some.injEq] at written
      obtain ⟨chunk, first, more, others, rfl⟩ := written
      have shifted : front ++ (chunk :: more).flatten ++ back = (front ++ chunk) ++ more.flatten ++ back := by
        simp
      rw [shifted, readFixed, if_pos fixed]
      cases null : value.isNull with
      | true =>
        have filler : chunk = List.replicate (column.dataType.fixedSize.getD 0) 0 := by
          simpa [serializeColumn, null] using first.symm
        rw [if_pos ((nulls _ List.mem_cons_self).trans null)]
        have offset : front.length + column.dataType.fixedSize.getD 0 = (front ++ chunk).length := by
          simp [filler]
        rw [offset, ih restNulls restReads restStored more (front ++ chunk) back others,
          nullStored _ List.mem_cons_self null]
        simp [consValue, Nat.add_assoc]
      | false =>
        have encoded : value.serialize column.dataType = some chunk := by
          simpa [serializeColumn, null] using first
        rw [if_neg (by rw [nulls _ List.mem_cons_self, null]; decide)]
        have tail : sliceFrom (front ++ chunk ++ more.flatten ++ back) front.length =
            some (chunk ++ (more.flatten ++ back)) := by
          rw [List.append_assoc, List.append_assoc, sliceFrom_append]
        rw [tail, Option.bind_eq_bind, Option.bind_some,
          reads _ List.mem_cons_self null chunk encoded]
        dsimp only
        have offset : front.length + chunk.length = (front ++ chunk).length := by simp
        rw [offset, ih restNulls restReads restStored more (front ++ chunk) back others]
        simp [consValue, Nat.add_assoc]

theorem readVariable_serialized (entries : List Entry)
    (nulls : ∀ e ∈ entries, isNullAt bitmap e.1 = e.2.2.isNull)
    (reads : ∀ e ∈ entries, e.2.2.isNull = false → ∀ bytes,
      e.2.2.serialize e.2.1.dataType = some bytes → ∀ rest,
        Value.deserialize (bytes ++ rest) e.2.1.dataType = some (stored e.2, bytes.length))
    (nullStored : ∀ e ∈ entries, e.2.2.isNull = true → stored e.2 = .null) :
    ∀ (chunks : List (List UInt8)) (front back : List UInt8),
      ((entries.map Prod.snd).filter fun pair => !pair.1.dataType.isFixedSize).mapM
          (fun pair => serializeColumn (fun _ => leBytes 2 0) pair.1 pair.2) = some chunks →
      readVariable (front ++ chunks.flatten ++ back) bitmap (entries.map fun e => (e.1, e.2.1))
          front.length =
        some (some ((entries.filter fun e => !e.2.1.dataType.isFixedSize).map
          (fun e => (e.1, stored e.2)), front.length + chunks.flatten.length)) := by
  induction entries with
  | nil =>
    intro chunks front back written
    simp only [List.map_nil, List.filter_nil, List.mapM_nil, Option.pure_def,
      Option.some.injEq] at written
    subst written
    simp [readVariable]
  | cons e rest ih =>
    obtain ⟨i, column, value⟩ := e
    intro chunks front back written
    have restNulls := fun e member => nulls e (List.mem_cons_of_mem _ member)
    have restReads := fun e member => reads e (List.mem_cons_of_mem _ member)
    have restStored := fun e member => nullStored e (List.mem_cons_of_mem _ member)
    cases fixed : column.dataType.isFixedSize with
    | true =>
      simp only [List.map_cons, List.filter_cons, fixed, Bool.not_true, Bool.false_eq_true,
        if_false] at written ⊢
      rw [readVariable, if_neg (by simp [fixed])]
      exact ih restNulls restReads restStored chunks front back written
    | false =>
      simp only [List.map_cons, List.filter_cons, fixed, Bool.not_false, if_true,
        List.mapM_cons] at written ⊢
      simp only [Option.bind_eq_bind, Option.bind_eq_some_iff, Option.pure_def,
        Option.some.injEq] at written
      obtain ⟨chunk, first, more, others, rfl⟩ := written
      have shifted : front ++ (chunk :: more).flatten ++ back =
          (front ++ chunk) ++ more.flatten ++ back := by
        simp
      rw [shifted, readVariable, if_pos (by simp [fixed])]
      cases null : value.isNull with
      | true =>
        have filler : chunk = leBytes 2 0 := by
          simpa [serializeColumn, null] using first.symm
        rw [if_pos ((nulls _ List.mem_cons_self).trans null)]
        have room : ¬ (front ++ chunk ++ more.flatten ++ back).length < front.length + 2 := by
          simp only [List.length_append, filler, length_leBytes]
          omega
        have zeroLength : ofLeBytes (((front ++ chunk ++ more.flatten ++ back).drop
            front.length).take 2) = 0 := by
          rw [List.append_assoc, List.append_assoc, List.drop_left, filler,
            ofLeBytes_take_leBytes (by decide)]
        rw [if_neg room, if_neg (by rw [zeroLength]; decide)]
        have offset : front.length + 2 = (front ++ chunk).length := by simp [filler]
        rw [offset, ih restNulls restReads restStored more (front ++ chunk) back others,
          nullStored _ List.mem_cons_self null]
        simp [consValue, Nat.add_assoc]
      | false =>
        have encoded : value.serialize column.dataType = some chunk := by
          simpa [serializeColumn, null] using first
        rw [if_neg (by rw [nulls _ List.mem_cons_self, null]; decide)]
        have tail : sliceFrom (front ++ chunk ++ more.flatten ++ back) front.length =
            some (chunk ++ (more.flatten ++ back)) := by
          rw [List.append_assoc, List.append_assoc, sliceFrom_append]
        rw [tail, Option.bind_eq_bind, Option.bind_some,
          reads _ List.mem_cons_self null chunk encoded]
        dsimp only
        have offset : front.length + chunk.length = (front ++ chunk).length := by simp
        rw [offset, ih restNulls restReads restStored more (front ++ chunk) back others]
        simp [consValue, Nat.add_assoc]

end Regions

section RoundTrip

theorem eq_null_of_isNull {value : Value} (null : value.isNull = true) : value = .null := by
  cases value <;> simp [Value.isNull] at null ⊢

theorem entries_spec (columns : List Column) (values : List Value)
    (sized : columns.length ≤ values.length) :
    let entries : List Entry := (columns.zip values).zipIdx.map fun p => (p.2, p.1)
    entries.map Prod.snd = columns.zip values ∧
      entries.map Prod.fst = List.range' 0 (columns.zip values).length ∧
      (entries.map fun e => (e.1, e.2.1)) = columns.zipIdx.map (fun entry => (entry.2, entry.1)) ∧
      ∀ e ∈ entries, (columns.zip values)[e.1]? = some e.2 := by
  intro entries
  refine ⟨?_, ?_, ?_, ?_⟩
  · simp only [entries, List.map_map]
    rw [List.zipIdx_eq_zip_range']
    exact List.map_fst_zip (by simp)
  · simp only [entries, List.map_map]
    rw [List.zipIdx_eq_zip_range']
    exact List.map_snd_zip (by simp)
  · have firsts : (columns.zip values).map Prod.fst = columns := List.map_fst_zip sized
    conv => rhs; rw [← firsts, List.zipIdx_map, List.map_map]
    simp only [entries, List.map_map]
    rfl
  · intro e member
    obtain ⟨p, inZipIdx, rfl⟩ := List.mem_map.mp member
    exact List.mem_zipIdx_iff_getElem?.mp inZipIdx

theorem mergeSort_regions {entries : List Entry} {n : Nat}
    (indices : entries.map Prod.fst = List.range' 0 n) (fixed : Entry → Bool) (g : Entry → Value) :
    ((entries.filter fixed).map (fun e => (e.1, g e)) ++
      (entries.filter fun e => !fixed e).map (fun e => (e.1, g e))).mergeSort
        (fun a b => decide (a.1 ≤ b.1)) = entries.map fun e => (e.1, g e) := by
  apply KeyedList.mergeSort_eq_of_perm
  · rw [← List.map_append]
    exact (List.filter_append_perm _ entries).map _
  · rw [KeyedList.NodupKeys, List.map_map]
    show (entries.map Prod.fst).Nodup
    rw [indices]
    exact List.nodup_range'
  · have ordered : (entries.map Prod.fst).Pairwise (· ≤ ·) := by
      rw [indices]
      exact (List.pairwise_lt_range' (s := 0) (n := n)).imp Nat.le_of_lt
    rw [List.pairwise_map]
    exact List.pairwise_map.mp ordered

/-- `from_bytes` reads back what `to_bytes` writes, for tuples with no floating-point value and no
`Char(n)` value ending in white space. -/
theorem fromBytes_toBytes {t : Tuple} {bytes : List UInt8}
    (sized : t.values.length = t.schema.columnCount)
    (restorable : ∀ pair ∈ t.schema.columns.zip t.values,
      pair.2.restorable pair.1.dataType = true)
    (encoded : t.toBytes = some bytes) :
    ∃ values, (t.schema.columns.zip t.values).mapM (fun pair => pair.2.cast pair.1.dataType) =
      some values ∧ fromBytes t.schema bytes = some (some ⟨t.schema, values⟩) := by
  simp only [toBytes, serializeValues, Option.bind_eq_bind, Option.bind_eq_some_iff,
    Option.pure_def, Option.some.injEq] at encoded
  obtain ⟨fixedChunks, fixedWritten, variableChunks, variableWritten, rfl⟩ := encoded
  let pairs := t.schema.columns.zip t.values
  let stored : Column × Value → Value := fun pair => (pair.2.cast pair.1.dataType).getD .null
  have reads : ∀ pair ∈ pairs, pair.2.isNull = false → ∀ bytes,
      pair.2.serialize pair.1.dataType = some bytes → ∀ rest,
        Value.deserialize (bytes ++ rest) pair.1.dataType = some (stored pair, bytes.length) := by
    intro pair member present bytes written rest
    obtain ⟨value, cast, read⟩ :=
      Value.deserialize_serialize_append (restorable pair member) present written rest
    simp only [stored, cast, Option.getD_some]
    exact read
  have storedNull : ∀ pair : Column × Value, pair.2.isNull = true → stored pair = .null := by
    intro pair null
    simp only [stored]
    rw [eq_null_of_isNull null]
    rfl
  have casts : ∀ pair ∈ pairs, pair.2.cast pair.1.dataType = some (stored pair) := by
    intro pair member
    cases null : pair.2.isNull with
    | true =>
      rw [storedNull pair null, eq_null_of_isNull null]
      rfl
    | false =>
      obtain ⟨bytes, written⟩ : ∃ bytes, pair.2.serialize pair.1.dataType = some bytes := by
        cases fixed : pair.1.dataType.isFixedSize with
        | true =>
          obtain ⟨bytes, written⟩ := IndexLoops.exists_of_mapM_eq_some fixedWritten pair
            (List.mem_filter.2 ⟨member, fixed⟩)
          exact ⟨bytes, by simpa [serializeColumn, null] using written⟩
        | false =>
          obtain ⟨bytes, written⟩ := IndexLoops.exists_of_mapM_eq_some variableWritten pair
            (List.mem_filter.2 ⟨member, by simp [fixed]⟩)
          exact ⟨bytes, by simpa [serializeColumn, null] using written⟩
      obtain ⟨value, cast, -⟩ :=
        Value.deserialize_serialize_append (restorable pair member) null written []
      simp only [stored, cast, Option.getD_some]
  obtain ⟨snds, indices, columnsAt, at_⟩ :=
    entries_spec t.schema.columns t.values (by rw [sized]; rfl)
  set entries : List Entry := pairs.zipIdx.map fun p => (p.2, p.1) with entriesEq
  have nulls : ∀ e ∈ entries, isNullAt t.computeNullBitmap e.1 = e.2.2.isNull := fun e member =>
    isNullAt_computeNullBitmap sized (List.getElem?_zip_eq_some.mp (at_ e member)).2
  have entryReads := fun e member => reads e.2 (List.mem_of_getElem? (at_ e member))
  have nullStored : ∀ e ∈ entries, e.2.2.isNull = true → stored e.2 = .null :=
    fun e _ null => storedNull e.2 null
  have fixedRead := readFixed_serialized entries nulls entryReads nullStored
    fixedChunks t.computeNullBitmap variableChunks.flatten (by rw [snds]; exact fixedWritten)
  have variableRead := readVariable_serialized entries nulls entryReads
    nullStored variableChunks (t.computeNullBitmap ++ fixedChunks.flatten) []
    (by rw [snds]; exact variableWritten)
  rw [List.append_nil, List.length_append] at variableRead
  refine ⟨pairs.map stored, IndexLoops.mapM_eq_some_map casts, ?_⟩
  have bitmapSize := length_computeNullBitmap t
  have takeBitmap : (t.computeNullBitmap ++ fixedChunks.flatten ++ variableChunks.flatten).take
      t.schema.nullBitmapSize = t.computeNullBitmap := by
    rw [List.append_assoc, List.take_left' bitmapSize]
  simp only [fromBytes, deserializeValues]
  rw [if_neg (by simp [bitmapSize]), takeBitmap, ← columnsAt, ← bitmapSize, fixedRead,
    Option.bind_eq_bind, Option.bind_some]
  dsimp only
  rw [variableRead, Option.bind_some]
  dsimp only
  -- the two lists of values, sorted by column index, are the values in column order
  rw [mergeSort_regions indices, List.map_map, Option.pure_def, Option.map_some, Option.map_some]
  have values : List.map (Prod.snd ∘ fun e => (e.1, stored e.2)) entries = pairs.map stored := by
    show List.map (stored ∘ Prod.snd) entries = _
    rw [← List.map_map, snds]
  rw [values]

def mixedRow : Tuple :=
  ⟨Schema.new [Column.new "id" .integer false, Column.new "name" (.varChar 10) true,
    Column.new "code" (.char 3) false], [.integer 7, .null, .string "ab"]⟩

theorem fromBytes_toBytes_mixedRow :
    ∃ values, (mixedRow.schema.columns.zip mixedRow.values).mapM
        (fun pair => pair.2.cast pair.1.dataType) = some values ∧
      fromBytes mixedRow.schema [2, 7, 0, 0, 0, 0x61, 0x62, 0x20, 0, 0] =
        some (some ⟨mixedRow.schema, values⟩) :=
  fromBytes_toBytes rfl (by decide) (by decide)

end RoundTrip

end Tuple

end Crio
