import Crio.Tuple.Schema

/-!
The catalog encoding of `src/tuple/schema.rs` read back. The name's length and the column
count are written `as u16`, so the round trip holds below 65,536.
-/

namespace Crio

open ByteBuffer

theorem ofLeBytes_leBytes_two {v : Nat} (small : v < 2 ^ 16) : ofLeBytes (leBytes 2 v) = v :=
  ofLeBytes_leBytes_of_lt small

theorem ofLeBytes_take_leBytes_two {v : Nat} (small : v < 2 ^ 16) (rest : List UInt8) :
    ofLeBytes ((leBytes 2 v ++ rest).take 2) = v := by
  rw [List.take_left' (length_leBytes 2 v), ofLeBytes_leBytes_two small]

theorem toNat_toUInt16_of_lt {n : Nat} (small : n < 2 ^ 16) : n.toUInt16.toNat = n := by
  simpa using Nat.mod_eq_of_lt small

theorem asBytes_replicate (n : Nat) : asBytes (String.ofList (List.replicate n 'a')) = List.replicate n 97 := by
  rw [asBytes, String.toList_ofList]
  induction n with
  | zero => rfl
  | succ n ih => rw [List.replicate_succ, List.flatMap_cons, ih, List.replicate_succ]; rfl

namespace DataType

theorem deserialize_serialize_append (dataType : DataType) (rest : List UInt8) :
    deserialize (dataType.serialize ++ rest) = some (dataType, dataType.serialize.length) := by
  cases dataType with
  | char n => simp [serialize, deserialize, typeId, ofLeBytes_leBytes_two n.toNat_lt]
  | varChar n => simp [serialize, deserialize, typeId, ofLeBytes_leBytes_two n.toNat_lt]
  | _ => rfl

end DataType

namespace Column

theorem length_serialize (col : Column) :
    col.serialize.length = 2 + (asBytes col.name).length + col.dataType.serialize.length + 1 := by
  simp [serialize]
  omega

theorem deserialize_serialize_append (col : Column) (rest : List UInt8)
    (short : (asBytes col.name).length < 2 ^ 16) :
    deserialize (col.serialize ++ rest) = some ({ col with ordinal := 0 }, col.serialize.length) := by
  let nameLen := (asBytes col.name).length
  let flag : UInt8 := if col.nullable then 1 else 0
  have layout : col.serialize ++ rest =
      leBytes 2 nameLen ++ (asBytes col.name ++ (col.dataType.serialize ++ flag :: rest)) := by
    simp [serialize, nameLen, flag, toNat_toUInt16_of_lt short]
  have total : (col.serialize ++ rest).length =
      2 + nameLen + col.dataType.serialize.length + 1 + rest.length := by
    rw [List.length_append, length_serialize]
  have header : ofLeBytes ((col.serialize ++ rest).take 2) = nameLen := by
    rw [layout, ofLeBytes_take_leBytes_two short]
  have name : ((col.serialize ++ rest).drop 2).take nameLen = asBytes col.name := by
    rw [layout, List.drop_left' (length_leBytes 2 nameLen), List.take_left' rfl]
  have typeBytes : (col.serialize ++ rest).drop (2 + nameLen) =
      col.dataType.serialize ++ flag :: rest := by
    rw [layout, ← List.append_assoc, List.drop_left' (by simp [nameLen])]
  have flagAt : (col.serialize ++ rest).getD (2 + nameLen + col.dataType.serialize.length) 0 =
      flag := by
    rw [layout, ← List.append_assoc, ← List.append_assoc, List.getD_eq_getElem?_getD,
      List.getElem?_append_right (by simp only [List.length_append, length_leBytes]; omega),
      List.length_append, List.length_append, length_leBytes]
    simp [nameLen]
  have readFlag : (flag != 0) = col.nullable := by
    cases nullable : col.nullable <;> simp [flag, nullable]
  simp only [deserialize, header, name, typeBytes, DataType.deserialize_serialize_append,
    decodeLossy_asBytes, String.ofList_toList, flagAt, readFlag, total]
  rw [if_neg (by omega), if_neg (by omega), if_neg (by omega), length_serialize]

theorem le_length_of_deserialize {data : List UInt8} {col : Column} {size : Nat}
    (read : deserialize data = some (col, size)) : size ≤ data.length := by
  simp only [deserialize] at read
  split_ifs at read
  split at read
  · cases read
  · split_ifs at read
    cases read
    omega

theorem deserialize_serialize_of_wraps {col : Column} {lead : UInt8} {tail : List UInt8}
    (rest : List UInt8) (nameBytes : asBytes col.name = lead :: tail)
    (wraps : (tail.length + 1) % 2 ^ 16 = 0)
    (noType : ∀ more, DataType.deserialize (lead :: more) = none) :
    deserialize (col.serialize ++ rest) = none := by
  have written : (asBytes col.name).length.toUInt16.toNat = 0 := by
    rw [nameBytes]
    simpa using wraps
  let more := tail ++ (col.dataType.serialize ++ (if col.nullable then 1 else 0) :: rest)
  have layout : col.serialize ++ rest = [0, 0] ++ lead :: more := by
    simp only [serialize, written]
    rw [nameBytes]
    simp only [List.append_assoc, List.cons_append, more]
    rfl
  have long : ¬ (col.serialize ++ rest).length < 2 := by
    rw [layout]
    simp
  have header : ofLeBytes ((col.serialize ++ rest).take 2) = 0 := by
    rw [layout]
    rfl
  have afterHeader : (col.serialize ++ rest).drop 2 = lead :: more := by
    rw [layout]
    rfl
  simp only [deserialize, long, header, Nat.add_zero, afterHeader, noType, if_false]

end Column

namespace Schema

theorem deserializeColumns_flatMap_serialize (cols : List Column) (front rest : List UInt8)
    (short : ∀ col ∈ cols, (asBytes col.name).length < 2 ^ 16) :
    deserializeColumns (front ++ cols.flatMap Column.serialize ++ rest) cols.length front.length =
      some (cols.map fun col => { col with ordinal := 0 }) := by
  induction cols generalizing front with
  | nil => rfl
  | cons col cols ih =>
    have here : (front ++ (col :: cols).flatMap Column.serialize ++ rest).drop front.length =
        col.serialize ++ (cols.flatMap Column.serialize ++ rest) := by
      simp
    have regroup : front ++ (col :: cols).flatMap Column.serialize ++ rest =
        front ++ col.serialize ++ cols.flatMap Column.serialize ++ rest := by
      simp
    have later := ih (front ++ col.serialize) fun c member => short c (List.mem_cons_of_mem _ member)
    rw [List.length_cons, deserializeColumns, here,
      Column.deserialize_serialize_append col _ (short col List.mem_cons_self)]
    simp only
    rw [← List.length_append, regroup, later, Option.map_some, List.map_cons]

theorem new_map_ordinal (cols : List Column) :
    new (cols.map fun col => { col with ordinal := 0 }) = new cols := by
  have numbered : (cols.map fun col => { col with ordinal := 0 }).mapIdx
      (fun i col => { col with ordinal := i }) = cols.mapIdx fun i col => { col with ordinal := i } := by
    apply List.ext_getElem (by simp)
    intro i _ _
    simp
  simp only [new, numbered, List.length_map]

theorem map_ordinal_columns_new (cols : List Column) :
    (new cols).columns.map (fun col => { col with ordinal := 0 }) =
      cols.map fun col => { col with ordinal := 0 } := by
  apply List.ext_getElem (by simp [new])
  intro i _ _
  simp [new]

theorem length_columns_new (cols : List Column) : (new cols).columns.length = cols.length := by
  simp [new]

theorem name_of_mem_columns_new {cols : List Column} {col : Column}
    (member : col ∈ (new cols).columns) : ∃ c ∈ cols, col.name = c.name := by
  simp only [new, List.mem_mapIdx] at member
  obtain ⟨i, inside, rfl⟩ := member
  exact ⟨cols[i], List.getElem_mem inside, rfl⟩

theorem deserialize_serialize_of_wraps {cols : List Column} (wraps : cols.length % 2 ^ 16 = 0) :
    deserialize (new cols).serialize = some (new []) := by
  have written : (new cols).columns.length.toUInt16.toNat = 0 := by
    rw [length_columns_new]
    simpa using wraps
  have layout : (new cols).serialize = [0, 0] ++ (new cols).columns.flatMap Column.serialize := by
    rw [serialize, written]
    rfl
  rw [deserialize, layout, if_neg (by simp)]
  rfl

theorem deserialize_serialize_new (cols : List Column) (few : cols.length < 2 ^ 16)
    (short : ∀ col ∈ cols, (asBytes col.name).length < 2 ^ 16) :
    deserialize (new cols).serialize = some (new cols) := by
  have count := length_columns_new cols
  have layout : (new cols).serialize =
      leBytes 2 cols.length ++ (new cols).columns.flatMap Column.serialize ++ [] := by
    simp [serialize, count, toNat_toUInt16_of_lt few]
  have numberedShort : ∀ col ∈ (new cols).columns, (asBytes col.name).length < 2 ^ 16 := by
    intro col member
    obtain ⟨c, original, sameName⟩ := name_of_mem_columns_new member
    rw [sameName]
    exact short c original
  have loop := deserializeColumns_flatMap_serialize (new cols).columns (leBytes 2 cols.length) []
    numberedShort
  rw [count, length_leBytes, ← layout] at loop
  have long : ¬ (new cols).serialize.length < 2 := by
    rw [layout, List.length_append, List.length_append, length_leBytes]
    omega
  rw [deserialize, if_neg long, layout, List.append_assoc, ofLeBytes_take_leBytes_two few,
    ← List.append_assoc, ← layout, loop, Option.map_some, map_ordinal_columns_new, new_map_ordinal]

end Schema

/-- A schema of fewer than 65,536 columns, each named in fewer than 65,536 bytes, reads back as
itself. -/
theorem schema_codec_roundtrip :
    (∀ (col : Column) (rest : List UInt8), (asBytes col.name).length < 2 ^ 16 →
      Column.deserialize (col.serialize ++ rest) =
        some ({ col with ordinal := 0 }, col.serialize.length)) ∧
    (∀ cols : List Column, cols.length < 2 ^ 16 →
      (∀ col ∈ cols, (asBytes col.name).length < 2 ^ 16) →
      Schema.deserialize (Schema.new cols).serialize = some (Schema.new cols)) :=
  ⟨fun col rest short => Column.deserialize_serialize_append col rest short,
    fun cols few short => Schema.deserialize_serialize_new cols few short⟩

theorem schema_codec_roundtrip_users :
    Column.deserialize ((Column.new "email" (.varChar 200) true).serialize ++ [3]) =
        some (Column.new "email" (.varChar 200) true,
          (Column.new "email" (.varChar 200) true).serialize.length) ∧
    Schema.deserialize
        ((SchemaBuilder.new.column "id" .integer).nullableColumn "email" (.varChar 200)).build.serialize =
      some ((SchemaBuilder.new.column "id" .integer).nullableColumn "email" (.varChar 200)).build :=
  ⟨schema_codec_roundtrip.1 _ _ (by decide), schema_codec_roundtrip.2 _ (by decide) (by decide)⟩

/-- At 65,536 the `as u16` casts write a length of 0. -/
theorem schema_codec_wraps :
    Schema.deserialize (Schema.new (List.replicate 65536 (Column.new "" .boolean false))).serialize =
        some (Schema.new []) ∧
      Schema.new [] ≠ Schema.new (List.replicate 65536 (Column.new "" .boolean false)) ∧
      Column.deserialize
        (Column.new (String.ofList (List.replicate 65536 'a')) .boolean false).serialize = none := by
  refine ⟨?wrappedCount, ?differ, ?wrappedName⟩
  case wrappedCount =>
    have count : (List.replicate 65536 (Column.new "" .boolean false)).length = 2 ^ 16 :=
      List.length_replicate
    exact Schema.deserialize_serialize_of_wraps (by rw [count, Nat.mod_self])
  case differ =>
    intro same
    have counts := congrArg Schema.columnCount same
    rw [Schema.columnCount_new, Schema.columnCount_new, List.length_replicate,
      List.length_nil] at counts
    omega
  case wrappedName =>
    have nameBytes : asBytes (Column.new (String.ofList (List.replicate 65536 'a')) .boolean false).name =
        97 :: List.replicate 65535 97 := by
      rw [Column.new, asBytes_replicate, List.replicate_succ]
    have count : (List.replicate 65535 (97 : UInt8)).length + 1 = 2 ^ 16 :=
      congrArg (· + 1) List.length_replicate
    have wrapped := Column.deserialize_serialize_of_wraps [] nameBytes
      (by rw [count, Nat.mod_self]) fun _ => rfl
    rw [List.append_nil] at wrapped
    exact wrapped

end Crio
