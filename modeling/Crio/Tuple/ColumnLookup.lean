import Crio.Tuple.Tuple
import Crio.Lib.KeyedList
import Crio.Lib.IndexLoops

/-!
Columns looked up by position and by name, and projections, of `src/tuple/schema.rs` and
`src/tuple/tuple.rs`.
-/

namespace Crio

namespace Schema

def nameToIndex (schema : Schema) : String → Option Nat :=
  schema.columns.zipIdx.foldl (fun index entry => Function.update index entry.1.name (some entry.2))
    fun _ => none

def column (schema : Schema) (index : Nat) : Option Column := schema.columns[index]?

def columnByName (schema : Schema) (name : String) : Option Column :=
  (schema.nameToIndex name).bind schema.column

def columnIndex (schema : Schema) (name : String) : Option Nat := schema.nameToIndex name

def project (schema : Schema) (columnIndices : List Nat) : Option Schema :=
  (columnIndices.mapM schema.column).map Schema.new

def projectByName (schema : Schema) (columnNames : List String) : Option Schema :=
  (columnNames.mapM schema.columnIndex).bind schema.project

theorem nameToIndex_eq (schema : Schema) (name : String) :
    schema.nameToIndex name =
      (KeyedList.find (fun entry : Column × Nat => entry.1.name) schema.columns.zipIdx.reverse
        name).map Prod.snd := by
  rw [nameToIndex, KeyedList.foldl_update_apply, Option.or_none]

/-- `column_index` finds the last column of the name. -/
theorem columnIndex_eq_some_iff {schema : Schema} {name : String} {i : Nat} :
    schema.columnIndex name = some i ↔
      (∃ col, schema.columns[i]? = some col ∧ col.name = name) ∧
        ∀ (j : Nat) col, i < j → schema.columns[j]? = some col → col.name ≠ name := by
  rw [columnIndex, nameToIndex_eq, Option.map_eq_some_iff]
  constructor
  · rintro ⟨entry, found, rfl⟩
    obtain ⟨p, atP, named, after⟩ := KeyedList.find_reverse_eq_some_iff.mp found
    rw [List.getElem?_zipIdx, Option.map_eq_some_iff] at atP
    obtain ⟨col, atCol, rfl⟩ := atP
    refine ⟨⟨col, by simpa using atCol, named⟩, fun j other later atJ => ?_⟩
    exact after j (other, j) (by simpa using later) (by simp [List.getElem?_zipIdx, atJ])
  · rintro ⟨⟨col, atCol, named⟩, after⟩
    refine ⟨(col, i), KeyedList.find_reverse_eq_some_iff.mpr ⟨i, ?_, named, ?_⟩, rfl⟩
    · simp [List.getElem?_zipIdx, atCol]
    · intro j entry later atJ
      rw [List.getElem?_zipIdx, Option.map_eq_some_iff] at atJ
      obtain ⟨other, atOther, rfl⟩ := atJ
      exact after j other later atOther

theorem columnIndex_eq_none_iff {schema : Schema} {name : String} :
    schema.columnIndex name = none ↔ ∀ col ∈ schema.columns, col.name ≠ name := by
  rw [columnIndex, nameToIndex_eq, Option.map_eq_none_iff, KeyedList.find_eq_none_iff]
  simp [List.mem_map, List.mem_zipIdx_iff_getElem?]
  constructor
  · intro missing col member named
    obtain ⟨i, atI⟩ := List.getElem?_of_mem member
    exact missing col i atI named
  · intro missing col i atI named
    exact missing col (List.mem_of_getElem? atI) named

theorem columnIndex_of_nodup {schema : Schema} (distinct : (schema.columns.map Column.name).Nodup)
    {i : Nat} {col : Column} (atCol : schema.columns[i]? = some col) :
    schema.columnIndex col.name = some i := by
  refine columnIndex_eq_some_iff.mpr ⟨⟨col, atCol, rfl⟩, fun j other later atJ named => ?_⟩
  obtain ⟨insideJ, readJ⟩ := List.getElem?_eq_some_iff.mp atJ
  obtain ⟨insideI, readI⟩ := List.getElem?_eq_some_iff.mp atCol
  have samePlace : i = j := by
    have lenI : i < (schema.columns.map Column.name).length := by simpa using insideI
    have lenJ : j < (schema.columns.map Column.name).length := by simpa using insideJ
    have sameName : (schema.columns.map Column.name)[i] = (schema.columns.map Column.name)[j] := by
      simp [readI, readJ, named]
    exact distinct.getElem_inj_iff.mp sameName
  omega

theorem projectByName_eq_columnByName (schema : Schema) (columnNames : List String) :
    schema.projectByName columnNames = (columnNames.mapM schema.columnByName).map Schema.new := by
  have fused : columnNames.mapM schema.columnByName =
      (columnNames.mapM schema.columnIndex).bind fun indices => indices.mapM schema.column :=
    (IndexLoops.mapM_bind_mapM columnNames).symm
  rw [fused, Option.map_bind, projectByName]
  rfl

theorem columnByName_of_nodup {schema : Schema}
    (distinct : KeyedList.NodupKeys Column.name schema.columns) (name : String) :
    schema.columnByName name = KeyedList.find Column.name schema.columns name := by
  cases indexed : schema.columnIndex name with
  | none =>
    have missing := columnIndex_eq_none_iff.mp indexed
    have unnamed : name ∉ schema.columns.map Column.name := by
      simpa using fun col member named => missing col member named
    rw [columnByName, show schema.nameToIndex name = none from indexed,
      KeyedList.find_eq_none_iff.mpr unnamed]
    rfl
  | some i =>
    obtain ⟨⟨col, atCol, named⟩, _⟩ := columnIndex_eq_some_iff.mp indexed
    rw [columnByName, show schema.nameToIndex name = some i from indexed,
      (KeyedList.find_eq_some_iff distinct).mpr ⟨List.mem_of_getElem? atCol, named⟩]
    exact atCol

/-- With distinct names, `project_by_name` returns the columns of the names, in the order given. -/
theorem projectByName_eq_find {schema : Schema}
    (distinct : KeyedList.NodupKeys Column.name schema.columns) (columnNames : List String) :
    schema.projectByName columnNames =
      (columnNames.mapM (KeyedList.find Column.name schema.columns)).map Schema.new := by
  have found : schema.columnByName = KeyedList.find Column.name schema.columns :=
    funext (columnByName_of_nodup distinct)
  rw [projectByName_eq_columnByName, found]

def users : Schema :=
  new [Column.new "id" .integer false, Column.new "email" (.varChar 20) true,
    Column.new "age" .smallInt false]

theorem projectByName_eq_find_users :
    users.projectByName ["age", "id"] =
      (["age", "id"].mapM (KeyedList.find Column.name users.columns)).map Schema.new :=
  projectByName_eq_find (by unfold KeyedList.NodupKeys; decide) _

end Schema

namespace Tuple

def value (t : Tuple) (index : Nat) : Option Value := t.values[index]?

def valueByName (t : Tuple) (name : String) : Option Value :=
  (t.schema.columnIndex name).bind t.value

def setValue (t : Tuple) (index : Nat) (value : Value) : Bool × Tuple :=
  if index < t.values.length then (true, { t with values := t.values.set index value })
  else (false, t)

/-- `Tuple::new` of the projection panics unless there is a value per column. -/
def project (t : Tuple) (columnIndices : List Nat) : Option (Option Tuple) :=
  match t.schema.project columnIndices with
  | none => some none
  | some projectedSchema =>
    match columnIndices.mapM t.value with
    | none => some none
    | some projectedValues => (Tuple.new projectedSchema projectedValues).map some

def equalsOn (t other : Tuple) (columnIndices : List Nat) : Bool :=
  columnIndices.all fun i =>
    match t.value i, other.value i with
    | some a, some b => a == b
    | _, _ => false

def keyBytes (t : Tuple) (columnIndices : List Nat) : Option (List UInt8) := do
  let chunks ← columnIndices.mapM fun i => do
    let col ← t.schema.column i
    let value ← t.value i
    value.serialize col.dataType
  pure chunks.flatten

section Project

variable {columns : List Column} {values : List Value}

theorem mapM_getElem?_zip (sized : values.length = columns.length) :
    ∀ columnIndices : List Nat, (columnIndices.mapM fun i => (columns.zip values)[i]?) =
      (columnIndices.mapM fun i => columns[i]?).bind fun cols =>
        (columnIndices.mapM fun i => values[i]?).map fun vals => cols.zip vals
  | [] => rfl
  | i :: rest => by
    rw [List.mapM_cons, List.mapM_cons, List.mapM_cons, mapM_getElem?_zip sized rest]
    by_cases inside : i < columns.length
    · have atPair : (columns.zip values)[i]? = some (columns[i], values[i]) := by
        simp [inside, sized]
      rw [atPair, List.getElem?_eq_getElem inside, List.getElem?_eq_getElem (sized ▸ inside)]
      cases (rest.mapM fun i => columns[i]?) <;> cases (rest.mapM fun i => values[i]?) <;> rfl
    · have outside : columns.length ≤ i := Nat.le_of_not_lt inside
      have noPair : (columns.zip values)[i]? = none :=
        List.getElem?_eq_none (by simp [sized, outside])
      rw [noPair, List.getElem?_eq_none outside]
      rfl

/-- `Tuple::project` never panics, and selects the column and value pairs at the indices. -/
theorem project_eq_selected {t : Tuple} (sized : t.values.length = t.schema.columnCount)
    (columnIndices : List Nat) :
    t.project columnIndices =
      some ((columnIndices.mapM fun i => (t.schema.columns.zip t.values)[i]?).map fun pairs =>
        ⟨Schema.new (pairs.map Prod.fst), pairs.map Prod.snd⟩) := by
  rw [mapM_getElem?_zip sized, project, Schema.project]
  cases picked : columnIndices.mapM t.schema.column with
  | none =>
    have none : (columnIndices.mapM fun i => t.schema.columns[i]?) = none := picked
    rw [none]
    rfl
  | some cols =>
    have pickedAll : (columnIndices.mapM fun i => t.schema.columns[i]?) = some cols := picked
    rw [pickedAll]
    cases read : columnIndices.mapM t.value with
    | none =>
      have none : (columnIndices.mapM fun i => t.values[i]?) = none := read
      rw [none]
      rfl
    | some vals =>
      have readAll : (columnIndices.mapM fun i => t.values[i]?) = some vals := read
      have colsLength := (IndexLoops.forall₂_of_mapM_eq_some picked).length_eq
      have valsLength := (IndexLoops.forall₂_of_mapM_eq_some read).length_eq
      have fits : vals.length = (Schema.new cols).columnCount := by
        rw [Schema.columnCount_new]
        omega
      have firsts : (cols.zip vals).map Prod.fst = cols := List.map_fst_zip (by omega)
      have seconds : (cols.zip vals).map Prod.snd = vals := List.map_snd_zip (by omega)
      rw [readAll]
      simp only [Option.map_some, Option.bind_some, Tuple.new, if_pos fits, firsts, seconds]

def usersRow : Tuple := ⟨Schema.users, [.integer 1, .null, .smallInt 30]⟩

theorem project_eq_selected_usersRow :
    usersRow.project [2, 0] =
      some (([2, 0].mapM fun i => (usersRow.schema.columns.zip usersRow.values)[i]?).map
        fun pairs => ⟨Schema.new (pairs.map Prod.fst), pairs.map Prod.snd⟩) :=
  project_eq_selected (by decide) [2, 0]

end Project

end Tuple

end Crio
