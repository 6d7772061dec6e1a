import Crio.Storage.Page.DirectoryPage
import Crio.Lib.KeyedList
import Crio.Lib.Reachability

/-!
The directory's table entries read as a finite map from table id to first page and page
count. A run is any sequence of the three table operations from `DirectoryPage::init`.
-/

namespace Crio

namespace DirectoryPage

open ByteBuffer

def entryAt (data : PageData) (i : Nat) : TableEntry :=
  ⟨getU32 data (tableEntryOffset i), PageId.new (getU32 data (tableEntryOffset i + 4)),
    getU32 data (tableEntryOffset i + 8)⟩

def entries (data : PageData) : List TableEntry :=
  (List.range (tableCount data).toNat).map (entryAt data)

def writeEntry (data : PageData) (i : Nat) (entry : TableEntry) : PageData :=
  setU32 (setU32 (setU32 data (tableEntryOffset i) entry.tableId) (tableEntryOffset i + 4)
    entry.firstPageId.asU32) (tableEntryOffset i + 8) entry.pageCount

def tables (data : PageData) (tableId : UInt32) : Option (PageId × UInt32) :=
  (KeyedList.find TableEntry.tableId (entries data) tableId).map
    fun entry => (entry.firstPageId, entry.pageCount)

structure Wellformed (data : PageData) : Prop where
  count_le : (tableCount data).toNat ≤ maxTables
  distinct : KeyedList.NodupKeys TableEntry.tableId (entries data)

structure HeaderKept (data data' : PageData) : Prop where
  magic : magic data' = magic data
  version : readVersion data' = readVersion data
  pageCount : pageCount data' = pageCount data
  freePageListHead : freePageListHead data' = freePageListHead data

theorem maxTables_eq : maxTables = 339 := rfl

@[simp] theorem length_entries (data : PageData) :
    (entries data).length = (tableCount data).toNat := by
  simp [entries]

theorem getElem?_entries (data : PageData) {i : Nat} (inside : i < (tableCount data).toNat) :
    (entries data)[i]? = some (entryAt data i) := by
  simp [entries, inside]

theorem entry_fits {i : Nat} (below : i < maxTables) : tableEntryOffset i + 12 ≤ pageSize := by
  rw [maxTables_eq] at below
  unfold tableEntryOffset tableEntriesOffset tableEntrySize pageSize
  omega

section Writes

variable (data : PageData)

theorem headerKept_refl : HeaderKept data data := ⟨rfl, rfl, rfl, rfl⟩

theorem HeaderKept.trans {data' data'' : PageData} (first : HeaderKept data data')
    (second : HeaderKept data' data'') : HeaderKept data data'' :=
  ⟨second.magic.trans first.magic, second.version.trans first.version,
    second.pageCount.trans first.pageCount, second.freePageListHead.trans first.freePageListHead⟩

theorem headerKept_setU32 {off : Nat} (v : UInt32) (above : tableCountOffset ≤ off) :
    HeaderKept data (setU32 data off v) := by
  unfold tableCountOffset at above
  refine ⟨?_, ?_, ?_, ?_⟩
  · exact getU32_setU32_disjoint _ _ (by unfold magicOffset; omega)
  · exact getU32_setU32_disjoint _ _ (by unfold versionOffset; omega)
  · exact getU32_setU32_disjoint _ _ (by unfold pageCountOffset; omega)
  · simp only [freePageListHead]
    rw [getU32_setU32_disjoint _ _ (by unfold freePageListHeadOffset; omega)]

theorem entryAt_setU32 {off : Nat} (v : UInt32) {j : Nat}
    (apart : off + 4 ≤ tableEntryOffset j ∨ tableEntryOffset j + 12 ≤ off) :
    entryAt (setU32 data off v) j = entryAt data j := by
  simp only [entryAt]
  rw [getU32_setU32_disjoint _ _ (by omega), getU32_setU32_disjoint _ _ (by omega),
    getU32_setU32_disjoint _ _ (by omega)]

theorem tableCount_setTableCount (count : UInt32) : tableCount (setTableCount data count) = count :=
  getU32_setU32_same _ _ (by unfold tableCountOffset pageSize; omega)

theorem toNat_tableCount_setTableCount {count : Nat} (bounded : count ≤ maxTables) :
    (tableCount (setTableCount data count.toUInt32)).toNat = count := by
  rw [maxTables_eq] at bounded
  rw [tableCount_setTableCount]
  simp only [Nat.toUInt32_eq, UInt32.toNat_ofNat']
  omega

theorem entryAt_setTableCount (count : UInt32) (j : Nat) :
    entryAt (setTableCount data count) j = entryAt data j :=
  entryAt_setU32 _ _ (by unfold tableCountOffset tableEntryOffset tableEntriesOffset; omega)

theorem headerKept_setTableCount (count : UInt32) : HeaderKept data (setTableCount data count) :=
  headerKept_setU32 _ _ le_rfl

theorem tableCount_writeEntry (i : Nat) (entry : TableEntry) :
    tableCount (writeEntry data i entry) = tableCount data := by
  have above : tableCountOffset + 4 ≤ tableEntryOffset i := by
    unfold tableCountOffset tableEntryOffset tableEntriesOffset
    omega
  simp only [tableCount, writeEntry]
  rw [getU32_setU32_disjoint _ _ (by omega), getU32_setU32_disjoint _ _ (by omega),
    getU32_setU32_disjoint _ _ (by omega)]

theorem headerKept_writeEntry (i : Nat) (entry : TableEntry) :
    HeaderKept data (writeEntry data i entry) := by
  have above : tableCountOffset ≤ tableEntryOffset i := by
    unfold tableCountOffset tableEntryOffset tableEntriesOffset
    omega
  exact ((headerKept_setU32 _ _ above).trans _ (headerKept_setU32 _ _ (by omega))).trans _
    (headerKept_setU32 _ _ (by omega))

theorem entryAt_writeEntry_same {i : Nat} (entry : TableEntry) (below : i < maxTables) :
    entryAt (writeEntry data i entry) i = entry := by
  have fits := entry_fits below
  simp only [entryAt, writeEntry]
  rw [getU32_setU32_disjoint _ _ (by omega), getU32_setU32_disjoint _ _ (by omega),
    getU32_setU32_same _ _ (by omega), getU32_setU32_disjoint _ _ (by omega),
    getU32_setU32_same _ _ (by omega), getU32_setU32_same _ _ (by omega)]
  rfl

theorem entryAt_writeEntry_other {i j : Nat} (entry : TableEntry) (other : j ≠ i) :
    entryAt (writeEntry data i entry) j = entryAt data j := by
  have apart : tableEntryOffset i + 12 ≤ tableEntryOffset j ∨
      tableEntryOffset j + 12 ≤ tableEntryOffset i := by
    unfold tableEntryOffset tableEntriesOffset tableEntrySize
    omega
  simp only [writeEntry]
  rw [entryAt_setU32 _ _ (by omega), entryAt_setU32 _ _ (by omega),
    entryAt_setU32 _ _ (by omega)]

end Writes

theorem readU32_of_fits (data : PageData) {offset : Nat} (fits : offset + 4 ≤ pageSize) :
    readU32 data offset = some (getU32 data offset) := by
  simp only [readU32, slice_of_le data fits, Option.map_some]
  rfl

theorem getTableEntry_of_ge (data : PageData) {i : Nat} (past : (tableCount data).toNat ≤ i) :
    getTableEntry data i = some none := by
  simp [getTableEntry, past]

theorem getTableEntry_of_lt (data : PageData) {i : Nat} (counted : i < (tableCount data).toNat)
    (below : i < maxTables) : getTableEntry data i = some (some (entryAt data i)) := by
  have fits := entry_fits below
  simp only [getTableEntry, show ¬ i ≥ (tableCount data).toNat by omega, if_false,
    readU32_of_fits data (show tableEntryOffset i + 4 ≤ pageSize by omega),
    readU32_of_fits data (show tableEntryOffset i + 4 + 4 ≤ pageSize by omega),
    readU32_of_fits data (show tableEntryOffset i + 8 + 4 ≤ pageSize by omega),
    Option.bind_eq_bind, Option.bind_some]
  rfl

theorem setTableEntry_of_lt (data : PageData) {i : Nat} (entry : TableEntry)
    (below : i < maxTables) : setTableEntry data i entry = some (writeEntry data i entry) := by
  have fits := entry_fits below
  simp only [setTableEntry,
    copyFrom_of_le data (show tableEntryOffset i + (leBytes 4 entry.tableId.toNat).length ≤ pageSize
      by simp only [length_leBytes]; omega),
    Option.bind_eq_bind, Option.bind_some,
    copyFrom_of_le _ (show tableEntryOffset i + 4 + (leBytes 4 entry.firstPageId.asU32.toNat).length
      ≤ pageSize by simp only [length_leBytes]; omega),
    copyFrom_of_le _ (show tableEntryOffset i + 8 + (leBytes 4 entry.pageCount.toNat).length
      ≤ pageSize by simp only [length_leBytes]; omega)]
  rfl

section Loops

variable (data : PageData) (bounded : (tableCount data).toNat ≤ maxTables)

include bounded

theorem findTableIn_eq (tableId : UInt32) :
    ∀ indices : List Nat, (∀ i ∈ indices, i < (tableCount data).toNat) →
      findTableIn data tableId indices =
        some (KeyedList.find TableEntry.tableId (indices.map (entryAt data)) tableId)
  | [], _ => rfl
  | i :: rest, inside => by
    have here := inside i List.mem_cons_self
    have later := findTableIn_eq tableId rest fun j member => inside j (List.mem_cons_of_mem _ member)
    simp only [findTableIn, getTableEntry_of_lt data here (by omega), List.map_cons,
      KeyedList.find_cons]
    by_cases same : (entryAt data i).tableId = tableId
    · simp [same]
    · simp [same, later]

theorem refFindTableIn_eq (tableId : UInt32) :
    ∀ indices : List Nat, (∀ i ∈ indices, i < (tableCount data).toNat) →
      refFindTableIn data tableId indices =
        some (KeyedList.find TableEntry.tableId (indices.map (entryAt data)) tableId)
  | [], _ => rfl
  | i :: rest, inside => by
    have here := inside i List.mem_cons_self
    have later :=
      refFindTableIn_eq tableId rest fun j member => inside j (List.mem_cons_of_mem _ member)
    have fits := entry_fits (i := i) (by omega)
    have offset : tableEntriesOffset + i * tableEntrySize = tableEntryOffset i := rfl
    simp only [refFindTableIn, offset,
      readU32_of_fits data (show tableEntryOffset i + 4 ≤ pageSize by omega),
      readU32_of_fits data (show tableEntryOffset i + 4 + 4 ≤ pageSize by omega),
      readU32_of_fits data (show tableEntryOffset i + 8 + 4 ≤ pageSize by omega),
      Option.bind_eq_bind, Option.bind_some, List.map_cons, KeyedList.find_cons]
    by_cases same : (entryAt data i).tableId = tableId
    · have readId : getU32 data (tableEntryOffset i) = tableId := same
      simp only [readId, if_true, same]
      rw [← same]
      rfl
    · have readId : getU32 data (tableEntryOffset i) ≠ tableId := same
      simp only [readId, if_false, same]
      exact later

theorem allTablesIn_eq :
    ∀ indices : List Nat, (∀ i ∈ indices, i < (tableCount data).toNat) →
      allTablesIn data indices = some (indices.map (entryAt data))
  | [], _ => rfl
  | i :: rest, inside => by
    have here := inside i List.mem_cons_self
    have later := allTablesIn_eq rest fun j member => inside j (List.mem_cons_of_mem _ member)
    simp [allTablesIn, getTableEntry_of_lt data here (by omega), later]

theorem updateTablePageCountIn_eq (tableId pageCount : UInt32) :
    ∀ indices : List Nat, (∀ i ∈ indices, i < (tableCount data).toNat) →
      updateTablePageCountIn data tableId pageCount indices =
        match indices.find? fun i => (entryAt data i).tableId = tableId with
        | none => some (.error (.tableNotFound tableId), data)
        | some i => some (.ok (), writeEntry data i { entryAt data i with pageCount })
  | [], _ => rfl
  | i :: rest, inside => by
    have here := inside i List.mem_cons_self
    have later := updateTablePageCountIn_eq tableId pageCount rest
      fun j member => inside j (List.mem_cons_of_mem _ member)
    simp only [updateTablePageCountIn, getTableEntry_of_lt data here (by omega)]
    by_cases same : (entryAt data i).tableId = tableId
    · simp [same, setTableEntry_of_lt data _ (show i < maxTables by omega)]
    · simp [same, later]

theorem removeTableIn_eq (tableId : UInt32) :
    ∀ indices : List Nat, (∀ i ∈ indices, i < (tableCount data).toNat) →
      removeTableIn data tableId (tableCount data).toNat indices =
        match indices.find? fun i => (entryAt data i).tableId = tableId with
        | none => some (.error (.tableNotFound tableId), data)
        | some i => some (.ok (entryAt data i), setTableCount
            (if i < (tableCount data).toNat - 1 then
              writeEntry data i (entryAt data ((tableCount data).toNat - 1))
            else data) ((tableCount data).toNat - 1).toUInt32)
  | [], _ => rfl
  | i :: rest, inside => by
    have here := inside i List.mem_cons_self
    have later := removeTableIn_eq tableId rest fun j member => inside j (List.mem_cons_of_mem _ member)
    simp only [removeTableIn, getTableEntry_of_lt data here (by omega)]
    by_cases same : (entryAt data i).tableId = tableId
    · have last := getTableEntry_of_lt data (i := (tableCount data).toNat - 1) (by omega)
        (by omega)
      by_cases moves : i < (tableCount data).toNat - 1
      · simp [same, moves, last, setTableEntry_of_lt data _ (show i < maxTables by omega)]
      · simp [same, moves]
    · simp [same, later]

end Loops

section Entries

variable (data : PageData)

theorem entries_setTableCount {count : Nat} (bounded : count ≤ maxTables) :
    entries (setTableCount data count.toUInt32) = (List.range count).map (entryAt data) := by
  simp only [entries, toNat_tableCount_setTableCount data bounded]
  exact List.map_congr_left fun j _ => entryAt_setTableCount data _ j

theorem entries_writeEntry {i : Nat} (entry : TableEntry) (below : i < maxTables) :
    entries (writeEntry data i entry) = (entries data).set i entry := by
  apply List.ext_getElem (by simp [tableCount_writeEntry])
  intro j _ _
  simp only [entries, tableCount_writeEntry, List.getElem_map, List.getElem_range,
    List.getElem_set]
  by_cases same : i = j
  · subst same
    simp [entryAt_writeEntry_same data entry below]
  · simp [same, entryAt_writeEntry_other data entry (Ne.symm same)]

theorem entries_register (entry : TableEntry) (room : (tableCount data).toNat < maxTables) :
    entries (setTableCount (writeEntry data (tableCount data).toNat entry)
      ((tableCount data).toNat + 1).toUInt32) = entries data ++ [entry] := by
  rw [entries_setTableCount _ room, List.range_succ,
    List.map_append, List.map_singleton, entryAt_writeEntry_same data entry room]
  congr 1
  apply List.map_congr_left
  intro j member
  exact entryAt_writeEntry_other data entry (Nat.ne_of_lt (List.mem_range.mp member))

theorem entries_remove {i : Nat} (inside : i < (tableCount data).toNat)
    (bounded : (tableCount data).toNat ≤ maxTables) :
    entries (setTableCount
      (if i < (tableCount data).toNat - 1 then
        writeEntry data i (entryAt data ((tableCount data).toNat - 1))
      else data) ((tableCount data).toNat - 1).toUInt32) =
      ((entries data).set i (entryAt data ((tableCount data).toNat - 1))).take
        ((tableCount data).toNat - 1) := by
  have shrunk : (tableCount data).toNat - 1 ≤ maxTables := (Nat.sub_le _ 1).trans bounded
  by_cases moves : i < (tableCount data).toNat - 1
  · rw [if_pos moves, entries_setTableCount _ shrunk]
    apply List.ext_getElem (by simp)
    intro j _ _
    simp only [List.getElem_map, List.getElem_range, List.getElem_take, List.getElem_set, entries]
    by_cases same : i = j
    · subst same
      simp [entryAt_writeEntry_same data _ (show i < maxTables by omega)]
    · simp [same, entryAt_writeEntry_other data _ (Ne.symm same)]
  · rw [if_neg moves, entries_setTableCount _ shrunk]
    apply List.ext_getElem (by simp)
    intro j inLeft _
    have notLast : i ≠ j := by
      simp only [List.length_map, List.length_range] at inLeft
      omega
    simp [entries, notLast]

end Entries

section Map

variable {data : PageData}

theorem tables_eq_none_iff {tableId : UInt32} :
    tables data tableId = none ↔ tableId ∉ (entries data).map TableEntry.tableId := by
  simp only [tables, Option.map_eq_none_iff, KeyedList.find_eq_none_iff]

theorem Wellformed.mem_entries_iff (wf : Wellformed data) (entry : TableEntry) :
    entry ∈ entries data ↔ tables data entry.tableId = some (entry.firstPageId, entry.pageCount) := by
  constructor
  · intro member
    simp [tables, (KeyedList.find_eq_some_iff wf.distinct).mpr ⟨member, rfl⟩]
  · intro found
    obtain ⟨stored, storedFound, same⟩ := Option.map_eq_some_iff.mp found
    obtain ⟨member, keyed⟩ := (KeyedList.find_eq_some_iff wf.distinct).mp storedFound
    obtain ⟨first, count⟩ := Prod.mk.inj same
    have : stored = entry := by
      cases stored
      cases entry
      simp_all
    exact this ▸ member

theorem find_eq_tables (tableId : UInt32) :
    KeyedList.find TableEntry.tableId (entries data) tableId =
      (tables data tableId).map fun value => ⟨tableId, value.1, value.2⟩ := by
  cases found : KeyedList.find TableEntry.tableId (entries data) tableId with
  | none => simp [tables, found]
  | some entry =>
    have keyed : entry.tableId = tableId := by
      simpa using List.find?_some found
    simp only [tables, found, Option.map_some]
    rw [← keyed]

theorem tables_register {tableId : UInt32} {firstPageId : PageId}
    (missing : tables data tableId = none) (room : (tableCount data).toNat < maxTables) :
    tables (setTableCount (writeEntry data (tableCount data).toNat ⟨tableId, firstPageId, 1⟩)
        ((tableCount data).toNat + 1).toUInt32) =
      Function.update (tables data) tableId (some (firstPageId, 1)) := by
  have fresh : (⟨tableId, firstPageId, 1⟩ : TableEntry).tableId ∉
      (entries data).map TableEntry.tableId := tables_eq_none_iff.mp missing
  funext other
  simp only [tables, entries_register data _ room, KeyedList.find_append_singleton fresh,
    Function.update]
  by_cases same : tableId = other
  · subst same
    simp
  · simp [same, Ne.symm same]

theorem Wellformed.register (wf : Wellformed data) {tableId : UInt32} {firstPageId : PageId}
    (missing : tables data tableId = none) (room : (tableCount data).toNat < maxTables) :
    Wellformed (setTableCount (writeEntry data (tableCount data).toNat ⟨tableId, firstPageId, 1⟩)
        ((tableCount data).toNat + 1).toUInt32) := by
  refine ⟨?_, ?_⟩
  · rw [toNat_tableCount_setTableCount _ room]
    exact room
  · rw [entries_register data _ room]
    exact KeyedList.nodupKeys_append_singleton wf.distinct (tables_eq_none_iff.mp missing)

theorem found_index {tableId : UInt32} {i : Nat}
    (found : (List.range (tableCount data).toNat).find?
      (fun i => (entryAt data i).tableId = tableId) = some i) :
    i < (tableCount data).toNat ∧ (entryAt data i).tableId = tableId :=
  ⟨List.mem_range.mp (List.mem_of_find?_eq_some found), by simpa using List.find?_some found⟩

theorem tables_of_find?_eq_none {tableId : UInt32}
    (missing : (List.range (tableCount data).toNat).find?
      (fun i => (entryAt data i).tableId = tableId) = none) : tables data tableId = none := by
  apply tables_eq_none_iff.mpr
  simp only [entries, List.map_map, List.mem_map, List.mem_range, not_exists, not_and]
  intro i inside keyed
  exact List.find?_eq_none.mp missing i (List.mem_range.mpr inside) (by simpa using keyed)

theorem tables_update (wf : Wellformed data) {tableId pageCount : UInt32} {i : Nat}
    (inside : i < (tableCount data).toNat) (keyed : (entryAt data i).tableId = tableId) :
    tables (writeEntry data i { entryAt data i with pageCount }) =
      Function.update (tables data) tableId (some ((entryAt data i).firstPageId, pageCount)) := by
  have below : i < maxTables := by have := wf.count_le; omega
  funext other
  rw [tables, entries_writeEntry data _ below,
    KeyedList.find_set (y := { entryAt data i with pageCount }) wf.distinct
      (getElem?_entries data inside) rfl]
  by_cases same : tableId = other
  · subst same
    rw [Function.update_self, if_pos keyed]
    rfl
  · rw [Function.update_of_ne (Ne.symm same), if_neg (by rw [← keyed] at same; exact same)]
    rfl

theorem Wellformed.tables_of_index (wf : Wellformed data) {i : Nat}
    (inside : i < (tableCount data).toNat) :
    tables data (entryAt data i).tableId =
      some ((entryAt data i).firstPageId, (entryAt data i).pageCount) :=
  (wf.mem_entries_iff _).mp (List.mem_of_getElem? (getElem?_entries data inside))

theorem Wellformed.update (wf : Wellformed data) {pageCount : UInt32} {i : Nat}
    (inside : i < (tableCount data).toNat) :
    Wellformed (writeEntry data i { entryAt data i with pageCount }) := by
  have below : i < maxTables := by have := wf.count_le; omega
  refine ⟨by rw [tableCount_writeEntry]; exact wf.count_le, ?_⟩
  rw [entries_writeEntry data _ below]
  exact KeyedList.nodupKeys_set wf.distinct (getElem?_entries data inside) rfl

theorem Wellformed.remove_perm (wf : Wellformed data) {i : Nat}
    (inside : i < (tableCount data).toNat) :
    (entries (setTableCount
      (if i < (tableCount data).toNat - 1 then
        writeEntry data i (entryAt data ((tableCount data).toNat - 1))
      else data) ((tableCount data).toNat - 1).toUInt32)).Perm ((entries data).eraseIdx i) := by
  have last : (entries data)[(entries data).length - 1]? =
      some (entryAt data ((tableCount data).toNat - 1)) := by
    rw [length_entries]
    exact getElem?_entries data (by omega)
  have perm := KeyedList.take_set_last_perm (by simpa using inside) last
  rw [length_entries] at perm
  rw [entries_remove data inside wf.count_le]
  exact perm

theorem Wellformed.remove (wf : Wellformed data) {i : Nat}
    (inside : i < (tableCount data).toNat) :
    Wellformed (setTableCount
      (if i < (tableCount data).toNat - 1 then
        writeEntry data i (entryAt data ((tableCount data).toNat - 1))
      else data) ((tableCount data).toNat - 1).toUInt32) := by
  have shrunk : (tableCount data).toNat - 1 ≤ maxTables := (Nat.sub_le _ 1).trans wf.count_le
  refine ⟨?_, (KeyedList.nodupKeys_eraseIdx wf.distinct i).perm (wf.remove_perm inside)⟩
  rw [toNat_tableCount_setTableCount _ shrunk]
  exact shrunk

theorem tables_remove (wf : Wellformed data) {tableId : UInt32} {i : Nat}
    (inside : i < (tableCount data).toNat) (keyed : (entryAt data i).tableId = tableId) :
    tables (setTableCount
      (if i < (tableCount data).toNat - 1 then
        writeEntry data i (entryAt data ((tableCount data).toNat - 1))
      else data) ((tableCount data).toNat - 1).toUInt32) =
      Function.update (tables data) tableId none := by
  funext other
  rw [tables, KeyedList.find_perm (wf.remove_perm inside)
      (KeyedList.nodupKeys_eraseIdx wf.distinct i),
    KeyedList.find_eraseIdx wf.distinct (getElem?_entries data inside)]
  by_cases same : tableId = other
  · subst same
    rw [Function.update_self, if_pos keyed]
    rfl
  · rw [Function.update_of_ne (Ne.symm same), if_neg (by rw [← keyed] at same; exact same)]
    rfl

end Map

section Operations

variable {data : PageData}

theorem Wellformed.findTable_eq (wf : Wellformed data) (tableId : UInt32) :
    findTable data tableId = some ((tables data tableId).map fun value => ⟨tableId, value.1, value.2⟩) := by
  rw [findTable, findTableIn_eq data wf.count_le tableId _ fun i member => List.mem_range.mp member,
    ← find_eq_tables]
  rfl

theorem Wellformed.refFindTable_eq (wf : Wellformed data) (tableId : UInt32) :
    refFindTable data tableId =
      some ((tables data tableId).map fun value => ⟨tableId, value.1, value.2⟩) := by
  rw [refFindTable,
    refFindTableIn_eq data wf.count_le tableId _ fun i member => List.mem_range.mp member,
    ← find_eq_tables]
  rfl

theorem Wellformed.allTables_eq (wf : Wellformed data) : allTables data = some (entries data) :=
  allTablesIn_eq data wf.count_le _ fun _ member => List.mem_range.mp member

theorem Wellformed.registerTable_spec (wf : Wellformed data) (tableId : UInt32)
    (firstPageId : PageId) :
    ∃ result data', registerTable data tableId firstPageId = some (result, data') ∧
      ((tables data tableId).isSome → result = .error (.tableAlreadyExists tableId) ∧ data' = data) ∧
      (tables data tableId = none → (tableCount data).toNat = maxTables →
        result = .error .directoryFull ∧ data' = data) ∧
      (tables data tableId = none → (tableCount data).toNat < maxTables →
        result = .ok () ∧ Wellformed data' ∧
        tables data' = Function.update (tables data) tableId (some (firstPageId, 1)) ∧
        (tableCount data').toNat = (tableCount data).toNat + 1 ∧ HeaderKept data data') := by
  have found := wf.findTable_eq tableId
  by_cases present : (tables data tableId).isSome
  · refine ⟨_, _, by simp [registerTable, found, present], fun _ => ⟨rfl, rfl⟩,
      fun missing => absurd present (by simp [missing]),
      fun missing => absurd present (by simp [missing])⟩
  · have missing : tables data tableId = none := by simpa using present
    by_cases full : (tableCount data).toNat = maxTables
    · refine ⟨_, _, by simp [registerTable, found, missing, full], by simp [missing],
        fun _ _ => ⟨rfl, rfl⟩, by simp [full]⟩
    · have room : (tableCount data).toNat < maxTables := by have := wf.count_le; omega
      refine ⟨.ok (), setTableCount (writeEntry data (tableCount data).toNat
          ⟨tableId, firstPageId, 1⟩) ((tableCount data).toNat + 1).toUInt32, ?_, by simp [missing],
        by simp [full], fun _ _ => ?_⟩
      · simp only [registerTable, found, missing, Option.map_none, if_false, ge_iff_le,
          Nat.not_le.mpr room, setTableEntry_of_lt data _ room]
        rfl
      refine ⟨rfl, wf.register missing room, tables_register missing room,
        toNat_tableCount_setTableCount _ room, ?_⟩
      · exact (headerKept_writeEntry data _ _).trans _ (headerKept_setTableCount _ _)

theorem Wellformed.updateTablePageCount_spec (wf : Wellformed data) (tableId pageCount : UInt32) :
    ∃ result data', updateTablePageCount data tableId pageCount = some (result, data') ∧
      (tables data tableId = none → result = .error (.tableNotFound tableId) ∧ data' = data) ∧
      (∀ firstPageId count, tables data tableId = some (firstPageId, count) →
        result = .ok () ∧ Wellformed data' ∧
        tables data' = Function.update (tables data) tableId (some (firstPageId, pageCount)) ∧
        tableCount data' = tableCount data ∧ HeaderKept data data') := by
  have loop := updateTablePageCountIn_eq data wf.count_le tableId pageCount
    (List.range (tableCount data).toNat) fun i member => List.mem_range.mp member
  cases found : (List.range (tableCount data).toNat).find?
      (fun i => (entryAt data i).tableId = tableId) with
  | none =>
    rw [found] at loop
    have missing := tables_of_find?_eq_none found
    exact ⟨_, _, loop, fun _ => ⟨rfl, rfl⟩, fun _ _ present => by simp [missing] at present⟩
  | some i =>
    rw [found] at loop
    obtain ⟨inside, keyed⟩ := found_index found
    have stored := wf.tables_of_index inside
    rw [keyed] at stored
    refine ⟨_, _, loop, fun missing => by simp [stored] at missing, fun firstPageId count present => ?_⟩
    obtain ⟨rfl, -⟩ := Prod.mk.inj (Option.some_inj.mp (stored.symm.trans present))
    exact ⟨rfl, wf.update inside, tables_update wf inside keyed, tableCount_writeEntry data _ _,
      headerKept_writeEntry data _ _⟩

theorem Wellformed.removeTable_spec (wf : Wellformed data) (tableId : UInt32) :
    ∃ result data', removeTable data tableId = some (result, data') ∧
      (tables data tableId = none → result = .error (.tableNotFound tableId) ∧ data' = data) ∧
      (∀ firstPageId count, tables data tableId = some (firstPageId, count) →
        result = .ok ⟨tableId, firstPageId, count⟩ ∧ Wellformed data' ∧
        tables data' = Function.update (tables data) tableId none ∧
        (tableCount data').toNat + 1 = (tableCount data).toNat ∧ HeaderKept data data') := by
  have loop := removeTableIn_eq data wf.count_le tableId
    (List.range (tableCount data).toNat) fun i member => List.mem_range.mp member
  cases found : (List.range (tableCount data).toNat).find?
      (fun i => (entryAt data i).tableId = tableId) with
  | none =>
    rw [found] at loop
    have missing := tables_of_find?_eq_none found
    exact ⟨_, _, loop, fun _ => ⟨rfl, rfl⟩, fun _ _ present => by simp [missing] at present⟩
  | some i =>
    rw [found] at loop
    obtain ⟨inside, keyed⟩ := found_index found
    have stored := wf.tables_of_index inside
    rw [keyed] at stored
    refine ⟨_, _, loop, fun missing => by simp [stored] at missing, fun firstPageId count present => ?_⟩
    obtain ⟨rfl, rfl⟩ := Prod.mk.inj (Option.some_inj.mp (stored.symm.trans present))
    have shrunk : (tableCount data).toNat - 1 ≤ maxTables := (Nat.sub_le _ 1).trans wf.count_le
    refine ⟨by rw [← keyed], wf.remove inside, tables_remove wf inside keyed, ?_, ?_⟩
    · rw [toNat_tableCount_setTableCount _ shrunk]
      omega
    · refine HeaderKept.trans _ ?_ (headerKept_setTableCount _ _)
      split
      · exact headerKept_writeEntry data _ _
      · exact headerKept_refl data

end Operations

inductive Call where
  | registerTable (tableId : UInt32) (firstPageId : PageId)
  | updateTablePageCount (tableId pageCount : UInt32)
  | removeTable (tableId : UInt32)

/-- `none` if the call panics. -/
def Call.run (data : PageData) : Call → Option PageData
  | .registerTable tableId firstPageId =>
    (DirectoryPage.registerTable data tableId firstPageId).map Prod.snd
  | .updateTablePageCount tableId pageCount =>
    (DirectoryPage.updateTablePageCount data tableId pageCount).map Prod.snd
  | .removeTable tableId => (DirectoryPage.removeTable data tableId).map Prod.snd

def Step (data data' : PageData) : Prop := ∃ call : Call, call.run data = some data'

def Reachable (data : PageData) : Prop := Reachability.Reachable (· = init) Step data

theorem tableCount_init : tableCount init = 0 := by
  simp only [tableCount, init]
  exact getU32_setU32_same _ _ (by decide)

theorem wellformed_init : Wellformed init where
  count_le := by simp [tableCount_init]
  distinct := by simp [entries, tableCount_init, KeyedList.NodupKeys]

theorem Wellformed.run {data data' : PageData} (wf : Wellformed data) {call : Call}
    (ran : call.run data = some data') : Wellformed data' := by
  cases call with
  | registerTable tableId firstPageId =>
    obtain ⟨result, data'', registered, present, full, room⟩ := wf.registerTable_spec tableId firstPageId
    obtain rfl : data'' = data' := by simpa [Call.run, registered] using ran
    by_cases known : (tables data tableId).isSome
    · exact (present known).2 ▸ wf
    · have missing : tables data tableId = none := by simpa using known
      by_cases atMax : (tableCount data).toNat = maxTables
      · exact (full missing atMax).2 ▸ wf
      · exact (room missing (by have := wf.count_le; omega)).2.1
  | updateTablePageCount tableId pageCount =>
    obtain ⟨result, data'', updated, missing, present⟩ := wf.updateTablePageCount_spec tableId pageCount
    obtain rfl : data'' = data' := by simpa [Call.run, updated] using ran
    cases found : tables data tableId with
    | none => exact (missing found).2 ▸ wf
    | some value => exact (present value.1 value.2 found).2.1
  | removeTable tableId =>
    obtain ⟨result, data'', removed, missing, present⟩ := wf.removeTable_spec tableId
    obtain rfl : data'' = data' := by simpa [Call.run, removed] using ran
    cases found : tables data tableId with
    | none => exact (missing found).2 ▸ wf
    | some value => exact (present value.1 value.2 found).2.1

theorem wellformed_of_reachable {data : PageData} (reached : Reachable data) : Wellformed data :=
  Reachability.Reachable.invariant Wellformed
    (fun _ initial => by
      subst initial
      exact wellformed_init)
    (fun _ _ wf step => by
      obtain ⟨call, ran⟩ := step
      exact wf.run ran)
    reached

/-- The directory read as a finite map from table id to first page and page count. -/
structure ActsAsMap (data : PageData) : Prop where
  bounded : (tableCount data).toNat ≤ maxTables
  distinct : ((entries data).map TableEntry.tableId).Nodup
  counted : (entries data).length = (tableCount data).toNat
  keys : ∀ tableId, (tables data tableId).isSome ↔ tableId ∈ (entries data).map TableEntry.tableId
  register : ∀ tableId firstPageId, ∃ result data',
    registerTable data tableId firstPageId = some (result, data') ∧
    ((tables data tableId).isSome → result = .error (.tableAlreadyExists tableId) ∧ data' = data) ∧
    (tables data tableId = none → (tableCount data).toNat = maxTables →
      result = .error .directoryFull ∧ data' = data) ∧
    (tables data tableId = none → (tableCount data).toNat < maxTables →
      result = .ok () ∧
      tables data' = Function.update (tables data) tableId (some (firstPageId, 1)) ∧
      (tableCount data').toNat = (tableCount data).toNat + 1 ∧ HeaderKept data data')
  update : ∀ tableId pageCount, ∃ result data',
    updateTablePageCount data tableId pageCount = some (result, data') ∧
    (tables data tableId = none → result = .error (.tableNotFound tableId) ∧ data' = data) ∧
    (∀ firstPageId count, tables data tableId = some (firstPageId, count) →
      result = .ok () ∧
      tables data' = Function.update (tables data) tableId (some (firstPageId, pageCount)) ∧
      tableCount data' = tableCount data ∧ HeaderKept data data')
  remove : ∀ tableId, ∃ result data', removeTable data tableId = some (result, data') ∧
    (tables data tableId = none → result = .error (.tableNotFound tableId) ∧ data' = data) ∧
    (∀ firstPageId count, tables data tableId = some (firstPageId, count) →
      result = .ok ⟨tableId, firstPageId, count⟩ ∧
      tables data' = Function.update (tables data) tableId none ∧
      (tableCount data').toNat + 1 = (tableCount data).toNat ∧ HeaderKept data data')
  find : ∀ tableId,
    findTable data tableId =
      some ((tables data tableId).map fun value => ⟨tableId, value.1, value.2⟩) ∧
    refFindTable data tableId =
      some ((tables data tableId).map fun value => ⟨tableId, value.1, value.2⟩)
  all : allTables data = some (entries data)
  listed : ∀ entry, entry ∈ entries data ↔
    tables data entry.tableId = some (entry.firstPageId, entry.pageCount)

theorem Wellformed.actsAsMap {data : PageData} (wf : Wellformed data) : ActsAsMap data where
  bounded := wf.count_le
  distinct := wf.distinct
  counted := length_entries data
  keys tableId := by
    rw [← Option.ne_none_iff_isSome, Ne, tables_eq_none_iff, not_not]
  register tableId firstPageId := by
    obtain ⟨result, data', ran, present, full, room⟩ := wf.registerTable_spec tableId firstPageId
    refine ⟨result, data', ran, present, full, fun missing below => ?_⟩
    obtain ⟨ok, -, map, count, kept⟩ := room missing below
    exact ⟨ok, map, count, kept⟩
  update tableId pageCount := by
    obtain ⟨result, data', ran, missing, present⟩ := wf.updateTablePageCount_spec tableId pageCount
    refine ⟨result, data', ran, missing, fun firstPageId count found => ?_⟩
    obtain ⟨ok, -, map, count, kept⟩ := present firstPageId count found
    exact ⟨ok, map, count, kept⟩
  remove tableId := by
    obtain ⟨result, data', ran, missing, present⟩ := wf.removeTable_spec tableId
    refine ⟨result, data', ran, missing, fun firstPageId count found => ?_⟩
    obtain ⟨ok, -, map, count, kept⟩ := present firstPageId count found
    exact ⟨ok, map, count, kept⟩
  find tableId := ⟨wf.findTable_eq tableId, wf.refFindTable_eq tableId⟩
  all := wf.allTables_eq
  listed := wf.mem_entries_iff

/-- Every page a run of table operations reaches from `DirectoryPage::init` acts as the map. -/
theorem directory_acts_as_map {data : PageData} (reached : Reachable data) : ActsAsMap data :=
  (wellformed_of_reachable reached).actsAsMap

def liveCalls : List Call :=
  [.registerTable 3 (PageId.new 10), .registerTable 5 (PageId.new 20),
    .updateTablePageCount 3 4, .registerTable 8 (PageId.new 30), .removeTable 5]

def live : PageData := (liveCalls.foldlM Call.run init).getD init

theorem directory_acts_as_map_live :
    Reachable live ∧ tables live 3 = some (PageId.new 10, 4) ∧
      tables live 8 = some (PageId.new 30, 1) ∧ tables live 5 = none ∧ tableCount live = 2 ∧
      ActsAsMap live :=
  have reached : Reachable live :=
    Reachability.Reachable.foldlM (fun _ call _ ran => ⟨call, ran⟩) liveCalls
      (Reachability.Reachable.initial rfl) rfl
  ⟨reached, by decide, by decide, by decide, by decide, directory_acts_as_map reached⟩

end DirectoryPage

end Crio
