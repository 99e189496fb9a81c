import Mathlib.Data.Int.Interval
import RpiRobot.RepositoryStatements

/-!
# Queries with opaque conditions

What the statements of the repositories return and change when every condition of a
filter is an opaque predicate of a row.
-/

namespace FieldQueries

open SqlConditions (Row)
open SqlBuilder SqlTables SqlServers BuilderStatements SqlStatements
open RequestParams Repositories RepositoryStatements
open RegistrySchema (schema)

/-- The row of the table satisfies every condition of the filter. -/
def Matches (sat : Reading) (table : String) (filter : Filter) (r : Row) : Bool :=
  (texts filter).all (fun c => sat table c r)

section
variable {env : Env} {runtime : Runtime} {moment : Moment} {sat : Reading}
  {d : Database schema}

lemma field_query {m : SelectModel} {s : Select (List String)} (h : RendersSelect m s) :
    (fieldConnection env runtime moment sat).query d (.select m) =
      match select (opaqueConds sat) d s with
      | .ok r => .ok (received env r)
      | .error e => .error (.sql e) := by
  have hserver : (fieldConnection env runtime moment sat).server d (.select m) =
      exec env moment (opaqueConds sat) d (.select s) := fieldServer_eq (.select h)
  rw [Connection.query, hserver]
  rfl

/-- The rows of a page: the matching rows in the order of the page, cut to its window. -/
def pageRows (sat : Reading) (table : String) (filter : Filter) (descending : Bool)
    (page : PageRequest) (rows : List Row) : List Row :=
  window (some page.size) (some page.offset)
    (sortRows (some ⟨"id", descending⟩) (rows.filter (Matches sat table filter)))

/-- The two selects that a repository reads its own table with. -/
structure Listing where
  own : TableDef
  columns : List String
  descending : Bool
  selectData : Filter → PageRequest → SelectModel
  selectCount : Filter → SelectModel
  data : ∀ filter page, RendersSelect (selectData filter page)
    (pageSelect columns own.name (texts filter) descending page)
  total : ∀ filter, RendersSelect (selectCount filter) (countSelect own.name (texts filter))
  mem : own ∈ schema
  found : table schema own.name = .ok own
  readable : ∃ defs, (columns ++ ["id"]).mapM (column own) = .ok defs
  serialId : RegistrySchema.serialId ∈ own.columns
  id : column own "id" = .ok RegistrySchema.serialId
  unique : "id" ∈ own.unique
  nulFree : ∀ filter page, (∀ t ∈ texts filter, NulFree t) → SelectNulFree (selectData filter page)

def registryListing : Listing where
  own := RegistrySchema.registry
  columns := registryColumns
  descending := false
  selectData := RegistryRepository.selectData
  selectCount := RegistryRepository.selectCount
  data := renders_registry_page
  total := renders_registry_count
  mem := by simp [schema]
  found := rfl
  readable := ⟨_, rfl⟩
  serialId := .head _
  id := rfl
  unique := .head _
  nulFree _ page hf := nulFree_page (by decide) (by decide) (by decide) hf page

def deviceListing : Listing where
  own := RegistrySchema.device
  columns := deviceColumns
  descending := false
  selectData := DeviceRepository.selectData
  selectCount := DeviceRepository.selectCount
  data := renders_device_page
  total := renders_device_count
  mem := by simp [schema]
  found := rfl
  readable := ⟨_, rfl⟩
  serialId := .head _
  id := rfl
  unique := .head _
  nulFree _ page hf := nulFree_page (by decide) (by decide) (by decide) hf page

def telemetryListing : Listing where
  own := RegistrySchema.deviceTelemetry
  columns := telemetryColumns
  descending := true
  selectData := DeviceTelemetryRepository.selectData
  selectCount := DeviceTelemetryRepository.selectCount
  data := renders_telemetry_page
  total := renders_telemetry_count
  mem := by simp [schema]
  found := rfl
  readable := ⟨_, rfl⟩
  serialId := .head _
  id := rfl
  unique := .head _
  nulFree _ page hf := nulFree_page (by decide) (by decide) (by decide) hf page

lemma nonnegative_some {n : Int} (h : 0 ≤ n) : nonnegative (some n) = none := by
  rw [nonnegative, Option.getD_some, if_neg (not_lt.mpr h)]

variable (env runtime moment sat) in
/-- A page whose size and offset are not negative. -/
lemma Listing.query_page (l : Listing) (filter : Filter) {page : PageRequest}
    (hs : 0 ≤ page.size) (ho : 0 ≤ page.offset) :
    (fieldConnection env runtime moment sat).query d (.select (l.selectData filter page)) =
      .ok (received env ⟨l.columns, (pageRows sat l.own.name filter l.descending page
        (d.rows l.own.name)).map (fun r => l.columns.map r)⟩) := by
  obtain ⟨defs, hdefs⟩ := l.readable
  have hsel := select_columns (opaqueConds sat) (d := d)
    (s := pageSelect l.columns l.own.name (texts filter) l.descending page) rfl l.found hdefs rfl
    (nonnegative_some hs) (nonnegative_some ho)
  rw [field_query (l.data filter page), hsel]
  rfl

lemma Listing.page_negative (l : Listing) {filter : Filter} {page : PageRequest}
    {rows : List PqRow}
    (h : (fieldConnection env runtime moment sat).query d (.select (l.selectData filter page)) =
      .ok rows) : 0 ≤ page.size ∧ 0 ≤ page.offset := by
  rw [field_query (l.data filter page)] at h
  cases hsel : select (opaqueConds sat) d
      (pageSelect l.columns l.own.name (texts filter) l.descending page) with
  | error e => rw [hsel] at h; exact absurd h (by simp)
  | ok r =>
    obtain ⟨hl, ho⟩ := select_negative hsel
    have hpos : ∀ n : Int, nonnegative (some n) = none → 0 ≤ n := by
      intro n hn
      by_contra hlt
      rw [nonnegative, Option.getD_some, if_pos (not_le.mp hlt)] at hn
      exact absurd hn (by simp)
    exact ⟨hpos _ hl, hpos _ ho⟩

/-- A select without order and limits. -/
lemma query_plain {m : SelectModel} {columns : List String} {t : TableDef} {condition : String}
    (h : RendersSelect m (plainSelect columns t.name [condition]))
    (ht : table schema t.name = .ok t) {defs : List ColumnDef}
    (hc : columns.mapM (column t) = .ok defs) :
    (fieldConnection env runtime moment sat).query d (.select m) =
      .ok (received env ⟨columns, ((d.rows t.name).filter (fun r => sat t.name condition r)).map
        (fun r => columns.map r)⟩) := by
  have hsel := select_columns (opaqueConds sat) (d := d)
    (s := plainSelect columns t.name [condition]) rfl ht
    (by rw [show (plainSelect columns t.name [condition]).order = none from rfl, Option.map_none,
      Option.toList_none, List.append_nil, hc]) rfl rfl rfl
  have hrows : (d.rows t.name).filter ((opaqueConds sat).sat t [condition]) =
      (d.rows t.name).filter (fun r => sat t.name condition r) :=
    List.filter_congr (fun r _ => Bool.and_true _)
  rw [field_query h, hsel]
  change Except.ok (received env ⟨columns, ((d.rows t.name).filter
    ((opaqueConds sat).sat t [condition])).map (fun r => columns.map r)⟩) = _
  rw [hrows]

/-- The id of a row that has one. -/
def idOf (r : Row) : Int :=
  match r "id" with
  | .int n => n
  | _ => 0

lemma Listing.id_value (l : Listing) {r : Row} (hr : r ∈ d.rows l.own.name) :
    r "id" = .int (idOf r) ∧ DecimalText.intMin ≤ idOf r ∧ idOf r ≤ DecimalText.intMax := by
  obtain ⟨n, hn, hrange⟩ := int4_value d.consistent l.mem l.serialId hr rfl rfl
  have hid : r "id" = .int n := hn
  rw [idOf, hid]
  exact ⟨rfl, hrange⟩

lemma Listing.ids_nodup (l : Listing) : ((d.rows l.own.name).map idOf).Nodup := by
  have hdiffer := keys_differ ((d.consistent l.own l.mem).unique "id" l.unique)
  rw [List.Nodup, List.pairwise_map]
  refine hdiffer.imp_of_mem (fun hr hs hne heq => ?_)
  have hkey : ∀ x ∈ d.rows l.own.name, keyOf (x "id") = some (.int (idOf x)) := by
    intro x hx
    rw [(l.id_value hx).1, keyOf]
  exact hne _ (hkey _ hr) (heq ▸ hkey _ hs)

/-- There are no more rows than ids. -/
lemma Listing.length_lt (l : Listing) : (d.rows l.own.name).length < 2 ^ 64 := by
  have hsub : ((d.rows l.own.name).map idOf).toFinset ⊆
      Finset.Icc DecimalText.intMin DecimalText.intMax := by
    intro n hn
    obtain ⟨r, hr, rfl⟩ := List.mem_map.mp (List.mem_toFinset.mp hn)
    exact Finset.mem_Icc.mpr (l.id_value hr).2
  have hcard := Finset.card_le_card hsub
  rw [List.toFinset_card_of_nodup l.ids_nodup, List.length_map, Int.card_Icc] at hcard
  exact lt_of_le_of_lt hcard (by decide)

/-- A count is a `size_t`. -/
lemma asSize_count {n : Nat} (h : n < 2 ^ 64) : asSize (some (toString (n : Int))) = .ok n := by
  rw [asSize, asInteger, asString]
  simp only [bind, Except.bind, DecimalText.intValue_toString]
  rw [if_pos ⟨by omega, by omega⟩]
  rfl

variable (env runtime moment sat) in
lemma Listing.count_eq (l : Listing) (filter : Filter)
    (hlen : ((d.rows l.own.name).filter (Matches sat l.own.name filter)).length < 2 ^ 64) :
    count (fieldConnection env runtime moment sat) d (l.selectCount filter) =
      .ok ((d.rows l.own.name).filter (Matches sat l.own.name filter)).length := by
  have hall : ((d.rows l.own.name).filter (Matches sat l.own.name filter)).filter
      (fun r => present (r "id")) = (d.rows l.own.name).filter (Matches sat l.own.name filter) := by
    rw [List.filter_eq_self]
    exact fun r hr =>
      present_of_notNull d.consistent l.mem l.serialId (List.mem_of_mem_filter hr) rfl
  have hsel := select_count (opaqueConds sat) (d := d)
    (s := countSelect l.own.name (texts filter)) rfl l.found rfl l.id rfl rfl rfl
  have hq : (fieldConnection env runtime moment sat).query d (.select (l.selectCount filter)) =
      .ok (received env ⟨["count"],
        [[.int ((d.rows l.own.name).filter (Matches sat l.own.name filter)).length]]⟩) := by
    rw [field_query (l.total filter), hsel]
    change Except.ok (received env ⟨["count"], [[.int (((d.rows l.own.name).filter
      (Matches sat l.own.name filter)).filter (fun r => present (r "id"))).length]]⟩) = _
    rw [hall]
  rw [count, hq]
  exact asSize_count hlen

variable (env runtime moment sat) in
/-- What a delete does, once it is not rejected. -/
lemma field_delete {t : TableDef} (ht : table schema t.name = .ok t) (hn : Name t.name)
    (filter : Filter) :
    committed ((fieldConnection env runtime moment sat).work d (.delete (deleteFrom t.name filter))
      false) =
      match store d t.name ((d.rows t.name).filter (fun r => !Matches sat t.name filter r)) with
      | .ok d' => (.ok (), d')
      | .error e => (.error (.sql e), d) := by
  have hserver : (fieldConnection env runtime moment sat).server d
      (.delete (deleteFrom t.name filter)) =
      changed d ⟨[], []⟩ (store d t.name ((d.rows t.name).filter
        (fun r => !Matches sat t.name filter r))) := by
    change fieldServer env sat moment d _ = _
    rw [fieldServer_eq (renders_delete hn filter), exec, delete_eq ht rfl]
    rfl
  rw [Connection.work, hserver]
  cases store d t.name ((d.rows t.name).filter (fun r => !Matches sat t.name filter r)) with
  | error e => rfl
  | ok d' => rfl

end

end FieldQueries
