import RpiRobot.Repositories

/-!
# The statements of the repositories

Every builder that a repository fills renders a statement: the selects and deletes
for any filter, the inserts and updates for quote-free strings.
-/

namespace RepositoryStatements

open SqlTokens (Token Lexes)
open SqlConditions (Expr Row)
open SqlBuilder SqlStatements BuilderStatements SqlServers
open StringLiterals (QuoteFree)
open RequestParams DomainObjects FilterConditions Repositories

/-- The select of one page. -/
def pageSelect (columns : List String) (table : String) (conditions : List String)
    (descending : Bool) (page : PageRequest) : Select (List String) :=
  ⟨.columns columns, table, conditions, some ⟨"id", descending⟩, some page.size, some page.offset⟩

def countSelect (table : String) (conditions : List String) : Select (List String) :=
  ⟨.count "id", table, conditions, none, none, none⟩

/-- A select without order and limits. -/
def plainSelect (columns : List String) (table : String) (conditions : List String) :
    Select (List String) :=
  ⟨.columns columns, table, conditions, none, none, none⟩

def texts (filter : Filter) : List String := (conditions filter).map Column.cond

lemma filtered_eq (filter : Filter) :
    filtered filter = { SelectModel.new with whereCondition := texts filter } := by
  rw [filtered, applyFilter_select]
  rfl

lemma int_ne_empty (n : Int) : toString n ≠ "" := by
  intro h
  have hl := DecimalText.intValue_toString n
  have hnone : DecimalText.intValue "".toList = none := by decide
  rw [h, hnone] at hl
  exact absurd hl (by simp)

lemma renders_int (n : Int) : RendersOpt intTokens (toString n) (some n) :=
  ⟨int_ne_empty n, SqlTokens.lexes_int n⟩

/-- A page select in the shape all three repositories build it. -/
lemma renders_page {columns : List String} {table orderBy : String} {descending : Bool}
    (hc : ∀ c ∈ columns, Name c) (hne : columns ≠ []) (ht : Name table)
    (ho : Lexes orderBy.toList (Order.tokens ⟨"id", descending⟩)) (hone : orderBy ≠ "")
    (filter : Filter) (page : PageRequest) :
    RendersSelect
      (((((filtered filter).select columns).from_ [table]).offset_ page.offset).limit_ page.size
        |>.order_by orderBy)
      (pageSelect columns table (texts filter) descending page) := by
  rw [filtered_eq]
  exact {
    distinct := rfl, joinType := rfl, joinOn := rfl, groupby := rfl, having_ := rfl
    columns := lexes_words hc
    named := ⟨hne, fun c hm => (hc c hm).2.1⟩
    table := rfl, name := ht.1, free := ht.2.1, cond := rfl
    order := ⟨hone, ho⟩
    orderFree := fun o hm => by
      obtain rfl := Option.some.inj (Option.mem_def.mp hm)
      exact (by decide : Free "id")
    limit := renders_int page.size
    offset := renders_int page.offset }

lemma renders_count {table : String} (ht : Name table) (filter : Filter) :
    RendersSelect (((filtered filter).select ["COUNT(id)"]).from_ [table])
      (countSelect table (texts filter)) := by
  rw [filtered_eq]
  exact {
    distinct := rfl, joinType := rfl, joinOn := rfl, groupby := rfl, having_ := rfl
    columns := .cons (by decide) .nil
    named := (by decide : Free "id")
    table := rfl, name := ht.1, free := ht.2.1, cond := rfl
    order := rfl
    orderFree := fun o hm => absurd (Option.mem_def.mp hm) (by simp [countSelect])
    limit := rfl
    offset := rfl }

lemma renders_plain {columns : List String} {table : String} (hc : ∀ c ∈ columns, Name c)
    (hne : columns ≠ []) (ht : Name table) (condition : Column) :
    RendersSelect (((SelectModel.new.select columns).from_ [table]).where_ condition)
      (plainSelect columns table [condition.cond]) := {
  distinct := rfl, joinType := rfl, joinOn := rfl, groupby := rfl, having_ := rfl
  columns := lexes_words hc
  named := ⟨hne, fun c hm => (hc c hm).2.1⟩
  table := rfl, name := ht.1, free := ht.2.1, cond := rfl
  order := rfl
  orderFree := fun o hm => absurd (Option.mem_def.mp hm) (by simp [plainSelect])
  limit := rfl
  offset := rfl }

lemma deleteFrom_eq (table : String) (filter : Filter) :
    deleteFrom table filter = ⟨table, texts filter⟩ := by
  rw [deleteFrom, applyFilter_delete]
  rfl

lemma renders_delete {table : String} (ht : Name table) (filter : Filter) :
    Renders (.delete (deleteFrom table filter)) (.delete table (texts filter)) := by
  have h := Renders.delete (m := deleteFrom table filter)
    (show RendersDelete _ table from ⟨by rw [deleteFrom_eq], ht⟩)
  rwa [show (deleteFrom table filter).whereCondition = texts filter by rw [deleteFrom_eq]] at h

/-! Columns of the selects. -/

def registryColumns : List String := ["id", "created_at", "name", "uuid", "status", "json_data"]

def deviceColumns : List String :=
  ["id", "registry_id", "created_at", "name", "uuid", "status", "json_data"]

def configurationColumns : List String := ["id", "device_id", "created_at", "json_data"]

def telemetryColumns : List String := ["id", "device_id", "created_at", "json_data"]

def refColumns : List String := ["id", "created_at", "name", "uuid", "status", "json_data"]

lemma renders_registry_page (filter : Filter) (page : PageRequest) :
    RendersSelect (RegistryRepository.selectData filter page)
      (pageSelect registryColumns "registry" (texts filter) false page) :=
  renders_page (by decide) (by decide) (by decide) (by decide) (by decide) filter page

lemma renders_device_page (filter : Filter) (page : PageRequest) :
    RendersSelect (DeviceRepository.selectData filter page)
      (pageSelect deviceColumns "device" (texts filter) false page) :=
  renders_page (by decide) (by decide) (by decide) (by decide) (by decide) filter page

lemma renders_telemetry_page (filter : Filter) (page : PageRequest) :
    RendersSelect (DeviceTelemetryRepository.selectData filter page)
      (pageSelect telemetryColumns "device_telemetry" (texts filter) true page) :=
  renders_page (by decide) (by decide) (by decide) (by decide) (by decide) filter page

lemma renders_registry_count (filter : Filter) :
    RendersSelect (RegistryRepository.selectCount filter) (countSelect "registry" (texts filter)) :=
  renders_count (by decide) filter

lemma renders_device_count (filter : Filter) :
    RendersSelect (DeviceRepository.selectCount filter) (countSelect "device" (texts filter)) :=
  renders_count (by decide) filter

lemma renders_telemetry_count (filter : Filter) :
    RendersSelect (DeviceTelemetryRepository.selectCount filter)
      (countSelect "device_telemetry" (texts filter)) :=
  renders_count (by decide) filter

def deviceIdColumn : ColumnName := ⟨"device_id", by decide, by decide⟩

/-- The condition of a membership select. -/
def memberOf (column : String) (ids : List Int) : String :=
  ((Column.of column).in_ (ids.map .long)).cond

lemma renders_configuration (ids : List Int) :
    RendersSelect (DeviceRepository.selectConfiguration ids)
      (plainSelect configurationColumns "device_configuration" [memberOf "device_id" ids]) :=
  renders_plain (by decide) (by decide) (by decide) _

lemma renders_devices (ids : List Int) :
    RendersSelect (DeviceTelemetryRepository.selectDevices ids)
      (plainSelect refColumns "device" [memberOf "id" ids]) :=
  renders_plain (by decide) (by decide) (by decide) _

/-! No select has a NUL of its own. -/

lemma nulFree_page {columns : List String} {table orderBy : String}
    (hc : ∀ c ∈ columns, NulFree c) (ht : NulFree table) (ho : NulFree orderBy) {filter : Filter}
    (hf : ∀ t ∈ texts filter, NulFree t) (page : PageRequest) :
    SelectNulFree
      (((((filtered filter).select columns).from_ [table]).offset_ page.offset).limit_ page.size
        |>.order_by orderBy) := by
  have hempty : NulFree "" := List.not_mem_nil
  have hnone : ∀ t ∈ ([] : List String), NulFree t := fun t h => absurd h List.not_mem_nil
  rw [filtered_eq]
  exact ⟨hc, ht, hempty, hempty, hnone, hf, hnone, hnone, ho, nulFree_int page.size,
    nulFree_int page.offset⟩

lemma nulFree_plain {columns : List String} {table : String} (hc : ∀ c ∈ columns, NulFree c)
    (ht : NulFree table) {condition : Column} (h : NulFree condition.cond) :
    SelectNulFree (((SelectModel.new.select columns).from_ [table]).where_ condition) := by
  have hempty : NulFree "" := List.not_mem_nil
  have hnone : ∀ t ∈ ([] : List String), NulFree t := fun t h => absurd h List.not_mem_nil
  exact ⟨hc, ht, hempty, hempty, hnone, List.forall_mem_singleton.mpr h, hnone, hnone, hempty,
    hempty, hempty⟩

/-! Inserts and updates. -/

lemma lexes_string {s : String} (h : QuoteFree s.toList) :
    Lexes (toValue (.string s)).toList (Source.tokens (.str s)) := by
  rw [toValue, WhereClauses.toList_quoted]
  exact StringLiterals.lexes_quoted h

lemma lexes_long (n : Int) : Lexes (toValue (.long n)).toList (Source.tokens (.num (toString n))) :=
  SqlTokens.lexes_int n

lemma lexes_assignment {column : String} (hc : SqlTokens.isName column.toList = true) {d : Data}
    {s : Source} (h : Lexes (toValue d).toList s.tokens) :
    Lexes (column ++ " = " ++ toValue d).toList (assignTokens (column, s)) := by
  have heq : SqlTokens.Separates " = ".toList [.sym "="] :=
    SqlTokens.separates (by decide) (by decide)
  have happ := (SqlTokens.lexes_name hc).append_separated heq h
  simpa only [String.toList_append, List.append_assoc, assignTokens, List.cons_append,
    List.nil_append] using happ

lemma numeral_readable (n : Int) : (Source.num (toString n)).Readable := by
  rw [Source.Readable, DecimalText.decimalValue_toString]
  rfl

/-- The columns and values of a new registry or device. -/
def namedColumns : List String := ["name", "json_data", "uuid", "updated_at"]

def namedValues (name json : String) : List Source :=
  [.str name, .str json, .call "gen_random_uuid", .call "now"]

lemma renders_named {name json table : String} (hn : QuoteFree name.toList)
    (hj : QuoteFree json.toList) (ht : Name table) :
    RendersInsert
      (((((InsertModel.new.insert "name" (.string name)).insert "json_data" (.string json)).insert
        "uuid" (.func "gen_random_uuid()")).insert "updated_at" (.func "now()")).into table
        |>.returning ["id"])
      table namedColumns (namedValues name json) ["id"] where
  replace := rfl
  tableName := rfl
  name := ht
  columnTexts := rfl
  columnNames := by decide
  columnsNe := by decide
  valueTexts := .cons (lexes_string hn) (.cons (lexes_string hj)
    (.cons (by decide) (.cons (by decide) .nil)))
  readable := by
    intro v hv
    simp only [namedValues, List.mem_cons, List.not_mem_nil, or_false] at hv
    rcases hv with rfl | rfl | rfl | rfl
    · exact ⟨trivial, trivial⟩
    · exact ⟨trivial, trivial⟩
    · exact ⟨trivial, by decide⟩
    · exact ⟨trivial, by decide⟩
  valuesNe := by simp [namedValues]
  returningTexts := rfl
  returningNames := by decide

lemma renders_registry_insert (runtime : Runtime) {m : RegistryDo} (hn : QuoteFree m.name.toList)
    (hj : QuoteFree (runtime.dump m.jsonData).toList) :
    RendersInsert (RegistryRepository.insertModel runtime m) "registry" namedColumns
      (namedValues m.name (runtime.dump m.jsonData)) ["id"] :=
  renders_named hn hj (by decide)

lemma renders_device_insert (runtime : Runtime) {m : DeviceDo} (hn : QuoteFree m.name.toList)
    (hj : QuoteFree (runtime.dump m.jsonData).toList) :
    RendersInsert (DeviceRepository.insertModel runtime m) "device" namedColumns
      (namedValues m.name (runtime.dump m.jsonData)) ["id"] :=
  renders_named hn hj (by decide)

lemma renders_telemetry_insert (runtime : Runtime) {m : DeviceTelemetryDo}
    (hj : QuoteFree (runtime.dump m.jsonData).toList) :
    RendersInsert (DeviceTelemetryRepository.insertModel runtime m) "device_telemetry"
      ["device_id", "json_data"]
      [.num (toString m.deviceId), .str (runtime.dump m.jsonData)] ["id"] where
  replace := rfl
  tableName := rfl
  name := by decide
  columnTexts := rfl
  columnNames := by decide
  columnsNe := by decide
  valueTexts := .cons (lexes_long m.deviceId) (.cons (lexes_string hj) .nil)
  readable := by
    intro v hv
    simp only [List.mem_cons, List.not_mem_nil, or_false] at hv
    rcases hv with rfl | rfl
    · exact ⟨numeral_readable m.deviceId, trivial⟩
    · exact ⟨trivial, trivial⟩
  valuesNe := by simp
  returningTexts := rfl
  returningNames := by decide

def registrySets (runtime : Runtime) (m : RegistryDo) : List (String × Source) :=
  [("name", .str m.name), ("status", .num (toString m.status)),
    ("json_data", .str (runtime.dump m.jsonData))]

lemma renders_registry_update (runtime : Runtime) {m : RegistryDo} (hn : QuoteFree m.name.toList)
    (hj : QuoteFree (runtime.dump m.jsonData).toList) :
    RendersUpdate (RegistryRepository.updateModel runtime m) "registry" (registrySets runtime m) where
  tableName := rfl
  name := by decide
  setTexts := .cons (lexes_assignment (by decide) (lexes_string hn))
    (.cons (lexes_assignment (by decide) (lexes_long m.status))
      (.cons (lexes_assignment (by decide) (lexes_string hj)) .nil))
  readable := by
    intro a ha
    simp only [registrySets, List.mem_cons, List.not_mem_nil, or_false] at ha
    rcases ha with rfl | rfl | rfl
    · exact ⟨(by decide : Free "name"), trivial, trivial⟩
    · exact ⟨(by decide : Free "status"), numeral_readable m.status, trivial⟩
    · exact ⟨(by decide : Free "json_data"), trivial, trivial⟩
  setsNe := by simp [registrySets]

end RepositoryStatements
