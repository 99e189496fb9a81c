import Mathlib.Data.List.Dedup
import RpiRobot.DomainObjects
import RpiRobot.FilterConditions
import RpiRobot.ListResults
import RpiRobot.RegistrySchema
import RpiRobot.SqlServers

/-!
# The repositories

The three repositories of the registry service over a database connection. Reads
run in no transaction, so every statement of a call may see another committed
database: a call takes the database that each of its statements sees. Writes run in
a transaction that is rolled back when anything throws before the commit.
-/

namespace Repositories

open SqlConditions (Value Row)
open SqlBuilder SqlTables RequestParams DomainObjects FilterConditions
open ListResults (bind_eq_ok)
open RegistrySchema (schema)

/-- What the client code throws. `endIterator` stands for writing through the end
iterator of a list, which is undefined. -/
inductive Exception where
  | sql (e : SqlError)
  | unexpectedRows
  | rangeError
  | nullField
  | conversion
  | jsonParse
  | endIterator
  deriving DecidableEq, Repr

abbrev Outcome := Except Exception

/-- The libraries around the repositories: the JSON text format of the client, in which
control characters are escaped, and the order in which an unordered set is iterated. -/
structure Runtime where
  dump : Json → String
  dump_nulFree : ∀ j, SqlServers.NulFree (dump j)
  parse : String → Option Json
  iterate : List Int → List Int
  iterate_perm : ∀ ids, (iterate ids).Perm ids.dedup

lemma Runtime.mem_iterate (runtime : Runtime) (ids : List Int) (n : Int) :
    n ∈ runtime.iterate ids ↔ n ∈ ids := by
  rw [(runtime.iterate_perm ids).mem_iff, List.mem_dedup]

/-- The client's JSON texts for a few of the values around the shipped rows. -/
def shippedDump : Json → String
  | .object [] => "\x7b\x7d"
  | .object [("status", .string "online")] => "\x7b\"status\":\"online\"\x7d"
  | _ => "null"

def shippedRuntime : Runtime where
  dump := shippedDump
  dump_nulFree j := by
    unfold shippedDump
    split <;> decide
  parse
    | "\x7b\x7d" => some (.object [])
    | "\x7b\"status\":\"online\"\x7d" => some RegistrySchema.online
    | "\x7b\"status\": \"online\"\x7d" => some RegistrySchema.online
    | text =>
      if text = RegistrySchema.configurationText then some RegistrySchema.configuration else none
  iterate := List.dedup
  iterate_perm := fun _ => .refl _

structure Connection where
  server : Database schema → SqlModel → Except SqlError Result × Database schema
  env : Env
  runtime : Runtime

def textConnection (env : Env) (runtime : Runtime) (moment : Moment) : Connection :=
  ⟨SqlServers.textServer env moment, env, runtime⟩

def condConnection (env : Env) (conds : SqlTables.Conds (Option SqlConditions.Expr))
    (runtime : Runtime) (moment : Moment) : Connection :=
  ⟨SqlServers.condServer env conds moment, env, runtime⟩

def fieldConnection (env : Env) (runtime : Runtime) (moment : Moment)
    (sat : SqlServers.Reading) : Connection :=
  ⟨SqlServers.fieldServer env sat moment, env, runtime⟩

lemma textConnection_server (env : Env) (runtime : Runtime) (moment : Moment) :
    (textConnection env runtime moment).server = SqlServers.textServer env moment := by
  rw [textConnection]

lemma condConnection_text (env : Env) (runtime : Runtime) (moment : Moment) :
    textConnection env runtime moment =
      condConnection env (SqlServers.textConds env) runtime moment := rfl

lemma condConnection_server (env : Env) (conds : SqlTables.Conds (Option SqlConditions.Expr))
    (runtime : Runtime) (moment : Moment) :
    (condConnection env conds runtime moment).server = SqlServers.condServer env conds moment := by
  rw [condConnection]

/-! Rows as the client library hands them out. -/

/-- The text of a field, or null. -/
def fieldText (env : Env) : Value → Option String
  | .null => none
  | .int n => some (toString n)
  | .text s => some s
  | .json j => some (env.jsonbOut j)

structure PqRow where
  columns : List String
  fields : List (Option String)

def received (env : Env) (r : Result) : List PqRow :=
  r.rows.map (fun row => ⟨r.columns, row.map (fieldText env)⟩)

def PqRow.at (row : PqRow) (i : Nat) : Outcome (Option String) :=
  match row.fields[i]? with
  | some field => .ok field
  | none => .error .rangeError

def PqRow.atName (row : PqRow) (name : String) : Outcome (Option String) :=
  row.at (row.columns.idxOf name)

def asString : Option String → Outcome String
  | some s => .ok s
  | none => .error .nullField

def asInteger (low high : Int) (field : Option String) : Outcome Int := do
  match DecimalText.intValue (← asString field).toList with
  | some n => if low ≤ n ∧ n ≤ high then .ok n else .error .conversion
  | none => .error .conversion

def asLong (field : Option String) : Outcome Int := asInteger (-(2 ^ 63)) (2 ^ 63 - 1) field

def asInt (field : Option String) : Outcome Int :=
  asInteger DecimalText.intMin DecimalText.intMax field

def asSize (field : Option String) : Outcome Nat :=
  (asInteger 0 (2 ^ 64 - 1) field).map Int.toNat

def asJson (runtime : Runtime) (field : Option String) : Outcome Json := do
  match runtime.parse (← asString field) with
  | some j => .ok j
  | none => .error .jsonParse

def single : List PqRow → Outcome PqRow
  | [row] => .ok row
  | _ => .error .unexpectedRows

/-- A statement of a `nontransaction`. -/
def Connection.query (c : Connection) (d : Database schema) (m : SqlModel) :
    Outcome (List PqRow) :=
  match (c.server d m).1 with
  | .ok r => .ok (received c.env r)
  | .error e => .error (.sql e)

/-- `exec_params` or, with `one`, `exec_params1` in a `work` that is then committed. -/
def Connection.work (c : Connection) (d : Database schema) (m : SqlModel) (one : Bool) :
    Outcome (List PqRow) × Database schema :=
  match c.server d m with
  | (.error e, d') => (.error (.sql e), { d with serial := d'.serial })
  | (.ok r, d') =>
    if one ∧ r.rows.length ≠ 1 then (.error .unexpectedRows, { d with serial := d'.serial })
    else (.ok (received c.env r), d')

/-- The id that the single returned row holds. -/
def insertedId (res : Outcome (List PqRow) × Database schema) : Outcome Int × Database schema :=
  (do asLong (← (← single (← res.1)).at 0), res.2)

def committed (res : Outcome (List PqRow) × Database schema) : Outcome Unit × Database schema :=
  (res.1.map (fun _ => ()), res.2)

def count (c : Connection) (d : Database schema) (m : SelectModel) : Outcome Nat := do
  asSize (← (← single (← c.query d (.select m))).at 0)

/-- The total of a page, counted only on request. -/
def total (c : Connection) (d : Database schema) (page : PageRequest) (m : SelectModel) :
    Outcome Nat :=
  if page.hasCount then count c d m else .ok 0

/-- The filter of every operation, on a new select. -/
def filtered (filter : Filter) : SelectModel := applyFilter SelectModel.where_ .new filter

def deleteFrom (table : String) (filter : Filter) : DeleteModel :=
  applyFilter DeleteModel.where_ (DeleteModel.new.from_ [table]) filter

/-- The operations a repository overrides. -/
structure Repository (T : Type) where
  findAll : Connection → (Nat → Database schema) → Filter → PageRequest → Outcome (Page T)
  insert : Connection → Database schema → T → Outcome Int × Database schema
  update : Connection → Database schema → T → Outcome Unit × Database schema
  deleteByFilter : Connection → Database schema → Filter → Outcome Unit × Database schema

namespace Repository

variable {T : Type} (repository : Repository T)

def findOne (c : Connection) (d : Nat → Database schema) (filter : Filter) :
    Outcome (Option T) := do
  let res ← repository.findAll c d filter (PageRequest.of 0 1 false)
  return res.data.head?

def findById (c : Connection) (d : Nat → Database schema) (id : Int) : Outcome (Option T) :=
  repository.findOne c d (Filter.create.add "id" .opEq (.integral id))

def deleteById (c : Connection) (d : Database schema) (id : Int) :
    Outcome Unit × Database schema :=
  repository.deleteByFilter c d (Filter.create.add "id" .opEq (.integral id))

end Repository

namespace RegistryRepository

def selectData (filter : Filter) (page : PageRequest) : SelectModel :=
  ((((filtered filter).select ["id", "created_at", "name", "uuid", "status", "json_data"]).from_
    ["registry"]).offset_ page.offset).limit_ page.size |>.order_by "id"

def selectCount (filter : Filter) : SelectModel :=
  ((filtered filter).select ["COUNT(id)"]).from_ ["registry"]

def decode (runtime : Runtime) (row : PqRow) : Outcome RegistryDo := do
  let id ← asLong (← row.atName "id")
  let createdAt ← asString (← row.at 1)
  let name ← asString (← row.at 2)
  let uuid ← asString (← row.at 3)
  let status ← asInt (← row.at 4)
  let jsonData ← asJson runtime (← row.at 5)
  return ⟨id, createdAt, name, uuid, status, jsonData⟩

def findAll (c : Connection) (d : Nat → Database schema) (filter : Filter) (page : PageRequest) :
    Outcome (Page RegistryDo) := do
  let data ← (← c.query (d 0) (.select (selectData filter page))).mapM (decode c.runtime)
  return ⟨data, ← total c (d 1) page (selectCount filter)⟩

def insertModel (runtime : Runtime) (registry : RegistryDo) : InsertModel :=
  ((((InsertModel.new.insert "name" (.string registry.name)).insert "json_data"
    (.string (runtime.dump registry.jsonData))).insert "uuid" (.func "gen_random_uuid()")).insert
    "updated_at" (.func "now()")).into "registry" |>.returning ["id"]

def insert (c : Connection) (d : Database schema) (registry : RegistryDo) :
    Outcome Int × Database schema :=
  insertedId (c.work d (.insert (insertModel c.runtime registry)) true)

def updateModel (runtime : Runtime) (registry : RegistryDo) : UpdateModel :=
  ((((UpdateModel.new.update "registry").set "name" (.string registry.name)).set "status"
    (.long registry.status)).set "json_data" (.string (runtime.dump registry.jsonData))).where_
    ((Column.of "id").eq (.long registry.id))

def update (c : Connection) (d : Database schema) (registry : RegistryDo) :
    Outcome Unit × Database schema :=
  committed (c.work d (.update (updateModel c.runtime registry)) false)

def deleteByFilter (c : Connection) (d : Database schema) (filter : Filter) :
    Outcome Unit × Database schema :=
  committed (c.work d (.delete (deleteFrom "registry" filter)) false)

def repository : Repository RegistryDo := ⟨findAll, insert, update, deleteByFilter⟩

end RegistryRepository

namespace DeviceRepository

def selectData (filter : Filter) (page : PageRequest) : SelectModel :=
  ((((filtered filter).select ["id", "registry_id", "created_at", "name", "uuid", "status",
    "json_data"]).from_ ["device"]).offset_ page.offset).limit_ page.size |>.order_by "id"

def selectConfiguration (deviceIds : List Int) : SelectModel :=
  ((SelectModel.new.select ["id", "device_id", "created_at", "json_data"]).from_
    ["device_configuration"]).where_ ((Column.of "device_id").in_ (deviceIds.map .long))

def selectCount (filter : Filter) : SelectModel :=
  ((filtered filter).select ["COUNT(id)"]).from_ ["device"]

def decode (runtime : Runtime) (row : PqRow) : Outcome DeviceDo := do
  let id ← asLong (← row.at 0)
  let registryId ← asLong (← row.at 1)
  let createdAt ← asString (← row.at 2)
  let name ← asString (← row.at 3)
  let uuid ← asString (← row.at 4)
  let status ← asInt (← row.at 5)
  let jsonData ← asJson runtime (← row.at 6)
  return { DeviceDo.init with id, registryId, createdAt, name, uuid, status, jsonData }

def decodeConfiguration (runtime : Runtime) (row : PqRow) : Outcome DeviceConfigurationDo := do
  let deviceId ← asLong (← row.at 1)
  let id ← asLong (← row.at 0)
  let createdAt ← asString (← row.at 2)
  let jsonData ← asJson runtime (← row.at 3)
  return ⟨id, deviceId, createdAt, "", 0, jsonData⟩

/-- `find_if` gives the first device of the configuration; nothing checks that there is one. -/
def attach (cfg : DeviceConfigurationDo) : List DeviceDo → Outcome (List DeviceDo)
  | [] => .error .endIterator
  | item :: rest =>
    if item.id = cfg.deviceId then
      .ok ({ item with configuration := item.configuration ++ [cfg] } :: rest)
    else (attach cfg rest).map (item :: ·)

def configure (runtime : Runtime) (data : List DeviceDo) (row : PqRow) :
    Outcome (List DeviceDo) := do
  attach (← decodeConfiguration runtime row) data

/-- The devices with the configurations that the second select gives, if there are devices. -/
def configured (c : Connection) (d : Database schema) (deviceIds : List Int)
    (found : List DeviceDo) : Outcome (List DeviceDo) :=
  if deviceIds = [] then .ok found
  else do
    let rows ← c.query d (.select (selectConfiguration deviceIds))
    rows.foldlM (configure c.runtime) found

def findAll (c : Connection) (d : Nat → Database schema) (filter : Filter) (page : PageRequest) :
    Outcome (Page DeviceDo) := do
  let found ← (← c.query (d 0) (.select (selectData filter page))).mapM (decode c.runtime)
  let data ← configured c (d 1) (found.map DeviceDo.id) found
  return ⟨data, ← total c (d 2) page (selectCount filter)⟩

def insertModel (runtime : Runtime) (model : DeviceDo) : InsertModel :=
  ((((InsertModel.new.insert "name" (.string model.name)).insert "json_data"
    (.string (runtime.dump model.jsonData))).insert "uuid" (.func "gen_random_uuid()")).insert
    "updated_at" (.func "now()")).into "device" |>.returning ["id"]

def insert (c : Connection) (d : Database schema) (model : DeviceDo) :
    Outcome Int × Database schema :=
  insertedId (c.work d (.insert (insertModel c.runtime model)) true)

def updateModel (runtime : Runtime) (model : DeviceDo) : UpdateModel :=
  ((((((UpdateModel.new.update "device").set "name" (.string model.name)).set "createdAt"
    (.string model.createdAt)).set "status" (.long model.status)).set "uuid"
    (.string model.uuid)).set "json_data" (.string (runtime.dump model.jsonData))).where_
    ((Column.of "id").eq (.long model.id))

def update (c : Connection) (d : Database schema) (model : DeviceDo) :
    Outcome Unit × Database schema :=
  committed (c.work d (.update (updateModel c.runtime model)) true)

def deleteByFilter (c : Connection) (d : Database schema) (filter : Filter) :
    Outcome Unit × Database schema :=
  committed (c.work d (.delete (deleteFrom "registry" filter)) false)

def repository : Repository DeviceDo := ⟨findAll, insert, update, deleteByFilter⟩

end DeviceRepository

namespace DeviceTelemetryRepository

def selectData (filter : Filter) (page : PageRequest) : SelectModel :=
  ((((filtered filter).select ["id", "device_id", "created_at", "json_data"]).from_
    ["device_telemetry"]).offset_ page.offset).limit_ page.size |>.order_by "id DESC"

def selectDevices (deviceIds : List Int) : SelectModel :=
  ((SelectModel.new.select ["id", "created_at", "name", "uuid", "status", "json_data"]).from_
    ["device"]).where_ ((Column.of "id").in_ (deviceIds.map .long))

def selectCount (filter : Filter) : SelectModel :=
  ((filtered filter).select ["COUNT(id)"]).from_ ["device_telemetry"]

def decode (runtime : Runtime) (row : PqRow) : Outcome DeviceTelemetryDo := do
  let id ← asLong (← row.at 0)
  let deviceId ← asLong (← row.at 1)
  let createdAt ← asString (← row.at 2)
  let jsonData ← asJson runtime (← row.at 3)
  return ⟨id, deviceId, DeviceDo.init, createdAt, jsonData⟩

def decodeDevice (runtime : Runtime) (row : PqRow) : Outcome DeviceDo := do
  let id ← asLong (← row.at 0)
  let createdAt ← asString (← row.at 1)
  let name ← asString (← row.at 2)
  let uuid ← asString (← row.at 3)
  let status ← asInt (← row.at 4)
  let jsonData ← asJson runtime (← row.at 5)
  return { DeviceDo.init with id, createdAt, name, uuid, status, jsonData }

/-- Every record of the device gets a copy of it. -/
def refer (device : DeviceDo) (record : DeviceTelemetryDo) : DeviceTelemetryDo :=
  if record.deviceId = device.id then { record with refDevice := device } else record

def referRow (runtime : Runtime) (data : List DeviceTelemetryDo) (row : PqRow) :
    Outcome (List DeviceTelemetryDo) := do
  let device ← decodeDevice runtime row
  return data.map (refer device)

/-- The records with the devices that the second select gives, if there are records. -/
def referred (c : Connection) (d : Database schema) (deviceIds : List Int)
    (found : List DeviceTelemetryDo) : Outcome (List DeviceTelemetryDo) :=
  if deviceIds = [] then .ok found
  else do
    let rows ← c.query d (.select (selectDevices deviceIds))
    rows.foldlM (referRow c.runtime) found

def findAll (c : Connection) (d : Nat → Database schema) (filter : Filter) (page : PageRequest) :
    Outcome (Page DeviceTelemetryDo) := do
  let found ← (← c.query (d 0) (.select (selectData filter page))).mapM (decode c.runtime)
  let data ← referred c (d 1) (c.runtime.iterate (found.map DeviceTelemetryDo.deviceId)) found
  return ⟨data, ← total c (d 2) page (selectCount filter)⟩

def insertModel (runtime : Runtime) (model : DeviceTelemetryDo) : InsertModel :=
  ((InsertModel.new.insert "device_id" (.long model.deviceId)).insert "json_data"
    (.string (runtime.dump model.jsonData))).into "device_telemetry" |>.returning ["id"]

def insert (c : Connection) (d : Database schema) (model : DeviceTelemetryDo) :
    Outcome Int × Database schema :=
  insertedId (c.work d (.insert (insertModel c.runtime model)) true)

/-- The body of the function is empty. -/
def update (_ : Connection) (d : Database schema) (_ : DeviceTelemetryDo) :
    Outcome Unit × Database schema := (.ok (), d)

def deleteByFilter (c : Connection) (d : Database schema) (filter : Filter) :
    Outcome Unit × Database schema :=
  committed (c.work d (.delete (deleteFrom "device_telemetry" filter)) false)

def repository : Repository DeviceTelemetryDo := ⟨findAll, insert, update, deleteByFilter⟩

end DeviceTelemetryRepository

/-! The steps of a successful `findAll`. -/

section
variable {c : Connection} {d : Nat → Database schema} {filter : Filter} {page : PageRequest}

lemma registry_findAll_iff {result : Page RegistryDo} :
    RegistryRepository.findAll c d filter page = .ok result ↔
      ∃ rows, c.query (d 0) (.select (RegistryRepository.selectData filter page)) = .ok rows ∧
        rows.mapM (RegistryRepository.decode c.runtime) = .ok result.data ∧
        total c (d 1) page (RegistryRepository.selectCount filter) = .ok result.total := by
  rw [RegistryRepository.findAll]
  simp only [bind_eq_ok]
  constructor
  · rintro ⟨rows, hrows, data, hdata, n, hn, h⟩
    obtain rfl := Except.ok.inj h
    exact ⟨rows, hrows, hdata, hn⟩
  · rintro ⟨rows, hrows, hdata, hn⟩
    exact ⟨rows, hrows, _, hdata, _, hn, rfl⟩

lemma device_findAll_iff {result : Page DeviceDo} :
    DeviceRepository.findAll c d filter page = .ok result ↔
      ∃ rows, c.query (d 0) (.select (DeviceRepository.selectData filter page)) = .ok rows ∧
        ∃ found, rows.mapM (DeviceRepository.decode c.runtime) = .ok found ∧
        DeviceRepository.configured c (d 1) (found.map DeviceDo.id) found = .ok result.data ∧
        total c (d 2) page (DeviceRepository.selectCount filter) = .ok result.total := by
  rw [DeviceRepository.findAll]
  simp only [bind_eq_ok]
  constructor
  · rintro ⟨rows, hrows, found, hfound, data, hdata, n, hn, h⟩
    obtain rfl := Except.ok.inj h
    exact ⟨rows, hrows, found, hfound, hdata, hn⟩
  · rintro ⟨rows, hrows, found, hfound, hdata, hn⟩
    exact ⟨rows, hrows, found, hfound, _, hdata, _, hn, rfl⟩

lemma telemetry_findAll_iff {result : Page DeviceTelemetryDo} :
    DeviceTelemetryRepository.findAll c d filter page = .ok result ↔
      ∃ rows, c.query (d 0) (.select (DeviceTelemetryRepository.selectData filter page)) =
        .ok rows ∧
        ∃ found, rows.mapM (DeviceTelemetryRepository.decode c.runtime) = .ok found ∧
        DeviceTelemetryRepository.referred c (d 1)
          (c.runtime.iterate (found.map DeviceTelemetryDo.deviceId)) found = .ok result.data ∧
        total c (d 2) page (DeviceTelemetryRepository.selectCount filter) = .ok result.total := by
  rw [DeviceTelemetryRepository.findAll]
  simp only [bind_eq_ok]
  constructor
  · rintro ⟨rows, hrows, found, hfound, data, hdata, n, hn, h⟩
    obtain rfl := Except.ok.inj h
    exact ⟨rows, hrows, found, hfound, hdata, hn⟩
  · rintro ⟨rows, hrows, found, hfound, hdata, hn⟩
    exact ⟨rows, hrows, found, hfound, _, hdata, _, hn, rfl⟩

end

/-! Connections that answer the statements of a call alike give the same page. -/

section
variable {c c' : Connection} {d d' : Nat → Database schema} {filter : Filter} {page : PageRequest}

lemma total_congr {s s' : Database schema} {m : SelectModel}
    (h : c.query s (.select m) = c'.query s' (.select m)) :
    total c s page m = total c' s' page m := by
  rw [total, total, count, count, h]

lemma registry_findAll_congr (hruntime : c.runtime = c'.runtime)
    (hdata : c.query (d 0) (.select (RegistryRepository.selectData filter page)) =
      c'.query (d' 0) (.select (RegistryRepository.selectData filter page)))
    (hcount : c.query (d 1) (.select (RegistryRepository.selectCount filter)) =
      c'.query (d' 1) (.select (RegistryRepository.selectCount filter))) :
    RegistryRepository.findAll c d filter page = RegistryRepository.findAll c' d' filter page := by
  rw [RegistryRepository.findAll, RegistryRepository.findAll, hdata, hruntime, total_congr hcount]

lemma device_findAll_congr (hruntime : c.runtime = c'.runtime)
    (hdata : c.query (d 0) (.select (DeviceRepository.selectData filter page)) =
      c'.query (d' 0) (.select (DeviceRepository.selectData filter page)))
    (hsecond : ∀ ids, ids ≠ [] →
      c.query (d 1) (.select (DeviceRepository.selectConfiguration ids)) =
        c'.query (d' 1) (.select (DeviceRepository.selectConfiguration ids)))
    (hcount : c.query (d 2) (.select (DeviceRepository.selectCount filter)) =
      c'.query (d' 2) (.select (DeviceRepository.selectCount filter))) :
    DeviceRepository.findAll c d filter page = DeviceRepository.findAll c' d' filter page := by
  have hconfigured : ∀ ids found, DeviceRepository.configured c (d 1) ids found =
      DeviceRepository.configured c' (d' 1) ids found := by
    intro ids found
    rw [DeviceRepository.configured, DeviceRepository.configured]
    by_cases hids : ids = []
    · rw [if_pos hids, if_pos hids]
    · rw [if_neg hids, if_neg hids, hsecond ids hids, hruntime]
  rw [DeviceRepository.findAll, DeviceRepository.findAll, hdata, hruntime, total_congr hcount]
  simp only [hconfigured]

end

end Repositories
