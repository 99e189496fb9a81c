import RpiRobot.SqlTables

/-!
# The schema of the registry

The five tables of `database.sql`, with the table it calls `registryId` in its
references and inserts read as `registry`. Primary keys and unique columns are
listed together; the indexes change nothing here.
-/

namespace RegistrySchema

open SqlConditions (Row)
open SqlTables

def serialId : ColumnDef := ⟨"id", .int4, true, .serial⟩
def createdAt : ColumnDef := ⟨"created_at", .timestamp, true, .now⟩
def updatedAt : ColumnDef := ⟨"updated_at", .timestamp, true, .now⟩
def status : ColumnDef := ⟨"status", .int4, true, .value (.int 0)⟩
def jsonData : ColumnDef := ⟨"json_data", .jsonb, false, .null⟩

def registry : TableDef where
  name := "registry"
  columns := [serialId, createdAt, updatedAt, ⟨"name", .varchar 64, true, .null⟩,
    ⟨"uuid", .varchar 36, true, .null⟩, status, jsonData]
  unique := ["id", "name", "uuid"]
  references := []

def device : TableDef where
  name := "device"
  columns := [serialId, ⟨"registry_id", .int4, true, .null⟩, createdAt, updatedAt,
    ⟨"name", .varchar 64, true, .null⟩, ⟨"uuid", .varchar 36, true, .null⟩, status, jsonData]
  unique := ["id", "name", "uuid"]
  references := [⟨"registry_id", "registry", "id"⟩]

def registryConfiguration : TableDef where
  name := "registry_configuration"
  columns := [serialId, ⟨"registry_id", .int4, true, .null⟩, createdAt, updatedAt, status,
    jsonData]
  unique := ["id"]
  references := [⟨"registry_id", "registry", "id"⟩]

def deviceTelemetry : TableDef where
  name := "device_telemetry"
  columns := [serialId, ⟨"device_id", .int4, true, .null⟩, createdAt, jsonData]
  unique := ["id"]
  references := [⟨"device_id", "device", "id"⟩]

def deviceConfiguration : TableDef where
  name := "device_configuration"
  columns := [serialId, ⟨"device_id", .int4, true, .null⟩, createdAt, updatedAt, status, jsonData]
  unique := ["id"]
  references := [⟨"device_id", "device", "id"⟩]

def schema : Schema :=
  [registry, device, registryConfiguration, deviceTelemetry, deviceConfiguration]

/-- Tables are known by their names. -/
lemma table_unique {t s : TableDef} (ht : t ∈ schema) (hs : s ∈ schema) (h : t.name = s.name) :
    t = s := by
  have hnodup : (schema.map TableDef.name).Nodup := by decide
  exact List.inj_on_of_nodup_map hnodup ht hs h

/-- Every reference is to an id. -/
lemma reference_key : ∀ t ∈ schema, ∀ ref ∈ t.references, ref.key = "id" := by decide

/-! The rows that `database.sql` inserts. It gives their ids, so no sequence advances. -/

def setup : Moment := ⟨"2023-03-21 12:00:00", "0b2a6c1e-52fd-4d1b-9a55-6c2f6f0a7d10"⟩

def online : Json := .object [("status", .string "online")]

/-- With its members in the order in which jsonb keeps them. -/
def configuration : Json := .object [
  ("http", .object [("port", .integer 8090)]),
  ("logging", .object [("file", .boolean false), ("level", .string "debug"),
    ("console", .boolean true)])]

def shippedRows : String → List Row
  | "registry" => [
    newRow setup registry 1 [("id", .int 1), ("name", .text "smart_home"),
      ("uuid", .text "4d8a3176-c0c1-11ed-afa1-0242ac120002"), ("json_data", .json online)],
    newRow setup registry 1 [("id", .int 2), ("name", .text "crearts-iot"),
      ("uuid", .text "c93af2d0-c0bf-11ed-afa1-0242ac120002"), ("json_data", .json online)]]
  | "device" => [
    newRow setup device 1 [("id", .int 1), ("registry_id", .int 2), ("name", .text "rpi-robot"),
      ("uuid", .text "e114cd7c-c0c4-11ed-afa1-0242ac120002"), ("json_data", .json online)],
    newRow setup device 1 [("id", .int 2), ("registry_id", .int 2), ("name", .text "monitor"),
      ("uuid", .text setup.uuid), ("json_data", .json (.object []))]]
  | "device_configuration" => [
    newRow setup deviceConfiguration 1 [("id", .int 1), ("device_id", .int 1), ("status", .int 1),
      ("json_data", .json configuration)]]
  | _ => []

def shipped : Database schema := ⟨shippedRows, fun _ => 1, by decide⟩

def configurationText : String :=
  "\x7b\"http\": \x7b\"port\": 8090\x7d, \"logging\": \x7b\"file\": false, " ++
    "\"level\": \"debug\", \"console\": true\x7d\x7d"

/-- The text formats on a few of the values around the shipped rows. -/
def shippedEnv : Env where
  jsonbIn
    | "\x7b\x7d" => some (.object [])
    | "\x7b\"status\":\"online\"\x7d" => some online
    | "\x7b\"status\": \"online\"\x7d" => some online
    | _ => none
  jsonbOut
    | .object [] => "\x7b\x7d"
    | .object [("status", .string "online")] => "\x7b\"status\": \"online\"\x7d"
    | .object [("http", .object [("port", .integer 8090)]), ("logging", _)] => configurationText
    | _ => "null"
  timestampIn := some

end RegistrySchema
