import RpiRobot.DecimalText
import RpiRobot.JsonValue

/-!
# Domain objects

The records of `RegistryRepository.h` and `DeviceDomainObjects.h` and their JSON, as the
generated `to_json` and `from_json` write and read it member by member.
-/

namespace DomainObjects

structure RegistryDo where
  id : Int
  createdAt : String
  name : String
  uuid : String
  status : Int
  jsonData : Json

structure DeviceConfigurationDo where
  id : Int
  deviceId : Int
  createdAt : String
  updatedAt : String
  status : Int
  jsonData : Json

structure DeviceDo where
  id : Int
  registryId : Int
  createdAt : String
  updatedAt : String
  name : String
  uuid : String
  status : Int
  jsonData : Json
  configuration : List DeviceConfigurationDo

structure DeviceTelemetryDo where
  id : Int
  deviceId : Int
  refDevice : DeviceDo
  createdAt : String
  jsonData : Json

/-- A device as its member initialisers leave it. -/
def DeviceDo.init : DeviceDo := ⟨0, 0, "", "", "", "", 0, .null, []⟩

/-- `get<long>`; a fraction is cut off and a value too large wraps. -/
def getLong : Json → Option Int
  | .integer n => some (n.bmod (2 ^ 64))
  | .float q => some ((q.num.tdiv q.den).bmod (2 ^ 64))
  | _ => none

/-- `get<int>`, which also takes a boolean. -/
def getInt : Json → Option Int
  | .integer n => some (n.bmod (2 ^ 32))
  | .float q => some ((q.num.tdiv q.den).bmod (2 ^ 32))
  | .boolean b => some (if b then 1 else 0)
  | _ => none

def getString : Json → Option String
  | .string s => some s
  | _ => none

def getArray : Json → Option (List Json)
  | .array items => some items
  | _ => none

/-- Every listed member has to be there and to have its type. -/
def RegistryDo.fromJson (j : Json) : Option RegistryDo := do
  let id ← getLong (← j.member? "id")
  let createdAt ← getString (← j.member? "createdAt")
  let name ← getString (← j.member? "name")
  let uuid ← getString (← j.member? "uuid")
  let status ← getInt (← j.member? "status")
  let jsonData ← j.member? "json_data"
  return ⟨id, createdAt, name, uuid, status, jsonData⟩

/-- An object keeps its members in the order of their keys. -/
def RegistryDo.toJson (r : RegistryDo) : Json :=
  .object [("createdAt", .string r.createdAt), ("id", .integer r.id), ("json_data", r.jsonData),
    ("name", .string r.name), ("status", .integer r.status), ("uuid", .string r.uuid)]

/-- The status is not listed, so it keeps its initial value. -/
def DeviceConfigurationDo.fromJson (j : Json) : Option DeviceConfigurationDo := do
  let id ← getLong (← j.member? "id")
  let deviceId ← getLong (← j.member? "deviceId")
  let createdAt ← getString (← j.member? "createdAt")
  let updatedAt ← getString (← j.member? "updatedAt")
  let jsonData ← j.member? "json_data"
  return ⟨id, deviceId, createdAt, updatedAt, 0, jsonData⟩

def DeviceConfigurationDo.toJson (o : DeviceConfigurationDo) : Json :=
  .object [("createdAt", .string o.createdAt), ("deviceId", .integer o.deviceId),
    ("id", .integer o.id), ("json_data", o.jsonData), ("updatedAt", .string o.updatedAt)]

def DeviceDo.fromJson (j : Json) : Option DeviceDo := do
  let id ← getLong (← j.member? "id")
  let registryId ← getLong (← j.member? "registryId")
  let createdAt ← getString (← j.member? "createdAt")
  let updatedAt ← getString (← j.member? "updatedAt")
  let name ← getString (← j.member? "name")
  let uuid ← getString (← j.member? "uuid")
  let status ← getInt (← j.member? "status")
  let jsonData ← j.member? "json_data"
  let items ← getArray (← j.member? "configuration")
  let configuration ← items.mapM DeviceConfigurationDo.fromJson
  return ⟨id, registryId, createdAt, updatedAt, name, uuid, status, jsonData, configuration⟩

def DeviceDo.toJson (o : DeviceDo) : Json :=
  .object [("configuration", .array (o.configuration.map DeviceConfigurationDo.toJson)),
    ("createdAt", .string o.createdAt), ("id", .integer o.id), ("json_data", o.jsonData),
    ("name", .string o.name), ("registryId", .integer o.registryId),
    ("status", .integer o.status), ("updatedAt", .string o.updatedAt), ("uuid", .string o.uuid)]

def DeviceTelemetryDo.fromJson (j : Json) : Option DeviceTelemetryDo := do
  let id ← getLong (← j.member? "id")
  let deviceId ← getLong (← j.member? "deviceId")
  let refDevice ← DeviceDo.fromJson (← j.member? "refDevice")
  let createdAt ← getString (← j.member? "createdAt")
  let jsonData ← j.member? "json_data"
  return ⟨id, deviceId, refDevice, createdAt, jsonData⟩

def DeviceTelemetryDo.toJson (o : DeviceTelemetryDo) : Json :=
  .object [("createdAt", .string o.createdAt), ("deviceId", .integer o.deviceId),
    ("id", .integer o.id), ("json_data", o.jsonData), ("refDevice", o.refDevice.toJson)]

/-- What `toJson` writes `fromJson` reads, for values of the C++ types. -/
lemma fromJson_toJson {r : RegistryDo} (hid : -(2 ^ 63) ≤ r.id ∧ r.id < 2 ^ 63)
    (hstatus : DecimalText.intMin ≤ r.status ∧ r.status ≤ DecimalText.intMax) :
    RegistryDo.fromJson r.toJson = some r := by
  rw [DecimalText.intMin, DecimalText.intMax] at hstatus
  have hlong : r.id.bmod (2 ^ 64) = r.id := Int.bmod_eq_of_le (by omega) (by omega)
  have hint : r.status.bmod (2 ^ 32) = r.status := Int.bmod_eq_of_le (by omega) (by omega)
  change some (RegistryDo.mk (r.id.bmod (2 ^ 64)) r.createdAt r.name r.uuid
    (r.status.bmod (2 ^ 32)) r.jsonData) = some r
  rw [hlong, hint]

/-- A decoded status is an `int`. -/
lemma status_range {j : Json} {r : RegistryDo} (h : RegistryDo.fromJson j = some r) :
    DecimalText.intMin ≤ r.status ∧ r.status ≤ DecimalText.intMax := by
  have hint : ∀ k n, getInt k = some n → DecimalText.intMin ≤ n ∧ n ≤ DecimalText.intMax := by
    intro k n hn
    have hbmod : ∀ m : Int, -2147483648 ≤ m.bmod (2 ^ 32) ∧ m.bmod (2 ^ 32) ≤ 2147483647 := by
      intro m
      have hlow := Int.le_bmod (x := m) (m := 2 ^ 32) (by decide)
      have hhigh := Int.bmod_le (x := m) (m := 2 ^ 32) (by decide)
      norm_num at hlow hhigh ⊢
      omega
    rw [DecimalText.intMin, DecimalText.intMax]
    cases k with
    | integer m => obtain rfl := Option.some.inj hn; exact hbmod m
    | float q => obtain rfl := Option.some.inj hn; exact hbmod _
    | boolean b => obtain rfl := Option.some.inj hn; cases b <;> decide
    | null => exact absurd hn (by simp [getInt])
    | string s => exact absurd hn (by simp [getInt])
    | array items => exact absurd hn (by simp [getInt])
    | object members => exact absurd hn (by simp [getInt])
  simp only [RegistryDo.fromJson, Option.bind_eq_bind, Option.bind_eq_some_iff, Option.pure_def,
    Option.some.injEq] at h
  obtain ⟨_, _, _, _, _, _, _, _, _, _, _, _, _, _, _, _, _, _, status, hstatus, _, _, rfl⟩ := h
  exact hint _ _ hstatus

end DomainObjects
