import RpiRobot.ListResults
import RpiRobot.RepositoryStatements

/-!
# Decoding rows

What the repositories make of a row of a consistent database: every column but the
JSON one decodes, because the schema gives it a value of the right type.
-/

namespace RowDecoding

open SqlConditions (Value Row)
open SqlTables DomainObjects Repositories RepositoryStatements
open ListResults (bind_eq_ok)
open RegistrySchema (schema)

/-- The client reads the stored value as the JSON value. -/
def ReadsAs (env : Env) (runtime : Runtime) (v : Value) (t : Json) : Prop :=
  ∃ j, v = .json j ∧ runtime.parse (env.jsonbOut j) = some t

/-- The client can read the stored value. Null is no JSON text. -/
def Readable (env : Env) (runtime : Runtime) (v : Value) : Prop := ∃ t, ReadsAs env runtime v t

instance (env : Env) (runtime : Runtime) (v : Value) : Decidable (Readable env runtime v) :=
  match v with
  | .json j => decidable_of_iff ((runtime.parse (env.jsonbOut j)).isSome = true) (by
      simp [Readable, ReadsAs, Option.isSome_iff_exists])
  | .null => .isFalse (by simp [Readable, ReadsAs])
  | .int _ => .isFalse (by simp [Readable, ReadsAs])
  | .text _ => .isFalse (by simp [Readable, ReadsAs])

/-- A row as a select of the columns hands it to the client. -/
def receivedRow (env : Env) (columns : List String) (r : Row) : PqRow :=
  ⟨columns, (columns.map r).map (fieldText env)⟩

lemma received_rows (env : Env) (columns : List String) (rows : List Row) :
    received env ⟨columns, rows.map (fun r => columns.map r)⟩ =
      rows.map (receivedRow env columns) := by
  rw [received, List.map_map]
  rfl

/-! Fields. -/

section
variable {env : Env} {runtime : Runtime} {v : Value}

lemma asInteger_iff {low high : Int} (h : ∃ n, v = .int n ∧ low ≤ n ∧ n ≤ high) (n : Int) :
    asInteger low high (fieldText env v) = .ok n ↔ v = .int n := by
  obtain ⟨m, rfl, hm⟩ := h
  have hv := DecimalText.intValue_toString m
  simp only [asInteger, asString, fieldText, bind, Except.bind, hv, if_pos hm, Except.ok.injEq,
    Value.int.injEq]

lemma asLong_iff (h : ∃ n, v = .int n ∧ DecimalText.intMin ≤ n ∧ n ≤ DecimalText.intMax)
    (n : Int) : asLong (fieldText env v) = .ok n ↔ v = .int n := by
  obtain ⟨m, hm, hr⟩ := h
  rw [DecimalText.intMin, DecimalText.intMax] at hr
  exact asInteger_iff ⟨m, hm, by omega, by omega⟩ n

lemma asInt_iff (h : ∃ n, v = .int n ∧ DecimalText.intMin ≤ n ∧ n ≤ DecimalText.intMax)
    (n : Int) : asInt (fieldText env v) = .ok n ↔ v = .int n := asInteger_iff h n

lemma asString_iff (h : ∃ s, v = .text s) (s : String) :
    asString (fieldText env v) = .ok s ↔ v = .text s := by
  obtain ⟨t, rfl⟩ := h
  simp only [asString, fieldText, Except.ok.injEq, Value.text.injEq]

lemma asJson_iff (h : v = .null ∨ ∃ j, v = .json j) (t : Json) :
    asJson runtime (fieldText env v) = .ok t ↔ ReadsAs env runtime v t := by
  obtain rfl | ⟨j, rfl⟩ := h
  · constructor
    · intro hj
      exact absurd hj (by simp [asJson, asString, fieldText, bind, Except.bind])
    · rintro ⟨j, hj, _⟩
      exact absurd hj (by simp)
  · simp only [asJson, asString, fieldText, bind, Except.bind, ReadsAs, Value.json.injEq,
      exists_eq_left']
    cases runtime.parse (env.jsonbOut j) <;> simp

end

/-! Rows. -/

/-- The record has the values of the row. -/
structure RegistryShows (env : Env) (runtime : Runtime) (o : RegistryDo) (r : Row) : Prop where
  id : r "id" = .int o.id
  createdAt : r "created_at" = .text o.createdAt
  name : r "name" = .text o.name
  uuid : r "uuid" = .text o.uuid
  status : r "status" = .int o.status
  jsonData : ReadsAs env runtime (r "json_data") o.jsonData

structure DeviceShows (env : Env) (runtime : Runtime) (o : DeviceDo) (r : Row) : Prop where
  id : r "id" = .int o.id
  registryId : r "registry_id" = .int o.registryId
  createdAt : r "created_at" = .text o.createdAt
  name : r "name" = .text o.name
  uuid : r "uuid" = .text o.uuid
  status : r "status" = .int o.status
  jsonData : ReadsAs env runtime (r "json_data") o.jsonData

structure ConfigurationShows (env : Env) (runtime : Runtime) (o : DeviceConfigurationDo)
    (r : Row) : Prop where
  id : r "id" = .int o.id
  deviceId : r "device_id" = .int o.deviceId
  createdAt : r "created_at" = .text o.createdAt
  jsonData : ReadsAs env runtime (r "json_data") o.jsonData

structure TelemetryShows (env : Env) (runtime : Runtime) (o : DeviceTelemetryDo) (r : Row) :
    Prop where
  id : r "id" = .int o.id
  deviceId : r "device_id" = .int o.deviceId
  createdAt : r "created_at" = .text o.createdAt
  jsonData : ReadsAs env runtime (r "json_data") o.jsonData

section
variable {env : Env} {runtime : Runtime}

/-- A row shows one record. -/
lemma RegistryShows.unique {o o' : RegistryDo} {r : Row} (h : RegistryShows env runtime o r)
    (h' : RegistryShows env runtime o' r) : o = o' := by
  obtain ⟨j, hj, hread⟩ := h.jsonData
  obtain ⟨j', hj', hread'⟩ := h'.jsonData
  obtain rfl := Value.json.inj (hj.symm.trans hj')
  obtain ⟨id, created, name, uuid, status, json⟩ := o
  obtain rfl : id = o'.id := Value.int.inj (h.id.symm.trans h'.id)
  obtain rfl : created = o'.createdAt := Value.text.inj (h.createdAt.symm.trans h'.createdAt)
  obtain rfl : name = o'.name := Value.text.inj (h.name.symm.trans h'.name)
  obtain rfl : uuid = o'.uuid := Value.text.inj (h.uuid.symm.trans h'.uuid)
  obtain rfl : status = o'.status := Value.int.inj (h.status.symm.trans h'.status)
  obtain rfl : json = o'.jsonData := Option.some.inj (hread.symm.trans hread')
  rfl

end

/-! Rows with values of the right types. -/

/-- An integer of a column. -/
def IntValue (v : Value) : Prop :=
  ∃ n, v = .int n ∧ DecimalText.intMin ≤ n ∧ n ≤ DecimalText.intMax

def TextValue (v : Value) : Prop := ∃ s, v = .text s

def JsonValue (v : Value) : Prop := v = .null ∨ ∃ j, v = .json j

/-- The columns that registries and devices have in common. -/
structure NamedFields (r : Row) : Prop where
  id : IntValue (r "id")
  createdAt : TextValue (r "created_at")
  name : TextValue (r "name")
  uuid : TextValue (r "uuid")
  status : IntValue (r "status")
  jsonData : JsonValue (r "json_data")

/-- The columns that telemetry and configurations have in common. -/
structure OwnedFields (r : Row) : Prop where
  id : IntValue (r "id")
  deviceId : IntValue (r "device_id")
  createdAt : TextValue (r "created_at")
  jsonData : JsonValue (r "json_data")

section
variable {rows : String → List Row} (h : Consistent schema rows) {r : Row}
include h

lemma named_fields {t : TableDef} (ht : t ∈ schema) (hr : r ∈ rows t.name)
    (hc : ∀ c ∈ [RegistrySchema.serialId, RegistrySchema.createdAt,
      ⟨"name", .varchar 64, true, .null⟩, ⟨"uuid", .varchar 36, true, .null⟩,
      RegistrySchema.status, RegistrySchema.jsonData], c ∈ t.columns) : NamedFields r := by
  simp only [List.forall_mem_cons] at hc
  obtain ⟨hid, hcreated, hname, huuid, hstatus, hjson, _⟩ := hc
  exact {
    id := int4_value h ht hid hr rfl rfl
    createdAt := text_value h ht hcreated hr rfl (by decide)
    name := text_value h ht hname hr rfl (by decide)
    uuid := text_value h ht huuid hr rfl (by decide)
    status := int4_value h ht hstatus hr rfl rfl
    jsonData := json_value h ht hjson hr rfl }

lemma owned_fields {t : TableDef} (ht : t ∈ schema) (hr : r ∈ rows t.name)
    (hc : ∀ c ∈ [RegistrySchema.serialId, ⟨"device_id", .int4, true, .null⟩,
      RegistrySchema.createdAt, RegistrySchema.jsonData], c ∈ t.columns) : OwnedFields r := by
  simp only [List.forall_mem_cons] at hc
  obtain ⟨hid, hdevice, hcreated, hjson, _⟩ := hc
  exact {
    id := int4_value h ht hid hr rfl rfl
    deviceId := int4_value h ht hdevice hr rfl rfl
    createdAt := text_value h ht hcreated hr rfl (by decide)
    jsonData := json_value h ht hjson hr rfl }

lemma registry_fields (hr : r ∈ rows "registry") : NamedFields r :=
  named_fields h (t := RegistrySchema.registry) (by simp [schema]) hr
    (by simp [RegistrySchema.registry])

lemma device_fields (hr : r ∈ rows "device") : NamedFields r :=
  named_fields h (t := RegistrySchema.device) (by simp [schema]) hr
    (by simp [RegistrySchema.device])

lemma device_registryId (hr : r ∈ rows "device") : IntValue (r "registry_id") :=
  int4_value h (t := RegistrySchema.device) (by simp [schema])
    (c := ⟨"registry_id", .int4, true, .null⟩) (by simp [RegistrySchema.device]) hr rfl rfl

lemma configuration_fields (hr : r ∈ rows "device_configuration") : OwnedFields r :=
  owned_fields h (t := RegistrySchema.deviceConfiguration) (by simp [schema]) hr
    (by simp [RegistrySchema.deviceConfiguration])

lemma telemetry_fields (hr : r ∈ rows "device_telemetry") : OwnedFields r :=
  owned_fields h (t := RegistrySchema.deviceTelemetry) (by simp [schema]) hr
    (by simp [RegistrySchema.deviceTelemetry])

end

/-! The decoders. -/

section
variable {env : Env} {runtime : Runtime} {rows : String → List Row}
  (h : Consistent schema rows) {r : Row}
include h

theorem registry_decode (hr : r ∈ rows "registry") (o : RegistryDo) :
    RegistryRepository.decode runtime (receivedRow env registryColumns r) = .ok o ↔
      RegistryShows env runtime o r := by
  have f := registry_fields h hr
  change (do
    let id ← asLong (fieldText env (r "id"))
    let createdAt ← asString (fieldText env (r "created_at"))
    let name ← asString (fieldText env (r "name"))
    let uuid ← asString (fieldText env (r "uuid"))
    let status ← asInt (fieldText env (r "status"))
    let jsonData ← asJson runtime (fieldText env (r "json_data"))
    return (⟨id, createdAt, name, uuid, status, jsonData⟩ : RegistryDo)) = .ok o ↔ _
  simp only [bind_eq_ok]
  constructor
  · rintro ⟨id, hid, created, hcreated, name, hname, uuid, huuid, status, hstatus, json, hjson, ho⟩
    obtain rfl := Except.ok.inj ho
    exact ⟨(asLong_iff f.id _).mp hid, (asString_iff f.createdAt _).mp hcreated,
      (asString_iff f.name _).mp hname, (asString_iff f.uuid _).mp huuid,
      (asInt_iff f.status _).mp hstatus, (asJson_iff f.jsonData _).mp hjson⟩
  · rintro ⟨hid, hcreated, hname, huuid, hstatus, hjson⟩
    exact ⟨_, (asLong_iff f.id _).mpr hid, _, (asString_iff f.createdAt _).mpr hcreated,
      _, (asString_iff f.name _).mpr hname, _, (asString_iff f.uuid _).mpr huuid,
      _, (asInt_iff f.status _).mpr hstatus, _, (asJson_iff f.jsonData _).mpr hjson, rfl⟩

/-- The other members keep their initial values. -/
theorem device_decode (hr : r ∈ rows "device") (o : DeviceDo) :
    DeviceRepository.decode runtime (receivedRow env deviceColumns r) = .ok o ↔
      DeviceShows env runtime o r ∧ o.updatedAt = "" ∧ o.configuration = [] := by
  have f := device_fields h hr
  change (do
    let id ← asLong (fieldText env (r "id"))
    let registryId ← asLong (fieldText env (r "registry_id"))
    let createdAt ← asString (fieldText env (r "created_at"))
    let name ← asString (fieldText env (r "name"))
    let uuid ← asString (fieldText env (r "uuid"))
    let status ← asInt (fieldText env (r "status"))
    let jsonData ← asJson runtime (fieldText env (r "json_data"))
    return (⟨id, registryId, createdAt, "", name, uuid, status, jsonData, []⟩ : DeviceDo)) =
      .ok o ↔ _
  simp only [bind_eq_ok]
  constructor
  · rintro ⟨id, hid, rid, hrid, created, hcreated, name, hname, uuid, huuid, status, hstatus, json,
      hjson, ho⟩
    obtain rfl := Except.ok.inj ho
    exact ⟨⟨(asLong_iff f.id _).mp hid, (asLong_iff (device_registryId h hr) _).mp hrid,
      (asString_iff f.createdAt _).mp hcreated, (asString_iff f.name _).mp hname,
      (asString_iff f.uuid _).mp huuid, (asInt_iff f.status _).mp hstatus,
      (asJson_iff f.jsonData _).mp hjson⟩, rfl, rfl⟩
  · rintro ⟨⟨hid, hrid, hcreated, hname, huuid, hstatus, hjson⟩, hupdated, hconf⟩
    refine ⟨_, (asLong_iff f.id _).mpr hid, _, (asLong_iff (device_registryId h hr) _).mpr hrid,
      _, (asString_iff f.createdAt _).mpr hcreated, _, (asString_iff f.name _).mpr hname,
      _, (asString_iff f.uuid _).mpr huuid, _, (asInt_iff f.status _).mpr hstatus,
      _, (asJson_iff f.jsonData _).mpr hjson, ?_⟩
    rw [← hupdated, ← hconf]
    rfl

/-- A device that telemetry refers to comes without its registry. -/
theorem ref_decode (hr : r ∈ rows "device") (o : DeviceDo) :
    DeviceTelemetryRepository.decodeDevice runtime (receivedRow env refColumns r) = .ok o ↔
      RegistryShows env runtime ⟨o.id, o.createdAt, o.name, o.uuid, o.status, o.jsonData⟩ r ∧
        o.registryId = 0 ∧ o.updatedAt = "" ∧ o.configuration = [] := by
  have f := device_fields h hr
  change (do
    let id ← asLong (fieldText env (r "id"))
    let createdAt ← asString (fieldText env (r "created_at"))
    let name ← asString (fieldText env (r "name"))
    let uuid ← asString (fieldText env (r "uuid"))
    let status ← asInt (fieldText env (r "status"))
    let jsonData ← asJson runtime (fieldText env (r "json_data"))
    return (⟨id, 0, createdAt, "", name, uuid, status, jsonData, []⟩ : DeviceDo)) = .ok o ↔ _
  simp only [bind_eq_ok]
  constructor
  · rintro ⟨id, hid, created, hcreated, name, hname, uuid, huuid, status, hstatus, json, hjson, ho⟩
    obtain rfl := Except.ok.inj ho
    exact ⟨⟨(asLong_iff f.id _).mp hid, (asString_iff f.createdAt _).mp hcreated,
      (asString_iff f.name _).mp hname, (asString_iff f.uuid _).mp huuid,
      (asInt_iff f.status _).mp hstatus, (asJson_iff f.jsonData _).mp hjson⟩, rfl, rfl, rfl⟩
  · rintro ⟨⟨hid, hcreated, hname, huuid, hstatus, hjson⟩, hregistry, hupdated, hconf⟩
    refine ⟨_, (asLong_iff f.id _).mpr hid, _, (asString_iff f.createdAt _).mpr hcreated,
      _, (asString_iff f.name _).mpr hname, _, (asString_iff f.uuid _).mpr huuid,
      _, (asInt_iff f.status _).mpr hstatus, _, (asJson_iff f.jsonData _).mpr hjson, ?_⟩
    rw [← hregistry, ← hupdated, ← hconf]
    rfl

theorem configuration_decode (hr : r ∈ rows "device_configuration") (o : DeviceConfigurationDo) :
    DeviceRepository.decodeConfiguration runtime (receivedRow env configurationColumns r) = .ok o ↔
      ConfigurationShows env runtime o r ∧ o.updatedAt = "" ∧ o.status = 0 := by
  have f := configuration_fields h hr
  change (do
    let deviceId ← asLong (fieldText env (r "device_id"))
    let id ← asLong (fieldText env (r "id"))
    let createdAt ← asString (fieldText env (r "created_at"))
    let jsonData ← asJson runtime (fieldText env (r "json_data"))
    return (⟨id, deviceId, createdAt, "", 0, jsonData⟩ : DeviceConfigurationDo)) = .ok o ↔ _
  simp only [bind_eq_ok]
  constructor
  · rintro ⟨device, hdevice, id, hid, created, hcreated, json, hjson, ho⟩
    obtain rfl := Except.ok.inj ho
    exact ⟨⟨(asLong_iff f.id _).mp hid, (asLong_iff f.deviceId _).mp hdevice,
      (asString_iff f.createdAt _).mp hcreated, (asJson_iff f.jsonData _).mp hjson⟩, rfl, rfl⟩
  · rintro ⟨⟨hid, hdevice, hcreated, hjson⟩, hupdated, hstatus⟩
    refine ⟨_, (asLong_iff f.deviceId _).mpr hdevice, _, (asLong_iff f.id _).mpr hid,
      _, (asString_iff f.createdAt _).mpr hcreated, _, (asJson_iff f.jsonData _).mpr hjson, ?_⟩
    rw [← hupdated, ← hstatus]
    rfl

theorem telemetry_decode (hr : r ∈ rows "device_telemetry") (o : DeviceTelemetryDo) :
    DeviceTelemetryRepository.decode runtime (receivedRow env telemetryColumns r) = .ok o ↔
      TelemetryShows env runtime o r ∧ o.refDevice = DeviceDo.init := by
  have f := telemetry_fields h hr
  change (do
    let id ← asLong (fieldText env (r "id"))
    let deviceId ← asLong (fieldText env (r "device_id"))
    let createdAt ← asString (fieldText env (r "created_at"))
    let jsonData ← asJson runtime (fieldText env (r "json_data"))
    return (⟨id, deviceId, DeviceDo.init, createdAt, jsonData⟩ : DeviceTelemetryDo)) = .ok o ↔ _
  simp only [bind_eq_ok]
  constructor
  · rintro ⟨id, hid, device, hdevice, created, hcreated, json, hjson, ho⟩
    obtain rfl := Except.ok.inj ho
    exact ⟨⟨(asLong_iff f.id _).mp hid, (asLong_iff f.deviceId _).mp hdevice,
      (asString_iff f.createdAt _).mp hcreated, (asJson_iff f.jsonData _).mp hjson⟩, rfl⟩
  · rintro ⟨⟨hid, hdevice, hcreated, hjson⟩, href⟩
    refine ⟨_, (asLong_iff f.id _).mpr hid, _, (asLong_iff f.deviceId _).mpr hdevice,
      _, (asString_iff f.createdAt _).mpr hcreated, _, (asJson_iff f.jsonData _).mpr hjson, ?_⟩
    rw [← href]
    rfl

/-! Which rows can be decoded. -/

lemma registry_decode_iff (hr : r ∈ rows "registry") :
    (∃ o, RegistryRepository.decode runtime (receivedRow env registryColumns r) = .ok o) ↔
      Readable env runtime (r "json_data") := by
  obtain ⟨⟨id, hid, _⟩, ⟨created, hcreated⟩, ⟨name, hname⟩, ⟨uuid, huuid⟩, ⟨status, hstatus, _⟩,
    _⟩ :=
    registry_fields h hr
  constructor
  · rintro ⟨o, ho⟩
    exact ⟨_, ((registry_decode h hr o).mp ho).jsonData⟩
  · rintro ⟨t, ht⟩
    exact ⟨⟨id, created, name, uuid, status, t⟩, (registry_decode h hr _).mpr
      ⟨hid, hcreated, hname, huuid, hstatus, ht⟩⟩

variable (env runtime) in
lemma device_decode_iff (hr : r ∈ rows "device") :
    (∃ o, DeviceRepository.decode runtime (receivedRow env deviceColumns r) = .ok o) ↔
      Readable env runtime (r "json_data") := by
  obtain ⟨⟨id, hid, _⟩, ⟨created, hcreated⟩, ⟨name, hname⟩, ⟨uuid, huuid⟩, ⟨status, hstatus, _⟩,
    _⟩ :=
    device_fields h hr
  obtain ⟨registry, hregistry, _⟩ := device_registryId h hr
  constructor
  · rintro ⟨o, ho⟩
    exact ⟨_, ((device_decode h hr o).mp ho).1.jsonData⟩
  · rintro ⟨t, ht⟩
    exact ⟨⟨id, registry, created, "", name, uuid, status, t, []⟩, (device_decode h hr _).mpr
      ⟨⟨hid, hregistry, hcreated, hname, huuid, hstatus, ht⟩, rfl, rfl⟩⟩

lemma ref_decode_iff (hr : r ∈ rows "device") :
    (∃ o, DeviceTelemetryRepository.decodeDevice runtime (receivedRow env refColumns r) = .ok o) ↔
      Readable env runtime (r "json_data") := by
  obtain ⟨⟨id, hid, _⟩, ⟨created, hcreated⟩, ⟨name, hname⟩, ⟨uuid, huuid⟩, ⟨status, hstatus, _⟩,
    _⟩ :=
    device_fields h hr
  constructor
  · rintro ⟨o, ho⟩
    exact ⟨_, ((ref_decode h hr o).mp ho).1.jsonData⟩
  · rintro ⟨t, ht⟩
    exact ⟨⟨id, 0, created, "", name, uuid, status, t, []⟩, (ref_decode h hr _).mpr
      ⟨⟨hid, hcreated, hname, huuid, hstatus, ht⟩, rfl, rfl, rfl⟩⟩

lemma configuration_decode_iff (hr : r ∈ rows "device_configuration") :
    (∃ o, DeviceRepository.decodeConfiguration runtime (receivedRow env configurationColumns r) =
      .ok o) ↔ Readable env runtime (r "json_data") := by
  obtain ⟨⟨id, hid, _⟩, ⟨device, hdevice, _⟩, ⟨created, hcreated⟩, _⟩ := configuration_fields h hr
  constructor
  · rintro ⟨o, ho⟩
    exact ⟨_, ((configuration_decode h hr o).mp ho).1.jsonData⟩
  · rintro ⟨t, ht⟩
    exact ⟨⟨id, device, created, "", 0, t⟩, (configuration_decode h hr _).mpr
      ⟨⟨hid, hdevice, hcreated, ht⟩, rfl, rfl⟩⟩

variable (env runtime) in
lemma telemetry_decode_iff (hr : r ∈ rows "device_telemetry") :
    (∃ o, DeviceTelemetryRepository.decode runtime (receivedRow env telemetryColumns r) = .ok o) ↔
      Readable env runtime (r "json_data") := by
  obtain ⟨⟨id, hid, _⟩, ⟨device, hdevice, _⟩, ⟨created, hcreated⟩, _⟩ := telemetry_fields h hr
  constructor
  · rintro ⟨o, ho⟩
    exact ⟨_, ((telemetry_decode h hr o).mp ho).1.jsonData⟩
  · rintro ⟨t, ht⟩
    exact ⟨⟨id, device, DeviceDo.init, created, t⟩, (telemetry_decode h hr _).mpr
      ⟨⟨hid, hdevice, hcreated, ht⟩, rfl⟩⟩

end

end RowDecoding
