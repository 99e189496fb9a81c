import RpiRobot.TextWrites

/-!
# Inserts read back

An insert adds one row, and the id it returns finds the inserted data. The registry
and the telemetry insert keep this promise as long as the sequence gives a free id.
The device insert leaves out the registry, which the schema demands, and so never
inserts anything.
-/

namespace InsertReadBack

open SqlConditions (Row Value)
open SqlBuilder SqlTables SqlServers BuilderStatements
open StringLiterals (QuoteFree)
open RequestParams DomainObjects Repositories RepositoryStatements FieldQueries
open RowDecoding SecondSelects TextQueries TextWrites
open RegistrySchema (schema)

-- Without this the unifier tries to parse the text of a statement.
attribute [local irreducible] textServer

/-! What the schema admits. -/

/-- A name and a JSON value for a new row of a table with unique names. -/
structure NamedAdmitted (env : Env) (runtime : Runtime) (d : Database schema) (table : String)
    (name : String) (jsonData : Json) : Prop where
  quoteFree : QuoteFree name.toList
  nulFree : NulFree name
  short : name.length ≤ 64
  unused : ∀ r ∈ d.rows table, r "name" ≠ .text name
  dumpQuoteFree : QuoteFree (runtime.dump jsonData).toList
  stored : Stored env runtime jsonData

/-- What `gen_random_uuid` promises. -/
structure FreshUuid (moment : Moment) (d : Database schema) (table : String) : Prop where
  short : moment.uuid.length ≤ 36
  unused : ∀ r ∈ d.rows table, r "uuid" ≠ .text moment.uuid

structure DeviceAdmitted (env : Env) (runtime : Runtime) (d : Database schema) (m : DeviceDo) :
    Prop where
  named : NamedAdmitted env runtime d "device" m.name m.jsonData
  registry : ∃ r ∈ d.rows "registry", r "id" = .int m.registryId

structure TelemetryAdmitted (env : Env) (runtime : Runtime) (d : Database schema)
    (m : DeviceTelemetryDo) : Prop where
  device : ∃ r ∈ d.rows "device", r "id" = .int m.deviceId
  dumpQuoteFree : QuoteFree (runtime.dump m.jsonData).toList
  stored : Stored env runtime m.jsonData

/-- The next id of the sequence is an integer of the column that no row has. -/
structure Fresh (d : Database schema) (table : String) : Prop where
  low : DecimalText.intMin ≤ d.serial table
  high : d.serial table ≤ DecimalText.intMax
  unused : ∀ r ∈ d.rows table, r "id" ≠ .int (d.serial table)

/-- One new row, whose id finds the data that was inserted. -/
def ReadBack {T : Type} (repository : Repository T) (own : T → T → Prop) (c : Connection)
    (d : Database schema) (table : String) (m : T) : Prop :=
  ∃ id d' row o, repository.insert c d m = (.ok id, d') ∧
    d'.rows = Function.update d.rows table (d.rows table ++ [row]) ∧ row "id" = .int id ∧
    repository.findById c (fun _ => d') id = .ok (some o) ∧ own m o

def registryOwn (m o : RegistryDo) : Prop := o.name = m.name ∧ o.jsonData = m.jsonData

def deviceOwn (m o : DeviceDo) : Prop :=
  o.name = m.name ∧ o.registryId = m.registryId ∧ o.jsonData = m.jsonData

def telemetryOwn (m o : DeviceTelemetryDo) : Prop :=
  o.deviceId = m.deviceId ∧ o.jsonData = m.jsonData

/-! The rows of the inserts. -/

/-- The values of a new registry or device. -/
def namedAssigned (moment : Moment) (name : String) (j : Json) : List (String × Value) :=
  [("name", .text name), ("json_data", .json j), ("uuid", .text moment.uuid),
    ("updated_at", .text moment.now)]

def telemetryAssigned (deviceId : Int) (j : Json) : List (String × Value) :=
  [("device_id", .int deviceId), ("json_data", .json j)]

section
variable {env : Env} {runtime : Runtime} {moment : Moment} {d : Database schema}

lemma named_assignments {t : TableDef}
    (hname : column t "name" = .ok ⟨"name", .varchar 64, true, .null⟩)
    (hjson : column t "json_data" = .ok RegistrySchema.jsonData)
    (huuid : column t "uuid" = .ok ⟨"uuid", .varchar 36, true, .null⟩)
    (hupdated : column t "updated_at" = .ok RegistrySchema.updatedAt)
    {name json : String} {j : Json} (hn : name.length ≤ 64) (hu : moment.uuid.length ≤ 36)
    (hj : env.jsonbIn json = some j) :
    assignments env moment t (namedColumns.zip (namedValues name json)) =
      .ok (namedAssigned moment name j) :=
  assignments_iff.mpr (.cons ⟨rfl, _, hname, cast_text hn⟩ (.cons ⟨rfl, _, hjson, cast_json hj⟩
    (.cons ⟨rfl, _, huuid, cast_uuid hu⟩ (.cons ⟨rfl, _, hupdated, rfl⟩ .nil))))

lemma nulFree_named {name json table : String} (hn : NulFree name) (hj : NulFree json)
    (ht : NulFree table) :
    NulFree
      (((((InsertModel.new.insert "name" (.string name)).insert "json_data" (.string json)).insert
        "uuid" (.func "gen_random_uuid()")).insert "updated_at" (.func "now()")).into table
        |>.returning ["id"]).str := by
  refine nulFree_insert ht (show ∀ c ∈ namedColumns, NulFree c by decide) ?_
    (show ∀ c ∈ ["id"], NulFree c by decide)
  change ∀ v ∈ [toValue (.string name), toValue (.string json), "gen_random_uuid()", "now()"],
    NulFree v
  rw [List.forall_mem_cons, List.forall_mem_cons]
  exact ⟨nulFree_string hn, nulFree_string hj, by decide⟩

section
variable {m : RegistryDo} {j : Json}

lemma registry_assigns (h : NamedAdmitted env runtime d "registry" m.name m.jsonData)
    (hu : moment.uuid.length ≤ 36) (hj : env.jsonbIn (runtime.dump m.jsonData) = some j) :
    Assigns env moment RegistrySchema.registry (RegistryRepository.insertModel runtime m)
      (namedAssigned moment m.name j) where
  reads := ⟨namedColumns, namedValues m.name (runtime.dump m.jsonData),
    renders_registry_insert runtime h.quoteFree h.dumpQuoteFree, rfl, by decide, by decide,
    named_assignments rfl rfl rfl rfl h.short hu hj⟩
  id := rfl
  nulFree := nulFree_named h.nulFree (runtime.dump_nulFree _) (by decide)

/-- The new registry row. -/
abbrev registryRow (moment : Moment) (d : Database schema) (m : RegistryDo) (j : Json) : Row :=
  addedRow registryListing moment d (namedAssigned moment m.name j)

lemma fresh_of_consistent (l : Listing) {row : Row} (hid : row "id" = .int (d.serial l.own.name))
    (h : Consistent schema (addedRows l d row)) : Fresh d l.own.name := by
  obtain ⟨hlow, hhigh⟩ := id_range l hid h
  refine ⟨hlow, hhigh, fun r hr hrid => ?_⟩
  refine new_key l.mem h l.unique (k := .int (d.serial l.own.name)) ?_ r hr ?_
  · rw [hid, keyOf]
  · rw [hrid, keyOf]

lemma registry_consistent_iff (h : NamedAdmitted env runtime d "registry" m.name m.jsonData)
    (hu : FreshUuid moment d "registry") :
    Consistent schema (addedRows registryListing d (registryRow moment d m j)) ↔
      Fresh d "registry" := by
  constructor
  · exact fresh_of_consistent registryListing rfl
  · intro hfresh
    refine consistent_append d.consistent (fun t ht hn => ?_)
    obtain rfl : t = RegistrySchema.registry := RegistrySchema.table_unique ht (.head _) hn
    refine ⟨?_, ?_, fun ref href => absurd href List.not_mem_nil⟩
    · have hid : ColumnType.admits .int4 (.int (d.serial "registry")) = true :=
        decide_eq_true ⟨hfresh.low, hfresh.high⟩
      have hname : ColumnType.admits (.varchar 64) (.text m.name) = true := decide_eq_true h.short
      have huuid : ColumnType.admits (.varchar 36) (.text moment.uuid) = true :=
        decide_eq_true hu.short
      refine List.all_eq_true.mpr ?_
      simp only [RegistrySchema.registry, List.forall_mem_cons]
      exact ⟨hid, rfl, rfl, hname, huuid, rfl, rfl, fun c hc => absurd hc List.not_mem_nil⟩
    · intro col hcol k hk hmem
      obtain ⟨r, hr, hrk⟩ := mem_keys.mp hmem
      simp only [RegistrySchema.registry, List.mem_cons, List.not_mem_nil, or_false] at hcol
      rcases hcol with rfl | rfl | rfl
      · obtain rfl : Key.int (d.serial "registry") = k := Option.some.inj hk
        exact hfresh.unused r hr (keyOf_int.mp hrk)
      · obtain rfl : Key.text m.name = k := Option.some.inj hk
        exact h.unused r hr (keyOf_text.mp hrk)
      · obtain rfl : Key.text moment.uuid = k := Option.some.inj hk
        exact hu.unused r hr (keyOf_text.mp hrk)

variable (moment) in
/-- The new row is found by its id. -/
lemma registry_found (hserial : DecimalText.intMin ≤ d.serial "registry" ∧
      d.serial "registry" ≤ DecimalText.intMax) (d' : Database schema)
    (hd' : d'.rows = addedRows registryListing d (registryRow moment d m j))
    (hj : runtime.parse (env.jsonbOut j) = some m.jsonData) :
    ∃ o, RegistryRepository.repository.findById (textConnection env runtime moment) (fun _ => d')
      (d.serial "registry") = .ok (some o) ∧ registryOwn m o := by
  have hmem : registryRow moment d m j ∈ d'.rows "registry" := by
    rw [hd']
    exact new_mem _
  have hlooks : Looks env RegistrySchema.registry d' (Filter.create.add "id" .opEq
      (.integral (d.serial "registry"))) "id" (.int (d.serial "registry")) :=
    looks_number FilterConditions.idColumn rfl rfl hserial
  let o : RegistryDo := ⟨d.serial "registry", moment.now, m.name, moment.uuid, 0, m.jsonData⟩
  have hshows : RegistryShows env runtime o (registryRow moment d m j) :=
    ⟨rfl, rfl, rfl, rfl, rfl, j, rfl, hj⟩
  exact ⟨o, (registry_findOne hlooks (.head _) hmem rfl (some o)).mpr ⟨o, rfl, hshows⟩, rfl, rfl⟩

theorem registry_read_back_iff (h : NamedAdmitted env runtime d "registry" m.name m.jsonData)
    (hu : FreshUuid moment d "registry") :
    ReadBack RegistryRepository.repository registryOwn (textConnection env runtime moment) d
      "registry" m ↔ Fresh d "registry" := by
  obtain ⟨j, hj, hparse⟩ := h.stored
  have hinsert := fun id d' => inserted_iff env runtime moment (d := d) d' registryListing
    (registry_assigns h hu.short hj) id
  constructor
  · rintro ⟨id, d', row, o, hin, _⟩
    obtain ⟨_, _, hc, _⟩ := (hinsert id d').mp hin
    exact (registry_consistent_iff h hu).mp hc
  · intro hfresh
    have hc := (registry_consistent_iff (j := j) h hu).mpr hfresh
    obtain ⟨o, ho, hown⟩ := registry_found moment (m := m)
      ⟨hfresh.low, hfresh.high⟩ ⟨_, _, hc⟩ rfl hparse
    exact ⟨_, _, registryRow moment d m j, o,
      (hinsert _ _).mpr ⟨rfl, hfresh.high, hc, rfl⟩, rfl, rfl, ho, hown⟩

end

section
variable {m : DeviceDo} {j : Json}

lemma device_assigns (h : NamedAdmitted env runtime d "device" m.name m.jsonData)
    (hu : moment.uuid.length ≤ 36) (hj : env.jsonbIn (runtime.dump m.jsonData) = some j) :
    Assigns env moment RegistrySchema.device (DeviceRepository.insertModel runtime m)
      (namedAssigned moment m.name j) where
  reads := ⟨namedColumns, namedValues m.name (runtime.dump m.jsonData),
    renders_device_insert runtime h.quoteFree h.dumpQuoteFree, rfl, by decide, by decide,
    named_assignments rfl rfl rfl rfl h.short hu hj⟩
  id := rfl
  nulFree := nulFree_named h.nulFree (runtime.dump_nulFree _) (by decide)

/-- The insert lists no registry, and the column takes no null. -/
theorem device_insert_fails (h : NamedAdmitted env runtime d "device" m.name m.jsonData)
    (hu : moment.uuid.length ≤ 36) (id : Int) (d' : Database schema) :
    DeviceRepository.insert (textConnection env runtime moment) d m ≠ (.ok id, d') := by
  intro hin
  obtain ⟨j, hj, _⟩ := h.stored
  obtain ⟨_, _, hc, _⟩ := (inserted_iff env runtime moment _ deviceListing
    (device_assigns h hu hj) _).mp hin
  have hnull : addedRow deviceListing moment d (namedAssigned moment m.name j) "registry_id" =
      .null := rfl
  have hpresent := present_of_notNull hc deviceListing.mem
    (c := ⟨"registry_id", .int4, true, .null⟩)
    (.tail _ (.head _)) (new_mem _) rfl
  rw [hnull] at hpresent
  exact absurd hpresent (by decide)

end

section
variable {m : DeviceTelemetryDo} {j : Json}

lemma device_id_range (h : ∃ r ∈ d.rows "device", r "id" = .int m.deviceId) :
    DecimalText.intMin ≤ m.deviceId ∧ m.deviceId ≤ DecimalText.intMax := by
  obtain ⟨r, hr, hid⟩ := h
  obtain ⟨n, hn, hrange⟩ := (device_fields d.consistent hr).id
  obtain rfl := SqlConditions.Value.int.inj (hid.symm.trans hn)
  exact hrange

lemma telemetry_assigns (h : TelemetryAdmitted env runtime d m)
    (hj : env.jsonbIn (runtime.dump m.jsonData) = some j) :
    Assigns env moment RegistrySchema.deviceTelemetry
      (DeviceTelemetryRepository.insertModel runtime m) (telemetryAssigned m.deviceId j) where
  reads := ⟨_, _, renders_telemetry_insert runtime h.dumpQuoteFree, rfl, by decide, by decide,
    assignments_iff.mpr (.cons ⟨rfl, _, rfl, cast_int (device_id_range h.device)⟩
      (.cons ⟨rfl, _, rfl, cast_json hj⟩ .nil))⟩
  id := rfl
  nulFree := by
    refine nulFree_insert (show NulFree "device_telemetry" by decide)
      (show ∀ c ∈ ["device_id", "json_data"], NulFree c by decide) ?_
      (show ∀ c ∈ ["id"], NulFree c by decide)
    change ∀ v ∈ [toString m.deviceId, toValue (.string (runtime.dump m.jsonData))], NulFree v
    rw [List.forall_mem_cons, List.forall_mem_singleton]
    exact ⟨nulFree_int m.deviceId, nulFree_string (runtime.dump_nulFree _)⟩

abbrev telemetryRow (moment : Moment) (d : Database schema) (deviceId : Int) (j : Json) : Row :=
  addedRow telemetryListing moment d (telemetryAssigned deviceId j)

variable (moment) in
lemma telemetry_consistent_iff (h : ∃ r ∈ d.rows "device", r "id" = .int m.deviceId) :
    Consistent schema (addedRows telemetryListing d (telemetryRow moment d m.deviceId j)) ↔
      Fresh d "device_telemetry" := by
  constructor
  · exact fresh_of_consistent telemetryListing rfl
  · intro hfresh
    refine consistent_append d.consistent (fun t ht hn => ?_)
    obtain rfl : t = RegistrySchema.deviceTelemetry :=
      RegistrySchema.table_unique ht telemetryListing.mem hn
    refine ⟨?_, ?_, ?_⟩
    · have hid : ColumnType.admits .int4 (.int (d.serial "device_telemetry")) = true :=
        decide_eq_true ⟨hfresh.low, hfresh.high⟩
      have hdevice : ColumnType.admits .int4 (.int m.deviceId) = true :=
        decide_eq_true (device_id_range h)
      refine List.all_eq_true.mpr ?_
      simp only [RegistrySchema.deviceTelemetry, List.forall_mem_cons]
      exact ⟨hid, hdevice, rfl, rfl, fun c hc => absurd hc List.not_mem_nil⟩
    · intro col hcol k hk hmem
      obtain rfl : col = "id" := List.mem_singleton.mp hcol
      obtain ⟨r, hr, hrk⟩ := mem_keys.mp hmem
      obtain rfl : Key.int (d.serial "device_telemetry") = k := Option.some.inj hk
      exact hfresh.unused r hr (keyOf_int.mp hrk)
    · intro ref href
      obtain rfl : ref = ⟨"device_id", "device", "id"⟩ := List.mem_singleton.mp href
      rw [holds_iff]
      intro k hk
      obtain rfl : Key.int m.deviceId = k := Option.some.inj hk
      obtain ⟨r, hr, hid⟩ := h
      exact mem_keys.mpr ⟨r, hr, keyOf_int.mpr hid⟩

variable (moment) in
/-- The new record is found by its id, if the device it refers to can be read. -/
lemma telemetry_found (hserial : DecimalText.intMin ≤ d.serial "device_telemetry" ∧
      d.serial "device_telemetry" ≤ DecimalText.intMax) (d' : Database schema)
    (hd' : d'.rows = addedRows telemetryListing d (telemetryRow moment d m.deviceId j))
    (hj : runtime.parse (env.jsonbOut j) = some m.jsonData) :
    (∃ o, DeviceTelemetryRepository.repository.findById (textConnection env runtime moment)
      (fun _ => d') (d.serial "device_telemetry") = .ok (some o) ∧ telemetryOwn m o) ↔
      ∀ s ∈ d.rows "device", s "id" = .int m.deviceId → Readable env runtime (s "json_data") := by
  have hmem : telemetryRow moment d m.deviceId j ∈ d'.rows "device_telemetry" := by
    rw [hd']
    exact new_mem _
  have hdevices : d'.rows "device" = d.rows "device" := by
    rw [hd']
    exact Function.update_of_ne (by decide) _ _
  have hlooks : Looks env RegistrySchema.deviceTelemetry d' (Filter.create.add "id" .opEq
      (.integral (d.serial "device_telemetry"))) "id" (.int (d.serial "device_telemetry")) :=
    looks_number FilterConditions.idColumn rfl rfl hserial
  obtain ⟨hiff, hshows⟩ := telemetry_findOne env runtime moment hlooks
    (.head _) hmem rfl
  constructor
  · rintro ⟨o, ho, _⟩ s hs hsid
    exact (hiff.mp ⟨_, ho⟩).2 s (hdevices ▸ hs) hsid
  · intro hreadable
    obtain ⟨x, hx⟩ := hiff.mpr ⟨⟨m.jsonData, j, rfl, hj⟩,
      fun s hs hsid => hreadable s (hdevices ▸ hs) hsid⟩
    obtain ⟨o, rfl, ho⟩ := hshows x hx
    refine ⟨o, hx, ?_, ?_⟩
    · exact (SqlConditions.Value.int.inj ho.deviceId).symm
    · obtain ⟨j', hj', hparse⟩ := ho.jsonData
      obtain rfl : j = j' := SqlConditions.Value.json.inj hj'
      exact Option.some.inj (hparse.symm.trans hj)

theorem telemetry_read_back_iff (h : TelemetryAdmitted env runtime d m) :
    ReadBack DeviceTelemetryRepository.repository telemetryOwn (textConnection env runtime moment) d
      "device_telemetry" m ↔ Fresh d "device_telemetry" ∧
        ∀ s ∈ d.rows "device", s "id" = .int m.deviceId → Readable env runtime (s "json_data") := by
  obtain ⟨j, hj, hparse⟩ := h.stored
  have hinsert := fun id d' => inserted_iff env runtime moment (d := d) d' telemetryListing
    (telemetry_assigns h hj) id
  constructor
  · rintro ⟨id, d', row, o, hin, _, _, ho, hown⟩
    obtain ⟨rfl, hhigh, hc, rfl⟩ := (hinsert id d').mp hin
    have hfresh := (telemetry_consistent_iff moment h.device).mp hc
    exact ⟨hfresh, (telemetry_found moment ⟨hfresh.low, hhigh⟩ _ rfl hparse).mp ⟨o, ho, hown⟩⟩
  · rintro ⟨hfresh, hreadable⟩
    have hc := (telemetry_consistent_iff moment (j := j) h.device).mpr hfresh
    obtain ⟨o, ho, hown⟩ := (telemetry_found moment
      ⟨hfresh.low, hfresh.high⟩ ⟨_, _, hc⟩ rfl hparse).mpr hreadable
    exact ⟨_, _, telemetryRow moment d m.deviceId j, o,
      (hinsert _ _).mpr ⟨rfl, hfresh.high, hc, rfl⟩, rfl, rfl, ho, hown⟩

end

end

/-- Which inserts can be read back. -/
theorem insert_read_back_iff (env : Env) (runtime : Runtime) (moment : Moment)
    (d : Database schema) :
    (∀ m : RegistryDo, NamedAdmitted env runtime d "registry" m.name m.jsonData →
      FreshUuid moment d "registry" →
      (ReadBack RegistryRepository.repository registryOwn (textConnection env runtime moment) d
        "registry" m ↔ Fresh d "registry")) ∧
    (∀ m : DeviceDo, DeviceAdmitted env runtime d m → FreshUuid moment d "device" →
      ¬ ReadBack DeviceRepository.repository deviceOwn (textConnection env runtime moment) d
        "device" m) ∧
    ∀ m : DeviceTelemetryDo, TelemetryAdmitted env runtime d m →
      (ReadBack DeviceTelemetryRepository.repository telemetryOwn
        (textConnection env runtime moment) d "device_telemetry" m ↔ Fresh d "device_telemetry" ∧
          ∀ s ∈ d.rows "device", s "id" = .int m.deviceId →
            Readable env runtime (s "json_data")) := by
  refine ⟨fun m h hu => registry_read_back_iff h hu, fun m h hu => ?_,
    fun m h => telemetry_read_back_iff h⟩
  rintro ⟨id, d', _, _, hin, _⟩
  exact device_insert_fails h.named hu.short id d' hin

/-! On the shipped rows. -/

/-- The shipped rows with sequences that have passed their ids. -/
def advanced : Database schema := ⟨RegistrySchema.shippedRows, fun _ => 3, RegistrySchema.shipped.consistent⟩

def lab : RegistryDo := ⟨0, "", "lab", "", 0, RegistrySchema.online⟩

def probe : DeviceDo := ⟨0, 1, "", "", "probe", "", 0, RegistrySchema.online, []⟩

def reading : DeviceTelemetryDo := ⟨0, 1, DeviceDo.init, "", RegistrySchema.online⟩

def later : Moment := ⟨"2023-04-02 09:30:00", "f7a1c7de-94b3-4d9a-8a55-90f6b23d0c11"⟩

lemma stored_online : Stored RegistrySchema.shippedEnv shippedRuntime RegistrySchema.online :=
  ⟨RegistrySchema.online, rfl, rfl⟩

lemma probe_admitted :
    DeviceAdmitted RegistrySchema.shippedEnv shippedRuntime advanced probe where
  named := ⟨by decide, by decide, by decide, by decide, by decide, stored_online⟩
  registry := by decide

theorem insert_read_back_shipped :
    ReadBack RegistryRepository.repository registryOwn
      (textConnection RegistrySchema.shippedEnv shippedRuntime later) advanced "registry" lab ∧
    ReadBack DeviceTelemetryRepository.repository telemetryOwn
      (textConnection RegistrySchema.shippedEnv shippedRuntime later) advanced "device_telemetry"
      reading ∧
    ¬ ReadBack DeviceRepository.repository deviceOwn
      (textConnection RegistrySchema.shippedEnv shippedRuntime later) advanced "device" probe := by
  obtain ⟨hregistry, hdevice, htelemetry⟩ :=
    insert_read_back_iff RegistrySchema.shippedEnv shippedRuntime later advanced
  refine ⟨(hregistry lab ⟨by decide, by decide, by decide, by decide, by decide, stored_online⟩
    ⟨by decide, by decide⟩).mpr ⟨by decide, by decide, by decide⟩, ?_, ?_⟩
  · exact (htelemetry reading ⟨by decide, by decide, stored_online⟩).mpr
      ⟨⟨by decide, by decide, by decide⟩, by decide⟩
  · exact hdevice probe probe_admitted ⟨by decide, by decide⟩

/-- A device that the schema admits and that the insert rejects. -/
theorem device_insert_rejected :
    DeviceAdmitted RegistrySchema.shippedEnv shippedRuntime advanced probe ∧
    FreshUuid later advanced "device" ∧ Fresh advanced "device" ∧
    ¬ ReadBack DeviceRepository.repository deviceOwn
      (textConnection RegistrySchema.shippedEnv shippedRuntime later) advanced "device" probe := by
  refine ⟨probe_admitted, ⟨by decide, by decide⟩, ⟨by decide, by decide, by decide⟩, ?_⟩
  rintro ⟨id, d', _, _, hin, _⟩
  exact device_insert_fails probe_admitted.named (by decide) id d' hin

end InsertReadBack
