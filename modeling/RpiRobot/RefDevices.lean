import RpiRobot.KeyedJoins
import RpiRobot.Paging
import RpiRobot.TextQueries

/-!
# The devices that telemetry refers to

A device is read in two ways: `DeviceTelemetryRepository::findAll` puts a copy of it into
each of its records, and `DeviceRepository::findById` looks it up. The two selects do not
name the same columns, so the copy lacks what the lookup gives.
-/

namespace RefDevices

open SqlConditions (Row Value)
open SqlTables SqlServers DomainObjects RequestParams Repositories RepositoryStatements
open FieldQueries RowDecoding SecondSelects PageResults TextQueries ListResults KeyedJoins
open MemberConditions (IsMember)
open Paging (measured)
open RegistrySchema (schema)

/-! ## The copies -/

/-- The record after each of the devices in turn has been given to it. -/
def withDevices (devices : List DeviceDo) (record : DeviceTelemetryDo) : DeviceTelemetryDo :=
  devices.foldl (fun record device => DeviceTelemetryRepository.refer device record) record

/-- The record keeps the last of the devices that are its own. -/
lemma withDevices_eq (devices : List DeviceDo) (record : DeviceTelemetryDo) :
    withDevices devices record = { record with
      refDevice := devices.foldl
        (fun b device => if device.id = record.deviceId then device else b) record.refDevice } := by
  induction devices generalizing record with
  | nil => rfl
  | cons device devices ih =>
    have hstep : withDevices (device :: devices) record
        = withDevices devices (DeviceTelemetryRepository.refer device record) := rfl
    rw [hstep, ih, DeviceTelemetryRepository.refer, List.foldl_cons]
    by_cases hid : record.deviceId = device.id
    · rw [if_pos hid, if_pos hid.symm]
    · rw [if_neg hid, if_neg (Ne.symm hid)]

/-- The loop over the rows of the second select: all of them are decoded, and then each
record takes its own. -/
lemma foldlM_referRow (runtime : Runtime) (rows : List PqRow) (data : List DeviceTelemetryDo) :
    rows.foldlM (DeviceTelemetryRepository.referRow runtime) data
      = (rows.mapM (DeviceTelemetryRepository.decodeDevice runtime)).map
          (fun devices => data.map (withDevices devices)) := by
  induction rows generalizing data with
  | nil =>
    have hnil : data.map (withDevices []) = data := List.map_id _
    simp [List.mapM_nil, Except.map, pure, Except.pure, hnil]
  | cons row rows ih =>
    rw [List.foldlM_cons, List.mapM_cons, DeviceTelemetryRepository.referRow]
    cases DeviceTelemetryRepository.decodeDevice runtime row with
    | error e => rfl
    | ok device =>
      change rows.foldlM (DeviceTelemetryRepository.referRow runtime)
        (data.map (DeviceTelemetryRepository.refer device)) = _
      rw [ih]
      cases rows.mapM (DeviceTelemetryRepository.decodeDevice runtime) with
      | error e => rfl
      | ok devices =>
        have hmap : (data.map (DeviceTelemetryRepository.refer device)).map (withDevices devices)
            = data.map (withDevices (device :: devices)) := by
          rw [List.map_map]
          rfl
        exact congrArg Except.ok hmap

/-- The copy has the values of the device's row, but not its registry. -/
structure RefShows (env : Env) (runtime : Runtime) (o : DeviceDo) (s : Row) : Prop where
  shows : RegistryShows env runtime ⟨o.id, o.createdAt, o.name, o.uuid, o.status, o.jsonData⟩ s
  registryId : o.registryId = 0

section
variable {env : Env} {runtime : Runtime} {moment : Moment} {sat : Reading}
  {d : Database schema} {filter : Filter} {page : PageRequest}

/-- Every record refers to a device that there is. -/
lemma referenced_device (d : Database schema) {r : Row} (hr : r ∈ d.rows "device_telemetry")
    {n : Int} (hn : r "device_id" = .int n) : ∃ s ∈ d.rows "device", s "id" = .int n := by
  have hholds := (d.consistent RegistrySchema.deviceTelemetry (by simp [schema])).referenced _
    (.head _) r hr
  obtain ⟨s, hs, hkey⟩ := mem_keys.mp (holds_iff.mp hholds (.int n) (keyOf_int.mpr hn))
  exact ⟨s, hs, keyOf_int.mp hkey⟩

/-- Giving devices to a record changes nothing else of it. -/
lemma shows_withDevices {devices : List DeviceDo} {o : DeviceTelemetryDo} {r : Row} :
    TelemetryShows env runtime (withDevices devices o) r ↔ TelemetryShows env runtime o r := by
  rw [withDevices_eq]
  exact ⟨fun ⟨a, b, c, e⟩ => ⟨a, b, c, e⟩, fun ⟨a, b, c, e⟩ => ⟨a, b, c, e⟩⟩

/-- Among the devices that are read, each record finds its own. -/
lemma refDevice_own {devices : List DeviceDo} {selected : List Row}
    (hdevices : List.Forall₂ (fun s o => RefShows env runtime o s) selected devices)
    {o : DeviceTelemetryDo} (h : ∃ s ∈ selected, s "id" = .int o.deviceId) :
    ∃ s ∈ selected, s "id" = .int o.deviceId ∧
      RefShows env runtime (withDevices devices o).refDevice s := by
  have hown : ∃ device ∈ devices, device.id = o.deviceId := by
    obtain ⟨s, hs, hid⟩ := h
    obtain ⟨device, hdevice, hshows⟩ := exists_of_forall₂ hdevices hs
    exact ⟨device, hdevice, Value.int.inj (hshows.shows.id.symm.trans hid)⟩
  have hlast := foldl_last hown o.refDevice
  rw [withDevices_eq]
  obtain ⟨hmem, hid⟩ := List.mem_filter.mp hlast
  obtain ⟨s, hs, hshows⟩ := exists_of_forall₂ hdevices.flip hmem
  exact ⟨s, hs, (of_decide_eq_true hid) ▸ hshows.shows.id, hshows⟩

/-- Every record of a page has a copy of the device that it refers to. -/
lemma refDevice_shows {found data : List DeviceTelemetryDo} {rows : List Row}
    (hfound : List.Forall₂ (fun r o => TelemetryShows env runtime o r) rows found)
    (hrows : ∀ r ∈ rows, r ∈ d.rows "device_telemetry")
    (h : DeviceTelemetryRepository.referred
      (fieldConnection env runtime moment (ownReading sat "device_telemetry")) d
      (runtime.iterate (found.map DeviceTelemetryDo.deviceId)) found = .ok data) :
    List.Forall₂ (fun r o => TelemetryShows env runtime o r ∧
      ∃ s ∈ d.rows "device", s "id" = r "device_id" ∧ RefShows env runtime o.refDevice s)
      rows data := by
  have hiter := runtime.mem_iterate (found.map DeviceTelemetryDo.deviceId)
  generalize runtime.iterate (found.map DeviceTelemetryDo.deviceId) = ids at h hiter
  rw [DeviceTelemetryRepository.referred] at h
  by_cases hnil : ids = []
  · have hnone : found.map DeviceTelemetryDo.deviceId = [] :=
      List.eq_nil_iff_forall_not_mem.mpr fun n hn => by
        rw [← hiter, hnil] at hn
        exact absurd hn List.not_mem_nil
    rw [if_pos hnil] at h
    obtain rfl := Except.ok.inj h
    obtain rfl := List.map_eq_nil_iff.mp hnone
    rw [List.forall₂_nil_right_iff.mp hfound]
    exact .nil
  · have hquery : Connection.query _ d _ = _ := referred_own env runtime moment sat ids hnil
    have hmem : ∀ s, s ∈ memberRows (d.rows "device") ids "id" ↔ _ := fun _ => mem_memberRows
    generalize memberRows (d.rows "device") ids "id" = selected at hquery hmem
    rw [if_neg hnil, hquery] at h
    change (selected.map (receivedRow env refColumns)).foldlM
      (DeviceTelemetryRepository.referRow runtime) found = _ at h
    rw [foldlM_referRow] at h
    cases hdecoded : (selected.map (receivedRow env refColumns)).mapM
        (DeviceTelemetryRepository.decodeDevice runtime) with
    | error e =>
      rw [hdecoded] at h
      cases h
    | ok devices =>
      rw [hdecoded] at h
      have hdevices : List.Forall₂ (fun s o => RefShows env runtime o s) selected devices :=
        ((forall₂_congr_mem fun s hs o => ref_decode d.consistent ((hmem s).mp hs).1 o).mp
          (mapM_rows.mp hdecoded)).imp fun s o ho => ⟨ho.1, ho.2.1⟩
      obtain rfl : found.map (withDevices devices) = data := Except.ok.inj h
      rw [List.forall₂_map_right_iff]
      refine (forall₂_congr_mem fun r hr o => ?_).mp hfound
      refine ⟨fun ho => ⟨shows_withDevices.mpr ho, ?_⟩, fun ho => shows_withDevices.mp ho.1⟩
      have hselected : ∃ s ∈ selected, s "id" = .int o.deviceId := by
        obtain ⟨s, hs, hid⟩ := referenced_device d (hrows r hr) ho.deviceId
        have hmember := (isMember_referred hfound s).mpr ⟨r, hr, hid.trans ho.deviceId.symm⟩
        obtain ⟨n, hn, hsn⟩ := hmember
        exact ⟨s, (hmem s).mpr ⟨hs, n, (hiter n).mpr hn, hsn⟩, hid⟩
      obtain ⟨s, hs, hid, hshows⟩ := refDevice_own hdevices hselected
      exact ⟨s, ((hmem s).mp hs).1, hid.trans ho.deviceId.symm, hshows⟩

/-! ## The lookup -/

variable (sat) in
/-- The rows that a one-row page of a foreign table shows, if its filter asks for the key
of a unique column. -/
lemma pageRows_lookup (l : Listing) (own : String) (hne : l.own.name ≠ own) {column : String}
    {k : Key} (h : Looks env l.own d filter column k) (hu : column ∈ l.own.unique) {s : Row}
    (hs : s ∈ d.rows l.own.name) (hk : keyOf (s column) = some k) :
    pageRows (ownReading sat own) l.own.name filter l.descending (PageRequest.of 0 1 false)
      (d.rows l.own.name) = [s] := by
  obtain ⟨c, e, htexts, hmeans, -, -, hsat⟩ := h.reads
  have hrows : (d.rows l.own.name).filter (Matches (ownReading sat own) l.own.name filter)
      = rowsWith column k (d.rows l.own.name) := by
    refine List.filter_congr fun r hr => ?_
    have hread : SqlConditions.ofText c.cond = some e := hmeans
    rw [Matches, htexts, List.all_cons, List.all_nil, Bool.and_true, ownReading, if_neg hne, hread]
    rw [Bool.eq_iff_iff, decide_eq_true_iff]
    exact hsat r hr
  rw [pageRows, hrows, rowsWith_found ((d.consistent l.own l.mem).unique column hu) hs hk]
  cases l.descending <;> rfl

variable (env runtime moment sat) in
/-- The one row that the lookup of a device reads. -/
lemma device_query {s : Row} (hs : s ∈ d.rows "device") {n : Int} (hn : s "id" = .int n) :
    (fieldConnection env runtime moment (ownReading sat "device_telemetry")).query d
        (.select (DeviceRepository.selectData (Filter.create.add "id" .opEq (.integral n))
          (PageRequest.of 0 1 false)))
      = .ok [receivedRow env deviceColumns s] := by
  obtain ⟨m, hm, hrange⟩ := (device_fields d.consistent hs).id
  obtain rfl : m = n := Value.int.inj (hm.symm.trans hn)
  have hlooks : Looks env RegistrySchema.device d (Filter.create.add "id" .opEq (.integral m)) "id"
      (.int m) := looks_number FilterConditions.idColumn rfl rfl hrange
  have hpage := pageRows_lookup sat deviceListing "device_telemetry" (by decide) hlooks
    (.head _) hs (keyOf_int.mpr hn)
  have hquery := query_rows env runtime moment (ownReading sat "device_telemetry") (d := d)
    (Filter.create.add "id" .opEq (.integral m)) deviceListing
    (show 0 ≤ (PageRequest.of 0 1 false).size by decide) (by decide)
  rw [hpage] at hquery
  exact hquery

/-- The configurations of the one device. -/
lemma device_configured (o : DeviceDo) :
    ((∃ data, DeviceRepository.configured
        (fieldConnection env runtime moment (ownReading sat "device_telemetry")) d [o.id] [o]
        = .ok data) ↔
      ∀ conf ∈ d.rows "device_configuration", IsMember [o.id] conf "device_id" →
        Readable env runtime (conf "json_data")) ∧
    ∀ data, DeviceRepository.configured
        (fieldConnection env runtime moment (ownReading sat "device_telemetry")) d [o.id] [o]
        = .ok data → data.map bare = [bare o] :=
  configured_spec [o] fun hids =>
    query_members (t := RegistrySchema.deviceConfiguration) (by decide) deviceIdColumn
      (renders_configuration [o.id]) rfl rfl hids

variable (env runtime moment sat) in
/-- The lookup of a device by its id, next to a page of telemetry. -/
theorem device_lookup {s : Row} (hs : s ∈ d.rows "device") {n : Int} (hn : s "id" = .int n) :
    ((∃ x, DeviceRepository.repository.findById
        (fieldConnection env runtime moment (ownReading sat "device_telemetry")) (fun _ => d) n
        = .ok x) ↔ DeviceReadable env runtime d s) ∧
      ∀ x, DeviceRepository.repository.findById
        (fieldConnection env runtime moment (ownReading sat "device_telemetry")) (fun _ => d) n
        = .ok x → ∃ o, x = some o ∧ DeviceShows env runtime o s := by
  have hquery := device_query env runtime moment sat hs hn
  constructor
  · constructor
    · rintro ⟨x, hx⟩
      obtain ⟨rows, hrows, found, hfound, data, hdata, -⟩ := device_findOne_iff.mp hx
      obtain rfl := Except.ok.inj (hquery.symm.trans hrows)
      obtain ⟨o, ho, rfl⟩ := mapM_single.mp hfound
      have hshows := ((device_decode d.consistent hs o).mp ho).1
      refine ⟨⟨_, hshows.jsonData⟩, fun conf hconf hdevice => ?_⟩
      exact (device_configured o).1.mp ⟨data, hdata⟩ conf hconf
        ⟨o.id, List.mem_singleton.mpr rfl, hdevice.trans hshows.id⟩
    · rintro ⟨hjson, hconf⟩
      obtain ⟨o, ho⟩ := (device_decode_iff env runtime d.consistent hs).mpr hjson
      have hshows := ((device_decode d.consistent hs o).mp ho).1
      obtain ⟨data, hdata⟩ := (device_configured o).1.mpr fun conf hmem hm => by
        obtain ⟨m, hm, hdevice⟩ := hm
        rw [List.mem_singleton.mp hm, ← hshows.id] at hdevice
        exact hconf conf hmem hdevice
      exact ⟨data.head?, device_findOne_iff.mpr
        ⟨_, hquery, [o], mapM_single.mpr ⟨o, ho, rfl⟩, data, hdata, rfl⟩⟩
  · intro x hx
    obtain ⟨rows, hrows, found, hfound, data, hdata, rfl⟩ := device_findOne_iff.mp hx
    obtain rfl := Except.ok.inj (hquery.symm.trans hrows)
    obtain ⟨o, ho, rfl⟩ := mapM_single.mp hfound
    have hshows := ((device_decode d.consistent hs o).mp ho).1
    obtain ⟨o', rfl, hsame⟩ := List.map_eq_singleton_iff.mp ((device_configured o).2 data hdata)
    refine ⟨o', rfl, ?_⟩
    rw [← shows_bare, hsame, shows_bare]
    exact hshows

/-! ## The two devices -/

/-- The members that both ways load from the table. -/
structure SameDevice (a b : DeviceDo) : Prop where
  id : a.id = b.id
  registryId : a.registryId = b.registryId
  createdAt : a.createdAt = b.createdAt
  name : a.name = b.name
  uuid : a.uuid = b.uuid
  status : a.status = b.status
  jsonData : a.jsonData = b.jsonData

lemma readsAs_unique {v : Value} {s t : Json} (hs : ReadsAs env runtime v s)
    (ht : ReadsAs env runtime v t) : s = t := by
  obtain ⟨i, rfl, hi⟩ := hs
  obtain ⟨j, hj, hparse⟩ := ht
  obtain rfl := Value.json.inj hj
  exact Option.some.inj (hi.symm.trans hparse)

/-- The copy agrees with the looked up device if that is in no registry but 0. -/
lemma sameDevice_iff {a b : DeviceDo} {s : Row} (ha : RefShows env runtime a s)
    (hb : DeviceShows env runtime b s) :
    SameDevice a b ↔ s "registry_id" = .int 0 := by
  constructor
  · intro h
    rw [hb.registryId, ← h.registryId, ha.registryId]
  · intro h
    exact {
      id := Value.int.inj (ha.shows.id.symm.trans hb.id)
      registryId := ha.registryId.trans (Value.int.inj (h.symm.trans hb.registryId))
      createdAt := Value.text.inj (ha.shows.createdAt.symm.trans hb.createdAt)
      name := Value.text.inj (ha.shows.name.symm.trans hb.name)
      uuid := Value.text.inj (ha.shows.uuid.symm.trans hb.uuid)
      status := Value.int.inj (ha.shows.status.symm.trans hb.status)
      jsonData := readsAs_unique ha.shows.jsonData hb.jsonData }

lemma device_unique {s s' : Row} (hs : s ∈ d.rows "device") (hs' : s' ∈ d.rows "device")
    (h : s "id" = s' "id") : s = s' := by
  have hids := deviceListing.ids_nodup (d := d)
  refine List.inj_on_of_nodup_map hids hs hs' ?_
  rw [idOf, idOf, h]

/-- What a page of telemetry is made of. -/
lemma findAll_shows {result : Page DeviceTelemetryDo}
    (h : DeviceTelemetryRepository.findAll
      (fieldConnection env runtime moment (ownReading sat "device_telemetry")) (fun _ => d)
      filter page = .ok result) :
    List.Forall₂ (fun r o => TelemetryShows env runtime o r ∧
      ∃ s ∈ d.rows "device", s "id" = r "device_id" ∧ RefShows env runtime o.refDevice s)
      (pageRows (ownReading sat "device_telemetry") "device_telemetry" filter true page
        (d.rows "device_telemetry")) result.data := by
  obtain ⟨rows, hrows, -⟩ := telemetry_findAll_iff.mp h
  obtain ⟨hs, ho⟩ := telemetryListing.page_negative hrows
  obtain ⟨⟨found, hfound, hdata⟩, -⟩ := (telemetry_page hs ho result).mp h
  have hshown : List.Forall₂ (fun r o => TelemetryShows env runtime o r) _ found :=
    ((forall₂_congr_mem fun r hr o => telemetry_decode d.consistent (mem_pageRows hr) o).mp
      hfound).imp fun r o ho => ho.1
  exact refDevice_shows hshown (fun r hr => mem_pageRows hr) hdata

/-- Every copy on the page agrees with the lookup of its device. -/
def Agree (c : Connection) (d : Database schema) (result : Page DeviceTelemetryDo) : Prop :=
  ∀ record ∈ result.data, ∃ device,
    DeviceRepository.repository.findById c (fun _ => d) record.deviceId = .ok (some device) ∧
      SameDevice record.refDevice device

/-- The device is in registry 0, and its configurations can be read. -/
structure Unregistered (env : Env) (runtime : Runtime) (d : Database schema) (s : Row) : Prop where
  registry : s "registry_id" = .int 0
  configurations : ∀ conf ∈ d.rows "device_configuration", conf "device_id" = s "id" →
    Readable env runtime (conf "json_data")

lemma unregistered_of_agree {result : Page DeviceTelemetryDo}
    (h : DeviceTelemetryRepository.findAll
      (fieldConnection env runtime moment (ownReading sat "device_telemetry")) (fun _ => d)
      filter page = .ok result)
    (hagree : Agree (fieldConnection env runtime moment (ownReading sat "device_telemetry")) d
      result)
    {r : Row} (hr : r ∈ pageRows (ownReading sat "device_telemetry") "device_telemetry" filter true
      page (d.rows "device_telemetry")) {s : Row} (hs : s ∈ d.rows "device")
    (hid : s "id" = r "device_id") : Unregistered env runtime d s := by
  obtain ⟨record, hrecord, hshows, s', hs', hid', href⟩ := exists_of_forall₂ (findAll_shows h) hr
  obtain rfl := device_unique hs hs' (hid.trans hid'.symm)
  obtain ⟨device, hfind, hsame⟩ := hagree record hrecord
  obtain ⟨hreadable, hfound⟩ := device_lookup env runtime moment sat hs (hid.trans hshows.deviceId)
  obtain ⟨o, ho, hdevice⟩ := hfound _ hfind
  obtain rfl := Option.some.inj ho
  exact ⟨(sameDevice_iff href hdevice).mp hsame, (hreadable.mp ⟨_, hfind⟩).2⟩

end

/-- The copies agree with the lookups exactly if the devices that the page refers to are in
registry 0, which is what a copy always has, and their configurations can be read. -/
theorem refDevice_agrees_iff (env : Env) (runtime : Runtime) (moment : Moment) (sat : Reading)
    (d : Database schema) (filter : Filter) (page : PageRequest) (result : Page DeviceTelemetryDo) :
    let c := fieldConnection env runtime moment (ownReading sat "device_telemetry")
    DeviceTelemetryRepository.findAll c (fun _ => d) filter page = .ok result →
      (Agree c d result ↔
        ∀ r ∈ pageRows (ownReading sat "device_telemetry") "device_telemetry" filter true page
            (d.rows "device_telemetry"),
          ∀ s ∈ d.rows "device", s "id" = r "device_id" → Unregistered env runtime d s) := by
  intro c h
  refine ⟨fun hagree r hr s hs hid => unregistered_of_agree h hagree hr hs hid, ?_⟩
  intro hcond record hrecord
  obtain ⟨r, hr, hshows, s, hs, hid, href⟩ := exists_of_forall₂ (findAll_shows h).flip hrecord
  obtain ⟨hregistry, hconf⟩ := hcond r hr s hs hid
  obtain ⟨hreadable, hfound⟩ := device_lookup env runtime moment sat hs (hid.trans hshows.deviceId)
  obtain ⟨x, hx⟩ := hreadable.mpr ⟨⟨_, href.shows.jsonData⟩, hconf⟩
  obtain ⟨device, rfl, hdevice⟩ := hfound x hx
  exact ⟨device, hx, (sameDevice_iff href hdevice).mpr hregistry⟩

/-! ## A device of the second registry -/

/-- The page of the records can be read. -/
lemma measured_listed : ∃ result, DeviceTelemetryRepository.findAll
    (fieldConnection RegistrySchema.shippedEnv shippedRuntime RegistrySchema.setup
      (ownReading Paging.anyRow "device_telemetry")) (fun _ => measured) Filter.create ⟨0, 10, true⟩
      = .ok result := by
  have hrecord : ∀ r ∈ measured.rows "device_telemetry",
      Readable RegistrySchema.shippedEnv shippedRuntime (r "json_data") := by decide
  have hdevice : ∀ s ∈ measured.rows "device",
      Readable RegistrySchema.shippedEnv shippedRuntime (s "json_data") := by decide
  exact (serves_telemetry.ok_iff ⟨0, 10, true⟩ (by decide) (by decide)).mpr fun r hr =>
    ⟨hrecord r (mem_pageRows hr), fun s hs _ => hdevice s hs⟩

theorem refDevice_agrees_measured :
    ∃ result, DeviceTelemetryRepository.findAll
        (fieldConnection RegistrySchema.shippedEnv shippedRuntime RegistrySchema.setup
          (ownReading Paging.anyRow "device_telemetry")) (fun _ => measured) Filter.create
        ⟨0, 10, true⟩ = .ok result ∧
      (Agree (fieldConnection RegistrySchema.shippedEnv shippedRuntime RegistrySchema.setup
          (ownReading Paging.anyRow "device_telemetry")) measured result ↔
        ∀ r ∈ pageRows (ownReading Paging.anyRow "device_telemetry") "device_telemetry"
            Filter.create true ⟨0, 10, true⟩ (measured.rows "device_telemetry"),
          ∀ s ∈ measured.rows "device", s "id" = r "device_id" →
            Unregistered RegistrySchema.shippedEnv shippedRuntime measured s) := by
  obtain ⟨result, h⟩ := measured_listed
  exact ⟨result, h, refDevice_agrees_iff RegistrySchema.shippedEnv shippedRuntime
    RegistrySchema.setup Paging.anyRow measured Filter.create ⟨0, 10, true⟩ result h⟩

/-- No column of a row is null. -/
def WithoutNulls (d : Database schema) : Prop :=
  ∀ t ∈ schema, ∀ r ∈ d.rows t.name, ∀ c ∈ t.columns, present (r c.name) = true

instance (d : Database schema) : Decidable (WithoutNulls d) :=
  inferInstanceAs (Decidable (∀ t ∈ schema, _))

/-- The first device is in the second registry, and its copy in registry 0. -/
theorem refDevice_loses_registry :
    ¬ ∀ (d : Database schema) (filter : Filter) (page : PageRequest)
      (result : Page DeviceTelemetryDo), WithoutNulls d →
      DeviceTelemetryRepository.findAll (fieldConnection RegistrySchema.shippedEnv shippedRuntime
        RegistrySchema.setup (ownReading Paging.anyRow "device_telemetry")) (fun _ => d) filter page
        = .ok result →
      Agree (fieldConnection RegistrySchema.shippedEnv shippedRuntime RegistrySchema.setup
        (ownReading Paging.anyRow "device_telemetry")) d result := by
  intro hclaim
  obtain ⟨result, h⟩ := measured_listed
  have hagree := hclaim measured Filter.create ⟨0, 10, true⟩ result (by decide) h
  have hrow : ∃ r ∈ pageRows (ownReading Paging.anyRow "device_telemetry") "device_telemetry"
      Filter.create true ⟨0, 10, true⟩ (measured.rows "device_telemetry"),
      r "device_id" = .int 1 := by decide
  have hdevice : ∃ s ∈ measured.rows "device", s "id" = .int 1 ∧ s "registry_id" = .int 2 := by
    decide
  obtain ⟨r, hr, hid⟩ := hrow
  obtain ⟨s, hs, hsid, hregistry⟩ := hdevice
  have hzero := (unregistered_of_agree h hagree hr hs (hsid.trans hid.symm)).registry
  exact absurd (hzero.symm.trans hregistry) (by decide)

end RefDevices
