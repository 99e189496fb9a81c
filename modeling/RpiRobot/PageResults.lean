import RpiRobot.FieldQueries
import RpiRobot.SecondSelects

/-!
# The result of one page

What the three `findAll` give for one page of a fixed database. The conditions of the
filter are opaque; the condition on the second table that two of them read is the
membership it is rendered for. A page fails if a row it needs has no readable JSON.
-/

namespace PageResults

open SqlConditions (Row)
open SqlTables SqlServers DomainObjects RequestParams Repositories RepositoryStatements
open FieldQueries RowDecoding SecondSelects ListResults
open MemberConditions (IsMember)
open RegistrySchema (schema)

/-- Opaque on the repository's own table, and read as SQL on the others. -/
def ownReading (sat : Reading) (own : String) : Reading := fun table c r =>
  if table = own then sat table c r
  else match SqlConditions.ofText c with
    | some e => e.sat r
    | none => false

lemma ownReading_own (sat : Reading) (own : String) : ownReading sat own own = sat own := by
  funext c r
  rw [ownReading, if_pos rfl]

lemma ownReading_member {sat : Reading} {own table : String} (hne : table ≠ own)
    (name : SqlBuilder.ColumnName) {ids : List Int} (hids : ids ≠ []) (r : Row) :
    ownReading sat own table (memberOf name.text ids) r = true ↔ IsMember ids r name.text := by
  obtain ⟨e, he, hsat⟩ := MemberConditions.in_means name hids
  rw [ownReading, if_neg hne, memberOf, he]
  exact hsat r

/-- What a repository answers for every page: `rows` are the rows of a page, `readable`
says which of them it can give and `shows` what it gives for them. -/
structure Serves {T : Type} (repository : Repository T) (c : Connection) (d : Database schema)
    (filter : Filter) (rows : PageRequest → List Row) (total : Nat) (readable : Row → Prop)
    (shows : T → Row → Prop) : Prop where
  ok_iff : ∀ page, 0 ≤ page.size → 0 ≤ page.offset →
    ((∃ result, repository.findAll c (fun _ => d) filter page = .ok result) ↔
      ∀ r ∈ rows page, readable r)
  data : ∀ page result, repository.findAll c (fun _ => d) filter page = .ok result →
    0 ≤ page.size → 0 ≤ page.offset → List.Forall₂ (fun r o => shows o r) (rows page) result.data
  total : ∀ page result, repository.findAll c (fun _ => d) filter page = .ok result →
    page.hasCount = true → 0 ≤ page.size → 0 ≤ page.offset → result.total = total

section
variable {env : Env} {runtime : Runtime} {moment : Moment} {sat : Reading}
  {d : Database schema} {filter : Filter} {page : PageRequest}

lemma mem_pageRows {name : String} {descending : Bool} {rows : List Row} {r : Row}
    (hr : r ∈ pageRows sat name filter descending page rows) : r ∈ rows := by
  have hsort : r ∈ sortRows (some ⟨"id", descending⟩) (rows.filter (Matches sat name filter)) :=
    List.mem_of_mem_drop (List.mem_of_mem_take hr)
  have hmatch : r ∈ rows.filter (Matches sat name filter) := by
    cases descending
    · exact (List.mem_insertionSort _).mp hsort
    · exact (List.mem_insertionSort _).mp hsort
  exact List.mem_of_mem_filter hmatch

variable (env runtime moment sat filter) in
lemma query_rows (l : Listing) (hs : 0 ≤ page.size) (ho : 0 ≤ page.offset) :
    (fieldConnection env runtime moment sat).query d (.select (l.selectData filter page)) =
      .ok ((pageRows sat l.own.name filter l.descending page (d.rows l.own.name)).map
        (receivedRow env l.columns)) := by
  rw [l.query_page env runtime moment sat filter hs ho, received_rows]

/-- The total of a page that asks for it. -/
def totalOf (page : PageRequest) (n : Nat) : Nat := if page.hasCount then n else 0

variable (env runtime moment sat filter page) in
lemma total_eq (l : Listing) :
    total (fieldConnection env runtime moment sat) d page (l.selectCount filter) =
      .ok (totalOf page ((d.rows l.own.name).filter (Matches sat l.own.name filter)).length) := by
  rw [total, totalOf]
  split_ifs
  · exact l.count_eq env runtime moment sat filter
      (lt_of_le_of_lt (List.length_filter_le _ _) l.length_lt)
  · rfl

/-- A page that a repository decodes row by row. -/
lemma mapM_rows {T : Type} {decode : PqRow → Outcome T} {columns : List String}
    {rows : List Row} {data : List T} :
    (rows.map (receivedRow env columns)).mapM decode = .ok data ↔
      List.Forall₂ (fun r o => decode (receivedRow env columns r) = .ok o) rows data := by
  rw [mapM_ok_iff, List.forall₂_map_left_iff]

/-! Registries. -/

lemma registry_page (hs : 0 ≤ page.size) (ho : 0 ≤ page.offset) (result : Page RegistryDo) :
    RegistryRepository.findAll (fieldConnection env runtime moment sat) (fun _ => d) filter page =
        .ok result ↔
      List.Forall₂ (fun r o => RegistryRepository.decode runtime
          (receivedRow env registryColumns r) = .ok o)
        (pageRows sat "registry" filter false page (d.rows "registry")) result.data ∧
      result.total =
        totalOf page ((d.rows "registry").filter (Matches sat "registry" filter)).length := by
  have hq := query_rows env runtime moment sat (d := d) filter registryListing hs ho
  have ht := total_eq env runtime moment sat (d := d) filter page registryListing
  rw [registry_findAll_iff, ← mapM_rows]
  constructor
  · rintro ⟨rows, hrows, hdata, htotal⟩
    obtain rfl := Except.ok.inj (hq.symm.trans hrows)
    exact ⟨hdata, (Except.ok.inj (ht.symm.trans htotal)).symm⟩
  · rintro ⟨hdata, htotal⟩
    exact ⟨_, hq, hdata, htotal ▸ ht⟩

lemma serves_registry :
    Serves RegistryRepository.repository (fieldConnection env runtime moment sat) d filter
      (fun page => pageRows sat "registry" filter false page (d.rows "registry"))
      ((d.rows "registry").filter (Matches sat "registry" filter)).length
      (fun r => Readable env runtime (r "json_data")) (RegistryShows env runtime) where
  ok_iff page hs ho := by
    have hdecode : (∃ data, List.Forall₂ (fun r o => RegistryRepository.decode runtime
        (receivedRow env registryColumns r) = .ok o)
        (pageRows sat "registry" filter false page (d.rows "registry")) data) ↔
        ∀ r ∈ pageRows sat "registry" filter false page (d.rows "registry"),
          Readable env runtime (r "json_data") := by
      rw [exists_forall₂_iff]
      exact forall₂_congr (fun r hr => registry_decode_iff d.consistent (mem_pageRows hr))
    rw [← hdecode]
    constructor
    · rintro ⟨result, h⟩
      exact ⟨result.data, ((registry_page hs ho result).mp h).1⟩
    · rintro ⟨data, h⟩
      exact ⟨⟨data, _⟩, (registry_page hs ho ⟨data, _⟩).mpr ⟨h, rfl⟩⟩
  data page result h hs ho := by
    refine (forall₂_congr_mem (fun r hr o => ?_)).mp ((registry_page hs ho result).mp h).1
    exact registry_decode d.consistent (mem_pageRows hr) o
  total page result h hc hs ho := by
    rw [((registry_page hs ho result).mp h).2, totalOf, if_pos hc]

end

/-! Devices. -/

section
variable {env : Env} {runtime : Runtime} {moment : Moment} {sat : Reading}
  {d : Database schema} {filter : Filter} {page : PageRequest}

/-- The rows that the select of a membership gives. -/
lemma query_members {m : SqlBuilder.SelectModel} {columns : List String} {t : TableDef}
    {own : String} (hne : t.name ≠ own) (name : SqlBuilder.ColumnName) {ids : List Int}
    (h : BuilderStatements.RendersSelect m (plainSelect columns t.name [memberOf name.text ids]))
    (ht : table schema t.name = .ok t) {defs : List ColumnDef}
    (hc : columns.mapM (column t) = .ok defs) (hids : ids ≠ []) :
    Answers (fieldConnection env runtime moment (ownReading sat own)) d m columns t.name ids
      name.text := by
  have hrows : (d.rows t.name).filter (fun s => ownReading sat own t.name
      (memberOf name.text ids) s) = memberRows (d.rows t.name) ids name.text := by
    refine List.filter_congr fun s _ => ?_
    rw [Bool.eq_iff_iff, ownReading_member hne name hids, decide_eq_true_iff]
  rw [Answers, query_plain h ht hc, received_rows, hrows]
  rfl

variable (env runtime moment sat) in
lemma configured_own (found : List DeviceDo) (hids : found.map DeviceDo.id ≠ []) :
    Answers (fieldConnection env runtime moment (ownReading sat "device")) d
      (DeviceRepository.selectConfiguration (found.map DeviceDo.id)) configurationColumns
      "device_configuration" (found.map DeviceDo.id) "device_id" :=
  query_members (t := RegistrySchema.deviceConfiguration) (by decide) deviceIdColumn
    (renders_configuration (found.map DeviceDo.id)) rfl rfl hids

lemma device_page (hs : 0 ≤ page.size) (ho : 0 ≤ page.offset) (result : Page DeviceDo) :
    DeviceRepository.findAll (fieldConnection env runtime moment sat) (fun _ => d) filter page =
        .ok result ↔
      (∃ found, List.Forall₂ (fun r o => DeviceRepository.decode runtime
          (receivedRow env deviceColumns r) = .ok o)
        (pageRows sat "device" filter false page (d.rows "device")) found ∧
        DeviceRepository.configured (fieldConnection env runtime moment sat) d
          (found.map DeviceDo.id) found = .ok result.data) ∧
      result.total =
        totalOf page ((d.rows "device").filter (Matches sat "device" filter)).length := by
  have hq := query_rows env runtime moment sat (d := d) filter deviceListing hs ho
  have ht := total_eq env runtime moment sat (d := d) filter page deviceListing
  rw [device_findAll_iff]
  constructor
  · rintro ⟨rows, hrows, found, hfound, hdata, htotal⟩
    obtain rfl := Except.ok.inj (hq.symm.trans hrows)
    exact ⟨⟨found, mapM_rows.mp hfound, hdata⟩, (Except.ok.inj (ht.symm.trans htotal)).symm⟩
  · rintro ⟨⟨found, hfound, hdata⟩, htotal⟩
    exact ⟨_, hq, found, mapM_rows.mpr hfound, hdata, htotal ▸ ht⟩

lemma serves_device :
    Serves DeviceRepository.repository
      (fieldConnection env runtime moment (ownReading sat "device")) d filter
      (fun page => pageRows (ownReading sat "device") "device" filter false page (d.rows "device"))
      ((d.rows "device").filter (Matches (ownReading sat "device") "device" filter)).length
      (DeviceReadable env runtime d) (DeviceShows env runtime) := by
  have hshown : ∀ {page found}, List.Forall₂ (fun r o => DeviceRepository.decode runtime
      (receivedRow env deviceColumns r) = .ok o)
      (pageRows (ownReading sat "device") "device" filter false page (d.rows "device")) found →
      List.Forall₂ (fun r o => DeviceShows env runtime o r)
        (pageRows (ownReading sat "device") "device" filter false page (d.rows "device")) found :=
    fun h => ((forall₂_congr_mem (fun r hr o =>
      device_decode d.consistent (mem_pageRows hr) o)).mp h).imp (fun _ _ ho => ho.1)
  constructor
  · intro page hs ho
    rw [show (∃ result, DeviceRepository.repository.findAll _ (fun _ => d) filter page
      = .ok result) ↔ _ from exists_congr (fun result => device_page hs ho result)]
    constructor
    · rintro ⟨result, ⟨found, hfound, hdata⟩, _⟩ r hr
      have hspec := configured_spec (d := d) found (configured_own env runtime moment sat found)
      have hconf := hspec.1.mp ⟨_, hdata⟩
      obtain ⟨o, _, ho⟩ := exists_of_forall₂ hfound hr
      refine ⟨(device_decode_iff env runtime d.consistent (mem_pageRows hr)).mp ⟨o, ho⟩,
        fun s hs hsr => ?_⟩
      exact hconf s hs ((isMember_shown (hshown hfound) s).mpr ⟨r, hr, hsr⟩)
    · intro h
      obtain ⟨found, hfound⟩ := exists_forall₂_iff.mpr (fun r hr =>
        (device_decode_iff env runtime d.consistent (mem_pageRows hr)).mpr (h r hr).1)
      have hconf : ∀ s ∈ d.rows "device_configuration",
          IsMember (found.map DeviceDo.id) s "device_id" →
            Readable env runtime (s "json_data") := by
        intro s hs hm
        obtain ⟨r, hr, hsr⟩ := (isMember_shown (hshown hfound) s).mp hm
        exact (h r hr).2 s hs hsr
      have hspec := configured_spec (d := d) found (configured_own env runtime moment sat found)
      obtain ⟨data, hdata⟩ := hspec.1.mpr hconf
      exact ⟨⟨data, _⟩, ⟨found, hfound, hdata⟩, rfl⟩
  · intro page result h hs ho
    obtain ⟨⟨found, hfound, hdata⟩, _⟩ := (device_page hs ho result).mp h
    have hbare := (configured_spec found (configured_own env runtime moment sat found)).2 _ hdata
    have hsame : ∀ items : List DeviceDo, ∀ rows : List Row,
        List.Forall₂ (fun r o => DeviceShows env runtime o r) rows items ↔
        List.Forall₂ (fun r o => DeviceShows env runtime o r) rows (items.map bare) := by
      intro items rows
      rw [List.forall₂_map_right_iff]
      exact forall₂_congr_mem (fun _ _ _ => shows_bare.symm)
    rw [hsame, hbare, ← hsame]
    exact hshown hfound
  · intro page result h hc hs ho
    rw [((device_page hs ho result).mp h).2, totalOf, if_pos hc]

/-! Telemetry. -/

variable (env runtime moment sat) in
lemma referred_own (ids : List Int) (hids : ids ≠ []) :
    Answers (fieldConnection env runtime moment (ownReading sat "device_telemetry")) d
      (DeviceTelemetryRepository.selectDevices ids) refColumns "device" ids "id" :=
  query_members (t := RegistrySchema.device) (by decide) FilterConditions.idColumn
    (renders_devices ids) rfl rfl hids

lemma telemetry_page (hs : 0 ≤ page.size) (ho : 0 ≤ page.offset)
    (result : Page DeviceTelemetryDo) :
    DeviceTelemetryRepository.findAll (fieldConnection env runtime moment sat) (fun _ => d) filter
        page = .ok result ↔
      (∃ found, List.Forall₂ (fun r o => DeviceTelemetryRepository.decode runtime
          (receivedRow env telemetryColumns r) = .ok o)
        (pageRows sat "device_telemetry" filter true page (d.rows "device_telemetry")) found ∧
        DeviceTelemetryRepository.referred (fieldConnection env runtime moment sat) d
          (runtime.iterate (found.map DeviceTelemetryDo.deviceId)) found = .ok result.data) ∧
      result.total = totalOf page
        ((d.rows "device_telemetry").filter (Matches sat "device_telemetry" filter)).length := by
  have hq := query_rows env runtime moment sat (d := d) filter telemetryListing hs ho
  have ht := total_eq env runtime moment sat (d := d) filter page telemetryListing
  rw [telemetry_findAll_iff]
  constructor
  · rintro ⟨rows, hrows, found, hfound, hdata, htotal⟩
    obtain rfl := Except.ok.inj (hq.symm.trans hrows)
    exact ⟨⟨found, mapM_rows.mp hfound, hdata⟩, (Except.ok.inj (ht.symm.trans htotal)).symm⟩
  · rintro ⟨⟨found, hfound, hdata⟩, htotal⟩
    exact ⟨_, hq, found, mapM_rows.mpr hfound, hdata, htotal ▸ ht⟩

lemma serves_telemetry :
    Serves DeviceTelemetryRepository.repository
      (fieldConnection env runtime moment (ownReading sat "device_telemetry")) d filter
      (fun page => pageRows (ownReading sat "device_telemetry") "device_telemetry" filter true page
        (d.rows "device_telemetry"))
      ((d.rows "device_telemetry").filter
        (Matches (ownReading sat "device_telemetry") "device_telemetry" filter)).length
      (TelemetryReadable env runtime d) (TelemetryShows env runtime) := by
  have hshown : ∀ {page found}, List.Forall₂ (fun r o => DeviceTelemetryRepository.decode runtime
      (receivedRow env telemetryColumns r) = .ok o)
      (pageRows (ownReading sat "device_telemetry") "device_telemetry" filter true page
        (d.rows "device_telemetry")) found →
      List.Forall₂ (fun r o => TelemetryShows env runtime o r)
        (pageRows (ownReading sat "device_telemetry") "device_telemetry" filter true page
          (d.rows "device_telemetry")) found :=
    fun h => ((forall₂_congr_mem (fun r hr o =>
      telemetry_decode d.consistent (mem_pageRows hr) o)).mp h).imp (fun _ _ ho => ho.1)
  constructor
  · intro page hs ho
    rw [show (∃ result, DeviceTelemetryRepository.repository.findAll _ (fun _ => d) filter page =
      .ok result) ↔ _ from exists_congr (fun result => telemetry_page hs ho result)]
    constructor
    · rintro ⟨result, ⟨found, hfound, hdata⟩, _⟩ r hr
      have href := (referred_spec found (referred_own env runtime moment sat _)).1.mp ⟨_, hdata⟩
      obtain ⟨o, _, ho⟩ := exists_of_forall₂ hfound hr
      refine ⟨(telemetry_decode_iff env runtime d.consistent (mem_pageRows hr)).mp ⟨o, ho⟩,
        fun s hs hsr => ?_⟩
      exact href s hs ((isMember_referred (hshown hfound) s).mpr ⟨r, hr, hsr⟩)
    · intro h
      obtain ⟨found, hfound⟩ := exists_forall₂_iff.mpr (fun r hr =>
        (telemetry_decode_iff env runtime d.consistent (mem_pageRows hr)).mpr (h r hr).1)
      have href : ∀ s ∈ d.rows "device", IsMember (found.map DeviceTelemetryDo.deviceId) s "id" →
          Readable env runtime (s "json_data") := by
        intro s hs hm
        obtain ⟨r, hr, hsr⟩ := (isMember_referred (hshown hfound) s).mp hm
        exact (h r hr).2 s hs hsr
      have hspec := referred_spec (d := d) found (referred_own env runtime moment sat _)
      obtain ⟨data, hdata⟩ := hspec.1.mpr href
      exact ⟨⟨data, _⟩, ⟨found, hfound, hdata⟩, rfl⟩
  · intro page result h hs ho
    obtain ⟨⟨found, hfound, hdata⟩, _⟩ := (telemetry_page hs ho result).mp h
    have hsame : ∀ items : List DeviceTelemetryDo, ∀ rows : List Row,
        List.Forall₂ (fun r o => TelemetryShows env runtime o r) rows items ↔
        List.Forall₂ (fun r o => TelemetryShows env runtime o r) rows (items.map unreferred) := by
      intro items rows
      rw [List.forall₂_map_right_iff]
      exact forall₂_congr_mem (fun _ _ _ => shows_unreferred.symm)
    rw [hsame, (referred_spec found (referred_own env runtime moment sat _)).2 _ hdata, ← hsame]
    exact hshown hfound
  · intro page result h hc hs ho
    rw [((telemetry_page hs ho result).mp h).2, totalOf, if_pos hc]

end

end PageResults
