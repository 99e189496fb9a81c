import RpiRobot.FieldQueries

/-!
# Deletes and selects of one filter

A delete by filter should take out of its repository's table the rows that the
selects of the same filter read, and nothing else. Two repositories do. The device
repository deletes from the registry table.
-/

namespace DeleteAgreement

open SqlConditions (Row)
open SqlBuilder (SelectModel)
open SqlTables SqlServers RequestParams Repositories RepositoryStatements FieldQueries
open RegistrySchema (schema)

/-- The select reads the row, as far as its own conditions say. -/
def picks (sat : Reading) (m : SelectModel) (r : Row) : Bool :=
  m.whereCondition.all (fun c => sat m.tableName c r)

/-- What a successful delete by filter has to leave behind. -/
structure Removed {T : Type} (repository : Repository T)
    (selectData : Filter → PageRequest → SelectModel) (c : Connection) (sat : Reading)
    (filter : Filter) (own : String) (d d' : Database schema) : Prop where
  rest : ∀ page,
    d'.rows own = (d.rows own).filter (fun r => !picks sat (selectData filter page) r)
  others : ∀ other, other ≠ own → d'.rows other = d.rows other
  empty : ∀ page, 0 ≤ page.size → 0 ≤ page.offset →
    repository.findAll c (fun _ => d') filter page = .ok ⟨[], 0⟩
  found : ∀ page result,
    repository.findAll c (fun _ => d') filter page = .ok result → result.data = []

def Agrees {T : Type} (repository : Repository T)
    (selectData : Filter → PageRequest → SelectModel) (c : Connection) (sat : Reading)
    (filter : Filter) (own : String) (d : Database schema) : Prop :=
  ∀ d', repository.deleteByFilter c d filter = (.ok (), d') →
    Removed repository selectData c sat filter own d d'

/-! Pages of a filter that no row matches. -/

/-- How a repository uses the two selects of a listing. -/
structure Lists {T : Type} (l : Listing) (repository : Repository T) : Prop where
  fails : ∀ {c d filter page e}, c.query (d 0) (.select (l.selectData filter page)) = .error e →
    repository.findAll c d filter page = .error e
  empty : ∀ {c filter page} {d : Database schema},
    c.query d (.select (l.selectData filter page)) = .ok [] →
    count c d (l.selectCount filter) = .ok 0 →
    repository.findAll c (fun _ => d) filter page = .ok ⟨[], 0⟩

lemma lists_registry : Lists registryListing RegistryRepository.repository where
  fails h := by
    change RegistryRepository.findAll _ _ _ _ = _
    change Connection.query _ _ (.select (RegistryRepository.selectData _ _)) = _ at h
    rw [RegistryRepository.findAll, h]
    rfl
  empty {c filter page d} h hn := by
    change RegistryRepository.findAll c (fun _ => d) filter page = _
    change Connection.query _ _ (.select (RegistryRepository.selectData _ _)) = _ at h
    change count _ _ (RegistryRepository.selectCount _) = _ at hn
    rw [RegistryRepository.findAll, h, total, hn, ite_self]
    rfl

lemma lists_device : Lists deviceListing DeviceRepository.repository where
  fails h := by
    change DeviceRepository.findAll _ _ _ _ = _
    change Connection.query _ _ (.select (DeviceRepository.selectData _ _)) = _ at h
    rw [DeviceRepository.findAll, h]
    rfl
  empty {c filter page d} h hn := by
    change DeviceRepository.findAll c (fun _ => d) filter page = _
    change Connection.query _ _ (.select (DeviceRepository.selectData _ _)) = _ at h
    change count _ _ (DeviceRepository.selectCount _) = _ at hn
    rw [DeviceRepository.findAll, h, total, hn, ite_self]
    rfl

lemma lists_telemetry : Lists telemetryListing DeviceTelemetryRepository.repository where
  fails h := by
    change DeviceTelemetryRepository.findAll _ _ _ _ = _
    change Connection.query _ _ (.select (DeviceTelemetryRepository.selectData _ _)) = _ at h
    rw [DeviceTelemetryRepository.findAll, h]
    rfl
  empty {c filter page d} h hn := by
    change DeviceTelemetryRepository.findAll c (fun _ => d) filter page = _
    change Connection.query _ _ (.select (DeviceTelemetryRepository.selectData _ _)) = _ at h
    change count _ _ (DeviceTelemetryRepository.selectCount _) = _ at hn
    have hids : c.runtime.iterate [] = [] := (c.runtime.iterate_perm []).eq_nil
    rw [DeviceTelemetryRepository.findAll, h, total, hn, ite_self]
    change (do
      let data ← DeviceTelemetryRepository.referred c d (c.runtime.iterate []) []
      return (⟨data, ← Except.ok 0⟩ : Page DomainObjects.DeviceTelemetryDo)) = _
    rw [DeviceTelemetryRepository.referred, if_pos hids]
    rfl

section
variable {env : Env} {runtime : Runtime} {moment : Moment} {sat : Reading}
  {d : Database schema} {filter : Filter} {T : Type} {l : Listing} {repository : Repository T}

lemma findAll_empty (h : Lists l repository)
    (hnone : (d.rows l.own.name).filter (Matches sat l.own.name filter) = []) {page : PageRequest}
    (hs : 0 ≤ page.size) (ho : 0 ≤ page.offset) :
    repository.findAll (fieldConnection env runtime moment sat) (fun _ => d) filter page =
      .ok ⟨[], 0⟩ := by
  have hpage : pageRows sat l.own.name filter l.descending page (d.rows l.own.name) = [] := by
    rw [pageRows, hnone]
    cases l.descending <;> simp [sortRows, window]
  have hdata := l.query_page env runtime moment sat (d := d) filter hs ho
  rw [hpage] at hdata
  have htotal := l.count_eq env runtime moment sat (d := d) filter (by rw [hnone]; decide)
  rw [hnone] at htotal
  exact h.empty hdata htotal

lemma findAll_found (h : Lists l repository)
    (hnone : (d.rows l.own.name).filter (Matches sat l.own.name filter) = []) {page : PageRequest}
    {result : Page T}
    (hr : repository.findAll (fieldConnection env runtime moment sat) (fun _ => d) filter page =
      .ok result) : result.data = [] := by
  cases hq : (fieldConnection env runtime moment sat).query d
      (.select (l.selectData filter page)) with
  | error e =>
    rw [h.fails (d := fun _ => d) hq] at hr
    exact absurd hr (by simp)
  | ok rows =>
    obtain ⟨hs, ho⟩ := l.page_negative hq
    rw [findAll_empty h hnone hs ho] at hr
    obtain rfl := Except.ok.inj hr
    rfl

/-! What a delete leaves. -/

lemma delete_rows {t : TableDef} (ht : table schema t.name = .ok t)
    (hn : BuilderStatements.Name t.name) {d' : Database schema}
    (h : committed ((fieldConnection env runtime moment sat).work d
      (.delete (deleteFrom t.name filter)) false) = (.ok (), d')) :
    d'.rows = Function.update d.rows t.name
      ((d.rows t.name).filter (fun r => !Matches sat t.name filter r)) := by
  rw [field_delete _ _ _ _ ht hn] at h
  cases hstore : store d t.name
      ((d.rows t.name).filter (fun r => !Matches sat t.name filter r)) with
  | error e => rw [hstore] at h; exact absurd h (by simp)
  | ok after =>
    rw [hstore] at h
    obtain rfl : after = d' := (Prod.mk.inj h).2
    exact (store_eq_ok hstore).1

lemma picks_eq (l : Listing) (page : PageRequest) :
    picks sat (l.selectData filter page) = Matches sat l.own.name filter := by
  funext r
  rw [picks, Matches, (l.data filter page).cond, (l.data filter page).table]
  rfl

lemma filter_not_matches {name : String} (rows : List Row) :
    (rows.filter (fun r => !Matches sat name filter r)).filter (Matches sat name filter) = [] := by
  rw [List.filter_filter, List.filter_eq_nil_iff]
  intro r _
  cases Matches sat name filter r <;> simp

/-- A delete aimed at the table of the selects does what it has to. -/
lemma removed_own (h : Lists l repository) {d' : Database schema}
    (hrows : d'.rows = Function.update d.rows l.own.name
      ((d.rows l.own.name).filter (fun r => !Matches sat l.own.name filter r))) :
    Removed repository l.selectData (fieldConnection env runtime moment sat) sat filter
      l.own.name d d' := by
  have hnone : (d'.rows l.own.name).filter (Matches sat l.own.name filter) = [] := by
    rw [hrows, Function.update_self]
    exact filter_not_matches _
  constructor
  · intro page
    rw [hrows, Function.update_self, picks_eq]
  · intro other hne
    rw [hrows, Function.update_of_ne hne]
  · exact fun page hs ho => findAll_empty h hnone hs ho
  · exact fun page result hr => findAll_found h hnone hr

end

/-! The delete of the device repository. -/

/-- A device or a configuration refers to the row of the registry table. -/
def Referenced (d : Database schema) (r : Row) : Prop :=
  ∃ name ∈ ["device", "registry_configuration"], ∃ s ∈ d.rows name,
    keyOf (s "registry_id") = keyOf (r "id")

instance (d : Database schema) (r : Row) : Decidable (Referenced d r) :=
  inferInstanceAs (Decidable (∃ _ ∈ _, ∃ _ ∈ _, _))

lemma id_key (d : Database schema) {r : Row} (hr : r ∈ d.rows "registry") :
    ∃ k, keyOf (r "id") = some k := by
  obtain ⟨n, hn, _⟩ := int4_value d.consistent (t := RegistrySchema.registry) (.head _)
    (c := RegistrySchema.serialId) (.head _) hr rfl rfl
  exact ⟨.int n, by rw [show r "id" = .int n from hn, keyOf]⟩

/-- Rows of the registry table can go as long as nothing refers to them. -/
lemma registry_filter_iff (d : Database schema) (p : Row → Bool) :
    Consistent schema (Function.update d.rows "registry" ((d.rows "registry").filter p)) ↔
      ∀ r ∈ d.rows "registry", Referenced d r → p r = true := by
  have hnodup : (keys "id" (d.rows "registry")).Nodup :=
    (d.consistent RegistrySchema.registry (.head _)).unique "id" (.head _)
  rw [consistent_filter_iff d.consistent]
  constructor
  · intro h r hr href
    obtain ⟨k, hk⟩ := id_key d hr
    obtain ⟨name, hname, s, hs, hsk⟩ := href
    have hmem : k ∈ keys "id" ((d.rows "registry").filter p) := by
      simp only [List.mem_cons, List.not_mem_nil, or_false] at hname
      rcases hname with rfl | rfl
      · exact holds_iff.mp (h RegistrySchema.device (by simp [schema]) _ (.head _) rfl s hs) k
          (hsk.trans hk)
      · exact holds_iff.mp (h RegistrySchema.registryConfiguration (by simp [schema]) _ (.head _)
          rfl s hs) k (hsk.trans hk)
    exact (mem_keys_filter hnodup hr hk).mp hmem
  · intro h t ht ref href htable s hs
    have hcase : (t.name ∈ ["device", "registry_configuration"]) ∧
        ref = ⟨"registry_id", "registry", "id"⟩ := by
      simp only [schema, List.mem_cons, List.not_mem_nil, or_false] at ht
      rcases ht with rfl | rfl | rfl | rfl | rfl
      · exact absurd href List.not_mem_nil
      · exact ⟨.head _, List.mem_singleton.mp href⟩
      · exact ⟨.tail _ (.head _), List.mem_singleton.mp href⟩
      · rw [List.mem_singleton.mp href] at htable; exact absurd htable (by decide)
      · rw [List.mem_singleton.mp href] at htable; exact absurd htable (by decide)
    obtain ⟨hname, rfl⟩ := hcase
    have hs' : s ∈ d.rows t.name := by
      rwa [Function.update_of_ne] at hs
      intro he
      rw [he] at hname
      exact absurd hname (by decide)
    rw [holds_iff]
    intro k hk
    obtain ⟨r, hr, hrk⟩ :=
      mem_keys.mp (holds_iff.mp ((d.consistent t ht).referenced _ href s hs') k hk)
    exact (mem_keys_filter hnodup hr hrk).mpr (h r hr ⟨t.name, hname, s, hs', hk.trans hrk.symm⟩)

section
variable {env : Env} {runtime : Runtime} {moment : Moment} {sat : Reading}
  {d : Database schema} {filter : Filter}

/-- The delete takes nothing away: the server rejects it, or neither table has a
matching row. -/
def Harmless (sat : Reading) (filter : Filter) (d : Database schema) : Prop :=
  (∃ r ∈ d.rows "registry", Matches sat "registry" filter r = true ∧ Referenced d r) ∨
    (∀ r ∈ d.rows "registry", Matches sat "registry" filter r = false) ∧
      ∀ r ∈ d.rows "device", Matches sat "device" filter r = false

instance (sat : Reading) (filter : Filter) (d : Database schema) :
    Decidable (Harmless sat filter d) := inferInstanceAs (Decidable (_ ∨ _ ∧ _))

lemma filter_not_eq_self {p : Row → Bool} {rows : List Row} :
    rows.filter (fun r => !p r) = rows ↔ ∀ r ∈ rows, p r = false := by
  rw [List.filter_eq_self]
  exact forall₂_congr (fun r _ => by simp)

lemma device_delete_rows {d' : Database schema}
    (h : DeviceRepository.repository.deleteByFilter (fieldConnection env runtime moment sat) d
      filter = (.ok (), d')) :
    d'.rows = Function.update d.rows "registry"
      ((d.rows "registry").filter (fun r => !Matches sat "registry" filter r)) :=
  delete_rows (t := RegistrySchema.registry) rfl (by decide) h

lemma device_agrees_iff :
    Agrees DeviceRepository.repository DeviceRepository.selectData
      (fieldConnection env runtime moment sat) sat filter "device" d ↔ Harmless sat filter d := by
  have hne : "device" ≠ "registry" := by decide
  constructor
  · intro hagree
    by_cases hok : Consistent schema (Function.update d.rows "registry"
        ((d.rows "registry").filter (fun r => !Matches sat "registry" filter r)))
    · right
      obtain ⟨d', hdelete⟩ : ∃ d', DeviceRepository.repository.deleteByFilter
          (fieldConnection env runtime moment sat) d filter = (.ok (), d') := by
        refine ⟨⟨_, d.serial, hok⟩, ?_⟩
        have hwork := field_delete env runtime moment sat (d := d) (t := RegistrySchema.registry)
          rfl (by decide) filter
        have hname : RegistrySchema.registry.name = "registry" := rfl
        exact hwork.trans (by rw [hname, store_ok hok])
      have hrows := device_delete_rows hdelete
      have hremoved := hagree d' hdelete
      constructor
      · have hregistry := hremoved.others "registry" hne.symm
        rw [hrows, Function.update_self] at hregistry
        exact filter_not_eq_self.mp hregistry
      · have hdevice := hremoved.rest (PageRequest.of 0 0 false)
        rw [hrows, Function.update_of_ne hne] at hdevice
        have hselect : DeviceRepository.selectData = deviceListing.selectData := rfl
        rw [hselect, picks_eq] at hdevice
        exact filter_not_eq_self.mp hdevice.symm
    · left
      rw [registry_filter_iff] at hok
      push Not at hok
      obtain ⟨r, hr, href, hp⟩ := hok
      exact ⟨r, hr, by simpa using hp, href⟩
  · intro hharmless d' hdelete
    have hrows := device_delete_rows hdelete
    have hkept : ∀ r ∈ d.rows "registry", Referenced d r →
        (!Matches sat "registry" filter r) = true := by
      rw [← registry_filter_iff, ← hrows]
      exact d'.consistent
    obtain ⟨r, hr, hmatch, href⟩ | ⟨hregistry, hdevice⟩ := hharmless
    · have hnot := hkept r hr href
      rw [hmatch] at hnot
      exact absurd hnot (by decide)
    · have hsame : d'.rows = Function.update d.rows "device"
          ((d.rows "device").filter (fun r => !Matches sat "device" filter r)) := by
        rw [hrows, filter_not_eq_self.mpr hregistry, filter_not_eq_self.mpr hdevice,
          Function.update_eq_self, Function.update_eq_self]
      exact removed_own lists_device hsame

end

/-- Deletes and selects agree for the registries and the telemetry, and for the devices
only where the delete takes nothing away. -/
theorem delete_agrees_iff (env : Env) (runtime : Runtime) (moment : Moment) (sat : Reading)
    (filter : Filter) (d : Database schema) :
    Agrees RegistryRepository.repository RegistryRepository.selectData
      (fieldConnection env runtime moment sat) sat filter "registry" d ∧
    Agrees DeviceTelemetryRepository.repository DeviceTelemetryRepository.selectData
      (fieldConnection env runtime moment sat) sat filter "device_telemetry" d ∧
    (Agrees DeviceRepository.repository DeviceRepository.selectData
      (fieldConnection env runtime moment sat) sat filter "device" d ↔ Harmless sat filter d) := by
  refine ⟨fun d' h => ?_, fun d' h => ?_, device_agrees_iff⟩
  · have hrows := delete_rows (t := RegistrySchema.registry) rfl (by decide) h
    exact removed_own lists_registry hrows
  · have hrows := delete_rows (t := RegistrySchema.deviceTelemetry) rfl (by decide) h
    exact removed_own lists_telemetry hrows

/-- The condition of an id, read as the server reads it. -/
def byId (_ c : String) (r : Row) : Bool :=
  match r "id" with
  | .int n => c == "id = " ++ toString n
  | _ => false

/-- Deleting device 1 of the shipped rows deletes registry 1. -/
theorem device_delete_disagrees :
    ¬ Agrees DeviceRepository.repository DeviceRepository.selectData
      (fieldConnection RegistrySchema.shippedEnv shippedRuntime RegistrySchema.setup byId) byId
      (Filter.create.add "id" .opEq (.integral 1)) "device" RegistrySchema.shipped := by
  rw [device_agrees_iff]
  decide

end DeleteAgreement
