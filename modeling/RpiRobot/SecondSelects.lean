import RpiRobot.MemberConditions
import RpiRobot.RowDecoding

/-!
# The second selects

Devices are read with their configurations and telemetry with the devices it refers
to. Both fold over the rows of a second select, which must be the rows whose id is
one of the first: then only the JSON of these rows can make the read fail, and the
columns of the first select stay as they are.
-/

namespace SecondSelects

open SqlConditions (Row)
open SqlTables DomainObjects Repositories RepositoryStatements RowDecoding ListResults
open MemberConditions (IsMember)
open RegistrySchema (schema)

instance (ids : List Int) (r : Row) (column : String) : Decidable (IsMember ids r column) :=
  inferInstanceAs (Decidable (∃ _ ∈ _, _))

/-- The rows whose column is one of the ids. -/
def memberRows (rows : List Row) (ids : List Int) (column : String) : List Row :=
  rows.filter (fun s => IsMember ids s column)

lemma mem_memberRows {rows : List Row} {ids : List Int} {column : String} {s : Row} :
    s ∈ memberRows rows ids column ↔ s ∈ rows ∧ IsMember ids s column := by
  rw [memberRows, List.mem_filter, decide_eq_true_iff]

/-- The connection answers a membership select with the rows of the members. -/
def Answers (c : Connection) (d : Database schema) (m : SqlBuilder.SelectModel)
    (columns : List String) (table : String) (ids : List Int) (column : String) : Prop :=
  c.query d (.select m) =
    .ok ((memberRows (d.rows table) ids column).map (receivedRow c.env columns))

/-! Devices. -/

/-- A device without its configurations. -/
def bare (o : DeviceDo) : DeviceDo := { o with configuration := [] }

lemma attach_ok {cfg : DeviceConfigurationDo} {data : List DeviceDo}
    (h : ∃ item ∈ data, item.id = cfg.deviceId) :
    ∃ data', DeviceRepository.attach cfg data = .ok data' ∧ data'.map bare = data.map bare := by
  induction data with
  | nil =>
    obtain ⟨item, hitem, _⟩ := h
    exact absurd hitem List.not_mem_nil
  | cons item rest ih =>
    rw [DeviceRepository.attach]
    by_cases hid : item.id = cfg.deviceId
    · rw [if_pos hid]
      exact ⟨_, rfl, rfl⟩
    · have hrest : ∃ x ∈ rest, x.id = cfg.deviceId := by
        obtain ⟨x, hx, hxid⟩ := h
        rcases List.mem_cons.mp hx with rfl | hx
        · exact absurd hxid hid
        · exact ⟨x, hx, hxid⟩
      obtain ⟨rest', hattach, hbare⟩ := ih hrest
      rw [if_neg hid, hattach]
      exact ⟨item :: rest', rfl, by rw [List.map_cons, List.map_cons, hbare]⟩

lemma exists_id_of_bare {data found : List DeviceDo} (h : data.map bare = found.map bare)
    {n : Int} (hn : n ∈ found.map DeviceDo.id) : ∃ item ∈ data, item.id = n := by
  have hid : ∀ items : List DeviceDo, items.map DeviceDo.id = (items.map bare).map DeviceDo.id := by
    intro items
    rw [List.map_map]
    rfl
  rw [hid, ← h, ← hid] at hn
  exact List.mem_map.mp hn

section
variable {c : Connection} {d : Database schema}

/-- Readable configurations are taken, and the devices stay as they are. -/
lemma configured_spec (found : List DeviceDo)
    (hquery : found.map DeviceDo.id ≠ [] →
      Answers c d (DeviceRepository.selectConfiguration (found.map DeviceDo.id))
        configurationColumns "device_configuration" (found.map DeviceDo.id) "device_id") :
    ((∃ data, DeviceRepository.configured c d (found.map DeviceDo.id) found = .ok data) ↔
      ∀ s ∈ d.rows "device_configuration", IsMember (found.map DeviceDo.id) s "device_id" →
        Readable c.env c.runtime (s "json_data")) ∧
    ∀ data, DeviceRepository.configured c d (found.map DeviceDo.id) found = .ok data →
      data.map bare = found.map bare := by
  rw [DeviceRepository.configured]
  by_cases hids : found.map DeviceDo.id = []
  · rw [if_pos hids, hids]
    constructor
    · refine ⟨?_, fun _ => ⟨found, rfl⟩⟩
      rintro - s - ⟨i, hi, -⟩
      exact absurd hi List.not_mem_nil
    · intro data h
      rw [Except.ok.inj h]
  · have hfold := foldlM_ok_iff (DeviceRepository.configure c.runtime)
      (fun data => data.map bare = found.map bare)
      (fun row => ∃ cfg, DeviceRepository.decodeConfiguration c.runtime row = .ok cfg)
      (l := (memberRows (d.rows "device_configuration") (found.map DeviceDo.id)
        "device_id").map (receivedRow c.env configurationColumns)) (b := found) ?_ rfl
    · rw [if_neg hids, show c.query d _ = _ from hquery hids]
      refine ⟨hfold.1.trans ?_, hfold.2⟩
      rw [List.forall_mem_map]
      constructor
      · intro h s hs hm
        exact (configuration_decode_iff d.consistent hs).mp (h s (mem_memberRows.mpr ⟨hs, hm⟩))
      · intro h s hs
        obtain ⟨hs, hm⟩ := mem_memberRows.mp hs
        exact (configuration_decode_iff d.consistent hs).mpr (h s hs hm)
    · intro data hdata row hrow
      obtain ⟨s, hs, rfl⟩ := List.mem_map.mp hrow
      obtain ⟨hs, n, hn, hdevice⟩ := mem_memberRows.mp hs
      have hattach : ∀ cfg, DeviceRepository.decodeConfiguration c.runtime
          (receivedRow c.env configurationColumns s) = .ok cfg →
          ∃ data', DeviceRepository.attach cfg data = .ok data' ∧
            data'.map bare = data.map bare := by
        intro cfg hcfg
        have hshows := ((configuration_decode d.consistent hs cfg).mp hcfg).1
        have hid : cfg.deviceId = n :=
          SqlConditions.Value.int.inj (hshows.deviceId.symm.trans hdevice)
        exact attach_ok (hid ▸ exists_id_of_bare hdata hn)
      constructor
      · constructor
        · rintro ⟨data', h⟩
          obtain ⟨cfg, hcfg, _⟩ := bind_eq_ok.mp h
          exact ⟨cfg, hcfg⟩
        · rintro ⟨cfg, hcfg⟩
          obtain ⟨data', h, _⟩ := hattach cfg hcfg
          exact ⟨data', bind_eq_ok.mpr ⟨cfg, hcfg, h⟩⟩
      · intro data' h
        obtain ⟨cfg, hcfg, h⟩ := bind_eq_ok.mp h
        obtain ⟨data'', h', hbare⟩ := hattach cfg hcfg
        obtain rfl := Except.ok.inj (h.symm.trans h')
        exact hbare.trans hdata

/-- A record without the device it refers to. -/
def unreferred (o : DeviceTelemetryDo) : DeviceTelemetryDo := { o with refDevice := DeviceDo.init }

lemma map_refer (device : DeviceDo) (data : List DeviceTelemetryDo) :
    (data.map (DeviceTelemetryRepository.refer device)).map unreferred = data.map unreferred := by
  rw [List.map_map]
  refine List.map_congr_left (fun o _ => ?_)
  rw [Function.comp_apply, DeviceTelemetryRepository.refer]
  split_ifs <;> rfl

lemma referred_spec (found : List DeviceTelemetryDo)
    (hquery : c.runtime.iterate (found.map DeviceTelemetryDo.deviceId) ≠ [] →
      Answers c d (DeviceTelemetryRepository.selectDevices
          (c.runtime.iterate (found.map DeviceTelemetryDo.deviceId))) refColumns "device"
        (c.runtime.iterate (found.map DeviceTelemetryDo.deviceId)) "id") :
    ((∃ data, DeviceTelemetryRepository.referred c d
        (c.runtime.iterate (found.map DeviceTelemetryDo.deviceId)) found = .ok data) ↔
      ∀ s ∈ d.rows "device", IsMember (found.map DeviceTelemetryDo.deviceId) s "id" →
        Readable c.env c.runtime (s "json_data")) ∧
    ∀ data, DeviceTelemetryRepository.referred c d
      (c.runtime.iterate (found.map DeviceTelemetryDo.deviceId)) found = .ok data →
      data.map unreferred = found.map unreferred := by
  have hmember : ∀ s : Row,
      IsMember (c.runtime.iterate (found.map DeviceTelemetryDo.deviceId)) s "id" ↔
        IsMember (found.map DeviceTelemetryDo.deviceId) s "id" :=
    fun s => exists_congr (fun n => and_congr_left' (c.runtime.mem_iterate _ n))
  generalize c.runtime.iterate (found.map DeviceTelemetryDo.deviceId) = ids at hquery hmember ⊢
  rw [DeviceTelemetryRepository.referred]
  by_cases hnil : ids = []
  · rw [if_pos hnil]
    constructor
    · refine ⟨fun _ s _ hm => ?_, fun _ => ⟨found, rfl⟩⟩
      obtain ⟨i, hi, _⟩ := (hmember s).mpr hm
      rw [hnil] at hi
      exact absurd hi List.not_mem_nil
    · intro data h
      rw [Except.ok.inj h]
  · have hfold := foldlM_ok_iff (DeviceTelemetryRepository.referRow c.runtime)
      (fun data => data.map unreferred = found.map unreferred)
      (fun row => ∃ o, DeviceTelemetryRepository.decodeDevice c.runtime row = .ok o)
      (l := (memberRows (d.rows "device") ids "id").map (receivedRow c.env refColumns))
      (b := found) ?_ rfl
    · rw [if_neg hnil, show c.query d _ = _ from hquery hnil]
      refine ⟨hfold.1.trans ?_, hfold.2⟩
      rw [List.forall_mem_map]
      constructor
      · intro h s hs hm
        exact (ref_decode_iff d.consistent hs).mp
          (h s (mem_memberRows.mpr ⟨hs, (hmember s).mpr hm⟩))
      · intro h s hs
        obtain ⟨hs, hm⟩ := mem_memberRows.mp hs
        exact (ref_decode_iff d.consistent hs).mpr (h s hs ((hmember s).mp hm))
    · intro data hdata row hrow
      constructor
      · constructor
        · rintro ⟨data', h⟩
          obtain ⟨device, hdevice, _⟩ := bind_eq_ok.mp h
          exact ⟨device, hdevice⟩
        · rintro ⟨device, hdevice⟩
          exact ⟨_, bind_eq_ok.mpr ⟨device, hdevice, rfl⟩⟩
      · intro data' h
        obtain ⟨device, _, h⟩ := bind_eq_ok.mp h
        obtain rfl := Except.ok.inj h
        rw [map_refer]
        exact hdata

end

section
variable {env : Env} {runtime : Runtime}

lemma shows_bare {o : DeviceDo} {r : Row} :
    DeviceShows env runtime (bare o) r ↔ DeviceShows env runtime o r :=
  ⟨fun ⟨a, b, c, d, e, f, g⟩ => ⟨a, b, c, d, e, f, g⟩,
    fun ⟨a, b, c, d, e, f, g⟩ => ⟨a, b, c, d, e, f, g⟩⟩

lemma shows_unreferred {o : DeviceTelemetryDo} {r : Row} :
    TelemetryShows env runtime (unreferred o) r ↔ TelemetryShows env runtime o r :=
  ⟨fun ⟨a, b, c, d⟩ => ⟨a, b, c, d⟩, fun ⟨a, b, c, d⟩ => ⟨a, b, c, d⟩⟩

/-- The device row and the configurations of the device have readable JSON. -/
def DeviceReadable (env : Env) (runtime : Runtime) (d : Database schema) (r : Row) : Prop :=
  Readable env runtime (r "json_data") ∧
    ∀ s ∈ d.rows "device_configuration", s "device_id" = r "id" →
      Readable env runtime (s "json_data")

/-- Being a device of the page, in terms of rows and of what they decode to. -/
lemma isMember_shown {rows : List Row} {found : List DeviceDo}
    (h : List.Forall₂ (fun r o => DeviceShows env runtime o r) rows found) (s : Row) :
    IsMember (found.map DeviceDo.id) s "device_id" ↔ ∃ r ∈ rows, s "device_id" = r "id" := by
  constructor
  · rintro ⟨n, hn, hs⟩
    obtain ⟨o, ho, rfl⟩ := List.mem_map.mp hn
    obtain ⟨r, hr, hshows⟩ := exists_of_forall₂ (List.Forall₂.flip h) ho
    exact ⟨r, hr, hs.trans hshows.id.symm⟩
  · rintro ⟨r, hr, hs⟩
    obtain ⟨o, ho, hshows⟩ := exists_of_forall₂ h hr
    exact ⟨o.id, List.mem_map_of_mem ho, hs.trans hshows.id⟩

/-- The record and the device it refers to have readable JSON. -/
def TelemetryReadable (env : Env) (runtime : Runtime) (d : Database schema) (r : Row) : Prop :=
  Readable env runtime (r "json_data") ∧
    ∀ s ∈ d.rows "device", s "id" = r "device_id" → Readable env runtime (s "json_data")

/-- Being a device that the page refers to, in terms of rows and of what they decode to. -/
lemma isMember_referred {rows : List Row} {found : List DeviceTelemetryDo}
    (h : List.Forall₂ (fun r o => TelemetryShows env runtime o r) rows found) (s : Row) :
    IsMember (found.map DeviceTelemetryDo.deviceId) s "id" ↔
      ∃ r ∈ rows, s "id" = r "device_id" := by
  constructor
  · rintro ⟨n, hn, hs⟩
    obtain ⟨o, ho, rfl⟩ := List.mem_map.mp hn
    obtain ⟨r, hr, hshows⟩ := exists_of_forall₂ (List.Forall₂.flip h) ho
    exact ⟨r, hr, hs.trans hshows.deviceId.symm⟩
  · rintro ⟨r, hr, hs⟩
    obtain ⟨o, ho, hshows⟩ := exists_of_forall₂ h hr
    exact ⟨o.deviceId, List.mem_map_of_mem ho, hs.trans hshows.deviceId⟩

end

end SecondSelects
