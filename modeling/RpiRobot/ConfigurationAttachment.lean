import RpiRobot.KeyedJoins
import RpiRobot.Paging
import RpiRobot.PlainFilters

/-!
# The configurations of a page

The second select of `DeviceRepository::findAll` asks for the configurations of the devices that
the first has given. Whatever other clients do in between, each of its rows belongs to one of
these devices, so the search for the device never ends at the end iterator. It ends at the first
device with the id: a device that the first select gives twice has its configurations once.
-/

namespace ConfigurationAttachment

open SqlConditions (Expr Row Value)
open SqlTables SqlServers DomainObjects RequestParams Repositories RepositoryStatements
open FieldQueries RowDecoding SecondSelects PageResults ListResults KeyedJoins PlainFilters
open BuilderStatements (readClause parse_str)
open RegistrySchema (schema)

-- Without this the unifier tries to parse the text of a statement.
attribute [local irreducible] textServer condServer

/-! ## Attaching -/

/-- The device with more configurations. -/
def give (own : List DeviceConfigurationDo) (item : DeviceDo) : DeviceDo :=
  { item with configuration := item.configuration ++ own }

/-- The devices with the configurations of their ids, unless the id has come before. -/
def configuredFrom (configurations : List DeviceConfigurationDo) :
    List Int → List DeviceDo → List DeviceDo
  | _, [] => []
  | seen, item :: rest =>
    give (if item.id ∈ seen then [] else
        group DeviceConfigurationDo.deviceId configurations item.id) item ::
      configuredFrom configurations (item.id :: seen) rest

lemma give_nil (item : DeviceDo) : give [] item = item := by
  rw [give, List.append_nil]

lemma give_give (a b : List DeviceConfigurationDo) (item : DeviceDo) :
    give b (give a item) = give (a ++ b) item := by
  rw [give, give, give, List.append_assoc]

section
variable {seen : List Int} {data : List DeviceDo} {configurations : List DeviceConfigurationDo}

/-- Nothing else of the devices changes. -/
lemma configuredFrom_bare :
    (configuredFrom configurations seen data).map bare = data.map bare := by
  induction data generalizing seen with
  | nil => rfl
  | cons item rest ih => rw [configuredFrom, List.map_cons, List.map_cons, ih, bare, bare, give]

lemma map_id_bare (data : List DeviceDo) :
    (data.map bare).map DeviceDo.id = data.map DeviceDo.id := by
  rw [List.map_map]
  rfl

lemma configuredFrom_ids :
    (configuredFrom configurations seen data).map DeviceDo.id = data.map DeviceDo.id := by
  rw [← map_id_bare, configuredFrom_bare, map_id_bare]

lemma configuredFrom_nil : configuredFrom [] seen data = data := by
  induction data generalizing seen with
  | nil => rfl
  | cons item rest ih =>
    rw [configuredFrom, ih, group, List.filter_nil, ite_self, give_nil]

lemma configuredFrom_cons (cfg : DeviceConfigurationDo) :
    configuredFrom configurations seen (configuredFrom [cfg] seen data) =
      configuredFrom (cfg :: configurations) seen data := by
  induction data generalizing seen with
  | nil => rfl
  | cons item rest ih =>
    rw [configuredFrom, configuredFrom, configuredFrom]
    have hid : ∀ own, (give own item).id = item.id := fun _ => rfl
    rw [hid, ih, give_give]
    by_cases hseen : item.id ∈ seen
    · rw [if_pos hseen, if_pos hseen, if_pos hseen, List.append_nil]
    · rw [if_neg hseen, if_neg hseen, if_neg hseen, group_cons, group_cons]
      split_ifs
      · rfl
      · rfl

lemma configuredFrom_seen {cfg : DeviceConfigurationDo} (h : cfg.deviceId ∈ seen) :
    configuredFrom [cfg] seen data = data := by
  induction data generalizing seen with
  | nil => rfl
  | cons item rest ih =>
    have hnone : (if item.id ∈ seen then [] else
        group DeviceConfigurationDo.deviceId [cfg] item.id) = [] := by
      split_ifs with hseen
      · rfl
      · refine group_eq_nil.mpr fun a ha heq => hseen ?_
        rw [← heq, List.mem_singleton.mp ha]
        exact h
    rw [configuredFrom, hnone, give_nil, ih (List.mem_cons_of_mem _ h)]

/-- `find_if` gives the first device with the id. -/
lemma attach_eq {cfg : DeviceConfigurationDo} (hseen : cfg.deviceId ∉ seen)
    (h : cfg.deviceId ∈ data.map DeviceDo.id) :
    DeviceRepository.attach cfg data = .ok (configuredFrom [cfg] seen data) := by
  induction data generalizing seen with
  | nil => exact absurd h List.not_mem_nil
  | cons item rest ih =>
    rw [DeviceRepository.attach, configuredFrom, group_cons]
    by_cases hid : item.id = cfg.deviceId
    · rw [if_pos hid, if_neg (hid ▸ hseen), if_pos hid.symm,
        configuredFrom_seen (hid ▸ List.mem_cons_self)]
      rfl
    · have hmem : cfg.deviceId ∈ rest.map DeviceDo.id :=
        (List.mem_cons.mp h).resolve_left (Ne.symm hid)
      have hrest : cfg.deviceId ∉ item.id :: seen := fun hcons =>
        hseen ((List.mem_cons.mp hcons).resolve_left (Ne.symm hid))
      have hnone : (if item.id ∈ seen then [] else
          group DeviceConfigurationDo.deviceId ([] : List DeviceConfigurationDo) item.id) = [] := by
        split_ifs
        · rfl
        · rfl
      rw [if_neg hid, if_neg (Ne.symm hid), hnone, give_nil, ih hrest hmem]
      rfl

/-- The loop over the rows of the second select: all of them are decoded, and then the first
device of each id takes its own. -/
lemma foldlM_configure {runtime : Runtime} {rows : List PqRow}
    (h : ∀ row ∈ rows, ∀ cfg, DeviceRepository.decodeConfiguration runtime row = .ok cfg →
      cfg.deviceId ∈ data.map DeviceDo.id) :
    rows.foldlM (DeviceRepository.configure runtime) data =
      (rows.mapM (DeviceRepository.decodeConfiguration runtime)).map
        (fun configurations => configuredFrom configurations [] data) := by
  induction rows generalizing data with
  | nil =>
    rw [List.foldlM_nil, List.mapM_nil]
    exact congrArg Except.ok configuredFrom_nil.symm
  | cons row rows ih =>
    rw [List.forall_mem_cons] at h
    rw [List.foldlM_cons, List.mapM_cons, DeviceRepository.configure]
    cases hcfg : DeviceRepository.decodeConfiguration runtime row with
    | error e => rfl
    | ok cfg =>
      have hrest : rows.foldlM (DeviceRepository.configure runtime)
          (configuredFrom [cfg] [] data) = _ :=
        ih (by rw [configuredFrom_ids]; exact h.2)
      change (DeviceRepository.attach cfg data >>= _) = _
      rw [attach_eq List.not_mem_nil (h.1 cfg hcfg)]
      change rows.foldlM (DeviceRepository.configure runtime) (configuredFrom [cfg] [] data) = _
      rw [hrest]
      simp only [configuredFrom_cons]
      cases rows.mapM (DeviceRepository.decodeConfiguration runtime) with
      | error e => rfl
      | ok configurations => rfl

/-- Each device has the configurations of its id, in their order, and together the devices have
all of them once. -/
structure Attached (configurations : List DeviceConfigurationDo) (data : List DeviceDo) :
    Prop where
  own : ∀ item ∈ data,
    item.configuration = group DeviceConfigurationDo.deviceId configurations item.id
  all : (data.flatMap DeviceDo.configuration).Perm configurations

lemma configuredFrom_groups (hbare : ∀ o ∈ data, o.configuration = []) :
    (configuredFrom configurations seen data).map DeviceDo.configuration =
      firstGroups DeviceConfigurationDo.deviceId configurations seen (data.map DeviceDo.id) := by
  induction data generalizing seen with
  | nil => rfl
  | cons item rest ih =>
    rw [List.forall_mem_cons] at hbare
    rw [configuredFrom, List.map_cons, List.map_cons, firstGroups, ih hbare.2, give, hbare.1,
      List.nil_append]

/-- Configurations of the devices are attached as they should be exactly if each has one
device. -/
lemma attached_iff (hbare : ∀ o ∈ data, o.configuration = [])
    (h : ∀ cfg ∈ configurations, cfg.deviceId ∈ data.map DeviceDo.id) :
    Attached configurations (configuredFrom configurations [] data) ↔
      ∀ cfg ∈ configurations, (data.map DeviceDo.id).count cfg.deviceId = 1 := by
  have hgroups : (configuredFrom configurations [] data).map DeviceDo.configuration = _ :=
    configuredFrom_groups hbare
  have hids : (configuredFrom configurations [] data).map DeviceDo.id = _ := configuredFrom_ids
  have hperm : ((configuredFrom configurations [] data).flatMap DeviceDo.configuration).Perm
      configurations := by
    rw [List.flatMap_def, hgroups]
    exact firstGroups_perm fun cfg hcfg => ⟨h cfg hcfg, List.not_mem_nil⟩
  have hown : (∀ item ∈ configuredFrom configurations [] data, item.configuration =
      group DeviceConfigurationDo.deviceId configurations item.id) ↔
      firstGroups DeviceConfigurationDo.deviceId configurations [] (data.map DeviceDo.id) =
        (data.map DeviceDo.id).map (group DeviceConfigurationDo.deviceId configurations) := by
    rw [← hgroups, ← hids, List.map_map, List.map_inj_left]
    rfl
  have hcount : ∀ cfg ∈ configurations,
      ((cfg.deviceId ∈ [] → cfg.deviceId ∉ data.map DeviceDo.id) ∧
        (data.map DeviceDo.id).count cfg.deviceId ≤ 1 ↔
        (data.map DeviceDo.id).count cfg.deviceId = 1) := fun cfg hcfg => by
    have hpos := List.count_pos_iff.mpr (h cfg hcfg)
    rw [and_iff_right fun hmem => absurd hmem List.not_mem_nil]
    omega
  calc Attached configurations (configuredFrom configurations [] data)
    _ ↔ _ := ⟨fun hattached => hown.mp hattached.own, fun heq => ⟨hown.mpr heq, hperm⟩⟩
    _ ↔ _ := firstGroups_eq_iff
    _ ↔ _ := forall₂_congr hcount

end

/-! ## The selects -/

/-- The devices that the first select gives. -/
def devicesFound (c : Connection) (d : Database schema) (filter : Filter) (page : PageRequest) :
    Outcome (List DeviceDo) := do
  let rows ← c.query d (.select (DeviceRepository.selectData filter page))
  rows.mapM (DeviceRepository.decode c.runtime)

/-- The rows of the configurations of the devices. -/
def configurationRows (d : Database schema) (deviceIds : List Int) : List Row :=
  memberRows (d.rows "device_configuration") deviceIds "device_id"

/-- What the second select gives, if there are devices to ask for. -/
def selectedConfigurations (c : Connection) (d : Database schema) (deviceIds : List Int) :
    Outcome (List DeviceConfigurationDo) :=
  if deviceIds = [] then .ok []
  else do
    let rows ← c.query d (.select (DeviceRepository.selectConfiguration deviceIds))
    rows.mapM (DeviceRepository.decodeConfiguration c.runtime)

/-- The server answers the second select with the rows that it asks for. -/
def AnswersMembers (c : Connection) (d : Database schema) : Prop :=
  ∀ ids, ids ≠ [] → Answers c d (DeviceRepository.selectConfiguration ids) configurationColumns
    "device_configuration" ids "device_id"

section
variable {c : Connection} {env : Env} {int4In : String → Bool} {runtime : Runtime}
  {moment : Moment} {sat : Expr → Row → Bool} {d : Database schema} {dbs : Nat → Database schema}
  {filter : Filter} {page : PageRequest} {found : List DeviceDo}
  {configurations : List DeviceConfigurationDo} {result : Page DeviceDo}

variable (env runtime moment d) in
lemma answersMembers_field (sat : Reading) :
    AnswersMembers (fieldConnection env runtime moment (ownReading sat "device")) d :=
  fun ids hids => query_members (t := RegistrySchema.deviceConfiguration) (by decide)
    deviceIdColumn (renders_configuration ids) rfl rfl hids

variable (env runtime moment d) in
/-- The text of the second select asks for these rows, in both renderings of its condition. -/
lemma answersMembers_text : AnswersMembers (textConnection env runtime moment) d := by
  intro ids hids
  have hfield := answersMembers_field env runtime moment d TextPages.sqlReading ids hids
  rw [TextPages.ownReading_sql] at hfield
  rw [Answers, TextPages.configuration_text hids]
  exact hfield

variable (env int4In runtime moment sat d) in
lemma answersMembers_typed :
    AnswersMembers (typedConnection env int4In runtime moment "device" sat) d := by
  intro ids hids
  have hsame := member_query env int4In runtime moment sat d
    (t := RegistrySchema.deviceConfiguration) deviceIdColumn rfl rfl "device" (by decide) rfl
    (renders_configuration ids) (nulFree_plain (by decide) (by decide)
      (TextPages.nulFree_member (by decide) ids)) hids
  rw [Answers, hsame]
  exact answersMembers_field env runtime moment d _ ids hids

/-- The rows of the second select as configurations, each of one of the devices. -/
lemma selectedConfigurations_shows {deviceIds : List Int} (hmembers : AnswersMembers c d)
    (h : selectedConfigurations c d deviceIds = .ok configurations) :
    List.Forall₂ (fun r cfg => ConfigurationShows c.env c.runtime cfg r)
      (configurationRows d deviceIds) configurations := by
  rw [selectedConfigurations] at h
  by_cases hnil : deviceIds = []
  · rw [if_pos hnil] at h
    have hnone : configurationRows d deviceIds = [] := by
      rw [configurationRows, memberRows, List.filter_eq_nil_iff, hnil]
      simp [MemberConditions.IsMember]
    rw [hnone, ← Except.ok.inj h]
    exact .nil
  · rw [if_neg hnil, show c.query d _ = _ from hmembers deviceIds hnil] at h
    have hall := (forall₂_congr_mem fun r hr cfg =>
      configuration_decode d.consistent (mem_memberRows.mp hr).1 cfg).mp (mapM_rows.mp h)
    exact hall.imp fun _ _ hshows => hshows.1

lemma configuration_id {deviceIds : List Int}
    (h : List.Forall₂ (fun r cfg => ConfigurationShows env runtime cfg r)
      (configurationRows d deviceIds) configurations) :
    ∀ cfg ∈ configurations, cfg.deviceId ∈ deviceIds := by
  intro cfg hcfg
  obtain ⟨r, hr, hshows⟩ := exists_of_forall₂ h.flip hcfg
  obtain ⟨n, hn, hdevice⟩ := (mem_memberRows.mp hr).2
  rwa [Value.int.inj (hshows.deviceId.symm.trans hdevice)]

/-- The devices are configured as the second select says. -/
lemma configured_eq (hmembers : AnswersMembers c d) :
    DeviceRepository.configured c d (found.map DeviceDo.id) found =
      (selectedConfigurations c d (found.map DeviceDo.id)).map
        (fun configurations => configuredFrom configurations [] found) := by
  rw [DeviceRepository.configured, selectedConfigurations]
  by_cases hnil : found.map DeviceDo.id = []
  · rw [if_pos hnil, if_pos hnil, List.map_eq_nil_iff.mp hnil]
    rfl
  · rw [if_neg hnil, if_neg hnil, show c.query d _ = _ from hmembers _ hnil]
    refine foldlM_configure fun row hrow cfg hcfg => ?_
    obtain ⟨s, hs, rfl⟩ := List.mem_map.mp hrow
    obtain ⟨hs, n, hn, hdevice⟩ := mem_memberRows.mp hs
    have hshows := ((configuration_decode d.consistent hs cfg).mp hcfg).1
    rwa [Value.int.inj (hshows.deviceId.symm.trans hdevice)]

lemma devicesFound_eq_ok : devicesFound c d filter page = .ok found ↔
    ∃ rows, c.query d (.select (DeviceRepository.selectData filter page)) = .ok rows ∧
      rows.mapM (DeviceRepository.decode c.runtime) = .ok found := bind_eq_ok

lemma found_bare (h : devicesFound c d filter page = .ok found) :
    ∀ o ∈ found, o.configuration = [] := by
  obtain ⟨rows, -, hfound⟩ := devicesFound_eq_ok.mp h
  intro o ho
  obtain ⟨row, -, hdecode⟩ := exists_of_forall₂ (mapM_ok_iff.mp hfound).flip ho
  simp only [DeviceRepository.decode, bind_eq_ok] at hdecode
  obtain ⟨_, -, id, -, _, -, registryId, -, _, -, createdAt, -, _, -, name, -, _, -, uuid, -, _, -,
    status, -, _, -, jsonData, -, hdevice⟩ := hdecode
  rw [← Except.ok.inj hdevice]
  rfl

/-- What a page is made of. -/
lemma findAll_parts (hmembers : AnswersMembers c (dbs 1))
    (h : DeviceRepository.findAll c dbs filter page = .ok result) :
    ∃ found configurations, devicesFound c (dbs 0) filter page = .ok found ∧
      List.Forall₂ (fun r cfg => ConfigurationShows c.env c.runtime cfg r)
        (configurationRows (dbs 1) (found.map DeviceDo.id)) configurations ∧
      result.data = configuredFrom configurations [] found ∧
      total c (dbs 2) page (DeviceRepository.selectCount filter) = .ok result.total := by
  obtain ⟨rows, hrows, found, hfound, hdata, htotal⟩ := device_findAll_iff.mp h
  rw [configured_eq hmembers] at hdata
  cases hselected : selectedConfigurations c (dbs 1) (found.map DeviceDo.id) with
  | error e => exact absurd (hselected ▸ hdata) (by simp [Except.map])
  | ok configurations =>
    rw [hselected] at hdata
    exact ⟨found, configurations, devicesFound_eq_ok.mpr ⟨rows, hrows, hfound⟩,
      selectedConfigurations_shows hmembers hselected, (Except.ok.inj hdata).symm, htotal⟩

end

/-! ## The end iterator -/

/-- The result is not that of writing through the end iterator. -/
def Guarded {α : Type} (x : Outcome α) : Prop := x ≠ .error .endIterator

section
variable {α β : Type}

lemma guarded_ok (a : α) : Guarded (.ok a : Outcome α) := fun h => nomatch h

lemma Guarded.bind {x : Outcome α} {f : α → Outcome β} (hx : Guarded x)
    (hf : ∀ a, x = .ok a → Guarded (f a)) : Guarded (x >>= f) := by
  cases x with
  | error e => exact fun h => hx (congrArg Except.error (Except.error.inj h))
  | ok a => exact hf a rfl

lemma Guarded.map {x : Outcome α} (hx : Guarded x) (f : α → β) : Guarded (x.map f) := by
  cases x with
  | error e => exact fun h => hx (congrArg Except.error (Except.error.inj h))
  | ok a => exact guarded_ok _

lemma guarded_mapM {f : α → Outcome β} (hf : ∀ a, Guarded (f a)) (as : List α) :
    Guarded (as.mapM f) := by
  induction as with
  | nil => exact guarded_ok _
  | cons a as ih =>
    rw [List.mapM_cons]
    exact (hf a).bind fun b _ => ih.bind fun bs _ => guarded_ok _

lemma guarded_query (c : Connection) (d : Database schema) (m : SqlBuilder.SqlModel) :
    Guarded (c.query d m) := by
  unfold Connection.query
  split
  · exact guarded_ok _
  · exact fun h => nomatch h

lemma guarded_at (row : PqRow) (i : Nat) : Guarded (row.at i) := by
  unfold PqRow.at
  split
  · exact guarded_ok _
  · exact fun h => nomatch h

lemma guarded_asString (field : Option String) : Guarded (asString field) := by
  cases field with
  | none => exact fun h => nomatch h
  | some s => exact guarded_ok s

lemma guarded_asInteger (low high : Int) (field : Option String) :
    Guarded (asInteger low high field) := by
  refine (guarded_asString field).bind fun s _ => ?_
  cases DecimalText.intValue s.toList with
  | none => exact fun h => nomatch h
  | some n =>
    by_cases hrange : low ≤ n ∧ n ≤ high
    · simp only [if_pos hrange]
      exact guarded_ok n
    · simp only [if_neg hrange]
      exact fun h => nomatch h

lemma guarded_asJson (runtime : Runtime) (field : Option String) :
    Guarded (asJson runtime field) := by
  refine (guarded_asString field).bind fun s _ => ?_
  cases runtime.parse s with
  | none => exact fun h => nomatch h
  | some j => exact guarded_ok j

/-- A column that is read and then converted. -/
lemma guarded_field {convert : Option String → Outcome α}
    (hconvert : ∀ field, Guarded (convert field)) (row : PqRow) (i : Nat)
    {f : α → Outcome β} (hf : ∀ a, Guarded (f a)) :
    Guarded (row.at i >>= fun field => convert field >>= f) :=
  (guarded_at row i).bind fun field _ => (hconvert field).bind fun a _ => hf a

lemma guarded_decode (runtime : Runtime) (row : PqRow) :
    Guarded (DeviceRepository.decode runtime row) := by
  refine guarded_field (guarded_asInteger _ _) row 0 fun id => ?_
  refine guarded_field (guarded_asInteger _ _) row 1 fun registryId => ?_
  refine guarded_field guarded_asString row 2 fun createdAt => ?_
  refine guarded_field guarded_asString row 3 fun name => ?_
  refine guarded_field guarded_asString row 4 fun uuid => ?_
  refine guarded_field (guarded_asInteger _ _) row 5 fun status => ?_
  exact guarded_field (guarded_asJson runtime) row 6 fun jsonData => guarded_ok _

lemma guarded_decodeConfiguration (runtime : Runtime) (row : PqRow) :
    Guarded (DeviceRepository.decodeConfiguration runtime row) := by
  refine guarded_field (guarded_asInteger _ _) row 1 fun deviceId => ?_
  refine guarded_field (guarded_asInteger _ _) row 0 fun id => ?_
  refine guarded_field guarded_asString row 2 fun createdAt => ?_
  exact guarded_field (guarded_asJson runtime) row 3 fun jsonData => guarded_ok _

lemma guarded_total (c : Connection) (d : Database schema) (page : PageRequest)
    (m : SqlBuilder.SelectModel) : Guarded (total c d page m) := by
  unfold total
  split
  · refine (guarded_query c d _).bind fun rows _ => ?_
    have hsingle : Guarded (single rows) := by
      unfold single
      split
      · exact guarded_ok _
      · exact fun h => nomatch h
    exact hsingle.bind fun row _ => (guarded_at row 0).bind fun field _ =>
      (guarded_asInteger _ _ field).map _
  · exact guarded_ok 0

lemma guarded_selectedConfigurations (c : Connection) (d : Database schema) (deviceIds : List Int) :
    Guarded (selectedConfigurations c d deviceIds) := by
  unfold selectedConfigurations
  split
  · exact guarded_ok []
  · exact (guarded_query c d _).bind fun rows _ =>
      guarded_mapM (guarded_decodeConfiguration c.runtime) rows

end

/-! ## The page -/

section
variable {env : Env} {int4In : String → Bool} {runtime : Runtime} {moment : Moment}
  {sat : Expr → Row → Bool} {d : Database schema} {filter : Filter} {page : PageRequest}
  {found : List DeviceDo}

lemma pageRows_ids (sat : Reading) (l : Listing) :
    ((pageRows sat l.own.name filter l.descending page (d.rows l.own.name)).map idOf).Nodup := by
  have hsorted : (sortRows (some ⟨"id", l.descending⟩)
      ((d.rows l.own.name).filter (Matches sat l.own.name filter))).map idOf |>.Nodup := by
    refine (((Paging.sort_perm l.descending _).map idOf).nodup_iff).mpr ?_
    exact l.ids_nodup.sublist (List.filter_sublist.map idOf)
  have hwindow : (pageRows sat l.own.name filter l.descending page (d.rows l.own.name)).Sublist
      (sortRows (some ⟨"id", l.descending⟩)
        ((d.rows l.own.name).filter (Matches sat l.own.name filter))) :=
    (List.take_sublist _ _).trans (List.drop_sublist _ _)
  exact hsorted.sublist (hwindow.map idOf)

lemma found_ids {rows : List Row}
    (h : List.Forall₂ (fun r o => DeviceShows env runtime o r) rows found) :
    found.map DeviceDo.id = rows.map idOf := by
  induction h with
  | nil => rfl
  | cons hshows _ ih => rw [List.map_cons, List.map_cons, ih, idOf, hshows.id]

/-- With a plain filter the first select gives the devices of the page. -/
lemma plain_found (hplain : Plain filter)
    (h : devicesFound (typedConnection env int4In runtime moment "device" sat) d filter page =
      .ok found) :
    List.Forall₂ (fun r o => DeviceShows env runtime o r)
      (pageRows (reading "device" sat) "device" filter false page (d.rows "device")) found := by
  obtain ⟨rows, hrows, hfound⟩ := devicesFound_eq_ok.mp h
  have hquery := hplain.query_page env int4In runtime moment sat d page deviceListing
  by_cases haccepted : Accepted env int4In RegistrySchema.device filter
  · have hfield := (hquery.1 haccepted).symm.trans hrows
    obtain ⟨hs, ho⟩ := deviceListing.page_negative hfield
    obtain rfl := Except.ok.inj ((query_rows env runtime moment (reading "device" sat) (d := d)
      filter deviceListing hs ho).symm.trans hfield)
    have hall := (forall₂_congr_mem fun r hr o =>
      device_decode d.consistent (mem_pageRows hr) o).mp (mapM_rows.mp hfound)
    exact hall.imp fun _ _ hshows => hshows.1
  · obtain ⟨e, he⟩ := hquery.2 haccepted
    exact absurd (he.symm.trans hrows) (by simp)

lemma plain_once (hplain : Plain filter)
    (h : devicesFound (typedConnection env int4In runtime moment "device" sat) d filter page =
      .ok found) : (found.map DeviceDo.id).Nodup := by
  rw [found_ids (plain_found hplain h)]
  exact pageRows_ids _ deviceListing

end

/-- The server answers the second select as its text says. -/
def AnswersAsText (c : Connection) (moment : Moment) : Prop :=
  ∀ d ids, ids ≠ [] → c.query d (.select (DeviceRepository.selectConfiguration ids)) =
    (textConnection c.env c.runtime moment).query d
      (.select (DeviceRepository.selectConfiguration ids))

/-- The server takes conditions as comparisons with columns of the table of devices. -/
def ReadsComparisons (c : Connection) (moment : Moment) : Prop :=
  ∃ int4In sat, c = typedConnection c.env int4In c.runtime moment "device" sat

/-- Whatever each statement of the call sees and the first select is answered with, the end
iterator is not written through, and the configurations of the second select are attached
exactly if each of them has one device in the answer to the first. A filter without quotes
gives no device twice. -/
theorem configurations_attached_iff (c : Connection) (moment : Moment)
    (hsecond : AnswersAsText c moment) (d : Nat → Database schema) (filter : Filter)
    (page : PageRequest) :
    DeviceRepository.findAll c d filter page ≠ .error .endIterator ∧
      ∀ result, DeviceRepository.findAll c d filter page = .ok result →
        ∃ found configurations, devicesFound c (d 0) filter page = .ok found ∧
          List.Forall₂ (fun r cfg => ConfigurationShows c.env c.runtime cfg r)
            (configurationRows (d 1) (found.map DeviceDo.id)) configurations ∧
          result.data.map bare = found ∧
          (Attached configurations result.data ↔
            ∀ cfg ∈ configurations, (found.map DeviceDo.id).count cfg.deviceId = 1) ∧
          (Plain filter → ReadsComparisons c moment → (found.map DeviceDo.id).Nodup) := by
  have hmembers : AnswersMembers c (d 1) := by
    intro ids hids
    rw [Answers, hsecond (d 1) ids hids]
    exact answersMembers_text c.env c.runtime moment (d 1) ids hids
  constructor
  · refine (guarded_query c _ _).bind fun rows hrows => ?_
    refine (guarded_mapM (guarded_decode c.runtime) rows).bind fun found hfound => ?_
    have hselected := (guarded_selectedConfigurations c (d 1) (found.map DeviceDo.id)).map
      fun configurations => configuredFrom configurations [] found
    refine Guarded.bind (configured_eq hmembers ▸ hselected) fun data _ => ?_
    exact (guarded_total c _ page _).bind fun n _ => guarded_ok _
  · intro result h
    obtain ⟨found, configurations, hfound, hshows, hdata, -⟩ := findAll_parts hmembers h
    have hbare := found_bare hfound
    have hsame : found.map bare = found :=
      (List.map_congr_left fun o ho => by rw [bare, ← hbare o ho, id_eq]).trans (List.map_id _)
    refine ⟨found, configurations, hfound, hshows, ?_, ?_, fun hplain hreads => ?_⟩
    · rw [hdata, configuredFrom_bare, hsame]
    · rw [hdata]
      exact attached_iff hbare (configuration_id hshows)
    · obtain ⟨int4In, sat, hc⟩ := hreads
      exact plain_once hplain (hc ▸ hfound)

/-- The devices of a page with the ids of their configurations. -/
def configurationIds (data : List DeviceDo) : List (Int × List Int) :=
  data.map fun item => (item.id, item.configuration.map DeviceConfigurationDo.id)

lemma exists_ok {α β : Type} (x : Outcome α) (f : α → β) {b : β}
    (h : (x.map f).toOption = some b) : ∃ a, x = .ok a ∧ f a = b := by
  cases x with
  | error e => exact absurd h (by simp [Except.map, Except.toOption])
  | ok a => exact ⟨a, rfl, Option.some.inj h⟩

lemma configurationIds_ids (data : List DeviceDo) :
    (configurationIds data).map Prod.fst = data.map DeviceDo.id := by
  rw [configurationIds, List.map_map]
  rfl

/-- Another client has added configurations of both devices. -/
def reconfigured : Database schema where
  rows name :=
    if name = "device_configuration" then
      [newRow RegistrySchema.setup RegistrySchema.deviceConfiguration 1
        [("id", .int 2), ("device_id", .int 2), ("json_data", .json RegistrySchema.online)],
      newRow RegistrySchema.setup RegistrySchema.deviceConfiguration 1
        [("id", .int 1), ("device_id", .int 1), ("json_data", .json RegistrySchema.configuration)],
      newRow RegistrySchema.setup RegistrySchema.deviceConfiguration 1
        [("id", .int 3), ("device_id", .int 1), ("json_data", .json (.object []))]]
    else RegistrySchema.shippedRows name
  serial _ := 4
  consistent := by decide

/-- The first statement sees the shipped rows, the others what has been added. -/
def added : Nat → Database schema
  | 0 => RegistrySchema.shipped
  | _ => reconfigured

/-- A client whose statements are parsed. -/
def textClient : Connection :=
  textConnection RegistrySchema.shippedEnv shippedRuntime RegistrySchema.setup

def inRegistry : Filter := Filter.create.add "registry_id" .opEq (.integral 2)

theorem configurations_attached_added :
    ∃ result configurations,
      DeviceRepository.findAll textClient added inRegistry ⟨0, 10, false⟩ = .ok result ∧
      configurationIds result.data = [(1, [1, 3]), (2, [2])] ∧
      List.Forall₂ (fun r cfg => ConfigurationShows textClient.env textClient.runtime cfg r)
        (configurationRows reconfigured [1, 2]) configurations ∧
      Attached configurations result.data := by
  obtain ⟨result, hresult, hids⟩ := exists_ok (DeviceRepository.findAll textClient added
    inRegistry ⟨0, 10, false⟩) (fun result => configurationIds result.data)
    (b := [(1, [1, 3]), (2, [2])]) (by decide +kernel)
  obtain ⟨found, configurations, -, hshows, rfl, hattached, -⟩ :=
    (configurations_attached_iff textClient RegistrySchema.setup (fun _ _ _ => rfl) added
      inRegistry ⟨0, 10, false⟩).2 result hresult
  have hfound : (result.data.map bare).map DeviceDo.id = [1, 2] := by
    rw [map_id_bare, ← configurationIds_ids, hids]
    rfl
  rw [hfound] at hshows hattached
  refine ⟨result, configurations, hresult, hids, hshows, hattached.mpr fun cfg hcfg => ?_⟩
  exact List.count_eq_one_of_mem (by decide) (configuration_id hshows cfg hcfg)

/-- A name that ends its literal and reads the table once more. -/
def unionName : String :=
  "' or id > 0 union all select id, registry_id, created_at, name, uuid, status, json_data " ++
    "from device -- "

/-- The statement with this name: what follows the name is a comment. -/
def unionText : String :=
  "select id, registry_id, created_at, name, uuid, status, json_data from device " ++
    "where name = '" ++ unionName ++ "' order by id limit 1 offset 0"

/-- The server gives every device twice to this statement. -/
def unionServer (d : Database schema) (m : SqlBuilder.SqlModel) :
    Except SqlError Result × Database schema :=
  if m.str = unionText then
    (.ok ⟨deviceColumns, (d.rows "device" ++ d.rows "device").map
      (fun r => deviceColumns.map r)⟩, d)
  else textServer RegistrySchema.shippedEnv RegistrySchema.setup d m

def unionConnection : Connection := ⟨unionServer, RegistrySchema.shippedEnv, shippedRuntime⟩

lemma unionConnection_server : unionConnection.server = unionServer := by
  rw [unionConnection]

/-- The text of the second select is a statement of the grammar, and this one is not. -/
lemma configuration_ne_union {ids : List Int} (hids : ids ≠ []) :
    (SqlBuilder.SqlModel.select (DeviceRepository.selectConfiguration ids)).str ≠ unionText := by
  obtain ⟨e, he, -⟩ := TextPages.member_checked RegistrySchema.shippedEnv
    (t := RegistrySchema.deviceConfiguration) deviceIdColumn rfl rfl hids
  have hread : readClause [memberOf "device_id" ids] = some (some e) :=
    TextQueries.readClause_single (c := (SqlBuilder.Column.of "device_id").in_ (ids.map .long)) he
  have hclause : (SqlStatements.Statement.select (plainSelect configurationColumns
      "device_configuration" [memberOf "device_id" ids])).mapCond readClause = some (.select
        ⟨.columns configurationColumns, "device_configuration", some e, none, none, none⟩) := by
    change Option.map _ (readClause [memberOf "device_id" ids]) = _
    rw [hread, Option.map_some]
    rfl
  have hparse := parse_str (.select (renders_configuration ids)) hclause
  intro h
  rw [h] at hparse
  have hnone : (SqlStatements.parse unionText).isNone = true := by decide +kernel
  rw [hparse] at hnone
  exact absurd hnone (by simp)

/-- The name of a telemetry event finds every device twice, and only the first copy has its
configurations. -/
theorem union_not_attached :
    ¬ ∀ (c : Connection) (moment : Moment) (d : Nat → Database schema) (filter : Filter)
      (page : PageRequest) (result : Page DeviceDo), AnswersAsText c moment →
      DeviceRepository.findAll c d filter page = .ok result →
      ∃ configurations, List.Forall₂ (fun r cfg => ConfigurationShows c.env c.runtime cfg r)
          (configurationRows (d 1) (result.data.map DeviceDo.id)) configurations ∧
        Attached configurations result.data := by
  intro hclaim
  obtain ⟨result, hresult, hids⟩ := exists_ok (DeviceRepository.findAll unionConnection
    (fun _ => RegistrySchema.shipped) (Filter.create.add "name" .opEq (.string unionName))
    (PageRequest.of 0 1 false)) (fun result => configurationIds result.data)
    (b := [(1, [1]), (2, []), (1, []), (2, [])]) (by decide +kernel)
  have hsecond : AnswersAsText unionConnection RegistrySchema.setup := by
    intro d ids hids
    have hserver : unionConnection.server d
        (.select (DeviceRepository.selectConfiguration ids)) =
        textServer RegistrySchema.shippedEnv RegistrySchema.setup d
          (.select (DeviceRepository.selectConfiguration ids)) := by
      rw [unionConnection_server, unionServer, if_neg (configuration_ne_union hids)]
    rw [Connection.query, Connection.query, hserver, textConnection_server]
    rfl
  obtain ⟨configurations, -, hattached⟩ := hclaim unionConnection RegistrySchema.setup _ _ _ _
    hsecond hresult
  have hitem : ∀ own, (1, own) ∈ configurationIds result.data →
      (group DeviceConfigurationDo.deviceId configurations 1).map DeviceConfigurationDo.id =
        own := by
    intro own hown
    obtain ⟨item, hitem, heq⟩ := List.mem_map.mp hown
    obtain ⟨hid, rfl⟩ := Prod.mk.inj heq
    rw [hattached.own item hitem, hid]
  rw [hids] at hitem
  have hfirst := hitem [1] (by decide)
  rw [hitem [] (by decide)] at hfirst
  exact absurd hfirst (by decide)

end ConfigurationAttachment
