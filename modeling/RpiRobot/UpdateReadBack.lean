import RpiRobot.LiteralIntegrity
import RpiRobot.TextWrites

/-!
# Updates read back

An update changes the row with the id of the model, so that the row shows the model,
and nothing else. The registry update keeps this promise for every name that fits its
column and every JSON value that can be stored. The device update demands a row from
a statement that returns none, and so it always throws.
-/

namespace UpdateReadBack

open SqlConditions (Row Value)
open SqlTokens (Opens)
open SqlBuilder SqlTables SqlServers SqlStatements BuilderStatements
open StringLiterals (QuoteFree)
open RequestParams DomainObjects Repositories RepositoryStatements FieldQueries
open RowDecoding TextQueries TextWrites
open RegistrySchema (schema)

-- Without this the unifier tries to parse the text of a statement.
attribute [local irreducible] textServer

/-- Only the row with the id changes. -/
structure Framed (table : String) (id : Int) (d d' : Database schema) : Prop where
  tables : ∀ name, name ≠ table → d'.rows name = d.rows name
  rows : List.Forall₂ (fun r r' => r "id" ≠ .int id → r' = r) (d.rows table) (d'.rows table)

/-- The row with the id shows the model, and nothing else changes. -/
def ReadBack {T : Type} (repository : Repository T) (own : T → T → Prop) (c : Connection)
    (d : Database schema) (table : String) (id : Int) (m : T) : Prop :=
  ∃ d' o, repository.update c d m = (.ok (), d') ∧ Framed table id d d' ∧
    repository.findById c (fun _ => d') id = .ok (some o) ∧ own m o

def registryOwn (m o : RegistryDo) : Prop :=
  o.name = m.name ∧ o.status = m.status ∧ o.jsonData = m.jsonData

def deviceOwn (m o : DeviceDo) : Prop :=
  o.name = m.name ∧ o.status = m.status ∧ o.jsonData = m.jsonData

/-! What the update of a registry assigns. -/

def registryAssigned (name : String) (status : Int) (j : Json) : List (String × Value) :=
  [("name", .text name), ("status", .int status), ("json_data", .json j)]

section
variable {env : Env} {runtime : Runtime} {moment : Moment} {d d' : Database schema}
  {m : RegistryDo}

lemma registry_assigned_iff
    (hstatus : DecimalText.intMin ≤ m.status ∧ m.status ≤ DecimalText.intMax)
    {assigned : List (String × Value)} :
    List.Forall₂ (Assigned env moment RegistrySchema.registry) (registrySets runtime m) assigned ↔
      ∃ name j, fitVarchar 64 m.name = .ok (.text name) ∧
        env.jsonbIn (runtime.dump m.jsonData) = some j ∧
        assigned = registryAssigned name m.status j := by
  have hname : column RegistrySchema.registry "name" = .ok ⟨"name", .varchar 64, true, .null⟩ := rfl
  have hint : column RegistrySchema.registry "status" = .ok RegistrySchema.status := rfl
  have hjson : column RegistrySchema.registry "json_data" = .ok RegistrySchema.jsonData := rfl
  have hcast : cast env moment RegistrySchema.status.type (.num (toString m.status)) =
      .ok (.int m.status) := cast_int hstatus
  constructor
  · intro h
    obtain ⟨⟨_, v⟩, _, hv, hrest, rfl⟩ := List.forall₂_cons_left_iff.mp h
    obtain ⟨⟨_, w⟩, _, hw, hlast, rfl⟩ := List.forall₂_cons_left_iff.mp hrest
    obtain ⟨⟨_, u⟩, _, hu, hnil, rfl⟩ := List.forall₂_cons_left_iff.mp hlast
    obtain rfl := List.forall₂_nil_left_iff.mp hnil
    obtain ⟨rfl, hv⟩ := (assigned_iff hname).mp hv
    obtain ⟨rfl, hw⟩ := (assigned_iff hint).mp hw
    obtain ⟨rfl, hu⟩ := (assigned_iff hjson).mp hu
    obtain ⟨t, rfl, _⟩ := fitVarchar_text hv
    obtain rfl := Except.ok.inj (hcast.symm.trans hw)
    obtain ⟨j, hj, rfl⟩ := cast_json_iff.mp hu
    exact ⟨t, j, hv, hj, rfl⟩
  · rintro ⟨t, j, hfit, hj, rfl⟩
    have htext : cast env moment (.varchar 64) (.str m.name) = .ok (.text t) := hfit
    exact .cons ((assigned_iff hname).mpr ⟨rfl, htext⟩) (.cons ((assigned_iff hint).mpr ⟨rfl, hcast⟩)
      (.cons ((assigned_iff hjson).mpr ⟨rfl, cast_json hj⟩) .nil))

lemma registry_updates (hq : QuoteFree m.name.toList)
    (hdump : QuoteFree (runtime.dump m.jsonData).toList) (hnul : NulFree m.name) :
    Updates RegistrySchema.registry (RegistryRepository.updateModel runtime m)
      (registrySets runtime m) m.id where
  renders := renders_registry_update runtime hq hdump
  clause := rfl
  nulFree := by
    refine nulFree_update (show NulFree "registry" by decide) ?_
      (List.forall_mem_singleton.mpr (FilterConditions.nulFree_compare
        FilterConditions.idColumn .eq (v := .long m.id) (nulFree_int m.id)))
    change ∀ t ∈ ["name = " ++ toValue (.string m.name), "status = " ++ toString m.status,
      "json_data = " ++ toValue (.string (runtime.dump m.jsonData))], NulFree t
    rw [List.forall_mem_cons, List.forall_mem_cons, List.forall_mem_singleton]
    exact ⟨NulFree.append (by decide) (nulFree_string hnul),
      NulFree.append (by decide) (nulFree_int m.status),
      NulFree.append (by decide) (nulFree_string (runtime.dump_nulFree _))⟩

lemma registry_update_cut (hq : QuoteFree m.name.toList)
    (hdump : QuoteFree (runtime.dump m.jsonData).toList) (hnul : ¬ NulFree m.name) :
    RegistryRepository.update (textConnection env runtime moment) d m ≠ (.ok (), d') := by
  intro h
  obtain ⟨r, hr⟩ := committed_iff.mp h
  have hfree : ∀ v ∈ [m.name, runtime.dump m.jsonData], QuoteFree v.toList :=
    List.forall_mem_cons.mpr ⟨hq, List.forall_mem_singleton.mpr hdump⟩
  have hcut := LiteralIntegrity.nul_rejected env runtime moment
    (d := d) (s := .registryUpdate m) hfree ⟨m.name, List.mem_cons_self, hnul⟩
  rw [textConnection_server] at hr
  exact absurd (hcut.symm.trans hr) (by simp)

variable (env moment d') in
/-- What the server makes of the update of a registry. -/
theorem registry_update_iff (hq : QuoteFree m.name.toList)
    (hdump : QuoteFree (runtime.dump m.jsonData).toList)
    (hstatus : DecimalText.intMin ≤ m.status ∧ m.status ≤ DecimalText.intMax) :
    RegistryRepository.update (textConnection env runtime moment) d m = (.ok (), d') ↔
      NulFree m.name ∧ ∃ name j, fitVarchar 64 m.name = .ok (.text name) ∧
        env.jsonbIn (runtime.dump m.jsonData) = some j ∧
        ∃ hc : Consistent schema
          (updatedRows registryListing d m.id (registryAssigned name m.status j)),
          d' = ⟨_, d.serial, hc⟩ := by
  by_cases hnul : NulFree m.name
  · have hiff := updated_iff env runtime moment (d := d) d'
      registryListing (registry_updates hq hdump hnul)
    refine hiff.trans ⟨?_, ?_⟩
    · rintro ⟨assigned, ha, hc⟩
      obtain ⟨name, j, hfit, hj, rfl⟩ := (registry_assigned_iff hstatus).mp ha
      exact ⟨hnul, name, j, hfit, hj, hc⟩
    · rintro ⟨_, name, j, hfit, hj, hc⟩
      exact ⟨_, (registry_assigned_iff hstatus).mpr ⟨name, j, hfit, hj, rfl⟩, hc⟩
  · exact ⟨fun h => absurd h (registry_update_cut hq hdump hnul), fun h => absurd h.1 hnul⟩

end

/-! When the updated rows satisfy the schema. -/

section
variable {d : Database schema} {id status : Int} {name : String} {j : Json}

lemma withId_of_ne {assigned : List (String × Value)} {r : Row} (h : r "id" ≠ .int id) :
    withId id assigned r = r := if_neg h

lemma withId_of_eq {assigned : List (String × Value)} {r : Row} (h : r "id" = .int id) :
    withId id assigned r = setColumns assigned r := if_pos h

/-- A column that is not assigned stays as it is. -/
lemma withId_column {assigned : List (String × Value)} {column : String}
    (h : assigned.lookup column = none) (r : Row) : withId id assigned r column = r column := by
  rw [withId]
  split_ifs
  · rw [setColumns, h, Option.getD_none]
  · rfl

lemma setColumns_eq_self {assigned : List (String × Value)} {r : Row}
    (h : ∀ a ∈ assigned, r a.1 = a.2) : setColumns assigned r = r := by
  funext column
  rw [setColumns]
  cases hl : assigned.lookup column with
  | none => rfl
  | some v =>
    obtain ⟨_, _, hsplit, _⟩ := List.lookup_eq_some_iff.mp hl
    exact (h (column, v) (by rw [hsplit]; simp)).symm

/-- A row without the id has the name that the update gives to the row with the id. -/
def Taken (d : Database schema) (id : Int) (name : String) : Prop :=
  ∃ r ∈ d.rows "registry", ∃ s ∈ d.rows "registry", r "id" = .int id ∧ s "id" ≠ .int id ∧
    s "name" = .text name

instance (d : Database schema) (id : Int) (name : String) : Decidable (Taken d id name) :=
  inferInstanceAs (Decidable (∃ _ ∈ _, ∃ _ ∈ _, _))

lemma registry_unique (col : String) (h : col ∈ RegistrySchema.registry.unique) :
    (keys col (d.rows "registry")).Nodup :=
  (d.consistent RegistrySchema.registry (.head _)).unique col h

lemma names_nodup (h : ¬ Taken d id name) :
    (keys "name" ((d.rows "registry").map (withId id (registryAssigned name status j)))).Nodup := by
  have hids := keys_differ (registry_unique "id" (d := d) (by decide))
  have hnames := keys_differ (registry_unique "name" (d := d) (by decide))
  rw [keys, List.Nodup, List.pairwise_filterMap, List.pairwise_map]
  refine (hids.and hnames).imp_of_mem (fun {r s} hr hs hrs k hk l hl => ?_)
  obtain ⟨hid, hname⟩ := hrs
  rintro rfl
  by_cases hrid : r "id" = .int id
  · have hsid : s "id" ≠ .int id := fun hsid => hid (.int id) (keyOf_int.mpr hrid)
      (keyOf_int.mpr hsid)
    rw [withId_of_eq hrid] at hk
    rw [withId_of_ne hsid] at hl
    obtain rfl : Key.text name = k := Option.some.inj hk
    exact h ⟨r, hr, s, hs, hrid, hsid, keyOf_text.mp hl⟩
  · rw [withId_of_ne hrid] at hk
    by_cases hsid : s "id" = .int id
    · rw [withId_of_eq hsid] at hl
      obtain rfl : Key.text name = k := Option.some.inj hl
      exact h ⟨s, hs, r, hr, hsid, hrid, keyOf_text.mp hk⟩
    · rw [withId_of_ne hsid] at hl
      exact hname k hk hl

variable (id) in
lemma registry_consistent_iff (hlen : name.length ≤ 64)
    (hstatus : DecimalText.intMin ≤ status ∧ status ≤ DecimalText.intMax) :
    Consistent schema (updatedRows registryListing d id (registryAssigned name status j)) ↔
      ¬ Taken d id name := by
  constructor
  · rintro hc ⟨r, hr, s, hs, hrid, hsid, hsname⟩
    have hnodup := (hc RegistrySchema.registry (.head _)).unique "name" (by decide)
    have hmem : ∀ t ∈ d.rows "registry", withId id (registryAssigned name status j) t ∈
        updatedRows registryListing d id (registryAssigned name status j) "registry" := by
      intro t ht
      rw [updatedRows, show registryListing.own.name = "registry" from rfl, Function.update_self]
      exact List.mem_map_of_mem ht
    have heq := eq_of_key hnodup (hmem r hr) (hmem s hs) (k := .text name)
      (by rw [withId_of_eq hrid]; rfl) (by rw [withId_of_ne hsid, hsname, keyOf])
    rw [withId_of_eq hrid, withId_of_ne hsid] at heq
    exact hsid (by rw [← heq]; exact hrid)
  · intro htaken
    refine consistent_map d.consistent (fun t ht hn => ?_) (fun t ht ref href htable r hr => ?_)
    · obtain rfl : t = RegistrySchema.registry := RegistrySchema.table_unique ht (.head _) hn
      refine ⟨fun r hr => ?_, fun col hcol => ?_, fun ref href => absurd href List.not_mem_nil⟩
      · by_cases hid : r "id" = .int id
        · have hold : ∀ c ∈ RegistrySchema.registry.columns, c.admits (r c.name) = true :=
            fun c hc => column_admits d.consistent ht hc hr
          have hname : ColumnType.admits (.varchar 64) (.text name) = true := decide_eq_true hlen
          have hint : ColumnType.admits .int4 (.int status) = true := decide_eq_true hstatus
          simp only [RegistrySchema.registry, List.forall_mem_cons] at hold
          obtain ⟨hrid, hcreated, hupdated, _, huuid, _, _, _⟩ := hold
          rw [withId_of_eq hid]
          refine List.all_eq_true.mpr ?_
          simp only [RegistrySchema.registry, List.forall_mem_cons]
          exact ⟨hrid, hcreated, hupdated, hname, huuid, hint, rfl,
            fun c hc => absurd hc List.not_mem_nil⟩
        · rw [withId_of_ne hid]
          exact (d.consistent _ ht).admitted r hr
      · simp only [RegistrySchema.registry, List.mem_cons, List.not_mem_nil, or_false] at hcol
        rcases hcol with rfl | rfl | rfl
        · rw [keys_map (fun r _ => by rw [withId_column rfl])]
          exact registry_unique _ (by decide)
        · exact names_nodup htaken
        · rw [keys_map (fun r _ => by rw [withId_column rfl])]
          exact registry_unique _ (by decide)
    · rw [RegistrySchema.reference_key t ht ref href, withId_column rfl]

end

/-! The updated row. -/

section
variable {env : Env} {runtime : Runtime} {moment : Moment} {d d' : Database schema}

lemma framed_updated (l : Listing) {id : Int} {assigned : List (String × Value)}
    (h : d'.rows = updatedRows l d id assigned) : Framed l.own.name id d d' := by
  constructor
  · intro name hn
    rw [h, updatedRows, Function.update_of_ne hn]
  · rw [h, updatedRows, Function.update_self, List.forall₂_map_right_iff, List.forall₂_same]
    exact fun r _ hid => withId_of_ne hid

lemma updated_mem (l : Listing) {id : Int} {assigned : List (String × Value)} {r : Row}
    (hr : r ∈ d.rows l.own.name) (hid : r "id" = .int id) :
    setColumns assigned r ∈ updatedRows l d id assigned l.own.name := by
  rw [updatedRows, Function.update_self, ← withId_of_eq hid]
  exact List.mem_map_of_mem hr

/-- What the schema and the claimed use of the update promise. -/
structure RegistryAdmitted (runtime : Runtime) (d : Database schema) (m : RegistryDo) : Prop where
  quoteFree : QuoteFree m.name.toList
  dumpQuoteFree : QuoteFree (runtime.dump m.jsonData).toList
  status : DecimalText.intMin ≤ m.status ∧ m.status ≤ DecimalText.intMax
  row : ∃ r ∈ d.rows "registry", r "id" = .int m.id
  unused : ∀ r ∈ d.rows "registry", r "id" ≠ .int m.id → r "name" ≠ .text m.name

structure DeviceAdmitted (runtime : Runtime) (d : Database schema) (m : DeviceDo) : Prop where
  quoteFree : ∀ s ∈ [m.name, m.createdAt, m.uuid], QuoteFree s.toList
  dumpQuoteFree : QuoteFree (runtime.dump m.jsonData).toList
  status : DecimalText.intMin ≤ m.status ∧ m.status ≤ DecimalText.intMax
  row : ∃ r ∈ d.rows "device", r "id" = .int m.id
  unusedName : ∀ r ∈ d.rows "device", r "id" ≠ .int m.id → r "name" ≠ .text m.name
  unusedUuid : ∀ r ∈ d.rows "device", r "id" ≠ .int m.id → r "uuid" ≠ .text m.uuid

/-- The update finds the row by the id and so does the read. -/
lemma registry_found_iff {id : Int} {assigned : List (String × Value)}
    (hid : assigned.lookup "id" = none) (hd' : d'.rows = updatedRows registryListing d id assigned)
    {r : Row} (hr : r ∈ d.rows "registry") (hrid : r "id" = .int id) (o : RegistryDo) :
    RegistryRepository.repository.findById (textConnection env runtime moment) (fun _ => d') id =
      .ok (some o) ↔ RegistryShows env runtime o (setColumns assigned r) := by
  have hmem : setColumns assigned r ∈ d'.rows "registry" := by
    rw [hd']
    exact updated_mem registryListing hr hrid
  have hrange : DecimalText.intMin ≤ id ∧ id ≤ DecimalText.intMax := by
    obtain ⟨n, hn, hrange⟩ := (registry_fields d.consistent hr).id
    obtain rfl := SqlConditions.Value.int.inj (hrid.symm.trans hn)
    exact hrange
  have hlooks : Looks env RegistrySchema.registry d' (Filter.create.add "id" .opEq (.integral id))
      "id" (.int id) := looks_number FilterConditions.idColumn rfl rfl hrange
  have hkey : keyOf (setColumns assigned r "id") = some (.int id) := by
    rw [setColumns, hid, Option.getD_none, hrid, keyOf]
  refine (registry_findOne hlooks (.head _) hmem hkey (some o)).trans ?_
  simp

theorem registry_read_back_iff {m : RegistryDo} (h : RegistryAdmitted runtime d m) :
    ReadBack RegistryRepository.repository registryOwn (textConnection env runtime moment) d
      "registry" m.id m ↔
      m.name.length ≤ 64 ∧ NulFree m.name ∧ Stored env runtime m.jsonData := by
  have hupdate := fun d' => registry_update_iff env moment (d := d) d'
    h.quoteFree h.dumpQuoteFree h.status
  obtain ⟨r, hr, hrid⟩ := h.row
  constructor
  · rintro ⟨d', o, hup, _, hfind, hname, _, hjson⟩
    obtain ⟨hnul, name, j, hfit, hj, hc, rfl⟩ := (hupdate d').mp hup
    have hshows := (registry_found_iff rfl rfl hr hrid o).mp hfind
    obtain ⟨_, ht, hle, _⟩ := fitVarchar_text hfit
    obtain rfl := SqlConditions.Value.text.inj ht
    have hsame : name = m.name := (SqlConditions.Value.text.inj hshows.name).trans hname
    obtain ⟨k, hk, hparse⟩ := hshows.jsonData
    obtain rfl : j = k := SqlConditions.Value.json.inj hk
    exact ⟨hsame ▸ hle, hnul, j, hj, hjson ▸ hparse⟩
  · rintro ⟨hlen, hnul, j, hj, hparse⟩
    have htaken : ¬ Taken d m.id m.name :=
      fun ⟨_, _, s, hs, _, hsid, hsname⟩ => h.unused s hs hsid hsname
    have hc := (registry_consistent_iff m.id (j := j) hlen h.status).mpr htaken
    obtain ⟨_, ⟨created, hcreated⟩, _, ⟨uuid, huuid⟩, _, _⟩ := registry_fields d.consistent hr
    let o : RegistryDo := ⟨m.id, created, m.name, uuid, m.status, m.jsonData⟩
    have hshows : RegistryShows env runtime o
        (setColumns (registryAssigned m.name m.status j) r) :=
      ⟨hrid, hcreated, rfl, huuid, rfl, j, rfl, hparse⟩
    exact ⟨⟨_, _, hc⟩, o,
      (hupdate _).mpr ⟨hnul, m.name, j, if_pos hlen, hj, hc, rfl⟩, framed_updated registryListing rfl,
      (registry_found_iff rfl rfl hr hrid o).mpr hshows, rfl, rfl, rfl⟩

theorem device_update_fails (m : DeviceDo) :
    DeviceRepository.update (textConnection env runtime moment) d m ≠ (.ok (), d') :=
  fun h => update_one_fails (DeviceRepository.updateModel runtime m) (congrArg Prod.fst h)

end

/-- Which updates can be read back. -/
theorem update_read_back_iff (env : Env) (runtime : Runtime) (moment : Moment)
    (d : Database schema) :
    (∀ m : RegistryDo, RegistryAdmitted runtime d m →
      (ReadBack RegistryRepository.repository registryOwn (textConnection env runtime moment) d
        "registry" m.id m ↔
        m.name.length ≤ 64 ∧ NulFree m.name ∧ Stored env runtime m.jsonData)) ∧
    ∀ m : DeviceDo, DeviceAdmitted runtime d m →
      ¬ ReadBack DeviceRepository.repository deviceOwn (textConnection env runtime moment) d
        "device" m.id m :=
  ⟨fun _ h => registry_read_back_iff h, fun m _ ⟨_, _, h, _⟩ => device_update_fails m h⟩

/-! On the shipped rows. -/

/-- The first shipped registry under a new name. -/
def renamed : RegistryDo := ⟨1, "", "home", "", 1, RegistrySchema.online⟩

/-- The first shipped device with nothing but its status changed. -/
def disabled : DeviceDo :=
  ⟨1, 2, RegistrySchema.setup.now, "", "rpi-robot", "e114cd7c-c0c4-11ed-afa1-0242ac120002", 1,
    RegistrySchema.online, []⟩

lemma disabled_admitted : DeviceAdmitted shippedRuntime RegistrySchema.shipped disabled :=
  ⟨by decide, by decide, by decide, by decide, by decide, by decide⟩

theorem update_read_back_shipped :
    ReadBack RegistryRepository.repository registryOwn
      (textConnection RegistrySchema.shippedEnv shippedRuntime RegistrySchema.setup)
      RegistrySchema.shipped "registry" 1 renamed ∧
    ¬ ReadBack DeviceRepository.repository deviceOwn
      (textConnection RegistrySchema.shippedEnv shippedRuntime RegistrySchema.setup)
      RegistrySchema.shipped "device" 1 disabled := by
  obtain ⟨hregistry, hdevice⟩ := update_read_back_iff RegistrySchema.shippedEnv shippedRuntime
    RegistrySchema.setup RegistrySchema.shipped
  refine ⟨(hregistry renamed ⟨by decide, by decide, by decide, by decide, by decide⟩).mpr
    ⟨by decide, by decide, RegistrySchema.online, rfl, rfl⟩, hdevice disabled disabled_admitted⟩

/-- An update of a device that changes only its status throws. -/
theorem device_update_throws :
    DeviceAdmitted shippedRuntime RegistrySchema.shipped disabled ∧
    ¬ ReadBack DeviceRepository.repository deviceOwn
      (textConnection RegistrySchema.shippedEnv shippedRuntime RegistrySchema.setup)
      RegistrySchema.shipped "device" 1 disabled :=
  ⟨disabled_admitted, fun ⟨_, _, h, _⟩ => device_update_fails disabled h⟩

end UpdateReadBack
