import RpiRobot.ConfigurationAttachment

/-!
# The states behind a page

`DeviceRepository::findAll` reads in no transaction: other clients may commit between its
statements, and each statement sees the database of its own moment. What the page shows of
which moment is fixed, but no single moment need show all of it.
-/

namespace PageStates

open SqlConditions (Expr Row)
open SqlTables SqlServers DomainObjects RequestParams Repositories RepositoryStatements
open FieldQueries RowDecoding PageResults ConfigurationAttachment PlainFilters
open RegistrySchema (schema)

-- Without this the unifier tries to parse the text of a statement.
attribute [local irreducible] textServer condServer

section
variable {env : Env} {int4In : String → Bool} {runtime : Runtime} {moment : Moment}
  {filter : Filter} {page : PageRequest}

/-- The tables of the state that the statements read are those that they see. -/
structure Sees (d : Nat → Database schema) (s : Database schema) : Prop where
  devices : (d 0).rows "device" = s.rows "device"
  configurations : (d 1).rows "device_configuration" = s.rows "device_configuration"
  counted : (d 2).rows "device" = s.rows "device"

lemma select_congr {κ : Type} (conds : Conds κ) {d s : Database schema}
    {statement : SqlStatements.Select κ} (h : d.rows statement.table = s.rows statement.table) :
    select conds d statement = select conds s statement := by
  simp only [select, h]

lemma query_congr {sat : Reading} {m : SqlBuilder.SelectModel}
    {statement : SqlStatements.Select (List String)}
    (hm : BuilderStatements.RendersSelect m statement) {d s : Database schema}
    (h : d.rows statement.table = s.rows statement.table) :
    (fieldConnection env runtime moment sat).query d (.select m)
      = (fieldConnection env runtime moment sat).query s (.select m) := by
  rw [field_query hm, field_query hm, select_congr _ h]

/-- A call whose statements see the tables of one state is a call on that state. -/
lemma findAll_congr {sat : Reading} {d : Nat → Database schema} {s : Database schema}
    (h : Sees d s) :
    DeviceRepository.findAll (fieldConnection env runtime moment sat) d filter page
      = DeviceRepository.findAll (fieldConnection env runtime moment sat) (fun _ => s) filter
          page :=
  device_findAll_congr rfl (query_congr (renders_device_page filter page) h.devices)
    (fun ids _ => query_congr (renders_configuration ids) h.configurations)
    (query_congr (renders_device_count filter) h.counted)

variable {sat : Expr → Row → Bool} {d : Nat → Database schema} {result : Page DeviceDo}

/-- What the page shows: the devices of the page that the first statement sees, each with the
configurations that the second sees, and the number of devices that the third sees. -/
structure Composed (env : Env) (runtime : Runtime) (sat : Expr → Row → Bool)
    (d : Nat → Database schema) (filter : Filter) (page : PageRequest) (result : Page DeviceDo) :
    Prop where
  devices : List.Forall₂ (fun r o => DeviceShows env runtime o r)
    (pageRows (reading "device" sat) "device" filter false page ((d 0).rows "device")) result.data
  configurations : ∃ configurations,
    List.Forall₂ (fun r cfg => ConfigurationShows env runtime cfg r)
      (configurationRows (d 1) (result.data.map DeviceDo.id)) configurations ∧
    Attached configurations result.data
  total : result.total = totalOf page
    (((d 2).rows "device").filter (Matches (reading "device" sat) "device" filter)).length

/-- A page is given only for a filter whose types fit. -/
lemma accepted_of_page (hplain : Plain filter)
    (h : DeviceRepository.findAll (typedConnection env int4In runtime moment "device" sat) d filter
      page = .ok result) : Accepted env int4In RegistrySchema.device filter := by
  have hpage : DeviceRepository.repository.findAll
      (typedConnection env int4In runtime moment "device" sat) d filter page = .ok result := h
  exact hplain.accepted DeleteAgreement.lists_device hpage

lemma composed (hplain : Plain filter)
    (h : DeviceRepository.findAll (typedConnection env int4In runtime moment "device" sat) d filter
      page = .ok result) : Composed env runtime sat d filter page result := by
  have hfield : DeviceRepository.findAll (fieldConnection env runtime moment (reading "device" sat))
      d filter page = .ok result :=
    (device_accepted d hplain (accepted_of_page hplain h)).symm.trans h
  obtain ⟨found, configurations, hfound, hshows, hdata, -⟩ :=
    findAll_parts (answersMembers_typed env int4In runtime moment sat (d 1)) h
  obtain ⟨-, -, -, -, -, htotal⟩ := device_findAll_iff.mp hfield
  have hids : result.data.map DeviceDo.id = found.map DeviceDo.id := by
    rw [hdata, configuredFrom_ids]
  constructor
  · have hsame : ∀ items : List DeviceDo, List.Forall₂ (fun r o => DeviceShows env runtime o r)
        (pageRows (reading "device" sat) "device" filter false page ((d 0).rows "device")) items ↔
        List.Forall₂ (fun r o => DeviceShows env runtime o r)
          (pageRows (reading "device" sat) "device" filter false page ((d 0).rows "device"))
          (items.map SecondSelects.bare) := by
      intro items
      rw [List.forall₂_map_right_iff]
      exact ListResults.forall₂_congr_mem fun _ _ _ => SecondSelects.shows_bare.symm
    rw [hsame, hdata, configuredFrom_bare, ← hsame]
    exact plain_found hplain hfound
  · refine ⟨configurations, hids ▸ hshows, ?_⟩
    rw [hdata]
    refine (attached_iff (found_bare hfound) (configuration_id hshows)).mpr fun cfg hcfg => ?_
    exact List.count_eq_one_of_mem (plain_once hplain hfound) (configuration_id hshows cfg hcfg)
  · have hcount := total_eq env runtime moment (reading "device" sat) (d := d 2) filter page
      deviceListing
    exact (Except.ok.inj (hcount.symm.trans htotal)).symm

end

/-- Each statement of a call with a plain filter contributes what it sees, and a call whose
statements see the tables of one state gives the page of that state. -/
theorem page_of_states (env : Env) (int4In : String → Bool) (runtime : Runtime) (moment : Moment)
    (sat : Expr → Row → Bool) (d : Nat → Database schema) (filter : Filter)
    (hplain : Plain filter) (page : PageRequest) (result : Page DeviceDo)
    (h : DeviceRepository.findAll (typedConnection env int4In runtime moment "device" sat) d filter
      page = .ok result) :
    Composed env runtime sat d filter page result ∧
      ∀ s, Sees d s → DeviceRepository.findAll
        (typedConnection env int4In runtime moment "device" sat) (fun _ => s) filter page
          = .ok result := by
  refine ⟨composed hplain h, fun s hs => ?_⟩
  have haccepted := accepted_of_page hplain h
  calc DeviceRepository.findAll (typedConnection env int4In runtime moment "device" sat)
        (fun _ => s) filter page
    _ = DeviceRepository.findAll (fieldConnection env runtime moment (reading "device" sat))
          (fun _ => s) filter page := device_accepted (fun _ => s) hplain haccepted
    _ = DeviceRepository.findAll (fieldConnection env runtime moment (reading "device" sat)) d
          filter page := (findAll_congr hs).symm
    _ = DeviceRepository.findAll (typedConnection env int4In runtime moment "device" sat) d filter
          page := (device_accepted d hplain haccepted).symm
    _ = .ok result := h

/-- After the configurations of the second device, the device itself has been deleted. -/
def withoutMonitor : Database schema where
  rows name :=
    if name = "device" then (RegistrySchema.shippedRows name).take 1
    else if name = "device_configuration" then (reconfigured.rows name).drop 1
    else RegistrySchema.shippedRows name
  serial _ := 4
  consistent := by decide

/-- Another client adds configurations before the second statement, and deletes a device before
the third. -/
def interleaved : Nat → Database schema
  | 0 => RegistrySchema.shipped
  | 1 => reconfigured
  | _ => withoutMonitor

lemma plain_inRegistry : Plain inRegistry := plain_integral (by decide) (by decide) .opEq 2

lemma interleaved_listed : ∃ result,
    DeviceRepository.findAll (typedClient "device") interleaved inRegistry ⟨0, 10, true⟩
      = .ok result ∧
    (configurationIds result.data, result.total) = ([(1, [1, 3]), (2, [2])], 1) :=
  exists_ok _ (fun result : Page DeviceDo => (configurationIds result.data, result.total))
    (by decide +kernel)

theorem page_of_states_interleaved :
    ∃ result,
      DeviceRepository.findAll (typedClient "device") interleaved inRegistry ⟨0, 10, true⟩
        = .ok result ∧
      (configurationIds result.data, result.total) = ([(1, [1, 3]), (2, [2])], 1) ∧
      Composed RegistrySchema.shippedEnv shippedRuntime (fun e r => e.sat r) interleaved inRegistry
        ⟨0, 10, true⟩ result := by
  obtain ⟨result, h, hshown⟩ := interleaved_listed
  exact ⟨result, h, hshown, (page_of_states RegistrySchema.shippedEnv int4Text shippedRuntime
    RegistrySchema.setup (fun e r => e.sat r) interleaved inRegistry plain_inRegistry ⟨0, 10, true⟩
    result h).1⟩

/-- The page shows two devices and counts one, as no committed state does. -/
theorem page_mixes_states :
    ∃ result,
      DeviceRepository.findAll (typedClient "device") interleaved inRegistry ⟨0, 10, true⟩
        = .ok result ∧
      ∀ s ∈ [RegistrySchema.shipped, reconfigured, withoutMonitor],
        DeviceRepository.findAll (typedClient "device") (fun _ => s) inRegistry ⟨0, 10, true⟩
          ≠ .ok result := by
  obtain ⟨result, h, hshown⟩ := interleaved_listed
  obtain ⟨hids, htotal⟩ := Prod.mk.inj hshown
  refine ⟨result, h, fun s hs hsame => ?_⟩
  have hcomposed := composed plain_inRegistry hsame
  have htwo : result.data.length = 2 := by
    rw [← List.length_map DeviceDo.id, ← configurationIds_ids, hids]
    rfl
  have hlength := hcomposed.devices.length_eq.trans htwo
  have hcount := htotal.symm.trans hcomposed.total
  have hstates : ∀ s ∈ [RegistrySchema.shipped, reconfigured, withoutMonitor],
      ¬((pageRows (reading "device" fun e r => e.sat r) "device" inRegistry false ⟨0, 10, true⟩
          (s.rows "device")).length = 2 ∧
        1 = totalOf ⟨0, 10, true⟩ ((s.rows "device").filter
          (Matches (reading "device" fun e r => e.sat r) "device" inRegistry)).length) := by
    decide +kernel
  exact hstates s hs ⟨hlength, hcount⟩

end PageStates
