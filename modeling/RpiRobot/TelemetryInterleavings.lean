import RpiRobot.ServiceRuns

/-!
# Telemetry between requests

The subscriber looks a device up with one statement and records its event with another. Requests
and other calls of it may come in between. No event is recorded twice, whatever comes in
between; and if nothing deletes telemetry, every event that can be recorded is recorded.
-/

namespace TelemetryInterleavings

open SqlConditions (Row Value)
open SqlTables
open StringLiterals (QuoteFree)
open DomainObjects Repositories RepositoryStatements StatementTemplates
open FieldQueries RowDecoding SecondSelects TextQueries InsertReadBack
open RestProtocol TelemetryIngest TableHistories ServiceRuns
open RegistrySchema (schema)

-- Without this the unifier tries to parse the text of a statement.
attribute [local irreducible] SqlServers.textServer

/-- The events that the subscriber has been called with. -/
def lookups : List Event → List IotTelemetry := List.filterMap fun
  | .lookup _ event => some event
  | _ => none

/-- The row is of the device that the event names, with the message of the event. -/
def RecordOf (service : Service) (d : Database schema) (event : IotTelemetry) (row : Row) : Prop :=
  (∃ s ∈ d.rows "device", s "name" = .text event.deviceId ∧ row "device_id" = s "id") ∧
    ∃ j, service.env.jsonbIn (service.runtime.dump event.message) = some j ∧
      row "json_data" = .json j

/-- The call has found the device that its event names. -/
def Found (d : Database schema) (call : DeviceDo × IotTelemetry) : Prop :=
  ∃ s ∈ d.rows "device", s "name" = .text call.2.deviceId ∧ s "id" = .int call.1.id

/-! ## One lookup and one insert -/

section
variable {env : Env} {runtime : Runtime} {moment : Moment} {d : Database schema}
  {event : IotTelemetry} {dev : DeviceDo}

/-- Only a device of that name is found. -/
lemma found_device (hq : QuoteFree event.deviceId.toList)
    (h : DeviceRepository.repository.findOne (textConnection env runtime moment) (fun _ => d)
      (byName event) = .ok (some dev)) : Found d (dev, event) := by
  have hnul : SqlServers.NulFree event.deviceId := by_contra fun hnul => findOne_cut hq hnul h
  have hlooks : Looks env RegistrySchema.device d (byName event) "name" (.text event.deviceId) :=
    looks_byName hq hnul
  have hknown : ∃ s ∈ d.rows "device", keyOf (s "name") = some (.text event.deviceId) := by
    by_contra hnone
    have hmissing := device_findOne_missing env runtime moment hlooks
      fun s hs hk => hnone ⟨s, hs, hk⟩
    exact absurd (hmissing.symm.trans h) (by simp)
  obtain ⟨s, hs, hkey⟩ := hknown
  have hquery : (textConnection env runtime moment).query d (.select
      (DeviceRepository.selectData (byName event) (RequestParams.PageRequest.of 0 1 false))) =
      .ok [receivedRow env deviceColumns s] := lookup_found deviceListing hlooks (by decide) hs hkey
  obtain ⟨rows, hrows, found, hfound, data, hdata, hhead⟩ := device_findOne_iff.mp h
  obtain rfl := Except.ok.inj (hquery.symm.trans hrows)
  obtain ⟨o, ho, rfl⟩ := mapM_single.mp hfound
  have hshows := ((device_decode d.consistent hs o).mp ho).1
  have hbare := (configured_spec (c := textConnection env runtime moment) (d := d) [o]
    (fun _ => answers_configuration o.id)).2 data hdata
  obtain ⟨o', rfl, hsame⟩ := List.map_eq_singleton_iff.mp hbare
  obtain rfl := Option.some.inj hhead
  have hid : (bare o').id = (bare o).id := congrArg DeviceDo.id hsame
  exact ⟨s, hs, keyOf_text.mp hkey, hshows.id.trans (congrArg Value.int hid.symm)⟩

/-- What an insert of telemetry may have added. -/
structure Added (env : Env) (runtime : Runtime) (m : DeviceTelemetryDo) (d d' : Database schema)
    (row : Row) : Prop where
  rows : d'.rows = Function.update d.rows "device_telemetry" (d.rows "device_telemetry" ++ [row])
  serial : d'.serial = (d.advance "device_telemetry").serial
  deviceId : row "device_id" = .int m.deviceId
  jsonData : ∃ j, env.jsonbIn (runtime.dump m.jsonData) = some j ∧ row "json_data" = .json j

lemma telemetry_assignments {m : DeviceTelemetryDo} {assigned : List (String × Value)}
    (h : assignments env moment RegistrySchema.deviceTelemetry
      (["device_id", "json_data"].zip [.num (toString m.deviceId),
        .str (runtime.dump m.jsonData)]) = .ok assigned) :
    ∃ j, env.jsonbIn (runtime.dump m.jsonData) = some j ∧
      assigned = telemetryAssigned m.deviceId j := by
  have hdevice : column RegistrySchema.deviceTelemetry "device_id" =
      .ok ⟨"device_id", .int4, true, .null⟩ := rfl
  have hjson : column RegistrySchema.deviceTelemetry "json_data" = .ok RegistrySchema.jsonData :=
    rfl
  obtain ⟨⟨_, v⟩, _, hv, hrest, rfl⟩ := List.forall₂_cons_left_iff.mp (assignments_iff.mp h)
  obtain ⟨⟨_, w⟩, _, hw, hnil, rfl⟩ := List.forall₂_cons_left_iff.mp hrest
  obtain rfl := List.forall₂_nil_left_iff.mp hnil
  obtain ⟨rfl, hv⟩ := (assigned_iff hdevice).mp hv
  obtain ⟨rfl, hw⟩ := (assigned_iff hjson).mp hw
  obtain ⟨j, hj, rfl⟩ := cast_json_iff.mp hw
  have hfits : fitInt m.deviceId = .ok v := by
    have hnum := DecimalText.intValue_toString m.deviceId
    simpa only [SqlTables.cast, hnum, orError, bind, Except.bind] using hv
  rw [fitInt] at hfits
  split_ifs at hfits
  obtain rfl := Except.ok.inj hfits
  exact ⟨j, hj, rfl⟩

variable (env moment d) in
/-- An insert of telemetry adds a record of its own data or none. -/
lemma insert_added {m : DeviceTelemetryDo} (h : Literal (telemetryStrings runtime m)) :
    Idle "device_telemetry" d
        (DeviceTelemetryRepository.insert (textConnection env runtime moment) d m).2 ∨
      ∃ row, Added env runtime m d
        (DeviceTelemetryRepository.insert (textConnection env runtime moment) d m).2 row := by
  refine insert_meant env moment d (s := .telemetryInsert m)
    (p := fun after => Idle "device_telemetry" d after ∨ ∃ row, Added env runtime m d after row)
    rfl h rfl (renders_telemetry_insert runtime (h _ List.mem_cons_self)) (.inl (.refl _ d))
    (fun after hafter => ?_) ?_
  · rcases hafter with hidle | ⟨row, hadded⟩
    · exact .inl ⟨rfl, hidle.serial⟩
    · exact .inl ⟨rfl, .inr hadded.serial⟩
  · refine (insert_cases d env moment (t := RegistrySchema.deviceTelemetry) rfl _ _ _).imp_right ?_
    rintro ⟨assigned, hassigned, hrows, hserial⟩
    obtain ⟨j, hj, rfl⟩ := telemetry_assignments hassigned
    exact ⟨_, hrows, hserial, rfl, j, hj, rfl⟩

end

/-! ## No event twice -/

section
variable {service : Service} {d : Database schema}

/-- Each record and each open call is of another one of the events. -/
structure AtMostOnce (service : Service) (d : Database schema) (seen : List IotTelemetry)
    (s : State) : Prop where
  devices : s.database.rows "device" = d.rows "device"
  found : ∀ call ∈ s.found, Found d call
  literal : FoundLiteral service s
  account : ∃ recorded rows, (recorded ++ s.found.map Prod.snd).Subperm seen ∧
    List.Forall₂ (RecordOf service d) recorded rows ∧
    (s.database.rows "device_telemetry").Sublist (d.rows "device_telemetry" ++ rows)

lemma atMostOnce_start : AtMostOnce service d [] (start d) where
  devices := rfl
  found _ h := absurd h List.not_mem_nil
  literal _ h := absurd h List.not_mem_nil
  account := ⟨[], [], .refl _, .nil, by rw [List.append_nil]; exact List.Sublist.refl _⟩

/-- The next event, if it names a device. -/
lemma knownEvents_singleton (event : IotTelemetry) :
    knownEvents d [event] = if Known d event then [event] else [] := by
  by_cases h : Known d event <;> simp [knownEvents, h]

lemma knownEvents_lookup (moment : Moment) (event : IotTelemetry) (events : List Event) :
    knownEvents d (lookups (.lookup moment event :: events)) =
      knownEvents d [event] ++ knownEvents d (lookups events) := by
  rw [knownEvents, knownEvents, knownEvents, ← List.filter_append]
  rfl

lemma Found.known {call : DeviceDo × IotTelemetry} (h : Found d call) : Known d call.2 := by
  obtain ⟨s, hs, hname, -⟩ := h
  exact ⟨s, hs, hname⟩

lemma AtMostOnce.lookup {seen : List IotTelemetry} {s : State} (h : AtMostOnce service d seen s)
    {moment : Moment} {event : IotTelemetry} (hc : service.Contains (.lookup moment event)) :
    AtMostOnce service d (seen ++ knownEvents d [event])
      (service.step s (.lookup moment event)) := by
  obtain ⟨recorded, rows, hsub, hrecords, hrows⟩ := h.account
  rw [Service.step]
  split
  · rename_i dev hfind
    have hfound : Found d (dev, event) := by
      have hnow := found_device hc.1 hfind
      rw [Found, h.devices] at hnow
      exact hnow
    refine ⟨h.devices, List.forall_mem_append.mpr ⟨h.found, List.forall_mem_singleton.mpr hfound⟩,
      List.forall_mem_append.mpr ⟨h.literal, List.forall_mem_singleton.mpr hc.2⟩,
      recorded, rows, ?_, hrecords, hrows⟩
    rw [knownEvents_singleton, if_pos hfound.known, List.map_append, ← List.append_assoc]
    exact (List.subperm_append_right _).mpr hsub
  · exact ⟨h.devices, h.found, h.literal, recorded, rows,
      hsub.trans (List.sublist_append_left _ _).subperm, hrecords, hrows⟩

/-- The calls and one of them taken out. -/
lemma calls_perm {found : List (DeviceDo × IotTelemetry)} {i : Nat} {call : DeviceDo × IotTelemetry}
    (h : found[i]? = some call) :
    (call.2 :: (found.eraseIdx i).map Prod.snd).Perm (found.map Prod.snd) := by
  obtain ⟨hi, rfl⟩ := List.getElem?_eq_some_iff.mp h
  exact (List.getElem_cons_eraseIdx_perm hi).map Prod.snd

lemma AtMostOnce.record {seen : List IotTelemetry} {s : State} (h : AtMostOnce service d seen s)
    (moment : Moment) (i : Nat) :
    AtMostOnce service d seen (service.step s (.record moment i)) := by
  obtain ⟨recorded, rows, hsub, hrecords, hrows⟩ := h.account
  cases hget : s.found[i]? with
  | none => simpa only [Service.step, hget] using h
  | some call =>
    obtain ⟨dev, event⟩ := call
    have hmem : (dev, event) ∈ s.found := List.mem_of_getElem? hget
    have hperm := calls_perm hget
    have hfound : ∀ call ∈ s.found.eraseIdx i, Found d call :=
      fun call hcall => h.found call (List.mem_of_mem_eraseIdx hcall)
    have hliteral : ∀ call ∈ s.found.eraseIdx i,
        QuoteFree (service.runtime.dump call.2.message).toList :=
      fun call hcall => h.literal call (List.mem_of_mem_eraseIdx hcall)
    rw [step_record service hget]
    rcases insert_added service.env moment s.database (m := telemetryOf dev event)
      (List.forall_mem_singleton.mpr (h.literal _ hmem)) with hidle | ⟨row, hadded⟩
    · -- the insert fails, and the event is lost
      refine ⟨(congrFun hidle.rows _).trans h.devices, hfound, hliteral, recorded, rows, ?_,
        hrecords, (congrFun hidle.rows _).symm ▸ hrows⟩
      have hfewer := (List.sublist_cons_self _ _).subperm.trans hperm.subperm
      exact ((List.subperm_append_left recorded).mpr hfewer).trans hsub
    · obtain ⟨t, ht, hname, hid⟩ := h.found _ hmem
      have hrecord : RecordOf service d event row :=
        ⟨⟨t, ht, hname, hadded.deviceId.trans hid.symm⟩, hadded.jsonData⟩
      refine ⟨?_, hfound, hliteral, recorded ++ [event], rows ++ [row], ?_,
        List.rel_append hrecords (.cons hrecord .nil), ?_⟩
      · rw [hadded.rows, Function.update_of_ne (by decide), h.devices]
      · rw [List.append_assoc]
        exact (hperm.append_left recorded).subperm.trans hsub
      · rw [hadded.rows, Function.update_self, ← List.append_assoc]
        exact hrows.append_right [row]

lemma AtMostOnce.request {seen : List IotTelemetry} {s : State} (h : AtMostOnce service d seen s)
    {moment : Moment} {request : WireRequest} (hc : service.Contains (.request moment request)) :
    AtMostOnce service d seen (service.step s (.request moment request)) := by
  obtain ⟨recorded, rows, hsub, hrecords, hrows⟩ := h.account
  rw [Service.step]
  rcases requested_cases (d := s.database) hc with hstep | ⟨-, hremoves⟩
  · exact ⟨(hstep.frame (by decide)).trans h.devices, h.found, h.literal, recorded, rows, hsub,
      hrecords, by rw [hstep.frame (by decide)]; exact hrows⟩
  · obtain ⟨p, hp⟩ := hremoves.rows
    refine ⟨?_, h.found, h.literal, recorded, rows, hsub, hrecords, ?_⟩
    · rw [hp, Function.update_of_ne (by decide)]
      exact h.devices
    · rw [hp, Function.update_self]
      exact List.filter_sublist.trans hrows

lemma AtMostOnce.run {seen : List IotTelemetry} {s : State} (h : AtMostOnce service d seen s)
    {events : List Event} (hc : ∀ event ∈ events, service.Contains event) :
    AtMostOnce service d (seen ++ knownEvents d (lookups events)) (service.run s events) := by
  induction events generalizing seen s with
  | nil => exact (List.append_nil seen).symm ▸ h
  | cons event events ih =>
    rw [List.forall_mem_cons] at hc
    cases event with
    | request moment request => exact ih (h.request hc.1) hc.2
    | record moment i => exact ih (h.record moment i) hc.2
    | lookup moment event =>
      have hrest := ih (h.lookup hc.1) hc.2
      rwa [knownEvents_lookup, ← List.append_assoc]

end

/-- However the statements of requests and events are interleaved, what telemetry there is is
old or the record of an event, each event with one record at most. -/
theorem recorded_at_most_once (service : Service) (d : Database schema) {events : List Event}
    (h : ∀ event ∈ events, service.Contains event) :
    ∃ recorded rows, recorded.Subperm (knownEvents d (lookups events)) ∧
      List.Forall₂ (RecordOf service d) recorded rows ∧
      ((service.run (start d) events).database.rows "device_telemetry").Sublist
        (d.rows "device_telemetry" ++ rows) := by
  obtain ⟨recorded, rows, hsub, hrecords, hrows⟩ := (atMostOnce_start.run h).account
  exact ⟨recorded, rows, (List.sublist_append_left _ _).subperm.trans hsub, hrecords, hrows⟩

theorem recorded_at_most_once_shipped :
    ∃ recorded rows,
      recorded.Subperm (knownEvents RegistrySchema.shipped (lookups shippedEvents)) ∧
      List.Forall₂ (RecordOf shippedService RegistrySchema.shipped) recorded rows ∧
      ((shippedService.run (start RegistrySchema.shipped) shippedEvents).database.rows
        "device_telemetry").Sublist (RegistrySchema.shipped.rows "device_telemetry" ++ rows) :=
  recorded_at_most_once shippedService RegistrySchema.shipped shipped_contained

/-! ## Each event once -/

section
variable {service : Service} {d d' : Database schema}

lemma room_congr {n : Nat} (h : Room d n)
    (hrows : d'.rows "device_telemetry" = d.rows "device_telemetry")
    (hserial : d'.serial "device_telemetry" = d.serial "device_telemetry") : Room d' n := by
  rwa [Room, hrows, hserial]

/-- A record takes the next number and leaves room for the others. -/
lemma room_next {n : Nat} (h : Room d (n + 1)) {row : Row}
    (hrows : d'.rows "device_telemetry" = d.rows "device_telemetry" ++ [row])
    (hserial : d'.serial "device_telemetry" = d.serial "device_telemetry" + 1)
    (hid : row "id" = .int (d.serial "device_telemetry")) : Room d' n := by
  intro k hk
  obtain ⟨low, high, unused⟩ := h (k + 1) (by omega)
  have hnext : d.serial "device_telemetry" + 1 + (k : Int) =
      d.serial "device_telemetry" + (k + 1 : Nat) := by omega
  rw [hserial, hnext, hrows]
  refine ⟨low, high, fun r hr => ?_⟩
  rcases List.mem_append.mp hr with hr | hr
  · exact unused r hr
  · rw [List.mem_singleton.mp hr, hid, ne_eq, Value.int.injEq]
    omega

variable (d) in
/-- An insert of telemetry that the schema admits. -/
lemma insert_recorded {env : Env} {runtime : Runtime} (moment : Moment) {m : DeviceTelemetryDo}
    (h : TelemetryAdmitted env runtime d m) (hfresh : Fresh d "device_telemetry") :
    ∃ row, (DeviceTelemetryRepository.insert (textConnection env runtime moment) d m).2.rows =
        Function.update d.rows "device_telemetry" (d.rows "device_telemetry" ++ [row]) ∧
      (DeviceTelemetryRepository.insert (textConnection env runtime moment) d m).2.serial
        "device_telemetry" = d.serial "device_telemetry" + 1 ∧
      row "id" = .int (d.serial "device_telemetry") ∧ row "device_id" = .int m.deviceId ∧
      ReadsAs env runtime (row "json_data") m.jsonData := by
  obtain ⟨j, hj, hparse⟩ := h.stored
  have hc := (telemetry_consistent_iff moment (j := j) h.device).mpr hfresh
  have hinsert : DeviceTelemetryRepository.insert (textConnection env runtime moment) d m = _ :=
    (TextWrites.inserted_iff env runtime moment _ telemetryListing (telemetry_assigns h hj) _).mpr
      ⟨rfl, hfresh.high, hc, rfl⟩
  have hserial : (d.advance "device_telemetry").serial "device_telemetry" =
      d.serial "device_telemetry" + 1 := d.advance_serial _
  rw [hinsert]
  exact ⟨telemetryRow moment d m.deviceId j, rfl, hserial, rfl, rfl, j, rfl, hparse⟩

/-- Each event that names a device is recorded or has its call open, and `n` more can come. -/
structure EachOnce (service : Service) (d : Database schema) (seen : List IotTelemetry) (n : Nat)
    (s : State) : Prop where
  devices : s.database.rows "device" = d.rows "device"
  configurations : s.database.rows "device_configuration" = d.rows "device_configuration"
  found : ∀ call ∈ s.found, Found d call
  stored : ∀ call ∈ s.found, QuoteFree (service.runtime.dump call.2.message).toList ∧
    TextWrites.Stored service.env service.runtime call.2.message
  account : ∃ recorded rows, (recorded ++ s.found.map Prod.snd).Perm seen ∧
    List.Forall₂ (Records service.env service.runtime d) recorded rows ∧
    s.database.rows "device_telemetry" = d.rows "device_telemetry" ++ rows
  room : Room s.database (s.found.length + n)

variable {seen : List IotTelemetry} {n : Nat} {s : State}

lemma EachOnce.lookup (moment : Moment) {event : IotTelemetry}
    (h : EachOnce service d seen ((knownEvents d [event]).length + n) s)
    (hdelivers : Delivers service.env service.runtime d event) :
    EachOnce service d (seen ++ knownEvents d [event]) n
      (service.step s (.lookup moment event)) := by
  obtain ⟨recorded, rows, hperm, hrecords, hrows⟩ := h.account
  have hnow := hdelivers.congr h.devices h.configurations
  by_cases hknown : Known d event
  · have hone : knownEvents d [event] = [event] := by rw [knownEvents_singleton, if_pos hknown]
    have hrecordable := hdelivers.recordable hknown
    obtain ⟨t, ht, hname⟩ := hknown
    have hrecordableNow := hnow.recordable ⟨t, h.devices ▸ ht, hname⟩
    obtain ⟨dev, hfind, hshows⟩ := device_findOne service.env service.runtime moment
      (looks_byName hdelivers.quoteFree hrecordable.nulFree) (by decide) (h.devices ▸ ht)
      (keyOf_text.mpr hname) (hrecordableNow.readable t (h.devices ▸ ht) hname)
    have hfind' : DeviceRepository.repository.findOne (service.connection moment)
      (fun _ => s.database) (byName event) = .ok (some dev) := hfind
    have hfound : Found d (dev, event) := ⟨t, ht, hname, hshows.id⟩
    have hroom := h.room
    rw [hone, List.length_singleton] at hroom
    simp only [Service.step, hfind', hone]
    refine ⟨h.devices, h.configurations,
      List.forall_mem_append.mpr ⟨h.found, List.forall_mem_singleton.mpr hfound⟩,
      List.forall_mem_append.mpr ⟨h.stored, List.forall_mem_singleton.mpr
        ⟨hrecordable.dumpQuoteFree, hrecordable.stored⟩⟩,
      ⟨recorded, rows, ?_, hrecords, hrows⟩, ?_⟩
    · rw [List.map_append, ← List.append_assoc]
      exact hperm.append_right _
    · rwa [List.length_append, List.length_singleton, Nat.add_assoc]
  · have hnone : knownEvents d [event] = [] := by rw [knownEvents_singleton, if_neg hknown]
    have hsame : service.step s (.lookup moment event) = s := by
      rw [Service.step]
      split
      · rename_i dev hfind
        obtain ⟨t, ht, hname, -⟩ := found_device hdelivers.quoteFree hfind
        exact absurd ⟨t, h.devices ▸ ht, hname⟩ hknown
      · rfl
    rw [hsame, hnone, List.append_nil]
    have hroom := h.room
    rw [hnone, List.length_nil, Nat.zero_add] at hroom
    exact { h with room := hroom }

lemma EachOnce.record (h : EachOnce service d seen n s) (moment : Moment) (i : Nat) :
    EachOnce service d seen n (service.step s (.record moment i)) := by
  obtain ⟨recorded, rows, hperm, hrecords, hrows⟩ := h.account
  cases hget : s.found[i]? with
  | none => simpa only [Service.step, hget] using h
  | some call =>
    obtain ⟨dev, event⟩ := call
    have hmem : (dev, event) ∈ s.found := List.mem_of_getElem? hget
    obtain ⟨t, ht, hname, hid⟩ := h.found _ hmem
    obtain ⟨hdump, hstored⟩ := h.stored _ hmem
    obtain ⟨hi, -⟩ := List.getElem?_eq_some_iff.mp hget
    have hlength : s.found.length = (s.found.eraseIdx i).length + 1 := by
      rw [List.length_eraseIdx_of_lt hi]
      omega
    have hroom : Room s.database ((s.found.eraseIdx i).length + n + 1) := by
      have hroom := h.room
      rwa [hlength, Nat.add_right_comm] at hroom
    obtain ⟨row, hadds, hserial, hrow, hdevice, hreads⟩ := insert_recorded s.database moment
      (m := telemetryOf dev event) ⟨⟨t, h.devices ▸ ht, hid⟩, hdump, hstored⟩ hroom.fresh
    have hrecord : Records service.env service.runtime d event row :=
      ⟨⟨t, ht, hname, hdevice.trans hid.symm⟩, hreads⟩
    have htelemetry : (Function.update s.database.rows "device_telemetry"
        (s.database.rows "device_telemetry" ++ [row])) "device_telemetry" =
        s.database.rows "device_telemetry" ++ [row] := Function.update_self ..
    rw [step_record service hget]
    refine ⟨?_, ?_, fun call hcall => h.found call (List.mem_of_mem_eraseIdx hcall),
      fun call hcall => h.stored call (List.mem_of_mem_eraseIdx hcall),
      ⟨recorded ++ [event], rows ++ [row], ?_, List.rel_append hrecords (.cons hrecord .nil), ?_⟩,
      ?_⟩
    · rw [hadds, Function.update_of_ne (by decide), h.devices]
    · rw [hadds, Function.update_of_ne (by decide), h.configurations]
    · rw [List.append_assoc]
      exact ((calls_perm hget).append_left recorded).trans hperm
    · rw [hadds, htelemetry, hrows, List.append_assoc]
    · exact room_next hroom (by rw [hadds, htelemetry]) hserial hrow

lemma EachOnce.request (h : EachOnce service d seen n s) {moment : Moment} {request : WireRequest}
    (hc : service.Contains (.request moment request)) (hkeeps : ¬ Deletes request) :
    EachOnce service d seen n (service.step s (.request moment request)) := by
  obtain ⟨recorded, rows, hperm, hrecords, hrows⟩ := h.account
  have hstep := (requested_cases (d := s.database) hc).resolve_right fun hdelete =>
    hkeeps hdelete.1
  rw [Service.step]
  exact ⟨(hstep.frame (by decide)).trans h.devices, (hstep.frame (by decide)).trans
    h.configurations, h.found, h.stored,
    ⟨recorded, rows, hperm, hrecords, (hstep.frame (by decide)).trans hrows⟩,
    room_congr h.room (hstep.frame (by decide)) (hstep.kept (by decide) (by decide))⟩

/-- What an event has to meet. -/
def Kept (service : Service) (d : Database schema) : Event → Prop
  | .request _ request => ¬ Deletes request
  | .lookup _ event => Delivers service.env service.runtime d event
  | .record _ _ => True

lemma EachOnce.run {events : List Event}
    (h : EachOnce service d seen (knownEvents d (lookups events)).length s)
    (hc : ∀ event ∈ events, service.Contains event) (hk : ∀ event ∈ events, Kept service d event) :
    EachOnce service d (seen ++ knownEvents d (lookups events)) 0 (service.run s events) := by
  induction events generalizing seen s with
  | nil => exact (List.append_nil seen).symm ▸ h
  | cons event events ih =>
    rw [List.forall_mem_cons] at hc hk
    cases event with
    | request moment request => exact ih (h.request hc.1 hk.1) hc.2 hk.2
    | record moment i => exact ih (h.record moment i) hc.2 hk.2
    | lookup moment event =>
      rw [knownEvents_lookup, List.length_append] at h
      have hrest := ih (h.lookup moment hk.1) hc.2 hk.2
      rwa [knownEvents_lookup, ← List.append_assoc]

end

/-- Without deletes of telemetry each event that can be recorded is recorded once its call is
over, whatever else comes in between. -/
theorem recorded_each_once (service : Service) (d : Database schema) {events : List Event}
    (h : ∀ event ∈ events, service.Contains event) (hkept : ∀ event ∈ events, Kept service d event)
    (hroom : Room d (knownEvents d (lookups events)).length) :
    ∃ recorded rows,
      (recorded ++ (service.run (start d) events).found.map Prod.snd).Perm
        (knownEvents d (lookups events)) ∧
      List.Forall₂ (Records service.env service.runtime d) recorded rows ∧
      (service.run (start d) events).database.rows "device_telemetry" =
        d.rows "device_telemetry" ++ rows := by
  have hstart : EachOnce service d [] (knownEvents d (lookups events)).length (start d) :=
    ⟨rfl, rfl, fun _ h => absurd h List.not_mem_nil, fun _ h => absurd h List.not_mem_nil,
      ⟨[], [], .refl _, .nil, (List.append_nil _).symm⟩, by
        simpa only [start, List.length_nil, Nat.zero_add] using hroom⟩
  exact (hstart.run h hkept).account

lemma shipped_delivers : Delivers shippedService.env shippedService.runtime
    RegistrySchema.shipped ⟨"rpi-robot", RegistrySchema.online⟩ := by
  have hdevice : ∀ r ∈ RegistrySchema.shipped.rows "device",
      Readable RegistrySchema.shippedEnv RestController.bodyRuntime (r "json_data") := by decide
  have hconf : ∀ r ∈ RegistrySchema.shipped.rows "device_configuration",
      Readable RegistrySchema.shippedEnv RestController.bodyRuntime (r "json_data") := by decide
  exact ⟨by decide, fun _ => ⟨by decide, fun s hs _ => ⟨hdevice s hs, fun r hr _ => hconf r hr⟩,
    by decide, RegistrySchema.online, rfl, rfl⟩⟩

lemma shipped_kept : ∀ event ∈ shippedEvents, Kept shippedService RegistrySchema.shipped event := by
  simp only [shippedEvents, List.forall_mem_cons]
  refine ⟨shipped_delivers, fun h => ?_, fun h => ?_, trivial, fun _ h => absurd h List.not_mem_nil⟩
  · exact absurd h.method (by decide)
  · have hroute : addHandlers.process .delete_ ("/api/devices" ++ "?" ++ idQuery 1) = _ :=
      HttpRouter.process_query devices.plain (devices.registered .delete_ (by decide)) (idQuery 1)
    exact absurd (Except.ok.inj (hroute.symm.trans h.handler)) (by decide)

theorem recorded_each_once_shipped :
    ∃ recorded rows,
      (recorded ++ (shippedService.run (start RegistrySchema.shipped)
        shippedEvents).found.map Prod.snd).Perm
        (knownEvents RegistrySchema.shipped (lookups shippedEvents)) ∧
      List.Forall₂ (Records shippedService.env shippedService.runtime RegistrySchema.shipped)
        recorded rows ∧
      (shippedService.run (start RegistrySchema.shipped) shippedEvents).database.rows
        "device_telemetry" = RegistrySchema.shipped.rows "device_telemetry" ++ rows := by
  refine recorded_each_once shippedService RegistrySchema.shipped shipped_contained shipped_kept
    fun k hk => ?_
  have hone : (knownEvents RegistrySchema.shipped (lookups shippedEvents)).length = 1 := by decide
  obtain rfl : k = 0 := by omega
  exact ⟨by decide, by decide, by decide⟩

end TelemetryInterleavings
