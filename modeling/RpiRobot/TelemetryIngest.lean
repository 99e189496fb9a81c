import RpiRobot.InsertReadBack
import RpiRobot.LiteralIntegrity

/-!
# Telemetry ingest

The subscriber of `RegistryApp::setup` looks up the device that an event names and
inserts a telemetry record for it. A run hands it one event after another; where the
subscriber throws, the run goes on with the database as the subscriber left it.

Each event adds its record if its own statements can be read by the server, the
device it names can be read by the client, and the record can be stored.
-/

namespace TelemetryIngest

open SqlConditions (Row Value)
open SqlTokens (Opens)
open SqlBuilder SqlTables SqlServers
open FilterConditions (nameColumn)
open StringLiterals (QuoteFree)
open RequestParams DomainObjects Repositories RepositoryStatements FieldQueries
open RowDecoding SecondSelects TextQueries TextWrites InsertReadBack
open RegistrySchema (schema)

-- Without this the unifier tries to parse the text of a statement.
attribute [local irreducible] textServer

structure IotTelemetry where
  deviceId : String
  message : Json

def byName (event : IotTelemetry) : Filter := Filter.create.add "name" .opEq (.string event.deviceId)

def telemetryOf (dev : DeviceDo) (event : IotTelemetry) : DeviceTelemetryDo :=
  ⟨0, dev.id, DeviceDo.init, "", event.message⟩

/-- The subscriber of `RegistryApp::setup`. -/
def subscriber (c : Connection) (d : Database schema) (event : IotTelemetry) :
    Outcome Bool × Database schema :=
  match DeviceRepository.repository.findOne c (fun _ => d) (byName event) with
  | .error e => (.error e, d)
  | .ok none => (.ok true, d)
  | .ok (some dev) =>
    match DeviceTelemetryRepository.insert c d (telemetryOf dev event) with
    | (.ok _, d') => (.ok true, d')
    | (.error e, d') => (.error e, d')

/-- An event and the moment it is handled in. -/
structure Arrival where
  moment : Moment
  event : IotTelemetry

def ingestOne (env : Env) (runtime : Runtime) (d : Database schema) (a : Arrival) :
    Database schema :=
  (subscriber (textConnection env runtime a.moment) d a.event).2

def ingest (env : Env) (runtime : Runtime) (d : Database schema) (arrivals : List Arrival) :
    Database schema :=
  arrivals.foldl (ingestOne env runtime) d

/-! What the ingest is for. -/

/-- The event names a device. -/
def Known (d : Database schema) (event : IotTelemetry) : Prop :=
  ∃ s ∈ d.rows "device", s "name" = .text event.deviceId

instance (d : Database schema) (event : IotTelemetry) : Decidable (Known d event) :=
  inferInstanceAs (Decidable (∃ _ ∈ _, _))

def knownEvents (d : Database schema) (events : List IotTelemetry) : List IotTelemetry :=
  events.filter (fun event => decide (Known d event))

/-- The row is the record of the event: of the device it names, with its message. -/
def Records (env : Env) (runtime : Runtime) (d : Database schema) (event : IotTelemetry)
    (row : Row) : Prop :=
  (∃ s ∈ d.rows "device", s "name" = .text event.deviceId ∧ row "device_id" = s "id") ∧
    ReadsAs env runtime (row "json_data") event.message

/-- One record for each event of a known device, in order, and nothing else. -/
def ExactlyOnce (env : Env) (runtime : Runtime) (d d' : Database schema)
    (events : List IotTelemetry) : Prop :=
  ∃ rows, d'.rows = Function.update d.rows "device_telemetry" (d.rows "device_telemetry" ++ rows) ∧
    List.Forall₂ (Records env runtime d) (knownEvents d events) rows

/-- What it takes to record the event of a known device. -/
structure Recordable (env : Env) (runtime : Runtime) (d : Database schema)
    (event : IotTelemetry) : Prop where
  nulFree : NulFree event.deviceId
  readable : ∀ s ∈ d.rows "device", s "name" = .text event.deviceId → DeviceReadable env runtime d s
  dumpQuoteFree : QuoteFree (runtime.dump event.message).toList
  stored : Stored env runtime event.message

/-- The event gets through: its device id stays inside its literal, and if a device
has this name, the event can be recorded. -/
structure Delivers (env : Env) (runtime : Runtime) (d : Database schema)
    (event : IotTelemetry) : Prop where
  quoteFree : QuoteFree event.deviceId.toList
  recordable : Known d event → Recordable env runtime d event

/-- The next numbers of the sequence are ids that no record has. -/
def Room (d : Database schema) (n : Nat) : Prop :=
  ∀ k : Nat, k < n → DecimalText.intMin ≤ d.serial "device_telemetry" + k ∧
    d.serial "device_telemetry" + k ≤ DecimalText.intMax ∧
    ∀ r ∈ d.rows "device_telemetry", r "id" ≠ .int (d.serial "device_telemetry" + k)

section
variable {env : Env} {runtime : Runtime} {moment : Moment} {d d' d'' : Database schema}
  {event : IotTelemetry}

/-! One event. -/

lemma Room.fresh {n : Nat} (h : Room d (n + 1)) : Fresh d "device_telemetry" := by
  obtain ⟨low, high, unused⟩ := h 0 n.succ_pos
  rw [Int.ofNat_zero, Int.add_zero] at low high unused
  exact ⟨low, high, unused⟩

lemma looks_byName (hq : QuoteFree event.deviceId.toList) (hnul : NulFree event.deviceId) :
    Looks env RegistrySchema.device d (byName event) "name" (.text event.deviceId) :=
  looks_text nameColumn (c := ⟨"name", .varchar 64, true, .null⟩) rfl rfl hq
    hnul (fun _ hr => (device_fields d.consistent hr).name)

variable (moment) in
/-- The event of a known device adds its record. -/
lemma ingest_known (hq : QuoteFree event.deviceId.toList) (hknown : Known d event)
    (h : Recordable env runtime d event) (hfresh : Fresh d "device_telemetry") :
    ∃ row, (ingestOne env runtime d ⟨moment, event⟩).rows =
        Function.update d.rows "device_telemetry" (d.rows "device_telemetry" ++ [row]) ∧
      (ingestOne env runtime d ⟨moment, event⟩).serial "device_telemetry" =
        d.serial "device_telemetry" + 1 ∧
      row "id" = .int (d.serial "device_telemetry") ∧ Records env runtime d event row := by
  obtain ⟨s, hs, hname⟩ := hknown
  obtain ⟨dev, hfind, hshows⟩ := device_findOne env runtime moment
    (looks_byName hq h.nulFree) (by decide) hs (keyOf_text.mpr hname) (h.readable s hs hname)
  have hadmitted : TelemetryAdmitted env runtime d (telemetryOf dev event) :=
    ⟨⟨s, hs, hshows.id⟩, h.dumpQuoteFree, h.stored⟩
  obtain ⟨j, hj, hparse⟩ := h.stored
  have hc := (telemetry_consistent_iff moment (j := j) hadmitted.device).mpr hfresh
  have hinsert := (inserted_iff env runtime moment _ telemetryListing
    (telemetry_assigns hadmitted hj) _).mpr ⟨rfl, hfresh.high, hc, rfl⟩
  have hins : DeviceTelemetryRepository.insert (textConnection env runtime moment) d
      (telemetryOf dev event) = _ := hinsert
  have hone : ingestOne env runtime d ⟨moment, event⟩ =
      ⟨_, (d.advance "device_telemetry").serial, hc⟩ := by
    rw [ingestOne, subscriber, hfind]
    simp only [hins]
    rfl
  have hserial : (d.advance "device_telemetry").serial "device_telemetry" =
      d.serial "device_telemetry" + 1 := d.advance_serial _
  rw [hone]
  exact ⟨telemetryRow moment d dev.id j, rfl, hserial, rfl, ⟨s, hs, hname, hshows.id.symm⟩, j,
    rfl, hparse⟩

/-- A device id with a NUL cuts the select, and the lookup throws. -/
lemma findOne_cut (hq : QuoteFree event.deviceId.toList) (hnul : ¬ NulFree event.deviceId)
    {x : Option DeviceDo} : DeviceRepository.repository.findOne
      (textConnection env runtime moment) (fun _ => d) (byName event) ≠ .ok x := by
  intro h
  obtain ⟨rows, hrows, _⟩ := device_findOne_iff.mp h
  have hcut := LiteralIntegrity.nul_rejected env runtime moment
    (d := d) (s := .page .device [("name", event.deviceId)] (PageRequest.of 0 1 false))
    (List.forall_mem_singleton.mpr hq) ⟨event.deviceId, List.mem_singleton_self _, hnul⟩
  have hserver : (textConnection env runtime moment).server d (.select
      (DeviceRepository.selectData (byName event) (PageRequest.of 0 1 false))) =
      (.error .syntaxError, d) := hcut
  rw [Connection.query, hserver] at hrows
  exact absurd hrows (by simp)

variable (moment) in
/-- The event of an unknown device adds nothing. -/
lemma ingest_unknown (hq : QuoteFree event.deviceId.toList) (hunknown : ¬ Known d event) :
    ingestOne env runtime d ⟨moment, event⟩ = d := by
  by_cases hnul : NulFree event.deviceId
  · have hfind := device_findOne_missing env runtime moment
      (looks_byName hq hnul) (fun s hs hk => hunknown ⟨s, hs, keyOf_text.mp hk⟩)
    rw [ingestOne, subscriber, hfind]
  · rw [ingestOne, subscriber]
    cases hfind : DeviceRepository.repository.findOne (textConnection env runtime moment)
      (fun _ => d) (byName event) with
    | error e => rfl
    | ok x => exact absurd hfind (findOne_cut hq hnul)

/-! A run of events. -/

/-- Records do not touch the devices. -/
lemma rows_of_exactlyOnce {events : List IotTelemetry} (h : ExactlyOnce env runtime d d' events)
    (name : String) (hn : name ≠ "device_telemetry") : d'.rows name = d.rows name := by
  obtain ⟨rows, hrows, _⟩ := h
  rw [hrows, Function.update_of_ne hn]

lemma known_congr (h : d'.rows "device" = d.rows "device") : Known d' = Known d := by
  funext event
  rw [Known, Known, h]

lemma records_congr (h : d'.rows "device" = d.rows "device") :
    Records env runtime d' = Records env runtime d := by
  funext event row
  rw [Records, Records, h]

lemma knownEvents_congr (h : d'.rows "device" = d.rows "device") :
    knownEvents d' = knownEvents d := by
  funext events
  simp only [knownEvents, known_congr h]

lemma Delivers.congr (hdevice : d'.rows "device" = d.rows "device")
    (hconf : d'.rows "device_configuration" = d.rows "device_configuration")
    (h : Delivers env runtime d event) : Delivers env runtime d' event := by
  refine ⟨h.quoteFree, fun hknown => ?_⟩
  rw [known_congr hdevice] at hknown
  obtain ⟨hnul, hreadable, hdump, hstored⟩ := h.recordable hknown
  refine ⟨hnul, fun s hs hname => ?_, hdump, hstored⟩
  rw [hdevice] at hs
  rw [DeviceReadable, hconf]
  exact hreadable s hs hname

/-- What one list of events adds, and then another, is what both add. -/
lemma ExactlyOnce.append {events later : List IotTelemetry}
    (h : ExactlyOnce env runtime d d' events) (hl : ExactlyOnce env runtime d' d'' later) :
    ExactlyOnce env runtime d d'' (events ++ later) := by
  have hdevice := rows_of_exactlyOnce h "device" (by decide)
  obtain ⟨rows, hrows, hrecords⟩ := h
  obtain ⟨added, hadded, hlater⟩ := hl
  rw [records_congr hdevice, knownEvents_congr hdevice] at hlater
  refine ⟨rows ++ added, ?_, ?_⟩
  · rw [hadded, hrows, Function.update_self, Function.update_idem, List.append_assoc]
  · rw [knownEvents, List.filter_append]
    exact List.rel_append hrecords hlater

/-- One event is recorded exactly once, and there is room for the next ones. -/
lemma ingestOne_exactlyOnce {a : Arrival} {n : Nat} (h : Delivers env runtime d a.event)
    (hroom : Room d ((knownEvents d [a.event]).length + n)) :
    ExactlyOnce env runtime d (ingestOne env runtime d a) [a.event] ∧
      Room (ingestOne env runtime d a) n := by
  by_cases hknown : Known d a.event
  · have hone : knownEvents d [a.event] = [a.event] := by simp [knownEvents, hknown]
    rw [hone, List.length_singleton, Nat.add_comm] at hroom
    obtain ⟨row, hrows, hserial, hid, hrecords⟩ := ingest_known a.moment h.quoteFree
      hknown (h.recordable hknown) hroom.fresh
    refine ⟨⟨[row], hrows, ?_⟩, fun k hk => ?_⟩
    · rw [hone]
      exact .cons hrecords .nil
    · obtain ⟨low, high, unused⟩ := hroom (k + 1) (by omega)
      have hnext : d.serial "device_telemetry" + 1 + (k : Int) =
          d.serial "device_telemetry" + (k + 1 : Nat) := by omega
      rw [hserial, hnext, hrows, Function.update_self]
      refine ⟨low, high, fun r hr => ?_⟩
      rcases List.mem_append.mp hr with hr | hr
      · exact unused r hr
      · rw [List.mem_singleton.mp hr, hid, ne_eq, Value.int.injEq]
        omega
  · have hnone : knownEvents d [a.event] = [] := by simp [knownEvents, hknown]
    rw [hnone, List.length_nil, Nat.zero_add] at hroom
    have hsame : ingestOne env runtime d a = d := ingest_unknown a.moment h.quoteFree
      hknown
    rw [hsame]
    refine ⟨⟨[], ?_, ?_⟩, hroom⟩
    · rw [List.append_nil, Function.update_eq_self]
    · rw [hnone]
      exact .nil

end

/-- A run of events that get through records each of them exactly once. -/
theorem ingest_exactly_once (env : Env) (runtime : Runtime) (d : Database schema)
    (arrivals : List Arrival) (delivers : ∀ a ∈ arrivals, Delivers env runtime d a.event)
    (room : Room d (knownEvents d (arrivals.map Arrival.event)).length) :
    ExactlyOnce env runtime d (ingest env runtime d arrivals) (arrivals.map Arrival.event) := by
  induction arrivals generalizing d with
  | nil => exact ⟨[], by rw [List.append_nil, Function.update_eq_self]; rfl, .nil⟩
  | cons a arrivals ih =>
    rw [List.forall_mem_cons] at delivers
    have hsplit : knownEvents d ((a :: arrivals).map Arrival.event) =
        knownEvents d [a.event] ++ knownEvents d (arrivals.map Arrival.event) := by
      rw [knownEvents, knownEvents, knownEvents, ← List.filter_append]
      rfl
    rw [hsplit, List.length_append] at room
    obtain ⟨hone, hroom⟩ := ingestOne_exactlyOnce delivers.1 room
    have hdevice := rows_of_exactlyOnce hone "device" (by decide)
    have hconf := rows_of_exactlyOnce hone "device_configuration" (by decide)
    rw [← knownEvents_congr hdevice] at hroom
    exact hone.append (ih (ingestOne env runtime d a)
      (fun b hb => (delivers.2 b hb).congr hdevice hconf) hroom)

/-! On the shipped rows. -/

/-- An event of a shipped device, one that names no device, and one with a NUL in its id. -/
def arrivals : List Arrival :=
  [⟨later, "rpi-robot", RegistrySchema.online⟩, ⟨later, "lamp", .object []⟩,
    ⟨later, "rpi\x00", .object []⟩]

lemma shipped_readable : ∀ s ∈ RegistrySchema.shipped.rows "device",
    DeviceReadable RegistrySchema.shippedEnv shippedRuntime RegistrySchema.shipped s := by
  have hdevice : ∀ r ∈ RegistrySchema.shipped.rows "device",
      Readable RegistrySchema.shippedEnv shippedRuntime (r "json_data") := by decide
  have hconf : ∀ r ∈ RegistrySchema.shipped.rows "device_configuration",
      Readable RegistrySchema.shippedEnv shippedRuntime (r "json_data") := by decide
  exact fun s hs => ⟨hdevice s hs, fun r hr _ => hconf r hr⟩

theorem ingest_exactly_once_shipped :
    ExactlyOnce RegistrySchema.shippedEnv shippedRuntime RegistrySchema.shipped
      (ingest RegistrySchema.shippedEnv shippedRuntime RegistrySchema.shipped arrivals)
      (arrivals.map Arrival.event) := by
  refine ingest_exactly_once RegistrySchema.shippedEnv shippedRuntime RegistrySchema.shipped
    arrivals ?_ ?_
  · rw [arrivals, List.forall_mem_cons, List.forall_mem_cons, List.forall_mem_singleton]
    refine ⟨⟨by decide, fun _ => ⟨by decide, fun s hs _ => shipped_readable s hs, by decide,
      stored_online⟩⟩, ⟨by decide, fun h => ?_⟩, by decide, fun h => ?_⟩
    · exact absurd h (by decide)
    · exact absurd h (by decide)
  · intro k hk
    have hone : (knownEvents RegistrySchema.shipped (arrivals.map Arrival.event)).length = 1 := by
      decide
    obtain rfl : k = 0 := by omega
    exact ⟨by decide, by decide, by decide⟩

def note : Json := .object [("note", .string "it's on")]

/-- The client's JSON text of the note, too. -/
def noteRuntime : Runtime where
  dump j := match j with
    | .object [("note", .string "it's on")] => "\x7b\"note\":\"it's on\"\x7d"
    | j => shippedRuntime.dump j
  dump_nulFree j := by
    split
    · decide
    · exact shippedRuntime.dump_nulFree _
  parse := shippedRuntime.parse
  iterate := shippedRuntime.iterate
  iterate_perm := shippedRuntime.iterate_perm

def noted : IotTelemetry := ⟨"rpi-robot", note⟩

def noteInsert : InsertModel :=
  DeviceTelemetryRepository.insertModel noteRuntime ⟨0, 1, DeviceDo.init, "", note⟩

/-- The record of an event is lost if the server cannot parse its insert. -/
lemma ingest_unparsed {env : Env} {runtime : Runtime} {moment : Moment} {d : Database schema}
    {event : IotTelemetry} {dev : DeviceDo}
    (hfind : DeviceRepository.repository.findOne (textConnection env runtime moment) (fun _ => d)
      (byName event) = .ok (some dev))
    (h : SqlStatements.parse (cString
      (DeviceTelemetryRepository.insertModel runtime (telemetryOf dev event)).str) = none) :
    ingest env runtime d [⟨moment, event⟩] = d := by
  have hserver : (textConnection env runtime moment).server d (.insert
      (DeviceTelemetryRepository.insertModel runtime (telemetryOf dev event))) =
      (.error .syntaxError, d) := by
    rw [textConnection_server, textServer, SqlModel.str, h]
  have hruntime : (textConnection env runtime moment).runtime = runtime := rfl
  have hinsert : DeviceTelemetryRepository.insert (textConnection env runtime moment) d
      (telemetryOf dev event) = (.error (.sql .syntaxError), d) := by
    rw [DeviceTelemetryRepository.insert, hruntime, Connection.work, hserver]
    rfl
  change ingestOne env runtime d ⟨moment, event⟩ = d
  rw [ingestOne, subscriber, hfind]
  simp only [hinsert]

/-- An apostrophe in a message ends its literal, and the record of a shipped device is lost. -/
theorem ingest_loses_note :
    ¬ ExactlyOnce RegistrySchema.shippedEnv noteRuntime RegistrySchema.shipped
      (ingest RegistrySchema.shippedEnv noteRuntime RegistrySchema.shipped [⟨later, noted⟩])
      [noted] := by
  have hrow : ∃ s ∈ RegistrySchema.shipped.rows "device", s "name" = .text "rpi-robot" ∧
      s "id" = .int 1 := by decide
  obtain ⟨s, hs, hname, hid⟩ := hrow
  have hquotes : QuoteFree noted.deviceId.toList := by decide
  obtain ⟨dev, hfind, hshows⟩ := device_findOne RegistrySchema.shippedEnv noteRuntime later
    (looks_byName hquotes (by decide)) (by decide) hs (keyOf_text.mpr hname) (shipped_readable s hs)
  have hdev : dev.id = 1 := Value.int.inj (hshows.id.symm.trans hid)
  have hmodel : DeviceTelemetryRepository.insertModel noteRuntime (telemetryOf dev noted) =
      noteInsert := by
    rw [DeviceTelemetryRepository.insertModel, telemetryOf, hdev]
    rfl
  have hparse : SqlStatements.parse (cString noteInsert.str) = none := by decide
  have hingest := ingest_unparsed hfind (by rw [hmodel]; exact hparse)
  rw [hingest]
  rintro ⟨rows, hrows, hrecords⟩
  have hnone := congrFun hrows "device_telemetry"
  rw [Function.update_self, List.self_eq_append_right] at hnone
  rw [hnone] at hrecords
  have hlength := hrecords.length_eq
  exact absurd hlength (by decide)

end TelemetryIngest
