import RpiRobot.EventRuns
import RpiRobot.MetricRegistry
import RpiRobot.TelemetryIngest

/-!
# The Prometheus service

The subscriber of `PrometheusService::postConstruct` counts the gauge of a device up when
it says online and down when it says offline, and shows other telemetry under names of
its own. An exception ends the handling of one event and keeps what it had changed.

The count is the status exactly while the device's words alternate, online first.
-/

namespace PrometheusService

open EventRuns MetricRegistry
open DomainObjects (getString)
open TelemetryIngest (IotTelemetry)

inductive TelemetryError where
  | conversion
  | metric (e : MetricError)

/-- The registry is kept also where the handling ends with an exception. -/
abbrev Handled := Except TelemetryError Unit × Registry

/-- `json.items()`: an array has its indices as keys, a single value the empty key. -/
def items : Json → List (String × Json)
  | .object members => members
  | .array values => values.zipIdx.map (fun (value, i) => (toString i, value))
  | .null => []
  | value => [("", value)]

/-- What a range loop over the value visits. -/
def elements : Json → List Json
  | .object members => members.map Prod.snd
  | .array values => values
  | .null => []
  | value => [value]

/-- The conversion of an integer to `double`, to nearest and from a tie to even. -/
def doubleOf (n : Int) : ℚ :=
  let unit := 2 ^ (n.natAbs.log2 - 52)
  let units := n.natAbs / unit
  let rest := n.natAbs % unit
  let rounded := if unit < 2 * rest ∨ (unit = 2 * rest ∧ units % 2 = 1) then units + 1 else units
  n.sign * (rounded * unit : Nat)

/-- `is_number` and `get<double>`. -/
def number? : Json → Option ℚ
  | .integer n => some (doubleOf n)
  | .float q => some q
  | _ => none

/-- The text that `data()` points to, up to its first NUL. -/
def cString (s : String) : String := String.ofList (s.toList.takeWhile (· ≠ '\x00'))

def deviceLabels (device : String) : Labels := [("device_id", device)]

/-- `Build…().Name(name).Labels(constant).Register(registry).Add({{"device_id", device}})`
and then the change to the metric. -/
def change (type : MetricType) (name : String) (constant : Labels) (device : String)
    (f : ℚ → ℚ) (r : Registry) : Handled :=
  match register type name constant r with
  | .error e => (.error (.metric e), r)
  | .ok r' => (.ok (), modify name (deviceLabels device) f r')

/-- One body after another, up to the first exception. -/
def forEach {α : Type} (body : α → Registry → Handled) : List α → Registry → Handled
  | [], r => (.ok (), r)
  | a :: rest, r =>
    match body a r with
    | (.ok _, r') => forEach body rest r'
    | (.error e, r') => (.error e, r')

def telemetryName (key : String) : String :=
  String.ofList (("telemetry_" ++ key).toList.map (fun c => if c = '-' then '_' else c))

def handleTelemetryItem (device : String) (item : String × Json) (r : Registry) : Handled :=
  match number? item.2 with
  | some v => change .gauge (telemetryName item.1) [] (cString device) (fun _ => v) r
  | none =>
    match getString item.2 with
    | some s =>
      change .counter (telemetryName item.1) [("tag", s)] (cString device) (fun v => v + 1) r
    | none => (.error .conversion, r)

def handleTelemetryJsonObject (device : String) (json : Json) (r : Registry) : Handled :=
  forEach (handleTelemetryItem device) (items json) r

def handleTelemetryJson (device : String) (json : Json) (r : Registry) : Handled :=
  match json with
  | .object _ => handleTelemetryJsonObject device json r
  | _ => forEach (handleTelemetryJsonObject device) (elements json) r

/-- A status that is neither online nor offline registers the family all the same. -/
def handleStatus (device status : String) (r : Registry) : Handled :=
  match register .gauge "devices" [] r with
  | .error e => (.error (.metric e), r)
  | .ok r' =>
    if status = "online" then
      (.ok (), modify "devices" (deviceLabels device) (fun v => v + 1) r')
    else if status = "offline" then
      (.ok (), modify "devices" (deviceLabels device) (fun v => v - 1) r')
    else (.ok (), r')

/-- The subscriber of `postConstruct`. -/
def subscriber (event : IotTelemetry) (r : Registry) : Handled :=
  match event.message.member? "status" with
  | some status =>
    match getString status with
    | some s => handleStatus event.deviceId s r
    | none => (.error .conversion, r)
  | none => handleTelemetryJson event.deviceId event.message r

def handle (r : Registry) (event : IotTelemetry) : Registry := (subscriber event r).2

/-- The gauge `devices{device_id}`; a metric that has not been added counts as zero. -/
def deviceGauge (r : Registry) (device : String) : ℚ :=
  (value r "devices" (deviceLabels device)).getD 0

/-! What the gauge is for. -/

def online? (status : String) : Option Bool :=
  if status = "online" then some true
  else if status = "offline" then some false
  else none

/-- Whether the event reports the device online, offline or neither. -/
def reported (device : String) (event : IotTelemetry) : Option Bool :=
  if event.deviceId = device then
    ((event.message.member? "status").bind getString).bind online?
  else none

/-- Whether the device counts as online after the event. -/
def heard (device : String) (online : Bool) (event : IotTelemetry) : Bool :=
  (reported device event).getD online

def shown (online : Bool) : ℚ := if online then 1 else 0

/-- The event does not report of the device what it already counts as. -/
def News (device : String) (online : Bool) (event : IotTelemetry) : Prop :=
  reported device event ≠ some online

/-- No other family and no other type stands in the way of the gauge. -/
abbrev GaugeFree (r : Registry) : Prop := Reserved .gauge "devices" [] r

variable {device : String} {r r' : Registry} {event : IotTelemetry}

lemma deviceLabels_inj {other : String} (h : deviceLabels device = deviceLabels other) :
    device = other := by
  simpa [deviceLabels] using h

/-! ## Telemetry leaves the gauge alone -/

/-- The gauges of the devices are as they were. -/
structure Untouched (r r' : Registry) : Prop where
  free : GaugeFree r → GaugeFree r'
  gauge : ∀ device, deviceGauge r' device = deviceGauge r device

lemma Untouched.refl (r : Registry) : Untouched r r := ⟨id, fun _ => rfl⟩

lemma Untouched.trans {r'' : Registry} (h : Untouched r r') (h' : Untouched r' r'') :
    Untouched r r'' :=
  ⟨fun hr => h'.free (h.free hr), fun device => (h'.gauge device).trans (h.gauge device)⟩

/-- The rule for a loop whose body may throw. -/
lemma forEach_untouched {α : Type} {body : α → Registry → Handled}
    (hbody : ∀ a r, Untouched r (body a r).2) (as : List α) (r : Registry) :
    Untouched r (forEach body as r).2 := by
  induction as generalizing r with
  | nil => exact .refl r
  | cons a rest ih =>
    have hfirst := hbody a r
    rw [forEach]
    cases hresult : body a r with
    | mk outcome r' =>
      rw [hresult] at hfirst
      cases outcome with
      | error e => exact hfirst
      | ok _ => exact hfirst.trans (ih r')

lemma telemetryName_ne (key : String) : telemetryName key ≠ "devices" := by
  intro h
  have hlist := congrArg String.toList h
  simp only [telemetryName, String.toList_ofList, String.toList_append, List.map_append] at hlist
  exact absurd (congrArg List.head? hlist) (by simp)

lemma change_untouched {type : MetricType} {name : String} (hne : name ≠ "devices")
    (constant : Labels) (device : String) (f : ℚ → ℚ) (r : Registry) :
    Untouched r (change type name constant device f r).2 := by
  unfold change
  cases hregister : register type name constant r with
  | error e => exact .refl r
  | ok r' =>
    refine ⟨fun hfree => modify_reserved fun family hfamily => ?_, fun other => ?_⟩
    · rw [register_lookup_ne hregister (Ne.symm hne)] at hfamily
      exact hfree family hfamily
    · simp only [deviceGauge, modify_value_ne (Ne.symm hne), register_value hregister]

lemma handleTelemetryItem_untouched (device : String) (item : String × Json) (r : Registry) :
    Untouched r (handleTelemetryItem device item r).2 := by
  unfold handleTelemetryItem
  cases number? item.2 with
  | some v => exact change_untouched (telemetryName_ne _) _ _ _ r
  | none =>
    cases getString item.2 with
    | some s => exact change_untouched (telemetryName_ne _) _ _ _ r
    | none => exact .refl r

lemma handleTelemetryJsonObject_untouched (device : String) (json : Json) (r : Registry) :
    Untouched r (handleTelemetryJsonObject device json r).2 :=
  forEach_untouched (handleTelemetryItem_untouched device) _ r

lemma handleTelemetryJson_untouched (device : String) (json : Json) (r : Registry) :
    Untouched r (handleTelemetryJson device json r).2 := by
  unfold handleTelemetryJson
  split
  · exact handleTelemetryJsonObject_untouched device _ r
  · exact forEach_untouched (handleTelemetryJsonObject_untouched device) _ r

/-! ## One event -/

/-- The count goes up or down with the report. -/
def counted (report : Option Bool) (count : ℚ) : ℚ :=
  match report with
  | some true => count + 1
  | some false => count - 1
  | none => count

lemma modify_gauge (hregister : register .gauge "devices" [] r = .ok r') (other : String)
    (f : ℚ → ℚ) : deviceGauge (modify "devices" (deviceLabels other) f r') device =
      if device = other then f (deviceGauge r device) else deviceGauge r device := by
  have hregistered := register_registered hregister
  by_cases hdevice : device = other
  · subst hdevice
    simp [deviceGauge, modify_value hregistered, register_value hregister]
  · have hlabels : deviceLabels device ≠ deviceLabels other := fun h =>
      hdevice (deviceLabels_inj h)
    simp [deviceGauge, modify_value hregistered, register_value hregister, hlabels, hdevice]

/-- What a status does, where its family can be registered. -/
lemma handleStatus_gauge (h : GaugeFree r) (name status : String) :
    GaugeFree (handleStatus name status r).2 ∧
      deviceGauge (handleStatus name status r).2 device =
        counted (if name = device then online? status else none) (deviceGauge r device) := by
  obtain ⟨r', hregister⟩ := register_ok (by decide) h
  have hfree : GaugeFree r' := register_reserved hregister
  have hgauge : deviceGauge r' device = deviceGauge r device := by
    simp only [deviceGauge, register_value hregister]
  by_cases honline : status = "online"
  · have hstatus : handleStatus name status r
        = (.ok (), modify "devices" (deviceLabels name) (fun v => v + 1) r') := by
      simp only [handleStatus, hregister, honline, if_true]
    refine ⟨hstatus ▸ modify_reserved hfree, ?_⟩
    rw [hstatus, modify_gauge hregister]
    by_cases hname : name = device
    · simp [hname, online?, honline, counted]
    · simp [hname, Ne.symm hname, counted]
  · by_cases hoffline : status = "offline"
    · have hstatus : handleStatus name status r
          = (.ok (), modify "devices" (deviceLabels name) (fun v => v - 1) r') := by
        simp only [handleStatus, hregister, if_neg honline, if_pos hoffline]
      refine ⟨hstatus ▸ modify_reserved hfree, ?_⟩
      rw [hstatus, modify_gauge hregister]
      by_cases hname : name = device
      · simp [hname, online?, hoffline, counted]
      · simp [hname, Ne.symm hname, counted]
    · have hstatus : handleStatus name status r = (.ok (), r') := by
        simp only [handleStatus, hregister, if_neg honline, if_neg hoffline]
      refine ⟨hstatus ▸ hfree, ?_⟩
      rw [hstatus, hgauge]
      simp [online?, honline, hoffline, counted]

/-- What one event does to the gauge of a device. -/
theorem handle_gauge (h : GaugeFree r) (device : String) (event : IotTelemetry) :
    GaugeFree (handle r event) ∧
      deviceGauge (handle r event) device = counted (reported device event)
        (deviceGauge r device) := by
  cases hmember : event.message.member? "status" with
  | none =>
    have huntouched : Untouched r (handle r event) := by
      simp only [handle, subscriber, hmember]
      exact handleTelemetryJson_untouched _ _ r
    have hreport : reported device event = none := by simp [reported, hmember]
    rw [hreport]
    exact ⟨huntouched.free h, huntouched.gauge device⟩
  | some status =>
    cases hstring : getString status with
    | none =>
      have hsame : handle r event = r := by simp only [handle, subscriber, hmember, hstring]
      have hreport : reported device event = none := by simp [reported, hmember, hstring]
      rw [hsame, hreport]
      exact ⟨h, rfl⟩
    | some s =>
      have hstatus : handle r event = (handleStatus event.deviceId s r).2 := by
        simp only [handle, subscriber, hmember, hstring]
      have hreport : reported device event
          = if event.deviceId = device then online? s else none := by
        simp [reported, hmember, hstring]
      rw [hstatus, hreport]
      exact handleStatus_gauge h _ s

/-! ## Runs -/

/-- A count that is right stays right just if the report is news. -/
lemma counted_shown_iff (online : Bool) (report : Option Bool) :
    counted report (shown online) = shown (report.getD online) ↔ report ≠ some online := by
  rcases report with _ | _ | _ <;> cases online <;> simp [counted, shown]

lemma gaugeFree_empty : GaugeFree ∅ := fun _ h => nomatch h

/-- The gauge of a device shows its last report after every event of a run just if each
of its reports is news: online and offline alternate, beginning with online. -/
theorem gauge_tracks_iff (device : String) (events : List IotTelemetry) :
    (∀ n, deviceGauge ((events.take n).foldl handle ∅) device =
        shown ((events.take n).foldl (heard device) false)) ↔
      Meets (heard device) (News device) false events := by
  refine agrees_iff_meets (fun r online => deviceGauge r device = shown online) GaugeFree
    (fun r event h => (handle_gauge h device event).1)
    (fun r online event h hshown => ?_) gaugeFree_empty rfl events
  rw [(handle_gauge h device event).2, hshown]
  exact counted_shown_iff online (reported device event)

def statusEvent (device status : String) : IotTelemetry :=
  ⟨device, .object [("status", .string status)]⟩

/-- A device that says twice that it is online counts as two. -/
theorem gauge_counts_repeats :
    deviceGauge ([statusEvent "rpi-robot" "online", statusEvent "rpi-robot" "online"].foldl
        handle ∅) "rpi-robot" = 2 ∧
      [statusEvent "rpi-robot" "online", statusEvent "rpi-robot" "online"].foldl
        (heard "rpi-robot") false = true := by
  have hreport : reported "rpi-robot" (statusEvent "rpi-robot" "online") = some true := by decide
  have hone := handle_gauge gaugeFree_empty "rpi-robot" (statusEvent "rpi-robot" "online")
  have htwo := handle_gauge hone.1 "rpi-robot" (statusEvent "rpi-robot" "online")
  have hzero : deviceGauge ∅ "rpi-robot" = 0 := rfl
  rw [hone.2, hreport, hzero] at htwo
  have hsum : counted (some true) (counted (some true) 0) = 2 := by
    rw [counted, counted, zero_add, one_add_one_eq_two]
  exact ⟨htwo.2.trans hsum, by decide⟩

end PrometheusService
