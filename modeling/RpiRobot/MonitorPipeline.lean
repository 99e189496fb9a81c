import RpiRobot.TelemetryGauges
import RpiRobot.TemperatureSensor

/-!
# From the sensors to the gauges

What the monitors of the devices measure goes to the gauges of the registry: each tick is an event,
its JSON the telemetry of the device, and the subscriber of the Prometheus service sets one gauge
for each member. The devices also say when they go online and offline.

A gauge may in general miss telemetry, but not what the monitors send.
-/

namespace MonitorPipeline

open MonitorEvents TemperatureSensor
open TelemetryGauges PrometheusService MetricRegistry
open TelemetryIngest (IotTelemetry)

/-! ## What the devices send -/

/-- The event of a tick, on a Mac or elsewhere. -/
inductive Built : SystemInfoEvent → Prop where
  | mac (call : Option Nat → SmcKeys.SMCCall) (k : Openings) (s : Mac) : Built (macTick call k s).1
  | pi (stod : String → Except String ℚ) (content : Option String) (e : SystemInfoEvent)
      (h : piEvent stod content = .ok e) : Built e

inductive Message where
  | tick (device : String) (event : SystemInfoEvent) (built : Built event)
  | status (device : String) (word : String)

/-- `iot.telemetry(1, json.dump())`. -/
def payload (e : SystemInfoEvent) : Json :=
  match e.toJson with
  | .ok j => j
  | .error _ => .null

def Message.device : Message → String
  | .tick device _ _ => device
  | .status device _ => device

/-- What the registry gets. -/
def Message.telemetry : Message → IotTelemetry
  | .tick device event _ => ⟨device, payload event⟩
  | .status device word => ⟨device, .object [("status", .string word)]⟩

def receive (r : Registry) (messages : List Message) : Registry :=
  (messages.map Message.telemetry).foldl handle r

/-! ## What the gauges are to show -/

def memberOf : SensorType → String
  | .cpu => "cpu-temp"
  | .gpu => "gpu-temp"
  | .ambient => "ambient-temp"

def gaugeName (type : SensorType) : String := telemetryName (memberOf type)

def temperatureOf (e : SystemInfoEvent) : SensorType → Option ℚ
  | .cpu => e.cpuTemp
  | .gpu => e.gpuTemp
  | .ambient => e.ambientTemp

def Message.reports (type : SensorType) (device : String) : Message → Option ℚ
  | .tick device' event _ => if device' = device then temperatureOf event type else none
  | .status _ _ => none

/-- The temperature that the device has measured last. -/
def lastTemperature (type : SensorType) (device : String) (messages : List Message) : Option ℚ :=
  messages.reverse.findSome? (Message.reports type device)

lemma name_injective {type type' : SensorType}
    (h : gaugeName type = gaugeName type') : type = type' := by
  cases type <;> cases type' <;> first | rfl | exact absurd h (by decide)

/-! ## One tick -/

/-- The members of some of the temperatures. -/
def members (e : SystemInfoEvent) (types : List SensorType) : List (String × Json) :=
  types.flatMap fun type => member (memberOf type) (temperatureOf e type)

lemma built_cases {e : SystemInfoEvent} (h : Built e) :
    (∃ cpu gpu ambient, e = ⟨some cpu, some gpu, some ambient⟩) ∨ ∃ cpu, e = ⟨cpu, none, none⟩ := by
  cases h with
  | mac call k s =>
    obtain ⟨cpu, gpu, ambient, hevent, -⟩ := mac_event call k s
    exact .inl ⟨cpu, gpu, ambient, hevent⟩
  | pi stod content e h =>
    obtain ⟨hgpu, hambient⟩ := pi_event h
    obtain ⟨cpu, gpu, ambient⟩ := e
    subst hgpu hambient
    exact .inr ⟨cpu, rfl⟩

/-- The subscriber goes through the temperatures in the order of their keys. -/
lemma handle_tick {e : SystemInfoEvent} (h : Built e) (r : Registry) (device : String) :
    handle r ⟨device, payload e⟩ =
      (forEach (handleTelemetryItem device) (members e [.ambient, .cpu, .gpu]) r).2 := by
  rcases built_cases h with ⟨cpu, gpu, ambient, rfl⟩ | ⟨cpu, rfl⟩
  · rfl
  · cases cpu <;> rfl

/-- No other kind of metric has the name of a temperature. -/
def Free (r : Registry) : Prop := ∀ type, Reserved .gauge (gaugeName type) [] r

lemma temperature_fits {r : Registry} (h : Free r) (type : SensorType) (v : ℚ) :
    Fits r (memberOf type, .float v) :=
  ⟨(.gauge, []), rfl, h type⟩

/-- A member sets the gauge of its temperature. -/
lemma member_shown {device : String} (hnul : cString device = device) {r : Registry} (h : Free r)
    (first : SensorType) (v : ℚ) :
    ∃ r', handleTelemetryItem device (memberOf first, .float v) r = (.ok (), r') ∧ Free r' ∧
      ∀ type device', gauge r' (gaugeName type) device' =
        if type = first ∧ device' = device then some v
        else gauge r (gaugeName type) device' := by
  have hkey : (memberOf first).toList.all keyChar = true := by cases first <;> decide
  obtain ⟨r', hitem, hset, hfits⟩ := item_fits device hkey (temperature_fits h first v)
  refine ⟨r', hitem, fun type => ?_, fun type device' => ?_⟩
  · obtain ⟨kind, hkind, hreserved⟩ := hfits (memberOf type, .float 0) (fun _ => rfl)
      (temperature_fits h type 0)
    obtain rfl := Option.some.inj hkind
    exact hreserved
  · rw [hset, hnul]
    by_cases htype : type = first
    · subst htype
      simp [gaugeName, number?]
    · have hname : ¬ gaugeName type = telemetryName (memberOf first) := fun hname =>
        htype (name_injective hname)
      simp [htype, hname]

lemma members_shown (e : SystemInfoEvent) {device : String} (hnul : cString device = device)
    (types : List SensorType) {r : Registry} (h : Free r) :
    ∃ r', forEach (handleTelemetryItem device) (members e types) r = (.ok (), r') ∧ Free r' ∧
      ∀ type device', gauge r' (gaugeName type) device' =
        if type ∈ types ∧ device' = device then
          (temperatureOf e type).or (gauge r (gaugeName type) device')
        else gauge r (gaugeName type) device' := by
  induction types generalizing r with
  | nil => exact ⟨r, rfl, h, fun type device' => by simp⟩
  | cons first types ih =>
    cases htemp : temperatureOf e first with
    | none =>
      have hskip : members e (first :: types) = members e types := by
        rw [members, List.flatMap_cons, htemp]
        rfl
      obtain ⟨r', hloop, hfree, hgauge⟩ := ih h
      refine ⟨r', hskip ▸ hloop, hfree, fun type device' => ?_⟩
      rw [hgauge]
      by_cases htype : type = first
      · subst htype
        simp [htemp]
      · simp [htype]
    | some v =>
      have hcons : members e (first :: types) = (memberOf first, .float v) :: members e types := by
        rw [members, List.flatMap_cons, htemp]
        rfl
      obtain ⟨r₁, hitem, hfree₁, hset⟩ := member_shown hnul h first v
      obtain ⟨r', hloop, hfree, hgauge⟩ := ih hfree₁
      refine ⟨r', ?_, hfree, fun type device' => ?_⟩
      · rw [hcons, forEach, hitem]
        exact hloop
      · rw [hgauge, hset]
        by_cases htype : type = first
        · subst htype
          by_cases hdevice : device' = device
          · simp [hdevice, htemp]
          · simp [hdevice]
        · simp [htype]

/-! ## One message -/

/-- A status is of another gauge. -/
lemma status_shown {r : Registry} (h : Free r) (device word : String) :
    Free (handleStatus device word r).2 ∧ ∀ type device',
      gauge (handleStatus device word r).2 (gaugeName type) device' =
        gauge r (gaugeName type) device' := by
  rw [handleStatus]
  cases hregister : register .gauge "devices" [] r with
  | error e => exact ⟨h, fun _ _ => rfl⟩
  | ok r₁ =>
    have hne : ∀ type, gaugeName type ≠ "devices" := fun type => telemetryName_ne _
    obtain ⟨family, hfamily⟩ := register_registered hregister
    have hfree₁ : Free r₁ := fun type found hfound => by
      rw [register_lookup_ne hregister (hne type)] at hfound
      exact h type found hfound
    have hmodify : ∀ f, Free (modify "devices" (deviceLabels device) f r₁) ∧ ∀ type device',
        gauge (modify "devices" (deviceLabels device) f r₁) (gaugeName type) device' =
          gauge r (gaugeName type) device' := by
      refine fun f => ⟨fun type => modify_reserved (hfree₁ type), fun type device' => ?_⟩
      rw [gauge_modify hfamily, if_neg fun hset => hne type hset.1, gauge_register hregister]
    split_ifs
    · exact hmodify _
    · exact hmodify _
    · exact ⟨hfree₁, fun type device' => gauge_register hregister _ _⟩

lemma message_shown {r : Registry} (h : Free r) {m : Message} (hnul : cString m.device = m.device) :
    Free (handle r m.telemetry) ∧ ∀ type device,
      gauge (handle r m.telemetry) (gaugeName type) device =
        (m.reports type device).or (gauge r (gaugeName type) device) := by
  cases m with
  | tick device event built =>
    change cString device = device at hnul
    obtain ⟨r', hloop, hfree, hgauge⟩ :=
      members_shown event hnul [.ambient, .cpu, .gpu] h
    rw [Message.telemetry, handle_tick built, hloop]
    refine ⟨hfree, fun type device' => ?_⟩
    have htype : type ∈ [SensorType.ambient, .cpu, .gpu] := by cases type <;> decide
    rw [hgauge, Message.reports]
    by_cases hdevice : device' = device
    · rw [if_pos ⟨htype, hdevice⟩, if_pos hdevice.symm]
    · rw [if_neg fun hset => hdevice hset.2, if_neg (Ne.symm hdevice)]
      rfl
  | status device word => exact status_shown h device word

/-! ## Runs -/

lemma receive_shown {messages : List Message} (hnul : ∀ m ∈ messages, cString m.device = m.device)
    {r : Registry} (h : Free r) (type : SensorType) (device : String) :
    gauge (receive r messages) (gaugeName type) device =
      (lastTemperature type device messages).or (gauge r (gaugeName type) device) := by
  induction messages generalizing r with
  | nil => rfl
  | cons m messages ih =>
    rw [List.forall_mem_cons] at hnul
    obtain ⟨hfree, hgauge⟩ := message_shown h hnul.1
    have hlast : lastTemperature type device (m :: messages) =
        (lastTemperature type device messages).or (m.reports type device) := by
      rw [lastTemperature, List.reverse_cons, List.findSome?_append, List.findSome?_singleton]
      rfl
    rw [hlast, Option.or_assoc, ← hgauge]
    exact ih hnul.2 hfree

/-- However the ticks and the statuses of the devices come, each gauge of a temperature shows what
its device has measured last. -/
theorem gauges_show_ticks {messages : List Message}
    (hnul : ∀ m ∈ messages, cString m.device = m.device) (type : SensorType) (device : String) :
    gauge (receive ∅ messages) (gaugeName type) device = lastTemperature type device messages := by
  have hfree : Free ∅ := fun type family hfamily => nomatch hfamily
  rw [receive_shown hnul hfree]
  exact Option.or_none

/-- The integer at the start of a text. -/
def leadingInteger (text : String) : Except String ℚ :=
  match DecimalText.intValue (text.toList.takeWhile Char.isDigit) with
  | some n => .ok n
  | none => .error "stod"

/-- A tick of a machine whose file has this content. -/
def piTick (content : String) {n : ℚ} (h : leadingInteger content = .ok n) : Message :=
  .tick "rpi-robot" ⟨some (degrees n), none, none⟩ (.pi leadingInteger (some content) _
    (by rw [piEvent, piTemperature, h]; rfl))

theorem gauges_show_ticks_robot :
    gauge (receive ∅ [.status "rpi-robot" "online", piTick "48312\n" (n := 48312) rfl,
        piTick "48856\n" (n := 48856) rfl]) (gaugeName .cpu) "rpi-robot" =
      some (degrees 48856) :=
  @gauges_show_ticks [.status "rpi-robot" "online", piTick "48312\n" rfl, piTick "48856\n" rfl]
    (by simp [Message.device, piTick]; decide) .cpu "rpi-robot"

end MonitorPipeline
