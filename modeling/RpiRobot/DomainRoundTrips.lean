import RpiRobot.DomainObjects

/-!
# Domain objects through JSON

What the generated `to_json` of a domain object writes its `from_json` reads. Every member of
the registries, the devices and the telemetry is listed, but not the status of a configuration:
it comes back as a new configuration has it.
-/

namespace DomainRoundTrips

open DecimalText (intMin intMax)
open DomainObjects

/-! ## Values of the C++ types -/

def IsLong (n : Int) : Prop := -(2 ^ 63) ≤ n ∧ n < 2 ^ 63

def IsInt (n : Int) : Prop := intMin ≤ n ∧ n ≤ intMax

instance (n : Int) : Decidable (IsLong n) := inferInstanceAs (Decidable (_ ∧ _))

instance (n : Int) : Decidable (IsInt n) := inferInstanceAs (Decidable (_ ∧ _))

lemma getLong_integer {n : Int} (h : IsLong n) : getLong (.integer n) = some n := by
  rw [IsLong] at h
  exact congrArg some (Int.bmod_eq_of_le (by omega) (by omega))

lemma getInt_integer {n : Int} (h : IsInt n) : getInt (.integer n) = some n := by
  rw [IsInt, intMin, intMax] at h
  exact congrArg some (Int.bmod_eq_of_le (by omega) (by omega))

structure RegistryTyped (r : RegistryDo) : Prop where
  id : IsLong r.id
  status : IsInt r.status

structure ConfigurationTyped (o : DeviceConfigurationDo) : Prop where
  id : IsLong o.id
  deviceId : IsLong o.deviceId
  status : IsInt o.status

structure DeviceTyped (o : DeviceDo) : Prop where
  id : IsLong o.id
  registryId : IsLong o.registryId
  status : IsInt o.status
  configuration : ∀ c ∈ o.configuration, ConfigurationTyped c

structure TelemetryTyped (o : DeviceTelemetryDo) : Prop where
  id : IsLong o.id
  deviceId : IsLong o.deviceId
  refDevice : DeviceTyped o.refDevice

/-! ## What comes back -/

/-- The configuration with the status of a new one. -/
def unstated (c : DeviceConfigurationDo) : DeviceConfigurationDo := { c with status := 0 }

/-- The device with such configurations. -/
def received (o : DeviceDo) : DeviceDo := { o with configuration := o.configuration.map unstated }

lemma configuration_received {c : DeviceConfigurationDo} (h : ConfigurationTyped c) :
    DeviceConfigurationDo.fromJson c.toJson = some (unstated c) := by
  change (getLong (.integer c.id)).bind (fun id => (getLong (.integer c.deviceId)).bind
    fun deviceId => some (DeviceConfigurationDo.mk id deviceId c.createdAt c.updatedAt 0
      c.jsonData)) = _
  rw [getLong_integer h.id, getLong_integer h.deviceId]
  rfl

/-- Item by item. -/
lemma mapM_received {α β γ : Type} {f : β → Option γ} {g : α → β} {k : α → γ} {items : List α}
    (h : ∀ x ∈ items, f (g x) = some (k x)) : (items.map g).mapM f = some (items.map k) := by
  induction items with
  | nil => rfl
  | cons x items ih =>
    have hrest := ih fun y hy => h y (List.mem_cons_of_mem x hy)
    rw [List.map_cons, List.mapM_cons, h x List.mem_cons_self, hrest]
    rfl

lemma device_received {o : DeviceDo} (h : DeviceTyped o) :
    DeviceDo.fromJson o.toJson = some (received o) := by
  have hitems := mapM_received fun c hc => configuration_received (h.configuration c hc)
  change (getLong (.integer o.id)).bind (fun id => (getLong (.integer o.registryId)).bind
    fun registryId => (getInt (.integer o.status)).bind fun status =>
      ((o.configuration.map DeviceConfigurationDo.toJson).mapM
        DeviceConfigurationDo.fromJson).bind fun configuration =>
        some (DeviceDo.mk id registryId o.createdAt o.updatedAt o.name o.uuid status o.jsonData
          configuration)) = _
  rw [getLong_integer h.id, getLong_integer h.registryId, getInt_integer h.status, hitems]
  rfl

lemma telemetry_received {o : DeviceTelemetryDo} (h : TelemetryTyped o) :
    DeviceTelemetryDo.fromJson o.toJson = some { o with refDevice := received o.refDevice } := by
  change (getLong (.integer o.id)).bind (fun id => (getLong (.integer o.deviceId)).bind
    fun deviceId => (DeviceDo.fromJson o.refDevice.toJson).bind fun refDevice =>
      some (DeviceTelemetryDo.mk id deviceId refDevice o.createdAt o.jsonData)) = _
  rw [getLong_integer h.id, getLong_integer h.deviceId, device_received h.refDevice]
  rfl

lemma registry_received {r : RegistryDo} (h : RegistryTyped r) :
    RegistryDo.fromJson r.toJson = some r :=
  fromJson_toJson h.id h.status

/-! ## Round trips -/

/-- The status of every configuration is that of a new one. -/
def Unstated (o : DeviceDo) : Prop := ∀ c ∈ o.configuration, c.status = 0

instance (o : DeviceDo) : Decidable (Unstated o) :=
  inferInstanceAs (Decidable (∀ c ∈ o.configuration, _))

lemma unstated_eq_iff {c : DeviceConfigurationDo} : unstated c = c ↔ c.status = 0 := by
  obtain ⟨id, deviceId, createdAt, updatedAt, status, jsonData⟩ := c
  simp [unstated, eq_comm]

lemma map_unstated_iff {items : List DeviceConfigurationDo} :
    items.map unstated = items ↔ ∀ c ∈ items, c.status = 0 := by
  induction items with
  | nil => simp
  | cons c items ih =>
    rw [List.map_cons, List.cons.injEq, unstated_eq_iff, ih, List.forall_mem_cons]

lemma received_eq_iff {o : DeviceDo} : received o = o ↔ Unstated o := by
  rw [Unstated, ← map_unstated_iff]
  exact ⟨fun h => congrArg DeviceDo.configuration h, fun h => by rw [received, h]⟩

/-- Registries come back as they were, and devices and telemetry just if no configuration of
the device has a status. -/
theorem survives_iff {r : RegistryDo} {o : DeviceDo} {t : DeviceTelemetryDo}
    (hr : RegistryTyped r) (ho : DeviceTyped o) (ht : TelemetryTyped t) :
    RegistryDo.fromJson r.toJson = some r ∧
      (DeviceDo.fromJson o.toJson = some o ↔ Unstated o) ∧
      (DeviceTelemetryDo.fromJson t.toJson = some t ↔ Unstated t.refDevice) := by
  refine ⟨registry_received hr, ?_, ?_⟩
  · rw [device_received ho, Option.some.injEq, received_eq_iff]
  · rw [telemetry_received ht, Option.some.injEq, ← received_eq_iff]
    obtain ⟨id, deviceId, refDevice, createdAt, jsonData⟩ := t
    simp

def lamp (status : Int) : DeviceDo :=
  ⟨7, 1, "2023-04-11 10:00:00", "2023-04-11 10:00:00", "lamp", "", 1, .null,
    [⟨3, 7, "2023-04-12 10:00:00", "2023-04-12 10:00:00", status, .boolean true⟩]⟩

lemma lamp_typed {status : Int} (h : IsInt status) : DeviceTyped (lamp status) := by
  have hseven : IsLong 7 := by decide
  have hone : IsLong 1 := by decide
  have hthree : IsLong 3 := by decide
  have hactive : IsInt 1 := by decide
  refine ⟨hseven, hone, hactive, fun c hc => ?_⟩
  obtain rfl := List.mem_singleton.mp hc
  exact ⟨hthree, hseven, h⟩

theorem survives_iff_lamp :
    RegistryDo.fromJson (RegistryDo.toJson ⟨1, "2023-03-20 10:00:00", "home", "", 1, .null⟩) =
        some ⟨1, "2023-03-20 10:00:00", "home", "", 1, .null⟩ ∧
      (DeviceDo.fromJson (lamp 0).toJson = some (lamp 0) ↔ Unstated (lamp 0)) ∧
      (DeviceTelemetryDo.fromJson
          (DeviceTelemetryDo.toJson ⟨9, 7, lamp 0, "2023-04-13 10:00:00", .integer 21⟩) =
          some ⟨9, 7, lamp 0, "2023-04-13 10:00:00", .integer 21⟩ ↔ Unstated (lamp 0)) :=
  survives_iff ⟨by decide, by decide⟩ (lamp_typed (by decide))
    ⟨by decide, by decide, lamp_typed (by decide)⟩

/-- A configuration with the status 1 comes back with the status 0. -/
theorem status_lost :
    DeviceTyped (lamp 1) ∧ DeviceDo.fromJson (lamp 1).toJson = some (lamp 0) ∧
      lamp 1 ≠ lamp 0 := by
  have htyped : DeviceTyped (lamp 1) := lamp_typed (by decide)
  refine ⟨htyped, device_received htyped, fun heq => ?_⟩
  have hstatus := congrArg (fun o : DeviceDo => o.configuration.map DeviceConfigurationDo.status)
    heq
  exact absurd hstatus (by decide)

end DomainRoundTrips
