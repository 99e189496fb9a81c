import RpiRobot.BinaryRounding
import RpiRobot.JsonRpcHandler

/-!
# Events of the monitor through JSON

`SystemInfoEvent` has a temperature each for the processor, the graphics and the surroundings,
and any of them may be missing. `to_json` asks for that of the graphics before it writes that of
the surroundings, and `from_json` does not read the latter. The reader of an optional number is
a parameter.
-/

namespace MonitorEvents

open BinaryRounding
open JsonRpcHandler (getAs getOptional)

structure SystemInfoEvent where
  cpuTemp : Option ℚ
  gpuTemp : Option ℚ
  ambientTemp : Option ℚ
  deriving DecidableEq

def SystemInfoEvent.init : SystemInfoEvent := ⟨none, none, none⟩

/-! ## Encoding -/

/-- `optional::value`. -/
def valueOf : Option ℚ → Except String ℚ
  | some temp => .ok temp
  | none => .error "bad optional access"

def member (key : String) (temp : Option ℚ) : List (String × Json) :=
  (temp.map fun t => (key, Json.float t)).toList

/-- The value is null before its first member is assigned. -/
def ofMembers (members : List (String × Json)) : Json :=
  if members.isEmpty then .null else .object members

/-- An object keeps its members in the order of their keys. -/
def SystemInfoEvent.toJson (e : SystemInfoEvent) : Except String Json := do
  let cpu := member "cpu-temp" e.cpuTemp
  let gpu := member "gpu-temp" e.gpuTemp
  -- whether there is a temperature of the surroundings is not asked
  let ambient ← if e.gpuTemp.isSome then
      (valueOf e.ambientTemp).map fun temp => [("ambient-temp", Json.float temp)]
    else .ok []
  return ofMembers (ambient ++ cpu ++ gpu)

/-! ## Decoding -/

/-- `get<float>`, which also takes a boolean. -/
def getFloat : Json → Option ℚ
  | .integer n => some (binary32.round n)
  | .float q => some (binary32.round q)
  | .boolean b => some (if b then 1 else 0)
  | _ => none

/-- `get<double>`. An integer is rounded, which makes no difference for one of 53 digits. -/
def getDouble : Json → Option ℚ
  | .integer n => some ((⟨53, -1074⟩ : Format).round n)
  | .float q => some q
  | _ => none

section
variable (readOptional : Json → Except String (Option ℚ))

def readCpu (j : Json) (e : SystemInfoEvent) : Except String SystemInfoEvent :=
  match j.member? "cpu-temp" with
  | some found => (readOptional found).map fun temp =>
    if temp.isSome then { e with cpuTemp := temp } else e
  | none => .ok e

def readGpu (j : Json) (e : SystemInfoEvent) : Except String SystemInfoEvent :=
  match j.member? "gpu-temp" with
  | some found => (getAs "number" getFloat found).map fun temp => { e with gpuTemp := some temp }
  | none => .ok e

def fromJson (j : Json) (e : SystemInfoEvent) : Except String SystemInfoEvent := do
  readGpu j (← readCpu readOptional j e)

/-- The event is encoded without an exception, and comes back as it was. -/
def Survives (e : SystemInfoEvent) : Prop :=
  ∃ j, e.toJson = .ok j ∧ fromJson readOptional j .init = .ok e

end

/-! ## What comes back -/

/-- What is left of an event: the temperature of the graphics as a `float`, and none of the
surroundings. -/
def received (e : SystemInfoEvent) : SystemInfoEvent :=
  ⟨e.cpuTemp, e.gpuTemp.map binary32.round, none⟩

/-- There is a temperature of the surroundings if there is one of the graphics. -/
def Encodable (e : SystemInfoEvent) : Prop := e.gpuTemp.isSome = true → e.ambientTemp.isSome = true

variable {e : SystemInfoEvent}

lemma toJson_throws (h : ¬ Encodable e) : e.toJson = .error "bad optional access" := by
  obtain ⟨cpu, gpu, ambient⟩ := e
  rcases gpu with _ | gpu
  · exact absurd (fun hgpu => nomatch hgpu) h
  · rcases ambient with _ | ambient
    · rfl
    · exact absurd (fun _ => rfl) h

lemma toJson_received {readOptional : Json → Except String (Option ℚ)}
    (hread : ∀ q, readOptional (.float q) = .ok (some q)) (h : Encodable e) :
    ∃ j, e.toJson = .ok j ∧ fromJson readOptional j .init = .ok (received e) := by
  obtain ⟨cpu, gpu, ambient⟩ := e
  rcases gpu with _ | gpu
  · rcases cpu with _ | cpu
    · exact ⟨_, rfl, rfl⟩
    · refine ⟨_, rfl, ?_⟩
      change (readOptional (.float cpu)).map _ >>= _ = _
      rw [hread]
      rfl
  · rcases ambient with _ | ambient
    · exact nomatch h rfl
    · rcases cpu with _ | cpu
      · exact ⟨_, rfl, rfl⟩
      · refine ⟨_, rfl, ?_⟩
        change (readOptional (.float cpu)).map _ >>= _ = _
        rw [hread]
        rfl

/-- A `float` comes back as it was. -/
lemma received_float (h : ∀ temp ∈ e.gpuTemp, binary32.Holds temp) :
    received e = { e with ambientTemp := none } := by
  obtain ⟨cpu, gpu, ambient⟩ := e
  rcases gpu with _ | gpu
  · rfl
  · rw [received, Option.map_some, Format.round_eq_self (h gpu rfl)]

/-- The event survives just if it has no temperature but that of the processor. -/
theorem event_survives_iff {readOptional : Json → Except String (Option ℚ)}
    (hread : ∀ q, readOptional (.float q) = .ok (some q)) (e : SystemInfoEvent) :
    Survives readOptional e ↔ e.gpuTemp = none ∧ e.ambientTemp = none := by
  constructor
  · rintro ⟨j, hencoded, hdecoded⟩
    have hencodable : Encodable e := by
      by_contra hnot
      rw [toJson_throws hnot] at hencoded
      cases hencoded
    obtain ⟨j', hencoded', hreceived⟩ := toJson_received hread hencodable
    obtain rfl := Except.ok.inj (hencoded.symm.trans hencoded')
    have hsame := Except.ok.inj (hdecoded.symm.trans hreceived)
    have hambient : e.ambientTemp = none := congrArg SystemInfoEvent.ambientTemp hsame
    refine ⟨?_, hambient⟩
    by_contra hgpu
    have hsome := hencodable (Option.isSome_iff_ne_none.mpr hgpu)
    rw [hambient] at hsome
    cases hsome
  · rintro ⟨hgpu, hambient⟩
    obtain ⟨j, hencoded, hreceived⟩ := toJson_received hread (e := e) fun hsome => by
      rw [hgpu] at hsome
      cases hsome
    have hsame : received e = e := by
      rw [received_float (by simp [hgpu]), ← hambient]
    exact ⟨j, hencoded, hsame ▸ hreceived⟩

/-- The robot measures the processor alone. -/
theorem event_survives_iff_robot :
    Survives (getOptional (getAs "number" getDouble)) ⟨some 48.5, none, none⟩ ↔
      (⟨some 48.5, none, none⟩ : SystemInfoEvent).gpuTemp = none ∧
        (⟨some 48.5, none, none⟩ : SystemInfoEvent).ambientTemp = none :=
  event_survives_iff (fun _ => rfl) _

/-- With a temperature of the graphics alone the encoder throws. -/
theorem graphics_throws :
    SystemInfoEvent.toJson ⟨some 48.5, some 50, none⟩ = .error "bad optional access" := rfl

end MonitorEvents
