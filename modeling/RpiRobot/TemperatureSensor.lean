import RpiRobot.MonitorEvents
import RpiRobot.OwnedHandles
import RpiRobot.SmcKeys

/-!
# The temperature sensor

`TemperatureSensor` asks the SMC on a Mac, after opening a connection to it each time, and reads a
file of the kernel elsewhere. The monitor puts the three temperatures into an event.
-/

namespace TemperatureSensor

open BinaryRounding MonitorEvents OwnedHandles SmcKeys

inductive SensorType where
  | cpu
  | gpu
  | ambient
  deriving DecidableEq

/-! ## On a Mac -/

/-- What the calls of the kernel hand out. -/
inductive Handle where
  | iterator (n : Nat)
  | device (n : Nat)
  | connection (n : Nat)
  deriving DecidableEq

/-- What the calls of one `SMCOpen` return, unless they fail. -/
structure Kernel where
  matching : Option Nat
  next : Option Nat
  open_ : Option Nat

/-- The connection, and the calls that have opened and closed handles. -/
structure Mac where
  conn : Option Nat
  calls : List (Call Handle)

def Mac.init : Mac := ⟨none, []⟩

/-- The device and the connection to it. -/
def openDevice (k : Kernel) (device : Nat) (s : Mac) : Mac :=
  match k.open_ with
  | some c => ⟨some c, s.calls ++ [.opened (.connection c), .closed (.device device)]⟩
  | none => { s with calls := s.calls ++ [.closed (.device device)] }

def SMCOpen (k : Kernel) (s : Mac) : Mac :=
  match k.matching with
  | none => s
  | some iterator =>
    match k.next with
    | none => { s with calls := s.calls ++ [.opened (.iterator iterator),
        .closed (.iterator iterator)] }
    | some device => openDevice k device { s with
        calls := s.calls ++ [.opened (.iterator iterator), .opened (.device device),
          .closed (.iterator iterator)] }

def SensorType.key : SensorType → Key
  | .cpu => ofChars 'T' 'C' '0' 'P'
  | .gpu => ofChars 'T' 'G' '0' 'P'
  | .ambient => ofChars 'T' 'A' '0' 'V'

/-- Whether the connection could be opened is not asked. -/
def macTemperature (call : Option Nat → SMCCall) (k : Kernel) (type : SensorType) (s : Mac) :
    Option ℚ × Mac :=
  let s := SMCOpen k s
  (some (SMCGetTemperature (call s.conn) type.key), s)

/-- The three readings of a tick, one after the other. -/
structure Openings where
  cpu : Kernel
  gpu : Kernel
  ambient : Kernel

def macTick (call : Option Nat → SMCCall) (k : Openings) (s : Mac) : SystemInfoEvent × Mac :=
  let (cpuTemp, s) := macTemperature call k.cpu .cpu s
  let (gpuTemp, s) := macTemperature call k.gpu .gpu s
  let (ambientTemp, s) := macTemperature call k.ambient .ambient s
  (⟨cpuTemp, gpuTemp, ambientTemp⟩, s)

/-- Some ticks of the monitor. -/
def macRun (call : Option Nat → SMCCall) (s : Mac) (ticks : List Openings) : Mac :=
  ticks.foldl (fun s k => (macTick call k s).2) s

/-! ## Elsewhere -/

/-- The nearest integer, and the one farther from zero of two. -/
def roundAway (q : ℚ) : ℤ := if 0 ≤ q then ⌊q + 1 / 2⌋ else -⌊-q + 1 / 2⌋

/-- From thousandths of a degree, in `double`. -/
def degrees (reading : ℚ) : ℚ :=
  binary64.round (roundAway (binary64.round (binary64.round (reading / 1000) * 100)) / 100)

/-- `content` is that of the file, if it can be opened. -/
def piTemperature {E : Type} (stod : String → Except E ℚ) (content : Option String) :
    SensorType → Except E (Option ℚ)
  | .cpu =>
    match content with
    | some text => (stod text).map fun reading => some (degrees reading)
    | none => .ok none
  | _ => .ok none

def piEvent {E : Type} (stod : String → Except E ℚ) (content : Option String) :
    Except E SystemInfoEvent := do
  let cpuTemp ← piTemperature stod content .cpu
  let gpuTemp ← piTemperature stod content .gpu
  let ambientTemp ← piTemperature stod content .ambient
  return ⟨cpuTemp, gpuTemp, ambientTemp⟩

/-! ## Handles -/

/-- The connection that an opening leaves open. -/
def Kernel.connects (k : Kernel) : Option Nat :=
  k.matching.bind fun _ => k.next.bind fun _ => k.open_

/-- The calls of one opening. -/
def openCalls (k : Kernel) : List (Call Handle) :=
  match k.matching with
  | none => []
  | some iterator =>
    match k.next with
    | none => [.opened (.iterator iterator), .closed (.iterator iterator)]
    | some device =>
      [.opened (.iterator iterator), .opened (.device device), .closed (.iterator iterator)] ++
        match k.open_ with
        | some c => [.opened (.connection c), .closed (.device device)]
        | none => [.closed (.device device)]

lemma SMCOpen_calls (k : Kernel) (s : Mac) : (SMCOpen k s).calls = s.calls ++ openCalls k := by
  rw [SMCOpen, openCalls]
  cases k.matching with
  | none => exact (List.append_nil _).symm
  | some iterator =>
    cases k.next with
    | none => rfl
    | some device =>
      simp only [openDevice]
      cases k.open_ <;> simp only [List.append_assoc]

lemma settled_append {h : Handle} {log more : List (Call Handle)} (hlog : Settled h log)
    (hmore : Settled h more) : Settled h (log ++ more) := by
  obtain ⟨k, hk⟩ := hlog
  obtain ⟨l, hl⟩ := hmore
  refine ⟨k + l, ?_⟩
  rw [callsOn_append, hk, hl, pairs, pairs, pairs, List.replicate_add, List.flatten_append]

/-- The iterator and the device are released on every path. -/
lemma openCalls_settled (k : Kernel) (n : Nat) :
    Settled (.iterator n) (openCalls k) ∧ Settled (.device n) (openCalls k) := by
  have hboth : ∀ {h : Handle} {log : List (Call Handle)},
      callsOn h log = [] ∨ callsOn h log = [.opened h, .closed h] → Settled h log := by
    rintro h log (hlog | hlog)
    · exact ⟨0, hlog⟩
    · exact ⟨1, hlog⟩
  obtain ⟨matching, next, open_⟩ := k
  rcases matching with _ | iterator
  · exact ⟨settled_nil _, settled_nil _⟩
  · rcases next with _ | device
    · constructor
      · by_cases hn : iterator = n <;> exact hboth (by simp [openCalls, callsOn, Call.handle, hn])
      · exact hboth (by simp [openCalls, callsOn, Call.handle])
    · constructor
      · by_cases hn : iterator = n <;> cases open_ <;>
          exact hboth (by simp [openCalls, callsOn, Call.handle, hn])
      · by_cases hn : device = n <;> cases open_ <;>
          exact hboth (by simp [openCalls, callsOn, Call.handle, hn])

/-- The connection is not closed. -/
lemma openCalls_pending (k : Kernel) (c : Nat) :
    pending (.connection c) (openCalls k) = if k.connects = some c then 1 else 0 := by
  obtain ⟨matching, next, open_⟩ := k
  rcases matching with _ | iterator
  · rfl
  · rcases next with _ | device
    · simp [openCalls, pending, Kernel.connects]
    · rcases open_ with _ | c'
      · simp [openCalls, pending, Kernel.connects]
      · by_cases hc : c' = c <;> simp [openCalls, pending, Kernel.connects, hc]

/-- The openings of some ticks. -/
def openings (ticks : List Openings) : List Kernel :=
  ticks.flatMap fun k => [k.cpu, k.gpu, k.ambient]

lemma macRun_calls (call : Option Nat → SMCCall) (s : Mac) (ticks : List Openings) :
    (macRun call s ticks).calls = s.calls ++ (openings ticks).flatMap openCalls := by
  induction ticks generalizing s with
  | nil => exact (List.append_nil _).symm
  | cons k ticks ih =>
    have htick : (macTick call k s).2.calls =
        s.calls ++ (openCalls k.cpu ++ openCalls k.gpu ++ openCalls k.ambient) := by
      change (SMCOpen k.ambient (SMCOpen k.gpu (SMCOpen k.cpu s))).calls = _
      simp only [SMCOpen_calls, List.append_assoc]
    change (macRun call (macTick call k s).2 ticks).calls = _
    rw [ih, htick]
    simp only [openings, List.flatMap_cons, List.cons_append, List.nil_append, List.append_assoc]

/-- After any number of ticks, all iterators and devices have been released, but every connection
that was opened still is: one more of it for each time that it was opened. -/
theorem connections_stay_open (call : Option Nat → SMCCall) (ticks : List Openings) :
    let log := (macRun call .init ticks).calls
    (∀ n, Settled (.iterator n) log ∧ Settled (.device n) log) ∧
    ∀ c, pending (.connection c) log =
      (openings ticks).countP fun k => decide (k.connects = some c) := by
  intro log
  have hlog : log = (openings ticks).flatMap openCalls := macRun_calls call .init ticks
  rw [hlog]
  constructor
  · intro n
    induction openings ticks with
    | nil => exact ⟨settled_nil _, settled_nil _⟩
    | cons k ks ih =>
      have hk := openCalls_settled k n
      exact ⟨settled_append hk.1 ih.1, settled_append hk.2 ih.2⟩
  · intro c
    induction openings ticks with
    | nil => rfl
    | cons k ks ih =>
      rw [List.flatMap_cons, pending_append, openCalls_pending, ih, List.countP_cons]
      by_cases hc : k.connects = some c
      · rw [if_pos hc, if_pos (decide_eq_true hc)]
        push_cast
        omega
      · rw [if_neg hc, if_neg (by simpa using hc)]
        push_cast
        omega

/-! ## Events -/

/-- A temperature of the SMC has few digits. -/
lemma smc_holds (call : SMCCall) (key : Key) : binary32.Holds (SMCGetTemperature call key) := by
  have hzero : binary32.Holds 0 := ⟨0, 0, by norm_num, by decide, by norm_num⟩
  rw [SMCGetTemperature, getValue]
  split
  · rename_i val _
    split_ifs
    · have hhigh := (val.bytes 0).property
      have hlow : (val.bytes 1).toUnsigned < 256 := by
        rw [SChar.toUnsigned]
        omega
      refine ⟨(val.bytes 0).val * 256 + (val.bytes 1).toUnsigned, -8, ?_, by decide, ?_⟩
      · rw [abs_lt]
        norm_num [binary32]
        omega
      · norm_num [zpow_neg, div_eq_mul_inv]
    · exact hzero
  · exact hzero

lemma mac_event (call : Option Nat → SMCCall) (k : Openings) (s : Mac) :
    ∃ cpu gpu ambient, (macTick call k s).1 = ⟨some cpu, some gpu, some ambient⟩ ∧
      binary32.Holds gpu := by
  refine ⟨_, _, _, rfl, ?_⟩
  exact smc_holds _ _

lemma pi_event {E : Type} {stod : String → Except E ℚ} {content : Option String}
    {e : SystemInfoEvent} (h : piEvent stod content = .ok e) :
    e.gpuTemp = none ∧ e.ambientTemp = none := by
  cases hcpu : piTemperature stod content .cpu with
  | error err =>
    rw [piEvent, hcpu] at h
    exact nomatch h
  | ok cpu =>
    rw [piEvent, hcpu] at h
    obtain rfl := Except.ok.inj h
    exact ⟨rfl, rfl⟩

/-- Every event of the monitor is encoded. On a Mac it is decoded without the temperature of the
surroundings, and elsewhere as it was. -/
theorem events_received {readOptional : Json → Except String (Option ℚ)}
    (hread : ∀ q, readOptional (.float q) = .ok (some q)) :
    (∀ (call : Option Nat → SMCCall) (k : Openings) (s : Mac),
      ∃ j, (macTick call k s).1.toJson = .ok j ∧
        fromJson readOptional j .init = .ok { (macTick call k s).1 with ambientTemp := none }) ∧
    ∀ (stod : String → Except String ℚ) (content : Option String) (e : SystemInfoEvent),
      piEvent stod content = .ok e → Survives readOptional e := by
  constructor
  · intro call k s
    obtain ⟨cpu, gpu, ambient, hevent, hgpu⟩ := mac_event call k s
    obtain ⟨j, hencoded, hdecoded⟩ :=
      toJson_received hread (e := ⟨some cpu, some gpu, some ambient⟩)
      fun _ => rfl
    rw [received_float (e := ⟨some cpu, some gpu, some ambient⟩) (by simp [hgpu])] at hdecoded
    exact ⟨j, hevent ▸ hencoded, hevent ▸ hdecoded⟩
  · intro stod content e h
    obtain ⟨hgpu, hambient⟩ := pi_event h
    obtain ⟨j, hencoded, hdecoded⟩ := toJson_received hread (e := e) fun hsome => by
      rw [hgpu] at hsome
      cases hsome
    have hsame : received e = e := by
      rw [received_float (by simp [hgpu]), ← hambient]
    exact ⟨j, hencoded, hsame ▸ hdecoded⟩

theorem events_received_number :
    ∃ j, (macTick (fun _ => cpuCall) ⟨⟨some 1, some 2, some 3⟩, ⟨none, none, none⟩,
        ⟨none, none, none⟩⟩ .init).1.toJson = .ok j ∧
      fromJson (JsonRpcHandler.getOptional (JsonRpcHandler.getAs "number" getDouble)) j .init =
        .ok { (macTick (fun _ => cpuCall) ⟨⟨some 1, some 2, some 3⟩, ⟨none, none, none⟩,
          ⟨none, none, none⟩⟩ .init).1 with ambientTemp := none } :=
  (events_received fun _ => rfl).1 (fun _ => cpuCall) _ _

/-! ## Degrees -/

lemma roundAway_near (q : ℚ) : |(roundAway q : ℚ) - q| ≤ 1 / 2 := by
  have hlow := Int.floor_le (q + 1 / 2)
  have hhigh := Int.lt_floor_add_one (q + 1 / 2)
  have hlow' := Int.floor_le (-q + 1 / 2)
  have hhigh' := Int.lt_floor_add_one (-q + 1 / 2)
  rw [roundAway, abs_le]
  split_ifs <;> push_cast <;> constructor <;> linarith

/-- The two roundings before the last one are far finer than a tenth. -/
lemma hundredths_near {n : ℤ} (hn : |n| ≤ 10 ^ 9) :
    |binary64.round (binary64.round ((n : ℚ) / 1000) * 100) - n / 10| ≤ 1 / 1000 := by
  have hreading : |(n : ℚ)| ≤ 10 ^ 9 := by exact_mod_cast hn
  obtain ⟨hlow, hhigh⟩ := abs_le.mp hreading
  have hfirst : |binary64.round ((n : ℚ) / 1000) - n / 1000| ≤ 2 ^ (20 - 53 : ℤ) / 2 := by
    refine Format.round_near (F := binary64) (by norm_num) (by decide) ?_
    rw [abs_lt]
    norm_num
    constructor <;> linarith
  obtain ⟨hfirst, hfirst'⟩ := abs_le.mp hfirst
  norm_num at hfirst hfirst'
  have hsecond : |binary64.round (binary64.round ((n : ℚ) / 1000) * 100) -
      binary64.round ((n : ℚ) / 1000) * 100| ≤ 2 ^ (27 - 53 : ℤ) / 2 := by
    refine Format.round_near (F := binary64) (by norm_num) (by decide) ?_
    rw [abs_lt]
    norm_num
    constructor <;> linarith
  obtain ⟨hsecond, hsecond'⟩ := abs_le.mp hsecond
  norm_num at hsecond hsecond'
  rw [abs_le]
  constructor <;> linarith

/-- A reading in thousandths of a degree is reported in hundredths, and by at most half of one of
them off, whatever is rounded on the way. -/
theorem pi_reading {E : Type} {stod : String → Except E ℚ} {text : String} {n : ℤ}
    (htext : stod text = .ok n) (hn : |n| ≤ 10 ^ 9) :
    ∃ k : ℤ, piEvent stod (some text) = .ok ⟨some (binary64.round (k / 100)), none, none⟩ ∧
      |10 * k - n| ≤ 5 := by
  refine ⟨roundAway (binary64.round (binary64.round ((n : ℚ) / 1000) * 100)), ?_, ?_⟩
  · rw [piEvent, piTemperature, htext]
    rfl
  · have hnear := abs_le.mp (hundredths_near hn)
    have hround := abs_le.mp (roundAway_near
      (binary64.round (binary64.round ((n : ℚ) / 1000) * 100)))
    generalize binary64.round (binary64.round ((n : ℚ) / 1000) * 100) = q at hnear hround ⊢
    have hlow : (-6 : ℚ) < 10 * roundAway q - n := by linarith [hnear.1, hround.1]
    have hhigh : 10 * (roundAway q : ℚ) - n < 6 := by linarith [hnear.2, hround.2]
    have hlow' : (-6 : ℤ) < 10 * roundAway q - n := by exact_mod_cast hlow
    have hhigh' : 10 * roundAway q - n < (6 : ℤ) := by exact_mod_cast hhigh
    rw [abs_le]
    omega

/-- The file has the reading and a line end. -/
def oneReading (text : String) : Except Unit ℚ := if text = "48312\n" then .ok 48312 else .error ()

theorem pi_reading_one :
    ∃ k : ℤ, piEvent oneReading (some "48312\n") =
        .ok ⟨some (binary64.round (k / 100)), none, none⟩ ∧ |10 * k - 48312| ≤ 5 :=
  @pi_reading Unit oneReading "48312\n" 48312 rfl (by decide)

end TemperatureSensor
