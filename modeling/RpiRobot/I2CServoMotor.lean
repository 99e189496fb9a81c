import Mathlib.Data.Rat.Floor
import RpiRobot.DCMotor

/-!
# The servo

`I2CServoMotor` sets the pulse of a servo by two registers of a PWM chip, the low byte of the count
first. A transfer over the bus may fail, and its result is not looked at. The number of the channel
is taken as it is configured, and the number of a register is cut to a byte.
-/

namespace I2CServoMotor

open DCMotor (Axis JoystickEvent)

/-! ## The bus -/

/-- The bytes of the registers of the chip. -/
abbrev Registers := Nat → Nat

structure Transfer where
  reg : Nat
  byte : Nat
  deriving DecidableEq

def MODE1 : Int := 0x00

def PRESCALE : Int := 0xFE

def LED0_OFF_L : Int := 0x08

def LED0_OFF_H : Int := 0x09

/-- Numbers of registers and values are cut to bytes. -/
def writeReg8 (reg value : Int) : Transfer := ⟨(reg % 256).toNat, (value % 256).toNat⟩

def readReg8 (r : Registers) (reg : Int) (ok : Bool) : Int :=
  if ok then r (reg % 256).toNat else -1

/-- A transfer that fails changes nothing. -/
def send (r : Registers) (t : Transfer) (ok : Bool) : Registers :=
  if ok then Function.update r t.reg t.byte else r

/-! ## The service -/

/-- For the numbers that are not negative. -/
def lroundf (q : ℚ) : Int := ⌊q + 1 / 2⌋

/-- The modes are of 32 bits until they are written. -/
def setPWMFreq (freq : Int) (acks : Nat → Bool) (r : Registers) : Registers :=
  let preScale := lroundf (25000000 / (4096 * freq))
  let oldMode := BitVec.ofInt 32 (readReg8 r MODE1 (acks 0))
  let newMode := oldMode &&& 0x7F ||| 0x10
  let r := send r (writeReg8 MODE1 newMode.toInt) (acks 1)
  let r := send r (writeReg8 PRESCALE preScale) (acks 2)
  let r := send r (writeReg8 MODE1 oldMode.toInt) (acks 3)
  send r (writeReg8 MODE1 (oldMode ||| 0x80).toInt) (acks 4)

/-- `off & 0xFF` and `off >> 8`. -/
def setPWM (channel off : Int) : List Transfer :=
  [writeReg8 (LED0_OFF_L + 4 * channel) (off % 256),
    writeReg8 (LED0_OFF_H + 4 * channel) (off / 256)]

def off (pulse : Int) : Int := (pulse * 4096).tdiv 20000

def setServoPulse (channel pulse : Int) : List Transfer := setPWM channel (off pulse)

def pulse (x : Axis) : Int := ((-x.val + 32768) * 2000).tdiv 65535 + 500

def handler (channel : Int) (e : JoystickEvent) : List Transfer :=
  setServoPulse channel (pulse e.axisRightX)

/-- The registers, the transfers that the handler has yet to make, and the events that it has been
called with. -/
structure State where
  registers : Registers
  todo : List Transfer
  events : List JoystickEvent

def postConstruct (acks : Nat → Bool) (r : Registers) : State :=
  ⟨setPWMFreq 50 (fun n => acks (n + 1)) (send r (writeReg8 MODE1 0x00) (acks 0)), [], []⟩

/-- The bus delivers an event when the handler is done with the one before. -/
inductive Step where
  | event (e : JoystickEvent)
  | transfer (ok : Bool)

variable (channel : Int)

def step (s : State) : Step → State
  | .event e =>
    if s.todo = [] then { s with todo := handler channel e, events := s.events ++ [e] } else s
  | .transfer ok =>
    match s.todo with
    | [] => s
    | t :: rest => { s with registers := send s.registers t ok, todo := rest }

def run (s : State) (steps : List Step) : State := steps.foldl (step channel) s

-- All transfers acknowledged: the prescaler of 50 Hz, and the mode with its restart bit.
example : (postConstruct (fun _ => true) fun _ => 0).registers 0xFE = 122 ∧
    (postConstruct (fun _ => true) fun _ => 0).registers 0x00 = 0x80 := by decide +kernel

/-! ## Counts -/

/-- The count that an event asks for. -/
def count (e : JoystickEvent) : Nat := (off (pulse e.axisRightX)).toNat

lemma pulse_range (x : Axis) : 500 ≤ pulse x ∧ pulse x ≤ 2500 := by
  obtain ⟨hlow, hhigh⟩ := x.property
  rw [pulse, Int.tdiv_eq_ediv_of_nonneg (by omega)]
  omega

lemma count_range (e : JoystickEvent) : 102 ≤ count e ∧ count e ≤ 512 ∧
    off (pulse e.axisRightX) = count e := by
  have hpulse := pulse_range e.axisRightX
  rw [count, off, Int.tdiv_eq_ediv_of_nonneg (by omega)]
  omega

/-- The registers of the channel. -/
def lowReg : Nat := ((LED0_OFF_L + 4 * channel) % 256).toNat

def highReg : Nat := ((LED0_OFF_H + 4 * channel) % 256).toNat

lemma handler_eq (e : JoystickEvent) :
    handler channel e = [⟨lowReg channel, count e % 256⟩, ⟨highReg channel, count e / 256⟩] := by
  obtain ⟨hlow, hhigh, hoff⟩ := count_range e
  have hbytes : ((count e : Int) % 256 % 256).toNat = count e % 256 ∧
      ((count e : Int) / 256 % 256).toNat = count e / 256 := by omega
  rw [handler, setServoPulse, hoff, setPWM, writeReg8, writeReg8, hbytes.1, hbytes.2]
  rfl

lemma low_ne_high : lowReg channel ≠ highReg channel := by
  rw [lowReg, highReg, LED0_OFF_L, LED0_OFF_H]
  omega

/-! ## What is written -/

variable {channel} {r : Registers} {s : State}

/-- The registers of the channel hold bytes of counts, or what they held before, and the others are
as they were. -/
structure Framed (channel : Int) (r : Registers) (s : State) : Prop where
  todo : ∀ t ∈ s.todo, ∃ e ∈ s.events, t ∈ handler channel e
  frame : ∀ reg, reg ≠ lowReg channel → reg ≠ highReg channel → s.registers reg = r reg
  low : s.registers (lowReg channel) = r (lowReg channel) ∨
    ∃ e ∈ s.events, s.registers (lowReg channel) = count e % 256
  high : s.registers (highReg channel) = r (highReg channel) ∨
    ∃ e ∈ s.events, s.registers (highReg channel) = count e / 256

lemma Framed.event (h : Framed channel r s) (e : JoystickEvent) :
    Framed channel r (step channel s (.event e)) := by
  rw [step]
  split_ifs with hdone
  · have hmore : ∀ {p : JoystickEvent → Prop}, (∃ b ∈ s.events, p b) →
        ∃ b ∈ s.events ++ [e], p b := fun ⟨b, hb, hp⟩ => ⟨b, List.mem_append_left _ hb, hp⟩
    exact ⟨fun t ht => ⟨e, by simp, ht⟩, h.frame, h.low.imp_right hmore, h.high.imp_right hmore⟩
  · exact h

lemma Framed.transfer (h : Framed channel r s) (ok : Bool) :
    Framed channel r (step channel s (.transfer ok)) := by
  rw [step]
  cases htodo : s.todo with
  | nil => exact h
  | cons t rest =>
    have hrest : ∀ t' ∈ rest, ∃ e ∈ s.events, t' ∈ handler channel e := fun t' ht' =>
      h.todo t' (htodo ▸ .tail _ ht')
    obtain ⟨e, he, ht⟩ := h.todo t (htodo ▸ .head _)
    cases ok with
    | false => exact ⟨hrest, h.frame, h.low, h.high⟩
    | true =>
      have hne := low_ne_high channel
      rw [handler_eq, List.mem_cons, List.mem_singleton] at ht
      rcases ht with rfl | rfl
      · refine ⟨hrest, fun reg hlow hhigh => ?_, .inr ⟨e, he, ?_⟩, ?_⟩
        · exact (Function.update_of_ne hlow ..).trans (h.frame reg hlow hhigh)
        · exact Function.update_self ..
        · have hkept : send s.registers ⟨lowReg channel, count e % 256⟩ true (highReg channel) =
              s.registers (highReg channel) := Function.update_of_ne hne.symm ..
          simpa only [hkept] using h.high
      · refine ⟨hrest, fun reg hlow hhigh => ?_, ?_, .inr ⟨e, he, ?_⟩⟩
        · exact (Function.update_of_ne hhigh ..).trans (h.frame reg hlow hhigh)
        · have hkept : send s.registers ⟨highReg channel, count e / 256⟩ true (lowReg channel) =
              s.registers (lowReg channel) := Function.update_of_ne hne ..
          simpa only [hkept] using h.low
        · exact Function.update_self ..

lemma Framed.run (h : Framed channel r s) (steps : List Step) :
    Framed channel r (run channel s steps) := by
  induction steps generalizing s with
  | nil => exact h
  | cons next steps ih =>
    refine ih ?_
    cases next with
    | event e => exact h.event e
    | transfer ok => exact h.transfer ok

/-- Whatever is lost on the bus, the handler writes two registers, with bytes of counts of its
events. They are registers of the chip's control for the channels 62, 126 and so on, where the low
byte goes to the mode. -/
theorem servo_registers (channel : Int) (acks : Nat → Bool) (r : Registers) (steps : List Step) :
    let before := (postConstruct acks r).registers
    let s := run channel (postConstruct acks r) steps
    (∀ reg, reg ≠ lowReg channel → reg ≠ highReg channel → s.registers reg = before reg) ∧
    (s.registers (lowReg channel) = before (lowReg channel) ∨
      ∃ e ∈ s.events, s.registers (lowReg channel) = count e % 256) ∧
    (s.registers (highReg channel) = before (highReg channel) ∨
      ∃ e ∈ s.events, s.registers (highReg channel) = count e / 256) ∧
    (lowReg channel = 0x00 ↔ channel % 64 = 62) ∧ highReg channel ≠ 0x00 ∧
    lowReg channel ≠ 0xFE ∧ highReg channel ≠ 0xFE := by
  intro before s
  have hstart : Framed channel before (postConstruct acks r) :=
    ⟨fun _ h => absurd h List.not_mem_nil, fun _ _ _ => rfl, .inl rfl, .inl rfl⟩
  have h := hstart.run steps
  refine ⟨h.frame, h.low, h.high, ?_, ?_, ?_, ?_⟩
  · rw [lowReg, LED0_OFF_L]
    omega
  · rw [highReg, LED0_OFF_H]
    omega
  · rw [lowReg, LED0_OFF_L]
    omega
  · rw [highReg, LED0_OFF_H]
    omega

/-! ## Pulses -/

/-- The count that the chip counts to. -/
def total (channel : Int) (s : State) : Nat :=
  256 * s.registers (highReg channel) + s.registers (lowReg channel)

/-- The last event is `e`, and the handler has made `n` of its transfers. -/
structure Progress (channel : Int) (s : State) (earlier : List JoystickEvent) (e : JoystickEvent)
    (n : Nat) : Prop where
  events : s.events = earlier ++ [e]
  bound : n ≤ 2
  todo : s.todo = (handler channel e).drop n
  low : ∀ b, (if 0 < n then some e else earlier.getLast?) = some b →
    s.registers (lowReg channel) = count b % 256
  high : ∀ b, (if 1 < n then some e else earlier.getLast?) = some b →
    s.registers (highReg channel) = count b / 256

lemma Progress.transfer {earlier : List JoystickEvent} {e : JoystickEvent} {n : Nat}
    (h : Progress channel s earlier e n) :
    Progress channel (step channel s (.transfer true)) earlier e (min (n + 1) 2) := by
  have htodo := h.todo
  have hlow := h.low
  have hhigh := h.high
  have hbound := h.bound
  have hne := low_ne_high channel
  rw [handler_eq] at htodo
  rcases (by omega : n = 0 ∨ n = 1 ∨ n = 2) with rfl | rfl | rfl
  · rw [step, htodo]
    refine ⟨h.events, by decide, by rw [handler_eq]; rfl, fun b hb => ?_, fun b hb => ?_⟩
    · obtain rfl := Option.some.inj hb
      exact Function.update_self ..
    · exact (Function.update_of_ne hne.symm ..).trans (hhigh b hb)
  · rw [step, htodo]
    refine ⟨h.events, by decide, by rw [handler_eq]; rfl, fun b hb => ?_, fun b hb => ?_⟩
    · exact (Function.update_of_ne hne ..).trans (hlow b hb)
    · obtain rfl := Option.some.inj hb
      exact Function.update_self ..
  · have hdone : s.todo = [] := htodo
    rw [step, hdone]
    exact h

lemma Progress.event {earlier : List JoystickEvent} {e : JoystickEvent} {n : Nat}
    (h : Progress channel s earlier e n) (hdone : s.todo = []) (next : JoystickEvent) :
    Progress channel (step channel s (.event next)) s.events next 0 := by
  have hn : n = 2 := by
    have hlength := congrArg List.length (h.todo.symm.trans hdone)
    have hbound := h.bound
    simp only [List.length_drop, handler_eq, List.length_cons, List.length_nil] at hlength
    omega
  subst hn
  have hlast : s.events.getLast? = some e := by rw [h.events, List.getLast?_concat]
  rw [step, if_pos hdone]
  refine ⟨rfl, by decide, rfl, fun b hb => ?_, fun b hb => ?_⟩
  · rw [if_neg (by decide), hlast] at hb
    exact h.low b hb
  · rw [if_neg (by decide), hlast] at hb
    exact h.high b hb

/-- All transfers are acknowledged. -/
def Step.sent : Step → Bool
  | .event _ => true
  | .transfer ok => ok

def Reached (channel : Int) (s : State) : Prop :=
  (s.events = [] ∧ s.todo = []) ∨ ∃ earlier e n, Progress channel s earlier e n

lemma Reached.step (h : Reached channel s) {next : Step} (hsent : next.sent = true) :
    Reached channel (step channel s next) := by
  cases next with
  | event e =>
    by_cases hdone : s.todo = []
    · rcases h with ⟨hevents, -⟩ | ⟨earlier, last, n, h⟩
      · refine .inr ⟨[], e, 0, ?_⟩
        rw [I2CServoMotor.step, if_pos hdone, hevents]
        exact ⟨rfl, by decide, rfl, fun b hb => absurd hb (by simp),
          fun b hb => absurd hb (by simp)⟩
      · exact .inr ⟨s.events, e, 0, h.event hdone e⟩
    · rwa [I2CServoMotor.step, if_neg hdone]
  | transfer ok =>
    obtain rfl : ok = true := hsent
    rcases h with ⟨hevents, hdone⟩ | ⟨earlier, e, n, h⟩
    · rw [I2CServoMotor.step, hdone]
      exact .inl ⟨hevents, hdone⟩
    · exact .inr ⟨earlier, e, min (n + 1) 2, h.transfer⟩

lemma Reached.run (h : Reached channel s) {steps : List Step}
    (hsent : ∀ next ∈ steps, next.sent = true) : Reached channel (run channel s steps) := by
  induction steps generalizing s with
  | nil => exact h
  | cons next steps ih =>
    rw [List.forall_mem_cons] at hsent
    exact ih (h.step hsent.1) hsent.2

/-- A low byte that does not fit the high byte of the count before. -/
def Torn (before after : Nat) : Prop :=
  (before < 256 ∧ 256 ≤ after ∧ (after < 358 ∨ after = 512)) ∨ (before = 512 ∧ after % 256 ≠ 0)

lemma Progress.length {earlier : List JoystickEvent} {e : JoystickEvent} {n : Nat}
    (h : Progress channel s earlier e n) : s.todo.length = 2 - n := by
  rw [h.todo, List.length_drop, handler_eq]
  rfl

lemma Progress.settled {earlier : List JoystickEvent} {e : JoystickEvent} {n : Nat}
    (h : Progress channel s earlier e n) (hdone : s.todo = []) : total channel s = count e := by
  have hlength := h.length
  rw [hdone, List.length_nil] at hlength
  have hlow := h.low e (if_pos (by omega))
  have hhigh := h.high e (if_pos (by omega))
  rw [total, hlow, hhigh]
  omega

/-- One case for each number of transfers that have been made. -/
lemma Progress.leaves_iff {earlier : List JoystickEvent} {b e : JoystickEvent} {n : Nat}
    (h : Progress channel s (earlier ++ [b]) e n) :
    (total channel s < 102 ∨ 512 < total channel s) ↔
      s.todo.length = 1 ∧ Torn (count b) (count e) := by
  have hb := count_range b
  have he := count_range e
  have hbound := h.bound
  have hlow := h.low
  have hhigh := h.high
  rw [total, Torn, h.length]
  rcases (by omega : n = 0 ∨ n = 1 ∨ n = 2) with rfl | rfl | rfl
  · rw [hlow b (by simp), hhigh b (by simp)]
    omega
  · rw [hlow e (by simp), hhigh b (by simp)]
    omega
  · rw [hlow e (by simp), hhigh e (by simp)]
    omega

/-- With all transfers acknowledged, the count of the last event is set when the handler is done.
While it is set, the pulse leaves the range of the servo exactly for some pairs of counts. -/
theorem pulse_leaves_range (channel : Int) (acks : Nat → Bool) (r : Registers) {steps : List Step}
    (hsent : ∀ next ∈ steps, next.sent = true) :
    let s := run channel (postConstruct acks r) steps
    (s.todo = [] → ∀ e, s.events.getLast? = some e →
      total channel s = count e ∧ 102 ≤ total channel s ∧ total channel s ≤ 512) ∧
    ∀ earlier b e, s.events = earlier ++ [b, e] →
      ((total channel s < 102 ∨ 512 < total channel s) ↔
        s.todo.length = 1 ∧ Torn (count b) (count e)) := by
  intro s
  have hreached : Reached channel s := Reached.run (.inl ⟨rfl, rfl⟩) hsent
  rcases hreached with ⟨hnone, -⟩ | ⟨earlier, e, n, h⟩
  · constructor
    · intro hdone e he
      rw [hnone] at he
      exact absurd he (by simp)
    · intro earlier b e hevents
      exact absurd (hnone.symm.trans hevents) (by simp)
  · constructor
    · intro hdone e' he'
      rw [h.events, List.getLast?_concat] at he'
      obtain rfl := Option.some.inj he'
      have hrange := count_range e
      rw [h.settled hdone]
      omega
    · intro earlier' b e' hevents
      have hsplit : earlier ++ [e] = earlier' ++ [b] ++ [e'] := by
        rw [← h.events, hevents, List.append_assoc]
        rfl
      obtain ⟨rfl, hlast⟩ := List.append_inj' hsplit rfl
      obtain rfl := List.singleton_inj.mp hlast
      exact h.leaves_iff

/-! From one end to the other. -/

def turned (x : Axis) : JoystickEvent := { DCMotor.halt with axisRightX := x }

def swing : List Step := [.event (turned ⟨-32768, by decide⟩), .transfer true, .transfer true,
  .event (turned ⟨32767, by decide⟩), .transfer true]

theorem pulse_leaves_range_swing :
    (total 1 (run 1 (postConstruct (fun _ => true) fun _ => 0) swing) < 102 ∨
      512 < total 1 (run 1 (postConstruct (fun _ => true) fun _ => 0) swing)) ↔
      (run 1 (postConstruct (fun _ => true) fun _ => 0) swing).todo.length = 1 ∧
        Torn (count (turned ⟨-32768, by decide⟩)) (count (turned ⟨32767, by decide⟩)) :=
  (@pulse_leaves_range 1 (fun _ => true) (fun _ => 0) swing (by decide)).2 []
    (turned ⟨-32768, by decide⟩) (turned ⟨32767, by decide⟩) rfl

-- The count is 512 before and 102 after it.
example : total 1 (run 1 (postConstruct (fun _ => true) fun _ => 0) swing) = 614 := by
  decide +kernel

end I2CServoMotor
