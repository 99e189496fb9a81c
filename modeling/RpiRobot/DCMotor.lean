import Mathlib.Data.List.Forall2
import Mathlib.Tactic.IntervalCases
import RpiRobot.SoftPwm

/-!
# The motors

`DCMotor` turns joystick events into the inputs of two bridges and the values of two software
PWMs. The handler of an event sets one line after the other, and meanwhile the threads of the PWMs
read the value, twice in each period.

The two sides set their lines in the same order but for opposite directions, so a bridge has both
of its inputs high in one of its two reversals, and the other bridge in the other one.
-/

namespace DCMotor

/-! ## Joystick events -/

/-- An axis of a joystick has 16 bits. -/
abbrev Axis := { x : Int // -32768 ≤ x ∧ x ≤ 32767 }

inductive JoystickType where
  | gamepad
  | other
  deriving DecidableEq

structure JoystickEvent where
  type : JoystickType
  axisLeftY : Axis
  axisRightX : Axis
  axisRightY : Axis
  lt : Axis
  rt : Axis
  lb : Bool
  rb : Bool

inductive Side where
  | left
  | right
  deriving DecidableEq

def gamepadSpeed (y : Axis) : Int := ((y.val.natAbs : Int) * 1024).tdiv 32767

def triggerSpeed (t : Axis) : Int := ((t.val + 32767) * 1024).tdiv 65535

def JoystickEvent.speed (e : JoystickEvent) (side : Side) : Int :=
  match e.type, side with
  | .gamepad, .left => gamepadSpeed e.axisLeftY
  | .gamepad, .right => gamepadSpeed e.axisRightY
  | .other, .left => triggerSpeed e.lt
  | .other, .right => triggerSpeed e.rt

def JoystickEvent.dir (e : JoystickEvent) (side : Side) : Bool :=
  match e.type, side with
  | .gamepad, .left => decide (e.axisLeftY.val ≤ 0)
  | .gamepad, .right => decide (e.axisRightY.val ≤ 0)
  | .other, .left => e.lb
  | .other, .right => e.rb

lemma gamepadSpeed_range (y : Axis) : 0 ≤ gamepadSpeed y ∧ gamepadSpeed y ≤ 1024 := by
  obtain ⟨hlow, hhigh⟩ := y.property
  rw [gamepadSpeed, Int.tdiv_eq_ediv_of_nonneg (by omega)]
  omega

/-- The least value of an axis is cut to no speed. -/
lemma triggerSpeed_range (t : Axis) : 0 ≤ triggerSpeed t ∧ triggerSpeed t ≤ 1024 := by
  obtain ⟨hlow, hhigh⟩ := t.property
  rw [triggerSpeed]
  by_cases hleast : t.val = -32768
  · rw [hleast]
    decide
  · rw [Int.tdiv_eq_ediv_of_nonneg (by omega)]
    omega

/-- The speeds are values of the PWMs as they are. -/
lemma speed_range (e : JoystickEvent) (side : Side) : 0 ≤ e.speed side ∧ e.speed side ≤ 1024 := by
  unfold JoystickEvent.speed
  split
  · exact gamepadSpeed_range _
  · exact gamepadSpeed_range _
  · exact triggerSpeed_range _
  · exact triggerSpeed_range _

/-! ## The handler -/

/-- What the handler does to the lines and to the PWM of a side, one call after the other. -/
inductive Action where
  | d1 (side : Side) (value : Bool)
  | d2 (side : Side) (value : Bool)
  | write (side : Side) (speed : Int)
  deriving DecidableEq

def left (speed : Int) (dir : Bool) : List Action :=
  (if dir then [.d1 .left false, .d2 .left true]
    else [.d1 .left true, .d2 .left false]) ++ [.write .left speed]

def right (speed : Int) (dir : Bool) : List Action :=
  (if dir then [.d1 .right true, .d2 .right false]
    else [.d1 .right false, .d2 .right true]) ++ [.write .right speed]

def handler (e : JoystickEvent) : List Action :=
  left (e.speed .left) (e.dir .left) ++ right (e.speed .right) (e.dir .right)

/-- The two inputs of a bridge. -/
def inputs : Side → Bool → Bool × Bool
  | .left, dir => (!dir, dir)
  | .right, dir => (dir, !dir)

lemma handler_eq (e : JoystickEvent) :
    handler e = [.d1 .left (inputs .left (e.dir .left)).1, .d2 .left (inputs .left (e.dir .left)).2,
      .write .left (e.speed .left), .d1 .right (inputs .right (e.dir .right)).1,
      .d2 .right (inputs .right (e.dir .right)).2, .write .right (e.speed .right)] := by
  rw [handler, left, right]
  cases e.dir .left <;> cases e.dir .right <;> rfl

/-! ## The threads -/

/-- Where a thread is in `process`: before its reads of the value, before it sets the line, and
in the two delays. -/
inductive Point where
  | mark
  | space (mark : Int)
  | raise (mark space : Int)
  | high (mark space : Int)
  | lower (mark space : Int)
  | low (mark space : Int)
  deriving DecidableEq

/-- The argument of `delayMicroseconds`, which is unsigned. -/
def delay (n : Int) : Nat := (n * 100 % 2 ^ 32).toNat

/-- A side: the lines of the bridge, the PWM, its line as it was last set, its thread, and the
delays of the periods so far. -/
structure Motor where
  d1 : Bool
  d2 : Bool
  pwm : SoftPwm.Pwm
  line : Option Bool
  point : Point
  periods : List (Nat × Nat)

/-- One step of `process`. -/
def Motor.process (m : Motor) : Motor :=
  match m.point with
  | .mark => { m with point := .space m.pwm.value }
  | .space mark => { m with point := .raise mark (m.pwm.range - m.pwm.value) }
  | .raise mark space =>
    { m with point := .high mark space, line := if mark ≠ 0 then some true else m.line }
  | .high mark space => { m with point := .lower mark space }
  | .lower mark space =>
    { m with point := .low mark space, line := if space ≠ 0 then some false else m.line }
  | .low mark space =>
    { m with point := .mark, periods := m.periods ++ [(delay mark, delay space)] }

/-! ## The service -/

/-- The two sides, what is left of the handler, and the events that it has been called with. -/
structure Drive where
  motor : Side → Motor
  todo : List Action
  events : List JoystickEvent

/-- After `postConstruct`, whose `setup` has started the threads. -/
def start (line : Side → Nat) (h : Side → SoftPwm.Handle) : Drive :=
  ⟨fun side => ⟨false, false, SoftPwm.Pwm.init.setup (line side) 0 1024 (h side), none, .mark, []⟩,
    [], []⟩

/-- A step of the system. The bus delivers an event when the handler is done with the one
before. -/
inductive Step where
  | event (e : JoystickEvent)
  | act
  | thread (side : Side)

def Drive.set (s : Drive) (side : Side) (f : Motor → Motor) : Side → Motor :=
  Function.update s.motor side (f (s.motor side))

lemma Drive.set_self (s : Drive) (side : Side) (f : Motor → Motor) :
    s.set side f side = f (s.motor side) :=
  Function.update_self ..

lemma Drive.set_of_ne (s : Drive) {side side' : Side} (h : side' ≠ side) (f : Motor → Motor) :
    s.set side f side' = s.motor side' :=
  Function.update_of_ne h ..

def Action.side : Action → Side
  | .d1 side _ => side
  | .d2 side _ => side
  | .write side _ => side

def Action.effect : Action → Motor → Motor
  | .d1 _ value, m => { m with d1 := value }
  | .d2 _ value, m => { m with d2 := value }
  | .write _ speed, m => { m with pwm := m.pwm.write speed }

def step (s : Drive) : Step → Drive
  | .event e => if s.todo = [] then { s with todo := handler e, events := s.events ++ [e] } else s
  | .act =>
    match s.todo with
    | [] => s
    | action :: rest => { s with motor := s.set action.side action.effect, todo := rest }
  | .thread side => { s with motor := s.set side Motor.process }

def run (s : Drive) (steps : List Step) : Drive := steps.foldl step s

/-! ## The bridges -/

/-- The inputs of a bridge after these events. -/
def inputsAfter (side : Side) (events : List JoystickEvent) : Bool × Bool :=
  match events.getLast? with
  | none => (false, false)
  | some e => inputs side (e.dir side)

/-- The left side comes first. -/
def Side.offset : Side → Nat
  | .left => 0
  | .right => 3

/-- The handler of the last event has done the first `n` of its calls. -/
structure Progress (s : Drive) (earlier : List JoystickEvent) (e : JoystickEvent) (n : Nat) :
    Prop where
  events : s.events = earlier ++ [e]
  bound : n ≤ 6
  todo : s.todo = (handler e).drop n
  d1 : ∀ side, (s.motor side).d1 =
    (if side.offset < n then inputs side (e.dir side) else inputsAfter side earlier).1
  d2 : ∀ side, (s.motor side).d2 =
    (if side.offset + 1 < n then inputs side (e.dir side) else inputsAfter side earlier).2

structure Untouched (s : Drive) : Prop where
  events : s.events = []
  todo : s.todo = []
  d1 : ∀ side, (s.motor side).d1 = false
  d2 : ∀ side, (s.motor side).d2 = false

variable {s : Drive}

/-- When the handler is done, the inputs are those of the last event. -/
lemma Progress.inputs {earlier : List JoystickEvent} {e : JoystickEvent} {n : Nat}
    (h : Progress s earlier e n) (hdone : s.todo = []) (side : Side) :
    ((s.motor side).d1, (s.motor side).d2) = inputsAfter side s.events := by
  have hn : n = 6 := by
    have hlength := congrArg List.length (h.todo.symm.trans hdone)
    simp only [List.length_drop, handler_eq, List.length_cons, List.length_nil] at hlength
    have := h.bound
    omega
  subst hn
  have hoffset : side.offset + 1 < 6 := by cases side <;> decide
  rw [h.d1, h.d2, if_pos (by omega), if_pos hoffset, inputsAfter, h.events,
    List.getLast?_concat]

/-- The calls of the threads leave the bridges alone. -/
lemma process_inputs (m : Motor) : m.process.d1 = m.d1 ∧ m.process.d2 = m.d2 := by
  rw [Motor.process]
  split <;> exact ⟨rfl, rfl⟩

lemma set_inputs (s : Drive) (side side' : Side) :
    (s.set side Motor.process side').d1 = (s.motor side').d1 ∧
      (s.set side Motor.process side').d2 = (s.motor side').d2 := by
  by_cases hside : side' = side
  · subst hside
    rw [s.set_self]
    exact process_inputs _
  · rw [s.set_of_ne hside]
    exact ⟨rfl, rfl⟩

lemma effect_d1 (s : Drive) (action : Action) (side : Side) :
    (s.set action.side action.effect side).d1 =
      match action with
      | .d1 side' value => if side = side' then value else (s.motor side).d1
      | _ => (s.motor side).d1 := by
  by_cases hside : side = action.side
  · subst hside
    rw [s.set_self]
    cases action with
    | d1 side' value => exact (if_pos rfl).symm
    | d2 | write => rfl
  · rw [s.set_of_ne hside]
    cases action with
    | d1 side' value => exact (if_neg hside).symm
    | d2 | write => rfl

lemma effect_d2 (s : Drive) (action : Action) (side : Side) :
    (s.set action.side action.effect side).d2 =
      match action with
      | .d2 side' value => if side = side' then value else (s.motor side).d2
      | _ => (s.motor side).d2 := by
  by_cases hside : side = action.side
  · subst hside
    rw [s.set_self]
    cases action with
    | d2 side' value => exact (if_pos rfl).symm
    | d1 | write => rfl
  · rw [s.set_of_ne hside]
    cases action with
    | d2 side' value => exact (if_neg hside).symm
    | d1 | write => rfl

lemma Progress.act {earlier : List JoystickEvent} {e : JoystickEvent} {n : Nat}
    (h : Progress s earlier e n) : ∃ n', Progress (step s .act) earlier e n' := by
  by_cases hn : n = 6
  · have hdone : s.todo = [] := by
      rw [h.todo, hn, handler_eq]
      rfl
    exact ⟨n, by rwa [show step s .act = s by rw [step, hdone]]⟩
  · have hlt : n < 6 := Nat.lt_of_le_of_ne h.bound hn
    have htodo := h.todo
    have hd1 := h.d1
    have hd2 := h.d2
    rw [handler_eq] at htodo
    refine ⟨n + 1, ?_⟩
    interval_cases n <;> simp only [List.drop_succ_cons, List.drop_zero] at htodo <;>
      simp only [step, htodo] <;>
      refine ⟨h.events, by omega, by simp [handler_eq], fun side => ?_, fun side => ?_⟩ <;>
      cases side <;>
      simp [effect_d1, effect_d2, hd1, hd2, Side.offset]

lemma Progress.event {earlier : List JoystickEvent} {e : JoystickEvent} {n : Nat}
    (h : Progress s earlier e n) (hdone : s.todo = []) (next : JoystickEvent) :
    Progress (step s (.event next)) s.events next 0 := by
  rw [step, if_pos hdone]
  refine ⟨rfl, Nat.zero_le 6, rfl, fun side => ?_, fun side => ?_⟩
  · exact congrArg Prod.fst (h.inputs hdone side)
  · exact congrArg Prod.snd (h.inputs hdone side)

/-- The handler is at one of its calls, or has not been called yet. -/
def Reached (s : Drive) : Prop := Untouched s ∨ ∃ earlier e n, Progress s earlier e n

lemma Reached.step (h : Reached s) (next : Step) : Reached (step s next) := by
  cases next with
  | event e =>
    by_cases hdone : s.todo = []
    · rcases h with h | ⟨earlier, last, n, h⟩
      · refine .inr ⟨[], e, 0, ?_⟩
        rw [DCMotor.step, if_pos hdone, h.events]
        exact ⟨rfl, Nat.zero_le 6, rfl, h.d1, h.d2⟩
      · exact .inr ⟨s.events, e, 0, h.event hdone e⟩
    · rwa [DCMotor.step, if_neg hdone]
  | act =>
    rcases h with h | ⟨earlier, e, n, h⟩
    · rw [DCMotor.step, h.todo]
      exact .inl h
    · obtain ⟨n', h'⟩ := h.act
      exact .inr ⟨earlier, e, n', h'⟩
  | thread side =>
    rcases h with h | ⟨earlier, e, n, h⟩
    · exact .inl ⟨h.events, h.todo, fun other => (set_inputs s side other).1.trans (h.d1 other),
        fun other => (set_inputs s side other).2.trans (h.d2 other)⟩
    · exact .inr ⟨earlier, e, n, h.events, h.bound, h.todo,
        fun other => (set_inputs s side other).1.trans (h.d1 other),
        fun other => (set_inputs s side other).2.trans (h.d2 other)⟩

lemma Reached.run (h : Reached s) (steps : List Step) : Reached (run s steps) := by
  induction steps generalizing s with
  | nil => exact h
  | cons next steps ih => exact ih (h.step next)

lemma reached_start (line : Side → Nat) (h : Side → SoftPwm.Handle) : Reached (start line h) :=
  .inl ⟨rfl, rfl, fun _ => rfl, fun _ => rfl⟩

/-- The two inputs are never set to the same value, only left at it. -/
lemma inputsAfter_high {side : Side} {events : List JoystickEvent}
    (h : (inputsAfter side events).2 = true) :
    (inputsAfter side events).1 = false ∧
      ∃ earlier b, events = earlier ++ [b] ∧ (inputs side (b.dir side)).2 = true := by
  rcases List.eq_nil_or_concat' events with rfl | ⟨earlier, b, rfl⟩
  · exact absurd h (by simp [inputsAfter])
  · rw [inputsAfter, List.getLast?_concat] at h ⊢
    refine ⟨?_, earlier, b, rfl, h⟩
    cases side <;> simp_all [inputs]

/-- Both inputs are high between the two calls for the bridge, when the first has set one that the
event before has left. -/
lemma Progress.both {earlier : List JoystickEvent} {e : JoystickEvent} {n : Nat}
    (h : Progress s earlier e n) (side : Side) :
    (s.motor side).d1 = true ∧ (s.motor side).d2 = true ↔
      n = side.offset + 1 ∧ (DCMotor.inputs side (e.dir side)).1 = true ∧
        ∃ before b, earlier = before ++ [b] ∧ (DCMotor.inputs side (b.dir side)).2 = true := by
  have hopposite : ∀ dir, (DCMotor.inputs side dir).1 = !(DCMotor.inputs side dir).2 := by
    cases side <;> simp [DCMotor.inputs]
  rw [h.d1, h.d2]
  by_cases hfirst : side.offset < n
  · by_cases hsecond : side.offset + 1 < n
    · rw [if_pos hfirst, if_pos hsecond, hopposite]
      constructor
      · rintro ⟨hlow, hhigh⟩
        rw [hhigh] at hlow
        exact absurd hlow (by decide)
      · rintro ⟨hn, -⟩
        omega
    · rw [if_pos hfirst, if_neg hsecond]
      constructor
      · rintro ⟨hnew, hold⟩
        exact ⟨by omega, hnew, (inputsAfter_high hold).2⟩
      · rintro ⟨-, hnew, before, b, rfl, hold⟩
        refine ⟨hnew, ?_⟩
        rw [inputsAfter, List.getLast?_concat]
        exact hold
  · rw [if_neg hfirst, if_neg (by omega)]
    constructor
    · rintro ⟨hone, hother⟩
      rw [(inputsAfter_high hother).1] at hone
      exact absurd hone (by decide)
    · rintro ⟨hn, -⟩
      omega

/-- The place of the second call for a bridge. -/
lemma Progress.second {earlier : List JoystickEvent} {e : JoystickEvent} {n : Nat}
    (h : Progress s earlier e n) (side : Side) :
    s.todo.head? = some (.d2 side false) ↔
      n = side.offset + 1 ∧ (DCMotor.inputs side (e.dir side)).2 = false := by
  have hn := h.bound
  rw [h.todo, handler_eq]
  interval_cases n <;> cases side <;> simp [Side.offset]

lemma Reached.reversal (h : Reached s) (side : Side) :
    (s.motor side).d1 = true ∧ (s.motor side).d2 = true ↔
      ∃ earlier b e, s.events = earlier ++ [b, e] ∧ (inputs side (b.dir side)).2 = true ∧
        (inputs side (e.dir side)).2 = false ∧ s.todo.head? = some (.d2 side false) := by
  have hopposite : ∀ dir, (inputs side dir).1 = !(inputs side dir).2 := by
    cases side <;> simp [inputs]
  rcases h with h | ⟨earlier, e, n, h⟩
  · refine iff_of_false (fun hboth => ?_) ?_
    · exact absurd (hboth.1.symm.trans (h.d1 side)) (by decide)
    · rintro ⟨earlier, b, e, hevents, -⟩
      exact absurd (h.events.symm.trans hevents) (by simp)
  · rw [h.both side, h.second side, hopposite, Bool.not_eq_true']
    constructor
    · rintro ⟨hn, hnew, before, b, rfl, hold⟩
      exact ⟨before, b, e, by rw [h.events, List.append_assoc]; rfl, hold, hnew, hn, hnew⟩
    · rintro ⟨before, b, e', hevents, hold, -, hn, hnew⟩
      have hsplit : earlier ++ [e] = before ++ [b] ++ [e'] := by
        rw [← h.events, hevents, List.append_assoc]
        rfl
      exact ⟨hn, hnew, before, b, (List.append_inj' hsplit rfl).1, hold⟩

lemma Reached.settled (h : Reached s) (hdone : s.todo = []) (side : Side) :
    ((s.motor side).d1, (s.motor side).d2) = inputsAfter side s.events := by
  rcases h with h | ⟨earlier, e, n, h⟩
  · rw [h.d1, h.d2, h.events]
    rfl
  · exact h.inputs hdone side

/-- At any moment, both inputs of the left bridge are high exactly if its direction is being set
from true to false, and those of the right bridge exactly if the direction is being set the other
way. When the handler is done, they are those of the last event. -/
theorem bridges_in_reversals (line : Side → Nat) (h : Side → SoftPwm.Handle) (steps : List Step) :
    let s := run (start line h) steps
    ((s.motor .left).d1 = true ∧ (s.motor .left).d2 = true ↔
      ∃ earlier b e, s.events = earlier ++ [b, e] ∧ b.dir .left = true ∧ e.dir .left = false ∧
        s.todo.head? = some (.d2 .left false)) ∧
    ((s.motor .right).d1 = true ∧ (s.motor .right).d2 = true ↔
      ∃ earlier b e, s.events = earlier ++ [b, e] ∧ b.dir .right = false ∧ e.dir .right = true ∧
        s.todo.head? = some (.d2 .right false)) ∧
    (s.todo = [] → ∀ side,
      ((s.motor side).d1, (s.motor side).d2) = inputsAfter side s.events) := by
  intro s
  have hreached : Reached s := (reached_start line h).run steps
  have hright := hreached.reversal .right
  simp only [inputs, Bool.not_eq_true', Bool.not_eq_false'] at hright
  exact ⟨hreached.reversal .left, hright, hreached.settled⟩

/-! ## The periods -/

/-- The values that the PWM of a side is given, the initial one first. -/
def given (side : Side) (events : List JoystickEvent) : List Nat :=
  0 :: events.map fun e => (e.speed side).toNat

/-- The writes that are left of the handler. -/
def pending (side : Side) (todo : List Action) : List Nat :=
  todo.filterMap fun
    | .write side' speed => if side' = side then some speed.toNat else none
    | _ => none

/-- The places of the values that the thread has read in the period that it is in, and what it
has made of them. -/
def Read (values : List Nat) : Point → List Nat → Prop
  | .mark, places => places = []
  | .space mark, places => ∃ i v, places = [i] ∧ values[i]? = some v ∧ mark = v
  | .raise mark space, places | .high mark space, places
  | .lower mark space, places | .low mark space, places =>
    ∃ i v j w, places = [i, j] ∧ values[i]? = some v ∧ values[j]? = some w ∧ mark = v ∧
      space = 1024 - w

/-- A period whose mark is read from one place and whose space is read from another. -/
def Period (values : List Nat) (period : Nat × Nat) (places : Nat × Nat) : Prop :=
  ∃ v w, values[places.1]? = some v ∧ values[places.2]? = some w ∧
    period = (100 * v, 100 * (1024 - w))

/-- The reads of a thread while there have been `n` values: each is of the last one, so they go on
in the order of the values. -/
structure InOrder (n : Nat) (reads : List Nat) : Prop where
  pairwise : reads.Pairwise (· ≤ ·)
  bound : ∀ i ∈ reads, i < n

lemma InOrder.read {n : Nat} {reads : List Nat} (h : InOrder (n + 1) reads) :
    InOrder (n + 1) (reads ++ [n]) := by
  refine ⟨List.pairwise_append.mpr ⟨h.pairwise, List.pairwise_singleton _ _, ?_⟩, fun i hi => ?_⟩
  · intro i hi j hj
    rw [List.mem_singleton.mp hj]
    exact Nat.le_of_lt_succ (h.bound i hi)
  · rcases List.mem_append.mp hi with hold | hnew
    · exact h.bound i hold
    · rw [List.mem_singleton.mp hnew]
      exact Nat.lt_succ_self n

lemma InOrder.mono {n n' : Nat} {reads : List Nat} (h : InOrder n reads) (hn : n ≤ n') :
    InOrder n' reads :=
  ⟨h.pairwise, fun i hi => (h.bound i hi).trans_le hn⟩

/-- The places of the reads of some periods. -/
def flat (places : List (Nat × Nat)) : List Nat := places.flatMap fun p => [p.1, p.2]

/-- A thread, while its value has been `earlier` and then `last`. -/
structure Threaded (earlier : List Nat) (last : Nat) (m : Motor) : Prop where
  range : m.pwm.range = 1024
  bound : ∀ v ∈ earlier ++ [last], v ≤ 1024
  value : m.pwm.value = last
  order : ∃ places current, InOrder (earlier.length + 1) (flat places ++ current) ∧
    List.Forall₂ (Period (earlier ++ [last])) m.periods places ∧
    Read (earlier ++ [last]) m.point current

lemma delay_eq {v : Nat} (h : v ≤ 1024) : delay v = 100 * v := by
  rw [delay]
  omega

variable {earlier : List Nat} {last : Nat} {m : Motor}

lemma Threaded.process (h : Threaded earlier last m) : Threaded earlier last m.process := by
  obtain ⟨places, current, horder, hperiods, hread⟩ := h.order
  have hlast : (earlier ++ [last])[earlier.length]? = some last := by simp
  rw [Motor.process]
  cases hpoint : m.point with
  | mark =>
    rw [hpoint] at hread
    obtain rfl : current = [] := hread
    refine ⟨h.range, h.bound, h.value, places, [earlier.length], ?_, hperiods,
      earlier.length, last, rfl, hlast, h.value⟩
    simpa only [List.append_nil] using horder.read
  | space mark =>
    rw [hpoint] at hread
    obtain ⟨i, v, rfl, hi, hmark⟩ := hread
    refine ⟨h.range, h.bound, h.value, places, [i, earlier.length], ?_, hperiods,
      i, v, earlier.length, last, rfl, hi, hlast, hmark, by rw [h.range, h.value]⟩
    simpa only [List.append_assoc, List.cons_append, List.nil_append] using horder.read
  | raise mark space =>
    rw [hpoint] at hread
    exact ⟨h.range, h.bound, h.value, places, current, horder, hperiods, hread⟩
  | high mark space =>
    rw [hpoint] at hread
    exact ⟨h.range, h.bound, h.value, places, current, horder, hperiods, hread⟩
  | lower mark space =>
    rw [hpoint] at hread
    exact ⟨h.range, h.bound, h.value, places, current, horder, hperiods, hread⟩
  | low mark space =>
    rw [hpoint] at hread
    obtain ⟨i, v, j, w, rfl, hi, hj, rfl, rfl⟩ := hread
    have hv := h.bound v (List.mem_of_getElem? hi)
    have hw := h.bound w (List.mem_of_getElem? hj)
    refine ⟨h.range, h.bound, h.value, places ++ [(i, j)], [], ?_, ?_, rfl⟩
    · simpa only [flat, List.flatMap_append, List.flatMap_singleton, List.append_nil] using horder
    · refine List.rel_append hperiods (.cons ⟨v, w, hi, hj, ?_⟩ .nil)
      have hspace : ((1024 : Int) - w) = ((1024 - w : Nat) : Int) := by omega
      rw [hspace, delay_eq hv, delay_eq (by omega)]

lemma kept {values : List Nat} {i v : Nat} (h : values[i]? = some v) (more : List Nat) :
    (values ++ more)[i]? = some v :=
  (List.getElem?_append_left (List.getElem?_eq_some_iff.mp h).1).trans h

lemma Read.mono {values : List Nat} {point : Point} {places : List Nat}
    (h : Read values point places) (more : List Nat) : Read (values ++ more) point places := by
  cases point with
  | mark => exact h
  | space mark =>
    obtain ⟨i, v, hplaces, hi, hmark⟩ := h
    exact ⟨i, v, hplaces, kept hi more, hmark⟩
  | raise mark space | high mark space | lower mark space | low mark space =>
    obtain ⟨i, v, j, w, hplaces, hi, hj, hmark, hspace⟩ := h
    exact ⟨i, v, j, w, hplaces, kept hi more, kept hj more, hmark, hspace⟩

lemma Period.mono {values : List Nat} {period places : Nat × Nat} (h : Period values period places)
    (more : List Nat) : Period (values ++ more) period places := by
  obtain ⟨v, w, hi, hj, hperiod⟩ := h
  exact ⟨v, w, kept hi more, kept hj more, hperiod⟩

/-- A write of a speed is not cut. -/
lemma Threaded.write (h : Threaded earlier last m) {speed : Nat} (hspeed : speed ≤ 1024) :
    Threaded (earlier ++ [last]) speed { m with pwm := m.pwm.write speed } := by
  obtain ⟨places, current, horder, hperiods, hread⟩ := h.order
  refine ⟨h.range, ?_, ?_, places, current, horder.mono (by simp), ?_, hread.mono [speed]⟩
  · rw [List.forall_mem_append]
    exact ⟨h.bound, List.forall_mem_singleton.mpr hspeed⟩
  · have hrange := h.range
    rw [SoftPwm.Pwm.write]
    simp only
    rw [if_neg (by omega), if_neg (by omega)]
  · exact hperiods.imp fun _ _ hperiod => hperiod.mono [speed]

/-- While time passes the line is as the last call for the delay has set it. -/
def Lined (m : Motor) : Prop :=
  match m.point with
  | .high mark _ => mark ≠ 0 → m.line = some true
  | .low _ space => space ≠ 0 → m.line = some false
  | _ => True

lemma lined_process (m : Motor) : Lined m.process := by
  rw [Motor.process]
  cases m.point with
  | raise mark space => exact fun hmark => if_pos hmark
  | lower mark space => exact fun hspace => if_pos hspace
  | mark | space | high | low => exact trivial

/-- The values that a side has been given are those that its PWM has had and those that the handler
has yet to write. -/
structure Driven (s : Drive) (side : Side) : Prop where
  split : ∃ earlier last, given side s.events = (earlier ++ [last]) ++ pending side s.todo ∧
    Threaded earlier last (s.motor side)
  speeds : ∀ side' speed, .write side' speed ∈ s.todo → 0 ≤ speed ∧ speed ≤ 1024
  lined : Lined (s.motor side)

lemma pending_handler (side : Side) (e : JoystickEvent) :
    pending side (handler e) = [(e.speed side).toNat] := by
  rw [handler_eq]
  cases side <;> simp [pending]

lemma Driven.event {side : Side} (h : Driven s side) (e : JoystickEvent) :
    Driven (step s (.event e)) side := by
  rw [step]
  split_ifs with hdone
  · obtain ⟨earlier, last, hsplit, hthreaded⟩ := h.split
    rw [hdone, pending, List.filterMap_nil, List.append_nil] at hsplit
    refine ⟨⟨earlier, last, ?_, hthreaded⟩, fun side' speed hmem => ?_, h.lined⟩
    · rw [pending_handler, ← hsplit, given, given, List.map_append]
      rfl
    · simp only [handler_eq, List.mem_cons, Action.write.injEq, List.not_mem_nil, or_false,
        reduceCtorEq, false_or] at hmem
      rcases hmem with ⟨rfl, rfl⟩ | ⟨rfl, rfl⟩
      · exact speed_range e _
      · exact speed_range e _
  · exact h

lemma Driven.thread {side : Side} (h : Driven s side) (side' : Side) :
    Driven (step s (.thread side')) side := by
  obtain ⟨earlier, last, hsplit, hthreaded⟩ := h.split
  by_cases hside : side = side'
  · subst hside
    have hmotor : (step s (.thread side)).motor side = (s.motor side).process := s.set_self ..
    refine ⟨⟨earlier, last, hsplit, ?_⟩, h.speeds, ?_⟩
    · rw [hmotor]
      exact hthreaded.process
    · rw [hmotor]
      exact lined_process _
  · have hmotor : (step s (.thread side')).motor side = s.motor side := s.set_of_ne hside ..
    refine ⟨⟨earlier, last, hsplit, ?_⟩, h.speeds, ?_⟩
    · rwa [hmotor]
    · rw [hmotor]
      exact h.lined

lemma pending_other {side : Side} {action : Action} (h : side ≠ action.side)
    (rest : List Action) : pending side (action :: rest) = pending side rest := by
  cases action with
  | d1 | d2 => rfl
  | write side' speed =>
    rw [pending, List.filterMap_cons]
    simp only [if_neg (Ne.symm h : ¬ side' = side)]
    rfl

/-- A call for a side sets a line of its bridge, or writes the next of its values. -/
lemma Threaded.effect {action : Action} {rest : List Action} {values : List Nat}
    (h : Threaded earlier last m)
    (hsplit : values = (earlier ++ [last]) ++ pending action.side (action :: rest))
    (hspeeds : ∀ side' speed, .write side' speed ∈ action :: rest → 0 ≤ speed ∧ speed ≤ 1024) :
    ∃ earlier last, values = (earlier ++ [last]) ++ pending action.side rest ∧
      Threaded earlier last (action.effect m) := by
  cases action with
  | d1 side value => exact ⟨earlier, last, hsplit, h.range, h.bound, h.value, h.order⟩
  | d2 side value => exact ⟨earlier, last, hsplit, h.range, h.bound, h.value, h.order⟩
  | write side speed =>
    obtain ⟨hlow, hhigh⟩ := hspeeds side speed (.head _)
    have hnat : ((speed.toNat : Nat) : Int) = speed := Int.toNat_of_nonneg hlow
    have hspeed : speed.toNat ≤ 1024 := by omega
    have hwrite := h.write hspeed
    rw [hnat] at hwrite
    have hpending : pending side (.write side speed :: rest) =
        speed.toNat :: pending side rest := by
      rw [pending, List.filterMap_cons]
      simp only [if_pos]
      rfl
    refine ⟨earlier ++ [last], speed.toNat, ?_, hwrite⟩
    rw [hsplit, Action.side, hpending, List.append_cons]

lemma lined_effect (action : Action) (h : Lined m) : Lined (action.effect m) := by
  cases action <;> exact h

lemma Driven.act {side : Side} (h : Driven s side) : Driven (step s .act) side := by
  rw [step]
  cases htodo : s.todo with
  | nil => exact h
  | cons action rest =>
    obtain ⟨earlier, last, hsplit, hthreaded⟩ := h.split
    have hspeeds := h.speeds
    rw [htodo] at hsplit hspeeds
    by_cases hside : side = action.side
    · subst hside
      refine ⟨?_, fun side' speed hmem => hspeeds side' speed (.tail _ hmem), ?_⟩
      · simp only [s.set_self]
        exact hthreaded.effect hsplit hspeeds
      · simp only [s.set_self]
        exact lined_effect action h.lined
    · rw [pending_other hside] at hsplit
      refine ⟨⟨earlier, last, hsplit, ?_⟩,
        fun side' speed hmem => hspeeds side' speed (.tail _ hmem), ?_⟩
      · simpa only [s.set_of_ne hside] using hthreaded
      · simpa only [s.set_of_ne hside] using h.lined

lemma Driven.run {side : Side} (h : Driven s side) (steps : List Step) :
    Driven (run s steps) side := by
  induction steps generalizing s with
  | nil => exact h
  | cons next steps ih =>
    refine ih ?_
    cases next with
    | event e => exact h.event e
    | act => exact h.act
    | thread side' => exact h.thread side'

lemma driven_start (line : Side → Nat) (h : Side → SoftPwm.Handle) (side : Side) :
    Driven (start line h) side := by
  refine ⟨⟨[], 0, rfl, ?_⟩, fun _ _ hmem => absurd hmem List.not_mem_nil, trivial⟩
  have hpwm : ((start line h).motor side).pwm.range = 1024 ∧
      ((start line h).motor side).pwm.value = 0 := by
    simp [start, SoftPwm.Pwm.setup, SoftPwm.Pwm.pthreadCreate]
  exact ⟨hpwm.1, by decide, hpwm.2, [], [], ⟨.nil, fun _ h => absurd h List.not_mem_nil⟩, .nil, rfl⟩

/-- The mark and the space of a period are read from the speeds of events, in the order of the
events, so a period may have the mark of one event and the space of a later one. Whenever a thread
sleeps, its line is high for a mark and low for a space. -/
theorem periods_in_order (line : Side → Nat) (h : Side → SoftPwm.Handle) (steps : List Step)
    (side : Side) :
    let s := run (start line h) steps
    (∃ places, (flat places).Pairwise (· ≤ ·) ∧
      List.Forall₂ (Period (given side s.events)) (s.motor side).periods places) ∧
    (∀ mark space, (s.motor side).point = .high mark space → 0 < delay mark →
      (s.motor side).line = some true) ∧
    (∀ mark space, (s.motor side).point = .low mark space → 0 < delay space →
      (s.motor side).line = some false) := by
  intro s
  have hdriven : Driven s side := (driven_start line h side).run steps
  obtain ⟨earlier, last, hsplit, hthreaded⟩ := hdriven.split
  obtain ⟨places, current, horder, hperiods, -⟩ := hthreaded.order
  have hlined := hdriven.lined
  rw [Lined] at hlined
  refine ⟨⟨places, (List.pairwise_append.mp horder.pairwise).1, ?_⟩,
    fun mark space hpoint hdelay => ?_, fun mark space hpoint hdelay => ?_⟩
  · rw [hsplit]
    exact hperiods.imp fun _ _ hperiod => hperiod.mono _
  · rw [hpoint] at hlined
    refine hlined fun hzero => ?_
    rw [hzero] at hdelay
    exact absurd hdelay (by decide)
  · rw [hpoint] at hlined
    refine hlined fun hzero => ?_
    rw [hzero] at hdelay
    exact absurd hdelay (by decide)

/-! ## The speed of the last event -/

/-- No event is delivered. -/
def Step.quiet : Step → Bool
  | .event _ => false
  | _ => true

/-- What the thread has read in the period that it is in. -/
def Fresh (v : Nat) : Point → Prop
  | .mark => True
  | .space mark => mark = v
  | .raise mark space | .high mark space | .lower mark space | .low mark space =>
    mark = v ∧ space = 1024 - v

/-- A thread whose value is not written, since it had these periods. Only the first new one may
have been begun before. -/
structure Steady (v : Nat) (before : List (Nat × Nat)) (m : Motor) : Prop where
  range : m.pwm.range = 1024
  value : m.pwm.value = v
  bound : v ≤ 1024
  periods : ∃ new, m.periods = before ++ new ∧
    (∀ period ∈ new.drop 1, period = (100 * v, 100 * (1024 - v))) ∧ (new ≠ [] → Fresh v m.point)

lemma Steady.process {v : Nat} {before : List (Nat × Nat)} (h : Steady v before m) :
    Steady v before m.process := by
  obtain ⟨new, hperiods, hnew, hfresh⟩ := h.periods
  rw [Motor.process]
  cases hpoint : m.point with
  | mark => exact ⟨h.range, h.value, h.bound, new, hperiods, hnew, fun _ => h.value⟩
  | space mark =>
    rw [hpoint] at hfresh
    exact ⟨h.range, h.value, h.bound, new, hperiods, hnew,
      fun hsome => ⟨hfresh hsome, by rw [h.range, h.value]⟩⟩
  | raise mark space | high mark space | lower mark space =>
    rw [hpoint] at hfresh
    exact ⟨h.range, h.value, h.bound, new, hperiods, hnew, hfresh⟩
  | low mark space =>
    rw [hpoint] at hfresh
    refine ⟨h.range, h.value, h.bound, new ++ [(delay mark, delay space)], ?_, ?_, fun _ => trivial⟩
    · simp only [hperiods, List.append_assoc]
    · rcases List.eq_nil_or_concat' new with rfl | ⟨new', period', rfl⟩
      · exact fun _ hmem => absurd hmem List.not_mem_nil
      · obtain ⟨rfl, rfl⟩ := hfresh (by simp)
        rw [List.drop_append_of_le_length (by simp), List.forall_mem_append]
        refine ⟨hnew, List.forall_mem_singleton.mpr ?_⟩
        have hv := h.bound
        have hspace : ((1024 : Int) - v) = ((1024 - v : Nat) : Int) := by omega
        rw [hspace, delay_eq hv, delay_eq (by omega)]

lemma steady_step {v : Nat} {before : List (Nat × Nat)} {side : Side} {next : Step}
    (hquiet : next.quiet = true) (hdone : s.todo = []) (h : Steady v before (s.motor side)) :
    (step s next).todo = [] ∧ Steady v before ((step s next).motor side) := by
  cases next with
  | event e => exact absurd hquiet Bool.false_ne_true
  | act =>
    rw [step, hdone]
    exact ⟨hdone, h⟩
  | thread side' =>
    refine ⟨hdone, ?_⟩
    change Steady v before (s.set side' Motor.process side)
    by_cases hside : side = side'
    · subst hside
      rw [s.set_self]
      exact h.process
    · rwa [s.set_of_ne hside]

lemma steady_run {v : Nat} {before : List (Nat × Nat)} {side : Side} {more : List Step}
    (hquiet : ∀ next ∈ more, next.quiet = true) (hdone : s.todo = [])
    (h : Steady v before (s.motor side)) : Steady v before ((run s more).motor side) := by
  induction more generalizing s with
  | nil => exact h
  | cons next more ih =>
    rw [List.forall_mem_cons] at hquiet
    obtain ⟨hdone', h'⟩ := steady_step hquiet.1 hdone h
    exact ih hquiet.2 hdone' h'

/-- As long as no event follows, every period but the one that is under way has the speed of the
last event. -/
theorem last_speed_kept (line : Side → Nat) (h : Side → SoftPwm.Handle) {steps more : List Step}
    (hdone : (run (start line h) steps).todo = []) (hquiet : ∀ next ∈ more, next.quiet = true)
    (side : Side) :
    let v := (given side (run (start line h) steps).events).getLastD 0
    ∃ new, ((run (start line h) (steps ++ more)).motor side).periods =
        ((run (start line h) steps).motor side).periods ++ new ∧
      ∀ period ∈ new.drop 1, period = (100 * v, 100 * (1024 - v)) := by
  intro v
  have hrun : run (start line h) (steps ++ more) = run (run (start line h) steps) more :=
    List.foldl_append
  obtain ⟨earlier, last, hsplit, hthreaded⟩ := ((driven_start line h side).run steps).split
  have hv : v = last := by
    rw [hdone, pending, List.filterMap_nil, List.append_nil] at hsplit
    change (given side (run (start line h) steps).events).getLastD 0 = last
    rw [hsplit]
    simp
  have hsteady : Steady v ((run (start line h) steps).motor side).periods
      ((run (start line h) steps).motor side) :=
    ⟨hthreaded.range, by rw [hv]; exact hthreaded.value,
      by rw [hv]; exact hthreaded.bound last (by simp), [], by simp, by simp, by simp⟩
  obtain ⟨new, hperiods, hnew, -⟩ := (steady_run hquiet hdone hsteady).periods
  exact ⟨new, by rw [hrun, hperiods], hnew⟩

/-! On two events. -/

def halt : JoystickEvent :=
  ⟨.gamepad, ⟨0, by decide⟩, ⟨0, by decide⟩, ⟨0, by decide⟩, ⟨0, by decide⟩, ⟨0, by decide⟩, false,
    false⟩

def ahead : JoystickEvent := { halt with axisLeftY := ⟨-32767, by decide⟩ }

def firstSteps : List Step :=
  [.thread .left, .event ahead, .act, .act, .act, .act, .act, .act]

def laterSteps : List Step := List.replicate 11 (.thread .left)

/-- The thread was in a period when the speed came, and has done one with the new speed. -/
theorem last_speed_kept_ahead :
    ∃ new, ((run (start (fun _ => 0) fun _ => ⟨1, by decide⟩) (firstSteps ++ laterSteps)).motor
        .left).periods = [] ++ new ∧
      ∀ period ∈ new.drop 1, period = (102400, 0) :=
  @last_speed_kept (fun _ => 0) (fun _ => ⟨1, by decide⟩) firstSteps laterSteps (by decide)
    (by decide) .left

-- The first period is over at once: its mark is of no event and its space of the event.
example : ((run (start (fun _ => 0) fun _ => ⟨1, by decide⟩) (firstSteps ++ laterSteps)).motor
    .left).periods = [(0, 0), (102400, 0)] := by decide

end DCMotor
