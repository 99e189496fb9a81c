import RpiRobot.EventRuns

/-!
# The distance sensor

`Srf05Sensor` measures in a thread of its own until `_shutdown` is set. The handler of
`ApplicationCloseEvent` stores zero there, which it has been from the beginning, and waits for
the thread. The thread waits in two loops for the line to rise and to fall again, and asks for
`_shutdown` in neither.
-/

namespace Srf05Sensor

open EventRuns

/-! ## The thread and the handler -/

/-- Where the thread is. -/
inductive Pc where
  | request
  | test
  | pulseUp
  | pulseDown
  | waitRise
  | waitFall
  | report
  | stopped
  deriving DecidableEq, Repr

structure Sensor where
  pc : Pc
  shutdown : Int
  /-- The value of the trigger line. -/
  trig : Int
  deriving DecidableEq, Repr

/-- After `postConstruct`. -/
def Sensor.init : Sensor := ⟨.request, 0, 0⟩

/-- One step of the thread; `echo` is the value that `get_value` yields in it. -/
def Sensor.measure (s : Sensor) (echo : Bool) : Sensor :=
  match s.pc with
  | .request => { s with pc := .test, trig := 0 }
  | .test => { s with pc := if s.shutdown = 0 then .pulseUp else .stopped }
  | .pulseUp => { s with pc := .pulseDown, trig := 1 }
  | .pulseDown => { s with pc := .waitRise, trig := 0 }
  | .waitRise => { s with pc := if echo then .waitFall else .waitRise }
  | .waitFall => { s with pc := if echo then .waitFall else .report }
  | .report => { s with pc := .test }
  | .stopped => s

/-- The handler of the close event, up to its `join`. -/
def Sensor.close (s : Sensor) : Sensor := { s with shutdown := 0 }

inductive Event where
  | measure (echo : Bool)
  | close
  deriving DecidableEq, Repr

def step (s : Sensor) : Event → Sensor
  | .measure echo => s.measure echo
  | .close => s.close

/-- A `join` that begins with the step `k` returns: the thread has ended after some more. -/
def JoinReturns (events : Nat → Event) (k : Nat) : Prop :=
  ∃ n, k < n ∧ (after step .init events n).pc = .stopped

/-! ## The end of the thread -/

/-- The thread is not asked to end and has not ended. -/
structure Measures (s : Sensor) : Prop where
  shutdown : s.shutdown = 0
  running : s.pc ≠ .stopped

variable {s : Sensor}

lemma measure_shutdown (s : Sensor) (echo : Bool) : (s.measure echo).shutdown = s.shutdown := by
  rw [Sensor.measure]
  split <;> rfl

/-- Only the test of the outer loop ends the thread. -/
lemma measure_stopped {echo : Bool} (h : (s.measure echo).pc = .stopped) :
    s.pc = .stopped ∨ s.pc = .test ∧ s.shutdown ≠ 0 := by
  obtain ⟨pc, shutdown, trig⟩ := s
  cases pc with
  | test =>
    refine .inr ⟨rfl, fun hzero => ?_⟩
    have hzero : shutdown = 0 := hzero
    simp [Sensor.measure, hzero] at h
  | stopped => exact .inl rfl
  | waitRise => cases echo <;> cases h
  | waitFall => cases echo <;> cases h
  | request | pulseUp | pulseDown | report => cases h

lemma Measures.step (h : Measures s) (e : Event) : Measures (step s e) := by
  cases e with
  | measure echo =>
    refine ⟨(measure_shutdown s echo).trans h.shutdown, fun hstopped => ?_⟩
    rcases measure_stopped hstopped with hpc | ⟨-, hshutdown⟩
    · exact h.running hpc
    · exact hshutdown h.shutdown
  | close => exact ⟨rfl, h.running⟩

lemma measures_after (events : Nat → Event) (n : Nat) :
    Measures (after Srf05Sensor.step .init events n) :=
  after_invariant (fun _ n hs => hs.step (events n)) ⟨rfl, by decide⟩ n

/-- The handler of the close event never comes back, whatever the line does and whenever the
event comes. -/
theorem join_never_returns (events : Nat → Event) (k : Nat) : ¬ JoinReturns events k := by
  rintro ⟨n, -, hstopped⟩
  exact (measures_after events n).running hstopped

/-- A line that answers at once, and a close event in the fourth step. -/
def answering (n : Nat) : Event := if n = 3 then .close else .measure (n % 2 = 0)

/-- The event is handled, and the thread measures for ever. -/
theorem answering_not_joined : answering 3 = .close ∧ ¬ JoinReturns answering 3 := by
  refine ⟨rfl, ?_⟩
  rintro ⟨n, -, hstopped⟩
  exact (measures_after answering n).running hstopped

/-! ## The inner loops -/

/-- What a loop waits for on the line. -/
def Pc.awaited : Pc → Option Bool
  | .waitRise => some true
  | .waitFall => some false
  | _ => none

lemma measure_awaited {level : Bool} (h : s.pc.awaited = some level) :
    (s.measure (!level)).pc = s.pc := by
  obtain ⟨pc, shutdown, trig⟩ := s
  cases pc with
  | waitRise =>
    obtain rfl : true = level := Option.some.inj h
    rfl
  | waitFall =>
    obtain rfl : false = level := Option.some.inj h
    rfl
  | request | test | pulseUp | pulseDown | report | stopped => cases h

/-- A line that does not change holds the thread in a loop, whatever `_shutdown` is. -/
theorem waits_for_ever {level : Bool} (hpc : s.pc.awaited = some level) {events : Nat → Event}
    (hline : ∀ n, events n = .measure (!level) ∨ events n = .close) (n : Nat) :
    (after step s events n).pc = s.pc := by
  have hstep : ∀ (t : Sensor) n, t.pc = s.pc → (step t (events n)).pc = s.pc := by
    intro t n ht
    rw [← ht] at hpc ⊢
    rcases hline n with hevent | hevent
    · rw [hevent]
      exact measure_awaited hpc
    · rw [hevent]
      rfl
  exact after_invariant hstep rfl n

end Srf05Sensor
