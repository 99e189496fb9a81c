import Mathlib.Data.List.Basic

/-!
# The software PWM

`soft_pwm` drives a line from a thread of its own, whose handle its member `_thread` holds;
zero stands for no thread. The tests of `setup` and `shutdown` are the wrong way round, so
a thread that runs is never ended, and what is cancelled and joined is the handle zero.
-/

namespace SoftPwm

/-- What `pthread_create` yields is not zero. -/
abbrev Handle := { h : Nat // h ≠ 0 }

inductive Routine where
  | cancel
  | join
  deriving DecidableEq, Repr

/-- A use of a handle, and whether it was the handle of a live thread of the object. -/
structure Call where
  routine : Routine
  handle : Nat
  live : Bool
  deriving DecidableEq, Repr

/-- The object and what the system knows of its threads. -/
structure Pwm where
  range : Int
  value : Int
  line : Option Nat
  thread : Nat
  live : List Nat
  cancelled : List Nat
  calls : List Call
  deriving DecidableEq, Repr

namespace Pwm

/-- The members as their initialisers leave them. -/
def init : Pwm := ⟨0, 0, none, 0, [], [], []⟩

/-! POSIX threads. A handle of no live thread has no effect here. -/

def pthreadCreate (h : Handle) (s : Pwm) : Pwm :=
  { s with thread := h, live := s.live ++ [h.val] }

def pthreadCancel (h : Nat) (s : Pwm) : Pwm :=
  { s with
    cancelled := if h ∈ s.live then s.cancelled ++ [h] else s.cancelled
    calls := s.calls ++ [⟨.cancel, h, decide (h ∈ s.live)⟩] }

/-- A thread that has been cancelled is live until it is joined. -/
def pthreadJoin (h : Nat) (s : Pwm) : Pwm :=
  { s with
    live := if h ∈ s.cancelled then s.live.erase h else s.live
    calls := s.calls ++ [⟨.join, h, decide (h ∈ s.live)⟩] }

/-! The members of `soft_pwm`. -/

def shutdown (s : Pwm) : Pwm :=
  let s := if s.thread = 0 then pthreadJoin s.thread (pthreadCancel s.thread s) else s
  { s with thread := 0 }

def setup (line : Nat) (initialValue pwmRange : Int) (h : Handle) (s : Pwm) : Pwm :=
  let s := if s.thread = 0 then s.shutdown else s
  pthreadCreate h { s with line := some line, value := initialValue, range := pwmRange }

def write (value : Int) (s : Pwm) : Pwm :=
  { s with value := if value < 0 then 0 else if value > s.range then s.range else value }

end Pwm

inductive Construction where
  | default
  | values (line : Nat) (initialValue pwmRange : Int) (h : Handle)

/-- The handle is the one that `pthread_create` yields in the call. -/
inductive Op where
  | setup (line : Nat) (initialValue pwmRange : Int) (h : Handle)
  | write (value : Int)
  | shutdown
  deriving DecidableEq

def construct : Construction → Pwm
  | .default => .init
  | .values line initialValue pwmRange h => Pwm.init.setup line initialValue pwmRange h

def step (s : Pwm) : Op → Pwm
  | .setup line initialValue pwmRange h => s.setup line initialValue pwmRange h
  | .write value => s.write value
  | .shutdown => s.shutdown

def run (c : Construction) (ops : List Op) : Pwm := ops.foldl step (construct c)

/-- After the destructor. -/
def destroyed (c : Construction) (ops : List Op) : Pwm := (run c ops).shutdown

/-- One thread at a time, none after a shutdown and none after the destruction, and only
live threads are cancelled and joined. -/
structure Lifecycle (c : Construction) (ops : List Op) : Prop where
  single : ∀ n, (run c (ops.take n)).live.length ≤ 1
  stopped : ∀ n, ops[n]? = some .shutdown → (run c (ops.take (n + 1))).live = []
  ended : (destroyed c ops).live = []
  valid : ∀ call ∈ (destroyed c ops).calls, call.live = true

/-! ## Handles that are used -/

variable {s : Pwm}

/-- The handle of no thread has been used. -/
def Misused (s : Pwm) : Prop := ∃ call ∈ s.calls, call.live = false

lemma shutdown_calls (s : Pwm) : s.calls <+: s.shutdown.calls := by
  by_cases hzero : s.thread = 0
  · simp [Pwm.shutdown, hzero, Pwm.pthreadCancel, Pwm.pthreadJoin]
  · simp [Pwm.shutdown, hzero]

lemma step_calls (s : Pwm) (op : Op) : s.calls <+: (step s op).calls := by
  cases op with
  | setup line initialValue pwmRange h =>
    by_cases hzero : s.thread = 0
    · simpa [step, Pwm.setup, hzero, Pwm.pthreadCreate] using shutdown_calls s
    · simp [step, Pwm.setup, hzero, Pwm.pthreadCreate]
  | write value => simp [step, Pwm.write]
  | shutdown => exact shutdown_calls s

lemma Misused.mono {s' : Pwm} (h : Misused s) (hcalls : s.calls <+: s'.calls) : Misused s' := by
  obtain ⟨call, hmem, hdead⟩ := h
  exact ⟨call, hcalls.subset hmem, hdead⟩

lemma Misused.run {ops : List Op} (h : Misused s) : Misused (ops.foldl step s) := by
  induction ops generalizing s with
  | nil => exact h
  | cons op ops ih => exact ih (h.mono (step_calls s op))

/-- A shutdown without a thread uses the handle zero. -/
lemma shutdown_misused (hthread : s.thread = 0) (hlive : 0 ∉ s.live) : Misused s.shutdown := by
  refine ⟨⟨.cancel, 0, false⟩, ?_, rfl⟩
  simp [Pwm.shutdown, Pwm.pthreadCancel, Pwm.pthreadJoin, hthread, hlive]

lemma setup_misused (hthread : s.thread = 0) (hlive : 0 ∉ s.live) (line : Nat)
    (initialValue pwmRange : Int) (h : Handle) :
    Misused (s.setup line initialValue pwmRange h) := by
  have hshutdown := shutdown_misused hthread hlive
  obtain ⟨call, hmem, hdead⟩ := hshutdown
  exact ⟨call, by simpa [Pwm.setup, hthread, Pwm.pthreadCreate] using hmem, hdead⟩

/-- Whatever comes first, a setup, a shutdown or the destruction, misuses the handle. -/
lemma run_misused (hthread : s.thread = 0) (hlive : 0 ∉ s.live) (ops : List Op) :
    Misused (ops.foldl step s).shutdown := by
  induction ops generalizing s with
  | nil => exact shutdown_misused hthread hlive
  | cons op ops ih =>
    cases op with
    | setup line initialValue pwmRange h =>
      have hsetup := setup_misused hthread hlive line initialValue pwmRange h
      exact hsetup.run.mono (shutdown_calls _)
    | write value => exact ih hthread hlive
    | shutdown => exact (shutdown_misused hthread hlive).run.mono (shutdown_calls _)

lemma destroyed_misused (c : Construction) (ops : List Op) : Misused (destroyed c ops) := by
  cases c with
  | default => exact run_misused rfl List.not_mem_nil ops
  | values line initialValue pwmRange h =>
    have hconstruct := setup_misused (s := .init) rfl List.not_mem_nil line initialValue pwmRange h
    exact hconstruct.run.mono (shutdown_calls _)

/-- No object keeps the lifecycle: each cancels and joins the handle zero. -/
theorem lifecycle_never (c : Construction) (ops : List Op) : ¬Lifecycle c ops := by
  intro h
  obtain ⟨call, hmem, hdead⟩ := destroyed_misused c ops
  exact absurd (h.valid call hmem) (by rw [hdead]; decide)

/-- A thread outlives the object that has started it. -/
theorem thread_outlives_object :
    (destroyed (.values 13 0 1024 ⟨1, by decide⟩) []).live = [1] ∧
      ¬Lifecycle (.values 13 0 1024 ⟨1, by decide⟩) [] :=
  ⟨by decide, fun h => absurd h.ended (by decide)⟩

/-! ## Threads that are never ended -/

def Op.created : Op → List Nat
  | .setup _ _ _ h => [h.val]
  | _ => []

def Construction.created : Construction → List Nat
  | .default => []
  | .values _ _ _ h => [h.val]

/-- Nothing has been cancelled, and zero is no thread. -/
structure Unended (s : Pwm) : Prop where
  zero : 0 ∉ s.live
  cancelled : s.cancelled = []

lemma shutdown_unended (h : Unended s) : Unended s.shutdown ∧ s.shutdown.live = s.live := by
  obtain ⟨hzero, hcancelled⟩ := h
  by_cases hthread : s.thread = 0
  · have hsame : s.shutdown.live = s.live ∧ s.shutdown.cancelled = [] := by
      simp [Pwm.shutdown, Pwm.pthreadCancel, Pwm.pthreadJoin, hthread, hzero, hcancelled]
    exact ⟨⟨hsame.1 ▸ hzero, hsame.2⟩, hsame.1⟩
  · have hsame : s.shutdown = { s with thread := 0 } := by simp [Pwm.shutdown, hthread]
    rw [hsame]
    exact ⟨⟨hzero, hcancelled⟩, rfl⟩

lemma setup_unended (h : Unended s) (line : Nat) (initialValue pwmRange : Int) (handle : Handle) :
    Unended (s.setup line initialValue pwmRange handle) ∧
      (s.setup line initialValue pwmRange handle).live = s.live ++ [handle.val] := by
  obtain ⟨hunended, hlive⟩ := shutdown_unended h
  have hnonzero : 0 ≠ handle.val := handle.property.symm
  by_cases hthread : s.thread = 0
  · refine ⟨⟨?_, ?_⟩, ?_⟩
    · simp [Pwm.setup, hthread, Pwm.pthreadCreate, hunended.zero, hnonzero]
    · simp [Pwm.setup, hthread, Pwm.pthreadCreate, hunended.cancelled]
    · simp [Pwm.setup, hthread, Pwm.pthreadCreate, hlive]
  · refine ⟨⟨?_, ?_⟩, ?_⟩
    · simp [Pwm.setup, hthread, Pwm.pthreadCreate, h.zero, hnonzero]
    · simp [Pwm.setup, hthread, Pwm.pthreadCreate, h.cancelled]
    · simp [Pwm.setup, hthread, Pwm.pthreadCreate]

lemma step_unended (h : Unended s) (op : Op) :
    Unended (step s op) ∧ (step s op).live = s.live ++ op.created := by
  cases op with
  | setup line initialValue pwmRange handle =>
    exact setup_unended h line initialValue pwmRange handle
  | write value => exact ⟨⟨h.zero, h.cancelled⟩, (List.append_nil _).symm⟩
  | shutdown =>
    obtain ⟨hunended, hlive⟩ := shutdown_unended h
    exact ⟨hunended, hlive.trans (List.append_nil _).symm⟩

lemma run_unended (h : Unended s) (ops : List Op) :
    Unended (ops.foldl step s) ∧
      (ops.foldl step s).live = s.live ++ ops.flatMap Op.created := by
  induction ops generalizing s with
  | nil => exact ⟨h, (List.append_nil _).symm⟩
  | cons op ops ih =>
    obtain ⟨hstep, hlive⟩ := step_unended h op
    obtain ⟨hrun, hall⟩ := ih hstep
    refine ⟨hrun, ?_⟩
    rw [List.foldl_cons, hall, hlive, List.flatMap_cons, List.append_assoc]

lemma construct_unended (c : Construction) :
    Unended (construct c) ∧ (construct c).live = c.created := by
  have hinit : Unended .init := ⟨List.not_mem_nil, rfl⟩
  cases c with
  | default => exact ⟨hinit, rfl⟩
  | values line initialValue pwmRange handle =>
    exact setup_unended hinit line initialValue pwmRange handle

/-- Every thread that the object has started is live after its destruction. -/
theorem destroyed_live (c : Construction) (ops : List Op) :
    (destroyed c ops).live = c.created ++ ops.flatMap Op.created := by
  obtain ⟨hconstruct, hcreated⟩ := construct_unended c
  obtain ⟨hrun, hlive⟩ := run_unended hconstruct ops
  have hended := (shutdown_unended hrun).2
  rw [hcreated] at hlive
  exact hended.trans hlive

end SoftPwm
