import Mathlib.Tactic.SplitIfs
import RpiRobot.EventRuns
import RpiRobot.OwnedHandles

/-!
# The descriptors of `I2CDriver`

An `I2CDriver` owns the descriptor in `_fd`, and `0` stands for none. Its constructors, its
move assignment and its destructor make the calls to `open` and `close`. The move assignment
asks whether there is a descriptor to close; the destructor does not.
-/

namespace I2CDriver

open EventRuns OwnedHandles

/-! ## The objects -/

structure State where
  /-- `_fd` of the objects that live. -/
  objects : Nat → Option Int
  /-- The successful calls to `open` and all calls to `close`. -/
  calls : List (Call Int)

def State.init : State := ⟨fun _ => none, []⟩

def close (fd : Int) (s : State) : State := { s with calls := s.calls ++ [.closed fd] }

def setFd (o : Nat) (fd : Option Int) (s : State) : State :=
  { s with objects := Function.update s.objects o fd }

/-- `int _fd{}`. -/
def construct (o : Nat) (s : State) : State := setFd o (some 0) s

/-- `fd` and `slave` are what `open` and `ioctl` return. Where one of them fails the
constructor throws, and there is no object. -/
def openDevice (o : Nat) (fd slave : Int) (s : State) : State :=
  if fd < 0 then s
  else
    let opened := { s with calls := s.calls ++ [.opened fd] }
    if slave < 0 then close fd opened else setFd o (some fd) opened

/-- The swap with the `_fd` of a new object. -/
def moveConstruct (o other : Nat) (s : State) : State :=
  setFd other (some 0) (setFd o (s.objects other) s)

/-- `if (_fd) close(_fd)`. -/
def closeHeld (o : Nat) (s : State) : State :=
  match s.objects o with
  | some fd => if fd ≠ 0 then close fd s else s
  | none => s

def moveAssign (o other : Nat) (s : State) : State :=
  if o ≠ other then setFd other (some 0) (setFd o (s.objects other) (closeHeld o s)) else s

def destroy (o : Nat) (s : State) : State :=
  match s.objects o with
  | some fd => setFd o none (close fd s)
  | none => s

inductive Event where
  | construct (o : Nat)
  | openDevice (o : Nat) (fd slave : Int)
  | moveConstruct (o other : Nat)
  | moveAssign (o other : Nat)
  | destroy (o : Nat)
  deriving DecidableEq, Repr

def step (s : State) : Event → State
  | .construct o => construct o s
  | .openDevice o fd slave => openDevice o fd slave s
  | .moveConstruct o other => moveConstruct o other s
  | .moveAssign o other => moveAssign o other s
  | .destroy o => destroy o s

/-- A constructor is given an object that does not live yet, everything else objects that
do, and `open` returns no descriptor that is open. -/
def Enabled (s : State) : Event → Prop
  | .construct o => s.objects o = none
  | .openDevice o fd _ => s.objects o = none ∧ ¬ IsOpen fd s.calls
  | .moveConstruct o other => s.objects o = none ∧ s.objects other ≠ none
  | .moveAssign o other => s.objects o ≠ none ∧ s.objects other ≠ none
  | .destroy o => s.objects o ≠ none

instance (s : State) : ∀ e, Decidable (Enabled s e)
  | .construct _ => inferInstanceAs (Decidable (_ = _))
  | .openDevice _ _ _ => inferInstanceAs (Decidable (_ ∧ _))
  | .moveConstruct _ _ => inferInstanceAs (Decidable (_ ∧ _))
  | .moveAssign _ _ => inferInstanceAs (Decidable (_ ∧ _))
  | .destroy _ => inferInstanceAs (Decidable (_ ≠ _))

/-- No object is left without a descriptor. -/
def KeepsFds (s : State) : Event → Prop
  | .construct _ => False
  | .openDevice _ _ _ => True
  | .moveConstruct _ _ => False
  | .moveAssign o other => o = other ∨ s.objects o = some 0
  | .destroy _ => True

instance (s : State) : ∀ e, Decidable (KeepsFds s e)
  | .construct _ => .isFalse id
  | .openDevice _ _ _ => .isTrue trivial
  | .moveConstruct _ _ => .isFalse id
  | .moveAssign _ _ => inferInstanceAs (Decidable (_ ∨ _))
  | .destroy _ => .isTrue trivial

/-! ## One event -/

variable {s : State} {e : Event} {fd : Int} {o other : Nat}

lemma setFd_of_ne (hne : other ≠ o) (held : Option Int) (s : State) :
    (setFd o held s).objects other = s.objects other :=
  Function.update_of_ne hne _ _

@[simp] lemma closeHeld_objects (o : Nat) (s : State) : (closeHeld o s).objects = s.objects := by
  rw [closeHeld]
  split
  · split_ifs <;> rfl
  · rfl

lemma closeHeld_calls (h : s.objects o = some fd) :
    (closeHeld o s).calls = if fd ≠ 0 then s.calls ++ [.closed fd] else s.calls := by
  simp only [closeHeld, h]
  split_ifs <;> rfl

/-- What an event may add to the calls. -/
lemma step_calls (h : Enabled s e) :
    (step s e).calls = s.calls ∨
      (∃ fd, ¬ IsOpen fd s.calls ∧ (step s e).calls = s.calls ++ [.opened fd]) ∨
      (∃ fd, ¬ IsOpen fd s.calls ∧
        (step s e).calls = s.calls ++ [.opened fd] ++ [.closed fd]) ∨
      ∃ fd o, s.objects o = some fd ∧ (step s e).calls = s.calls ++ [.closed fd] := by
  cases e with
  | construct o | moveConstruct o other => exact .inl rfl
  | openDevice o fd slave =>
    obtain ⟨-, hclosed⟩ := h
    simp only [step, openDevice]
    split_ifs with hfd hslave
    · exact .inl rfl
    · exact .inr (.inr (.inl ⟨fd, hclosed, rfl⟩))
    · exact .inr (.inl ⟨fd, hclosed, rfl⟩)
  | moveAssign o other =>
    obtain ⟨fd, hfd⟩ := Option.ne_none_iff_exists'.mp h.1
    simp only [step, moveAssign, setFd]
    split_ifs with hne
    · rw [closeHeld_calls hfd]
      split_ifs with hzero
      · exact .inr (.inr (.inr ⟨fd, o, hfd, rfl⟩))
      · exact .inl rfl
    · exact .inl rfl
  | destroy o =>
    obtain ⟨fd, hfd⟩ := Option.ne_none_iff_exists'.mp h
    exact .inr (.inr (.inr ⟨fd, o, hfd, by simp [step, destroy, hfd, setFd, close]⟩))

lemma step_live (hfin : (live s.objects).Finite) (e : Event) :
    (live (step s e).objects).Finite := by
  cases e with
  | construct o => exact live_update_finite hfin
  | openDevice o fd slave =>
    simp only [step, openDevice]
    split_ifs
    · exact hfin
    · exact hfin
    · exact live_update_finite hfin
  | moveConstruct o other => exact live_update_finite (live_update_finite hfin)
  | moveAssign o other =>
    simp only [step, moveAssign]
    split_ifs
    · exact live_update_finite (live_update_finite (by rwa [closeHeld_objects]))
    · exact hfin
  | destroy o =>
    simp only [step, destroy]
    split
    · exact live_update_finite hfin
    · exact hfin

/-- How many objects will close the descriptor beyond the closes that it needs. -/
noncomputable def surplus (fd : Int) (s : State) : ℤ :=
  (holders s.objects fd).ncard - pending fd s.calls

/-- What `_fd` of one object is makes a difference of one at most. -/
lemma surplus_setFd (hfin : (live s.objects).Finite) (o : Nat) (held : Option Int) (fd : Int) :
    surplus fd (setFd o held s) + (if s.objects o = some fd then 1 else 0) =
      surplus fd s + if held = some fd then 1 else 0 := by
  have hcount := ncard_holders_update hfin o held fd
  simp only [surplus, setFd]
  omega

lemma surplus_close (fd fd' : Int) (s : State) :
    surplus fd (close fd' s) = surplus fd s + if fd' = fd then 1 else 0 := by
  simp only [surplus, close, pending_append, pending_closed]
  split_ifs <;> omega

lemma surplus_closeHeld (h : s.objects o = some fd) (fd' : Int) :
    surplus fd' (closeHeld o s) = surplus fd' s + if fd ≠ 0 ∧ fd = fd' then 1 else 0 := by
  rw [closeHeld, h]
  by_cases hfd : fd = 0
  · simp [hfd]
  · simp [hfd, surplus_close]

section
variable (hfin : (live s.objects).Finite) (fd : Int)
include hfin

lemma surplus_construct (h : s.objects o = none) :
    surplus fd (construct o s) = surplus fd s + if fd = 0 then 1 else 0 := by
  have hset := surplus_setFd hfin o (some 0) fd
  simp only [h, reduceCtorEq, if_false, Option.some.injEq, @eq_comm _ 0 fd] at hset
  rw [construct]
  omega

/-- A constructor that throws has closed what it opened. -/
lemma surplus_openDevice (h : s.objects o = none) (fd' slave : Int) :
    surplus fd (openDevice o fd' slave s) = surplus fd s := by
  have hopened : surplus fd { s with calls := s.calls ++ [.opened fd'] } =
      surplus fd s - if fd' = fd then 1 else 0 := by
    simp only [surplus, pending_append, pending_opened]
    omega
  simp only [openDevice]
  split_ifs with hfd hslave
  · rfl
  · rw [surplus_close, hopened]
    omega
  · have hset := surplus_setFd (s := { s with calls := s.calls ++ [.opened fd'] }) hfin o
      (some fd') fd
    simp only [h, reduceCtorEq, if_false, Option.some.injEq, hopened] at hset
    omega

lemma surplus_moveConstruct (h : s.objects o = none) (hother : s.objects other ≠ none) :
    surplus fd (moveConstruct o other s) = surplus fd s + if fd = 0 then 1 else 0 := by
  have hne : other ≠ o := fun heq => hother (heq ▸ h)
  have hfirst := surplus_setFd hfin o (s.objects other) fd
  have hsecond := surplus_setFd (live_update_finite hfin) other (some 0) fd
    (s := setFd o (s.objects other) s)
  simp only [h, reduceCtorEq, if_false] at hfirst
  simp only [setFd_of_ne hne, Option.some.injEq, @eq_comm _ 0 fd] at hsecond
  rw [moveConstruct]
  omega

/-- An object that held `0` takes over without leaving one that holds `0` more. -/
lemma surplus_moveAssign {old : Int} (h : s.objects o = some old) (other : Nat) :
    surplus fd (moveAssign o other s) =
      surplus fd s + if fd = 0 ∧ ¬ (o = other ∨ old = 0) then 1 else 0 := by
  by_cases heq : o = other
  · simp [moveAssign, heq]
  have hclosed := surplus_closeHeld h fd
  have hfin' : (live (closeHeld o s).objects).Finite := by rwa [closeHeld_objects]
  have hfirst := surplus_setFd hfin' o (s.objects other) fd
  have hsecond := surplus_setFd (live_update_finite hfin') other (some 0) fd
    (s := setFd o (s.objects other) (closeHeld o s))
  simp only [closeHeld_objects, h, Option.some.injEq] at hfirst
  simp only [setFd_of_ne (Ne.symm heq), closeHeld_objects, Option.some.injEq,
    @eq_comm _ 0 fd] at hsecond
  simp only [moveAssign, heq, ne_eq, not_false_eq_true, if_true, false_or]
  by_cases hzero : old = 0
  · simp only [hzero, @eq_comm _ 0 fd] at hfirst hclosed ⊢
    simp only [ne_eq, not_true_eq_false, false_and, and_false, if_false] at hclosed ⊢
    omega
  · simp only [hzero, ne_eq, not_false_eq_true, true_and, and_true] at hclosed ⊢
    omega

lemma surplus_destroy {held : Int} (h : s.objects o = some held) :
    surplus fd (destroy o s) = surplus fd s := by
  have hset := surplus_setFd (s := close held s) hfin o none fd
  have hobjects : (close held s).objects o = some held := h
  simp only [hobjects, surplus_close, Option.some.injEq, reduceCtorEq, if_false] at hset
  simp only [destroy, h]
  omega

/-- Each object that is left without a descriptor will close descriptor `0`. -/
lemma surplus_step (h : Enabled s e) :
    surplus fd (step s e) = surplus fd s + if fd = 0 ∧ ¬ KeepsFds s e then 1 else 0 := by
  cases e with
  | construct o => simpa [step, KeepsFds] using surplus_construct hfin fd h
  | openDevice o fd' slave => simpa [step, KeepsFds] using surplus_openDevice hfin fd h.1 fd' slave
  | moveConstruct o other => simpa [step, KeepsFds] using surplus_moveConstruct hfin fd h.1 h.2
  | moveAssign o other =>
    obtain ⟨old, hold⟩ := Option.ne_none_iff_exists'.mp h.1
    simpa [step, KeepsFds, hold] using surplus_moveAssign hfin fd hold other
  | destroy o =>
    obtain ⟨held, hheld⟩ := Option.ne_none_iff_exists'.mp h
    simpa [step, KeepsFds] using surplus_destroy hfin fd hheld

end

/-! ## Runs -/

/-- The objects that live are finitely many, as many of them hold the descriptor as it needs
closes, and it is open or not. -/
structure Tidy (fd : Int) (s : State) : Prop where
  finite : (live s.objects).Finite
  surplus : surplus fd s = 0
  calls : Alternates fd s.calls

lemma init_live : (live State.init.objects).Finite := by
  simp [live, State.init]

lemma init_surplus (fd : Int) : surplus fd State.init = 0 := by
  simp [surplus, holders, State.init, pending]

lemma init_tidy (fd : Int) : Tidy fd State.init :=
  ⟨init_live, init_surplus fd, .inl (settled_nil fd)⟩

/-- A descriptor that an object holds is open. -/
lemma Tidy.outstanding (ht : Tidy fd s) (h : s.objects o = some fd) :
    Outstanding fd s.calls := by
  refine ht.calls.resolve_left fun hsettled => ?_
  have hmem : o ∈ holders s.objects fd := h
  have hpos := (Set.ncard_pos (holders_finite ht.finite fd)).mpr ⟨o, hmem⟩
  have hzero := ht.surplus
  rw [I2CDriver.surplus, hsettled.pending] at hzero
  omega

lemma Tidy.step (ht : Tidy fd s) (h : Enabled s e) (hkeeps : fd = 0 → KeepsFds s e) :
    Tidy fd (step s e) := by
  refine ⟨step_live ht.finite e, ?_, ?_⟩
  · rw [surplus_step ht.finite fd h, ht.surplus, if_neg (by tauto), add_zero]
  · rcases step_calls h with hcalls | ⟨fd', hclosed, hcalls⟩ | ⟨fd', hclosed, hcalls⟩ |
      ⟨fd', o, ho, hcalls⟩
    · rw [hcalls]
      exact ht.calls
    · rw [hcalls]
      exact ht.calls.open_ hclosed
    · rw [hcalls]
      refine (ht.calls.open_ hclosed).close fun heq => ?_
      subst fd'
      exact (ht.calls.settled hclosed).open_
    · rw [hcalls]
      exact ht.calls.close fun heq => ht.outstanding (heq ▸ ho)

variable {events : List Event}

/-- The state after the events. -/
def run (events : List Event) : State := events.foldl step State.init

/-- Every object is destroyed in the end. -/
def Complete (events : List Event) : Prop :=
  Meets step Enabled State.init events ∧ ∀ o, (run events).objects o = none

lemma holders_empty (h : ∀ o, s.objects o = none) (fd : Int) :
    (holders s.objects fd).ncard = 0 := by
  simp [holders, h]

lemma Tidy.settled_end (ht : Tidy fd s) (h : ∀ o, s.objects o = none) : Settled fd s.calls := by
  refine ht.calls.resolve_right fun hopen => ?_
  have hzero := ht.surplus
  rw [I2CDriver.surplus, hopen.pending, holders_empty h] at hzero
  omega

/-- A descriptor that is not `0` is closed once whatever the objects are used for. -/
theorem settled_of_ne_zero (h : Complete events) (hfd : fd ≠ 0) :
    Settled fd (run events).calls := by
  have htidy : Tidy fd (run events) :=
    h.1.invariant (fun s e hs he => hs.step he fun hzero => absurd hzero hfd) (init_tidy fd)
  exact htidy.settled_end h.2

lemma settled_zero (h : Complete events) (hkeeps : Meets step KeepsFds State.init events) :
    Settled 0 (run events).calls := by
  have htidy : Tidy 0 (run events) :=
    (h.1.and hkeeps).invariant (fun s e hs he => hs.step he.1 fun _ => he.2) (init_tidy 0)
  exact htidy.settled_end h.2

/-- The descriptors are closed once each, and no others, just if no object is ever left
without a descriptor. -/
theorem closedOnce_iff (h : Complete events) :
    ClosedOnce (run events).calls ↔ Meets step KeepsFds State.init events := by
  have hend : surplus 0 (run events) = surplus 0 State.init ↔
      Meets step KeepsFds State.init events := by
    refine h.1.measure_eq_iff (fun s => (live s.objects).Finite)
      (fun s e hs _ => step_live hs e) (fun s e hs he hkeeps => ?_)
      (fun s e hs he hkeeps => ?_) init_live
    · rw [surplus_step hs 0 he, if_neg (fun hand => hand.2 hkeeps), add_zero]
    · rw [surplus_step hs 0 he, if_pos ⟨rfl, hkeeps⟩]
      omega
  constructor
  · intro hlog
    refine hend.mp ?_
    rw [surplus, (hlog 0).pending, holders_empty h.2, init_surplus]
    rfl
  · intro hkeeps fd
    by_cases hfd : fd = 0
    · rw [hfd]
      exact settled_zero h hkeeps
    · exact settled_of_ne_zero h hfd

/-- An assignment to an object that holds descriptor `0` is as good as a swap. -/
theorem closedOnce_iff_swapped :
    Complete [.openDevice 0 0 0, .openDevice 1 5 0, .openDevice 2 6 (-1), .moveAssign 0 1,
        .destroy 0, .destroy 1] ∧
      (ClosedOnce (run [.openDevice 0 0 0, .openDevice 1 5 0, .openDevice 2 6 (-1),
          .moveAssign 0 1, .destroy 0, .destroy 1]).calls ↔
        Meets step KeepsFds State.init [.openDevice 0 0 0, .openDevice 1 5 0,
          .openDevice 2 6 (-1), .moveAssign 0 1, .destroy 0, .destroy 1]) := by
  have hcomplete : Complete [.openDevice 0 0 0, .openDevice 1 5 0, .openDevice 2 6 (-1),
      .moveAssign 0 1, .destroy 0, .destroy 1] := by
    refine ⟨by decide, fun o => ?_⟩
    by_cases hfirst : o = 0 <;> by_cases hsecond : o = 1 <;>
      simp [run, step, openDevice, moveAssign, closeHeld, destroy, setFd, close, State.init,
        hfirst, hsecond]
  exact ⟨hcomplete, closedOnce_iff hcomplete⟩

/-- The display of `I2CLcd1602` is never opened, and closes descriptor `0` all the same. -/
theorem default_closes_zero :
    Complete [.construct 0, .destroy 0] ∧
      ¬ ClosedOnce (run [.construct 0, .destroy 0]).calls := by
  have hcomplete : Complete [.construct 0, .destroy 0] := by
    refine ⟨by decide, fun o => ?_⟩
    by_cases ho : o = 0 <;> simp [run, step, construct, destroy, setFd, close, State.init, ho]
  refine ⟨hcomplete, fun hlog => ?_⟩
  exact absurd (hlog 0).pending (by decide)

end I2CDriver
