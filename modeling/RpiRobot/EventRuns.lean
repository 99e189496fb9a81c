import Mathlib.Data.List.Basic

/-!
# Runs of events

A system takes one event after another. A run meets a condition if each event meets it
in the state in which it happens; what every such step preserves holds after every such
run.
-/

namespace EventRuns

universe u v w

variable {S : Type u} {E : Type v} {step : S → E → S} {cond : S → E → Prop} {inv : S → Prop}

/-- Every event of the run meets the condition in the state it happens in. -/
def Meets (step : S → E → S) (cond : S → E → Prop) : S → List E → Prop
  | _, [] => True
  | s, e :: events => cond s e ∧ Meets step cond (step s e) events

instance [∀ s e, Decidable (cond s e)] : ∀ s events, Decidable (Meets step cond s events)
  | _, [] => .isTrue trivial
  | s, e :: events =>
    have := instDecidableMeets (step s e) events
    inferInstanceAs (Decidable (_ ∧ _))

lemma meets_append {s : S} {a b : List E} :
    Meets step cond s (a ++ b) ↔ Meets step cond s a ∧ Meets step cond (a.foldl step s) b := by
  induction a generalizing s with
  | nil => exact (and_iff_right trivial).symm
  | cons e a ih => exact (and_congr_right' ih).trans and_assoc.symm

lemma Meets.and {cond' : S → E → Prop} {s : S} {events : List E} (h : Meets step cond s events)
    (h' : Meets step cond' s events) :
    Meets step (fun s e => cond s e ∧ cond' s e) s events := by
  induction events generalizing s with
  | nil => trivial
  | cons e events ih => exact ⟨⟨h.1, h'.1⟩, ih h.2 h'.2⟩

/-- The rule for invariants. -/
theorem Meets.invariant (hstep : ∀ s e, inv s → cond s e → inv (step s e)) {s : S}
    {events : List E} (h : Meets step cond s events) (hs : inv s) :
    inv (events.foldl step s) := by
  induction events generalizing s with
  | nil => exact hs
  | cons e events ih => exact ih h.2 (hstep s e hs h.1)

/-- The rule for what a single step does, in any state that a run reaches. -/
theorem Meets.last (hstep : ∀ s e, inv s → cond s e → inv (step s e)) {s : S} {events : List E}
    {e : E} (h : Meets step cond s (events ++ [e])) (hs : inv s) :
    inv (events.foldl step s) ∧ cond (events.foldl step s) e := by
  obtain ⟨hfirst, hlast⟩ := meets_append.mp h
  exact ⟨hfirst.invariant hstep hs, hlast.1⟩

/-- Two conditions that agree where the run goes are met alike. -/
lemma Meets.congr {p q : S → E → Prop} (hstep : ∀ s e, inv s → cond s e → inv (step s e))
    (hagree : ∀ s e, inv s → cond s e → (p s e ↔ q s e)) {s : S} {events : List E}
    (h : Meets step cond s events) (hs : inv s) :
    Meets step p s events ↔ Meets step q s events := by
  induction events generalizing s with
  | nil => exact Iff.rfl
  | cons e events ih => exact and_congr (hagree s e hs h.1) (ih h.2 (hstep s e hs h.1))

/-- A condition on the state after each event is one on all states that the run reaches. -/
lemma meets_after_iff {p : S → Prop} {s : S} {events : List E} :
    Meets step (fun s e => p (step s e)) s events ↔
      ∀ k < events.length, p ((events.take (k + 1)).foldl step s) := by
  induction events generalizing s with
  | nil => exact iff_of_true trivial nofun
  | cons e events ih =>
    rw [Meets, ih]
    constructor
    · rintro ⟨hfirst, hrest⟩ k hk
      cases k with
      | zero => exact hfirst
      | succ k => exact hrest k (Nat.lt_of_succ_lt_succ hk)
    · intro h
      exact ⟨h 0 (Nat.succ_pos _), fun k hk => h (k + 1) (Nat.succ_lt_succ hk)⟩

/-- The rule for invariants that never come back: one that holds after an event just if it held
before and the event meets the condition. -/
theorem iff_meets (hstep : ∀ s e, inv (step s e) ↔ inv s ∧ cond s e) (events : List E) {s : S} :
    inv (events.foldl step s) ↔ inv s ∧ Meets step cond s events := by
  induction events generalizing s with
  | nil => exact (and_iff_left trivial).symm
  | cons e events ih =>
    calc inv ((e :: events).foldl step s)
        ↔ inv (step s e) ∧ Meets step cond (step s e) events := ih
      _ ↔ (inv s ∧ cond s e) ∧ Meets step cond (step s e) events := and_congr_left' (hstep s e)
      _ ↔ inv s ∧ Meets step cond s (e :: events) := and_assoc

/-- The rule for exact conditions: a system that agrees with an abstract one after an
event just if the event meets the condition agrees with it all along just if the whole
run does. -/
theorem agrees_iff_meets {A : Type w} {act : A → E → A} (agrees : A → S → Prop)
    (inv : A → Prop) (hinv : ∀ a e, inv a → inv (act a e))
    (hstep : ∀ a s e, inv a → agrees a s → (agrees (act a e) (step s e) ↔ cond s e))
    {a : A} {s : S} (ha : inv a) (has : agrees a s) (events : List E) :
    (∀ n, agrees ((events.take n).foldl act a) ((events.take n).foldl step s)) ↔
      Meets step cond s events := by
  induction events generalizing a s with
  | nil => exact ⟨fun _ => trivial, fun _ n => by simpa using has⟩
  | cons e events ih =>
    constructor
    · intro h
      have hone : agrees (act a e) (step s e) := h 1
      exact ⟨(hstep a s e ha has).mp hone, (ih (hinv a e ha) hone).mp fun n => h (n + 1)⟩
    · rintro ⟨hcond, hrest⟩ n
      have hone := (hstep a s e ha has).mpr hcond
      cases n with
      | zero => exact has
      | succ n => exact (ih (hinv a e ha) hone).mpr hrest n

variable (inv) in
/-- The rule for events that leave a trace: a measure that some events raise and no event
lowers is what it was just if the run has none of them. -/
theorem Meets.measure_eq_iff {clean : S → E → Prop} {m : S → Int}
    (hstep : ∀ s e, inv s → cond s e → inv (step s e))
    (hsame : ∀ s e, inv s → cond s e → clean s e → m (step s e) = m s)
    (hmore : ∀ s e, inv s → cond s e → ¬ clean s e → m s < m (step s e)) {s : S}
    {events : List E} (h : Meets step cond s events) (hs : inv s) :
    m (events.foldl step s) = m s ↔ Meets step clean s events := by
  suffices hboth : m s ≤ m (events.foldl step s) ∧
      (m (events.foldl step s) = m s ↔ Meets step clean s events) from hboth.2
  induction events generalizing s with
  | nil => exact ⟨Int.le_refl _, iff_of_true rfl trivial⟩
  | cons e events ih =>
    obtain ⟨hle, hiff⟩ := ih h.2 (hstep s e hs h.1)
    rw [List.foldl_cons]
    by_cases hclean : clean s e
    · have heq := hsame s e hs h.1 hclean
      rw [heq] at hle hiff
      exact ⟨hle, hiff.trans (and_iff_right hclean).symm⟩
    · have hlt := hmore s e hs h.1 hclean
      refine ⟨by omega, iff_of_false (by omega) fun hmeets => hclean hmeets.1⟩

/-! ## Runs that answer -/

section
variable {A : Type w} {S' : Type u}

/-- What the system answers to one call after another. -/
def answers (call : S → E → A × S) : S → List E → List A
  | _, [] => []
  | s, e :: events => (call s e).1 :: answers call (call s e).2 events

/-- The state after the calls. -/
def called (call : S → E → A × S) (s : S) (events : List E) : S :=
  events.foldl (fun s e => (call s e).2) s

/-- The rule for refinements: two systems that give the same answer to each call that meets the
condition, and stay related, give the same answers all along. -/
theorem answers_eq {call : S → E → A × S} {call' : S' → E → A × S'} (related : S → S' → Prop)
    {cond : S' → E → Prop}
    (hcall : ∀ s s' e, related s s' → cond s' e →
      (call s e).1 = (call' s' e).1 ∧ related (call s e).2 (call' s' e).2)
    {s : S} {s' : S'} {events : List E} (hs : related s s')
    (h : Meets (fun s e => (call' s e).2) cond s' events) :
    answers call s events = answers call' s' events ∧
      related (called call s events) (called call' s' events) := by
  induction events generalizing s s' with
  | nil => exact ⟨rfl, hs⟩
  | cons e events ih =>
    obtain ⟨hanswer, hnext⟩ := hcall s s' e hs h.1
    obtain ⟨hanswers, hlast⟩ := ih hnext h.2
    refine ⟨?_, hlast⟩
    rw [answers, answers, hanswer, hanswers]

end

/-! ## Runs that go on -/

/-- The state after the first events of an infinite run. -/
def after (step : S → E → S) (s : S) (events : Nat → E) : Nat → S
  | 0 => s
  | n + 1 => step (after step s events n) (events n)

/-- What each of the events preserves holds for ever. -/
theorem after_invariant {s : S} {events : Nat → E}
    (hstep : ∀ s n, inv s → inv (step s (events n))) (hs : inv s) (n : Nat) :
    inv (after step s events n) := by
  induction n with
  | zero => exact hs
  | succ n ih => exact hstep _ n ih

end EventRuns
