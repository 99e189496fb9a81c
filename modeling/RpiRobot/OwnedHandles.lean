import Mathlib.Data.Set.Card
import Mathlib.Data.List.Flatten

/-!
# Handles, their owners and the calls that open and close them

A log of the calls is in order if every opened handle is closed once before it is opened
again, and no other handle is closed. Owners hold at most one handle each; how many of them
hold one handle is compared with how many closes its log still lacks.
-/

namespace OwnedHandles

universe u v

inductive Call (H : Type u) where
  | opened (h : H)
  | closed (h : H)
  deriving DecidableEq, Repr

def Call.handle {H : Type u} : Call H → H
  | .opened h => h
  | .closed h => h

section
variable {H : Type u} [DecidableEq H] {h h' : H} {log : List (Call H)} {c : Call H}

/-! ## The calls on one handle -/

def callsOn (h : H) (log : List (Call H)) : List (Call H) :=
  log.filter fun c => decide (c.handle = h)

omit [DecidableEq H] in
/-- Opened and closed so many times. -/
def pairs (h : H) (k : Nat) : List (Call H) :=
  (List.replicate k [Call.opened h, Call.closed h]).flatten

/-- Each open of the handle is followed by its one close. -/
def Settled (h : H) (log : List (Call H)) : Prop := ∃ k, callsOn h log = pairs h k

/-- Only the last open of the handle is not followed by its close. -/
def Outstanding (h : H) (log : List (Call H)) : Prop :=
  ∃ k, callsOn h log = pairs h k ++ [.opened h]

/-- The calls on the handle open and close it in turn. -/
def Alternates (h : H) (log : List (Call H)) : Prop := Settled h log ∨ Outstanding h log

/-- Every handle that is opened is closed once, and no other is closed. -/
def ClosedOnce (log : List (Call H)) : Prop := ∀ h, Settled h log

/-- The last call on the handle opened it. -/
def IsOpen (h : H) (log : List (Call H)) : Prop :=
  (callsOn h log).getLast? = some (.opened h)

instance : Decidable (IsOpen h log) := inferInstanceAs (Decidable (_ = _))

/-- How many closes are missing. -/
def pending (h : H) (log : List (Call H)) : ℤ :=
  (log.count (.opened h) : ℤ) - log.count (.closed h)

@[simp] lemma callsOn_append (h : H) (a b : List (Call H)) :
    callsOn h (a ++ b) = callsOn h a ++ callsOn h b := List.filter_append _ _

lemma callsOn_single : callsOn h [c] = if c.handle = h then [c] else [] := by
  simp [callsOn, List.filter_cons]

omit [DecidableEq H] in
lemma pairs_succ (h : H) (k : Nat) :
    pairs h (k + 1) = pairs h k ++ [.opened h, .closed h] := by
  rw [pairs, List.replicate_succ', List.flatten_append]
  rfl

lemma settled_nil (h : H) : Settled h [] := ⟨0, rfl⟩

lemma Settled.open_ (hlog : Settled h log) : Outstanding h (log ++ [.opened h]) := by
  obtain ⟨k, hk⟩ := hlog
  exact ⟨k, by simp [hk, callsOn_single, Call.handle]⟩

lemma Outstanding.close (hlog : Outstanding h log) : Settled h (log ++ [.closed h]) := by
  obtain ⟨k, hk⟩ := hlog
  exact ⟨k + 1, by simp [hk, callsOn_single, Call.handle, pairs_succ]⟩

lemma Outstanding.isOpen (hlog : Outstanding h log) : IsOpen h log := by
  obtain ⟨k, hk⟩ := hlog
  rw [IsOpen, hk, List.getLast?_concat]

lemma Alternates.append_of_ne (hlog : Alternates h log) (hne : c.handle ≠ h) :
    Alternates h (log ++ [c]) := by
  have hcalls : callsOn h (log ++ [c]) = callsOn h log := by
    rw [callsOn_append, callsOn_single, if_neg hne, List.append_nil]
  rcases hlog with ⟨k, hk⟩ | ⟨k, hk⟩
  · exact .inl ⟨k, hcalls.trans hk⟩
  · exact .inr ⟨k, hcalls.trans hk⟩

lemma Alternates.settled (hlog : Alternates h log) (hclosed : ¬ IsOpen h log) :
    Settled h log :=
  hlog.resolve_right fun hopen => hclosed hopen.isOpen

lemma Alternates.open_ (hlog : Alternates h log) (hclosed : ¬ IsOpen h' log) :
    Alternates h (log ++ [.opened h']) := by
  by_cases heq : h' = h
  · subst h'
    exact .inr (hlog.settled hclosed).open_
  · exact hlog.append_of_ne heq

lemma Alternates.close (hlog : Alternates h log) (hopen : h' = h → Outstanding h log) :
    Alternates h (log ++ [.closed h']) := by
  by_cases heq : h' = h
  · have hout := hopen heq
    subst h'
    exact .inl hout.close
  · exact hlog.append_of_ne heq

/-! ## Counting -/

lemma pending_append (h : H) (a b : List (Call H)) :
    pending h (a ++ b) = pending h a + pending h b := by
  simp only [pending, List.count_append]
  omega

lemma pending_opened : pending h [.opened h'] = if h' = h then 1 else 0 := by
  by_cases heq : h' = h <;> simp [pending, heq]

lemma pending_closed : pending h [.closed h'] = if h' = h then -1 else 0 := by
  by_cases heq : h' = h <;> simp [pending, heq]

lemma pending_callsOn (h : H) (log : List (Call H)) :
    pending h (callsOn h log) = pending h log := by
  induction log with
  | nil => rfl
  | cons c log ih =>
    have hsplit : c :: log = [c] ++ log := rfl
    rw [hsplit, callsOn_append, pending_append, pending_append, ih, callsOn_single]
    cases c with
    | opened h' => by_cases heq : h' = h <;> simp [Call.handle, heq, pending]
    | closed h' => by_cases heq : h' = h <;> simp [Call.handle, heq, pending]

lemma pending_pairs (h : H) (k : Nat) : pending h (pairs h k) = 0 := by
  induction k with
  | zero => rfl
  | succ k ih =>
    rw [pairs_succ, pending_append, ih]
    simp [pending]

lemma Settled.pending (hlog : Settled h log) : pending h log = 0 := by
  obtain ⟨k, hk⟩ := hlog
  rw [← pending_callsOn, hk, pending_pairs]

lemma Outstanding.pending (hlog : Outstanding h log) : OwnedHandles.pending h log = 1 := by
  obtain ⟨k, hk⟩ := hlog
  rw [← pending_callsOn, hk, pending_append, pending_pairs, pending_opened, if_pos rfl, zero_add]

end

/-! ## Who holds a handle -/

section
variable {O : Type v} {H : Type u} {f : O → Option H} {o : O} {held : Option H} {h : H}

def holders (f : O → Option H) (h : H) : Set O := {o | f o = some h}

def live (f : O → Option H) : Set O := {o | f o ≠ none}

lemma holders_finite (hfin : (live f).Finite) (h : H) : (holders f h).Finite := by
  refine hfin.subset fun o ho => ?_
  have hsome : f o = some h := ho
  simp [live, hsome]

variable [DecidableEq O]

lemma live_update_finite (hfin : (live f).Finite) :
    (live (Function.update f o held)).Finite := by
  refine (hfin.insert o).subset fun o' ho' => ?_
  by_cases heq : o' = o
  · exact .inl heq
  · have hlive : Function.update f o held o' ≠ none := ho'
    rw [Function.update_of_ne heq] at hlive
    exact .inr hlive

variable [DecidableEq H]

omit [DecidableEq O] in
/-- One owner apart, the others are counted. -/
lemma ncard_holders (hfin : (live f).Finite) (o : O) (h : H) :
    ((holders f h).ncard : ℤ) = (holders f h \ {o}).ncard + if f o = some h then 1 else 0 := by
  have hmem : o ∈ holders f h ↔ f o = some h := Iff.rfl
  by_cases hf : f o = some h
  · have hcount := Set.ncard_sdiff_singleton_add_one (hmem.mpr hf) (holders_finite hfin h)
    rw [if_pos hf]
    omega
  · rw [if_neg hf, Set.sdiff_singleton_eq_self (fun ho => hf (hmem.mp ho))]
    omega

/-- An update takes the owner from the holders of the one handle to those of the other. -/
lemma ncard_holders_update (hfin : (live f).Finite) (o : O) (held : Option H) (h : H) :
    ((holders (Function.update f o held) h).ncard : ℤ) + (if f o = some h then 1 else 0) =
      (holders f h).ncard + if held = some h then 1 else 0 := by
  -- the other owners hold what they held
  have hrest : holders (Function.update f o held) h \ {o} = holders f h \ {o} := by
    ext o'
    by_cases heq : o' = o
    · simp [heq]
    · simp [holders, heq]
  have hlive : (live (Function.update f o held)).Finite := live_update_finite hfin
  have hnew := ncard_holders hlive o h
  have hold := ncard_holders hfin o h
  rw [hrest, Function.update_self] at hnew
  omega

end

end OwnedHandles
