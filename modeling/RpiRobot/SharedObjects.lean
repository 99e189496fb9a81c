import Mathlib.Data.List.Basic
import Mathlib.Logic.Function.Basic

/-!
# Objects that are read and written whole

Editors get an object, each changes its own copy, and puts the copy back. What the object
becomes depends on nothing but what the editor of the last put has read.
-/

namespace SharedObjects

universe u v

inductive Event (E : Type u) where
  | get (e : E)
  | put (e : E)
  deriving DecidableEq, Repr

/-- The object, and what each editor has read of it. -/
structure Shared (E : Type u) (V : Type v) where
  object : V
  held : E → Option V

section
variable {E : Type u} {V : Type v} [DecidableEq E] (edit : E → V → V)

/-- Who has read nothing puts nothing. -/
def act (s : Shared E V) : Event E → Shared E V
  | .get e => { s with held := Function.update s.held e (some s.object) }
  | .put e =>
    match s.held e with
    | none => s
    | some v => { s with object := edit e v }

variable {s : Shared E V} {e : E} {events : List (Event E)}

@[simp] lemma act_get_held (s : Shared E V) (e : E) :
    (act edit s (.get e)).held = Function.update s.held e (some s.object) := rfl

@[simp] lemma act_put_held (s : Shared E V) (e : E) : (act edit s (.put e)).held = s.held := by
  rw [act]
  cases s.held e <;> rfl

lemma act_put_object {v : V} (h : s.held e = some v) :
    (act edit s (.put e)).object = edit e v := by
  rw [act, h]

/-- What an editor holds stays until it reads again. -/
lemma held_stays (h : Event.get e ∉ events) :
    (events.foldl (act edit) s).held e = s.held e := by
  induction events generalizing s with
  | nil => rfl
  | cons event events ih =>
    rw [List.mem_cons, not_or] at h
    obtain ⟨hfirst, hrest⟩ := h
    rw [List.foldl_cons, ih hrest]
    cases event with
    | get e' =>
      have hne : e ≠ e' := fun heq => hfirst (heq ▸ rfl)
      rw [act_get_held, Function.update_of_ne hne]
    | put e' => rw [act_put_held]

/-- The last put decides, and it goes back to what its editor read. -/
theorem object_put (before between : List (Event E)) (h : Event.get e ∉ between) :
    ((before ++ Event.get e :: (between ++ [Event.put e])).foldl (act edit) s).object =
      edit e (before.foldl (act edit) s).object := by
  rw [List.foldl_append, List.foldl_cons, List.foldl_append, List.foldl_cons, List.foldl_nil]
  refine act_put_object edit ?_
  rw [held_stays edit h, act_get_held, Function.update_self]

end

/-! ## Two editors -/

/-- The elements of two lists in any order that keeps that of each. -/
inductive Interleaving {α : Type u} : List α → List α → List α → Prop where
  | nil : Interleaving [] [] []
  | left (x : α) {a b order : List α} (h : Interleaving a b order) :
      Interleaving (x :: a) b (x :: order)
  | right (x : α) {a b order : List α} (h : Interleaving a b order) :
      Interleaving a (x :: b) (x :: order)

lemma Interleaving.symm {α : Type u} {a b order : List α} (h : Interleaving a b order) :
    Interleaving b a order := by
  induction h with
  | nil => exact .nil
  | left x _ ih => exact .right x ih
  | right x _ ih => exact .left x ih

lemma Interleaving.of_nil {α : Type u} {a order : List α} (h : Interleaving a [] order) :
    order = a := by
  induction a generalizing order with
  | nil => cases h; rfl
  | cons x a ih =>
    cases h with
    | left _ h => rw [ih h]

/-- An editor gets the object and puts it back. -/
def session {E : Type u} (e : E) : List (Event E) := [.get e, .put e]

section
variable {E : Type u} {first last : E} {order : List (Event E)}

/-- The orders in which the one editor puts last: the other is done before it reads, or not. -/
lemma orders (h : Interleaving (session first) (session last) order) (hne : first ≠ last)
    (hlast : order.getLast? = some (.put last)) :
    order = session first ++ session last ∨
      order = [.get first, .get last, .put first, .put last] ∨
      order = [.get last, .get first, .put first, .put last] := by
  have hends : ∀ before : List (Event E),
      (before ++ [Event.put first]).getLast? ≠ some (.put last) := by
    intro before hput
    rw [List.getLast?_concat] at hput
    exact hne (Event.put.inj (Option.some.inj hput))
  cases h with
  | left _ h =>
    cases h with
    | left _ h => exact .inl (by rw [h.symm.of_nil]; rfl)
    | right _ h =>
      cases h with
      | left _ h => exact .inr (.inl (by rw [h.symm.of_nil]))
      | right _ h =>
        rw [h.of_nil] at hlast
        exact absurd hlast (hends [.get first, .get last, .put last])
  | right _ h =>
    cases h with
    | left _ h =>
      cases h with
      | left _ h => exact .inr (.inr (by rw [h.symm.of_nil]))
      | right _ h =>
        rw [h.of_nil] at hlast
        exact absurd hlast (hends [.get last, .get first, .put last])
    | right _ h =>
      rw [h.of_nil] at hlast
      exact absurd hlast (hends [.get last, .put last, .get first])

variable {V : Type v} [DecidableEq E] (edit : E → V → V) {s : Shared E V}

/-- The change of the other editor is there only if it was put before the last one read. -/
theorem object_interleaved (h : Interleaving (session first) (session last) order)
    (hne : first ≠ last) (hlast : order.getLast? = some (.put last)) :
    (order = session first ++ session last ∧
        (order.foldl (act edit) s).object = edit last (edit first s.object)) ∨
      (order ≠ session first ++ session last ∧
        (order.foldl (act edit) s).object = edit last s.object) := by
  have hget : Event.get last ≠ .get first := fun heq => hne (Event.get.inj heq).symm
  rcases orders h hne hlast with rfl | rfl | rfl
  · have hfirst := object_put edit (s := s) (e := first) [] [] List.not_mem_nil
    have hlast := object_put edit (s := s) (e := last) (session first) [] List.not_mem_nil
    exact .inl ⟨rfl, hlast.trans (congrArg (edit last) hfirst)⟩
  · refine .inr ⟨fun heq => ?_, ?_⟩
    · exact nomatch (List.cons.inj (List.cons.inj heq).2).1
    · exact object_put edit (s := s) (e := last) [.get first] [.put first] (by simp)
  · refine .inr ⟨fun heq => hget (List.cons.inj heq).1, ?_⟩
    exact object_put edit (s := s) (e := last) [] [.get first, .put first] (by simpa using hget)

end

end SharedObjects
