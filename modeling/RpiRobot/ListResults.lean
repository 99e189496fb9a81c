import Mathlib.Data.List.Forall2

/-!
# Lists of results and windows of lists

A traversal that can fail succeeds exactly if each of its steps does, and
consecutive windows of one length put together are the list they were cut from.
-/

namespace ListResults

universe u v w

variable {α : Type u} {β : Type v} {ε : Type w}

lemma bind_eq_ok {γ : Type v} {x : Except ε γ} {f : γ → Except ε β} {b : β} :
    x >>= f = .ok b ↔ ∃ a, x = .ok a ∧ f a = .ok b := by
  cases x with
  | error e => simp [bind, Except.bind]
  | ok a => simp [bind, Except.bind]

theorem mapM_ok_iff {f : α → Except ε β} {as : List α} {bs : List β} :
    as.mapM f = .ok bs ↔ List.Forall₂ (fun a b => f a = .ok b) as bs := by
  induction as generalizing bs with
  | nil =>
    rw [List.mapM_nil, List.forall₂_nil_left_iff]
    exact ⟨fun h => (Except.ok.inj h).symm, fun h => h ▸ rfl⟩
  | cons a as ih =>
    rw [List.mapM_cons, List.forall₂_cons_left_iff]
    constructor
    · intro h
      obtain ⟨b, hb, h⟩ := bind_eq_ok.mp h
      obtain ⟨bs', hbs, h⟩ := bind_eq_ok.mp h
      exact ⟨b, bs', hb, ih.mp hbs, (Except.ok.inj h).symm⟩
    · rintro ⟨b, bs', hb, hbs, rfl⟩
      exact bind_eq_ok.mpr ⟨b, hb, bind_eq_ok.mpr ⟨bs', ih.mpr hbs, rfl⟩⟩

theorem exists_forall₂_iff {r : α → β → Prop} {as : List α} :
    (∃ bs, List.Forall₂ r as bs) ↔ ∀ a ∈ as, ∃ b, r a b := by
  induction as with
  | nil => exact ⟨fun _ _ h => absurd h List.not_mem_nil, fun _ => ⟨[], .nil⟩⟩
  | cons a as ih =>
    rw [List.forall_mem_cons, ← ih]
    constructor
    · rintro ⟨_, h⟩
      obtain ⟨b, bs, hb, hbs, rfl⟩ := List.forall₂_cons_left_iff.mp h
      exact ⟨⟨b, hb⟩, bs, hbs⟩
    · rintro ⟨⟨b, hb⟩, bs, hbs⟩
      exact ⟨b :: bs, .cons hb hbs⟩

/-- A fold succeeds on the lists of admissible elements, if that is so of each step
from a state that keeps the invariant. -/
theorem foldlM_ok_iff (f : β → α → Except ε β) (inv : β → Prop) (admissible : α → Prop)
    {l : List α}
    (hstep : ∀ b, inv b → ∀ a ∈ l, ((∃ b', f b a = .ok b') ↔ admissible a) ∧
      ∀ b', f b a = .ok b' → inv b') {b : β} (hb : inv b) :
    ((∃ b', l.foldlM f b = .ok b') ↔ ∀ a ∈ l, admissible a) ∧
      ∀ b', l.foldlM f b = .ok b' → inv b' := by
  induction l generalizing b with
  | nil =>
    constructor
    · exact ⟨fun _ a h => absurd h List.not_mem_nil, fun _ => ⟨b, rfl⟩⟩
    · intro b' h
      obtain rfl := Except.ok.inj h
      exact hb
  | cons a l ih =>
    obtain ⟨hiff, hinv⟩ := hstep b hb a List.mem_cons_self
    have hrest := fun b' hb' => ih (fun c hc x hx => hstep c hc x (List.mem_cons_of_mem _ hx))
      (b := b') hb'
    rw [List.foldlM_cons, List.forall_mem_cons]
    constructor
    · constructor
      · rintro ⟨b'', h⟩
        obtain ⟨b', hb', h⟩ := bind_eq_ok.mp h
        exact ⟨hiff.mp ⟨b', hb'⟩, (hrest b' (hinv b' hb')).1.mp ⟨b'', h⟩⟩
      · rintro ⟨ha, has⟩
        obtain ⟨b', hb'⟩ := hiff.mpr ha
        obtain ⟨b'', h⟩ := (hrest b' (hinv b' hb')).1.mpr has
        exact ⟨b'', bind_eq_ok.mpr ⟨b', hb', h⟩⟩
    · intro b'' h
      obtain ⟨b', hb', h⟩ := bind_eq_ok.mp h
      exact (hrest b' (hinv b' hb')).2 b'' h

lemma forall₂_congr_mem {r s : α → β → Prop} {l : List α} {bs : List β}
    (h : ∀ a ∈ l, ∀ b, r a b ↔ s a b) : List.Forall₂ r l bs ↔ List.Forall₂ s l bs := by
  induction l generalizing bs with
  | nil => rw [List.forall₂_nil_left_iff, List.forall₂_nil_left_iff]
  | cons a l ih =>
    rw [List.forall_mem_cons] at h
    rw [List.forall₂_cons_left_iff, List.forall₂_cons_left_iff]
    exact exists₂_congr (fun b bs' => and_congr (h.1 b) (and_congr_left' (ih h.2)))

lemma exists_of_forall₂ {r : α → β → Prop} {l : List α} {bs : List β}
    (h : List.Forall₂ r l bs) {a : α} (ha : a ∈ l) : ∃ b ∈ bs, r a b := by
  induction h with
  | nil => exact absurd ha List.not_mem_nil
  | cons hab _ ih =>
    rcases List.mem_cons.mp ha with rfl | ha
    · exact ⟨_, List.mem_cons_self, hab⟩
    · obtain ⟨b, hb, hr⟩ := ih ha
      exact ⟨b, List.mem_cons_of_mem _ hb, hr⟩

lemma forall₂_flatMap {γ δ : Type*} {q : γ → δ → Prop} {r : α → β → Prop} {l : γ → List α}
    {bs : δ → List β} {ks : List γ} {ps : List δ} (h : List.Forall₂ q ks ps)
    (hq : ∀ k ∈ ks, ∀ p, q k p → List.Forall₂ r (l k) (bs p)) :
    List.Forall₂ r (ks.flatMap l) (ps.flatMap bs) := by
  induction h with
  | nil => exact .nil
  | cons hkp _ ih =>
    rw [List.forall_mem_cons] at hq
    rw [List.flatMap_cons, List.flatMap_cons]
    exact List.rel_append (hq.1 _ hkp) (ih hq.2)

/-- The `k`-th of the windows of length `n`. -/
def windowAt (n k : Nat) (l : List α) : List α := (l.drop (n * k)).take n

theorem flatMap_windows (l : List α) (n m : Nat) :
    (List.range m).flatMap (fun k => windowAt n k l) = l.take (n * m) := by
  induction m with
  | zero => simp
  | succ m ih =>
    rw [List.range_succ, List.flatMap_append, ih, List.flatMap_singleton, windowAt, Nat.mul_succ,
      List.take_add]

/-- Enough windows are the whole list. -/
theorem flatMap_windows_eq {l : List α} {n m : Nat} (h : l.length ≤ n * m) :
    (List.range m).flatMap (fun k => windowAt n k l) = l := by
  rw [flatMap_windows, List.take_of_length_le h]

end ListResults
