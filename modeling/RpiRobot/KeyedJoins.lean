import Mathlib.Data.List.Nodup
import Mathlib.Data.List.Perm.Basic

/-!
# Joins by key

A list is joined to a list of keys in two ways: the elements of each key are collected at
its first occurrence, or each key keeps the last of its elements.
-/

namespace KeyedJoins

universe u v

variable {α : Type u} {K : Type v} [DecidableEq K] {key : α → K}

/-- The elements of one key, in the order of the list. -/
def group (key : α → K) (l : List α) (k : K) : List α := l.filter (fun a => key a = k)

lemma group_cons (a : α) (l : List α) (k : K) :
    group key (a :: l) k = if key a = k then a :: group key l k else group key l k := by
  by_cases h : key a = k
  · rw [if_pos h, group, List.filter_cons_of_pos (by simpa using h), group]
  · rw [if_neg h, group, List.filter_cons_of_neg (by simpa using h), group]

lemma group_ne {k k' : K} (h : k' ≠ k) (l : List α) :
    group key (l.filter (fun a => !decide (key a = k))) k' = group key l k' := by
  rw [group, List.filter_filter, group]
  refine List.filter_congr (fun a _ => ?_)
  by_cases hk' : key a = k'
  · have hk : key a ≠ k := fun hk => h (hk'.symm.trans hk)
    simp [hk', h]
  · simp [hk']

lemma group_eq_nil {l : List α} {k : K} : group key l k = [] ↔ ∀ a ∈ l, key a ≠ k := by
  simp [group, List.filter_eq_nil_iff]

/-- The elements of each key, except that a key gets none once it has occurred. -/
def firstGroups (key : α → K) (l : List α) : List K → List K → List (List α)
  | _, [] => []
  | seen, k :: ks => (if k ∈ seen then [] else group key l k) :: firstGroups key l (k :: seen) ks

/-- Elements of a key that has occurred are not looked at. -/
lemma firstGroups_filter {seen : List K} {k : K} (hk : k ∈ seen) (l : List α) (ks : List K) :
    firstGroups key (l.filter (fun a => !decide (key a = k))) seen ks =
      firstGroups key l seen ks := by
  induction ks generalizing seen with
  | nil => rfl
  | cons k' ks ih =>
    rw [firstGroups, firstGroups, ih (List.mem_cons_of_mem _ hk)]
    by_cases hseen : k' ∈ seen
    · rw [if_pos hseen, if_pos hseen]
    · have hne : k' ≠ k := fun heq => hseen (heq ▸ hk)
      rw [if_neg hseen, if_neg hseen, group_ne hne]

/-- Every element is collected once, if its key is to come. -/
theorem firstGroups_perm {seen ks : List K} {l : List α}
    (h : ∀ a ∈ l, key a ∈ ks ∧ key a ∉ seen) : (firstGroups key l seen ks).flatten.Perm l := by
  induction ks generalizing seen l with
  | nil =>
    have hnil : l = [] := List.eq_nil_iff_forall_not_mem.mpr fun a ha =>
      absurd (h a ha).1 List.not_mem_nil
    rw [hnil]
    exact .refl _
  | cons k ks ih =>
    have hrest : ∀ a ∈ l, key a ≠ k → key a ∈ ks ∧ key a ∉ k :: seen := fun a ha hne =>
      ⟨(List.mem_cons.mp (h a ha).1).resolve_left hne,
        fun hmem => (h a ha).2 ((List.mem_cons.mp hmem).resolve_left hne)⟩
    rw [firstGroups, List.flatten_cons]
    by_cases hk : k ∈ seen
    · rw [if_pos hk]
      exact ih fun a ha => hrest a ha fun heq => (h a ha).2 (heq ▸ hk)
    · have hothers : ∀ a ∈ l.filter (fun a => !decide (key a = k)),
          key a ∈ ks ∧ key a ∉ k :: seen := fun a ha => by
        obtain ⟨ha, hne⟩ := List.mem_filter.mp ha
        exact hrest a ha (by simpa using hne)
      rw [if_neg hk, ← firstGroups_filter List.mem_cons_self]
      exact (List.Perm.append_left _ (ih hothers)).trans
        (List.filter_append_perm (fun a => decide (key a = k)) l)

/-- Each occurrence of a key gets all of its elements exactly if a key with elements occurs
once. -/
theorem firstGroups_eq_iff {seen ks : List K} {l : List α} :
    firstGroups key l seen ks = ks.map (group key l) ↔
      ∀ a ∈ l, (key a ∈ seen → key a ∉ ks) ∧ ks.count (key a) ≤ 1 := by
  induction ks generalizing seen with
  | nil => exact iff_of_true rfl fun a _ => ⟨fun _ => List.not_mem_nil, Nat.zero_le 1⟩
  | cons k ks ih =>
    have hhead : (if k ∈ seen then [] else group key l k) = group key l k ↔
        (k ∈ seen → ∀ a ∈ l, key a ≠ k) := by
      by_cases hk : k ∈ seen
      · rw [if_pos hk, eq_comm, group_eq_nil]
        exact (imp_iff_right hk).symm
      · rw [if_neg hk]
        exact iff_of_true rfl fun hmem => absurd hmem hk
    have heach : ∀ a, (k ∈ seen → key a ≠ k) ∧
        (key a ∈ k :: seen → key a ∉ ks) ∧ ks.count (key a) ≤ 1 ↔
        (key a ∈ seen → key a ∉ k :: ks) ∧ (k :: ks).count (key a) ≤ 1 := by
      intro a
      by_cases ha : key a = k
      · subst ha
        have hcount : key a ∉ ks ↔ ks.count (key a) = 0 := List.count_eq_zero.symm
        rw [List.count_cons_self]
        simp only [List.mem_cons, true_or, ne_eq, not_true_eq_false, imp_false, forall_const,
          hcount]
        exact and_congr_right fun _ => by omega
      · rw [List.count_cons_of_ne (Ne.symm ha)]
        simp [ha]
    rw [firstGroups, List.map_cons, List.cons.injEq, hhead, ih]
    simp only [← heach]
    exact ⟨fun h a ha => ⟨fun hk => h.1 hk a ha, h.2 a ha⟩,
      fun h => ⟨fun hk a ha => (h a ha).1 hk, fun a ha => (h a ha).2⟩⟩

/-- The last element of a key is one of its elements, if there is one. -/
theorem foldl_last {l : List α} {k : K} (h : ∃ a ∈ l, key a = k) (b : α) :
    l.foldl (fun b a => if key a = k then a else b) b ∈ group key l k := by
  have hkeep : ∀ (l : List α) (b : α),
      l.foldl (fun b a => if key a = k then a else b) b ∈ group key l k ∨
        (group key l k = [] ∧ l.foldl (fun b a => if key a = k then a else b) b = b) := by
    intro l
    induction l with
    | nil => exact fun b => .inr ⟨rfl, rfl⟩
    | cons a l ih =>
      intro b
      rw [List.foldl_cons, group_cons]
      by_cases hk : key a = k
      · rw [if_pos hk, if_pos hk]
        rcases ih a with hmem | ⟨-, heq⟩
        · exact .inl (List.mem_cons_of_mem _ hmem)
        · rw [heq]
          exact .inl List.mem_cons_self
      · rw [if_neg hk, if_neg hk]
        exact ih b
  rcases hkeep l b with hmem | ⟨hnil, -⟩
  · exact hmem
  · obtain ⟨a, ha, hk⟩ := h
    have hgroup : a ∈ group key l k := List.mem_filter.mpr ⟨ha, decide_eq_true hk⟩
    exact absurd (hnil ▸ hgroup : a ∈ []) List.not_mem_nil

end KeyedJoins
