import Mathlib.Data.List.AList
import Mathlib.Data.Rat.Defs
import Mathlib.Tactic.Lemma

/-!
# Metric registries

A registry of prometheus-cpp: families by name, each of one type and with constant
labels, and in each family metrics by their labels. Values are exact below `2 ^ 53`.
-/

namespace MetricRegistry

abbrev Labels := List (String × String)

inductive MetricType where
  | counter
  | gauge
  deriving DecidableEq, Repr

structure Family where
  type : MetricType
  constantLabels : Labels
  metrics : AList (fun _ : Labels => ℚ)

abbrev Registry := AList (fun _ : String => Family)

/-- What `Register` throws `invalid_argument` for. -/
inductive MetricError where
  | invalidName
  | otherType
  | nameExists
  deriving DecidableEq, Repr

def nameChar (c : Char) : Bool := c.isAlphanum || c = '_' || c = ':'

/-- Names that start with two underscores are reserved. -/
def validName (name : String) : Bool :=
  match name.toList with
  | [] => false
  | '_' :: '_' :: _ => false
  | c :: cs => !c.isDigit && (c :: cs).all nameChar

/-- A family that is registered again with the same type and labels is shared. -/
def register (type : MetricType) (name : String) (labels : Labels) (r : Registry) :
    Except MetricError Registry :=
  match r.lookup name with
  | some family =>
    if family.type ≠ type then .error .otherType
    else if family.constantLabels = labels then .ok r
    else .error .nameExists
  | none =>
    if validName name then .ok (r.insert name ⟨type, labels, ∅⟩) else .error .invalidName

/-- `Add` gives the metric with these labels, a new one at zero if there is none. -/
def Family.add (labels : Labels) (f : ℚ → ℚ) (family : Family) : Family :=
  { family with
    metrics := family.metrics.insert labels (f ((family.metrics.lookup labels).getD 0)) }

/-- A change to the metric of a family that is registered. -/
def modify (name : String) (labels : Labels) (f : ℚ → ℚ) (r : Registry) : Registry :=
  match r.lookup name with
  | some family => r.insert name (family.add labels f)
  | none => r

def value (r : Registry) (name : String) (labels : Labels) : Option ℚ :=
  (r.lookup name).bind (fun family => family.metrics.lookup labels)

/-- No family of this name has another type or other constant labels. -/
def Reserved (type : MetricType) (name : String) (labels : Labels) (r : Registry) : Prop :=
  ∀ family, r.lookup name = some family → family.type = type ∧ family.constantLabels = labels

variable {type : MetricType} {name other : String} {labels constant : Labels} {f : ℚ → ℚ}
  {r r' : Registry}

/-! Registering. -/

lemma register_cases (h : register type name labels r = .ok r') :
    (r' = r ∧ ∃ family, r.lookup name = some family ∧ family.type = type ∧
      family.constantLabels = labels) ∨
    (r.lookup name = none ∧ r' = r.insert name ⟨type, labels, ∅⟩) := by
  unfold register at h
  cases hfamily : r.lookup name with
  | none =>
    simp only [hfamily] at h
    by_cases hvalid : validName name = true
    · rw [if_pos hvalid] at h
      exact .inr ⟨rfl, (Except.ok.inj h).symm⟩
    · rw [if_neg hvalid] at h
      cases h
  | some family =>
    simp only [hfamily] at h
    by_cases htype : family.type = type
    · rw [if_neg (fun hne => hne htype)] at h
      by_cases hlabels : family.constantLabels = labels
      · rw [if_pos hlabels] at h
        exact .inl ⟨(Except.ok.inj h).symm, family, rfl, htype, hlabels⟩
      · rw [if_neg hlabels] at h
        cases h
    · rw [if_pos htype] at h
      cases h

lemma register_ok (hvalid : validName name = true) (h : Reserved type name labels r) :
    ∃ r', register type name labels r = .ok r' := by
  unfold register
  cases hfamily : r.lookup name with
  | none => exact ⟨_, by simp only [hvalid]; rfl⟩
  | some family =>
    obtain ⟨htype, hlabels⟩ := h family hfamily
    exact ⟨r, by simp [htype, hlabels]⟩

lemma register_registered (h : register type name labels r = .ok r') :
    ∃ family, r'.lookup name = some family := by
  rcases register_cases h with ⟨rfl, family, hfamily, -, -⟩ | ⟨-, rfl⟩
  · exact ⟨family, hfamily⟩
  · exact ⟨_, AList.lookup_insert r⟩

lemma register_lookup_ne (h : register type name labels r = .ok r') (hne : other ≠ name) :
    r'.lookup other = r.lookup other := by
  rcases register_cases h with ⟨rfl, -⟩ | ⟨-, rfl⟩
  · rfl
  · exact AList.lookup_insert_ne hne

lemma register_reserved (h : register type name labels r = .ok r') :
    Reserved type name labels r' := by
  intro family hfamily
  rcases register_cases h with ⟨rfl, family', hfamily', htype, hlabels⟩ | ⟨-, rfl⟩
  · obtain rfl := Option.some.inj (hfamily'.symm.trans hfamily)
    exact ⟨htype, hlabels⟩
  · rw [AList.lookup_insert] at hfamily
    obtain rfl := Option.some.inj hfamily
    exact ⟨rfl, rfl⟩

/-- Registering a family changes no metric. -/
lemma register_value (h : register type name labels r = .ok r') (other : String)
    (metric : Labels) : value r' other metric = value r other metric := by
  rcases register_cases h with ⟨rfl, -⟩ | ⟨hnone, rfl⟩
  · rfl
  · by_cases hne : other = name
    · subst hne
      simp [value, hnone]
    · simp [value, AList.lookup_insert_ne hne]

/-! Changing a metric. -/

lemma modify_lookup_ne (hne : other ≠ name) :
    (modify name labels f r).lookup other = r.lookup other := by
  unfold modify
  cases r.lookup name with
  | none => rfl
  | some family => exact AList.lookup_insert_ne hne

lemma modify_value_ne (hne : other ≠ name) (metric : Labels) :
    value (modify name labels f r) other metric = value r other metric := by
  rw [value, modify_lookup_ne hne, value]

lemma modify_value (hregistered : ∃ family, r.lookup name = some family) (metric : Labels) :
    value (modify name labels f r) name metric =
      if metric = labels then some (f ((value r name labels).getD 0))
      else value r name metric := by
  obtain ⟨family, hfamily⟩ := hregistered
  have hmodify : modify name labels f r = r.insert name (family.add labels f) := by
    simp [modify, hfamily]
  by_cases hmetric : metric = labels
  · subst hmetric
    simp [value, hmodify, hfamily, Family.add]
  · simp [value, hmodify, hfamily, Family.add, hmetric, AList.lookup_insert_ne hmetric]

lemma modify_reserved (h : Reserved type other constant r) :
    Reserved type other constant (modify name labels f r) := by
  intro family hfamily
  by_cases hne : other = name
  · subst hne
    unfold modify at hfamily
    cases hlookup : r.lookup other with
    | none =>
      simp only [hlookup] at hfamily
      cases hfamily
    | some family' =>
      simp only [hlookup, AList.lookup_insert] at hfamily
      obtain rfl := Option.some.inj hfamily
      exact h family' hlookup
  · rw [modify_lookup_ne hne] at hfamily
    exact h family hfamily

end MetricRegistry
