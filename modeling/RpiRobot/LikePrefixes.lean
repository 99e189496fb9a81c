import RpiRobot.FilterConditions

/-!
# Prefixes as patterns

`like` and `not_like` put a text in front of a `%`. The text becomes a part of the pattern,
and is a prefix of what matches only if it is nothing but letters that stand for themselves.
-/

namespace LikePrefixes

open FilterConditions (fieldCondition)
open RequestParams (Operation)
open SqlConditions SqlBuilder StringLiterals WhereClauses

/-- What the text may not have in it: `%`, `_` and the backslash. -/
def isWild (c : Char) : Bool := c = '%' || c = '_' || c = '\\'

def Plain (p : List Char) : Prop := ∀ c ∈ p, isWild c = false

instance (p : List Char) : Decidable (Plain p) := inferInstanceAs (Decidable (∀ c ∈ p, _))

/-! ## Plain texts -/

lemma likeMatch_plain {c : Char} (hc : isWild c = false) (p : List Char) (x : Char)
    (s : List Char) : likeMatch (c :: p) (x :: s) = (c == x && likeMatch p s) := by
  simp only [isWild, Bool.or_eq_false_iff, decide_eq_false_iff_not] at hc
  obtain ⟨⟨hany, hone⟩, hescape⟩ := hc
  rw [likeMatch]
  · exact hany
  · exact hone
  · exact fun _ _ h => absurd h hescape
  · exact fun h => absurd h hescape

lemma likeMatch_nil {c : Char} (hc : isWild c = false) (p : List Char) :
    likeMatch (c :: p) [] = false := by
  simp only [isWild, Bool.or_eq_false_iff, decide_eq_false_iff_not] at hc
  obtain ⟨⟨hany, hone⟩, hescape⟩ := hc
  rw [likeMatch]
  · exact hany
  · exact fun h => absurd h hescape

lemma likeMatch_any (s : List Char) : likeMatch ['%'] s = true := by
  rw [likeMatch]
  induction s with
  | nil => rfl
  | cons c s ih => rw [anySuffix, ih, Bool.or_true]

/-- A plain text stands for itself, and what follows it is arbitrary. -/
lemma likeMatch_prefix {p : List Char} (hp : Plain p) (s : List Char) :
    likeMatch (p ++ ['%']) s = true ↔ p <+: s := by
  induction p generalizing s with
  | nil => exact iff_of_true (likeMatch_any s) List.nil_prefix
  | cons c p ih =>
    have hc := hp c List.mem_cons_self
    have hrest : Plain p := fun d hd => hp d (List.mem_cons_of_mem c hd)
    cases s with
    | nil =>
      rw [List.cons_append, likeMatch_nil hc]
      simp
    | cons x s =>
      rw [List.cons_append, likeMatch_plain hc, Bool.and_eq_true, beq_iff_eq, ih hrest,
        List.cons_prefix_cons]

/-! ## Other texts -/

/-- A short text that a pattern matches. -/
def sample : List Char → List Char
  | [] => []
  | '%' :: p => sample p
  | '_' :: p => 'x' :: sample p
  | '\\' :: c :: p => c :: sample p
  | c :: p => c :: sample p

lemma anySuffix_self {f : List Char → Bool} {s : List Char} (h : f s = true) :
    anySuffix f s = true := by
  cases s with
  | nil => exact h
  | cons c s => rw [anySuffix, h, Bool.true_or]

lemma sample_plain {c : Char} (hc : isWild c = false) (p : List Char) :
    sample (c :: p) = c :: sample p := by
  simp only [isWild, Bool.or_eq_false_iff, decide_eq_false_iff_not] at hc
  obtain ⟨⟨hany, hone⟩, hescape⟩ := hc
  rw [sample]
  · exact hany
  · exact hone
  · exact fun _ _ h => absurd h hescape

/-- What a letter that is not escaped can be at the end of the cases of a pattern. -/
lemma last_case {c : Char} {p : List Char} (hany : c = '%' → False) (hone : c = '_' → False)
    (hescape : ∀ (d : Char) (q : List Char), c = '\\' → p = d :: q → False) :
    isWild c = false ∨ c = '\\' ∧ p = [] := by
  by_cases hc : c = '\\'
  · refine .inr ⟨hc, ?_⟩
    cases p with
    | nil => rfl
    | cons d q => exact (hescape d q hc rfl).elim
  · have hany' : c ≠ '%' := hany
    have hone' : c ≠ '_' := hone
    exact .inl (by simp [isWild, hany', hone', hc])

/-- The pattern does not end with a backslash that takes nothing, as `%` comes last. -/
lemma sample_matches (p : List Char) : likeMatch (p ++ ['%']) (sample (p ++ ['%'])) = true := by
  induction p using sample.induct with
  | case1 => exact likeMatch_any _
  | case2 p ih =>
    rw [List.cons_append, likeMatch, sample]
    exact anySuffix_self ih
  | case3 p ih =>
    rw [List.cons_append, sample, likeMatch]
    exact ih
  | case4 c p ih =>
    rw [List.cons_append, List.cons_append, sample, likeMatch, beq_self_eq_true, ih]
    rfl
  | case5 c p hany hone hescape ih =>
    rcases last_case hany hone hescape with hc | ⟨rfl, rfl⟩
    · rw [List.cons_append, sample_plain hc, likeMatch_plain hc, beq_self_eq_true, ih]
      rfl
    · decide

lemma sample_length (p : List Char) : (sample (p ++ ['%'])).length ≤ p.length := by
  induction p using sample.induct with
  | case1 => exact Nat.le_refl 0
  | case2 p ih =>
    rw [List.cons_append, sample, List.length_cons]
    omega
  | case3 p ih =>
    rw [List.cons_append, sample, List.length_cons, List.length_cons]
    omega
  | case4 c p ih =>
    rw [List.cons_append, List.cons_append, sample, List.length_cons, List.length_cons,
      List.length_cons]
    omega
  | case5 c p hany hone hescape ih =>
    rcases last_case hany hone hescape with hc | ⟨rfl, rfl⟩
    · rw [List.cons_append, sample_plain hc, List.length_cons, List.length_cons]
      omega
    · decide

/-- A text with a wild letter in it is not what its pattern matches. -/
lemma plain_of_sample {p : List Char} (h : sample (p ++ ['%']) = p) : Plain p := by
  induction p using sample.induct with
  | case1 => exact fun c hc => nomatch hc
  | case2 p ih =>
    have hlength := sample_length p
    rw [List.cons_append, sample] at h
    rw [h, List.length_cons] at hlength
    omega
  | case3 p ih =>
    rw [List.cons_append, sample] at h
    exact absurd (List.cons.inj h).1 (by decide)
  | case4 c p ih =>
    have hlength := sample_length p
    rw [List.cons_append, List.cons_append, sample] at h
    rw [(List.cons.inj h).2, List.length_cons] at hlength
    omega
  | case5 c p hany hone hescape ih =>
    rcases last_case hany hone hescape with hc | ⟨rfl, rfl⟩
    · rw [List.cons_append, sample_plain hc] at h
      exact List.forall_mem_cons.mpr ⟨hc, ih (List.cons.inj h).2⟩
    · exact absurd h (by decide)

/-- Only for plain texts the pattern matches the texts that begin with it. -/
lemma prefix_iff_plain (p : List Char) :
    (∀ s, likeMatch (p ++ ['%']) s = true ↔ p <+: s) ↔ Plain p := by
  constructor
  · intro h
    have hbegins := (h _).mp (sample_matches p)
    exact plain_of_sample (hbegins.eq_of_length_le (sample_length p)).symm
  · exact likeMatch_prefix

/-! ## The conditions of a filter -/

/-- The conditions of the two operations with the text test whether a value begins with it. -/
structure TestsPrefix (name : ColumnName) (p : String) : Prop where
  like : ∃ c e, fieldCondition ⟨name.text, .opLike, .string p⟩ = some c ∧
    ofText c.cond = some e ∧ ∀ (row : Row) (s : String), row name.text = .text s →
      (e.sat row = true ↔ p.toList <+: s.toList)
  nlike : ∃ c e, fieldCondition ⟨name.text, .opNlike, .string p⟩ = some c ∧
    ofText c.cond = some e ∧ ∀ (row : Row) (s : String), row name.text = .text s →
      (e.sat row = true ↔ ¬ p.toList <+: s.toList)

lemma like_sat {row : Row} {column s : String} (h : row column = .text s) (negated : Bool)
    (p : String) : (Expr.like negated (.col column) (p ++ "%")).sat row =
      (likeMatch (p.toList ++ ['%']) s.toList != negated) := by
  have hscalar : (Operand.col column).scalar row = .text s := by rw [Operand.scalar, h]
  have hpattern : (p ++ "%").toList = p.toList ++ ['%'] := String.toList_append
  simp [Expr.sat, Expr.eval, hscalar, hpattern]

/-- Both operations are about prefixes just if the text is plain. -/
theorem testsPrefix_iff (name : ColumnName) {p : String} (hquote : QuoteFree p.toList) :
    TestsPrefix name p ↔ Plain p.toList := by
  have hlike := (atomic_like name hquote).means
  have hnlike := (atomic_notLike name hquote).means
  constructor
  · rintro ⟨⟨c, e, hc, he, htests⟩, -⟩
    obtain rfl := Option.some.inj hc
    obtain rfl := Option.some.inj (he.symm.trans hlike)
    refine (prefix_iff_plain p.toList).mp fun s => ?_
    let row : Row := fun _ => .text (String.ofList s)
    have hrow : row name.text = .text (String.ofList s) := rfl
    have htext := htests row (String.ofList s) hrow
    rw [like_sat hrow, String.toList_ofList] at htext
    simpa using htext
  · intro hplain
    have hmatch := likeMatch_prefix hplain
    refine ⟨⟨_, _, rfl, hlike, fun row s hrow => ?_⟩, ⟨_, _, rfl, hnlike, fun row s hrow => ?_⟩⟩
    · rw [like_sat hrow, ← hmatch]
      simp
    · rw [like_sat hrow, ← hmatch]
      simp

theorem testsPrefix_device :
    TestsPrefix ⟨"name", by decide, by decide⟩ "rpi-3" ↔ Plain "rpi-3".toList :=
  testsPrefix_iff ⟨"name", by decide, by decide⟩ (by decide)

/-- The name `rpi_3` is a prefix that `rpi-3` is taken to begin with. -/
theorem underscore_matches : ¬ TestsPrefix ⟨"name", by decide, by decide⟩ "rpi_3" := by
  rintro ⟨⟨c, e, hc, he, htests⟩, -⟩
  obtain rfl := Option.some.inj hc
  have hquote : QuoteFree "rpi_3".toList := by decide
  have hread := (atomic_like ⟨"name", by decide, by decide⟩ hquote).means
  obtain rfl := Option.some.inj (he.symm.trans hread)
  let row : Row := fun _ => .text "rpi-3"
  have hrow : row "name" = .text "rpi-3" := rfl
  have htext := htests row "rpi-3" hrow
  rw [like_sat hrow] at htext
  exact absurd (htext.mp (by decide)) (by decide)

end LikePrefixes
