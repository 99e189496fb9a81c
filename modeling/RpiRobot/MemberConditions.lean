import RpiRobot.WhereClauses

/-!
# Membership conditions

The condition that `in` renders for a list of integers holds of the rows whose column
is one of them, and that of `not_in` of the rows whose column is another number, for every
list with an element.
-/

namespace MemberConditions

open SqlTokens (Token Lexes Separates joinTokens)
open SqlConditions
open SqlBuilder

/-- A column is one of the integers. -/
def IsMember (ids : List Int) (r : Row) (column : String) : Prop := ∃ i ∈ ids, r column = .int i

/-! Values. -/

lemma or3_eq_true (a b : Option Bool) : or3 a b = some true ↔ a = some true ∨ b = some true := by
  rcases a with _ | _ | _ <;> rcases b with _ | _ | _ <;> decide

lemma foldl_or3 (bs : List (Option Bool)) (acc : Option Bool) :
    bs.foldl or3 acc = some true ↔ acc = some true ∨ some true ∈ bs := by
  induction bs generalizing acc with
  | nil => simp
  | cons b bs ih =>
    rw [List.foldl_cons, ih, or3_eq_true, List.mem_cons, or_assoc]
    exact or_congr_right (or_congr_left ⟨Eq.symm, Eq.symm⟩)

lemma numeral_scalar (r : Row) (n : Int) : (Operand.num (toString n)).scalar r = .number n := by
  rw [Operand.scalar, DecimalText.decimalValue_toString]

lemma equal3_number {r : Row} {column : String} {n : Int} :
    equal3 ((Operand.col column).scalar r) (.number n) = some true ↔ r column = .int n := by
  cases hv : r column with
  | null => simp [equal3, Operand.scalar, hv, compareScalars]
  | int m =>
    simp only [equal3, Operand.scalar, hv, compareScalars, Option.map_some, Option.some.injEq,
      Value.int.injEq, holds_eq, ordering_eq_iff, Int.cast_inj]
  | text s => simp [equal3, Operand.scalar, hv, compareScalars]
  | json j => simp [equal3, Operand.scalar, hv, compareScalars]

lemma isIn_sat (column : String) (ids : List Int) (r : Row) :
    (Expr.isIn false (.col column) (ids.map (fun n => .num (toString n)))).sat r = true ↔
      IsMember ids r column := by
  have hmap : ∀ o : Option Bool, o.map (fun b => b != false) = o := by
    rintro (_ | _ | _) <;> rfl
  rw [Expr.sat, beq_iff_eq, Expr.eval, hmap, foldl_or3, List.map_map, List.mem_map]
  constructor
  · rintro (h | ⟨n, hn, h⟩)
    · exact absurd h (by decide)
    · rw [Function.comp_apply, numeral_scalar] at h
      exact ⟨n, hn, equal3_number.mp h⟩
  · rintro ⟨n, hn, h⟩
    refine .inr ⟨n, hn, ?_⟩
    rw [Function.comp_apply, numeral_scalar]
    exact equal3_number.mpr h

lemma eq_sat (column : String) (n : Int) (r : Row) :
    (Expr.cmp .eq (.col column) (.num (toString n))).sat r = true ↔ IsMember [n] r column := by
  rw [Expr.sat, beq_iff_eq, Expr.eval, numeral_scalar]
  change equal3 _ _ = some true ↔ _
  rw [equal3_number, IsMember]
  simp

/-- A literal that is compared with a number counts as one. -/
lemma literal_sat {column : String} (n : Int) {r : Row} {m : Int} (h : r column = .int m) :
    (Expr.cmp .eq (.col column) (.str (toString n))).sat r = true ↔ m = n := by
  rw [Expr.sat, beq_iff_eq, Expr.eval]
  simp only [Operand.scalar, h, compareScalars, DecimalText.decimalValue_toString,
    Option.map_some, Option.some.injEq]
  exact (holds_eq _).trans ((ordering_eq_iff _ _).trans Int.cast_inj)

/-! Other values. -/

/-- A column of integers is not null, and none of these integers. -/
def IsOther (ids : List Int) (r : Row) (column : String) : Prop :=
  (∃ n, r column = .int n) ∧ ¬ IsMember ids r column

lemma isOther_iff {ids : List Int} {r : Row} {column : String} :
    IsOther ids r column ↔ ∃ n, r column = .int n ∧ n ∉ ids := by
  constructor
  · rintro ⟨⟨n, hn⟩, hnot⟩
    exact ⟨n, hn, fun hmem => hnot ⟨n, hmem, hn⟩⟩
  · rintro ⟨n, hn, hnot⟩
    refine ⟨⟨n, hn⟩, ?_⟩
    rintro ⟨i, hi, hvalue⟩
    rw [hn] at hvalue
    exact hnot (Value.int.inj hvalue ▸ hi)

lemma or3_eq_false (a b : Option Bool) :
    or3 a b = some false ↔ a = some false ∧ b = some false := by
  rcases a with _ | _ | _ <;> rcases b with _ | _ | _ <;> decide

lemma foldl_or3_false (bs : List (Option Bool)) (acc : Option Bool) :
    bs.foldl or3 acc = some false ↔ acc = some false ∧ ∀ b ∈ bs, b = some false := by
  induction bs generalizing acc with
  | nil => simp
  | cons b bs ih => rw [List.foldl_cons, ih, or3_eq_false, List.forall_mem_cons, and_assoc]

lemma unequal3_number {r : Row} {column : String} {n : Int} :
    equal3 ((Operand.col column).scalar r) (.number n) = some false ↔
      ∃ m, r column = .int m ∧ m ≠ n := by
  cases hv : r column with
  | null => simp [equal3, Operand.scalar, hv, compareScalars]
  | int m =>
    have heq : equal3 ((Operand.col column).scalar r) (.number n) =
        some (Cmp.eq.holds (orderOf (m : ℚ) n)) := by
      simp [equal3, Operand.scalar, hv, compareScalars]
    rw [heq, Option.some.injEq, ← Bool.not_eq_true, holds_eq, ordering_eq_iff, Int.cast_inj]
    simp
  | text s => simp [equal3, Operand.scalar, hv, compareScalars]
  | json j => simp [equal3, Operand.scalar, hv, compareScalars]

lemma notIn_sat (column : String) {ids : List Int} (hne : ids ≠ []) (r : Row) :
    (Expr.isIn true (.col column) (ids.map (fun n => .num (toString n)))).sat r = true ↔
      IsOther ids r column := by
  have hmap : ∀ o : Option Bool, o.map (fun b => b != true) = some true ↔ o = some false := by
    rintro (_ | _ | _) <;> decide
  rw [Expr.sat, beq_iff_eq, Expr.eval, hmap, foldl_or3_false, List.map_map, List.forall_mem_map,
    isOther_iff]
  simp only [Function.comp_apply, numeral_scalar, unequal3_number, true_and]
  constructor
  · intro h
    obtain ⟨i, ids, rfl⟩ := List.exists_cons_of_ne_nil hne
    obtain ⟨n, hn, -⟩ := h i List.mem_cons_self
    refine ⟨n, hn, fun hmem => ?_⟩
    obtain ⟨m, hm, hother⟩ := h n hmem
    rw [hn] at hm
    exact hother (Value.int.inj hm).symm
  · rintro ⟨n, hn, hmem⟩ i hi
    exact ⟨n, hn, fun heq => hmem (heq ▸ hi)⟩

lemma ne_sat (column : String) (n : Int) (r : Row) :
    (Expr.cmp .ne (.col column) (.num (toString n))).sat r = true ↔ IsOther [n] r column := by
  have hnegated : ∀ o : Option Ordering, o.map Cmp.ne.holds = some true ↔
      o.map Cmp.eq.holds = some false := by
    rintro (_ | _ | _ | _) <;> decide
  rw [Expr.sat, beq_iff_eq, Expr.eval, numeral_scalar, hnegated]
  change equal3 _ _ = some false ↔ _
  rw [unequal3_number, isOther_iff]
  simp

/-! The text. -/

lemma operand_int (n : Int) : operand? (.num (toString n)) = some (.num (toString n)) := by
  rw [operand?, DecimalText.decimalValue_toString]
  rfl

/-- From the opening parenthesis on, one item after the other up to the closing one. -/
lemma run_items (negated : Bool) (a : Operand) (ids : List Int) (hne : ids ≠ [])
    (acc : List Operand) (f : Frame) (fs : List Frame) :
    run ⟨.item negated a acc, f :: fs⟩
        (joinTokens (.mark ',') (ids.map (fun n => [.num (toString n)])) ++ [.mark ')']) =
      ⟨.done, f.push (.isIn negated a (acc ++ ids.map (fun n => .num (toString n)))) :: fs⟩ := by
  induction ids generalizing acc with
  | nil => exact absurd rfl hne
  | cons n ids ih =>
    have hitem : step ⟨.item negated a acc, f :: fs⟩ (.num (toString n)) =
        ⟨.itemEnd negated a (acc ++ [.num (toString n)]), f :: fs⟩ := by
      change apply (moveOn (operand? (.num (toString n))) _) _ = _
      rw [operand_int]
      rfl
    cases ids with
    | nil =>
      change run (step _ (.num (toString n))) [.mark ')'] = _
      rw [hitem]
      rfl
    | cons m ids =>
      have hrest := ih (by simp) (acc ++ [.num (toString n)])
      change run (step _ (.num (toString n))) (.mark ',' :: _) = _
      rw [hitem]
      exact hrest.trans (by rw [List.append_assoc]; rfl)

/-- The words of `in` and of `not_in` in front of a list. -/
def listWords (negated : Bool) : List Token :=
  if negated then [.word "not", .word "in", .mark '('] else [.word "in", .mark '(']

lemma run_listWords (negated : Bool) (a : Operand) (fs : List Frame) :
    run ⟨.left a, fs⟩ (listWords negated) = ⟨.item negated a [], fs⟩ := by
  cases negated <;> rfl

lemma parse_items (name : ColumnName) (negated : Bool) {ids : List Int} (hne : ids ≠ []) :
    parse (.word name.text :: (listWords negated ++
        (joinTokens (.mark ',') (ids.map (fun n => [.num (toString n)])) ++ [.mark ')']))) =
      some (.isIn negated (.col name.text) (ids.map (fun n => .num (toString n)))) := by
  have hname : step start (.word name.text) = ⟨.left (.col name.text), [.empty]⟩ := by
    change apply (moveOn (operand? (.word name.text)) _) _ = _
    rw [WhereClauses.operand_name]
    rfl
  rw [parse, parseFrame]
  change (accept (run (step start _) _)).bind _ = _
  rw [hname, ConditionJoins.run_append, run_listWords, run_items _ _ ids hne]
  rfl

lemma lexes_items (ids : List Int) :
    Lexes (strValJoin (ids.map .long) ", ").toList
      (joinTokens (.mark ',') (ids.map (fun n => [.num (toString n)]))) := by
  have hcomma : Separates ", ".toList [.mark ','] := SqlTokens.separates (by decide) (by decide)
  rw [strValJoin, List.map_map]
  refine WhereClauses.lexes_join hcomma ?_
  rw [List.forall₂_map_left_iff, List.forall₂_map_right_iff, List.forall₂_same]
  exact fun n _ => SqlTokens.lexes_int n

lemma ofText_eq {text : String} {tokens : List Token} (h : Lexes text.toList tokens) :
    ofText text = parse tokens := by
  rw [ofText, (SqlTokens.lex_eq_some_iff text tokens).mpr h, Option.bind_some]

/-- The keyword of the condition in front of its one value. -/
lemma ofText_compare (name : ColumnName) (op : Comparison) (n : Int) :
    ofText (Column.compare op.text (Column.of name.text) (.long n)).cond =
      some (.cmp op.cmp (.col name.text) (.num (toString n))) := by
  have hplain : WhereClauses.Plain (.long n) := trivial
  exact (WhereClauses.atomic_compare name op rfl hplain).means

/-- The condition with a list in it. -/
def listed (name : ColumnName) (keyword : String) (ids : List Int) : Column :=
  (Column.of name.text).append (keyword ++ strValJoin (ids.map .long) ", " ++ ")")

lemma ofText_listed (name : ColumnName) {negated : Bool} {keyword : String}
    (hkeyword : Separates keyword.toList (listWords negated)) {ids : List Int} (hne : ids ≠ []) :
    ofText (listed name keyword ids).cond =
      some (.isIn negated (.col name.text) (ids.map (fun n => .num (toString n)))) := by
  have hclose : Separates ")".toList [.mark ')'] := SqlTokens.separates (by decide) (by decide)
  have hlist := (lexes_items ids).append_separated hclose SqlTokens.lexes_nil
  have h := (SqlTokens.lexes_name name.isName).append_separated hkeyword hlist
  have hlex : Lexes (listed name keyword ids).cond.toList (.word name.text ::
      (listWords negated ++ (joinTokens (.mark ',') (ids.map (fun n => [.num (toString n)])) ++
        [.mark ')']))) := by
    simpa only [listed, Column.append, Column.of, String.toList_append, List.append_assoc,
      List.append_nil, List.cons_append, List.nil_append] using h
  rw [ofText_eq hlex, parse_items name negated hne]

lemma separates_in : Separates " in (".toList (listWords false) :=
  SqlTokens.separates (by decide) (by decide)

lemma separates_notIn : Separates " not in (".toList (listWords true) :=
  SqlTokens.separates (by decide) (by decide)

lemma ofText_single (name : ColumnName) (n : Int) :
    ofText ((Column.of name.text).in_ [.long n]).cond =
      some (.cmp .eq (.col name.text) (.num (toString n))) :=
  ofText_compare name .eq n

/-- A single value is compared, several are listed. -/
theorem in_means (name : ColumnName) {ids : List Int} (hne : ids ≠ []) :
    ∃ e, ofText ((Column.of name.text).in_ (ids.map .long)).cond = some e ∧
      ∀ r, e.sat r = true ↔ IsMember ids r name.text := by
  match ids with
  | [] => exact absurd rfl hne
  | [n] => exact ⟨_, ofText_single name n, eq_sat name.text n⟩
  | m :: n :: rest =>
    exact ⟨_, ofText_listed name separates_in (by simp), isIn_sat name.text (m :: n :: rest)⟩

/-! ## Sets of values -/

/-- The condition of the column keeps these rows. -/
def Selects (c : Column) (keeps : Row → Prop) : Prop :=
  ∃ e, ofText c.cond = some e ∧ ∀ r, e.sat r = true ↔ keeps r

def SameRows (c c' : Column) : Prop := ∃ keeps, Selects c keeps ∧ Selects c' keeps

variable (name : ColumnName) {ids : List Int}

lemma notIn_means (hne : ids ≠ []) :
    Selects ((Column.of name.text).notIn (ids.map .long)) (IsOther ids · name.text) := by
  match ids with
  | [] => exact absurd rfl hne
  | [n] => exact ⟨_, ofText_compare name .ne n, ne_sat name.text n⟩
  | m :: n :: rest => exact ⟨_, ofText_listed name separates_notIn hne, notIn_sat name.text hne⟩

lemma listed_means (hne : ids ≠ []) :
    Selects (listed name " in (" ids) (IsMember ids · name.text) ∧
      Selects (listed name " not in (" ids) (IsOther ids · name.text) :=
  ⟨⟨_, ofText_listed name separates_in hne, isIn_sat name.text ids⟩,
    ⟨_, ofText_listed name separates_notIn hne, notIn_sat name.text hne⟩⟩

/-- Only which integers there are matters, not their order and not how often they come. -/
lemma isMember_congr {ids' : List Int} (h : ∀ n, n ∈ ids' ↔ n ∈ ids) :
    (IsMember ids' · name.text) = (IsMember ids · name.text) := by
  funext r
  simp only [IsMember, h]

lemma isOther_congr {ids' : List Int} (h : ∀ n, n ∈ ids' ↔ n ∈ ids) :
    (IsOther ids' · name.text) = (IsOther ids · name.text) := by
  funext r
  simp only [IsOther, IsMember, h]

/-- `in` and `not_in` are about the set of the integers, however it is written. -/
theorem membership (hne : ids ≠ []) :
    Selects ((Column.of name.text).in_ (ids.map .long)) (IsMember ids · name.text) ∧
      Selects ((Column.of name.text).notIn (ids.map .long)) (IsOther ids · name.text) ∧
      SameRows ((Column.of name.text).in_ (ids.map .long)) (listed name " in (" ids) ∧
      SameRows ((Column.of name.text).notIn (ids.map .long)) (listed name " not in (" ids) ∧
      ∀ ids' : List Int, (∀ n, n ∈ ids' ↔ n ∈ ids) →
        SameRows ((Column.of name.text).in_ (ids'.map .long))
            ((Column.of name.text).in_ (ids.map .long)) ∧
          SameRows ((Column.of name.text).notIn (ids'.map .long))
            ((Column.of name.text).notIn (ids.map .long)) := by
  have hin : Selects _ _ := in_means name hne
  have hnotIn := notIn_means name hne
  obtain ⟨hlist, hnotList⟩ := listed_means name hne
  refine ⟨hin, hnotIn, ⟨_, hin, hlist⟩, ⟨_, hnotIn, hnotList⟩, fun ids' hsame => ?_⟩
  have hne' : ids' ≠ [] := by
    obtain ⟨n, hn⟩ := List.exists_mem_of_ne_nil ids hne
    exact List.ne_nil_of_mem ((hsame n).mpr hn)
  refine ⟨⟨_, ?_, hin⟩, ⟨_, ?_, hnotIn⟩⟩
  · rw [← isMember_congr name hsame]
    exact in_means name hne'
  · rw [← isOther_congr name hsame]
    exact notIn_means name hne'

theorem membership_extremes :
    Selects ((Column.of "id").in_ ([-9223372036854775808, 7, 7].map .long))
        (IsMember [-9223372036854775808, 7, 7] · "id") ∧
      Selects ((Column.of "id").notIn ([-9223372036854775808, 7, 7].map .long))
        (IsOther [-9223372036854775808, 7, 7] · "id") ∧
      SameRows ((Column.of "id").in_ ([7, -9223372036854775808].map .long))
        ((Column.of "id").in_ ([-9223372036854775808, 7, 7].map .long)) := by
  have hids : ([-9223372036854775808, 7, 7] : List Int) ≠ [] := by simp
  obtain ⟨hin, hnotIn, -, -, hsame⟩ := membership ⟨"id", by decide, by decide⟩ hids
  exact ⟨hin, hnotIn, (hsame [7, -9223372036854775808] fun n => by
    simp only [List.mem_cons, List.not_mem_nil, or_false]
    tauto).1⟩

end MemberConditions
