import RpiRobot.RequestParams
import RpiRobot.SqlServers

/-!
# Filters as where conditions

`TRepository::applyFilter` turns each field of a filter into at most one where
condition, by a case analysis on the operation and then on the type of the value.
This file says which fields keep their condition and what the collected clause
then denotes.
-/

namespace FilterConditions

open SqlTokens (Token Lexes Opens Separates)
open SqlConditions ConditionJoins SqlBuilder StringLiterals RequestParams WhereClauses
open SqlServers (NulFree nulFree_int nulFree_string)

/-- The condition that the switch builds for a field; some combinations fall
through without one. -/
def fieldCondition (item : Field) : Option Column :=
  let column := Column.of item.name
  match item.operation, item.value with
  | .opLike, .string s => some (column.like s)
  | .opLike, _ => none
  | .opNlike, .string s => some (column.notLike s)
  | .opNlike, _ => none
  | .opGt, .long n => some (column.gt (.long n))
  | .opGt, .double d => some (column.gt (.double d))
  | .opGt, _ => none
  | .opLt, .long n => some (column.lt (.long n))
  | .opLt, .double d => some (column.lt (.double d))
  | .opLt, _ => none
  | .opGte, .long n => some (column.ge (.long n))
  | .opGte, _ => none
  | .opLte, .long n => some (column.le (.long n))
  | .opLte, .double d => some (column.le (.double d))
  | .opLte, _ => none
  -- `op_eq` and every other operation
  | _, .string s => some (column.eq (.string s))
  | _, .long n => some (column.eq (.long n))
  | _, .double d => some (column.eq (.double d))
  | _, _ => none

/-- The template is instantiated with the `where` of a select or a delete model. -/
def applyFilter {M : Type} (where_ : M → Column → M) (model : M) (filter : Filter) : M :=
  filter.foldl (fun model item =>
    match fieldCondition item with
    | some condition => where_ model condition
    | none => model) model

def conditions (filter : Filter) : List Column := filter.filterMap fieldCondition

lemma applyFilter_eq {M : Type} (where_ : M → Column → M) (model : M) (filter : Filter) :
    applyFilter where_ model filter = (conditions filter).foldl where_ model := by
  induction filter generalizing model with
  | nil => rfl
  | cons item filter ih =>
    rw [conditions, List.filterMap_cons]
    cases hc : fieldCondition item with
    | none => rw [applyFilter, List.foldl_cons, hc]; exact ih model
    | some c => rw [applyFilter, List.foldl_cons, hc]; exact ih (where_ model c)

lemma applyFilter_select (m : SelectModel) (filter : Filter) :
    applyFilter SelectModel.where_ m filter =
      { m with whereCondition := m.whereCondition ++ (conditions filter).map Column.cond } := by
  rw [applyFilter_eq, Site.selectWhere_foldl]

lemma applyFilter_delete (m : DeleteModel) (filter : Filter) :
    applyFilter DeleteModel.where_ m filter =
      { m with whereCondition := m.whereCondition ++ (conditions filter).map Column.cond } := by
  rw [applyFilter_eq, Site.deleteWhere_foldl]

/-! What the fields ask for. -/

/-- One call of `Filter::add`. -/
structure Add where
  name : ColumnName
  operation : Operation
  arg : Arg

def Add.field (a : Add) : Field := Field.of a.name.text a.operation a.arg

def filterOf (adds : List Add) : Filter :=
  adds.foldl (fun f a => f.add a.name.text a.operation a.arg) Filter.create

def comparison? : Operation → Option Comparison
  | .opEq => some .eq
  | .opGt => some .gt
  | .opGte => some .ge
  | .opLt => some .lt
  | .opLte => some .le
  | _ => none

def textExpr (name : ColumnName) (s : String) : Operation → Option Expr
  | .opLike => some (.like false (.col name.text) (s ++ "%"))
  | .opNlike => some (.like true (.col name.text) (s ++ "%"))
  | .opEq => some (.cmp .eq (.col name.text) (.str s))
  | _ => none

def membership (name : ColumnName) (items : List Operand) : Operation → Option Expr
  | .opIn => some (.isIn false (.col name.text) items)
  | .opEq => some (.isIn false (.col name.text) items)
  | .opLike => some (.isIn false (.col name.text) items)
  | .opNin => some (.isIn true (.col name.text) items)
  | .opNlike => some (.isIn true (.col name.text) items)
  | _ => none

/-- What the call asks for, with the value as the caller gave it; `none` where the
operation means nothing for the value. -/
def Add.expr (a : Add) : Option Expr :=
  match a.arg with
  | .integral n => (comparison? a.operation).map
      (fun op => .cmp op.cmp (.col a.name.text) (.num (toString n)))
  | .floating d => (comparison? a.operation).map
      (fun op => .cmp op.cmp (.col a.name.text) (.num d.text))
  | .chars s => textExpr a.name s a.operation
  | .string s => textExpr a.name s a.operation
  | .strings v => membership a.name (v.map .str) a.operation
  | .numbers v => membership a.name (v.map (fun d => .num d.text)) a.operation

/-- The calls whose condition is built and says what was asked for. -/
def Add.Kept (a : Add) : Prop :=
  match a.arg with
  | .integral n => -(2 ^ 63) ≤ n ∧ n < 2 ^ 63
  | .floating _ => a.operation ≠ .opGte
  | .chars _ => False
  | .string s => QuoteFree s.toList ∧ NulFree s
  | .strings _ => False
  | .numbers _ => False

/-- The text of the condition reaches the server whole, which never sees what comes
after a NUL, and denotes the expression. -/
def Reads (c : Column) (e : Expr) : Prop := NulFree c.cond ∧ Means c e

/-- The filter appends one condition for each call, in order, each says to the server
what its call asks for, and the clause keeps the rows that satisfy all of them. -/
def Expressed (adds : List Add) (es : List Expr) : Prop :=
  ∃ cs : List Column,
    (∀ m, applyFilter SelectModel.where_ m (filterOf adds) =
      { m with whereCondition := m.whereCondition ++ cs.map Column.cond }) ∧
    (∀ m, applyFilter DeleteModel.where_ m (filterOf adds) =
      { m with whereCondition := m.whereCondition ++ cs.map Column.cond }) ∧
    List.Forall₂ Reads cs es ∧
    ∀ row, clauseSat (cs.map Column.cond) row = some true ↔ AllSat row es

lemma filterOf_eq (adds : List Add) : filterOf adds = adds.map Add.field :=
  filter_adds (fun a : Add => a.name.text) Add.operation Add.arg adds Filter.create

/-! What reaches the server of a condition. -/

/-- No word holds a NUL. -/
lemma nulFree_name (name : ColumnName) : NulFree name.text := by
  intro hnul
  have hname := name.isName
  cases htext : name.text.toList with
  | nil =>
    rw [htext] at hnul
    exact List.not_mem_nil hnul
  | cons c cs =>
    rw [htext, SqlTokens.isName, Bool.and_eq_true, Bool.and_eq_true] at hname
    rw [htext] at hnul
    rcases List.mem_cons.mp hnul with rfl | hcs
    · exact absurd hname.1.1 (by decide)
    · exact absurd (List.all_eq_true.mp hname.1.2 _ hcs) (by decide)

lemma nulFree_double (d : Double) : NulFree d.text := by
  intro hnul
  have hnumeral := d.numeral
  cases htext : d.text.toList with
  | nil =>
    rw [htext] at hnul
    exact List.not_mem_nil hnul
  | cons c cs =>
    rw [htext, SqlTokens.isNumeral, Bool.and_eq_true] at hnumeral
    rw [htext] at hnul
    rcases List.mem_cons.mp hnul with rfl | hcs
    · exact absurd hnumeral.1 (by decide)
    · exact absurd (List.all_eq_true.mp hnumeral.2 _ hcs) (by decide)

lemma nulFree_compare (name : ColumnName) (op : Comparison) {v : Data}
    (hdata : NulFree (toValue v)) :
    NulFree (Column.compare op.text (Column.of name.text) v).cond := by
  have hop : NulFree (" " ++ op.text ++ " ") := by cases op <;> decide
  change NulFree (name.text ++ (" " ++ op.text ++ " " ++ toValue v))
  exact (nulFree_name name).append (hop.append hdata)

lemma nulFree_like (name : ColumnName) {s : String} (h : NulFree s) :
    NulFree ((Column.of name.text).like s).cond ∧
      NulFree ((Column.of name.text).notLike s).cond := by
  have hname := nulFree_name name
  rw [NulFree] at hname h
  constructor
  · simp [NulFree, Column.like, Column.append, Column.of, hname, h]
  · simp [NulFree, Column.notLike, Column.append, Column.of, hname, h]

/-- A condition holds the string it compares with. -/
lemma mem_string_condition {name : ColumnName} {op : Operation} {s : String} {e : Expr}
    {c : Column} (he : textExpr name s op = some e)
    (hc : fieldCondition ⟨name.text, op, .string s⟩ = some c) {ch : Char} (h : ch ∈ s.toList) :
    ch ∈ c.cond.toList := by
  cases op <;> cases he
  all_goals
    obtain rfl := Option.some.inj hc
    simp [Column.like, Column.notLike, Column.eq, Column.compare, Column.append, Column.of,
      toValue, h]

/-! From a kept call to its condition. -/

lemma toLong_eq_self_iff (n : Int) : toLong n = n ↔ -(2 ^ 63) ≤ n ∧ n < 2 ^ 63 := by
  have hlow : -(2 ^ 63) ≤ toLong n := Int.le_bmod (m := 2 ^ 64) (by decide)
  have hhigh : toLong n < 2 ^ 63 := Int.bmod_lt (m := 2 ^ 64) (by decide)
  constructor
  · intro h
    rw [← h]
    exact ⟨hlow, hhigh⟩
  · rintro ⟨hle, hlt⟩
    exact Int.bmod_eq_of_le (m := 2 ^ 64) hle hlt

theorem kept_atomic (a : Add) {e : Expr} (he : a.expr = some e) (hk : a.Kept) :
    ∃ c, fieldCondition a.field = some c ∧ Atomic c e ∧ NulFree c.cond := by
  obtain ⟨name, op, arg⟩ := a
  cases arg with
  | integral n =>
    obtain ⟨cmp, hop, rfl⟩ := Option.map_eq_some_iff.mp he
    have hatom := atomic_compare name cmp (d := .long n) rfl trivial
    have hnul := nulFree_compare name cmp (v := .long n) (nulFree_int n)
    refine ⟨_, ?_, hatom, hnul⟩
    rw [Add.field, Field.of, (toLong_eq_self_iff n).mpr hk]
    cases op <;> cases hop <;> rfl
  | floating d =>
    obtain ⟨cmp, hop, rfl⟩ := Option.map_eq_some_iff.mp he
    have hatom := atomic_compare name cmp (d := .double d) rfl trivial
    have hnul := nulFree_compare name cmp (v := .double d) (nulFree_double d)
    refine ⟨_, ?_, hatom, hnul⟩
    cases op <;> cases hop <;> first | rfl | exact absurd rfl hk
  | chars s => exact absurd hk id
  | string s =>
    obtain ⟨hquote, hnul⟩ := hk
    cases op <;> cases he
    case opLike.refl => exact ⟨_, rfl, atomic_like name hquote, (nulFree_like name hnul).1⟩
    case opNlike.refl => exact ⟨_, rfl, atomic_notLike name hquote, (nulFree_like name hnul).2⟩
    case opEq.refl =>
      exact ⟨_, rfl, atomic_compare name .eq (d := .string s) rfl hquote,
        nulFree_compare name .eq (nulFree_string hnul)⟩
  | strings v => exact absurd hk id
  | numbers v => exact absurd hk id

/-! From a condition back to its call. -/

lemma literal_after {before v after : List Char} {done tokens : List Token}
    (hopen : Opens before done) (h : Lexes (before ++ (quoted v ++ after)) tokens) :
    ∃ content tail, v ++ '\'' :: after = doubled content ++ '\'' :: tail ∧
      done ++ [.str (String.ofList content)] <+: tokens := by
  apply literal_content
  rwa [Lexes, SqlTokens.run_append, show SqlTokens.run SqlTokens.start before = ⟨done, .gap⟩
    from hopen] at h

lemma closePattern_next {x : Expr} {stack : List Frame} {t : Token} {rest : List Token}
    (h : (SqlConditions.run ⟨.closePattern x, stack⟩ (t :: rest)).mode ≠ .bad) :
    t = .mark ')' := by
  by_contra hne
  apply h
  have hact : act (.closePattern x) t = .fail := by
    cases t with
    | mark c =>
      unfold act
      split <;> simp_all
    | word s => rfl
    | num s => rfl
    | str s => rfl
    | sym s => rfl
  change (SqlConditions.run (apply (act (.closePattern x) t) stack) rest).mode = .bad
  rw [hact]
  cases stack <;> exact run_bad _ rest

lemma like_reads {name : ColumnName} (negated : Bool) (text : String) {words : List Token}
    (hwords : words = if negated then [.word "not", .word "like"] else [.word "like"])
    (hword : Separates (text ++ " (").toList (words ++ [.mark '('])) {v : String} {e : Expr}
    (hatom : ¬ Compound e)
    (h : ofText (name.text ++ (text ++ " ('" ++ v ++ "%')")) = some e) :
    ∃ content tail, (v ++ "%").toList ++ '\'' :: [')'] = doubled content ++ '\'' :: tail ∧
      e = .like negated (.col name.text) (String.ofList content) := by
  obtain ⟨ts, hlex, hparse⟩ := Option.bind_eq_some_iff.mp h
  have hopen := (SqlTokens.lexes_name name.isName).separator hword
  have htext : (name.text ++ (text ++ " ('" ++ v ++ "%')")).toList =
      name.text.toList ++ (text ++ " (").toList ++ (quoted (v ++ "%").toList ++ [')']) := by
    simp [quoted]
  rw [SqlTokens.lex_eq_some_iff, htext] at hlex
  obtain ⟨content, tail, heq, rest, hrest⟩ := literal_after hopen hlex
  refine ⟨content, tail, heq, ?_⟩
  subst hrest
  have hread := accept_eq_some (parse_like name (String.ofList content) negated)
  have hhead : SqlConditions.run SqlConditions.start
      ([.word name.text] ++ (words ++ [.mark '(']) ++ [.str (String.ofList content)]) =
      ⟨.closePattern (.like negated (.col name.text) (String.ofList content)), [.empty]⟩ := by
    have h1 : act .operand (.word name.text) = .move (.left (.col name.text)) := by
      change moveOn (operand? (.word name.text)) _ = _
      rw [operand_name]
      rfl
    subst hwords
    cases negated <;>
    · simp only [SqlConditions.run, if_true, Bool.false_eq_true, if_false, List.cons_append,
        List.nil_append, List.foldl_cons, List.foldl_nil, SqlConditions.start,
        SqlConditions.step, h1, apply]
      rfl
  obtain ⟨f, hf, he⟩ := Option.bind_eq_some_iff.mp hparse
  have hrun := accept_eq_some hf
  rw [ConditionJoins.run_append, hhead] at hrun
  cases rest with
  | nil => exact absurd (congrArg Parser.mode hrun) (by exact Mode.noConfusion)
  | cons t rest =>
    have ht : t = .mark ')' := closePattern_next (by
      rw [hrun]
      exact Mode.noConfusion)
    subst ht
    have hfirst : SqlConditions.run SqlConditions.start
        (([.word name.text] ++ (words ++ [.mark '(']) ++ [.str (String.ofList content)]) ++
          [.mark ')']) =
        ⟨.done, [⟨[], [.like negated (.col name.text) (String.ofList content)]⟩]⟩ := by
      rw [ConditionJoins.run_append, hhead]
      rfl
    have htokens : [.word name.text] ++ (words ++ [.mark '(']) ++
        [.str (String.ofList content)] ++ .mark ')' :: rest =
        [.word name.text] ++ (words ++ [.mark '(']) ++ [.str (String.ofList content)] ++
          [.mark ')'] ++ rest := by simp
    rw [htokens] at hparse
    exact (parse_begins hfirst hparse).resolve_right hatom

lemma equal_reads {name : ColumnName} {v : String} {e : Expr} (hatom : ¬ Compound e)
    (h : ofText ((Column.of name.text).eq (.string v)).cond = some e) :
    ∃ content tail, v.toList ++ '\'' :: [] = doubled content ++ '\'' :: tail ∧
      e = .cmp .eq (.col name.text) (.str (String.ofList content)) := by
  obtain ⟨ts, hlex, hparse⟩ := Option.bind_eq_some_iff.mp h
  have hopen := (SqlTokens.lexes_name name.isName).separator (separates_comparison .eq)
  have htext : ((Column.of name.text).eq (.string v)).cond.toList =
      name.text.toList ++ (" " ++ Comparison.eq.text ++ " ").toList ++ (quoted v.toList ++ []) := by
    simp [Column.eq, Column.compare, Column.append, Column.of, toValue, quoted, Comparison.text]
  rw [SqlTokens.lex_eq_some_iff, htext] at hlex
  obtain ⟨content, tail, heq, rest, hrest⟩ := literal_after hopen hlex
  refine ⟨content, tail, heq, ?_⟩
  subst hrest
  have hfirst := accept_eq_some (parse_comparison name .eq
    (t := .str (String.ofList content)) (o := .str (String.ofList content)) rfl)
  exact (parse_begins hfirst hparse).resolve_right hatom

lemma not_compound_like (n : Bool) (o : Operand) (p : String) : ¬ Compound (.like n o p) := by
  rintro ⟨a, b, h | h⟩ <;> exact Expr.noConfusion h

lemma not_compound_cmp (op : Cmp) (o p : Operand) : ¬ Compound (.cmp op o p) := by
  rintro ⟨a, b, h | h⟩ <;> exact Expr.noConfusion h

lemma quoteFree_left {a b : List Char} (h : QuoteFree (a ++ b)) : QuoteFree a :=
  fun hm => h (List.mem_append_left b hm)

/-- A string given as `std::string` whose condition says what was asked for has no quote. -/
lemma quoteFree_of_means {name : ColumnName} {op : Operation} {s : String} {e : Expr}
    {c : Column} (he : textExpr name s op = some e)
    (hc : fieldCondition ⟨name.text, op, .string s⟩ = some c) (h : Means c e) :
    QuoteFree s.toList := by
  have like : ∀ content tail, (s ++ "%").toList ++ '\'' :: [')'] =
      doubled content ++ '\'' :: tail → s ++ "%" = String.ofList content → QuoteFree s.toList := by
    intro content tail heq hcontent
    have hlist : content = (s ++ "%").toList := by rw [hcontent, String.toList_ofList]
    rw [hlist] at heq
    have hfree := quoteFree_of_doubled _ [')'] tail (by simp) heq
    rw [String.toList_append] at hfree
    exact quoteFree_left hfree
  cases op <;> cases he
  case opLike.refl =>
    obtain rfl := Option.some.inj hc
    obtain ⟨content, tail, heq, hread⟩ := like_reads false " LIKE"
      rfl (SqlTokens.separates (by decide) (by decide)) (not_compound_like _ _ _) h
    rw [Expr.like.injEq] at hread
    exact like content tail heq hread.2.2
  case opNlike.refl =>
    obtain rfl := Option.some.inj hc
    obtain ⟨content, tail, heq, hread⟩ := like_reads true " NOT LIKE"
      rfl (SqlTokens.separates (by decide) (by decide)) (not_compound_like _ _ _) h
    rw [Expr.like.injEq] at hread
    exact like content tail heq hread.2.2
  case opEq.refl =>
    obtain rfl := Option.some.inj hc
    obtain ⟨content, tail, heq, hread⟩ := equal_reads (not_compound_cmp _ _ _) h
    rw [Expr.cmp.injEq, Operand.str.injEq] at hread
    have hlist : content = s.toList := by rw [hread.2.2, String.toList_ofList]
    rw [hlist] at heq
    exact quoteFree_of_doubled s.toList [] tail (by simp) heq

/-- An integer that its `long` reads back as is in the range of a `long`. -/
lemma range_of_means {name : ColumnName} {op : Operation} {cmp : Comparison} {n : Int}
    {c : Column} (hop : comparison? op = some cmp)
    (hc : fieldCondition ⟨name.text, op, .long (toLong n)⟩ = some c)
    (h : Means c (.cmp cmp.cmp (.col name.text) (.num (toString n)))) :
    -(2 ^ 63) ≤ n ∧ n < 2 ^ 63 := by
  have hatom := (atomic_compare name cmp (d := .long (toLong n)) rfl trivial).means
  have hsame : c = Column.compare cmp.text (Column.of name.text) (.long (toLong n)) := by
    cases op <;> cases hop <;> exact (Option.some.inj hc).symm
  rw [hsame] at h
  have hexpr := Option.some.inj (hatom.symm.trans h)
  rw [Expr.cmp.injEq, Operand.num.injEq] at hexpr
  have hvalue : some (toLong n) = some n := by
    rw [← DecimalText.intValue_toString, ← DecimalText.intValue_toString n, hexpr.2.2]
  exact (toLong_eq_self_iff n).mp (Option.some.inj hvalue)

theorem kept_of_reads (a : Add) {e : Expr} {c : Column} (he : a.expr = some e)
    (hc : fieldCondition a.field = some c) (h : Reads c e) : a.Kept := by
  obtain ⟨name, op, arg⟩ := a
  obtain ⟨hnul, hmeans⟩ := h
  cases arg with
  | integral n =>
    obtain ⟨cmp, hop, rfl⟩ := Option.map_eq_some_iff.mp he
    exact range_of_means hop hc hmeans
  | floating d =>
    rintro rfl
    exact absurd hc (by simp [Add.field, Field.of, fieldCondition])
  | chars s =>
    -- the NUL that comes with the array is part of the condition
    have hasked : (textExpr name (s ++ "\x00") op).isSome = true := by
      cases op <;> cases he <;> rfl
    obtain ⟨e', he'⟩ := Option.isSome_iff_exists.mp hasked
    exact hnul (mem_string_condition he' hc (by simp))
  | string s =>
    exact ⟨quoteFree_of_means he hc hmeans, fun hs => hnul (mem_string_condition he hc hs)⟩
  | strings v => cases op <;> exact absurd hc (by simp [Add.field, Field.of, vectorOperation,
      fieldCondition])
  | numbers v => cases op <;> exact absurd hc (by simp [Add.field, Field.of, vectorOperation,
      fieldCondition])

/-! The two directions for a whole filter. -/

lemma conditions_cons (a : Add) (adds : List Add) :
    conditions (filterOf (a :: adds)) =
      (fieldCondition a.field).toList ++ conditions (filterOf adds) := by
  rw [filterOf_eq, filterOf_eq, conditions, List.map_cons, List.filterMap_cons]
  cases fieldCondition a.field <;> rfl

lemma atomic_conditions {adds : List Add} {es : List Expr}
    (h : List.Forall₂ (fun a e => a.expr = some e) adds es) (hk : ∀ a ∈ adds, a.Kept) :
    List.Forall₂ Atomic (conditions (filterOf adds)) es ∧
      ∀ c ∈ conditions (filterOf adds), NulFree c.cond := by
  induction h with
  | nil => exact ⟨.nil, fun c hc => absurd hc List.not_mem_nil⟩
  | cons he hrest ih =>
    rw [List.forall_mem_cons] at hk
    obtain ⟨c, hc, hatom, hnul⟩ := kept_atomic _ he hk.1
    obtain ⟨hatoms, hnuls⟩ := ih hk.2
    rw [conditions_cons, hc]
    exact ⟨.cons hatom hatoms, List.forall_mem_cons.mpr ⟨hnul, hnuls⟩⟩

lemma reads_of_atomic {cs : List Column} {es : List Expr} (h : List.Forall₂ Atomic cs es)
    (hnul : ∀ c ∈ cs, NulFree c.cond) : List.Forall₂ Reads cs es := by
  induction h with
  | nil => exact .nil
  | cons hc hrest ih =>
    rw [List.forall_mem_cons] at hnul
    exact .cons ⟨hnul.1, hc.means⟩ (ih hnul.2)

lemma single_of_atomic {cs : List Column} {es : List Expr} (h : List.Forall₂ Atomic cs es) :
    ∀ c ∈ cs, (frameOf c).closed = [] := by
  induction h with
  | nil => exact fun c hc => absurd hc List.not_mem_nil
  | cons hc hrest ih => exact List.forall_mem_cons.mpr ⟨hc.single, ih⟩

lemma length_conditions_le (adds : List Add) :
    (conditions (filterOf adds)).length ≤ adds.length := by
  rw [filterOf_eq, conditions]
  exact (List.length_filterMap_le _ _).trans_eq (List.length_map _)

lemma kept_of_conditions {adds : List Add} {es : List Expr}
    (h : List.Forall₂ (fun a e => a.expr = some e) adds es)
    (hm : List.Forall₂ Reads (conditions (filterOf adds)) es) : ∀ a ∈ adds, a.Kept := by
  induction h with
  | nil => exact fun a ha => absurd ha List.not_mem_nil
  | cons he hrest ih =>
    rename_i a e adds es
    rw [conditions_cons] at hm
    cases hc : fieldCondition a.field with
    | none =>
      -- one condition is missing, so the conditions are too few
      rw [hc] at hm
      have hlen := hm.length_eq
      have hle := length_conditions_le adds
      have hadds := hrest.length_eq
      simp only [Option.toList_none, List.nil_append, List.length_cons] at hlen
      omega
    | some c =>
      rw [hc] at hm
      cases hm with
      | cons hmeans hmrest =>
        rw [List.forall_mem_cons]
        exact ⟨kept_of_reads a he hc hmeans, ih hmrest⟩

/-- No field of a filter is lost or altered exactly when every call passes an integer
that fits into a `long`, a floating number with an operation other than `op_gte`, or a
`std::string` without a quote and without a NUL. -/
theorem filter_expressed_iff {adds : List Add} {es : List Expr}
    (h : List.Forall₂ (fun a e => a.expr = some e) adds es) :
    Expressed adds es ↔ ∀ a ∈ adds, a.Kept := by
  constructor
  · rintro ⟨cs, hselect, hdelete, hreads, hclause⟩
    have hconds : (conditions (filterOf adds)).map Column.cond = cs.map Column.cond := by
      have hnew := hdelete DeleteModel.new
      rw [applyFilter_delete] at hnew
      simpa [DeleteModel.new] using hnew
    have hcs : conditions (filterOf adds) = cs :=
      List.map_injective_iff.mpr (fun a b hab => by cases a; cases b; exact congrArg _ hab) hconds
    exact kept_of_conditions h (hcs ▸ hreads)
  · intro hk
    obtain ⟨hatom, hnul⟩ := atomic_conditions h hk
    have hmeans : List.Forall₂ Means (conditions (filterOf adds)) es :=
      hatom.imp (fun _ _ ha => ha.means)
    exact ⟨conditions (filterOf adds), fun m => applyFilter_select m _,
      fun m => applyFilter_delete m _, reads_of_atomic hatom hnul,
      fun row => clause_conjunction hmeans (single_of_atomic hatom) row⟩

def idColumn : ColumnName := ⟨"id", by decide, by decide⟩

def nameColumn : ColumnName := ⟨"name", by decide, by decide⟩

/-- A search for a name, a lower bound and a bound that is no integer. -/
def searchAdds : List Add :=
  [⟨nameColumn, .opLike, .string "smart"⟩, ⟨idColumn, .opGte, .integral 5⟩,
    ⟨idColumn, .opLt, .floating ⟨"7.5", by decide, by decide⟩⟩]

theorem filter_expressed_search :
    Expressed searchAdds [.like false (.col "name") "smart%", .cmp .ge (.col "id") (.num "5"),
      .cmp .lt (.col "id") (.num "7.5")] := by
  have h : List.Forall₂ (fun (a : Add) e => a.expr = some e) searchAdds
      [.like false (.col "name") "smart%", .cmp .ge (.col "id") (.num "5"),
        .cmp .lt (.col "id") (.num "7.5")] := .cons rfl (.cons rfl (.cons rfl .nil))
  refine (filter_expressed_iff h).mpr ?_
  rw [searchAdds, List.forall_mem_cons, List.forall_mem_cons, List.forall_mem_singleton]
  have hstring : QuoteFree "smart".toList ∧ NulFree "smart" := by decide
  have hlong : -(2 ^ 63) ≤ (5 : Int) ∧ (5 : Int) < 2 ^ 63 := by decide
  have hdouble : Operation.opLt ≠ .opGte := by decide
  exact ⟨hstring, hlong, hdouble⟩

/-- A membership test on a vector builds no condition at all: a delete with this
filter has no where clause. -/
theorem filter_vector_dropped :
    ¬ ∀ (adds : List Add) (es : List Expr), List.Forall₂ (fun a e => a.expr = some e) adds es →
      Expressed adds es := by
  intro h
  obtain ⟨cs, _, hdelete, hreads, _⟩ := h [⟨idColumn, .opIn, .strings ["5", "6"]⟩]
    [.isIn false (.col "id") [.str "5", .str "6"]] (.cons (by decide) .nil)
  have hnew : [] = cs.map Column.cond := congrArg DeleteModel.whereCondition
    (hdelete DeleteModel.new)
  have hlen := hreads.length_eq
  rw [List.map_eq_nil_iff.mp hnew.symm] at hlen
  exact absurd hlen (by decide)

end FilterConditions
