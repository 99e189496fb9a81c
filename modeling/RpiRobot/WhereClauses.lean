import Mathlib.Data.List.Forall2
import RpiRobot.ConditionJoins
import RpiRobot.SqlBuilder
import RpiRobot.StringLiterals

/-!
# Where clauses of the SQL builder

The text between `where` and the next clause is the list of conditions joined
by `and`, with no parentheses around them. This file says what that text
denotes, for conditions of any shape, and what the column operators write.
-/

namespace WhereClauses

open SqlTokens (Token Lexes Opens Separates joinTokens)
open SqlConditions ConditionJoins SqlBuilder StringLiterals

/-- What the text of one condition denotes on its own. -/
def Means (c : Column) (e : Expr) : Prop := ofText c.cond = some e

instance (c : Column) (e : Expr) : Decidable (Means c e) := inferInstanceAs (Decidable (_ = _))

/-- The truth value of a clause on a row: `none` if its text is no condition. An
absent clause holds everywhere. -/
def clauseSat (conditions : List String) (row : Row) : Option Bool :=
  if conditions = [] then some true
  else (ofText (strJoin conditions " and ")).map (fun e => e.sat row)

/-- The alternatives one condition offers at its top level, in the frame the
parser collects them in. -/
def frameOf (c : Column) : Frame := ((SqlTokens.lex c.cond).bind parseFrame).getD .empty

/-- The runs of conjuncts that the top-level `or`s cut the list of conditions into:
each goes from one `or` to the next, across the conditions between them. -/
def alternatives (cs : List Column) : List (List Expr) := (glueAll (cs.map frameOf)).groups

lemma means_spec {c : Column} {e : Expr} (h : Means c e) :
    ∃ ts, Lexes c.cond.toList ts ∧ parseFrame ts = some (frameOf c) ∧
      anyOf (frameOf c).groups = some e := by
  obtain ⟨ts, hlex, hparse⟩ := Option.bind_eq_some_iff.mp h
  obtain ⟨f, hf, he⟩ := Option.bind_eq_some_iff.mp hparse
  have hframe : frameOf c = f := by rw [frameOf, hlex, Option.bind_some, hf, Option.getD_some]
  exact ⟨ts, hlex, hframe ▸ hf, hframe ▸ he⟩

lemma separates_and : Separates " and ".toList [.word "and"] :=
  SqlTokens.separates (by decide) (by decide)

lemma lexes_join {delim : String} {sep : Token} (hsep : Separates delim.toList [sep])
    {texts : List String} {ts : List (List Token)}
    (h : List.Forall₂ (fun s t => Lexes s.toList t) texts ts) :
    Lexes (strJoin texts delim).toList (joinTokens sep ts) := by
  induction h with
  | nil => exact SqlTokens.lexes_nil
  | cons hs hrest ih =>
    cases hrest with
    | nil => exact hs
    | cons hs' hrest' =>
      have hjoin := hs.append_separated hsep ih
      rw [strJoin_cons_cons, String.toList_append, String.toList_append, joinTokens]
      simpa only [List.append_assoc, List.singleton_append] using hjoin

/-- The clause of a list of meaningful conditions is a condition with the
alternatives of the list. -/
theorem clause_meaning {cs : List Column} {es : List Expr} (h : List.Forall₂ Means cs es)
    (hne : cs ≠ []) :
    ∃ e, ofText (strJoin (cs.map Column.cond) " and ") = some e ∧
      ∀ row, e.sat row = true ↔ GroupsSat row (alternatives cs) := by
  have hts : ∃ ts, List.Forall₂ (fun s t => Lexes s.toList t) (cs.map Column.cond) ts ∧
      List.Forall₂ (fun t f => parseFrame t = some f) ts (cs.map frameOf) ∧
      ∀ f ∈ cs.map frameOf, Whole f := by
    clear hne
    induction h with
    | nil => exact ⟨[], .nil, .nil, by simp⟩
    | cons hc hrest ih =>
      obtain ⟨ts, hl, hp, hw⟩ := ih
      obtain ⟨t, hlex, hparse, hany⟩ := means_spec hc
      refine ⟨t :: ts, .cons hlex hl, .cons hparse hp, ?_⟩
      rw [List.map_cons, List.forall_mem_cons]
      exact ⟨(anyOf_groups_isSome _).mp (by rw [hany]; rfl), hw⟩
  obtain ⟨ts, hl, hp, hw⟩ := hts
  have hmap : cs.map Column.cond ≠ [] := by simpa using hne
  have hts : ts ≠ [] := by
    rintro rfl
    exact hmap (List.eq_nil_of_length_eq_zero hl.length_eq)
  have hfr : cs.map frameOf ≠ [] := by simpa using hne
  obtain ⟨e, he⟩ := Option.isSome_iff_exists.mp
    ((anyOf_groups_isSome _).mpr (whole_glueAll hfr hw))
  refine ⟨e, ?_, fun row => anyOf_sat he⟩
  rw [ofText, show SqlTokens.lex (strJoin (cs.map Column.cond) " and ") = some (joinTokens _ ts)
    from lexes_join separates_and hl, Option.bind_some, parse, parseFrame_join hp hts,
    Option.bind_some]
  exact he

/-- All the conditions hold of a row. -/
def AllSat (row : Row) (es : List Expr) : Prop := ∀ e ∈ es, e.sat row = true

lemma allSat_iff {cs : List Column} {es : List Expr} (h : List.Forall₂ Means cs es) (row : Row) :
    AllSat row es ↔ ∀ c ∈ cs, GroupsSat row (frameOf c).groups := by
  induction h with
  | nil => simp [AllSat]
  | cons hc hrest ih =>
    obtain ⟨t, _, _, hany⟩ := means_spec hc
    simp only [AllSat, List.forall_mem_cons] at ih ⊢
    rw [anyOf_sat hany, ih]

/-- The clause is the conjunction exactly when every alternative that the
top-level `or`s leave already implies all the conditions. -/
theorem clause_conjunction_iff {cs : List Column} {es : List Expr}
    (h : List.Forall₂ Means cs es) :
    (∀ row, clauseSat (cs.map Column.cond) row = some true ↔ AllSat row es) ↔
      (cs = [] ∨ ∀ g ∈ alternatives cs, ∀ row, GroupSat row g → AllSat row es) := by
  by_cases hne : cs = []
  · subst cs
    cases h
    simp [clauseSat, AllSat]
  · obtain ⟨e, htext, hsat⟩ := clause_meaning h hne
    have hmap : cs.map Column.cond ≠ [] := by simpa using hne
    have hclause : ∀ row, clauseSat (cs.map Column.cond) row = some true ↔
        GroupsSat row (alternatives cs) := by
      intro row
      rw [clauseSat, if_neg hmap, htext, Option.map_some, Option.some.injEq, hsat]
    have hjoin : ∀ row, AllSat row es → GroupsSat row (alternatives cs) := by
      intro row hall
      apply groupsSat_glueAll (by simpa using hne)
      rw [List.forall_mem_map]
      exact (allSat_iff h row).mp hall
    simp only [hclause, hne, false_or]
    constructor
    · intro hiff g hg row hgs
      exact (hiff row).mp ⟨g, hg, hgs⟩
    · intro himp row
      constructor
      · rintro ⟨g, hg, hgs⟩
        exact himp g hg row hgs
      · exact hjoin row

/-- Conditions without a top-level `or` are joined into their conjunction. -/
theorem clause_conjunction {cs : List Column} {es : List Expr} (h : List.Forall₂ Means cs es)
    (single : ∀ c ∈ cs, (frameOf c).closed = []) (row : Row) :
    clauseSat (cs.map Column.cond) row = some true ↔ AllSat row es := by
  revert row
  rw [clause_conjunction_iff h]
  by_cases hne : cs = []
  · exact Or.inl hne
  · refine Or.inr fun g hg row hgs => ?_
    have hframes : ∀ f ∈ cs.map frameOf, f.closed = [] := by
      rw [List.forall_mem_map]
      exact single
    rw [alternatives, glueAll_single hframes, Frame.groups, List.nil_append,
      List.mem_singleton] at hg
    subst hg
    rw [allSat_iff h]
    intro c hc
    refine ⟨(frameOf c).chain, by simp [Frame.groups], fun e he => hgs e ?_⟩
    rw [List.mem_flatMap]
    exact ⟨frameOf c, List.mem_map_of_mem hc, he⟩

/-! What the column operators write. -/

/-- A text that reads as a single conjunct. -/
def Atomic (c : Column) (e : Expr) : Prop :=
  ∃ ts, Lexes c.cond.toList ts ∧ parseFrame ts = some ⟨[], [e]⟩

lemma means_of_frame {c : Column} {e : Expr} {f : Frame} {ts : List Token}
    (hlex : Lexes c.cond.toList ts) (hf : parseFrame ts = some f)
    (he : anyOf f.groups = some e) : Means c e ∧ frameOf c = f := by
  have hl : SqlTokens.lex c.cond = some ts := hlex
  constructor
  · rw [Means, ofText, hl, Option.bind_some, parse, hf, Option.bind_some, he]
  · rw [frameOf, hl, Option.bind_some, hf, Option.getD_some]

lemma Atomic.means {c : Column} {e : Expr} (h : Atomic c e) : Means c e := by
  obtain ⟨ts, hlex, hf⟩ := h
  exact (means_of_frame hlex hf rfl).1

lemma Atomic.single {c : Column} {e : Expr} (h : Atomic c e) : (frameOf c).closed = [] := by
  obtain ⟨ts, hlex, hf⟩ := h
  rw [(means_of_frame hlex hf rfl).2]

/-- The operand a rendered value denotes; function calls are left out. -/
def operandOf : Data → Option Operand
  | .long n => some (.num (toString n))
  | .double d => some (.num d.text)
  | .string s => some (.str s)
  | .func _ => none
  | .column cond => some (.col cond)

def Plain : Data → Prop
  | .string s => QuoteFree s.toList
  | .column cond => SqlTokens.isName cond.toList = true ∧ cond ∉ reserved
  | _ => True

lemma toList_quoted (s : String) : ("'" ++ s ++ "'").toList = quoted s.toList := by
  simp [quoted]

lemma decimal_isSome (n : Int) : (DecimalText.decimalValue (toString n).toList).isSome = true := by
  rw [DecimalText.decimalValue_toString]
  rfl

/-- A plain value renders to one token that is an operand. -/
lemma lexes_toValue {d : Data} {o : Operand} (ho : operandOf d = some o) (hp : Plain d) :
    ∃ t, Lexes (toValue d).toList [t] ∧ operand? t = some o := by
  cases d with
  | long n =>
    refine ⟨.num (toString n), SqlTokens.lexes_int n, ?_⟩
    rw [operand?, if_pos (decimal_isSome n)]
    exact ho
  | double d =>
    refine ⟨.num d.text, SqlTokens.lexes_numeral d.numeral, ?_⟩
    rw [operand?, if_pos d.value]
    exact ho
  | string s =>
    refine ⟨.str s, ?_, ho⟩
    rw [toValue, toList_quoted]
    exact lexes_quoted hp
  | func text => exact absurd ho (by simp [operandOf])
  | column cond =>
    refine ⟨.word cond, SqlTokens.lexes_name hp.1, ?_⟩
    rw [operand?, if_neg hp.2]
    exact ho

lemma operand_name (name : ColumnName) :
    operand? (.word name.text) = some (.col name.text) := by
  rw [operand?, if_neg name.free]

lemma separates_comparison (op : Comparison) :
    Separates (" " ++ op.text ++ " ").toList [.sym op.text] := by
  cases op <;> exact SqlTokens.separates (by decide) (by decide)

lemma parse_comparison (name : ColumnName) (op : Comparison) {t : Token} {o : Operand}
    (ht : operand? t = some o) :
    parseFrame [.word name.text, .sym op.text, t] =
      some ⟨[], [.cmp op.cmp (.col name.text) o]⟩ := by
  have h1 : act .operand (.word name.text) = .move (.left (.col name.text)) := by
    change moveOn (operand? (.word name.text)) _ = _
    rw [operand_name]
    rfl
  have h2 : act (.left (.col name.text)) (.sym op.text) =
      .move (.right op.cmp (.col name.text)) := by
    cases op <;> rfl
  have h3 : act (.right op.cmp (.col name.text)) t = .push (.cmp op.cmp (.col name.text) o) := by
    change moveOn (operand? t) _ = _
    rw [ht]
    rfl
  simp only [parseFrame, SqlConditions.run, List.foldl_cons, List.foldl_nil, SqlConditions.start,
    SqlConditions.step, h1, h2, h3, apply]
  rfl

/-- A comparison reads back as the comparison it was built from. -/
theorem atomic_compare (name : ColumnName) (op : Comparison) {d : Data} {o : Operand}
    (ho : operandOf d = some o) (hp : Plain d) :
    Atomic (Column.compare op.text (Column.of name.text) d)
      (.cmp op.cmp (.col name.text) o) := by
  obtain ⟨t, hlex, ht⟩ := lexes_toValue ho hp
  refine ⟨[.word name.text, .sym op.text, t], ?_, parse_comparison name op ht⟩
  have h := (SqlTokens.lexes_name name.isName).append_separated (separates_comparison op) hlex
  simpa only [Column.compare, Column.append, Column.of, String.toList_append,
    List.append_assoc, List.cons_append, List.nil_append] using h

lemma parse_like (name : ColumnName) (p : String) (negated : Bool) :
    parseFrame (.word name.text :: (if negated then [.word "not", .word "like"]
      else [.word "like"]) ++ [.mark '(', .str p, .mark ')']) =
      some ⟨[], [.like negated (.col name.text) p]⟩ := by
  have h1 : act .operand (.word name.text) = .move (.left (.col name.text)) := by
    change moveOn (operand? (.word name.text)) _ = _
    rw [operand_name]
    rfl
  cases negated <;>
  · simp only [parseFrame, SqlConditions.run, if_true, Bool.false_eq_true, if_false,
      List.cons_append, List.nil_append, List.foldl_cons, List.foldl_nil, SqlConditions.start,
      SqlConditions.step, h1, apply]
    rfl

lemma lexes_pattern {p : String} (hp : QuoteFree p.toList) :
    Lexes ("'" ++ p ++ "%'").toList [.str (p ++ "%")] := by
  have hfree : QuoteFree (p ++ "%").toList := by
    rw [QuoteFree, String.toList_append, List.mem_append, not_or]
    exact ⟨hp, by decide⟩
  have h := lexes_quoted hfree
  have htext : ("'" ++ p ++ "%'").toList = quoted (p ++ "%").toList := by
    simp [quoted]
  rwa [htext]

lemma lexes_like (name : ColumnName) {p : String} (hp : QuoteFree p.toList) {text : String}
    {words : List Token} (hword : Separates (text ++ " (").toList (words ++ [.mark '('])) :
    Lexes (name.text ++ (text ++ " (" ++ ("'" ++ p ++ "%'") ++ ")")).toList
      (.word name.text :: words ++ [.mark '(', .str (p ++ "%"), .mark ')']) := by
  have hclose : Separates ")".toList [.mark ')'] := SqlTokens.separates (by decide) (by decide)
  have h1 := (SqlTokens.lexes_name name.isName).append_separated hword (lexes_pattern hp)
  have h2 := h1.append_separated hclose SqlTokens.lexes_nil
  simpa only [String.toList_append, List.append_assoc, List.append_nil, List.cons_append,
    List.nil_append, List.singleton_append] using h2

theorem atomic_like (name : ColumnName) {p : String} (hp : QuoteFree p.toList) :
    Atomic ((Column.of name.text).like p) (.like false (.col name.text) (p ++ "%")) := by
  refine ⟨_, ?_, parse_like name (p ++ "%") false⟩
  have hword : Separates (" LIKE" ++ " (").toList ([.word "like"] ++ [.mark '(']) :=
    SqlTokens.separates (by decide) (by decide)
  have h := lexes_like name hp hword
  have htext : ((Column.of name.text).like p).cond =
      name.text ++ (" LIKE" ++ " (" ++ ("'" ++ p ++ "%'") ++ ")") := by
    rw [← String.toList_inj]
    simp [Column.like, Column.append, Column.of]
  rw [htext]
  exact h

theorem atomic_notLike (name : ColumnName) {p : String} (hp : QuoteFree p.toList) :
    Atomic ((Column.of name.text).notLike p) (.like true (.col name.text) (p ++ "%")) := by
  refine ⟨_, ?_, parse_like name (p ++ "%") true⟩
  have hword : Separates (" NOT LIKE" ++ " (").toList
      ([.word "not", .word "like"] ++ [.mark '(']) :=
    SqlTokens.separates (by decide) (by decide)
  have h := lexes_like name hp hword
  have htext : ((Column.of name.text).notLike p).cond =
      name.text ++ (" NOT LIKE" ++ " (" ++ ("'" ++ p ++ "%'") ++ ")") := by
    rw [← String.toList_inj]
    simp [Column.notLike, Column.append, Column.of]
  rw [htext]
  exact h

/-! Trees of conditions. -/

lemma lexes_combine {l r : Column} {word : String} {tl tr : List Token}
    (hword : Separates (") " ++ word ++ " (").toList [.mark ')', .word word, .mark '('])
    (hl : Lexes l.cond.toList tl) (hr : Lexes r.cond.toList tr) :
    Lexes (Column.combine word l r).cond.toList
      (.mark '(' :: (tl ++ [.mark ')']) ++ .word word :: .mark '(' :: (tr ++ [.mark ')'])) := by
  have hopen : Opens "(".toList [.mark '('] := by decide
  have hclose : Separates ")".toList [.mark ')'] := SqlTokens.separates (by decide) (by decide)
  have h1 := (hl.append_separated hword hr).append_separated hclose SqlTokens.lexes_nil
  have h2 := hopen.append h1
  simpa only [Column.combine, String.toList_append, List.append_assoc, List.append_nil,
    List.cons_append, List.nil_append, List.singleton_append] using h2

lemma parsed_of_means {c : Column} {e : Expr} (h : Means c e) :
    ∃ ts, Lexes c.cond.toList ts ∧ parse ts = some e := by
  obtain ⟨ts, hlex, hparse⟩ := Option.bind_eq_some_iff.mp h
  exact ⟨ts, hlex, hparse⟩

/-- `operator&&` denotes the conjunction of its operands, as one chain. -/
theorem means_and {l r : Column} {a b : Expr} (hl : Means l a) (hr : Means r b) :
    Means (l.and_ r) (.and a b) ∧ frameOf (l.and_ r) = ⟨[], [a, b]⟩ := by
  obtain ⟨tl, hlexl, hpl⟩ := parsed_of_means hl
  obtain ⟨tr, hlexr, hpr⟩ := parsed_of_means hr
  refine means_of_frame (lexes_combine (SqlTokens.separates (by decide) (by decide)) hlexl hlexr)
    ?_ rfl
  rw [parseFrame, ConditionJoins.run_append, SqlConditions.start, run_parenthesised hpl]
  change accept (SqlConditions.run ⟨.operand, _ :: []⟩ _) = _
  rw [run_parenthesised hpr]
  rfl

/-- `operator||` denotes the disjunction of its operands, as two alternatives. -/
theorem means_or {l r : Column} {a b : Expr} (hl : Means l a) (hr : Means r b) :
    Means (l.or_ r) (.or a b) ∧ frameOf (l.or_ r) = ⟨[[a]], [b]⟩ := by
  obtain ⟨tl, hlexl, hpl⟩ := parsed_of_means hl
  obtain ⟨tr, hlexr, hpr⟩ := parsed_of_means hr
  refine means_of_frame (lexes_combine (SqlTokens.separates (by decide) (by decide)) hlexl hlexr)
    ?_ rfl
  rw [parseFrame, ConditionJoins.run_append, SqlConditions.start, run_parenthesised hpl]
  change accept (SqlConditions.run ⟨.operand, _ :: []⟩ _) = _
  rw [run_parenthesised hpr]
  rfl

/-- A condition built from comparisons with `operator&&` and `operator||`. -/
inductive Cond where
  | compare (name : ColumnName) (op : Comparison) (data : Data)
  | and (l r : Cond)
  | or (l r : Cond)

def Cond.column : Cond → Column
  | .compare name op data => Column.compare op.text (Column.of name.text) data
  | .and l r => l.column.and_ r.column
  | .or l r => l.column.or_ r.column

/-- The Boolean expression the tree stands for; `none` where a value is no operand. -/
def Cond.expr : Cond → Option Expr
  | .compare name op data => (operandOf data).map (.cmp op.cmp (.col name.text))
  | .and l r => l.expr.bind (fun a => r.expr.map (.and a))
  | .or l r => l.expr.bind (fun a => r.expr.map (.or a))

def Cond.Plain : Cond → Prop
  | .compare _ _ data => WhereClauses.Plain data
  | .and l r => l.Plain ∧ r.Plain
  | .or l r => l.Plain ∧ r.Plain

/-- The alternatives an expression offers at its top level. -/
def topFrame : Expr → Frame
  | .or a b => ⟨[[a]], [b]⟩
  | .and a b => ⟨[], [a, b]⟩
  | e => ⟨[], [e]⟩

/-- The text of a tree whose strings are quote-free denotes the tree, and offers the
alternatives that the tree has at its root. -/
theorem means_tree (c : Cond) {e : Expr} (he : c.expr = some e) (hp : c.Plain) :
    Means c.column e ∧ frameOf c.column = topFrame e := by
  induction c generalizing e with
  | compare name op data =>
    obtain ⟨o, ho, rfl⟩ := Option.map_eq_some_iff.mp he
    obtain ⟨ts, hlex, hf⟩ := atomic_compare name op ho hp
    exact means_of_frame hlex hf rfl
  | and l r ihl ihr =>
    obtain ⟨a, ha, he⟩ := Option.bind_eq_some_iff.mp he
    obtain ⟨b, hb, rfl⟩ := Option.map_eq_some_iff.mp he
    exact means_and (ihl ha hp.1).1 (ihr hb hp.2).1
  | or l r ihl ihr =>
    obtain ⟨a, ha, he⟩ := Option.bind_eq_some_iff.mp he
    obtain ⟨b, hb, rfl⟩ := Option.map_eq_some_iff.mp he
    exact means_or (ihl ha hp.1).1 (ihr hb hp.2).1

/-! Where the builders put the conditions. -/

/-- A clause that successive calls on a model fill; the model is otherwise arbitrary. -/
inductive Site where
  | selectWhere (m : SelectModel)
  | selectHaving (m : SelectModel)
  | updateWhere (m : UpdateModel)
  | deleteWhere (m : DeleteModel)

namespace Site

/-- The model after one call for each condition, on a clause that was empty. -/
def model (cs : List Column) : Site → SqlModel
  | .selectWhere m => .select (cs.foldl SelectModel.where_ { m with whereCondition := [] })
  | .selectHaving m => .select (cs.foldl SelectModel.having_ { m with havingCondition := [] })
  | .updateWhere m => .update (cs.foldl UpdateModel.where_ { m with whereCondition := [] })
  | .deleteWhere m => .delete (cs.foldl DeleteModel.where_ { m with whereCondition := [] })

/-- The texts the model has collected for the clause. -/
def conditions (cs : List Column) : Site → List String
  | .selectWhere m =>
    (cs.foldl SelectModel.where_ { m with whereCondition := [] }).whereCondition
  | .selectHaving m =>
    (cs.foldl SelectModel.having_ { m with havingCondition := [] }).havingCondition
  | .updateWhere m =>
    (cs.foldl UpdateModel.where_ { m with whereCondition := [] }).whereCondition
  | .deleteWhere m =>
    (cs.foldl DeleteModel.where_ { m with whereCondition := [] }).whereCondition

def keyword : Site → String
  | .selectHaving _ => " having "
  | _ => " where "

def before : Site → String
  | .selectWhere m =>
    "select " ++ (if m.isDistinct then "distinct " else "") ++ strJoin m.selectColumns ", "
      ++ " from " ++ m.tableName
      ++ (if m.joinType = "" then "" else " " ++ m.joinType ++ " " ++ m.joinTable)
      ++ listClause " on " m.joinOnCondition ", "
  | .selectHaving m =>
    "select " ++ (if m.isDistinct then "distinct " else "") ++ strJoin m.selectColumns ", "
      ++ " from " ++ m.tableName
      ++ (if m.joinType = "" then "" else " " ++ m.joinType ++ " " ++ m.joinTable)
      ++ listClause " on " m.joinOnCondition ", "
      ++ listClause " where " m.whereCondition " and "
      ++ listClause " group by " m.groupbyColumns ", "
  | .updateWhere m => "update " ++ m.tableName ++ " set " ++ strJoin m.setColumns ", "
  | .deleteWhere m => "delete from " ++ m.tableName

def after : Site → String
  | .selectWhere m =>
    listClause " group by " m.groupbyColumns ", "
      ++ listClause " having " m.havingCondition " and "
      ++ textClause " order by " m.orderBy
      ++ textClause " limit " m.limit
      ++ textClause " offset " m.offset
  | .selectHaving m =>
    textClause " order by " m.orderBy
      ++ textClause " limit " m.limit
      ++ textClause " offset " m.offset
  | .updateWhere _ => ""
  | .deleteWhere _ => ""

/-- The statement is the text before the clause, the clause and the text after it. -/
def Rendered (s : Site) (cs : List Column) : Prop :=
  (s.model cs).str = s.before ++ listClause s.keyword (s.conditions cs) " and " ++ s.after

lemma selectWhere_foldl (m : SelectModel) (cs : List Column) :
    cs.foldl SelectModel.where_ m =
      { m with whereCondition := m.whereCondition ++ cs.map Column.cond } := by
  induction cs generalizing m with
  | nil => simp
  | cons c cs ih => rw [List.foldl_cons, ih]; simp [SelectModel.where_]

lemma selectHaving_foldl (m : SelectModel) (cs : List Column) :
    cs.foldl SelectModel.having_ m =
      { m with havingCondition := m.havingCondition ++ cs.map Column.cond } := by
  induction cs generalizing m with
  | nil => simp
  | cons c cs ih => rw [List.foldl_cons, ih]; simp [SelectModel.having_]

lemma updateWhere_foldl (m : UpdateModel) (cs : List Column) :
    cs.foldl UpdateModel.where_ m =
      { m with whereCondition := m.whereCondition ++ cs.map Column.cond } := by
  induction cs generalizing m with
  | nil => simp
  | cons c cs ih => rw [List.foldl_cons, ih]; simp [UpdateModel.where_]

lemma deleteWhere_foldl (m : DeleteModel) (cs : List Column) :
    cs.foldl DeleteModel.where_ m =
      { m with whereCondition := m.whereCondition ++ cs.map Column.cond } := by
  induction cs generalizing m with
  | nil => simp
  | cons c cs ih => rw [List.foldl_cons, ih]; simp [DeleteModel.where_]

lemma conditions_eq (s : Site) (cs : List Column) : s.conditions cs = cs.map Column.cond := by
  cases s with
  | selectWhere m => rw [conditions, selectWhere_foldl, List.nil_append]
  | selectHaving m => rw [conditions, selectHaving_foldl, List.nil_append]
  | updateWhere m => rw [conditions, updateWhere_foldl, List.nil_append]
  | deleteWhere m => rw [conditions, deleteWhere_foldl, List.nil_append]

lemma rendered (s : Site) (cs : List Column) : s.Rendered cs := by
  rw [Rendered, conditions_eq]
  cases s with
  | selectWhere m =>
    rw [model, selectWhere_foldl, SqlModel.str, List.nil_append]
    unfold SelectModel.str before after keyword
    simp only [String.append_assoc]
  | selectHaving m =>
    rw [model, selectHaving_foldl, SqlModel.str, List.nil_append]
    unfold SelectModel.str before after keyword
    simp only [String.append_assoc]
  | updateWhere m =>
    rw [model, updateWhere_foldl, SqlModel.str, UpdateModel.str, List.nil_append]
    unfold before after keyword
    simp only [String.append_empty]
  | deleteWhere m =>
    rw [model, deleteWhere_foldl, SqlModel.str, DeleteModel.str, List.nil_append]
    unfold before after keyword
    simp only [String.append_empty]

end Site

/-- A clause filled by any number of calls denotes the conjunction of the conditions
exactly when every run of conjuncts between two top-level `or`s implies them all. -/
theorem where_conjunction_iff (s : Site) {cs : List Column} {es : List Expr}
    (h : List.Forall₂ Means cs es) :
    s.Rendered cs ∧
      ((∀ row, clauseSat (s.conditions cs) row = some true ↔ AllSat row es) ↔
        (cs = [] ∨ ∀ g ∈ alternatives cs, ∀ row, GroupSat row g → AllSat row es)) := by
  rw [Site.conditions_eq]
  exact ⟨s.rendered cs, clause_conjunction_iff h⟩

theorem where_conjunction_iff_comparisons :
    Site.Rendered (.deleteWhere (DeleteModel.new.from_ ["t"]))
        [(Column.of "a").eq (.long 1), (Column.of "b").eq (.long 2)] ∧
      ((∀ row, clauseSat ((Site.deleteWhere (DeleteModel.new.from_ ["t"])).conditions
          [(Column.of "a").eq (.long 1), (Column.of "b").eq (.long 2)]) row = some true ↔
        AllSat row [.cmp .eq (.col "a") (.num "1"), .cmp .eq (.col "b") (.num "2")]) ↔
      ([(Column.of "a").eq (.long 1), (Column.of "b").eq (.long 2)] = [] ∨
        ∀ g ∈ alternatives [(Column.of "a").eq (.long 1), (Column.of "b").eq (.long 2)],
          ∀ row, GroupSat row g →
            AllSat row [.cmp .eq (.col "a") (.num "1"), .cmp .eq (.col "b") (.num "2")])) := by
  have ha : Means ((Column.of "a").eq (.long 1)) (.cmp .eq (.col "a") (.num "1")) := by decide
  have hb : Means ((Column.of "b").eq (.long 2)) (.cmp .eq (.col "b") (.num "2")) := by decide
  exact where_conjunction_iff _ (.cons ha (.cons hb .nil))

/-- `where(a == 1 || b == 2)` and then `where(c == 3)` keeps a row with `a = 1` whatever
its `c` is. -/
theorem where_or_not_conjunction :
    ¬ ∀ (s : Site) (cs : List Column) (es : List Expr), List.Forall₂ Means cs es →
      ∀ row, clauseSat (s.conditions cs) row = some true ↔ AllSat row es := by
  intro h
  have hor := h (.deleteWhere (DeleteModel.new.from_ ["t"]))
    [((Column.of "a").eq (.long 1)).or_ ((Column.of "b").eq (.long 2)),
      (Column.of "c").eq (.long 3)]
    [.or (.cmp .eq (.col "a") (.num "1")) (.cmp .eq (.col "b") (.num "2")),
      .cmp .eq (.col "c") (.num "3")]
    (.cons (by decide) (.cons (by decide) .nil))
    (fun name => if name = "a" then .int 1 else .int 0)
  have hall := hor.mp (by decide) (.cmp .eq (.col "c") (.num "3")) (by decide)
  exact absurd hall (by decide)

end WhereClauses
