import RpiRobot.SqlStatements
import RpiRobot.WhereClauses

/-!
# Statements of the builder

A builder can be read in two ways: as the text it renders, parsed from its first
character to its last, and field by field, with the conditions left as texts. The
two readings agree on the builders whose fields render the pieces of a statement.
-/

namespace BuilderStatements

open SqlTokens (Token Lexes Opens Separates lex joinTokens)
open SqlConditions (Expr)
open SqlBuilder SqlStatements

/-! Field by field. -/

def optional {α : Type} (read : List Token → Option α) (text : String) : Option (Option α) :=
  if text = "" then some none else ((lex text).bind read).map some

/-- Joins, groups and `distinct` are left out. -/
def readSelect (m : SelectModel) : Option (Select (List String)) :=
  if m.isDistinct = false ∧ m.joinType = "" ∧ m.joinOnCondition = [] ∧
      m.groupbyColumns = [] ∧ m.havingCondition = [] then do
    let target ← target? (← m.selectColumns.mapM lex)
    let table ← name? (← lex m.tableName)
    let order ← optional order? m.orderBy
    let limit ← optional int? m.limit
    let offset ← optional int? m.offset
    return ⟨target, table, m.whereCondition, order, limit, offset⟩
  else none

def readInsert (m : InsertModel) : Option (Statement (List String)) :=
  if m.isReplace = false then do
    let table ← name? (← lex m.tableName)
    let columns ← (← m.columns.mapM lex).mapM name?
    let values ← (← m.values.mapM lex).mapM source?
    let returning ← (← m.returnings.mapM lex).mapM name?
    return .insert table columns values returning
  else none

def readUpdate (m : UpdateModel) : Option (Statement (List String)) := do
  let table ← name? (← lex m.tableName)
  let sets ← (← m.setColumns.mapM lex).mapM assignment?
  return .update table sets m.whereCondition

def readDelete (m : DeleteModel) : Option (Statement (List String)) := do
  let table ← name? (← lex m.tableName)
  return .delete table m.whereCondition

def read : SqlModel → Option (Statement (List String))
  | .select m => (readSelect m).map .select
  | .insert m => readInsert m
  | .update m => readUpdate m
  | .delete m => readDelete m

/-- The clause that the texts of the conditions make. -/
def readClause (conditions : List String) : Option (Option Expr) :=
  if conditions = [] then some none
  else (SqlConditions.ofText (strJoin conditions " and ")).map some

/-! Fields that render the pieces of a statement. -/

def RendersOpt {α : Type} (tokens : α → List Token) (text : String) : Option α → Prop
  | none => text = ""
  | some a => text ≠ "" ∧ Lexes text.toList (tokens a)

structure RendersSelect (m : SelectModel) (s : Select (List String)) : Prop where
  distinct : m.isDistinct = false
  joinType : m.joinType = ""
  joinOn : m.joinOnCondition = []
  groupby : m.groupbyColumns = []
  having_ : m.havingCondition = []
  columns : List.Forall₂ (fun t p => Lexes t.toList p) m.selectColumns s.target.pieces
  named : s.target.Named
  table : m.tableName = s.table
  name : SqlTokens.isName s.table.toList = true
  free : Free s.table
  cond : m.whereCondition = s.cond
  order : RendersOpt Order.tokens m.orderBy s.order
  orderFree : ∀ o ∈ s.order, Free o.column
  limit : RendersOpt intTokens m.limit s.limit
  offset : RendersOpt intTokens m.offset s.offset

/-- A name: it lexes to itself and is no keyword. -/
def Name (w : String) : Prop := SqlTokens.isName w.toList = true ∧ Free w ∧ w ≠ "values"

instance (w : String) : Decidable (Name w) := inferInstanceAs (Decidable (_ ∧ _ ∧ _))

structure RendersInsert (m : InsertModel) (table : String) (columns : List String)
    (values : List Source) (returning : List String) : Prop where
  replace : m.isReplace = false
  tableName : m.tableName = table
  name : Name table
  columnTexts : m.columns = columns
  columnNames : ∀ c ∈ columns, Name c
  columnsNe : columns ≠ []
  valueTexts : List.Forall₂ (fun t v => Lexes t.toList (Source.tokens v)) m.values values
  readable : ∀ v ∈ values, v.Readable ∧ v.Clean
  valuesNe : values ≠ []
  returningTexts : m.returnings = returning
  returningNames : ∀ c ∈ returning, Name c

structure RendersUpdate (m : UpdateModel) (table : String) (sets : List (String × Source)) :
    Prop where
  tableName : m.tableName = table
  name : Name table
  setTexts : List.Forall₂ (fun t a => Lexes t.toList (assignTokens a)) m.setColumns sets
  readable : ∀ a ∈ sets, Free a.1 ∧ a.2.Readable ∧ a.2.Clean
  setsNe : sets ≠ []

structure RendersDelete (m : DeleteModel) (table : String) : Prop where
  tableName : m.tableName = table
  name : Name table

/-! The reading field by field. -/

lemma mapM_lex {texts : List String} {pieces : List (List Token)}
    (h : List.Forall₂ (fun t p => Lexes t.toList p) texts pieces) :
    texts.mapM lex = some pieces := by
  induction h with
  | nil => rfl
  | cons ht hrest ih =>
    rw [List.mapM_cons, show lex _ = some _ from ht, ih]
    rfl

lemma lexes_words {cs : List String} (h : ∀ c ∈ cs, Name c) :
    List.Forall₂ (fun t p => Lexes t.toList p) cs (names cs) := by
  induction cs with
  | nil => exact .nil
  | cons c cs ih =>
    rw [List.forall_mem_cons] at h
    exact .cons (SqlTokens.lexes_name h.1.1) (ih h.2)

lemma forall₂_map {α β γ : Type} {R : α → γ → Prop} {f : β → γ} {as : List α} {bs : List β}
    (h : List.Forall₂ (fun a b => R a (f b)) as bs) : List.Forall₂ R as (bs.map f) := by
  rw [List.forall₂_map_right_iff]
  exact h

lemma optional_eq {α : Type} {read : List Token → Option α} {tokens : α → List Token}
    {text : String} {o : Option α} (h : RendersOpt tokens text o)
    (hread : ∀ a, o = some a → read (tokens a) = some a) : optional read text = some o := by
  cases o with
  | none => exact if_pos h
  | some a =>
    rw [optional, if_neg h.1, show lex text = some (tokens a) from h.2, Option.bind_some,
      hread a rfl, Option.map_some]

theorem readSelect_eq {m : SelectModel} {s : Select (List String)} (h : RendersSelect m s) :
    readSelect m = some s := by
  rw [readSelect, if_pos ⟨h.distinct, h.joinType, h.joinOn, h.groupby, h.having_⟩,
    mapM_lex h.columns, h.table, show lex s.table = some _ from SqlTokens.lexes_name h.name,
    optional_eq h.order (fun o ho => order_tokens (h.orderFree o (Option.mem_def.mpr ho))),
    optional_eq h.limit (fun n _ => int_tokens n), optional_eq h.offset (fun n _ => int_tokens n)]
  simp only [Option.bind_eq_bind, Option.bind_some, target_pieces h.named, name_free h.free,
    h.cond, Option.pure_def]

theorem readInsert_eq {m : InsertModel} {table : String} {columns : List String}
    {values : List Source} {returning : List String}
    (h : RendersInsert m table columns values returning) :
    readInsert m = some (.insert table columns values returning) := by
  rw [readInsert, if_pos h.replace, h.tableName,
    show lex table = some _ from SqlTokens.lexes_name h.name.1, h.columnTexts,
    mapM_lex (lexes_words h.columnNames), mapM_lex (forall₂_map h.valueTexts), h.returningTexts,
    mapM_lex (lexes_words h.returningNames)]
  simp only [Option.bind_eq_bind, Option.bind_some, name_free h.name.2.1, names,
    mapM_name (fun c hc => (h.columnNames c hc).2.1), mapM_source (fun v hv => (h.readable v hv).1),
    mapM_name (fun c hc => (h.returningNames c hc).2.1), Option.pure_def]

theorem readUpdate_eq {m : UpdateModel} {table : String} {sets : List (String × Source)}
    (h : RendersUpdate m table sets) :
    readUpdate m = some (.update table sets m.whereCondition) := by
  rw [readUpdate, h.tableName, show lex table = some _ from SqlTokens.lexes_name h.name.1,
    mapM_lex (forall₂_map h.setTexts)]
  simp only [Option.bind_eq_bind, Option.bind_some, name_free h.name.2.1,
    mapM_assignment (fun a ha => (h.readable a ha).2.1), Option.pure_def]

theorem readDelete_eq {m : DeleteModel} {table : String} (h : RendersDelete m table) :
    readDelete m = some (.delete table m.whereCondition) := by
  rw [readDelete, h.tableName, show lex table = some _ from SqlTokens.lexes_name h.name.1]
  simp only [Option.bind_eq_bind, Option.bind_some, name_free h.name.2.1, Option.pure_def]

/-! The reading of the whole text. -/

/-- The tokens of a clause read from texts. -/
lemma clause_tokens {conditions : List String} {cond : Option Expr}
    (h : readClause conditions = some cond) :
    ∃ ctoks, readCond ctoks = some cond ∧
      (∀ (a : String) (ta : List Token), Lexes a.toList ta →
        Lexes (a ++ listClause " where " conditions " and ").toList
          (ta ++ clauseTokens [.word "where"] ctoks)) := by
  by_cases hne : conditions = []
  · rw [readClause, if_pos hne] at h
    obtain rfl := Option.some.inj h
    refine ⟨none, rfl, fun a ta ha => ?_⟩
    rw [listClause, if_pos hne, String.append_empty, clauseTokens, List.append_nil]
    exact ha
  · rw [readClause, if_neg hne] at h
    obtain ⟨e, he, rfl⟩ := Option.map_eq_some_iff.mp h
    obtain ⟨ts, hts, hparse⟩ := Option.bind_eq_some_iff.mp he
    refine ⟨some ts, ?_, fun a ta ha => ?_⟩
    · rw [readCond, clause, hparse]
      rfl
    · have hsep : Separates " where ".toList [.word "where"] :=
        SqlTokens.separates (by decide) (by decide)
      have happ := ha.append_separated hsep (show Lexes _ ts from hts)
      rw [listClause, if_neg hne, clauseTokens, ← List.append_assoc]
      simpa only [String.toList_append, List.append_assoc] using happ

lemma lexes_textClause (keyword : String) (kt : List Token) {a text : String} {ta : List Token}
    (ha : Lexes a.toList ta) (hsep : Separates keyword.toList kt) {α : Type}
    {tokens : α → List Token} {o : Option α} (h : RendersOpt tokens text o) :
    Lexes (a ++ textClause keyword text).toList (ta ++ clauseTokens kt (o.map tokens)) := by
  cases o with
  | none =>
    have hempty : text = "" := h
    rw [textClause, if_pos hempty, String.append_empty]
    simpa [clauseTokens] using ha
  | some x =>
    have happ := ha.append_separated hsep h.2
    rw [textClause, if_neg h.1, Option.map_some, clauseTokens, ← List.append_assoc]
    simpa only [String.toList_append, List.append_assoc] using happ

lemma lexes_comma {texts : List String} {pieces : List (List Token)}
    (h : List.Forall₂ (fun t p => Lexes t.toList p) texts pieces) :
    Lexes (strJoin texts ", ").toList (joinTokens (.mark ',') pieces) := by
  have hcomma : Separates ", ".toList [.mark ','] :=
    SqlTokens.separates (by decide) (by decide)
  exact WhereClauses.lexes_join hcomma h

theorem parse_select {m : SelectModel} {s : Select (List String)} (h : RendersSelect m s)
    {cond : Option Expr} (hcond : readClause s.cond = some cond) :
    parse m.str = some (.select { s with cond := cond }) := by
  obtain ⟨ctoks, hread, hlex⟩ := clause_tokens hcond
  have hselect : Opens "select ".toList [.word "select"] := by decide
  have hfrom : Separates " from ".toList [.word "from"] :=
    SqlTokens.separates (by decide) (by decide)
  have hhead : Lexes ("select " ++ strJoin m.selectColumns ", " ++ " from " ++ m.tableName).toList
      (.word "select" :: joinTokens (.mark ',') s.target.pieces ++
        .word "from" :: [.word s.table]) := by
    have h1 := hselect.append ((lexes_comma h.columns).append_separated hfrom
      (SqlTokens.lexes_name h.name))
    rw [h.table]
    simpa only [String.toList_append, List.append_assoc, List.cons_append, List.nil_append] using h1
  have hwhere := hlex _ _ hhead
  rw [← h.cond] at hwhere
  have horder := lexes_textClause " order by " [.word "order", .word "by"] hwhere
    (SqlTokens.separates (by decide) (by decide)) h.order
  have hlimit := lexes_textClause " limit " [.word "limit"] horder
    (SqlTokens.separates (by decide) (by decide)) h.limit
  have hoffset := lexes_textClause " offset " [.word "offset"] hlimit
    (SqlTokens.separates (by decide) (by decide)) h.offset
  have hstr : m.str = "select " ++ strJoin m.selectColumns ", " ++ " from " ++ m.tableName ++
      listClause " where " m.whereCondition " and " ++ textClause " order by " m.orderBy ++
      textClause " limit " m.limit ++ textClause " offset " m.offset := by
    unfold SelectModel.str
    rw [h.distinct, h.joinType, h.joinOn, h.groupby, h.having_]
    simp only [listClause, if_true, Bool.false_eq_true, if_false, String.append_empty]
  rw [parse, hstr, show lex _ = some _ from hoffset, Option.bind_some]
  have hprint : (Statement.select { s with cond := ctoks }).Printable :=
    ⟨h.named, h.free, h.orderFree⟩
  have hparse := parseTokens_tokens hprint (t := .select { s with cond := cond })
    (by rw [Statement.mapCond, hread, Option.map_some])
  rw [← hparse]
  refine congrArg parseTokens ?_
  simp [Statement.tokens, Select.tokens]

theorem parse_insert {m : InsertModel} {table : String} {columns : List String}
    {values : List Source} {returning : List String}
    (h : RendersInsert m table columns values returning) :
    parse m.str = some (.insert table columns values returning) := by
  have hinto : Opens "insert into ".toList [.word "insert", .word "into"] := by decide
  have hopen : Separates "(".toList [.mark '('] := SqlTokens.separates (by decide) (by decide)
  have hvalues : Separates (")" ++ " values(").toList [.mark ')', .word "values", .mark '('] :=
    SqlTokens.separates (by decide) (by decide)
  have hclose : Separates ")".toList [.mark ')'] := SqlTokens.separates (by decide) (by decide)
  have hret : Separates " returning ".toList [.word "returning"] :=
    SqlTokens.separates (by decide) (by decide)
  have h1 := (SqlTokens.lexes_name h.name.1).append_separated hopen
    (lexes_comma (lexes_words h.columnNames))
  have h2 := (h1.append_separated hvalues (lexes_comma (forall₂_map h.valueTexts))).append_separated
    hclose SqlTokens.lexes_nil
  have h3 := hinto.append h2
  have hreturning : ∀ (a : String) (ta : List Token), Lexes a.toList ta →
      Lexes (a ++ listClause " returning " returning ", ").toList
        (ta ++ clauseTokens [.word "returning"]
          (if returning = [] then none else some (joinTokens (.mark ',') (names returning)))) := by
    intro a ta ha
    by_cases hr : returning = []
    · rw [listClause, if_pos hr, if_pos hr, String.append_empty, clauseTokens, List.append_nil]
      exact ha
    · have happ := ha.append_separated hret (lexes_comma (lexes_words h.returningNames))
      rw [listClause, if_neg hr, if_neg hr, clauseTokens, ← List.append_assoc]
      simpa only [String.toList_append, List.append_assoc] using happ
  have hstr : m.str = "insert into " ++ table ++ "(" ++ strJoin columns ", " ++ ")" ++ " values(" ++
      strJoin m.values ", " ++ ")" ++ listClause " returning " returning ", " := by
    rw [InsertModel.str, h.replace, h.tableName, h.columnTexts, h.returningTexts]
    rfl
  have hlex := hreturning ("insert into " ++ table ++ "(" ++ strJoin columns ", " ++ ")" ++
    " values(" ++ strJoin m.values ", " ++ ")") _ (by
      simpa only [String.toList_append, List.append_assoc, List.append_nil] using h3)
  have hprint : (Statement.insert (κ := Option (List Token)) table columns values
      returning).Printable :=
    ⟨h.columnsNe, fun c hc => (h.columnNames c hc).2, h.valuesNe, h.readable,
      fun c hc => (h.returningNames c hc).2.1⟩
  have hparse := parseTokens_tokens hprint (t := .insert table columns values returning) rfl
  rw [parse, hstr, show lex _ = some _ from hlex, Option.bind_some, ← hparse]
  refine congrArg parseTokens ?_
  simp [Statement.tokens, insertTokens]

theorem parse_update {m : UpdateModel} {table : String} {sets : List (String × Source)}
    (h : RendersUpdate m table sets) {cond : Option Expr}
    (hcond : readClause m.whereCondition = some cond) :
    parse m.str = some (.update table sets cond) := by
  obtain ⟨ctoks, hread, hlex⟩ := clause_tokens hcond
  have hupdate : Opens "update ".toList [.word "update"] := by decide
  have hset : Separates " set ".toList [.word "set"] := SqlTokens.separates (by decide) (by decide)
  have h1 := hupdate.append ((SqlTokens.lexes_name h.name.1).append_separated hset
    (lexes_comma (forall₂_map h.setTexts)))
  have hhead : Lexes ("update " ++ table ++ " set " ++ strJoin m.setColumns ", ").toList
      (.word "update" :: .word table :: .word "set" ::
        joinTokens (.mark ',') (sets.map assignTokens)) := by
    simpa only [String.toList_append, List.append_assoc, List.cons_append, List.nil_append] using h1
  have hstr : m.str = "update " ++ table ++ " set " ++ strJoin m.setColumns ", " ++
      listClause " where " m.whereCondition " and " := by
    rw [UpdateModel.str, h.tableName]
  have hprint : (Statement.update table sets ctoks).Printable := ⟨h.setsNe, h.readable⟩
  have hparse := parseTokens_tokens hprint (t := .update table sets cond)
    (by rw [Statement.mapCond, hread, Option.map_some])
  rw [parse, hstr, show lex _ = some _ from hlex _ _ hhead, Option.bind_some, ← hparse]
  exact congrArg parseTokens rfl

theorem parse_delete {m : DeleteModel} {table : String} (h : RendersDelete m table)
    {cond : Option Expr} (hcond : readClause m.whereCondition = some cond) :
    parse m.str = some (.delete table cond) := by
  obtain ⟨ctoks, hread, hlex⟩ := clause_tokens hcond
  have hdelete : Opens "delete from ".toList [.word "delete", .word "from"] := by decide
  have hhead : Lexes ("delete from " ++ table).toList
      [.word "delete", .word "from", .word table] := by
    have h1 := hdelete.append (SqlTokens.lexes_name h.name.1)
    rwa [String.toList_append]
  have hstr : m.str = "delete from " ++ table ++ listClause " where " m.whereCondition " and " := by
    rw [DeleteModel.str, h.tableName]
  have hprint : (Statement.delete table ctoks).Printable := h.name.2.1
  have hparse := parseTokens_tokens hprint (t := .delete table cond)
    (by rw [Statement.mapCond, hread, Option.map_some])
  rw [parse, hstr, show lex _ = some _ from hlex _ _ hhead, Option.bind_some, ← hparse]
  exact congrArg parseTokens rfl

/-- A builder that renders a statement. -/
inductive Renders : SqlModel → Statement (List String) → Prop where
  | select {m : SelectModel} {s : Select (List String)} (h : RendersSelect m s) :
    Renders (.select m) (.select s)
  | insert {m : InsertModel} {table : String} {columns : List String} {values : List Source}
      {returning : List String} (h : RendersInsert m table columns values returning) :
    Renders (.insert m) (.insert table columns values returning)
  | update {m : UpdateModel} {table : String} {sets : List (String × Source)}
      (h : RendersUpdate m table sets) : Renders (.update m) (.update table sets m.whereCondition)
  | delete {m : DeleteModel} {table : String} (h : RendersDelete m table) :
    Renders (.delete m) (.delete table m.whereCondition)

theorem read_eq {m : SqlModel} {s : Statement (List String)} (h : Renders m s) :
    read m = some s := by
  cases h with
  | select h => rw [read, readSelect_eq h]; rfl
  | insert h => exact readInsert_eq h
  | update h => exact readUpdate_eq h
  | delete h => exact readDelete_eq h

/-- The text of a builder reads as the statement its fields render, with the clause
that its conditions make. -/
theorem parse_str {m : SqlModel} {s : Statement (List String)} (h : Renders m s)
    {t : Statement (Option Expr)} (ht : s.mapCond readClause = some t) :
    parse m.str = some t := by
  cases h with
  | select h =>
    obtain ⟨cond, hcond, rfl⟩ := Option.map_eq_some_iff.mp ht
    exact parse_select h hcond
  | insert h =>
    obtain rfl := Option.some.inj ht
    exact parse_insert h
  | update h =>
    obtain ⟨cond, hcond, rfl⟩ := Option.map_eq_some_iff.mp ht
    exact parse_update h hcond
  | delete h =>
    obtain ⟨cond, hcond, rfl⟩ := Option.map_eq_some_iff.mp ht
    exact parse_delete h hcond

end BuilderStatements
