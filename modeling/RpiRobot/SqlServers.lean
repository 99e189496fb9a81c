import RpiRobot.BuilderStatements
import RpiRobot.SqlTables

/-!
# Two readings of a builder by the server

The text server gets what the client library sends: the characters of the rendered
statement up to the first NUL. The field server reads the builder field by field
and takes the conditions as opaque predicates of the rows of a table.
-/

namespace SqlServers

open SqlConditions (Expr Operand Row)
open SqlBuilder (SqlModel)
open SqlStatements SqlTables

/-- What answers a statement: a result or an error, and the database afterwards. -/
abbrev Server (schema : Schema) :=
  Moment → Database schema → SqlModel → Except SqlError Result × Database schema

/-! Types of a condition. -/

/-- A string literal takes the type of what it is compared with. -/
inductive Kind where
  | number
  | text
  | timestamp
  | json
  | literal (s : String)
  deriving DecidableEq, Repr

def columnKind : ColumnType → Kind
  | .int4 => .number
  | .varchar _ => .text
  | .timestamp => .timestamp
  | .jsonb => .json

def kindOf (t : TableDef) : Operand → Except SqlError Kind
  | .col name => (column t name).map (fun c => columnKind c.type)
  | .num _ => .ok .number
  | .str s => .ok (.literal s)

def literalAs (env : Env) (s : String) : Kind → Option SqlError
  | .number => if (DecimalText.intValue s.toList).isSome then none else some .invalidText
  | .timestamp => if (env.timestampIn s).isSome then none else some .invalidText
  | .json => if (env.jsonbIn s).isSome then none else some .invalidText
  | _ => none

def comparable (env : Env) : Kind → Kind → Option SqlError
  | .literal s, k => literalAs env s k
  | k, .literal s => literalAs env s k
  | k, l => if k = l then none else some .datatypeMismatch

def compareCheck (env : Env) (t : TableDef) (a b : Operand) : Except SqlError Unit := do
  require (comparable env (← kindOf t a) (← kindOf t b))

def likeCheck : Kind → Option SqlError
  | .text => none
  | .literal _ => none
  | _ => some .datatypeMismatch

def exprCheck (env : Env) (t : TableDef) : Expr → Except SqlError Unit
  | .cmp _ a b => compareCheck env t a b
  | .like _ a _ => do require (likeCheck (← kindOf t a))
  | .isIn _ a items => items.forM (compareCheck env t a)
  | .isNull _ a => do let _ ← kindOf t a
  | .and l r => do exprCheck env t l; exprCheck env t r
  | .or l r => do exprCheck env t l; exprCheck env t r

def errorOf {α : Type} : Except SqlError α → Option SqlError
  | .error e => some e
  | .ok _ => none

def textConds (env : Env) : Conds (Option Expr) where
  check t cond := match cond with
    | none => none
    | some e => errorOf (exprCheck env t e)
  sat _ cond r := match cond with
    | none => true
    | some e => e.sat r

/-- The statement goes through a C string. -/
def cString (text : String) : String := String.ofList (text.toList.takeWhile (· ≠ '\x00'))

/-- A server that parses the statement, with its own treatment of the condition. -/
def condServer {schema : Schema} (env : Env) (conds : Conds (Option Expr)) : Server schema :=
  fun moment d m =>
    match parse (cString m.str) with
    | none => (.error .syntaxError, d)
    | some s => exec env moment conds d s

def textServer {schema : Schema} (env : Env) : Server schema := fun moment d m =>
  match parse (cString m.str) with
  | none => (.error .syntaxError, d)
  | some s => exec env moment (textConds env) d s

/-- What a condition says of the rows of a table. -/
abbrev Reading := String → String → Row → Bool

def opaqueConds (sat : Reading) : Conds (List String) where
  check _ _ := none
  sat t conditions r := conditions.all (fun c => sat t.name c r)

def fieldServer {schema : Schema} (env : Env) (sat : Reading) : Server schema :=
  fun moment d m =>
    match BuilderStatements.read m with
    | none => (.error .syntaxError, d)
    | some s => exec env moment (opaqueConds sat) d s

/-! Texts without NUL. -/

def NulFree (s : String) : Prop := '\x00' ∉ s.toList

instance (s : String) : Decidable (NulFree s) := inferInstanceAs (Decidable (_ ∉ _))

lemma takeWhile_nulFree {text : String} (h : NulFree text) :
    text.toList.takeWhile (· ≠ '\x00') = text.toList := by
  rw [List.takeWhile_eq_self_iff]
  intro c hc
  simpa using fun he : c = '\x00' => h (he ▸ hc)

lemma cString_eq {text : String} (h : NulFree text) : cString text = text := by
  rw [cString, takeWhile_nulFree h, String.ofList_toList]

lemma cString_append {a b : String} (h : NulFree a) : cString (a ++ b) = a ++ cString b := by
  have hall := takeWhile_nulFree h
  rw [cString, String.toList_append, List.takeWhile_append, if_pos (by rw [hall]),
    String.ofList_append, String.ofList_toList, cString]

lemma NulFree.append {a b : String} (ha : NulFree a) (hb : NulFree b) : NulFree (a ++ b) := by
  rw [NulFree, String.toList_append, List.mem_append, not_or]
  exact ⟨ha, hb⟩

lemma nulFree_int (n : Int) : NulFree (toString n) := by
  intro hnul
  rcases DecimalText.int_chars n _ hnul with hdigit | hminus
  · exact absurd hdigit (by decide)
  · exact absurd hminus (by decide)

lemma nulFree_string {s : String} (h : NulFree s) : NulFree (SqlBuilder.toValue (.string s)) :=
  NulFree.append (NulFree.append (by decide) h) (by decide)

lemma nulFree_join {texts : List String} (h : ∀ t ∈ texts, NulFree t) {delim : String}
    (hd : NulFree delim) : NulFree (SqlBuilder.strJoin texts delim) := by
  induction texts with
  | nil => exact List.not_mem_nil
  | cons t texts ih =>
    rw [List.forall_mem_cons] at h
    cases texts with
    | nil => exact h.1
    | cons u texts =>
      rw [SqlBuilder.strJoin_cons_cons]
      exact (h.1.append hd).append (ih h.2)

lemma nulFree_listClause {keyword delim : String} {entries : List String}
    (hk : NulFree keyword) (hd : NulFree delim) (h : ∀ t ∈ entries, NulFree t) :
    NulFree (SqlBuilder.listClause keyword entries delim) := by
  rw [SqlBuilder.listClause]
  split_ifs
  · exact List.not_mem_nil
  · exact hk.append (nulFree_join h hd)

lemma nulFree_textClause {keyword text : String} (hk : NulFree keyword) (h : NulFree text) :
    NulFree (SqlBuilder.textClause keyword text) := by
  rw [SqlBuilder.textClause]
  split_ifs
  · exact List.not_mem_nil
  · exact hk.append h

/-- The texts a select of one table is made of. -/
structure SelectNulFree (m : SqlBuilder.SelectModel) : Prop where
  columns : ∀ t ∈ m.selectColumns, NulFree t
  table : NulFree m.tableName
  joinType : NulFree m.joinType
  joinTable : NulFree m.joinTable
  joinOn : ∀ t ∈ m.joinOnCondition, NulFree t
  conditions : ∀ t ∈ m.whereCondition, NulFree t
  groupby : ∀ t ∈ m.groupbyColumns, NulFree t
  having_ : ∀ t ∈ m.havingCondition, NulFree t
  order : NulFree m.orderBy
  limit : NulFree m.limit
  offset : NulFree m.offset

lemma nulFree_select {m : SqlBuilder.SelectModel} (h : SelectNulFree m) : NulFree m.str := by
  have hdistinct : NulFree (if m.isDistinct then "distinct " else "") := by
    split_ifs <;> decide
  have hjoin : NulFree
      (if m.joinType = "" then "" else " " ++ m.joinType ++ " " ++ m.joinTable) := by
    split_ifs
    · exact List.not_mem_nil
    · exact (((show NulFree " " by decide).append h.joinType).append
        (show NulFree " " by decide)).append h.joinTable
  unfold SqlBuilder.SelectModel.str
  refine NulFree.append (NulFree.append (NulFree.append (NulFree.append (NulFree.append
    (NulFree.append (NulFree.append (NulFree.append (NulFree.append (NulFree.append (NulFree.append
    (by decide) hdistinct) ?_) (by decide)) h.table) hjoin) ?_) ?_) ?_) ?_) ?_) ?_ |>.append ?_
  · exact nulFree_join h.columns (by decide)
  · exact nulFree_listClause (by decide) (by decide) h.joinOn
  · exact nulFree_listClause (by decide) (by decide) h.conditions
  · exact nulFree_listClause (by decide) (by decide) h.groupby
  · exact nulFree_listClause (by decide) (by decide) h.having_
  · exact nulFree_textClause (by decide) h.order
  · exact nulFree_textClause (by decide) h.limit
  · exact nulFree_textClause (by decide) h.offset

lemma nulFree_insert {m : SqlBuilder.InsertModel} (table : NulFree m.tableName)
    (columns : ∀ t ∈ m.columns, NulFree t) (values : ∀ t ∈ m.values, NulFree t)
    (returnings : ∀ t ∈ m.returnings, NulFree t) : NulFree m.str := by
  have hinto : NulFree (if m.isReplace then "insert or replace into " else "insert into ") := by
    split_ifs <;> decide
  unfold SqlBuilder.InsertModel.str
  have hcolumns := ((hinto.append table).append (show NulFree "(" by decide)).append
    (nulFree_join columns (show NulFree ", " by decide))
  have hvalues := ((hcolumns.append (show NulFree ")" by decide)).append
    (show NulFree " values(" by decide)).append (nulFree_join values (show NulFree ", " by decide))
  exact (hvalues.append (show NulFree ")" by decide)).append
    (nulFree_listClause (by decide) (by decide) returnings)

lemma nulFree_update {m : SqlBuilder.UpdateModel} (table : NulFree m.tableName)
    (sets : ∀ t ∈ m.setColumns, NulFree t) (conditions : ∀ t ∈ m.whereCondition, NulFree t) :
    NulFree m.str := by
  unfold SqlBuilder.UpdateModel.str
  have hset := ((show NulFree "update " by decide).append table).append
    (show NulFree " set " by decide)
  exact (hset.append (nulFree_join sets (show NulFree ", " by decide))).append
    (nulFree_listClause (by decide) (by decide) conditions)

/-! The servers on builders that render a statement. -/

theorem condServer_eq {schema : Schema} {env : Env} {conds : Conds (Option Expr)}
    {moment : Moment} {d : Database schema} {m : SqlModel} {s : Statement (List String)}
    (h : BuilderStatements.Renders m s) {t : Statement (Option Expr)}
    (ht : s.mapCond BuilderStatements.readClause = some t) (nul : NulFree m.str) :
    condServer env conds moment d m = exec env moment conds d t := by
  rw [condServer, cString_eq nul, BuilderStatements.parse_str h ht]

lemma condServer_text {schema : Schema} (env : Env) :
    (textServer env : Server schema) = condServer env (textConds env) := rfl

theorem textServer_eq {schema : Schema} {env : Env} {moment : Moment} {d : Database schema}
    {m : SqlModel} {s : Statement (List String)} (h : BuilderStatements.Renders m s)
    {t : Statement (Option Expr)} (ht : s.mapCond BuilderStatements.readClause = some t)
    (nul : NulFree m.str) :
    textServer env moment d m = exec env moment (textConds env) d t := by
  rw [condServer_text]
  exact condServer_eq h ht nul

theorem fieldServer_eq {schema : Schema} {env : Env} {sat : Reading}
    {moment : Moment} {d : Database schema} {m : SqlModel} {s : Statement (List String)}
    (h : BuilderStatements.Renders m s) :
    fieldServer env sat moment d m = exec env moment (opaqueConds sat) d s := by
  rw [fieldServer, BuilderStatements.read_eq h]

end SqlServers
