import RpiRobot.SqlConditions

/-!
# The SQL builder

The classes of `db/SqlBuilder.h`: a column with the condition text it collects,
and the four statement models with their clauses. Values are rendered by
`toValue`; nothing is escaped. The models own their lists, so a copy of a model
is the model itself.
-/

namespace SqlBuilder

open SqlTokens (isNumeral isName)
open SqlConditions (reserved)

/-- A `double` is known by the text `std::to_string` gives for it. -/
structure Double where
  text : String
  numeral : isNumeral text.toList = true
  value : (DecimalText.decimalValue text.toList).isSome = true

/-- What a column can be compared with and a statement can store. -/
inductive Data where
  | long (n : Int)
  | double (d : Double)
  | string (s : String)
  | func (text : String)
  | column (cond : String)

def toValue : Data → String
  | .long n => toString n
  | .double d => d.text
  | .string s => "'" ++ s ++ "'"
  | .func text => text
  | .column cond => cond

def strJoin : List String → String → String
  | [], _ => ""
  | x :: xs, delim => xs.foldl (fun ret y => ret ++ (delim ++ y)) x

def strValJoin (values : List Data) (delim : String) : String :=
  strJoin (values.map toValue) delim

structure Column where
  cond : String
  deriving DecidableEq, Repr

namespace Column

def of (column : String) : Column := ⟨column⟩

def append (c : Column) (text : String) : Column := ⟨c.cond ++ text⟩

def isNull (c : Column) : Column := c.append " is null"

def isNotNull (c : Column) : Column := c.append " is not null"

def like (c : Column) (pattern : String) : Column := c.append (" LIKE ('" ++ pattern ++ "%')")

def notLike (c : Column) (pattern : String) : Column :=
  c.append (" NOT LIKE ('" ++ pattern ++ "%')")

def inList (c : Column) (single many : String) (args : List Data) : Column :=
  match args with
  | [arg] => c.append (single ++ toValue arg)
  | _ => c.append (many ++ strValJoin args ", " ++ ")")

/-- A set is passed as the list of its elements in iteration order. -/
def in_ (c : Column) (args : List Data) : Column := c.inList " = " " in (" args

def notIn (c : Column) (args : List Data) : Column := c.inList " != " " not in (" args

def combine (word : String) (l r : Column) : Column :=
  ⟨"(" ++ l.cond ++ ") " ++ word ++ " (" ++ r.cond ++ ")"⟩

/-- `operator&&` on two columns. -/
def and_ (l r : Column) : Column := combine "and" l r

/-- `operator||` on two columns. -/
def or_ (l r : Column) : Column := combine "or" l r

def compare (op : String) (c : Column) (data : Data) : Column :=
  c.append (" " ++ op ++ " " ++ toValue data)

def eq (c : Column) (data : Data) : Column := compare "=" c data
def ne (c : Column) (data : Data) : Column := compare "!=" c data
def ge (c : Column) (data : Data) : Column := compare ">=" c data
def le (c : Column) (data : Data) : Column := compare "<=" c data
def gt (c : Column) (data : Data) : Column := compare ">" c data
def lt (c : Column) (data : Data) : Column := compare "<" c data

end Column

/-- A clause with a list appears only when the list has an entry. -/
def listClause (keyword : String) (entries : List String) (delim : String) : String :=
  if entries = [] then "" else keyword ++ strJoin entries delim

def textClause (keyword text : String) : String :=
  if text = "" then "" else keyword ++ text

/-- Tables are collected into one text, separated by commas. -/
def addTable (tableName table : String) : String :=
  if tableName = "" then table else tableName ++ ", " ++ table

structure SelectModel where
  selectColumns : List String
  isDistinct : Bool
  groupbyColumns : List String
  tableName : String
  joinType : String
  joinTable : String
  joinOnCondition : List String
  whereCondition : List String
  havingCondition : List String
  orderBy : String
  limit : String
  offset : String
  deriving DecidableEq, Repr

namespace SelectModel

def new : SelectModel := ⟨[], false, [], "", "", "", [], [], [], "", "", ""⟩

def select (m : SelectModel) (columns : List String) : SelectModel :=
  { m with selectColumns := m.selectColumns ++ columns }

def distinct (m : SelectModel) : SelectModel := { m with isDistinct := true }

def from_ (m : SelectModel) (tables : List String) : SelectModel :=
  { m with tableName := tables.foldl addTable m.tableName }

def joinWith (kind : String) (m : SelectModel) (table : String) : SelectModel :=
  { m with joinType := kind, joinTable := table }

def join (m : SelectModel) (table : String) : SelectModel := joinWith "join" m table
def leftJoin (m : SelectModel) (table : String) : SelectModel := joinWith "left join" m table
def leftOuterJoin (m : SelectModel) (table : String) : SelectModel :=
  joinWith "left outer join" m table
def rightJoin (m : SelectModel) (table : String) : SelectModel := joinWith "right join" m table
def rightOuterJoin (m : SelectModel) (table : String) : SelectModel :=
  joinWith "right outer join" m table
def fullJoin (m : SelectModel) (table : String) : SelectModel := joinWith "full join" m table
def fullOuterJoin (m : SelectModel) (table : String) : SelectModel :=
  joinWith "full outer join" m table

def on_ (m : SelectModel) (condition : Column) : SelectModel :=
  { m with joinOnCondition := m.joinOnCondition ++ [condition.cond] }

def where_ (m : SelectModel) (condition : Column) : SelectModel :=
  { m with whereCondition := m.whereCondition ++ [condition.cond] }

def group_by (m : SelectModel) (columns : List String) : SelectModel :=
  { m with groupbyColumns := m.groupbyColumns ++ columns }

def having_ (m : SelectModel) (condition : Column) : SelectModel :=
  { m with havingCondition := m.havingCondition ++ [condition.cond] }

def order_by (m : SelectModel) (orderBy : String) : SelectModel := { m with orderBy := orderBy }

def limit_ (m : SelectModel) (limit : Int) : SelectModel := { m with limit := toString limit }

def offset_ (m : SelectModel) (offset : Int) : SelectModel :=
  { m with offset := toString offset }

def reset (m : SelectModel) : SelectModel :=
  { m with
    selectColumns := []
    isDistinct := false
    groupbyColumns := []
    tableName := ""
    joinType := ""
    joinTable := ""
    joinOnCondition := []
    whereCondition := []
    havingCondition := []
    orderBy := ""
    limit := ""
    offset := "" }

def str (m : SelectModel) : String :=
  "select " ++ (if m.isDistinct then "distinct " else "") ++ strJoin m.selectColumns ", "
    ++ " from " ++ m.tableName
    ++ (if m.joinType = "" then "" else " " ++ m.joinType ++ " " ++ m.joinTable)
    ++ listClause " on " m.joinOnCondition ", "
    ++ listClause " where " m.whereCondition " and "
    ++ listClause " group by " m.groupbyColumns ", "
    ++ listClause " having " m.havingCondition " and "
    ++ textClause " order by " m.orderBy
    ++ textClause " limit " m.limit
    ++ textClause " offset " m.offset

end SelectModel

structure InsertModel where
  isReplace : Bool
  tableName : String
  columns : List String
  values : List String
  returnings : List String
  deriving DecidableEq, Repr

namespace InsertModel

def new : InsertModel := ⟨false, "", [], [], []⟩

def insert (m : InsertModel) (column : String) (data : Data) : InsertModel :=
  { m with columns := m.columns ++ [column], values := m.values ++ [toValue data] }

def insertNull (m : InsertModel) (column : String) : InsertModel :=
  { m with columns := m.columns ++ [column], values := m.values ++ ["null"] }

def returning (m : InsertModel) (columns : List String) : InsertModel :=
  { m with returnings := m.returnings ++ columns }

def into (m : InsertModel) (table : String) : InsertModel := { m with tableName := table }

def replace (m : InsertModel) (var : Bool) : InsertModel := { m with isReplace := var }

def reset (m : InsertModel) : InsertModel :=
  { m with tableName := "", columns := [], values := [], returnings := [] }

def str (m : InsertModel) : String :=
  (if m.isReplace then "insert or replace into " else "insert into ") ++ m.tableName
    ++ "(" ++ strJoin m.columns ", " ++ ")" ++ " values(" ++ strJoin m.values ", " ++ ")"
    ++ listClause " returning " m.returnings ", "

end InsertModel

structure UpdateModel where
  setColumns : List String
  tableName : String
  whereCondition : List String
  deriving DecidableEq, Repr

namespace UpdateModel

def new : UpdateModel := ⟨[], "", []⟩

def update (m : UpdateModel) (table : String) : UpdateModel := { m with tableName := table }

def set (m : UpdateModel) (column : String) (data : Data) : UpdateModel :=
  { m with setColumns := m.setColumns ++ [column ++ " = " ++ toValue data] }

def setNull (m : UpdateModel) (column : String) : UpdateModel :=
  { m with setColumns := m.setColumns ++ [column ++ " = null"] }

def where_ (m : UpdateModel) (condition : Column) : UpdateModel :=
  { m with whereCondition := m.whereCondition ++ [condition.cond] }

def reset (m : UpdateModel) : UpdateModel :=
  { m with tableName := "", setColumns := [], whereCondition := [] }

def str (m : UpdateModel) : String :=
  "update " ++ m.tableName ++ " set " ++ strJoin m.setColumns ", "
    ++ listClause " where " m.whereCondition " and "

end UpdateModel

structure DeleteModel where
  tableName : String
  whereCondition : List String
  deriving DecidableEq, Repr

namespace DeleteModel

def new : DeleteModel := ⟨"", []⟩

def from_ (m : DeleteModel) (tables : List String) : DeleteModel :=
  { m with tableName := tables.foldl addTable m.tableName }

def where_ (m : DeleteModel) (condition : Column) : DeleteModel :=
  { m with whereCondition := m.whereCondition ++ [condition.cond] }

def reset (m : DeleteModel) : DeleteModel := { m with tableName := "", whereCondition := [] }

def str (m : DeleteModel) : String :=
  "delete from " ++ m.tableName ++ listClause " where " m.whereCondition " and "

end DeleteModel

/-- A statement of any kind, as it is handed to the database connection. -/
inductive SqlModel where
  | select (m : SelectModel)
  | insert (m : InsertModel)
  | update (m : UpdateModel)
  | delete (m : DeleteModel)

def SqlModel.str : SqlModel → String
  | .select m => m.str
  | .insert m => m.str
  | .update m => m.str
  | .delete m => m.str

@[simp] lemma strJoin_singleton (x delim : String) : strJoin [x] delim = x := rfl

lemma strJoin_cons_cons (x y : String) (ys : List String) (delim : String) :
    strJoin (x :: y :: ys) delim = x ++ delim ++ strJoin (y :: ys) delim := by
  have general : ∀ (zs : List String) (pre acc : String),
      zs.foldl (fun ret z => ret ++ (delim ++ z)) (pre ++ acc) =
        pre ++ zs.foldl (fun ret z => ret ++ (delim ++ z)) acc := by
    intro zs
    induction zs with
    | nil => intro pre acc; rfl
    | cons z zs ih =>
      intro pre acc
      rw [List.foldl_cons, List.foldl_cons, String.append_assoc, ih]
  rw [strJoin, List.foldl_cons, ← String.append_assoc, general]
  rfl

/-- A column name: an identifier that is not a keyword of a condition. -/
structure ColumnName where
  text : String
  isName : isName text.toList = true
  free : text ∉ reserved

/-- The comparisons of a column with a value. -/
inductive Comparison where
  | eq | ne | lt | le | gt | ge
  deriving DecidableEq, Repr

def Comparison.text : Comparison → String
  | .eq => "="
  | .ne => "!="
  | .lt => "<"
  | .le => "<="
  | .gt => ">"
  | .ge => ">="

def Comparison.cmp : Comparison → SqlConditions.Cmp
  | .eq => .eq
  | .ne => .ne
  | .lt => .lt
  | .le => .le
  | .gt => .gt
  | .ge => .ge

end SqlBuilder
