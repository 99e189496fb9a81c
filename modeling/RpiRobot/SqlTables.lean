import Mathlib.Data.List.Sort
import Mathlib.Data.List.Nodup
import Mathlib.Data.List.Pairwise
import RpiRobot.ListResults
import RpiRobot.SqlStatements

/-!
# Tables with constraints

A small relational server. A schema gives each table its columns with their types
and defaults, its unique columns and its references to other tables. A database
carries the proof that its rows satisfy the schema, and a statement that would
break it is rejected. Checking the new rows as a whole accepts the same
statements as checking each changed row, because the old rows were consistent.

What the server leaves to its surroundings is in `Env` and `Moment`.
-/

namespace SqlTables

open SqlConditions (Value Row)
open SqlStatements
open ListResults (bind_eq_ok mapM_ok_iff)

inductive ColumnType where
  | int4
  | varchar (n : Nat)
  | timestamp
  | jsonb
  deriving DecidableEq, Repr

/-- What a column gets when an insert does not list it. -/
inductive Default where
  | null
  | serial
  | now
  | value (v : Value)

structure ColumnDef where
  name : String
  type : ColumnType
  notNull : Bool
  default : Default

structure Reference where
  column : String
  table : String
  key : String
  deriving DecidableEq, Repr

structure TableDef where
  name : String
  columns : List ColumnDef
  unique : List String
  references : List Reference

abbrev Schema := List TableDef

def Schema.table? (schema : Schema) (name : String) : Option TableDef :=
  schema.find? (fun t => t.name == name)

def TableDef.column? (t : TableDef) (name : String) : Option ColumnDef :=
  t.columns.find? (fun c => c.name == name)

def TableDef.has (t : TableDef) (name : String) : Bool := (t.column? name).isSome

/-! Constraints. -/

def present : Value → Bool
  | .null => false
  | _ => true

inductive Key where
  | int (n : Int)
  | text (s : String)
  deriving DecidableEq, Repr

/-- What a value counts as in unique columns and references; null counts as nothing. -/
def keyOf : Value → Option Key
  | .int n => some (.int n)
  | .text s => some (.text s)
  | .null => none
  | .json _ => none

lemma keyOf_int {v : Value} {n : Int} : keyOf v = some (.int n) ↔ v = .int n := by
  cases v <;> simp [keyOf]

lemma keyOf_text {v : Value} {s : String} : keyOf v = some (.text s) ↔ v = .text s := by
  cases v <;> simp [keyOf]

instance (v : Value) (n : Int) : Decidable (v = .int n) := decidable_of_iff _ keyOf_int

instance (v : Value) (s : String) : Decidable (v = .text s) := decidable_of_iff _ keyOf_text

def ColumnType.admits : ColumnType → Value → Bool
  | .int4, .int n => decide (DecimalText.intMin ≤ n ∧ n ≤ DecimalText.intMax)
  | .varchar k, .text s => decide (s.length ≤ k)
  | .timestamp, .text _ => true
  | .jsonb, .json _ => true
  | _, _ => false

def ColumnDef.admits (c : ColumnDef) : Value → Bool
  | .null => !c.notNull
  | v => c.type.admits v

def TableDef.admits (t : TableDef) (r : Row) : Bool := t.columns.all (fun c => c.admits (r c.name))

def keys (col : String) (rows : List Row) : List Key :=
  rows.filterMap (fun r => keyOf (r col))

/-- The value referred to exists. -/
def Reference.Holds (ref : Reference) (rows : String → List Row) (r : Row) : Prop :=
  (keyOf (r ref.column)).all (fun k => (keys ref.key (rows ref.table)).contains k) = true

instance (ref : Reference) (rows : String → List Row) (r : Row) :
    Decidable (ref.Holds rows r) := inferInstanceAs (Decidable (_ = true))

structure TableDef.Ok (t : TableDef) (rows : String → List Row) : Prop where
  admitted : ∀ r ∈ rows t.name, t.admits r = true
  unique : ∀ col ∈ t.unique, (keys col (rows t.name)).Nodup
  referenced : ∀ ref ∈ t.references, ∀ r ∈ rows t.name, ref.Holds rows r

def Consistent (schema : Schema) (rows : String → List Row) : Prop := ∀ t ∈ schema, t.Ok rows

instance (t : TableDef) (rows : String → List Row) : Decidable (t.Ok rows) :=
  decidable_of_iff
    ((∀ r ∈ rows t.name, t.admits r = true) ∧ (∀ col ∈ t.unique, (keys col (rows t.name)).Nodup) ∧
      ∀ ref ∈ t.references, ∀ r ∈ rows t.name, ref.Holds rows r)
    ⟨fun h => ⟨h.1, h.2.1, h.2.2⟩, fun h => ⟨h.admitted, h.unique, h.referenced⟩⟩

instance (schema : Schema) (rows : String → List Row) : Decidable (Consistent schema rows) :=
  inferInstanceAs (Decidable (∀ t ∈ schema, _))

/-- `serial` holds the next value of the sequence behind a table's serial column. -/
structure Database (schema : Schema) where
  rows : String → List Row
  serial : String → Int
  consistent : Consistent schema rows

/-- Text formats of the server. -/
structure Env where
  jsonbIn : String → Option Json
  jsonbOut : Json → String
  timestampIn : String → Option String

/-- What the functions without arguments give while one statement runs. -/
structure Moment where
  now : String
  uuid : String

inductive SqlError where
  | syntaxError
  | undefinedTable
  | undefinedColumn
  | undefinedFunction
  | datatypeMismatch
  | invalidText
  | stringTooLong
  | outOfRange
  | negativeRowCount
  | sequenceExhausted
  | constraintViolation
  deriving DecidableEq, Repr

structure Result where
  columns : List String
  rows : List (List Value)

/-! Values. -/

/-- Characters beyond the limit are dropped if all of them are blanks. -/
def fitVarchar (n : Nat) (s : String) : Except SqlError Value :=
  if s.length ≤ n then .ok (.text s)
  else if (s.toList.drop n).all (· == ' ') then .ok (.text (String.ofList (s.toList.take n)))
  else .error .stringTooLong

def fitInt (n : Int) : Except SqlError Value :=
  if DecimalText.intMin ≤ n ∧ n ≤ DecimalText.intMax then .ok (.int n) else .error .outOfRange

def orError {α : Type} (e : SqlError) : Option α → Except SqlError α
  | some a => .ok a
  | none => .error e

/-- A value expression assigned to a column. Fractions assigned to an integer column
are left out. -/
def cast (env : Env) (moment : Moment) : ColumnType → Source → Except SqlError Value
  | _, .null => .ok .null
  | .int4, .num t => do fitInt (← orError .datatypeMismatch (DecimalText.intValue t.toList))
  | .int4, .str s => do fitInt (← orError .invalidText (DecimalText.intValue s.toList))
  | .varchar n, .num t => fitVarchar n t
  | .varchar n, .str s => fitVarchar n s
  | .timestamp, .str s => (orError .invalidText (env.timestampIn s)).map .text
  | .jsonb, .str s => (orError .invalidText (env.jsonbIn s)).map .json
  | .varchar n, .call "gen_random_uuid" => fitVarchar n moment.uuid
  | .timestamp, .call "now" => .ok (.text moment.now)
  | _, .call "gen_random_uuid" => .error .datatypeMismatch
  | _, .call "now" => .error .datatypeMismatch
  | _, .call _ => .error .undefinedFunction
  | _, .num _ => .error .datatypeMismatch

/-- The order of a sort: numbers, texts, and null last. -/
def Value.le : Value → Value → Bool
  | .int m, .int n => decide (m ≤ n)
  | .int _, _ => true
  | _, .int _ => false
  | .text s, .text t => decide (s ≤ t)
  | .text _, _ => true
  | _, .text _ => false
  | .json _, _ => true
  | .null, .json _ => false
  | .null, .null => true

def sortRows (order : Option Order) (rows : List Row) : List Row :=
  match order with
  | none => rows
  | some ⟨c, false⟩ => rows.insertionSort (fun a b => Value.le (a c) (b c) = true)
  | some ⟨c, true⟩ => rows.insertionSort (fun a b => Value.le (b c) (a c) = true)

def window {α : Type} (limit offset : Option Int) (rows : List α) : List α :=
  let rest := rows.drop (offset.getD 0).toNat
  match limit with
  | none => rest
  | some n => rest.take n.toNat

/-! Statements. -/

/-- How the where clause of a statement is checked against a table and evaluated. -/
structure Conds (κ : Type) where
  check : TableDef → κ → Option SqlError
  sat : TableDef → κ → Row → Bool

section
variable {κ : Type} {schema : Schema} (env : Env) (moment : Moment) (conds : Conds κ)

def table (schema : Schema) (name : String) : Except SqlError TableDef :=
  orError .undefinedTable (schema.table? name)

def column (t : TableDef) (name : String) : Except SqlError ColumnDef :=
  orError .undefinedColumn (t.column? name)

def require (e : Option SqlError) : Except SqlError Unit :=
  match e with
  | some e => .error e
  | none => .ok ()

def Target.names : Target → List String
  | .columns names => names
  | .count c => [c]

def nonnegative (n : Option Int) : Option SqlError :=
  if n.getD 0 < 0 then some .negativeRowCount else none

def select (d : Database schema) (s : Select κ) : Except SqlError Result := do
  let t ← table schema s.table
  let _ ← (Target.names s.target ++ (s.order.map Order.column).toList).mapM (column t)
  require (conds.check t s.cond)
  require (nonnegative s.limit)
  require (nonnegative s.offset)
  let matched := (d.rows s.table).filter (conds.sat t s.cond)
  match s.target with
  | .columns names =>
    let rows := window s.limit s.offset (sortRows s.order matched)
    return ⟨names, rows.map (fun r => names.map r)⟩
  | .count c =>
    let n := (matched.filter (fun r => present (r c))).length
    return ⟨["count"], window s.limit s.offset [[.int n]]⟩

/-- New rows for one table, unless they break the schema. -/
def store (d : Database schema) (name : String) (rows : List Row) :
    Except SqlError (Database schema) :=
  if h : Consistent schema (Function.update d.rows name rows) then
    .ok ⟨Function.update d.rows name rows, d.serial, h⟩
  else .error .constraintViolation

def defaultValue (serial : Int) : Default → Value
  | .null => .null
  | .serial => .int serial
  | .now => .text moment.now
  | .value v => v

/-- The row of an insert: the listed values, and defaults for the other columns. -/
def newRow (t : TableDef) (serial : Int) (assigned : List (String × Value)) : Row := fun c =>
  match assigned.lookup c with
  | some v => v
  | none => match t.column? c with
    | some d => defaultValue moment serial d.default
    | none => .null

def assignments (t : TableDef) (sets : List (String × Source)) :
    Except SqlError (List (String × Value)) :=
  sets.mapM (fun a => do return (a.1, ← cast env moment (← column t a.1).type a.2))

def Default.isSerial : Default → Bool
  | .serial => true
  | _ => false

/-- Whether the insert draws a number from the table's sequence. -/
def draws (t : TableDef) (columns : List String) : Bool :=
  t.columns.any (fun c => c.default.isSerial && !columns.contains c.name)

/-- What a write gives: the result with the new database, or the error with the old one. -/
def changed (d : Database schema) (result : Result) : Except SqlError (Database schema) →
    Except SqlError Result × Database schema
  | .ok d' => (.ok result, d')
  | .error e => (.error e, d)

/-- The next number of the table's sequence is taken. -/
def Database.advance (d : Database schema) (name : String) : Database schema :=
  { d with serial := Function.update d.serial name (d.serial name + 1) }

@[simp] lemma Database.advance_serial (d : Database schema) (name : String) :
    (d.advance name).serial name = d.serial name + 1 := by
  simp [Database.advance]

/-- A number drawn from the sequence is gone even if the statement then fails. -/
def insert (d : Database schema) (name : String) (columns : List String) (values : List Source)
    (returning : List String) : Except SqlError Result × Database schema :=
  let prepared := do
    let t ← table schema name
    if columns.length ≠ values.length ∨ ¬ columns.Nodup then .error .syntaxError
    else
      let assigned ← assignments env moment t (columns.zip values)
      let _ ← returning.mapM (column t)
      return (t, assigned)
  match prepared with
  | .error e => (.error e, d)
  | .ok (t, assigned) =>
    let next := d.serial name
    if draws t columns ∧ DecimalText.intMax < next then (.error .sequenceExhausted, d)
    else
      let drawn := if draws t columns then d.advance name else d
      let row := newRow moment t next assigned
      changed drawn ⟨returning, [returning.map row]⟩ (store drawn name (d.rows name ++ [row]))

def setColumns (assigned : List (String × Value)) (r : Row) : Row := fun c =>
  (assigned.lookup c).getD (r c)

def update (d : Database schema) (name : String) (sets : List (String × Source)) (cond : κ) :
    Except SqlError (Database schema) := do
  let t ← table schema name
  let assigned ← assignments env moment t sets
  require (conds.check t cond)
  store d name ((d.rows name).map (fun r =>
    if conds.sat t cond r then setColumns assigned r else r))

def delete (d : Database schema) (name : String) (cond : κ) :
    Except SqlError (Database schema) := do
  let t ← table schema name
  require (conds.check t cond)
  store d name ((d.rows name).filter (fun r => !conds.sat t cond r))

/-- One statement, in a transaction of its own. -/
def exec (d : Database schema) : Statement κ → Except SqlError Result × Database schema
  | .select s => (select conds d s, d)
  | .insert name columns values returning => insert env moment d name columns values returning
  | .update name sets cond => changed d ⟨[], []⟩ (update env moment conds d name sets cond)
  | .delete name cond => changed d ⟨[], []⟩ (delete conds d name cond)

end

/-! What the statements do, on tables and columns that exist. -/

section
variable {κ : Type} {schema : Schema} {conds : Conds κ} {env : Env} {moment : Moment}

lemma select_columns (conds : Conds κ) {d : Database schema} {s : Select κ} {names : List String}
    (htarget : s.target = .columns names) {t : TableDef} (ht : table schema s.table = .ok t)
    {defs : List ColumnDef}
    (hc : (names ++ (s.order.map Order.column).toList).mapM (column t) = .ok defs)
    (hk : conds.check t s.cond = none) (hl : nonnegative s.limit = none)
    (ho : nonnegative s.offset = none) :
    select conds d s = .ok ⟨names, (window s.limit s.offset (sortRows s.order
      ((d.rows s.table).filter (conds.sat t s.cond)))).map (fun r => names.map r)⟩ := by
  have hnames : (Target.names (.columns names) ++ (s.order.map Order.column).toList).mapM
      (column t) = .ok defs := hc
  simp only [select, ht, htarget, hnames, hk, hl, ho, require, bind, Except.bind]
  rfl

lemma select_count (conds : Conds κ) {d : Database schema} {s : Select κ} {c : String}
    (htarget : s.target = .count c) {t : TableDef} (ht : table schema s.table = .ok t)
    (horder : s.order = none) {def_ : ColumnDef} (hc : column t c = .ok def_)
    (hk : conds.check t s.cond = none) (hl : s.limit = none) (ho : s.offset = none) :
    select conds d s = .ok ⟨["count"],
      [[.int (((d.rows s.table).filter (conds.sat t s.cond)).filter
        (fun r => present (r c))).length]]⟩ := by
  have hn : nonnegative none = none := rfl
  simp only [select, ht, htarget, horder, hl, ho, hn, hk, Target.names, Option.map_none,
    Option.toList_none, List.append_nil, List.mapM_cons, List.mapM_nil, hc, require, bind,
    Except.bind, pure, Except.pure]
  rfl

/-- A negative row count is refused. -/
lemma select_negative {d : Database schema} {s : Select κ} {r : Result}
    (h : select conds d s = .ok r) :
    nonnegative s.limit = none ∧ nonnegative s.offset = none := by
  simp only [select, bind, Except.bind] at h
  split at h
  · exact absurd h (by simp)
  split at h
  · exact absurd h (by simp)
  split at h
  · exact absurd h (by simp)
  split at h
  · exact absurd h (by simp)
  rename_i hl
  split at h
  · exact absurd h (by simp)
  rename_i ho
  constructor
  · cases hn : nonnegative s.limit with
    | none => rfl
    | some e => rw [hn] at hl; exact absurd hl (by simp [require])
  · cases hn : nonnegative s.offset with
    | none => rfl
    | some e => rw [hn] at ho; exact absurd ho (by simp [require])

lemma delete_eq {d : Database schema} {name : String} {cond : κ} {t : TableDef}
    (ht : table schema name = .ok t) (hk : conds.check t cond = none) :
    delete conds d name cond =
      store d name ((d.rows name).filter (fun r => !conds.sat t cond r)) := by
  simp only [delete, ht, hk, require, bind, Except.bind]

lemma update_eq {d : Database schema} {name : String} {cond : κ} {t : TableDef}
    {sets : List (String × Source)} (ht : table schema name = .ok t)
    (hk : conds.check t cond = none) :
    update env moment conds d name sets cond =
      assignments env moment t sets >>= fun assigned => store d name ((d.rows name).map (fun r =>
        if conds.sat t cond r then setColumns assigned r else r)) := by
  simp only [update, ht, hk, require, bind, Except.bind]

/-- What a source assigns to its column. -/
def Assigned (env : Env) (moment : Moment) (t : TableDef) (a : String × Source)
    (v : String × Value) : Prop :=
  v.1 = a.1 ∧ ∃ c, column t a.1 = .ok c ∧ cast env moment c.type a.2 = .ok v.2

lemma assignments_iff {t : TableDef} {sets : List (String × Source)}
    {assigned : List (String × Value)} :
    assignments env moment t sets = .ok assigned ↔
      List.Forall₂ (Assigned env moment t) sets assigned := by
  rw [assignments, mapM_ok_iff]
  refine iff_of_eq (congrArg (fun r => List.Forall₂ r sets assigned) ?_)
  funext a v
  rw [bind_eq_ok, eq_iff_iff, Assigned]
  constructor
  · rintro ⟨c, hc, h⟩
    obtain ⟨w, hw, h⟩ := bind_eq_ok.mp h
    obtain rfl := Except.ok.inj h
    exact ⟨rfl, c, hc, hw⟩
  · rintro ⟨hv, c, hc, hw⟩
    exact ⟨c, hc, bind_eq_ok.mpr ⟨_, hw, by rw [← hv]; rfl⟩⟩

lemma assigned_iff {t : TableDef} {a : String × Source} {v : String × Value} {c : ColumnDef}
    (hc : column t a.1 = .ok c) :
    Assigned env moment t a v ↔ v.1 = a.1 ∧ cast env moment c.type a.2 = .ok v.2 := by
  constructor
  · rintro ⟨hv, c', hc', h⟩
    obtain rfl := Except.ok.inj (hc.symm.trans hc')
    exact ⟨hv, h⟩
  · rintro ⟨hv, h⟩
    exact ⟨hv, c, hc, h⟩

lemma cast_text {k : Nat} {s : String} (h : s.length ≤ k) :
    cast env moment (.varchar k) (.str s) = .ok (.text s) := if_pos h

lemma cast_uuid {k : Nat} (h : moment.uuid.length ≤ k) :
    cast env moment (.varchar k) (.call "gen_random_uuid") = .ok (.text moment.uuid) := if_pos h

lemma cast_int {n : Int} (h : DecimalText.intMin ≤ n ∧ n ≤ DecimalText.intMax) :
    cast env moment .int4 (.num (toString n)) = .ok (.int n) := by
  have hn := DecimalText.intValue_toString n
  simp only [cast, hn, orError, fitInt, if_pos h, bind, Except.bind]

lemma cast_json_iff {text : String} {v : Value} :
    cast env moment .jsonb (.str text) = .ok v ↔ ∃ j, env.jsonbIn text = some j ∧ v = .json j := by
  simp only [cast]
  cases env.jsonbIn text with
  | none => simp [orError, Except.map]
  | some j => simp [orError, Except.map, eq_comm]

lemma cast_json {text : String} {j : Json} (h : env.jsonbIn text = some j) :
    cast env moment .jsonb (.str text) = .ok (.json j) := cast_json_iff.mpr ⟨j, h, rfl⟩

/-- What a text that fits its column becomes. -/
lemma fitVarchar_text {k : Nat} {s : String} {v : Value} (h : fitVarchar k s = .ok v) :
    ∃ t, v = .text t ∧ t.length ≤ k ∧ (s.length ≤ k → t = s) := by
  rw [fitVarchar] at h
  split_ifs at h with hs hblank
  · exact ⟨s, (Except.ok.inj h).symm, hs, fun _ => rfl⟩
  · refine ⟨_, (Except.ok.inj h).symm, ?_, fun hle => absurd hle hs⟩
    rw [String.length_ofList, List.length_take]
    exact Nat.min_le_left _ _

/-- An insert that takes a number from the sequence. -/
lemma insert_eq {d : Database schema} {name : String} {columns : List String}
    {values : List Source} {returning : List String} {t : TableDef}
    {assigned : List (String × Value)} {defs : List ColumnDef}
    (ht : table schema name = .ok t) (hl : columns.length = values.length) (hn : columns.Nodup)
    (ha : assignments env moment t (columns.zip values) = .ok assigned)
    (hr : returning.mapM (column t) = .ok defs) (hd : draws t columns = true) :
    insert env moment d name columns values returning =
      if DecimalText.intMax < d.serial name then (.error .sequenceExhausted, d)
      else
        let row := newRow moment t (d.serial name) assigned
        changed (d.advance name) ⟨returning, [returning.map row]⟩
          (store (d.advance name) name (d.rows name ++ [row])) := by
  have hshape : ¬ (columns.length ≠ values.length ∨ ¬ columns.Nodup) := by
    rw [not_or, not_not, not_not]
    exact ⟨hl, hn⟩
  simp only [insert, ht, if_neg hshape, ha, hr, hd, bind, Except.bind, pure, Except.pure, if_true,
    true_and]

lemma store_ok {d : Database schema} {name : String} {rows : List Row}
    (h : Consistent schema (Function.update d.rows name rows)) :
    store d name rows = .ok ⟨Function.update d.rows name rows, d.serial, h⟩ := by
  rw [store, dif_pos h]

lemma store_error {d : Database schema} {name : String} {rows : List Row}
    (h : ¬ Consistent schema (Function.update d.rows name rows)) :
    store d name rows = .error .constraintViolation := by
  rw [store, dif_neg h]

lemma store_eq_ok {d d' : Database schema} {name : String} {rows : List Row}
    (h : store d name rows = .ok d') :
    d'.rows = Function.update d.rows name rows ∧ d'.serial = d.serial := by
  rw [store] at h
  split at h
  · obtain rfl := Except.ok.inj h
    exact ⟨rfl, rfl⟩
  · exact absurd h (by simp)

end

/-! Which changes keep a schema satisfied. -/

section
variable {schema : Schema} {rows : String → List Row} {name : String}

lemma mem_keys {col : String} {rows : List Row} {k : Key} :
    k ∈ keys col rows ↔ ∃ r ∈ rows, keyOf (r col) = some k := List.mem_filterMap

lemma holds_iff {ref : Reference} {r : Row} :
    ref.Holds rows r ↔ ∀ k, keyOf (r ref.column) = some k → k ∈ keys ref.key (rows ref.table) := by
  rw [Reference.Holds]
  cases keyOf (r ref.column) <;> simp

section
variable (h : Consistent schema rows) {t : TableDef} (ht : t ∈ schema) {c : ColumnDef}
  (hc : c ∈ t.columns) {r : Row} (hr : r ∈ rows t.name)
include h ht hc hr

lemma column_admits : c.admits (r c.name) = true :=
  List.all_eq_true.mp ((h t ht).admitted r hr) c hc

lemma present_of_notNull (hn : c.notNull = true) : present (r c.name) = true := by
  have hcol := column_admits h ht hc hr
  cases hv : r c.name with
  | null => rw [hv, ColumnDef.admits, hn] at hcol; exact absurd hcol (by decide)
  | int n => rfl
  | text s => rfl
  | json j => rfl

/-- What an integer column without nulls holds. -/
lemma int4_value (hn : c.notNull = true) (htype : c.type = .int4) :
    ∃ n, r c.name = .int n ∧ DecimalText.intMin ≤ n ∧ n ≤ DecimalText.intMax := by
  have hcol := column_admits h ht hc hr
  obtain ⟨name, type, notNull, default⟩ := c
  obtain rfl : type = .int4 := htype
  obtain rfl : notNull = true := hn
  cases hv : r name with
  | null => rw [hv] at hcol; exact absurd hcol (by simp [ColumnDef.admits])
  | int n => rw [hv] at hcol; exact ⟨n, rfl, of_decide_eq_true hcol⟩
  | text s => rw [hv] at hcol; exact absurd hcol (by simp [ColumnDef.admits, ColumnType.admits])
  | json j => rw [hv] at hcol; exact absurd hcol (by simp [ColumnDef.admits, ColumnType.admits])

/-- What a text or time column without nulls holds. -/
lemma text_value (hn : c.notNull = true) (htype : c.type ≠ .int4 ∧ c.type ≠ .jsonb) :
    ∃ s, r c.name = .text s := by
  have hcol := column_admits h ht hc hr
  obtain ⟨name, type, notNull, default⟩ := c
  obtain rfl : notNull = true := hn
  cases hv : r name with
  | null => rw [hv] at hcol; exact absurd hcol (by simp [ColumnDef.admits])
  | int n =>
    rw [hv] at hcol
    cases type <;> simp [ColumnDef.admits, ColumnType.admits] at hcol htype
  | text s => exact ⟨s, rfl⟩
  | json j =>
    rw [hv] at hcol
    cases type <;> simp [ColumnDef.admits, ColumnType.admits] at hcol htype

lemma json_value (htype : c.type = .jsonb) : r c.name = .null ∨ ∃ j, r c.name = .json j := by
  have hcol := column_admits h ht hc hr
  obtain ⟨name, type, notNull, default⟩ := c
  obtain rfl : type = .jsonb := htype
  cases hv : r name with
  | null => exact .inl rfl
  | int n => rw [hv] at hcol; exact absurd hcol (by simp [ColumnDef.admits, ColumnType.admits])
  | text s => rw [hv] at hcol; exact absurd hcol (by simp [ColumnDef.admits, ColumnType.admits])
  | json j => exact .inr ⟨j, rfl⟩

end

lemma keys_sublist {col : String} {a b : List Row} (h : a.Sublist b) :
    (keys col a).Sublist (keys col b) := h.filterMap _

lemma keys_map {col : String} {rows : List Row} {f : Row → Row}
    (h : ∀ r ∈ rows, keyOf (f r col) = keyOf (r col)) : keys col (rows.map f) = keys col rows := by
  rw [keys, keys, List.filterMap_map]
  exact List.filterMap_congr h

/-- Rows of a unique column have different keys. -/
lemma keys_differ {col : String} {all : List Row} (hnodup : (keys col all).Nodup) :
    all.Pairwise (fun r s => ∀ k, keyOf (r col) = some k → keyOf (s col) ≠ some k) := by
  rw [keys, List.Nodup, List.pairwise_filterMap] at hnodup
  exact hnodup.imp (fun h k hr hs => h k hr k hs rfl)

/-- In a unique column a key belongs to one row. -/
lemma eq_of_key {col : String} {all : List Row} (hnodup : (keys col all).Nodup) {r s : Row}
    (hr : r ∈ all) (hs : s ∈ all) {k : Key} (hrk : keyOf (r col) = some k)
    (hsk : keyOf (s col) = some k) : r = s := by
  by_contra hne
  have hsymm : Std.Symm (fun r s : Row =>
      ∀ k, keyOf (r col) = some k → keyOf (s col) ≠ some k) :=
    ⟨fun a b h k hb ha => h k ha hb⟩
  exact (keys_differ hnodup).forall hr hs hne k hrk hsk

lemma mem_keys_filter {col : String} {all : List Row} (hnodup : (keys col all).Nodup)
    {p : Row → Bool} {r : Row} (hr : r ∈ all) {k : Key} (hk : keyOf (r col) = some k) :
    k ∈ keys col (all.filter p) ↔ p r = true := by
  constructor
  · intro hm
    obtain ⟨s, hs, hsk⟩ := mem_keys.mp hm
    obtain ⟨hs, hp⟩ := List.mem_filter.mp hs
    rwa [eq_of_key hnodup hr hs hk hsk]
  · intro hp
    exact mem_keys.mpr ⟨r, List.mem_filter.mpr ⟨hr, hp⟩, hk⟩

/-- Removing rows keeps the schema exactly if no row left behind refers to one of
them. -/
lemma consistent_filter_iff (h : Consistent schema rows) (p : Row → Bool) :
    Consistent schema (Function.update rows name ((rows name).filter p)) ↔
      ∀ t ∈ schema, ∀ ref ∈ t.references, ref.table = name →
        ∀ r ∈ Function.update rows name ((rows name).filter p) t.name,
          ref.Holds (Function.update rows name ((rows name).filter p)) r := by
  constructor
  · intro hc t ht ref href _ r hr
    exact (hc t ht).referenced ref href r hr
  · intro hrefs t ht
    have hsub : (Function.update rows name ((rows name).filter p) t.name).Sublist
        (rows t.name) := by
      by_cases hn : t.name = name
      · rw [hn, Function.update_self]
        exact List.filter_sublist
      · rw [Function.update_of_ne hn]
    have hok := h t ht
    refine ⟨fun r hr => hok.admitted r (hsub.subset hr),
      fun col hcol => (hok.unique col hcol).sublist (keys_sublist hsub), fun ref href r hr => ?_⟩
    by_cases hn : ref.table = name
    · exact hrefs t ht ref href hn r hr
    · have hold := holds_iff.mp (hok.referenced ref href r (hsub.subset hr))
      rw [holds_iff]
      intro k hk
      rw [Function.update_of_ne hn]
      exact hold k hk

/-- A new row that its table admits, with keys of its own and references that hold. -/
lemma consistent_append (h : Consistent schema rows) {row : Row}
    (hnew : ∀ t ∈ schema, t.name = name → t.admits row = true ∧
      (∀ col ∈ t.unique, ∀ k, keyOf (row col) = some k → k ∉ keys col (rows name)) ∧
      ∀ ref ∈ t.references, ref.Holds rows row) :
    Consistent schema (Function.update rows name (rows name ++ [row])) := by
  have hgrow : ∀ table, (rows table).Sublist
      (Function.update rows name (rows name ++ [row]) table) := by
    intro table
    by_cases hn : table = name
    · rw [hn, Function.update_self]
      exact List.sublist_append_left _ _
    · rw [Function.update_of_ne hn]
  have hmono : ∀ (ref : Reference) (r : Row), ref.Holds rows r →
      ref.Holds (Function.update rows name (rows name ++ [row])) r := by
    intro ref r hr
    rw [holds_iff] at hr ⊢
    exact fun k hk => (keys_sublist (hgrow ref.table)).subset (hr k hk)
  intro t ht
  have hok := h t ht
  by_cases hn : t.name = name
  · obtain ⟨hadm, huniq, hrefs⟩ := hnew t ht hn
    refine ⟨?_, ?_, ?_⟩
    · rw [hn, Function.update_self]
      intro r hr
      rcases List.mem_append.mp hr with hr | hr
      · exact hok.admitted r (hn ▸ hr)
      · obtain rfl := List.mem_singleton.mp hr
        exact hadm
    · intro col hcol
      rw [hn, Function.update_self, keys, List.filterMap_append]
      have hold : (keys col (rows name)).Nodup := hn ▸ hok.unique col hcol
      cases hk : keyOf (row col) with
      | none => simpa [hk, keys] using hold
      | some k =>
        rw [List.filterMap_cons, hk, List.filterMap_nil]
        exact List.nodup_append.mpr ⟨hold, List.nodup_singleton k, by
          intro a ha b hb
          obtain rfl := List.mem_singleton.mp hb
          rintro rfl
          exact huniq col hcol a hk ha⟩
    · rw [hn, Function.update_self]
      intro ref href r hr
      apply hmono
      rcases List.mem_append.mp hr with hr | hr
      · exact hok.referenced ref href r (hn ▸ hr)
      · obtain rfl := List.mem_singleton.mp hr
        exact hrefs ref href
  · refine ⟨fun r hr => ?_, fun col hcol => ?_, fun ref href r hr => ?_⟩
    · rw [Function.update_of_ne hn] at hr
      exact hok.admitted r hr
    · rw [Function.update_of_ne hn]
      exact hok.unique col hcol
    · rw [Function.update_of_ne hn] at hr
      exact hmono ref r (hok.referenced ref href r hr)

lemma new_mem (row : Row) : row ∈ Function.update rows name (rows name ++ [row]) name := by
  rw [Function.update_self]
  exact List.mem_append_right _ List.mem_cons_self

/-- In a unique column a new row has a key of its own. -/
lemma new_key {t : TableDef} (ht : t ∈ schema) {row : Row}
    (h : Consistent schema (Function.update rows t.name (rows t.name ++ [row]))) {col : String}
    (hcol : col ∈ t.unique) {k : Key} (hk : keyOf (row col) = some k) :
    ∀ r ∈ rows t.name, keyOf (r col) ≠ some k := by
  intro r hr hrk
  have hnodup := (h t ht).unique col hcol
  rw [Function.update_self] at hnodup
  have hpair := (List.pairwise_append.mp (keys_differ hnodup)).2.2
  exact hpair r hr row List.mem_cons_self k hrk hk

/-- Rows rewritten in place: admitted, unique, and with the same keys wherever a
reference starts or ends. -/
lemma consistent_map (h : Consistent schema rows) {f : Row → Row}
    (hnew : ∀ t ∈ schema, t.name = name → (∀ r ∈ rows name, t.admits (f r) = true) ∧
      (∀ col ∈ t.unique, (keys col ((rows name).map f)).Nodup) ∧
      ∀ ref ∈ t.references, ∀ r ∈ rows name, keyOf (f r ref.column) = keyOf (r ref.column))
    (htarget : ∀ t ∈ schema, ∀ ref ∈ t.references, ref.table = name →
      ∀ r ∈ rows name, keyOf (f r ref.key) = keyOf (r ref.key)) :
    Consistent schema (Function.update rows name ((rows name).map f)) := by
  have hkeys : ∀ t ∈ schema, ∀ ref ∈ t.references,
      keys ref.key (Function.update rows name ((rows name).map f) ref.table) =
        keys ref.key (rows ref.table) := by
    intro t ht ref href
    by_cases hn : ref.table = name
    · rw [hn, Function.update_self]
      exact keys_map (htarget t ht ref href hn)
    · rw [Function.update_of_ne hn]
  have hholds : ∀ t ∈ schema, ∀ ref ∈ t.references, ∀ r s : Row,
      keyOf (s ref.column) = keyOf (r ref.column) → ref.Holds rows r →
        ref.Holds (Function.update rows name ((rows name).map f)) s := by
    intro t ht ref href r s hs hr
    rw [holds_iff] at hr ⊢
    intro k hk
    rw [hkeys t ht ref href]
    exact hr k (hs ▸ hk)
  intro t ht
  have hok := h t ht
  by_cases hn : t.name = name
  · obtain ⟨hadm, huniq, hrefs⟩ := hnew t ht hn
    refine ⟨?_, ?_, ?_⟩
    · rw [hn, Function.update_self, List.forall_mem_map]
      exact hadm
    · intro col hcol
      rw [hn, Function.update_self]
      exact huniq col hcol
    · rw [hn, Function.update_self]
      intro ref href
      rw [List.forall_mem_map]
      intro r hr
      exact hholds t ht ref href r (f r) (hrefs ref href r hr)
        (hok.referenced ref href r (hn ▸ hr))
  · refine ⟨fun r hr => ?_, fun col hcol => ?_, fun ref href r hr => ?_⟩
    · rw [Function.update_of_ne hn] at hr
      exact hok.admitted r hr
    · rw [Function.update_of_ne hn]
      exact hok.unique col hcol
    · rw [Function.update_of_ne hn] at hr
      exact hholds t ht ref href r r rfl (hok.referenced ref href r hr)

end

end SqlTables
