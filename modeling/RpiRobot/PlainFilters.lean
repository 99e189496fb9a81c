import RpiRobot.DeleteAgreement
import RpiRobot.TextPages

/-!
# Filters that keep their meaning

A filter whose names are words and whose strings have no quote and no NUL reaches the server as
it is meant: a conjunction of comparisons with columns of the repository's table. The server
refuses a comparison whose types do not fit before it reads a row. Which rows satisfy one that it
takes is left open on this table, and read as SQL on the others.
-/

namespace PlainFilters

open SqlConditions (Expr Row Operand Cmp allOf reserved)
open SqlBuilder SqlTables SqlServers SqlStatements BuilderStatements
open StringLiterals (QuoteFree)
open WhereClauses (Means Atomic)
open RequestParams DomainObjects Repositories RepositoryStatements FieldQueries
open FilterConditions (fieldCondition conditions nulFree_double nulFree_compare nulFree_like)
open PageResults (ownReading)
open DeleteAgreement (Lists)
open RegistrySchema (schema)

-- Without this the unifier tries to parse the text of a statement.
attribute [local irreducible] textServer condServer

/-! ## The conditions of a plain filter -/

structure PlainField (f : Field) : Prop where
  isName : SqlTokens.isName f.name.toList = true
  free : f.name ∉ reserved
  string : ∀ s, f.value = .string s → QuoteFree s.toList ∧ NulFree s

def Plain (filter : Filter) : Prop := ∀ f ∈ filter, PlainField f

lemma plain_integral {name : String} (hname : SqlTokens.isName name.toList = true)
    (hfree : name ∉ reserved) (op : Operation) (n : Int) :
    Plain (Filter.create.add name op (.integral n)) :=
  List.forall_mem_singleton.mpr ⟨hname, hfree, fun s hs => by cases hs⟩

/-- What a condition is made of: a comparison with the value of the field, or a prefix. -/
inductive Written (name : ColumnName) (value : FieldValue) (c : Column) : Prop
  | long (op : Comparison) (n : Int) : c = Column.compare op.text (.of name.text) (.long n) →
      Written name value c
  | double (op : Comparison) (d : Double) :
      c = Column.compare op.text (.of name.text) (.double d) → Written name value c
  | string (s : String) : value = .string s →
      c = Column.compare Comparison.eq.text (.of name.text) (.string s) → Written name value c
  | like (s : String) : value = .string s → c = (Column.of name.text).like s →
      Written name value c
  | notLike (s : String) : value = .string s → c = (Column.of name.text).notLike s →
      Written name value c

lemma written_of_field (name : ColumnName) {op : Operation} {value : FieldValue} {c : Column}
    (h : fieldCondition ⟨name.text, op, value⟩ = some c) : Written name value c := by
  cases value with
  | string s =>
    cases op <;> cases h
    case opLike.refl => exact .like s rfl rfl
    case opNlike.refl => exact .notLike s rfl rfl
    all_goals exact .string s rfl rfl
  | long n =>
    cases op <;> cases h
    case opGt.refl => exact .long .gt n rfl
    case opLt.refl => exact .long .lt n rfl
    case opGte.refl => exact .long .ge n rfl
    case opLte.refl => exact .long .le n rfl
    all_goals exact .long .eq n rfl
  | double d =>
    cases op <;> cases h
    case opGt.refl => exact .double .gt d rfl
    case opLt.refl => exact .double .lt d rfl
    case opLte.refl => exact .double .le d rfl
    all_goals exact .double .eq d rfl
  | vectorString v => cases op <;> cases h
  | vectorNumber v => cases op <;> cases h

lemma PlainField.atomic {f : Field} (hf : PlainField f) {c : Column}
    (h : fieldCondition f = some c) : (∃ e, Atomic c e) ∧ NulFree c.cond := by
  obtain ⟨name, op, value⟩ := f
  cases written_of_field ⟨name, hf.isName, hf.free⟩ h with
  | long op n hc =>
    exact hc ▸ ⟨⟨_, WhereClauses.atomic_compare _ op (d := .long n) rfl trivial⟩,
      nulFree_compare _ op (v := .long n) (nulFree_int n)⟩
  | double op d hc =>
    exact hc ▸ ⟨⟨_, WhereClauses.atomic_compare _ op (d := .double d) rfl trivial⟩,
      nulFree_compare _ op (v := .double d) (nulFree_double d)⟩
  | string s hs hc =>
    obtain ⟨hquote, hnul⟩ := hf.string s hs
    exact hc ▸ ⟨⟨_, WhereClauses.atomic_compare _ .eq (d := .string s) rfl hquote⟩,
      nulFree_compare _ .eq (nulFree_string hnul)⟩
  | like s hs hc =>
    obtain ⟨hquote, hnul⟩ := hf.string s hs
    exact hc ▸ ⟨⟨_, WhereClauses.atomic_like _ hquote⟩, (nulFree_like _ hnul).1⟩
  | notLike s hs hc =>
    obtain ⟨hquote, hnul⟩ := hf.string s hs
    exact hc ▸ ⟨⟨_, WhereClauses.atomic_notLike _ hquote⟩, (nulFree_like _ hnul).2⟩

lemma Plain.atomic {filter : Filter} (h : Plain filter) :
    (∃ es, List.Forall₂ Atomic (conditions filter) es) ∧ ∀ text ∈ texts filter, NulFree text := by
  have hall : ∀ c ∈ conditions filter, (∃ e, Atomic c e) ∧ NulFree c.cond := by
    intro c hc
    obtain ⟨f, hf, hcond⟩ := List.mem_filterMap.mp hc
    exact (h f hf).atomic hcond
  exact ⟨ListResults.exists_forall₂_iff.mpr fun c hc => (hall c hc).1,
    List.forall_mem_map.mpr fun c hc => (hall c hc).2⟩

/-! ## A server that checks the types of conditions -/

section
variable (env : Env) (int4In : String → Bool)

/-- The input function of the kind takes the literal. -/
def takes (s : String) : Kind → Bool
  | .number => int4In s
  | .timestamp => (env.timestampIn s).isSome
  | .json => (env.jsonbIn s).isSome
  | .text => true
  | .literal _ => true

/-- A literal takes the type of what it is compared with. -/
def comparable : Kind → Kind → Bool
  | .literal s, k => takes env int4In s k
  | k, .literal s => takes env int4In s k
  | k, l => decide (k = l)

def fits (t : TableDef) (a b : Operand) : Bool :=
  match kindOf t a, kindOf t b with
  | .ok k, .ok l => comparable env int4In k l
  | _, _ => false

def accepts (t : TableDef) : Expr → Bool
  | .cmp _ a b => fits env int4In t a b
  | .like _ a _ =>
    match kindOf t a with
    | .ok k => (likeCheck k).isNone
    | .error _ => false
  | .isIn _ a items => items.all (fits env int4In t a)
  | .isNull _ a => (kindOf t a).isOk
  | .and l r => accepts t l && accepts t r
  | .or l r => accepts t l && accepts t r

/-- A condition holds as its comparisons do. -/
def holds (sat : Expr → Row → Bool) : Expr → Row → Bool
  | .and l r, row => holds sat l row && holds sat r row
  | .or l r, row => holds sat l row || holds sat r row
  | e, row => sat e row

/-- The comparisons with columns of the table `own` are satisfied as `sat` says. -/
def typedConds (own : String) (sat : Expr → Row → Bool) : Conds (Option Expr) where
  check t
    | none => none
    | some e => if accepts env int4In t e then none else some .invalidText
  sat t
    | none, _ => true
    | some e, r => if t.name = own then holds sat e r else e.sat r

def typedConnection (runtime : Runtime) (moment : Moment) (own : String)
    (sat : Expr → Row → Bool) : Connection :=
  condConnection env (typedConds env int4In own sat) runtime moment

/-- The types of all conditions of the filter fit the table. -/
def Accepted (t : TableDef) (filter : Filter) : Prop :=
  ∀ text ∈ texts filter, (SqlConditions.ofText text).any (accepts env int4In t) = true

instance (t : TableDef) (filter : Filter) : Decidable (Accepted env int4In t filter) :=
  inferInstanceAs (Decidable (∀ _ ∈ _, _))

end

/-- What the server makes of the text of a condition, on the table `own` and on the others. -/
def reading (own : String) (sat : Expr → Row → Bool) : Reading :=
  ownReading (fun _ text r =>
    match SqlConditions.ofText text with
    | some e => holds sat e r
    | none => false) own

section
variable {env : Env} {int4In : String → Bool} {runtime : Runtime} {moment : Moment}
  {sat : Expr → Row → Bool} {d : Database schema} {t : TableDef} {filter : Filter}

lemma accepts_foldl (es : List Expr) (e : Expr) :
    accepts env int4In t (es.foldl .and e) = (accepts env int4In t e &&
      es.all (accepts env int4In t)) := by
  induction es generalizing e with
  | nil => rw [List.foldl_nil, List.all_nil, Bool.and_true]
  | cons x es ih => rw [List.foldl_cons, ih, accepts, List.all_cons, Bool.and_assoc]

lemma holds_foldl (es : List Expr) (e : Expr) (r : Row) :
    holds sat (es.foldl .and e) r = (holds sat e r && es.all (fun x => holds sat x r)) := by
  induction es generalizing e with
  | nil => rw [List.foldl_nil, List.all_nil, Bool.and_true]
  | cons x es ih => rw [List.foldl_cons, ih, holds, List.all_cons, Bool.and_assoc]

/-- The clause of a list of conditions is checked as they are. -/
lemma check_clause (own : String) (es : List Expr) :
    (typedConds env int4In own sat).check t (allOf es) = none ↔
      ∀ e ∈ es, accepts env int4In t e = true := by
  cases es with
  | nil => exact iff_of_true rfl fun e he => absurd he List.not_mem_nil
  | cons e es =>
    change (if accepts env int4In t (es.foldl .and e) = true then none else _) = none ↔ _
    rw [accepts_foldl, ite_eq_left_iff, List.forall_mem_cons, ← List.all_eq_true]
    simp

lemma sat_clause (es : List Expr) (r : Row) :
    (typedConds env int4In t.name sat).sat t (allOf es) r =
      es.all (fun e => holds sat e r) := by
  cases es with
  | nil => rfl
  | cons e es =>
    change (if t.name = t.name then holds sat (es.foldl .and e) r else _) = _
    rw [if_pos rfl, holds_foldl, List.all_cons]

lemma reading_means {c : Column} {e : Expr} (h : Means c e) (own : String) (r : Row) :
    reading own sat own c.cond r = holds sat e r := by
  rw [reading, ownReading, if_pos rfl, show SqlConditions.ofText c.cond = some e from h]

lemma reading_atomic {cs : List Column} {es : List Expr} (h : List.Forall₂ Atomic cs es)
    (own : String) (r : Row) :
    (cs.map Column.cond).all (fun text => reading own sat own text r) =
      es.all (fun e => holds sat e r) := by
  induction h with
  | nil => rfl
  | cons hc hrest ih =>
    rw [List.map_cons, List.all_cons, List.all_cons, ih, reading_means hc.means]

lemma accepted_atomic {es : List Expr} (h : List.Forall₂ Atomic (conditions filter) es) :
    Accepted env int4In t filter ↔ ∀ e ∈ es, accepts env int4In t e = true := by
  rw [Accepted, texts, List.forall_mem_map]
  generalize conditions filter = cs at h
  induction h with
  | nil =>
    exact iff_of_true (fun c hc => absurd hc List.not_mem_nil)
      (fun e he => absurd he List.not_mem_nil)
  | cons hc hrest ih =>
    rw [List.forall_mem_cons, List.forall_mem_cons, ih]
    refine and_congr_left' (iff_of_eq ?_)
    exact congrArg (fun o => Option.any (accepts env int4In t) o = true) hc.means

/-- A select with the conditions of a plain filter is refused, or gives what it says. -/
lemma Plain.query (h : Plain filter) {m : SelectModel} {s : Select (List String)}
    (hm : RendersSelect m s) (ht : table schema s.table = .ok t) (hcond : s.cond = texts filter)
    (nul : SelectNulFree m) :
    (Accepted env int4In t filter →
      (typedConnection env int4In runtime moment t.name sat).query d (.select m) =
        (fieldConnection env runtime moment (reading t.name sat)).query d (.select m)) ∧
    (¬Accepted env int4In t filter →
      ∃ e, (typedConnection env int4In runtime moment t.name sat).query d (.select m) =
        .error e) := by
  obtain ⟨⟨es, hes⟩, -⟩ := h.atomic
  have hread : readClause s.cond = some (allOf es) := by
    rw [hcond]
    exact TextPages.readClause_atomic hes
  have hcheck : (typedConds env int4In t.name sat).check t (allOf es) = none ↔
      Accepted env int4In t filter := (check_clause t.name es).trans (accepted_atomic hes).symm
  rw [← hcheck]
  constructor
  · intro haccepted
    refine TextPages.cond_field hm ht hread haccepted (fun r => ?_) nul
    rw [hcond, texts, reading_atomic hes, sat_clause]
  · exact fun hrefused => TextPages.cond_refused hm ht hread hrefused nul

/-! ## The second selects -/

lemma fits_number {name : String} {c : ColumnDef} (hc : column t name = .ok c)
    (htype : c.type = .int4) (n : Int) :
    fits env int4In t (.col name) (.num (toString n)) = true := by
  have hkind : kindOf t (.col name) = .ok .number := by
    rw [kindOf, hc, Except.map, htype, columnKind]
  rw [fits, hkind]
  rfl

variable (env int4In) in
/-- A condition of membership is read, and its types fit. -/
lemma member_accepted (name : ColumnName) {c : ColumnDef} (hc : column t name.text = .ok c)
    (htype : c.type = .int4) {ids : List Int} (hids : ids ≠ []) :
    ∃ e, SqlConditions.ofText (memberOf name.text ids) = some e ∧
      accepts env int4In t e = true := by
  match ids with
  | [] => exact absurd rfl hids
  | [n] => exact ⟨_, MemberConditions.ofText_single name n, fits_number hc htype n⟩
  | m :: n :: rest =>
    refine ⟨_, MemberConditions.ofText_listed name MemberConditions.separates_in hids, ?_⟩
    rw [accepts, List.all_map, List.all_eq_true]
    exact fun n _ => fits_number hc htype n

variable (env int4In runtime moment sat d) in
/-- A select of the members, on a table that is not the repository's own. -/
lemma member_query (name : ColumnName) {c : ColumnDef} (hc : column t name.text = .ok c)
    (htype : c.type = .int4) (own : String) (hother : t.name ≠ own) {columns : List String}
    (ht : table schema t.name = .ok t) {m : SelectModel} {ids : List Int}
    (hm : RendersSelect m (plainSelect columns t.name [memberOf name.text ids]))
    (nul : SelectNulFree m) (hids : ids ≠ []) :
    (typedConnection env int4In runtime moment own sat).query d (.select m) =
      (fieldConnection env runtime moment (reading own sat)).query d (.select m) := by
  obtain ⟨e, he, haccepts⟩ := member_accepted env int4In name hc htype hids
  have hread : readClause [memberOf name.text ids] = some (some e) :=
    TextQueries.readClause_single (c := (Column.of name.text).in_ (ids.map .long)) he
  refine TextPages.cond_field hm ht hread ?_ (fun r => ?_) nul
  · change (if accepts env int4In t e = true then none else some SqlError.invalidText) = none
    rw [if_pos haccepts]
  · change (if t.name = own then holds sat e r else e.sat r) =
      (reading own sat t.name (memberOf name.text ids) r && true)
    rw [if_neg hother, Bool.and_true, reading, ownReading, if_neg hother, he]

/-! ## The pages of a plain filter -/

variable {dbs : Nat → Database schema} {page : PageRequest}

variable (env int4In runtime moment sat d page) in
/-- The first select of a repository. -/
lemma Plain.query_page (h : Plain filter) (l : Listing) :
    (Accepted env int4In l.own filter →
      (typedConnection env int4In runtime moment l.own.name sat).query d
          (.select (l.selectData filter page)) =
        (fieldConnection env runtime moment (reading l.own.name sat)).query d
          (.select (l.selectData filter page))) ∧
    (¬Accepted env int4In l.own filter →
      ∃ e, (typedConnection env int4In runtime moment l.own.name sat).query d
        (.select (l.selectData filter page)) = .error e) :=
  h.query (l.data filter page) l.found rfl (l.nulFree filter page h.atomic.2)

variable (dbs) in
lemma device_accepted (h : Plain filter)
    (haccepted : Accepted env int4In RegistrySchema.device filter) :
    DeviceRepository.findAll (typedConnection env int4In runtime moment "device" sat) dbs filter
        page =
      DeviceRepository.findAll (fieldConnection env runtime moment (reading "device" sat)) dbs
        filter page :=
  device_findAll_congr rfl
    ((h.query (t := RegistrySchema.device) (renders_device_page filter page) rfl rfl
      (deviceListing.nulFree filter page h.atomic.2)).1 haccepted)
    (fun ids hids => member_query env int4In runtime moment sat _
      (t := RegistrySchema.deviceConfiguration) deviceIdColumn rfl rfl "device" (by decide) rfl
      (renders_configuration ids) (nulFree_plain (by decide) (by decide)
        (TextPages.nulFree_member (by decide) ids)) hids)
    ((h.query (t := RegistrySchema.device) (renders_device_count filter) rfl rfl
      (TextPages.nulFree_count (by decide) (by decide) h.atomic.2)).1 haccepted)

/-- A filter whose types do not fit makes every page fail. -/
lemma Plain.refused {T : Type} {l : Listing} {repository : Repository T}
    (hlists : Lists l repository) (h : Plain filter)
    (hrefused : ¬Accepted env int4In l.own filter) :
    ∃ e, repository.findAll (typedConnection env int4In runtime moment l.own.name sat) dbs
      filter page = .error e := by
  obtain ⟨e, he⟩ := (h.query_page env int4In runtime moment sat (dbs 0) page l).2 hrefused
  exact ⟨e, hlists.fails he⟩

lemma Plain.accepted {T : Type} {l : Listing} {repository : Repository T}
    (hlists : Lists l repository) (h : Plain filter) {result : Page T}
    (hpage : repository.findAll (typedConnection env int4In runtime moment l.own.name sat) dbs
      filter page = .ok result) : Accepted env int4In l.own filter := by
  by_contra hrefused
  obtain ⟨e, he⟩ := h.refused hlists hrefused
  exact absurd (he.symm.trans hpage) (by simp)

end

/-- The input function of `int4` on a number without spaces around it. -/
def int4Text (s : String) : Bool :=
  match DecimalText.intValue s.toList with
  | some n => decide (DecimalText.intMin ≤ n ∧ n ≤ DecimalText.intMax)
  | none => false

/-- A client of such a server. -/
def typedClient (own : String) : Connection :=
  typedConnection RegistrySchema.shippedEnv int4Text shippedRuntime RegistrySchema.setup own
    fun e r => e.sat r

end PlainFilters
