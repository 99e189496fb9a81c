import RpiRobot.PageResults
import RpiRobot.TextQueries

/-!
# Pages of devices through the text

For conditions without a quote and without a NUL the server that parses the rendered statements
answers as the one that takes the conditions one by one, each read as SQL. So what `findAll`
gives for a page of devices is known for the texts that the server really gets.
-/

namespace TextPages

open SqlConditions (Expr Row Operand allOf)
open SqlBuilder SqlTables SqlServers SqlStatements BuilderStatements
open StringLiterals (QuoteFree)
open WhereClauses (Means Atomic frameOf)
open RequestParams DomainObjects Repositories RepositoryStatements FieldQueries
open RowDecoding SecondSelects PageResults ListResults
open RegistrySchema (schema)

-- Without this the unifier tries to parse the text of a statement.
attribute [local irreducible] textServer condServer

/-- A condition read as SQL. -/
def sqlReading : Reading := fun _ c r =>
  match SqlConditions.ofText c with
  | some e => e.sat r
  | none => false

lemma ownReading_sql (own : String) : ownReading sqlReading own = sqlReading := by
  funext table c r
  rw [ownReading]
  split <;> rfl

/-! ## One select -/

section
variable {env : Env} {runtime : Runtime} {moment : Moment} {d : Database schema} {t : TableDef}

/-- Two ways to write the condition of a select that keep the same rows. -/
lemma select_conds {κ κ' : Type} {conds : Conds κ} {conds' : Conds κ'} {s : Select κ} {c : κ'}
    (ht : table schema s.table = .ok t) (hcheck : conds.check t s.cond = none)
    (hcheck' : conds'.check t c = none)
    (hsat : ∀ r ∈ d.rows s.table, conds.sat t s.cond r = conds'.sat t c r) :
    select conds d s = select conds' d { s with cond := c } := by
  simp only [select, ht, bind, Except.bind, hcheck, hcheck', List.filter_congr hsat]

/-- The text of a select is read as its conditions one by one. -/
lemma cond_field {conds : Conds (Option Expr)} {sat : Reading} {m : SelectModel}
    {s : Select (List String)} (h : RendersSelect m s) (ht : table schema s.table = .ok t)
    {cond : Option Expr} (hread : readClause s.cond = some cond)
    (hcheck : conds.check t cond = none)
    (hsat : ∀ r, conds.sat t cond r = s.cond.all (fun c => sat t.name c r))
    (nul : SelectNulFree m) :
    (condConnection env conds runtime moment).query d (.select m) =
      (fieldConnection env runtime moment sat).query d (.select m) := by
  have hselect : select (opaqueConds sat) d s = select conds d { s with cond := cond } :=
    select_conds ht rfl hcheck (fun r _ => (hsat r).symm)
  rw [TextQueries.cond_query h hread nul, field_query h]
  exact hselect ▸ rfl

lemma text_field {m : SelectModel} {s : Select (List String)} (h : RendersSelect m s)
    (ht : table schema s.table = .ok t) {cond : Option Expr}
    (hread : readClause s.cond = some cond) (hcheck : (textConds env).check t cond = none)
    (hsat : ∀ r, (textConds env).sat t cond r = s.cond.all (fun c => sqlReading t.name c r))
    (nul : SelectNulFree m) :
    (textConnection env runtime moment).query d (.select m) =
      (fieldConnection env runtime moment sqlReading).query d (.select m) := by
  rw [condConnection_text]
  exact cond_field h ht hread hcheck hsat nul

/-- A select whose condition the server refuses. -/
lemma cond_refused {conds : Conds (Option Expr)} {m : SelectModel} {s : Select (List String)}
    (h : RendersSelect m s) (ht : table schema s.table = .ok t) {cond : Option Expr}
    (hread : readClause s.cond = some cond) (hcheck : conds.check t cond ≠ none)
    (nul : SelectNulFree m) :
    ∃ e, (condConnection env conds runtime moment).query d (.select m) = .error e := by
  obtain ⟨refusal, hrefusal⟩ := Option.ne_none_iff_exists'.mp hcheck
  rw [TextQueries.cond_query h hread nul]
  simp only [select, ht, bind, Except.bind, hrefusal, require]
  split
  · rename_i r hr
    split at hr
    · cases hr
    · cases hr
  · exact ⟨_, rfl⟩

/-! ## Conditions without an `or` -/

/-- Conditions that read as single conjuncts, joined. -/
lemma ofText_join {cs : List Column} {es : List Expr} (h : List.Forall₂ Atomic cs es)
    (hne : cs ≠ []) : SqlConditions.ofText (strJoin (cs.map Column.cond) " and ") = allOf es := by
  have hts : ∃ ts, List.Forall₂ (fun s t => SqlTokens.Lexes s.toList t) (cs.map Column.cond) ts ∧
      List.Forall₂ (fun t f => SqlConditions.parseFrame t = some f) ts
        (es.map (fun e => ⟨[], [e]⟩)) := by
    clear hne
    induction h with
    | nil => exact ⟨[], .nil, .nil⟩
    | cons hc hrest ih =>
      obtain ⟨t, hlex, hparse⟩ := hc
      obtain ⟨ts, hl, hp⟩ := ih
      exact ⟨t :: ts, .cons hlex hl, .cons hparse hp⟩
  obtain ⟨ts, hl, hp⟩ := hts
  have hnil : ts ≠ [] := by
    rintro rfl
    exact hne (List.map_eq_nil_iff.mp (List.eq_nil_of_length_eq_zero hl.length_eq))
  have hlex := WhereClauses.lexes_join WhereClauses.separates_and hl
  have hchain : (es.map (fun e => (⟨[], [e]⟩ : SqlConditions.Frame))).flatMap
      SqlConditions.Frame.chain = es := by
    rw [List.flatMap_map]
    exact List.flatMap_singleton' es
  rw [MemberConditions.ofText_eq hlex, SqlConditions.parse,
    ConditionJoins.parseFrame_join hp hnil, ConditionJoins.glueAll_single (by simp), hchain]
  rfl

lemma readClause_atomic {cs : List Column} {es : List Expr} (h : List.Forall₂ Atomic cs es) :
    readClause (cs.map Column.cond) = some (allOf es) := by
  by_cases hne : cs = []
  · subst hne
    cases h
    rfl
  · have hes : ∃ e, allOf es = some e := by
      cases h with
      | nil => exact absurd rfl hne
      | cons hc hrest => exact ⟨_, rfl⟩
    obtain ⟨e, he⟩ := hes
    rw [readClause, if_neg (by simpa using hne), ofText_join h hne, he, Option.map_some]

lemma check_allOf {es : List Expr} (h : ∀ e ∈ es, exprCheck env t e = .ok ()) :
    (textConds env).check t (allOf es) = none := by
  have hfold : ∀ (es : List Expr) (first : Expr), (∀ e ∈ es, exprCheck env t e = .ok ()) →
      exprCheck env t first = .ok () → exprCheck env t (es.foldl .and first) = .ok () := by
    intro es
    induction es with
    | nil => exact fun first _ hfirst => hfirst
    | cons e es ih =>
      intro first hes hfirst
      rw [List.forall_mem_cons] at hes
      refine ih (.and first e) hes.2 ?_
      rw [exprCheck, hfirst, hes.1]
      rfl
  cases es with
  | nil => rfl
  | cons e es =>
    rw [List.forall_mem_cons] at h
    change errorOf (exprCheck env t (es.foldl .and e)) = none
    rw [hfold es e h.2 h.1]
    rfl

lemma sqlReading_means {c : Column} {e : Expr} (h : Means c e) (table : String) (r : Row) :
    sqlReading table c.cond r = e.sat r := by
  rw [sqlReading, show SqlConditions.ofText c.cond = some e from h]

lemma all_reading {cs : List Column} {es : List Expr} (h : List.Forall₂ Atomic cs es)
    (table : String) (r : Row) :
    (cs.map Column.cond).all (fun c => sqlReading table c r) = es.all (fun e => e.sat r) := by
  induction h with
  | nil => rfl
  | cons hc hrest ih => rw [List.map_cons, List.all_cons, List.all_cons, ih,
      sqlReading_means hc.means]

lemma sat_allOf (es : List Expr) (r : Row) :
    (textConds env).sat t (allOf es) r = es.all (fun e => e.sat r) := by
  cases es with
  | nil => rfl
  | cons e es =>
    change (es.foldl Expr.and e).sat r = _
    rw [Bool.eq_iff_iff, SqlConditions.allOf_sat (g := e :: es) rfl, List.all_eq_true]
    rfl

lemma matches_atomic {filter : Filter} {es : List Expr}
    (h : List.Forall₂ Atomic (FilterConditions.conditions filter) es) (table : String) (r : Row) :
    Matches sqlReading table filter r = true ↔ ∀ e ∈ es, e.sat r = true := by
  rw [Matches, texts, all_reading h, List.all_eq_true]

/-- The filter asks for rows that satisfy these conditions, in texts that the server reads so. -/
structure Asks (env : Env) (t : TableDef) (filter : Filter) (es : List Expr) : Prop where
  atomic : List.Forall₂ Atomic (FilterConditions.conditions filter) es
  checked : ∀ e ∈ es, exprCheck env t e = .ok ()
  nulFree : ∀ text ∈ texts filter, NulFree text

lemma Asks.query {filter : Filter} {es : List Expr} (h : Asks env t filter es) {m : SelectModel}
    {s : Select (List String)} (hm : RendersSelect m s) (ht : table schema s.table = .ok t)
    (hcond : s.cond = texts filter) (nul : SelectNulFree m) :
    (textConnection env runtime moment).query d (.select m) =
      (fieldConnection env runtime moment sqlReading).query d (.select m) := by
  have hread : readClause s.cond = some (allOf es) := by
    rw [hcond]
    exact readClause_atomic h.atomic
  refine text_field hm ht hread (check_allOf h.checked) (fun r => ?_) nul
  rw [hcond, texts, all_reading h.atomic, sat_allOf]

/-! ## A page of devices -/

lemma nulFree_count {columns : List String} {table : String} (hc : ∀ c ∈ columns, NulFree c)
    (ht : NulFree table) {filter : Filter} (hf : ∀ text ∈ texts filter, NulFree text) :
    SelectNulFree (((filtered filter).select columns).from_ [table]) := by
  have hempty : NulFree "" := List.not_mem_nil
  have hnone : ∀ text ∈ ([] : List String), NulFree text := fun _ h => absurd h List.not_mem_nil
  rw [filtered_eq]
  exact ⟨hc, ht, hempty, hempty, hnone, hf, hnone, hnone, hempty, hempty, hempty⟩

lemma check_items {name : String} {c : ColumnDef} (hc : column t name = .ok c)
    (htype : c.type = .int4) (ids : List Int) :
    exprCheck env t (.isIn false (.col name) (ids.map (fun n => .num (toString n)))) = .ok () := by
  rw [exprCheck]
  induction ids with
  | nil => rfl
  | cons n ids ih =>
    change (exprCheck env t (.cmp .eq (.col name) (.num (toString n))) >>= fun _ => _) = _
    rw [TextQueries.check_number hc htype n]
    exact ih

variable (env) in
/-- A condition of membership is read and checked. -/
lemma member_checked (name : ColumnName) {c : ColumnDef} (hc : column t name.text = .ok c)
    (htype : c.type = .int4) {ids : List Int} (hids : ids ≠ []) :
    ∃ e, SqlConditions.ofText (memberOf name.text ids) = some e ∧ exprCheck env t e = .ok () := by
  match ids with
  | [] => exact absurd rfl hids
  | [n] => exact ⟨_, MemberConditions.ofText_single name n, TextQueries.check_number hc htype n⟩
  | m :: n :: rest =>
    exact ⟨_, MemberConditions.ofText_listed name MemberConditions.separates_in hids,
      check_items hc htype (m :: n :: rest)⟩

lemma nulFree_member {name : String} (hname : NulFree name) (ids : List Int) :
    NulFree (memberOf name ids) := by
  have hitems : ∀ ids : List Int, NulFree (strValJoin (ids.map .long) ", ") := by
    intro ids
    refine nulFree_join (fun text htext => ?_) (by decide)
    obtain ⟨v, hv, rfl⟩ := List.mem_map.mp htext
    obtain ⟨n, -, rfl⟩ := List.mem_map.mp hv
    exact nulFree_int n
  match ids with
  | [] => exact hname.append ((NulFree.append (by decide) (hitems [])).append (by decide))
  | [n] => exact hname.append (NulFree.append (by decide) (nulFree_int n))
  | m :: n :: rest =>
    exact hname.append ((NulFree.append (by decide) (hitems (m :: n :: rest))).append (by decide))

lemma configuration_text {ids : List Int} (hids : ids ≠ []) :
    (textConnection env runtime moment).query d
        (.select (DeviceRepository.selectConfiguration ids)) =
      (fieldConnection env runtime moment sqlReading).query d
        (.select (DeviceRepository.selectConfiguration ids)) := by
  obtain ⟨e, he, hcheck⟩ := member_checked env (t := RegistrySchema.deviceConfiguration)
    deviceIdColumn rfl rfl hids
  have hname : deviceIdColumn.text = "device_id" := rfl
  rw [hname] at he
  have hread : readClause [memberOf "device_id" ids] = some (some e) :=
    TextQueries.readClause_single (c := (Column.of "device_id").in_ (ids.map .long)) he
  refine text_field (t := RegistrySchema.deviceConfiguration) (renders_configuration ids) rfl
    hread ?_ (fun r => ?_)
    (nulFree_plain (by decide) (by decide) (nulFree_member (by decide) ids))
  · change errorOf (exprCheck env _ e) = none
    rw [hcheck]
    rfl
  · change e.sat r = (sqlReading _ (memberOf "device_id" ids) r && true)
    rw [Bool.and_true, sqlReading, he]

variable {filter : Filter} {es : List Expr}

/-- The text server and the one that reads the conditions one by one give the same page. -/
theorem findAll_text (h : Asks env RegistrySchema.device filter es) (page : PageRequest) :
    DeviceRepository.findAll (textConnection env runtime moment) (fun _ => d) filter page =
      DeviceRepository.findAll (fieldConnection env runtime moment sqlReading) (fun _ => d) filter
        page := by
  have hdata : (textConnection env runtime moment).query d
        (.select (DeviceRepository.selectData filter page)) =
      (fieldConnection env runtime moment sqlReading).query d
        (.select (DeviceRepository.selectData filter page)) :=
    h.query (renders_device_page filter page) rfl rfl
      (nulFree_page (by decide) (by decide) (by decide) h.nulFree page)
  have hcount : (textConnection env runtime moment).query d
        (.select (DeviceRepository.selectCount filter)) =
      (fieldConnection env runtime moment sqlReading).query d
        (.select (DeviceRepository.selectCount filter)) :=
    h.query (renders_device_count filter) rfl rfl (nulFree_count (by decide) (by decide) h.nulFree)
  exact device_findAll_congr rfl hdata (fun ids hids => configuration_text hids) hcount

variable (runtime moment d) in
/-- What `findAll` gives for any page of devices when the server parses the texts. -/
theorem serves_text (h : Asks env RegistrySchema.device filter es) :
    Serves DeviceRepository.repository (textConnection env runtime moment) d filter
      (fun page => pageRows sqlReading "device" filter false page (d.rows "device"))
      ((d.rows "device").filter (Matches sqlReading "device" filter)).length
      (DeviceReadable env runtime d) (DeviceShows env runtime) := by
  have hsame : ∀ page, DeviceRepository.repository.findAll (textConnection env runtime moment)
        (fun _ => d) filter page =
      DeviceRepository.repository.findAll (fieldConnection env runtime moment
        (ownReading sqlReading "device")) (fun _ => d) filter page := by
    rw [ownReading_sql]
    exact findAll_text h
  have hserves := @serves_device env runtime moment sqlReading d filter
  rw [ownReading_sql] at hserves hsame
  exact ⟨fun page => hsame page ▸ hserves.ok_iff page,
    fun page => hsame page ▸ hserves.data page, fun page => hsame page ▸ hserves.total page⟩

end

end TextPages
