import RpiRobot.FieldQueries
import RpiRobot.SecondSelects

/-!
# Lookups through the text

What the repositories read when the server parses the rendered statement and the
filter is one equality on a unique column: the row that has the value, or nothing.
-/

namespace TextQueries

open SqlConditions (Expr Row Operand)
open SqlBuilder SqlTables SqlServers SqlStatements BuilderStatements
open StringLiterals (QuoteFree)
open RequestParams DomainObjects Repositories RepositoryStatements FieldQueries
open RowDecoding SecondSelects ListResults
open WhereClauses (Means)
open FilterConditions (nulFree_name nulFree_compare)
open RegistrySchema (schema)

-- Without this the unifier tries to parse the text of a statement.
attribute [local irreducible] textServer condServer

/-! Equalities as the server reads them. -/

/-- The filter asks for the rows whose column has the key. -/
structure Looks (env : Env) (t : TableDef) (d : Database schema) (filter : Filter)
    (column : String) (k : Key) : Prop where
  reads : ∃ c e, texts filter = [Column.cond c] ∧ Means c e ∧ NulFree c.cond ∧
    exprCheck env t e = .ok () ∧
    ∀ r ∈ d.rows t.name, e.sat r = true ↔ keyOf (r column) = some k

section
variable {env : Env} {runtime : Runtime} {moment : Moment} {d : Database schema} {t : TableDef}

lemma check_number {name : String} {c : ColumnDef} (hc : column t name = .ok c)
    (htype : c.type = .int4) (n : Int) :
    exprCheck env t (.cmp .eq (.col name) (.num (toString n))) = .ok () := by
  simp only [exprCheck, compareCheck, kindOf, hc, Except.map, htype, columnKind, bind, Except.bind]
  rfl

lemma check_text {name : String} {c : ColumnDef} (hc : column t name = .ok c)
    {k : Nat} (htype : c.type = .varchar k) (s : String) :
    exprCheck env t (.cmp .eq (.col name) (.str s)) = .ok () := by
  simp only [exprCheck, compareCheck, kindOf, hc, Except.map, htype, columnKind, bind, Except.bind]
  rfl

lemma number_sat (name : String) (n : Int) (r : Row) :
    (Expr.cmp .eq (.col name) (.num (toString n))).sat r = true ↔ r name = .int n := by
  rw [MemberConditions.eq_sat, MemberConditions.IsMember]
  simp

lemma text_sat {name : String} {r : Row} (h : TextValue (r name)) (s : String) :
    (Expr.cmp .eq (.col name) (.str s)).sat r = true ↔ r name = .text s := by
  obtain ⟨u, hu⟩ := h
  rw [hu, Expr.sat, beq_iff_eq, Expr.eval]
  simp only [Operand.scalar, hu, SqlConditions.compareScalars, Option.map_some, Option.some.injEq,
    SqlConditions.Value.text.injEq]
  exact (SqlConditions.holds_eq _).trans (SqlConditions.ordering_eq_iff u s)

/-- A filter of one number on an integer column. -/
lemma looks_number (name : ColumnName) {c : ColumnDef} (hc : column t name.text = .ok c)
    (htype : c.type = .int4) {n : Int}
    (hn : DecimalText.intMin ≤ n ∧ n ≤ DecimalText.intMax) :
    Looks env t d (Filter.create.add name.text .opEq (.integral n)) name.text (.int n) := by
  have hlong : toLong n = n := by
    rw [DecimalText.intMin, DecimalText.intMax] at hn
    exact Int.bmod_eq_of_le (by omega) (by omega)
  have hmeans := (WhereClauses.atomic_compare name .eq (d := .long n) rfl trivial).means
  refine ⟨_, _, ?_, hmeans, nulFree_compare name .eq (v := .long n) (nulFree_int n),
    check_number hc htype n, fun r _ => ?_⟩
  · change [((Column.of name.text).eq (.long (toLong n))).cond] = _
    rw [hlong]
    rfl
  · rw [keyOf_int]
    exact number_sat name.text n r

/-- A filter of one quote-free string on a text column. -/
lemma looks_text (name : ColumnName) {c : ColumnDef} (hc : column t name.text = .ok c) {k : Nat}
    (htype : c.type = .varchar k) {s : String}
    (hs : QuoteFree s.toList) (hnul : NulFree s)
    (hvalue : ∀ r ∈ d.rows t.name, TextValue (r name.text)) :
    Looks env t d (Filter.create.add name.text .opEq (.string s)) name.text (.text s) := by
  have hmeans := (WhereClauses.atomic_compare name .eq (d := .string s) rfl hs).means
  have hquoted : NulFree (toValue (.string s)) :=
    NulFree.append (NulFree.append (by decide) hnul) (by decide)
  refine ⟨_, _, rfl, hmeans, nulFree_compare name .eq hquoted, check_text hc htype s,
    fun r hr => ?_⟩
  rw [keyOf_text]
  exact text_sat (hvalue r hr) s

/-! Selects. -/

/-- A select with one readable condition. -/
lemma cond_query {conds : Conds (Option Expr)} {m : SelectModel} {s : Select (List String)}
    (h : RendersSelect m s) {cond : Option Expr} (hc : readClause s.cond = some cond)
    (nul : SelectNulFree m) :
    (condConnection env conds runtime moment).query d (.select m) =
      match select conds d { s with cond := cond } with
      | .ok r => .ok (received env r)
      | .error e => .error (.sql e) := by
  have hnul : NulFree (SqlModel.select m).str := by
    rw [SqlModel.str]
    exact nulFree_select nul
  have hclause :
      (Statement.select s).mapCond readClause = some (.select { s with cond := cond }) := by
    rw [Statement.mapCond, hc, Option.map_some]
  have hserver : (condConnection env conds runtime moment).server d (.select m) =
      exec env moment conds d (.select { s with cond := cond }) := by
    rw [condConnection_server, condServer_eq (Renders.select h) hclause hnul]
  rw [Connection.query, hserver, exec]
  rfl

lemma text_query {m : SelectModel} {s : Select (List String)} (h : RendersSelect m s)
    {cond : Option Expr} (hc : readClause s.cond = some cond) (nul : SelectNulFree m) :
    (textConnection env runtime moment).query d (.select m) =
      match select (textConds env) d { s with cond := cond } with
      | .ok r => .ok (received env r)
      | .error e => .error (.sql e) := by
  rw [condConnection_text]
  exact cond_query h hc nul

lemma readClause_single {c : Column} {e : Expr} (h : Means c e) :
    readClause [c.cond] = some (some e) := by
  rw [readClause, if_neg (by simp)]
  change (SqlConditions.ofText c.cond).map some = _
  rw [show SqlConditions.ofText c.cond = some e from h, Option.map_some]

/-- The rows that have the key. -/
def rowsWith (column : String) (k : Key) (rows : List Row) : List Row :=
  rows.filter (fun r => decide (keyOf (r column) = some k))

/-- The one-row page of a lookup. -/
lemma lookup_page (l : Listing) {filter : Filter} {column : String} {k : Key}
    (h : Looks env l.own d filter column k) :
    (textConnection env runtime moment).query d
        (.select (l.selectData filter (PageRequest.of 0 1 false))) =
      .ok ((window (some 1) (some 0) (sortRows (some ⟨"id", l.descending⟩)
        (rowsWith column k (d.rows l.own.name)))).map (receivedRow env l.columns)) := by
  obtain ⟨c, e, htexts, hmeans, hnul, hcheck, hsat⟩ := h.reads
  obtain ⟨defs, hdefs⟩ := l.readable
  have hclause : readClause (texts filter) = some (some e) := by
    rw [htexts]
    exact readClause_single hmeans
  have hfree : ∀ t ∈ texts filter, NulFree t := by
    rw [htexts]
    exact List.forall_mem_singleton.mpr hnul
  have hrows : (d.rows l.own.name).filter ((textConds env).sat l.own (some e)) =
      rowsWith column k (d.rows l.own.name) := by
    refine List.filter_congr (fun r hr => ?_)
    change e.sat r = _
    rw [Bool.eq_iff_iff, decide_eq_true_iff]
    exact hsat r hr
  have hsel := select_columns (textConds env) (d := d)
    (s := ⟨.columns l.columns, l.own.name, some e, some ⟨"id", l.descending⟩, some 1, some 0⟩)
    rfl l.found hdefs (by change errorOf (exprCheck env l.own e) = none; rw [hcheck]; rfl) rfl rfl
  rw [text_query (l.data filter (PageRequest.of 0 1 false)) hclause
    (l.nulFree filter (PageRequest.of 0 1 false) hfree)]
  change (match select (textConds env) d ⟨.columns l.columns, l.own.name, some e,
    some ⟨"id", l.descending⟩, some 1, some 0⟩ with
    | .ok r => Except.ok (received env r)
    | .error e => Except.error (Exception.sql e)) = _
  rw [hsel]
  change Except.ok (received env ⟨l.columns, (window (some 1) (some 0)
    (sortRows (some ⟨"id", l.descending⟩) ((d.rows l.own.name).filter
      ((textConds env).sat l.own (some e))))).map (fun r => l.columns.map r)⟩) = _
  rw [hrows, received_rows]

lemma rowsWith_found {rows : List Row} {column : String} (hnodup : (keys column rows).Nodup)
    {r : Row} (hr : r ∈ rows) {k : Key} (hk : keyOf (r column) = some k) :
    rowsWith column k rows = [r] := by
  have hdiffer := keys_differ hnodup
  clear hnodup
  induction rows with
  | nil => exact absurd hr List.not_mem_nil
  | cons a rows ih =>
    rw [List.pairwise_cons] at hdiffer
    rw [rowsWith, List.filter_cons]
    rcases List.mem_cons.mp hr with rfl | hrest
    · have hnone : rowsWith column k rows = [] := by
        rw [rowsWith, List.filter_eq_nil_iff]
        exact fun s hs => by simpa using hdiffer.1 s hs k hk
      rw [if_pos (by simpa using hk)]
      exact congrArg _ hnone
    · rw [if_neg (by simpa using fun ha => hdiffer.1 r hrest k ha hk)]
      exact ih hrest hdiffer.2

/-- The lookup of a key that a row has in a unique column. -/
lemma lookup_found (l : Listing) {filter : Filter} {column : String} {k : Key}
    (h : Looks env l.own d filter column k) (hu : column ∈ l.own.unique) {r : Row}
    (hr : r ∈ d.rows l.own.name) (hk : keyOf (r column) = some k) :
    (textConnection env runtime moment).query d
        (.select (l.selectData filter (PageRequest.of 0 1 false))) =
      .ok [receivedRow env l.columns r] := by
  rw [lookup_page l h, rowsWith_found ((d.consistent l.own l.mem).unique column hu) hr hk]
  cases l.descending <;> rfl

lemma lookup_missing (l : Listing) {filter : Filter} {column : String} {k : Key}
    (h : Looks env l.own d filter column k)
    (hnone : ∀ r ∈ d.rows l.own.name, keyOf (r column) ≠ some k) :
    (textConnection env runtime moment).query d
        (.select (l.selectData filter (PageRequest.of 0 1 false))) = .ok [] := by
  have hrows : rowsWith column k (d.rows l.own.name) = [] := by
    rw [rowsWith, List.filter_eq_nil_iff]
    exact fun r hr => by simpa using hnone r hr
  rw [lookup_page l h, hrows]
  cases l.descending <;> rfl

/-- The membership select of a single id. -/
lemma answers_single {m : SelectModel} {columns : List String} {t : TableDef}
    (name : ColumnName) {c : ColumnDef}
    (hcol : column t name.text = .ok c) (htype : c.type = .int4) {n : Int}
    (h : RendersSelect m (plainSelect columns t.name [memberOf name.text [n]]))
    (hfree : NulFree (memberOf name.text [n]) → SelectNulFree m)
    (ht : table schema t.name = .ok t) {defs : List ColumnDef}
    (hc : columns.mapM (column t) = .ok defs) :
    Answers (textConnection env runtime moment) d m columns t.name [n] name.text := by
  have hmeans : Means ((Column.of name.text).in_ [.long n])
      (.cmp .eq (.col name.text) (.num (toString n))) := MemberConditions.ofText_single name n
  have hnul : NulFree (memberOf name.text [n]) := by
    change NulFree (name.text ++ (" = " ++ toString n))
    exact (nulFree_name name).append (NulFree.append (by decide) (nulFree_int n))
  have hsel := select_columns (textConds env) (d := d)
    (s := ⟨.columns columns, t.name, some (.cmp .eq (.col name.text) (.num (toString n))), none,
      none, none⟩) rfl ht (by rw [Option.map_none, Option.toList_none, List.append_nil, hc])
    (by
      change errorOf (exprCheck env t _) = none
      rw [check_number hcol htype n]
      rfl) rfl rfl
  have hrows : (d.rows t.name).filter (fun s =>
      (Expr.cmp .eq (.col name.text) (.num (toString n))).sat s) =
      memberRows (d.rows t.name) [n] name.text := by
    refine List.filter_congr fun s _ => ?_
    rw [Bool.eq_iff_iff, MemberConditions.eq_sat, decide_eq_true_iff]
  rw [Answers, text_query h (readClause_single hmeans) (hfree hnul)]
  change (match select (textConds env) d ⟨.columns columns, t.name,
    some (.cmp .eq (.col name.text) (.num (toString n))), none, none, none⟩ with
    | .ok r => Except.ok (received env r)
    | .error e => Except.error (Exception.sql e)) = _
  rw [hsel]
  change Except.ok (received env ⟨columns, ((d.rows t.name).filter (fun s =>
    (Expr.cmp .eq (.col name.text) (.num (toString n))).sat s)).map (fun r => columns.map r)⟩) = _
  rw [received_rows, hrows]
  rfl

lemma answers_configuration (n : Int) :
    Answers (textConnection env runtime moment) d (DeviceRepository.selectConfiguration [n])
      configurationColumns "device_configuration" [n] "device_id" :=
  answers_single (t := RegistrySchema.deviceConfiguration) deviceIdColumn
    rfl rfl (renders_configuration [n]) (nulFree_plain (by decide) (by decide)) rfl rfl

lemma answers_device (n : Int) :
    Answers (textConnection env runtime moment) d (DeviceTelemetryRepository.selectDevices [n])
      refColumns "device" [n] "id" :=
  answers_single (t := RegistrySchema.device) FilterConditions.idColumn rfl rfl
    (renders_devices [n]) (nulFree_plain (by decide) (by decide)) rfl rfl

end

/-! One record. -/

section
variable {c : Connection} {d : Nat → Database schema} {filter : Filter}

lemma findOne_eq_ok {T : Type} {repository : Repository T} {x : Option T} :
    repository.findOne c d filter = .ok x ↔
      ∃ result, repository.findAll c d filter (PageRequest.of 0 1 false) = .ok result ∧
        result.data.head? = x := by
  rw [Repository.findOne, bind_eq_ok]
  exact exists_congr (fun result => and_congr_right' ⟨Except.ok.inj, fun h => h ▸ rfl⟩)

/-- The one-row page asks for no total. -/
lemma total_single {d : Database schema} {m : SelectModel} {n : Nat} :
    total c d (PageRequest.of 0 1 false) m = .ok n ↔ n = 0 := by
  change Except.ok 0 = Except.ok n ↔ n = 0
  rw [Except.ok.injEq, eq_comm]

lemma mapM_single {T : Type} {decode : PqRow → Outcome T} {row : PqRow} {data : List T} :
    [row].mapM decode = .ok data ↔ ∃ o, decode row = .ok o ∧ data = [o] := by
  rw [mapM_ok_iff, List.forall₂_cons_left_iff]
  simp only [List.forall₂_nil_left_iff]
  constructor
  · rintro ⟨o, _, ho, rfl, rfl⟩
    exact ⟨o, ho, rfl⟩
  · rintro ⟨o, ho, rfl⟩
    exact ⟨o, [], ho, rfl, rfl⟩

lemma registry_findOne_iff {x : Option RegistryDo} :
    RegistryRepository.repository.findOne c d filter = .ok x ↔
      ∃ rows, c.query (d 0) (.select (RegistryRepository.selectData filter
          (PageRequest.of 0 1 false))) = .ok rows ∧
        ∃ data, rows.mapM (RegistryRepository.decode c.runtime) = .ok data ∧ data.head? = x := by
  rw [findOne_eq_ok]
  constructor
  · rintro ⟨result, hfind, hx⟩
    obtain ⟨rows, hrows, hdata, _⟩ := registry_findAll_iff.mp
      (show RegistryRepository.findAll c d filter (PageRequest.of 0 1 false) = _ from hfind)
    exact ⟨rows, hrows, _, hdata, hx⟩
  · rintro ⟨rows, hrows, data, hdata, hx⟩
    exact ⟨⟨data, 0⟩, registry_findAll_iff.mpr ⟨rows, hrows, hdata, total_single.mpr rfl⟩, hx⟩

lemma device_findOne_iff {x : Option DeviceDo} :
    DeviceRepository.repository.findOne c d filter = .ok x ↔
      ∃ rows, c.query (d 0) (.select (DeviceRepository.selectData filter
          (PageRequest.of 0 1 false))) = .ok rows ∧
        ∃ found, rows.mapM (DeviceRepository.decode c.runtime) = .ok found ∧
        ∃ data, DeviceRepository.configured c (d 1) (found.map DeviceDo.id) found = .ok data ∧
          data.head? = x := by
  rw [findOne_eq_ok]
  constructor
  · rintro ⟨result, hfind, hx⟩
    obtain ⟨rows, hrows, found, hfound, hdata, _⟩ := device_findAll_iff.mp
      (show DeviceRepository.findAll c d filter (PageRequest.of 0 1 false) = _ from hfind)
    exact ⟨rows, hrows, found, hfound, _, hdata, hx⟩
  · rintro ⟨rows, hrows, found, hfound, data, hdata, hx⟩
    exact ⟨⟨data, 0⟩, device_findAll_iff.mpr ⟨rows, hrows, found, hfound, hdata,
      total_single.mpr rfl⟩, hx⟩

lemma telemetry_findOne_iff {x : Option DeviceTelemetryDo} :
    DeviceTelemetryRepository.repository.findOne c d filter = .ok x ↔
      ∃ rows, c.query (d 0) (.select (DeviceTelemetryRepository.selectData filter
          (PageRequest.of 0 1 false))) = .ok rows ∧
        ∃ found, rows.mapM (DeviceTelemetryRepository.decode c.runtime) = .ok found ∧
        ∃ data, DeviceTelemetryRepository.referred c (d 1)
          (c.runtime.iterate (found.map DeviceTelemetryDo.deviceId)) found = .ok data ∧
          data.head? = x := by
  rw [findOne_eq_ok]
  constructor
  · rintro ⟨result, hfind, hx⟩
    obtain ⟨rows, hrows, found, hfound, hdata, _⟩ := telemetry_findAll_iff.mp
      (show DeviceTelemetryRepository.findAll c d filter (PageRequest.of 0 1 false) = _ from hfind)
    exact ⟨rows, hrows, found, hfound, _, hdata, hx⟩
  · rintro ⟨rows, hrows, found, hfound, data, hdata, hx⟩
    exact ⟨⟨data, 0⟩, telemetry_findAll_iff.mpr ⟨rows, hrows, found, hfound, hdata,
      total_single.mpr rfl⟩, hx⟩

end

section
variable {env : Env} {runtime : Runtime} {moment : Moment} {d : Database schema}
  {filter : Filter} {column : String} {k : Key} {r : Row}

theorem registry_findOne (h : Looks env RegistrySchema.registry d filter column k)
    (hu : column ∈ RegistrySchema.registry.unique) (hr : r ∈ d.rows "registry")
    (hk : keyOf (r column) = some k) (x : Option RegistryDo) :
    RegistryRepository.repository.findOne (textConnection env runtime moment) (fun _ => d) filter =
        .ok x ↔ ∃ o, x = some o ∧ RegistryShows env runtime o r := by
  have hq : (textConnection env runtime moment).query d (.select (RegistryRepository.selectData
      filter (PageRequest.of 0 1 false))) = .ok [receivedRow env registryColumns r] :=
    lookup_found registryListing h hu hr hk
  rw [registry_findOne_iff]
  constructor
  · rintro ⟨rows, hrows, data, hdata, rfl⟩
    obtain rfl := Except.ok.inj (hq.symm.trans hrows)
    obtain ⟨o, ho, rfl⟩ := mapM_single.mp hdata
    exact ⟨o, rfl, (registry_decode d.consistent hr o).mp ho⟩
  · rintro ⟨o, rfl, ho⟩
    exact ⟨_, hq, [o], mapM_single.mpr ⟨o, (registry_decode d.consistent hr o).mpr ho, rfl⟩, rfl⟩

variable (env runtime moment) in
theorem device_findOne (h : Looks env RegistrySchema.device d filter column k)
    (hu : column ∈ RegistrySchema.device.unique) (hr : r ∈ d.rows "device")
    (hk : keyOf (r column) = some k) (hreadable : DeviceReadable env runtime d r) :
    ∃ o, DeviceRepository.repository.findOne (textConnection env runtime moment) (fun _ => d)
      filter = .ok (some o) ∧ DeviceShows env runtime o r := by
  have hq : (textConnection env runtime moment).query d (.select (DeviceRepository.selectData
      filter (PageRequest.of 0 1 false))) = .ok [receivedRow env deviceColumns r] :=
    lookup_found deviceListing h hu hr hk
  obtain ⟨o, ho⟩ := (device_decode_iff _ runtime d.consistent hr).mpr hreadable.1
  have hshows := ((device_decode d.consistent hr o).mp ho).1
  obtain ⟨hiff, hbare⟩ := configured_spec (c := textConnection env runtime moment) (d := d) [o]
    (fun _ => answers_configuration o.id)
  obtain ⟨data, hdata⟩ := hiff.mpr (fun s hs hm => hreadable.2 s hs (by
    obtain ⟨n, hn, hsn⟩ := hm
    rw [hsn, List.mem_singleton.mp hn, hshows.id]))
  obtain ⟨o', rfl, hsame⟩ := List.map_eq_singleton_iff.mp (hbare data hdata)
  refine ⟨o', device_findOne_iff.mpr ⟨_, hq, [o], mapM_single.mpr ⟨o, ho, rfl⟩, [o'], hdata, rfl⟩,
    ?_⟩
  rw [← shows_bare, hsame, shows_bare]
  exact hshows

variable (env runtime moment) in
theorem device_findOne_missing (h : Looks env RegistrySchema.device d filter column k)
    (hnone : ∀ r ∈ d.rows "device", keyOf (r column) ≠ some k) :
    DeviceRepository.repository.findOne (textConnection env runtime moment) (fun _ => d) filter =
      .ok none := by
  have hq : (textConnection env runtime moment).query d (.select (DeviceRepository.selectData
      filter (PageRequest.of 0 1 false))) = .ok [] := lookup_missing deviceListing h hnone
  exact device_findOne_iff.mpr ⟨[], hq, [], rfl, [], rfl, rfl⟩

lemma iterate_single (n : Int) : runtime.iterate [n] = [n] := by
  have hperm := runtime.iterate_perm [n]
  rw [List.dedup_cons_of_notMem List.not_mem_nil, List.dedup_nil] at hperm
  exact List.perm_singleton.mp hperm

variable (env runtime moment) in
/-- A found record needs the device it refers to to be readable, too. -/
theorem telemetry_findOne (h : Looks env RegistrySchema.deviceTelemetry d filter column k)
    (hu : column ∈ RegistrySchema.deviceTelemetry.unique) (hr : r ∈ d.rows "device_telemetry")
    (hk : keyOf (r column) = some k) :
    ((∃ x, DeviceTelemetryRepository.repository.findOne (textConnection env runtime moment)
        (fun _ => d) filter = .ok x) ↔ TelemetryReadable env runtime d r) ∧
    ∀ x, DeviceTelemetryRepository.repository.findOne (textConnection env runtime moment)
        (fun _ => d) filter = .ok x → ∃ o, x = some o ∧ TelemetryShows env runtime o r := by
  have hq : (textConnection env runtime moment).query d (.select
      (DeviceTelemetryRepository.selectData filter (PageRequest.of 0 1 false))) =
      .ok [receivedRow env telemetryColumns r] := lookup_found telemetryListing h hu hr hk
  have hspec := fun o : DeviceTelemetryDo => referred_spec (c := textConnection env runtime moment)
    (d := d) [o] (by
      change runtime.iterate [o.deviceId] ≠ [] → Answers _ _
        (DeviceTelemetryRepository.selectDevices (runtime.iterate [o.deviceId])) _ _
        (runtime.iterate [o.deviceId]) _
      rw [iterate_single]
      exact fun _ => answers_device o.deviceId)
  have hmember : ∀ o : DeviceTelemetryDo, TelemetryShows env runtime o r → ∀ s : Row,
      MemberConditions.IsMember [o.deviceId] s "id" ↔ s "id" = r "device_id" := by
    intro o ho s
    rw [MemberConditions.IsMember, ho.deviceId]
    simp
  constructor
  · constructor
    · rintro ⟨x, hx⟩
      obtain ⟨rows, hrows, found, hfound, data, hdata, _⟩ := telemetry_findOne_iff.mp hx
      obtain rfl := Except.ok.inj (hq.symm.trans hrows)
      obtain ⟨o, ho, rfl⟩ := mapM_single.mp hfound
      have hshows := ((telemetry_decode d.consistent hr o).mp ho).1
      exact ⟨⟨_, hshows.jsonData⟩, fun s hs hsr =>
        (hspec o).1.mp ⟨data, hdata⟩ s hs ((hmember o hshows s).mpr hsr)⟩
    · rintro ⟨hjson, href⟩
      obtain ⟨o, ho⟩ := (telemetry_decode_iff _ runtime d.consistent hr).mpr hjson
      have hshows := ((telemetry_decode d.consistent hr o).mp ho).1
      obtain ⟨data, hdata⟩ := (hspec o).1.mpr
        (fun s hs hm => href s hs ((hmember o hshows s).mp hm))
      exact ⟨_, telemetry_findOne_iff.mpr ⟨_, hq, [o], mapM_single.mpr ⟨o, ho, rfl⟩, data, hdata,
        rfl⟩⟩
  · rintro x hx
    obtain ⟨rows, hrows, found, hfound, data, hdata, rfl⟩ := telemetry_findOne_iff.mp hx
    obtain rfl := Except.ok.inj (hq.symm.trans hrows)
    obtain ⟨o, ho, rfl⟩ := mapM_single.mp hfound
    have hshows := ((telemetry_decode d.consistent hr o).mp ho).1
    obtain ⟨o', rfl, hsame⟩ := List.map_eq_singleton_iff.mp ((hspec o).2 data hdata)
    refine ⟨o', rfl, ?_⟩
    rw [← shows_unreferred, hsame, shows_unreferred]
    exact hshows

end

end TextQueries
