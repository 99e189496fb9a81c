import RpiRobot.TextQueries

/-!
# Writes through the text

What an insert and an update do when the server parses the rendered statement: the
rows afterwards, if the schema still holds for them.
-/

namespace TextWrites

open SqlConditions (Expr Row Value)
open SqlTokens (Token Opens)
open StringLiterals (QuoteFree)
open SqlBuilder SqlTables SqlServers SqlStatements BuilderStatements
open Repositories RepositoryStatements FieldQueries
open ListResults (bind_eq_ok)
open TextQueries (readClause_single check_number number_sat)
open WhereClauses (Means)
open RegistrySchema (schema)

-- Without this the unifier tries to parse the text of a statement.
attribute [local irreducible] textServer

/-- The JSON value that the client dumps is stored, and parsed again it is the same. -/
def Stored (env : Env) (runtime : Runtime) (t : Json) : Prop :=
  ∃ j, env.jsonbIn (runtime.dump t) = some j ∧ runtime.parse (env.jsonbOut j) = some t

/-- The text of the insert assigns the values and leaves the id to the sequence. -/
structure Assigns (env : Env) (moment : Moment) (t : TableDef) (m : InsertModel)
    (assigned : List (String × Value)) : Prop where
  reads : ∃ columns values, RendersInsert m t.name columns values ["id"] ∧
    columns.length = values.length ∧ columns.Nodup ∧ draws t columns = true ∧
    assignments env moment t (columns.zip values) = .ok assigned
  id : assigned.lookup "id" = none
  nulFree : NulFree m.str

section
variable {env : Env} {runtime : Runtime} {moment : Moment} {d d' : Database schema}
  {assigned : List (String × Value)}

/-- The row that an insert adds. -/
def addedRow (l : Listing) (moment : Moment) (d : Database schema)
    (assigned : List (String × Value)) : Row :=
  newRow moment l.own (d.serial l.own.name) assigned

/-- The rows of all tables after an insert. -/
def addedRows (l : Listing) (d : Database schema) (row : Row) : String → List Row :=
  Function.update d.rows l.own.name (d.rows l.own.name ++ [row])

variable (moment) in
lemma addedRow_id (l : Listing) (h : assigned.lookup "id" = none) :
    addedRow l moment d assigned "id" = .int (d.serial l.own.name) := by
  have hcol : l.own.column? "id" = some RegistrySchema.serialId := by
    have hid := l.id
    rw [column] at hid
    cases hc : l.own.column? "id" with
    | none => rw [hc] at hid; exact absurd hid (by simp [orError])
    | some c => rw [hc] at hid; exact congrArg some (Except.ok.inj hid)
  simp only [addedRow, newRow, h, hcol]
  rfl

lemma id_range (l : Listing) {row : Row} {n : Int} (hid : row "id" = .int n)
    (h : Consistent schema (addedRows l d row)) :
    DecimalText.intMin ≤ n ∧ n ≤ DecimalText.intMax := by
  obtain ⟨k, hk, hrange⟩ := int4_value h l.mem l.serialId (new_mem row) rfl rfl
  obtain rfl := SqlConditions.Value.int.inj (hid.symm.trans hk)
  exact hrange

/-- The insert of the text, by whether the id and the row are possible. -/
lemma exec_insert (l : Listing) {m : InsertModel} (h : Assigns env moment l.own m assigned) :
    (textConnection env runtime moment).server d (.insert m) =
      if DecimalText.intMax < d.serial l.own.name then (.error .sequenceExhausted, d)
      else changed (d.advance l.own.name) ⟨["id"], [[.int (d.serial l.own.name)]]⟩
        (store (d.advance l.own.name) l.own.name
          (d.rows l.own.name ++ [addedRow l moment d assigned])) := by
  obtain ⟨columns, values, hrenders, hl, hn, hd, ha⟩ := h.reads
  have hid := addedRow_id moment (d := d) l h.id
  rw [textConnection_server, textServer_eq (Renders.insert hrenders) rfl h.nulFree, exec,
    insert_eq l.found hl hn ha
      (by rw [List.mapM_cons, l.id]; rfl) hd, ← hid]
  rfl

variable (env runtime moment d') in
theorem inserted_iff (l : Listing) {m : InsertModel} (h : Assigns env moment l.own m assigned)
    (id : Int) :
    insertedId ((textConnection env runtime moment).work d (.insert m) true) = (.ok id, d') ↔
      id = d.serial l.own.name ∧ d.serial l.own.name ≤ DecimalText.intMax ∧
      ∃ hc : Consistent schema (addedRows l d (addedRow l moment d assigned)),
        d' = ⟨_, (d.advance l.own.name).serial, hc⟩ := by
  rw [Connection.work, exec_insert l h]
  by_cases hnext : DecimalText.intMax < d.serial l.own.name
  · rw [if_pos hnext]
    constructor
    · intro he
      have herror : (Except.error (.sql .sequenceExhausted) : Outcome Int) = .ok id :=
        congrArg Prod.fst he
      exact absurd herror (by simp)
    · rintro ⟨_, hle, _⟩
      exact absurd hnext (not_lt.mpr hle)
  · rw [if_neg hnext]
    by_cases hc : Consistent schema (addedRows l d (addedRow l moment d assigned))
    · have hstore : store (d.advance l.own.name) l.own.name
          (d.rows l.own.name ++ [addedRow l moment d assigned]) = _ :=
        store_ok (d := d.advance l.own.name) hc
      have hrange := id_range l (addedRow_id moment l h.id) hc
      have hread : asLong (fieldText env (.int (d.serial l.own.name))) =
          .ok (d.serial l.own.name) := (RowDecoding.asLong_iff ⟨_, rfl, hrange⟩ _).mpr rfl
      have hlong : asLong (some (toString (d.serial l.own.name))) = .ok (d.serial l.own.name) :=
        hread
      rw [hstore]
      change (asLong (some (toString (d.serial l.own.name))), _) = _ ↔ _
      rw [hlong, Prod.mk.injEq, Except.ok.injEq]
      constructor
      · rintro ⟨hid, hd⟩
        exact ⟨hid.symm, hrange.2, hc, hd.symm⟩
      · rintro ⟨hid, _, _, hd⟩
        exact ⟨hid.symm, hd.symm⟩
    · have hstore : store (d.advance l.own.name) l.own.name
          (d.rows l.own.name ++ [addedRow l moment d assigned]) = _ :=
        store_error (d := d.advance l.own.name) hc
      rw [hstore]
      constructor
      · intro he
        have herror : (Except.error (.sql .constraintViolation) : Outcome Int) = .ok id :=
          congrArg Prod.fst he
        exact absurd herror (by simp)
      · rintro ⟨_, _, hcons, _⟩
        exact absurd hcons hc

/-! Updates of the row with one id. -/

/-- The text of the update assigns the values to the row with the id. -/
structure Updates (t : TableDef) (m : UpdateModel) (sets : List (String × Source)) (id : Int) :
    Prop where
  renders : RendersUpdate m t.name sets
  clause : m.whereCondition = [((Column.of "id").eq (.long id)).cond]
  nulFree : NulFree m.str

def withId (id : Int) (assigned : List (String × Value)) (r : Row) : Row :=
  if r "id" = .int id then setColumns assigned r else r

/-- The rows of all tables after an update. -/
def updatedRows (l : Listing) (d : Database schema) (id : Int) (assigned : List (String × Value)) :
    String → List Row :=
  Function.update d.rows l.own.name ((d.rows l.own.name).map (withId id assigned))

lemma committed_iff {c : Connection} {m : SqlModel} :
    committed (c.work d m false) = (.ok (), d') ↔ ∃ r, c.server d m = (.ok r, d') := by
  rw [Connection.work]
  obtain ⟨res, after⟩ := c.server d m
  cases res with
  | error e => simp [committed, Except.map]
  | ok r => simp [committed, Except.map]

lemma changed_eq_ok {r r' : Result} {x : Except SqlError (Database schema)} :
    changed d r x = (.ok r', d') ↔ x = .ok d' ∧ r' = r := by
  cases x with
  | error e => simp [changed]
  | ok d'' => simp [changed, and_comm, eq_comm]

lemma exec_update (l : Listing) {m : UpdateModel} {sets : List (String × Source)} {id : Int}
    (h : Updates l.own m sets id) :
    (textConnection env runtime moment).server d (.update m) =
      changed d ⟨[], []⟩ (assignments env moment l.own sets >>= fun assigned =>
        store d l.own.name ((d.rows l.own.name).map (withId id assigned))) := by
  have hmeans :
      Means ((Column.of "id").eq (.long id)) (.cmp .eq (.col "id") (.num (toString id))) :=
    (WhereClauses.atomic_compare FilterConditions.idColumn .eq (d := .long id) rfl trivial).means
  have hclause : (Statement.update l.own.name sets m.whereCondition).mapCond readClause =
      some (.update l.own.name sets (some (.cmp .eq (.col "id") (.num (toString id))))) := by
    rw [Statement.mapCond, h.clause, readClause_single hmeans, Option.map_some]
  have hcheck : (textConds env).check l.own (some (.cmp .eq (.col "id") (.num (toString id)))) =
      none := by
    change errorOf (exprCheck env l.own _) = none
    rw [check_number l.id rfl id]
    rfl
  have hrow : ∀ assigned r, (if (textConds env).sat l.own
      (some (.cmp .eq (.col "id") (.num (toString id)))) r then setColumns assigned r else r) =
      withId id assigned r := by
    intro assigned r
    exact if_congr (number_sat "id" id r) rfl rfl
  rw [textConnection_server, textServer_eq (Renders.update h.renders) hclause h.nulFree, exec,
    update_eq l.found hcheck]
  simp only [hrow]

variable (env runtime moment d') in
theorem updated_iff (l : Listing) {m : UpdateModel} {sets : List (String × Source)} {id : Int}
    (h : Updates l.own m sets id) :
    committed ((textConnection env runtime moment).work d (.update m) false) = (.ok (), d') ↔
      ∃ assigned, List.Forall₂ (Assigned env moment l.own) sets assigned ∧
        ∃ hc : Consistent schema (updatedRows l d id assigned), d' = ⟨_, d.serial, hc⟩ := by
  rw [committed_iff, exec_update l h]
  constructor
  · rintro ⟨r, hr⟩
    obtain ⟨assigned, ha, hstore⟩ := bind_eq_ok.mp (changed_eq_ok.mp hr).1
    by_cases hc : Consistent schema (updatedRows l d id assigned)
    · rw [store_ok hc] at hstore
      exact ⟨assigned, assignments_iff.mp ha, hc, (Except.ok.inj hstore).symm⟩
    · rw [store_error hc] at hstore
      exact absurd hstore (by simp)
  · rintro ⟨assigned, ha, hc, rfl⟩
    exact ⟨_, changed_eq_ok.mpr
      ⟨bind_eq_ok.mpr ⟨assigned, assignments_iff.mpr ha, store_ok hc⟩, rfl⟩⟩

end

/-- A text that starts with `update` is no other statement. -/
lemma parse_update_text (rest : String) {s : Statement (Option Expr)}
    (h : parse (cString ("update " ++ rest)) = some s) :
    ∃ table sets cond, s = .update table sets cond := by
  obtain ⟨tokens, hlex, hparse⟩ := Option.bind_eq_some_iff.mp h
  have hopen : SqlTokens.run SqlTokens.start "update ".toList = ⟨[.word "update"], .gap⟩ := by
    decide
  rw [cString_append (by decide), SqlTokens.lex, String.toList_append, SqlTokens.run_append, hopen]
    at hlex
  obtain ⟨ts, rfl⟩ := (SqlTokens.done_prefix_run _ _).trans (SqlTokens.done_prefix_finish hlex)
  have hupdate : parseUpdate ts = some s := hparse
  unfold parseUpdate at hupdate
  split at hupdate
  · simp only [Option.bind_eq_bind, Option.bind_eq_some_iff, Option.pure_def,
      Option.some.injEq] at hupdate
    obtain ⟨sets, _, cond, _, rfl⟩ := hupdate
    exact ⟨_, sets, cond, rfl⟩
  · exact absurd hupdate (by simp)

section
variable {env : Env} {runtime : Runtime} {moment : Moment} {d : Database schema}

/-- An update returns no rows, so demanding one row always throws. -/
theorem update_one_fails (m : UpdateModel) :
    (committed ((textConnection env runtime moment).work d (.update m) true)).1 ≠ .ok () := by
  have hempty : ∀ r, ((textConnection env runtime moment).server d (.update m)).1 = .ok r →
      r.rows = [] := by
    intro r
    rw [textConnection_server, textServer]
    split
    · exact fun h => absurd h (by simp)
    · rename_i s hs
      obtain ⟨table, sets, cond, rfl⟩ := parse_update_text (m.tableName ++ (" set " ++
        (strJoin m.setColumns ", " ++ listClause " where " m.whereCondition " and "))) (by
          rw [← hs, SqlModel.str, UpdateModel.str]
          simp only [String.append_assoc])
      rw [exec]
      cases update env moment (textConds env) d table sets cond with
      | error e => exact fun h => absurd h (by simp [changed])
      | ok d' =>
        intro h
        rw [← Except.ok.inj (show Except.ok (⟨[], []⟩ : Result) = .ok r from h)]
  rw [Connection.work]
  revert hempty
  obtain ⟨res, after⟩ := (textConnection env runtime moment).server d (.update m)
  intro hempty
  cases res with
  | error e => simp [committed, Except.map]
  | ok r => simp [committed, Except.map, hempty r rfl]

end

end TextWrites
