import RpiRobot.DeleteAgreement
import RpiRobot.EventRuns
import RpiRobot.RestProtocol
import RpiRobot.TableHistories
import RpiRobot.TelemetryIngest

/-!
# Runs of the registry service

The service takes HTTP requests and telemetry events in any order. A request writes with one
statement at most. The subscriber of a telemetry event first looks its device up and then
inserts the record; anything may happen in between.

Only registries and telemetry ever change, whatever comes in, as long as the strings of it
stay inside their literals.
-/

namespace ServiceRuns

open SqlConditions (Expr Row Value)
open SqlBuilder SqlTables SqlServers SqlStatements BuilderStatements
open StringLiterals (QuoteFree)
open RequestParams DomainObjects Repositories RepositoryStatements StatementTemplates
open RestController RestProtocol TelemetryIngest TableHistories
open EventRuns
open RegistrySchema (schema)

-- Without this the unifier tries to parse the text of a statement.
attribute [local irreducible] textServer

/-! ## The service -/

def telemetryController : RestRepositoryController DeviceTelemetryDo :=
  ⟨DeviceTelemetryRepository.repository, DeviceTelemetryDo.fromJson, DeviceTelemetryDo.toJson⟩

/-- What the service runs on. The handlers that have no repository answer in some way. -/
structure Service where
  env : Env
  runtime : Runtime
  form : OriginForm
  answer : Handler → HttpRequest → Except Failure String

/-- The database and the calls of the subscriber between their two statements, each with the
device it has found. -/
structure State where
  database : Database schema
  found : List (DeviceDo × IotTelemetry)

def start (d : Database schema) : State := ⟨d, []⟩

inductive Event where
  | request (moment : Moment) (request : WireRequest)
  | lookup (moment : Moment) (event : IotTelemetry)
  | record (moment : Moment) (i : Nat)

variable (service : Service)

def Service.connection (moment : Moment) : Connection :=
  textConnection service.env service.runtime moment

def Service.others (c : Connection) (d : Database schema) (handler : Handler)
    (request : HttpRequest) : Handled :=
  match handler with
  | .telemetry => telemetryController.handle c d request
  | _ => (service.answer handler request, d)

/-- The database after a request. -/
def Service.requested (d : Database schema) (moment : Moment) (request : WireRequest) :
    Database schema :=
  match process service.form (service.others (service.connection moment) d)
    (service.connection moment) d request with
  | .ok handled => handled.2
  | .error _ => d

def Service.step (s : State) : Event → State
  | .request moment request => { s with database := service.requested s.database moment request }
  | .lookup moment event =>
    match DeviceRepository.repository.findOne (service.connection moment) (fun _ => s.database)
      (byName event) with
    | .ok (some dev) => { s with found := s.found ++ [(dev, event)] }
    | _ => s
  | .record moment i =>
    match s.found[i]? with
    | some (dev, event) =>
      ⟨(DeviceTelemetryRepository.insert (service.connection moment) s.database
        (telemetryOf dev event)).2, s.found.eraseIdx i⟩
    | none => s

/-- The insert of a call that is open. -/
lemma step_record {s : State} {i : Nat} {dev : DeviceDo} {event : IotTelemetry}
    (h : s.found[i]? = some (dev, event)) (moment : Moment) :
    service.step s (.record moment i) =
      ⟨(DeviceTelemetryRepository.insert (textConnection service.env service.runtime moment)
        s.database (telemetryOf dev event)).2, s.found.eraseIdx i⟩ := by
  simp only [Service.step, h]
  rfl

def Service.run (s : State) (events : List Event) : State := events.foldl service.step s

/-- A record right after its lookup is the subscriber in one piece. -/
theorem lookup_record (d : Database schema) (a : Arrival) :
    (service.run (start d) [.lookup a.moment a.event, .record a.moment 0]).database =
      ingestOne service.env service.runtime d a := by
  change (service.step (service.step (start d) (.lookup a.moment a.event))
    (.record a.moment 0)).database = _
  rw [ingestOne, subscriber, ← Service.connection]
  cases hfind : DeviceRepository.repository.findOne (service.connection a.moment) (fun _ => d)
      (byName a.event) with
  | error e => simp only [Service.step, start, hfind, List.getElem?_nil]
  | ok item =>
    cases item with
    | none => simp only [Service.step, start, hfind, List.getElem?_nil]
    | some dev =>
      simp only [Service.step, start, hfind, List.nil_append, List.getElem?_cons_zero]
      obtain ⟨outcome, after⟩ := DeviceTelemetryRepository.insert (service.connection a.moment) d
        (telemetryOf dev a.event)
      cases outcome <;> rfl

/-! ## What stays inside its literals -/

/-- The strings may not end the literals they are put in. -/
def Literal (strings : List String) : Prop := ∀ s ∈ strings, QuoteFree s.toList

/-- Every string of the request that becomes data of a statement. -/
structure Contained {T : Type} (controller : RestRepositoryController T) (strings : T → List String)
    (c : Connection) (request : HttpRequest) : Prop where
  body : ∀ model, controller.parseBody c request = .ok model → Literal (strings model)
  query : ∀ params, request.params = some params → Literal ((entries params).map Prod.snd)

def registryStrings (runtime : Runtime) (m : RegistryDo) : List String :=
  [m.name, runtime.dump m.jsonData]

def deviceStrings (runtime : Runtime) (m : DeviceDo) : List String :=
  [m.name, m.createdAt, m.uuid, runtime.dump m.jsonData]

def telemetryStrings (runtime : Runtime) (m : DeviceTelemetryDo) : List String :=
  [runtime.dump m.jsonData]

def Service.Contains : Event → Prop
  | .request moment request =>
    let c := service.connection moment
    let received := decoded service.form request
    match HttpRouter.Handlers.process addHandlers request.method request.target with
    | .ok .registries => Contained registryController (registryStrings service.runtime) c received
    | .ok .devices => Contained deviceController (deviceStrings service.runtime) c received
    | .ok .telemetry => Contained telemetryController (telemetryStrings service.runtime) c received
    | _ => True
  | .lookup _ event => QuoteFree event.deviceId.toList ∧
    QuoteFree (service.runtime.dump event.message).toList
  | .record _ _ => True

/-! ## What is written at all -/

/-- The columns that the service updates, for the tables that it writes. -/
def columnsOf : Writable := fun name =>
  if name = "registry" then some ["name", "status", "json_data"]
  else if name = "device_telemetry" then some []
  else none

lemma columnsOf_cases {name : String} {columns : List String} (h : columnsOf name = some columns) :
    (name = "registry" ∧ columns = ["name", "status", "json_data"]) ∨
      (name = "device_telemetry" ∧ columns = []) := by
  rw [columnsOf] at h
  split_ifs at h with hregistry htelemetry
  · exact .inl ⟨hregistry, (Option.some.inj h).symm⟩
  · exact .inr ⟨htelemetry, (Option.some.inj h).symm⟩

lemma columnsOf_keyed : ∀ name columns, columnsOf name = some columns →
    Keyed schema columnsOf name columns := by
  intro name columns h t ht _ ref href htable
  have hkey := RegistrySchema.reference_key t ht ref href
  rw [hkey]
  rcases columnsOf_cases h with ⟨rfl, rfl⟩ | ⟨rfl, rfl⟩
  · exact ⟨by decide, RegistrySchema.registry, .head _, rfl, .head _⟩
  · exact ⟨by decide, RegistrySchema.deviceTelemetry, by simp [schema], rfl, .head _⟩

lemma columnsOf_idFixed : IdFixed columnsOf := by
  intro name columns h
  rcases columnsOf_cases h with ⟨-, rfl⟩ | ⟨-, rfl⟩ <;> decide

/-! ## One statement -/

section
variable {env : Env} {runtime : Runtime} {moment : Moment} {d d' : Database schema}
  {writable : Writable}

/-- What the server does, a transaction does or rolls back. -/
lemma work_state {p : Database schema → Prop} {c : Connection} {m : SqlModel} {one : Bool}
    (h : p (c.server d m).2) (hrolled : ∀ after, p after → p { d with serial := after.serial }) :
    p (c.work d m one).2 := by
  rw [Connection.work]
  generalize c.server d m = answered at h
  obtain ⟨outcome, after⟩ := answered
  cases outcome with
  | error e => exact hrolled after h
  | ok r =>
    by_cases hone : one ∧ r.rows.length ≠ 1
    · simp only [if_pos hone]
      exact hrolled after h
    · simp only [if_neg hone]
      exact h

lemma work_serial (c : Connection) (d : Database schema) (m : SqlModel) (one : Bool) :
    (c.work d m one).2.serial = (c.server d m).2.serial := by
  rw [Connection.work]
  obtain ⟨outcome, after⟩ := c.server d m
  cases outcome with
  | error e => rfl
  | ok r =>
    by_cases hone : one ∧ r.rows.length ≠ 1
    · simp only [if_pos hone]
    · simp only [if_neg hone]

lemma nulFree_partsText {parts : List StringLiterals.Part}
    (hvalues : ∀ v ∈ parts.map StringLiterals.Part.value, NulFree v)
    (hafter : ∀ p ∈ parts, '\x00' ∉ p.after) : '\x00' ∉ StringLiterals.renderParts parts := by
  induction parts with
  | nil => exact List.not_mem_nil
  | cons p parts ih =>
    rw [List.map_cons, List.forall_mem_cons] at hvalues
    rw [List.forall_mem_cons] at hafter
    have hquoted := nulFree_string hvalues.1
    rw [NulFree, toList_value] at hquoted
    rw [StringLiterals.renderParts, StringLiterals.Part.render, List.append_assoc,
      List.mem_append, List.mem_append, not_or, not_or]
    exact ⟨hquoted, hafter.1, ih hvalues.2 hafter.2⟩

variable (env moment d) in
/-- Strings without quotes leave the text of the statement whole, unless a NUL ends it inside a
literal. -/
lemma whole_or_refused {s : Carrier} {t : StringLiterals.Template}
    (ht : s.template runtime = some t) (h : Literal (s.data runtime)) :
    NulFree (s.model runtime).str ∨
      textServer env moment d (s.model runtime) = (.error .syntaxError, d) := by
  by_cases hnul : ∃ v ∈ s.data runtime, ¬ NulFree v
  · exact .inr (LiteralIntegrity.nul_rejected env runtime moment h hnul)
  · refine .inl ?_
    have hfree : ∀ v ∈ s.data runtime, NulFree v := fun v hv => by_contra fun h => hnul ⟨v, hv, h⟩
    obtain ⟨htext, hvalues, -⟩ := s.template_spec ht
    obtain ⟨hbefore, hafter⟩ := LiteralIntegrity.template_nul ht
    rw [← hvalues] at hfree
    rw [htext, NulFree, toList_textOf, StringLiterals.Template.render, List.mem_append, not_or]
    exact ⟨hbefore, nulFree_partsText hfree hafter⟩

/-- A text that starts as a delete from a table is no other statement. -/
lemma parse_delete_text {table : String} (conditions : List String)
    (hbare : parse (cString ("delete from " ++ table)) = some (.delete table none))
    (hopen : SqlTokens.run SqlTokens.start ("delete from " ++ table ++ " where ").toList =
      ⟨[.word "delete", .word "from", .word table, .word "where"], .gap⟩)
    (hnul : NulFree ("delete from " ++ table ++ " where ")) (hname : Name table)
    (hwhere : table ≠ "where") {s : Statement (Option Expr)}
    (h : parse (cString ("delete from " ++ table ++ listClause " where " conditions " and ")) =
      some s) : ∃ cond, s = .delete table cond := by
  rw [listClause] at h
  split_ifs at h with hempty
  · rw [String.append_empty, hbare] at h
    exact ⟨none, (Option.some.inj h).symm⟩
  · obtain ⟨tokens, hlex, hparse⟩ := Option.bind_eq_some_iff.mp h
    rw [← String.append_assoc, cString_append hnul, SqlTokens.lex, String.toList_append,
      SqlTokens.run_append, hopen] at hlex
    obtain ⟨ts, rfl⟩ := (SqlTokens.done_prefix_run _ _).trans (SqlTokens.done_prefix_finish hlex)
    have hdelete : parseDelete (.word table :: .word "where" :: ts) = some s := hparse
    have hcut : cut "where" (.word table :: .word "where" :: ts) = ([.word table], some ts) := by
      simp [cut, hwhere]
    simp only [parseDelete, hcut, name_free hname.2.1, Option.bind_eq_bind, Option.bind_some,
      Option.bind_eq_some_iff, Option.pure_def, Option.some.injEq] at hdelete
    obtain ⟨cond, -, rfl⟩ := hdelete
    exact ⟨cond, rfl⟩

/-! ## The writes of the repositories -/

variable (env runtime moment d) in
lemma delete_removes {table : String}
    (hbare : parse (cString ("delete from " ++ table)) = some (.delete table none))
    (hopen : SqlTokens.run SqlTokens.start ("delete from " ++ table ++ " where ").toList =
      ⟨[.word "delete", .word "from", .word table, .word "where"], .gap⟩)
    (hnul : NulFree ("delete from " ++ table ++ " where ")) (hname : Name table)
    (hwhere : table ≠ "where") (filter : Filter) :
    Removes table d (committed ((textConnection env runtime moment).work d
      (.delete (deleteFrom table filter)) false)).2 := by
  refine work_state ?_ fun _ => Removes.rolledBack
  rw [textConnection_server, textServer]
  split
  · exact .refl d
  · rename_i s hs
    rw [deleteFrom_eq] at hs
    obtain ⟨cond, rfl⟩ := parse_delete_text (texts filter) hbare hopen hnul hname hwhere hs
    exact .delete d env moment (textConds env) table cond

variable (env runtime moment d) in
lemma registry_delete_removes (filter : Filter) :
    Removes "registry" d
      (RegistryRepository.deleteByFilter (textConnection env runtime moment) d filter).2 :=
  delete_removes env runtime moment d (by decide) (by decide) (by decide) (by decide) (by decide)
    filter

variable (env runtime moment d) in
lemma telemetry_delete_removes (filter : Filter) :
    Removes "device_telemetry" d
      (DeviceTelemetryRepository.deleteByFilter (textConnection env runtime moment) d filter).2 :=
  delete_removes env runtime moment d (by decide) (by decide) (by decide) (by decide) (by decide)
    filter

variable (env moment d) in
/-- An insert of strings that stay inside their literals is the insert that was meant, or is
refused. -/
lemma insert_meant {p : Database schema → Prop} {s : Carrier} {t : StringLiterals.Template}
    {m : InsertModel} {table : String} {listed returning : List String} {values : List Source}
    (ht : s.template runtime = some t) (h : Literal (s.data runtime))
    (hmodel : s.model runtime = .insert m)
    (hrenders : RendersInsert m table listed values returning) (hd : p d)
    (hrolled : ∀ after, p after → p { d with serial := after.serial })
    (hinsert : p (SqlTables.insert env moment d table listed values returning).2) :
    p (insertedId ((textConnection env runtime moment).work d (.insert m) true)).2 := by
  refine work_state ?_ hrolled
  rw [textConnection_server, ← hmodel]
  rcases whole_or_refused env moment d ht h with hnul | hrefused
  · rw [hmodel] at hnul ⊢
    rw [textServer_eq (.insert hrenders) rfl hnul, exec]
    exact hinsert
  · rw [hrefused]
    exact hd

variable (env moment d) in
lemma registry_insert_step {m : RegistryDo} (h : Literal (registryStrings runtime m)) :
    Step columnsOf "registry" d
      (RegistryRepository.insert (textConnection env runtime moment) d m).2 := by
  have hname := h m.name List.mem_cons_self
  have hdump := h (runtime.dump m.jsonData) (.tail _ (.head _))
  refine insert_meant env moment d (s := .registryInsert m) rfl h rfl
    (renders_registry_insert runtime hname hdump) (.refl d) (fun _ => Step.rolledBack) ?_
  exact .insert d env moment (t := RegistrySchema.registry) rfl
    ⟨by decide, by decide, RegistrySchema.serialId, rfl, rfl⟩ (if_pos rfl) _ _

lemma columnsOf_telemetry : columnsOf "device_telemetry" = some [] := by decide

variable (env moment d) in
lemma telemetry_insert_step {m : DeviceTelemetryDo}
    (h : Literal (telemetryStrings runtime m)) :
    Step columnsOf "device_telemetry" d
      (DeviceTelemetryRepository.insert (textConnection env runtime moment) d m).2 := by
  refine insert_meant env moment d (s := .telemetryInsert m) rfl h rfl
    (renders_telemetry_insert runtime (h _ List.mem_cons_self)) (.refl d)
    (fun _ => Step.rolledBack) ?_
  exact .insert d env moment (t := RegistrySchema.deviceTelemetry) rfl
    ⟨by decide, by decide, RegistrySchema.serialId, rfl, rfl⟩ columnsOf_telemetry _ _

variable (env moment d) in
/-- Nothing gives the new device its registry. -/
lemma device_insert_step {m : DeviceDo} (h : Literal (deviceStrings runtime m)) :
    Step columnsOf "registry" d
      (DeviceRepository.insert (textConnection env runtime moment) d m).2 := by
  have hname := h m.name List.mem_cons_self
  have hdump := h (runtime.dump m.jsonData) (by simp [deviceStrings])
  refine insert_meant env moment d (s := .deviceInsert m) rfl
    (List.forall_mem_cons.mpr ⟨hname, List.forall_mem_singleton.mpr hdump⟩) rfl
    (renders_device_insert runtime hname hdump) (.refl d) (fun _ => Step.rolledBack) ?_
  have hfixed : columnsOf "device" = none := by decide
  exact .idle "device" (.inr hfixed)
    (insert_incomplete d env moment (t := RegistrySchema.device) rfl (by simp [schema]) rfl
      (c := ⟨"registry_id", .int4, true, .null⟩) (.tail _ (.head _)) rfl rfl rfl (by decide) _ _)

variable (env runtime moment d) in
/-- An update takes no number. -/
lemma update_serial (m : UpdateModel) :
    ((textConnection env runtime moment).server d (.update m)).2.serial = d.serial := by
  rw [textConnection_server, textServer]
  split
  · rfl
  · rename_i s hs
    obtain ⟨table, sets, cond, rfl⟩ := TextWrites.parse_update_text (m.tableName ++ (" set " ++
      (strJoin m.setColumns ", " ++ listClause " where " m.whereCondition " and "))) (by
        rw [← hs, SqlModel.str, UpdateModel.str]
        simp only [String.append_assoc])
    rw [exec]
    refine changed_state (p := fun after => after.serial = d.serial) rfl fun after hok => ?_
    obtain ⟨t, -, hok⟩ := ListResults.bind_eq_ok.mp hok
    obtain ⟨assigned, -, hok⟩ := ListResults.bind_eq_ok.mp hok
    obtain ⟨-, -, hok⟩ := ListResults.bind_eq_ok.mp hok
    exact (store_eq_ok hok).2

variable (env runtime moment d) in
/-- The update of a device is always rolled back. -/
lemma device_update_step (m : DeviceDo) :
    Step columnsOf "registry" d
      (DeviceRepository.update (textConnection env runtime moment) d m).2 := by
  have hserial := update_serial env runtime moment d (DeviceRepository.updateModel runtime m)
  have hafter : (DeviceRepository.update (textConnection env runtime moment) d m).2.serial =
      d.serial := (work_serial _ _ _ _).trans hserial
  rcases committed_or_same (d := d) (textConnection env runtime moment)
    (.update (DeviceRepository.updateModel runtime m)) true with ⟨d', hok⟩ | hsame
  · exact absurd hok (UpdateReadBack.device_update_fails m)
  · exact .idle "registry" (.inl rfl) ⟨hsame, .inl hafter⟩

variable (env moment d) in
lemma registry_update_step {m : RegistryDo} (h : Literal (registryStrings runtime m)) :
    Step columnsOf "registry" d
      (RegistryRepository.update (textConnection env runtime moment) d m).2 := by
  have hname := h m.name List.mem_cons_self
  have hdump := h (runtime.dump m.jsonData) (.tail _ (.head _))
  refine work_state ?_ fun _ => Step.rolledBack
  change Step columnsOf "registry" d ((textConnection env runtime moment).server d
    (.update (RegistryRepository.updateModel runtime m))).2
  by_cases hnul : NulFree m.name
  · rw [TextWrites.exec_update FieldQueries.registryListing
      (UpdateReadBack.registry_updates hname hdump hnul)]
    refine changed_state (.refl d) fun after hok => ?_
    obtain ⟨assigned, hassigned, hstore⟩ := ListResults.bind_eq_ok.mp hok
    obtain ⟨hrows, hserial⟩ := store_eq_ok hstore
    have hsets : ∀ a ∈ registrySets runtime m, a.1 ∈ ["name", "status", "json_data"] := by
      simp [registrySets]
    refine .writes ["name", "status", "json_data"] (if_pos rfl)
      (.changes _ hrows (fun r => ?_) hserial)
    rw [TextWrites.withId]
    split_ifs
    · exact same_setColumns hassigned hsets r
    · exact fun _ _ => rfl
  · have hcut := LiteralIntegrity.nul_rejected env runtime moment (d := d)
      (s := .registryUpdate m) h ⟨m.name, List.mem_cons_self, hnul⟩
    have hserver : (textConnection env runtime moment).server d
        (.update (RegistryRepository.updateModel runtime m)) = (.error .syntaxError, d) := by
      rw [textConnection_server]
      exact hcut
    rw [hserver]
    exact .refl d

/-! ## One request -/

lemma written_state {α : Type} (res : Outcome α × Database schema) :
    (RestRepositoryController.written res).2 = res.2 := by
  obtain ⟨outcome, after⟩ := res
  cases outcome <;> rfl

/-- What the writes of its repository do, a controller does. -/
lemma handle_state {T : Type} {controller : RestRepositoryController T} {c : Connection}
    {request : HttpRequest} {p : Database schema → Prop} (hsame : p d)
    (hinsert : request.method = .post → ∀ m, controller.parseBody c request = .ok m →
      p (controller.repository.insert c d m).2)
    (hupdate : request.method = .put → ∀ m, controller.parseBody c request = .ok m →
      p (controller.repository.update c d m).2)
    (hdelete : request.method = .delete_ → ∀ filter,
      p (controller.repository.deleteByFilter c d filter).2) :
    p (controller.handle c d request).2 := by
  rw [RestRepositoryController.handle]
  cases hparams : request.params with
  | none => exact hsame
  | some raw =>
    simp only
    cases hof : HttpRequestParams.of raw with
    | error e => exact hsame
    | ok params =>
      simp only
      by_cases hreads : params.filter.contains "id" = false ∨ request.method = .get
      · rwa [dispatch_reads hreads]
      · rw [not_or, Bool.not_eq_false] at hreads
        obtain ⟨hid, hget⟩ := hreads
        rw [RestRepositoryController.dispatch, if_pos hid]
        cases hmethod : request.method with
        | get => exact absurd hmethod hget
        | other => exact hsame
        | delete_ =>
          simp only [RestRepositoryController.handleDeleteOne, written_state]
          exact hdelete hmethod params.filter
        | post =>
          simp only [RestRepositoryController.handlePostOne]
          cases hbody : controller.parseBody c request with
          | error e => exact hsame
          | ok m => simpa only [written_state] using hinsert hmethod m hbody
        | put =>
          simp only [RestRepositoryController.handlePutOne]
          cases hbody : controller.parseBody c request with
          | error e => exact hsame
          | ok m => simpa only [written_state] using hupdate hmethod m hbody

end

/-! ## Runs -/

variable {service} {d : Database schema}

/-- What is found is inserted later, and its strings stay inside their literals too. -/
def FoundLiteral (service : Service) (s : State) : Prop :=
  ∀ call ∈ s.found, QuoteFree (service.runtime.dump call.2.message).toList

/-- Telemetry is read and deleted, and no other request gets to its handler. -/
lemma telemetry_routed {method : HttpRouter.Method} {target : String}
    (h : addHandlers.process method target = .ok .telemetry) :
    method = .get ∨ method = .delete_ ∨ method = .options := by
  have hkeys : ∀ r ∈ addHandlers, r.2 = .telemetry →
      r.1.method = .get ∨ r.1.method = .delete_ ∨ r.1.method = .options := by decide
  have hlookup : ∀ path, addHandlers.lookup ⟨method, path⟩ = some .telemetry →
      method = .get ∨ method = .delete_ ∨ method = .options := fun path hpath =>
    by
      obtain ⟨before, after, hsplit, -⟩ := List.lookup_eq_some_iff.mp hpath
      exact hkeys (⟨method, path⟩, .telemetry) (hsplit ▸ by simp) rfl
  rw [HttpRouter.Handlers.process] at h
  split at h
  · exact absurd h (by simp)
  · split at h
    · rename_i handler hpath
      obtain rfl := Except.ok.inj h
      exact hlookup _ hpath
    · split at h
      · rename_i handler hpath
        obtain rfl := Except.ok.inj h
        exact hlookup _ hpath
      · exact absurd h (by simp)

lemma telemetry_verb (form : OriginForm) {request : WireRequest}
    (h : addHandlers.process request.method request.target = .ok .telemetry) :
    (decoded form request).method ≠ .post ∧ (decoded form request).method ≠ .put ∧
      ((decoded form request).method = .delete_ → request.method = .delete_) := by
  change verbOf request.method ≠ .post ∧ verbOf request.method ≠ .put ∧
    (verbOf request.method = .delete_ → request.method = .delete_)
  rcases telemetry_routed h with hget | hdelete | hoptions
  · rw [hget]
    decide
  · rw [hdelete]
    decide
  · rw [hoptions]
    decide

/-- The request is a delete of telemetry. -/
structure Deletes (request : WireRequest) : Prop where
  method : request.method = .delete_
  handler : addHandlers.process request.method request.target = .ok .telemetry

/-- A request writes to the registries, or takes telemetry away, or does nothing. -/
lemma requested_cases {moment : Moment} {request : WireRequest}
    (h : service.Contains (.request moment request)) :
    Step columnsOf "registry" d (service.requested d moment request) ∨
      (Deletes request ∧ Removes "device_telemetry" d (service.requested d moment request)) := by
  rw [Service.requested, process]
  rw [Service.Contains] at h
  cases hrouted : HttpRouter.Handlers.process addHandlers request.method request.target with
  | error e => exact .inl (.refl d)
  | ok handler =>
    simp only [hrouted] at h
    cases handler with
    | registries =>
      exact .inl (handle_state (.refl d)
        (fun _ m hm => registry_insert_step service.env moment d (h.body m hm))
        (fun _ m hm => registry_update_step service.env moment d (h.body m hm))
        (fun _ filter => (registry_delete_removes service.env service.runtime moment d filter).step
          (if_pos rfl)))
    | devices =>
      -- the deletes of devices are deletes of registries
      exact .inl (handle_state (.refl d)
        (fun _ m hm => device_insert_step service.env moment d (h.body m hm))
        (fun _ m _ => device_update_step service.env service.runtime moment d m)
        (fun _ filter => (registry_delete_removes service.env service.runtime moment d filter).step
          (if_pos rfl)))
    | telemetry =>
      obtain ⟨hpost, hput, hdelete⟩ := telemetry_verb service.form hrouted
      exact handle_state (p := fun after => Step columnsOf "registry" d after ∨
        Deletes request ∧ Removes "device_telemetry" d after) (.inl (.refl d))
        (fun h => absurd h hpost) (fun h => absurd h hput) fun h filter =>
          .inr ⟨⟨hdelete h, hrouted⟩,
            telemetry_delete_removes service.env service.runtime moment d filter⟩
    | rpc => exact .inl (.refl d)
    | files => exact .inl (.refl d)

lemma step_descends {s : State} {event : Event} (h : service.Contains event)
    (hfound : FoundLiteral service s) :
    Descends columnsOf s.database (service.step s event).database ∧
      FoundLiteral service (service.step s event) := by
  cases event with
  | request moment request =>
    refine ⟨?_, hfound⟩
    rcases requested_cases h with hstep | ⟨-, hremoves⟩
    · exact hstep.descends (columnsOf_keyed _)
    · exact (hremoves.step columnsOf_telemetry).descends (columnsOf_keyed _)
  | lookup moment event =>
    rw [Service.step]
    split
    · rename_i dev _
      refine ⟨.refl _, fun call hmem => ?_⟩
      rcases List.mem_append.mp hmem with hold | hnew
      · exact hfound call hold
      · obtain rfl := List.mem_singleton.mp hnew
        exact h.2
    · exact ⟨.refl _, hfound⟩
  | record moment i =>
    rw [Service.step]
    split
    · rename_i dev event hget
      have hdump := hfound (dev, event) (List.mem_of_getElem? hget)
      have hstep := telemetry_insert_step service.env moment s.database (m := telemetryOf dev event)
        (List.forall_mem_singleton.mpr hdump)
      exact ⟨hstep.descends (columnsOf_keyed _),
        fun other hother => hfound other (List.mem_of_mem_eraseIdx hother)⟩
    · exact ⟨.refl _, hfound⟩

/-- Every later state of a run descends from every earlier one. -/
lemma run_descends {s : State} (hfound : FoundLiteral service s) {events : List Event}
    (h : ∀ event ∈ events, service.Contains event) :
    Descends columnsOf s.database (service.run s events).database ∧
      FoundLiteral service (service.run s events) := by
  induction events generalizing s with
  | nil => exact ⟨.refl _, hfound⟩
  | cons event events ih =>
    rw [List.forall_mem_cons] at h
    obtain ⟨hfirst, hliteral⟩ := step_descends h.1 hfound
    obtain ⟨hrest, hlast⟩ := ih hliteral h.2
    exact ⟨hfirst.trans columnsOf_idFixed columnsOf_keyed hrest, hlast⟩

/-- A row that the rows of other tables refer to is held. -/
lemma held_of_referenced {r : Row} (hr : r ∈ d.rows "registry")
    (h : DeleteAgreement.Referenced d r) : Held columnsOf d "registry" r := by
  obtain ⟨name, hname, s, hs, hkey⟩ := h
  obtain ⟨k, hk⟩ := DeleteAgreement.id_key d hr
  rw [hk] at hkey
  simp only [List.mem_cons, List.not_mem_nil, or_false] at hname
  rcases hname with rfl | rfl
  · exact ⟨RegistrySchema.device, by simp [schema], by decide, ⟨"registry_id", "registry", "id"⟩,
      .head _, rfl, s, hs, k, hkey, hk⟩
  · exact ⟨RegistrySchema.registryConfiguration, by simp [schema], by decide,
      ⟨"registry_id", "registry", "id"⟩, .head _, rfl, s, hs, k, hkey, hk⟩

/-- What a registry is known by, whatever becomes of its name, status and data. -/
abbrev SameRegistry : Row → Row → Prop := Same ["name", "status", "json_data"]

/-- Devices and configurations stay as they are, telemetry is never changed, and registries
that are referred to stay. What is new has a new number. -/
theorem service_history (service : Service) (d : Database schema) {events : List Event}
    (h : ∀ event ∈ events, service.Contains event) :
    (∀ name ∈ ["device", "registry_configuration", "device_configuration"],
      (service.run (start d) events).database.rows name = d.rows name) ∧
    (∀ r' ∈ (service.run (start d) events).database.rows "device_telemetry",
      r' ∈ d.rows "device_telemetry" ∨
        Drawn "device_telemetry" d (service.run (start d) events).database r') ∧
    (∀ r' ∈ (service.run (start d) events).database.rows "registry",
      (∃ r ∈ d.rows "registry", SameRegistry r r') ∨
        Drawn "registry" d (service.run (start d) events).database r') ∧
    ∀ r ∈ d.rows "registry", DeleteAgreement.Referenced d r →
      ∃ r' ∈ (service.run (start d) events).database.rows "registry", SameRegistry r r' := by
  have hdescends := (run_descends (s := start d) (fun _ hm => absurd hm List.not_mem_nil) h).1
  refine ⟨fun name hname => hdescends.fixed name ?_, fun r' hr' => ?_,
    hdescends.origin "registry" _ (if_pos rfl), fun r hr href => ?_⟩
  · revert name
    decide
  · refine (hdescends.origin "device_telemetry" [] columnsOf_telemetry r' hr').imp_left ?_
    rintro ⟨r, hr, hsame⟩
    obtain rfl : r' = r := funext fun c => hsame c List.not_mem_nil
    exact hr
  · exact hdescends.stays "registry" _ (if_pos rfl) r hr (held_of_referenced hr href)

/-! On the shipped rows. -/

def shippedService : Service :=
  ⟨RegistrySchema.shippedEnv, bodyRuntime, splitForm, fun _ _ => .ok success⟩

/-- A device reports, and before the report is recorded its registry is renamed and a delete of
the device is tried. -/
def shippedEvents : List Event := [
  .lookup RegistrySchema.setup ⟨"rpi-robot", RegistrySchema.online⟩,
  .request RegistrySchema.setup (registryRequest garageText (.update 2 garage.toJson)),
  .request RegistrySchema.setup (deviceRequest garageText (.remove 1)),
  .record RegistrySchema.setup 0]

/-- The query of one object has no quote. -/
lemma contained_id {T : Type} {controller : RestRepositoryController T} {strings : T → List String}
    {c : Connection} {form : OriginForm} {path : String} (hpath : PlainPath path) (id : Int)
    {method : HttpRouter.Method} {body : String}
    (h : ∀ m, (c.runtime.parse body).bind controller.fromJson = some m → Literal (strings m)) :
    Contained controller strings c (decoded form ⟨method, path ++ "?" ++ idQuery id, body⟩) where
  body m hm := by
    refine h m ?_
    rw [RestRepositoryController.parseBody] at hm
    split at hm
    · rename_i model hbody
      exact hbody.trans (congrArg some (Except.ok.inj hm))
    · exact absurd hm (by simp)
  query params hparams := by
    have hsingle : (decoded form ⟨method, path ++ "?" ++ idQuery id, body⟩).params =
        some [("id", toString id)] :=
      form.parse_single path "id" (toString id) hpath (by decide) (id_unreserved id)
    obtain rfl := Option.some.inj (hsingle.symm.trans hparams)
    exact List.forall_mem_singleton.mpr (StringLiterals.quoteFree_int id)

lemma shipped_contained : ∀ event ∈ shippedEvents, shippedService.Contains event := by
  simp only [shippedEvents, List.forall_mem_cons]
  refine ⟨⟨by decide, by decide⟩, ?_, ?_, trivial, fun _ h => absurd h List.not_mem_nil⟩
  · have hroute : addHandlers.process .put ("/api/registries" ++ "?" ++ idQuery 2) = _ :=
      HttpRouter.process_query registries.plain (registries.registered .put (by decide)) (idQuery 2)
    simp only [Service.Contains, registryRequest, RestProtocol.request, hroute]
    refine contained_id registries.unencoded 2 fun m hm => ?_
    have hparsed : (bodyRuntime.parse garageBody).bind RegistryDo.fromJson = some garage := by
      rw [garage_parsed, Option.bind_some, garage_decoded]
    obtain rfl := Option.some.inj (hparsed.symm.trans hm)
    exact List.forall_mem_cons.mpr ⟨by decide, List.forall_mem_singleton.mpr (by decide)⟩
  · have hroute : addHandlers.process .delete_ ("/api/devices" ++ "?" ++ idQuery 1) = _ :=
      HttpRouter.process_query devices.plain (devices.registered .delete_ (by decide)) (idQuery 1)
    simp only [Service.Contains, deviceRequest, RestProtocol.request, hroute]
    refine contained_id devices.unencoded 1 fun m hm => ?_
    have hparsed : (bodyRuntime.parse "").bind DeviceDo.fromJson = none := by decide
    exact absurd (hparsed.symm.trans hm) (by simp)

/-- The registry of the devices stays through its update, and the record is new. -/
theorem service_history_shipped :
    (shippedService.run (start RegistrySchema.shipped) shippedEvents).database.rows "device" =
      RegistrySchema.shipped.rows "device" ∧
    (∀ r' ∈ (shippedService.run (start RegistrySchema.shipped) shippedEvents).database.rows
        "device_telemetry",
      Drawn "device_telemetry" RegistrySchema.shipped
        (shippedService.run (start RegistrySchema.shipped) shippedEvents).database r') ∧
    (∀ r' ∈ (shippedService.run (start RegistrySchema.shipped) shippedEvents).database.rows
        "registry",
      (∃ r ∈ RegistrySchema.shipped.rows "registry", SameRegistry r r') ∨
        Drawn "registry" RegistrySchema.shipped
          (shippedService.run (start RegistrySchema.shipped) shippedEvents).database r') ∧
    ∃ r' ∈ (shippedService.run (start RegistrySchema.shipped) shippedEvents).database.rows
      "registry", r' "id" = .int 2 := by
  obtain ⟨hfixed, htelemetry, hregistry, hstays⟩ :=
    service_history shippedService RegistrySchema.shipped shipped_contained
  have hreferred : ∃ r ∈ RegistrySchema.shipped.rows "registry",
      DeleteAgreement.Referenced RegistrySchema.shipped r ∧ r "id" = .int 2 := by decide
  refine ⟨hfixed "device" (.head _), fun r' hr' => ?_, hregistry, ?_⟩
  · exact (htelemetry r' hr').resolve_left List.not_mem_nil
  · obtain ⟨r, hr, href, hid⟩ := hreferred
    obtain ⟨r', hr', hsame⟩ := hstays r hr href
    exact ⟨r', hr', (hsame "id" (by decide)).trans hid⟩

/-- A number that has been given out belongs to one row for good: the row that has it later is
the row that had it, and if none has it any more, none will. -/
theorem ids_given_once (service : Service) (d : Database schema) {earlier later : List Event}
    (h : ∀ event ∈ earlier ++ later, service.Contains event) {name : String}
    {columns : List String} (hname : columnsOf name = some columns) {n : Int}
    (hn : n < (service.run (start d) earlier).database.serial name) :
    (∀ r' ∈ (service.run (start d) (earlier ++ later)).database.rows name, r' "id" = .int n →
      ∃ r ∈ (service.run (start d) earlier).database.rows name, Same columns r r') ∧
    ((∀ r ∈ (service.run (start d) earlier).database.rows name, r "id" ≠ .int n) →
      ∀ r' ∈ (service.run (start d) (earlier ++ later)).database.rows name,
        r' "id" ≠ .int n) := by
  rw [List.forall_mem_append] at h
  have hfirst := run_descends (s := start d) (fun _ hm => absurd hm List.not_mem_nil) h.1
  have hsplit : service.run (start d) (earlier ++ later) =
      service.run (service.run (start d) earlier) later := List.foldl_append
  have hlater := (run_descends hfirst.2 h.2).1
  rw [hsplit]
  exact ⟨fun r' hr' hid => hlater.old hname hn hr' hid,
    fun hnone => hlater.gone hname hn (columnsOf_idFixed name columns hname) hnone⟩

theorem ids_given_once_shipped :
    (∀ r' ∈ (shippedService.run (start InsertReadBack.advanced) shippedEvents).database.rows
        "registry", r' "id" = .int 2 →
      ∃ r ∈ RegistrySchema.shipped.rows "registry", SameRegistry r r') ∧
    ((∀ r ∈ RegistrySchema.shipped.rows "registry", r "id" ≠ .int 2) →
      ∀ r' ∈ (shippedService.run (start InsertReadBack.advanced) shippedEvents).database.rows
        "registry", r' "id" ≠ .int 2) := by
  have hcontained : ∀ event ∈ [] ++ shippedEvents, shippedService.Contains event :=
    shipped_contained
  exact ids_given_once shippedService InsertReadBack.advanced hcontained (if_pos rfl) (by decide)

end ServiceRuns
