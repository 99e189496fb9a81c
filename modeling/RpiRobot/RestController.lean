import RpiRobot.UpdateReadBack

/-!
# The REST controller

The dispatch of `HttpRestController` and the handlers of `RestRepositoryController`.
A request comes with its decoded query parameters, unless its target does not parse;
while it is handled nobody else writes.

The handler of a put reads the id from the body alone, so a put can change a row that
its query does not name.
-/

namespace RestController

open SqlConditions (Row Value)
open SqlTables SqlServers
open StringLiterals (QuoteFree)
open RequestParams DomainObjects Repositories FieldQueries
open TextWrites UpdateReadBack
open RegistrySchema (schema)

-- Without this the unifier tries to parse the text of a statement.
attribute [local irreducible] textServer

inductive Verb where
  | get
  | post
  | put
  | delete_
  | other
  deriving DecidableEq, Repr

structure HttpRequest where
  method : Verb
  params : Option Params
  body : String

/-- What `handle` throws. -/
inductive Failure where
  | target
  | param (e : DecimalText.StdError)
  | body
  | repository (e : Exception)

/-- A repository with the JSON conversions of its objects. -/
structure RestRepositoryController (T : Type) where
  repository : Repository T
  fromJson : Json → Option T
  toJson : T → Json

abbrev Handled := Except Failure String × Database schema

def defaultHandler (d : Database schema) : Handled :=
  (.ok "\x7b\"message\": \"Handler not implemented\"\x7d", d)

def success : String := "\x7b\"status\": \"success\"\x7d"

namespace RestRepositoryController

variable {T : Type} (controller : RestRepositoryController T) (c : Connection)
  (d : Database schema)

/-- `to_json` of an optional object. -/
def itemJson : Option T → Json
  | some item => .object [("data", controller.toJson item)]
  | none => .object [("data", .null)]

def pageJson (page : Page T) : Json :=
  .object [("data", .array (page.data.map controller.toJson)), ("total", .integer page.total)]

def parseBody (request : HttpRequest) : Except Failure T :=
  match (c.runtime.parse request.body).bind controller.fromJson with
  | some model => .ok model
  | none => .error .body

def handleGetOne (params : HttpRequestParams) : Handled :=
  match controller.repository.findOne c (fun _ => d) params.filter with
  | .ok item => (.ok (c.runtime.dump (controller.itemJson item)), d)
  | .error e => (.error (.repository e), d)

def handleGet (params : HttpRequestParams) : Handled :=
  match controller.repository.findAll c (fun _ => d) params.filter params.page with
  | .ok page => (.ok (c.runtime.dump (controller.pageJson page)), d)
  | .error e => (.error (.repository e), d)

/-- The answer to a write. -/
def written {α : Type} : Outcome α × Database schema → Handled
  | (.ok _, d') => (.ok success, d')
  | (.error e, d') => (.error (.repository e), d')

def handlePostOne (request : HttpRequest) : Handled :=
  match controller.parseBody c request with
  | .ok model => written (controller.repository.insert c d model)
  | .error e => (.error e, d)

/-- The parameters are not used. -/
def handlePutOne (request : HttpRequest) : Handled :=
  match controller.parseBody c request with
  | .ok model => written (controller.repository.update c d model)
  | .error e => (.error e, d)

def handleDeleteOne (params : HttpRequestParams) : Handled :=
  written (controller.repository.deleteByFilter c d params.filter)

/-- The handlers of several objects are not overridden, except for the get. -/
def dispatch (request : HttpRequest) (params : HttpRequestParams) : Handled :=
  if params.filter.contains "id" then
    match request.method with
    | .get => controller.handleGetOne c d params
    | .post => controller.handlePostOne c d request
    | .put => controller.handlePutOne c d request
    | .delete_ => controller.handleDeleteOne c d params
    | .other => defaultHandler d
  else
    match request.method with
    | .get =>
      if params.filter.contains "id" then controller.handleGetOne c d params
      else controller.handleGet c d params
    | _ => defaultHandler d

def handle (request : HttpRequest) : Handled :=
  match request.params with
  | none => (.error .target, d)
  | some params =>
    match HttpRequestParams.of params with
    | .error e => (.error (.param e), d)
    | .ok params => controller.dispatch c d request params

end RestRepositoryController

def registryController : RestRepositoryController RegistryDo :=
  ⟨RegistryRepository.repository, RegistryDo.fromJson, RegistryDo.toJson⟩

/-- `PUT /api/registries?id=k` with a body. -/
def putRegistry (k : Int) (body : String) : HttpRequest := ⟨.put, some [("id", toString k)], body⟩

/-! Requests that write nothing. -/

section
variable {T : Type} {controller : RestRepositoryController T} {c : Connection}
  {d : Database schema} {request : HttpRequest}

lemma handleGetOne_reads (params : HttpRequestParams) :
    (controller.handleGetOne c d params).2 = d := by
  rw [RestRepositoryController.handleGetOne]
  cases controller.repository.findOne c (fun _ => d) params.filter <;> rfl

lemma handleGet_reads (params : HttpRequestParams) : (controller.handleGet c d params).2 = d := by
  rw [RestRepositoryController.handleGet]
  cases controller.repository.findAll c (fun _ => d) params.filter params.page <;> rfl

/-- A request writes only if its query has an id and its method is not `get`. -/
theorem dispatch_reads {params : HttpRequestParams}
    (h : params.filter.contains "id" = false ∨ request.method = .get) :
    (controller.dispatch c d request params).2 = d := by
  rw [RestRepositoryController.dispatch]
  by_cases hid : params.filter.contains "id" = true
  · have hget : request.method = .get := h.resolve_left (by rw [hid]; decide)
    rw [if_pos hid, hget]
    exact handleGetOne_reads params
  · rw [if_neg hid]
    cases request.method with
    | get =>
      change (if params.filter.contains "id" then controller.handleGetOne c d params
        else controller.handleGet c d params).2 = d
      rw [if_neg hid]
      exact handleGet_reads params
    | post => rfl
    | put => rfl
    | delete_ => rfl
    | other => rfl

end

/-! The put. -/

section
variable {env : Env} {runtime : Runtime} {moment : Moment} {d : Database schema} {k : Int}
  {body : String} {j : Json} {m : RegistryDo}

/-- The put updates the row of the body, whatever the query says. -/
lemma handle_put {c : Connection} (hbody : c.runtime.parse body = some j)
    (hm : RegistryDo.fromJson j = some m) :
    (registryController.handle c d (putRegistry k body)).2 = (RegistryRepository.update c d m).2 := by
  have hparse : registryController.parseBody c (putRegistry k body) = .ok m := by
    have hdecode : (c.runtime.parse (putRegistry k body).body).bind registryController.fromJson =
        some m := by
      rw [show c.runtime.parse (putRegistry k body).body = some j from hbody, Option.bind_some]
      exact hm
    rw [RestRepositoryController.parseBody, hdecode]
  have hhandle : registryController.handle c d (putRegistry k body) =
      registryController.handlePutOne c d (putRegistry k body) := rfl
  rw [hhandle, RestRepositoryController.handlePutOne, hparse]
  change (RestRepositoryController.written (RegistryRepository.update c d m)).2 = _
  obtain ⟨res, d'⟩ := RegistryRepository.update c d m
  cases res <;> rfl

/-- The update that the put causes is accepted and gives the row these values. -/
structure Accepts (env : Env) (runtime : Runtime) (d : Database schema) (m : RegistryDo)
    (name : String) (j : Json) : Prop where
  nulFree : NulFree m.name
  fits : fitVarchar 64 m.name = .ok (.text name)
  stored : env.jsonbIn (runtime.dump m.jsonData) = some j
  free : ¬ Taken d m.id name

/-- No row has the id of the body, or the server rejects the update, or it changes no
value. -/
def Harmless (env : Env) (runtime : Runtime) (d : Database schema) (m : RegistryDo) : Prop :=
  ∀ name j, Accepts env runtime d m name j → ∀ r ∈ d.rows "registry", r "id" = .int m.id →
    r "name" = .text name ∧ r "status" = .int m.status ∧ r "json_data" = .json j

/-- A write that throws leaves the rows as they are. -/
lemma committed_or_same (c : Connection) (m : SqlBuilder.SqlModel) (one : Bool) :
    (∃ d', committed (c.work d m one) = (.ok (), d')) ∨
      (committed (c.work d m one)).2.rows = d.rows := by
  rw [Connection.work]
  obtain ⟨res, after⟩ := c.server d m
  cases res with
  | error e => exact .inr rfl
  | ok r =>
    by_cases hone : one ∧ r.rows.length ≠ 1
    · exact .inr (by simp only [if_pos hone]; rfl)
    · exact .inl ⟨after, by simp only [if_neg hone]; rfl⟩

section
variable (hq : QuoteFree m.name.toList) (hdump : QuoteFree (runtime.dump m.jsonData).toList)
  (hstatus : DecimalText.intMin ≤ m.status ∧ m.status ≤ DecimalText.intMax)
include hq hdump hstatus

variable (moment) in
lemma update_accepted {name : String} {j : Json} (h : Accepts env runtime d m name j) :
    (RegistryRepository.update (textConnection env runtime moment) d m).2.rows =
      updatedRows registryListing d m.id (registryAssigned name m.status j) := by
  obtain ⟨_, ht, hlen, _⟩ := fitVarchar_text h.fits
  obtain rfl := SqlConditions.Value.text.inj ht
  have hc := (registry_consistent_iff m.id (j := j) hlen hstatus).mpr h.free
  rw [(registry_update_iff _ _ _ hq hdump hstatus).mpr
    ⟨h.nulFree, name, j, h.fits, h.stored, hc, rfl⟩]

variable (moment) in
lemma update_rejected (h : ∀ name j, ¬ Accepts env runtime d m name j) :
    (RegistryRepository.update (textConnection env runtime moment) d m).2.rows = d.rows := by
  rcases committed_or_same (d := d) (textConnection env runtime moment)
    (.update (RegistryRepository.updateModel runtime m)) false with ⟨d', hok⟩ | hsame
  · obtain ⟨hnul, name, j, hfit, hj, hc, _⟩ :=
      (registry_update_iff env moment d' hq hdump hstatus).mp hok
    obtain ⟨_, ht, hlen, _⟩ := fitVarchar_text hfit
    obtain rfl := SqlConditions.Value.text.inj ht
    exact absurd ⟨hnul, hfit, hj, (registry_consistent_iff _ hlen hstatus).mp hc⟩ (h name j)
  · exact hsame

/-- The update leaves the other rows alone exactly if it means the row with the id or
changes nothing. -/
lemma update_framed_iff :
    Framed "registry" k d (RegistryRepository.update (textConnection env runtime moment) d m).2 ↔
      m.id = k ∨ Harmless env runtime d m := by
  by_cases haccepts : ∃ name j, Accepts env runtime d m name j
  · obtain ⟨name, j, ha⟩ := haccepts
    have hrows := update_accepted moment hq hdump hstatus ha
    constructor
    · intro hframed
      refine or_iff_not_imp_left.mpr (fun hk name' j' ha' r hr hrid => ?_)
      obtain rfl := SqlConditions.Value.text.inj (Except.ok.inj (ha.fits.symm.trans ha'.fits))
      obtain rfl := Option.some.inj (ha.stored.symm.trans ha'.stored)
      have hsame := hframed.rows
      rw [hrows, updatedRows, show registryListing.own.name = "registry" from rfl,
        Function.update_self, List.forall₂_map_right_iff, List.forall₂_same] at hsame
      have hrk : r "id" ≠ .int k := by
        rw [hrid]
        exact fun h => hk (SqlConditions.Value.int.inj h)
      have hset := hsame r hr hrk
      rw [withId_of_eq hrid] at hset
      exact ⟨(congrFun hset "name").symm, (congrFun hset "status").symm,
        (congrFun hset "json_data").symm⟩
    · rintro (rfl | hharmless)
      · exact framed_updated registryListing hrows
      · refine ⟨(framed_updated registryListing hrows).tables, ?_⟩
        rw [hrows, updatedRows, show registryListing.own.name = "registry" from rfl,
          Function.update_self, List.forall₂_map_right_iff, List.forall₂_same]
        intro r hr _
        by_cases hrid : r "id" = .int m.id
        · obtain ⟨hname, hint, hjson⟩ := hharmless name j ha r hr hrid
          rw [withId_of_eq hrid]
          refine setColumns_eq_self ?_
          rw [registryAssigned, List.forall_mem_cons, List.forall_mem_cons,
            List.forall_mem_singleton]
          exact ⟨hname, hint, hjson⟩
        · exact withId_of_ne hrid
  · have hrows := update_rejected moment hq hdump hstatus
      (fun name j ha => haccepts ⟨name, j, ha⟩)
    constructor
    · exact fun _ => .inr (fun name j ha => absurd ⟨name, j, ha⟩ haccepts)
    · refine fun _ => ⟨fun name _ => by rw [hrows], ?_⟩
      rw [hrows, List.forall₂_same]
      exact fun _ _ _ => rfl

end

end

/-- The strings of the body that become data of the update. -/
def QuoteFreeBody (runtime : Runtime) (m : RegistryDo) : Prop :=
  QuoteFree m.name.toList ∧ QuoteFree (runtime.dump m.jsonData).toList

/-- Which puts leave every row alone but the one of the query: those whose strings
stay inside their literals and that either mean this row or are harmless. -/
theorem put_frame_iff (env : Env) (runtime : Runtime) (moment : Moment) (d : Database schema)
    (k : Int) {body : String} {j : Json} {m : RegistryDo} (hbody : runtime.parse body = some j)
    (hm : RegistryDo.fromJson j = some m) :
    (QuoteFreeBody runtime m ∧ (m.id = k ∨ Harmless env runtime d m) →
      Framed "registry" k d (registryController.handle (textConnection env runtime moment) d
        (putRegistry k body)).2) ∧
    (QuoteFreeBody runtime m →
      Framed "registry" k d (registryController.handle (textConnection env runtime moment) d
        (putRegistry k body)).2 → m.id = k ∨ Harmless env runtime d m) := by
  rw [handle_put (c := textConnection env runtime moment) hbody hm]
  constructor
  · rintro ⟨⟨hq, hdump⟩, h⟩
    exact (update_framed_iff hq hdump (status_range hm)).mpr h
  · rintro ⟨hq, hdump⟩ h
    exact (update_framed_iff hq hdump (status_range hm)).mp h

/-! On the shipped rows. -/

/-- The second shipped registry under a new name. -/
def garage : RegistryDo := ⟨2, "", "garage", "", 0, RegistrySchema.online⟩

def garageBody : String :=
  "\x7b\"createdAt\":\"\",\"id\":2,\"json_data\":\x7b\"status\":\"online\"\x7d," ++
    "\"name\":\"garage\",\"status\":0,\"uuid\":\"\"\x7d"

/-- The client's JSON library on the body, too. -/
def bodyRuntime : Runtime :=
  { shippedRuntime with parse := fun text =>
      if text = garageBody then some garage.toJson else shippedRuntime.parse text }

lemma garage_parsed : bodyRuntime.parse garageBody = some garage.toJson := by
  change (if garageBody = garageBody then some garage.toJson
    else shippedRuntime.parse garageBody) = _
  rw [if_pos rfl]

lemma garage_decoded : RegistryDo.fromJson garage.toJson = some garage :=
  fromJson_toJson (by decide) (by decide)

theorem put_frame_shipped :
    Framed "registry" 2 RegistrySchema.shipped (registryController.handle
      (textConnection RegistrySchema.shippedEnv bodyRuntime RegistrySchema.setup)
      RegistrySchema.shipped (putRegistry 2 garageBody)).2 :=
  (put_frame_iff RegistrySchema.shippedEnv bodyRuntime RegistrySchema.setup RegistrySchema.shipped 2
    (m := garage) garage_parsed garage_decoded).1 ⟨⟨by decide, by decide⟩, .inl rfl⟩

/-- `PUT /api/registries?id=1` with a body of id 2 renames the registry 2. -/
theorem put_other_row :
    ¬ Framed "registry" 1 RegistrySchema.shipped (registryController.handle
      (textConnection RegistrySchema.shippedEnv bodyRuntime RegistrySchema.setup)
      RegistrySchema.shipped (putRegistry 1 garageBody)).2 := by
  have haccepts : Accepts RegistrySchema.shippedEnv bodyRuntime RegistrySchema.shipped garage
      "garage" RegistrySchema.online := ⟨by decide, rfl, rfl, by decide⟩
  rw [handle_put (m := garage) (c := textConnection RegistrySchema.shippedEnv bodyRuntime
    RegistrySchema.setup) garage_parsed garage_decoded, update_framed_iff (by decide) (by decide)
    (by decide)]
  rintro (h | h)
  · exact absurd h (by decide)
  · obtain ⟨hname, _⟩ := h "garage" RegistrySchema.online haccepts
      (newRow RegistrySchema.setup RegistrySchema.registry 1 [("id", .int 2),
        ("name", .text "crearts-iot"), ("uuid", .text "c93af2d0-c0bf-11ed-afa1-0242ac120002"),
        ("json_data", .json RegistrySchema.online)]) (.tail _ (.head _)) rfl
    exact absurd hname (by decide)

end RestController
