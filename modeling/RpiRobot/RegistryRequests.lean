import RpiRobot.LostUpdates
import RpiRobot.Paging
import RpiRobot.RegistryStore
import RpiRobot.TextPages

/-!
# The requests for registries

From the target of a request to the texts of its statements: the server answers every sequence of
requests for registries as the store of registries would. Without an id in the query only a get
does something.
-/

namespace RegistryRequests

open SqlConditions (Row Value)
open SqlTables SqlServers
open HttpRouter (Method)
open RequestParams DomainObjects Repositories RepositoryStatements FieldQueries
open RestController RowDecoding TextQueries TextWrites
open RestProtocol (OriginForm WireRequest idQuery registries idFilter)
open RegistryStore hiding idFilter
open RegistrySchema (schema)

-- Without this the unifier tries to parse the text of a statement.
attribute [local irreducible] textServer

/-! ## The requests -/

/-- The libraries of the server, and its handlers of the other resources. -/
structure Server where
  env : Env
  runtime : Runtime
  form : OriginForm
  others : RestProtocol.Handler → HttpRequest → Handled

/-- A request for registries, with an id in its query or without one. -/
structure Request where
  method : Method
  id : Option Int
  body : String
  served : method ∈ [Method.get, .put, .post, .delete_]

def Request.target (request : Request) : String :=
  match request.id with
  | some id => registries.path ++ "?" ++ idQuery id
  | none => registries.path

def Request.wire (request : Request) : WireRequest :=
  ⟨request.method, request.target, request.body⟩

/-- The operations of the web client are such requests. -/
def ofOperation (stringify : Json → String) : RestProtocol.Operation → Request
  | .create data => ⟨.post, none, stringify (.object [("params", data)]), by decide⟩
  | .update id data => ⟨.put, some id, stringify data, by decide⟩
  | .remove id => ⟨.delete_, some id, "", by decide⟩
  | .get id => ⟨.get, some id, "", by decide⟩
  | .removeAll => ⟨.delete_, none, "", by decide⟩

lemma ofOperation_wire (stringify : Json → String) (op : RestProtocol.Operation) :
    (ofOperation stringify op).wire = RestProtocol.registryRequest stringify op := by
  cases op <;> rfl

/-- The text of a successful answer, and the database after it. -/
def exchange (w : Server) (d : Database schema) :
    Moment × Request → Option String × Database schema
  | (moment, request) =>
    let answer := RestProtocol.process w.form w.others (textConnection w.env w.runtime moment) d
      request.wire
    (LostUpdates.answerText answer, LostUpdates.databaseAfter d answer)

/-! ## The store -/

/-- The items in the order of their numbers. -/
structure Lists (store : Store) (items : List RegistryDo) : Prop where
  ordered : items.Pairwise fun a b => a.id < b.id
  mem : ∀ o, o ∈ items ↔ store.items o.id = some o

/-- The list of a store with finitely many items. -/
noncomputable def listing (store : Store) : List RegistryDo := Classical.epsilon (Lists store)

noncomputable def firstPage (store : Store) : Page RegistryDo :=
  ⟨(listing store).take 10, (listing store).length⟩

/-- Of a write the answer says only that it was made. -/
def written {S : Type} : Answer × S → Option String × S
  | (.refused, s) => (none, s)
  | (_, s) => (some success, s)

def unimplemented : String := "\x7b\"message\": \"Handler not implemented\"\x7d"

/-- The registry of a body. -/
def decoded (runtime : Runtime) (body : String) : Option RegistryDo :=
  (runtime.parse body).bind RegistryDo.fromJson

/-- A write of the registry in the body, if there is one. -/
noncomputable def withBody (runtime : Runtime) (held : Int → Prop) (store : Store)
    (moment : Moment) (body : String) (call : RegistryDo → Call) : Option String × Store :=
  match decoded runtime body with
  | some m => written (store.call held (moment, call m))
  | none => (none, store)

/-- What the store answers to a request. An update is of the number in the body. -/
noncomputable def serve (runtime : Runtime) (held : Int → Prop) (store : Store) :
    Moment × Request → Option String × Store
  | (moment, request) =>
    match request.method, request.id with
    | .get, some id => (some (runtime.dump (registryController.itemJson (store.items id))), store)
    | .get, none => (some (runtime.dump (registryController.pageJson (firstPage store))), store)
    | .post, some _ => withBody runtime held store moment request.body .insert
    | .put, some _ => withBody runtime held store moment request.body .update
    | .delete_, some id => written (store.call held (moment, .remove id))
    | _, _ => (some unimplemented, store)

/-- The ids in queries are numbers of the column, as the server refuses other literals. The
registries in bodies have strings that can be written. -/
def Admits (w : Server) (store : Store) : Moment × Request → Prop
  | (moment, request) => ∀ id, request.id = some id →
    (DecimalText.intMin ≤ id ∧ id ≤ DecimalText.intMax) ∧
    ∀ m, decoded w.runtime request.body = some m →
      (request.method = .post → Admitted w.env w.runtime store (moment, .insert m)) ∧
      (request.method = .put → Writable w.env w.runtime m)

section
variable {w : Server} {held : Int → Prop} {d : Database schema} {store : Store} {moment : Moment}

/-! ## The list -/

lemma Lists.listing_eq {items : List RegistryDo} (h : Lists store items) :
    listing store = items := by
  have hlisting : Lists store (listing store) := Classical.epsilon_spec ⟨items, h⟩
  have hirrefl : Std.Irrefl fun a b : RegistryDo => a.id < b.id := ⟨fun a => lt_irrefl a.id⟩
  exact hlisting.ordered.eq_of_mem_iff h.ordered fun {o} => (hlisting.mem o).trans (h.mem o).symm

/-- The rows in the order of their ids. -/
def sorted (d : Database schema) : List Row := sortRows (some ⟨"id", false⟩) (d.rows "registry")

lemma mem_sorted {r : Row} : r ∈ sorted d ↔ r ∈ d.rows "registry" :=
  (Paging.sort_perm false (d.rows "registry")).mem_iff

lemma idOf_int {r : Row} {n : Int} (h : r "id" = .int n) : idOf r = n := by
  rw [idOf, h]

/-- The sorted rows show the list of the store. -/
lemma sorted_lists (h : Shows w.env w.runtime held d store) :
    ∃ items, List.Forall₂ (fun r o => RegistryShows w.env w.runtime o r) (sorted d) items ∧
      Lists store items := by
  have hreadable : ∀ r ∈ sorted d, ∃ o, RegistryShows w.env w.runtime o r := by
    intro r hr
    obtain ⟨o, hshows, -⟩ := h.item r (mem_sorted.mp hr)
    exact ⟨o, hshows⟩
  obtain ⟨items, hitems⟩ := ListResults.exists_forall₂_iff.mpr hreadable
  have hids : (sorted d).map idOf = items.map RegistryDo.id := by
    rw [← List.forall₂_eq_eq_eq, List.forall₂_map_left_iff, List.forall₂_map_right_iff]
    exact hitems.imp fun r o ho => idOf_int ho.id
  have hordered : (items.map RegistryDo.id).Pairwise (· < ·) := by
    rw [← hids, List.pairwise_map]
    exact (Paging.sort_before registryListing (List.Sublist.refl _) false).imp
      fun ⟨m, n, hm, hn, hlt⟩ => by rwa [idOf_int hm, idOf_int hn]
  refine ⟨items, hitems, List.pairwise_map.mp hordered, fun o => ⟨fun ho => ?_, fun hitem => ?_⟩⟩
  · obtain ⟨r, hr, hshows⟩ := ListResults.exists_of_forall₂ hitems.flip ho
    obtain ⟨o', hshows', hitem⟩ := h.item r (mem_sorted.mp hr)
    rwa [hshows.unique hshows']
  · obtain ⟨-, r, hr, hshows⟩ := h.row o.id o hitem
    obtain ⟨o', ho', hshows'⟩ := ListResults.exists_of_forall₂ hitems (mem_sorted.mpr hr)
    rwa [hshows.unique hshows']

/-- Without a condition the text of a page is read as its parts are. -/
lemma findAll_text (page : PageRequest) :
    RegistryRepository.findAll (textConnection w.env w.runtime moment) (fun _ => d)
        Filter.create page =
      RegistryRepository.findAll (fieldConnection w.env w.runtime moment TextPages.sqlReading)
        (fun _ => d) Filter.create page := by
  have hasks : TextPages.Asks w.env RegistrySchema.registry Filter.create [] :=
    ⟨.nil, fun _ h => absurd h List.not_mem_nil, fun _ h => absurd h List.not_mem_nil⟩
  have hdata : (textConnection w.env w.runtime moment).query d
        (.select (RegistryRepository.selectData Filter.create page)) =
      (fieldConnection w.env w.runtime moment TextPages.sqlReading).query d
        (.select (RegistryRepository.selectData Filter.create page)) :=
    hasks.query (renders_registry_page Filter.create page) rfl rfl
      (nulFree_page (by decide) (by decide) (by decide) hasks.nulFree page)
  have hcount : (textConnection w.env w.runtime moment).query d
        (.select (RegistryRepository.selectCount Filter.create)) =
      (fieldConnection w.env w.runtime moment TextPages.sqlReading).query d
        (.select (RegistryRepository.selectCount Filter.create)) :=
    hasks.query (renders_registry_count Filter.create) rfl rfl
      (TextPages.nulFree_count (by decide) (by decide) hasks.nulFree)
  exact registry_findAll_congr rfl hdata hcount

variable (moment) in
lemma findAll_page (h : Shows w.env w.runtime held d store) :
    registryController.repository.findAll (textConnection w.env w.runtime moment) (fun _ => d)
      Filter.create ⟨0, 10, true⟩ = .ok (firstPage store) := by
  obtain ⟨items, hitems, hlists⟩ := sorted_lists h
  have hall : (d.rows "registry").filter
      (Matches TextPages.sqlReading "registry" Filter.create) = d.rows "registry" :=
    List.filter_eq_self.mpr fun _ _ => rfl
  change RegistryRepository.findAll (textConnection w.env w.runtime moment) (fun _ => d)
    Filter.create ⟨0, 10, true⟩ = _
  rw [findAll_text, PageResults.registry_page (by decide) (by decide), firstPage,
    hlists.listing_eq]
  constructor
  · have hrows : pageRows TextPages.sqlReading "registry" Filter.create false ⟨0, 10, true⟩
        (d.rows "registry") = (sorted d).take 10 := by
      rw [pageRows, hall]
      rfl
    rw [hrows]
    refine (ListResults.forall₂_congr_mem fun r hr o => ?_).mpr (List.forall₂_take 10 hitems)
    exact registry_decode d.consistent (mem_sorted.mp (List.mem_of_mem_take hr)) o
  · rw [hall, PageResults.totalOf, if_pos rfl, ← hitems.length_eq]
    exact (Paging.sort_perm false (d.rows "registry")).length_eq

lemma handleGet_ok {T : Type} {controller : RestRepositoryController T} {c : Connection}
    {params : HttpRequestParams} {page : Page T}
    (h : controller.repository.findAll c (fun _ => d) params.filter params.page = .ok page) :
    controller.handleGet c d params = (.ok (c.runtime.dump (controller.pageJson page)), d) := by
  rw [RestRepositoryController.handleGet, h]

/-! ## One request -/

/-- The two sides answer alike, and the rows show the items afterwards. -/
def Agree (w : Server) (held : Int → Prop) (a : Option String × Database schema)
    (b : Option String × Store) : Prop :=
  a.1 = b.1 ∧ Shows w.env w.runtime held a.2 b.2

/-- What a handler gives, as the client gets it. -/
def delivered (handled : Handled) : Option String × Database schema :=
  (LostUpdates.answerText (.ok handled), handled.2)

variable (d) in
lemma delivered_eq (handled : Handled) :
    (LostUpdates.answerText (.ok handled), LostUpdates.databaseAfter d (.ok handled)) =
      delivered handled := by
  obtain ⟨result, d'⟩ := handled
  rfl

/-- A write is answered like the call that it makes. -/
lemma written_agree {α : Type} {f : α → Answer} (hf : ∀ a, f a ≠ .refused)
    {result : Outcome α × Database schema} {b : Answer × Store}
    (h : (answer f result).1 = b.1 ∧ Shows w.env w.runtime held (answer f result).2 b.2) :
    Agree w held (delivered (RestRepositoryController.written result)) (written b) := by
  obtain ⟨outcome, d'⟩ := result
  obtain ⟨reply, store'⟩ := b
  obtain ⟨hanswer, hshows⟩ := h
  cases outcome with
  | error e =>
    obtain rfl : Answer.refused = reply := hanswer
    exact ⟨rfl, hshows⟩
  | ok x =>
    obtain rfl : f x = reply := hanswer
    cases hx : f x with
    | refused => exact absurd hx (hf x)
    | id n => exact ⟨rfl, hshows⟩
    | done => exact ⟨rfl, hshows⟩
    | object o => exact ⟨rfl, hshows⟩

variable (w d moment) in
/-- A request with an id gets to the handlers of one object. -/
lemma exchange_one (request : Request) {id : Int} (hid : request.id = some id) :
    exchange w d (moment, request) = delivered (registryController.dispatch
      (textConnection w.env w.runtime moment) d
      ⟨RestProtocol.verbOf request.method, some [("id", toString id)], request.body⟩
      ⟨idFilter id, ⟨0, 10, true⟩⟩) := by
  have hwire : request.wire =
      ⟨request.method, registries.path ++ "?" ++ idQuery id, request.body⟩ := by
    rw [Request.wire, Request.target, hid]
  rw [exchange, hwire, RestProtocol.process_id registries w.form w.others _ d request.method
    request.served id request.body]
  exact delivered_eq d _

lemma get_agree (h : Shows w.env w.runtime held d store) {request : Request} {id : Int}
    (hmethod : request.method = .get) (hid : request.id = some id) :
    Agree w held (exchange w d (moment, request))
      (serve w.runtime held store (moment, request)) := by
  have hfind : registryController.repository.findOne (textConnection w.env w.runtime moment)
      (fun _ => d) (idFilter id) = .ok (store.items id) :=
    findOne_item moment h (LostUpdates.looks_id w.env d id)
  have hexchange : exchange w d (moment, request) = delivered (registryController.handleGetOne
      (textConnection w.env w.runtime moment) d ⟨idFilter id, ⟨0, 10, true⟩⟩) := by
    rw [exchange_one w d moment request hid, hmethod]
    rfl
  rw [hexchange, RestRepositoryController.handleGetOne]
  simp only [hfind, serve, hmethod, hid]
  exact ⟨rfl, h⟩

variable (w d moment) in
/-- A get without an id is for the first page of a list. -/
lemma process_list {T : Type} (resource : RestProtocol.Resource T) (body : String) :
    RestProtocol.process w.form w.others (textConnection w.env w.runtime moment) d
        ⟨.get, resource.path, body⟩ =
      .ok (resource.controller.handleGet (textConnection w.env w.runtime moment) d
        ⟨Filter.create, ⟨0, 10, true⟩⟩) := by
  have hparams := w.form.parse_path resource.path resource.unencoded
  rw [RestProtocol.process,
    HttpRouter.process_plain resource.plain (resource.registered .get (by decide))]
  change Except.ok (RestProtocol.handleWith w.others _ d ⟨.get, w.form.parse _, body⟩
    resource.handler) = _
  rw [resource.handles, hparams]
  rfl

lemma list_agree (h : Shows w.env w.runtime held d store) {request : Request}
    (hmethod : request.method = .get) (hid : request.id = none) :
    Agree w held (exchange w d (moment, request))
      (serve w.runtime held store (moment, request)) := by
  have hwire : request.wire = ⟨.get, registries.path, request.body⟩ := by
    rw [Request.wire, Request.target, hid, hmethod]
  have hexchange : exchange w d (moment, request) = delivered (registryController.handleGet
      (textConnection w.env w.runtime moment) d ⟨Filter.create, ⟨0, 10, true⟩⟩) := by
    rw [exchange, hwire, process_list w d moment registries request.body]
    exact delivered_eq d _
  rw [hexchange, handleGet_ok (findAll_page moment h)]
  simp only [serve, hmethod, hid]
  exact ⟨rfl, h⟩

lemma delete_agree (h : Shows w.env w.runtime held d store) {request : Request} {id : Int}
    (hmethod : request.method = .delete_) (hid : request.id = some id) :
    Agree w held (exchange w d (moment, request))
      (serve w.runtime held store (moment, request)) := by
  have hexchange : exchange w d (moment, request) = delivered (RestRepositoryController.written
      (RegistryRepository.repository.deleteByFilter (textConnection w.env w.runtime moment) d
        (idFilter id))) := by
    rw [exchange_one w d moment request hid, hmethod]
    rfl
  rw [hexchange]
  simp only [serve, hmethod, hid]
  exact written_agree (f := fun _ => .done) (by simp)
    (delete_refines h (LostUpdates.looks_id w.env d id))

variable (moment) in
lemma parseBody_some {parsed : HttpRequest} {m : RegistryDo}
    (hm : decoded w.runtime parsed.body = some m) :
    registryController.parseBody (textConnection w.env w.runtime moment) parsed = .ok m := by
  have hdecode : ((textConnection w.env w.runtime moment).runtime.parse parsed.body).bind
      registryController.fromJson = some m := hm
  rw [RestRepositoryController.parseBody, hdecode]

variable (moment) in
lemma parseBody_none {parsed : HttpRequest} (hm : decoded w.runtime parsed.body = none) :
    registryController.parseBody (textConnection w.env w.runtime moment) parsed =
      .error .body := by
  have hdecode : ((textConnection w.env w.runtime moment).runtime.parse parsed.body).bind
      registryController.fromJson = none := hm
  rw [RestRepositoryController.parseBody, hdecode]

/-- A body without a registry is refused; the registry of another is written. -/
lemma body_agree (h : Shows w.env w.runtime held d store) {body : String} {handled : Handled}
    {call : RegistryDo → Call}
    (hnone : decoded w.runtime body = none → handled = (.error .body, d))
    (hsome : ∀ m, decoded w.runtime body = some m →
      Agree w held (delivered handled) (written (store.call held (moment, call m)))) :
    Agree w held (delivered handled) (withBody w.runtime held store moment body call) := by
  rw [withBody]
  cases hm : decoded w.runtime body with
  | none =>
    rw [hnone hm]
    exact ⟨rfl, h⟩
  | some m => exact hsome m hm

lemma post_agree (h : Shows w.env w.runtime held d store) {request : Request} {id : Int}
    (ha : Admits w store (moment, request)) (hmethod : request.method = .post)
    (hid : request.id = some id) :
    Agree w held (exchange w d (moment, request))
      (serve w.runtime held store (moment, request)) := by
  have hexchange : exchange w d (moment, request) = delivered (registryController.handlePostOne
      (textConnection w.env w.runtime moment) d
      ⟨.post, some [("id", toString id)], request.body⟩) := by
    rw [exchange_one w d moment request hid, hmethod]
    rfl
  rw [hexchange, RestRepositoryController.handlePostOne]
  simp only [serve, hmethod, hid]
  refine body_agree h (fun hnone => ?_) fun m hm => ?_
  · rw [parseBody_none moment hnone]
  · rw [parseBody_some moment hm]
    exact written_agree (f := Answer.id) (by simp)
      (insert_refines h (((ha id hid).2 m hm).1 hmethod))

lemma put_agree (h : Shows w.env w.runtime held d store) {request : Request} {id : Int}
    (ha : Admits w store (moment, request)) (hmethod : request.method = .put)
    (hid : request.id = some id) :
    Agree w held (exchange w d (moment, request))
      (serve w.runtime held store (moment, request)) := by
  have hexchange : exchange w d (moment, request) = delivered (registryController.handlePutOne
      (textConnection w.env w.runtime moment) d
      ⟨.put, some [("id", toString id)], request.body⟩) := by
    rw [exchange_one w d moment request hid, hmethod]
    rfl
  rw [hexchange, RestRepositoryController.handlePutOne]
  simp only [serve, hmethod, hid]
  refine body_agree h (fun hnone => ?_) fun m hm => ?_
  · rw [parseBody_none moment hnone]
  · have hstatus : DecimalText.intMin ≤ m.status ∧ m.status ≤ DecimalText.intMax := by
      obtain ⟨j, -, hj⟩ := Option.bind_eq_some_iff.mp hm
      exact status_range hj
    rw [parseBody_some moment hm]
    exact written_agree (f := fun _ => .done) (by simp)
      (update_refines h ⟨((ha id hid).2 m hm).2 hmethod, hstatus⟩)

lemma none_agree (h : Shows w.env w.runtime held d store) {request : Request}
    (hmethod : request.method ≠ .get) (hid : request.id = none) :
    Agree w held (exchange w d (moment, request))
      (serve w.runtime held store (moment, request)) := by
  have hwire : request.wire = ⟨request.method, registries.path, request.body⟩ := by
    rw [Request.wire, Request.target, hid]
  have hexchange : exchange w d (moment, request) = (some unimplemented, d) := by
    rw [exchange, hwire, RestProtocol.process_all registries w.form w.others _ d request.method
      request.served hmethod]
    rfl
  have hserve : serve w.runtime held store (moment, request) = (some unimplemented, store) := by
    rw [serve, hid]
    cases hm : request.method <;> first | rfl | exact absurd hm hmethod
  rw [hexchange, hserve]
  exact ⟨rfl, h⟩

lemma request_agrees (h : Shows w.env w.runtime held d store) (e : Moment × Request)
    (ha : Admits w store e) : Agree w held (exchange w d e) (serve w.runtime held store e) := by
  obtain ⟨moment, request⟩ := e
  have hserved := request.served
  simp only [List.mem_cons, List.not_mem_nil, or_false] at hserved
  cases hid : request.id with
  | none =>
    by_cases hget : request.method = .get
    · exact list_agree h hget hid
    · exact none_agree h hget hid
  | some id =>
    rcases hserved with hget | hput | hpost | hdelete
    · exact get_agree h hget hid
    · exact put_agree h ha hput hid
    · exact post_agree h ha hpost hid
    · exact delete_agree h hdelete hid

end

/-- The server answers every sequence of requests for registries as the store does. -/
theorem requests_refine_store {w : Server} {held : Int → Prop} {d : Database schema}
    {store : Store} (h : Shows w.env w.runtime held d store) {requests : List (Moment × Request)}
    (ha : EventRuns.Meets (fun store e => (serve w.runtime held store e).2) (Admits w) store
      requests) :
    EventRuns.answers (exchange w) d requests =
        EventRuns.answers (serve w.runtime held) store requests ∧
      Shows w.env w.runtime held (EventRuns.called (exchange w) d requests)
        (EventRuns.called (serve w.runtime held) store requests) :=
  EventRuns.answers_eq (Shows w.env w.runtime held) (fun _ _ e hs he => request_agrees hs e he)
    h ha

/-! On the shipped rows. -/

/-- The JSON library on an answer without an object, too. -/
def answeringRuntime : Runtime :=
  { bodyRuntime with
    dump := fun j => match j with
      | .object [("data", .null)] => "\x7b\"data\":null\x7d"
      | j => shippedDump j
    dump_nulFree := fun j => by
      split
      · decide
      · exact shippedRuntime.dump_nulFree _ }

def shippedServer : Server :=
  ⟨RegistrySchema.shippedEnv, answeringRuntime, RestProtocol.splitForm,
    fun _ _ => defaultHandler RegistrySchema.shipped⟩

/-- A registry `garage` is inserted, so that none can be renamed to it before it is removed
again. A registry that is held is not removed, and no registry is created. -/
def shippedRequests : List (Moment × Request) :=
  [(InsertReadBack.later, ⟨.post, some 7, garageBody, by decide⟩),
    (InsertReadBack.later, ⟨.put, some 2, garageBody, by decide⟩),
    (InsertReadBack.later, ⟨.delete_, some 3, "", by decide⟩),
    (InsertReadBack.later, ⟨.get, some 3, "", by decide⟩),
    (InsertReadBack.later, ⟨.put, some 2, garageBody, by decide⟩),
    (InsertReadBack.later, ⟨.delete_, some 2, "", by decide⟩),
    (InsertReadBack.later, ⟨.post, none, garageBody, by decide⟩)]

lemma garage_of_body {m : RegistryDo} (hm : decoded shippedServer.runtime garageBody = some m) :
    m = garage := by
  have hparsed : shippedServer.runtime.parse garageBody = some garage.toJson := garage_parsed
  rw [decoded, hparsed, Option.bind_some, garage_decoded] at hm
  exact (Option.some.inj hm).symm

lemma garage_writable : Writable shippedServer.env shippedServer.runtime garage :=
  ⟨by decide, by decide, by decide, by decide, RegistrySchema.online, rfl, rfl⟩

lemma put_garage (store : Store) :
    Admits shippedServer store (InsertReadBack.later, ⟨.put, some 2, garageBody, by decide⟩) := by
  intro id hid
  obtain rfl := Option.some.inj hid
  refine ⟨by decide, fun m hm => ⟨fun h => absurd h (by decide), fun _ => ?_⟩⟩
  obtain rfl := garage_of_body hm
  exact garage_writable

lemma without_body (store : Store) {request : Request}
    (hid : ∀ id, request.id = some id → DecimalText.intMin ≤ id ∧ id ≤ DecimalText.intMax)
    (hpost : request.method ≠ .post) (hput : request.method ≠ .put) :
    Admits shippedServer store (InsertReadBack.later, request) :=
  fun id h => ⟨hid id h, fun _ _ => ⟨fun hp => absurd hp hpost, fun hp => absurd hp hput⟩⟩

lemma of_some {k : Int} (hk : DecimalText.intMin ≤ k ∧ k ≤ DecimalText.intMax) (id : Int)
    (h : some k = some id) : DecimalText.intMin ≤ id ∧ id ≤ DecimalText.intMax :=
  Option.some.inj h ▸ hk

theorem requests_refine_shipped :
    EventRuns.answers (exchange shippedServer) InsertReadBack.advanced shippedRequests =
        EventRuns.answers (serve shippedServer.runtime (Held InsertReadBack.advanced))
          shippedStore shippedRequests ∧
      Shows shippedServer.env shippedServer.runtime (Held InsertReadBack.advanced)
        (EventRuns.called (exchange shippedServer) InsertReadBack.advanced shippedRequests)
        (EventRuns.called (serve shippedServer.runtime (Held InsertReadBack.advanced))
          shippedStore shippedRequests) := by
  refine requests_refine_store (shipped_shows rfl) ⟨?_, put_garage _,
    without_body _ (of_some (by decide)) (by decide) (by decide),
    without_body _ (of_some (by decide)) (by decide) (by decide), put_garage _,
    without_body _ (of_some (by decide)) (by decide) (by decide), fun _ h => absurd h (by simp),
    trivial⟩
  intro id hid
  obtain rfl := Option.some.inj hid
  refine ⟨by decide, fun m hm => ⟨fun _ => ?_, fun h => absurd h (by decide)⟩⟩
  obtain rfl := garage_of_body hm
  refine ⟨garage_writable, by decide, fun k o hitem => ?_⟩
  rcases shippedStore_items hitem with ⟨-, rfl⟩ | ⟨-, rfl⟩ <;> decide

end RegistryRequests
