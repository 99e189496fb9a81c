import RpiRobot.HttpRouter
import RpiRobot.RestController

/-!
# The REST protocol

What the repositories of the web client send and what the server does with it. A request
without an id in its query reaches no handler of the controllers but the one for lists, so
the two operations that name no object are answered, and do nothing.
-/

namespace RestProtocol

open SqlConditions (Row)
open SqlTables RequestParams DomainObjects Repositories RepositoryStatements
open HttpRouter RestController
open StringLiterals (QuoteFree)
open WhereClauses (Means)
open RegistrySchema (schema)

-- Without this the unifier tries to parse the text of a statement.
attribute [local irreducible] SqlServers.textServer

/-! ## The client -/

/-- What a repository of the web client is asked for. The data of an object is JSON, and an
id is an integer small enough for the client to print all its digits. -/
inductive Operation where
  | create (data : Json)
  | update (id : Int) (data : Json)
  | remove (id : Int)
  | get (id : Int)
  | removeAll

structure WireRequest where
  method : Method
  target : String
  body : String

/-- The query of one object. -/
def idQuery (id : Int) : String := "id=" ++ toString id

/-- The second argument of `axios.post` is the body, so what a create passes as `params`
becomes a member of it. -/
def request (stringify : Json → String) (path : String) : Operation → WireRequest
  | .create data => ⟨.post, path, stringify (.object [("params", data)])⟩
  | .update id data => ⟨.put, path ++ "?" ++ idQuery id, stringify data⟩
  | .remove id => ⟨.delete_, path ++ "?" ++ idQuery id, ""⟩
  | .get id => ⟨.get, path ++ "?" ++ idQuery id, ""⟩
  | .removeAll => ⟨.delete_, path, ""⟩

/-- The paths below the base `/api` of the client's `axios`. -/
def registryRequest (stringify : Json → String) : Operation → WireRequest :=
  request stringify "/api/registries"

def deviceRequest (stringify : Json → String) : Operation → WireRequest :=
  request stringify "/api/devices"

/-! ## The server -/

def deviceController : RestRepositoryController DeviceDo :=
  ⟨DeviceRepository.repository, DeviceDo.fromJson, DeviceDo.toJson⟩

inductive Handler where
  | rpc
  | registries
  | devices
  | telemetry
  | files
  deriving DecidableEq, Repr

/-- What `HttpService` registers, in this order. -/
def registrations : List (Request × Handler) := [
  (⟨.post, "/rpc"⟩, .rpc),
  (⟨.get, "/api/registries"⟩, .registries),
  (⟨.put, "/api/registries"⟩, .registries),
  (⟨.post, "/api/registries"⟩, .registries),
  (⟨.delete_, "/api/registries"⟩, .registries),
  (⟨.options, "/api/registries"⟩, .registries),
  (⟨.get, "/api/devices"⟩, .devices),
  (⟨.put, "/api/devices"⟩, .devices),
  (⟨.post, "/api/devices"⟩, .devices),
  (⟨.delete_, "/api/devices"⟩, .devices),
  (⟨.options, "/api/devices"⟩, .devices),
  (⟨.get, "/api/devices-telemetry"⟩, .telemetry),
  (⟨.delete_, "/api/devices-telemetry"⟩, .telemetry),
  (⟨.options, "/api/devices-telemetry"⟩, .telemetry),
  (⟨.get, "/**"⟩, .files)]

def addHandlers : Handlers Handler :=
  registrations.foldl (fun handlers r => handlers.registerHandler r.1.method r.1.path r.2) []

/-- A character that no URL encodes. -/
def unreserved (c : Char) : Bool := c.isAlphanum || c = '-' || c = '.' || c = '_' || c = '~'

/-- A path of such characters. -/
def PlainPath (path : String) : Prop :=
  path.toList.head? = some '/' ∧ path.toList.all (fun c => unreserved c || c = '/') = true

instance (path : String) : Decidable (PlainPath path) := inferInstanceAs (Decidable (_ ∧ _))

/-- The URL library: the decoded parameters of a target, as far as nothing in it is encoded. -/
structure OriginForm where
  parse : String → Option Params
  parse_path : ∀ path, PlainPath path → parse path = some []
  parse_single : ∀ path key value, PlainPath path → key.toList.all unreserved = true →
    value.toList.all unreserved = true →
    parse (path ++ "?" ++ (key ++ "=" ++ value)) = some [(key, value)]

def verbOf : Method → Verb
  | .get => .get
  | .post => .post
  | .put => .put
  | .delete_ => .delete_
  | .options => .other
  | .other _ => .other

def decoded (form : OriginForm) (request : WireRequest) : HttpRequest :=
  ⟨verbOf request.method, form.parse request.target, request.body⟩

/-- The handlers of the other resources are left open. -/
def handleWith (others : Handler → HttpRequest → Handled) (c : Connection) (d : Database schema)
    (request : HttpRequest) : Handler → Handled
  | .registries => registryController.handle c d request
  | .devices => deviceController.handle c d request
  | handler => others handler request

def process (form : OriginForm) (others : Handler → HttpRequest → Handled) (c : Connection)
    (d : Database schema) (request : WireRequest) : Except Unrouted Handled :=
  (addHandlers.process request.method request.target).map
    (handleWith others c d (decoded form request))

/-! ## The repository call that an operation names -/

/-- The filter has one condition, and it is that the id is this one. -/
def AsksFor (filter : Filter) (id : Int) : Prop :=
  ∃ cond e, texts filter = [SqlBuilder.Column.cond cond] ∧ Means cond e ∧
    ∀ (r : Row) (n : Int), r "id" = .int n → (e.sat r = true ↔ n = id)

/-- The answer to a lookup. -/
def found {T : Type} (controller : RestRepositoryController T) (c : Connection)
    (d : Database schema) : Outcome (Option T) → Handled
  | .ok item => (.ok (c.runtime.dump (controller.itemJson item)), d)
  | .error e => (.error (.repository e), d)

/-- The answer is that of the repository call which the operation names. -/
def Performs {T : Type} (controller : RestRepositoryController T) (c : Connection)
    (d : Database schema) : Operation → Except Unrouted Handled → Prop
  | .create data, answer => ∃ model, controller.fromJson data = some model ∧
      answer = .ok (RestRepositoryController.written (controller.repository.insert c d model))
  | .update _ data, answer => ∃ model, controller.fromJson data = some model ∧
      answer = .ok (RestRepositoryController.written (controller.repository.update c d model))
  | .remove id, answer => ∃ filter, AsksFor filter id ∧
      answer = .ok (RestRepositoryController.written
        (controller.repository.deleteByFilter c d filter))
  | .get id, answer => ∃ filter, AsksFor filter id ∧
      answer = .ok (found controller c d (controller.repository.findOne c (fun _ => d) filter))
  | .removeAll, answer => ∃ filter, texts filter = [] ∧
      answer = .ok (RestRepositoryController.written
        (controller.repository.deleteByFilter c d filter))

/-- The data is that of an object, and the server reads the text of the client as it. -/
def Operation.Sent {T : Type} (controller : RestRepositoryController T) (c : Connection)
    (stringify : Json → String) : Operation → Prop
  | .create data => (controller.fromJson data).isSome
  | .update _ data => (controller.fromJson data).isSome ∧
      c.runtime.parse (stringify data) = some data
  | _ => True

/-- The operation is on the object with an id. -/
def Operation.NamesId : Operation → Prop
  | .create _ => False
  | .removeAll => False
  | _ => True

/-! ## Ids in texts -/

lemma id_unreserved (id : Int) : (toString id).toList.all unreserved = true := by
  rw [List.all_eq_true]
  intro c hc
  rcases DecimalText.int_chars id c hc with hdigit | rfl
  · simp [unreserved, Char.isAlphanum, hdigit]
  · decide

/-- The filter that the query of an id becomes. -/
def idFilter (id : Int) : Filter := Filter.create.add "id" .opEq (.string (toString id))

lemma id_means (id : Int) : Means ((SqlBuilder.Column.of "id").eq (.string (toString id)))
    (.cmp .eq (.col "id") (.str (toString id))) :=
  (WhereClauses.atomic_compare FilterConditions.idColumn .eq (d := .string (toString id)) rfl
    (StringLiterals.quoteFree_int id)).means

lemma asksFor_id (id : Int) : AsksFor (idFilter id) id :=
  ⟨_, _, rfl, id_means id, fun _ _ hn => MemberConditions.literal_sat id hn⟩

/-! ## What the server does with the requests -/

/-- A path and the controller that is registered for it. -/
structure Resource (T : Type) where
  path : String
  handler : Handler
  controller : RestRepositoryController T
  plain : Plain path
  unencoded : PlainPath path
  registered : ∀ method ∈ [Method.get, .put, .post, .delete_],
    addHandlers.lookup ⟨method, path⟩ = some handler
  handles : ∀ others c d request,
    handleWith others c d request handler = controller.handle c d request

def registries : Resource RegistryDo where
  path := "/api/registries"
  handler := .registries
  controller := registryController
  plain := by decide
  unencoded := by decide
  registered := by decide
  handles _ _ _ _ := rfl

def devices : Resource DeviceDo where
  path := "/api/devices"
  handler := .devices
  controller := deviceController
  plain := by decide
  unencoded := by decide
  registered := by decide
  handles _ _ _ _ := rfl

section
variable {T : Type} (resource : Resource T) (form : OriginForm)
  (others : Handler → HttpRequest → Handled) (c : Connection) (d : Database schema)
  (method : Method) (hmethod : method ∈ [Method.get, .put, .post, .delete_])
include hmethod

/-- A request with an id gets to the handlers of one object. -/
lemma process_id (id : Int) (body : String) :
    process form others c d ⟨method, resource.path ++ "?" ++ idQuery id, body⟩
      = .ok (resource.controller.dispatch c d ⟨verbOf method, some [("id", toString id)], body⟩
          ⟨idFilter id, ⟨0, 10, true⟩⟩) := by
  have hparams : form.parse (resource.path ++ "?" ++ idQuery id) = some [("id", toString id)] :=
    form.parse_single resource.path "id" (toString id) resource.unencoded (by decide)
      (id_unreserved id)
  rw [process, process_query resource.plain (resource.registered method hmethod)]
  change Except.ok (handleWith others c d ⟨verbOf method, form.parse _, body⟩ resource.handler) = _
  rw [resource.handles, hparams]
  rfl

/-- A request without an id does nothing, unless it is a get. -/
lemma process_all (hget : method ≠ .get) (body : String) :
    process form others c d ⟨method, resource.path, body⟩ = .ok (defaultHandler d) := by
  have hparams := form.parse_path resource.path resource.unencoded
  rw [process, process_plain resource.plain (resource.registered method hmethod)]
  change Except.ok (handleWith others c d ⟨verbOf method, form.parse _, body⟩ resource.handler) = _
  rw [resource.handles, hparams]
  cases method with
  | get => exact absurd rfl hget
  | post => rfl
  | put => rfl
  | delete_ => rfl
  | options => rfl
  | other => rfl

end

lemma written_ne_default {α : Type} (res : Outcome α × Database schema) (d : Database schema) :
    RestRepositoryController.written res ≠ defaultHandler d := by
  obtain ⟨outcome, d'⟩ := res
  intro h
  cases outcome with
  | ok a => exact absurd (Except.ok.inj (congrArg Prod.fst h)) (by decide)
  | error e => exact nomatch congrArg Prod.fst h

section
variable {T : Type} (resource : Resource T) (form : OriginForm) (stringify : Json → String)
  (others : Handler → HttpRequest → Handled) (c : Connection) (d : Database schema)

lemma create_unanswered (data : Json) :
    ¬ Performs resource.controller c d (.create data)
      (process form others c d (request stringify resource.path (.create data))) := by
  rintro ⟨model, -, hanswer⟩
  have hdefault := process_all resource form others c d .post (by decide) (by decide)
    (stringify (.object [("params", data)]))
  exact written_ne_default _ d (Except.ok.inj (hanswer.symm.trans hdefault))

lemma removeAll_unanswered :
    ¬ Performs resource.controller c d .removeAll
      (process form others c d (request stringify resource.path .removeAll)) := by
  rintro ⟨filter, -, hanswer⟩
  have hdefault := process_all resource form others c d .delete_ (by decide)
    (by decide) ""
  exact written_ne_default _ d (Except.ok.inj (hanswer.symm.trans hdefault))

lemma update_performed {id : Int} {data : Json}
    (h : (Operation.update id data).Sent resource.controller c stringify) :
    Performs resource.controller c d (.update id data)
      (process form others c d (request stringify resource.path (.update id data))) := by
  obtain ⟨hmodel, hparse⟩ := h
  obtain ⟨model, hmodel⟩ := Option.isSome_iff_exists.mp hmodel
  have hprocess := process_id resource form others c d .put (by decide) id
    (stringify data)
  have hbody : resource.controller.parseBody c
      ⟨.put, some [("id", toString id)], stringify data⟩ = .ok model := by
    rw [RestRepositoryController.parseBody, hparse, Option.bind_some, hmodel]
  refine ⟨model, hmodel, hprocess.trans (congrArg Except.ok ?_)⟩
  change resource.controller.handlePutOne c d ⟨.put, some [("id", toString id)], stringify data⟩ = _
  rw [RestRepositoryController.handlePutOne, hbody]

lemma remove_performed (id : Int) :
    Performs resource.controller c d (.remove id)
      (process form others c d (request stringify resource.path (.remove id))) :=
  ⟨idFilter id, asksFor_id id,
    process_id resource form others c d .delete_ (by decide) id ""⟩

/-- A get looks the id up. -/
lemma process_get (id : Int) :
    process form others c d (request stringify resource.path (.get id)) =
      .ok (found resource.controller c d
        (resource.controller.repository.findOne c (fun _ => d) (idFilter id))) := by
  have hprocess := process_id resource form others c d .get (by decide) id ""
  refine hprocess.trans (congrArg Except.ok ?_)
  change resource.controller.handleGetOne c d ⟨idFilter id, ⟨0, 10, true⟩⟩ = _
  rw [RestRepositoryController.handleGetOne]
  cases resource.controller.repository.findOne c (fun _ => d) (idFilter id) with
  | ok item => rfl
  | error e => rfl

lemma get_performed (id : Int) :
    Performs resource.controller c d (.get id)
      (process form others c d (request stringify resource.path (.get id))) :=
  ⟨idFilter id, asksFor_id id, process_get resource form stringify others c d id⟩

/-- What is sent is done exactly if it names an object. -/
lemma performs_iff {op : Operation} (h : op.Sent resource.controller c stringify) :
    Performs resource.controller c d op
      (process form others c d (request stringify resource.path op)) ↔ op.NamesId := by
  cases op with
  | create data =>
    exact iff_of_false (create_unanswered resource form stringify others c d data) id
  | update k data =>
    exact iff_of_true (update_performed resource form stringify others c d h) trivial
  | remove k => exact iff_of_true (remove_performed resource form stringify others c d k) trivial
  | get k => exact iff_of_true (get_performed resource form stringify others c d k) trivial
  | removeAll =>
    exact iff_of_false (removeAll_unanswered resource form stringify others c d) id

end

/-- The server performs the operations of the client that name an object, and no other. -/
theorem rest_protocol_iff (form : OriginForm) (stringify : Json → String)
    (others : Handler → HttpRequest → Handled) (c : Connection) (d : Database schema)
    (op : Operation) :
    (op.Sent registryController c stringify →
      (Performs registryController c d op
        (process form others c d (registryRequest stringify op)) ↔ op.NamesId)) ∧
    (op.Sent deviceController c stringify →
      (Performs deviceController c d op
        (process form others c d (deviceRequest stringify op)) ↔ op.NamesId)) :=
  ⟨performs_iff registries form stringify others c d,
    performs_iff devices form stringify others c d⟩

/-! ## Requests for a shipped registry -/

/-- The parameters of a target with at most one of them. -/
def splitTarget (target : String) : Option Params :=
  match target.toList.dropWhile (· ≠ '?') with
  | [] => some []
  | _ :: query => some [(String.ofList (query.takeWhile (· ≠ '=')),
      String.ofList ((query.dropWhile (· ≠ '=')).drop 1))]

lemma mark_of_plainPath {path : String} (h : PlainPath path) :
    ∀ c ∈ path.toList, decide (c ≠ '?') = true := by
  intro c hc
  have hplain := List.all_eq_true.mp h.2 c hc
  refine decide_eq_true ?_
  rintro rfl
  exact absurd hplain (by decide)

def splitForm : OriginForm where
  parse := splitTarget
  parse_path path h := by
    have hnone : path.toList.dropWhile (· ≠ '?') = [] :=
      List.dropWhile_eq_nil_iff.mpr (mark_of_plainPath h)
    rw [splitTarget, hnone]
  parse_single path key value h hkey _ := by
    have hquery : (path ++ "?" ++ (key ++ "=" ++ value)).toList.dropWhile (· ≠ '?')
        = '?' :: (key.toList ++ '=' :: value.toList) := by
      simp only [String.toList_append, List.append_assoc]
      rw [List.dropWhile_append_of_pos (mark_of_plainPath h)]
      rfl
    have hequal : ∀ c ∈ key.toList, decide (c ≠ '=') = true := by
      intro c hc
      refine decide_eq_true ?_
      rintro rfl
      exact absurd (List.all_eq_true.mp hkey _ hc) (by decide)
    have htake : (key.toList ++ '=' :: value.toList).takeWhile (· ≠ '=') = key.toList := by
      rw [List.takeWhile_append_of_pos hequal, List.takeWhile_cons_of_neg (by decide),
        List.append_nil]
    have hdrop : ((key.toList ++ '=' :: value.toList).dropWhile (· ≠ '=')).drop 1
        = value.toList := by
      rw [List.dropWhile_append_of_pos hequal, List.dropWhile_cons_of_neg (by decide)]
      rfl
    rw [splitTarget, hquery]
    simp only [htake, hdrop, String.ofList_toList]

/-- The client's JSON texts of the registry `garage` and of what a create makes of it. -/
def garageText : Json → String
  | .object [("params", _)] => "\x7b\"params\":" ++ garageBody ++ "\x7d"
  | _ => garageBody

def garageConnection : Connection :=
  textConnection RegistrySchema.shippedEnv bodyRuntime RegistrySchema.setup

theorem rest_protocol_garage :
    Performs registryController garageConnection RegistrySchema.shipped (.update 2 garage.toJson)
      (process splitForm (fun _ _ => defaultHandler RegistrySchema.shipped) garageConnection
        RegistrySchema.shipped (registryRequest garageText (.update 2 garage.toJson))) :=
  ((rest_protocol_iff splitForm garageText
    (fun _ _ => defaultHandler RegistrySchema.shipped) garageConnection RegistrySchema.shipped
    (.update 2 garage.toJson)).1
    ⟨Option.isSome_iff_exists.mpr ⟨garage, garage_decoded⟩, garage_parsed⟩).mpr trivial

/-- The registry that the client creates is not inserted. -/
theorem create_not_performed :
    ¬ ∀ op : Operation, op.Sent registryController garageConnection garageText →
      Performs registryController garageConnection RegistrySchema.shipped op
        (process splitForm (fun _ _ => defaultHandler RegistrySchema.shipped) garageConnection
          RegistrySchema.shipped (registryRequest garageText op)) := by
  intro hclaim
  refine create_unanswered registries splitForm garageText
    (fun _ _ => defaultHandler RegistrySchema.shipped) garageConnection RegistrySchema.shipped
    garage.toJson (hclaim (.create garage.toJson) ?_)
  exact Option.isSome_iff_exists.mpr ⟨garage, garage_decoded⟩

end RestProtocol
