import RpiRobot.JsonRpcAnswers
import RpiRobot.KeptAlive
import RpiRobot.RestProtocol

/-!
# The status of an answer

What `HttpWorker::process` answers, by the handlers of the table. An `invalid_argument` is
answered with 404 and every other exception with 400, wherever it comes from: the table and
the file handler throw the first for what they do not find, but so do `std::stoi`, on the
query of a list, and `getRepository`.
-/

namespace RequestStatus

open DecimalText (StdError stoi)
open HttpRouter (Method Handlers pathOf)
open HttpWorker (Handling Response)
open JsonRpcHandler (RpcRegistry)
open KeptAlive (answer)
open RequestParams DomainObjects Repositories RestController
open SqlTables (Database)
open RegistrySchema (schema)

-- Without this the unifier tries to parse the text of a statement.
attribute [local irreducible] SqlServers.textServer

/-! ## The handlers -/

inductive Resource where
  | registries
  | devices
  | telemetry
  deriving DecidableEq, Repr

inductive Handler (Value : Type) where
  | jsonRpc (registry : RpcRegistry Value ByteArray)
  | rest (resource : Resource)
  | file (root : String)

structure HttpRequest where
  method : Method
  target : String
  contentType : Option String
  body : ByteArray

/-- What the handlers work with, and the libraries that they use. -/
structure Server (Value : Type) where
  connection : Connection
  database : Database schema
  /-- The repositories that `createRepositories` has made. -/
  registered : Resource → Bool
  /-- What a path opens. -/
  files : String → Option String
  parseOriginForm : String → Option Params
  parse : JsonRpcAnswers.Parser
  encode : Value → Option Json
  what : RestController.Failure → String

def telemetryController : RestRepositoryController DeviceTelemetryDo :=
  ⟨DeviceTelemetryRepository.repository, DeviceTelemetryDo.fromJson, DeviceTelemetryDo.toJson⟩

def Resource.handle (c : Connection) (d : Database schema) (request : RestController.HttpRequest) :
    Resource → Except RestController.Failure String
  | .registries => (registryController.handle c d request).1
  | .devices => (RestProtocol.deviceController.handle c d request).1
  | .telemetry => (telemetryController.handle c d request).1

/-- `typeid` of the repository. -/
def Resource.typeName : Resource → String
  | .registries => "18RegistryRepository"
  | .devices => "16DeviceRepository"
  | .telemetry => "25DeviceTelemetryRepository"

/-- The request gets to a handler that calls `getRepository`. -/
def usesRepository (method : Method) (params : HttpRequestParams) : Bool :=
  if params.filter.contains "id" then decide (RestProtocol.verbOf method ≠ .other)
  else decide (method = .get)

/-- A body that is no UTF-8 is refused by the JSON library, like an empty one. -/
def bodyText (body : ByteArray) : String := (String.fromUTF8? body).getD ""

/-- The clause that catches the exception. -/
def caught (what : RestController.Failure → String) (e : RestController.Failure) : Handling :=
  match e with
  | .param .invalidArgument => .invalidArgument (what e)
  | _ => .exception (what e)

section
variable {Value : Type} (server : Server Value) (request : HttpRequest)

def restRequest : RestController.HttpRequest :=
  ⟨RestProtocol.verbOf request.method, server.parseOriginForm request.target,
    bodyText request.body⟩

/-- `getRepository` throws before anything else that uses the repository. -/
def missesRepository (resource : Resource) : Bool :=
  match (server.parseOriginForm request.target).map HttpRequestParams.of with
  | some (.ok params) => usesRepository request.method params && !server.registered resource
  | _ => false

def handleRest (resource : Resource) : Handling :=
  if missesRepository server request resource then
    .invalidArgument ("The repository has not been registered " ++ resource.typeName)
  else
    match resource.handle server.connection server.database (restRequest server request) with
    | .ok body => .response ⟨.string, 200, "", "application/json", false, body⟩
    | .error e => caught server.what e

def jsonRpcBody : JsonRpcAnswers.Body → String
  | .text s => s
  | .dumped j => server.connection.runtime.dump j

def handleJsonRpc (registry : RpcRegistry Value ByteArray) : Handling :=
  match JsonRpcAnswers.handleHttp server.parse server.encode registry
      ⟨request.method, request.contentType, request.body⟩ with
  | .ok r => .response ⟨.string, r.status, "", r.contentType, false, jsonRpcBody server r.body⟩
  | .error .outOfRange => .exception "key not found"
  | .error .typeError => .exception "invalid UTF-8 byte"

end

/-! Files. -/

def mimeTypes : List (String × String) := [
  (".htm", "text/html; charset=utf-8"),
  (".html", "text/html; charset=utf-8"),
  (".php", "text/html"),
  (".css", "text/css"),
  (".txt", "text/plain"),
  (".js", "application/javascript"),
  (".json", "application/json"),
  (".xml", "application/xml"),
  (".swf", "application/x-shockwave-flash"),
  (".flv", "video/x-flv"),
  (".png", "image/png"),
  (".jpe", "image/jpeg"),
  (".jpeg", "image/jpeg"),
  (".jpg", "image/jpeg"),
  (".gif", "image/gif"),
  (".bmp", "image/bmp"),
  (".ico", "image/vnd.microsoft.icon"),
  (".tiff", "image/tiff"),
  (".tif", "image/tiff"),
  (".svg", "image/svg+xml"),
  (".svgz", "image/svg+xml")]

/-- From the last point on. -/
def extension (path : List Char) : List Char :=
  if '.' ∈ path then '.' :: (path.reverse.takeWhile (· ≠ '.')).reverse else []

def mimeType (path : String) : String :=
  match mimeTypes.find? (fun m => m.1.toList == (extension path.toList).map Char.toLower) with
  | some m => m.2
  | none => "application/text"

/-- The path that is opened: that of the target, or else the index. The target keeps its
query. -/
def findFile {File : Type} (files : String → Option File) (root target : String) :
    Option (String × File) :=
  if target.toList.head? ≠ some '/' ∨ "..".toList <:+: target.toList then none
  else
    let path := root ++ (if target = "/" then "/index.html" else target)
    let index := root ++ "/index.html"
    match files path with
    | some file => some (path, file)
    | none => (files index).map fun file => (index, file)

def handleFile (files : String → Option String) (root target : String) : Handling :=
  match findFile files root target with
  | some (path, content) => .response ⟨.file, 200, "", mimeType path, false, content⟩
  | none => .invalidArgument "file not found"

/-! ## The answer -/

section
variable {Value : Type}

def Handler.handle (server : Server Value) (request : HttpRequest) : Handler Value → Handling
  | .jsonRpc registry => handleJsonRpc server request registry
  | .rest resource => handleRest server request resource
  | .file root => handleFile server.files root request.target

/-- For a target without a token this is undefined. -/
def process (server : Server Value) (table : Handlers (Handler Value)) (request : HttpRequest) :
    Option Handling :=
  match table.process request.method request.target with
  | .ok handler => some (handler.handle server request)
  | .error .invalidArgument => some (.invalidArgument request.target)
  | .error .noToken => none

def status (server : Server Value) (table : Handlers (Handler Value)) (request : HttpRequest) :
    Option Nat :=
  (process server table request).map fun handling => (answer handling).status

/-! ## What is found -/

def Handler.isApi : Handler Value → Bool
  | .jsonRpc _ => true
  | .rest _ => true
  | .file _ => false

/-- The path of the request has no handler of its own. -/
def Unregistered (table : Handlers (Handler Value)) (request : HttpRequest) : Prop :=
  ∀ path, pathOf request.target = some path → table.lookup ⟨request.method, path⟩ = none

structure NotFoundMeansNotFound (server : Server Value) (table : Handlers (Handler Value))
    (request : HttpRequest) : Prop where
  absent : status server table request = some 404 →
    Unregistered table request ∧
      ∀ handler, table.lookup ⟨request.method, "/**"⟩ = some handler →
        ∃ root, handler = .file root ∧ findFile server.files root request.target = none
  reached : ∀ handler, table.process request.method request.target = .ok handler →
    handler.isApi = true → status server table request ≠ some 404

/-- Blanks, a sign and a digit. -/
def StartsWithNumber (text : String) : Prop :=
  (DecimalText.signed (text.toList.dropWhile DecimalText.isSpace)).2.takeWhile Char.isDigit ≠ []

instance (text : String) : Decidable (StartsWithNumber text) :=
  inferInstanceAs (Decidable (_ ≠ _))

/-- The texts of the page that are read start with numbers. The page is not read after a size
out of range. -/
structure NumericPage (params : Params) : Prop where
  size : ∀ text, params.find "size" = some text → StartsWithNumber text
  page : ∀ text, params.findLast "page" = some text →
    (∀ size, params.find "size" = some size → stoi size ≠ .error .outOfRange) →
    StartsWithNumber text

/-- The handler finds what the request asks it for. -/
def Handler.Serves (server : Server Value) (request : HttpRequest) : Handler Value → Prop
  | .jsonRpc _ => True
  | .rest resource => ∀ params, server.parseOriginForm request.target = some params →
      NumericPage params ∧ ∀ p, HttpRequestParams.of params = .ok p →
        usesRepository request.method p = true → server.registered resource = true
  | .file root => findFile server.files root request.target ≠ none

end

/-! ## Parameters -/

lemma stoi_invalid (text : String) :
    stoi text = .error .invalidArgument ↔ ¬StartsWithNumber text := by
  simp only [stoi, StartsWithNumber]
  split_ifs with hdigits hrange
  · exact iff_of_true rfl (by simpa using hdigits)
  · exact iff_of_false (by simp) (by simpa using hdigits)
  · exact iff_of_false (by simp) (by simpa using hdigits)

lemma startsWithNumber_of_ne {text : String} (h : stoi text ≠ .error .invalidArgument) :
    StartsWithNumber text := by
  by_contra hnumber
  exact h ((stoi_invalid text).mpr hnumber)

lemma sizeOf_error {params : Params} {e : StdError} :
    HttpRequestParams.sizeOf params = .error e ↔
      ∃ text, params.find "size" = some text ∧ stoi text = .error e := by
  rw [HttpRequestParams.sizeOf]
  cases params.find "size" with
  | none => simp
  | some text => simp

lemma offsetOf_error {params : Params} {size : Int} {e : StdError} :
    HttpRequestParams.offsetOf params size = .error e ↔
      ∃ text, params.findLast "page" = some text ∧ stoi text = .error e := by
  rw [HttpRequestParams.offsetOf]
  cases params.findLast "page" with
  | none => simp
  | some text =>
    cases hpage : stoi text with
    | error e' => simp [hpage, Except.map]
    | ok n => simp [hpage, Except.map]

/-- `std::stoi` gets texts that start with numbers, or throws `invalid_argument`. -/
lemma of_invalid (params : Params) :
    HttpRequestParams.of params = .error .invalidArgument ↔ ¬NumericPage params := by
  cases hsize : HttpRequestParams.sizeOf params with
  | error e =>
    have hof : HttpRequestParams.of params = .error e := by
      rw [HttpRequestParams.of, hsize]
      rfl
    obtain ⟨text, htext, hstoi⟩ := sizeOf_error.mp hsize
    rw [hof]
    cases e with
    | invalidArgument =>
      exact iff_of_true rfl fun h => (stoi_invalid text).mp hstoi (h.size text htext)
    | outOfRange =>
      refine iff_of_false (by simp) (not_not.mpr ⟨fun text' htext' => ?_, fun _ _ hnot => ?_⟩)
      · obtain rfl := Option.some.inj (htext.symm.trans htext')
        exact startsWithNumber_of_ne (by simp [hstoi])
      · exact absurd hstoi (hnot text htext)
  | ok n =>
    have hof : HttpRequestParams.of params = .error .invalidArgument ↔
        HttpRequestParams.offsetOf params n = .error .invalidArgument := by
      have hbind : HttpRequestParams.of params = (HttpRequestParams.offsetOf params n).bind
          fun offset => .ok ⟨HttpRequestParams.filterOf params, ⟨offset, n, true⟩⟩ := by
        rw [HttpRequestParams.of, hsize]
        rfl
      rw [hbind]
      cases HttpRequestParams.offsetOf params n <;> simp [Except.bind]
    have hread : ∀ text, params.find "size" = some text → ∀ e, stoi text ≠ .error e :=
      fun text htext e he => by cases hsize.symm.trans (sizeOf_error.mpr ⟨text, htext, he⟩)
    rw [hof, offsetOf_error]
    constructor
    · rintro ⟨text, htext, hstoi⟩ h
      exact (stoi_invalid text).mp hstoi (h.page text htext fun size hfound => hread size hfound _)
    · intro h
      by_contra hpage
      refine h ⟨fun text htext => startsWithNumber_of_ne (hread text htext _), ?_⟩
      exact fun text htext _ => startsWithNumber_of_ne fun hstoi => hpage ⟨text, htext, hstoi⟩

section
variable {T : Type} (controller : RestRepositoryController T) (c : Connection)
  (d : Database schema) (request : RestController.HttpRequest)

lemma written_param {α : Type} (outcome : Outcome α × Database schema) (e : StdError) :
    (RestRepositoryController.written outcome).1 ≠ .error (.param e) := by
  obtain ⟨_ | _, d'⟩ := outcome <;> simp [RestRepositoryController.written]

variable {controller c request} in
lemma parseBody_param {e' : RestController.Failure}
    (h : controller.parseBody c request = .error e') {e : StdError} :
    (Except.error e' : Except RestController.Failure String) ≠ .error (.param e) := by
  rw [RestRepositoryController.parseBody] at h
  cases hmodel : (c.runtime.parse request.body).bind controller.fromJson with
  | none =>
    rw [hmodel] at h
    obtain rfl := Except.error.inj h
    simp
  | some model => simp [hmodel] at h

/-- After the parameters nothing throws what `std::stoi` throws. -/
lemma dispatch_param (params : HttpRequestParams) (e : StdError) :
    (controller.dispatch c d request params).1 ≠ .error (.param e) := by
  have hgetOne : (controller.handleGetOne c d params).1 ≠ .error (.param e) := by
    rw [RestRepositoryController.handleGetOne]
    cases controller.repository.findOne c (fun _ => d) params.filter <;> simp
  have hget : (controller.handleGet c d params).1 ≠ .error (.param e) := by
    rw [RestRepositoryController.handleGet]
    cases controller.repository.findAll c (fun _ => d) params.filter params.page <;> simp
  have hpost : (controller.handlePostOne c d request).1 ≠ .error (.param e) := by
    rw [RestRepositoryController.handlePostOne]
    cases hbody : controller.parseBody c request with
    | error e' => exact parseBody_param hbody
    | ok model => exact written_param _ e
  have hput : (controller.handlePutOne c d request).1 ≠ .error (.param e) := by
    rw [RestRepositoryController.handlePutOne]
    cases hbody : controller.parseBody c request with
    | error e' => exact parseBody_param hbody
    | ok model => exact written_param _ e
  have hdelete : (controller.handleDeleteOne c d params).1 ≠ .error (.param e) := written_param _ e
  have hdefault : (defaultHandler d).1 ≠ .error (.param e) := by simp [defaultHandler]
  rw [RestRepositoryController.dispatch]
  by_cases hid : params.filter.contains "id" = true
  · rw [if_pos hid]
    cases request.method with
    | get => exact hgetOne
    | post => exact hpost
    | put => exact hput
    | delete_ => exact hdelete
    | other => exact hdefault
  · rw [if_neg hid]
    cases request.method with
    | get =>
      simp only [if_neg hid]
      exact hget
    | post | put | delete_ | other => exact hdefault

lemma handle_invalid :
    (controller.handle c d request).1 = .error (.param .invalidArgument) ↔
      ∃ params, request.params = some params ∧ ¬NumericPage params := by
  rw [RestRepositoryController.handle]
  cases hparams : request.params with
  | none => simp
  | some params =>
    cases hof : HttpRequestParams.of params with
    | error e => simp [← of_invalid, hof]
    | ok p => simp [← of_invalid, hof, dispatch_param]

end

/-! ## Statuses -/

lemma answer_invalidArgument (what : String) : (answer (.invalidArgument what)).status = 404 := rfl

lemma answer_exception (what : String) : (answer (.exception what)).status = 400 := rfl

/-- No status of a handler forbids a body. -/
lemma answer_response {r : Response} (h : r.status = 200 ∨ r.status = 400) :
    (answer (.response r)).status ≠ 404 := by
  have hallowed : r.payloadAllowed = true := by
    rcases h with h | h <;> simp [HttpWorker.Response.payloadAllowed, h]
  have hstatus : (answer (.response r)).status = r.status := by
    simp only [answer, HttpWorker.Worker.process, KeptAlive.visit_eq,
      HttpWorker.Worker.setResponse, if_pos hallowed]
    rfl
  omega

section
variable {Value : Type} {server : Server Value} {request : HttpRequest}
  {table : Handlers (Handler Value)}

lemma resource_invalid (resource : Resource) :
    resource.handle server.connection server.database (restRequest server request) =
        .error (.param .invalidArgument) ↔
      ∃ params, server.parseOriginForm request.target = some params ∧ ¬NumericPage params := by
  cases resource <;> exact handle_invalid _ _ _ _

lemma caught_notFound (what : RestController.Failure → String) (e : RestController.Failure) :
    (answer (caught what e)).status = 404 ↔ e = .param .invalidArgument := by
  rcases e with _ | ⟨_ | _⟩ | _ | _ <;> simp [caught, answer_invalidArgument, answer_exception]

lemma missesRepository_iff (resource : Resource) :
    missesRepository server request resource = true ↔
      ∃ params p, server.parseOriginForm request.target = some params ∧
        HttpRequestParams.of params = .ok p ∧ usesRepository request.method p = true ∧
          server.registered resource = false := by
  rw [missesRepository]
  cases server.parseOriginForm request.target with
  | none => simp
  | some params => cases hof : HttpRequestParams.of params <;> simp [hof]

lemma serves_rest (resource : Resource) :
    (Handler.rest resource : Handler Value).Serves server request ↔
      missesRepository server request resource = false ∧
        resource.handle server.connection server.database (restRequest server request) ≠
          .error (.param .invalidArgument) := by
  rw [Ne, resource_invalid, Bool.eq_false_iff, Ne, missesRepository_iff]
  constructor
  · intro h
    constructor
    · rintro ⟨params, p, hparams, hof, huses, hregistered⟩
      exact absurd ((h params hparams).2 p hof huses) (by simp [hregistered])
    · rintro ⟨params, hparams, hpage⟩
      exact hpage (h params hparams).1
  · rintro ⟨hmissing, hpage⟩ params hparams
    refine ⟨?_, fun p hof huses => ?_⟩
    · by_contra hnot
      exact hpage ⟨params, hparams, hnot⟩
    · by_contra hregistered
      exact hmissing ⟨params, p, hparams, hof, huses, by simpa using hregistered⟩

lemma handleRest_notFound (resource : Resource) :
    (answer (handleRest server request resource)).status = 404 ↔
      ¬(Handler.rest resource : Handler Value).Serves server request := by
  rw [serves_rest, handleRest]
  cases missesRepository server request resource with
  | true => exact iff_of_true (answer_invalidArgument _) (by simp)
  | false =>
    cases resource.handle server.connection server.database (restRequest server request) with
    | ok body => exact iff_of_false (answer_response (.inl rfl)) (by simp)
    | error e => simpa using caught_notFound server.what e

lemma handleHttp_status {parse : JsonRpcAnswers.Parser} {encode : Value → Option Json}
    {registry : RpcRegistry Value ByteArray} {rpc : JsonRpcAnswers.HttpRequest}
    {r : JsonRpcAnswers.HttpStringResponse}
    (h : JsonRpcAnswers.handleHttp parse encode registry rpc = .ok r) :
    r.status = 200 ∨ r.status = 400 := by
  rw [JsonRpcAnswers.handleHttp] at h
  split_ifs at h with hmethod
  · obtain rfl := Except.ok.inj h
    exact .inr rfl
  · cases hcontent : rpc.contentType with
    | none => simp [hcontent] at h
    | some contentType =>
      simp only [hcontent] at h
      split_ifs at h with hjson
      · cases hdump : JsonRpcAnswers.dump encode
          (JsonRpcAnswers.respond parse registry rpc.body) with
        | error e => simp [hdump, Except.map] at h
        | ok j =>
          rw [hdump] at h
          obtain rfl := Except.ok.inj h
          exact .inl rfl
      · obtain rfl := Except.ok.inj h
        exact .inr rfl

lemma handleJsonRpc_found (registry : RpcRegistry Value ByteArray) :
    (answer (handleJsonRpc server request registry)).status ≠ 404 := by
  rw [handleJsonRpc]
  cases hhandle : JsonRpcAnswers.handleHttp server.parse server.encode registry
      ⟨request.method, request.contentType, request.body⟩ with
  | ok r => exact answer_response (handleHttp_status hhandle)
  | error e => cases e <;> simp [answer_exception]

lemma handleFile_notFound (root : String) :
    (answer (handleFile server.files root request.target)).status = 404 ↔
      findFile server.files root request.target = none := by
  rw [handleFile]
  cases findFile server.files root request.target with
  | none => exact iff_of_true (answer_invalidArgument _) rfl
  | some found => exact iff_of_false (answer_response (.inl rfl)) (by simp)

lemma handle_notFound (handler : Handler Value) :
    (answer (handler.handle server request)).status = 404 ↔ ¬handler.Serves server request := by
  cases handler with
  | jsonRpc registry => exact iff_of_false (handleJsonRpc_found registry) (not_not.mpr trivial)
  | rest resource => exact handleRest_notFound resource
  | file root => exact (handleFile_notFound root).trans not_not.symm

/-- A path without a handler gets to the handler for all paths. -/
lemma process_all {handler : Handler Value}
    (h : table.process request.method request.target = .ok handler)
    (hpath : Unregistered table request) :
    table.lookup ⟨request.method, "/**"⟩ = some handler := by
  rw [Handlers.process] at h
  cases hof : pathOf request.target with
  | none => simp [hof] at h
  | some path =>
    simp only [hof, hpath path hof] at h
    cases hall : table.lookup ⟨request.method, "/**"⟩ with
    | none => simp [hall] at h
    | some other => simpa [hall] using h

lemma process_invalid
    (h : table.process request.method request.target = .error .invalidArgument) :
    Unregistered table request ∧ table.lookup ⟨request.method, "/**"⟩ = none := by
  rw [Handlers.process] at h
  cases hof : pathOf request.target with
  | none => simp [hof] at h
  | some path =>
    cases hlookup : table.lookup ⟨request.method, path⟩ with
    | some handler => simp [hof, hlookup] at h
    | none =>
      refine ⟨fun path' hpath' => ?_, ?_⟩
      · obtain rfl := Option.some.inj (hof.symm.trans hpath')
        exact hlookup
      · cases hall : table.lookup ⟨request.method, "/**"⟩ with
        | none => rfl
        | some other => simp [hof, hlookup, hall] at h

lemma status_ok {handler : Handler Value}
    (h : table.process request.method request.target = .ok handler) :
    status server table request = some 404 ↔ ¬handler.Serves server request := by
  rw [status, process, h, ← handle_notFound]
  exact Option.some_inj

/-- Not found means not found just if the handler of the request finds what it needs, or is
the file handler for a path without a handler. -/
theorem not_found_iff (server : Server Value) (table : Handlers (Handler Value))
    (request : HttpRequest) :
    NotFoundMeansNotFound server table request ↔
      ∀ handler, table.process request.method request.target = .ok handler →
        handler.Serves server request ∨
          handler.isApi = false ∧ Unregistered table request := by
  constructor
  · intro h handler hprocess
    by_cases hserves : handler.Serves server request
    · exact .inl hserves
    · obtain ⟨hpath, hfile⟩ := h.absent ((status_ok hprocess).mpr hserves)
      obtain ⟨root, rfl, -⟩ := hfile handler (process_all hprocess hpath)
      exact .inr ⟨rfl, hpath⟩
  · intro h
    constructor
    · intro hstatus
      cases hprocess : table.process request.method request.target with
      | ok handler =>
        have hserves := (status_ok hprocess).mp hstatus
        obtain ⟨hfile, hpath⟩ := (h handler hprocess).resolve_left hserves
        refine ⟨hpath, fun other hother => ?_⟩
        obtain rfl := Option.some.inj (hother.symm.trans (process_all hprocess hpath))
        cases other with
        | jsonRpc registry | rest resource => cases hfile
        | file root => exact ⟨root, rfl, not_not.mp hserves⟩
      | error e =>
        cases e with
        | noToken => simp [status, process, hprocess] at hstatus
        | invalidArgument =>
          obtain ⟨hpath, hnone⟩ := process_invalid hprocess
          exact ⟨hpath, fun other hother => by cases hnone.symm.trans hother⟩
    · intro handler hprocess hapi hstatus
      have hserves := (status_ok hprocess).mp hstatus
      obtain ⟨hfile, -⟩ := (h handler hprocess).resolve_left hserves
      cases hapi.symm.trans hfile

end

/-- The handlers that `HttpService` registers. -/
def registered {Value : Type} (registry : RpcRegistry Value ByteArray) (root : String) :
    RestProtocol.Handler → Handler Value
  | .rpc => .jsonRpc registry
  | .registries => .rest .registries
  | .devices => .rest .devices
  | .telemetry => .rest .telemetry
  | .files => .file root

def addHandlers {Value : Type} (registry : RpcRegistry Value ByteArray) (root : String) :
    Handlers (Handler Value) :=
  RestProtocol.registrations.foldl (fun handlers r =>
    handlers.registerHandler r.1.method r.1.path (registered registry root r.2)) []

/-- A list whose size is no number. -/
def wordSize : HttpRequest :=
  ⟨.get, "/api/registries" ++ "?" ++ "size=abc", none, ByteArray.empty⟩

/-- The shipped rows, and all repositories. -/
def shippedServer : Server Json where
  connection := textConnection RegistrySchema.shippedEnv shippedRuntime RegistrySchema.setup
  database := RegistrySchema.shipped
  registered _ := true
  files _ := none
  parseOriginForm target := if target = wordSize.target then some [("size", "abc")] else none
  parse := JsonRpcAnswers.readBody
  encode := some
  what _ := "stoi"

/-- The list is not found. -/
theorem list_not_found : ¬NotFoundMeansNotFound shippedServer (addHandlers ∅ "") wordSize := by
  have hlookup : (addHandlers (∅ : RpcRegistry Json ByteArray) "").lookup
      ⟨.get, "/api/registries"⟩ = some (.rest .registries) := rfl
  have hprocess : (addHandlers (∅ : RpcRegistry Json ByteArray) "").process wordSize.method
      wordSize.target = .ok (.rest .registries) :=
    HttpRouter.process_query (by decide) hlookup "size=abc"
  have hserves : ¬(Handler.rest .registries : Handler Json).Serves shippedServer wordSize := by
    intro h
    have hparams : shippedServer.parseOriginForm wordSize.target = some [("size", "abc")] := by
      simp [shippedServer]
    have hpage := (h _ hparams).1
    exact absurd (hpage.size "abc" rfl) (by decide)
  intro h
  exact h.reached _ hprocess rfl ((status_ok hprocess).mpr hserves)

end RequestStatus
