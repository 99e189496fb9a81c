import RpiRobot.ServiceRuns

/-!
# The forms of one object

The pages `Registry` and `Device`: an object is loaded into a form, edited, and sent back. What
is loaded is the answer of the server as it stands, in which the object is the member `data`, so
what is sent back never has the members of an object, and the server refuses it.
-/

namespace EditForms

open SqlTables RequestParams DomainObjects Repositories RepositoryStatements
open HttpRouter (process_query)
open RestController RestProtocol ServiceRuns
open RegistrySchema (schema)

-- Without this the unifier tries to parse the text of a statement.
attribute [local irreducible] SqlServers.textServer

abbrev Members := List (String × Json)

/-- A member that objects of the server have, and that the page never has. -/
def Undated (object : Members) : Prop := object.lookup "createdAt" = none

/-- What the browser makes of values and texts. An object and what its text is read as have the
same members; of these only the missing one matters here. -/
structure Browser (runtime : Runtime) where
  stringify : Json → String
  parse : String → Option Json
  template : Option Json → String
  parse_dump : ∀ members, Undated members →
    ∃ members', parse (runtime.dump (.object members)) = some (.object members') ∧ Undated members'
  parse_stringify : ∀ members j, Undated members →
    runtime.parse (stringify (.object members)) = some j → j.member? "createdAt" = none

/-- The object in the form, and whether it has been edited. -/
structure Form where
  object : Members
  updated : Bool

def initState : Members :=
  [("id", .integer 0), ("name", .string ""), ("uuid", .string ""), ("status", .integer 0)]

/-- `{...object, key: value}` -/
def setMember (object : Members) (key : String) (value : Json) : Members :=
  if (object.lookup key).isSome then
    object.map fun member => if member.1 = key then (key, value) else member
  else object ++ [(key, value)]

/-- The service and the page, with the requests and the answers that are under way between them. -/
structure System where
  service : ServiceRuns.State
  form : Form
  sent : List WireRequest
  answers : List String

def opened (s : ServiceRuns.State) : System := ⟨s, ⟨initState, false⟩, [], []⟩

/-- What happens at the page and between it and the service, and everything else that happens
to the service. -/
inductive Event where
  | findDevice (id : String)
  | served (moment : Moment) (i : Nat)
  | setRegistry (i : Nat)
  | handleStatusChange (status : Int)
  | handleNameChange (name : String)
  | handleOnApply
  | other (event : ServiceRuns.Event)

section
variable {T : Type} (service : Service) (browser : Browser service.runtime) (resource : Resource T)

def getRequest (id : String) : WireRequest := ⟨.get, resource.path ++ "?" ++ ("id=" ++ id), ""⟩

/-- The update of the page's repository, with the id of the object in the form. -/
def putRequest (object : Members) : WireRequest :=
  ⟨.put, resource.path ++ "?" ++ ("id=" ++ browser.template (object.lookup "id")),
    browser.stringify (.object object)⟩

/-- What the service answers to a request that it does not fail at. -/
def answered (s : ServiceRuns.State) (moment : Moment) (request : WireRequest) :
    Option String :=
  match process service.form (service.others (service.connection moment) s.database)
    (service.connection moment) s.database request with
  | .ok (.ok text, _) => some text
  | _ => none

/-- The answer to a put is not used. -/
def answersTo (s : ServiceRuns.State) (moment : Moment) (request : WireRequest) : List String :=
  if request.method = .get then (answered service s moment request).toList else []

def step (s : System) : Event → System
  | .findDevice id => { s with sent := s.sent ++ [getRequest resource id] }
  | .served moment i =>
    match s.sent[i]? with
    | some request =>
      { s with
        service := service.step s.service (.request moment request)
        sent := s.sent.eraseIdx i
        answers := s.answers ++ answersTo service s.service moment request }
    | none => s
  | .setRegistry i =>
    match s.answers[i]? with
    | some text =>
      { s with
        form := match browser.parse text with
          | some (.object members) => { s.form with object := members }
          | _ => s.form
        answers := s.answers.eraseIdx i }
    | none => s
  | .handleStatusChange status =>
    { s with form := ⟨setMember s.form.object "status" (.integer status), true⟩ }
  | .handleNameChange name =>
    { s with form := ⟨setMember s.form.object "name" (.string name), true⟩ }
  | .handleOnApply =>
    if s.form.updated then
      { s with
        form := { s.form with updated := false }
        sent := s.sent ++ [putRequest service browser resource s.form.object] }
    else s
  | .other event => { s with service := service.step s.service event }

def run (s : System) (events : List Event) : System :=
  events.foldl (step service browser resource) s

/-- The events that are not of the page. -/
def others : List Event → List ServiceRuns.Event := List.filterMap fun
  | .other event => some event
  | _ => none

/-! ## The member that the page never has -/

lemma undated_setMember {object : Members} (h : Undated object) {key : String}
    (hkey : key ≠ "createdAt") (value : Json) : Undated (setMember object key value) := by
  rw [Undated, setMember]
  split_ifs
  · rw [List.lookup_eq_none_iff]
    intro member hmember
    obtain ⟨old, hold, rfl⟩ := List.mem_map.mp hmember
    have hne := List.lookup_eq_none_iff.mp h old hold
    split_ifs
    · exact bne_iff_ne.mpr hkey.symm
    · exact hne
  · have hsingle : [(key, value)].lookup "createdAt" = none := by
      rw [List.lookup_cons, beq_false_of_ne hkey.symm]
      rfl
    rw [List.lookup_append, h, hsingle]
    rfl

/-! ## The two requests of the page -/

/-- No object is read without the member. -/
def NeedsDate {T : Type} (controller : RestRepositoryController T) : Prop :=
  ∀ j, j.member? "createdAt" = none → controller.fromJson j = none

lemma registry_needsDate : NeedsDate registryController := by
  intro j h
  change RegistryDo.fromJson j = none
  simp only [RegistryDo.fromJson, h, Option.bind_eq_bind, Option.bind_none, Option.bind_eq_none_iff]
  exact fun _ _ _ _ => trivial

lemma device_needsDate : NeedsDate deviceController := by
  intro j h
  change DeviceDo.fromJson j = none
  simp only [DeviceDo.fromJson, h, Option.bind_eq_bind, Option.bind_none, Option.bind_eq_none_iff]
  exact fun _ _ _ _ _ _ _ _ => trivial

variable {service browser resource} {s : ServiceRuns.State}

/-- The requests with a query go to the controller. -/
lemma process_handle {method : HttpRouter.Method} (hmethod : method ∈ [.get, .put, .post, .delete_])
    (c : Connection) (d : Database schema) (query body : String) :
    process service.form (service.others c d) c d ⟨method, resource.path ++ "?" ++ query, body⟩ =
      .ok (resource.controller.handle c d
        (decoded service.form ⟨method, resource.path ++ "?" ++ query, body⟩)) := by
  rw [process, process_query resource.plain (resource.registered method hmethod)]
  exact congrArg Except.ok (resource.handles _ c d _)

/-- A get reads. -/
lemma get_state (moment : Moment) (id : String) :
    service.step s (.request moment (getRequest resource id)) = s := by
  have hrequested : service.requested s.database moment (getRequest resource id) = s.database := by
    rw [Service.requested, getRequest, process_handle (by decide)]
    exact handle_state (p := (· = s.database)) rfl
      (fun hpost => absurd hpost (show Verb.get ≠ .post by decide))
      (fun hput => absurd hput (show Verb.get ≠ .put by decide))
      (fun hdelete => absurd hdelete (show Verb.get ≠ .delete_ by decide))
  rw [Service.step, hrequested]

lemma put_refused (hneeds : NeedsDate resource.controller) {object : Members} (h : Undated object)
    {c : Connection} {request : HttpRequest} (hruntime : c.runtime = service.runtime)
    (hbody : request.body = browser.stringify (.object object)) (m : T) :
    resource.controller.parseBody c request ≠ .ok m := by
  rw [RestRepositoryController.parseBody, hruntime, hbody]
  cases hparse : service.runtime.parse (browser.stringify (.object object)) with
  | none => simp
  | some j =>
    rw [Option.bind_some, hneeds j (browser.parse_stringify object j h hparse)]
    simp

/-- A put of an object without the member is refused. -/
lemma put_state (hneeds : NeedsDate resource.controller) (moment : Moment) {object : Members}
    (h : Undated object) :
    service.step s (.request moment (putRequest service browser resource object)) = s := by
  have hrequested : service.requested s.database moment (putRequest service browser resource object)
      = s.database := by
    rw [Service.requested, putRequest, process_handle (by decide)]
    exact handle_state (p := (· = s.database)) rfl
      (fun hpost => absurd hpost (show Verb.put ≠ .post by decide))
      (fun _ m hm => absurd hm (put_refused hneeds h rfl rfl m))
      (fun hdelete => absurd hdelete (show Verb.put ≠ .delete_ by decide))
  rw [Service.step, hrequested]

/-! ## The answers -/

/-- The text of an object that does not have the member. -/
def UndatedText (runtime : Runtime) (text : String) : Prop :=
  ∃ members, Undated members ∧ text = runtime.dump (.object members)

/-- The object that was asked for is the member `data` of the answer. -/
lemma handleGetOne_undated {controller : RestRepositoryController T} {c : Connection}
    {d : Database schema} {params : HttpRequestParams} {text : String}
    (h : (controller.handleGetOne c d params).1 = .ok text) : UndatedText c.runtime text := by
  rw [RestRepositoryController.handleGetOne] at h
  cases hfind : controller.repository.findOne c (fun _ => d) params.filter with
  | error e =>
    rw [hfind] at h
    exact absurd h (by simp)
  | ok item =>
    rw [hfind] at h
    obtain rfl := Except.ok.inj h
    cases item with
    | none => exact ⟨[("data", .null)], rfl, rfl⟩
    | some o => exact ⟨[("data", controller.toJson o)], rfl, rfl⟩

lemma handleGet_undated {controller : RestRepositoryController T} {c : Connection}
    {d : Database schema} {params : HttpRequestParams} {text : String}
    (h : (controller.handleGet c d params).1 = .ok text) : UndatedText c.runtime text := by
  rw [RestRepositoryController.handleGet] at h
  cases hfind : controller.repository.findAll c (fun _ => d) params.filter params.page with
  | error e =>
    rw [hfind] at h
    exact absurd h (by simp)
  | ok page =>
    rw [hfind] at h
    obtain rfl := Except.ok.inj h
    exact ⟨[("data", .array (page.data.map controller.toJson)), ("total", .integer page.total)],
      rfl, rfl⟩

/-- Without an id in the query, the list is answered. -/
lemma get_undated {controller : RestRepositoryController T} {c : Connection}
    {d : Database schema} {request : HttpRequest} (hget : request.method = .get) {text : String}
    (h : (controller.handle c d request).1 = .ok text) : UndatedText c.runtime text := by
  rw [RestRepositoryController.handle] at h
  cases hparams : request.params with
  | none =>
    rw [hparams] at h
    exact absurd h (by simp)
  | some raw =>
    simp only [hparams] at h
    cases hof : HttpRequestParams.of raw with
    | error e =>
      rw [hof] at h
      exact absurd h (by simp)
    | ok params =>
      simp only [hof, RestRepositoryController.dispatch, hget] at h
      split_ifs at h
      · exact handleGetOne_undated h
      · exact handleGet_undated h

lemma get_answered {moment : Moment} {id text : String}
    (h : answered service s moment (getRequest resource id) = some text) :
    UndatedText service.runtime text := by
  rw [answered, getRequest, process_handle (by decide)] at h
  split at h
  · rename_i text' d' hhandle
    obtain rfl := Option.some.inj h
    have hanswer := congrArg Prod.fst (Except.ok.inj hhandle)
    exact get_undated (c := service.connection moment) rfl hanswer
  · exact absurd h (by simp)

/-! ## Runs -/

variable (service browser resource) in
/-- Nothing of the page has the member: the form, the requests and the answers. -/
structure Undatable (s : System) : Prop where
  form : Undated s.form.object
  sent : ∀ request ∈ s.sent, (∃ id, request = getRequest resource id) ∨
    ∃ object, Undated object ∧ request = putRequest service browser resource object
  answers : ∀ text ∈ s.answers, UndatedText service.runtime text

lemma undatable_opened (s : ServiceRuns.State) : Undatable service browser resource (opened s) :=
  ⟨rfl, fun _ h => absurd h List.not_mem_nil, fun _ h => absurd h List.not_mem_nil⟩

/-- A request of the page leaves the service as it is. -/
lemma served_state (hneeds : NeedsDate resource.controller) {sys : System}
    (h : Undatable service browser resource sys)
    {request : WireRequest} (hrequest : request ∈ sys.sent) (moment : Moment) :
    service.step sys.service (.request moment request) = sys.service := by
  rcases h.sent request hrequest with ⟨id, rfl⟩ | ⟨object, hobject, rfl⟩
  · exact get_state moment id
  · exact put_state hneeds moment hobject

lemma answersTo_undated {sys : System}
    (h : Undatable service browser resource sys)
    {request : WireRequest} (hrequest : request ∈ sys.sent) {moment : Moment} {text : String}
    (htext : text ∈ answersTo service sys.service moment request) :
    UndatedText service.runtime text := by
  rcases h.sent request hrequest with ⟨id, rfl⟩ | ⟨object, -, rfl⟩
  · rw [answersTo, getRequest, if_pos rfl, Option.mem_toList] at htext
    exact get_answered htext
  · rw [answersTo, putRequest, if_neg (show HttpRouter.Method.put ≠ .get by decide)] at htext
    exact absurd htext List.not_mem_nil

lemma undatable_step (hneeds : NeedsDate resource.controller) {sys : System}
    (h : Undatable service browser resource sys)
    (event : Event) :
    Undatable service browser resource
      (step service browser resource sys event) ∧
    (step service browser resource sys event).service =
      service.run sys.service (others [event]) := by
  cases event with
  | findDevice id =>
    refine ⟨⟨h.form, fun request hrequest => ?_, h.answers⟩, rfl⟩
    rcases List.mem_append.mp hrequest with hold | hnew
    · exact h.sent request hold
    · exact .inl ⟨id, List.mem_singleton.mp hnew⟩
  | served moment i =>
    rw [step]
    split
    · rename_i request hget
      have hrequest := List.mem_of_getElem? hget
      refine ⟨⟨h.form, fun other hother => h.sent other (List.mem_of_mem_eraseIdx hother),
        fun text htext => ?_⟩, served_state hneeds h hrequest moment⟩
      rcases List.mem_append.mp htext with hold | hnew
      · exact h.answers text hold
      · exact answersTo_undated h hrequest hnew
    · exact ⟨h, rfl⟩
  | setRegistry i =>
    rw [step]
    split
    · rename_i text hget
      refine ⟨⟨?_, h.sent, fun other hother => h.answers other (List.mem_of_mem_eraseIdx hother)⟩,
        rfl⟩
      obtain ⟨members, hmembers, rfl⟩ := h.answers text (List.mem_of_getElem? hget)
      obtain ⟨members', hparse, hmembers'⟩ := browser.parse_dump members hmembers
      simp only [hparse]
      exact hmembers'
    · exact ⟨h, rfl⟩
  | handleStatusChange status =>
    exact ⟨⟨undated_setMember h.form (by decide) _, h.sent, h.answers⟩, rfl⟩
  | handleNameChange name =>
    exact ⟨⟨undated_setMember h.form (by decide) _, h.sent, h.answers⟩, rfl⟩
  | handleOnApply =>
    rw [step]
    split
    · refine ⟨⟨h.form, fun request hrequest => ?_, h.answers⟩, rfl⟩
      rcases List.mem_append.mp hrequest with hold | hnew
      · exact h.sent request hold
      · exact .inr ⟨sys.form.object, h.form, List.mem_singleton.mp hnew⟩
    · exact ⟨h, rfl⟩
  | other event => exact ⟨⟨h.form, h.sent, h.answers⟩, rfl⟩

lemma run_service (hneeds : NeedsDate resource.controller) {sys : System}
    (h : Undatable service browser resource sys)
    (events : List Event) :
    (run service browser resource sys events).service =
      service.run sys.service (others events) := by
  induction events generalizing sys with
  | nil => rfl
  | cons event events ih =>
    obtain ⟨hnext, hservice⟩ := undatable_step hneeds h event
    have hsplit : others (event :: events) = others [event] ++ others events :=
      List.filterMap_append (l := [event])
    calc (run service browser resource sys (event :: events)).service
        = service.run (step service browser resource sys event).service (others events) := ih hnext
      _ = service.run (service.run sys.service (others [event])) (others events) := by
          rw [hservice]
      _ = service.run sys.service (others (event :: events)) := by
          rw [hsplit]
          exact List.foldl_append.symm

end

/-- Nothing that is edited is ever saved: whatever is done at the pages and however their requests
and answers are delayed, the service is where it would be without them. -/
theorem edits_never_saved (service : Service) (browser : Browser service.runtime)
    (s : ServiceRuns.State) (events : List Event) :
    (run service browser registries (opened s) events).service =
      service.run s (others events) ∧
    (run service browser devices (opened s) events).service =
      service.run s (others events) :=
  ⟨run_service registry_needsDate (undatable_opened s) events,
    run_service device_needsDate (undatable_opened s) events⟩

/-- A browser as it is on the page of the registry `garage`. -/
def garageBrowser : Browser bodyRuntime where
  stringify _ := "\x7b\"data\":" ++ garageBody ++ ",\"name\":\"carport\"\x7d"
  parse _ := some (.object [("data", garage.toJson)])
  template
    | some (.string s) => s
    | some (.integer n) => toString n
    | _ => "undefined"
  parse_dump _ _ := ⟨[("data", garage.toJson)], rfl, rfl⟩
  parse_stringify _ j _ h := by
    have hnone : bodyRuntime.parse ("\x7b\"data\":" ++ garageBody ++
        ",\"name\":\"carport\"\x7d") = none := by decide
    exact absurd (hnone.symm.trans h) (by simp)

-- Once the page has got its answer, its object has no id, and the server none to look up.
example : (run shippedService garageBrowser registries
      ⟨start RegistrySchema.shipped, ⟨initState, false⟩, [], [bodyRuntime.dump garage.toJson]⟩
      [.setRegistry 0, .handleNameChange "carport", .handleOnApply]).sent.map WireRequest.target =
    ["/api/registries?id=undefined"] := by decide

end EditForms
