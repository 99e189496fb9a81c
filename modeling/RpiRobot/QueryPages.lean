import RpiRobot.EventRuns
import RpiRobot.Paging

/-!
# Queries on the list pages

`DevicesPage` and `RegistryPage`: an action runs its handler with the values of the last
render, and then the effect, if one of its dependencies has changed. Both may send a
request; a response sets the rows and the page count, whichever request it answers.
-/

namespace QueryPages

open EventRuns
open Paging (pageCount whenText withPage)
open RequestParams (Params)

structure Query where
  searchName : String
  registryId : Int
  page : Nat
  pageSize : Nat
  deriving DecidableEq, Repr

/-- A request, with the page size that the handler of its response holds. -/
structure Request where
  params : Params
  pageSize : Nat
  deriving DecidableEq, Repr

structure Response (Row : Type) where
  data : List Row
  total : Nat
  deriving DecidableEq, Repr

/-- `waiting` are the indices of the requests without a response, `answered` the
responses that have come. -/
structure Page (Row : Type) where
  query : Query
  rows : List Row
  count : Nat
  sent : List Request
  waiting : List Nat
  answered : List (Request × Response Row)
  deriving DecidableEq, Repr

inductive Site where
  | devices
  | registries
  deriving DecidableEq, Repr

/-- The request parameters of a page, for any id of a registry. -/
def Site.getRequestParams : Site → Query → Params
  | .devices, q =>
    withPage (whenText "name" q.searchName ++
      if q.registryId = 0 then [] else [("registry_id", toString q.registryId)]) q.page q.pageSize
  | .registries, q => withPage (whenText "name" q.searchName) q.page q.pageSize

def Site.request (site : Site) (q : Query) : Request := ⟨site.getRequestParams q, q.pageSize⟩

/-- The dependencies of the effect have not changed. -/
def Site.sameDeps : Site → Query → Query → Bool
  | .devices, q, q' => q = q'
  | .registries, q, q' => q.page = q'.page && q.pageSize = q'.pageSize

inductive Action where
  | type (name : String)
  | registry (id : Int)
  | search
  | page (value : Nat)
  deriving DecidableEq, Repr

/-- The k-th of the requests that are waiting gets a response, or fails. -/
inductive Event (Row : Type) where
  | act (a : Action)
  | response (k : Nat) (r : Response Row)
  | failure (k : Nat)
  deriving DecidableEq, Repr

section
variable {Row : Type}

def send (request : Request) (s : Page Row) : Page Row :=
  { s with sent := s.sent ++ [request], waiting := s.waiting ++ [s.sent.length] }

/-- `findAllDevices` and `findAllRegistries`, with the values they have captured. -/
def findAll (site : Site) (captured : Query) (s : Page Row) : Page Row :=
  send (site.request captured) s

def setSearchName (name : String) (s : Page Row) : Page Row :=
  { s with query := { s.query with searchName := name } }

def setRegistryId (id : Int) (s : Page Row) : Page Row :=
  { s with query := { s.query with registryId := id } }

def setPage (value : Nat) (s : Page Row) : Page Row :=
  { s with query := { s.query with page := value } }

def findByName (site : Site) (s : Page Row) : Page Row := findAll site s.query (setPage 1 s)

def handleRegistryChange (id : Int) (s : Page Row) : Page Row :=
  findAll .devices s.query (setRegistryId id s)

/-- The handler of an action; the page of the registries does not choose a registry. -/
def handler (site : Site) (s : Page Row) : Action → Page Row
  | .type name => setSearchName name s
  | .registry id =>
    match site with
    | .devices => handleRegistryChange id s
    | .registries => s
  | .search => findByName site s
  | .page value => setPage value s

def useEffect (site : Site) (before : Query) (s : Page Row) : Page Row :=
  if site.sameDeps before s.query then s else findAll site s.query s

def act (site : Site) (s : Page Row) (a : Action) : Page Row :=
  useEffect site s.query (handler site s a)

/-- The first render and its effect. -/
def mount (site : Site) : Page Row :=
  findAll site ⟨"", 0, 1, 10⟩ ⟨⟨"", 0, 1, 10⟩, [], 0, [], [], []⟩

def respond (k : Nat) (r : Response Row) (s : Page Row) : Page Row :=
  match (s.waiting[k]?).bind (fun i => s.sent[i]?) with
  | some request =>
    { s with
      rows := r.data
      count := pageCount r.total request.pageSize
      waiting := s.waiting.eraseIdx k
      answered := s.answered ++ [(request, r)] }
  | none => s

def fail (k : Nat) (s : Page Row) : Page Row := { s with waiting := s.waiting.eraseIdx k }

def step (site : Site) (s : Page Row) : Event Row → Page Row
  | .act a => act site s a
  | .response k r => respond k r s
  | .failure k => fail k s

/-! What the pages are for. -/

/-- The rows and the page count are those of a response to this request. -/
def ShowsRequest (s : Page Row) (request : Request) : Prop :=
  ∃ x ∈ s.answered, x.1 = request ∧ s.rows = x.2.data ∧
    s.count = pageCount x.2.total request.pageSize

/-- The rows and the page count are those of a response to the current query. -/
def ShowsQuery (site : Site) (s : Page Row) : Prop := ShowsRequest s (site.request s.query)

def newest (s : Page Row) : Option Request := s.sent[s.sent.length - 1]?

def NewestWaiting (s : Page Row) : Prop := s.sent.length - 1 ∈ s.waiting

/-- No answer to an older request replaces that of the newest one: a response comes to a
request like the newest, or while the newest is waiting, and the newest does not fail. And
where a page of registries is chosen that is the current page already, the newest request
is for the current query. -/
def Timely (site : Site) (s : Page Row) : Event Row → Prop
  | .act (.page value) => site = .registries → value = s.query.page →
      newest s = some (site.request s.query)
  | .act _ => True
  | .response k _ => (s.waiting[k]?).bind (fun i => s.sent[i]?) = newest s ∨ NewestWaiting s
  | .failure k => s.waiting[k]? ≠ some (s.sent.length - 1)

/-- Once the newest request has its response, its answer is shown. -/
structure Settles (s : Page Row) : Prop where
  started : 0 < s.sent.length
  sent : ∀ i ∈ s.waiting, i < s.sent.length
  shows : NewestWaiting s ∨ ∃ request, newest s = some request ∧ ShowsRequest s request

/-! ## Actions -/

/-- The query after an action. -/
def Site.after : Site → Query → Action → Query
  | _, q, .type name => { q with searchName := name }
  | .devices, q, .registry id => { q with registryId := id }
  | .registries, q, .registry _ => q
  | _, q, .search => { q with page := 1 }
  | _, q, .page value => { q with page := value }

variable {site : Site} {s : Page Row} {q : Query} {request : Request}

/-- Equal pages leave the query of a search as it is, on either page. -/
lemma search_same (h : site.sameDeps q { q with page := 1 } = true) : { q with page := 1 } = q := by
  have hpage : q.page = 1 := by
    cases site with
    | devices =>
      have hq : q = { q with page := 1 } := of_decide_eq_true h
      rw [hq]
    | registries =>
      have hq : q.page = 1 ∧ q.pageSize = q.pageSize := by simpa [Site.sameDeps] using h
      exact hq.1
  rw [← hpage]

/-- All that an action does: it changes the query, and its handler or the effect or both
ask for a page, the effect last and for the new query. -/
lemma act_cases (site : Site) (s : Page Row) (a : Action) :
    (act site s a = { s with query := site.after s.query a } ∧ a ≠ .search ∧
      site.sameDeps s.query (site.after s.query a) = true) ∨
    act site s a = findAll site (site.after s.query a) { s with query := site.after s.query a } ∨
    act site s a = findAll site (site.after s.query a)
      (findAll site s.query { s with query := site.after s.query a }) := by
  cases a with
  | type name =>
    by_cases hsame : site.sameDeps s.query { s.query with searchName := name } = true
    · exact .inl ⟨if_pos hsame, by simp, by cases site <;> exact hsame⟩
    · exact .inr (.inl (by cases site <;> exact if_neg hsame))
  | registry id =>
    cases site with
    | devices =>
      by_cases hsame : Site.devices.sameDeps s.query { s.query with registryId := id } = true
      · have hq : s.query = { s.query with registryId := id } := of_decide_eq_true hsame
        have hact : act .devices s (.registry id) = findAll .devices s.query
            { s with query := { s.query with registryId := id } } := if_pos hsame
        exact .inr (.inl (hact.trans (congrArg (findAll .devices · _) hq)))
      · exact .inr (.inr (if_neg hsame))
    | registries =>
      have hsame : Site.registries.sameDeps s.query s.query = true := by simp [Site.sameDeps]
      exact .inl ⟨if_pos hsame, by simp, hsame⟩
  | search =>
    by_cases hsame : site.sameDeps s.query { s.query with page := 1 } = true
    · have hq := search_same hsame
      have hact : act site s .search = findAll site s.query
          { s with query := { s.query with page := 1 } } := if_pos hsame
      have hfind := hact.trans (congrArg (findAll site · _) hq.symm)
      exact .inr (.inl (by cases site <;> exact hfind))
    · exact .inr (.inr (by cases site <;> exact if_neg hsame))
  | page value =>
    by_cases hsame : site.sameDeps s.query { s.query with page := value } = true
    · exact .inl ⟨if_pos hsame, by simp, by cases site <;> exact hsame⟩
    · exact .inr (.inl (by cases site <;> exact if_neg hsame))

lemma newest_send (s : Page Row) (request : Request) : newest (send request s) = some request := by
  simp [newest, send]

/-- On the page of the devices every action leaves a request for its query as the newest. -/
lemma devices_newest (h : newest s = some (Site.devices.request s.query)) (a : Action) :
    newest (act .devices s a) = some (Site.devices.request (act .devices s a).query) := by
  rcases act_cases .devices s a with ⟨hact, -, hsame⟩ | hact | hact
  · have hq : s.query = Site.devices.after s.query a := of_decide_eq_true hsame
    rw [hact, ← hq]
    exact h
  · rw [hact]
    exact newest_send _ _
  · rw [hact]
    exact newest_send _ _

/-- On the page of the registries a search does, and a change of the page that is one. -/
lemma registries_newest {a : Action} (ha : a = .search ∨ ∃ value, a = .page value)
    (htimely : Timely .registries s (.act a)) :
    newest (act .registries s a) = some (Site.registries.request (act .registries s a).query) := by
  rcases act_cases .registries s a with ⟨hact, hsearch, hsame⟩ | hact | hact
  · obtain ⟨value, rfl⟩ := ha.resolve_left hsearch
    have hpage : s.query.page = value :=
      of_decide_eq_true ((Bool.and_eq_true _ _).mp hsame).1
    have hvalue : value = s.query.page := hpage.symm
    have hnewest := htimely rfl hvalue
    have hq : Site.registries.after s.query (.page value) = s.query := by
      subst hvalue
      rfl
    rw [hact, hq]
    exact hnewest
  · rw [hact]
    exact newest_send _ _
  · rw [hact]
    exact newest_send _ _

/-! ## Responses -/

lemma settles_send (hsent : ∀ i ∈ s.waiting, i < s.sent.length) (request : Request) :
    Settles (send request s) where
  started := by simp [send]
  sent := by
    intro i hi
    have hlength : (send request s).sent.length = s.sent.length + 1 := by simp [send]
    rcases List.mem_append.mp hi with hi | hi
    · have hlt := hsent i hi
      omega
    · have heq := List.mem_singleton.mp hi
      omega
  shows := .inl (by simp [NewestWaiting, send])

lemma Settles.setQuery (h : Settles s) (q : Query) : Settles { s with query := q } :=
  ⟨h.started, h.sent, h.shows⟩

lemma Settles.act (h : Settles s) (site : Site) (a : Action) : Settles (act site s a) := by
  rcases act_cases site s a with ⟨hact, -, -⟩ | hact | hact
  · exact hact ▸ h.setQuery _
  · exact hact ▸ settles_send (s := { s with query := site.after s.query a }) h.sent _
  · have hfirst := settles_send (s := { s with query := site.after s.query a }) h.sent
      (site.request s.query)
    exact hact ▸ settles_send hfirst.sent _

/-- Another request still waits after the k-th has its response. -/
lemma mem_eraseIdx_of_ne {waiting : List Nat} {k i : Nat} (hi : i ∈ waiting)
    (hk : waiting[k]? ≠ some i) : i ∈ waiting.eraseIdx k := by
  rw [List.mem_eraseIdx_iff_getElem?]
  obtain ⟨j, hj⟩ := List.mem_iff_getElem?.mp hi
  exact ⟨j, fun hjk => hk (hjk ▸ hj), hj⟩

lemma Settles.fail (h : Settles s) {k : Nat} (htimely : s.waiting[k]? ≠ some (s.sent.length - 1)) :
    Settles (fail k s) where
  started := h.started
  sent := fun i hi => h.sent i (List.mem_of_mem_eraseIdx hi)
  shows := by
    rcases h.shows with hwaiting | hshows
    · exact .inl (mem_eraseIdx_of_ne hwaiting htimely)
    · exact .inr hshows

lemma Settles.respond (h : Settles s) {k : Nat} {r : Response Row}
    (htimely : Timely site s (.response k r)) : Settles (respond k r s) := by
  unfold QueryPages.respond
  cases hrequest : (s.waiting[k]?).bind (fun i => s.sent[i]?) with
  | none => exact h
  | some request =>
    obtain ⟨i, hi, hsent⟩ := Option.bind_eq_some_iff.mp hrequest
    refine ⟨h.started, fun i hi => h.sent i (List.mem_of_mem_eraseIdx hi), ?_⟩
    by_cases hnewest : newest s = some request
    · refine .inr ⟨request, hnewest, (request, r), ?_, rfl, rfl, rfl⟩
      exact List.mem_append_right _ (List.mem_singleton_self _)
    · -- an answer to another request: the newest still waits
      have hwaiting : NewestWaiting s :=
        htimely.resolve_left (fun heq => hnewest (heq.symm.trans hrequest))
      refine .inl (mem_eraseIdx_of_ne hwaiting fun hk => hnewest ?_)
      obtain rfl := Option.some.inj (hi.symm.trans hk)
      exact hsent

theorem step_settles {e : Event Row} (h : Settles s) (htimely : Timely site s e) :
    Settles (step site s e) := by
  cases e with
  | act a => exact h.act site a
  | response k r => exact h.respond htimely
  | failure k => exact h.fail htimely

lemma mount_settles (site : Site) : Settles (mount site : Page Row) :=
  settles_send (by simp) _

lemma Settles.shown (h : Settles s) (hall : s.waiting = [])
    (hnewest : newest s = some (site.request s.query)) : ShowsQuery site s := by
  rcases h.shows with hwaiting | ⟨request, hrequest, hshows⟩
  · exact absurd (hall ▸ hwaiting : s.sent.length - 1 ∈ []) (by simp)
  · obtain rfl := Option.some.inj (hnewest.symm.trans hrequest)
    exact hshows

/-! ## Runs -/

def Event.isAction : Event Row → Bool
  | .act _ => true
  | _ => false

variable (site s) in
/-- Responses ask for nothing. -/
lemma newest_response {e : Event Row} (h : e.isAction = false) :
    newest (step site s e) = newest s ∧ (step site s e).query = s.query := by
  cases e with
  | act a => cases h
  | response k r =>
    simp only [step, respond]
    split <;> exact ⟨rfl, rfl⟩
  | failure k => exact ⟨rfl, rfl⟩

lemma newest_responses {events : List (Event Row)} (h : ∀ e ∈ events, e.isAction = false)
    (hs : newest s = some (site.request s.query)) :
    newest (events.foldl (step site) s)
      = some (site.request (events.foldl (step site) s).query) := by
  induction events generalizing s with
  | nil => exact hs
  | cons e events ih =>
    obtain ⟨hnewest, hquery⟩ := newest_response site s (h e List.mem_cons_self)
    exact ih (fun e' he' => h e' (List.mem_cons_of_mem _ he')) (by rw [hnewest, hquery, hs])

lemma devices_run (events : List (Event Row))
    (hs : newest s = some (Site.devices.request s.query)) :
    newest (events.foldl (step .devices) s)
      = some (Site.devices.request (events.foldl (step .devices) s).query) := by
  induction events generalizing s with
  | nil => exact hs
  | cons e events ih =>
    refine ih ?_
    by_cases hact : e.isAction = true
    · cases e with
      | act a => exact devices_newest hs a
      | _ => cases hact
    · obtain ⟨hnewest, hquery⟩ := newest_response .devices s
        (Bool.eq_false_iff.mpr hact)
      rw [hnewest, hquery, hs]

/-- Where the answers to the newest requests come last, the pages show the current query
once all responses are in: the page of the devices after any actions, that of the
registries after a search or a change of the page. -/
theorem newest_query_shown :
    (∀ events : List (Event Row),
      Meets (step .devices) (Timely .devices) (mount .devices) events →
      (events.foldl (step .devices) (mount .devices)).waiting = [] →
        ShowsQuery .devices (events.foldl (step .devices) (mount .devices))) ∧
    (∀ (before : List (Event Row)) (a : Action) (after : List (Event Row)),
      (a = .search ∨ ∃ value, a = .page value) → (∀ e ∈ after, e.isAction = false) →
      Meets (step .registries) (Timely .registries) (mount .registries)
        (before ++ .act a :: after) →
      ((before ++ .act a :: after).foldl (step .registries) (mount .registries)).waiting = [] →
        ShowsQuery .registries
          ((before ++ .act a :: after).foldl (step .registries) (mount .registries))) := by
  constructor
  · intro events htimely hall
    have hsettles := htimely.invariant (fun _ _ h ht => step_settles h ht) (mount_settles .devices)
    exact hsettles.shown hall (devices_run events (newest_send _ _))
  · intro before a after ha hafter htimely hall
    have hsettles := htimely.invariant (fun _ _ h ht => step_settles h ht)
      (mount_settles .registries)
    obtain ⟨-, hact, -⟩ := meets_append.mp htimely
    refine hsettles.shown hall ?_
    rw [List.foldl_append, List.foldl_cons]
    exact newest_responses hafter (registries_newest ha hact)

instance [DecidableEq Row] (site : Site) (s : Page Row) : Decidable (ShowsQuery site s) :=
  inferInstanceAs (Decidable (∃ x ∈ s.answered, x.1 = site.request s.query ∧ _))

end

/-- A name is typed, and its page comes first. -/
def typedOver : List (Event String) :=
  [.act (.type "a"), .response 0 ⟨["b", "a"], 2⟩, .response 0 ⟨["a"], 1⟩]

/-- A name is typed among the registries, and asked for by a search. -/
def beforeSearch : List (Event String) := [.act (.type "a"), .response 0 ⟨["b", "a"], 2⟩]

def afterSearch : List (Event String) := [.response 0 ⟨["a"], 1⟩]

theorem newest_query_shown_typed :
    ShowsQuery .devices (typedOver.foldl (step .devices) (mount .devices)) ∧
      ShowsQuery .registries ((beforeSearch ++ .act .search :: afterSearch).foldl
        (step .registries) (mount .registries)) := by
  constructor
  · refine newest_query_shown.1 typedOver ⟨trivial, ?_, ?_, trivial⟩ (by decide)
    · exact .inr (by decide : (1 : Nat) ∈ [0, 1])
    · exact .inl (by decide)
  · refine newest_query_shown.2 beforeSearch .search afterSearch (.inl rfl) (by decide)
      ⟨trivial, ?_, trivial, ?_, trivial⟩ (by decide)
    · exact .inl (by decide)
    · exact .inl (by decide)

/-- The answer to the older request comes last, and its rows stay. -/
theorem older_answer_stays :
    ([.act (.type "a"), .response 1 ⟨["a"], 1⟩, .response 0 ⟨["b", "a"], 2⟩].foldl
        (step .devices) (mount .devices)).waiting = [] ∧
      ¬ShowsQuery .devices ([.act (.type "a"), .response 1 ⟨["a"], 1⟩,
        .response 0 ⟨["b", "a"], 2⟩].foldl (step .devices) (mount .devices : Page String)) := by
  decide

end QueryPages
