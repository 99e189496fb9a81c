import RpiRobot.DeviceSearch

/-!
# The table of devices

The rounds of `DevicesPage`: an action of the user, and then the answers to all its requests in
their order, by a server whose devices stay the same. A typed name and a chosen registry keep the
number of the page, so the page may come to lie behind the last one; a search goes to the first.
-/

namespace ShownDevices

open EventRuns
open SqlTables SqlServers DomainObjects Repositories
open RowDecoding SecondSelects DeviceSearch
open Paging (pageCount)
open QueryPages (Query Request Response Page Site Action Event act step mount send findAll)
open StringLiterals (QuoteFree)
open RegistrySchema (schema)

-- Without this the unifier tries to parse the text of a statement.
attribute [local irreducible] textServer

/-! ## Rounds -/

section
variable (env : Env) (runtime : Runtime) (moment : Moment) (d : Database schema)

/-- What becomes of the request that waits longest. -/
def reply (s : Page DeviceDo) : Event DeviceDo :=
  match ((s.waiting[0]?).bind (fun i => s.sent[i]?)).bind
      (fun request => answer env runtime moment d request.params) with
  | some r => .response 0 r
  | none => .failure 0

def answerNext (s : Page DeviceDo) : Page DeviceDo :=
  step .devices s (reply env runtime moment d s)

def answerAll (s : Page DeviceDo) : Page DeviceDo :=
  s.waiting.foldl (fun s _ => answerNext env runtime moment d s) s

/-- The page when its first request is answered. -/
def opened : Page DeviceDo := answerAll env runtime moment d (mount .devices)

def round (s : Page DeviceDo) (a : Action) : Page DeviceDo :=
  answerAll env runtime moment d (act .devices s a)

/-- The table is empty only if no device matches. -/
def NotEmpty (s : Page DeviceDo) : Prop := matching d s.query ≠ [] → s.rows ≠ []

end

/-- The query after an action. -/
def queryAfter (s : Page DeviceDo) (a : Action) : Query := Site.devices.after s.query a

/-- What the user can do, with names that keep their meaning in a statement and with pages whose
offset is an `int`. -/
structure Possible (s : Page DeviceDo) (a : Action) : Prop where
  page : ∀ value, a = .page value → 1 ≤ value ∧ value ≤ s.count
  quoteFree : QuoteFree (queryAfter s a).searchName.toList
  nulFree : NulFree (queryAfter s a).searchName
  offset : ((10 * ((queryAfter s a).page - 1) : Nat) : Int) ≤ DecimalText.intMax

/-- No device matches after the action, or the page is not behind the last one, or it cannot be
read and there were rows already. -/
def Keeps (env : Env) (runtime : Runtime) (d : Database schema) (s : Page DeviceDo) (a : Action) :
    Prop :=
  matching d (queryAfter s a) = [] ∨
  Listed env runtime d (queryAfter s a) ∧
    10 * ((queryAfter s a).page - 1) < (matching d (queryAfter s a)).length ∨
  ¬ Listed env runtime d (queryAfter s a) ∧ s.rows ≠ []

/-! ## Answers -/

variable {env : Env} {runtime : Runtime} {moment : Moment} {d : Database schema}
  {s : Page DeviceDo} {request : Request}

/-- The rows of the table and the page count. -/
def table (s : Page DeviceDo) : List DeviceDo × Nat := (s.rows, s.count)

/-- What an answer to a request makes of the table. -/
def tableAfter (request : Request) (old : List DeviceDo × Nat) :
    Option (Response DeviceDo) → List DeviceDo × Nat
  | some r => (r.data, pageCount r.total request.pageSize)
  | none => old

variable (env runtime moment d) in
lemma answerNext_eq {i : Nat} {rest : List Nat} (hwaiting : s.waiting = i :: rest)
    (hsent : s.sent[i]? = some request) :
    (answerNext env runtime moment d s).query = s.query ∧
    (answerNext env runtime moment d s).waiting = rest ∧
    (answerNext env runtime moment d s).sent = s.sent ∧
    table (answerNext env runtime moment d s) =
      tableAfter request (table s) (answer env runtime moment d request.params) := by
  have hfirst : (s.waiting[0]?).bind (fun i => s.sent[i]?) = some request := by
    rw [hwaiting]
    exact hsent
  rw [answerNext, reply, hfirst, Option.bind_some]
  cases answer env runtime moment d request.params with
  | none =>
    have hfail : (s.waiting).eraseIdx 0 = rest := by rw [hwaiting]; rfl
    exact ⟨rfl, hfail, rfl, rfl⟩
  | some r =>
    have hrespond : step .devices s (.response 0 r) = { s with
        rows := r.data
        count := pageCount r.total request.pageSize
        waiting := s.waiting.eraseIdx 0
        answered := s.answered ++ [(request, r)] } := by
      rw [step, QueryPages.respond, hfirst]
    have hdone : (s.waiting).eraseIdx 0 = rest := by rw [hwaiting]; rfl
    rw [hrespond]
    exact ⟨rfl, hdone, rfl, rfl⟩

variable (env runtime moment d) in
/-- A single request. -/
lemma answerAll_send (hwaiting : s.waiting = []) (request : Request) :
    (answerAll env runtime moment d (send request s)).query = s.query ∧
    (answerAll env runtime moment d (send request s)).waiting = [] ∧
    table (answerAll env runtime moment d (send request s)) =
      tableAfter request (table s) (answer env runtime moment d request.params) := by
  have hone : (send request s).waiting = [s.sent.length] := by
    change s.waiting ++ [s.sent.length] = _
    rw [hwaiting, List.nil_append]
  have hsent : (send request s).sent[s.sent.length]? = some request :=
    List.getElem?_concat_length
  obtain ⟨hquery, hrest, -, hshown⟩ :=
    answerNext_eq env runtime moment d hone hsent
  have hall : answerAll env runtime moment d (send request s) =
      answerNext env runtime moment d (send request s) := by
    rw [answerAll, hone]
    rfl
  rw [hall]
  exact ⟨hquery, hrest, hshown⟩

variable (env runtime moment d) in
/-- Two requests; the second is answered last. -/
lemma answerAll_send_send (hwaiting : s.waiting = []) (first second : Request) :
    (answerAll env runtime moment d (send second (send first s))).query = s.query ∧
    (answerAll env runtime moment d (send second (send first s))).waiting = [] ∧
    table (answerAll env runtime moment d (send second (send first s))) =
      tableAfter second
        (tableAfter first (table s) (answer env runtime moment d first.params))
        (answer env runtime moment d second.params) := by
  have htwo : (send second (send first s)).waiting = [s.sent.length, s.sent.length + 1] := by
    change s.waiting ++ [s.sent.length] ++ [(s.sent ++ [first]).length] = _
    rw [hwaiting, List.length_append]
    rfl
  have hsent : (send second (send first s)).sent = s.sent ++ [first, second] :=
    List.append_assoc _ _ _
  have hfirst : (send second (send first s)).sent[s.sent.length]? = some first := by
    rw [hsent]
    simp
  have hsecond : (send second (send first s)).sent[s.sent.length + 1]? = some second := by
    rw [hsent]
    simp
  obtain ⟨hquery, hrest, hsame, hshown⟩ :=
    answerNext_eq env runtime moment d htwo hfirst
  obtain ⟨hquery', hrest', -, hshown'⟩ :=
    answerNext_eq env runtime moment d hrest (hsame ▸ hsecond)
  have hall : answerAll env runtime moment d (send second (send first s)) =
      answerNext env runtime moment d (answerNext env runtime moment d
        (send second (send first s))) := by
    rw [answerAll, htwo]
    rfl
  rw [hall]
  refine ⟨hquery'.trans hquery, hrest', ?_⟩
  rw [hshown', hshown]
  rfl

/-! ## The state between two rounds -/

/-- No request waits, and the page shows the answer to its query, if there is one. -/
structure Settled (env : Env) (runtime : Runtime) (moment : Moment) (d : Database schema)
    (s : Page DeviceDo) : Prop where
  waiting : s.waiting = []
  page : 1 ≤ s.query.page
  pageSize : s.query.pageSize = 10
  shows : tableAfter (Site.devices.request s.query) (table s)
    (answer env runtime moment d (Site.devices.getRequestParams s.query)) = table s

lemma tableAfter_twice (request : Request) (old : List DeviceDo × Nat)
    (r : Option (Response DeviceDo)) :
    tableAfter request (tableAfter request old r) r = tableAfter request old r := by
  cases r <;> rfl

lemma queryAfter_page {a : Action} (hpage : 1 ≤ s.query.page)
    (ha : ∀ value, a = .page value → 1 ≤ value) : 1 ≤ (queryAfter s a).page := by
  cases a with
  | type name => exact hpage
  | registry id => exact hpage
  | search => exact Nat.le_refl 1
  | page value => exact ha value rfl

lemma queryAfter_pageSize (s : Page DeviceDo) (a : Action) :
    (queryAfter s a).pageSize = s.query.pageSize := by
  cases a <;> rfl

/-- After a round the page has the new query, and shows the answer to it or what it showed. -/
lemma round_eq (hs : Settled env runtime moment d s) (a : Action) :
    (round env runtime moment d s a).query = queryAfter s a ∧
    (round env runtime moment d s a).waiting = [] ∧
    table (round env runtime moment d s a) =
      tableAfter (Site.devices.request (queryAfter s a)) (table s)
        (answer env runtime moment d (Site.devices.getRequestParams (queryAfter s a))) := by
  rcases QueryPages.act_cases .devices s a with ⟨hact, -, hsame⟩ | hact | hact
  · -- no request: the query has not changed
    have hquery : s.query = queryAfter s a := of_decide_eq_true hsame
    have hall : round env runtime moment d s a = { s with query := queryAfter s a } := by
      rw [round, hact, answerAll]
      change s.waiting.foldl _ _ = _
      rw [hs.waiting]
      rfl
    rw [hall, ← hquery]
    exact ⟨rfl, hs.waiting, hs.shows.symm⟩
  · rw [round, hact]
    exact answerAll_send env runtime moment d (s := { s with query := queryAfter s a })
      hs.waiting _
  · -- the first request is for the old query, and its answer is shown already
    rw [round, hact]
    obtain ⟨hquery, hdone, hshown⟩ := answerAll_send_send env runtime moment d
      (s := { s with query := queryAfter s a }) hs.waiting
      (Site.devices.request s.query) (Site.devices.request (queryAfter s a))
    refine ⟨hquery, hdone, hshown.trans ?_⟩
    exact congrArg (fun old => tableAfter (Site.devices.request (queryAfter s a)) old _) hs.shows

lemma settled_round (hs : Settled env runtime moment d s) {a : Action} (ha : Possible s a) :
    Settled env runtime moment d (round env runtime moment d s a) := by
  obtain ⟨hquery, hdone, hshown⟩ := round_eq hs a
  refine ⟨hdone, ?_, ?_, ?_⟩
  · rw [hquery]
    exact queryAfter_page hs.page fun value hvalue => (ha.page value hvalue).1
  · rw [hquery, queryAfter_pageSize, hs.pageSize]
  · rw [hquery, hshown, tableAfter_twice]

variable (env runtime moment d) in
lemma opened_query : (opened env runtime moment d).query = ⟨"", 0, 1, 10⟩ :=
  (answerAll_send env runtime moment d (s := ⟨⟨"", 0, 1, 10⟩, [], 0, [], [], []⟩) rfl _).1

variable (env runtime moment d) in
lemma settled_opened : Settled env runtime moment d (opened env runtime moment d) := by
  obtain ⟨-, hdone, htable⟩ := answerAll_send env runtime moment d
    (s := ⟨⟨"", 0, 1, 10⟩, [], 0, [], [], []⟩) rfl
    (Site.devices.request ⟨"", 0, 1, 10⟩)
  refine ⟨hdone, ?_, ?_, ?_⟩
  · rw [opened_query]
  · rw [opened_query]
  · rw [opened_query, show table (opened env runtime moment d) = _ from htable]
    exact tableAfter_twice _ _ _

/-- The page count that is shown is that of the devices that match. -/
lemma shown_count (hs : Settled env runtime moment d s) (hplain : Plain s.query)
    (hlisted : Listed env runtime d s.query) :
    s.count = pageCount (matching d s.query).length 10 := by
  obtain ⟨hanswers, hanswer⟩ := answer_spec env runtime moment d hplain
  obtain ⟨r, hr⟩ := hanswers.mpr hlisted
  have hshown := hs.shows
  rw [hr] at hshown
  rw [← (hanswer r hr).2, ← hs.pageSize]
  exact (congrArg Prod.snd hshown).symm

/-! ## Rows in the table -/

lemma plain_after (hs : Settled env runtime moment d s) {a : Action} (ha : Possible s a) :
    Plain (queryAfter s a) where
  quoteFree := ha.quoteFree
  nulFree := ha.nulFree
  page := queryAfter_page hs.page fun value hvalue => (ha.page value hvalue).1
  pageSize := by
    rw [queryAfter_pageSize, hs.pageSize]
    decide
  size := by
    rw [queryAfter_pageSize, hs.pageSize]
    decide
  offset := by
    rw [queryAfter_pageSize, hs.pageSize]
    exact ha.offset

/-- The rows after a round. -/
lemma round_rows (hs : Settled env runtime moment d s) {a : Action} (ha : Possible s a) :
    (Listed env runtime d (queryAfter s a) → ((round env runtime moment d s a).rows ≠ [] ↔
      10 * ((queryAfter s a).page - 1) < (matching d (queryAfter s a)).length)) ∧
    (¬ Listed env runtime d (queryAfter s a) → (round env runtime moment d s a).rows = s.rows) := by
  have hplain := plain_after hs ha
  obtain ⟨hanswers, hanswer⟩ := answer_spec env runtime moment d hplain
  obtain ⟨-, -, htable⟩ := round_eq hs a
  constructor
  · intro hlisted
    obtain ⟨r, hr⟩ := hanswers.mpr hlisted
    rw [hr] at htable
    have hrows : (round env runtime moment d s a).rows = r.data := congrArg Prod.fst htable
    have hlength : (pageOf d (queryAfter s a)).length = r.data.length := (hanswer r hr).1.length_eq
    have hpage := pageOf_ne_nil (d := d) hplain.pageSize
    rw [queryAfter_pageSize, hs.pageSize] at hpage
    rw [hrows, ← hpage, ← List.length_pos_iff, ← List.length_pos_iff, hlength]
  · intro hlisted
    have hnone : answer env runtime moment d (Site.devices.getRequestParams (queryAfter s a)) =
        none := by
      rw [Option.eq_none_iff_forall_ne_some]
      exact fun r hr => hlisted (hanswers.mp ⟨r, hr⟩)
    rw [hnone] at htable
    exact congrArg Prod.fst htable

lemma notEmpty_round (hs : Settled env runtime moment d s) {a : Action} (ha : Possible s a) :
    NotEmpty d (round env runtime moment d s a) ↔ Keeps env runtime d s a := by
  obtain ⟨hquery, -, -⟩ := round_eq hs a
  obtain ⟨hread, hfailed⟩ := round_rows hs ha
  rw [NotEmpty, hquery, Keeps]
  by_cases hlisted : Listed env runtime d (queryAfter s a)
  · rw [hread hlisted]
    constructor
    · intro h
      by_cases hnone : matching d (queryAfter s a) = []
      · exact .inl hnone
      · exact .inr (.inl ⟨hlisted, h hnone⟩)
    · rintro (hnone | ⟨-, hlt⟩ | ⟨hnot, -⟩) hsome
      · exact absurd hnone hsome
      · exact hlt
      · exact absurd hlisted hnot
  · rw [hfailed hlisted]
    constructor
    · intro h
      by_cases hnone : matching d (queryAfter s a) = []
      · exact .inl hnone
      · exact .inr (.inr ⟨hlisted, h hnone⟩)
    · rintro (hnone | ⟨hread, -⟩ | ⟨-, hrows⟩) hsome
      · exact absurd hnone hsome
      · exact absurd hread hlisted
      · exact hrows

/-- Where all pages that the user asks for can be read, a search and a page between the first and
the last one leave rows in the table. -/
theorem listed_keeps (hs : Settled env runtime moment d s) (hplain : Plain s.query)
    (hlisted : Listed env runtime d s.query) {a : Action} (ha : Possible s a)
    (hnext : Listed env runtime d (queryAfter s a))
    (hkind : a = .search ∨ ∃ value, a = .page value) :
    Keeps env runtime d s a := by
  by_cases hnone : matching d (queryAfter s a) = []
  · exact .inl hnone
  refine .inr (.inl ⟨hnext, ?_⟩)
  rcases hkind with rfl | ⟨value, rfl⟩
  · have hlength := List.length_pos_iff.mpr hnone
    have hpage : (queryAfter s .search).page = 1 := rfl
    rw [hpage]
    omega
  · obtain ⟨hvalue, hcount⟩ := ha.page value rfl
    have hsame : matching d (queryAfter s (.page value)) = matching d s.query := rfl
    have hpage : (queryAfter s (.page value)).page = value := rfl
    rw [shown_count hs hplain hlisted, pageCount] at hcount
    rw [hsame, hpage]
    omega

/-! ## Eleven devices -/

/-- Eleven devices of one registry. -/
def elevenRows : String → List SqlConditions.Row
  | "registry" => [newRow RegistrySchema.setup RegistrySchema.registry 1
      [("id", .int 1), ("name", .text "home"), ("uuid", .text "home"),
        ("json_data", .json RegistrySchema.online)]]
  | "device" => ["a", "b", "c", "d", "e", "f", "g", "h", "i", "j", "k"].zipIdx.map fun named =>
      newRow RegistrySchema.setup RegistrySchema.device 1
        [("id", .int named.2), ("registry_id", .int 1), ("name", .text named.1),
          ("uuid", .text named.1), ("json_data", .json RegistrySchema.online)]
  | _ => []

def eleven : Database schema := ⟨elevenRows, fun _ => 1, by decide⟩

lemma eleven_listed (q : Query) :
    Listed RegistrySchema.shippedEnv shippedRuntime eleven q := by
  have hjson : ∀ r ∈ eleven.rows "device",
      Readable RegistrySchema.shippedEnv shippedRuntime (r "json_data") := by decide
  exact listed_of_readable (fun r hr => ⟨hjson r hr, fun s hs => absurd hs List.not_mem_nil⟩) q

/-! ## Runs -/

/-- In every run of possible actions the table has rows after each action if some device
matches, just if each action of the run keeps them. -/
theorem notEmpty_iff (actions : List Action)
    (h : Meets (round env runtime moment d) Possible (opened env runtime moment d) actions) :
    (∀ k < actions.length, NotEmpty d
      ((actions.take (k + 1)).foldl (round env runtime moment d) (opened env runtime moment d))) ↔
      Meets (round env runtime moment d) (Keeps env runtime d) (opened env runtime moment d)
        actions := by
  rw [← meets_after_iff]
  exact h.congr (fun _ _ hs ha => settled_round hs ha) (fun _ _ hs ha => notEmpty_round hs ha)
    (settled_opened env runtime moment d)

/-- There is a second page. -/
lemma second_possible :
    Possible (opened RegistrySchema.shippedEnv shippedRuntime RegistrySchema.setup eleven)
      (.page 2) := by
  have hquery := opened_query RegistrySchema.shippedEnv shippedRuntime RegistrySchema.setup eleven
  have hplain : Plain ⟨"", 0, 1, 10⟩ := by constructor <;> decide
  have hcount := shown_count
    (settled_opened RegistrySchema.shippedEnv shippedRuntime RegistrySchema.setup eleven)
    (hquery ▸ hplain) (eleven_listed _)
  rw [hquery] at hcount
  constructor
  · intro value hvalue
    obtain rfl := Action.page.inj hvalue
    rw [hcount]
    decide
  all_goals
    rw [queryAfter, hquery]
    decide

lemma possible_of_query {a : Action} {q : Query} (hquery : queryAfter s a = q)
    (hpage : ∀ value, a ≠ .page value) (hquote : QuoteFree q.searchName.toList)
    (hnul : NulFree q.searchName)
    (hoffset : ((10 * (q.page - 1) : Nat) : Int) ≤ DecimalText.intMax) : Possible s a :=
  ⟨fun value ha => absurd ha (hpage value), hquery ▸ hquote, hquery ▸ hnul, hquery ▸ hoffset⟩

lemma eleven_keeps {a : Action} {q : Query} (hquery : queryAfter s a = q)
    (h : 10 * (q.page - 1) < (matching eleven q).length) :
    Keeps RegistrySchema.shippedEnv shippedRuntime eleven s a :=
  .inr (.inl ⟨eleven_listed _, hquery ▸ h⟩)

/-- The second page is left again by a search, and then a name is typed. -/
def searchedAgain : List Action := [.page 2, .search, .type "a"]

/-- The page after the first actions of the search. -/
def shownAfter (n : Nat) : Page DeviceDo := (searchedAgain.take n).foldl
  (round RegistrySchema.shippedEnv shippedRuntime RegistrySchema.setup eleven)
  (opened RegistrySchema.shippedEnv shippedRuntime RegistrySchema.setup eleven)

theorem notEmpty_iff_searched : NotEmpty eleven (shownAfter 1) ∧ NotEmpty eleven (shownAfter 2) ∧
    NotEmpty eleven (shownAfter 3) := by
  have hopened := settled_opened RegistrySchema.shippedEnv shippedRuntime RegistrySchema.setup
    eleven
  have hpage : queryAfter
      (opened RegistrySchema.shippedEnv shippedRuntime RegistrySchema.setup eleven) (.page 2) =
        ⟨"", 0, 2, 10⟩ := by
    rw [queryAfter, opened_query]
    rfl
  have hsecond := settled_round hopened second_possible
  have hsearch : queryAfter (round RegistrySchema.shippedEnv shippedRuntime RegistrySchema.setup
      eleven (opened RegistrySchema.shippedEnv shippedRuntime RegistrySchema.setup eleven)
        (.page 2)) .search = ⟨"", 0, 1, 10⟩ := by
    rw [queryAfter, (round_eq hopened (.page 2)).1, hpage]
    rfl
  have hpossible := possible_of_query hsearch (by simp) (by decide) (by decide) (by decide)
  have hname : queryAfter (round RegistrySchema.shippedEnv shippedRuntime RegistrySchema.setup
      eleven (round RegistrySchema.shippedEnv shippedRuntime RegistrySchema.setup eleven
        (opened RegistrySchema.shippedEnv shippedRuntime RegistrySchema.setup eleven) (.page 2))
        .search) (.type "a") = ⟨"a", 0, 1, 10⟩ := by
    rw [queryAfter, (round_eq hsecond .search).1, hsearch]
    rfl
  have hshown : ∀ k < searchedAgain.length, NotEmpty eleven (shownAfter (k + 1)) :=
    (notEmpty_iff searchedAgain ⟨second_possible, hpossible,
      possible_of_query hname (by simp) (by decide) (by decide) (by decide), trivial⟩).mpr
        ⟨eleven_keeps hpage (by decide), eleven_keeps hsearch (by decide),
          eleven_keeps hname (by decide), trivial⟩
  exact ⟨hshown 0 (by decide), hshown 1 (by decide), hshown 2 (by decide)⟩

/-- On the second page a name is typed that one device has. -/
lemma typed_not_keeps (hquery : s.query = ⟨"", 0, 2, 10⟩) : Possible s (.type "a") ∧
    ¬ Keeps RegistrySchema.shippedEnv shippedRuntime eleven s (.type "a") := by
  have hafter : queryAfter s (.type "a") = ⟨"a", 0, 2, 10⟩ := by
    rw [queryAfter, hquery]
    rfl
  have hone : (matching eleven ⟨"a", 0, 2, 10⟩).length = 1 := by decide
  constructor
  · refine ⟨nofun, ?_, ?_, ?_⟩ <;> rw [hafter] <;> decide
  · rw [Keeps, hafter, hone]
    rintro (hnone | ⟨-, hlt⟩ | ⟨hnot, -⟩)
    · rw [hnone] at hone
      cases hone
    · exact absurd hlt (by decide)
    · exact hnot (eleven_listed _)

/-- A device has the name, and the table is empty. -/
theorem typed_name_empties :
    Meets (round RegistrySchema.shippedEnv shippedRuntime RegistrySchema.setup eleven) Possible
      (opened RegistrySchema.shippedEnv shippedRuntime RegistrySchema.setup eleven)
      [.page 2, .type "a"] ∧
    ¬ NotEmpty eleven ([.page 2, .type "a"].foldl
      (round RegistrySchema.shippedEnv shippedRuntime RegistrySchema.setup eleven)
      (opened RegistrySchema.shippedEnv shippedRuntime RegistrySchema.setup eleven)) := by
  have hopened := settled_opened RegistrySchema.shippedEnv shippedRuntime RegistrySchema.setup
    eleven
  have hsecond := settled_round hopened second_possible
  obtain ⟨hquery, -, -⟩ := round_eq hopened (.page 2)
  have hpage : queryAfter
      (opened RegistrySchema.shippedEnv shippedRuntime RegistrySchema.setup eleven) (.page 2) =
        ⟨"", 0, 2, 10⟩ := by
    rw [queryAfter, opened_query]
    rfl
  obtain ⟨hpossible, hkeeps⟩ := typed_not_keeps (hquery.trans hpage)
  rw [List.foldl_cons, List.foldl_cons, List.foldl_nil, notEmpty_round hsecond hpossible]
  exact ⟨⟨second_possible, hpossible, trivial⟩, hkeeps⟩

end ShownDevices
