import RpiRobot.WorkerRuns

/-!
# One connection and its requests

A client sends requests on one connection. They arrive at any moment until it is closed; the
worker reads the first and writes its answer. The callback of that write calls `accept`, which
closes the socket and discards what else has arrived, whatever the answer has announced.
-/

namespace KeptAlive

open EventRuns HttpWorker WorkerRuns

inductive Connection where
  | backlog
  | accepted
  | closed
  deriving DecidableEq, Repr

/-- A request is given by what the request handler does with it. -/
structure Session where
  worker : Worker
  connection : Connection
  unsent : List Handling
  /-- In the buffer of the worker or of the socket. -/
  received : List Handling
  /-- What `_parser` holds. -/
  request : Handling
  answers : List Response

def Session.init (worker : Worker) (client : List Handling) : Session where
  worker := worker
  connection := .backlog
  unsent := client
  received := []
  request := .exception ""
  answers := []

/-- The connection does not fail: its operations complete with success. -/
inductive Event where
  | arrive
  | complete (k : Nat)
  | run (k : Nat)
  | tick (now : Time)
  | expire (k : Nat) (ok : Bool)
  | wake (k : Nat)

def Event.onConnection : Event → Bool
  | .arrive => true
  | .complete _ => true
  | .run _ => true
  | _ => false

/-- A read waits for a request, and no deadline passes while the connection is served. -/
def Enabled (s : Session) : Event → Prop
  | .arrive => s.unsent ≠ [] ∧ s.connection ≠ .closed
  | .complete k => ∃ operation, s.worker.io[k]? = some ⟨operation, none⟩ ∧
      (operation = .accept → s.connection = .backlog) ∧ (operation = .read → s.received ≠ [])
  | .run k => HttpWorker.Enabled s.worker (.run k s.request)
  | .tick now => HttpWorker.Enabled s.worker (.tick now)
  | .expire k ok => HttpWorker.Enabled s.worker (.expire k ok)
  | .wake k => HttpWorker.Enabled s.worker (.wake k) ∧
      (s.worker.served = none ∨ s.worker.expired = false)

def arrive (s : Session) : Session :=
  match s.unsent with
  | [] => s
  | r :: rest => { s with unsent := rest, received := s.received ++ [r] }

def complete (k : Nat) (s : Session) : Session :=
  let worker := HttpWorker.step s.worker (.complete k true)
  match s.worker.io[k]?, s.received with
  | some ⟨.accept, _⟩, _ => { s with worker, connection := .accepted }
  | some ⟨.read, _⟩, r :: rest => { s with worker, request := r, received := rest }
  | some ⟨.write _ _, _⟩, _ => { s with worker, answers := s.answers ++ [s.worker.response] }
  | _, _ => s

/-- A callback that ends the service of the connection has called `accept`. -/
def run (k : Nat) (s : Session) : Session :=
  let worker := HttpWorker.step s.worker (.run k s.request)
  if s.worker.served ≠ none ∧ worker.served = none then
    { s with worker, connection := .closed, received := [] }
  else { s with worker }

def step (s : Session) : Event → Session
  | .arrive => arrive s
  | .complete k => complete k s
  | .run k => run k s
  | .tick now => { s with worker := HttpWorker.step s.worker (.tick now) }
  | .expire k ok => { s with worker := HttpWorker.step s.worker (.expire k ok) }
  | .wake k => { s with worker := HttpWorker.step s.worker (.wake k) }

/-- Nothing more happens on the connection. -/
def Finished (s : Session) : Prop :=
  ∀ e : Event, e.onConnection = true → ¬Enabled s e

/-- How the worker answers a request. -/
def answer (handling : Handling) : Response :=
  (Worker.process handling (Worker.init 0)).response

/-- The handler throws, or its body is one that the status forbids. -/
def refused : Handling → Bool
  | .response r => !r.payloadAllowed
  | .invalidArgument _ => true
  | .exception _ => true

/-- All requests are answered in order, or the last answer announces the close. -/
def Kept (client : List Handling) (s : Session) : Prop :=
  s.answers = client.map answer ∨ ∃ r, s.answers.getLast? = some r ∧ r.keepAlive = false

variable {s : Session} {e : Event} {first : Handling} {rest : List Handling} {n : Nat}

/-! ## Answers -/

lemma visit_eq (w : Worker) :
    w.visit = if w.response.payloadAllowed then
      some (Worker.asyncWrite (Worker.emplaceSerializer w.response.kind { w with
        response := { w.response with
          server := "Beast"
          keepAlive := decide (w.response.kind = .string) } })) else none := by
  obtain ⟨_, _, _, _, _, _, ⟨kind, _, _, _, _, _⟩, _, _, _, _⟩ := w
  cases kind <;> rfl

/-- The answer does not depend on what the worker has done before. -/
lemma process_response (handling : Handling) (w : Worker) :
    (w.process handling).response = answer handling := by
  cases handling with
  | response r =>
    simp only [answer, Worker.process, visit_eq, Worker.setResponse]
    by_cases hallowed : r.payloadAllowed = true
    · simp only [if_pos hallowed]
      rfl
    · simp only [if_neg hallowed]
      rfl
  | invalidArgument what => rfl
  | exception what => rfl

lemma answer_keepAlive {handling : Handling} (hkind : (answer handling).kind = .string) :
    (answer handling).keepAlive = false ↔ refused handling = true := by
  cases handling with
  | response r =>
    simp only [answer, Worker.process, visit_eq, Worker.setResponse, refused] at hkind ⊢
    by_cases hallowed : r.payloadAllowed = true
    · simp only [if_pos hallowed] at hkind ⊢
      have hstring : r.kind = .string := hkind
      simp [Worker.asyncWrite, Worker.asyncStart, Worker.emplaceSerializer, hallowed, hstring]
    · simp only [if_neg hallowed]
      exact iff_of_true rfl (by simpa using hallowed)
  | invalidArgument what => exact iff_of_true rfl rfl
  | exception what => exact iff_of_true rfl rfl

/-! ## The stages of a connection -/

/-- No answer has been sent, and the requests are on their way. -/
structure Unanswered (client : List Handling) (s : Session) : Prop where
  requests : s.received ++ s.unsent = client
  answers : s.answers = []

/-- The stages, by how many steps of the worker are still to come on the connection. -/
inductive Stage (first : Handling) (rest : List Handling) (s : Session) : Nat → Prop
  | waiting (hio : s.worker.io = [⟨.accept, none⟩]) (hserved : s.worker.served = none)
      (hconnection : s.connection = .backlog) (h : Unanswered (first :: rest) s) :
      Stage first rest s 6
  | accepted (hio : s.worker.io = [⟨.accept, some true⟩]) (hserved : s.worker.served = none)
      (hconnection : s.connection = .accepted) (h : Unanswered (first :: rest) s) :
      Stage first rest s 5
  | reading (hio : s.worker.io = [⟨.read, none⟩]) (hserved : s.worker.served ≠ none)
      (hconnection : s.connection = .accepted) (h : Unanswered (first :: rest) s) :
      Stage first rest s 4
  | processing (hio : s.worker.io = [⟨.read, some true⟩]) (hserved : s.worker.served ≠ none)
      (hrequest : s.request = first) (hanswers : s.answers = []) : Stage first rest s 3
  | writing (r z : Nat) (hio : s.worker.io = [⟨.write r z, none⟩])
      (hserved : s.worker.served ≠ none) (hresponse : s.worker.response = answer first)
      (hanswers : s.answers = []) : Stage first rest s 2
  | written (r z : Nat) (hio : s.worker.io = [⟨.write r z, some true⟩])
      (hserved : s.worker.served ≠ none) (hanswers : s.answers = [answer first]) :
      Stage first rest s 1
  | closed (hio : s.worker.io = [⟨.accept, none⟩]) (hserved : s.worker.served = none)
      (hconnection : s.connection = .closed) (hanswers : s.answers = [answer first]) :
      Stage first rest s 0

/-- The members of the worker that a stage reads. -/
structure SameService (w w' : Worker) : Prop where
  io : w'.io = w.io
  served : w'.served = w.served
  response : w'.response = w.response

lemma Stage.sameService {w : Worker} (h : Stage first rest s n) (hw : SameService s.worker w) :
    Stage first rest { s with worker := w } n := by
  obtain ⟨hsame, hserved', hresponse'⟩ := hw
  cases h with
  | waiting hio hserved hconnection h =>
    exact .waiting (hsame.trans hio) (hserved'.trans hserved) hconnection ⟨h.requests, h.answers⟩
  | accepted hio hserved hconnection h =>
    exact .accepted (hsame.trans hio) (hserved'.trans hserved) hconnection ⟨h.requests, h.answers⟩
  | reading hio hserved hconnection h =>
    exact .reading (hsame.trans hio) (hserved' ▸ hserved) hconnection ⟨h.requests, h.answers⟩
  | processing hio hserved hrequest hanswers =>
    exact .processing (hsame.trans hio) (hserved' ▸ hserved) hrequest hanswers
  | writing r z hio hserved hresponse hanswers =>
    exact .writing r z (hsame.trans hio) (hserved' ▸ hserved) (hresponse'.trans hresponse) hanswers
  | written r z hio hserved hanswers =>
    exact .written r z (hsame.trans hio) (hserved' ▸ hserved) hanswers
  | closed hio hserved hconnection hanswers =>
    exact .closed (hsame.trans hio) (hserved'.trans hserved) hconnection hanswers

/-- Before a connection is served only an accept can be outstanding. -/
lemma Stage.unserved (h : Stage first rest s n) (hserved : s.worker.served = none) :
    ∃ result, s.worker.io = [⟨.accept, result⟩] := by
  cases h with
  | waiting hio | accepted hio | closed hio => exact ⟨_, hio⟩
  | reading _ hserved' | processing _ hserved' | writing _ _ _ hserved' | written _ _ _ hserved' =>
    exact absurd hserved hserved'

lemma checkDeadline_sameService {w : Worker}
    (h : (∃ result, w.io = [⟨.accept, result⟩]) ∨ w.expired = false) :
    SameService w w.checkDeadline := by
  unfold Worker.checkDeadline
  split_ifs with hexpired
  · obtain ⟨result, hio⟩ := h.resolve_right (by simp [hexpired])
    refine ⟨?_, rfl, rfl⟩
    simp [Worker.asyncWait, Worker.expiresAt, Worker.closeSocket, hio, Pending.close]
  · exact ⟨rfl, rfl, rfl⟩

/-- The clock and the timer leave the stage as it is. -/
lemma Stage.timer (h : Stage first rest s n) (henabled : Enabled s e)
    (htimer : e.onConnection = false) :
    Stage first rest (step s e) n ∧ (step s e).unsent = s.unsent := by
  cases e with
  | tick now => exact ⟨h.sameService ⟨rfl, rfl, rfl⟩, rfl⟩
  | expire k ok => exact ⟨h.sameService ⟨rfl, rfl, rfl⟩, rfl⟩
  | wake k =>
    let w : Worker := { s.worker with waits := s.worker.waits.eraseIdx k }
    have hdeadline : (∃ result, w.io = [⟨.accept, result⟩]) ∨ w.expired = false :=
      henabled.2.imp_left h.unserved
    obtain ⟨hio, hserved, hresponse⟩ := checkDeadline_sameService hdeadline
    exact ⟨h.sameService ⟨hio, hserved, hresponse⟩, rfl⟩
  | arrive | complete k | run k => cases htimer

lemma Stage.arrive (h : Stage first rest s n) : Stage first rest (KeptAlive.arrive s) n := by
  unfold KeptAlive.arrive
  cases hunsent : s.unsent with
  | nil => exact h
  | cons r later =>
    have hrequests : s.received ++ [r] ++ later = s.received ++ s.unsent := by simp [hunsent]
    cases h with
    | waiting hio hserved hconnection h =>
      exact .waiting hio hserved hconnection ⟨hrequests.trans h.requests, h.answers⟩
    | accepted hio hserved hconnection h =>
      exact .accepted hio hserved hconnection ⟨hrequests.trans h.requests, h.answers⟩
    | reading hio hserved hconnection h =>
      exact .reading hio hserved hconnection ⟨hrequests.trans h.requests, h.answers⟩
    | processing hio hserved hrequest hanswers => exact .processing hio hserved hrequest hanswers
    | writing r z hio hserved hresponse hanswers =>
      exact .writing r z hio hserved hresponse hanswers
    | written r z hio hserved hanswers => exact .written r z hio hserved hanswers
    | closed hio hserved hconnection hanswers => exact .closed hio hserved hconnection hanswers

/-- The one operation of a stage. -/
lemma single_complete {k : Nat} {p q : Pending} (hio : s.worker.io = [p])
    (hq : s.worker.io[k]? = some q) :
    k = 0 ∧ p = q ∧ (HttpWorker.step s.worker (.complete 0 true)) =
      { s.worker with io := [{ p with result := some true }] } := by
  obtain ⟨rfl, hsame⟩ := getElem?_single ⟨p, hio⟩ hq
  exact ⟨rfl, List.singleton_inj.mp (hio.symm.trans hsame), by simp [HttpWorker.step, hio]⟩

/-- A completion leads to the next stage. -/
lemma Stage.complete {k : Nat} (h : Stage first rest s n) (henabled : Enabled s (.complete k)) :
    ∃ m, m + 1 = n ∧ Stage first rest (KeptAlive.complete k s) m ∧
      (KeptAlive.complete k s).unsent = s.unsent := by
  obtain ⟨operation, hp, haccept, hread⟩ := henabled
  cases h with
  | waiting hio hserved hconnection h =>
    obtain ⟨rfl, -, hstep⟩ := single_complete hio hp
    have heq : KeptAlive.complete 0 s = { s with
        worker := { s.worker with io := [⟨.accept, some true⟩] }
        connection := .accepted } := by
      simp [KeptAlive.complete, hstep, hio]
    exact ⟨5, rfl, heq ▸ .accepted rfl hserved rfl ⟨h.requests, h.answers⟩, heq ▸ rfl⟩
  | reading hio hserved hconnection h =>
    obtain ⟨rfl, hsame, hstep⟩ := single_complete hio hp
    obtain ⟨r, later, hreceived⟩ := List.exists_cons_of_ne_nil (hread (by simpa using hsame.symm))
    have hrequests := h.requests
    rw [hreceived, List.cons_append, List.cons.injEq] at hrequests
    have heq : KeptAlive.complete 0 s = { s with
        worker := { s.worker with io := [⟨.read, some true⟩] }
        request := r
        received := later } := by
      simp [KeptAlive.complete, hstep, hio, hreceived]
    exact ⟨3, rfl, heq ▸ .processing rfl hserved hrequests.1 h.answers, heq ▸ rfl⟩
  | writing r z hio hserved hresponse hanswers =>
    obtain ⟨rfl, -, hstep⟩ := single_complete hio hp
    have heq : KeptAlive.complete 0 s = { s with
        worker := { s.worker with io := [⟨.write r z, some true⟩] }
        answers := [answer first] } := by
      simp [KeptAlive.complete, hstep, hio, hanswers, hresponse]
    exact ⟨1, rfl, heq ▸ .written r z rfl hserved rfl, heq ▸ rfl⟩
  | accepted hio | processing hio | written _ _ hio =>
    obtain ⟨-, hsame, -⟩ := single_complete hio hp
    cases hsame
  | closed hio hserved hconnection hanswers =>
    obtain ⟨-, hsame, -⟩ := single_complete hio hp
    have hbacklog := haccept (by simpa using hsame.symm)
    cases hconnection.symm.trans hbacklog

/-- The callback of the one operation of a stage. -/
lemma single_run {k : Nat} {p : Pending} (hio : s.worker.io = [p])
    (henabled : Enabled s (.run k)) :
    k = 0 ∧ ∃ ok, p.result = some ok ∧ HttpWorker.step s.worker (.run 0 s.request) =
      Worker.callback p.operation ok s.request { s.worker with io := [] } := by
  obtain ⟨q, ok, hq, hok⟩ := henabled
  obtain ⟨rfl, hq'⟩ := getElem?_single ⟨p, hio⟩ hq
  obtain rfl : p = q := List.singleton_inj.mp (hio.symm.trans hq')
  obtain ⟨operation, result⟩ := p
  obtain rfl : result = some ok := hok
  exact ⟨rfl, ok, rfl, by simp [HttpWorker.step, hio]⟩

lemma callback_read (handling : Handling) {w : Worker} (hidle : w.io = []) :
    (∃ r z, (w.callback .read true handling).io = [⟨.write r z, none⟩]) ∧
      (w.callback .read true handling).served = w.served ∧
      (w.callback .read true handling).response = answer handling := by
  have hcallback : w.callback .read true handling = w.process handling := rfl
  obtain ⟨response, responses, serializer, serializers, heq⟩ := process_spec handling w
  refine ⟨⟨responses, serializers, ?_⟩, ?_, process_response handling w⟩
  · simp [hcallback, heq, Worker.asyncWrite, Worker.asyncStart, hidle]
  · simp [hcallback, heq, Worker.asyncWrite, Worker.asyncStart]

/-- So does a callback. -/
lemma Stage.run {k : Nat} (h : Stage first rest s n) (henabled : Enabled s (.run k)) :
    ∃ m, m + 1 = n ∧ Stage first rest (KeptAlive.run k s) m ∧
      (KeptAlive.run k s).unsent = s.unsent := by
  cases h with
  | accepted hio hserved hconnection h =>
    obtain ⟨rfl, ok, hok, hstep⟩ := single_run hio henabled
    obtain rfl : true = ok := Option.some.inj hok
    have heq : KeptAlive.run 0 s =
        { s with worker := HttpWorker.step s.worker (.run 0 s.request) } :=
      if_neg fun hends => hends.1 hserved
    have hnow : (HttpWorker.step s.worker (.run 0 s.request)).served = some s.worker.now := by
      rw [hstep]
      rfl
    have hread : (HttpWorker.step s.worker (.run 0 s.request)).io = [⟨.read, none⟩] := by
      rw [hstep]
      rfl
    rw [heq]
    exact ⟨4, rfl, .reading hread (by simp [hnow]) hconnection ⟨h.requests, h.answers⟩, rfl⟩
  | processing hio hserved hrequest hanswers =>
    obtain ⟨rfl, ok, hok, hstep⟩ := single_run hio henabled
    obtain rfl : true = ok := Option.some.inj hok
    obtain ⟨⟨r, z, hwrite⟩, hsame, hresponse⟩ :=
      callback_read s.request (show { s.worker with io := [] }.io = [] from rfl)
    rw [← hstep] at hwrite hsame hresponse
    have hserved' : (HttpWorker.step s.worker (.run 0 s.request)).served ≠ none := hsame ▸ hserved
    have heq : KeptAlive.run 0 s =
        { s with worker := HttpWorker.step s.worker (.run 0 s.request) } :=
      if_neg fun hends => hserved' hends.2
    have hfirst : (HttpWorker.step s.worker (.run 0 s.request)).response = answer first :=
      hresponse.trans (congrArg answer hrequest)
    rw [heq]
    exact ⟨2, rfl, .writing r z hwrite hserved' hfirst hanswers, rfl⟩
  | written r z hio hserved hanswers =>
    obtain ⟨rfl, ok, hok, hstep⟩ := single_run hio henabled
    have hended : (HttpWorker.step s.worker (.run 0 s.request)).served = none := by
      rw [hstep]
      rfl
    have haccept : (HttpWorker.step s.worker (.run 0 s.request)).io = [⟨.accept, none⟩] := by
      rw [hstep]
      rfl
    have heq : KeptAlive.run 0 s = { s with
        worker := HttpWorker.step s.worker (.run 0 s.request)
        connection := .closed
        received := [] } :=
      if_pos ⟨hserved, hended⟩
    rw [heq]
    exact ⟨0, rfl, .closed haccept hended rfl hanswers, rfl⟩
  | waiting hio | reading hio | writing _ _ hio | closed hio =>
    obtain ⟨-, ok, hok, -⟩ := single_run hio henabled
    cases hok

/-! ## Runs -/

/-- Every event of the connection brings it nearer to its end. -/
theorem step_stage (h : Stage first rest s n) (henabled : Enabled s e) :
    ∃ m, Stage first rest (step s e) m ∧
      m + (step s e).unsent.length + (if e.onConnection then 1 else 0) = n + s.unsent.length := by
  cases e with
  | arrive =>
    obtain ⟨r, later, hunsent⟩ := List.exists_cons_of_ne_nil henabled.1
    have hlength : (step s .arrive).unsent.length + 1 = s.unsent.length := by
      simp [step, KeptAlive.arrive, hunsent]
    refine ⟨n, h.arrive, ?_⟩
    simp only [Event.onConnection, if_true]
    omega
  | complete k =>
    obtain ⟨m, hm, hstage, hunsent⟩ := h.complete henabled
    refine ⟨m, hstage, ?_⟩
    simp only [Event.onConnection, if_true, step, hunsent]
    omega
  | run k =>
    obtain ⟨m, hm, hstage, hunsent⟩ := h.run henabled
    refine ⟨m, hstage, ?_⟩
    simp only [Event.onConnection, if_true, step, hunsent]
    omega
  | tick | expire | wake =>
    obtain ⟨hstage, hunsent⟩ := h.timer henabled rfl
    exact ⟨n, hstage, by rw [hunsent]; rfl⟩

lemma run_stage {events : List Event} (h : Stage first rest s n)
    (henabled : Meets step Enabled s events) :
    ∃ m, Stage first rest (events.foldl step s) m ∧
      m + (events.foldl step s).unsent.length + events.countP Event.onConnection =
        n + s.unsent.length := by
  induction events generalizing s n with
  | nil => exact ⟨n, h, rfl⟩
  | cons e events ih =>
    obtain ⟨m, hstage, hm⟩ := step_stage h henabled.1
    obtain ⟨l, hlast, hl⟩ := ih hstage henabled.2
    refine ⟨l, hlast, ?_⟩
    rw [List.countP_cons, List.foldl_cons]
    omega

/-- What has happened when nothing more can: the first request is answered. -/
lemma Stage.finished (h : Stage first rest s n) (hfinished : Finished s) :
    s.answers = [answer first] := by
  cases h with
  | waiting hio hserved hconnection h =>
    exact absurd ⟨.accept, by simp [hio], (fun _ => hconnection), fun hread => nomatch hread⟩
      (hfinished (.complete 0) rfl)
  | accepted hio hserved hconnection h =>
    exact absurd ⟨_, true, by rw [hio]; rfl, rfl⟩ (hfinished (.run 0) rfl)
  | reading hio hserved hconnection h =>
    by_cases hunsent : s.unsent = []
    · have hreceived : s.received = first :: rest := by simpa [hunsent] using h.requests
      exact absurd ⟨.read, by simp [hio], (fun haccept => nomatch haccept),
        fun _ => by simp [hreceived]⟩ (hfinished (.complete 0) rfl)
    · exact absurd ⟨hunsent, by simp [hconnection]⟩ (hfinished .arrive rfl)
  | processing hio hserved hrequest hanswers =>
    exact absurd ⟨_, true, by rw [hio]; rfl, rfl⟩ (hfinished (.run 0) rfl)
  | writing r z hio hserved hresponse hanswers =>
    exact absurd ⟨.write r z, by simp [hio], (fun haccept => nomatch haccept),
      fun hread => nomatch hread⟩ (hfinished (.complete 0) rfl)
  | written r z hio hserved hanswers => exact hanswers
  | closed hio hserved hconnection hanswers => exact hanswers

/-- A connection comes to its end, and then its requests have been answered, or the close
announced, just if there was one request or the first was refused. -/
theorem kept_alive_iff (w : Worker) (hio : w.io = [⟨.accept, none⟩]) (hserved : w.served = none)
    (client : List Handling) (hne : client ≠ [])
    (hstring : ∀ handling ∈ client, (answer handling).kind = .string) (events : List Event)
    (h : Meets step Enabled (Session.init w client) events) :
    let s := events.foldl step (Session.init w client)
    events.countP Event.onConnection ≤ client.length + 6 ∧
      (Finished s → (Kept client s ↔
        client.length = 1 ∨ ∃ r, client.head? = some r ∧ refused r = true)) := by
  intro s
  obtain ⟨first, rest, rfl⟩ := List.exists_cons_of_ne_nil hne
  have hinit : Stage first rest (Session.init w (first :: rest)) 6 :=
    .waiting hio hserved rfl ⟨rfl, rfl⟩
  obtain ⟨n, hstage, hcount⟩ := run_stage hinit h
  constructor
  · have hunsent : (Session.init w (first :: rest)).unsent.length = (first :: rest).length := rfl
    omega
  · intro hfinished
    have hanswers : s.answers = [answer first] := hstage.finished hfinished
    have hrefused := answer_keepAlive (hstring first (List.mem_cons_self ..))
    simp [Kept, hanswers, hrefused]

lemma finished_of_closed (hio : s.worker.io = [⟨.accept, none⟩]) (h : s.connection = .closed) :
    Finished s := by
  intro e he henabled
  cases e with
  | arrive => exact henabled.2 h
  | complete k =>
    obtain ⟨operation, hp, haccept, -⟩ := henabled
    obtain ⟨-, hsame, -⟩ := single_complete hio hp
    have hbacklog := haccept (by simpa using hsame.symm)
    cases h.symm.trans hbacklog
  | run k =>
    obtain ⟨-, ok, hok, -⟩ := single_run hio henabled
    cases hok
  | tick | expire | wake => cases he

/-- What an API handler answers. -/
def pong : Handling := .response ⟨.string, 200, "", "application/json", false, "{}"⟩

/-- The requests arrive at once, and the first is answered. -/
def served (requests : Nat) : List Event :=
  List.replicate requests .arrive ++
    [.complete 0, .run 0, .complete 0, .run 0, .complete 0, .run 0]

theorem kept_alive_one :
    Kept [pong] ((served 1).foldl step (Session.init (Worker.init 0).start [pong])) := by
  have hmeets : Meets step Enabled (Session.init (Worker.init 0).start [pong]) (served 1) :=
    ⟨⟨List.cons_ne_nil _ _, by simp [Session.init]⟩,
      ⟨.accept, rfl, (fun _ => rfl), fun h => nomatch h⟩, ⟨_, _, rfl, rfl⟩,
      ⟨.read, rfl, (fun h => nomatch h), fun _ => List.cons_ne_nil _ _⟩,
      ⟨_, _, rfl, rfl⟩, ⟨.write _ _, rfl, (fun h => nomatch h), fun h => nomatch h⟩,
      ⟨_, _, rfl, rfl⟩, trivial⟩
  have hfinished : Finished ((served 1).foldl step (Session.init (Worker.init 0).start [pong])) :=
    finished_of_closed rfl rfl
  have hstring : ∀ handling ∈ [pong], (answer handling).kind = .string := by
    intro handling hmem
    obtain rfl := List.mem_singleton.mp hmem
    rfl
  exact ((kept_alive_iff _ rfl rfl [pong] (List.cons_ne_nil _ _) hstring _ hmeets).2
    hfinished).mpr (.inl rfl)

/-- The second of two requests is not answered, although the first answer keeps the
connection alive. -/
theorem second_request_lost :
    let s := (served 2).foldl step (Session.init (Worker.init 0).start [pong, pong])
    Meets step Enabled (Session.init (Worker.init 0).start [pong, pong]) (served 2) ∧
      Finished s ∧ ¬Kept [pong, pong] s := by
  intro s
  have hmeets : Meets step Enabled (Session.init (Worker.init 0).start [pong, pong]) (served 2) :=
    ⟨⟨List.cons_ne_nil _ _, by simp [Session.init]⟩,
      ⟨List.cons_ne_nil _ _, by simp [Session.init, step, arrive]⟩,
      ⟨.accept, rfl, (fun _ => rfl), fun h => nomatch h⟩,
      ⟨_, _, rfl, rfl⟩, ⟨.read, rfl, (fun h => nomatch h), fun _ => List.cons_ne_nil _ _⟩,
      ⟨_, _, rfl, rfl⟩, ⟨.write _ _, rfl, (fun h => nomatch h), fun h => nomatch h⟩,
      ⟨_, _, rfl, rfl⟩, trivial⟩
  refine ⟨hmeets, finished_of_closed rfl rfl, ?_⟩
  have hanswers : s.answers = [answer pong] := rfl
  have hkept : (answer pong).keepAlive = true := by decide
  simp [Kept, hanswers, hkept]

end KeptAlive
