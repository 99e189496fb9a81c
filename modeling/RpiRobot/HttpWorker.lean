import RpiRobot.EventRuns

/-!
# The HTTP worker

`HttpWorker` on a single-threaded `io_service`: callbacks run one after the other, and
each starts the next asynchronous operations. Operations complete in any order, with
success or an error, and their callbacks then wait in the queue; the clock never goes
back. The request handler may answer with a string or a file, or throw.

A stamp counts how often a member has been replaced. Times are in nanoseconds.
-/

namespace HttpWorker

abbrev Time := Nat

def seconds (n : Nat) : Time := n * 1000000000

inductive Kind where
  | string
  | file
  deriving DecidableEq, Repr

structure Response where
  kind : Kind
  status : Nat
  server : String
  contentType : String
  keepAlive : Bool
  body : String
  deriving DecidableEq, Repr

/-- `prepare_payload` throws `invalid_argument` for a body that the status forbids. -/
def Response.payloadAllowed (r : Response) : Bool :=
  r.body = "" || !(r.status / 100 = 1 || r.status = 204 || r.status = 304)

/-- What the request handler does with a request. -/
inductive Handling where
  | response (r : Response)
  | invalidArgument (what : String)
  | exception (what : String)

inductive Operation where
  | accept
  | read
  /-- With the stamps of the response and the serializer that it writes from. -/
  | write (response serializer : Nat)
  deriving DecidableEq, Repr

/-- An operation that is outstanding, or the result that its callback waits with. -/
structure Pending where
  operation : Operation
  result : Option Bool
  deriving DecidableEq, Repr

structure Worker where
  io : List Pending
  /-- The waits of `_requestDeadline`, by their results. -/
  waits : List (Option Bool)
  now : Time
  /-- The expiry of `_requestDeadline`; none is `time_point::max`. -/
  expiry : Option Time
  /-- When the accept handler of the connection ran that is being served. -/
  served : Option Time
  /-- How often the socket has been closed. -/
  closes : Nat
  response : Response
  responses : Nat
  serializer : Option Kind
  serializers : Nat
  /-- How many response writes have been started. -/
  writes : Nat

def cancelled : Option Bool → Option Bool
  | none => some false
  | some ok => some ok

/-- Operations on a socket that is closed complete with an error. -/
def Pending.close (p : Pending) : Pending :=
  match p.operation with
  | .accept => p
  | _ => { p with result := cancelled p.result }

namespace Worker

def init (now : Time) : Worker where
  io := []
  waits := []
  now := now
  expiry := none
  served := none
  closes := 0
  response := ⟨.string, 200, "", "", false, ""⟩
  responses := 0
  serializer := none
  serializers := 0
  writes := 0

/-! Boost.Asio and Beast. -/

def closeSocket (s : Worker) : Worker :=
  { s with io := s.io.map Pending.close, closes := s.closes + 1 }

def asyncStart (operation : Operation) (s : Worker) : Worker :=
  { s with io := s.io ++ [⟨operation, none⟩] }

def asyncWait (s : Worker) : Worker := { s with waits := s.waits ++ [none] }

/-- A new expiry cancels the waits for the old one. -/
def expiresAt (expiry : Option Time) (s : Worker) : Worker :=
  { s with expiry, waits := s.waits.map cancelled }

def expired (s : Worker) : Bool := s.expiry.any (fun expiry => decide (expiry ≤ s.now))

def setResponse (r : Response) (s : Worker) : Worker :=
  { s with response := r, responses := s.responses + 1 }

def emplaceSerializer (kind : Kind) (s : Worker) : Worker :=
  { s with serializer := some kind, serializers := s.serializers + 1 }

def asyncWrite (s : Worker) : Worker :=
  asyncStart (.write s.responses s.serializers) { s with writes := s.writes + 1 }

/-! The members of `HttpWorker`. -/

def checkDeadline (s : Worker) : Worker :=
  asyncWait (if s.expired then expiresAt none s.closeSocket else s)

def accept (s : Worker) : Worker := asyncStart .accept { s.closeSocket with served := none }

def start (s : Worker) : Worker := checkDeadline (accept s)

def readRequest (s : Worker) : Worker := asyncStart .read s

/-- Both overloads; they differ in `keep_alive` and the type of the serializer. The
response that is written is the member itself, changed in place. -/
def visit (s : Worker) : Option Worker :=
  let resp := { s.response with
    server := "Beast"
    keepAlive := match s.response.kind with
      | .string => true
      | .file => false }
  if resp.payloadAllowed then
    some (asyncWrite (emplaceSerializer resp.kind { s with response := resp }))
  else none

def sendBadResponse (status : Nat) (error : String) (s : Worker) : Worker :=
  asyncWrite (emplaceSerializer .string
    (setResponse ⟨.string, status, "Beast", "text/plain", false, error⟩ s))

/-- The handler replaces the response also where it then throws. -/
def process (handling : Handling) (s : Worker) : Worker :=
  match handling with
  | .response r =>
    match visit (setResponse r s) with
    | some s' => s'
    | none => sendBadResponse 404 "invalid response body" (setResponse r s)
  | .invalidArgument what => sendBadResponse 404 what (setResponse s.response s)
  | .exception what => sendBadResponse 400 what (setResponse s.response s)

/-! The callbacks. -/

def accepted (ok : Bool) (s : Worker) : Worker :=
  if ok then
    readRequest (expiresAt (some (s.now + seconds 60)) { s with served := some s.now })
  else accept s

def readDone (ok : Bool) (handling : Handling) (s : Worker) : Worker :=
  if ok then process handling s else accept s

/-- Success and error alike. -/
def written (s : Worker) : Worker := accept s

def callback (operation : Operation) (ok : Bool) (handling : Handling) (s : Worker) : Worker :=
  match operation with
  | .accept => accepted ok s
  | .read => readDone ok handling s
  | .write _ _ => written s

end Worker

/-- `run` and `wake` are the callbacks; a read request is handled as the event says. -/
inductive Event where
  | tick (now : Time)
  | complete (k : Nat) (ok : Bool)
  | run (k : Nat) (handling : Handling)
  | expire (k : Nat) (ok : Bool)
  | wake (k : Nat)

def Enabled (s : Worker) : Event → Prop
  | .tick now => s.now ≤ now
  | .complete k _ => ∃ p, s.io[k]? = some p ∧ p.result = none
  | .run k _ => ∃ p ok, s.io[k]? = some p ∧ p.result = some ok
  | .expire k _ => s.waits[k]? = some none
  | .wake k => ∃ ok, s.waits[k]? = some (some ok)

def step (s : Worker) : Event → Worker
  | .tick now => { s with now := now }
  | .complete k ok =>
    match s.io[k]? with
    | some p => { s with io := s.io.set k { p with result := some ok } }
    | none => s
  | .run k handling =>
    match s.io[k]? with
    | some ⟨operation, some ok⟩ =>
      Worker.callback operation ok handling { s with io := s.io.eraseIdx k }
    | _ => s
  | .expire k ok => { s with waits := s.waits.set k (some ok) }
  | .wake k => Worker.checkDeadline { s with waits := s.waits.eraseIdx k }

end HttpWorker
