import RpiRobot.WorkerRuns

/-!
# The shutdown of the HTTP worker

`HttpWorker::shutdown` closes the acceptor and nothing else. A pending accept then completes
with an error, and so does every later one; but the callback of a failed accept starts the
next, and so do those of a failed read and of a write. Two callbacks at most run after a
shutdown before one of them does.
-/

namespace AcceptorShutdown

open EventRuns HttpWorker WorkerRuns

structure Listener where
  worker : Worker
  acceptorOpen : Bool

def Listener.init (now : Time) : Listener := ⟨(Worker.init now).start, true⟩

/-- `shutdown` is called between two callbacks, or by the handler of a request while the
callback of the read processes it. -/
inductive Event where
  | worker (e : HttpWorker.Event)
  | shutdown
  | processing (k : Nat) (handling : Handling)

def cancelAccept (p : Pending) : Pending :=
  match p.operation with
  | .accept => { p with result := cancelled p.result }
  | _ => p

def closeAcceptor (s : Listener) : Listener :=
  ⟨{ s.worker with io := s.worker.io.map cancelAccept }, false⟩

/-- An accept on a closed acceptor completes with an error. -/
def Enabled (s : Listener) : Event → Prop
  | .worker (.complete k ok) =>
    HttpWorker.Enabled s.worker (.complete k ok) ∧
      (s.acceptorOpen = false → s.worker.io[k]? = some ⟨.accept, none⟩ → ok = false)
  | .worker e => HttpWorker.Enabled s.worker e
  | .shutdown => True
  | .processing k _ => s.worker.io[k]? = some ⟨.read, some true⟩

/-- No accept is pending while a request is processed. -/
def step (s : Listener) : Event → Listener
  | .worker e => { s with worker := HttpWorker.step s.worker e }
  | .shutdown => closeAcceptor s
  | .processing k handling => ⟨HttpWorker.step s.worker (.run k handling), false⟩

/-- The event is a call of `shutdown`. -/
def Event.Shuts : Event → Prop
  | .worker _ => False
  | .shutdown => True
  | .processing _ _ => True

/-- The event is the callback of an operation. -/
def Event.isCallback : Event → Bool
  | .worker (.run _ _) => true
  | .processing _ _ => true
  | _ => false

def accepts (io : List Pending) : Nat := io.countP (fun p => decide (p.operation = .accept))

/-- The operations that the event finds, without the one whose callback it is. -/
def others (s : Listener) : Event → List Pending
  | .worker (.run k _) => s.worker.io.eraseIdx k
  | .processing k _ => s.worker.io.eraseIdx k
  | _ => s.worker.io

/-- The event starts an asynchronous accept. -/
def StartsAccept (s : Listener) (e : Event) : Prop :=
  accepts (others s e) < accepts (step s e).worker.io

/-- The event is the callback of a write, or of an accept or a read that has failed. -/
def EndsConnection (s : Listener) : Event → Prop
  | .worker (.run k _) => ∃ p, s.worker.io[k]? = some p ∧
      ((∃ r z, p.operation = .write r z) ∨ p.result = some false)
  | _ => False

variable {s : Listener} {e : Event}

/-! ## One event -/

lemma cancelAccept_operation (p : Pending) : (cancelAccept p).operation = p.operation := by
  obtain ⟨operation, result⟩ := p
  cases operation <;> rfl

lemma closeAcceptor_consistent (h : Consistent s.worker) :
    Consistent (closeAcceptor s).worker := by
  obtain ⟨p, hp⟩ := h.single
  have hio : (closeAcceptor s).worker.io = [cancelAccept p] := by simp [closeAcceptor, hp]
  have hphase := h.phase p (by simp [hp])
  have hunreplaced := h.unreplaced p (by simp [hp])
  refine ⟨⟨_, hio⟩, h.waiting, ?_, ?_, h.deadline⟩
  · intro q hq
    obtain rfl := List.mem_singleton.mp (hio ▸ hq)
    rw [cancelAccept_operation]
    exact hphase
  · intro q hq
    obtain rfl := List.mem_singleton.mp (hio ▸ hq)
    rw [cancelAccept_operation]
    exact hunreplaced

lemma worker_enabled {e : HttpWorker.Event} (h : Enabled s (.worker e)) :
    HttpWorker.Enabled s.worker e := by
  cases e with
  | complete k ok => exact h.1
  | _ => exact h

theorem step_consistent (h : Consistent s.worker) (henabled : Enabled s e) :
    Consistent (step s e).worker := by
  cases e with
  | worker e => exact WorkerRuns.step_consistent h (worker_enabled henabled)
  | shutdown => exact closeAcceptor_consistent h
  | processing k handling =>
    have hrun : HttpWorker.Enabled s.worker (.run k handling) := ⟨_, true, henabled, rfl⟩
    exact WorkerRuns.step_consistent h hrun

/-- A callback leaves an accept just if it ends the connection. -/
lemma callback_accepts (operation : Operation) (ok : Bool) (handling : Handling) {w : Worker}
    (hidle : w.io = []) :
    0 < accepts (w.callback operation ok handling).io ↔
      (∃ r z, operation = .write r z) ∨ ok = false := by
  have haccept : accepts w.accept.io = 1 := by
    simp [accepts, Worker.accept, Worker.asyncStart, Worker.closeSocket, hidle]
  cases operation with
  | accept =>
    cases ok with
    | false => simp [Worker.callback, Worker.accepted, haccept]
    | true =>
      simp [accepts, Worker.callback, Worker.accepted, Worker.readRequest, Worker.asyncStart,
        Worker.expiresAt, hidle]
  | read =>
    cases ok with
    | false => simp [Worker.callback, Worker.readDone, haccept]
    | true =>
      obtain ⟨response, responses, serializer, serializers, heq⟩ := process_spec handling w
      simp [accepts, Worker.callback, Worker.readDone, heq, Worker.asyncWrite, Worker.asyncStart,
        hidle]
  | write r z => simp [Worker.callback, Worker.written, haccept]

lemma run_startsAccept (h : Consistent s.worker) {k : Nat} {p : Pending} {ok : Bool}
    (hp : s.worker.io[k]? = some p) (hok : p.result = some ok) (handling : Handling) :
    accepts (s.worker.io.eraseIdx k) <
        accepts (HttpWorker.step s.worker (.run k handling)).io ↔
      (∃ r z, p.operation = .write r z) ∨ ok = false := by
  obtain ⟨hk, hio⟩ := getElem?_single h.single hp
  obtain ⟨-, hstep⟩ := h.run_eq hp hok handling
  have hrest : accepts (s.worker.io.eraseIdx k) = 0 := by simp [accepts, hio, hk]
  rw [hstep, hrest]
  exact callback_accepts _ _ _ rfl

lemma checkDeadline_accepts (w : Worker) : accepts w.checkDeadline.io = accepts w.io := by
  have hclose : accepts (w.io.map Pending.close) = accepts w.io := by
    rw [accepts, accepts, List.countP_map]
    congr 1
    funext p
    simp
  by_cases hexpired : w.expired = true
  · simpa [Worker.checkDeadline, hexpired, Worker.asyncWait, Worker.expiresAt,
      Worker.closeSocket] using hclose
  · simp [Worker.checkDeadline, hexpired, Worker.asyncWait]

/-- An event starts an accept just if it ends a connection. -/
theorem startsAccept_iff (h : Consistent s.worker) (henabled : Enabled s e) :
    StartsAccept s e ↔ EndsConnection s e := by
  cases e with
  | shutdown =>
    have hsame : accepts (closeAcceptor s).worker.io = accepts s.worker.io := by
      rw [accepts, accepts, closeAcceptor, List.countP_map]
      congr 1
      funext p
      simp [cancelAccept_operation]
    refine iff_of_false ?_ id
    rw [StartsAccept, step, hsame]
    exact Nat.lt_irrefl _
  | processing k handling =>
    refine iff_of_false ?_ id
    have hrun := run_startsAccept h henabled rfl handling
    exact fun hstarts => by simpa using hrun.mp hstarts
  | worker e =>
    cases e with
    | tick now => exact iff_of_false (Nat.lt_irrefl _) id
    | complete k ok =>
      obtain ⟨⟨p, hp, -⟩, -⟩ := henabled
      obtain ⟨rfl, hio⟩ := getElem?_single h.single hp
      refine iff_of_false ?_ id
      simp [StartsAccept, step, HttpWorker.step, others, accepts, hio]
    | run k handling =>
      obtain ⟨p, ok, hp, hok⟩ := henabled
      rw [StartsAccept, others, step, run_startsAccept h hp hok]
      constructor
      · intro hends
        refine ⟨p, hp, hends.imp_right ?_⟩
        rintro rfl
        exact hok
      · rintro ⟨p', hp', hends⟩
        obtain rfl := Option.some.inj (hp.symm.trans hp')
        exact hends.imp_right fun hfalse => Option.some.inj (hok.symm.trans hfalse)
    | expire k ok => exact iff_of_false (Nat.lt_irrefl _) id
    | wake k =>
      refine iff_of_false ?_ id
      have hsame : accepts (step s (.worker (.wake k))).worker.io = accepts s.worker.io :=
        checkDeadline_accepts _
      rw [StartsAccept, hsame]
      exact Nat.lt_irrefl _

/-! ## Runs -/

/-- How many callbacks can run before one of them starts an accept. -/
def left : List Pending → Nat
  | [⟨.accept, some true⟩] => 2
  | [⟨.read, none⟩] => 1
  | [⟨.read, some true⟩] => 1
  | _ => 0

lemma left_le (io : List Pending) : left io ≤ 2 := by
  unfold left
  split <;> decide

lemma left_close (io : List Pending) (hsingle : ∃ p, io = [p]) :
    left (io.map Pending.close) ≤ left io := by
  obtain ⟨⟨operation, result⟩, rfl⟩ := hsingle
  cases operation with
  | accept => exact Nat.le_refl _
  | read => rcases result with _ | _ | _ <;> decide
  | write r z => exact Nat.zero_le _

lemma left_cancelAccept (io : List Pending) (hsingle : ∃ p, io = [p]) :
    left (io.map cancelAccept) ≤ left io := by
  obtain ⟨⟨operation, result⟩, rfl⟩ := hsingle
  cases operation with
  | accept => rcases result with _ | _ | _ <;> decide
  | read => exact Nat.le_refl _
  | write r z => exact Nat.le_refl _

/-- A successful callback of an accept or a read leads to the next operation. -/
lemma callback_left (operation : Operation) (handling : Handling) {w : Worker}
    (hidle : w.io = []) (hwrite : ¬∃ r z, operation = .write r z) :
    left (w.callback operation true handling).io + 1 ≤ left [⟨operation, some true⟩] := by
  cases operation with
  | accept =>
    have hio : (w.callback .accept true handling).io = [⟨.read, none⟩] := by
      simp [Worker.callback, Worker.accepted, Worker.readRequest, Worker.asyncStart,
        Worker.expiresAt, hidle]
    rw [hio]
    decide
  | read =>
    obtain ⟨response, responses, serializer, serializers, heq⟩ := process_spec handling w
    have hio : (w.callback .read true handling).io = [⟨.write responses serializers, none⟩] := by
      simp [Worker.callback, Worker.readDone, heq, Worker.asyncWrite, Worker.asyncStart, hidle]
    rw [hio]
    exact Nat.le_refl 1
  | write r z => exact absurd ⟨r, z, rfl⟩ hwrite

lemma run_left (h : Consistent s.worker) {k : Nat} {p : Pending} {ok : Bool}
    (hp : s.worker.io[k]? = some p) (hok : p.result = some ok) (handling : Handling)
    (hends : ¬((∃ r z, p.operation = .write r z) ∨ ok = false)) :
    left (HttpWorker.step s.worker (.run k handling)).io + 1 ≤ left s.worker.io := by
  obtain ⟨hwrite, hfalse⟩ := not_or.mp hends
  obtain rfl : ok = true := by simpa using hfalse
  obtain ⟨hio, hstep⟩ := h.run_eq hp hok handling
  obtain ⟨operation, result⟩ := p
  obtain rfl : result = some true := hok
  rw [hstep, hio]
  exact callback_left operation handling rfl hwrite

/-- What a step without an accept leaves, once the acceptor is closed. -/
lemma step_left (h : Consistent s.worker) (hclosed : s.acceptorOpen = false)
    (henabled : Enabled s e) (hends : ¬EndsConnection s e) :
    left (step s e).worker.io + (if e.isCallback then 1 else 0) ≤ left s.worker.io := by
  cases e with
  | shutdown => exact left_cancelAccept _ h.single
  | processing k handling => exact run_left h henabled rfl handling (by simp)
  | worker e =>
    cases e with
    | tick now => exact Nat.le_refl _
    | expire k ok => exact Nat.le_refl _
    | run k handling =>
      obtain ⟨p, ok, hp, hok⟩ := henabled
      refine run_left h hp hok handling fun hor => hends ⟨p, hp, hor.imp_right ?_⟩
      rintro rfl
      exact hok
    | wake k =>
      have hle : ∀ w : Worker, w.io = s.worker.io → left w.checkDeadline.io ≤ left w.io := by
        intro w hw
        unfold Worker.checkDeadline
        split_ifs
        · exact left_close _ (hw ▸ h.single)
        · exact Nat.le_refl _
      exact hle _ rfl
    | complete k ok =>
      obtain ⟨⟨p, hp, hnone⟩, hfails⟩ := henabled
      obtain ⟨rfl, hio⟩ := getElem?_single h.single hp
      obtain ⟨operation, result⟩ := p
      obtain rfl : result = none := hnone
      have hstep : (step s (.worker (.complete 0 ok))).worker.io = [⟨operation, some ok⟩] := by
        simp [step, HttpWorker.step, hio]
      rw [hstep, hio]
      cases operation with
      | accept =>
        obtain rfl : ok = false := hfails hclosed hp
        decide
      | read => cases ok <;> decide
      | write r z => exact Nat.zero_le _

lemma step_closed (hclosed : s.acceptorOpen = false) (e : Event) :
    (step s e).acceptorOpen = false := by
  cases e with
  | worker e => exact hclosed
  | shutdown => rfl
  | processing k handling => rfl

/-- Few callbacks run without one that ends a connection. -/
lemma run_callbacks {events : List Event} (h : Consistent s.worker)
    (hclosed : s.acceptorOpen = false) (henabled : Meets step Enabled s events)
    (hends : Meets step (fun s e => ¬EndsConnection s e) s events) :
    events.countP Event.isCallback ≤ left s.worker.io := by
  induction events generalizing s with
  | nil => exact Nat.zero_le _
  | cons e events ih =>
    have hstep := step_left h hclosed henabled.1 hends.1
    have hrest := ih (step_consistent h henabled.1) (step_closed hclosed e) henabled.2 hends.2
    rw [List.countP_cons]
    omega

lemma run_startsAccept_iff {events : List Event} (h : Consistent s.worker)
    (henabled : Meets step Enabled s events) :
    Meets step (fun s e => ¬StartsAccept s e) s events ↔
      Meets step (fun s e => ¬EndsConnection s e) s events := by
  induction events generalizing s with
  | nil => exact Iff.rfl
  | cons e events ih =>
    exact and_congr (not_congr (startsAccept_iff h henabled.1))
      (ih (step_consistent h henabled.1) henabled.2)

lemma shuts_closed (h : e.Shuts) : (step s e).acceptorOpen = false := by
  cases e with
  | worker e => exact h.elim
  | shutdown => rfl
  | processing k handling => rfl

/-- After a shutdown no accept is started just if no callback of a write runs and none of an
accept or a read that has failed; and then at most two callbacks run at all. -/
theorem no_accept_after_shutdown_iff (now : Time) (before : List Event) (e : Event)
    (after : List Event) (hshuts : e.Shuts)
    (h : Meets step Enabled (Listener.init now) (before ++ e :: after)) :
    let s := step (before.foldl step (Listener.init now)) e
    (Meets step (fun s e => ¬StartsAccept s e) s after ↔
      Meets step (fun s e => ¬EndsConnection s e) s after) ∧
      (Meets step (fun s e => ¬EndsConnection s e) s after →
        after.countP Event.isCallback ≤ 2) := by
  intro s
  obtain ⟨hbefore, he, hafter⟩ := meets_append.mp h
  have hsteps : ∀ (s : Listener) (e : Event), Consistent s.worker → Enabled s e →
      Consistent (step s e).worker := fun _ _ hs he => step_consistent hs he
  have hconsistent : Consistent (before.foldl step (Listener.init now)).worker :=
    hbefore.invariant hsteps (start_consistent now)
  have hs : Consistent s.worker := step_consistent hconsistent he
  refine ⟨run_startsAccept_iff hs hafter, fun hends => ?_⟩
  exact Nat.le_trans (run_callbacks hs (shuts_closed hshuts) hafter hends) (left_le _)

/-- A connection is accepted and its request is read. -/
def requestRead : List Event := WorkerRuns.requestRead.map Event.worker

/-- The acceptor is closed before the callback of the read. -/
theorem no_accept_after_shutdown_reading :
    Meets step (fun s e => ¬StartsAccept s e)
      (step (requestRead.foldl step (Listener.init 0)) .shutdown)
      [.worker (.run 0 (.exception ""))] := by
  have hmeets : Meets step Enabled (Listener.init 0)
      (requestRead ++ .shutdown :: [.worker (.run 0 (.exception ""))]) :=
    ⟨⟨⟨_, rfl, rfl⟩, fun h => nomatch h⟩, ⟨_, _, rfl, rfl⟩, ⟨_, rfl⟩,
      ⟨⟨_, rfl, rfl⟩, fun h => nomatch h⟩, trivial, ⟨_, _, rfl, rfl⟩, trivial⟩
  refine (no_accept_after_shutdown_iff 0 requestRead .shutdown _ trivial hmeets).1.mpr
    ⟨?_, trivial⟩
  rintro ⟨p, hp, hends⟩
  obtain rfl : ⟨.read, some true⟩ = p := Option.some.inj hp
  simp at hends

/-- The accept that the shutdown has cancelled is followed by the next. -/
theorem accept_after_shutdown :
    Enabled (step (Listener.init 0) .shutdown) (.worker (.run 0 (.exception ""))) ∧
      StartsAccept (step (Listener.init 0) .shutdown) (.worker (.run 0 (.exception ""))) :=
  ⟨⟨_, _, rfl, rfl⟩, Nat.zero_lt_one⟩

end AcceptorShutdown
