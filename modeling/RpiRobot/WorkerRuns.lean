import RpiRobot.HttpWorker

/-!
# Runs of the HTTP worker

What holds between two callbacks of a worker that has been started, whatever completes in
whatever order: one operation and one wait, no response replaced under its own write, and
a deadline that is the deadline of the connection being served or has been lifted.
-/

namespace WorkerRuns

open EventRuns HttpWorker

variable {s : Worker} {now : Time}

/-- The part that the clock and the timer can break. -/
def DeadlineKept (s : Worker) : Prop :=
  ∀ t, s.served = some t → t ≤ s.now ∧ ∀ e, s.expiry = some e → e = t + seconds 60

/-- Between two callbacks. -/
structure Consistent (s : Worker) : Prop where
  single : ∃ p, s.io = [p]
  waiting : ∃ w, s.waits = [w]
  phase : ∀ p ∈ s.io, p.operation = .accept ↔ s.served = none
  unreplaced : ∀ p ∈ s.io, ∀ r z, p.operation = .write r z → r = s.responses ∧ z = s.serializers
  deadline : DeadlineKept s

/-- At the start of a callback of `accept`, `read` or `write`, which has left the queue. -/
structure Called (s : Worker) : Prop where
  idle : s.io = []
  waiting : ∃ w, s.waits = [w]
  deadline : DeadlineKept s

/-- The event is the callback of a request that has been read. -/
def ReadsRequest (s : Worker) : Event → Prop
  | .run k _ => s.io[k]? = some ⟨.read, some true⟩
  | _ => False

/-! ## Operations on the socket -/

@[simp] lemma close_operation (p : Pending) : p.close.operation = p.operation := by
  obtain ⟨operation, result⟩ := p
  cases operation <;> rfl

lemma accept_consistent (h : Called s) : Consistent s.accept where
  single := ⟨⟨.accept, none⟩, by
    simp [Worker.accept, Worker.asyncStart, Worker.closeSocket, h.idle]⟩
  waiting := h.waiting
  phase := by
    simp [Worker.accept, Worker.asyncStart, Worker.closeSocket, h.idle]
  unreplaced := by
    simp [Worker.accept, Worker.asyncStart, Worker.closeSocket, h.idle]
  deadline := by
    intro t ht
    exact absurd ht (by simp [Worker.accept, Worker.asyncStart])

lemma readRequest_consistent (h : Called s) (hserved : s.served ≠ none) :
    Consistent s.readRequest where
  single := ⟨⟨.read, none⟩, by simp [Worker.readRequest, Worker.asyncStart, h.idle]⟩
  waiting := h.waiting
  phase := by simpa [Worker.readRequest, Worker.asyncStart, h.idle] using hserved
  unreplaced := by simp [Worker.readRequest, Worker.asyncStart, h.idle]
  deadline := h.deadline

lemma asyncWrite_consistent (h : Called s) (hserved : s.served ≠ none) :
    Consistent s.asyncWrite where
  single := ⟨⟨.write s.responses s.serializers, none⟩, by
    simp [Worker.asyncWrite, Worker.asyncStart, h.idle]⟩
  waiting := h.waiting
  phase := by simpa [Worker.asyncWrite, Worker.asyncStart, h.idle] using hserved
  unreplaced := by simp [Worker.asyncWrite, Worker.asyncStart, h.idle]
  deadline := h.deadline

lemma visit_spec {s' : Worker} (h : s.visit = some s') :
    ∃ response serializer serializers,
      s' = Worker.asyncWrite { s with response, serializer, serializers } := by
  unfold Worker.visit at h
  extract_lets member resp at h
  by_cases hallowed : resp.payloadAllowed = true
  · rw [if_pos hallowed] at h
    exact ⟨_, _, _, (Option.some.inj h).symm⟩
  · rw [if_neg hallowed] at h
    cases h

/-- However the request is answered, the callback ends with the start of one write. -/
lemma process_spec (handling : Handling) (s : Worker) :
    ∃ response responses serializer serializers,
      s.process handling
        = Worker.asyncWrite { s with response, responses, serializer, serializers } := by
  cases handling with
  | response r =>
    cases hvisit : (Worker.setResponse r s).visit with
    | none => exact ⟨_, _, _, _, by simp only [Worker.process, hvisit]; rfl⟩
    | some s' =>
      obtain ⟨response, serializer, serializers, rfl⟩ := visit_spec hvisit
      exact ⟨_, _, _, _, by simp only [Worker.process, hvisit]; rfl⟩
  | invalidArgument what => exact ⟨_, _, _, _, rfl⟩
  | exception what => exact ⟨_, _, _, _, rfl⟩

lemma process_consistent (h : Called s) (hserved : s.served ≠ none) (handling : Handling) :
    Consistent (s.process handling) := by
  obtain ⟨response, responses, serializer, serializers, heq⟩ := process_spec handling s
  have hcalled : Called { s with response, responses, serializer, serializers } :=
    ⟨h.idle, h.waiting, h.deadline⟩
  exact heq ▸ asyncWrite_consistent hcalled hserved

/-! ## The callbacks -/

lemma accepted_consistent (h : Called s) (ok : Bool) : Consistent (s.accepted ok) := by
  by_cases hok : ok = true
  · obtain ⟨w, hw⟩ := h.waiting
    have hcalled : Called ({ s with served := some s.now }.expiresAt (some (s.now + seconds 60))) :=
      { idle := h.idle
        waiting := ⟨_, by simp [Worker.expiresAt, hw]; rfl⟩
        deadline := by
          intro t ht
          obtain rfl : s.now = t := Option.some.inj ht
          exact ⟨Nat.le_refl _, fun e he => (Option.some.inj he).symm⟩ }
    simpa [Worker.accepted, hok] using readRequest_consistent hcalled (by simp [Worker.expiresAt])
  · simpa [Worker.accepted, hok] using accept_consistent h

lemma callback_consistent (h : Called s) {operation : Operation}
    (hphase : operation ≠ .accept → s.served ≠ none) (ok : Bool) (handling : Handling) :
    Consistent (s.callback operation ok handling) := by
  cases operation with
  | accept => exact accepted_consistent h ok
  | read =>
    by_cases hok : ok = true
    · simpa [Worker.callback, Worker.readDone, hok] using
        process_consistent h (hphase (by simp)) handling
    · simpa [Worker.callback, Worker.readDone, hok] using accept_consistent h
  | write response serializer => exact accept_consistent h

lemma checkDeadline_consistent (hsingle : ∃ p, s.io = [p]) (hwaits : s.waits = [])
    (hphase : ∀ p ∈ s.io, p.operation = .accept ↔ s.served = none)
    (hunreplaced : ∀ p ∈ s.io, ∀ r z, p.operation = .write r z →
      r = s.responses ∧ z = s.serializers)
    (hdeadline : DeadlineKept s) : Consistent s.checkDeadline := by
  obtain ⟨p, hp⟩ := hsingle
  by_cases hexpired : s.expired = true
  · exact
      { single := ⟨p.close, by
          simp [Worker.checkDeadline, hexpired, Worker.asyncWait, Worker.expiresAt,
            Worker.closeSocket, hp]⟩
        waiting := ⟨none, by
          simp [Worker.checkDeadline, hexpired, Worker.asyncWait, Worker.expiresAt,
            Worker.closeSocket, hwaits]⟩
        phase := by
          simpa [Worker.checkDeadline, hexpired, Worker.asyncWait, Worker.expiresAt,
            Worker.closeSocket, hp] using hphase
        unreplaced := by
          simpa [Worker.checkDeadline, hexpired, Worker.asyncWait, Worker.expiresAt,
            Worker.closeSocket, hp] using hunreplaced
        deadline := by
          intro t ht
          simp only [Worker.checkDeadline, hexpired, Worker.asyncWait, Worker.expiresAt,
            Worker.closeSocket] at ht ⊢
          exact ⟨(hdeadline t ht).1, by simp⟩ }
  · have heq : s.checkDeadline = { s with waits := [none] } := by
      simp [Worker.checkDeadline, hexpired, Worker.asyncWait, hwaits]
    exact heq ▸ ⟨⟨p, hp⟩, ⟨none, rfl⟩, hphase, hunreplaced, hdeadline⟩

/-! ## One event -/

lemma getElem?_single {α : Type} {l : List α} (hsingle : ∃ a, l = [a]) {k : Nat} {b : α}
    (hb : l[k]? = some b) : k = 0 ∧ l = [b] := by
  obtain ⟨a, rfl⟩ := hsingle
  rw [List.getElem?_singleton] at hb
  by_cases hk : k = 0
  · rw [if_pos hk] at hb
    exact ⟨hk, by rw [Option.some.inj hb]⟩
  · rw [if_neg hk] at hb
    cases hb

lemma Consistent.called (h : Consistent s) : Called { s with io := [] } :=
  ⟨rfl, h.waiting, h.deadline⟩

/-- The event of an operation names the only one there is. -/
lemma Consistent.run_eq (h : Consistent s) {k : Nat} {p : Pending} {ok : Bool}
    (hp : s.io[k]? = some p) (hok : p.result = some ok) (handling : Handling) :
    s.io = [p] ∧
      step s (.run k handling) = Worker.callback p.operation ok handling { s with io := [] } := by
  obtain ⟨rfl, hio⟩ := getElem?_single h.single hp
  obtain ⟨operation, result⟩ := p
  obtain rfl : result = some ok := hok
  exact ⟨hio, by simp [step, hio]⟩

theorem step_consistent {e : Event} (h : Consistent s) (henabled : Enabled s e) :
    Consistent (step s e) := by
  cases e with
  | tick now =>
    have hdeadline : DeadlineKept { s with now } := fun t ht =>
      ⟨Nat.le_trans (h.deadline t ht).1 henabled, (h.deadline t ht).2⟩
    exact ⟨h.single, h.waiting, h.phase, h.unreplaced, hdeadline⟩
  | complete k ok =>
    obtain ⟨p, hp, -⟩ := henabled
    obtain ⟨rfl, hio⟩ := getElem?_single h.single hp
    have heq : step s (.complete 0 ok) = { s with io := [{ p with result := some ok }] } := by
      simp [step, hio]
    have hphase := h.phase p (by simp [hio])
    have hunreplaced := h.unreplaced p (by simp [hio])
    rw [heq]
    exact ⟨⟨_, rfl⟩, h.waiting, by simpa using hphase, by simpa using hunreplaced, h.deadline⟩
  | run k handling =>
    obtain ⟨p, ok, hp, hok⟩ := henabled
    obtain ⟨hio, heq⟩ := h.run_eq hp hok handling
    have hphase := h.phase p (by simp [hio])
    rw [heq]
    exact callback_consistent h.called (fun hne hnone => hne (hphase.mpr hnone)) ok handling
  | expire k ok =>
    obtain ⟨rfl, hwaits⟩ := getElem?_single h.waiting henabled
    have hset : (s.waits.set 0 (some ok)) = [some ok] := by simp [hwaits]
    exact ⟨h.single, ⟨_, hset⟩, h.phase, h.unreplaced, h.deadline⟩
  | wake k =>
    obtain ⟨ok, hok⟩ := henabled
    obtain ⟨rfl, hwaits⟩ := getElem?_single h.waiting hok
    have herase : s.waits.eraseIdx 0 = [] := by simp [hwaits]
    exact checkDeadline_consistent h.single herase h.phase h.unreplaced h.deadline

lemma start_consistent (now : Time) : Consistent (Worker.init now).start where
  single := ⟨⟨.accept, none⟩, rfl⟩
  waiting := ⟨none, rfl⟩
  phase := by
    intro p hp
    obtain rfl : p = ⟨.accept, none⟩ := List.mem_singleton.mp hp
    exact ⟨fun _ => rfl, fun _ => rfl⟩
  unreplaced := by
    intro p hp r z hwrite
    obtain rfl : p = ⟨.accept, none⟩ := List.mem_singleton.mp hp
    cases hwrite
  deadline := by
    intro t ht
    cases ht

theorem run_consistent {events : List Event}
    (h : Meets step Enabled (Worker.init now).start events) :
    Consistent (events.foldl step (Worker.init now).start) :=
  h.invariant (fun _ _ hs he => step_consistent hs he) (start_consistent now)

/-! ## Writes -/

lemma callback_writes {operation : Operation} {ok : Bool} (handling : Handling)
    (h : ¬(operation = .read ∧ ok = true)) (s : Worker) :
    (s.callback operation ok handling).writes = s.writes := by
  cases operation with
  | accept => cases ok <;> rfl
  | read =>
    cases ok with
    | false => rfl
    | true => exact absurd ⟨rfl, rfl⟩ h
  | write response serializer => rfl

lemma checkDeadline_writes (s : Worker) : s.checkDeadline.writes = s.writes := by
  by_cases hexpired : s.expired = true
  · simp [Worker.checkDeadline, hexpired, Worker.asyncWait, Worker.expiresAt, Worker.closeSocket]
  · simp [Worker.checkDeadline, hexpired, Worker.asyncWait]

/-- A request that has been read starts one write, and nothing else starts any. -/
theorem step_writes {e : Event} (h : Consistent s) (henabled : Enabled s e) :
    (ReadsRequest s e → (step s e).writes = s.writes + 1 ∧
      (step s e).io = [⟨.write (step s e).responses (step s e).serializers, none⟩]) ∧
    (¬ReadsRequest s e → (step s e).writes = s.writes) := by
  cases e with
  | tick now => exact ⟨False.elim, fun _ => rfl⟩
  | complete k ok =>
    obtain ⟨p, hp, -⟩ := henabled
    exact ⟨False.elim, fun _ => by simp [step, hp]⟩
  | run k handling =>
    obtain ⟨p, ok, hp, hok⟩ := henabled
    obtain ⟨hio, heq⟩ := h.run_eq hp hok handling
    obtain ⟨operation, result⟩ := p
    obtain rfl : result = some ok := hok
    rw [heq]
    constructor
    · intro hread
      obtain ⟨rfl, rfl⟩ : operation = .read ∧ ok = true := by
        have hsame := Option.some.inj (hp.symm.trans hread)
        simpa using hsame
      obtain ⟨response, responses, serializer, serializers, hprocess⟩ :=
        process_spec handling { s with io := [] }
      have hcallback : Worker.callback .read true handling { s with io := [] }
          = Worker.process handling { s with io := [] } := rfl
      rw [hcallback, hprocess]
      exact ⟨rfl, rfl⟩
    · intro hread
      exact callback_writes handling (fun ⟨hop, htrue⟩ => hread (by
        subst hop htrue
        exact hp)) _
  | expire k ok => exact ⟨False.elim, fun _ => rfl⟩
  | wake k => exact ⟨False.elim, fun _ => checkDeadline_writes _⟩

/-- Between two callbacks one operation is outstanding or waits with its result, a request
that has been read starts exactly one write, and a write is the write of the response and
the serializer that the worker still has. -/
theorem one_write_for_each_request (now : Time) (events : List Event)
    (h : Meets step Enabled (Worker.init now).start events) :
    let s := events.foldl step (Worker.init now).start
    (∃ p, s.io = [p] ∧ ∀ r z, p.operation = .write r z → r = s.responses ∧ z = s.serializers) ∧
      ∀ e, Enabled s e →
        (ReadsRequest s e → (step s e).writes = s.writes + 1 ∧
          (step s e).io = [⟨.write (step s e).responses (step s e).serializers, none⟩]) ∧
        (¬ReadsRequest s e → (step s e).writes = s.writes) := by
  intro s
  have hconsistent : Consistent s := run_consistent h
  obtain ⟨p, hp⟩ := hconsistent.single
  have hunreplaced := hconsistent.unreplaced p (by simp [hp])
  exact ⟨⟨p, hp, hunreplaced⟩, fun _ he => step_writes hconsistent he⟩

/-- A connection is accepted and its request is read. -/
def requestRead : List Event :=
  [.complete 0 true, .run 0 (.exception ""), .wake 0, .complete 0 true]

theorem requestRead_written :
    (step (requestRead.foldl step (Worker.init 0).start) (.run 0 (.exception ""))).writes = 1 := by
  have hmeets : Meets step Enabled (Worker.init 0).start requestRead :=
    ⟨⟨_, rfl, rfl⟩, ⟨_, _, rfl, rfl⟩, ⟨_, rfl⟩, ⟨_, rfl, rfl⟩, trivial⟩
  have henabled : Enabled (requestRead.foldl step (Worker.init 0).start)
      (.run 0 (.exception "")) := ⟨_, _, rfl, rfl⟩
  exact (((one_write_for_each_request 0 requestRead hmeets).2 _ henabled).1 rfl).1

/-! ## The deadline -/

/-- The event calls `checkDeadline`, and the call closes the socket or cancels what is
outstanding on it. -/
def ClosesSocket (s : Worker) : Event → Prop
  | .wake k => (step s (.wake k)).closes ≠ s.closes ∨ (step s (.wake k)).io ≠ s.io
  | _ => False

lemma closesSocket_iff {k : Nat} : ClosesSocket s (.wake k) ↔ s.expired = true := by
  rw [ClosesSocket, step, Worker.checkDeadline]
  constructor
  · intro hcloses
    by_contra hexpired
    have hrest : ¬ Worker.expired { s with waits := s.waits.eraseIdx k } = true := hexpired
    rw [if_neg hrest] at hcloses
    rcases hcloses with hcloses | hio
    · exact hcloses rfl
    · exact hio rfl
  · intro hexpired
    have hrest : Worker.expired { s with waits := s.waits.eraseIdx k } = true := hexpired
    rw [if_pos hrest]
    exact .inl (Nat.succ_ne_self s.closes)

lemma Consistent.closes (h : Consistent s) {e : Event} (hcloses : ClosesSocket s e) {t : Time}
    (hserved : s.served = some t) : t + seconds 60 ≤ s.now := by
  cases e with
  | wake k =>
    have hexpired := closesSocket_iff.mp hcloses
    obtain ⟨expiry, hexpiry, hle⟩ := (Option.any_eq_true _ _).mp hexpired
    have hpassed : expiry ≤ s.now := of_decide_eq_true hle
    obtain rfl := (h.deadline t hserved).2 expiry hexpiry
    exact hpassed
  | _ => exact hcloses.elim

/-- One wait is outstanding or waits with its result, and a connection whose socket
`checkDeadline` closes has been served for 60 seconds. -/
theorem deadline_of_its_own_connection (now : Time) (events : List Event)
    (h : Meets step Enabled (Worker.init now).start events) :
    let s := events.foldl step (Worker.init now).start
    (∃ w, s.waits = [w]) ∧
      ∀ e, Enabled s e → ClosesSocket s e →
        ∀ t, s.served = some t → t + seconds 60 ≤ s.now := by
  intro s
  have hconsistent : Consistent s := run_consistent h
  exact ⟨hconsistent.waiting, fun _ _ hcloses _ hserved => hconsistent.closes hcloses hserved⟩

/-- A connection whose request does not come. -/
def requestMissing : List Event :=
  [.complete 0 true, .run 0 (.exception ""), .wake 0, .tick (seconds 60), .expire 0 true]

/-- The read that waits for the request is cancelled after a minute. -/
theorem requestMissing_closed :
    let s := requestMissing.foldl step (Worker.init 0).start
    s.io = [⟨.read, none⟩] ∧ (step s (.wake 0)).io = [⟨.read, some false⟩] ∧
      0 + seconds 60 ≤ s.now := by
  have hmeets : Meets step Enabled (Worker.init 0).start requestMissing :=
    ⟨⟨_, rfl, rfl⟩, ⟨_, _, rfl, rfl⟩, ⟨_, rfl⟩, Nat.zero_le _, rfl, trivial⟩
  have hpending : (requestMissing.foldl step (Worker.init 0).start).io = [⟨.read, none⟩] := rfl
  have hcancelled : (step (requestMissing.foldl step (Worker.init 0).start) (.wake 0)).io
      = [⟨.read, some false⟩] := by decide
  have hcloses : ClosesSocket (requestMissing.foldl step (Worker.init 0).start) (.wake 0) := by
    refine .inr fun hsame => ?_
    have hread := hcancelled.symm.trans (hsame.trans hpending)
    exact absurd hread (by decide)
  exact ⟨hpending, hcancelled, (deadline_of_its_own_connection 0 requestMissing hmeets).2 (.wake 0)
    ⟨_, rfl⟩ hcloses 0 rfl⟩

end WorkerRuns
