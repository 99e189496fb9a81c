import Mathlib.Data.List.Nodup
import RpiRobot.EventRuns

/-!
# Threads and their connections

`DataSource` keeps a connection for each thread, and every function of a repository opens its
transaction on that of the thread that calls it. Threads run repository operations side by
side; `getConnection` is atomic, and anything may throw. No function opens a transaction
while one of its thread is open, so no two transactions are ever open on one connection.
-/

namespace TransactionThreads

open EventRuns

/-! ## The operations -/

/-- `pqxx::work` and `pqxx::nontransaction` begin with their constructors and end with their
destructors. -/
inductive Instr where
  | connect
  | begin_
  | exec
  | read
  | commit
  | end_
  deriving DecidableEq, Repr

inductive Repository where
  | registry
  | device
  | deviceTelemetry
  deriving DecidableEq, Repr

/-- The body of a function that declares a transaction on `_source.getConnection()`. -/
def transaction (body : List Instr) : List Instr := .connect :: .begin_ :: (body ++ [.end_])

def select : List Instr := [.exec, .read]

/-- What belongs to the rows is selected only if there are some. -/
def findAll (rows hasCount : Bool) : Repository → List Instr
  | .registry => transaction (select ++ if hasCount then select else [])
  | _ => transaction (select ++ (if rows then select else []) ++ if hasCount then select else [])

def findOne (rows : Bool) (repository : Repository) : List Instr := findAll rows false repository

def insert (_ : Repository) : List Instr := transaction [.exec, .commit, .read]

def update : Repository → List Instr
  | .deviceTelemetry => []
  | _ => transaction [.exec, .commit]

def deleteByFilter (_ : Repository) : List Instr := transaction [.exec, .commit]

inductive Operation where
  | findAll (repository : Repository) (rows hasCount : Bool)
  | findById (repository : Repository) (rows : Bool)
  | findOne (repository : Repository) (rows : Bool)
  | insert (repository : Repository)
  | update (repository : Repository)
  | deleteByFilter (repository : Repository)
  | deleteById (repository : Repository)
  /-- The subscriber of telemetry, which inserts for a device that it finds. -/
  | subscriber (found : Bool)

def Operation.code : Operation → List Instr
  | .findAll repository rows hasCount => TransactionThreads.findAll rows hasCount repository
  | .findById repository rows => TransactionThreads.findOne rows repository
  | .findOne repository rows => TransactionThreads.findOne rows repository
  | .insert repository => TransactionThreads.insert repository
  | .update repository => TransactionThreads.update repository
  | .deleteByFilter repository => TransactionThreads.deleteByFilter repository
  | .deleteById repository => TransactionThreads.deleteByFilter repository
  | .subscriber found => TransactionThreads.findOne found .device ++
      if found then TransactionThreads.insert .deviceTelemetry else []

/-! ## The threads -/

/-- An element of `_cache`. -/
structure Node (T : Type) where
  thread : T
  address : Nat
  connection : Nat
  deriving DecidableEq, Repr

structure Thread where
  /-- What remains of the operation. -/
  code : List Instr
  /-- The reference that `getConnection` has returned last. -/
  held : Option Nat

structure State (T : Type) where
  cache : List (Node T)
  /-- How many connections have been constructed. -/
  constructed : Nat
  threads : T → Thread
  /-- The open transactions, the latest first, by their threads and connections. -/
  transactions : List (T × Nat)
  /-- What `getConnection` has returned to whom. -/
  calls : List (T × Nat)

variable {T : Type} [DecidableEq T]

omit [DecidableEq T] in
/-- The thread that constructs the data source gets its connection at once. -/
def State.init (main : T) (address : Nat) : State T where
  cache := [⟨main, address, 0⟩]
  constructed := 1
  threads _ := ⟨[], none⟩
  transactions := []
  calls := []

/-- `connect` comes with the address of a new element and with the elements in the order that
the insertion leaves. -/
inductive Event (T : Type) where
  | start (t : T) (operation : Operation)
  | connect (t : T) (address : Nat) (rehashed : List (Node T))
  | advance (t : T)
  | throw_ (t : T)

def State.find (s : State T) (t : T) : Option (Node T) :=
  s.cache.find? (fun n => decide (n.thread = t))

omit [DecidableEq T] in
/-- What a reference refers to. -/
def State.connectionAt (s : State T) (address : Nat) : Option Nat :=
  (s.cache.find? (fun n => decide (n.address = address))).map Node.connection

/-- An emplacement puts the element at an address of its own. -/
def Enabled (s : State T) : Event T → Prop
  | .start t _ => (s.threads t).code = []
  | .connect t address rehashed => (s.threads t).code.head? = some .connect ∧
      (s.find t = none → (∀ n ∈ s.cache, n.address ≠ address) ∧
        rehashed.Perm (⟨t, address, s.constructed⟩ :: s.cache))
  | .advance t => ∃ i rest, (s.threads t).code = i :: rest ∧ i ≠ .connect
  | .throw_ t => (s.threads t).code ≠ []

def returned (t : T) (address : Nat) (s : State T) : State T :=
  { s with
    threads := Function.update s.threads t ⟨(s.threads t).code.tail, some address⟩
    calls := (t, address) :: s.calls }

def getConnection (t : T) (address : Nat) (rehashed : List (Node T)) (s : State T) : State T :=
  match s.find t with
  | some n => returned t n.address s
  | none => returned t address { s with cache := rehashed, constructed := s.constructed + 1 }

def next (t : T) (s : State T) : State T :=
  { s with threads := Function.update s.threads t ⟨(s.threads t).code.tail, (s.threads t).held⟩ }

/-- A transaction is opened whatever is open already. -/
def advance (t : T) (s : State T) : State T :=
  match (s.threads t).code, (s.threads t).held with
  | .begin_ :: _, some address => next t { s with transactions := (t, address) :: s.transactions }
  | .end_ :: _, _ =>
    next t { s with transactions := s.transactions.eraseP (fun p => decide (p.1 = t)) }
  | _, _ => next t s

/-- An exception leaves the operation and ends its transactions. -/
def step (s : State T) : Event T → State T
  | .start t operation =>
    { s with threads := Function.update s.threads t ⟨operation.code, (s.threads t).held⟩ }
  | .connect t address rehashed => getConnection t address rehashed s
  | .advance t => advance t s
  | .throw_ t =>
    { s with
      threads := Function.update s.threads t ⟨[], none⟩
      transactions := s.transactions.filter (fun p => decide (p.1 ≠ t)) }

/-! ## The shape of the operations -/

inductive Phase where
  | idle
  | connected
  | opened
  deriving DecidableEq, Repr

/-- One transaction after the other. -/
def Shaped : Phase → List Instr → Prop
  | .idle, [] => True
  | .idle, .connect :: rest => Shaped .connected rest
  | .connected, .begin_ :: rest => Shaped .opened rest
  | .opened, .exec :: rest => Shaped .opened rest
  | .opened, .read :: rest => Shaped .opened rest
  | .opened, .commit :: rest => Shaped .opened rest
  | .opened, .end_ :: rest => Shaped .idle rest
  | _, _ => False

/-- An instruction on an open transaction. -/
def Instr.inside : Instr → Bool
  | .exec => true
  | .read => true
  | .commit => true
  | _ => false

lemma shaped_nil : Shaped .idle [] := trivial

lemma shaped_inside {body rest : List Instr} (hbody : body.all Instr.inside = true)
    (hrest : Shaped .idle rest) : Shaped .opened (body ++ .end_ :: rest) := by
  induction body with
  | nil => exact hrest
  | cons i body ih =>
    rw [List.all_cons, Bool.and_eq_true] at hbody
    have hih := ih hbody.2
    cases i with
    | exec | read | commit => exact hih
    | connect | begin_ | end_ => cases hbody.1

lemma shaped_transaction {body rest : List Instr} (hbody : body.all Instr.inside = true)
    (hrest : Shaped .idle rest) : Shaped .idle (transaction body ++ rest) := by
  have hcode : transaction body ++ rest = .connect :: .begin_ :: (body ++ .end_ :: rest) := by
    simp [transaction]
  rw [hcode]
  exact shaped_inside hbody hrest

lemma shaped_findAll (rows hasCount : Bool) (repository : Repository) {rest : List Instr}
    (hrest : Shaped .idle rest) : Shaped .idle (findAll rows hasCount repository ++ rest) := by
  cases repository with
  | registry => exact shaped_transaction (by cases hasCount <;> rfl) hrest
  | device => exact shaped_transaction (by cases rows <;> cases hasCount <;> rfl) hrest
  | deviceTelemetry => exact shaped_transaction (by cases rows <;> cases hasCount <;> rfl) hrest

lemma shaped_single {body : List Instr} (hbody : body.all Instr.inside = true) :
    Shaped .idle (transaction body) := by
  simpa using shaped_transaction hbody shaped_nil

/-- No function calls another while its transaction is open. -/
theorem shaped_code (operation : Operation) : Shaped .idle operation.code := by
  cases operation with
  | findAll repository rows hasCount =>
    simpa [Operation.code] using shaped_findAll rows hasCount repository shaped_nil
  | findById repository rows | findOne repository rows =>
    simpa [Operation.code, findOne] using shaped_findAll rows false repository shaped_nil
  | insert repository => exact shaped_single rfl
  | update repository =>
    cases repository with
    | registry => exact shaped_single rfl
    | device => exact shaped_single rfl
    | deviceTelemetry => trivial
  | deleteByFilter repository | deleteById repository => exact shaped_single rfl
  | subscriber found =>
    refine shaped_findAll found false .device ?_
    cases found with
    | true => exact shaped_single rfl
    | false => trivial

/-! ## The invariant -/

omit [DecidableEq T] in
/-- The connection at the address is that of the thread. -/
def State.Owns (s : State T) (t : T) (address : Nat) : Prop :=
  ∃ connection, ⟨t, address, connection⟩ ∈ s.cache

omit [DecidableEq T] in
def State.owners (s : State T) : List T := s.transactions.map Prod.fst

omit [DecidableEq T] in
/-- How far a thread is in its operation. -/
def ThreadOk (s : State T) (t : T) : Prop :=
  ∃ phase, Shaped phase (s.threads t).code ∧ (phase = .opened ↔ t ∈ s.owners) ∧
    (phase = .connected → ∃ address, (s.threads t).held = some address ∧ s.Owns t address)

omit [DecidableEq T] in
structure Inv (s : State T) : Prop where
  keys : (s.cache.map Node.thread).Nodup
  addresses : (s.cache.map Node.address).Nodup
  calls : ∀ p ∈ s.calls, s.Owns p.1 p.2
  opened : ∀ p ∈ s.transactions, s.Owns p.1 p.2
  owners : s.owners.Nodup
  threads : ∀ t, ThreadOk s t

variable {s s' : State T} {t u : T}

section
omit [DecidableEq T]

lemma ThreadOk.same (h : ThreadOk s t) (hthread : s'.threads t = s.threads t)
    (howners : t ∈ s'.owners ↔ t ∈ s.owners) (howns : ∀ address, s.Owns t address →
      s'.Owns t address) : ThreadOk s' t := by
  obtain ⟨phase, hshaped, hopened, hconnected⟩ := h
  rw [← hthread] at hshaped hconnected
  refine ⟨phase, hshaped, hopened.trans howners.symm, fun hphase => ?_⟩
  obtain ⟨address, hheld, how⟩ := hconnected hphase
  exact ⟨address, hheld, howns address how⟩

/-- A thread has one connection. -/
lemma Inv.owns_unique (h : Inv s) {a b : Nat} (ha : s.Owns t a) (hb : s.Owns t b) : a = b := by
  obtain ⟨c, hc⟩ := ha
  obtain ⟨d, hd⟩ := hb
  have hsame := List.inj_on_of_nodup_map h.keys hc hd rfl
  exact congrArg Node.address hsame

/-- A connection has one thread. -/
lemma Inv.owner_unique (h : Inv s) {a : Nat} (ht : s.Owns t a) (hu : s.Owns u a) : t = u := by
  obtain ⟨c, hc⟩ := ht
  obtain ⟨d, hd⟩ := hu
  have hsame := List.inj_on_of_nodup_map h.addresses hc hd rfl
  exact congrArg Node.thread hsame

/-- The open transactions are on different connections. -/
theorem Inv.transactions_nodup (h : Inv s) : (s.transactions.map Prod.snd).Nodup := by
  refine h.owners.of_map _ |>.map_on ?_
  intro p hp q hq hsame
  have howner := h.owner_unique (h.opened p hp) (hsame ▸ h.opened q hq)
  exact Prod.ext howner hsame

lemma find?_eq_of_nodup {α β : Type} [DecidableEq β] {f : α → β} {l : List α}
    (h : (l.map f).Nodup) {a : α} (ha : a ∈ l) :
    l.find? (fun x => decide (f x = f a)) = some a := by
  cases hfind : l.find? (fun x => decide (f x = f a)) with
  | none => exact absurd (List.find?_eq_none.mp hfind a ha) (by simp)
  | some b =>
    have hb : f b = f a := by simpa using List.find?_some hfind
    exact congrArg some (List.inj_on_of_nodup_map h (List.mem_of_find?_eq_some hfind) ha hb)

/-- The order of the elements is nothing to a search for a key of one of them. -/
lemma find?_perm {α β : Type} [DecidableEq β] {f : α → β} {l l' : List α} (h : l.Perm l')
    (hnodup : (l.map f).Nodup) (b : β) :
    l.find? (fun x => decide (f x = b)) = l'.find? (fun x => decide (f x = b)) := by
  cases hfind : l.find? (fun x => decide (f x = b)) with
  | none =>
    have hnone := List.find?_eq_none.mp hfind
    exact (List.find?_eq_none.mpr fun x hx => hnone x (h.mem_iff.mpr hx)).symm
  | some a =>
    obtain rfl : f a = b := by simpa using List.find?_some hfind
    have ha : a ∈ l' := h.mem_iff.mp (List.mem_of_find?_eq_some hfind)
    exact (find?_eq_of_nodup ((h.map f).nodup_iff.mp hnodup) ha).symm

/-- A reference to an element is a reference to its connection. -/
lemma Inv.connectionAt (h : Inv s) {n : Node T} (hn : n ∈ s.cache) :
    s.connectionAt n.address = some n.connection := by
  rw [State.connectionAt, find?_eq_of_nodup h.addresses hn]
  rfl

end

/-! ## One event -/

omit [DecidableEq T] in
lemma init_inv (main : T) (address : Nat) : Inv (State.init main address) where
  keys := by simp [State.init]
  addresses := by simp [State.init]
  calls := by simp [State.init]
  opened := by simp [State.init]
  owners := by simp [State.init, State.owners]
  threads t := ⟨.idle, trivial, by simp [State.init, State.owners], by simp⟩

/-- A thread changes, and nothing that the others are in the middle of. -/
lemma Inv.update (h : Inv s) {thread : Thread}
    (hthread : ThreadOk { s with threads := Function.update s.threads t thread } t) :
    Inv { s with threads := Function.update s.threads t thread } := by
  refine ⟨h.keys, h.addresses, h.calls, h.opened, h.owners, fun u => ?_⟩
  by_cases hu : u = t
  · subst hu
    exact hthread
  · exact (h.threads u).same (Function.update_of_ne hu _ _) Iff.rfl fun _ how => how

lemma start_inv (h : Inv s) (operation : Operation) (hidle : (s.threads t).code = []) :
    Inv (step s (.start t operation)) := by
  refine h.update ?_
  obtain ⟨phase, hshaped, hopened, -⟩ := h.threads t
  rw [hidle] at hshaped
  cases phase with
  | connected | opened => exact hshaped.elim
  | idle =>
    exact ⟨.idle, by simpa using shaped_code operation, hopened, fun hphase => nomatch hphase⟩

lemma returned_inv (h : Inv s) {address : Nat} {rest : List Instr}
    (hcode : (s.threads t).code = .connect :: rest) (howns : s.Owns t address) :
    Inv (returned t address s) := by
  have hinv : Inv { s with threads := Function.update s.threads t ⟨rest, some address⟩ } := by
    refine h.update ?_
    obtain ⟨phase, hshaped, hopened, -⟩ := h.threads t
    rw [hcode] at hshaped
    cases phase with
    | connected | opened => exact hshaped.elim
    | idle =>
      have hrest : Shaped .connected rest := hshaped
      refine ⟨.connected, by simpa using hrest, ?_, fun _ => ⟨address, by simp, howns⟩⟩
      exact iff_of_false (fun hphase => nomatch hphase) fun ht => nomatch hopened.mpr ht
  have heq : returned t address s =
      { s with
        threads := Function.update s.threads t ⟨rest, some address⟩
        calls := (t, address) :: s.calls } := by
    simp [returned, hcode]
  rw [heq]
  refine ⟨hinv.keys, hinv.addresses, ?_, hinv.opened, hinv.owners, hinv.threads⟩
  intro p hp
  rcases List.mem_cons.mp hp with rfl | hp
  · exact howns
  · exact h.calls p hp

/-- An element is inserted, and those that are there stay where they are. -/
lemma grow_inv (h : Inv s) {address : Nat} {rehashed : List (Node T)} (hnone : s.find t = none)
    (hfresh : ∀ n ∈ s.cache, n.address ≠ address)
    (hperm : rehashed.Perm (⟨t, address, s.constructed⟩ :: s.cache)) :
    Inv { s with cache := rehashed, constructed := s.constructed + 1 } := by
  have hkey : t ∉ s.cache.map Node.thread := by
    intro ht
    obtain ⟨n, hn, hnt⟩ := List.mem_map.mp ht
    exact absurd (List.find?_eq_none.mp hnone n hn) (by simp [hnt])
  have haddress : address ∉ s.cache.map Node.address := by
    intro ha
    obtain ⟨n, hn, hna⟩ := List.mem_map.mp ha
    exact hfresh n hn hna
  have howns : ∀ u a, s.Owns u a → ∃ c, ⟨u, a, c⟩ ∈ rehashed := fun u a ⟨c, hc⟩ =>
    ⟨c, hperm.mem_iff.mpr (.tail _ hc)⟩
  exact
    { keys := (hperm.map Node.thread).nodup_iff.mpr (List.nodup_cons.mpr ⟨hkey, h.keys⟩)
      addresses :=
        (hperm.map Node.address).nodup_iff.mpr (List.nodup_cons.mpr ⟨haddress, h.addresses⟩)
      calls := fun p hp => howns _ _ (h.calls p hp)
      opened := fun p hp => howns _ _ (h.opened p hp)
      owners := h.owners
      threads := fun u => (h.threads u).same rfl Iff.rfl (howns u) }

lemma find_some {n : Node T} (h : s.find t = some n) : n.thread = t ∧ n ∈ s.cache :=
  ⟨by simpa using List.find?_some h, List.mem_of_find?_eq_some h⟩

lemma connect_inv (h : Inv s) {address : Nat} {rehashed : List (Node T)}
    (henabled : Enabled s (.connect t address rehashed)) :
    Inv (step s (.connect t address rehashed)) := by
  obtain ⟨hhead, hinsert⟩ := henabled
  obtain ⟨rest, hcode⟩ := List.head?_eq_some_iff.mp hhead
  rw [step, getConnection]
  cases hfind : s.find t with
  | some n =>
    obtain ⟨rfl, hn⟩ := find_some hfind
    exact returned_inv h hcode ⟨n.connection, hn⟩
  | none =>
    obtain ⟨hfresh, hperm⟩ := hinsert hfind
    refine returned_inv (grow_inv h hfind hfresh hperm) hcode ⟨s.constructed, ?_⟩
    exact hperm.mem_iff.mpr List.mem_cons_self

lemma begin_inv (h : Inv s) {rest : List Instr} (hcode : (s.threads t).code = .begin_ :: rest) :
    Inv (step s (.advance t)) := by
  obtain ⟨phase, hshaped, hopened, hconnected⟩ := h.threads t
  rw [hcode] at hshaped
  cases phase with
  | idle | opened => exact hshaped.elim
  | connected =>
    obtain ⟨address, hheld, howns⟩ := hconnected rfl
    have hfree : t ∉ s.owners := fun ht => nomatch hopened.mpr ht
    have heq : step s (.advance t) =
        { s with
          threads := Function.update s.threads t ⟨rest, some address⟩
          transactions := (t, address) :: s.transactions } := by
      simp [step, advance, next, hcode, hheld]
    rw [heq]
    refine ⟨h.keys, h.addresses, h.calls, ?_, List.nodup_cons.mpr ⟨hfree, h.owners⟩, fun u => ?_⟩
    · intro p hp
      rcases List.mem_cons.mp hp with rfl | hp
      · exact howns
      · exact h.opened p hp
    · by_cases hu : u = t
      · subst hu
        have hrest : Shaped .opened rest := hshaped
        refine ⟨.opened, by simpa using hrest, ?_, fun hphase => nomatch hphase⟩
        exact iff_of_true rfl List.mem_cons_self
      · refine (h.threads u).same (Function.update_of_ne hu _ _) ?_ fun _ how => how
        simp [State.owners, hu]

lemma eraseP_eq_filter {l : List (T × Nat)} (h : (l.map Prod.fst).Nodup) :
    l.eraseP (fun p => decide (p.1 = t)) = l.filter (fun p => decide (p.1 ≠ t)) := by
  induction l with
  | nil => rfl
  | cons p l ih =>
    obtain ⟨hp, hl⟩ := List.nodup_cons.mp h
    by_cases heq : p.1 = t
    · have hall : ∀ q ∈ l, q.1 ≠ t := by
        rintro q hq rfl
        exact hp (heq ▸ List.mem_map_of_mem hq)
      rw [List.eraseP_cons_of_pos (by simpa using heq),
        List.filter_cons_of_neg (by simpa using heq), List.filter_eq_self.mpr (by simpa using hall)]
    · rw [List.eraseP_cons_of_neg (by simpa using heq),
        List.filter_cons_of_pos (by simpa using heq), ih hl]

/-- The transactions of a thread end. -/
lemma end_inv (h : Inv s) {thread : Thread} (hidle : Shaped .idle thread.code) :
    Inv { s with
      threads := Function.update s.threads t thread
      transactions := s.transactions.filter (fun p => decide (p.1 ≠ t)) } := by
  have hmem : ∀ u, u ∈ (s.transactions.filter (fun p => decide (p.1 ≠ t))).map Prod.fst ↔
      u ∈ s.owners ∧ u ≠ t := by
    intro u
    simp only [State.owners, List.mem_map, List.mem_filter, decide_eq_true_eq]
    constructor
    · rintro ⟨p, ⟨hp, hne⟩, rfl⟩
      exact ⟨⟨p, hp, rfl⟩, hne⟩
    · rintro ⟨⟨p, hp, rfl⟩, hne⟩
      exact ⟨p, ⟨hp, hne⟩, rfl⟩
  refine ⟨h.keys, h.addresses, h.calls, ?_, ?_, fun u => ?_⟩
  · exact fun p hp => h.opened p (List.mem_of_mem_filter hp)
  · exact h.owners.sublist (List.filter_sublist.map _)
  · by_cases hu : u = t
    · subst hu
      refine ⟨.idle, by simpa using hidle, ?_, fun hphase => nomatch hphase⟩
      exact iff_of_false (fun hphase => nomatch hphase) fun hown => ((hmem u).mp hown).2 rfl
    · refine (h.threads u).same (Function.update_of_ne hu _ _) ?_ fun _ how => how
      exact (hmem u).trans (and_iff_left hu)

lemma advance_inv (h : Inv s) (henabled : Enabled s (.advance t)) :
    Inv (step s (.advance t)) := by
  obtain ⟨i, rest, hcode, hne⟩ := henabled
  obtain ⟨phase, hshaped, hopened, -⟩ := h.threads t
  rw [hcode] at hshaped
  cases i with
  | connect => exact absurd rfl hne
  | begin_ => exact begin_inv h hcode
  | end_ =>
    have heq : step s (.advance t) =
        { s with
          threads := Function.update s.threads t ⟨rest, (s.threads t).held⟩
          transactions := s.transactions.filter (fun p => decide (p.1 ≠ t)) } := by
      simp only [step, advance, next, hcode, List.tail_cons, eraseP_eq_filter h.owners]
    rw [heq]
    cases phase with
    | idle | connected => exact hshaped.elim
    | opened => exact end_inv h hshaped
  | exec | read | commit =>
    have heq : step s (.advance t) =
        { s with threads := Function.update s.threads t ⟨rest, (s.threads t).held⟩ } := by
      simp only [step, advance, next, hcode, List.tail_cons]
    rw [heq]
    cases phase with
    | idle | connected => exact hshaped.elim
    | opened =>
      have hrest : Shaped .opened rest := hshaped
      exact h.update ⟨.opened, by simpa using hrest, hopened, fun hphase => nomatch hphase⟩

theorem step_inv {e : Event T} (h : Inv s) (henabled : Enabled s e) : Inv (step s e) := by
  cases e with
  | start t operation => exact start_inv h operation henabled
  | connect t address rehashed => exact connect_inv h henabled
  | advance t => exact advance_inv h henabled
  | throw_ t => exact end_inv h trivial

theorem run_inv (main : T) (address : Nat) {events : List (Event T)}
    (h : Meets step Enabled (State.init main address) events) :
    Inv (events.foldl step (State.init main address)) :=
  h.invariant (fun _ _ hs he => step_inv hs he) (init_inv main address)

/-! ## References -/

/-- No event takes an element away or changes it. -/
lemma step_cache {e : Event T} (henabled : Enabled s e) {n : Node T} (hn : n ∈ s.cache) :
    n ∈ (step s e).cache := by
  cases e with
  | start t operation => exact hn
  | throw_ t => exact hn
  | connect t address rehashed =>
    rw [step, getConnection]
    cases hfind : s.find t with
    | some found => exact hn
    | none => exact (henabled.2 hfind).2.mem_iff.mpr (.tail _ hn)
  | advance t =>
    rw [step, advance]
    split <;> exact hn

/-- At no moment are two transactions open on one connection, all calls of a thread get the
same connection, and what a thread has got stays what it is whatever happens next. -/
theorem one_open_transaction (main : T) (address : Nat) (events : List (Event T))
    (h : Meets step Enabled (State.init main address) events) :
    let s := events.foldl step (State.init main address)
    (s.transactions.map Prod.snd).Nodup ∧
      (∀ t a b, (t, a) ∈ s.calls → (t, b) ∈ s.calls → a = b) ∧
      ∀ t a, (t, a) ∈ s.calls → ∃ connection, s.connectionAt a = some connection ∧
        ∀ e, Enabled s e → (step s e).connectionAt a = some connection := by
  intro s
  have hinv : Inv s := run_inv main address h
  refine ⟨hinv.transactions_nodup, fun t a b ha hb => ?_, fun t a ha => ?_⟩
  · exact hinv.owns_unique (hinv.calls _ ha) (hinv.calls _ hb)
  · obtain ⟨connection, hn⟩ := hinv.calls _ ha
    exact ⟨connection, hinv.connectionAt hn, fun e he =>
      (step_inv hinv he).connectionAt (step_cache he hn)⟩

/-- Two threads with a transaction each, the second on a connection of its own. -/
def twoThreads : List (Event Nat) :=
  [.start 0 (.insert .registry), .connect 0 7 [], .start 1 (.subscriber true),
    .connect 1 8 [⟨1, 8, 1⟩, ⟨0, 7, 0⟩], .advance 0, .advance 1]

theorem one_open_transaction_each :
    ((twoThreads.foldl step (State.init 0 7)).transactions.map Prod.snd).Nodup := by
  have hmeets : Meets step Enabled (State.init 0 7) twoThreads := by
    refine ⟨rfl, ⟨rfl, fun hnone => absurd hnone (by decide)⟩, rfl, ⟨rfl, fun _ => ⟨?_, .refl _⟩⟩,
      ⟨_, _, rfl, by decide⟩, ⟨_, _, rfl, by decide⟩, trivial⟩
    intro n hn
    obtain rfl : n = ⟨0, 7, 0⟩ := List.mem_singleton.mp hn
    decide
  exact (one_open_transaction 0 7 twoThreads hmeets).1

end TransactionThreads
