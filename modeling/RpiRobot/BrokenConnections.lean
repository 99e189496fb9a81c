import Mathlib.Logic.Function.Basic
import RpiRobot.EventRuns
import RpiRobot.TransactionThreads

/-!
# The connections that break

`DataSource` constructs a connection for a thread that has none in the cache and never takes
one out of it. A connection that has broken stays broken, so its thread gets it for ever, also
when the database can be reached again. As long as none breaks, the threads of
`TransactionThreads` share such a cache.
-/

namespace BrokenConnections

open EventRuns

/-! ## The data source -/

structure Connection where
  /-- How many were constructed before. -/
  number : Nat
  /-- Set until it breaks. -/
  isOpen : Bool
  deriving DecidableEq, Repr

/-- What the constructor of a connection throws. -/
inductive Failure where
  | brokenConnection
  deriving DecidableEq, Repr

/-- The cache, with what constructing a connection depends on. -/
structure DataSource (T : Type) where
  cache : T → Option Connection
  constructed : Nat
  reachable : Bool

variable {T : Type} [DecidableEq T]

def DataSource.emplace (s : DataSource T) (t : T) : DataSource T :=
  { s with
    cache := Function.update s.cache t (some ⟨s.constructed, true⟩)
    constructed := s.constructed + 1 }

/-- The constructor connects for the thread that calls it. -/
def DataSource.init (main : T) : DataSource T :=
  DataSource.emplace ⟨fun _ => none, 0, true⟩ main

/-- The connection of the calling thread, constructed if there is none. -/
def getConnection (t : T) (s : DataSource T) : Except Failure Connection × DataSource T :=
  match s.cache t with
  | some c => (.ok c, s)
  | none =>
    if s.reachable then (.ok ⟨s.constructed, true⟩, s.emplace t)
    else (.error .brokenConnection, s)

inductive Event (T : Type) where
  | getConnection (t : T)
  /-- The connection of the thread breaks. -/
  | breaks (t : T)
  | reachable (value : Bool)
  deriving DecidableEq, Repr

def Connection.broken (c : Connection) : Connection := { c with isOpen := false }

def step (s : DataSource T) : Event T → DataSource T
  | .getConnection t => (getConnection t s).2
  | .breaks t => { s with cache := Function.update s.cache t ((s.cache t).map Connection.broken) }
  | .reachable value => { s with reachable := value }

def run (main : T) (events : List (Event T)) : DataSource T := events.foldl step (.init main)

/-- A call returns an open connection. -/
def Recovers (t : T) (s : DataSource T) : Prop :=
  ∃ c, (getConnection t s).1 = .ok c ∧ c.isOpen = true

/-- The event leaves the connection of the thread alone, if it has one. -/
def Spares (t : T) (s : DataSource T) (e : Event T) : Prop :=
  e = .breaks t → s.cache t = none

/-! ## One event -/

variable {s : DataSource T} {t : T} {c : Connection}

lemma getConnection_cached (h : s.cache t = some c) : getConnection t s = (.ok c, s) := by
  rw [getConnection, h]

lemma getConnection_new (h : s.cache t = none) (hreach : s.reachable = true) :
    getConnection t s = (.ok ⟨s.constructed, true⟩, s.emplace t) := by
  rw [getConnection, h]
  exact if_pos hreach

/-- A call constructs at most the connection of its thread. -/
lemma getConnection_cases (t : T) (s : DataSource T) :
    (getConnection t s).2 = s ∨ s.cache t = none ∧ (getConnection t s).2 = s.emplace t := by
  cases hcache : s.cache t with
  | some c => exact .inl (by rw [getConnection_cached hcache])
  | none =>
    cases hreach : s.reachable with
    | true => exact .inr ⟨rfl, by rw [getConnection_new hcache hreach]⟩
    | false => exact .inl (by rw [getConnection, hcache, hreach]; rfl)

/-- What an event does to the connection of a thread: it is constructed, it breaks, or it stays
as it is. -/
lemma step_cache (s : DataSource T) (e : Event T) (t : T) :
    (s.cache t = none ∧ ∃ c, (step s e).cache t = some c ∧ c.isOpen = true) ∨
    (e = .breaks t ∧ (step s e).cache t = (s.cache t).map Connection.broken) ∨
    (e ≠ .breaks t ∧ (step s e).cache t = s.cache t) := by
  cases e with
  | getConnection u =>
    rcases getConnection_cases u s with hsame | ⟨hnone, hnew⟩
    · exact .inr (.inr ⟨nofun, congrArg (fun s' => s'.cache t) hsame⟩)
    · have hcache : (step s (.getConnection u)).cache t = (s.emplace u).cache t :=
        congrArg (fun s' => s'.cache t) hnew
      by_cases htu : t = u
      · subst htu
        refine .inl ⟨hnone, ⟨s.constructed, true⟩, ?_, rfl⟩
        rw [hcache]
        exact Function.update_self t _ s.cache
      · refine .inr (.inr ⟨nofun, ?_⟩)
        rw [hcache]
        exact Function.update_of_ne htu _ s.cache
  | breaks u =>
    by_cases htu : t = u
    · subst htu
      exact .inr (.inl ⟨rfl, Function.update_self t _ s.cache⟩)
    · refine .inr (.inr ⟨fun h => htu (Event.breaks.inj h).symm, ?_⟩)
      exact Function.update_of_ne htu _ s.cache
  | reachable value => exact .inr (.inr ⟨nofun, rfl⟩)

/-- The connection of the thread has not broken. -/
def Intact (t : T) (s : DataSource T) : Prop := ∀ c, s.cache t = some c → c.isOpen = true

lemma map_broken (cached : Option Connection) :
    (∀ c, cached.map Connection.broken = some c → c.isOpen = true) ↔ cached = none := by
  cases cached with
  | none => exact iff_of_true nofun rfl
  | some c => exact iff_of_false (fun h => Bool.false_ne_true (h c.broken rfl)) nofun

/-- A connection that has broken stays in the cache. -/
lemma step_intact (s : DataSource T) (e : Event T) :
    Intact t (step s e) ↔ Intact t s ∧ Spares t s e := by
  rcases step_cache s e t with ⟨hnone, c, hc, hopen⟩ | ⟨hbreaks, hcache⟩ | ⟨hother, hcache⟩
  · refine iff_of_true (fun d hd => ?_) ⟨fun d hd => ?_, fun _ => hnone⟩
    · rwa [Option.some.inj (hd.symm.trans hc)]
    · rw [hnone] at hd
      cases hd
  · rw [Intact, hcache, map_broken]
    refine ⟨fun hnone => ⟨fun d hd => ?_, fun _ => hnone⟩, fun h => h.2 hbreaks⟩
    rw [hnone] at hd
    cases hd
  · rw [Intact, hcache]
    exact (and_iff_left fun h => absurd h hother).symm

lemma step_number {n : Nat} (e : Event T) (h : (s.cache t).map Connection.number = some n) :
    ((step s e).cache t).map Connection.number = some n := by
  rcases step_cache s e t with ⟨hnone, -⟩ | ⟨-, hcache⟩ | ⟨-, hcache⟩
  · rw [hnone] at h
    cases h
  · rw [hcache, Option.map_map]
    exact h
  · rw [hcache]
    exact h

/-! ## Histories -/

lemma intact_init (main t : T) : Intact t (.init main) := by
  intro c hc
  by_cases ht : t = main
  · subst ht
    rw [← Option.some.inj ((Function.update_self t _ _).symm.trans hc)]
  · exact absurd ((Function.update_of_ne ht _ _).symm.trans hc) nofun

/-- The connection of a thread is intact just if no event of the history has broken it. -/
lemma intact_run (main t : T) (history : List (Event T)) :
    Intact t (run main history) ↔ Meets step (Spares t) (.init main) history :=
  (iff_meets step_intact history).trans (and_iff_right (intact_init main t))

lemma number_later {n : Nat} (later : List (Event T))
    (h : (s.cache t).map Connection.number = some n) :
    ((later.foldl step s).cache t).map Connection.number = some n := by
  induction later generalizing s with
  | nil => exact h
  | cons e later ih => exact ih (step_number e h)

/-- A call with the database in reach returns a connection, which is then in the cache. -/
lemma getConnection_reachable (t : T) (hreach : s.reachable = true) :
    ∃ c, (getConnection t s).1 = .ok c ∧ (getConnection t s).2.cache t = some c ∧
      (c.isOpen = true ↔ Intact t s) := by
  cases hcache : s.cache t with
  | some c =>
    refine ⟨c, ?_, ?_, fun hopen d hd => ?_, fun hintact => hintact c hcache⟩
    · rw [getConnection_cached hcache]
    · rw [getConnection_cached hcache]
      exact hcache
    · rwa [Option.some.inj (hd.symm.trans hcache)]
  | none =>
    refine ⟨⟨s.constructed, true⟩, ?_, ?_, iff_of_true rfl fun d hd => ?_⟩
    · rw [getConnection_new hcache hreach]
    · rw [getConnection_new hcache hreach]
      exact Function.update_self t _ s.cache
    · rw [hcache] at hd
      cases hd

/-- What a thread gets from a call with the database in reach, and from every later one: a
connection, open just if none of its own has broken, and the same one for ever. -/
theorem returned_for_ever (main t : T) (history : List (Event T))
    (hreach : (run main history).reachable = true) :
    ∃ c, (getConnection t (run main history)).1 = .ok c ∧
      (c.isOpen = true ↔ Meets step (Spares t) (.init main) history) ∧
      ∀ later : List (Event T), ∃ d,
        (getConnection t (later.foldl step (getConnection t (run main history)).2)).1 = .ok d ∧
        d.number = c.number ∧ (c.isOpen = false → d.isOpen = false) := by
  obtain ⟨c, hreturned, hcached, hopen⟩ := getConnection_reachable t hreach
  refine ⟨c, hreturned, hopen.trans (intact_run main t history), fun later => ?_⟩
  have hnumber := number_later later (congrArg (Option.map Connection.number) hcached)
  obtain ⟨d, hd, hdc⟩ := Option.map_eq_some_iff.mp hnumber
  refine ⟨d, by rw [getConnection_cached hd], hdc, fun hclosed => ?_⟩
  have hlost : ¬ Intact t (later.foldl step (getConnection t (run main history)).2) := by
    rw [iff_meets step_intact later]
    exact fun h => Bool.false_ne_true (hclosed.symm.trans (h.1 c hcached))
  exact Bool.eq_false_iff.mpr fun hdopen => hlost fun e he => by
    rwa [Option.some.inj (he.symm.trans hd)]

/-- A thread calls, its connection breaks, and the database goes away and comes back. -/
def outage : List (Event Bool) :=
  [.getConnection true, .breaks true, .reachable false, .reachable true]

theorem returned_for_ever_outage : (run false outage).reachable = true ∧
    ∃ c, (getConnection true (run false outage)).1 = .ok c ∧
      (c.isOpen = true ↔ Meets step (Spares true) (.init false) outage) ∧
      ∀ later : List (Event Bool), ∃ d,
        (getConnection true (later.foldl step (getConnection true (run false outage)).2)).1 =
          .ok d ∧ d.number = c.number ∧ (c.isOpen = false → d.isOpen = false) :=
  ⟨rfl, returned_for_ever false true outage rfl⟩

/-- The thread gets the connection that broke. -/
theorem broken_returned : (run false outage).reachable = true ∧
    (getConnection true (run false outage)).1 = .ok ⟨1, false⟩ ∧
    ¬ Recovers true (run false outage) := by
  refine ⟨rfl, rfl, ?_⟩
  rintro ⟨c, hc, hopen⟩
  cases hc
  cases hopen

/-! ## The threads that share it -/

/-- The cache of the threads, as long as no connection breaks. -/
def dataSource (s : TransactionThreads.State T) : DataSource T where
  cache t := (s.find t).map fun n => ⟨n.connection, true⟩
  constructed := s.constructed
  reachable := true

/-- Only the calls concern the data source. -/
def call : TransactionThreads.Event T → Option (Event T)
  | .connect t _ _ => some (.getConnection t)
  | _ => none

section
open TransactionThreads (State Node Inv Enabled)

variable {s : State T} {address : Nat} {rehashed : List (Node T)}

lemma dataSource_init (main : T) (address : Nat) :
    dataSource (State.init main address) = .init main := by
  refine DataSource.mk.injEq .. |>.mpr ⟨funext fun u => ?_, rfl, rfl⟩
  by_cases hu : u = main
  · subst hu
    simp [State.find, State.init]
  · simp [State.find, State.init, Ne.symm hu, Function.update_of_ne hu]

/-- Wherever the new element is, it is found, and so are those that were there. -/
lemma dataSource_grow (h : Inv s) (hnone : s.find t = none)
    (henabled : Enabled s (.connect t address rehashed)) :
    dataSource { s with cache := rehashed, constructed := s.constructed + 1 } =
      (dataSource s).emplace t := by
  obtain ⟨hfresh, hperm⟩ := henabled.2 hnone
  have hkeys := (TransactionThreads.grow_inv h hnone hfresh hperm).keys
  refine DataSource.mk.injEq .. |>.mpr ⟨funext fun u => ?_, rfl, rfl⟩
  have hfind := TransactionThreads.find?_perm hperm hkeys u
  by_cases hu : u = t
  · subst hu
    simp [State.find, hfind, dataSource]
  · simp [State.find, hfind, dataSource, Ne.symm hu, Function.update_of_ne hu]

/-- A thread gets what the data source gives it, and leaves what the data source becomes. -/
lemma dataSource_getConnection (h : Inv s) (henabled : Enabled s (.connect t address rehashed)) :
    dataSource (TransactionThreads.getConnection t address rehashed s) =
      (getConnection t (dataSource s)).2 := by
  cases hfind : s.find t with
  | some n =>
    have hcached : (dataSource s).cache t = some ⟨n.connection, true⟩ := by
      simp [dataSource, hfind]
    rw [getConnection_cached hcached, TransactionThreads.getConnection, hfind]
    rfl
  | none =>
    have hnew : (dataSource s).cache t = none := by simp [dataSource, hfind]
    rw [getConnection_new hnew rfl, ← dataSource_grow h hfind henabled,
      TransactionThreads.getConnection, hfind]
    rfl

lemma dataSource_step {e : TransactionThreads.Event T} (h : Inv s) (henabled : Enabled s e) :
    dataSource (TransactionThreads.step s e) = (call e).toList.foldl step (dataSource s) := by
  cases e with
  | start t operation | throw_ t => rfl
  | advance t =>
    rw [TransactionThreads.step, TransactionThreads.advance]
    split <;> rfl
  | connect t address rehashed => exact dataSource_getConnection h henabled

/-- What the threads do to the data source is a history of calls. -/
theorem dataSource_run (main : T) (address : Nat) {events : List (TransactionThreads.Event T)}
    (h : Meets TransactionThreads.step Enabled (State.init main address) events) :
    dataSource (events.foldl TransactionThreads.step (State.init main address)) =
      run main (events.filterMap call) := by
  rw [run, ← dataSource_init main address]
  generalize hs : State.init main address = s at h
  have hinv : Inv s := hs ▸ TransactionThreads.init_inv main address
  clear hs
  induction events generalizing s with
  | nil => rfl
  | cons e events ih =>
    obtain ⟨he, hrest⟩ := h
    rw [List.foldl_cons, ih _ hrest (TransactionThreads.step_inv hinv he), dataSource_step hinv he]
    cases hcall : call e with
    | none => rw [List.filterMap_cons_none hcall]; rfl
    | some e' => rw [List.filterMap_cons_some hcall]; rfl

/-- What a thread has got is at the connection that another call would return. -/
theorem dataSource_calls (main : T) (address : Nat)
    {events : List (TransactionThreads.Event T)}
    (h : Meets TransactionThreads.step Enabled (State.init main address) events)
    {u : T} {a : Nat}
    (hcall : (u, a) ∈ (events.foldl TransactionThreads.step (State.init main address)).calls) :
    ∃ n, (events.foldl TransactionThreads.step (State.init main address)).connectionAt a =
        some n ∧ (getConnection u (run main (events.filterMap call))).1 = .ok ⟨n, true⟩ := by
  have hinv := TransactionThreads.run_inv main address h
  obtain ⟨n, hn⟩ := hinv.calls _ hcall
  have hfind : State.find _ u = some ⟨u, a, n⟩ := TransactionThreads.find?_eq_of_nodup hinv.keys hn
  refine ⟨n, hinv.connectionAt hn, ?_⟩
  rw [← dataSource_run main address h, getConnection_cached (congrArg (Option.map _) hfind)]

end

end BrokenConnections
