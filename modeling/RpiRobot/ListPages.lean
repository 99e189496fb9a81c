import Mathlib.Data.List.Basic

/-!
# Deletes on the list pages

The three list pages delete a row in two halves: the click captures the row's id
and its index and sends the request, and the handler of the success response
splices that index out of a copy of the list of the last render, which a ref
holds, and makes the copy the list of the next render. Clicks, responses and
renders interleave freely and responses come in any order.
-/

namespace ListPages

/-- What the closure of a click holds until its response arrives. -/
structure Removal where
  url : String
  id : Int
  rowIndex : Nat
  deriving DecidableEq, Repr

/-- `list` is the value of the state hook, which the next render shows; `current` is
what the ref holds, the list shown since the last render. -/
structure Page (Row : Type) where
  list : List Row
  current : List Row
  sent : List Removal
  waiting : List Removal
  deriving DecidableEq, Repr

def Page.start {Row : Type} (initial : List Row) : Page Row := ⟨initial, initial, [], []⟩

inductive Event where
  | click (rowIndex : Nat)
  | success (k : Nat)
  | render
  deriving DecidableEq, Repr

inductive ListPage where
  | devices
  | registries
  | telemetry
  deriving DecidableEq, Repr

/-- `splice(start, 1)` removes nothing from a list that ends before `start`. -/
def splice {Row : Type} (list : List Row) (start : Nat) : List Row := list.eraseIdx start

def remove (resource : String) (id : Int) : String := resource ++ "?id=" ++ toString id

section
variable {Row : Type} (id : Row → Int)

/-- A click next to no row throws before it sends anything. -/
def deleteRow (resource : String) (rowIndex : Nat) (s : Page Row) : Page Row :=
  match s.current[rowIndex]? with
  | some row =>
    let removal := ⟨remove resource (id row), id row, rowIndex⟩
    { s with sent := s.sent ++ [removal], waiting := s.waiting ++ [removal] }
  | none => s

def deleteDevice (rowIndex : Nat) (s : Page Row) : Page Row :=
  deleteRow id "/devices" rowIndex s

def deleteRegistry (rowIndex : Nat) (s : Page Row) : Page Row :=
  deleteRow id "/registries" rowIndex s

def deleteTelemetry (rowIndex : Nat) (s : Page Row) : Page Row :=
  deleteRow id "/devices-telemetry" rowIndex s

def ListPage.delete : ListPage → Nat → Page Row → Page Row
  | .devices => deleteDevice id
  | .registries => deleteRegistry id
  | .telemetry => deleteTelemetry id

/-- The success response of the `k`-th request still on its way. Setting the state
hook changes what the next render shows, not the ref. -/
def succeed (k : Nat) (s : Page Row) : Page Row :=
  match s.waiting[k]? with
  | some removal =>
    { s with list := splice s.current removal.rowIndex, waiting := s.waiting.eraseIdx k }
  | none => s

/-- The body of the page component assigns the ref. -/
def render (s : Page Row) : Page Row := { s with current := s.list }

def step (page : ListPage) (s : Page Row) : Event → Page Row
  | .click rowIndex => page.delete id rowIndex s
  | .success k => succeed k s
  | .render => render s

def run (page : ListPage) (s : Page Row) (events : List Event) : Page Row :=
  events.foldl (step id page) s

/-- Among the rows shown, the one at the captured index and no other is the captured
row or a row that the list of the next render lacks. -/
def Removal.Fits (removal : Removal) (s : Page Row) : Prop :=
  ∀ (j : Nat) (row : Row), s.current[j]? = some row →
    (j = removal.rowIndex ↔ id row = removal.id ∨ id row ∉ s.list.map id)

def Fits (s : Page Row) : Event → Prop
  | .click _ => True
  | .success k => ∀ removal, s.waiting[k]? = some removal → removal.Fits id s
  | .render => True

def ResponsesFit (page : ListPage) (s : Page Row) : List Event → Prop
  | [] => True
  | e :: events => Fits id s e ∧ ResponsesFit page (step id page s e) events

/-- The rows whose ids are not among the given ones. -/
def without (ids : List Int) (list : List Row) : List Row :=
  list.filter (fun row => !ids.contains (id row))

/-- The list to be shown lacks exactly the rows of some answered requests, the list
shown those of some of them, and every request is answered or waiting. -/
def Accounted (initial : List Row) (s : Page Row) : Prop :=
  ∃ answered rendered : List Int, rendered ⊆ answered ∧
    s.list = without id answered initial ∧ s.current = without id rendered initial ∧
    ∀ n, n ∈ s.sent.map Removal.id ↔ n ∈ answered ∨ n ∈ s.waiting.map Removal.id

omit id in
/-- Erasing an index is a filter when the row there is the one that fails it. -/
lemma eraseIdx_eq_filter {p : Row → Bool} {list : List Row} {k : Nat}
    (h : ∀ j row, list[j]? = some row → (j = k ↔ p row = false)) :
    list.eraseIdx k = list.filter p := by
  induction list generalizing k with
  | nil => rfl
  | cons row list ih =>
    cases k with
    | zero =>
      have hrow : p row = false := (h 0 row rfl).mp rfl
      have hrest : ∀ other ∈ list, p other = true := by
        intro other hother
        obtain ⟨j, hj⟩ := List.mem_iff_getElem?.mp hother
        have hne := (not_congr (h (j + 1) other hj)).mp (Nat.succ_ne_zero j)
        simpa using hne
      rw [List.eraseIdx_cons_zero, List.filter_cons_of_neg (by simp [hrow]),
        List.filter_eq_self.mpr hrest]
    | succ k =>
      have hrow : p row = true := by
        have hne := (not_congr (h 0 row rfl)).mp (Nat.succ_ne_zero k).symm
        simpa using hne
      have hrest : ∀ j other, list[j]? = some other → (j = k ↔ p other = false) :=
        fun j other hj => (Nat.succ_inj.symm).trans (h (j + 1) other hj)
      rw [List.eraseIdx_cons_succ, List.filter_cons_of_pos hrow, ih hrest]

lemma mem_ids_without {ids : List Int} {initial : List Row} {row : Row} (h : row ∈ initial) :
    id row ∈ (without id ids initial).map id ↔ id row ∉ ids := by
  constructor
  · intro hmem
    obtain ⟨other, hother, heq⟩ := List.mem_map.mp hmem
    rw [← heq]
    simpa using (List.mem_filter.mp hother).2
  · intro hnot
    exact List.mem_map_of_mem (List.mem_filter.mpr ⟨h, by simpa using hnot⟩)

/-- A response that fits takes the captured row out of the list to be shown, and
keeps out what is out already. -/
lemma splice_of_fits {initial : List Row} {s : Page Row} {answered rendered : List Int}
    (hsub : rendered ⊆ answered) (hlist : s.list = without id answered initial)
    (hcurrent : s.current = without id rendered initial) {removal : Removal}
    (fits : removal.Fits id s) :
    splice s.current removal.rowIndex = without id (answered ++ [removal.id]) initial := by
  have herase : splice s.current removal.rowIndex =
      s.current.filter (fun row => !decide (id row = removal.id ∨ id row ∉ s.list.map id)) := by
    refine eraseIdx_eq_filter fun j row hj => (fits j row hj).trans ?_
    rw [Bool.not_eq_false', decide_eq_true_eq]
  rw [herase, hcurrent, hlist]
  change List.filter _ (List.filter _ initial) = List.filter _ initial
  rw [List.filter_filter]
  refine List.filter_congr fun row hrow => ?_
  rw [Bool.eq_iff_iff]
  simp only [mem_ids_without id hrow, Bool.and_eq_true, Bool.not_eq_true', decide_eq_false_iff_not,
    List.contains_eq_mem, List.mem_append, List.mem_singleton, not_or, not_not]
  exact ⟨fun ⟨⟨hne, hans⟩, _⟩ => ⟨hans, hne⟩,
    fun ⟨hans, hne⟩ => ⟨⟨hne, hans⟩, fun hmem => hans (hsub hmem)⟩⟩

lemma mem_map_eraseIdx {removals : List Removal} {k : Nat} {removal : Removal}
    (hk : removals[k]? = some removal) (n : Int) :
    n ∈ removals.map Removal.id ↔
      n = removal.id ∨ n ∈ (removals.eraseIdx k).map Removal.id := by
  induction removals generalizing k with
  | nil => exact absurd hk (by simp)
  | cons first rest ih =>
    cases k with
    | zero =>
      have hfirst : first = removal := by simpa using hk
      rw [List.eraseIdx_cons_zero, List.map_cons, List.mem_cons, hfirst]
    | succ k =>
      have hk' : rest[k]? = some removal := by simpa using hk
      rw [List.eraseIdx_cons_succ, List.map_cons, List.map_cons, List.mem_cons, List.mem_cons,
        ih hk', or_left_comm]

lemma accounted_deleteRow (resource : String) (initial : List Row) (rowIndex : Nat)
    (s : Page Row) (h : Accounted id initial s) :
    Accounted id initial (deleteRow id resource rowIndex s) := by
  obtain ⟨answered, rendered, hsub, hlist, hcurrent, hsent⟩ := h
  rw [deleteRow]
  split
  · refine ⟨answered, rendered, hsub, hlist, hcurrent, fun n => ?_⟩
    simp only [List.map_append, List.mem_append, hsent, or_assoc]
  · exact ⟨answered, rendered, hsub, hlist, hcurrent, hsent⟩

lemma accounted_succeed {initial : List Row} {k : Nat} {s : Page Row}
    (h : Accounted id initial s) (fits : Fits id s (.success k)) :
    Accounted id initial (succeed k s) := by
  obtain ⟨answered, rendered, hsub, hlist, hcurrent, hsent⟩ := h
  rw [succeed]
  split
  case h_1 removal hk =>
    refine ⟨answered ++ [removal.id], rendered, List.subset_append_of_subset_left _ hsub,
      splice_of_fits id hsub hlist hcurrent (fits removal hk), hcurrent, fun n => ?_⟩
    rw [hsent, mem_map_eraseIdx hk, List.mem_append, List.mem_singleton, or_assoc]
  case h_2 => exact ⟨answered, rendered, hsub, hlist, hcurrent, hsent⟩

lemma accounted_render {initial : List Row} {s : Page Row} (h : Accounted id initial s) :
    Accounted id initial (render s) := by
  obtain ⟨answered, _, _, hlist, _, hsent⟩ := h
  exact ⟨answered, answered, List.Subset.refl _, hlist, hlist, hsent⟩

lemma accounted_step (page : ListPage) {initial : List Row} {s : Page Row}
    (h : Accounted id initial s) {e : Event} (fits : Fits id s e) :
    Accounted id initial (step id page s e) := by
  cases e with
  | click rowIndex =>
    cases page with
    | devices => exact accounted_deleteRow id "/devices" initial rowIndex s h
    | registries => exact accounted_deleteRow id "/registries" initial rowIndex s h
    | telemetry => exact accounted_deleteRow id "/devices-telemetry" initial rowIndex s h
  | success k => exact accounted_succeed id h fits
  | render => exact accounted_render id h

theorem accounted_run (page : ListPage) {initial : List Row} {s : Page Row}
    (h : Accounted id initial s) {events : List Event} (fits : ResponsesFit id page s events) :
    Accounted id initial (run id page s events) := by
  induction events generalizing s with
  | nil => exact h
  | cons e events ih => exact ih (accounted_step id page h fits.1) fits.2

lemma accounted_start (initial : List Row) : Accounted id initial (.start initial) := by
  have hstart : initial = without id [] initial := by simp [without]
  exact ⟨[], [], List.Subset.refl _, hstart, hstart, fun n => by simp [Page.start]⟩

/-- Once every response is in and the page has rendered, it shows the initial list
without the rows asked to be deleted, provided each response found its index
fitting. -/
theorem list_after_responses (page : ListPage) (initial : List Row) (events : List Event)
    (fits : ResponsesFit id page (.start initial) events)
    (arrived : (run id page (.start initial) events).waiting = []) :
    (render (run id page (.start initial) events)).current =
      without id ((run id page (.start initial) events).sent.map Removal.id) initial := by
  obtain ⟨answered, rendered, _, hlist, _, hsent⟩ :=
    accounted_run id page (accounted_start id initial) fits
  refine hlist.trans (List.filter_congr fun row _ => ?_)
  have hrow := hsent (id row)
  rw [arrived, List.map_nil] at hrow
  rw [Bool.eq_iff_iff, Bool.not_eq_true', Bool.not_eq_true', ← Bool.not_eq_true,
    ← Bool.not_eq_true, List.contains_iff_mem, List.contains_iff_mem, hrow]
  simp

end

theorem list_after_responses_in_order :
    (render (run (fun n : Int => n) .devices (.start [1, 2, 3])
      [.click 2, .click 0, .success 0, .render, .success 0])).current = [2] := by
  have fits : ResponsesFit (fun n : Int => n) .devices (.start [1, 2, 3])
      [.click 2, .click 0, .success 0, .render, .success 0] := by
    refine ⟨trivial, trivial, ?_, trivial, ?_, trivial⟩
    · intro removal h j row hj
      obtain rfl := Option.some.inj h
      have hj : [1, 2, 3][j]? = some row := hj
      rcases j with _ | _ | _ | j
      · obtain rfl := Option.some.inj hj; decide
      · obtain rfl := Option.some.inj hj; decide
      · obtain rfl := Option.some.inj hj; decide
      · exact absurd hj (by simp)
    · intro removal h j row hj
      obtain rfl := Option.some.inj h
      have hj : [1, 2][j]? = some row := hj
      rcases j with _ | _ | j
      · obtain rfl := Option.some.inj hj; decide
      · obtain rfl := Option.some.inj hj; decide
      · exact absurd hj (by simp)
  exact (list_after_responses (fun n : Int => n) .devices [1, 2, 3] _ fits rfl).trans rfl

/-- Two clicks in flight, answered in the order of the clicks with a render after each:
the second index has moved, and the row that was never clicked is removed instead. -/
theorem list_after_responses_shifted :
    ¬ ∀ (page : ListPage) (initial : List Int) (events : List Event), initial.Nodup →
      (run (fun n : Int => n) page (.start initial) events).waiting = [] →
      (render (run (fun n : Int => n) page (.start initial) events)).current =
        without (fun n : Int => n)
          ((run (fun n : Int => n) page (.start initial) events).sent.map Removal.id) initial := by
  intro h
  have hlist := h .devices [1, 2, 3] [.click 0, .click 1, .success 0, .render, .success 0]
    (by decide) rfl
  exact absurd hlist (by decide)

/-- Two responses between the same renders: the second overwrites the list of the
first, and the row deleted first is shown again. -/
example : (render (run (fun n : Int => n) .devices (.start [1, 2, 3])
    [.click 2, .click 0, .success 0, .success 0])).current = [2, 3] := by decide

end ListPages
