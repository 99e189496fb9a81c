import RpiRobot.SqlTables

/-!
# Histories of tables

Some tables of a database never change. In the others rows come and go, and only some of
their columns are updated. What a row has become, which numbers its table gives out again, and
which rows must stay is then a matter of two states, whatever lies between them.
-/

namespace TableHistories

open SqlConditions (Row Value)
open SqlTables
open ListResults (bind_eq_ok)

variable {schema : Schema}

/-- The columns that are updated, for each table that is written at all. -/
abbrev Writable := String → Option (List String)

/-- The same row, but for the columns that are updated. -/
def Same (columns : List String) (r r' : Row) : Prop := ∀ c, c ∉ columns → r' c = r c

lemma Same.trans {columns : List String} {r r' r'' : Row} (h : Same columns r r')
    (h' : Same columns r' r'') : Same columns r r'' :=
  fun c hc => (h' c hc).trans (h c hc)

/-- The id of the row is a number that the sequence has given out in between. -/
def Drawn (name : String) (d d' : Database schema) (r : Row) : Prop :=
  ∃ n, r "id" = .int n ∧ d.serial name ≤ n ∧ n < d'.serial name

/-- A row of a table that never changes refers to the row. -/
def Held (writable : Writable) (d : Database schema) (name : String) (r : Row) : Prop :=
  ∃ t ∈ schema, writable t.name = none ∧ ∃ ref ∈ t.references, ref.table = name ∧
    ∃ s ∈ d.rows t.name, ∃ k, keyOf (s ref.column) = some k ∧ keyOf (r ref.key) = some k

/-- The later state comes of the earlier one by writes that are allowed. -/
structure Descends (writable : Writable) (d d' : Database schema) : Prop where
  serial : ∀ name, d.serial name ≤ d'.serial name
  fixed : ∀ name, writable name = none → d'.rows name = d.rows name
  origin : ∀ name columns, writable name = some columns → ∀ r' ∈ d'.rows name,
    (∃ r ∈ d.rows name, Same columns r r') ∨ Drawn name d d' r'
  stays : ∀ name columns, writable name = some columns → ∀ r ∈ d.rows name,
    Held writable d name r → ∃ r' ∈ d'.rows name, Same columns r r'

/-- What one write does to one table. -/
inductive Write (name : String) (columns : List String) (d d' : Database schema) : Prop where
  | adds (row : Row) (rows : d'.rows = Function.update d.rows name (d.rows name ++ [row]))
      (id : row "id" = .int (d.serial name)) (serial : d'.serial = (d.advance name).serial)
  | removes (p : Row → Bool) (rows : d'.rows = Function.update d.rows name ((d.rows name).filter p))
      (serial : d'.serial = d.serial)
  | changes (f : Row → Row) (rows : d'.rows = Function.update d.rows name ((d.rows name).map f))
      (same : ∀ r, Same columns r (f r)) (serial : d'.serial = d.serial)

/-- No row has changed; a number may have been taken. -/
structure Idle (sequence : String) (d d' : Database schema) : Prop where
  rows : d'.rows = d.rows
  serial : d'.serial = d.serial ∨ d'.serial = (d.advance sequence).serial

/-- A write that is allowed, to one table, or none. A write that fails may have taken a number,
but none of another table that is written. -/
inductive Step (writable : Writable) (name : String) (d d' : Database schema) : Prop where
  | idle (sequence : String) (hown : sequence = name ∨ writable sequence = none)
    (h : Idle sequence d d')
  | writes (columns : List String) (hname : writable name = some columns)
    (h : Write name columns d d')

/-- The table has lost the rows that some condition holds of. -/
structure Removes (name : String) (d d' : Database schema) : Prop where
  rows : ∃ p, d'.rows = Function.update d.rows name ((d.rows name).filter p)
  serial : d'.serial = d.serial

/-- References to the table from tables that never change are to unique columns of it, which are
not updated. -/
def Keyed (schema : Schema) (writable : Writable) (name : String) (columns : List String) : Prop :=
  ∀ t ∈ schema, writable t.name = none → ∀ ref ∈ t.references, ref.table = name →
    ref.key ∉ columns ∧ ∃ own ∈ schema, own.name = name ∧ ref.key ∈ own.unique

variable {writable : Writable} {name : String} {columns : List String}
  {d d' d'' : Database schema}

/-! ## One write -/

lemma serial_advance (d : Database schema) (name other : String) :
    d.serial other ≤ (d.advance name).serial other := by
  by_cases h : other = name
  · subst h
    rw [Database.advance_serial]
    omega
  · exact (Function.update_of_ne h _ d.serial).ge

lemma Idle.refl (sequence : String) (d : Database schema) : Idle sequence d d := ⟨rfl, .inl rfl⟩

lemma Idle.serial_le {sequence : String} (h : Idle sequence d d') (other : String) :
    d.serial other ≤ d'.serial other := by
  rcases h.serial with hsame | hnext
  · exact (congrFun hsame other).ge
  · rw [hnext]
    exact serial_advance d sequence other

lemma advance_of_ne (d : Database schema) {sequence other : String} (hne : other ≠ sequence) :
    (d.advance sequence).serial other = d.serial other := Function.update_of_ne hne _ d.serial

lemma Idle.kept {sequence : String} (h : Idle sequence d d') {other : String}
    (hne : other ≠ sequence) : d'.serial other = d.serial other := by
  rcases h.serial with hsame | hnext
  · exact congrFun hsame other
  · rw [hnext, advance_of_ne d hne]

lemma Idle.descends {sequence : String} (h : Idle sequence d d') : Descends writable d d' where
  serial := h.serial_le
  fixed name _ := by rw [h.rows]
  origin name columns _ r' hr' := .inl ⟨r', h.rows ▸ hr', fun _ _ => rfl⟩
  stays name columns _ r hr _ := ⟨r, h.rows ▸ hr, fun _ _ => rfl⟩

lemma Descends.refl (d : Database schema) : Descends writable d d := (Idle.refl "" d).descends

lemma Write.kept (h : Write name columns d d') {other : String} (hne : other ≠ name) :
    d'.serial other = d.serial other := by
  cases h with
  | adds row rows id serial => rw [serial, advance_of_ne d hne]
  | removes p rows serial => rw [serial]
  | changes f rows same serial => rw [serial]

lemma Write.serial_le (h : Write name columns d d') (other : String) :
    d.serial other ≤ d'.serial other := by
  cases h with
  | adds row rows id serial =>
    rw [serial]
    exact serial_advance d name other
  | removes p rows serial => rw [serial]
  | changes f rows same serial => rw [serial]

lemma Write.rows_of_ne (h : Write name columns d d') {other : String} (hne : other ≠ name) :
    d'.rows other = d.rows other := by
  cases h with
  | adds row rows => rw [rows, Function.update_of_ne hne]
  | removes p rows => rw [rows, Function.update_of_ne hne]
  | changes f rows => rw [rows, Function.update_of_ne hne]

lemma Write.origin (h : Write name columns d d') {r' : Row} (hr' : r' ∈ d'.rows name) :
    (∃ r ∈ d.rows name, Same columns r r') ∨ Drawn name d d' r' := by
  cases h with
  | adds row rows id serial =>
    rw [rows, Function.update_self] at hr'
    rcases List.mem_append.mp hr' with hold | hnew
    · exact .inl ⟨r', hold, fun _ _ => rfl⟩
    · obtain rfl := List.mem_singleton.mp hnew
      refine .inr ⟨_, id, le_refl _, ?_⟩
      rw [serial, Database.advance_serial]
      omega
  | removes p rows serial =>
    rw [rows, Function.update_self] at hr'
    exact .inl ⟨r', List.mem_of_mem_filter hr', fun _ _ => rfl⟩
  | changes f rows same serial =>
    rw [rows, Function.update_self] at hr'
    obtain ⟨r, hr, rfl⟩ := List.mem_map.mp hr'
    exact .inl ⟨r, hr, same r⟩

/-- A row that is referred to is not removed, because nothing else has its key. -/
lemma Write.stays (h : Write name columns d d') (hkeyed : Keyed schema writable name columns)
    (hname : writable name = some columns) {r : Row} (hr : r ∈ d.rows name)
    (hheld : Held writable d name r) : ∃ r' ∈ d'.rows name, Same columns r r' := by
  cases h with
  | adds row rows id serial =>
    refine ⟨r, ?_, fun _ _ => rfl⟩
    rw [rows, Function.update_self]
    exact List.mem_append_left _ hr
  | changes f rows same serial =>
    refine ⟨f r, ?_, same r⟩
    rw [rows, Function.update_self]
    exact List.mem_map_of_mem hr
  | removes p rows serial =>
    obtain ⟨t, ht, hfixed, ref, href, htable, s, hs, k, hsk, hrk⟩ := hheld
    obtain ⟨-, own, hown, hownName, hunique⟩ := hkeyed t ht hfixed ref href htable
    have hne : t.name ≠ name := fun hsame => by rw [hsame, hname] at hfixed; cases hfixed
    have hs' : s ∈ d'.rows t.name := by rwa [rows, Function.update_of_ne hne]
    have hkey := holds_iff.mp ((d'.consistent t ht).referenced ref href s hs') k hsk
    rw [htable, rows, Function.update_self] at hkey
    have hnodup : (keys ref.key (d.rows name)).Nodup :=
      hownName ▸ (d.consistent own hown).unique ref.key hunique
    have hkept := (mem_keys_filter hnodup hr hrk).mp hkey
    refine ⟨r, ?_, fun _ _ => rfl⟩
    rw [rows, Function.update_self]
    exact List.mem_filter.mpr ⟨hr, hkept⟩

theorem Write.descends (h : Write name columns d d') (hname : writable name = some columns)
    (hkeyed : Keyed schema writable name columns) : Descends writable d d' where
  serial := h.serial_le
  fixed other hother := h.rows_of_ne fun hsame => by rw [hsame, hname] at hother; cases hother
  origin other columns' hother r' hr' := by
    by_cases hsame : other = name
    · subst hsame
      obtain rfl := Option.some.inj (hname.symm.trans hother)
      exact h.origin hr'
    · exact .inl ⟨r', h.rows_of_ne hsame ▸ hr', fun _ _ => rfl⟩
  stays other columns' hother r hr hheld := by
    by_cases hsame : other = name
    · subst hsame
      obtain rfl := Option.some.inj (hname.symm.trans hother)
      exact h.stays hkeyed hname hr hheld
    · exact ⟨r, (h.rows_of_ne hsame).symm ▸ hr, fun _ _ => rfl⟩

lemma Step.refl (d : Database schema) : Step writable name d d :=
  .idle name (.inl rfl) (.refl name d)

lemma Step.descends (h : Step writable name d d')
    (hkeyed : ∀ columns, writable name = some columns → Keyed schema writable name columns) :
    Descends writable d d' := by
  cases h with
  | idle sequence hown h => exact h.descends
  | writes columns hname h => exact h.descends hname (hkeyed columns hname)

/-- The other tables keep their rows. -/
lemma Step.frame (h : Step writable name d d') {other : String} (hne : other ≠ name) :
    d'.rows other = d.rows other := by
  cases h with
  | idle sequence hown h => rw [h.rows]
  | writes columns hname h => exact h.rows_of_ne hne

/-- The other tables that are written keep their numbers. -/
lemma Step.kept (h : Step writable name d d') {other : String} (hne : other ≠ name)
    (hwritten : writable other ≠ none) : d'.serial other = d.serial other := by
  cases h with
  | idle sequence hown h =>
    refine h.kept ?_
    rintro rfl
    exact hown.elim hne hwritten
  | writes columns hname h => exact h.kept hne

/-- Numbers that were taken are not given back. -/
lemma Step.rolledBack (h : Step writable name d d') :
    Step writable name d { d with serial := d'.serial } := by
  cases h with
  | idle sequence hown h => exact .idle sequence hown ⟨rfl, h.serial⟩
  | writes columns hname h =>
    refine .idle name (.inl rfl) ⟨rfl, ?_⟩
    cases h with
    | adds row rows id serial => exact .inr serial
    | removes p rows serial => exact .inl serial
    | changes f rows same serial => exact .inl serial

lemma Removes.refl (d : Database schema) : Removes name d d where
  rows := ⟨fun _ => true, by rw [List.filter_true, Function.update_eq_self]⟩
  serial := rfl

lemma Removes.rolledBack (h : Removes name d d') :
    Removes name d { d with serial := d'.serial } where
  rows := (Removes.refl d).rows
  serial := h.serial

lemma Removes.step (h : Removes name d d') (hname : writable name = some columns) :
    Step writable name d d' := by
  obtain ⟨p, hrows⟩ := h.rows
  exact .writes columns hname (.removes p hrows h.serial)

/-! ## Statements -/

section
variable {κ : Type} {env : Env} {moment : Moment} {conds : Conds κ} {t : TableDef}

/-- A column that is not listed is not assigned. -/
lemma lookup_assigned {sets : List (String × SqlStatements.Source)}
    {assigned : List (String × Value)} (h : assignments env moment t sets = .ok assigned)
    {c : String} (hc : c ∉ sets.map Prod.fst) : assigned.lookup c = none := by
  have hnames := assignments_iff.mp h
  induction hnames with
  | nil => rfl
  | cons ha hrest ih =>
    rw [List.map_cons, List.mem_cons, not_or] at hc
    have hne : (c == _) = false := beq_false_of_ne (ha.1 ▸ hc.1)
    rw [List.lookup_cons, hne]
    exact ih (assignments_iff.mpr hrest) hc.2

/-- A refused write leaves the database as it was. -/
lemma changed_state {p : Database schema → Prop} {r : Result}
    {stored : Except SqlError (Database schema)} (hd : p d)
    (h : ∀ after, stored = .ok after → p after) :
    p (changed d r stored).2 := by
  cases stored with
  | error e => exact hd
  | ok after => exact h after rfl

variable (env moment d) in
/-- What an insert does if it adds a row. -/
lemma insert_cases (ht : table schema name = .ok t) (listed : List String)
    (values : List SqlStatements.Source) (returning : List String) :
    Idle name d (SqlTables.insert env moment d name listed values returning).2 ∨
    ∃ assigned, assignments env moment t (listed.zip values) = .ok assigned ∧
      (SqlTables.insert env moment d name listed values returning).2.rows =
        Function.update d.rows name
          (d.rows name ++ [newRow moment t (d.serial name) assigned]) ∧
      (SqlTables.insert env moment d name listed values returning).2.serial =
        (if draws t listed then d.advance name else d).serial := by
  have hdrawn : Idle name d (if draws t listed then d.advance name else d) := by
    split_ifs
    · exact ⟨rfl, .inr rfl⟩
    · exact .refl name d
  unfold SqlTables.insert
  simp only [ht, bind, Except.bind, pure, Except.pure]
  by_cases hshape : listed.length ≠ values.length ∨ ¬ listed.Nodup
  · rw [if_pos hshape]
    exact .inl (.refl name d)
  rw [if_neg hshape]
  cases hassigned : assignments env moment t (listed.zip values) with
  | error e => exact .inl (.refl name d)
  | ok assigned =>
    cases hreturning : returning.mapM (column t) with
    | error e => exact .inl (.refl name d)
    | ok defs =>
      by_cases hfull : draws t listed ∧ DecimalText.intMax < d.serial name
      · simp only [if_pos hfull]
        exact .inl (.refl name d)
      simp only [if_neg hfull]
      cases hstore : store (if draws t listed then d.advance name else d) name
          (d.rows name ++ [newRow moment t (d.serial name) assigned]) with
      | error e => exact .inl hdrawn
      | ok after =>
        obtain ⟨hrows, hserial⟩ := store_eq_ok hstore
        rw [hdrawn.rows] at hrows
        exact .inr ⟨assigned, rfl, hrows, hserial⟩

/-- The listed columns leave the id to the sequence. -/
structure Numbered (t : TableDef) (listed : List String) : Prop where
  draws : draws t listed = true
  unlisted : "id" ∉ listed
  serial : ∃ c, t.column? "id" = some c ∧ c.default = .serial

lemma Numbered.id {listed : List String} (h : Numbered t listed)
    {values : List SqlStatements.Source} {assigned : List (String × Value)}
    (hassigned : assignments env moment t (listed.zip values) = .ok assigned) (n : Int) :
    newRow moment t n assigned "id" = .int n := by
  obtain ⟨c, hc, hserial⟩ := h.serial
  have hzip : "id" ∉ (listed.zip values).map Prod.fst := by
    intro hmem
    obtain ⟨⟨c, v⟩, hpair, rfl⟩ := List.mem_map.mp hmem
    exact h.unlisted (List.of_mem_zip hpair).1
  simp only [newRow, lookup_assigned hassigned hzip, hc, hserial, defaultValue]

variable (env moment d) in
theorem Step.insert (ht : table schema name = .ok t) {listed : List String}
    (hnumbered : Numbered t listed) (hname : writable name = some columns)
    (values : List SqlStatements.Source) (returning : List String) :
    Step writable name d (SqlTables.insert env moment d name listed values returning).2 := by
  rcases insert_cases d env moment ht listed values returning with
    hsame | ⟨assigned, hassigned, hrows, hserial⟩
  · exact .idle name (.inl rfl) hsame
  · rw [if_pos hnumbered.draws] at hserial
    exact .writes columns hname (.adds _ hrows (hnumbered.id hassigned _) hserial)

variable (env moment d) in
/-- A column that has to be listed and is not. -/
lemma insert_incomplete (ht : table schema name = .ok t) (hmem : t ∈ schema) (hown : t.name = name)
    {c : ColumnDef} (hc : c ∈ t.columns) (hcolumn : t.column? c.name = some c)
    (hnull : c.notNull = true) (hdefault : c.default = .null) {listed : List String}
    (hlisted : c.name ∉ listed) (values : List SqlStatements.Source) (returning : List String) :
    Idle name d (SqlTables.insert env moment d name listed values returning).2 := by
  refine (insert_cases d env moment ht listed values returning).resolve_right ?_
  rintro ⟨assigned, hassigned, hrows, -⟩
  have hzip : c.name ∉ (listed.zip values).map Prod.fst := by
    intro hpairs
    obtain ⟨⟨a, v⟩, hpair, ha⟩ := List.mem_map.mp hpairs
    exact hlisted (ha ▸ (List.of_mem_zip hpair).1)
  have hvalue : newRow moment t (d.serial name) assigned c.name = .null := by
    simp only [newRow, lookup_assigned hassigned hzip, hcolumn, hdefault, defaultValue]
  have hnew := present_of_notNull
    (SqlTables.insert env moment d name listed values returning).2.consistent hmem hc
    (r := newRow moment t (d.serial name) assigned)
    (by rw [hrows, hown, Function.update_self]; exact List.mem_append_right _ List.mem_cons_self)
    hnull
  rw [hvalue] at hnew
  exact absurd hnew (by decide)

/-- Other columns keep what they have. -/
lemma same_setColumns {sets : List (String × SqlStatements.Source)}
    {assigned : List (String × Value)} (h : assignments env moment t sets = .ok assigned)
    (hsets : ∀ a ∈ sets, a.1 ∈ columns) (r : Row) : Same columns r (setColumns assigned r) := by
  intro c hc
  have hnone : assigned.lookup c = none := by
    refine lookup_assigned h fun hmem => ?_
    obtain ⟨a, ha, rfl⟩ := List.mem_map.mp hmem
    exact hc (hsets a ha)
  rw [setColumns, hnone, Option.getD_none]

variable (env moment conds d) in
/-- A delete takes rows out of its table or does nothing. -/
theorem Removes.delete (name : String) (cond : κ) :
    Removes name d (exec env moment conds d (.delete name cond)).2 := by
  rw [exec]
  refine changed_state (.refl d) fun after hok => ?_
  obtain ⟨t, ht, hok⟩ := bind_eq_ok.mp hok
  obtain ⟨-, -, hok⟩ := bind_eq_ok.mp hok
  obtain ⟨hrows, hserial⟩ := store_eq_ok hok
  exact ⟨⟨_, hrows⟩, hserial⟩

end

/-! ## Many writes -/

/-- What refers to a row still refers to what the row has become. -/
lemma Held.later (hkeyed : Keyed schema writable name columns) (h : Descends writable d d')
    {r r' : Row} (hsame : Same columns r r') (hheld : Held writable d name r) :
    Held writable d' name r' := by
  obtain ⟨t, ht, hfixed, ref, href, htable, s, hs, k, hsk, hrk⟩ := hheld
  have hkey := hsame ref.key (hkeyed t ht hfixed ref href htable).1
  exact ⟨t, ht, hfixed, ref, href, htable, s, (h.fixed t.name hfixed).symm ▸ hs, k, hsk,
    hkey ▸ hrk⟩

/-- The id is not among the columns that are updated. -/
def IdFixed (writable : Writable) : Prop :=
  ∀ name columns, writable name = some columns → "id" ∉ columns

theorem Descends.trans (hid : IdFixed writable)
    (hkeyed : ∀ name columns, writable name = some columns → Keyed schema writable name columns)
    (h : Descends writable d d') (h' : Descends writable d' d'') : Descends writable d d'' where
  serial name := (h.serial name).trans (h'.serial name)
  fixed name hname := (h'.fixed name hname).trans (h.fixed name hname)
  origin name columns hname r'' hr'' := by
    rcases h'.origin name columns hname r'' hr'' with ⟨r', hr', hsame⟩ | ⟨n, hn, hlow, hhigh⟩
    · rcases h.origin name columns hname r' hr' with ⟨r, hr, hfirst⟩ | ⟨n, hn, hlow, hhigh⟩
      · exact .inl ⟨r, hr, hfirst.trans hsame⟩
      · have hn'' : r'' "id" = .int n := (hsame "id" (hid name columns hname)).trans hn
        exact .inr ⟨n, hn'', hlow, hhigh.trans_le (h'.serial name)⟩
    · exact .inr ⟨n, hn, (h.serial name).trans hlow, hhigh⟩
  stays name columns hname r hr hheld := by
    obtain ⟨r', hr', hsame⟩ := h.stays name columns hname r hr hheld
    have hlater := hheld.later (hkeyed name columns hname) h hsame
    obtain ⟨r'', hr'', hsame'⟩ := h'.stays name columns hname r' hr' hlater
    exact ⟨r'', hr'', hsame.trans hsame'⟩

/-! ## Numbers that have been given out -/

section
variable (h : Descends writable d d') (hname : writable name = some columns) {n : Int}
  (hn : n < d.serial name)
include h hname hn

/-- A row with an old number is the row that had it. -/
lemma Descends.old {r' : Row} (hr' : r' ∈ d'.rows name) (hid : r' "id" = .int n) :
    ∃ r ∈ d.rows name, Same columns r r' := by
  refine (h.origin name columns hname r' hr').resolve_right ?_
  rintro ⟨m, hm, hlow, -⟩
  obtain rfl := SqlConditions.Value.int.inj (hid.symm.trans hm)
  omega

/-- A number that no row has any more is not given out again. -/
lemma Descends.gone (hfixed : "id" ∉ columns) (hnone : ∀ r ∈ d.rows name, r "id" ≠ .int n) :
    ∀ r' ∈ d'.rows name, r' "id" ≠ .int n := by
  intro r' hr' hid
  obtain ⟨r, hr, hsame⟩ := h.old hname hn hr' hid
  exact hnone r hr ((hsame "id" hfixed).symm.trans hid)

end

end TableHistories
