import RpiRobot.StatementTemplates

/-!
# Data inside literals

Each string that a statement carries stays inside its literal, whole, exactly when it
contains no quote, because nothing escapes it. A NUL in such a string cuts the text, and
then the server reads no statement at all.
-/

namespace LiteralIntegrity

open SqlTokens (Token Lexes)
open SqlBuilder SqlTables SqlServers BuilderStatements
open StringLiterals StatementTemplates
open RequestParams DomainObjects FilterConditions Repositories RepositoryStatements

/-! Integrity. -/

section
variable {runtime : Runtime}

/-- The text has one literal at the place of each string, with the string as its content. -/
def Integral (runtime : Runtime) (s : Carrier) : Prop :=
  match s.template runtime with
  | none => s.data runtime = []
  | some t => (s.model runtime).str = textOf t ∧ t.values = s.data runtime ∧
      Lexes (s.model runtime).str.toList t.expected

/-- Statements that differ only in their strings. -/
inductive Alike : Carrier → Carrier → Prop where
  | page (o : Owner) (p : PageRequest) {params params' : Params}
      (same : (entries params).map Prod.fst = (entries params').map Prod.fst) :
      Alike (.page o params p) (.page o params' p)
  | count (o : Owner) {params params' : Params}
      (same : (entries params).map Prod.fst = (entries params').map Prod.fst) :
      Alike (.count o params) (.count o params')
  | delete (o : Owner) {params params' : Params}
      (same : (entries params).map Prod.fst = (entries params').map Prod.fst) :
      Alike (.delete o params) (.delete o params')
  | registryInsert (m m' : RegistryDo) : Alike (.registryInsert m) (.registryInsert m')
  | deviceInsert (m m' : DeviceDo) : Alike (.deviceInsert m) (.deviceInsert m')
  | telemetryInsert {m m' : DeviceTelemetryDo} (device : m.deviceId = m'.deviceId) :
      Alike (.telemetryInsert m) (.telemetryInsert m')
  | registryUpdate {m m' : RegistryDo} (id : m.id = m'.id) (status : m.status = m'.status) :
      Alike (.registryUpdate m) (.registryUpdate m')
  | deviceUpdate {m m' : DeviceDo} (id : m.id = m'.id) (status : m.status = m'.status) :
      Alike (.deviceUpdate m) (.deviceUpdate m')

lemma clauseTemplate_none {head tail : String} {tokens : List Token} {es : List (String × String)}
    (h : clauseTemplate head tail tokens es = none) : es = [] := by
  cases es with
  | nil => rfl
  | cons e rest => exact absurd h (by simp [clauseTemplate])

/-- Without a template there are no strings. -/
lemma data_of_no_template {s : Carrier} (h : s.template runtime = none) : s.data runtime = [] := by
  cases s with
  | page o params p => exact congrArg (List.map Prod.snd) (clauseTemplate_none h)
  | count o params => exact congrArg (List.map Prod.snd) (clauseTemplate_none h)
  | delete o params => exact congrArg (List.map Prod.snd) (clauseTemplate_none h)
  | registryInsert m => exact absurd h (by simp [Carrier.template])
  | deviceInsert m => exact absurd h (by simp [Carrier.template])
  | telemetryInsert m => exact absurd h (by simp [Carrier.template])
  | registryUpdate m => exact absurd h (by simp [Carrier.template])
  | deviceUpdate m => exact absurd h (by simp [Carrier.template])

lemma integral_iff (s : Carrier) :
    Integral runtime s ↔ ∀ v ∈ s.data runtime, QuoteFree v.toList := by
  rw [Integral]
  cases ht : s.template runtime with
  | none =>
    have hdata := data_of_no_template ht
    simp [hdata]
  | some t =>
    obtain ⟨htext, hvalues, wf⟩ := s.template_spec ht
    have hiff := template_lexes_iff t wf
    rw [hvalues] at hiff
    have hlexes : Lexes (s.model runtime).str.toList t.expected ↔ Lexes t.render t.expected := by
      rw [htext, toList_textOf]
    exact ⟨fun h => hiff.mp (hlexes.mp h.2.2),
      fun h => ⟨htext, hvalues, hlexes.mpr (hiff.mpr h)⟩⟩

lemma clauseParts_skeleton (tail : String) (tokens : List Token) {es es' : List (String × String)}
    (same : es.map Prod.fst = es'.map Prod.fst) (value value' : String) :
    (clauseParts tail tokens value es).map (fun p => (p.after, p.tokens)) =
      (clauseParts tail tokens value' es').map (fun p => (p.after, p.tokens)) := by
  induction es generalizing es' value value' with
  | nil =>
    rw [List.map_nil] at same
    rw [List.map_eq_nil_iff.mp same.symm]
    rfl
  | cons e es ih =>
    cases es' with
    | nil => exact absurd same (by simp)
    | cons e' es' =>
      rw [List.map_cons, List.map_cons, List.cons.injEq] at same
      rw [clauseParts, clauseParts, List.map_cons, List.map_cons, same.1,
        ih same.2 e.2 e'.2]

lemma clauseTemplate_skeleton (head tail : String) (tokens : List Token)
    {es es' : List (String × String)} (same : es.map Prod.fst = es'.map Prod.fst) :
    (clauseTemplate head tail tokens es).map Template.skeleton =
      (clauseTemplate head tail tokens es').map Template.skeleton := by
  cases es with
  | nil =>
    rw [List.map_nil] at same
    rw [List.map_eq_nil_iff.mp same.symm]
  | cons e es =>
    cases es' with
    | nil => exact absurd same (by simp)
    | cons e' es' =>
      rw [List.map_cons, List.map_cons, List.cons.injEq] at same
      simp only [clauseTemplate, Option.map_some, Template.skeleton, same.1,
        clauseParts_skeleton tail tokens same.2 e.2 e'.2]

variable (runtime) in
lemma skeleton_of_alike {s u : Carrier} (h : Alike s u) :
    (s.template runtime).map Template.skeleton = (u.template runtime).map Template.skeleton := by
  cases h with
  | page o p same => exact clauseTemplate_skeleton _ _ _ same
  | count o same => exact clauseTemplate_skeleton _ _ _ same
  | delete o same => exact clauseTemplate_skeleton _ _ _ same
  | registryInsert m m' => rfl
  | deviceInsert m m' => rfl
  | telemetryInsert device => simp only [Carrier.template, device]; rfl
  | registryUpdate id status => simp only [Carrier.template, id, status]; rfl
  | deviceUpdate id status => simp only [Carrier.template, id, status]; rfl

/-- Without strings, statements that are alike have the same text. -/
lemma text_of_alike {s u : Carrier} (h : Alike s u) (hs : s.template runtime = none)
    (hu : u.template runtime = none) : (s.model runtime).str = (u.model runtime).str := by
  have plain : ∀ {params params' : Params}, entries params = [] → entries params' = [] →
      texts (HttpRequestParams.filterOf params) = texts (HttpRequestParams.filterOf params') := by
    intro params params' he he'
    rw [texts_filterOf, texts_filterOf, he, he']
  cases h with
  | page o p same =>
    have htexts := plain (clauseTemplate_none hs) (clauseTemplate_none hu)
    exact (page_text o _ p).trans (by rw [htexts]; exact (page_text o _ p).symm)
  | count o same =>
    have htexts := plain (clauseTemplate_none hs) (clauseTemplate_none hu)
    exact (count_text o _).trans (by rw [htexts]; exact (count_text o _).symm)
  | delete o same =>
    have htexts := plain (clauseTemplate_none hs) (clauseTemplate_none hu)
    exact (delete_text o _).trans (by rw [htexts]; exact (delete_text o _).symm)
  | registryInsert m m' => exact absurd hs (by simp [Carrier.template])
  | deviceInsert m m' => exact absurd hs (by simp [Carrier.template])
  | telemetryInsert device => exact absurd hs (by simp [Carrier.template])
  | registryUpdate id status => exact absurd hs (by simp [Carrier.template])
  | deviceUpdate id status => exact absurd hs (by simp [Carrier.template])

/-- Statements that differ only in their strings have the same tokens outside the literals. -/
lemma outside_of_alike {s u : Carrier} (h : Alike s u) (hs : Integral runtime s)
    (hu : Integral runtime u) :
    (SqlTokens.lex (s.model runtime).str).map outside =
      (SqlTokens.lex (u.model runtime).str).map outside := by
  have hskeleton := skeleton_of_alike runtime h
  rw [Integral] at hs hu
  cases ht : s.template runtime with
  | none =>
    cases ht' : u.template runtime with
    | none => rw [text_of_alike h ht ht']
    | some t' => exact absurd hskeleton (by simp [ht, ht'])
  | some t =>
    cases ht' : u.template runtime with
    | none => exact absurd hskeleton (by simp [ht, ht'])
    | some t' =>
      rw [ht, ht', Option.map_some, Option.map_some, Option.some.injEq] at hskeleton
      rw [ht] at hs
      rw [ht'] at hu
      have hlex : SqlTokens.lex (s.model runtime).str = some t.expected := hs.2.2
      have hlex' : SqlTokens.lex (u.model runtime).str = some t'.expected := hu.2.2
      rw [hlex, hlex', Option.map_some, Option.map_some, outside_expected t t' hskeleton]

end

/-- Which statements keep their strings inside literals. -/
theorem literal_integrity_iff (runtime : Runtime) :
    (∀ s : Carrier, Integral runtime s ↔ ∀ v ∈ s.data runtime, QuoteFree v.toList) ∧
    ∀ s u : Carrier, Alike s u → Integral runtime s → Integral runtime u →
      (SqlTokens.lex (s.model runtime).str).map outside =
        (SqlTokens.lex (u.model runtime).str).map outside :=
  ⟨integral_iff, fun _ _ => outside_of_alike⟩

def countNamed (name : String) : Carrier := .count .registry [("name", name)]

theorem literal_integrity_named :
    (SqlTokens.lex ((countNamed "home").model shippedRuntime).str).map outside =
      (SqlTokens.lex ((countNamed "garage").model shippedRuntime).str).map outside := by
  obtain ⟨hintegral, houtside⟩ := literal_integrity_iff shippedRuntime
  exact houtside _ _ (.count .registry rfl) ((hintegral _).mpr (by decide))
    ((hintegral _).mpr (by decide))

/-- A quote in a name ends its literal: the rest of the name is read as SQL. -/
theorem name_escapes_literal :
    ¬ Integral shippedRuntime (countNamed "x' or name <> '") ∧
    SqlTokens.lex ((countNamed "x' or name <> '").model shippedRuntime).str =
      some (tokensOf "select COUNT(id) from registry where name =" ++
        [.str "x", .word "or", .word "name", .sym "<>", .str ""]) ∧
    (SqlTokens.lex ((countNamed "x' or name <> '").model shippedRuntime).str).map outside ≠
      (SqlTokens.lex ((countNamed "home").model shippedRuntime).str).map outside := by
  refine ⟨fun h => ?_, by decide, by decide⟩
  exact absurd ((integral_iff _).mp h) (by decide)

/-! Strings with a NUL. -/

section
variable {env : Env} {runtime : Runtime} {moment : Moment} {d : Database RegistrySchema.schema}

def isNul (c : Char) : Bool := decide (c = '\x00')

/-- Only the strings of a statement can hold a NUL. -/
def NulOutside (t : Template) : Prop :=
  '\x00' ∉ t.before ∧ ∀ p ∈ t.parts, '\x00' ∉ p.after

lemma clauseParts_nul {tail : String} (ht : NulFree tail) {tokens : List Token} (value : String)
    {rest : List (String × String)} (hn : ∀ e ∈ rest, NulFree e.1) :
    ∀ p ∈ clauseParts tail tokens value rest, '\x00' ∉ p.after := by
  induction rest generalizing value with
  | nil => exact List.forall_mem_singleton.mpr ht
  | cons e rest ih =>
    rw [List.forall_mem_cons] at hn
    have hafter : NulFree (" and " ++ (e.1 ++ " = ")) :=
      NulFree.append (by decide) (hn.1.append (by decide))
    exact List.forall_mem_cons.mpr ⟨hafter, ih e.2 hn.2⟩

lemma entries_nulFree (params : Params) : ∀ e ∈ entries params, NulFree e.1 := by
  intro e h
  obtain ⟨key, hkey, he⟩ := List.mem_filterMap.mp h
  obtain ⟨value, _, rfl⟩ := Option.map_eq_some_iff.mp he
  have hnames : ∀ k ∈ ["name", "id", "device_id", "registry_id"], NulFree k := by decide
  exact hnames key hkey

lemma clauseTemplate_nul {head tail : String} {tokens : List Token} {params : Params} {t : Template}
    (h : clauseTemplate head tail tokens (entries params) = some t) (hhead : NulFree head)
    (ht : NulFree tail) : NulOutside t := by
  have hn := entries_nulFree params
  cases he : entries params with
  | nil => exact absurd h (by simp [he, clauseTemplate])
  | cons e rest =>
    rw [he] at h hn
    obtain rfl := Option.some.inj h
    rw [List.forall_mem_cons] at hn
    exact ⟨hhead.append (NulFree.append (by decide) (hn.1.append (by decide))),
      clauseParts_nul ht e.2 hn.2⟩

lemma numbered_nulFree {a b : String} (ha : NulFree a) (hb : NulFree b) (n : Int) :
    NulFree (a ++ (toString n ++ b)) := ha.append ((nulFree_int n).append hb)

lemma idTail_nulFree (id : Int) : NulFree (Carrier.idTail id) :=
  NulFree.append (by decide) (nulFree_int id)

lemma named_nul {table name json : String} (ht : NulFree table) :
    NulOutside (Carrier.namedInsert table name json) := by
  have hbefore : NulFree ("insert into " ++ (table ++
      "(name, json_data, uuid, updated_at) values(")) :=
    NulFree.append (by decide) (ht.append (by decide))
  have hcomma : NulFree ", " := by decide
  have hafter : NulFree ", gen_random_uuid(), now()) returning id" := by decide
  exact ⟨hbefore, List.forall_mem_cons.mpr ⟨hcomma, List.forall_mem_singleton.mpr hafter⟩⟩

lemma template_nul {s : Carrier} {t : Template} (h : s.template runtime = some t) :
    NulOutside t := by
  cases s with
  | page o params p =>
    have hordering : NulFree o.ordering := by cases o <;> decide
    have hoffset : NulFree (" offset " ++ toString p.offset) :=
      NulFree.append (by decide) (nulFree_int p.offset)
    exact clauseTemplate_nul h (by cases o <;> decide)
      (hordering.append ((nulFree_int p.size).append hoffset))
  | count o params => exact clauseTemplate_nul h (by cases o <;> decide) (by decide)
  | delete o params => exact clauseTemplate_nul h (by cases o <;> decide) (by decide)
  | registryInsert m =>
    obtain rfl := Option.some.inj h
    exact named_nul (by decide)
  | deviceInsert m =>
    obtain rfl := Option.some.inj h
    exact named_nul (by decide)
  | telemetryInsert m =>
    obtain rfl := Option.some.inj h
    have hreturning : NulFree ") returning id" := by decide
    exact ⟨numbered_nulFree (by decide) (by decide) _, List.forall_mem_singleton.mpr hreturning⟩
  | registryUpdate m =>
    obtain rfl := Option.some.inj h
    have hbefore : NulFree "update registry set name = " := by decide
    exact ⟨hbefore, List.forall_mem_cons.mpr ⟨numbered_nulFree (by decide) (by decide) m.status,
      List.forall_mem_singleton.mpr (idTail_nulFree m.id)⟩⟩
  | deviceUpdate m =>
    obtain rfl := Option.some.inj h
    have hbefore : NulFree "update device set name = " := by decide
    have hcreated : NulFree ", createdAt = " := by decide
    have hjson : NulFree ", json_data = " := by decide
    exact ⟨hbefore, List.forall_mem_cons.mpr ⟨hcreated, List.forall_mem_cons.mpr
      ⟨numbered_nulFree (by decide) (by decide) m.status, List.forall_mem_cons.mpr ⟨hjson,
        List.forall_mem_singleton.mpr (idTail_nulFree m.id)⟩⟩⟩⟩

variable (env runtime moment) in
/-- A NUL in a string cuts the text inside a literal, and the server reads no statement. -/
theorem nul_rejected {s : Carrier} (free : ∀ v ∈ s.data runtime, QuoteFree v.toList)
    (hnul : ∃ v ∈ s.data runtime, ¬ NulFree v) :
    textServer env moment d (s.model runtime) = (.error .syntaxError, d) := by
  obtain ⟨v, hv, hnul⟩ := hnul
  cases ht : s.template runtime with
  | none => exact absurd (data_of_no_template ht ▸ hv) List.not_mem_nil
  | some t =>
    obtain ⟨htext, hvalues, wf⟩ := s.template_spec ht
    obtain ⟨hbefore, hafter⟩ := template_nul ht
    rw [← hvalues, Template.values] at hv free
    rw [List.forall_mem_map] at free
    obtain ⟨p, hp, rfl⟩ := List.mem_map.mp hv
    have goes : ∀ {text : List Char}, '\x00' ∉ text → ∀ c ∈ text, isNul c = false :=
      fun h _ hc => decide_eq_false (fun he => h (he ▸ hc))
    have hcut : (cString (s.model runtime).str).toList = t.before ++
        (renderParts t.parts).takeWhile (fun c => !isNul c) := by
      have hwhile : ∀ c ∈ t.before, (!isNul c) = true :=
        fun c hc => by rw [goes hbefore c hc, Bool.not_false]
      rw [htext, cString, String.toList_ofList, toList_textOf, Template.render,
        ← List.takeWhile_append_of_pos hwhile]
      congr 1
      funext c
      simp [isNul]
    have hlex : SqlTokens.lex (cString (s.model runtime).str) = none := by
      rw [SqlTokens.lex, hcut, SqlTokens.run_append, wf.before]
      exact lex_cut_parts isNul (by decide) t.parts wf.parts free (fun q hq => goes (hafter q hq))
        ⟨p, hp, _, not_not.mp hnul, by decide⟩ t.tokens
    rw [textServer, SqlStatements.parse, hlex]
    rfl

end

end LiteralIntegrity
