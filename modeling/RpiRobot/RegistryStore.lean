import RpiRobot.DeleteAgreement
import RpiRobot.EventRuns
import RpiRobot.ServiceRuns

/-!
# The repository of registries as a store

What the repository of registries is for is a store of registries under numbers: an insert takes
the next number, and whatever fails changes nothing else. The repository behind the text server
gives the answers of that store, call for call.
-/

namespace RegistryStore

open SqlConditions (Row Value)
open SqlBuilder (SqlModel)
open SqlTables SqlServers
open StringLiterals (QuoteFree)
open RequestParams DomainObjects Repositories RepositoryStatements FieldQueries
open RowDecoding TextQueries TextWrites InsertReadBack
open DeleteAgreement (Referenced)
open RegistrySchema (schema)

-- Without this the unifier tries to parse the text of a statement.
attribute [local irreducible] textServer

/-! ## The store -/

/-- Registries under their numbers, and the next number. -/
structure Store where
  items : Int → Option RegistryDo
  next : Int

inductive Call where
  | insert (m : RegistryDo)
  | update (m : RegistryDo)
  | remove (id : Int)
  | find (id : Int)

inductive Answer where
  | id (n : Int)
  | done
  | object (o : Option RegistryDo)
  | refused

/-- Another item than that of the number has the name. -/
def Store.Named (store : Store) (id : Int) (name : String) : Prop :=
  ∃ k o, k ≠ id ∧ store.items k = some o ∧ o.name = name

/-- The next number is one that the column can hold and that is not in use. -/
def Store.Free (store : Store) : Prop :=
  DecimalText.intMin ≤ store.next ∧ store.items store.next = none

open Classical in
/-- One call. Items that are held cannot be removed. -/
noncomputable def Store.call (held : Int → Prop) (store : Store) :
    Moment × Call → Answer × Store
  | (moment, .insert m) =>
    if DecimalText.intMax < store.next then (.refused, store)
    else if store.Free ∧ ¬ store.Named store.next m.name then
      (.id store.next, ⟨Function.update store.items store.next
        (some ⟨store.next, moment.now, m.name, moment.uuid, 0, m.jsonData⟩), store.next + 1⟩)
    else (.refused, { store with next := store.next + 1 })
  | (_, .update m) =>
    if (store.items m.id).isSome ∧ store.Named m.id m.name then (.refused, store)
    else (.done, { store with items := Function.update store.items m.id ((store.items m.id).map
      fun o => { o with name := m.name, status := m.status, jsonData := m.jsonData }) })
  | (_, .remove id) =>
    if held id then (.refused, store)
    else (.done, { store with items := Function.update store.items id none })
  | (_, .find id) => (.object (store.items id), store)

/-! ## The repository -/

def answer {α : Type} (f : α → Answer) : Outcome α × Database schema → Answer × Database schema
  | (.ok a, d) => (f a, d)
  | (.error _, d) => (.refused, d)

/-- The calls of `RegistryRepository`. -/
def call (env : Env) (runtime : Runtime) (d : Database schema) :
    Moment × Call → Answer × Database schema
  | (moment, .insert m) =>
    answer .id (RegistryRepository.insert (textConnection env runtime moment) d m)
  | (moment, .update m) =>
    answer (fun _ => .done) (RegistryRepository.update (textConnection env runtime moment) d m)
  | (moment, .remove id) =>
    answer (fun _ => .done)
      (RegistryRepository.repository.deleteById (textConnection env runtime moment) d id)
  | (moment, .find id) =>
    answer .object
      (RegistryRepository.repository.findById (textConnection env runtime moment) (fun _ => d) id,
        d)

/-- A row of another table refers to the number. -/
def Held (d : Database schema) (id : Int) : Prop :=
  ∃ name ∈ ["device", "registry_configuration"], ∃ s ∈ d.rows name, s "registry_id" = .int id

/-- The rows of the table are the items of the store. -/
structure Shows (env : Env) (runtime : Runtime) (held : Int → Prop) (d : Database schema)
    (store : Store) : Prop where
  item : ∀ r ∈ d.rows "registry", ∃ o, RegistryShows env runtime o r ∧ store.items o.id = some o
  row : ∀ id o, store.items id = some o →
    o.id = id ∧ ∃ r ∈ d.rows "registry", RegistryShows env runtime o r
  next : store.next = d.serial "registry"
  held : ∀ id, held id ↔ Held d id

/-- The strings of an object that can be written. -/
structure Writable (env : Env) (runtime : Runtime) (m : RegistryDo) : Prop where
  quoteFree : QuoteFree m.name.toList
  nulFree : NulFree m.name
  short : m.name.length ≤ 64
  dumpQuoteFree : QuoteFree (runtime.dump m.jsonData).toList
  stored : Stored env runtime m.jsonData

/-- What the callers, the JSON libraries and the server's random numbers have to provide. -/
def Admitted (env : Env) (runtime : Runtime) (store : Store) : Moment × Call → Prop
  | (moment, .insert m) => Writable env runtime m ∧ moment.uuid.length ≤ 36 ∧
    ∀ k o, store.items k = some o → o.uuid ≠ moment.uuid
  | (_, .update m) => Writable env runtime m ∧
    DecimalText.intMin ≤ m.status ∧ m.status ≤ DecimalText.intMax
  | (_, .remove id) => -(2 ^ 63) ≤ id ∧ id < 2 ^ 63
  | (_, .find id) => -(2 ^ 63) ≤ id ∧ id < 2 ^ 63

section
variable {env : Env} {runtime : Runtime} {moment : Moment} {held : Int → Prop}
  {d d' : Database schema} {store store' : Store} {id : Int} {m : RegistryDo} {r : Row}

/-! ## Rows and items -/

lemma Shows.of_id (h : Shows env runtime held d store) (hr : r ∈ d.rows "registry")
    (hid : r "id" = .int id) : ∃ o, store.items id = some o ∧ RegistryShows env runtime o r := by
  obtain ⟨o, hshows, hitem⟩ := h.item r hr
  obtain rfl := Value.int.inj (hshows.id.symm.trans hid)
  exact ⟨o, hitem, hshows⟩

/-- A number without an item is the id of no row. -/
lemma Shows.none_iff (h : Shows env runtime held d store) :
    store.items id = none ↔ ∀ r ∈ d.rows "registry", r "id" ≠ .int id := by
  constructor
  · intro hnone r hr hid
    obtain ⟨o, hitem, -⟩ := h.of_id hr hid
    exact absurd (hnone.symm.trans hitem) (by simp)
  · intro hrows
    cases hitem : store.items id with
    | none => rfl
    | some o =>
      obtain ⟨rfl, r, hr, hshows⟩ := h.row id o hitem
      exact absurd hshows.id (hrows r hr)

lemma Shows.named_iff (h : Shows env runtime held d store) {name : String} :
    store.Named id name ↔
      ∃ r ∈ d.rows "registry", r "id" ≠ .int id ∧ r "name" = .text name := by
  constructor
  · rintro ⟨k, o, hne, hitem, rfl⟩
    obtain ⟨rfl, r, hr, hshows⟩ := h.row k o hitem
    exact ⟨r, hr, fun hid => hne (Value.int.inj (hshows.id.symm.trans hid)), hshows.name⟩
  · rintro ⟨r, hr, hne, hname⟩
    obtain ⟨o, hshows, hitem⟩ := h.item r hr
    exact ⟨o.id, o, fun hid => hne (hid ▸ hshows.id), hitem,
      Value.text.inj (hshows.name.symm.trans hname)⟩

lemma Shows.free_iff (h : Shows env runtime held d store)
    (hhigh : store.next ≤ DecimalText.intMax) : store.Free ↔ Fresh d "registry" := by
  rw [Store.Free, h.none_iff, h.next]
  exact ⟨fun ⟨hlow, hunused⟩ => ⟨hlow, h.next ▸ hhigh, hunused⟩, fun hf => ⟨hf.low, hf.unused⟩⟩

/-- The rows have not changed, and neither have the items. -/
lemma Shows.same (h : Shows env runtime held d store) (hrows : d'.rows = d.rows)
    (hitems : store'.items = store.items) (hnext : store'.next = d'.serial "registry") :
    Shows env runtime held d' store' where
  item := by rw [hrows, hitems]; exact h.item
  row := by rw [hrows, hitems]; exact h.row
  next := hnext
  held id := by rw [h.held id, Held, Held, hrows]

lemma held_congr (hrows : ∀ name, name ≠ "registry" → d'.rows name = d.rows name) :
    Held d' id ↔ Held d id := by
  refine exists_congr fun name => and_congr_right fun hname => ?_
  rw [hrows name (by rintro rfl; exact absurd hname (by decide))]

/-- Writes to the table hold the same numbers. -/
lemma Shows.held_update (h : Shows env runtime held d store) {rows : List Row}
    (hrows : d'.rows = Function.update d.rows "registry" rows) (id : Int) :
    held id ↔ Held d' id := by
  rw [h.held id]
  refine (held_congr fun name hname => ?_).symm
  rw [hrows]
  exact Function.update_of_ne hname _ _

/-! ## Inserts -/

lemma insert_assigns (h : Writable env runtime m) (hu : moment.uuid.length ≤ 36) {j : Json}
    (hj : env.jsonbIn (runtime.dump m.jsonData) = some j) :
    Assigns env moment RegistrySchema.registry (RegistryRepository.insertModel runtime m)
      (namedAssigned moment m.name j) where
  reads := ⟨namedColumns, namedValues m.name (runtime.dump m.jsonData),
    renders_registry_insert runtime h.quoteFree h.dumpQuoteFree, rfl, by decide, by decide,
    named_assignments rfl rfl rfl rfl h.short hu hj⟩
  id := rfl
  nulFree := nulFree_named h.nulFree (runtime.dump_nulFree _) (by decide)

/-- The new row is admitted just if its number and its name are free. -/
lemma added_consistent_iff (hw : Writable env runtime m) (hu : FreshUuid moment d "registry")
    {j : Json} :
    Consistent schema (addedRows registryListing d (registryRow moment d m j)) ↔
      Fresh d "registry" ∧ ∀ r ∈ d.rows "registry", r "name" ≠ .text m.name := by
  constructor
  · intro hc
    refine ⟨fresh_of_consistent registryListing rfl hc, fun r hr hname => ?_⟩
    have hnew := new_key (t := RegistrySchema.registry) (.head _) hc
      (show "name" ∈ RegistrySchema.registry.unique by decide) (k := .text m.name) rfl r hr
    exact hnew (keyOf_text.mpr hname)
  · rintro ⟨hfresh, hunused⟩
    exact (InsertReadBack.registry_consistent_iff ⟨hw.quoteFree, hw.nulFree, hw.short, hunused,
      hw.dumpQuoteFree, hw.stored⟩ hu).mpr hfresh

lemma added_shows (h : Shows env runtime held d store) (hfree : store.items store.next = none)
    {j : Json} (hj : runtime.parse (env.jsonbOut j) = some m.jsonData)
    (hrows : d'.rows = addedRows registryListing d (registryRow moment d m j))
    (hserial : d'.serial "registry" = d.serial "registry" + 1) :
    Shows env runtime held d' ⟨Function.update store.items store.next
      (some ⟨store.next, moment.now, m.name, moment.uuid, 0, m.jsonData⟩), store.next + 1⟩ := by
  have hregistry : d'.rows "registry" = d.rows "registry" ++ [registryRow moment d m j] := by
    rw [hrows]
    exact Function.update_self ..
  have hnew : RegistryShows env runtime
      ⟨store.next, moment.now, m.name, moment.uuid, 0, m.jsonData⟩ (registryRow moment d m j) :=
    ⟨congrArg Value.int h.next.symm, rfl, rfl, rfl, rfl, j, rfl, hj⟩
  constructor
  · intro r hr
    rw [hregistry] at hr
    rcases List.mem_append.mp hr with hold | hlast
    · obtain ⟨o, hshows, hitem⟩ := h.item r hold
      have hne : o.id ≠ store.next := fun he => absurd (hfree.symm.trans (he ▸ hitem)) (by simp)
      exact ⟨o, hshows, (Function.update_of_ne hne _ _).trans hitem⟩
    · obtain rfl := List.mem_singleton.mp hlast
      exact ⟨_, hnew, Function.update_self ..⟩
  · intro id o hitem
    by_cases hid : id = store.next
    · subst hid
      have hself := Function.update_self store.next (some (RegistryDo.mk store.next moment.now
        m.name moment.uuid 0 m.jsonData)) store.items
      obtain rfl := Option.some.inj (hself.symm.trans hitem)
      refine ⟨rfl, _, ?_, hnew⟩
      rw [hregistry]
      exact List.mem_append_right _ List.mem_cons_self
    · obtain ⟨hoid, r, hr, hshows⟩ := h.row id o ((Function.update_of_ne hid _ _).symm.trans hitem)
      refine ⟨hoid, r, ?_, hshows⟩
      rw [hregistry]
      exact List.mem_append_left _ hr
  · change store.next + 1 = _
    rw [hserial, h.next]
  · exact h.held_update hrows

section
variable {l : Listing} {model : SqlBuilder.InsertModel} {assigned : List (String × Value)}
  (h : Assigns env moment l.own model assigned)
include h

/-- The sequence has no number left. -/
lemma insert_exhausted (hfull : DecimalText.intMax < d.serial l.own.name) :
    insertedId ((textConnection env runtime moment).work d (.insert model) true) =
      (.error (.sql .sequenceExhausted), d) := by
  rw [Connection.work, exec_insert l h, if_pos hfull]
  rfl

/-- The new row would break the schema; its number is gone. -/
lemma insert_inconsistent (hroom : d.serial l.own.name ≤ DecimalText.intMax)
    (hc : ¬ Consistent schema (addedRows l d (addedRow l moment d assigned))) :
    insertedId ((textConnection env runtime moment).work d (.insert model) true) =
      (.error (.sql .constraintViolation), d.advance l.own.name) := by
  have hstore : store (d.advance l.own.name) l.own.name
      (d.rows l.own.name ++ [addedRow l moment d assigned]) = _ :=
    store_error (d := d.advance l.own.name) hc
  rw [Connection.work, exec_insert l h, if_neg (not_lt.mpr hroom), hstore]
  rfl

end

lemma insert_refines (h : Shows env runtime held d store)
    (ha : Admitted env runtime store (moment, .insert m)) :
    (call env runtime d (moment, .insert m)).1 = (store.call held (moment, .insert m)).1 ∧
      Shows env runtime held (call env runtime d (moment, .insert m)).2
        (store.call held (moment, .insert m)).2 := by
  obtain ⟨hw, hshort, huuid⟩ := ha
  obtain ⟨j, hj, hparse⟩ := hw.stored
  have hu : FreshUuid moment d "registry" := by
    refine ⟨hshort, fun r hr hsame => ?_⟩
    obtain ⟨o, hshows, hitem⟩ := h.item r hr
    exact huuid o.id o hitem (Value.text.inj (hshows.uuid.symm.trans hsame))
  have hassigns : Assigns env moment registryListing.own _ _ := insert_assigns hw hshort hj
  have hcall : call env runtime d (moment, .insert m) = answer .id (insertedId
    ((textConnection env runtime moment).work d
      (.insert (RegistryRepository.insertModel runtime m)) true)) := rfl
  rw [hcall, Store.call]
  by_cases hfull : DecimalText.intMax < store.next
  · rw [if_pos hfull, insert_exhausted hassigns (h.next ▸ hfull)]
    exact ⟨rfl, h⟩
  · rw [if_neg hfull]
    have hroom : d.serial "registry" ≤ DecimalText.intMax := h.next ▸ not_lt.mp hfull
    have hserial := d.advance_serial "registry"
    have hiff := added_consistent_iff (j := j) hw hu
    have hunused : ¬ store.Named store.next m.name ↔
        ∀ r ∈ d.rows "registry", r "id" ≠ .int store.next → r "name" ≠ .text m.name := by
      rw [h.named_iff]
      exact ⟨fun hn r hr hid hname => hn ⟨r, hr, hid, hname⟩,
        fun hn ⟨r, hr, hid, hname⟩ => hn r hr hid hname⟩
    by_cases hc : Consistent schema (addedRows registryListing d (registryRow moment d m j))
    · obtain ⟨hfresh, hname⟩ := hiff.mp hc
      have hok := (inserted_iff env runtime moment _ registryListing hassigns _).mpr
        ⟨rfl, hroom, hc, rfl⟩
      have hfree := (h.free_iff (not_lt.mp hfull)).mpr hfresh
      rw [if_pos ⟨hfree, hunused.mpr fun r hr _ => hname r hr⟩, hok]
      exact ⟨congrArg Answer.id h.next.symm, added_shows h hfree.2 hparse rfl hserial⟩
    · have hnot : ¬ (store.Free ∧ ¬ store.Named store.next m.name) := by
        rintro ⟨hfree, hnamed⟩
        have hfresh := (h.free_iff (not_lt.mp hfull)).mp hfree
        refine hc (hiff.mpr ⟨hfresh, fun r hr => hunused.mp hnamed r hr ?_⟩)
        exact h.none_iff.mp hfree.2 r hr
      rw [if_neg hnot, insert_inconsistent hassigns hroom hc]
      exact ⟨rfl, h.same rfl rfl (by rw [h.next]; exact hserial.symm)⟩

/-! ## Updates -/

lemma taken_iff (h : Shows env runtime held d store) {name : String} :
    UpdateReadBack.Taken d id name ↔ (store.items id).isSome ∧ store.Named id name := by
  have hsome : (store.items id).isSome ↔ ∃ r ∈ d.rows "registry", r "id" = .int id := by
    rw [Option.isSome_iff_ne_none, ne_eq, h.none_iff]
    push Not
    rfl
  rw [hsome, h.named_iff]
  constructor
  · rintro ⟨r, hr, t, ht, hrid, htid, htname⟩
    exact ⟨⟨r, hr, hrid⟩, t, ht, htid, htname⟩
  · rintro ⟨⟨r, hr, hrid⟩, t, ht, htid, htname⟩
    exact ⟨r, hr, t, ht, hrid, htid, htname⟩

/-- What an update makes of a registry. -/
def updated (m o : RegistryDo) : RegistryDo :=
  { o with name := m.name, status := m.status, jsonData := m.jsonData }

lemma updated_shows (h : Shows env runtime held d store) {j : Json}
    (hj : runtime.parse (env.jsonbOut j) = some m.jsonData)
    (hrows : d'.rows = updatedRows registryListing d m.id
      (UpdateReadBack.registryAssigned m.name m.status j))
    (hserial : d'.serial = d.serial) :
    Shows env runtime held d' { store with
      items := Function.update store.items m.id ((store.items m.id).map (updated m)) } := by
  have hregistry : d'.rows "registry" = (d.rows "registry").map
      (withId m.id (UpdateReadBack.registryAssigned m.name m.status j)) := by
    rw [hrows]
    exact Function.update_self ..
  have hset : ∀ {r o}, RegistryShows env runtime o r → r "id" = .int m.id →
      RegistryShows env runtime (updated m o)
        (withId m.id (UpdateReadBack.registryAssigned m.name m.status j) r) := by
    intro r o hshows hid
    rw [UpdateReadBack.withId_of_eq hid]
    exact ⟨hshows.id, hshows.createdAt, rfl, hshows.uuid, rfl, j, rfl, hj⟩
  constructor
  · intro r' hr'
    rw [hregistry] at hr'
    obtain ⟨r, hr, rfl⟩ := List.mem_map.mp hr'
    obtain ⟨o, hshows, hitem⟩ := h.item r hr
    by_cases hid : o.id = m.id
    · refine ⟨updated m o, hset hshows (hid ▸ hshows.id), ?_⟩
      change Function.update store.items m.id _ o.id = _
      rw [hid, Function.update_self, ← hid, hitem, Option.map_some]
    · have hrid : r "id" ≠ .int m.id := fun he => hid (Value.int.inj (hshows.id.symm.trans he))
      refine ⟨o, ?_, (Function.update_of_ne hid _ _).trans hitem⟩
      rwa [UpdateReadBack.withId_of_ne hrid]
  · intro id o hitem
    by_cases hid : id = m.id
    · subst hid
      have hself := Function.update_self m.id ((store.items m.id).map (updated m)) store.items
      obtain ⟨o', hitem', rfl⟩ := Option.map_eq_some_iff.mp (hself.symm.trans hitem)
      obtain ⟨hoid, r, hr, hshows⟩ := h.row m.id o' hitem'
      refine ⟨hoid, _, ?_, hset hshows (hoid ▸ hshows.id)⟩
      rw [hregistry]
      exact List.mem_map_of_mem hr
    · obtain ⟨hoid, r, hr, hshows⟩ := h.row id o ((Function.update_of_ne hid _ _).symm.trans hitem)
      have hrid : r "id" ≠ .int m.id := fun he =>
        hid (hoid ▸ Value.int.inj (hshows.id.symm.trans he))
      refine ⟨hoid, r, ?_, hshows⟩
      rw [hregistry]
      exact List.mem_map.mpr ⟨r, hr, UpdateReadBack.withId_of_ne hrid⟩
  · rw [hserial]
    exact h.next
  · exact h.held_update hrows

lemma update_refines (h : Shows env runtime held d store)
    (ha : Admitted env runtime store (moment, .update m)) :
    (call env runtime d (moment, .update m)).1 = (store.call held (moment, .update m)).1 ∧
      Shows env runtime held (call env runtime d (moment, .update m)).2
        (store.call held (moment, .update m)).2 := by
  obtain ⟨hw, hstatus⟩ := ha
  obtain ⟨j, hj, hparse⟩ := hw.stored
  have hiff := fun d' => UpdateReadBack.registry_update_iff env moment (d := d) d'
    hw.quoteFree hw.dumpQuoteFree hstatus
  have hadmits := UpdateReadBack.registry_consistent_iff (d := d) (j := j) m.id hw.short hstatus
  rw [call, Store.call]
  by_cases htaken : UpdateReadBack.Taken d m.id m.name
  · rw [if_pos ((taken_iff h).mp htaken)]
    have hserial : (RegistryRepository.update (textConnection env runtime moment) d m).2.serial =
        d.serial := (ServiceRuns.work_serial _ _ _ _).trans
      (ServiceRuns.update_serial env runtime moment d (RegistryRepository.updateModel runtime m))
    have hfails : ∀ d', RegistryRepository.update (textConnection env runtime moment) d m ≠
        (.ok (), d') := by
      intro d' hok
      obtain ⟨-, name, j', hfit, -, hc, -⟩ := (hiff d').mp hok
      obtain ⟨text, hname, -, hsame⟩ := fitVarchar_text hfit
      obtain rfl := Value.text.inj hname
      obtain rfl := hsame hw.short
      exact (UpdateReadBack.registry_consistent_iff m.id hw.short hstatus).mp hc htaken
    have hrows : (RegistryRepository.update (textConnection env runtime moment) d m).2.rows =
        d.rows :=
      (RestController.committed_or_same _ _ _).resolve_left fun ⟨d', hok⟩ => hfails d' hok
    revert hserial hrows hfails
    obtain ⟨outcome, after⟩ := RegistryRepository.update (textConnection env runtime moment) d m
    intro hserial hfails hrows
    cases outcome with
    | ok u => exact absurd rfl (hfails after)
    | error e => exact ⟨rfl, h.same hrows rfl (h.next.trans (congrFun hserial.symm _))⟩
  · rw [if_neg fun hnamed => htaken ((taken_iff h).mpr hnamed)]
    have hok := (hiff _).mpr ⟨hw.nulFree, m.name, j, if_pos hw.short, hj, hadmits.mpr htaken, rfl⟩
    rw [hok]
    exact ⟨rfl, updated_shows h hparse rfl rfl⟩

/-! ## Numbers in conditions -/

/-- The filter of a number that fits into a `long`. -/
def idFilter (id : Int) : Filter := Filter.create.add "id" .opEq (.integral id)

lemma idFilter_texts (hid : -(2 ^ 63) ≤ id ∧ id < 2 ^ 63) :
    texts (idFilter id) = [((SqlBuilder.Column.of "id").eq (.long id)).cond] := by
  have hlong : toLong id = id := Int.bmod_eq_of_le (by omega) (by omega)
  change [((SqlBuilder.Column.of "id").eq (.long (toLong id))).cond] = _
  rw [hlong]

lemma idFilter_looks (hid : -(2 ^ 63) ≤ id ∧ id < 2 ^ 63) :
    Looks env RegistrySchema.registry d (idFilter id) "id" (.int id) := by
  have hmeans := (WhereClauses.atomic_compare FilterConditions.idColumn .eq (d := .long id) rfl
    trivial).means
  refine ⟨_, _, idFilter_texts hid, hmeans,
    FilterConditions.nulFree_compare FilterConditions.idColumn .eq (v := .long id) (nulFree_int id),
    check_number rfl rfl id, fun r _ => ?_⟩
  rw [keyOf_int]
  exact number_sat "id" id r

variable (moment) in
lemma findOne_item (h : Shows env runtime held d store) {filter : Filter}
    (hlooks : Looks env RegistrySchema.registry d filter "id" (.int id)) :
    RegistryRepository.repository.findOne (textConnection env runtime moment) (fun _ => d)
      filter = .ok (store.items id) := by
  cases hitem : store.items id with
  | none =>
    have hquery : (textConnection env runtime moment).query d (.select
        (registryListing.selectData filter (RequestParams.PageRequest.of 0 1 false))) = .ok [] :=
      lookup_missing registryListing hlooks
        fun r hr hk => h.none_iff.mp hitem r hr (keyOf_int.mp hk)
    exact registry_findOne_iff.mpr ⟨[], hquery, [], rfl, rfl⟩
  | some o =>
    obtain ⟨rfl, r, hr, hshows⟩ := h.row id o hitem
    exact (registry_findOne hlooks (.head _) hr (keyOf_int.mpr hshows.id) _).mpr ⟨o, rfl, hshows⟩

lemma find_refines (h : Shows env runtime held d store)
    (ha : Admitted env runtime store (moment, .find id)) :
    (call env runtime d (moment, .find id)).1 = (store.call held (moment, .find id)).1 ∧
      Shows env runtime held (call env runtime d (moment, .find id)).2
        (store.call held (moment, .find id)).2 := by
  have hcall : call env runtime d (moment, .find id) = answer .object
      (RegistryRepository.repository.findOne (textConnection env runtime moment)
        (fun _ => d) (idFilter id), d) := rfl
  rw [hcall, findOne_item moment h (idFilter_looks ha)]
  exact ⟨rfl, h⟩

/-! ## Deletes -/

variable (runtime moment) in
/-- The delete of one number takes its row out, if the schema lets it go. -/
lemma delete_server {filter : Filter}
    (hlooks : Looks env RegistrySchema.registry d filter "id" (.int id)) :
    (textConnection env runtime moment).server d (.delete (deleteFrom "registry" filter)) =
      changed d ⟨[], []⟩ (SqlTables.store d "registry"
        ((d.rows "registry").filter fun r => !decide (r "id" = .int id))) := by
  obtain ⟨c, e, htexts, hmeans, hcond, hcheck, hsat⟩ := hlooks
  have hclause : (SqlStatements.Statement.delete "registry" (texts filter)).mapCond
      BuilderStatements.readClause = some (.delete "registry" (some e)) := by
    rw [SqlStatements.Statement.mapCond, htexts, readClause_single hmeans, Option.map_some]
  have hnul : NulFree (SqlModel.delete (deleteFrom "registry" filter)).str := by
    rw [deleteFrom_eq, htexts]
    have htable : NulFree ("delete from " ++ "registry") := by decide
    exact htable.append (nulFree_listClause (by decide) (by decide)
      (List.forall_mem_singleton.mpr hcond))
  have hnone : (textConds env).check RegistrySchema.registry (some e) = none := by
    change errorOf (exprCheck env RegistrySchema.registry e) = none
    rw [hcheck]
    rfl
  have hkept : ∀ r ∈ d.rows "registry",
      (!(textConds env).sat RegistrySchema.registry (some e) r) =
        !decide (r "id" = .int id) := by
    intro r hr
    have hiff := hsat r hr
    rw [keyOf_int] at hiff
    exact congrArg (!·) (Bool.eq_iff_iff.mpr (hiff.trans decide_eq_true_iff.symm))
  rw [textConnection_server, textServer_eq (renders_delete (by decide) filter) hclause hnul,
    exec, delete_eq rfl hnone, List.filter_congr hkept]

/-- Only a row that is there is referred to. -/
lemma held_row (h : Held d id) : ∃ r ∈ d.rows "registry", r "id" = .int id ∧ Referenced d r := by
  obtain ⟨name, hname, s, hs, hsid⟩ := h
  have hkey : keyOf (s "registry_id") = some (.int id) := keyOf_int.mpr hsid
  have hmem : Key.int id ∈ keys "id" (d.rows "registry") := by
    simp only [List.mem_cons, List.not_mem_nil, or_false] at hname
    rcases hname with rfl | rfl
    · exact holds_iff.mp ((d.consistent RegistrySchema.device (by simp [schema])).referenced
        ⟨"registry_id", "registry", "id"⟩ (.head _) s hs) _ hkey
    · exact holds_iff.mp ((d.consistent RegistrySchema.registryConfiguration
        (by simp [schema])).referenced ⟨"registry_id", "registry", "id"⟩ (.head _) s hs) _ hkey
  obtain ⟨r, hr, hrk⟩ := mem_keys.mp hmem
  exact ⟨r, hr, keyOf_int.mp hrk, name, hname, s, hs, hkey.trans hrk.symm⟩

lemma removable_iff :
    Consistent schema (Function.update d.rows "registry"
      ((d.rows "registry").filter fun r => !decide (r "id" = .int id))) ↔ ¬ Held d id := by
  rw [DeleteAgreement.registry_filter_iff]
  constructor
  · intro h hheld
    obtain ⟨r, hr, hid, href⟩ := held_row hheld
    have hkept := h r hr href
    rw [decide_eq_true hid] at hkept
    exact absurd hkept (by decide)
  · rintro h r hr ⟨name, hname, s, hs, hkey⟩
    rw [Bool.not_eq_true', decide_eq_false_iff_not]
    intro hid
    refine h ⟨name, hname, s, hs, ?_⟩
    rw [hid] at hkey
    exact keyOf_int.mp hkey

lemma removed_shows (h : Shows env runtime held d store)
    (hrows : d'.rows = Function.update d.rows "registry"
      ((d.rows "registry").filter fun r => !decide (r "id" = .int id)))
    (hserial : d'.serial = d.serial) :
    Shows env runtime held d' { store with items := Function.update store.items id none } := by
  have hmem : ∀ r, r ∈ d'.rows "registry" ↔ r ∈ d.rows "registry" ∧ r "id" ≠ .int id := by
    intro r
    rw [hrows, Function.update_self, List.mem_filter, Bool.not_eq_true', decide_eq_false_iff_not]
  constructor
  · intro r hr
    obtain ⟨hr, hne⟩ := (hmem r).mp hr
    obtain ⟨o, hshows, hitem⟩ := h.item r hr
    have hoid : o.id ≠ id := fun he => hne (he ▸ hshows.id)
    exact ⟨o, hshows, (Function.update_of_ne hoid _ _).trans hitem⟩
  · intro k o hitem
    have hk : k ≠ id := by
      rintro rfl
      exact absurd ((Function.update_self k none store.items).symm.trans hitem) (by simp)
    obtain ⟨rfl, r, hr, hshows⟩ := h.row k o ((Function.update_of_ne hk _ _).symm.trans hitem)
    have hother : r "id" ≠ .int id := fun he => hk (Value.int.inj (hshows.id.symm.trans he))
    exact ⟨rfl, r, (hmem r).mpr ⟨hr, hother⟩, hshows⟩
  · rw [hserial]
    exact h.next
  · exact h.held_update hrows

/-- A delete of one number does what the store does with it. -/
lemma delete_refines (h : Shows env runtime held d store) {filter : Filter}
    (hlooks : Looks env RegistrySchema.registry d filter "id" (.int id)) :
    (answer (fun _ => .done) (RegistryRepository.repository.deleteByFilter
        (textConnection env runtime moment) d filter)).1 =
        (store.call held (moment, .remove id)).1 ∧
      Shows env runtime held (answer (fun _ => .done)
        (RegistryRepository.repository.deleteByFilter
          (textConnection env runtime moment) d filter)).2
        (store.call held (moment, .remove id)).2 := by
  have hdelete : RegistryRepository.repository.deleteByFilter
      (textConnection env runtime moment) d filter = committed
        ((textConnection env runtime moment).work d (.delete (deleteFrom "registry" filter))
          false) := rfl
  rw [hdelete, Store.call, Connection.work, delete_server runtime moment hlooks]
  by_cases hheld : Held d id
  · rw [if_pos ((h.held id).mpr hheld), store_error fun hc => removable_iff.mp hc hheld]
    exact ⟨rfl, h⟩
  · rw [if_neg fun hh => hheld ((h.held id).mp hh), store_ok (removable_iff.mpr hheld)]
    exact ⟨rfl, removed_shows h rfl rfl⟩

lemma remove_refines (h : Shows env runtime held d store)
    (ha : Admitted env runtime store (moment, .remove id)) :
    (call env runtime d (moment, .remove id)).1 = (store.call held (moment, .remove id)).1 ∧
      Shows env runtime held (call env runtime d (moment, .remove id)).2
        (store.call held (moment, .remove id)).2 :=
  delete_refines h (idFilter_looks ha)

/-! ## Runs -/

lemma call_refines (h : Shows env runtime held d store) (c : Moment × Call)
    (ha : Admitted env runtime store c) :
    (call env runtime d c).1 = (store.call held c).1 ∧
      Shows env runtime held (call env runtime d c).2 (store.call held c).2 := by
  obtain ⟨moment, c⟩ := c
  cases c with
  | insert m => exact insert_refines h ha
  | update m => exact update_refines h ha
  | remove id => exact remove_refines h ha
  | find id => exact find_refines h ha

end

/-- The repository answers every sequence of calls as the store does. -/
theorem repository_refines_store {env : Env} {runtime : Runtime} {held : Int → Prop}
    {d : Database schema} {store : Store} (h : Shows env runtime held d store)
    {calls : List (Moment × Call)}
    (ha : EventRuns.Meets (fun store c => (store.call held c).2) (Admitted env runtime) store
      calls) :
    EventRuns.answers (call env runtime) d calls =
        EventRuns.answers (Store.call held) store calls ∧
      Shows env runtime held (EventRuns.called (call env runtime) d calls)
        (EventRuns.called (Store.call held) store calls) :=
  EventRuns.answers_eq (Shows env runtime held) (fun _ _ c hs hc => call_refines hs c hc) h ha

/-! On the shipped rows. -/

def smartHome : RegistryDo := ⟨1, RegistrySchema.setup.now, "smart_home",
  "4d8a3176-c0c1-11ed-afa1-0242ac120002", 0, RegistrySchema.online⟩

def creartsIot : RegistryDo := ⟨2, RegistrySchema.setup.now, "crearts-iot",
  "c93af2d0-c0bf-11ed-afa1-0242ac120002", 0, RegistrySchema.online⟩

def shippedStore : Store where
  items id := if id = 1 then some smartHome else if id = 2 then some creartsIot else none
  next := 3

lemma shippedStore_items {id : Int} {o : RegistryDo} (h : shippedStore.items id = some o) :
    id = 1 ∧ o = smartHome ∨ id = 2 ∧ o = creartsIot := by
  change (if id = 1 then some smartHome else if id = 2 then some creartsIot else none) = _ at h
  split_ifs at h with hone htwo
  · exact .inl ⟨hone, (Option.some.inj h).symm⟩
  · exact .inr ⟨htwo, (Option.some.inj h).symm⟩

lemma shipped_shows {runtime : Runtime} (hparse : runtime.parse
      (RegistrySchema.shippedEnv.jsonbOut RegistrySchema.online) = some RegistrySchema.online) :
    Shows RegistrySchema.shippedEnv runtime (Held advanced) advanced shippedStore := by
  have hjson : ReadsAs RegistrySchema.shippedEnv runtime (.json RegistrySchema.online)
      RegistrySchema.online := ⟨RegistrySchema.online, rfl, hparse⟩
  refine ⟨fun r hr => ?_, fun id o hitem => ?_, rfl, fun id => Iff.rfl⟩
  · rcases List.mem_cons.mp hr with rfl | hr
    · exact ⟨smartHome, ⟨rfl, rfl, rfl, rfl, rfl, hjson⟩, rfl⟩
    · obtain rfl := List.mem_singleton.mp hr
      exact ⟨creartsIot, ⟨rfl, rfl, rfl, rfl, rfl, hjson⟩, rfl⟩
  · rcases shippedStore_items hitem with ⟨rfl, rfl⟩ | ⟨rfl, rfl⟩
    · exact ⟨rfl, _, List.mem_cons_self, rfl, rfl, rfl, rfl, rfl, hjson⟩
    · exact ⟨rfl, _, List.mem_cons_of_mem _ List.mem_cons_self, rfl, rfl, rfl, rfl, rfl, hjson⟩

/-- A registry is inserted and found, one that is held is not removed, another one is renamed. -/
def shippedCalls : List (Moment × Call) :=
  [(later, .insert lab), (later, .find 3), (later, .remove 2),
    (later, .update UpdateReadBack.renamed)]

theorem repository_refines_shipped :
    EventRuns.answers (call RegistrySchema.shippedEnv shippedRuntime) advanced shippedCalls =
        EventRuns.answers (Store.call (Held advanced)) shippedStore shippedCalls ∧
      Shows RegistrySchema.shippedEnv shippedRuntime (Held advanced)
        (EventRuns.called (call RegistrySchema.shippedEnv shippedRuntime) advanced shippedCalls)
        (EventRuns.called (Store.call (Held advanced)) shippedStore shippedCalls) := by
  refine repository_refines_store (shipped_shows rfl) ⟨⟨?_, by decide, fun k o hitem => ?_⟩,
    ⟨by decide, by decide⟩, ⟨by decide, by decide⟩, ⟨?_, by decide, by decide⟩, trivial⟩
  · exact ⟨by decide, by decide, by decide, by decide, RegistrySchema.online, rfl, rfl⟩
  · rcases shippedStore_items hitem with ⟨-, rfl⟩ | ⟨-, rfl⟩ <;> decide
  · exact ⟨by decide, by decide, by decide, by decide, RegistrySchema.online, rfl, rfl⟩

end RegistryStore
