import RpiRobot.EventRuns
import RpiRobot.RestProtocol
import RpiRobot.SharedObjects

/-!
# Two editors of one registry

Two clients of the REST protocol each get a registry, change one member of the object in the
answer and put the object back. Nothing tells an update what its object was read from, so the
object that is put last is what the row shows.
-/

namespace LostUpdates

open SqlConditions (Row Value)
open SqlTables SqlServers
open RequestParams DomainObjects Repositories RestController
open EventRuns RowDecoding FieldQueries TextQueries TextWrites UpdateReadBack SharedObjects
open RestProtocol (OriginForm registryRequest registries idFilter)
open RegistrySchema (schema)

-- Without this the unifier tries to parse the text of a statement.
attribute [local irreducible] textServer

/-! ## The editors -/

/-- By what they change: the name, or the status. -/
inductive Editor where
  | naming
  | enabling
  deriving DecidableEq, Repr

/-- The server and its libraries, the JSON library of the clients, the id of the registry, and
the values that the editors give it. -/
structure Setting where
  env : Env
  runtime : Runtime
  form : OriginForm
  others : RestProtocol.Handler → HttpRequest → Handled
  moment : Event Editor → Moment
  parse : String → Option Json
  stringify : Json → String
  id : Int
  name : String
  status : Int
  status_range : DecimalText.intMin ≤ status ∧ status ≤ DecimalText.intMax

structure System where
  database : Database schema
  /-- What the editors hold. -/
  object : Editor → Option Json

def System.init (d : Database schema) : System := ⟨d, fun _ => none⟩

/-- `{...registry, key: value}`. -/
def setMember (key : String) (value : Json) : Json → Json
  | .object members =>
    if members.any (fun m => m.1 = key) then
      .object (members.map fun m => if m.1 = key then (key, value) else m)
    else .object (members ++ [(key, value)])
  | j => j

/-- The text of a successful answer. -/
def answerText : Except HttpRouter.Unrouted Handled → Option String
  | .ok (.ok text, _) => some text
  | _ => none

def databaseAfter (d : Database schema) : Except HttpRouter.Unrouted Handled → Database schema
  | .ok (_, d') => d'
  | .error _ => d

section
variable (w : Setting)

def edit : Editor → Json → Json
  | .naming => setMember "name" (.string w.name)
  | .enabling => setMember "status" (.integer w.status)

def connection (event : Event Editor) : Connection :=
  textConnection w.env w.runtime (w.moment event)

def exchange (event : Event Editor) (s : System) (op : RestProtocol.Operation) :
    Except HttpRouter.Unrouted Handled :=
  RestProtocol.process w.form w.others (connection w event) s.database
    (registryRequest w.stringify op)

/-- The object is the member `data` of the answer to a get. -/
def step (s : System) : Event Editor → System
  | .get e =>
    let answer := exchange w (.get e) s (.get w.id)
    { database := databaseAfter s.database answer
      object := Function.update s.object e
        (((answerText answer).bind w.parse).bind (·.member? "data")) }
  | .put e =>
    match s.object e with
    | none => s
    | some j =>
      { s with
        database := databaseAfter s.database (exchange w (.put e) s (.update w.id (edit w e j))) }

/-- The JSON libraries read what the others write, and the texts that are put have no quotes. -/
def Carried (s : System) : Event Editor → Prop
  | .get e => ∀ o, RegistryRepository.repository.findOne (connection w (.get e))
      (fun _ => s.database) (idFilter w.id) = .ok (some o) →
      w.parse (w.runtime.dump (registryController.itemJson (some o))) =
        some (registryController.itemJson (some o))
  | .put e => ∀ j, s.object e = some j →
      w.runtime.parse (w.stringify (edit w e j)) = some (edit w e j) ∧
        ∀ m, RegistryDo.fromJson (edit w e j) = some m → QuoteFreeBody w.runtime m

/-- A put is answered with success. -/
def Answered (s : System) : Event Editor → Prop
  | .get _ => True
  | .put e => ∃ j text, s.object e = some j ∧
      answerText (exchange w (.put e) s (.update w.id (edit w e j))) = some text

/-- What the column keeps of the name: blanks beyond its length are cut off. -/
def storedName : String :=
  match fitVarchar 64 w.name with
  | .ok (.text name) => name
  | _ => w.name

/-- The row shows the change of the editor. -/
def Changed (r : Row) : Editor → Prop
  | .naming => r "name" = .text (storedName w)
  | .enabling => r "status" = .int w.status

end

/-! ## The registry as a shared object -/

/-- The members that the editors change. -/
structure Fields where
  name : String
  status : Int

def Fields.of (o : RegistryDo) : Fields := ⟨o.name, o.status⟩

structure Shows (r : Row) (v : Fields) : Prop where
  name : r "name" = .text v.name
  status : r "status" = .int v.status

section
variable (w : Setting)

def change : Editor → Fields → Fields
  | .naming, v => { v with name := storedName w }
  | .enabling, v => { v with status := w.status }

/-- The edited object as the server decodes it. -/
def edited : Editor → RegistryDo → RegistryDo
  | .naming, o => { o with name := w.name }
  | .enabling, o => { o with status := w.status }

/-- An object that has been read of the row with the id. -/
structure Held (o : RegistryDo) (v : Fields) : Prop where
  id : o.id = w.id
  fields : Fields.of o = v
  name : o.name.length ≤ 64
  status : DecimalText.intMin ≤ o.status ∧ o.status ≤ DecimalText.intMax

/-- The row shows the shared object, and the editors hold what they have read of it. -/
structure Agrees (a : Shared Editor Fields) (s : System) : Prop where
  row : ∃ r ∈ s.database.rows "registry", r "id" = .int w.id ∧ Shows r a.object
  held : ∀ e j, s.object e = some j → ∃ o v, j = o.toJson ∧ a.held e = some v ∧ Held w o v

end

variable {w : Setting} {d : Database schema} {s : System} {a : Shared Editor Fields} {e e' : Editor}
  {o : RegistryDo} {r : Row} {v : Fields}

/-! ## Rows and objects -/

lemma edit_toJson (e : Editor) (o : RegistryDo) : edit w e o.toJson = (edited w e o).toJson := by
  cases e <;> rfl

lemma edited_id (e : Editor) (o : RegistryDo) : (edited w e o).id = o.id := by
  cases e <;> rfl

lemma row_fields (hr : r ∈ d.rows "registry") : ∃ v, Shows r v := by
  obtain ⟨_, _, ⟨name, hname⟩, _, ⟨status, hstatus, _⟩, _⟩ := registry_fields d.consistent hr
  exact ⟨⟨name, status⟩, hname, hstatus⟩

/-- The column has no longer name. -/
lemma name_length (hr : r ∈ d.rows "registry") {name : String} (h : r "name" = .text name) :
    name.length ≤ 64 := by
  have hadmits := column_admits d.consistent (t := RegistrySchema.registry) (.head _)
    (c := ⟨"name", .varchar 64, true, .null⟩) (by simp [RegistrySchema.registry]) hr
  rw [h] at hadmits
  exact of_decide_eq_true hadmits

lemma held_of_shows (hr : r ∈ d.rows "registry") (hid : r "id" = .int w.id) (hv : Shows r v)
    {env : Env} {runtime : Runtime} (ho : RegistryShows env runtime o r) : Held w o v := by
  obtain ⟨status, hstatus, hrange⟩ := (registry_fields d.consistent hr).status
  obtain rfl := Value.int.inj (hstatus.symm.trans ho.status)
  have hname := Value.text.inj (ho.name.symm.trans hv.name)
  have hshown := Value.int.inj (ho.status.symm.trans hv.status)
  refine ⟨Value.int.inj (ho.id.symm.trans hid), ?_, name_length hr ho.name, hrange⟩
  rw [Fields.of, hname, hshown]

/-- The stored name of the edited object, and its status. -/
lemma stored_fields (h : Held w o v) {name : String}
    (hfit : fitVarchar 64 (edited w e o).name = .ok (.text name)) :
    change w e v = ⟨name, (edited w e o).status⟩ := by
  obtain ⟨_, rfl, hlen, _⟩ := h
  cases e with
  | naming =>
    have hstored : storedName w = name := by
      rw [storedName, show fitVarchar 64 w.name = .ok (.text name) from hfit]
    rw [change, hstored]
    rfl
  | enabling =>
    obtain ⟨_, htext, _, hsame⟩ := fitVarchar_text hfit
    obtain rfl := Value.text.inj htext
    rw [hsame hlen]
    rfl

/-! ## The requests -/

lemma looks_id (env : Env) (d : Database schema) (id : Int) :
    Looks env RegistrySchema.registry d (idFilter id) "id" (.int id) := by
  refine ⟨_, _, rfl, RestProtocol.id_means id, ?_, ?_, ?_⟩
  · exact FilterConditions.nulFree_compare FilterConditions.idColumn .eq
      (nulFree_string (nulFree_int id))
  · have hvalue := DecimalText.intValue_toString id
    have hcheck : literalAs env (toString id) .number = none := by
      rw [literalAs, hvalue]
      rfl
    change require (literalAs env (toString id) .number) = .ok ()
    rw [hcheck]
    rfl
  · intro r hr
    obtain ⟨n, hn, _⟩ := (registry_fields d.consistent hr).id
    rw [MemberConditions.literal_sat id hn, hn, keyOf_int, Value.int.injEq]

variable (w) in
lemma findOne_iff (event : Event Editor) (hr : r ∈ d.rows "registry") (hid : r "id" = .int w.id)
    (x : Option RegistryDo) :
    RegistryRepository.repository.findOne (connection w event) (fun _ => d) (idFilter w.id) =
      .ok x ↔ ∃ o, x = some o ∧ RegistryShows w.env w.runtime o r :=
  registry_findOne (looks_id w.env d w.id) (by decide) hr (keyOf_int.mpr hid) x

lemma exchange_get : exchange w (.get e) s (.get w.id) =
    .ok (RestProtocol.found registryController (connection w (.get e)) s.database
      (RegistryRepository.repository.findOne (connection w (.get e)) (fun _ => s.database)
        (idFilter w.id))) :=
  RestProtocol.process_get registries w.form w.stringify w.others (connection w (.get e))
    s.database w.id

/-- A registry that is found and can be read by the client is what the editor holds then. -/
lemma step_found (hone : RegistryRepository.repository.findOne (connection w (.get e))
      (fun _ => s.database) (idFilter w.id) = .ok (some o)) (h : Carried w s (.get e)) :
    step w s (.get e) = ⟨s.database, Function.update s.object e (some o.toJson)⟩ := by
  rw [step, exchange_get, hone]
  change System.mk s.database (Function.update s.object e ((w.parse (w.runtime.dump
    (registryController.itemJson (some o)))).bind (·.member? "data"))) = _
  rw [h o hone]
  rfl

/-- A get leaves the database as it is, and what the editor holds then is that of the row. -/
lemma step_get (hr : r ∈ s.database.rows "registry") (hid : r "id" = .int w.id)
    (h : Carried w s (.get e)) :
    ∃ held, step w s (.get e) = ⟨s.database, Function.update s.object e held⟩ ∧
      ∀ j, held = some j → ∃ o, j = o.toJson ∧ RegistryShows w.env w.runtime o r := by
  cases hone : RegistryRepository.repository.findOne (connection w (.get e))
    (fun _ => s.database) (idFilter w.id) with
  | error failure =>
    refine ⟨none, ?_, fun j hj => nomatch hj⟩
    rw [step, exchange_get, hone]
    rfl
  | ok x =>
    obtain ⟨o, rfl, ho⟩ := (findOne_iff w (.get e) hr hid x).mp hone
    exact ⟨some o.toJson, step_found hone h, fun j hj => ⟨o, (Option.some.inj hj).symm, ho⟩⟩

lemma written_ok {α : Type} {res : Outcome α × Database schema} {text : String}
    (h : answerText (.ok (RestRepositoryController.written res)) = some text) :
    ∃ x d', res = (.ok x, d') := by
  obtain ⟨outcome, d'⟩ := res
  cases outcome with
  | error e => exact nomatch h
  | ok x => exact ⟨x, d', rfl⟩

/-- The server decodes the edited object. -/
lemma edited_decoded (hr : r ∈ d.rows "registry") (hid : r "id" = .int w.id) (ho : Held w o v) :
    RegistryDo.fromJson (edited w e o).toJson = some (edited w e o) := by
  obtain ⟨n, hn, hrange⟩ := (registry_fields d.consistent hr).id
  obtain rfl := Value.int.inj (hid.symm.trans hn)
  have hsame : (edited w e o).id = w.id := (edited_id e o).trans ho.id
  rw [DecimalText.intMin, DecimalText.intMax] at hrange
  refine fromJson_toJson (by omega) ?_
  cases e with
  | naming => exact ho.status
  | enabling => exact w.status_range

lemma exchange_put (hmodel : RegistryDo.fromJson (edited w e o).toJson = some (edited w e o))
    (hparse : w.runtime.parse (w.stringify (edited w e o).toJson) = some (edited w e o).toJson) :
    exchange w (.put e) s (.update w.id (edited w e o).toJson) =
      .ok (RestRepositoryController.written (RegistryRepository.update (connection w (.put e))
        s.database (edited w e o))) := by
  have hsent : (RestProtocol.Operation.update w.id (edited w e o).toJson).Sent registryController
      (connection w (.put e)) w.stringify := ⟨Option.isSome_iff_exists.mpr ⟨_, hmodel⟩, hparse⟩
  obtain ⟨m, hm, hperformed⟩ := RestProtocol.update_performed registries w.form w.stringify
    w.others (connection w (.put e)) s.database hsent
  obtain rfl := Option.some.inj (hmodel.symm.trans hm)
  exact hperformed

lemma step_updated (hobject : s.object e = some o.toJson)
    (hmodel : RegistryDo.fromJson (edited w e o).toJson = some (edited w e o))
    (hparse : w.runtime.parse (w.stringify (edited w e o).toJson) = some (edited w e o).toJson)
    {d' : Database schema} (hupdate : RegistryRepository.update (connection w (.put e)) s.database
      (edited w e o) = (.ok (), d')) :
    step w s (.put e) = { s with database := d' } ∧ Answered w s (.put e) := by
  have hexchange := exchange_put (s := s) hmodel hparse
  rw [hupdate] at hexchange
  constructor
  · rw [step, hobject]
    simp only [edit_toJson, hexchange]
    rfl
  · refine ⟨_, success, hobject, ?_⟩
    rw [edit_toJson, hexchange]
    rfl

/-- A put that is answered with success gives the row the values of its object. -/
lemma step_put (hr : r ∈ s.database.rows "registry") (hid : r "id" = .int w.id)
    (ho : Held w o v) (hobject : s.object e = some o.toJson) (hcarried : Carried w s (.put e))
    (hanswered : Answered w s (.put e)) :
    (step w s (.put e)).object = s.object ∧
      ∃ r' ∈ (step w s (.put e)).database.rows "registry",
        r' "id" = .int w.id ∧ Shows r' (change w e v) := by
  obtain ⟨j, text, hj, htext⟩ := hanswered
  obtain rfl := Option.some.inj (hobject.symm.trans hj)
  obtain ⟨hparse, hquote⟩ := hcarried _ hobject
  have hmodel := edited_decoded (e := e) hr hid ho
  rw [edit_toJson] at hparse hquote htext
  rw [exchange_put hmodel hparse] at htext
  obtain ⟨_, d', hupdate⟩ := written_ok htext
  obtain ⟨hname, hdump⟩ := hquote _ hmodel
  obtain ⟨_, name, stored, hfit, _, hc, rfl⟩ := (registry_update_iff _ _ _ hname hdump
    (status_range hmodel)).mp hupdate
  have hsame : r "id" = .int (edited w e o).id := by rw [hid, edited_id, ho.id]
  rw [(step_updated hobject hmodel hparse hupdate).1, stored_fields ho hfit]
  exact ⟨rfl, _, updated_mem registryListing hr hsame, hid, rfl, rfl⟩

/-! ## Runs -/

lemma step_agrees {event : Event Editor} (h : Agrees w a s) (hcarried : Carried w s event)
    (hanswered : Answered w s event) :
    Agrees w (act (change w) a event) (step w s event) := by
  obtain ⟨⟨r, hr, hid, hv⟩, hheld⟩ := h
  cases event with
  | get e =>
    obtain ⟨held, hstep, hread⟩ := step_get hr hid hcarried
    rw [hstep]
    refine ⟨⟨r, hr, hid, hv⟩, fun e' j hj => ?_⟩
    change Function.update s.object e held e' = some j at hj
    by_cases heq : e' = e
    · subst heq
      rw [Function.update_self] at hj
      obtain ⟨o, rfl, ho⟩ := hread j hj
      refine ⟨o, a.object, rfl, ?_, held_of_shows hr hid hv ho⟩
      rw [act_get_held, Function.update_self]
    · rw [Function.update_of_ne heq] at hj
      obtain ⟨o, v, rfl, hv, ho⟩ := hheld e' j hj
      refine ⟨o, v, rfl, ?_, ho⟩
      rw [act_get_held, Function.update_of_ne heq, hv]
  | put e =>
    obtain ⟨j, _, hj, _⟩ := id hanswered
    obtain ⟨o, v, rfl, hput, ho⟩ := hheld e j hj
    obtain ⟨hobject, r', hr', hid', hv'⟩ := step_put hr hid ho hj hcarried hanswered
    refine ⟨⟨r', hr', hid', ?_⟩, fun e' j hj => ?_⟩
    · rw [act_put_object _ hput]
      exact hv'
    · rw [act_put_held]
      exact hheld e' j (hobject ▸ hj)

/-- The server and its clients are a shared object and its editors. -/
theorem run_agrees {events : List (Event Editor)}
    (h : Meets (step w) (fun s event => Carried w s event ∧ Answered w s event) s events)
    (ha : Agrees w a s) :
    Agrees w (events.foldl (act (change w)) a) (events.foldl (step w) s) := by
  induction events generalizing a s with
  | nil => exact ha
  | cons event events ih => exact ih h.2 (step_agrees ha h.1.1 h.1.2)

lemma init_agrees (hr : r ∈ d.rows "registry") (hid : r "id" = .int w.id) (hv : Shows r v) :
    Agrees w ⟨v, fun _ => none⟩ (System.init d) :=
  ⟨⟨r, hr, hid, hv⟩, fun _ _ hj => nomatch hj⟩

/-! ## The last put -/

lemma changed_iff (hv : Shows r v) (e : Editor) : Changed w r e ↔ change w e v = v := by
  obtain ⟨name, status⟩ := v
  cases e with
  | naming =>
    rw [Changed, hv.name, Value.text.injEq, change, Fields.mk.injEq, eq_comm]
    exact (and_iff_left rfl).symm
  | enabling =>
    rw [Changed, hv.status, Value.int.injEq, change, Fields.mk.injEq, eq_comm]
    exact (and_iff_right rfl).symm

lemma change_idem (e : Editor) (v : Fields) : change w e (change w e v) = change w e v := by
  cases e <;> rfl

/-- The editors change different members. -/
lemma change_other (h : e ≠ e') (v : Fields) :
    change w e' (change w e v) = change w e v ↔ change w e' v = v := by
  obtain ⟨name, status⟩ := v
  cases e <;> cases e' <;> simp [change] at h ⊢

/-- The row has the change of the client that puts last, and that of the other one only if it
was put before the last one read the row, or was there at first. -/
theorem last_put_wins (w : Setting) (d : Database schema) {r : Row} (hr : r ∈ d.rows "registry")
    (hid : r "id" = .int w.id) {order : List (Event Editor)}
    (horder : Interleaving (session .naming) (session .enabling) order)
    (h : Meets (step w) (fun s event => Carried w s event ∧ Answered w s event) (System.init d)
      order)
    {first last : Editor} (hne : first ≠ last) (hlast : order.getLast? = some (.put last)) :
    ∃ r' ∈ (order.foldl (step w) (System.init d)).database.rows "registry",
      r' "id" = .int w.id ∧ Changed w r' last ∧
        (Changed w r' first ↔ order = session first ++ session last ∨ Changed w r first) := by
  obtain ⟨v, hv⟩ := row_fields hr
  obtain ⟨⟨r', hr', hid', hv'⟩, _⟩ := run_agrees h (init_agrees hr hid hv)
  have hsessions : Interleaving (session first) (session last) order := by
    cases first with
    | naming =>
      cases last with
      | naming => exact absurd rfl hne
      | enabling => exact horder
    | enabling =>
      cases last with
      | naming => exact horder.symm
      | enabling => exact absurd rfl hne
  refine ⟨r', hr', hid', ?_⟩
  rw [changed_iff hv' last, changed_iff hv' first, changed_iff hv first]
  rcases object_interleaved (change w) (s := ⟨v, fun _ => none⟩) hsessions hne hlast with
    ⟨hserial, hobject⟩ | ⟨hserial, hobject⟩
  · rw [hobject]
    exact ⟨change_idem last _, iff_of_true ((change_other hne.symm _).mpr (change_idem first v))
      (.inl hserial)⟩
  · rw [hobject]
    exact ⟨change_idem last _, (change_other hne.symm v).trans (or_iff_right hserial).symm⟩

/-! ## On a shipped row -/

/-- The first shipped registry as a get answers it. -/
def smartHome : RegistryDo :=
  ⟨1, RegistrySchema.setup.now, "smart_home", "4d8a3176-c0c1-11ed-afa1-0242ac120002", 0,
    RegistrySchema.online⟩

def registryText (name status : String) : String :=
  "\x7b\"createdAt\":\"2023-03-21 12:00:00\",\"id\":1," ++
    "\"json_data\":\x7b\"status\":\"online\"\x7d,\"name\":\"" ++ name ++ "\",\"status\":" ++
    status ++ ",\"uuid\":\"4d8a3176-c0c1-11ed-afa1-0242ac120002\"\x7d"

def answeredText : String := "\x7b\"data\":" ++ registryText "smart_home" "0" ++ "\x7d"

def renamed : RegistryDo := { smartHome with name := "home" }

def activated : RegistryDo := { smartHome with status := 1 }

/-- The texts of the answers and of the two edited objects. -/
def homeDump : Json → String
  | .object [("data", _)] => answeredText
  | j => shippedDump j

def homeParse (text : String) : Option Json :=
  if text = registryText "home" "0" then some renamed.toJson
  else if text = registryText "smart_home" "1" then some activated.toJson
  else shippedRuntime.parse text

/-- The client's JSON library on the text of the answer. -/
def answerParse (text : String) : Option Json :=
  if text = answeredText then some (registryController.itemJson (some smartHome)) else none

def homeRuntime : Runtime :=
  { shippedRuntime with
    dump := homeDump
    dump_nulFree := fun j => by
      unfold homeDump
      split
      · decide +kernel
      · exact shippedRuntime.dump_nulFree _
    parse := homeParse }

def homeText (j : Json) : String :=
  match j.member? "name" with
  | some (.string "home") => registryText "home" "0"
  | _ => registryText "smart_home" "1"

/-- One client renames the registry to `home` and the other one activates it. -/
def home : Setting where
  env := RegistrySchema.shippedEnv
  runtime := homeRuntime
  form := RestProtocol.splitForm
  others _ _ := defaultHandler RegistrySchema.shipped
  moment _ := RegistrySchema.setup
  parse := answerParse
  stringify := homeText
  id := 1
  name := "home"
  status := 1
  status_range := by decide

lemma parse_online : homeParse "\x7b\"status\": \"online\"\x7d" = some RegistrySchema.online := by
  rw [homeParse, if_neg (by decide +kernel), if_neg (by decide +kernel)]
  rfl

lemma parse_renamed : homeParse (registryText "home" "0") = some renamed.toJson := by
  rw [homeParse, if_pos rfl]

lemma parse_activated : homeParse (registryText "smart_home" "1") = some activated.toJson := by
  rw [homeParse, if_neg (by decide +kernel), if_pos rfl]

/-- The server reads both of the edited objects. -/
lemma home_sent (e : Editor) :
    home.runtime.parse (home.stringify (edited home e smartHome).toJson) =
      some (edited home e smartHome).toJson := by
  rw [show home.runtime.parse = homeParse from rfl]
  cases e with
  | naming => exact parse_renamed
  | enabling =>
    have htext : home.stringify (edited home .enabling smartHome).toJson =
      registryText "smart_home" "1" := rfl
    rw [htext, parse_activated]
    rfl

lemma parse_answered :
    answerParse answeredText = some (registryController.itemJson (some smartHome)) := by
  rw [answerParse, if_pos rfl]

lemma smartHome_shown : ∃ r ∈ RegistrySchema.shipped.rows "registry",
    r "id" = .int home.id ∧ RegistryShows home.env home.runtime smartHome r :=
  ⟨_, .head _, rfl, rfl, rfl, rfl, rfl, rfl, RegistrySchema.online, rfl, parse_online⟩

/-- A get of the shipped row. -/
lemma home_get (e : Editor) (object : Editor → Option Json) :
    Carried home ⟨RegistrySchema.shipped, object⟩ (.get e) ∧
      step home ⟨RegistrySchema.shipped, object⟩ (.get e) =
        ⟨RegistrySchema.shipped, Function.update object e (some smartHome.toJson)⟩ := by
  obtain ⟨r, hr, hid, hshows⟩ := smartHome_shown
  have hcarried : Carried home ⟨RegistrySchema.shipped, object⟩ (.get e) := by
    intro o ho
    obtain ⟨_, heq, hother⟩ := (findOne_iff home (.get e) hr hid _).mp ho
    obtain rfl := Option.some.inj heq
    obtain rfl := hother.unique hshows
    have hdump : home.runtime.dump (registryController.itemJson (some smartHome)) =
      answeredText := rfl
    rw [hdump, show home.parse = answerParse from rfl, parse_answered]
  exact ⟨hcarried, step_found ((findOne_iff home (.get e) hr hid _).mpr ⟨_, rfl, hshows⟩) hcarried⟩

/-- A put of the edited object that the server accepts. -/
lemma step_accepted {name : String} {j : Json} (hobject : s.object e = some o.toJson)
    (hmodel : RegistryDo.fromJson (edited w e o).toJson = some (edited w e o))
    (hparse : w.runtime.parse (w.stringify (edited w e o).toJson) = some (edited w e o).toJson)
    (hquote : QuoteFreeBody w.runtime (edited w e o))
    (h : Accepts w.env w.runtime s.database (edited w e o) name j) :
    (Carried w s (.put e) ∧ Answered w s (.put e)) ∧
      ∃ hc, step w s (.put e) = { s with database := ⟨updatedRows registryListing s.database
        (edited w e o).id (registryAssigned name (edited w e o).status j),
        s.database.serial, hc⟩ } := by
  obtain ⟨_, htext, hlen, _⟩ := fitVarchar_text h.fits
  obtain rfl := Value.text.inj htext
  have hc := (registry_consistent_iff (edited w e o).id (j := j) hlen (status_range hmodel)).mpr
    h.free
  have hupdate : RegistryRepository.update (connection w (.put e)) s.database (edited w e o) =
      (.ok (), ⟨_, s.database.serial, hc⟩) :=
    (registry_update_iff _ _ _ hquote.1 hquote.2 (status_range hmodel)).mpr
      ⟨h.nulFree, name, j, h.fits, h.stored, hc, rfl⟩
  obtain ⟨hstep, hanswered⟩ := step_updated hobject hmodel hparse hupdate
  refine ⟨⟨fun k hk => ?_, hanswered⟩, hc, hstep⟩
  obtain rfl := Option.some.inj (hobject.symm.trans hk)
  rw [edit_toJson]
  refine ⟨hparse, fun m hm => ?_⟩
  obtain rfl := Option.some.inj (hmodel.symm.trans hm)
  exact hquote

/-- Both clients have read the row before the first one puts. -/
def overlapping : List (Event Editor) :=
  [.get .naming, .get .enabling, .put .naming, .put .enabling]

/-- What the editors hold after both gets. -/
def bothHeld : Editor → Option Json :=
  Function.update (Function.update (fun _ => none) .naming (some smartHome.toJson)) .enabling
    (some smartHome.toJson)

/-- The rows after a put. -/
def homeRows (d : Database schema) (name : String) (status : Int) : String → List Row :=
  updatedRows registryListing d 1 (registryAssigned name status RegistrySchema.online)

/-- A put of an edited object that the server accepts. -/
lemma home_put {e : Editor} {s : System} (hobject : s.object e = some smartHome.toJson)
    {name : String} (h : Accepts home.env home.runtime s.database (edited home e smartHome) name
      RegistrySchema.online) :
    (Carried home s (.put e) ∧ Answered home s (.put e)) ∧
      ∃ hc, step home s (.put e) =
        ⟨⟨homeRows s.database name (edited home e smartHome).status, s.database.serial, hc⟩,
          s.object⟩ := by
  obtain ⟨r, hr, hid, hshows⟩ := smartHome_shown
  obtain ⟨v, hv⟩ := row_fields hr
  have hmodel := edited_decoded (e := e) hr hid (held_of_shows hr hid hv hshows)
  have hquote : QuoteFreeBody home.runtime (edited home e smartHome) := by
    cases e <;> exact ⟨by decide, by decide⟩
  obtain ⟨hput, hc, hstep⟩ := step_accepted hobject hmodel (home_sent e) hquote h
  refine ⟨hput, ?_⟩
  cases e <;> exact ⟨hc, hstep⟩

lemma renamed_accepted : Accepts home.env home.runtime RegistrySchema.shipped
    (edited home .naming smartHome) "home" RegistrySchema.online :=
  ⟨by decide, rfl, rfl, by decide⟩

lemma activated_accepted (h : d.rows = homeRows RegistrySchema.shipped "home" 0) :
    Accepts home.env home.runtime d (edited home .enabling smartHome) "smart_home"
      RegistrySchema.online := by
  have hfree : ¬Taken d 1 "smart_home" := by
    rw [Taken, h]
    decide
  exact ⟨by decide, rfl, rfl, hfree⟩

lemma overlapping_run :
    Meets (step home) (fun s event => Carried home s event ∧ Answered home s event)
        (System.init RegistrySchema.shipped) overlapping ∧
      ∃ d' : Database schema, d'.rows = homeRows RegistrySchema.shipped "home" 0 ∧
        (overlapping.foldl (step home) (System.init RegistrySchema.shipped)).database.rows =
          homeRows d' "smart_home" 1 := by
  obtain ⟨hone, honce⟩ := home_get .naming (fun _ => none)
  obtain ⟨htwo, htwice⟩ := home_get .enabling
    (Function.update (fun _ => none) .naming (some smartHome.toJson))
  rw [← bothHeld] at htwice
  obtain ⟨hthree, hc, hput⟩ := home_put (e := .naming) (s := ⟨RegistrySchema.shipped, bothHeld⟩)
    rfl renamed_accepted
  obtain ⟨hfour, hc', hput'⟩ := home_put (e := .enabling)
    (s := ⟨⟨_, RegistrySchema.shipped.serial, hc⟩, bothHeld⟩) rfl (activated_accepted rfl)
  refine ⟨⟨⟨hone, trivial⟩, ?_⟩, ⟨_, RegistrySchema.shipped.serial, hc⟩, rfl, ?_⟩
  · rw [System.init, honce]
    refine ⟨⟨htwo, trivial⟩, ?_⟩
    rw [htwice]
    refine ⟨hthree, ?_⟩
    rw [hput]
    exact ⟨hfour, trivial⟩
  · rw [overlapping, System.init, List.foldl_cons, honce, List.foldl_cons, htwice, List.foldl_cons,
      hput, List.foldl_cons, hput', List.foldl_nil]
    rfl

lemma overlapping_interleaving :
    Interleaving (session .naming) (session .enabling) overlapping :=
  .left _ (.right _ (.left _ (.right _ .nil)))

/-- The row is active, and its name is that of before. -/
theorem last_put_wins_overlapping :
    ∃ r' ∈ (overlapping.foldl (step home) (System.init RegistrySchema.shipped)).database.rows
        "registry",
      r' "id" = .int 1 ∧ Changed home r' .enabling ∧ ¬Changed home r' .naming := by
  obtain ⟨r, hr, hid, hshows⟩ := smartHome_shown
  obtain ⟨r', hr', hid', hlast, hfirst⟩ := last_put_wins home RegistrySchema.shipped hr hid
    overlapping_interleaving overlapping_run.1 (show Editor.naming ≠ .enabling by decide) rfl
  refine ⟨r', hr', hid', hlast, fun hname => ?_⟩
  rcases hfirst.mp hname with hserial | hold
  · exact absurd hserial (by decide)
  · exact absurd (Value.text.inj (hshows.name.symm.trans hold)) (by decide)

/-- Both puts are answered with success, and the new name is lost. -/
theorem rename_lost :
    Interleaving (session .naming) (session .enabling) overlapping ∧
      Meets (step home) (fun s event => Carried home s event ∧ Answered home s event)
        (System.init RegistrySchema.shipped) overlapping ∧
      ¬∃ r' ∈ (overlapping.foldl (step home) (System.init RegistrySchema.shipped)).database.rows
          "registry",
        r' "id" = .int 1 ∧ Changed home r' .naming ∧ Changed home r' .enabling := by
  obtain ⟨hmeets, d', hd', hrows⟩ := overlapping_run
  refine ⟨overlapping_interleaving, hmeets, ?_⟩
  rw [hrows]
  rintro ⟨r', hr', hid', hname, -⟩
  have hall : ∀ r ∈ homeRows d' "smart_home" 1 "registry", r "id" = .int 1 →
      r "name" = .text "smart_home" := by
    rw [homeRows, updatedRows, hd']
    decide
  exact absurd (Value.text.inj ((hall r' hr' hid').symm.trans hname)) (by decide)

end LostUpdates
