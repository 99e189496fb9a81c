import RpiRobot.RepositoryStatements

/-!
# Templates of the statements

The statements of the repositories that carry strings of a request: the selects and
deletes with a filter from query parameters, the inserts and the updates. Each text is
a template, with the strings in their order between fixed pieces that stand apart from
them.
-/

namespace StatementTemplates

open SqlTokens (Token Lexes Opens Separates Ends)
open SqlBuilder SqlTables SqlServers BuilderStatements
open StringLiterals
open RequestParams DomainObjects FilterConditions Repositories RepositoryStatements

/-! Texts of templates. -/

def partsText : List Part → String
  | [] => ""
  | p :: ps => toValue (.string p.value) ++ (String.ofList p.after ++ partsText ps)

def textOf (t : Template) : String := String.ofList t.before ++ partsText t.parts

lemma toList_value (s : String) : (toValue (.string s)).toList = quoted s.toList := by
  rw [toValue, WhereClauses.toList_quoted]

lemma toList_partsText (ps : List Part) : (partsText ps).toList = renderParts ps := by
  induction ps with
  | nil => rfl
  | cons p ps ih =>
    rw [partsText, String.toList_append, String.toList_append, String.toList_ofList, toList_value,
      ih, renderParts, Part.render, List.append_assoc]

lemma toList_textOf (t : Template) : (textOf t).toList = t.render := by
  rw [textOf, String.toList_append, String.toList_ofList, toList_partsText, Template.render]

/-- The tokens of a fixed text. -/
def tokensOf (text : String) : List Token := (SqlTokens.lex text).getD []

/-- Whether a text starts with a character that ends every token but a literal. -/
def endsFirst (text : String) : Bool := text.toList.head?.any (fun c => decide (Ends c))

lemma exists_ends {text : String} (h : endsFirst text = true) :
    ∃ c rest, text.toList = c :: rest ∧ Ends c := by
  rw [endsFirst, Option.any_eq_true] at h
  obtain ⟨c, hc, hends⟩ := h
  obtain ⟨rest, hrest⟩ := List.head?_eq_some_iff.mp hc
  exact ⟨c, rest, hrest, of_decide_eq_true hends⟩

lemma separates_text {text : String} (h : endsFirst text = true)
    (ho : Opens text.toList (tokensOf text)) : Separates text.toList (tokensOf text) :=
  ⟨exists_ends h, ho⟩

/-! Clauses of string fields. -/

/-- The fields that `HttpRequestParams` makes, as column and value. -/
def entries (params : Params) : List (String × String) :=
  ["name", "id", "device_id", "registry_id"].filterMap (fun key =>
    (params.findLast key).map (fun value => (key, value)))

def entryText (e : String × String) : String := e.1 ++ (" = " ++ toValue (.string e.2))

lemma texts_filterOf (params : Params) :
    texts (HttpRequestParams.filterOf params) = (entries params).map entryText := by
  rw [texts, conditions, RequestParams.filterOf_eq, entries, List.filterMap_filterMap,
    List.map_filterMap, List.map_filterMap]
  refine List.filterMap_congr (fun key _ => ?_)
  cases params.findLast key <;> rfl

lemma entries_names {params : Params} {e : String × String} (h : e ∈ entries params) :
    SqlTokens.isName e.1.toList = true := by
  obtain ⟨key, hkey, he⟩ := List.mem_filterMap.mp h
  obtain ⟨value, _, rfl⟩ := Option.map_eq_some_iff.mp he
  have hnames : ∀ k ∈ ["name", "id", "device_id", "registry_id"],
      SqlTokens.isName k.toList = true := by decide
  exact hnames key hkey

/-- A value, the further fields and the rest of the statement. -/
def clauseParts (tail : String) (tokens : List Token) (value : String) :
    List (String × String) → List Part
  | [] => [⟨value, tail.toList, tokens⟩]
  | e :: rest =>
    ⟨value, (" and " ++ (e.1 ++ " = ")).toList, [.word "and", .word e.1, .sym "="]⟩ ::
      clauseParts tail tokens e.2 rest

def clauseTemplate (head tail : String) (tokens : List Token) :
    List (String × String) → Option Template
  | [] => none
  | e :: rest => some ⟨(head ++ (" where " ++ (e.1 ++ " = "))).toList,
      tokensOf head ++ [.word "where", .word e.1, .sym "="], clauseParts tail tokens e.2 rest⟩

lemma clauseParts_values (tail : String) (tokens : List Token) (value : String)
    (rest : List (String × String)) :
    (clauseParts tail tokens value rest).map Part.value = value :: rest.map Prod.snd := by
  induction rest generalizing value with
  | nil => rfl
  | cons e rest ih => rw [clauseParts, List.map_cons, ih, List.map_cons]

lemma clauseParts_text (tail : String) (tokens : List Token) (e : String × String)
    (rest : List (String × String)) :
    strJoin (entryText e :: rest.map entryText) " and " ++ tail =
      e.1 ++ (" = " ++ partsText (clauseParts tail tokens e.2 rest)) := by
  induction rest generalizing e with
  | nil =>
    rw [List.map_nil, strJoin_singleton, clauseParts, partsText, partsText, String.ofList_toList,
      entryText]
    simp only [String.append_assoc, String.append_empty]
  | cons f rest ih =>
    rw [List.map_cons, strJoin_cons_cons, clauseParts, partsText, String.ofList_toList,
      String.append_assoc, ih f, entryText]
    simp only [String.append_assoc]

lemma clause_text {head tail : String} {tokens : List Token} {es : List (String × String)}
    {t : Template} (h : clauseTemplate head tail tokens es = some t) :
    head ++ (listClause " where " (es.map entryText) " and " ++ tail) = textOf t ∧
      t.values = es.map Prod.snd := by
  cases es with
  | nil => exact absurd h (by simp [clauseTemplate])
  | cons e rest =>
    obtain rfl := Option.some.inj h
    refine ⟨?_, clauseParts_values tail tokens e.2 rest⟩
    rw [List.map_cons, listClause, if_neg (by simp), String.append_assoc,
      clauseParts_text tail tokens e rest, textOf, String.ofList_toList]
    simp only [String.append_assoc]

/-- What may follow the last value: nothing, or text that stands apart from it. -/
def Follows (tail : String) (tokens : List Token) : Prop :=
  (tail.toList = [] ∧ tokens = []) ∨
    (∃ c rest, tail.toList = c :: rest ∧ Ends c) ∧ Lexes tail.toList tokens

lemma opens_assign {name : String} (h : SqlTokens.isName name.toList = true) :
    Opens (name ++ " = ").toList [.word name, .sym "="] := by
  rw [String.toList_append]
  exact (SqlTokens.lexes_name h).separator (SqlTokens.separates (by decide) (by decide))

lemma clauseParts_wellFormed {tail : String} {tokens : List Token} (ht : Follows tail tokens)
    {rest : List (String × String)} (hn : ∀ e ∈ rest, SqlTokens.isName e.1.toList = true)
    (value : String) : WellFormedParts (clauseParts tail tokens value rest) := by
  induction rest generalizing value with
  | nil => exact ht
  | cons e rest ih =>
    rw [List.forall_mem_cons] at hn
    have hopen : Opens (" and " ++ (e.1 ++ " = ")).toList [.word "and", .word e.1, .sym "="] := by
      rw [String.toList_append]
      exact Opens.append_opens (show Opens _ [.word "and"] by decide) (opens_assign hn.1)
    have hsep : Separates (" and " ++ (e.1 ++ " = ")).toList [.word "and", .word e.1, .sym "="] :=
      ⟨⟨' ', _, by rw [String.toList_append]; rfl, by decide⟩, hopen⟩
    cases rest with
    | nil => exact ⟨hsep, ih hn.2 e.2⟩
    | cons f rest => exact ⟨hsep, ih hn.2 e.2⟩

lemma clause_wellFormed {head tail : String} {tokens : List Token} {es : List (String × String)}
    {t : Template} (h : clauseTemplate head tail tokens es = some t)
    (hhead : Lexes head.toList (tokensOf head)) (ht : Follows tail tokens)
    (hn : ∀ e ∈ es, SqlTokens.isName e.1.toList = true) : t.WellFormed := by
  cases es with
  | nil => exact absurd h (by simp [clauseTemplate])
  | cons e rest =>
    obtain rfl := Option.some.inj h
    rw [List.forall_mem_cons] at hn
    refine ⟨clauseParts_wellFormed ht hn.2 e.2, ?_, by cases rest <;> simp [clauseParts]⟩
    have hwhere := hhead.separator (show Separates " where ".toList [.word "where"] from
      SqlTokens.separates (by decide) (by decide))
    have hopen := hwhere.append_opens (opens_assign hn.1)
    rw [List.append_assoc] at hopen
    rw [String.toList_append, String.toList_append]
    simpa using hopen

/-! Statements that carry strings. -/

/-- The repositories, by what they write into their statements. -/
inductive Owner where
  | registry
  | device
  | deviceTelemetry
  deriving DecidableEq, Repr

namespace Owner

def selectData : Owner → Filter → PageRequest → SelectModel
  | registry => RegistryRepository.selectData
  | device => DeviceRepository.selectData
  | deviceTelemetry => DeviceTelemetryRepository.selectData

def selectCount : Owner → Filter → SelectModel
  | registry => RegistryRepository.selectCount
  | device => DeviceRepository.selectCount
  | deviceTelemetry => DeviceTelemetryRepository.selectCount

def table : Owner → String
  | registry => "registry"
  | device => "device"
  | deviceTelemetry => "device_telemetry"

/-- The table that `deleteByFilter` deletes from. -/
def deleted : Owner → String
  | registry => "registry"
  | device => "registry"
  | deviceTelemetry => "device_telemetry"

def columns : Owner → List String
  | registry => registryColumns
  | device => deviceColumns
  | deviceTelemetry => telemetryColumns

def orderBy : Owner → String
  | registry => "id"
  | device => "id"
  | deviceTelemetry => "id DESC"

def pageHead (o : Owner) : String := "select " ++ strJoin o.columns ", " ++ " from " ++ o.table

def countHead (o : Owner) : String := "select COUNT(id) from " ++ o.table

def deleteHead (o : Owner) : String := "delete from " ++ o.deleted

/-- The fixed start of what follows the clause of a page. -/
def ordering (o : Owner) : String := " order by " ++ o.orderBy ++ " limit "

def pageTail (o : Owner) (page : PageRequest) : String :=
  o.ordering ++ (toString page.size ++ (" offset " ++ toString page.offset))

def pageTokens (o : Owner) (page : PageRequest) : List Token :=
  tokensOf o.ordering ++ ([.num (toString page.size)] ++ [.word "offset"] ++
    [.num (toString page.offset)])

lemma lexes_heads (o : Owner) : Lexes o.pageHead.toList (tokensOf o.pageHead) ∧
    Lexes o.countHead.toList (tokensOf o.countHead) ∧
    Lexes o.deleteHead.toList (tokensOf o.deleteHead) := by
  cases o <;> decide

lemma follows_page (o : Owner) (page : PageRequest) :
    Follows (o.pageTail page) (o.pageTokens page) := by
  have hopen : Opens o.ordering.toList (tokensOf o.ordering) := by cases o <;> decide
  have hoffset : Separates " offset ".toList [.word "offset"] :=
    SqlTokens.separates (by decide) (by decide)
  have hint := (SqlTokens.lexes_int page.size).append_separated hoffset
    (SqlTokens.lexes_int page.offset)
  refine .inr ⟨⟨' ', ?_⟩, ?_⟩
  · rw [pageTail, ordering, String.toList_append, String.toList_append, String.toList_append]
    exact ⟨_, rfl, by decide⟩
  · have htail := hopen.append hint
    rw [pageTail, pageTokens, String.toList_append, String.toList_append, String.toList_append]
    rwa [List.append_assoc] at htail

end Owner

lemma follows_empty : Follows "" [] := .inl ⟨rfl, rfl⟩

lemma listClause_nil (keyword delim : String) : listClause keyword [] delim = "" := rfl

/-- The text of a select of one table without grouping. -/
lemma select_text {m : SelectModel} (hdistinct : m.isDistinct = false) (hjoin : m.joinType = "")
    (hon : m.joinOnCondition = []) (hgroup : m.groupbyColumns = [])
    (hhaving : m.havingCondition = []) :
    m.str = "select " ++ (strJoin m.selectColumns ", " ++ (" from " ++ (m.tableName ++
      (listClause " where " m.whereCondition " and " ++ (textClause " order by " m.orderBy ++
        (textClause " limit " m.limit ++ textClause " offset " m.offset)))))) := by
  unfold SelectModel.str
  simp only [hdistinct, hjoin, hon, hgroup, hhaving, listClause_nil, Bool.false_eq_true, if_false,
    if_true, String.append_assoc, String.empty_append]

lemma textClause_ne {keyword text : String} (h : text ≠ "") :
    textClause keyword text = keyword ++ text := if_neg h

lemma page_str (columns : List String) (table : String) {orderBy : String} (ho : orderBy ≠ "")
    (filter : Filter) (page : PageRequest) :
    (((((filtered filter).select columns).from_ [table]).offset_ page.offset).limit_ page.size
      |>.order_by orderBy).str =
      "select " ++ (strJoin columns ", " ++ (" from " ++ (table ++
        (listClause " where " (texts filter) " and " ++ (" order by " ++ (orderBy ++ (" limit " ++
          (toString page.size ++ (" offset " ++ toString page.offset))))))))) := by
  rw [filtered_eq, select_text rfl rfl rfl rfl rfl]
  change "select " ++ (strJoin columns ", " ++ (" from " ++ (table ++
    (listClause " where " (texts filter) " and " ++ (textClause " order by " orderBy ++
      (textClause " limit " (toString page.size) ++
        textClause " offset " (toString page.offset))))))) = _
  rw [textClause_ne ho, textClause_ne (int_ne_empty page.size),
    textClause_ne (int_ne_empty page.offset)]
  simp only [String.append_assoc]

lemma count_str (table : String) (filter : Filter) :
    (((filtered filter).select ["COUNT(id)"]).from_ [table]).str =
      "select " ++ ("COUNT(id)" ++ (" from " ++ (table ++
        listClause " where " (texts filter) " and "))) := by
  rw [filtered_eq, select_text rfl rfl rfl rfl rfl]
  change "select " ++ ("COUNT(id)" ++ (" from " ++ (table ++
    (listClause " where " (texts filter) " and " ++ ("" ++ ("" ++ "")))))) = _
  simp only [String.append_empty]

lemma page_text (o : Owner) (filter : Filter) (page : PageRequest) :
    (o.selectData filter page).str =
      o.pageHead ++ (listClause " where " (texts filter) " and " ++ o.pageTail page) := by
  rw [Owner.pageHead, Owner.pageTail, Owner.ordering]
  simp only [String.append_assoc]
  cases o with
  | registry => exact page_str registryColumns "registry" (by decide) filter page
  | device => exact page_str deviceColumns "device" (by decide) filter page
  | deviceTelemetry =>
    exact page_str telemetryColumns "device_telemetry" (by decide) filter page

lemma count_text (o : Owner) (filter : Filter) :
    (o.selectCount filter).str =
      o.countHead ++ (listClause " where " (texts filter) " and " ++ "") := by
  have hhead : o.countHead = "select " ++ ("COUNT(id)" ++ (" from " ++ o.table)) := by
    cases o <;> decide
  rw [hhead, String.append_empty]
  simp only [String.append_assoc]
  cases o with
  | registry => exact count_str "registry" filter
  | device => exact count_str "device" filter
  | deviceTelemetry => exact count_str "device_telemetry" filter

lemma delete_text (o : Owner) (filter : Filter) :
    (deleteFrom o.deleted filter).str =
      o.deleteHead ++ (listClause " where " (texts filter) " and " ++ "") := by
  rw [deleteFrom_eq, DeleteModel.str, Owner.deleteHead, String.append_empty]

/-- A statement with strings from query parameters or from a model. -/
inductive Carrier where
  | page (o : Owner) (params : Params) (page : PageRequest)
  | count (o : Owner) (params : Params)
  | delete (o : Owner) (params : Params)
  | registryInsert (m : RegistryDo)
  | deviceInsert (m : DeviceDo)
  | telemetryInsert (m : DeviceTelemetryDo)
  | registryUpdate (m : RegistryDo)
  | deviceUpdate (m : DeviceDo)

namespace Carrier

variable (runtime : Runtime)

def model : Carrier → SqlModel
  | page o params p => .select (o.selectData (HttpRequestParams.filterOf params) p)
  | count o params => .select (o.selectCount (HttpRequestParams.filterOf params))
  | delete o params => .delete (deleteFrom o.deleted (HttpRequestParams.filterOf params))
  | registryInsert m => .insert (RegistryRepository.insertModel runtime m)
  | deviceInsert m => .insert (DeviceRepository.insertModel runtime m)
  | telemetryInsert m => .insert (DeviceTelemetryRepository.insertModel runtime m)
  | registryUpdate m => .update (RegistryRepository.updateModel runtime m)
  | deviceUpdate m => .update (DeviceRepository.updateModel runtime m)

/-- The strings, in the order of their places. -/
def data : Carrier → List String
  | page _ params _ => (entries params).map Prod.snd
  | count _ params => (entries params).map Prod.snd
  | delete _ params => (entries params).map Prod.snd
  | registryInsert m => [m.name, runtime.dump m.jsonData]
  | deviceInsert m => [m.name, runtime.dump m.jsonData]
  | telemetryInsert m => [runtime.dump m.jsonData]
  | registryUpdate m => [m.name, runtime.dump m.jsonData]
  | deviceUpdate m => [m.name, m.createdAt, m.uuid, runtime.dump m.jsonData]

def namedInsert (table name json : String) : Template :=
  let before := "insert into " ++ (table ++ "(name, json_data, uuid, updated_at) values(")
  let after := ", gen_random_uuid(), now()) returning id"
  ⟨before.toList, tokensOf before, [⟨name, ", ".toList, tokensOf ", "⟩,
    ⟨json, after.toList, tokensOf after⟩]⟩

def idTail (id : Int) : String := " where id = " ++ toString id

def idTokens (id : Int) : List Token := [.word "where", .word "id", .sym "=", .num (toString id)]

/-- The places of the strings in the text, if there are strings. -/
def template : Carrier → Option Template
  | page o params p => clauseTemplate o.pageHead (o.pageTail p) (o.pageTokens p) (entries params)
  | count o params => clauseTemplate o.countHead "" [] (entries params)
  | delete o params => clauseTemplate o.deleteHead "" [] (entries params)
  | registryInsert m => some (namedInsert "registry" m.name (runtime.dump m.jsonData))
  | deviceInsert m => some (namedInsert "device" m.name (runtime.dump m.jsonData))
  | telemetryInsert m =>
    let before := "insert into device_telemetry(device_id, json_data) values("
    some ⟨(before ++ (toString m.deviceId ++ ", ")).toList,
      tokensOf before ++ ([.num (toString m.deviceId)] ++ tokensOf ", "),
      [⟨runtime.dump m.jsonData, ") returning id".toList, tokensOf ") returning id"⟩]⟩
  | registryUpdate m =>
    let before := "update registry set name = "
    some ⟨before.toList, tokensOf before,
      [⟨m.name, (", status = " ++ (toString m.status ++ ", json_data = ")).toList,
        tokensOf ", status = " ++ ([.num (toString m.status)] ++ tokensOf ", json_data = ")⟩,
      ⟨runtime.dump m.jsonData, (idTail m.id).toList, idTokens m.id⟩]⟩
  | deviceUpdate m =>
    let before := "update device set name = "
    some ⟨before.toList, tokensOf before,
      [⟨m.name, ", createdAt = ".toList, tokensOf ", createdAt = "⟩,
      ⟨m.createdAt, (", status = " ++ (toString m.status ++ ", uuid = ")).toList,
        tokensOf ", status = " ++ ([.num (toString m.status)] ++ tokensOf ", uuid = ")⟩,
      ⟨m.uuid, ", json_data = ".toList, tokensOf ", json_data = "⟩,
      ⟨runtime.dump m.jsonData, (idTail m.id).toList, idTokens m.id⟩]⟩

/-! Each statement is the text of its template. -/

variable {runtime}

lemma insert_text {m : InsertModel} (hreplace : m.isReplace = false) :
    m.str = "insert into " ++ (m.tableName ++ ("(" ++ (strJoin m.columns ", " ++ (")" ++
      (" values(" ++ (strJoin m.values ", " ++ (")" ++
        listClause " returning " m.returnings ", "))))))) := by
  unfold InsertModel.str
  simp only [hreplace, Bool.false_eq_true, if_false, String.append_assoc]

lemma update_text (m : UpdateModel) :
    m.str = "update " ++ (m.tableName ++ (" set " ++ (strJoin m.setColumns ", " ++
      listClause " where " m.whereCondition " and "))) := by
  unfold UpdateModel.str
  simp only [String.append_assoc]

lemma namedInsert_text (table name json : String) :
    (((((InsertModel.new.insert "name" (.string name)).insert "json_data" (.string json)).insert
        "uuid" (.func "gen_random_uuid()")).insert "updated_at" (.func "now()")).into table
        |>.returning ["id"]).str = textOf (namedInsert table name json) := by
  have hbefore : "(name, json_data, uuid, updated_at) values(" =
      "(" ++ (strJoin namedColumns ", " ++ (")" ++ " values(")) := by decide
  have hafter : ", gen_random_uuid(), now()) returning id" =
      ", " ++ ("gen_random_uuid()" ++ (", " ++ ("now()" ++ (")" ++ " returning id")))) := by decide
  rw [insert_text rfl]
  change "insert into " ++ (table ++ ("(" ++ (strJoin namedColumns ", " ++ (")" ++ (" values(" ++
    (strJoin [toValue (.string name), toValue (.string json), "gen_random_uuid()", "now()"] ", " ++
      (")" ++ " returning id"))))))) = _
  simp only [namedInsert, textOf, partsText, String.ofList_toList, hbefore, hafter,
    strJoin_cons_cons, strJoin_singleton, String.append_assoc, String.append_empty]

lemma telemetryInsert_text (m : DeviceTelemetryDo) {t : Template}
    (h : (telemetryInsert m).template runtime = some t) :
    (DeviceTelemetryRepository.insertModel runtime m).str = textOf t := by
  obtain rfl := Option.some.inj h
  have hbefore : "insert into device_telemetry(device_id, json_data) values(" = "insert into " ++
      ("device_telemetry" ++ ("(" ++ (strJoin ["device_id", "json_data"] ", " ++
        (")" ++ " values(")))) := by decide
  have hafter : ") returning id" = ")" ++ " returning id" := by decide
  rw [insert_text rfl]
  change "insert into " ++ ("device_telemetry" ++ ("(" ++
    (strJoin ["device_id", "json_data"] ", " ++ (")" ++ (" values(" ++ (strJoin [toString m.deviceId,
      toValue (.string (runtime.dump m.jsonData))] ", " ++ (")" ++ " returning id"))))))) = _
  simp only [textOf, partsText, String.ofList_toList, hbefore, hafter, strJoin_cons_cons,
    strJoin_singleton, String.append_assoc, String.append_empty]

lemma where_id (id : Int) :
    listClause " where " [((Column.of "id").eq (.long id)).cond] " and " = idTail id := by
  have htail : " where id = " = " where " ++ ("id" ++ (" " ++ ("=" ++ " "))) := by decide
  change " where " ++ ("id" ++ (" " ++ "=" ++ " " ++ toString id)) = _
  simp only [idTail, htail, String.append_assoc]

lemma registryUpdate_text (m : RegistryDo) {t : Template}
    (h : (registryUpdate m).template runtime = some t) :
    (RegistryRepository.updateModel runtime m).str = textOf t := by
  obtain rfl := Option.some.inj h
  have hbefore : "update registry set name = " =
      "update " ++ ("registry" ++ (" set " ++ ("name" ++ " = "))) := by decide
  have hstatus : ", status = " = ", " ++ ("status" ++ " = ") := by decide
  have hjson : ", json_data = " = ", " ++ ("json_data" ++ " = ") := by decide
  rw [update_text]
  change "update " ++ ("registry" ++ (" set " ++ (strJoin [
    "name" ++ " = " ++ toValue (.string m.name), "status" ++ " = " ++ toString m.status,
    "json_data" ++ " = " ++ toValue (.string (runtime.dump m.jsonData))] ", " ++
      listClause " where " [((Column.of "id").eq (.long m.id)).cond] " and "))) = _
  simp only [where_id, textOf, partsText, String.ofList_toList, hbefore, hstatus, hjson,
    strJoin_cons_cons, strJoin_singleton, String.append_assoc, String.append_empty]

lemma deviceUpdate_text (m : DeviceDo) {t : Template}
    (h : (deviceUpdate m).template runtime = some t) :
    (DeviceRepository.updateModel runtime m).str = textOf t := by
  obtain rfl := Option.some.inj h
  have hbefore : "update device set name = " =
      "update " ++ ("device" ++ (" set " ++ ("name" ++ " = "))) := by decide
  have hcreated : ", createdAt = " = ", " ++ ("createdAt" ++ " = ") := by decide
  have hstatus : ", status = " = ", " ++ ("status" ++ " = ") := by decide
  have huuid : ", uuid = " = ", " ++ ("uuid" ++ " = ") := by decide
  have hjson : ", json_data = " = ", " ++ ("json_data" ++ " = ") := by decide
  rw [update_text]
  change "update " ++ ("device" ++ (" set " ++ (strJoin [
    "name" ++ " = " ++ toValue (.string m.name),
    "createdAt" ++ " = " ++ toValue (.string m.createdAt),
    "status" ++ " = " ++ toString m.status, "uuid" ++ " = " ++ toValue (.string m.uuid),
    "json_data" ++ " = " ++ toValue (.string (runtime.dump m.jsonData))] ", " ++
      listClause " where " [((Column.of "id").eq (.long m.id)).cond] " and "))) = _
  simp only [where_id, textOf, partsText, String.ofList_toList, hbefore, hcreated, hstatus, huuid,
    hjson, strJoin_cons_cons, strJoin_singleton, String.append_assoc, String.append_empty]

/-! The templates are well formed. -/

/-- Fixed text with a number in it. -/
lemma opens_number {a b : String} {ta tb : List Token} (ha : Opens a.toList ta)
    (hb : Separates b.toList tb) (n : Int) :
    Opens (a ++ (toString n ++ b)).toList (ta ++ ([.num (toString n)] ++ tb)) := by
  rw [String.toList_append, String.toList_append]
  exact ha.append_opens ((SqlTokens.lexes_int n).separator hb)

lemma separates_number {a b : String} {ta tb : List Token} (ha : Separates a.toList ta)
    (hb : Separates b.toList tb) (n : Int) :
    Separates (a ++ (toString n ++ b)).toList (ta ++ ([.num (toString n)] ++ tb)) := by
  obtain ⟨c, rest, hrest, hc⟩ := ha.ends
  exact ⟨⟨c, _, by rw [String.toList_append, hrest]; rfl, hc⟩, opens_number ha.opens hb n⟩

lemma follows_id (id : Int) :
    (∃ c rest, (idTail id).toList = c :: rest ∧ Ends c) ∧
      Lexes (idTail id).toList (idTokens id) := by
  rw [idTail, String.toList_append]
  refine ⟨⟨' ', _, rfl, by decide⟩, ?_⟩
  exact Opens.append (show Opens _ [.word "where", .word "id", .sym "="] by decide)
    (SqlTokens.lexes_int id)

lemma comma_separates : Separates ", ".toList (tokensOf ", ") :=
  separates_text (by decide) (by decide)

lemma status_separates : Separates ", status = ".toList (tokensOf ", status = ") :=
  separates_text (by decide) (by decide)

lemma json_separates : Separates ", json_data = ".toList (tokensOf ", json_data = ") :=
  separates_text (by decide) (by decide)

lemma namedInsert_wellFormed {table : String} (name json : String)
    (h : Opens (namedInsert table name json).before (namedInsert table name json).tokens) :
    (namedInsert table name json).WellFormed := by
  have hafter : Lexes ", gen_random_uuid(), now()) returning id".toList
      (tokensOf ", gen_random_uuid(), now()) returning id") := by decide
  exact ⟨⟨comma_separates, .inr ⟨exists_ends (by decide), hafter⟩⟩, h, by simp [namedInsert]⟩

theorem template_spec (s : Carrier) {t : Template} (h : s.template runtime = some t) :
    (s.model runtime).str = textOf t ∧ t.values = s.data runtime ∧ t.WellFormed := by
  cases s with
  | page o params p =>
    obtain ⟨htext, hvalues⟩ := clause_text h
    refine ⟨?_, hvalues, clause_wellFormed h o.lexes_heads.1 (o.follows_page p)
      (fun e he => entries_names he)⟩
    rw [← htext, ← texts_filterOf]
    exact page_text o _ p
  | count o params =>
    obtain ⟨htext, hvalues⟩ := clause_text h
    refine ⟨?_, hvalues, clause_wellFormed h o.lexes_heads.2.1 follows_empty
      (fun e he => entries_names he)⟩
    rw [← htext, ← texts_filterOf]
    exact count_text o _
  | delete o params =>
    obtain ⟨htext, hvalues⟩ := clause_text h
    refine ⟨?_, hvalues, clause_wellFormed h o.lexes_heads.2.2 follows_empty
      (fun e he => entries_names he)⟩
    rw [← htext, ← texts_filterOf]
    exact delete_text o _
  | registryInsert m =>
    obtain rfl := Option.some.inj h
    have hopen : Opens ("insert into " ++ ("registry" ++
        "(name, json_data, uuid, updated_at) values(")).toList _ := rfl
    exact ⟨namedInsert_text _ _ _, rfl, namedInsert_wellFormed _ _ hopen⟩
  | deviceInsert m =>
    obtain rfl := Option.some.inj h
    have hopen : Opens ("insert into " ++ ("device" ++
        "(name, json_data, uuid, updated_at) values(")).toList _ := rfl
    exact ⟨namedInsert_text _ _ _, rfl, namedInsert_wellFormed _ _ hopen⟩
  | telemetryInsert m =>
    have hbefore : Opens "insert into device_telemetry(device_id, json_data) values(".toList
        (tokensOf "insert into device_telemetry(device_id, json_data) values(") := by decide
    have hafter : Lexes ") returning id".toList (tokensOf ") returning id") := by decide
    refine ⟨telemetryInsert_text m h, ?_⟩
    obtain rfl := Option.some.inj h
    exact ⟨rfl, .inr ⟨exists_ends (by decide), hafter⟩,
      opens_number hbefore comma_separates m.deviceId, by simp⟩
  | registryUpdate m =>
    have hbefore : Opens "update registry set name = ".toList
        (tokensOf "update registry set name = ") := by decide
    refine ⟨registryUpdate_text m h, ?_⟩
    obtain rfl := Option.some.inj h
    exact ⟨rfl, ⟨separates_number status_separates json_separates m.status,
      .inr (follows_id m.id)⟩, hbefore, by simp⟩
  | deviceUpdate m =>
    have hbefore : Opens "update device set name = ".toList
        (tokensOf "update device set name = ") := by decide
    have hcreated : Separates ", createdAt = ".toList (tokensOf ", createdAt = ") :=
      separates_text (by decide) (by decide)
    have huuid : Separates ", uuid = ".toList (tokensOf ", uuid = ") :=
      separates_text (by decide) (by decide)
    refine ⟨deviceUpdate_text m h, ?_⟩
    obtain rfl := Option.some.inj h
    exact ⟨rfl, ⟨hcreated, separates_number status_separates huuid m.status, json_separates,
      .inr (follows_id m.id)⟩, hbefore, by simp⟩

end Carrier

end StatementTemplates
