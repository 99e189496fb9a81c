import RpiRobot.Paging
import RpiRobot.QueryPages
import RpiRobot.RestProtocol
import RpiRobot.TextPages

/-!
# The search for devices

What the server answers to the requests of `DevicesPage`: a window of the devices that have the
name and the registry, unless a row that the window needs cannot be read. The names are those
without a quote and without a NUL.
-/

namespace DeviceSearch

open SqlConditions (Expr Row Operand)
open SqlTables SqlServers DomainObjects RequestParams Repositories RepositoryStatements
open FieldQueries RowDecoding SecondSelects PageResults ListResults FilterConditions
open SqlBuilder (ColumnName Column)
open StringLiterals (QuoteFree)
open Paging (SearchFields whenText withPage)
open QueryPages (Query Response Site)
open RegistrySchema (schema)

-- Without this the unifier tries to parse the text of a statement.
attribute [local irreducible] textServer

/-! ## Queries -/

/-- The row has the name and the registry of the query, if the query has them. -/
def Fits (q : Query) (r : Row) : Prop :=
  (q.searchName = "" ∨ r "name" = .text q.searchName) ∧
    (q.registryId = 0 ∨ r "registry_id" = .int q.registryId)

instance (q : Query) : DecidablePred (Fits q) := fun _ => inferInstanceAs (Decidable (_ ∧ _))

/-- The devices that match the filters of the page. -/
def matching (d : Database schema) (q : Query) : List Row :=
  (d.rows "device").filter (fun r => decide (Fits q r))

/-- The rows of the page that the query asks for. -/
def pageOf (d : Database schema) (q : Query) : List Row :=
  windowAt q.pageSize (q.page - 1) (sortRows (some ⟨"id", false⟩) (matching d q))

/-- The server can read every row that the page needs. -/
def Listed (env : Env) (runtime : Runtime) (d : Database schema) (q : Query) : Prop :=
  ∀ r ∈ pageOf d q, DeviceReadable env runtime d r

/-- A query that keeps its meaning on the way to the server. -/
structure Plain (q : Query) : Prop where
  quoteFree : QuoteFree q.searchName.toList
  nulFree : NulFree q.searchName
  page : 1 ≤ q.page
  pageSize : 1 ≤ q.pageSize
  size : (q.pageSize : Int) ≤ DecimalText.intMax
  offset : ((q.pageSize * (q.page - 1) : Nat) : Int) ≤ DecimalText.intMax

/-- What the server answers; a request that fails has no response. -/
def answer (env : Env) (runtime : Runtime) (moment : Moment) (d : Database schema)
    (params : Params) : Option (Response DeviceDo) :=
  match HttpRequestParams.of params with
  | .ok p =>
    match DeviceRepository.findAll (textConnection env runtime moment) (fun _ => d) p.filter
        p.page with
    | .ok result => some ⟨result.data, result.total⟩
    | .error _ => none
  | .error _ => none

/-! ## Search fields -/

def registryIdColumn : ColumnName := ⟨"registry_id", by decide, by decide⟩

/-- The fields of the filter that the server makes of the search. -/
def searched (q : Query) : List Add :=
  (if q.searchName = "" then [] else [⟨nameColumn, .opEq, .string q.searchName⟩]) ++
    if q.registryId = 0 then [] else [⟨registryIdColumn, .opEq, .string (toString q.registryId)⟩]

def asked (q : Query) : List Expr :=
  (if q.searchName = "" then [] else [.cmp .eq (.col "name") (.str q.searchName)]) ++
    if q.registryId = 0 then [] else [.cmp .eq (.col "registry_id") (.str (toString q.registryId))]

variable {env : Env} {runtime : Runtime} {moment : Moment} {d : Database schema} {q : Query}

lemma filterOf_request (hpage : 1 ≤ q.page) (hsize : 1 ≤ q.pageSize) :
    HttpRequestParams.filterOf (Site.devices.getRequestParams q) = filterOf (searched q) := by
  obtain ⟨name, id, page, n⟩ := q
  obtain ⟨k, rfl⟩ : ∃ k, page = k + 1 := ⟨page - 1, (Nat.sub_add_cancel hpage).symm⟩
  rw [RequestParams.filterOf_eq, Site.getRequestParams, Paging.withPage_eq _ hsize, searched,
    whenText]
  by_cases hname : name = ""
  · by_cases hid : id = 0
    · rw [if_pos hname, if_pos hid, if_pos hname, if_pos hid]
      rfl
    · rw [if_pos hname, if_neg hid, if_pos hname, if_neg hid]
      rfl
  · by_cases hid : id = 0
    · rw [if_neg hname, if_pos hid, if_neg hname, if_pos hid]
      rfl
    · rw [if_neg hname, if_neg hid, if_neg hname, if_neg hid]
      rfl

lemma searched_asked (q : Query) :
    List.Forall₂ (fun a e => a.expr = some e) (searched q) (asked q) := by
  rw [searched, asked]
  refine List.rel_append ?_ ?_
  · split_ifs
    · exact .nil
    · exact .cons rfl .nil
  · split_ifs
    · exact .nil
    · exact .cons rfl .nil

lemma mem_searched {a : Add} (h : a ∈ searched q) :
    a = ⟨nameColumn, .opEq, .string q.searchName⟩ ∨
      a = ⟨registryIdColumn, .opEq, .string (toString q.registryId)⟩ := by
  rcases List.mem_append.mp h with h | h
  · split_ifs at h
    · cases h
    · exact .inl (List.mem_singleton.mp h)
  · split_ifs at h
    · cases h
    · exact .inr (List.mem_singleton.mp h)

lemma mem_asked {e : Expr} : e ∈ asked q ↔
    (q.searchName ≠ "" ∧ e = .cmp .eq (.col "name") (.str q.searchName)) ∨
      (q.registryId ≠ 0 ∧ e = .cmp .eq (.col "registry_id") (.str (toString q.registryId))) := by
  rw [asked, List.mem_append]
  refine or_congr ?_ ?_
  · split_ifs with hname
    · exact iff_of_false List.not_mem_nil fun h => h.1 hname
    · rw [List.mem_singleton, and_iff_right hname]
  · split_ifs with hid
    · exact iff_of_false List.not_mem_nil fun h => h.1 hid
    · rw [List.mem_singleton, and_iff_right hid]

lemma literal_checked {env : Env} (n : Int) :
    exprCheck env RegistrySchema.device (.cmp .eq (.col "registry_id") (.str (toString n))) =
      .ok () := by
  have hread : (DecimalText.intValue (toString n).toList).isSome = true := by
    rw [DecimalText.intValue_toString]
    rfl
  have hliteral : literalAs env (toString n) .number = none := if_pos hread
  change require (literalAs env (toString n) .number) = .ok ()
  rw [hliteral]
  rfl

lemma Plain.kept (h : Plain q) : ∀ a ∈ searched q, a.Kept := by
  intro a ha
  rcases mem_searched ha with rfl | rfl
  · exact ⟨h.quoteFree, h.nulFree⟩
  · exact ⟨StringLiterals.quoteFree_int q.registryId, nulFree_int q.registryId⟩

/-- The filter of the request asks for the devices with the name and the registry. -/
lemma Plain.asks (h : Plain q) (env : Env) :
    TextPages.Asks env RegistrySchema.device (filterOf (searched q)) (asked q) where
  atomic := (atomic_conditions (searched_asked q) h.kept).1
  checked := by
    intro e he
    rcases mem_asked.mp he with ⟨-, rfl⟩ | ⟨-, rfl⟩
    · exact TextQueries.check_text rfl rfl q.searchName
    · exact literal_checked q.registryId
  nulFree := List.forall_mem_map.mpr (atomic_conditions (searched_asked q) h.kept).2

lemma Plain.matches_iff (h : Plain q) {r : Row} (hr : r ∈ d.rows "device") :
    Matches TextPages.sqlReading "device" (filterOf (searched q)) r = true ↔ Fits q r := by
  have hname := TextQueries.text_sat (device_fields d.consistent hr).name q.searchName
  obtain ⟨n, hn, -⟩ := device_registryId d.consistent hr
  have hregistry := MemberConditions.literal_sat q.registryId hn
  rw [Fits, hn, SqlConditions.Value.int.injEq]
  rw [TextPages.matches_atomic (atomic_conditions (searched_asked q) h.kept).1]
  simp only [mem_asked]
  constructor
  · intro hall
    constructor
    · by_cases hempty : q.searchName = ""
      · exact .inl hempty
      · exact .inr (hname.mp (hall _ (.inl ⟨hempty, rfl⟩)))
    · by_cases hzero : q.registryId = 0
      · exact .inl hzero
      · exact .inr (hregistry.mp (hall _ (.inr ⟨hzero, rfl⟩)))
  · rintro ⟨hfitsName, hfitsRegistry⟩ e (⟨hempty, rfl⟩ | ⟨hzero, rfl⟩)
    · exact hname.mpr (hfitsName.resolve_left hempty)
    · exact hregistry.mpr (hfitsRegistry.resolve_left hzero)

lemma of_requested {params : Params} {page : PageRequest}
    (h : Paging.requested params = .ok page) :
    HttpRequestParams.of params = .ok ⟨HttpRequestParams.filterOf params, page⟩ := by
  rw [Paging.requested, HttpRequestParams.of] at h
  rw [HttpRequestParams.of]
  cases hsize : HttpRequestParams.sizeOf params with
  | error e =>
    rw [hsize] at h
    cases h
  | ok size =>
    rw [hsize] at h
    change ((HttpRequestParams.offsetOf params size >>= _).map _) = _ at h
    change (HttpRequestParams.offsetOf params size >>= _) = _
    cases hoffset : HttpRequestParams.offsetOf params size with
    | error e =>
      rw [hoffset] at h
      cases h
    | ok offset =>
      rw [hoffset] at h
      obtain rfl := Except.ok.inj h
      rfl

/-- What the server makes of the request. -/
lemma Plain.requested (h : Plain q) :
    HttpRequestParams.of (Site.devices.getRequestParams q) =
      .ok ⟨filterOf (searched q), ⟨(q.pageSize * (q.page - 1) : Nat), q.pageSize, true⟩⟩ := by
  have hfields : SearchFields (whenText "name" q.searchName ++
      if q.registryId = 0 then [] else [("registry_id", toString q.registryId)]) := by
    refine Paging.searchFields_append (Paging.searchFields_text _ (by decide) _) ?_
    split_ifs
    · exact fun _ hf => absurd hf List.not_mem_nil
    · intro f hf
      rw [List.mem_singleton.mp hf]
      exact ⟨(by decide : "registry_id" ≠ "page"), (by decide : "registry_id" ≠ "size")⟩
  have hpage := Paging.requested_eq hfields h.pageSize h.size h.offset
  rw [Nat.sub_add_cancel h.page] at hpage
  have hfilter := filterOf_request (q := q) h.page h.pageSize
  rw [← hfilter]
  exact of_requested hpage

/-! ## Answers -/

lemma Plain.matching_eq (h : Plain q) (d : Database schema) :
    (d.rows "device").filter (Matches TextPages.sqlReading "device" (filterOf (searched q))) =
      matching d q := by
  refine List.filter_congr fun r hr => ?_
  rw [Bool.eq_iff_iff, decide_eq_true_iff]
  exact h.matches_iff hr

lemma Plain.rows_eq (h : Plain q) (d : Database schema) :
    pageRows TextPages.sqlReading "device" (filterOf (searched q)) false
      ⟨(q.pageSize * (q.page - 1) : Nat), q.pageSize, true⟩ (d.rows "device") = pageOf d q := by
  rw [Paging.pageRows_window, Paging.matchingRows, h.matching_eq]
  rfl

variable (env runtime moment d) in
lemma answer_some {r : Response DeviceDo} {params : Params} {p : HttpRequestParams}
    (hp : HttpRequestParams.of params = .ok p) :
    answer env runtime moment d params = some r ↔
      DeviceRepository.findAll (textConnection env runtime moment) (fun _ => d) p.filter p.page =
        .ok ⟨r.data, r.total⟩ := by
  rw [answer, hp]
  dsimp only
  generalize DeviceRepository.findAll (textConnection env runtime moment) (fun _ => d)
    p.filter p.page = found
  cases found with
  | error e => exact iff_of_false nofun nofun
  | ok result =>
    obtain ⟨data, total⟩ := r
    obtain ⟨data', total'⟩ := result
    simp

lemma searched_contains (q : Query) : (filterOf (searched q)).contains "id" = false := by
  rw [Filter.contains, List.any_eq_false, FilterConditions.filterOf_eq]
  intro field hfield
  obtain ⟨a, ha, rfl⟩ := List.mem_map.mp hfield
  rcases mem_searched ha with rfl | rfl
  · exact of_decide_eq_false rfl
  · exact of_decide_eq_false rfl

/-- The request for a list gets to `handleGet`. -/
lemma Plain.handled (h : Plain q) (c : Connection) (d : Database schema) (body : String) :
    RestProtocol.deviceController.handle c d
        ⟨.get, some (Site.devices.getRequestParams q), body⟩ =
      RestProtocol.deviceController.handleGet c d
        ⟨filterOf (searched q), ⟨(q.pageSize * (q.page - 1) : Nat), q.pageSize, true⟩⟩ := by
  have hnoId : ¬ (filterOf (searched q)).contains "id" = true := by
    rw [searched_contains]
    exact Bool.false_ne_true
  rw [RestController.RestRepositoryController.handle]
  dsimp only
  rw [h.requested]
  dsimp only
  rw [RestController.RestRepositoryController.dispatch, if_neg hnoId]
  dsimp only
  rw [if_neg hnoId]

variable (env runtime moment d) in
/-- The body that the controller of the devices sends is that of the answer, and it throws if
there is none. -/
theorem handle_answer (h : Plain q) (body : String) :
    (∀ r, answer env runtime moment d (Site.devices.getRequestParams q) = some r →
      (RestProtocol.deviceController.handle (textConnection env runtime moment) d
        ⟨.get, some (Site.devices.getRequestParams q), body⟩).1 =
          .ok (runtime.dump (RestProtocol.deviceController.pageJson ⟨r.data, r.total⟩))) ∧
    (answer env runtime moment d (Site.devices.getRequestParams q) = none →
      ∃ e, (RestProtocol.deviceController.handle (textConnection env runtime moment) d
        ⟨.get, some (Site.devices.getRequestParams q), body⟩).1 = .error e) := by
  have hrepository : RestProtocol.deviceController.repository.findAll = DeviceRepository.findAll :=
    rfl
  have hanswer := fun r => answer_some env runtime moment d (r := r) h.requested
  rw [h.handled, RestController.RestRepositoryController.handleGet, hrepository]
  generalize answer env runtime moment d (Site.devices.getRequestParams q) = answered at hanswer ⊢
  generalize DeviceRepository.findAll (textConnection env runtime moment) (fun _ => d) _ _ = found
    at hanswer ⊢
  cases found with
  | error e =>
    refine ⟨fun r hr => ?_, fun _ => ⟨_, rfl⟩⟩
    cases (hanswer r).mp hr
  | ok result =>
    have hsome := (hanswer ⟨result.data, result.total⟩).mpr rfl
    constructor
    · intro r hr
      obtain rfl := Option.some.inj (hsome.symm.trans hr)
      rfl
    · intro hnone
      rw [hsome] at hnone
      cases hnone

variable (env runtime moment d) in
/-- The server answers just if it can read the rows of the page, and then with these rows and
with how many match. -/
theorem answer_spec (h : Plain q) :
    ((∃ r, answer env runtime moment d (Site.devices.getRequestParams q) = some r) ↔
      Listed env runtime d q) ∧
    ∀ r, answer env runtime moment d (Site.devices.getRequestParams q) = some r →
      List.Forall₂ (fun row o => DeviceShows env runtime o row) (pageOf d q) r.data ∧
      r.total = (matching d q).length := by
  have hserves := TextPages.serves_text runtime moment d (h.asks env)
  have hs : (0 : Int) ≤ q.pageSize := Int.natCast_nonneg _
  have ho : (0 : Int) ≤ (q.pageSize * (q.page - 1) : Nat) := Int.natCast_nonneg _
  constructor
  · rw [Listed, ← h.rows_eq, ← hserves.ok_iff _ hs ho]
    constructor
    · rintro ⟨r, hr⟩
      exact ⟨_, (answer_some env runtime moment d h.requested).mp hr⟩
    · rintro ⟨result, hresult⟩
      have hsome := answer_some env runtime moment d (r := ⟨result.data, result.total⟩) h.requested
      exact ⟨_, hsome.mpr hresult⟩
  · intro r hr
    have hfind := (answer_some env runtime moment d h.requested).mp hr
    refine ⟨?_, ?_⟩
    · have hdata := hserves.data _ _ hfind hs ho
      rwa [h.rows_eq] at hdata
    · have htotal := hserves.total _ _ hfind rfl hs ho
      rwa [h.matching_eq] at htotal

/-- A page has rows just if it is not behind the last one. -/
lemma pageOf_ne_nil (hsize : 1 ≤ q.pageSize) :
    pageOf d q ≠ [] ↔ q.pageSize * (q.page - 1) < (matching d q).length := by
  rw [← List.length_pos_iff, pageOf, windowAt, List.length_take, List.length_drop,
    (Paging.sort_perm false _).length_eq]
  omega

lemma listed_of_readable (h : ∀ r ∈ d.rows "device", DeviceReadable env runtime d r) (q : Query) :
    Listed env runtime d q := by
  intro r hr
  have hsorted : r ∈ sortRows (some ⟨"id", false⟩) (matching d q) :=
    List.mem_of_mem_drop (List.mem_of_mem_take hr)
  exact h r (List.mem_of_mem_filter ((Paging.sort_perm false _).mem_iff.mp hsorted))

end DeviceSearch
