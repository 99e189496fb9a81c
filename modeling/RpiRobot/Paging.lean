import RpiRobot.PageResults

/-!
# Paging

The list pages of the client ask for their pages by number and size, the server turns
the two into an offset and a limit. For a fixed database the pages put together are
the matching rows in the order of their ids, provided every row has JSON that the
client of the database can read: `json_data` may be null, and then `findAll` throws.
-/

namespace Paging

open SqlConditions (Row)
open SqlTables SqlServers DomainObjects RequestParams Repositories RepositoryStatements
open FieldQueries RowDecoding SecondSelects PageResults ListResults
open RegistrySchema (schema)
open DecimalText (StdError)

/-! The requests of the client. A parameter that is zero or empty is left out. -/

def whenText (key value : String) : Params := if value = "" then [] else [(key, value)]

def whenNumber (key : String) (n value : Nat) : Params :=
  if n = 0 then [] else [(key, toString (value : Int))]

/-- What the three `getRequestParams` do after their search fields. -/
def withPage (fields : Params) (page pageSize : Nat) : Params :=
  fields ++ whenNumber "page" page (page - 1) ++ whenNumber "size" pageSize pageSize

namespace DevicesPage

def getRequestParams (searchName : String) (registryId page pageSize : Nat) : Params :=
  withPage (whenText "name" searchName ++ whenNumber "registry_id" registryId registryId) page
    pageSize

end DevicesPage

namespace RegistryPage

def getRequestParams (searchName : String) (page pageSize : Nat) : Params :=
  withPage (whenText "name" searchName) page pageSize

end RegistryPage

namespace DeviceTelemetry

/-- The id comes as text from the address of the page. -/
def getRequestParams (deviceId : String) (page pageSize : Nat) : Params :=
  withPage (whenText "device_id" deviceId) page pageSize

end DeviceTelemetry

/-- `Math.ceil(response.data.total / pageSize)`. -/
def pageCount (total pageSize : Nat) : Nat := (total + pageSize - 1) / pageSize

/-- What the server makes of a request. -/
def requested (params : Params) : Except StdError PageRequest :=
  (HttpRequestParams.of params).map HttpRequestParams.page

/-- The sizes and offsets of all pages are values of an `int`. -/
def InRange (total pageSize : Nat) : Prop :=
  1 ≤ pageSize ∧ (pageSize : Int) ≤ DecimalText.intMax ∧
    ((pageSize * (pageCount total pageSize - 1) : Nat) : Int) ≤ DecimalText.intMax

instance (total pageSize : Nat) : Decidable (InRange total pageSize) :=
  inferInstanceAs (Decidable (_ ∧ _ ∧ _))

def Before (descending : Bool) (r s : Row) : Prop :=
  ∃ m n, r "id" = .int m ∧ s "id" = .int n ∧ if descending then n < m else m < n

/-- The pages from 1 to the last one put together are the rows, each once and in the
order of the ids, and every page tells how many rows there are. -/
def Lossless {T : Type} (repository : Repository T) (c : Connection) (d : Database schema)
    (filter : Filter) (request : Nat → Params) (pageSize : Nat) (matching : List Row)
    (descending : Bool) (shows : T → Row → Prop) : Prop :=
  ∃ pages : List (Page T),
    List.Forall₂ (fun k result => ∃ page, requested (request (k + 1)) = .ok page ∧
        repository.findAll c (fun _ => d) filter page = .ok result)
      (List.range (pageCount matching.length pageSize)) pages ∧
    (∀ result ∈ pages, result.total = matching.length) ∧
    ∃ rows, rows.Perm matching ∧ rows.Pairwise (Before descending) ∧
      List.Forall₂ (fun r o => shows o r) rows (pages.flatMap Page.data)

/-! The arithmetic of the pages. -/

lemma length_le_pages {total pageSize : Nat} (h : 1 ≤ pageSize) :
    total ≤ pageSize * pageCount total pageSize := by
  rw [pageCount]
  have hdiv := Nat.div_add_mod (total + pageSize - 1) pageSize
  have hmod := Nat.mod_lt (total + pageSize - 1) h
  omega

/-- Search fields say nothing about page and size. -/
def SearchFields (fields : Params) : Prop := ∀ f ∈ fields, f.1 ≠ "page" ∧ f.1 ≠ "size"

lemma withPage_eq (fields : Params) {k n : Nat} (hn : 1 ≤ n) :
    withPage fields (k + 1) n =
      fields ++ [("page", toString (k : Int)), ("size", toString (n : Int))] := by
  rw [withPage, whenNumber, whenNumber, if_neg (by omega), if_neg (by omega), List.append_assoc,
    Nat.add_sub_cancel]
  rfl

lemma find_size {fields : Params} (hf : SearchFields fields) {k n : Nat} (hn : 1 ≤ n) :
    (withPage fields (k + 1) n).find "size" = some (toString (n : Int)) := by
  have hnone : fields.lookup "size" = none := by
    rw [List.lookup_eq_none_iff]
    intro f hm
    simpa using (hf f hm).2.symm
  rw [Params.find, withPage_eq fields hn, List.lookup_append, hnone]
  rfl

lemma findLast_page (fields : Params) {k n : Nat} (hn : 1 ≤ n) :
    (withPage fields (k + 1) n).findLast "page" = some (toString (k : Int)) := by
  rw [Params.findLast, withPage_eq fields hn, List.reverse_append]
  rfl

/-- The server reads the page that the client means. -/
lemma requested_eq {fields : Params} (hf : SearchFields fields) {k n : Nat} (hn : 1 ≤ n)
    (hsize : (n : Int) ≤ DecimalText.intMax)
    (hoffset : ((n * k : Nat) : Int) ≤ DecimalText.intMax) :
    requested (withPage fields (k + 1) n) = .ok ⟨(n * k : Nat), n, true⟩ := by
  have hk : (k : Int) ≤ DecimalText.intMax := by
    refine le_trans ?_ hoffset
    exact_mod_cast Nat.le_mul_of_pos_left k hn
  have hnum : ∀ m : Nat, (m : Int) ≤ DecimalText.intMax → DecimalText.stoi (toString (m : Int)) =
      .ok m := by
    intro m hm
    refine DecimalText.stoi_toString m ⟨?_, hm⟩
    rw [DecimalText.intMin]
    omega
  have hbmod : ((n : Int) * (k : Int)).bmod (2 ^ 32) = ((n * k : Nat) : Int) := by
    rw [DecimalText.intMax] at hoffset
    rw [← Nat.cast_mul]
    exact Int.bmod_eq_of_le (by omega) (by omega)
  rw [requested, HttpRequestParams.of, HttpRequestParams.sizeOf, find_size hf hn]
  change ((DecimalText.stoi (toString (n : Int)) >>= fun size =>
    HttpRequestParams.offsetOf (withPage fields (k + 1) n) size >>= _).map _) = _
  rw [hnum n hsize]
  change ((HttpRequestParams.offsetOf (withPage fields (k + 1) n) n >>= _).map _) = _
  rw [HttpRequestParams.offsetOf, findLast_page fields hn]
  change (((DecimalText.stoi (toString (k : Int))).map _ >>= _).map _) = _
  rw [hnum k hk]
  change Except.ok (⟨((n : Int) * (k : Int)).bmod (2 ^ 32), n, true⟩ : PageRequest) = _
  rw [hbmod]

/-! The order of the rows. -/

lemma before_of_lt {l : Listing} {d : Database schema} {r s : Row} (hr : r ∈ d.rows l.own.name)
    (hs : s ∈ d.rows l.own.name) {descending : Bool}
    (h : if descending then idOf s < idOf r else idOf r < idOf s) : Before descending r s :=
  ⟨idOf r, idOf s, (l.id_value hr).1, (l.id_value hs).1, h⟩

/-- Sorted by their ids, the rows come in a strict order. -/
lemma sort_before (l : Listing) {d : Database schema} {matching : List Row}
    (hsub : matching.Sublist (d.rows l.own.name)) (descending : Bool) :
    (sortRows (some ⟨"id", descending⟩) matching).Pairwise (Before descending) := by
  have hle : ∀ r ∈ matching, ∀ s ∈ matching,
      (Value.le (r "id") (s "id") = true ↔ idOf r ≤ idOf s) := by
    intro r hr s hs
    rw [(l.id_value (hsub.subset hr)).1, (l.id_value (hsub.subset hs)).1, Value.le,
      decide_eq_true_iff]
  have hnodup : (matching.map idOf).Nodup := l.ids_nodup.sublist (hsub.map idOf)
  have hmem : ∀ r ∈ sortRows (some ⟨"id", descending⟩) matching, r ∈ d.rows l.own.name := by
    intro r hr
    refine hsub.subset ?_
    cases descending <;> exact (List.mem_insertionSort _).mp hr
  have hsorted : (sortRows (some ⟨"id", descending⟩) matching).Pairwise
      (fun r s => if descending then idOf s < idOf r else idOf r < idOf s) := by
    cases descending with
    | false =>
      have hmap := List.map_insertionSort (fun r s : Row => Value.le (r "id") (s "id") = true)
        (fun m n : Int => m ≤ n) idOf matching hle
      have hids := (List.pairwise_insertionSort (fun m n : Int => m ≤ n) (matching.map idOf)).and
        ((List.perm_insertionSort _ _).nodup_iff.mpr hnodup)
      rw [← hmap, List.pairwise_map] at hids
      exact hids.imp (fun h => lt_of_le_of_ne h.1 h.2)
    | true =>
      have hmap := List.map_insertionSort (fun r s : Row => Value.le (s "id") (r "id") = true)
        (fun m n : Int => m ≥ n) idOf matching (fun r hr s hs => hle s hs r hr)
      have hids := (List.pairwise_insertionSort (fun m n : Int => m ≥ n) (matching.map idOf)).and
        ((List.perm_insertionSort _ _).nodup_iff.mpr hnodup)
      rw [← hmap, List.pairwise_map] at hids
      exact hids.imp (fun h => lt_of_le_of_ne h.1 h.2.symm)
  exact hsorted.imp_of_mem (fun hr hs h => before_of_lt (hmem _ hr) (hmem _ hs) h)

lemma sort_perm (descending : Bool) (matching : List Row) :
    (sortRows (some ⟨"id", descending⟩) matching).Perm matching := by
  cases descending <;> exact List.perm_insertionSort _ _

/-! All pages. -/

section
variable {T : Type} {repository : Repository T} {c : Connection} {d : Database schema}
  {filter : Filter} {sat : Reading} {l : Listing} {readable : Row → Prop} {shows : T → Row → Prop}

/-- The rows that match the filter. -/
def matchingRows (sat : Reading) (name : String) (filter : Filter) (d : Database schema) :
    List Row := (d.rows name).filter (Matches sat name filter)

/-- A page holds one window of the sorted rows. -/
lemma pageRows_window (name : String) (descending : Bool) (n k : Nat) :
    pageRows sat name filter descending ⟨(n * k : Nat), n, true⟩ (d.rows name) =
      windowAt n k (sortRows (some ⟨"id", descending⟩) (matchingRows sat name filter d)) := by
  rw [pageRows, window, windowAt, Option.getD_some, Int.toNat_natCast]
  rfl

theorem lossless_iff
    (hserves : Serves repository c d filter
      (fun page => pageRows sat l.own.name filter l.descending page (d.rows l.own.name))
      (matchingRows sat l.own.name filter d).length readable shows)
    {fields : Params} (hf : SearchFields fields) {n : Nat}
    (hrange : InRange (matchingRows sat l.own.name filter d).length n) :
    Lossless repository c d filter (fun p => withPage fields p n) n
      (matchingRows sat l.own.name filter d) l.descending shows ↔
      ∀ r ∈ matchingRows sat l.own.name filter d, readable r := by
  obtain ⟨hn, hsize, hoffset⟩ := hrange
  have hsub : (matchingRows sat l.own.name filter d).Sublist (d.rows l.own.name) :=
    List.filter_sublist
  have hperm := sort_perm l.descending (matchingRows sat l.own.name filter d)
  have hbefore := sort_before l hsub l.descending
  generalize hsorted : sortRows (some ⟨"id", l.descending⟩) (matchingRows sat l.own.name filter d) =
    sorted at hperm hbefore
  generalize hN : pageCount (matchingRows sat l.own.name filter d).length n = N at hoffset
  have hall : (List.range N).flatMap (fun k => windowAt n k sorted) = sorted := by
    refine flatMap_windows_eq ?_
    rw [hperm.length_eq, ← hN]
    exact length_le_pages hn
  have hrequest : ∀ k ∈ List.range N,
      requested (withPage fields (k + 1) n) = .ok ⟨(n * k : Nat), n, true⟩ := by
    intro k hk
    have hle : n * k ≤ n * (N - 1) := Nat.mul_le_mul_left n (by
      have := List.mem_range.mp hk
      omega)
    exact requested_eq hf hn hsize (le_trans (by exact_mod_cast hle) hoffset)
  have hrows : ∀ k, pageRows sat l.own.name filter l.descending ⟨(n * k : Nat), n, true⟩
      (d.rows l.own.name) = windowAt n k sorted := by
    intro k
    rw [pageRows_window, hsorted]
  have hpage : ∀ k, (0 : Int) ≤ n ∧ (0 : Int) ≤ (n * k : Nat) := fun k => ⟨by omega, by omega⟩
  rw [Lossless, hN]
  constructor
  · rintro ⟨pages, hpages, _⟩ r hr
    have hmem : r ∈ (List.range N).flatMap (fun k => windowAt n k sorted) := by
      rw [hall]
      exact hperm.mem_iff.mpr hr
    obtain ⟨k, hk, hrk⟩ := List.mem_flatMap.mp hmem
    obtain ⟨result, _, page, hreq, hfind⟩ := exists_of_forall₂ hpages hk
    obtain rfl := Except.ok.inj ((hrequest k hk).symm.trans hreq)
    exact (hserves.ok_iff _ (hpage k).1 (hpage k).2).mp ⟨result, hfind⟩ r (by rwa [hrows])
  · intro hreadable
    have hex : ∀ k ∈ List.range N, ∃ result, ∃ page,
        requested (withPage fields (k + 1) n) = .ok page ∧
          repository.findAll c (fun _ => d) filter page = .ok result := by
      intro k hk
      obtain ⟨result, hfind⟩ := (hserves.ok_iff ⟨(n * k : Nat), n, true⟩ (hpage k).1
        (hpage k).2).mpr (fun r hr => hreadable r (hperm.mem_iff.mp (by
          rw [hrows] at hr
          exact List.mem_of_mem_drop (List.mem_of_mem_take hr))))
      exact ⟨result, _, hrequest k hk, hfind⟩
    obtain ⟨pages, hpages⟩ := exists_forall₂_iff.mpr hex
    refine ⟨pages, hpages, ?_, sorted, hperm, hbefore, ?_⟩
    · intro result hresult
      obtain ⟨k, hk, page, hreq, hfind⟩ := exists_of_forall₂ (List.Forall₂.flip hpages) hresult
      obtain rfl := Except.ok.inj ((hrequest k hk).symm.trans hreq)
      exact hserves.total _ _ hfind rfl (hpage k).1 (hpage k).2
    · rw [← hall]
      refine forall₂_flatMap hpages (fun k hk result hresult => ?_)
      obtain ⟨page, hreq, hfind⟩ := hresult
      obtain rfl := Except.ok.inj ((hrequest k hk).symm.trans hreq)
      have hdata := hserves.data _ _ hfind (hpage k).1 (hpage k).2
      rwa [hrows] at hdata

end

lemma searchFields_text (key : String) (h : key ≠ "page" ∧ key ≠ "size") (value : String) :
    SearchFields (whenText key value) := by
  intro f hf
  rw [whenText] at hf
  split_ifs at hf
  · exact absurd hf List.not_mem_nil
  · rw [List.mem_singleton.mp hf]
    exact h

lemma searchFields_number {key : String} (h : key ≠ "page" ∧ key ≠ "size") (n value : Nat) :
    SearchFields (whenNumber key n value) := by
  intro f hf
  rw [whenNumber] at hf
  split_ifs at hf
  · exact absurd hf List.not_mem_nil
  · rw [List.mem_singleton.mp hf]
    exact h

lemma searchFields_append {a b : Params} (ha : SearchFields a) (hb : SearchFields b) :
    SearchFields (a ++ b) := by
  intro f hf
  rcases List.mem_append.mp hf with hf | hf
  · exact ha f hf
  · exact hb f hf

lemma matchingRows_own (sat : Reading) (name : String) (filter : Filter) (d : Database schema) :
    matchingRows (ownReading sat name) name filter d = matchingRows sat name filter d := by
  rw [matchingRows, matchingRows]
  refine List.filter_congr (fun r _ => ?_)
  rw [Matches, Matches, ownReading_own]

/-- The pages lose and repeat nothing exactly if every row they need is readable. -/
theorem paging_lossless_iff (env : Env) (runtime : Runtime) (moment : Moment) (sat : Reading)
    (d : Database schema) (filter : Filter) (searchName deviceId : String) (registryId n : Nat) :
    (InRange (matchingRows sat "registry" filter d).length n →
      (Lossless RegistryRepository.repository
        (fieldConnection env runtime moment (ownReading sat "registry")) d filter
        (fun p => RegistryPage.getRequestParams searchName p n) n
        (matchingRows sat "registry" filter d) false (RegistryShows env runtime) ↔
      ∀ r ∈ matchingRows sat "registry" filter d, Readable env runtime (r "json_data"))) ∧
    (InRange (matchingRows sat "device" filter d).length n →
      (Lossless DeviceRepository.repository
        (fieldConnection env runtime moment (ownReading sat "device")) d filter
        (fun p => DevicesPage.getRequestParams searchName registryId p n) n
        (matchingRows sat "device" filter d) false (DeviceShows env runtime) ↔
      ∀ r ∈ matchingRows sat "device" filter d, DeviceReadable env runtime d r)) ∧
    (InRange (matchingRows sat "device_telemetry" filter d).length n →
      (Lossless DeviceTelemetryRepository.repository
        (fieldConnection env runtime moment (ownReading sat "device_telemetry")) d filter
        (fun p => DeviceTelemetry.getRequestParams deviceId p n) n
        (matchingRows sat "device_telemetry" filter d) true (TelemetryShows env runtime) ↔
      ∀ r ∈ matchingRows sat "device_telemetry" filter d, TelemetryReadable env runtime d r)) := by
  rw [← matchingRows_own sat "registry", ← matchingRows_own sat "device",
    ← matchingRows_own sat "device_telemetry"]
  have hname := searchFields_text "name" (by decide) searchName
  refine ⟨fun h => ?_, fun h => ?_, fun h => ?_⟩
  · exact lossless_iff (l := registryListing) serves_registry hname h
  · exact lossless_iff (l := deviceListing) serves_device
      (searchFields_append hname (searchFields_number (by decide) registryId registryId)) h
  · exact lossless_iff (l := telemetryListing) serves_telemetry
      (searchFields_text _ (by decide) deviceId) h

/-- Every row, whatever the condition. -/
def anyRow : Reading := fun _ _ _ => true

/-- The shipped rows and records of both devices. -/
def measured : Database schema where
  rows
    | "device_telemetry" => [
      newRow RegistrySchema.setup RegistrySchema.deviceTelemetry 1
        [("id", .int 1), ("device_id", .int 1), ("json_data", .json RegistrySchema.online)],
      newRow RegistrySchema.setup RegistrySchema.deviceTelemetry 1
        [("id", .int 2), ("device_id", .int 2), ("json_data", .json (.object []))],
      newRow RegistrySchema.setup RegistrySchema.deviceTelemetry 1
        [("id", .int 3), ("device_id", .int 1), ("json_data", .json (.object []))]]
    | table => RegistrySchema.shippedRows table
  serial _ := 4
  consistent := by decide

theorem paging_lossless_shipped :
    Lossless RegistryRepository.repository (fieldConnection RegistrySchema.shippedEnv shippedRuntime
      RegistrySchema.setup (ownReading anyRow "registry")) measured Filter.create
      (fun p => RegistryPage.getRequestParams "" p 1) 1
      (matchingRows anyRow "registry" Filter.create measured) false
      (RegistryShows RegistrySchema.shippedEnv shippedRuntime) ∧
    Lossless DeviceRepository.repository (fieldConnection RegistrySchema.shippedEnv shippedRuntime
      RegistrySchema.setup (ownReading anyRow "device")) measured Filter.create
      (fun p => DevicesPage.getRequestParams "" 0 p 1) 1
      (matchingRows anyRow "device" Filter.create measured) false
      (DeviceShows RegistrySchema.shippedEnv shippedRuntime) ∧
    Lossless DeviceTelemetryRepository.repository (fieldConnection RegistrySchema.shippedEnv
      shippedRuntime RegistrySchema.setup (ownReading anyRow "device_telemetry"))
      measured Filter.create (fun p => DeviceTelemetry.getRequestParams "1" p 1) 1
      (matchingRows anyRow "device_telemetry" Filter.create measured) true
      (TelemetryShows RegistrySchema.shippedEnv shippedRuntime) := by
  have h := paging_lossless_iff RegistrySchema.shippedEnv shippedRuntime RegistrySchema.setup anyRow
    measured Filter.create "" "1" 0 1
  have hreadable : ∀ table ∈ ["registry", "device", "device_configuration", "device_telemetry"],
      ∀ r ∈ measured.rows table,
        Readable RegistrySchema.shippedEnv shippedRuntime (r "json_data") := by decide
  refine ⟨(h.1 (by decide)).mpr fun r hr => ?_, (h.2.1 (by decide)).mpr fun r hr => ?_,
    (h.2.2 (by decide)).mpr fun r hr => ?_⟩
  · exact hreadable "registry" (by decide) r (List.mem_of_mem_filter hr)
  · exact ⟨hreadable "device" (by decide) r (List.mem_of_mem_filter hr),
      fun s hs _ => hreadable "device_configuration" (by decide) s hs⟩
  · exact ⟨hreadable "device_telemetry" (by decide) r (List.mem_of_mem_filter hr),
      fun s hs _ => hreadable "device" (by decide) s hs⟩

/-- A registry without `json_data`, which the schema admits. -/
def withoutJson : Database schema where
  rows
    | "registry" => [newRow RegistrySchema.setup RegistrySchema.registry 1
        [("id", .int 1), ("name", .text "smart_home"),
          ("uuid", .text "4d8a3176-c0c1-11ed-afa1-0242ac120002")]]
    | _ => []
  serial _ := 2
  consistent := by decide

/-- The page with that registry is an exception. -/
theorem paging_null_json :
    ¬ Lossless RegistryRepository.repository (fieldConnection RegistrySchema.shippedEnv
      shippedRuntime RegistrySchema.setup (ownReading anyRow "registry")) withoutJson Filter.create
      (fun p => RegistryPage.getRequestParams "" p 10) 10
      (matchingRows anyRow "registry" Filter.create withoutJson) false
      (RegistryShows RegistrySchema.shippedEnv shippedRuntime) := by
  rw [← matchingRows_own anyRow "registry"]
  intro h
  have hreadable := (lossless_iff (l := registryListing) serves_registry
    (searchFields_text _ (by decide) "") (by decide)).mp h
  have hnot : ¬ ∀ r ∈ matchingRows (ownReading anyRow "registry") "registry" Filter.create
      withoutJson, Readable RegistrySchema.shippedEnv shippedRuntime (r "json_data") := by decide
  exact hnot hreadable

end Paging
