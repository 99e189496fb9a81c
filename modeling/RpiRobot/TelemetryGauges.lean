import RpiRobot.PrometheusService

/-!
# The gauges of the telemetry

What the gauges of `PrometheusService` read after telemetry: the last number that has been
reported under their names, as long as nothing throws before it is handled. A key is one of
several that may share a name, and the names of numbers and of texts are one name space.
-/

namespace TelemetryGauges

open EventRuns MetricRegistry PrometheusService
open DomainObjects (getString)
open TelemetryIngest (IotTelemetry)

/-! ## Reports -/

structure Report where
  device : String
  key : String
  value : Json

/-- The members that the handling of a message goes through. -/
def messageItems : Json → List (String × Json)
  | .object members => members
  | json => (elements json).flatMap items

def reportsFrom (device : String) (members : List (String × Json)) : List Report :=
  members.map fun item => ⟨device, item.1, item.2⟩

def reportsOf (event : IotTelemetry) : List Report :=
  reportsFrom event.deviceId (messageItems event.message)

/-- The registry, and what has been reported, the latest first. -/
structure Monitor where
  registry : Registry
  reports : List Report

def Monitor.init : Monitor := ⟨∅, []⟩

def step (m : Monitor) (event : IotTelemetry) : Monitor :=
  ⟨handle m.registry event, (reportsOf event).reverse ++ m.reports⟩

/-- The value of a JSON number. -/
def number : Json → Option ℚ
  | .integer n => some n
  | .float q => some q
  | _ => none

def lastReport (reports : List Report) (device key : String) : Option Json :=
  (reports.find? fun p => p.device = device && p.key = key).map Report.value

/-- The gauge of this name for a device. -/
def gauge (r : Registry) (name device : String) : Option ℚ :=
  match r.lookup name with
  | some family =>
    if family.type = .gauge then family.metrics.lookup (deviceLabels device) else none
  | none => none

/-- Each gauge shows the value of its key, if that has been a number at last. -/
def Shows (m : Monitor) : Prop :=
  ∀ device key value v, lastReport m.reports device key = some value → number value = some v →
    gauge m.registry (telemetryName key) device = some v

/-! ## Telemetry -/

def keyChar (c : Char) : Bool := c.isAlphanum || c = '_' || c = '-'

inductive TelemetryObject : Json → Prop where
  | object (members : List (String × Json))
      (keys : ∀ item ∈ members, item.1.toList.all keyChar = true)
      (status : members.lookup "status" = none) : TelemetryObject (.object members)

inductive Telemetry : Json → Prop where
  | one (json : Json) (h : TelemetryObject json) : Telemetry json
  | many (values : List Json) (h : ∀ json ∈ values, TelemetryObject json) :
      Telemetry (.array values)

/-! ## What is shown -/

/-- The type and the constant labels that a value is registered with. -/
def kindOf (json : Json) : Option (MetricType × Labels) :=
  match number? json with
  | some _ => some (.gauge, [])
  | none => (getString json).map fun s => (.counter, [("tag", s)])

/-- A value that can be converted, for a name that is not taken by another kind. -/
def Fits (r : Registry) (item : String × Json) : Prop :=
  ∃ kind, kindOf item.2 = some kind ∧ Reserved kind.1 (telemetryName item.1) kind.2 r

/-- Members that share a name share the kind. -/
def SameKind (a b : String × Json) : Prop :=
  telemetryName a.1 = telemetryName b.1 → kindOf a.2 = kindOf b.2

/-- The members are all handled, and their numbers are doubles. -/
structure Accepts (r : Registry) (device : String) (members : List (String × Json)) : Prop where
  fits : ∀ item ∈ members, Fits r item
  sameKind : members.Pairwise SameKind
  exact : ∀ item ∈ members, number? item.2 = number item.2
  nulFree : members ≠ [] → cString device = device

/-- The members are handled up to the last number. -/
def Accepted (r : Registry) (event : IotTelemetry) : Prop :=
  ∃ before after, messageItems event.message = before ++ after ∧
    Accepts r event.deviceId before ∧ ∀ item ∈ after, number? item.2 = none

/-- The last number under a name. -/
def lastNumber (reports : List Report) (device name : String) : Option ℚ :=
  reports.findSome? fun p =>
    if p.device = device ∧ telemetryName p.key = name then number p.value else none

/-- The last number of a key is the last number under its name. -/
def Unmixed (reports : List Report) : Prop :=
  ∀ device key value v, lastReport reports device key = some value → number value = some v →
    lastNumber reports device (telemetryName key) = some v

/-- The event is handled up to its last number, and keys of one name do not differ. -/
def Clear (m : Monitor) (event : IotTelemetry) : Prop :=
  Accepted m.registry event ∧ Unmixed ((reportsOf event).reverse ++ m.reports)

/-- The gauges show the last numbers under their names. -/
def Tracks (r : Registry) (reports : List Report) : Prop :=
  ∀ device name v, lastNumber reports device name = some v → gauge r name device = some v

variable {r r' : Registry} {reports : List Report} {device name : String}
  {item : String × Json} {members : List (String × Json)}

/-! ## Names -/

lemma telemetryName_valid {key : String} (h : key.toList.all keyChar = true) :
    validName (telemetryName key) = true := by
  have hlist : (telemetryName key).toList =
      ['t', 'e', 'l', 'e', 'm', 'e', 't', 'r', 'y', '_'] ++
        key.toList.map (fun c => if c = '-' then '_' else c) := by
    simp only [telemetryName, String.toList_ofList, String.toList_append, List.map_append]
    rfl
  have hchars : (key.toList.map (fun c => if c = '-' then '_' else c)).all nameChar = true := by
    rw [List.all_map, List.all_eq_true]
    intro c hc
    have hkey := List.all_eq_true.mp h c hc
    by_cases hminus : c = '-'
    · simp [hminus, nameChar]
    · simpa [nameChar, keyChar, hminus, or_assoc] using Or.inl hkey
  have hprefix : ['t', 'e', 'l', 'e', 'm', 'e', 't', 'r', 'y', '_'].all nameChar = true := by decide
  have hall : (telemetryName key).toList.all nameChar = true := by
    rw [hlist, List.all_append, hprefix, hchars]
    rfl
  rw [validName]
  rw [hlist] at hall ⊢
  exact hall

/-! ## Gauges in the registry -/

lemma gauge_register {type : MetricType} {constant : Labels}
    (h : register type name constant r = .ok r') (other device : String) :
    gauge r' other device = gauge r other device := by
  rcases register_cases h with ⟨rfl, -⟩ | ⟨hnone, rfl⟩
  · rfl
  · by_cases hne : other = name
    · subst hne
      simp [gauge, hnone]
    · simp [gauge, AList.lookup_insert_ne hne]

lemma gauge_modify {family : Family} (hfamily : r.lookup name = some family)
    (labelled : String) (f : ℚ → ℚ) (other device : String) :
    gauge (modify name (deviceLabels labelled) f r) other device =
      if other = name ∧ device = labelled ∧ family.type = .gauge then
        some (f ((family.metrics.lookup (deviceLabels device)).getD 0))
      else gauge r other device := by
  have hmodify : modify name (deviceLabels labelled) f r =
      r.insert name (family.add (deviceLabels labelled) f) := by
    simp [MetricRegistry.modify, hfamily]
  rw [hmodify]
  by_cases hname : other = name
  · subst hname
    by_cases htype : family.type = .gauge
    · by_cases hdevice : device = labelled
      · subst hdevice
        simp [gauge, htype, Family.add]
      · have hlabels : deviceLabels device ≠ deviceLabels labelled := fun h =>
          hdevice (deviceLabels_inj h)
        simp [gauge, hfamily, htype, hdevice, Family.add, AList.lookup_insert_ne hlabels]
    · simp [gauge, hfamily, htype, Family.add]
  · simp [gauge, hname, AList.lookup_insert_ne hname]

/-- What the change to a metric leaves to another name, and to its own for the same kind. -/
lemma change_reserved {type type' : MetricType} {constant constant' : Labels} {other : String}
    (hregister : register type name constant r = .ok r')
    (hsame : name = other → (type, constant) = (type', constant')) (labels : Labels) (f : ℚ → ℚ)
    (h : Reserved type' other constant' r) :
    Reserved type' other constant' (modify name labels f r') := by
  refine modify_reserved ?_
  by_cases hname : name = other
  · obtain ⟨rfl, rfl⟩ := Prod.mk.inj (hsame hname)
    exact hname ▸ register_reserved hregister
  · intro family hfamily
    rw [register_lookup_ne hregister (Ne.symm hname)] at hfamily
    exact h family hfamily

/-! ## One member -/

variable (device) in
/-- A member that fits is handled; only the gauge of a number is set. -/
lemma item_fits (hkey : item.1.toList.all keyChar = true) (hfits : Fits r item) :
    ∃ r', handleTelemetryItem device item r = (.ok (), r') ∧
      (∀ other d, gauge r' other d =
        if other = telemetryName item.1 ∧ d = cString device ∧ (number? item.2).isSome then
          number? item.2
        else gauge r other d) ∧
      ∀ b, SameKind item b → Fits r b → Fits r' b := by
  obtain ⟨⟨type, constant⟩, hkind, hreserved⟩ := hfits
  obtain ⟨r₁, hregister⟩ := register_ok (telemetryName_valid hkey) hreserved
  have hfitsAfter : ∀ (f : ℚ → ℚ) b, SameKind item b → Fits r b →
      Fits (modify (telemetryName item.1) (deviceLabels (cString device)) f r₁) b := by
    rintro f b hsame ⟨kind, hb, hreservedB⟩
    refine ⟨kind, hb, change_reserved hregister (fun hname => ?_) _ f hreservedB⟩
    exact Option.some.inj (hkind.symm.trans ((hsame hname).trans hb))
  obtain ⟨family, hfamily⟩ := register_registered hregister
  have htype := (register_reserved hregister family hfamily).1
  cases hnumber : number? item.2 with
  | some v =>
    obtain ⟨rfl, rfl⟩ : MetricType.gauge = type ∧ [] = constant := by
      simpa [kindOf, hnumber] using hkind
    refine ⟨_, by simp [handleTelemetryItem, hnumber, change, hregister], ?_,
      hfitsAfter fun _ => v⟩
    intro other d
    rw [gauge_modify hfamily, gauge_register hregister]
    simp [htype]
  | none =>
    cases hstring : getString item.2 with
    | none => simp [kindOf, hnumber, hstring] at hkind
    | some s =>
      obtain ⟨rfl, rfl⟩ : MetricType.counter = type ∧ [("tag", s)] = constant := by
        simpa [kindOf, hnumber, hstring] using hkind
      refine ⟨_, by simp [handleTelemetryItem, hnumber, hstring, change, hregister], ?_,
        hfitsAfter fun v => v + 1⟩
      intro other d
      rw [gauge_modify hfamily, gauge_register hregister]
      simp [htype]

variable (device) in
/-- A member that is no number changes no gauge, handled or not. -/
lemma item_noNumber (h : number? item.2 = none) (r : Registry) (other d : String) :
    gauge (handleTelemetryItem device item r).2 other d = gauge r other d := by
  simp only [handleTelemetryItem, h]
  cases getString item.2 with
  | none => rfl
  | some s =>
    simp only [change]
    cases hregister : register .counter (telemetryName item.1) [("tag", s)] r with
    | error e => rfl
    | ok r₁ =>
      obtain ⟨family, hfamily⟩ := register_registered hregister
      have htype := (register_reserved hregister family hfamily).1
      simp only [gauge_modify hfamily, gauge_register hregister]
      simp [htype]

/-! ## The members of a message -/

lemma forEach_append {α : Type} (body : α → Registry → Handled) (as bs : List α) (r : Registry) :
    forEach body (as ++ bs) r =
      match forEach body as r with
      | (.ok _, r') => forEach body bs r'
      | (.error e, r') => (.error e, r') := by
  induction as generalizing r with
  | nil => rfl
  | cons a as ih =>
    rw [List.cons_append, forEach, forEach]
    cases hbody : body a r with
    | mk outcome r' =>
      cases outcome with
      | error e => rfl
      | ok _ => exact ih r'

lemma forEach_flatMap {α β : Type} (body : β → Registry → Handled) (f : α → List β) (as : List α)
    (r : Registry) :
    forEach (fun a => forEach body (f a)) as r = forEach body (as.flatMap f) r := by
  induction as generalizing r with
  | nil => rfl
  | cons a as ih =>
    rw [List.flatMap_cons, forEach_append, forEach]
    cases hbody : forEach body (f a) r with
    | mk outcome r' =>
      cases outcome with
      | error e => rfl
      | ok _ => exact ih r'

/-- The members of a message are handled one after the other. -/
lemma handleTelemetryJson_eq (device : String) (json : Json) (r : Registry) :
    handleTelemetryJson device json r =
      forEach (handleTelemetryItem device) (messageItems json) r := by
  cases json with
  | object members => rfl
  | null | boolean | integer | float | string | array =>
    exact forEach_flatMap (handleTelemetryItem device) items _ r

lemma forEach_noNumber (h : ∀ item ∈ members, number? item.2 = none) (r : Registry)
    (other d : String) :
    gauge (forEach (handleTelemetryItem device) members r).2 other d = gauge r other d := by
  induction members generalizing r with
  | nil => rfl
  | cons item rest ih =>
    have hfirst := item_noNumber device (h item List.mem_cons_self) r other d
    rw [forEach]
    cases hbody : handleTelemetryItem device item r with
    | mk outcome r' =>
      rw [hbody] at hfirst
      cases outcome with
      | error e => exact hfirst
      | ok _ => exact (ih (fun b hb => h b (.tail _ hb)) r').trans hfirst

lemma number_none {json : Json} (h : number? json = none) : number json = none := by
  cases json with
  | integer | float => cases h
  | null | boolean | string | array | object => rfl

lemma lastNumber_cons (p : Report) (reports : List Report) (device name : String) :
    lastNumber (p :: reports) device name =
      if p.device = device ∧ telemetryName p.key = name ∧ (number p.value).isSome then
        number p.value
      else lastNumber reports device name := by
  rw [lastNumber, List.findSome?_cons]
  by_cases hp : p.device = device ∧ telemetryName p.key = name
  · cases number p.value with
    | none => simp [hp, lastNumber]
    | some v => simp [hp]
  · simp only [if_neg hp]
    rw [if_neg fun h => hp ⟨h.1, h.2.1⟩]
    rfl

/-- Members that are accepted are handled, and the gauges keep up with the reports. -/
lemma accepts_tracks (hkeys : ∀ item ∈ members, item.1.toList.all keyChar = true)
    (h : Accepts r device members) (htracks : Tracks r reports) :
    ∃ r', forEach (handleTelemetryItem device) members r = (.ok (), r') ∧
      Tracks r' ((reportsFrom device members).reverse ++ reports) := by
  induction members generalizing r reports with
  | nil => exact ⟨r, rfl, htracks⟩
  | cons item rest ih =>
    obtain ⟨r₁, hitem, hgauge, hfits⟩ :=
      item_fits device (hkeys item List.mem_cons_self) (h.fits item List.mem_cons_self)
    obtain ⟨hfirst, hrest⟩ := List.pairwise_cons.mp h.sameKind
    have haccepts : Accepts r₁ device rest :=
      { fits := fun b hb => hfits b (hfirst b hb) (h.fits b (.tail _ hb))
        sameKind := hrest
        exact := fun b hb => h.exact b (.tail _ hb)
        nulFree := fun _ => h.nulFree (List.cons_ne_nil _ _) }
    have htracks₁ : Tracks r₁ (⟨device, item.1, item.2⟩ :: reports) := by
      intro d name v hv
      rw [lastNumber_cons, ← h.exact item List.mem_cons_self] at hv
      rw [hgauge, h.nulFree (List.cons_ne_nil _ _)]
      by_cases hset : device = d ∧ telemetryName item.1 = name ∧ (number? item.2).isSome
      · rw [if_pos hset] at hv
        rw [if_pos ⟨hset.2.1.symm, hset.1.symm, hset.2.2⟩]
        exact hv
      · rw [if_neg hset] at hv
        rw [if_neg fun hset' => hset ⟨hset'.2.1.symm, hset'.1.symm, hset'.2.2⟩]
        exact htracks d name v hv
    obtain ⟨r', hloop, htracks'⟩ := ih (fun b hb => hkeys b (.tail _ hb)) haccepts htracks₁
    refine ⟨r', ?_, ?_⟩
    · rw [forEach, hitem]
      exact hloop
    · simpa [reportsFrom] using htracks'

/-- Reports without numbers do not count. -/
lemma lastNumber_append (h : ∀ item ∈ members, number? item.2 = none) (reporter : String)
    (reports : List Report) (device name : String) :
    lastNumber ((reportsFrom reporter members).reverse ++ reports) device name =
      lastNumber reports device name := by
  induction members generalizing reports with
  | nil => rfl
  | cons item rest ih =>
    have hnone := number_none (h item List.mem_cons_self)
    have hlist : (reportsFrom reporter (item :: rest)).reverse ++ reports =
        (reportsFrom reporter rest).reverse ++ (⟨reporter, item.1, item.2⟩ :: reports) := by
      simp [reportsFrom]
    rw [hlist, ih (fun b hb => h b (.tail _ hb)), lastNumber_cons]
    simp [hnone]

/-! ## Events -/

lemma TelemetryObject.keys {json : Json} (h : TelemetryObject json) :
    ∀ item ∈ items json, item.1.toList.all keyChar = true := by
  cases h with
  | object members keys status => exact keys

lemma Telemetry.keys {message : Json} (h : Telemetry message) :
    ∀ item ∈ messageItems message, item.1.toList.all keyChar = true := by
  cases h with
  | one _ h =>
    cases h with
    | object members keys status => exact keys
  | many values h =>
    intro item hitem
    obtain ⟨json, hjson, hmem⟩ := List.mem_flatMap.mp hitem
    exact (h json hjson).keys item hmem

lemma Telemetry.noStatus {message : Json} (h : Telemetry message) :
    message.member? "status" = none := by
  cases h with
  | one _ h =>
    cases h with
    | object members keys status => exact status
  | many values h => rfl

lemma handle_telemetry {event : IotTelemetry} (h : Telemetry event.message) (r : Registry) :
    handle r event =
      (forEach (handleTelemetryItem event.deviceId) (messageItems event.message) r).2 := by
  have hstatus : event.message.member? "status" = none := h.noStatus
  simp only [handle, subscriber, hstatus, handleTelemetryJson_eq]

/-- An event that is handled up to its last number keeps the gauges up to date. -/
theorem step_tracks {m : Monitor} {event : IotTelemetry} (htelemetry : Telemetry event.message)
    (h : Tracks m.registry m.reports) (haccepted : Accepted m.registry event) :
    Tracks (step m event).registry (step m event).reports := by
  obtain ⟨before, after, hitems, haccepts, hafter⟩ := haccepted
  have hkeys : ∀ item ∈ before, item.1.toList.all keyChar = true := fun item hitem =>
    htelemetry.keys item (hitems ▸ List.mem_append_left _ hitem)
  obtain ⟨r', hloop, htracks⟩ := accepts_tracks hkeys haccepts h
  have hregistry : (step m event).registry =
      (forEach (handleTelemetryItem event.deviceId) after r').2 := by
    rw [step, handle_telemetry htelemetry, hitems, forEach_append, hloop]
  have hreports : (step m event).reports = (reportsFrom event.deviceId after).reverse ++
      ((reportsFrom event.deviceId before).reverse ++ m.reports) := by
    simp [step, reportsOf, hitems, reportsFrom]
  intro d name v hv
  rw [hreports, lastNumber_append hafter] at hv
  rw [hregistry, forEach_noNumber hafter]
  exact htracks d name v hv

lemma Tracks.shows {m : Monitor} (h : Tracks m.registry m.reports) (hunmixed : Unmixed m.reports) :
    Shows m := fun device key value v hlast hv =>
  h device (telemetryName key) v (hunmixed device key value v hlast hv)

/-! ## Runs -/

lemma run_shows {events : List IotTelemetry} {m : Monitor}
    (htelemetry : ∀ event ∈ events, Telemetry event.message) (h : Meets step Clear m events)
    (htracks : Tracks m.registry m.reports) (hunmixed : Unmixed m.reports) :
    Shows (events.foldl step m) := by
  induction events generalizing m with
  | nil => exact htracks.shows hunmixed
  | cons event rest ih =>
    have hfirst := htelemetry event List.mem_cons_self
    exact ih (fun e he => htelemetry e (.tail _ he)) h.2 (step_tracks hfirst htracks h.1.1) h.1.2

/-- Each gauge shows the last number of its key after every event of a run whose events are
handled up to their last numbers and keep keys of one name together. -/
theorem gauges_show (events : List IotTelemetry)
    (htelemetry : ∀ event ∈ events, Telemetry event.message)
    (h : Meets step Clear Monitor.init events) (n : Nat) :
    Shows ((events.take n).foldl step Monitor.init) := by
  have hprefix : Meets step Clear Monitor.init (events.take n) :=
    (meets_append.mp ((List.take_append_drop n events).symm ▸ h)).1
  refine run_shows (fun e he => htelemetry e (List.mem_of_mem_take he)) hprefix ?_ ?_
  · intro d name v hv
    cases hv
  · intro d key value v hlast
    cases hlast

/-- Keys that keep their names apart do not mix. -/
lemma unmixed_of_names (h : ∀ p ∈ reports, ∀ q ∈ reports,
    telemetryName p.key = telemetryName q.key → p.key = q.key) : Unmixed reports := by
  intro device key value v hlast hv
  induction reports with
  | nil => cases hlast
  | cons p rest ih =>
    have hrest := ih fun a ha b hb => h a (.tail _ ha) b (.tail _ hb)
    rw [lastNumber, List.findSome?_cons]
    rw [lastReport, List.find?_cons] at hlast
    by_cases hsame : p.device = device ∧ p.key = key
    · obtain ⟨rfl, rfl⟩ := hsame
      simp only [decide_true, Bool.and_self, Option.map_some, Option.some.injEq] at hlast
      simp [hlast, hv]
    · have hother : (decide (p.device = device) && decide (p.key = key)) = false := by
        simpa using hsame
      rw [hother] at hlast
      obtain ⟨q, hq, -⟩ := Option.map_eq_some_iff.mp hlast
      have hkey : q.key = key := by
        have hfound := List.find?_some hq
        simp only [Bool.and_eq_true, decide_eq_true_eq] at hfound
        exact hfound.2
      have hname : ¬(p.device = device ∧ telemetryName p.key = telemetryName key) := by
        rintro ⟨hdevice, hnames⟩
        refine hsame ⟨hdevice, (h p (.head _) q (.tail _ (List.mem_of_find?_eq_some hq)) ?_).trans
          hkey⟩
        rw [hnames, hkey]
      rw [if_neg hname]
      exact hrest hlast

/-- Numbers are all handled if no other kind has their names. -/
lemma accepted_numbers {event : IotTelemetry}
    (hitems : ∀ item ∈ messageItems event.message, kindOf item.2 = some (.gauge, []) ∧
      number? item.2 = number item.2 ∧ Reserved .gauge (telemetryName item.1) [] r)
    (hdevice : cString event.deviceId = event.deviceId) : Accepted r event := by
  refine ⟨messageItems event.message, [], (List.append_nil _).symm, ⟨?_, ?_, ?_, fun _ => hdevice⟩,
    fun item hitem => absurd hitem List.not_mem_nil⟩
  · exact fun item hitem => ⟨_, (hitems item hitem).1, (hitems item hitem).2.2⟩
  · exact List.pairwise_of_forall_mem_list fun a ha b hb _ =>
      (hitems a ha).1.trans (hitems b hb).1.symm
  · exact fun item hitem => (hitems item hitem).2.1

instance (type : MetricType) (name : String) (labels : Labels) (r : Registry) :
    Decidable (Reserved type name labels r) :=
  inferInstanceAs (Decidable (∀ family ∈ r.lookup name, _))

/-- Two devices, and a key that one of them reports twice in a message and once more later. -/
def temperatures : List IotTelemetry := [
  ⟨"rpi-robot", .array [.object [("cpu-temp", .float 41), ("fan", .integer 2)],
    .object [("cpu-temp", .float 43)]]⟩,
  ⟨"monitor", .object [("cpu-temp", .float 38)]⟩,
  ⟨"rpi-robot", .object [("cpu-temp", .float 40), ("fan", .integer 1)]⟩]

theorem gauges_show_temperatures :
    Shows (temperatures.foldl step Monitor.init) ∧
      gauge (temperatures.foldl step Monitor.init).registry (telemetryName "cpu-temp") "rpi-robot" =
        some 40 ∧
      gauge (temperatures.foldl step Monitor.init).registry (telemetryName "cpu-temp") "monitor" =
        some 38 := by
  have htelemetry : ∀ event ∈ temperatures, Telemetry event.message := by
    refine List.forall_mem_cons.mpr ⟨.many _ ?_, List.forall_mem_cons.mpr
      ⟨.one _ (.object _ (by decide) rfl), List.forall_mem_singleton.mpr
        (.one _ (.object _ (by decide) rfl))⟩⟩
    exact List.forall_mem_cons.mpr ⟨.object _ (by decide) rfl,
      List.forall_mem_singleton.mpr (.object _ (by decide) rfl)⟩
  have hmeets : Meets step Clear Monitor.init temperatures :=
    ⟨⟨accepted_numbers (by decide +kernel) (by decide), unmixed_of_names (by decide +kernel)⟩,
      ⟨accepted_numbers (by decide +kernel) (by decide), unmixed_of_names (by decide +kernel)⟩,
      ⟨accepted_numbers (by decide +kernel) (by decide), unmixed_of_names (by decide +kernel)⟩,
      trivial⟩
  have hshows := gauges_show temperatures htelemetry hmeets 3
  exact ⟨hshows, hshows "rpi-robot" "cpu-temp" (.float 40) 40 rfl rfl,
    hshows "monitor" "cpu-temp" (.float 38) 38 rfl rfl⟩

/-- A member that is no number and no text keeps the next from its gauge. -/
def halfHandled : IotTelemetry :=
  ⟨"rpi-robot", .object [("armed", .boolean true), ("cpu", .float 41)]⟩

theorem gauge_missing : ¬Shows (step Monitor.init halfHandled) := by
  intro h
  have hgauge : gauge (step Monitor.init halfHandled).registry (telemetryName "cpu") "rpi-robot" =
      none := rfl
  cases hgauge.symm.trans (h "rpi-robot" "cpu" (.float 41) 41 rfl rfl)

end TelemetryGauges
