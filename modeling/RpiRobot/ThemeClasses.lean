import RpiRobot.EventRuns

/-!
# The theme classes

The store of the web client keeps the theme in `uiSlice` and the browser shows it by classes
of the root element, which the reducers change next to the state. The pages change the same
list of classes: `Main` by adding and removing its own, the pages before the login by setting
the whole list whenever they are rendered. The toggle of the fixed layout does the opposite of
the others.
-/

namespace ThemeClasses

open EventRuns

/-- What an action may carry. Of a value that is no text it counts which one it is and
whether it is truthy. -/
inductive Payload where
  | text (s : String)
  | other (value : Nat) (truthy : Bool)
  deriving DecidableEq, Repr

/-- `payload || value`. -/
def Payload.getOr (payload value : Payload) : Payload :=
  match payload with
  | .text s => if s = "" then value else .text s
  | .other v truthy => if truthy then .other v true else value

structure UiState where
  screenSize : Payload
  menuSidebarCollapsed : Bool
  controlSidebarCollapsed : Bool
  darkMode : Bool
  headerBorder : Bool
  headerFixed : Bool
  footerFixed : Bool
  layoutBoxed : Bool
  layoutFixed : Bool
  menuItemFlat : Bool
  menuChildIndent : Bool
  navbarVariant : Payload
  sidebarSkin : Payload
  deriving DecidableEq, Repr

def calculateWindowSize (windowWidth : Nat) : String :=
  if 1200 ≤ windowWidth then "lg"
  else if 992 ≤ windowWidth then "md"
  else if 768 ≤ windowWidth then "sm"
  else "xs"

/-- The state of a store that is made in a window of this width. -/
def initialState (innerWidth : Nat) : UiState where
  screenSize := .text (calculateWindowSize innerWidth)
  menuSidebarCollapsed := false
  controlSidebarCollapsed := true
  darkMode := false
  headerBorder := false
  headerFixed := false
  footerFixed := true
  layoutBoxed := false
  layoutFixed := false
  menuItemFlat := false
  menuChildIndent := false
  navbarVariant := .text "navbar-light"
  sidebarSkin := .text "sidebar-dark-primary"

/-! ## The root element -/

abbrev ClassList := List String

/-- The whole list becomes the tokens of a text. -/
def setWindowClass (classList : List String) : ClassList := classList

def addWindowClass (name : String) (root : ClassList) : ClassList :=
  if name ∈ root then root else root ++ [name]

def removeWindowClass (name : String) (root : ClassList) : ClassList :=
  root.filter (· ≠ name)

@[simp] lemma mem_addWindowClass {c name : String} {root : ClassList} :
    c ∈ addWindowClass name root ↔ c = name ∨ c ∈ root := by
  by_cases hname : name ∈ root
  · rw [addWindowClass, if_pos hname]
    exact ⟨.inr, fun h => h.elim (fun heq => heq ▸ hname) id⟩
  · rw [addWindowClass, if_neg hname, List.mem_append, List.mem_singleton, or_comm]

@[simp] lemma mem_removeWindowClass {c name : String} {root : ClassList} :
    c ∈ removeWindowClass name root ↔ c ≠ name ∧ c ∈ root := by
  rw [removeWindowClass, List.mem_filter, decide_eq_true_iff, and_comm]

/-- Added where the flag is set, and removed where it is not. -/
def switchWindowClass (flag : Bool) (name : String) (root : ClassList) : ClassList :=
  if flag then addWindowClass name root else removeWindowClass name root

/-! ## The reducers -/

inductive Action where
  | toggleSidebarMenu
  | toggleControlSidebar
  | toggleHeaderBorder
  | toggleHeaderFixed
  | toggleFooterFixed
  | toggleLayoutBoxed
  | toggleLayoutFixed
  | toggleMenuItemFlat
  | toggleMenuChildIndent
  | toggleDarkMode
  | setNavbarVariant (payload : Payload)
  | setSidebarSkin (payload : Payload)
  | setWindowSize (payload : Payload)
  deriving DecidableEq, Repr

def navbarDefault (darkMode : Bool) : Payload :=
  if darkMode then .text "navbar-dark" else .text "navbar-light"

def sidebarDefault (darkMode : Bool) : Payload :=
  if darkMode then .text "sidebar-dark-primary" else .text "sidebar-light-primary"

/-- The reducers of `uiSlice` change the root element next to the state. -/
def reduce (action : Action) (state : UiState) (root : ClassList) : UiState × ClassList :=
  match action with
  | .toggleSidebarMenu =>
    ({ state with menuSidebarCollapsed := !state.menuSidebarCollapsed }, root)
  | .toggleControlSidebar =>
    ({ state with controlSidebarCollapsed := !state.controlSidebarCollapsed }, root)
  | .toggleHeaderBorder => ({ state with headerBorder := !state.headerBorder }, root)
  | .toggleHeaderFixed =>
    ({ state with headerFixed := !state.headerFixed },
      switchWindowClass (!state.headerFixed) "layout-navbar-fixed" root)
  | .toggleFooterFixed =>
    ({ state with footerFixed := !state.footerFixed },
      switchWindowClass (!state.footerFixed) "layout-footer-fixed" root)
  | .toggleLayoutBoxed =>
    ({ state with layoutBoxed := !state.layoutBoxed },
      switchWindowClass (!state.layoutBoxed) "layout-boxed" root)
  | .toggleLayoutFixed =>
    -- The class is removed where the flag is set.
    ({ state with layoutFixed := !state.layoutFixed },
      if !state.layoutFixed then removeWindowClass "layout-fixed" root
      else addWindowClass "layout-fixed" root)
  | .toggleMenuItemFlat => ({ state with menuItemFlat := !state.menuItemFlat }, root)
  | .toggleMenuChildIndent => ({ state with menuChildIndent := !state.menuChildIndent }, root)
  | .toggleDarkMode =>
    ({ state with
        darkMode := !state.darkMode
        navbarVariant := navbarDefault (!state.darkMode)
        sidebarSkin := sidebarDefault (!state.darkMode) },
      switchWindowClass (!state.darkMode) "dark-mode" root)
  | .setNavbarVariant payload =>
    ({ state with navbarVariant := payload.getOr (navbarDefault state.darkMode) }, root)
  | .setSidebarSkin payload =>
    ({ state with sidebarSkin := payload.getOr (sidebarDefault state.darkMode) }, root)
  | .setWindowSize payload => ({ state with screenSize := payload }, root)

/-! ## The pages -/

inductive Page where
  | login
  | register
  | forgotPassword
  | recoverPassword
  | main
  deriving DecidableEq, Repr

structure Browser where
  ui : UiState
  root : ClassList
  page : Option Page
  deriving DecidableEq, Repr

/-- The module of the slice adds the class of the footer when it is loaded. -/
def Browser.init (innerWidth : Nat) : Browser :=
  ⟨initialState innerWidth, addWindowClass "layout-footer-fixed" [], none⟩

namespace Main

/-- The first effect, of the mount alone. -/
def mounted (root : ClassList) : ClassList :=
  addWindowClass "sidebar-mini" (removeWindowClass "hold-transition"
    (removeWindowClass "login-page" (removeWindowClass "register-page" root)))

def unmounted (root : ClassList) : ClassList := removeWindowClass "sidebar-mini" root

/-- The effect of the screen size and the menu. -/
def sidebar (ui : UiState) (root : ClassList) : ClassList :=
  let root := removeWindowClass "sidebar-open"
    (removeWindowClass "sidebar-collapse" (removeWindowClass "sidebar-closed" root))
  if ui.menuSidebarCollapsed && ui.screenSize = .text "lg" then
    addWindowClass "sidebar-collapse" root
  else if ui.menuSidebarCollapsed && ui.screenSize = .text "xs" then
    addWindowClass "sidebar-open" root
  else if !ui.menuSidebarCollapsed && ui.screenSize ≠ .text "lg" then
    addWindowClass "sidebar-collapse" (addWindowClass "sidebar-closed" root)
  else root

/-- The effect of the screen size and the control sidebar. -/
def controlSidebar (ui : UiState) (root : ClassList) : ClassList :=
  if ui.controlSidebarCollapsed then removeWindowClass "control-sidebar-slide-open" root
  else addWindowClass "control-sidebar-slide-open" root

/-- The effects of a render, for the dependencies that have changed. -/
def updated (before ui : UiState) (root : ClassList) : ClassList :=
  let resized := before.screenSize ≠ ui.screenSize
  let root :=
    if resized ∨ before.menuSidebarCollapsed ≠ ui.menuSidebarCollapsed then sidebar ui root
    else root
  if resized ∨ before.controlSidebarCollapsed ≠ ui.controlSidebarCollapsed then
    controlSidebar ui root
  else root

end Main

inductive Event where
  | dispatch (action : Action)
  | visit (page : Page)
  deriving DecidableEq, Repr

/-- What the render of a page does to the root element. -/
def rendered (page : Page) (root : ClassList) : ClassList :=
  match page with
  | .login => setWindowClass ["hold-transition", "login-page"]
  | .register => setWindowClass ["hold-transition", "register-page"]
  | .forgotPassword => setWindowClass ["hold-transition", "login-page"]
  | .recoverPassword => setWindowClass ["hold-transition", "login-page"]
  | .main => root

/-- `App` reads the screen size from the store. When it has changed, `App` and the page below
it are rendered again; no page but `Main` reads the store itself. -/
def rerendered (page : Option Page) (before ui : UiState) (root : ClassList) : ClassList :=
  match page with
  | some page => if before.screenSize ≠ ui.screenSize then rendered page root else root
  | none => root

/-- A page is rendered first; then the effects of the page before it are undone and its own
run. Only `Main` has effects. A visit of the page that is shown renders it again, as a change in
its form does. -/
def visit (b : Browser) (page : Page) : Browser :=
  let root := rendered page b.root
  if b.page = some page then { b with root }
  else
    let root := if b.page = some .main then Main.unmounted root else root
    let root :=
      if page = .main then Main.controlSidebar b.ui (Main.sidebar b.ui (Main.mounted root))
      else root
    { b with root, page := some page }

def step (b : Browser) : Event → Browser
  | .dispatch action =>
    let (ui, root) := reduce action b.ui b.root
    let root := rerendered b.page b.ui ui root
    { b with ui, root := if b.page = some .main then Main.updated b.ui ui root else root }
  | .visit page => visit b page

/-! ## What the classes are for -/

/-- The classes of the root element are those of the theme that the store holds. -/
structure Follows (ui : UiState) (root : ClassList) : Prop where
  headerFixed : "layout-navbar-fixed" ∈ root ↔ ui.headerFixed = true
  footerFixed : "layout-footer-fixed" ∈ root ↔ ui.footerFixed = true
  layoutBoxed : "layout-boxed" ∈ root ↔ ui.layoutBoxed = true
  layoutFixed : "layout-fixed" ∈ root ↔ ui.layoutFixed = true
  darkMode : "dark-mode" ∈ root ↔ ui.darkMode = true

/-- The store holds the theme that has no classes. -/
structure Bare (ui : UiState) : Prop where
  headerFixed : ui.headerFixed = false
  footerFixed : ui.footerFixed = false
  layoutBoxed : ui.layoutBoxed = false
  layoutFixed : ui.layoutFixed = false
  darkMode : ui.darkMode = false

/-- The action gives the store another screen size. -/
def Resizes (ui : UiState) : Action → Prop
  | .setWindowSize payload => payload ≠ ui.screenSize
  | _ => False

/-- The event is not the toggle of the fixed layout, and it does not set the whole list
while the theme has classes. -/
def Keeps (b : Browser) : Event → Prop
  | .dispatch action => action ≠ .toggleLayoutFixed ∧
      (Resizes b.ui action → b.page = none ∨ b.page = some .main ∨ Bare b.ui)
  | .visit page => page = .main ∨ Bare b.ui

def themeClasses : List String :=
  ["layout-navbar-fixed", "layout-footer-fixed", "layout-boxed", "layout-fixed", "dark-mode"]

/-- The lists have the same theme classes. -/
def SameTheme (root root' : ClassList) : Prop := ∀ c ∈ themeClasses, c ∈ root' ↔ c ∈ root

variable {root root' : ClassList} {ui : UiState} {name : String}

lemma SameTheme.refl (root : ClassList) : SameTheme root root := fun _ _ => Iff.rfl

lemma SameTheme.trans {root'' : ClassList} (h : SameTheme root root')
    (h' : SameTheme root' root'') : SameTheme root root'' :=
  fun c hc => (h' c hc).trans (h c hc)

lemma sameTheme_add (hname : name ∉ themeClasses) (root : ClassList) :
    SameTheme root (addWindowClass name root) := by
  intro c hc
  rw [mem_addWindowClass]
  have hne : c ≠ name := fun h => hname (h ▸ hc)
  exact ⟨fun h => h.resolve_left hne, .inr⟩

lemma sameTheme_remove (hname : name ∉ themeClasses) (root : ClassList) :
    SameTheme root (removeWindowClass name root) := by
  intro c hc
  rw [mem_removeWindowClass]
  have hne : c ≠ name := fun h => hname (h ▸ hc)
  exact ⟨And.right, fun h => ⟨hne, h⟩⟩

lemma follows_congr (h : SameTheme root root') : Follows ui root' ↔ Follows ui root := by
  have hclasses : ∀ c ∈ themeClasses, (c ∈ root' ↔ c ∈ root) := h
  simp only [themeClasses, List.forall_mem_cons] at hclasses
  obtain ⟨hheader, hfooter, hboxed, hfixed, hdark, -⟩ := hclasses
  constructor
  · intro hf
    exact ⟨hheader.symm.trans hf.headerFixed, hfooter.symm.trans hf.footerFixed,
      hboxed.symm.trans hf.layoutBoxed, hfixed.symm.trans hf.layoutFixed,
      hdark.symm.trans hf.darkMode⟩
  · intro hf
    exact ⟨hheader.trans hf.headerFixed, hfooter.trans hf.footerFixed,
      hboxed.trans hf.layoutBoxed, hfixed.trans hf.layoutFixed, hdark.trans hf.darkMode⟩

/-! ## The effects of `Main` leave the theme alone -/

namespace Main

lemma mounted_sameTheme (root : ClassList) : SameTheme root (mounted root) :=
  (sameTheme_remove (by decide) root).trans <| (sameTheme_remove (by decide) _).trans <|
    (sameTheme_remove (by decide) _).trans (sameTheme_add (by decide) _)

lemma unmounted_sameTheme (root : ClassList) : SameTheme root (unmounted root) :=
  sameTheme_remove (by decide) root

lemma sidebar_sameTheme (ui : UiState) (root : ClassList) : SameTheme root (sidebar ui root) := by
  have hremoved : SameTheme root (removeWindowClass "sidebar-open"
      (removeWindowClass "sidebar-collapse" (removeWindowClass "sidebar-closed" root))) :=
    (sameTheme_remove (by decide) root).trans <|
      (sameTheme_remove (by decide) _).trans (sameTheme_remove (by decide) _)
  unfold sidebar
  split_ifs
  · exact hremoved.trans (sameTheme_add (by decide) _)
  · exact hremoved.trans (sameTheme_add (by decide) _)
  · exact hremoved.trans ((sameTheme_add (by decide) _).trans (sameTheme_add (by decide) _))
  · exact hremoved

lemma controlSidebar_sameTheme (ui : UiState) (root : ClassList) :
    SameTheme root (controlSidebar ui root) := by
  unfold controlSidebar
  split_ifs
  · exact sameTheme_remove (by decide) root
  · exact sameTheme_add (by decide) root

lemma updated_sameTheme (before ui : UiState) (root : ClassList) :
    SameTheme root (updated before ui root) := by
  unfold updated
  extract_lets resized first
  have hfirst : SameTheme root first := by
    unfold first
    split_ifs
    · exact sidebar_sameTheme ui root
    · exact .refl root
  split_ifs
  · exact hfirst.trans (controlSidebar_sameTheme ui _)
  · exact hfirst

end Main

/-! ## One event -/

lemma mem_switch {flag : Bool} {c : String} :
    c ∈ switchWindowClass flag name root ↔ if c = name then flag = true else c ∈ root := by
  cases flag <;> by_cases hc : c = name <;> simp [switchWindowClass, hc]

/-- A reducer keeps the classes in step just if it is not the toggle of the fixed layout. -/
lemma reduce_follows_iff (h : Follows ui root) (action : Action) :
    Follows (reduce action ui root).1 (reduce action ui root).2 ↔
      action ≠ .toggleLayoutFixed := by
  obtain ⟨hheader, hfooter, hboxed, hfixed, hdark⟩ := h
  cases action with
  | toggleLayoutFixed =>
    refine iff_of_false (fun hf => ?_) (fun hne => hne rfl)
    have hclass := hf.layoutFixed
    cases hflag : ui.layoutFixed <;> simp [reduce, hflag] at hclass
  | toggleHeaderFixed | toggleFooterFixed | toggleLayoutBoxed | toggleDarkMode =>
    refine iff_of_true ?_ (by decide)
    constructor <;> simp [reduce, mem_switch, hheader, hfooter, hboxed, hfixed, hdark]
  | _ => exact iff_of_true ⟨hheader, hfooter, hboxed, hfixed, hdark⟩ (by simp)

/-- A list without theme classes is right just if the theme has none. -/
lemma follows_bare_iff (hroot : ∀ c ∈ themeClasses, c ∉ root) :
    Follows ui root ↔ Bare ui := by
  simp only [themeClasses, List.forall_mem_cons] at hroot
  obtain ⟨hheader, hfooter, hboxed, hfixed, hdark, -⟩ := hroot
  constructor
  · intro h
    exact ⟨Bool.eq_false_iff.mpr (mt h.headerFixed.mpr hheader),
      Bool.eq_false_iff.mpr (mt h.footerFixed.mpr hfooter),
      Bool.eq_false_iff.mpr (mt h.layoutBoxed.mpr hboxed),
      Bool.eq_false_iff.mpr (mt h.layoutFixed.mpr hfixed),
      Bool.eq_false_iff.mpr (mt h.darkMode.mpr hdark)⟩
  · intro h
    exact ⟨iff_of_false hheader (by simp [h.headerFixed]),
      iff_of_false hfooter (by simp [h.footerFixed]),
      iff_of_false hboxed (by simp [h.layoutBoxed]),
      iff_of_false hfixed (by simp [h.layoutFixed]),
      iff_of_false hdark (by simp [h.darkMode])⟩

variable {b : Browser}

lemma visit_ui (b : Browser) (page : Page) : (visit b page).ui = b.ui := by
  unfold visit
  extract_lets
  split_ifs <;> rfl

/-- The effects around a visit do not touch the theme. -/
lemma visit_sameTheme (b : Browser) (page : Page) :
    SameTheme (rendered page b.root) (visit b page).root := by
  unfold visit
  extract_lets first left entered
  split_ifs with hsame
  · exact .refl _
  · have hleft : SameTheme first left := by
      unfold left
      split_ifs
      · exact Main.unmounted_sameTheme first
      · exact .refl first
    refine hleft.trans ?_
    unfold entered
    split_ifs
    · exact (Main.mounted_sameTheme left).trans
        ((Main.sidebar_sameTheme b.ui _).trans (Main.controlSidebar_sameTheme b.ui _))
    · exact .refl left

/-- The render of a page keeps the classes in step just if it leaves the list alone or the
theme has none. -/
lemma rendered_follows_iff (h : Follows ui root) (page : Page) :
    Follows ui (rendered page root) ↔ page = .main ∨ Bare ui := by
  have hlogin : ∀ c ∈ themeClasses, c ∉ ["hold-transition", "login-page"] := by decide
  have hregister : ∀ c ∈ themeClasses, c ∉ ["hold-transition", "register-page"] := by decide
  cases page with
  | main => exact iff_of_true h (.inl rfl)
  | register =>
    rw [rendered, setWindowClass, follows_bare_iff hregister]
    exact ⟨.inr, fun hor => hor.resolve_left (by decide)⟩
  | login | forgotPassword | recoverPassword =>
    rw [rendered, setWindowClass, follows_bare_iff hlogin]
    exact ⟨.inr, fun hor => hor.resolve_left (by decide)⟩

lemma visit_follows_iff (h : Follows b.ui b.root) (page : Page) :
    Follows (visit b page).ui (visit b page).root ↔ page = .main ∨ Bare b.ui := by
  rw [visit_ui, follows_congr (visit_sameTheme b page)]
  exact rendered_follows_iff h page

lemma rerendered_follows_iff {before : UiState} (h : Follows ui root) (page : Option Page) :
    Follows ui (rerendered page before ui root) ↔
      (before.screenSize ≠ ui.screenSize → page = none ∨ page = some .main ∨ Bare ui) := by
  cases page with
  | none => exact iff_of_true h fun _ => .inl rfl
  | some page =>
    rw [rerendered]
    split_ifs with hsize
    · rw [rendered_follows_iff h page, forall_prop_of_true hsize]
      simp
    · exact iff_of_true h fun hne => absurd hne hsize

/-- No other action changes the screen size, and this one leaves the theme alone. -/
lemma reduce_resizes (action : Action) (ui : UiState) (root : ClassList) :
    (ui.screenSize ≠ (reduce action ui root).1.screenSize ↔ Resizes ui action) ∧
      (Resizes ui action → (Bare (reduce action ui root).1 ↔ Bare ui)) := by
  cases action with
  | setWindowSize payload =>
    refine ⟨ne_comm, fun _ => ?_⟩
    exact ⟨fun h => ⟨h.1, h.2, h.3, h.4, h.5⟩, fun h => ⟨h.1, h.2, h.3, h.4, h.5⟩⟩
  | _ => exact ⟨iff_of_false (fun hne => hne rfl) id, False.elim⟩

lemma dispatch_follows_iff (h : Follows b.ui b.root) (action : Action) :
    Follows (reduce action b.ui b.root).1
        (rerendered b.page b.ui (reduce action b.ui b.root).1 (reduce action b.ui b.root).2) ↔
      Keeps b (.dispatch action) := by
  obtain ⟨hsize, hbare⟩ := reduce_resizes action b.ui b.root
  by_cases hfixed : action = .toggleLayoutFixed
  · subst hfixed
    have hsame : rerendered b.page b.ui (reduce .toggleLayoutFixed b.ui b.root).1
        (reduce .toggleLayoutFixed b.ui b.root).2 = (reduce .toggleLayoutFixed b.ui b.root).2 := by
      cases b.page with
      | none => rfl
      | some page => exact if_neg (mt hsize.mp id)
    rw [hsame, reduce_follows_iff h]
    exact ⟨fun hne => absurd rfl hne, And.left⟩
  · rw [rerendered_follows_iff ((reduce_follows_iff h action).mpr hfixed), hsize, Keeps,
      and_iff_right hfixed]
    exact forall_congr' fun hresizes => by rw [hbare hresizes]

lemma step_follows_iff (h : Follows b.ui b.root) (e : Event) :
    Follows (step b e).ui (step b e).root ↔ Keeps b e := by
  cases e with
  | visit page => exact visit_follows_iff h page
  | dispatch action =>
    rw [← dispatch_follows_iff h action]
    simp only [step]
    by_cases hmain : b.page = some .main
    · rw [if_pos hmain, follows_congr (Main.updated_sameTheme _ _ _)]
    · rw [if_neg hmain]

lemma init_follows (innerWidth : Nat) :
    Follows (Browser.init innerWidth).ui (Browser.init innerWidth).root := by
  constructor <;> simp [Browser.init, initialState]

/-- The classes follow the store after every event of a run just if no event of the run is
the toggle of the fixed layout or sets the whole list over a theme with classes. -/
theorem classes_follow_iff (innerWidth : Nat) (events : List Event) :
    (∀ n, Follows ((events.take n).foldl step (Browser.init innerWidth)).ui
        ((events.take n).foldl step (Browser.init innerWidth)).root) ↔
      Meets step Keeps (Browser.init innerWidth) events := by
  have hstep : ∀ (a s : Browser) (e : Event), True → s = a ∧ Follows a.ui a.root →
      (step s e = step a e ∧ Follows (step a e).ui (step a e).root ↔ Keeps s e) := by
    rintro a s e - ⟨rfl, hfollows⟩
    exact (and_iff_right rfl).trans (step_follows_iff hfollows e)
  have hrule := agrees_iff_meets (fun a s : Browser => s = a ∧ Follows a.ui a.root)
    (fun _ => True) (fun _ _ _ => trivial) hstep trivial ⟨rfl, init_follows innerWidth⟩ events
  rw [← hrule]
  exact forall_congr' fun n => (and_iff_right rfl).symm

/-- The first toggle of the fixed layout sets the flag and no class, and the first visit of
the login page takes the class of the fixed footer away. -/
theorem layoutFixed_not_followed :
    ¬Follows (step (Browser.init 1200) (.dispatch .toggleLayoutFixed)).ui
        (step (Browser.init 1200) (.dispatch .toggleLayoutFixed)).root ∧
      ¬Follows (step (Browser.init 1200) (.visit .login)).ui
        (step (Browser.init 1200) (.visit .login)).root := by
  constructor
  · exact fun h => absurd (h.layoutFixed.mpr (by decide)) (by decide)
  · exact fun h => absurd (h.footerFixed.mpr (by decide)) (by decide)

/-- On the login page, a smaller window takes the class of the fixed header away. -/
example :
    let events : List Event := [.dispatch .toggleFooterFixed, .visit .login,
      .dispatch .toggleHeaderFixed, .dispatch (.setWindowSize (.text "md"))]
    let b := events.foldl step (Browser.init 1200)
    b.ui.headerFixed = true ∧ "layout-navbar-fixed" ∉ b.root := by decide

end ThemeClasses
