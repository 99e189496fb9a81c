import Mathlib.Data.Bool.Basic
import Mathlib.Tactic.SplitIfs
import RpiRobot.MenuSearch

/-!
# The items of the menu

`MenuItem` keeps in its state what follows from its item and the location, and has three effects to
do so. An effect runs after a render in which something that it depends on has changed; it sees the
state of that render, and what it sets is rendered next.

What is rendered when the effects have nothing more to set is a menu with one bit: whether it is
open. A child at the location opens it, leaving the active item closes it.
-/

namespace MenuItems

open MenuSearch

def pathOf : IMenuItem → Option String
  | .item _ _ path _ => path

def childrenOf : IMenuItem → Option (List IMenuItem)
  | .item _ _ _ children => children

/-! ## The component -/

structure Hooks where
  isMenuExtended : Bool
  isExpandable : Bool
  isMainActive : Bool
  isOneOfChildrenActive : Bool
  deriving DecidableEq, Repr

/-- What is rendered, and the location that `useLocation` gives it. Each navigation makes a new
location. -/
structure View where
  location : Nat
  pathname : String
  hooks : Hooks
  deriving DecidableEq, Repr

section
variable (menuItem : IMenuItem)

/-- The last value that is set is the one that is rendered. -/
def calculateIsActive (now : View) (hooks : Hooks) : Hooks :=
  let hooks := { hooks with isMainActive := false, isOneOfChildrenActive := false }
  match now.hooks.isExpandable, childrenOf menuItem with
  | true, some children =>
    children.foldl (fun hooks item =>
      if pathOf item = some now.pathname then
        { hooks with isOneOfChildrenActive := true, isMenuExtended := true }
      else hooks) hooks
  | _, _ =>
    if pathOf menuItem = some now.pathname then { hooks with isMainActive := true } else hooks

/-- The three effects after a render, in their order. Before the first render there is none. -/
def effects (before : Option View) (now : View) : Hooks :=
  let hooks := now.hooks
  let hooks :=
    if before.map (fun v => (v.location, v.hooks.isExpandable)) =
        some (now.location, now.hooks.isExpandable) then hooks
    else calculateIsActive menuItem now hooks
  let hooks :=
    if before.map (fun v => (v.hooks.isMainActive, v.hooks.isOneOfChildrenActive)) =
        some (now.hooks.isMainActive, now.hooks.isOneOfChildrenActive) then hooks
    else if !now.hooks.isMainActive && !now.hooks.isOneOfChildrenActive then
      { hooks with isMenuExtended := false }
    else hooks
  if before.isSome then hooks
  else { hooks with isExpandable := !((childrenOf menuItem).getD []).isEmpty }

/-- Rendered until the effects set nothing new, or the renders have run out. -/
def settle : Nat → Option View → View → View
  | 0, _, now => now
  | n + 1, before, now =>
    let hooks := effects menuItem before now
    if hooks = now.hooks then now else settle n (some now) { now with hooks }

def mount (renders : Nat) (pathname : String) : View :=
  settle menuItem renders none ⟨0, pathname, ⟨false, false, false, false⟩⟩

def navigate (renders : Nat) (v : View) (pathname : String) : View :=
  settle menuItem renders (some v) { v with location := v.location + 1, pathname }

/-- `menuItem.path ? menuItem.path : '/'`. -/
def target : String :=
  match pathOf menuItem with
  | some path => if path ≠ "" then path else "/"
  | none => "/"

-- The pathname to which a path leads from another one, as the router resolves it.
variable (resolve : String → String → String)

def handleMainMenuAction (renders : Nat) (v : View) : View :=
  if v.hooks.isExpandable then
    settle menuItem renders (some v)
      { v with hooks := { v.hooks with isMenuExtended := !v.hooks.isMenuExtended } }
  else navigate menuItem renders v (resolve v.pathname (target menuItem))

inductive Event where
  | navigate (pathname : String)
  | click
  deriving DecidableEq, Repr

def step (renders : Nat) (v : View) : Event → View
  | .navigate pathname => navigate menuItem renders v pathname
  | .click => handleMainMenuAction menuItem resolve renders v

def run (renders : Nat) (v : View) (events : List Event) : View :=
  events.foldl (step menuItem resolve renders) v

/-! ## What the component is for -/

/-- The location, and whether the menu is open. -/
structure Menu where
  pathname : String
  isOpen : Bool
  deriving DecidableEq, Repr

def expandable : Bool := !((childrenOf menuItem).getD []).isEmpty

def mainAt (pathname : String) : Bool :=
  !expandable menuItem && decide (pathOf menuItem = some pathname)

def childAt (pathname : String) : Bool :=
  ((childrenOf menuItem).getD []).any fun item => pathOf item = some pathname

def Menu.goTo (m : Menu) (pathname : String) : Menu :=
  ⟨pathname, childAt menuItem pathname || m.isOpen && !childAt menuItem m.pathname⟩

def act (m : Menu) : Event → Menu
  | .navigate pathname => m.goTo menuItem pathname
  | .click =>
    if expandable menuItem then { m with isOpen := !m.isOpen }
    else m.goTo menuItem (resolve m.pathname (target menuItem))

/-- What is rendered of a menu. -/
def Menu.hooks (m : Menu) : Hooks :=
  ⟨m.isOpen, expandable menuItem, mainAt menuItem m.pathname, childAt menuItem m.pathname⟩

end

/-! ## One render -/

section
variable {menuItem : IMenuItem} {resolve : String → String → String} {v now : View}
  {before : Option View} {m : Menu}

/-- Nothing has changed. -/
lemma effects_same (now : View) : effects menuItem (some now) now = now.hooks := by
  simp [effects]

lemma settle_same (n : Nat) (now : View) : settle menuItem n (some now) now = now := by
  cases n with
  | zero => rfl
  | succ n => rw [settle, if_pos (effects_same now)]

lemma settle_succ (n : Nat) (before : Option View) (now : View) :
    settle menuItem (n + 1) before now =
      settle menuItem n (some now) { now with hooks := effects menuItem before now } := by
  rw [settle]
  split_ifs with hquiet
  · rw [hquiet, settle_same]
  · rfl

/-- The loop over the children sets the same values each time. -/
lemma foldl_children (pathname : String) (children : List IMenuItem) (hooks : Hooks) :
    children.foldl (fun hooks item =>
        if pathOf item = some pathname then
          { hooks with isOneOfChildrenActive := true, isMenuExtended := true }
        else hooks) hooks =
      if children.any fun item => pathOf item = some pathname then
        { hooks with isOneOfChildrenActive := true, isMenuExtended := true }
      else hooks := by
  induction children generalizing hooks with
  | nil => rfl
  | cons item children ih =>
    rw [List.foldl_cons, ih, List.any_cons]
    by_cases hitem : pathOf item = some pathname
    · simp [hitem]
    · simp [hitem]

/-- An item without children is active itself, and any other by one of its children. -/
lemma calculate_known (hknown : now.hooks.isExpandable = expandable menuItem) (hooks : Hooks) :
    calculateIsActive menuItem now hooks =
      { hooks with
        isMainActive := mainAt menuItem now.pathname
        isOneOfChildrenActive := childAt menuItem now.pathname
        isMenuExtended := childAt menuItem now.pathname || hooks.isMenuExtended } := by
  unfold calculateIsActive mainAt childAt
  rw [hknown]
  cases hchildren : childrenOf menuItem with
  | none =>
    have hplain : expandable menuItem = false := by rw [expandable, hchildren]; rfl
    by_cases hpath : pathOf menuItem = some now.pathname <;> simp [hplain, hpath]
  | some children =>
    cases hexpandable : expandable menuItem with
    | false =>
      have hnil : children = [] := by
        simpa [expandable, hchildren] using hexpandable
      by_cases hpath : pathOf menuItem = some now.pathname <;> simp [hnil, hpath]
    | true =>
      simp only [foldl_children, Option.getD_some]
      cases hany : children.any fun item => pathOf item = some now.pathname <;> simp

/-- The effects after a navigation: only the first has something to do. -/
lemma effects_navigated (hknown : v.hooks.isExpandable = expandable menuItem) (pathname : String) :
    effects menuItem (some v) { v with location := v.location + 1, pathname } =
      { v.hooks with
        isMainActive := mainAt menuItem pathname
        isOneOfChildrenActive := childAt menuItem pathname
        isMenuExtended := childAt menuItem pathname || v.hooks.isMenuExtended } := by
  have hcalculate := @calculate_known menuItem { v with location := v.location + 1, pathname }
    hknown v.hooks
  simp [effects, hcalculate]

/-- What the second effect makes of values that have just been set. -/
def Hooks.left (hooks earlier : Hooks) : Hooks :=
  if earlier.isMainActive = hooks.isMainActive ∧
      earlier.isOneOfChildrenActive = hooks.isOneOfChildrenActive then hooks
  else if !hooks.isMainActive && !hooks.isOneOfChildrenActive then
    { hooks with isMenuExtended := false }
  else hooks

lemma left_others (hooks earlier : Hooks) :
    (hooks.left earlier).isExpandable = hooks.isExpandable ∧
      (hooks.left earlier).isMainActive = hooks.isMainActive ∧
      (hooks.left earlier).isOneOfChildrenActive = hooks.isOneOfChildrenActive := by
  rw [Hooks.left]
  split_ifs <;> exact ⟨rfl, rfl, rfl⟩

lemma effects_set {hooks : Hooks} (hexpandable : hooks.isExpandable = now.hooks.isExpandable) :
    effects menuItem (some now) { now with hooks } = hooks.left now.hooks := by
  simp only [effects, Hooks.left, Option.map_some, Option.isSome_some, if_true, hexpandable,
    Option.some.injEq, Prod.mk.injEq]

/-- After one more render nothing is left to do. -/
lemma settle_set {hooks : Hooks} (hexpandable : hooks.isExpandable = now.hooks.isExpandable)
    (n : Nat) : settle menuItem (n + 2) (some now) { now with hooks } =
      { now with hooks := hooks.left now.hooks } := by
  obtain ⟨hkept, hmain, hchild⟩ := left_others hooks now.hooks
  have hlast : effects menuItem (some { now with hooks })
      { now with hooks := hooks.left now.hooks } = hooks.left now.hooks := by
    rw [@effects_set menuItem { now with hooks } _ hkept, Hooks.left,
      if_pos ⟨hmain.symm, hchild.symm⟩]
  rw [settle_succ, effects_set hexpandable, settle_succ, hlast, settle_same]

/-! ## One event -/

/-- What is rendered is the menu. -/
structure Shows (menuItem : IMenuItem) (v : View) (m : Menu) : Prop where
  pathname : v.pathname = m.pathname
  hooks : v.hooks = m.hooks menuItem
  plain : expandable menuItem = false → m.isOpen = false

lemma childAt_plain (h : expandable menuItem = false) (pathname : String) :
    childAt menuItem pathname = false := by
  have hnil : (childrenOf menuItem).getD [] = [] := by simpa [expandable] using h
  rw [childAt, hnil]
  rfl

lemma mainAt_expandable (h : expandable menuItem = true) (pathname : String) :
    mainAt menuItem pathname = false := by
  rw [mainAt, h]
  rfl

lemma goTo_plain (hplain : expandable menuItem = false → m.isOpen = false) (pathname : String) :
    expandable menuItem = false → (m.goTo menuItem pathname).isOpen = false := by
  intro h
  rw [Menu.goTo, childAt_plain h, hplain h]
  rfl

/-- The item was left if it is not active any more. -/
lemma left_goTo (hplain : expandable menuItem = false → m.isOpen = false) (pathname : String) :
    ({ m.hooks menuItem with
        isMainActive := mainAt menuItem pathname
        isOneOfChildrenActive := childAt menuItem pathname
        isMenuExtended := childAt menuItem pathname || m.isOpen } : Hooks).left
      (m.hooks menuItem) = (m.goTo menuItem pathname).hooks menuItem := by
  cases hexpandable : expandable menuItem with
  | false =>
    have hchild := childAt_plain hexpandable
    have hmain : m.isOpen = false := hplain hexpandable
    cases hthere : mainAt menuItem pathname <;> cases hhere : mainAt menuItem m.pathname <;>
      simp [Hooks.left, Menu.hooks, Menu.goTo, hchild, hmain, hthere, hhere]
  | true =>
    have hmain := mainAt_expandable hexpandable
    cases hthere : childAt menuItem pathname <;> cases hhere : childAt menuItem m.pathname <;>
      simp [Hooks.left, Menu.hooks, Menu.goTo, hmain, hthere, hhere]

/-- The first effect runs before the third has set what it depends on. -/
lemma effects_mount (menuItem : IMenuItem) (pathname : String) :
    effects menuItem none ⟨0, pathname, ⟨false, false, false, false⟩⟩ =
      ⟨false, expandable menuItem, decide (pathOf menuItem = some pathname), false⟩ := by
  by_cases hpath : pathOf menuItem = some pathname <;>
    simp [effects, calculateIsActive, expandable, hpath]

/-- It runs again then. -/
lemma effects_expandable (hexpandable : expandable menuItem = true) (pathname : String)
    (isMainActive : Bool) :
    effects menuItem (some ⟨0, pathname, ⟨false, false, false, false⟩⟩)
        ⟨0, pathname, ⟨false, true, isMainActive, false⟩⟩ =
      ⟨childAt menuItem pathname, true, false, childAt menuItem pathname⟩ := by
  have hcalculate := @calculate_known menuItem ⟨0, pathname, ⟨false, true, isMainActive, false⟩⟩
    hexpandable.symm ⟨false, true, isMainActive, false⟩
  rw [mainAt_expandable hexpandable, Bool.or_false] at hcalculate
  cases isMainActive <;> simp [effects, hcalculate]

lemma mount_shows (menuItem : IMenuItem) (n : Nat) (pathname : String) :
    Shows menuItem (mount menuItem (n + 3) pathname) ⟨pathname, childAt menuItem pathname⟩ := by
  rw [mount, settle_succ, effects_mount]
  cases hexpandable : expandable menuItem with
  | false =>
    have hsettled := @settle_set menuItem ⟨0, pathname, ⟨false, false, false, false⟩⟩
      ⟨false, false, decide (pathOf menuItem = some pathname), false⟩ rfl n
    rw [hsettled]
    refine ⟨rfl, ?_, fun _ => childAt_plain hexpandable pathname⟩
    by_cases hpath : pathOf menuItem = some pathname <;>
      simp [Hooks.left, Menu.hooks, mainAt, childAt_plain hexpandable, hexpandable, hpath]
  | true =>
    have hset := @effects_set menuItem
      ⟨0, pathname, ⟨false, true, decide (pathOf menuItem = some pathname), false⟩⟩
      ⟨childAt menuItem pathname, true, false, childAt menuItem pathname⟩ rfl
    have hleft : (⟨childAt menuItem pathname, true, false, childAt menuItem pathname⟩ : Hooks).left
        ⟨false, true, decide (pathOf menuItem = some pathname), false⟩ =
        ⟨childAt menuItem pathname, true, false, childAt menuItem pathname⟩ := by
      cases childAt menuItem pathname <;> simp [Hooks.left]
    rw [settle_succ, effects_expandable hexpandable, settle_succ, hset, hleft, settle_same]
    refine ⟨rfl, ?_, fun hplain => absurd (hexpandable.symm.trans hplain) (by decide)⟩
    rw [Menu.hooks, mainAt_expandable hexpandable, hexpandable]

lemma Shows.navigate (h : Shows menuItem v m) (n : Nat) (pathname : String) :
    Shows menuItem (navigate menuItem (n + 3) v pathname) (m.goTo menuItem pathname) := by
  have hknown : v.hooks.isExpandable = expandable menuItem := congrArg Hooks.isExpandable h.hooks
  have hsettled := @settle_set menuItem { v with location := v.location + 1, pathname }
    { v.hooks with
      isMainActive := mainAt menuItem pathname
      isOneOfChildrenActive := childAt menuItem pathname
      isMenuExtended := childAt menuItem pathname || v.hooks.isMenuExtended } rfl n
  rw [MenuItems.navigate, settle_succ, effects_navigated hknown, hsettled]
  refine ⟨rfl, ?_, goTo_plain h.plain pathname⟩
  simp only [h.hooks]
  exact left_goTo h.plain pathname

lemma Shows.step (h : Shows menuItem v m) (n : Nat) (event : Event) :
    Shows menuItem (step menuItem resolve (n + 3) v event) (act menuItem resolve m event) := by
  have hknown : v.hooks.isExpandable = expandable menuItem := congrArg Hooks.isExpandable h.hooks
  cases event with
  | navigate pathname => exact h.navigate n pathname
  | click =>
    rw [MenuItems.step, handleMainMenuAction, act, hknown]
    split_ifs with hexpandable
    · have hsettled := @settle_set menuItem v
        { v.hooks with isMenuExtended := !v.hooks.isMenuExtended } rfl (n + 1)
      rw [hsettled, Hooks.left, if_pos ⟨rfl, rfl⟩]
      refine ⟨h.pathname, ?_, fun hplain => absurd (hexpandable.symm.trans hplain) (by decide)⟩
      simp only [h.hooks]
      rfl
    · rw [h.pathname]
      exact h.navigate n _

variable (resolve) in
lemma Shows.run (h : Shows menuItem v m) (n : Nat) (events : List Event) :
    Shows menuItem (run menuItem resolve (n + 3) v events)
      (events.foldl (act menuItem resolve) m) := by
  induction events generalizing v m with
  | nil => exact h
  | cons event events ih => exact ih (h.step n event)

end

/-- Three renders are enough, and what is rendered after any navigations and clicks is the menu
with one bit. -/
theorem menu_of_events (menuItem : IMenuItem) (resolve : String → String → String)
    (pathname : String) (events : List Event) (n : Nat) :
    let v := run menuItem resolve (n + 3) (mount menuItem (n + 3) pathname) events
    let m := events.foldl (act menuItem resolve) ⟨pathname, childAt menuItem pathname⟩
    v.pathname = m.pathname ∧ v.hooks = m.hooks menuItem := by
  have hshows := (mount_shows menuItem n pathname).run resolve n events
  exact ⟨hshows.pathname, hshows.hooks⟩

end MenuItems
