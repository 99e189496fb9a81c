import Mathlib.Tactic.Tauto
import RpiRobot.ThemeClasses

/-!
# The layout classes

The root element has the classes of a layout, too. The pages before the login set theirs when they
are rendered, `Main` adds its own when it is mounted and changes them by two effects, which run only
when what they depend on has changed. What one page leaves behind, the next one takes away.
-/

namespace LayoutClasses

open ThemeClasses

/-! ## What a layout is -/

/-- The classes of the pages before the login. -/
def pageClasses : List String := ["hold-transition", "login-page", "register-page"]

/-- The classes that the effect of the menu changes. -/
def menuClasses : List String := ["sidebar-open", "sidebar-collapse", "sidebar-closed"]

def layoutClasses : List String :=
  pageClasses ++ "sidebar-mini" :: "control-sidebar-slide-open" :: menuClasses

/-- In any window but a large one, a menu is closed while it is not collapsed. -/
def menuLayout (ui : UiState) : List String :=
  if ui.screenSize = .text "lg" then
    if ui.menuSidebarCollapsed then ["sidebar-collapse"] else []
  else if ui.menuSidebarCollapsed then
    if ui.screenSize = .text "xs" then ["sidebar-open"] else []
  else ["sidebar-collapse", "sidebar-closed"]

def controlLayout (ui : UiState) : List String :=
  if ui.controlSidebarCollapsed then [] else ["control-sidebar-slide-open"]

/-- The classes of a page, by the state of the store alone. -/
def layout (page : Option Page) (ui : UiState) : List String :=
  match page with
  | none => []
  | some .login => ["hold-transition", "login-page"]
  | some .register => ["hold-transition", "register-page"]
  | some .forgotPassword => ["hold-transition", "login-page"]
  | some .recoverPassword => ["hold-transition", "login-page"]
  | some .main => "sidebar-mini" :: (menuLayout ui ++ controlLayout ui)

/-- The root element has the layout classes of the list, and no others. -/
def Laid (classes root : ClassList) : Prop := ∀ c ∈ layoutClasses, c ∈ root ↔ c ∈ classes

variable {ui before : UiState} {root classes : ClassList} {c name : String} {b : Browser}

lemma laid_congr {root' : ClassList} (h : ∀ c ∈ layoutClasses, c ∈ root' ↔ c ∈ root) :
    Laid classes root' ↔ Laid classes root :=
  forall₂_congr fun c hc => iff_congr (h c hc) Iff.rfl

/-! ## The reducers -/

lemma mem_switch_ne (hne : c ≠ name) (flag : Bool) :
    c ∈ switchWindowClass flag name root ↔ c ∈ root := by
  rw [mem_switch, if_neg hne]

/-- The reducers change classes of the theme alone. -/
lemma reduce_laid (action : Action) :
    Laid classes (reduce action ui root).2 ↔ Laid classes root := by
  refine laid_congr fun c hc => ?_
  have hne : ∀ name ∈ themeClasses, c ≠ name := by
    rintro name hname rfl
    exact absurd hname ((by decide : ∀ c ∈ layoutClasses, c ∉ themeClasses) c hc)
  cases action with
  | toggleHeaderFixed => exact mem_switch_ne (hne _ (by decide)) _
  | toggleFooterFixed => exact mem_switch_ne (hne _ (by decide)) _
  | toggleLayoutBoxed => exact mem_switch_ne (hne _ (by decide)) _
  | toggleDarkMode => exact mem_switch_ne (hne _ (by decide)) _
  | toggleLayoutFixed =>
    have hfixed : c ≠ "layout-fixed" := hne _ (by decide)
    rw [reduce]
    split_ifs
    · exact mem_removeWindowClass.trans (and_iff_right hfixed)
    · exact mem_addWindowClass.trans (or_iff_right hfixed)
  | _ => exact Iff.rfl

/-! ## The effects of `Main` -/

lemma mem_menuLayout (h : c ∈ menuLayout ui) : c ∈ menuClasses := by
  have hsubset : menuLayout ui ⊆ menuClasses := by
    rw [menuLayout]
    split_ifs <;> decide
  exact hsubset h

lemma mem_controlLayout (h : c ∈ controlLayout ui) : c = "control-sidebar-slide-open" := by
  rw [controlLayout] at h
  split_ifs at h
  · exact absurd h List.not_mem_nil
  · exact List.mem_singleton.mp h

lemma mem_mounted : c ∈ Main.mounted root ↔
    c = "sidebar-mini" ∨ c ∉ pageClasses ∧ c ∈ root := by
  simp only [pageClasses, Main.mounted, mem_addWindowClass, mem_removeWindowClass, List.mem_cons,
    List.not_mem_nil, or_false, not_or, and_assoc]

/-- The effect of the menu, whatever was there before. -/
lemma mem_sidebar : c ∈ Main.sidebar ui root ↔
    c ∈ menuLayout ui ∨ c ∉ menuClasses ∧ c ∈ root := by
  have hclear : c ∈ removeWindowClass "sidebar-open" (removeWindowClass "sidebar-collapse"
      (removeWindowClass "sidebar-closed" root)) ↔ c ∉ menuClasses ∧ c ∈ root := by
    simp only [menuClasses, mem_removeWindowClass, List.mem_cons, List.not_mem_nil, or_false,
      not_or, and_assoc]
  cases hcollapsed : ui.menuSidebarCollapsed <;> by_cases hlg : ui.screenSize = .text "lg" <;>
    by_cases hxs : ui.screenSize = .text "xs" <;>
    simp [Main.sidebar, menuLayout, hclear, hcollapsed, hlg, hxs, or_assoc]

lemma mem_controlSidebar : c ∈ Main.controlSidebar ui root ↔
    c ∈ controlLayout ui ∨ c ≠ "control-sidebar-slide-open" ∧ c ∈ root := by
  cases hcollapsed : ui.controlSidebarCollapsed with
  | true => simp [Main.controlSidebar, controlLayout, hcollapsed]
  | false =>
    by_cases hc : c = "control-sidebar-slide-open" <;>
      simp [Main.controlSidebar, controlLayout, hcollapsed, hc]

/-- No class is of two of the kinds that `Main` sets. -/
lemma kinds_disjoint : (c ∈ menuClasses → c ≠ "control-sidebar-slide-open") ∧
    (c = "sidebar-mini" → c ∉ menuClasses ∧ c ≠ "control-sidebar-slide-open") := by
  constructor
  · rintro hmenu rfl
    exact absurd hmenu (by decide)
  · rintro rfl
    decide

lemma mem_layout_main : c ∈ layout (some .main) ui ↔
    c = "sidebar-mini" ∨ c ∈ menuLayout ui ∨ c ∈ controlLayout ui := by
  rw [layout, List.mem_cons, List.mem_append]

/-- When `Main` is mounted, its effects take away whatever another page has left. -/
lemma entered_laid (ui : UiState) (root : ClassList) :
    Laid (layout (some .main) ui)
      (Main.controlSidebar ui (Main.sidebar ui (Main.mounted root))) := by
  intro c hc
  rw [mem_controlSidebar, mem_sidebar, mem_mounted, mem_layout_main]
  rw [layoutClasses, List.mem_append, List.mem_cons, List.mem_cons] at hc
  have hkinds := @kinds_disjoint c
  have hmenu := @mem_menuLayout ui c
  have hcontrol := @mem_controlLayout ui c
  tauto

/-- The effect of the menu puts one layout of the menu in the place of another. -/
lemma sidebar_laid (h : Laid ("sidebar-mini" :: (menuLayout before ++ classes)) root)
    (hclasses : ∀ c ∈ classes, c ∉ menuClasses) :
    Laid ("sidebar-mini" :: (menuLayout ui ++ classes)) (Main.sidebar ui root) := by
  intro c hc
  rw [mem_sidebar, h c hc]
  simp only [List.mem_cons, List.mem_append]
  have hkinds := @kinds_disjoint c
  have hbefore := @mem_menuLayout before c
  have hclass := hclasses c
  tauto

lemma controlSidebar_laid
    (h : Laid ("sidebar-mini" :: (menuLayout ui ++ controlLayout before)) root) :
    Laid ("sidebar-mini" :: (menuLayout ui ++ controlLayout ui)) (Main.controlSidebar ui root) := by
  intro c hc
  rw [mem_controlSidebar, h c hc]
  simp only [List.mem_cons, List.mem_append]
  have hkinds := @kinds_disjoint c
  have hmenu := @mem_menuLayout ui c
  have hbefore := @mem_controlLayout before c
  tauto

/-- An effect that does not run would change nothing. -/
lemma updated_laid (h : Laid (layout (some .main) before) root) :
    Laid (layout (some .main) ui) (Main.updated before ui root) := by
  unfold Main.updated
  extract_lets resized first
  have hfirst : Laid ("sidebar-mini" :: (menuLayout ui ++ controlLayout before)) first := by
    unfold first
    split_ifs with hchanged
    · refine sidebar_laid h fun c hc => ?_
      rw [mem_controlLayout hc]
      decide
    · rw [not_or, not_not, not_not] at hchanged
      rw [menuLayout, ← hchanged.1, ← hchanged.2]
      exact h
  split_ifs with hchanged
  · exact controlSidebar_laid hfirst
  · rw [not_or, not_not, not_not] at hchanged
    rw [layout, controlLayout, ← hchanged.2]
    exact hfirst

/-! ## One event -/

variable (ui root) in
/-- A page that sets the whole list does not look at the state. -/
lemma rendered_laid {page : Page} (hpage : page ≠ .main) :
    rendered page root = layout (some page) ui ∧ "sidebar-mini" ∉ layout (some page) ui := by
  cases page with
  | main => exact absurd rfl hpage
  | login | register | forgotPassword | recoverPassword =>
    refine ⟨rfl, ?_⟩
    rw [layout]
    decide

/-- A page that sets the whole list, after `Main` or not. -/
lemma set_laid (hmini : "sidebar-mini" ∉ classes) (page : Option Page) :
    Laid classes (if page = some .main then Main.unmounted classes else classes) := by
  intro c hc
  split_ifs
  · refine mem_removeWindowClass.trans (and_iff_right_of_imp fun hmem heq => ?_)
    exact hmini (heq ▸ hmem)
  · exact Iff.rfl

lemma visit_page (b : Browser) (page : Page) : (visit b page).page = some page := by
  unfold visit
  extract_lets
  split_ifs with hsame
  · exact hsame
  · rfl

lemma visit_laid (h : Laid (layout b.page b.ui) b.root) (page : Page) :
    Laid (layout (visit b page).page (visit b page).ui) (visit b page).root := by
  rw [visit_page, visit_ui]
  by_cases hmain : page = .main
  · subst hmain
    by_cases hsame : b.page = some .main
    · rw [visit, if_pos hsame]
      rw [hsame] at h
      exact h
    · rw [visit, if_neg hsame]
      exact entered_laid b.ui _
  · obtain ⟨hset, hmini⟩ := rendered_laid b.ui b.root hmain
    by_cases hsame : b.page = some page
    · rw [visit, if_pos hsame, hset]
      exact fun c hc => Iff.rfl
    · rw [visit, if_neg hsame]
      simp only [if_neg hmain, hset]
      exact set_laid hmini b.page

/-- The page that is shown keeps its layout when `App` is rendered again. -/
lemma rerendered_laid {page : Option Page} (hpage : page ≠ some .main)
    (h : Laid (layout page before) root) :
    Laid (layout page ui) (rerendered page before ui root) := by
  cases page with
  | none => exact h
  | some page =>
    have hmain : page ≠ .main := fun heq => hpage (congrArg some heq)
    obtain ⟨hbefore, -⟩ := rendered_laid before root hmain
    obtain ⟨hset, -⟩ := rendered_laid ui root hmain
    rw [rerendered, ← hset]
    split_ifs
    · exact fun c hc => Iff.rfl
    · rw [hbefore]
      exact h

lemma step_laid (h : Laid (layout b.page b.ui) b.root) (e : Event) :
    Laid (layout (step b e).page (step b e).ui) (step b e).root := by
  cases e with
  | visit page => exact visit_laid h page
  | dispatch action =>
    have hreduced : Laid (layout b.page b.ui) (reduce action b.ui b.root).2 :=
      (reduce_laid action).mpr h
    simp only [step]
    by_cases hpage : b.page = some .main
    · have hsame : rerendered b.page b.ui (reduce action b.ui b.root).1
          (reduce action b.ui b.root).2 = (reduce action b.ui b.root).2 := by
        rw [hpage, rerendered, rendered, ite_self]
      rw [if_pos hpage, hsame]
      rw [hpage] at hreduced ⊢
      exact updated_laid hreduced
    · rw [if_neg hpage]
      exact rerendered_laid hpage hreduced

/-! ## Runs -/

lemma run_laid (h : Laid (layout b.page b.ui) b.root) (events : List Event) :
    Laid (layout (events.foldl step b).page (events.foldl step b).ui)
      (events.foldl step b).root := by
  induction events generalizing b with
  | nil => exact h
  | cons e events ih => exact ih (step_laid h e)

/-- Whatever was visited, toggled and resized before, the root element has the layout classes of
the page that is shown and of the state that the store is in. -/
theorem layout_of_page (innerWidth : Nat) (events : List Event) :
    let b := events.foldl step (Browser.init innerWidth)
    ∀ c ∈ layoutClasses, c ∈ b.root ↔ c ∈ layout b.page b.ui := by
  have hnone : ∀ c ∈ layoutClasses, c ∈ ["layout-footer-fixed"] ↔ c ∈ ([] : List String) := by
    decide
  have hinit : Laid (layout (Browser.init innerWidth).page (Browser.init innerWidth).ui)
    (Browser.init innerWidth).root := hnone
  exact run_laid hinit events

end LayoutClasses
