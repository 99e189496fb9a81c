import Mathlib.Data.List.Infix

/-!
# The search in the menu

`SidebarSearch` looks for a text in the names of the items of a menu and of their children. Its
loop returns with the first item that has children, so what comes after this item is not looked
at.
-/

namespace MenuSearch

inductive IMenuItem where
  | item (name : String) (icon path : Option String) (children : Option (List IMenuItem))

/-! ## The search -/

/-- An optional text that is there and not empty. -/
def truthy : Option String → Bool
  | some text => text ≠ ""
  | none => false

section
variable (searchText : String)

/-- `menuItem.name.includes(searchText) && menuItem.path`. -/
def IMenuItem.found : IMenuItem → Bool
  | .item name _ path _ => decide (searchText.toList <:+: name.toList) && truthy path

/-- `results.push(menuItem)` under its condition. -/
def push (results : List IMenuItem) (menuItem : IMenuItem) : List IMenuItem :=
  if menuItem.found searchText then results ++ [menuItem] else results

/-- An empty list of children is one, too. -/
def findMenuItems : List IMenuItem → List IMenuItem → List IMenuItem
  | [], results => results
  | .item name icon path none :: menu, results =>
    findMenuItems menu (push searchText results (.item name icon path none))
  | .item name icon path (some children) :: _, results =>
    findMenuItems children (push searchText results (.item name icon path (some children)))

end

/-! ## The items -/

/-- The items at any depth, each before its children. -/
def preorder : List IMenuItem → List IMenuItem
  | [] => []
  | .item name icon path none :: menu => .item name icon path none :: preorder menu
  | .item name icon path (some children) :: menu =>
    .item name icon path (some children) :: (preorder children ++ preorder menu)

/-- The items that the search comes to. -/
def visited : List IMenuItem → List IMenuItem
  | [] => []
  | .item name icon path none :: menu => .item name icon path none :: visited menu
  | .item name icon path (some children) :: _ =>
    .item name icon path (some children) :: visited children

/-- What comes after the first item with children, in the menu, among these children, and so
on. -/
def skipped : List IMenuItem → List IMenuItem
  | [] => []
  | .item _ _ _ none :: menu => skipped menu
  | .item _ _ _ (some children) :: menu => skipped children ++ menu

/-- An item of the menu, or of the children of one of its items, and so on. -/
inductive Within : IMenuItem → List IMenuItem → Prop where
  | top {menuItem : IMenuItem} {menu : List IMenuItem} (h : menuItem ∈ menu) :
      Within menuItem menu
  | inner {menuItem : IMenuItem} {menu children : List IMenuItem} {name : String}
      {icon path : Option String} (h : .item name icon path (some children) ∈ menu)
      (hinner : Within menuItem children) : Within menuItem menu

variable {searchText : String} {menuItem : IMenuItem}

lemma preorder_append (a b : List IMenuItem) : preorder (a ++ b) = preorder a ++ preorder b := by
  induction a with
  | nil => rw [preorder, List.nil_append, List.nil_append]
  | cons first a ih =>
    obtain ⟨name, icon, path, children⟩ := first
    rcases children with _ | children
    · rw [List.cons_append, preorder, ih, preorder, List.cons_append]
    · rw [List.cons_append, preorder, ih, preorder, List.cons_append, List.append_assoc]

lemma Within.mono {menu larger : List IMenuItem} (h : Within menuItem menu) (hsub : menu ⊆ larger) :
    Within menuItem larger := by
  cases h with
  | top hmem => exact .top (hsub hmem)
  | inner hmem hinner => exact .inner (hsub hmem) hinner

/-- An item of the menu is listed, and its children after it. -/
lemma preorder_of_mem {name : String} {icon path : Option String}
    {children : Option (List IMenuItem)} {menu : List IMenuItem} (h : .item name icon path children ∈ menu) :
    .item name icon path children ∈ preorder menu ∧
      ∀ items, children = some items → preorder items ⊆ preorder menu := by
  obtain ⟨before, after, rfl⟩ := List.append_of_mem h
  rw [preorder_append]
  rcases children with _ | children
  · rw [preorder]
    exact ⟨by simp, fun items hitems => nomatch hitems⟩
  · rw [preorder]
    refine ⟨by simp, fun items hitems => ?_⟩
    obtain rfl := Option.some.inj hitems
    intro menuItem hmem
    simp [hmem]

/-- The preorder lists what is in the menu at any depth. -/
lemma mem_preorder_iff {menu : List IMenuItem} :
    menuItem ∈ preorder menu ↔ Within menuItem menu := by
  constructor
  · intro h
    induction menu using preorder.induct with
    | case1 =>
      rw [preorder] at h
      cases h
    | case2 name icon path menu ih =>
      rw [preorder] at h
      rcases List.mem_cons.mp h with rfl | h
      · exact .top List.mem_cons_self
      · exact (ih h).mono (List.subset_cons_self _ _)
    | case3 name icon path children menu ihchildren ihmenu =>
      rw [preorder] at h
      rcases List.mem_cons.mp h with rfl | h
      · exact .top List.mem_cons_self
      · rcases List.mem_append.mp h with h | h
        · exact .inner List.mem_cons_self (ihchildren h)
        · exact (ihmenu h).mono (List.subset_cons_self _ _)
  · intro h
    induction h with
    | top hmem =>
      obtain ⟨name, icon, path, children⟩ := menuItem
      exact (preorder_of_mem hmem).1
    | inner hmem hinner ih => exact (preorder_of_mem hmem).2 _ rfl ih

/-- The loop comes to what is not skipped. -/
lemma preorder_eq (menu : List IMenuItem) :
    preorder menu = visited menu ++ preorder (skipped menu) := by
  induction menu using preorder.induct with
  | case1 => rw [skipped, visited, List.nil_append]
  | case2 name icon path menu ih => rw [preorder, visited, skipped, ih, List.cons_append]
  | case3 name icon path children menu ihchildren ihmenu =>
    rw [preorder, visited, skipped, ihchildren, preorder_append, List.cons_append,
      List.append_assoc]

lemma push_append (results : List IMenuItem) (first : IMenuItem) (rest : List IMenuItem) :
    push searchText results first ++ rest.filter (IMenuItem.found searchText) =
      results ++ (first :: rest).filter (IMenuItem.found searchText) := by
  rw [push]
  by_cases hfound : first.found searchText = true
  · rw [if_pos hfound, List.filter_cons_of_pos hfound, List.append_assoc, List.singleton_append]
  · rw [if_neg hfound, List.filter_cons_of_neg hfound]

/-- The results are extended by what is found on the way. -/
lemma findMenuItems_eq (menu results : List IMenuItem) :
    findMenuItems searchText menu results =
      results ++ (visited menu).filter (IMenuItem.found searchText) := by
  induction menu using visited.induct generalizing results with
  | case1 => rw [findMenuItems, visited, List.filter_nil, List.append_nil]
  | case2 name icon path menu ih => rw [findMenuItems, ih, visited, push_append]
  | case3 name icon path children menu ih => rw [findMenuItems, ih, visited, push_append]

/-- All items with a path and the text in their names are found, each once and in preorder,
just if none of them is skipped. -/
theorem findsAll_iff (searchText : String) (menu : List IMenuItem) :
    findMenuItems searchText menu [] = (preorder menu).filter (IMenuItem.found searchText) ↔
      ∀ menuItem, Within menuItem (skipped menu) → menuItem.found searchText = false := by
  rw [findMenuItems_eq, List.nil_append, preorder_eq, List.filter_append, List.self_eq_append_right,
    List.filter_eq_nil_iff]
  simp only [mem_preorder_iff, Bool.not_eq_true]

def registries : IMenuItem := .item "Registries" none (some "/registries") none

def lamps : IMenuItem := .item "Lamps" none (some "/lamps") none

def devices : IMenuItem := .item "Devices" none none (some [lamps])

/-- The item after the one with children is not found. -/
theorem sibling_missed :
    findMenuItems "Reg" [devices, registries] [] = [] ∧
      (preorder [devices, registries]).filter (IMenuItem.found "Reg") = [registries] := by
  have hdevices : devices.found "Reg" = false := by decide
  have hlamps : lamps.found "Reg" = false := by decide
  have hregistries : registries.found "Reg" = true := by decide
  have hvisited : visited [devices, registries] = [devices, lamps] := by
    rw [devices, visited, lamps, visited, visited]
  have hskipped : skipped [devices, registries] = [registries] := by
    rw [devices, skipped, lamps, skipped, skipped, List.nil_append]
  have hlast : preorder [registries] = [registries] := by
    rw [registries, preorder, preorder]
  constructor
  · rw [findMenuItems_eq, hvisited]
    simp [hdevices, hlamps]
  · rw [preorder_eq, hvisited, hskipped, hlast]
    simp [hdevices, hlamps, hregistries]

end MenuSearch
