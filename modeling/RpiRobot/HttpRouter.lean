import Mathlib.Data.List.DropRight

/-!
# The table of handlers

`HttpRequestHandlerManager`: handlers are registered for a method and a path, and a request
goes to the handler of the path of its target, or else to the handler of every path.
-/

namespace HttpRouter

/-- The verbs that a handler is registered for or tells apart, and the others by their
numbers. -/
inductive Method where
  | get
  | post
  | put
  | delete_
  | options
  | other (verb : Nat)
  deriving DecidableEq, Repr

structure Request where
  method : Method
  path : String
  deriving DecidableEq, Repr

abbrev Handlers (H : Type) := List (Request × H)

variable {H : Type}

/-- `emplace` keeps the handler that is already there. -/
def Handlers.registerHandler (handlers : Handlers H) (method : Method) (path : String)
    (handler : H) : Handlers H :=
  match handlers.lookup ⟨method, path⟩ with
  | some _ => handlers
  | none => handlers ++ [(⟨method, path⟩, handler)]

/-- The first of the tokens that question marks separate. -/
def firstToken (target : String) : List Char :=
  (target.toList.dropWhile (· = '?')).takeWhile (· ≠ '?')

/-- The path without the slashes at its end. Reading the last character of an empty path is
undefined; here it is no slash. -/
def stripSlashes (path : List Char) : List Char := path.rdropWhile (· = '/')

/-- A target without any token has no first one. -/
def pathOf (target : String) : Option String :=
  if firstToken target = [] then none
  else if stripSlashes (firstToken target) = [] then some "/"
  else some (String.ofList (stripSlashes (firstToken target)))

inductive Unrouted where
  | noToken
  | invalidArgument
  deriving DecidableEq, Repr

def Handlers.process (handlers : Handlers H) (method : Method) (target : String) :
    Except Unrouted H :=
  match pathOf target with
  | none => .error .noToken
  | some path =>
    match handlers.lookup ⟨method, path⟩ with
    | some handler => .ok handler
    | none =>
      match handlers.lookup ⟨method, "/**"⟩ with
      | some handler => .ok handler
      | none => .error .invalidArgument

/-- A path of a target: nothing of the query, and no slash at the end. -/
def Plain (path : String) : Prop :=
  path.toList ≠ [] ∧ path.toList.all (· ≠ '?') = true ∧ path.toList.getLast? ≠ some '/'

instance (path : String) : Decidable (Plain path) := inferInstanceAs (Decidable (_ ∧ _ ∧ _))

/-- The first token of a target is what stands before the question mark. -/
lemma firstToken_of_no_mark {path : String} (hne : path.toList ≠ [])
    (hmark : ∀ c ∈ path.toList, c ≠ '?') {rest : String}
    (hrest : rest.toList = [] ∨ rest.toList.head? = some '?') :
    firstToken (path ++ rest) = path.toList := by
  rw [firstToken, String.toList_append]
  obtain ⟨c, cs, hpath⟩ := List.exists_cons_of_ne_nil hne
  rw [hpath] at hmark ⊢
  have hc : c ≠ '?' := hmark c List.mem_cons_self
  have hnone : rest.toList.takeWhile (· ≠ '?') = [] := by
    rcases hrest with hnil | hhead
    · rw [hnil, List.takeWhile_nil]
    · obtain ⟨tail, htail⟩ := List.head?_eq_some_iff.mp hhead
      rw [htail]
      rfl
  rw [List.cons_append, List.dropWhile_cons_of_neg (by simp [hc]), ← List.cons_append,
    List.takeWhile_append_of_pos (fun d hd => by simpa using hmark d hd), hnone,
    List.append_nil]

lemma firstToken_append {path : String} (h : Plain path) {rest : String}
    (hrest : rest.toList = [] ∨ rest.toList.head? = some '?') :
    firstToken (path ++ rest) = path.toList :=
  firstToken_of_no_mark h.1 (fun c hc => by simpa using List.all_eq_true.mp h.2.1 c hc) hrest

lemma stripSlashes_plain {path : String} (h : Plain path) :
    stripSlashes path.toList = path.toList := by
  rw [stripSlashes, List.rdropWhile_eq_self_iff]
  intro hl hlast
  have hslash := h.2.2
  rw [List.getLast?_eq_some_getLast hl] at hslash
  exact hslash (congrArg some (of_decide_eq_true hlast))

lemma pathOf_append {path : String} (h : Plain path) {rest : String}
    (hrest : rest.toList = [] ∨ rest.toList.head? = some '?') :
    pathOf (path ++ rest) = some path := by
  rw [pathOf, firstToken_append h hrest, if_neg h.1, stripSlashes_plain h, if_neg h.1,
    String.ofList_toList]

lemma query_head (query : String) : ("?" ++ query).toList.head? = some '?' := by
  rw [String.toList_append]
  rfl

/-- A plain path is found again in front of a query. -/
theorem pathOf_query {path : String} (h : Plain path) (query : String) :
    pathOf (path ++ "?" ++ query) = some path := by
  rw [String.append_assoc]
  exact pathOf_append h (.inr (query_head query))

theorem pathOf_plain {path : String} (h : Plain path) : pathOf path = some path := by
  have hempty : pathOf (path ++ "") = some path := pathOf_append h (.inl rfl)
  rwa [String.append_empty] at hempty

/-- A registered path is served with any query and with none. -/
theorem process_query {handlers : Handlers H} {method : Method} {path : String} {handler : H}
    (h : Plain path) (hfound : handlers.lookup ⟨method, path⟩ = some handler) (query : String) :
    handlers.process method (path ++ "?" ++ query) = .ok handler := by
  rw [Handlers.process, pathOf_query h]
  simp only [hfound]

theorem process_plain {handlers : Handlers H} {method : Method} {path : String} {handler : H}
    (h : Plain path) (hfound : handlers.lookup ⟨method, path⟩ = some handler) :
    handlers.process method path = .ok handler := by
  rw [Handlers.process, pathOf_plain h]
  simp only [hfound]

end HttpRouter
