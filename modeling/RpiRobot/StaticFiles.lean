import RpiRobot.LexicalPaths
import RpiRobot.RequestStatus
import RpiRobot.RouterTargets

/-!
# The files that are served

`HttpFileHandler` opens the root with the target after it, and then the index. It takes the
whole target, with its query; the router that chooses the handler does not look at the query.

A set of files says what each path opens. Two paths may open one file, as `//index.html` and
`/index.html` do, and a directory opens like a file.
-/

namespace StaticFiles

open HttpRouter (Handlers)
open LexicalPaths (StaysInside staysInside_append staysInside_self)
open RequestStatus
open RouterTargets (process_eq_routed pathOf_asked pathOf_bare)
open SqlServers (NulFree cString cString_append cString_eq)

variable {File : Type} {files : String → Option File} {root target p q : String}

/-! ## What is opened -/

/-- `handle` refuses the target before it opens anything. -/
def Refused (target : String) : Prop :=
  target.toList.head? ≠ some '/' ∨ "..".toList <:+: target.toList

instance (target : String) : Decidable (Refused target) := inferInstanceAs (Decidable (_ ∨ _))

def mainPath (root target : String) : String :=
  root ++ (if target = "/" then "/index.html" else target)

def indexPath (root : String) : String := root ++ "/index.html"

/-- The arguments of `file.open`, in order. -/
def opened (files : String → Option String) (root target : String) : List String :=
  if Refused target then []
  else
    match files (mainPath root target) with
    | some _ => [cString (mainPath root target)]
    | none => [cString (mainPath root target), cString (indexPath root)]

lemma findFile_eq (files : String → Option File) (root target : String) :
    findFile files root target =
      if Refused target then none
      else
        match files (mainPath root target) with
        | some file => some (mainPath root target, file)
        | none => (files (indexPath root)).map fun file => (indexPath root, file) := by
  rw [findFile]
  rfl

/-! ## Files of the root -/

/-- Nothing is appended after a NUL. -/
lemma cString_append_of_nul (h : ¬ NulFree root) (s : String) :
    cString (root ++ s) = cString root := by
  have hstops : (root.toList.takeWhile (· ≠ '\x00')).length ≠ root.toList.length := by
    intro hlength
    have hall := List.takeWhile_eq_self_iff.mp
      ((List.takeWhile_prefix _).eq_of_length hlength)
    exact h fun hmem => absurd (hall _ hmem) (by decide)
  rw [cString, String.toList_append, List.takeWhile_append, if_neg hstops, cString]

/-- A path that begins with a slash and has no two points stays below any root. -/
lemma staysInside_root (hslash : target.toList.head? = some '/')
    (hdots : ¬ "..".toList <:+: target.toList) :
    StaysInside (cString root).toList (cString (root ++ target)).toList := by
  by_cases hroot : NulFree root
  · obtain ⟨tail, htail⟩ := List.head?_eq_some_iff.mp hslash
    rw [htail] at hdots
    have hlist : (cString target).toList = '/' :: tail.takeWhile (· ≠ '\x00') := by
      rw [cString, String.toList_ofList, htail, List.takeWhile_cons_of_pos (by decide)]
    rw [cString_append hroot, cString_eq hroot, String.toList_append, hlist]
    refine staysInside_append fun hpart => hdots ?_
    exact (hpart.trans (List.takeWhile_prefix _).isInfix).trans (List.suffix_cons _ _).isInfix
  · rw [cString_append_of_nul hroot]
    exact staysInside_self _

lemma mainPath_inside (root : String) (h : ¬ Refused target) :
    StaysInside (cString root).toList (cString (mainPath root target)).toList := by
  rw [mainPath]
  split_ifs with hindex
  · exact staysInside_root rfl (by decide)
  · rw [Refused, not_or, not_not] at h
    exact staysInside_root h.1 h.2

lemma indexPath_inside (root : String) :
    StaysInside (cString root).toList (cString (indexPath root)).toList :=
  staysInside_root rfl (by decide)

/-- Nothing that is opened leaves the root, and a target that would is refused at once. -/
theorem opened_stays_inside (files : String → Option String) (root target : String) :
    (∀ path ∈ opened files root target, StaysInside (cString root).toList path.toList) ∧
      (¬ StaysInside (cString root).toList (cString (root ++ target)).toList →
        opened files root target = [] ∧ findFile files root target = none) := by
  constructor
  · intro path hpath
    rw [opened] at hpath
    split_ifs at hpath with hrefused
    · cases hpath
    · have hmain := mainPath_inside root hrefused
      cases hfile : files (mainPath root target) with
      | some content =>
        simp only [hfile, List.mem_singleton] at hpath
        rwa [hpath]
      | none =>
        simp only [hfile, List.mem_cons, List.not_mem_nil, or_false] at hpath
        rcases hpath with rfl | rfl
        · exact hmain
        · exact indexPath_inside root
  · intro hleaves
    have hrefused : Refused target := by
      by_contra hnot
      rw [Refused, not_or, not_not] at hnot
      exact hleaves (staysInside_root hnot.1 hnot.2)
    rw [opened, findFile_eq, if_pos hrefused, if_pos hrefused]
    exact ⟨rfl, rfl⟩

/-! ## Queries -/

section
variable {Value : Type}

/-- The file that a request is answered with and its content type, if the table gives the
request to a file handler. -/
def servedFile (files : String → Option File) (table : Handlers (Handler Value))
    (target : String) : Option (File × String) :=
  match table.process .get target with
  | .ok (.file root) => (findFile files root target).map fun file => (file.2, mimeType file.1)
  | _ => none

/-- What a path is answered with when it opens. -/
def served (files : String → Option File) (path : String) : Option (File × String) :=
  (files path).map fun file => (file, mimeType path)

/-- The paths open one file with one content type, or nothing. -/
def OpenAlike (files : String → Option File) (path path' : String) : Prop :=
  files path = files path' ∧ (files path ≠ none → mimeType path = mimeType path')

/-- With two points in the query, nothing opens without it. Without them, the path opens what
it opens without its query, or one of the two opens nothing and the other the index. -/
def IgnoresQuery (files : String → Option File) (root p q : String) : Prop :=
  if "..".toList <:+: q.toList then
    files (mainPath root p) = none ∧ files (indexPath root) = none
  else
    OpenAlike files (root ++ (p ++ "?" ++ q)) (mainPath root p) ∨
      (files (root ++ (p ++ "?" ++ q)) = none ∧
        OpenAlike files (mainPath root p) (indexPath root)) ∨
      (files (mainPath root p) = none ∧
        OpenAlike files (root ++ (p ++ "?" ++ q)) (indexPath root))

lemma served_eq_iff (files : String → Option File) (path path' : String) :
    served files path = served files path' ↔ OpenAlike files path path' := by
  rw [served, served, OpenAlike]
  cases files path with
  | none => cases files path' <;> simp
  | some file => cases files path' <;> simp

lemma served_eq_none (files : String → Option File) (path : String) :
    served files path = none ↔ files path = none := by
  rw [served, Option.map_eq_none_iff]

/-- Two choices with one fallback. -/
lemma or_eq_or_iff {α : Type} (a b c : Option α) :
    a.or c = b.or c ↔ a = b ∨ (a = none ∧ b = c) ∨ (b = none ∧ a = c) := by
  cases a <;> cases b <;> simp [eq_comm]

def foundFile (files : String → Option File) (root target : String) : Option (File × String) :=
  (findFile files root target).map fun file => (file.2, mimeType file.1)

lemma foundFile_eq (h : ¬ Refused target) :
    foundFile files root target =
      (served files (mainPath root target)).or (served files (indexPath root)) := by
  rw [foundFile, findFile_eq, if_neg h, served, served]
  cases files (mainPath root target) with
  | some file => rfl
  | none => cases files (indexPath root) <;> rfl

lemma foundFile_refused (h : Refused target) : foundFile files root target = none := by
  rw [foundFile, findFile_eq, if_pos h]
  rfl

lemma dots_query (p q : List Char) :
    "..".toList <:+: p ++ '?' :: q ↔ "..".toList <:+: p ∨ "..".toList <:+: q := by
  have hdots : "..".toList = ['.', '.'] := rfl
  rw [hdots]
  induction p with
  | nil => simp [List.infix_cons_iff]
  | cons c p ih =>
    have hcons : ['.', '.'] <:+: c :: p ↔ ['.', '.'] <+: c :: p ∨ ['.', '.'] <:+: p :=
      List.infix_cons_iff
    have hstart : ['.', '.'] <+: c :: (p ++ '?' :: q) ↔ ['.', '.'] <+: c :: p := by
      cases p <;> simp
    rw [List.cons_append, List.infix_cons_iff, hcons, hstart, or_assoc]
    exact or_congr_right ih

lemma refused_query (hslash : p.toList.head? = some '/') (hdots : ¬ "..".toList <:+: p.toList)
    (q : String) : Refused (p ++ "?" ++ q) ↔ "..".toList <:+: q.toList := by
  have hlist : (p ++ "?" ++ q).toList = p.toList ++ '?' :: q.toList := by simp
  obtain ⟨tail, htail⟩ := List.head?_eq_some_iff.mp hslash
  have hhead : (p ++ "?" ++ q).toList.head? = some '/' := by
    rw [hlist, htail]
    rfl
  rw [Refused, hhead, hlist, dots_query]
  tauto

lemma mark_query (p q : String) : '?' ∈ (p ++ "?" ++ q).toList := by simp

/-- Where a file is looked for under its name with the query. -/
lemma mainPath_query (root p q : String) :
    mainPath root (p ++ "?" ++ q) = root ++ (p ++ "?" ++ q) := by
  rw [mainPath, if_neg]
  intro heq
  have hmark := mark_query p q
  rw [heq] at hmark
  exact absurd hmark (by decide)

lemma foundFile_query (hslash : p.toList.head? = some '/') (hdots : ¬ "..".toList <:+: p.toList)
    (q : String) :
    foundFile files root (p ++ "?" ++ q) = foundFile files root p ↔
      IgnoresQuery files root p q := by
  have hplain : ¬ Refused p := fun hrefused => hrefused.elim (fun hne => hne hslash) hdots
  rw [foundFile_eq hplain, IgnoresQuery]
  by_cases hq : "..".toList <:+: q.toList
  · rw [if_pos hq, foundFile_refused ((refused_query hslash hdots q).mpr hq), eq_comm,
      Option.or_eq_none_iff, served_eq_none, served_eq_none]
  · have hserved := fun hrefused => hq ((refused_query hslash hdots q).mp hrefused)
    rw [if_neg hq, foundFile_eq hserved, mainPath_query, or_eq_or_iff]
    simp only [served_eq_iff, served_eq_none]

lemma servedFile_eq {table : Handlers (Handler Value)}
    (h : table.process .get target = .ok (.file root)) :
    servedFile files table target = foundFile files root target := by
  simp only [servedFile, h, foundFile]

/-- A query makes no difference just under the condition. -/
theorem servedFile_query_iff (files : String → Option File) (table : Handlers (Handler Value))
    (hslash : p.toList.head? = some '/') (hmark : '?' ∉ p.toList)
    (hdots : ¬ "..".toList <:+: p.toList) (q : String)
    (h : table.process .get (p ++ "?" ++ q) = .ok (.file root)) :
    servedFile files table (p ++ "?" ++ q) = servedFile files table p ↔
      IgnoresQuery files root p q := by
  have hsame : table.process .get p = .ok (.file root) := by
    rw [process_eq_routed table .get (pathOf_asked hslash hmark q)] at h
    rw [process_eq_routed table .get (pathOf_bare hslash hmark), h]
  rw [servedFile_eq h, servedFile_eq hsame]
  exact foundFile_query hslash hdots q

end

/-- The root with one script in it, an index that a second path opens, too, and a directory. -/
def scripts (path : String) : Option Nat :=
  if path = "/www/app.js" then some 1
  else if path = "/www/index.html" ∨ path = "/www//index.html" then some 2
  else if path = "/www/static" then some 3
  else none

def scriptTable : Handlers (Handler Unit) := [(⟨.get, "/**"⟩, .file "/www")]

/-- The index does not change under another name, and a directory is not answered with it. -/
theorem index_query :
    servedFile scripts scriptTable ("//index.html" ++ "?" ++ "v=2") =
        servedFile scripts scriptTable "//index.html" ∧
      servedFile scripts scriptTable ("/static" ++ "?" ++ "v=2") ≠
        servedFile scripts scriptTable "/static" := by
  have hindex : _ ↔ IgnoresQuery scripts "/www" "//index.html" "v=2" :=
    servedFile_query_iff scripts scriptTable (by decide) (by decide) (by decide) "v=2" rfl
  have hstatic : _ ↔ IgnoresQuery scripts "/www" "/static" "v=2" :=
    servedFile_query_iff scripts scriptTable (by decide) (by decide) (by decide) "v=2" rfl
  constructor
  · refine hindex.mpr ?_
    rw [IgnoresQuery, if_neg (by decide)]
    exact .inr (.inl ⟨by decide, by decide, fun _ => by decide⟩)
  · refine fun hsame => ?_
    have hignores := hstatic.mp hsame
    rw [IgnoresQuery, if_neg (by decide)] at hignores
    rcases hignores with halike | ⟨-, halike⟩ | ⟨hnone, -⟩
    · exact absurd halike.1 (by decide)
    · exact absurd halike.1 (by decide)
    · exact absurd hnone (by decide)

/-- A script is asked for with its version, and answered with the index. -/
theorem script_query :
    servedFile scripts scriptTable "/app.js" = some (1, "application/javascript") ∧
      servedFile scripts scriptTable ("/app.js" ++ "?" ++ "v=2") =
        some (2, "text/html; charset=utf-8") := by
  decide +kernel

end StaticFiles
