import Mathlib.Data.List.Basic
import Mathlib.Data.List.Infix

/-!
# Paths segment by segment

A path is resolved by its text alone: an empty segment and `.` are skipped, `..` goes up one
level, and any other segment goes down one. Nothing is above the root of the file system;
what is above the beginning of a relative path is kept as a `..`.
-/

namespace LexicalPaths

def dot : List Char := ['.']

def dotDot : List Char := ['.', '.']

def segments (path : List Char) : List (List Char) := path.splitOn '/'

structure Location where
  absolute : Bool
  names : List (List Char)
  deriving DecidableEq, Repr

def Location.up (loc : Location) : Location :=
  match loc.names.getLast? with
  | none => if loc.absolute then loc else ⟨false, [dotDot]⟩
  | some name =>
    if name = dotDot then ⟨loc.absolute, loc.names ++ [dotDot]⟩
    else ⟨loc.absolute, loc.names.dropLast⟩

def Location.enter (loc : Location) (segment : List Char) : Location :=
  if segment = [] ∨ segment = dot then loc
  else if segment = dotDot then loc.up
  else ⟨loc.absolute, loc.names ++ [segment]⟩

def resolve (absolute : Bool) (path : List (List Char)) : Location :=
  path.foldl Location.enter ⟨absolute, []⟩

def isAbsolute (path : List Char) : Bool := decide (path.head? = some '/')

/-- At the root or below it. -/
def Inside (root loc : Location) : Prop :=
  loc.absolute = root.absolute ∧ ∃ names, loc.names = root.names ++ names ∧ dotDot ∉ names

/-- The path goes to the root, and never leaves it again at any of its segments. -/
def StaysInside (root path : List Char) : Prop :=
  ∃ rest, segments path = segments root ++ rest ∧
    ∀ passed, passed <+: rest →
      Inside (resolve (isAbsolute path) (segments root))
        (resolve (isAbsolute path) (segments root ++ passed))

variable {root tail path : List Char} {loc : Location} {segment : List Char}

lemma segments_append (root tail : List Char) :
    segments (root ++ '/' :: tail) = segments root ++ segments tail :=
  List.splitOn_append_cons_self root tail

lemma infix_intercalate (sep : List Char) {parts : List (List Char)} (h : segment ∈ parts) :
    segment <:+: sep.intercalate parts := by
  induction parts with
  | nil => cases h
  | cons part parts ih =>
    cases parts with
    | nil =>
      rw [List.mem_singleton.mp h]
      simp
    | cons next parts =>
      rw [List.intercalate_cons_cons]
      rcases List.mem_cons.mp h with rfl | hrest
      · exact (List.prefix_append_of_prefix (List.prefix_append _ _)).isInfix
      · exact (ih hrest).trans (List.suffix_append _ _).isInfix

/-- A segment is a part of the path. -/
lemma infix_of_mem_segments (h : segment ∈ segments path) : segment <:+: path := by
  have hpart := infix_intercalate ['/'] h
  rwa [segments, List.intercalate_splitOn] at hpart

lemma Inside.refl (loc : Location) : Inside loc loc := ⟨rfl, [], by simp, by simp⟩

/-- What is not `..` does not go up. -/
lemma Inside.enter {base : Location} (h : Inside base loc) (hseg : segment ≠ dotDot) :
    Inside base (loc.enter segment) := by
  obtain ⟨habs, names, hnames, hdots⟩ := h
  rw [Location.enter]
  split_ifs with hskip
  · exact ⟨habs, names, hnames, hdots⟩
  · refine ⟨habs, names ++ [segment], by simp [hnames], ?_⟩
    simpa [hdots] using Ne.symm hseg

lemma Inside.foldl {base : Location} {path : List (List Char)} (h : Inside base loc)
    (hpath : dotDot ∉ path) : Inside base (path.foldl Location.enter loc) := by
  induction path generalizing loc with
  | nil => exact h
  | cons segment path ih =>
    rw [List.mem_cons, not_or] at hpath
    exact ih (h.enter (Ne.symm hpath.1)) hpath.2

lemma staysInside_self (root : List Char) : StaysInside root root := by
  refine ⟨[], (List.append_nil _).symm, fun passed hpassed => ?_⟩
  rw [List.prefix_nil.mp hpassed, List.append_nil]
  exact Inside.refl _

/-- A path in which two points never follow each other stays inside. -/
theorem staysInside_append (h : ¬ dotDot <:+: tail) : StaysInside root (root ++ '/' :: tail) := by
  refine ⟨segments tail, segments_append root tail, fun passed hpassed => ?_⟩
  rw [resolve, resolve, List.foldl_append]
  refine (Inside.refl _).foldl fun hmem => ?_
  exact h (infix_of_mem_segments (hpassed.subset hmem))

end LexicalPaths
