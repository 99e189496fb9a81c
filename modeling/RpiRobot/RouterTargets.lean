import Mathlib.Data.List.DropRight
import RpiRobot.HttpRouter

/-!
# How the router reads a target

`HttpRequestHandlerManager::process` takes the first token of the target, and takes the
slashes off its end one by one. Neither the tokens nor the characters that are left are
counted before they are read. A character of a target stands for a byte of it.
-/

namespace RouterTargets

open HttpRouter

/-! ## Tokens -/

/-- `boost::char_separator` drops the empty tokens. -/
def tokens (target : String) : List (List Char) :=
  (target.toList.splitOn '?').filter (· ≠ [])

lemma splitOn_cons (c : Char) (cs : List Char) :
    (c :: cs).splitOn '?' =
      if c = '?' then [] :: cs.splitOn '?' else (cs.splitOn '?').modifyHead (c :: ·) := by
  by_cases hc : c = '?' <;> simp [List.splitOn, List.splitOnP_cons_eq_if_modifyHead, hc]

/-- The first piece ends at the first question mark. -/
lemma splitOn_head (cs : List Char) :
    ∃ rest, cs.splitOn '?' = cs.takeWhile (· ≠ '?') :: rest := by
  induction cs with
  | nil => exact ⟨[], rfl⟩
  | cons c cs ih =>
    obtain ⟨rest, hrest⟩ := ih
    rw [splitOn_cons]
    by_cases hc : c = '?'
    · exact ⟨cs.splitOn '?', by simp [hc]⟩
    · exact ⟨rest, by simp [hc, hrest]⟩

lemma filter_splitOn_head? (cs : List Char) :
    ((cs.splitOn '?').filter (· ≠ [])).head? =
      if (cs.dropWhile (· = '?')).takeWhile (· ≠ '?') = [] then none
      else some ((cs.dropWhile (· = '?')).takeWhile (· ≠ '?')) := by
  induction cs with
  | nil => rfl
  | cons c cs ih =>
    rw [splitOn_cons]
    by_cases hc : c = '?'
    · simpa [hc] using ih
    · obtain ⟨rest, hrest⟩ := splitOn_head cs
      simp [hc, hrest]

/-- The first token begins after the question marks at the beginning. -/
theorem tokens_head? (target : String) :
    (tokens target).head? = if firstToken target = [] then none else some (firstToken target) :=
  filter_splitOn_head? target.toList

/-! ## Reads -/

inductive Read where
  /-- `*tok.begin()`. -/
  | token (tokens : List (List Char))
  /-- `*path.rbegin()`. -/
  | last (path : List Char)
  deriving DecidableEq, Repr

def Read.InRange : Read → Prop
  | .token tokens => tokens ≠ []
  | .last path => path ≠ []

/-- `while (*path.rbegin() == '/') path.pop_back();` -/
def loopReads (path : List Char) : List Read :=
  .last path :: if path.getLast? = some '/' then loopReads path.dropLast else []
termination_by path.length
decreasing_by
  cases path with
  | nil => contradiction
  | cons c cs => simp

/-- What `process` reads, up to the first read that is out of range at least. -/
def reads (target : String) : List Read :=
  .token (tokens target) ::
    match tokens target with
    | [] => []
    | path :: _ => loopReads path

lemma loopReads_nil : loopReads [] = [.last []] := by
  rw [loopReads]
  rfl

lemma loopReads_concat (path : List Char) (c : Char) :
    loopReads (path ++ [c]) = .last (path ++ [c]) :: if c = '/' then loopReads path else [] := by
  rw [loopReads]
  simp

/-- The loop ends with the path without its slashes. -/
theorem loopReads_getLast? (path : List Char) :
    (loopReads path).getLast? = some (.last (stripSlashes path)) := by
  induction path using List.reverseRecOn with
  | nil => simp [loopReads_nil, stripSlashes]
  | append_singleton path c ih =>
    rw [loopReads_concat, stripSlashes, List.rdropWhile_concat]
    by_cases hc : c = '/'
    · simp only [hc, if_true, decide_true]
      rw [List.getLast?_cons, ih]
      rfl
    · simp [hc]

/-- The loop needs a character that it does not take off. -/
lemma loopReads_inRange (path : List Char) :
    (∀ r ∈ loopReads path, r.InRange) ↔ ∃ c ∈ path, c ≠ '/' := by
  induction path using List.reverseRecOn with
  | nil => simp [loopReads_nil, Read.InRange]
  | append_singleton path c ih =>
    rw [loopReads_concat]
    by_cases hc : c = '/'
    · simpa [hc, Read.InRange] using ih
    · simp [hc, Read.InRange]

lemma reads_inRange (target : String) :
    (∀ r ∈ reads target, r.InRange) ↔ ∃ c ∈ firstToken target, c ≠ '/' := by
  have hhead := tokens_head? target
  rw [reads]
  cases htokens : tokens target with
  | nil =>
    have hempty : firstToken target = [] := by
      rw [htokens] at hhead
      by_contra hne
      rw [if_neg hne] at hhead
      cases hhead
    simp [hempty, Read.InRange]
  | cons path rest =>
    rw [htokens] at hhead
    split_ifs at hhead with hne
    · cases hhead
    · rw [← Option.some.inj hhead, ← loopReads_inRange]
      simp [Read.InRange]

/-- Question marks, slashes, and then another character. -/
def HasName (target : String) : Prop :=
  ∃ marks slashes c rest, target.toList =
    List.replicate marks '?' ++ (List.replicate slashes '/' ++ c :: rest) ∧ c ≠ '?' ∧ c ≠ '/'

lemma exists_first_ne {c : Char} {cs : List Char} (h : ∃ d ∈ cs, d ≠ c) :
    ∃ n d rest, cs = List.replicate n c ++ d :: rest ∧ d ≠ c := by
  induction cs with
  | nil => simp at h
  | cons x cs ih =>
    by_cases hx : x = c
    · have htail : ∃ d ∈ cs, d ≠ c := by simpa [hx] using h
      obtain ⟨n, d, rest, hcs, hd⟩ := ih htail
      exact ⟨n + 1, d, rest, by rw [hcs, hx]; rfl, hd⟩
    · exact ⟨0, x, cs, rfl, hx⟩

lemma exists_marks (cs : List Char) :
    ∃ n, cs = List.replicate n '?' ++ cs.dropWhile (· = '?') := by
  induction cs with
  | nil => exact ⟨0, rfl⟩
  | cons c cs ih =>
    obtain ⟨n, hn⟩ := ih
    by_cases hc : c = '?'
    · refine ⟨n + 1, ?_⟩
      rw [hc, List.dropWhile_cons_of_pos (by simp), List.replicate_succ, List.cons_append, ← hn]
    · exact ⟨0, by simp [hc]⟩

/-- Every read is in range just if the target has a name after its first slashes. -/
theorem reads_inRange_iff (target : String) :
    (∀ r ∈ reads target, r.InRange) ↔ HasName target := by
  rw [reads_inRange, firstToken, HasName]
  constructor
  · intro h
    obtain ⟨marks, hmarks⟩ := exists_marks target.toList
    obtain ⟨slashes, c, rest, hpath, hslash⟩ := exists_first_ne h
    have hmem : c ∈ (target.toList.dropWhile (· = '?')).takeWhile (· ≠ '?') := by
      rw [hpath]
      simp
    have hmark : c ≠ '?' := by simpa using List.mem_takeWhile_imp hmem
    refine ⟨marks, slashes, c, rest ++ (target.toList.dropWhile (· = '?')).dropWhile (· ≠ '?'),
      ?_, hmark, hslash⟩
    calc target.toList
        = List.replicate marks '?' ++ target.toList.dropWhile (· = '?') := hmarks
      _ = List.replicate marks '?' ++
          ((target.toList.dropWhile (· = '?')).takeWhile (· ≠ '?') ++
            (target.toList.dropWhile (· = '?')).dropWhile (· ≠ '?')) := by
          rw [List.takeWhile_append_dropWhile]
      _ = _ := by rw [hpath, List.append_assoc, List.cons_append]
  · rintro ⟨marks, slashes, c, rest, htarget, hmark, hslash⟩
    refine ⟨c, ?_, hslash⟩
    have hstart : (List.replicate slashes '/' ++ c :: rest).dropWhile (· = '?') =
        List.replicate slashes '/' ++ c :: rest := by
      cases slashes with
      | zero => exact List.dropWhile_cons_of_neg (by simpa using hmark)
      | succ n => rfl
    rw [htarget, List.dropWhile_append_of_pos (by simp), hstart,
      List.takeWhile_append_of_pos (by simp)]
    simp [hmark]

/-- The loop takes the slash of the root off, and reads what is left. -/
theorem root_reads_empty : ¬ ∀ r ∈ reads "/", r.InRange := by
  have htoken : firstToken "/" = ['/'] := by decide
  rw [reads_inRange, htoken]
  simp

/-! ## Spellings of a path -/

def slashes (k : Nat) : String := String.ofList (List.replicate k '/')

/-- The path without slashes at its end, or the root. -/
def trimmed (path : String) : String :=
  if path.toList.rdropWhile (· = '/') = [] then "/"
  else String.ofList (path.toList.rdropWhile (· = '/'))

section
variable {H : Type} (handlers : Handlers H) (method : Method)

/-- The handler of the path, or else that of every path. -/
def routed (path : String) : Except Unrouted H :=
  match handlers.lookup ⟨method, path⟩, handlers.lookup ⟨method, "/**"⟩ with
  | some handler, _ => .ok handler
  | none, some handler => .ok handler
  | none, none => .error .invalidArgument

lemma process_eq_routed {target path : String} (h : pathOf target = some path) :
    handlers.process method target = routed handlers method path := by
  simp only [Handlers.process, routed, h]
  cases handlers.lookup ⟨method, path⟩ with
  | some handler => rfl
  | none => cases handlers.lookup ⟨method, "/**"⟩ <;> rfl

variable {path : String}

/-- Slashes at the end are taken off, and a query is not looked at. -/
lemma pathOf_spelling (hslash : path.toList.head? = some '/') (hmark : '?' ∉ path.toList)
    (k : Nat) (query : String) (hquery : query.toList = [] ∨ query.toList.head? = some '?') :
    pathOf (path ++ slashes k ++ query) = some (trimmed path) := by
  have hlist : (path ++ slashes k).toList = path.toList ++ List.replicate k '/' := by
    simp [slashes]
  have hne : (path ++ slashes k).toList ≠ [] := by
    intro hnil
    rw [hlist, List.append_eq_nil_iff] at hnil
    rw [hnil.1] at hslash
    cases hslash
  have hmarks : ∀ c ∈ (path ++ slashes k).toList, c ≠ '?' := by
    intro c hc heq
    rw [hlist, List.mem_append] at hc
    rcases hc with hc | hc
    · exact hmark (heq ▸ hc)
    · rw [heq] at hc
      exact absurd (List.eq_of_mem_replicate hc) (by decide)
  have hstrip : stripSlashes (path ++ slashes k).toList = path.toList.rdropWhile (· = '/') := by
    rw [stripSlashes, hlist, List.rdropWhile, List.reverse_append, List.reverse_replicate,
      List.dropWhile_append_of_pos (by simp), ← List.rdropWhile]
  rw [pathOf, firstToken_of_no_mark hne hmarks hquery, if_neg hne, hstrip, trimmed]
  split_ifs <;> rfl

lemma pathOf_bare (hslash : path.toList.head? = some '/') (hmark : '?' ∉ path.toList) :
    pathOf path = some (trimmed path) := by
  have hplain := pathOf_spelling hslash hmark 0 "" (.inl rfl)
  simpa [slashes] using hplain

lemma pathOf_asked (hslash : path.toList.head? = some '/') (hmark : '?' ∉ path.toList)
    (query : String) : pathOf (path ++ "?" ++ query) = some (trimmed path) := by
  have hasked := pathOf_spelling hslash hmark 0 ("?" ++ query) (.inr (query_head query))
  simpa [slashes, String.append_assoc] using hasked

/-- The path, with slashes after it or none, and with a query or none, is served by the same
handler. -/
theorem process_spellings (hslash : path.toList.head? = some '/') (hmark : '?' ∉ path.toList)
    (k : Nat) (query : String) :
    ∀ target ∈ [path, path ++ slashes k, path ++ "?" ++ query,
        path ++ slashes k ++ "?" ++ query],
      handlers.process method target = routed handlers method (trimmed path) := by
  intro target htarget
  refine process_eq_routed handlers method ?_
  simp only [List.mem_cons, List.not_mem_nil, or_false] at htarget
  rcases htarget with rfl | rfl | rfl | rfl
  · exact pathOf_bare hslash hmark
  · have hplain := pathOf_spelling hslash hmark k "" (.inl rfl)
    simpa using hplain
  · exact pathOf_asked hslash hmark query
  · have hasked := pathOf_spelling hslash hmark k ("?" ++ query) (.inr (query_head query))
    simpa [String.append_assoc] using hasked

end

theorem api_spellings :
    Handlers.process [(⟨.get, "/**"⟩, 1), (⟨.get, "/api"⟩, 2)] .get "/api/" = .ok 2 ∧
      Handlers.process [(⟨.get, "/**"⟩, 1), (⟨.get, "/api"⟩, 2)] .get
        ("/api/" ++ slashes 2 ++ "?" ++ "a=/?b") = .ok 2 := by
  have hserved := @process_spellings Nat [(⟨.get, "/**"⟩, 1), (⟨.get, "/api"⟩, 2)] .get "/api/"
    (by decide) (by decide) 2 "a=/?b"
  exact ⟨hserved _ (by simp), hserved _ (by simp)⟩

end RouterTargets
