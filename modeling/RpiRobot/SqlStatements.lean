import RpiRobot.ConditionJoins

/-!
# Statements

The statements a database accepts here: selects of one table, single-row inserts,
updates and deletes. They are generic in what stands for the where clause. The
parser cuts the tokens of a statement at its keywords, and reading the printed
tokens of a statement gives the statement back.
-/

namespace SqlStatements

open SqlTokens (Token joinTokens)
open SqlConditions (Expr reserved)

/-- The value expressions of inserts and updates. -/
inductive Source where
  | num (text : String)
  | str (s : String)
  | null
  | call (name : String)
  deriving DecidableEq, Repr

inductive Target where
  | columns (names : List String)
  | count (name : String)
  deriving DecidableEq, Repr

structure Order where
  column : String
  descending : Bool
  deriving DecidableEq, Repr

structure Select (κ : Type) where
  target : Target
  table : String
  cond : κ
  order : Option Order
  limit : Option Int
  offset : Option Int
  deriving DecidableEq, Repr

inductive Statement (κ : Type) where
  | select (s : Select κ)
  | insert (table : String) (columns : List String) (values : List Source)
      (returning : List String)
  | update (table : String) (sets : List (String × Source)) (cond : κ)
  | delete (table : String) (cond : κ)
  deriving DecidableEq, Repr

def Statement.mapCond {κ κ' : Type} (f : κ → Option κ') : Statement κ → Option (Statement κ')
  | .select s => (f s.cond).map (fun c => .select { s with cond := c })
  | .insert table columns values returning => some (.insert table columns values returning)
  | .update table sets cond => (f cond).map (.update table sets)
  | .delete table cond => (f cond).map (.delete table)

/-! Readers of the pieces. -/

def name? : List Token → Option String
  | [.word w] => if w ∈ reserved then none else some w
  | _ => none

def target? : List (List Token) → Option Target
  | [[.word "count", .mark '(', .word c, .mark ')']] => some (.count c)
  | pieces => (pieces.mapM name?).map .columns

def order? : List Token → Option Order
  | [.word c, .word "desc"] => (name? [.word c]).map (⟨·, true⟩)
  | piece => (name? piece).map (⟨·, false⟩)

def int? : List Token → Option Int
  | [.num t] => DecimalText.intValue t.toList
  | _ => none

def source? : List Token → Option Source
  | [.num t] => if (DecimalText.decimalValue t.toList).isSome then some (.num t) else none
  | [.str s] => some (.str s)
  | [.word "null"] => some .null
  | [.word f, .mark '(', .mark ')'] => some (.call f)
  | _ => none

def assignment? : List Token → Option (String × Source)
  | .word c :: .sym "=" :: piece => (source? piece).map (c, ·)
  | _ => none

/-! The parser. -/

/-- The tokens before the first occurrence of a keyword and, if it occurs, those
after it. -/
def cut (w : String) : List Token → List Token × Option (List Token)
  | [] => ([], none)
  | t :: ts => if t = .word w then ([], some ts) else (t :: (cut w ts).1, (cut w ts).2)

/-- The tokens before a final closing parenthesis. -/
def closed? (ts : List Token) : Option (List Token) :=
  if ts.getLast? = some (.mark ')') then some ts.dropLast else none

/-- A clause that may be missing. -/
def clause {α : Type} (read : List Token → Option α) : Option (List Token) → Option (Option α)
  | none => some none
  | some ts => (read ts).map some

def by_ {α : Type} (read : List Token → Option α) : List Token → Option α
  | .word "by" :: ts => read ts
  | _ => none

def parseSelect (ts : List Token) : Option (Select (Option Expr)) := do
  let (body, offset) := cut "offset" ts
  let (body, limit) := cut "limit" body
  let (body, order) := cut "order" body
  let (body, cond) := cut "where" body
  let (columns, from_) := cut "from" body
  let target ← target? (columns.splitOn (.mark ','))
  let table ← name? (← from_)
  let cond ← clause SqlConditions.parse cond
  let order ← clause (by_ order?) order
  let limit ← clause int? limit
  let offset ← clause int? offset
  return ⟨target, table, cond, order, limit, offset⟩

def parseInsert (ts : List Token) : Option (Statement (Option Expr)) :=
  match ts with
  | .word table :: .mark '(' :: rest => do
    let (columns, rest) := cut "values" rest
    match ← rest with
    | .mark '(' :: rest => do
      let (values, returning) := cut "returning" rest
      let columns ← ((← closed? columns).splitOn (.mark ',')).mapM name?
      let values ← ((← closed? values).splitOn (.mark ',')).mapM source?
      let returning ← clause (fun ts => (ts.splitOn (.mark ',')).mapM name?) returning
      return .insert table columns values (returning.getD [])
    | _ => none
  | _ => none

def parseUpdate (ts : List Token) : Option (Statement (Option Expr)) :=
  match ts with
  | .word table :: .word "set" :: rest => do
    let (sets, cond) := cut "where" rest
    let sets ← (sets.splitOn (.mark ',')).mapM assignment?
    let cond ← clause SqlConditions.parse cond
    return .update table sets cond
  | _ => none

def parseDelete (ts : List Token) : Option (Statement (Option Expr)) := do
  let (table, cond) := cut "where" ts
  let table ← name? table
  let cond ← clause SqlConditions.parse cond
  return .delete table cond

def parseTokens : List Token → Option (Statement (Option Expr))
  | .word "select" :: ts => (parseSelect ts).map .select
  | .word "insert" :: .word "into" :: ts => parseInsert ts
  | .word "update" :: ts => parseUpdate ts
  | .word "delete" :: .word "from" :: ts => parseDelete ts
  | _ => none

def parse (text : String) : Option (Statement (Option Expr)) :=
  (SqlTokens.lex text).bind parseTokens

example : parse "select id from t where a = 'x' order by id DESC limit 3 offset 0" =
    some (.select ⟨.columns ["id"], "t", some (.cmp .eq (.col "a") (.str "x")),
      some ⟨"id", true⟩, some 3, some 0⟩) := by
  decide

/-! Printed tokens. -/

/-- Words that begin a clause; no name and no condition contains one. -/
def clauseWords : List String :=
  ["from", "where", "order", "limit", "offset", "returning"]

/-- Tokens without a clause word. -/
def Clean (ts : List Token) : Prop := ∀ w ∈ clauseWords, Token.word w ∉ ts

lemma Clean.append {a b : List Token} (ha : Clean a) (hb : Clean b) : Clean (a ++ b) := by
  intro w hw hm
  rcases List.mem_append.mp hm with hm | hm
  · exact ha w hw hm
  · exact hb w hw hm

lemma clean_nil : Clean [] := fun _ _ h => absurd h List.not_mem_nil

lemma clean_singleton {t : Token} (h : ∀ w ∈ clauseWords, t ≠ .word w) : Clean [t] :=
  fun w hw hm => h w hw (List.mem_singleton.mp hm).symm

lemma clauseWords_reserved : ∀ w ∈ clauseWords, w ∈ reserved := by decide

lemma clean_word {w : String} (h : w ∉ reserved) : Clean [.word w] := by
  refine clean_singleton fun k hk he => ?_
  obtain rfl := Token.word.inj he
  exact h (clauseWords_reserved w hk)

lemma clean_join {sep : Token} (hsep : Clean [sep]) {pieces : List (List Token)}
    (h : ∀ p ∈ pieces, Clean p) : Clean (joinTokens sep pieces) := by
  induction pieces with
  | nil => exact clean_nil
  | cons p pieces ih =>
    rw [List.forall_mem_cons] at h
    cases pieces with
    | nil => exact h.1
    | cons q pieces => exact h.1.append (hsep.append (ih h.2))

/-- Whatever mode the condition parser is in, a clause word stops it. -/
lemma act_clauseWord {w : String} (hw : w ∈ clauseWords) (m : SqlConditions.Mode) :
    SqlConditions.act m (.word w) = .fail := by
  simp only [clauseWords, List.mem_cons, List.not_mem_nil, or_false] at hw
  rcases hw with rfl | rfl | rfl | rfl | rfl | rfl <;> cases m <;>
    first | rfl | (rename_i paren; cases paren <;> rfl)

/-- The tokens of a condition are clean. -/
lemma clean_of_parse {ts : List Token} {e : Expr} (h : SqlConditions.parse ts = some e) :
    Clean ts := by
  intro w hw hm
  obtain ⟨a, b, rfl⟩ := List.append_of_mem hm
  obtain ⟨f, hf, _⟩ := Option.bind_eq_some_iff.mp h
  have hrun := ConditionJoins.accept_eq_some hf
  rw [ConditionJoins.run_append] at hrun
  have hbad : ∀ p : SqlConditions.Parser,
      (SqlConditions.run p (.word w :: b)).mode = .bad := by
    intro p
    change (SqlConditions.run (SqlConditions.step p (.word w)) b).mode = .bad
    rw [SqlConditions.step, act_clauseWord hw]
    cases p.stack <;> exact ConditionJoins.run_bad _ b
  have hmode := hbad (SqlConditions.run SqlConditions.start a)
  rw [hrun] at hmode
  exact SqlConditions.Mode.noConfusion hmode

def Target.pieces : Target → List (List Token)
  | .columns names => names.map (fun c => [.word c])
  | .count c => [[.word "count", .mark '(', .word c, .mark ')']]

def Order.tokens : Order → List Token
  | ⟨c, true⟩ => [.word c, .word "desc"]
  | ⟨c, false⟩ => [.word c]

def Source.tokens : Source → List Token
  | .num t => [.num t]
  | .str s => [.str s]
  | .null => [.word "null"]
  | .call f => [.word f, .mark '(', .mark ')']

def clauseTokens (keywords : List Token) : Option (List Token) → List Token
  | none => []
  | some ts => keywords ++ ts

def intTokens (n : Int) : List Token := [.num (toString n)]

def Select.tokens (s : Select (Option (List Token))) : List Token :=
  joinTokens (.mark ',') s.target.pieces ++ .word "from" :: .word s.table ::
    (clauseTokens [.word "where"] s.cond ++
    (clauseTokens [.word "order", .word "by"] (s.order.map Order.tokens) ++
    (clauseTokens [.word "limit"] (s.limit.map intTokens) ++
    clauseTokens [.word "offset"] (s.offset.map intTokens))))

def Free (w : String) : Prop := w ∉ reserved

instance (w : String) : Decidable (Free w) := inferInstanceAs (Decidable (_ ∉ _))

/-- Names that are not keywords. -/
def Target.Named : Target → Prop
  | .columns names => names ≠ [] ∧ ∀ c ∈ names, Free c
  | .count c => Free c

def Source.Readable : Source → Prop
  | .num t => (DecimalText.decimalValue t.toList).isSome = true
  | _ => True

instance (t : Target) : Decidable t.Named := by
  cases t
  · exact inferInstanceAs (Decidable (_ ∧ _))
  · exact inferInstanceAs (Decidable (Free _))

instance (s : Source) : Decidable s.Readable := by
  cases s
  case num => exact inferInstanceAs (Decidable (_ = _))
  all_goals exact isTrue trivial

lemma name_free {w : String} (h : Free w) : name? [.word w] = some w := by
  rw [name?, if_neg h]

lemma mapM_name {names : List String} (h : ∀ c ∈ names, Free c) :
    (names.map (fun c => [Token.word c])).mapM name? = some names := by
  induction names with
  | nil => rfl
  | cons c names ih =>
    rw [List.forall_mem_cons] at h
    rw [List.map_cons, List.mapM_cons, name_free h.1, ih h.2]
    rfl

lemma target_pieces {t : Target} (h : t.Named) : target? t.pieces = some t := by
  cases t with
  | count c => rfl
  | columns names =>
    have hm := mapM_name h.2
    rw [Target.pieces]
    unfold target?
    split
    case h_1 c heq =>
      rw [List.map_eq_singleton_iff] at heq
      obtain ⟨x, _, hx⟩ := heq
      exact absurd hx (by simp)
    case h_2 => rw [hm, Option.map_some]

lemma order_tokens {o : Order} (h : Free o.column) : order? o.tokens = some o := by
  obtain ⟨c, _ | _⟩ := o
  · change (name? [.word c]).map _ = _
    rw [name_free h]
    rfl
  · change (name? [.word c]).map _ = _
    rw [name_free h]
    rfl

lemma int_tokens (n : Int) : int? (intTokens n) = some n := DecimalText.intValue_toString n

lemma source_tokens {s : Source} (h : s.Readable) : source? s.tokens = some s := by
  cases s with
  | num t => exact if_pos h
  | str s => rfl
  | null => rfl
  | call f => simp [Source.tokens, source?]

lemma mapM_source {sources : List Source} (h : ∀ s ∈ sources, s.Readable) :
    (sources.map Source.tokens).mapM source? = some sources := by
  induction sources with
  | nil => rfl
  | cons s sources ih =>
    rw [List.forall_mem_cons] at h
    rw [List.map_cons, List.mapM_cons, source_tokens h.1, ih h.2]
    rfl

lemma cut_append {w : String} {a : List Token} (h : .word w ∉ a) (b : List Token) :
    cut w (a ++ .word w :: b) = (a, some b) := by
  induction a with
  | nil => simp [cut]
  | cons t a ih =>
    rw [List.mem_cons, not_or] at h
    rw [List.cons_append, cut, if_neg (Ne.symm h.1), ih h.2]

lemma cut_absent {w : String} {a : List Token} (h : .word w ∉ a) : cut w a = (a, none) := by
  induction a with
  | nil => rfl
  | cons t a ih =>
    rw [List.mem_cons, not_or] at h
    rw [cut, if_neg (Ne.symm h.1), ih h.2]

lemma cut_clause {w : String} {a : List Token} (h : .word w ∉ a) (keywords : List Token)
    (o : Option (List Token)) :
    cut w (a ++ clauseTokens (.word w :: keywords) o) = (a, o.map (keywords ++ ·)) := by
  cases o with
  | none => rw [clauseTokens, List.append_nil, cut_absent h]; rfl
  | some ts => exact cut_append h (keywords ++ ts)

lemma joinTokens_eq (sep : Token) (pieces : List (List Token)) :
    joinTokens sep pieces = [sep].intercalate pieces := by
  induction pieces with
  | nil => rfl
  | cons p pieces ih =>
    cases pieces with
    | nil => simp [joinTokens]
    | cons q pieces => rw [joinTokens, ih, List.intercalate_cons_cons]; simp

lemma splitOn_join {sep : Token} {pieces : List (List Token)} (h : ∀ p ∈ pieces, sep ∉ p)
    (hne : pieces ≠ []) : (joinTokens sep pieces).splitOn sep = pieces := by
  rw [joinTokens_eq, List.splitOn_intercalate sep h hne]

lemma splitOn_words {names : List String} (hne : names ≠ []) :
    (joinTokens (.mark ',') (names.map (fun c => [Token.word c]))).splitOn (.mark ',') =
      names.map (fun c => [Token.word c]) := by
  refine splitOn_join (fun p hp => ?_) (by simpa using hne)
  obtain ⟨c, _, rfl⟩ := List.mem_map.mp hp
  simp

lemma splitOn_pieces {t : Target} (h : t.Named) :
    (joinTokens (.mark ',') t.pieces).splitOn (.mark ',') = t.pieces := by
  cases t with
  | columns names => exact splitOn_words h.1
  | count c => exact splitOn_join (by simp [Target.pieces]) (by simp [Target.pieces])

lemma clean_pieces {t : Target} (h : t.Named) : Clean (joinTokens (.mark ',') t.pieces) := by
  refine clean_join (clean_singleton (by simp)) fun p hp => ?_
  cases t with
  | columns names =>
    obtain ⟨c, hc, rfl⟩ := List.mem_map.mp hp
    exact clean_word (h.2 c hc)
  | count c =>
    obtain rfl := List.mem_singleton.mp hp
    have hcount : Clean [.word "count"] := clean_word (by decide)
    have hmark : ∀ m, Clean [.mark m] := fun m => clean_singleton (by simp)
    exact hcount.append ((hmark '(').append ((clean_word h).append (hmark ')')))

lemma clean_order {o : Order} (h : Free o.column) : Clean o.tokens := by
  obtain ⟨c, _ | _⟩ := o
  · exact clean_word h
  · exact (clean_word h).append (clean_word (w := "desc") (by decide))

lemma clean_int (n : Int) : Clean (intTokens n) := clean_singleton (by simp)

lemma not_mem_clause {w : String} {keywords : List Token} {o : Option (List Token)}
    (hk : .word w ∉ keywords) (ho : ∀ ts, o = some ts → .word w ∉ ts) :
    .word w ∉ clauseTokens keywords o := by
  cases o with
  | none => exact List.not_mem_nil
  | some ts =>
    rw [clauseTokens, List.mem_append, not_or]
    exact ⟨hk, ho ts rfl⟩

lemma clause_map {α : Type} (read : List Token → Option α) (print : α → List Token)
    (o : Option α) (h : ∀ a, o = some a → read (print a) = some a) :
    clause read (o.map print) = some o := by
  cases o with
  | none => rfl
  | some a => rw [Option.map_some, clause, h a rfl]; rfl

/-- The conditions of a statement, read. -/
def readCond (cond : Option (List Token)) : Option (Option Expr) :=
  clause SqlConditions.parse cond

/-- Reading the printed tokens of a select gives the select back. -/
theorem parseSelect_tokens (s : Select (Option (List Token))) (named : s.target.Named)
    (table : Free s.table) (order : ∀ o, s.order = some o → Free o.column)
    {cond : Option Expr} (hcond : readCond s.cond = some cond) :
    parseSelect s.tokens = some { s with cond := cond } := by
  obtain ⟨target, name, ctoks, ord, lim, off⟩ := s
  have hclean : ∀ ts, ctoks = some ts → Clean ts := by
    rintro ts rfl
    rw [readCond, clause, Option.map_eq_some_iff] at hcond
    obtain ⟨e, he, _⟩ := hcond
    exact clean_of_parse he
  have hpieces := clean_pieces named
  have hname : Clean [.word name] := clean_word table
  have hord : ∀ ts, ord.map Order.tokens = some ts → Clean ts := by
    intro ts hts
    obtain ⟨o, ho, rfl⟩ := Option.map_eq_some_iff.mp hts
    exact clean_order (order o ho)
  have hlim : ∀ ts, lim.map intTokens = some ts → Clean ts := by
    intro ts hts
    obtain ⟨n, _, rfl⟩ := Option.map_eq_some_iff.mp hts
    exact clean_int n
  -- each cut finds its keyword, and it is not in the text before
  have hfrom : ∀ w ∈ clauseWords, w ≠ "from" →
      Token.word w ∉ joinTokens (.mark ',') target.pieces ++ [.word "from", .word name] := by
    intro w hw hne
    rw [List.mem_append, List.mem_cons, not_or, not_or]
    exact ⟨hpieces w hw, fun he => hne (Token.word.inj he), hname w hw⟩
  have htokens : (Select.mk target name ctoks ord lim off).tokens =
      ((((joinTokens (.mark ',') target.pieces ++ [.word "from", .word name]) ++
        clauseTokens [.word "where"] ctoks) ++
        clauseTokens [.word "order", .word "by"] (ord.map Order.tokens)) ++
        clauseTokens [.word "limit"] (lim.map intTokens)) ++
        clauseTokens [.word "offset"] (off.map intTokens) := by
    simp [Select.tokens]
  have hwhere : ∀ w ∈ clauseWords, w ≠ "from" → w ≠ "where" →
      Token.word w ∉ (joinTokens (.mark ',') target.pieces ++ [.word "from", .word name]) ++
        clauseTokens [.word "where"] ctoks := by
    intro w hw h1 h2
    rw [List.mem_append, not_or]
    exact ⟨hfrom w hw h1, not_mem_clause (by simpa using h2) (fun ts hts => hclean ts hts w hw)⟩
  have horder : ∀ w ∈ clauseWords, w ≠ "from" → w ≠ "where" → w ≠ "order" →
      Token.word w ∉ ((joinTokens (.mark ',') target.pieces ++ [.word "from", .word name]) ++
        clauseTokens [.word "where"] ctoks) ++
        clauseTokens [.word "order", .word "by"] (ord.map Order.tokens) := by
    intro w hw h1 h2 h3
    rw [List.mem_append, not_or]
    refine ⟨hwhere w hw h1 h2, not_mem_clause ?_ (fun ts hts => hord ts hts w hw)⟩
    have hby : w ≠ "by" := by
      rintro rfl
      exact absurd hw (by decide)
    simp [h3, hby]
  have hlimit : Token.word "offset" ∉
      (((joinTokens (.mark ',') target.pieces ++ [.word "from", .word name]) ++
        clauseTokens [.word "where"] ctoks) ++
        clauseTokens [.word "order", .word "by"] (ord.map Order.tokens)) ++
        clauseTokens [.word "limit"] (lim.map intTokens) := by
    rw [List.mem_append, not_or]
    exact ⟨horder "offset" (by decide) (by decide) (by decide) (by decide),
      not_mem_clause (by decide) (fun ts hts => hlim ts hts "offset" (by decide))⟩
  rw [htokens, parseSelect, cut_clause hlimit]
  dsimp only
  rw [cut_clause (horder "limit" (by decide) (by decide) (by decide) (by decide))]
  dsimp only
  rw [cut_clause (hwhere "order" (by decide) (by decide) (by decide))]
  dsimp only
  rw [cut_clause (hfrom "where" (by decide) (by decide))]
  dsimp only
  rw [cut_append (hpieces "from" (by decide))]
  have hby : clause (by_ order?) ((ord.map Order.tokens).map ([Token.word "by"] ++ ·)) =
      some ord := by
    rw [Option.map_map]
    exact clause_map (by_ order?) _ ord (fun o ho => order_tokens (order o ho))
  have hl : clause int? ((lim.map intTokens).map ([] ++ ·)) = some lim := by
    rw [Option.map_map]
    exact clause_map int? _ lim (fun n _ => int_tokens n)
  have ho : clause int? ((off.map intTokens).map ([] ++ ·)) = some off := by
    rw [Option.map_map]
    exact clause_map int? _ off (fun n _ => int_tokens n)
  have hc : clause SqlConditions.parse (ctoks.map ([] ++ ·)) = some cond := by
    simpa [readCond] using hcond
  simp only [splitOn_pieces named, target_pieces named, name_free table, hby, hl, ho, hc,
    Option.bind_eq_bind, Option.bind_some, Option.pure_def]

/-- One assignment of an update. -/
def assignTokens (a : String × Source) : List Token := .word a.1 :: .sym "=" :: a.2.tokens

def names (cs : List String) : List (List Token) := cs.map (fun c => [.word c])

def insertTokens (table : String) (columns : List String) (values : List Source)
    (returning : List String) : List Token :=
  .word table :: .mark '(' :: (joinTokens (.mark ',') (names columns) ++ [.mark ')'] ++
    .word "values" :: .mark '(' ::
      (joinTokens (.mark ',') (values.map Source.tokens) ++ [.mark ')'] ++
        clauseTokens [.word "returning"]
          (if returning = [] then none else some (joinTokens (.mark ',') (names returning)))))

def updateTokens (table : String) (sets : List (String × Source)) (cond : Option (List Token)) :
    List Token :=
  .word table :: .word "set" :: (joinTokens (.mark ',') (sets.map assignTokens) ++
    clauseTokens [.word "where"] cond)

def deleteTokens (table : String) (cond : Option (List Token)) : List Token :=
  .word table :: clauseTokens [.word "where"] cond

def Statement.tokens : Statement (Option (List Token)) → List Token
  | .select s => .word "select" :: s.tokens
  | .insert table columns values returning =>
    .word "insert" :: .word "into" :: insertTokens table columns values returning
  | .update table sets cond => .word "update" :: updateTokens table sets cond
  | .delete table cond => .word "delete" :: .word "from" :: deleteTokens table cond

/-- Function names that end no clause; `values` is not reserved and would end the
column list of an insert. -/
def Source.Clean : Source → Prop
  | .call f => Free f ∧ f ≠ "values"
  | _ => True

instance (s : Source) : Decidable s.Clean := by
  cases s
  case call => exact inferInstanceAs (Decidable (_ ∧ _))
  all_goals exact isTrue trivial

/-- Names and values that print to tokens the parser cuts in the right places. -/
def Statement.Printable : Statement (Option (List Token)) → Prop
  | .select s => s.target.Named ∧ Free s.table ∧ (∀ o ∈ s.order, Free o.column)
  | .insert _ columns values returning =>
    columns ≠ [] ∧ (∀ c ∈ columns, Free c ∧ c ≠ "values") ∧ values ≠ [] ∧
      (∀ v ∈ values, v.Readable ∧ v.Clean) ∧ ∀ c ∈ returning, Free c
  | .update _ sets _ => sets ≠ [] ∧ ∀ a ∈ sets, Free a.1 ∧ a.2.Readable ∧ a.2.Clean
  | .delete table _ => Free table

lemma closed_append (ts : List Token) : closed? (ts ++ [.mark ')']) = some ts := by
  rw [closed?, List.getLast?_concat, if_pos rfl, List.dropLast_concat]

lemma clean_source {s : Source} (h : s.Clean) : Clean s.tokens := by
  cases s with
  | num t => exact clean_singleton (by simp)
  | str s => exact clean_singleton (by simp)
  | null => exact clean_singleton (by simp [clauseWords])
  | call f =>
    have hmark : ∀ m, SqlStatements.Clean [.mark m] := fun m => clean_singleton (by simp)
    exact (clean_word h.1).append ((hmark '(').append (hmark ')'))

lemma clean_sources {values : List Source} (h : ∀ v ∈ values, v.Clean) :
    Clean (joinTokens (.mark ',') (values.map Source.tokens)) := by
  refine clean_join (clean_singleton (by simp)) fun p hp => ?_
  obtain ⟨v, hv, rfl⟩ := List.mem_map.mp hp
  exact clean_source (h v hv)

lemma comma_source (s : Source) : Token.mark ',' ∉ s.tokens := by
  cases s <;> simp [Source.tokens]

lemma splitOn_sources {values : List Source} (hne : values ≠ []) :
    (joinTokens (.mark ',') (values.map Source.tokens)).splitOn (.mark ',') =
      values.map Source.tokens := by
  refine splitOn_join (fun p hp => ?_) (by simpa using hne)
  obtain ⟨v, _, rfl⟩ := List.mem_map.mp hp
  exact comma_source v

lemma splitOn_assigns {sets : List (String × Source)} (hne : sets ≠ []) :
    (joinTokens (.mark ',') (sets.map assignTokens)).splitOn (.mark ',') =
      sets.map assignTokens := by
  refine splitOn_join (fun p hp => ?_) (by simpa using hne)
  obtain ⟨a, _, rfl⟩ := List.mem_map.mp hp
  simp [assignTokens, comma_source a.2]

lemma clean_assigns {sets : List (String × Source)} (h : ∀ a ∈ sets, Free a.1 ∧ a.2.Clean) :
    Clean (joinTokens (.mark ',') (sets.map assignTokens)) := by
  refine clean_join (clean_singleton (by simp)) fun p hp => ?_
  obtain ⟨a, ha, rfl⟩ := List.mem_map.mp hp
  have hsym : Clean [.sym "="] := clean_singleton (by simp)
  exact (clean_word (h a ha).1).append (hsym.append (clean_source (h a ha).2))

lemma mapM_assignment {sets : List (String × Source)} (h : ∀ a ∈ sets, a.2.Readable) :
    (sets.map assignTokens).mapM assignment? = some sets := by
  induction sets with
  | nil => rfl
  | cons a sets ih =>
    rw [List.forall_mem_cons] at h
    rw [List.map_cons, List.mapM_cons, assignTokens, assignment?, source_tokens h.1, ih h.2]
    rfl

lemma word_not_mem_join {w : String} {pieces : List (List Token)}
    (h : ∀ p ∈ pieces, Token.word w ∉ p) : Token.word w ∉ joinTokens (.mark ',') pieces := by
  induction pieces with
  | nil => exact List.not_mem_nil
  | cons p pieces ih =>
    rw [List.forall_mem_cons] at h
    cases pieces with
    | nil => exact h.1
    | cons q pieces =>
      rw [joinTokens, List.mem_append, List.mem_cons, not_or, not_or]
      exact ⟨h.1, Token.noConfusion, ih h.2⟩

lemma parseInsert_tokens {table : String} {columns : List String} {values : List Source}
    {returning : List String} (hc : columns ≠ []) (columnsFree : ∀ c ∈ columns, Free c)
    (columnsValues : ∀ c ∈ columns, c ≠ "values") (hv : values ≠ [])
    (readable : ∀ v ∈ values, v.Readable) (clean : ∀ v ∈ values, v.Clean)
    (returningFree : ∀ c ∈ returning, Free c) :
    parseInsert (insertTokens table columns values returning) =
      some (.insert table columns values returning) := by
  have hcut : Token.word "values" ∉ joinTokens (.mark ',') (names columns) ++ [.mark ')'] := by
    rw [List.mem_append, not_or]
    refine ⟨word_not_mem_join fun p hp => ?_, by simp⟩
    obtain ⟨c, hm, rfl⟩ := List.mem_map.mp hp
    simpa using (columnsValues c hm).symm
  have hvalues : Token.word "returning" ∉
      joinTokens (.mark ',') (values.map Source.tokens) ++ [.mark ')'] := by
    rw [List.mem_append, not_or]
    exact ⟨clean_sources clean "returning" (by decide), by simp⟩
  have hret : clause (fun ts => (ts.splitOn (Token.mark ',')).mapM name?)
      ((if returning = [] then none else some (joinTokens (.mark ',') (names returning))).map
        ([] ++ ·)) = some (if returning = [] then none else some returning) := by
    by_cases hr : returning = []
    · rw [if_pos hr, if_pos hr]
      rfl
    · rw [if_neg hr, if_neg hr, Option.map_some, clause, List.nil_append, names,
        splitOn_words hr, mapM_name returningFree]
      rfl
  have hget : (if returning = [] then none else some returning).getD [] = returning := by
    by_cases hr : returning = []
    · rw [if_pos hr, hr]
      rfl
    · rw [if_neg hr, Option.getD_some]
  rw [insertTokens, parseInsert]
  dsimp only
  rw [cut_append hcut]
  simp only [cut_clause hvalues, closed_append, Option.bind_eq_bind, Option.bind_some, names,
    splitOn_words hc, mapM_name columnsFree, splitOn_sources hv, mapM_source readable]
  rw [names] at hret
  rw [hret, Option.bind_some, hget]
  rfl

lemma parseUpdate_tokens {table : String} {sets : List (String × Source)}
    {cond : Option (List Token)} (hs : sets ≠ []) (names : ∀ a ∈ sets, Free a.1)
    (readable : ∀ a ∈ sets, a.2.Readable) (clean : ∀ a ∈ sets, a.2.Clean)
    {e : Option Expr} (hcond : readCond cond = some e) :
    parseUpdate (updateTokens table sets cond) = some (.update table sets e) := by
  have hcut : Token.word "where" ∉ joinTokens (.mark ',') (sets.map assignTokens) :=
    clean_assigns (fun a ha => ⟨names a ha, clean a ha⟩) "where" (by decide)
  have hc : clause SqlConditions.parse (cond.map ([] ++ ·)) = some e := by
    simpa [readCond] using hcond
  rw [updateTokens, parseUpdate]
  dsimp only
  rw [cut_clause hcut]
  simp only [splitOn_assigns hs, mapM_assignment readable, hc, Option.bind_eq_bind,
    Option.bind_some, Option.pure_def]

lemma parseDelete_tokens {table : String} {cond : Option (List Token)} (free : Free table)
    {e : Option Expr} (hcond : readCond cond = some e) :
    parseDelete (deleteTokens table cond) = some (.delete table e) := by
  have hcut : Token.word "where" ∉ [Token.word table] := clean_word free "where" (by decide)
  have hc : clause SqlConditions.parse (cond.map ([] ++ ·)) = some e := by
    simpa [readCond] using hcond
  have htokens : deleteTokens table cond = [.word table] ++ clauseTokens [.word "where"] cond :=
    rfl
  rw [htokens, parseDelete, cut_clause hcut]
  simp only [name_free free, hc, Option.bind_eq_bind, Option.bind_some, Option.pure_def]

/-- Reading the printed tokens of a statement gives the statement back. -/
theorem parseTokens_tokens {s : Statement (Option (List Token))} (h : s.Printable)
    {t : Statement (Option Expr)} (ht : s.mapCond readCond = some t) :
    parseTokens s.tokens = some t := by
  cases s with
  | select s =>
    obtain ⟨cond, hcond, rfl⟩ := Option.map_eq_some_iff.mp ht
    change (parseSelect s.tokens).map Statement.select = _
    rw [parseSelect_tokens s h.1 h.2.1 (fun o ho => h.2.2 o (Option.mem_def.mpr ho)) hcond]
    rfl
  | insert table columns values returning =>
    obtain ⟨hc, hcs, hv, hvs, hr⟩ := h
    obtain rfl := Option.some.inj ht
    exact parseInsert_tokens hc (fun c hm => (hcs c hm).1) (fun c hm => (hcs c hm).2) hv
      (fun v hm => (hvs v hm).1) (fun v hm => (hvs v hm).2) hr
  | update table sets cond =>
    obtain ⟨e, he, rfl⟩ := Option.map_eq_some_iff.mp ht
    exact parseUpdate_tokens h.1 (fun a ha => (h.2 a ha).1) (fun a ha => (h.2 a ha).2.1)
      (fun a ha => (h.2 a ha).2.2) he
  | delete table cond =>
    obtain ⟨e, he, rfl⟩ := Option.map_eq_some_iff.mp ht
    exact parseDelete_tokens h he

end SqlStatements
