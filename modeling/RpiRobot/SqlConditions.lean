import RpiRobot.JsonValue
import RpiRobot.SqlTokens

/-!
# Conditions of a where clause

Boolean conditions over the columns of a row: their syntax, their value in
three-valued logic, and a parser with the usual precedence, `and` before `or`.

The parser is a fold over the tokens with an explicit stack: a frame per open
parenthesis, holding the alternatives separated by `or` so far and the chain of
conjuncts being read. A condition that parses on its own can therefore be
placed behind `and` or between parentheses and its effect there is known.
-/

namespace SqlConditions

open SqlTokens

inductive Value where
  | null
  | int (n : Int)
  | text (s : String)
  | json (j : Json)
  deriving Repr

abbrev Row := String → Value

inductive Operand where
  | col (name : String)
  | num (text : String)
  | str (s : String)
  deriving DecidableEq, Repr

inductive Cmp where
  | eq | ne | lt | le | gt | ge
  deriving DecidableEq, Repr

inductive Expr where
  | cmp (op : Cmp) (a b : Operand)
  | like (negated : Bool) (a : Operand) (pattern : String)
  | isIn (negated : Bool) (a : Operand) (items : List Operand)
  | isNull (negated : Bool) (a : Operand)
  | and (l r : Expr)
  | or (l r : Expr)
  deriving DecidableEq, Repr

/-! Values. A string literal has no type of its own and is read as a number when
it meets one. -/

inductive Scalar where
  | null
  | number (q : ℚ)
  | text (s : String)
  | literal (s : String)
  | other

def Operand.scalar (row : Row) : Operand → Scalar
  | .col name => match row name with
    | .null => .null
    | .int n => .number n
    | .text s => .text s
    | .json _ => .other
  | .num t => match DecimalText.decimalValue t.toList with
    | some q => .number q
    | none => .other
  | .str s => .literal s

def orderOf {α : Type} [DecidableEq α] [LT α] [DecidableLT α] (a b : α) : Ordering :=
  if a = b then .eq else if a < b then .lt else .gt

def compareScalars : Scalar → Scalar → Option Ordering
  | .number p, .number q => some (orderOf p q)
  | .text a, .text b => some (orderOf a b)
  | .text a, .literal b => some (orderOf a b)
  | .literal a, .text b => some (orderOf a b)
  | .literal a, .literal b => some (orderOf a b)
  | .number p, .literal b => (DecimalText.decimalValue b.toList).map (orderOf p)
  | .literal a, .number q => (DecimalText.decimalValue a.toList).map (orderOf · q)
  | _, _ => none

def Cmp.holds : Cmp → Ordering → Bool
  | .eq, o => o == .eq
  | .ne, o => o != .eq
  | .lt, o => o == .lt
  | .le, o => o != .gt
  | .gt, o => o == .gt
  | .ge, o => o != .lt

/-- Some suffix of the text, the text itself included, passes the test. -/
def anySuffix (f : List Char → Bool) : List Char → Bool
  | [] => f []
  | c :: s => f (c :: s) || anySuffix f s

/-- `%` stands for any sequence, `_` for any one character, a backslash takes the
next character literally. -/
def likeMatch : List Char → List Char → Bool
  | [], s => s.isEmpty
  | '%' :: p, s => anySuffix (likeMatch p) s
  | '_' :: p, _ :: s => likeMatch p s
  | '\\' :: c :: p, x :: s => c == x && likeMatch p s
  | '\\' :: [], _ => false
  | c :: p, x :: s => c == x && likeMatch p s
  | _ :: _, [] => false

def and3 : Option Bool → Option Bool → Option Bool
  | some false, _ => some false
  | _, some false => some false
  | some true, some true => some true
  | _, _ => none

def or3 : Option Bool → Option Bool → Option Bool
  | some true, _ => some true
  | _, some true => some true
  | some false, some false => some false
  | _, _ => none

def equal3 (a b : Scalar) : Option Bool := (compareScalars a b).map Cmp.eq.holds

/-- `none` is the unknown truth value of a comparison with null. -/
def Expr.eval (row : Row) : Expr → Option Bool
  | .cmp op a b => (compareScalars (a.scalar row) (b.scalar row)).map op.holds
  | .like negated a p => match a.scalar row with
    | .text s => some (likeMatch p.toList s.toList != negated)
    | .literal s => some (likeMatch p.toList s.toList != negated)
    | _ => none
  | .isIn negated a items =>
    ((items.map (fun b => equal3 (a.scalar row) (b.scalar row))).foldl or3 (some false)).map
      (fun b => b != negated)
  | .isNull negated a => some ((match a.scalar row with | .null => true | _ => false) != negated)
  | .and l r => and3 (l.eval row) (r.eval row)
  | .or l r => or3 (l.eval row) (r.eval row)

/-- A where clause keeps the rows on which its condition is true, not unknown. -/
def Expr.sat (row : Row) (e : Expr) : Bool := e.eval row == some true

def Operand.columns : Operand → List String
  | .col name => [name]
  | _ => []

def Expr.columns : Expr → List String
  | .cmp _ a b => a.columns ++ b.columns
  | .like _ a _ => a.columns
  | .isIn _ a items => a.columns ++ items.flatMap Operand.columns
  | .isNull _ a => a.columns
  | .and l r => l.columns ++ r.columns
  | .or l r => l.columns ++ r.columns

@[simp] lemma sat_and (row : Row) (l r : Expr) :
    (Expr.and l r).sat row = true ↔ l.sat row = true ∧ r.sat row = true := by
  simp only [Expr.sat, Expr.eval, beq_iff_eq]
  rcases l.eval row with _ | _ | _ <;> rcases r.eval row with _ | _ | _ <;> decide

@[simp] lemma sat_or (row : Row) (l r : Expr) :
    (Expr.or l r).sat row = true ↔ l.sat row = true ∨ r.sat row = true := by
  simp only [Expr.sat, Expr.eval, beq_iff_eq]
  rcases l.eval row with _ | _ | _ <;> rcases r.eval row with _ | _ | _ <;> decide

lemma ordering_eq_iff {α : Type} [DecidableEq α] [LT α] [DecidableLT α] (a b : α) :
    orderOf a b = .eq ↔ a = b := by
  rw [orderOf]
  split_ifs <;> simp_all

lemma holds_eq (o : Ordering) : Cmp.eq.holds o = true ↔ o = .eq := by
  cases o <;> decide

/-! Chains of conjuncts and alternatives of chains. -/

def allOf : List Expr → Option Expr
  | [] => none
  | e :: es => some (es.foldl .and e)

def anyOf : List (List Expr) → Option Expr
  | [] => none
  | g :: gs => gs.foldl (fun acc h => acc.bind (fun e => (allOf h).map (.or e))) (allOf g)

def GroupSat (row : Row) (g : List Expr) : Prop := ∀ e ∈ g, e.sat row = true

def GroupsSat (row : Row) (gs : List (List Expr)) : Prop := ∃ g ∈ gs, GroupSat row g

lemma foldl_and_sat (row : Row) (es : List Expr) (e : Expr) :
    (es.foldl .and e).sat row = true ↔ e.sat row = true ∧ GroupSat row es := by
  induction es generalizing e with
  | nil => simp [GroupSat]
  | cons f es ih =>
    rw [List.foldl_cons, ih, sat_and]
    simp only [GroupSat, List.forall_mem_cons, and_assoc]

lemma allOf_sat {row : Row} {g : List Expr} {e : Expr} (h : allOf g = some e) :
    e.sat row = true ↔ GroupSat row g := by
  cases g with
  | nil => exact absurd h (by simp [allOf])
  | cons f es =>
    rw [allOf, Option.some.injEq] at h
    rw [← h, foldl_and_sat]
    simp only [GroupSat, List.forall_mem_cons]

theorem anyOf_sat {row : Row} {gs : List (List Expr)} {e : Expr} (h : anyOf gs = some e) :
    e.sat row = true ↔ GroupsSat row gs := by
  cases gs with
  | nil => exact absurd h (by simp [anyOf])
  | cons g gs =>
    rw [anyOf] at h
    have general : ∀ (acc : Option Expr) (before : List (List Expr)),
        (∀ f, acc = some f → (f.sat row = true ↔ GroupsSat row before)) →
        gs.foldl (fun acc h => acc.bind (fun e => (allOf h).map (.or e))) acc = some e →
        (e.sat row = true ↔ GroupsSat row (before ++ gs)) := by
      clear h
      induction gs with
      | nil => intro acc before hacc he; rw [List.append_nil]; exact hacc e he
      | cons k gs ih =>
        intro acc before hacc he
        rw [List.foldl_cons] at he
        have hk := ih (acc.bind (fun e => (allOf k).map (.or e))) (before ++ [k]) ?_ he
        · rwa [List.append_assoc, List.singleton_append] at hk
        · intro f hf
          obtain ⟨a, ha, hf⟩ := Option.bind_eq_some_iff.mp hf
          obtain ⟨b, hb, rfl⟩ := Option.map_eq_some_iff.mp hf
          rw [sat_or, hacc a ha, allOf_sat hb]
          simp only [GroupsSat, List.mem_append, List.mem_singleton, or_and_right, exists_or,
            exists_eq_left]
    have hg : ∀ f, allOf g = some f → (f.sat row = true ↔ GroupsSat row [g]) := by
      intro f hf
      rw [allOf_sat hf]
      simp [GroupsSat]
    exact general (allOf g) [g] hg h

/-! The parser. -/

/-- Words that cannot be column names in a condition. -/
def reserved : List String :=
  ["and", "or", "not", "like", "in", "is", "null", "true", "false", "select", "from", "where",
    "order", "group", "having", "limit", "offset", "returning"]

def operand? : Token → Option Operand
  | .word w => if w ∈ reserved then none else some (.col w)
  | .num t => if (DecimalText.decimalValue t.toList).isSome then some (.num t) else none
  | .str s => some (.str s)
  | _ => none

def cmp? : String → Option Cmp
  | "=" => some .eq
  | "!=" => some .ne
  | "<>" => some .ne
  | "<" => some .lt
  | "<=" => some .le
  | ">" => some .gt
  | ">=" => some .ge
  | _ => none

inductive Mode where
  | operand
  | left (a : Operand)
  | right (op : Cmp) (a : Operand)
  | afterNot (a : Operand)
  | pattern (negated : Bool) (a : Operand) (paren : Bool)
  | closePattern (e : Expr)
  | openList (negated : Bool) (a : Operand)
  | item (negated : Bool) (a : Operand) (items : List Operand)
  | itemEnd (negated : Bool) (a : Operand) (items : List Operand)
  | afterIs (a : Operand)
  | afterIsNot (a : Operand)
  | done
  | bad
  deriving DecidableEq, Repr

structure Frame where
  closed : List (List Expr)
  chain : List Expr
  deriving DecidableEq, Repr

def Frame.empty : Frame := ⟨[], []⟩

def Frame.push (f : Frame) (e : Expr) : Frame := ⟨f.closed, f.chain ++ [e]⟩

def Frame.alternative (f : Frame) : Frame := ⟨f.closed ++ [f.chain], []⟩

def Frame.groups (f : Frame) : List (List Expr) := f.closed ++ [f.chain]

/-- The innermost frame comes first. -/
structure Parser where
  mode : Mode
  stack : List Frame
  deriving DecidableEq, Repr

def failed : Parser := ⟨.bad, []⟩

/-- What a token makes of the stack; the mode alone decides it. -/
inductive Action where
  | move (m : Mode)
  | push (e : Expr)
  | opening
  | alternative
  | closing
  | fail
  deriving DecidableEq, Repr

def moveOn {α : Type} (o : Option α) (next : α → Action) : Action :=
  match o with
  | some a => next a
  | none => .fail

def act : Mode → Token → Action
  | .operand, .mark '(' => .opening
  | .operand, t => moveOn (operand? t) (fun a => .move (.left a))
  | .left a, .sym s => moveOn (cmp? s) (fun op => .move (.right op a))
  | .left a, .word "like" => .move (.pattern false a false)
  | .left a, .word "not" => .move (.afterNot a)
  | .left a, .word "in" => .move (.openList false a)
  | .left a, .word "is" => .move (.afterIs a)
  | .right op a, t => moveOn (operand? t) (fun b => .push (.cmp op a b))
  | .afterNot a, .word "like" => .move (.pattern true a false)
  | .afterNot a, .word "in" => .move (.openList true a)
  | .pattern negated a false, .mark '(' => .move (.pattern negated a true)
  | .pattern negated a false, .str p => .push (.like negated a p)
  | .pattern negated a true, .str p => .move (.closePattern (.like negated a p))
  | .closePattern e, .mark ')' => .push e
  | .openList negated a, .mark '(' => .move (.item negated a [])
  | .item negated a items, t =>
    moveOn (operand? t) (fun b => .move (.itemEnd negated a (items ++ [b])))
  | .itemEnd negated a items, .mark ',' => .move (.item negated a items)
  | .itemEnd negated a items, .mark ')' => .push (.isIn negated a items)
  | .afterIs a, .word "null" => .push (.isNull false a)
  | .afterIs a, .word "not" => .move (.afterIsNot a)
  | .afterIsNot a, .word "null" => .push (.isNull true a)
  | .done, .word "and" => .move .operand
  | .done, .word "or" => .alternative
  | .done, .mark ')' => .closing
  | _, _ => .fail

def apply : Action → List Frame → Parser
  | .move m, stack => ⟨m, stack⟩
  | .push e, f :: fs => ⟨.done, f.push e :: fs⟩
  | .opening, stack => ⟨.operand, .empty :: stack⟩
  | .alternative, f :: fs => ⟨.operand, f.alternative :: fs⟩
  | .closing, f :: g :: fs => match anyOf f.groups with
    | some e => ⟨.done, g.push e :: fs⟩
    | none => failed
  | _, _ => failed

def step (p : Parser) (t : Token) : Parser := apply (act p.mode t) p.stack

def run (p : Parser) (tokens : List Token) : Parser := tokens.foldl step p

def start : Parser := ⟨.operand, [.empty]⟩

/-- The alternatives of a condition that ends with every parenthesis closed. -/
def accept : Parser → Option Frame
  | ⟨.done, [f]⟩ => some f
  | _ => none

def parseFrame (tokens : List Token) : Option Frame := accept (run start tokens)

def parse (tokens : List Token) : Option Expr :=
  (parseFrame tokens).bind (fun f => anyOf f.groups)

/-- The condition a text denotes, if it is one. -/
def ofText (text : String) : Option Expr := (lex text).bind parse

example : ofText "(a = 1) or b LIKE ('x%') and c in (1, 2)" =
    some (.or (.cmp .eq (.col "a") (.num "1"))
      (.and (.like false (.col "b") "x%") (.isIn false (.col "c") [.num "1", .num "2"]))) := by
  decide

end SqlConditions
