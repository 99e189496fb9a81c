import Mathlib.Data.List.Nodup
import RpiRobot.MemberConditions

/-!
# Trees of column conditions

The operators of `column` change their operands: a comparison appends to its column, and
`&&` and `||` write the whole condition to the right one and return it. On distinct objects
the text that comes out is the tree of the operators.
-/

namespace ColumnTrees

open MemberConditions (numeral_scalar)
open SqlConditions SqlBuilder StringLiterals WhereClauses

/-! ## Trees -/

/-- What a column is compared with. -/
inductive Literal where
  | int (n : Int)
  | string (s : String) (quoteFree : QuoteFree s.toList)

def Literal.data : Literal → Data
  | .int n => .long n
  | .string s _ => .string s

/-- The value that the literal is. -/
def Literal.scalar : Literal → Scalar
  | .int n => .number n
  | .string s _ => .literal s

def Literal.operand : Literal → Operand
  | .int n => .num (toString n)
  | .string s _ => .str s

/-- Comparisons of column objects, which are known by their addresses. -/
inductive Tree where
  | compare (object : Nat) (name : ColumnName) (op : Comparison) (value : Literal)
  | and (l r : Tree)
  | or (l r : Tree)

namespace Tree

/-- The column objects with their names. -/
def leaves : Tree → List (Nat × String)
  | .compare object name _ _ => [(object, name.text)]
  | .and l r => l.leaves ++ r.leaves
  | .or l r => l.leaves ++ r.leaves

def objects (t : Tree) : List Nat := t.leaves.map Prod.fst

/-- The comparison holds, and is not unknown. -/
def compares (name : ColumnName) (op : Comparison) (value : Literal) (row : Row) : Bool :=
  (compareScalars ((Operand.col name.text).scalar row) value.scalar).map op.cmp.holds == some true

/-- The tree as a Boolean expression. -/
def holds (row : Row) : Tree → Bool
  | .compare _ name op value => compares name op value row
  | .and l r => l.holds row && r.holds row
  | .or l r => l.holds row || r.holds row

/-- The tree as a condition. -/
def expr : Tree → Expr
  | .compare _ name op value => .cmp op.cmp (.col name.text) value.operand
  | .and l r => .and l.expr r.expr
  | .or l r => .or l.expr r.expr

end Tree

/-! ## Objects -/

abbrev Objects := Nat → Column

def Constructed (t : Tree) (columns : Objects) : Prop :=
  ∀ leaf ∈ t.leaves, columns leaf.1 = Column.of leaf.2

/-- `operator&&` and `operator||`: the right column gets the condition. -/
def combined (f : Column → Column → Column) (left right : Nat) (columns : Objects) : Objects :=
  Function.update columns right (f (columns left) (columns right))

/-- The object that the operators return, and all objects after that. -/
def Tree.build : Tree → Objects → Nat × Objects
  | .compare object _ op value, columns =>
    (object, Function.update columns object
      (Column.compare op.text (columns object) value.data))
  | .and l r, columns =>
    let left := l.build columns
    let right := r.build left.2
    (right.1, combined Column.and_ left.1 right.1 right.2)
  | .or l r, columns =>
    let left := l.build columns
    let right := r.build left.2
    (right.1, combined Column.or_ left.1 right.1 right.2)

/-- The condition of the column that the operators return. -/
def Tree.text (t : Tree) (columns : Objects) : String :=
  ((t.build columns).2 (t.build columns).1).cond

/-- The tree without its objects. -/
def Tree.cond : Tree → Cond
  | .compare _ name op value => .compare name op value.data
  | .and l r => .and l.cond r.cond
  | .or l r => .or l.cond r.cond

variable {t l r : Tree} {columns : Objects} {object : Nat}

lemma build_object (t : Tree) (columns : Objects) : (t.build columns).1 ∈ t.objects := by
  induction t generalizing columns with
  | compare object name op value => exact List.mem_singleton.mpr rfl
  | and l r _ ihr | or l r _ ihr =>
    have hr := ihr (l.build columns).2
    simp only [Tree.objects, Tree.leaves, List.map_append, List.mem_append]
    exact .inr hr

/-- Only the objects of the tree are changed. -/
lemma build_frame (h : object ∉ t.objects) :
    (t.build columns).2 object = columns object := by
  induction t generalizing columns with
  | compare object' name op value =>
    have hne : object ≠ object' := fun heq => h (List.mem_singleton.mpr heq)
    exact Function.update_of_ne hne _ _
  | and l r ihl ihr | or l r ihl ihr =>
    simp only [Tree.objects, Tree.leaves, List.map_append, List.mem_append, not_or] at h
    have hne : object ≠ (r.build (l.build columns).2).1 := fun heq =>
      h.2 (heq ▸ build_object r (l.build columns).2)
    simp only [Tree.build, combined]
    rw [Function.update_of_ne hne, ihr h.2, ihl h.1]

/-- Both operands are there when they are combined. -/
lemma build_combined (f : Column → Column → Column) (hdistinct : (l.objects ++ r.objects).Nodup) :
    combined f (l.build columns).1 (r.build (l.build columns).2).1 (r.build (l.build columns).2).2
        (r.build (l.build columns).2).1 =
      f ((l.build columns).2 (l.build columns).1)
        ((r.build (l.build columns).2).2 (r.build (l.build columns).2).1) := by
  have hleft : (l.build columns).1 ∉ r.objects :=
    (List.nodup_append'.mp hdistinct).2.2 (build_object l columns)
  rw [combined, Function.update_self, build_frame hleft]

lemma constructed_left (h : ∀ leaf ∈ l.leaves ++ r.leaves, columns leaf.1 = Column.of leaf.2) :
    Constructed l columns :=
  fun leaf hleaf => h leaf (List.mem_append_left _ hleaf)

/-- The left operand leaves the columns of the right one alone. -/
lemma constructed_right (h : ∀ leaf ∈ l.leaves ++ r.leaves, columns leaf.1 = Column.of leaf.2)
    (hdistinct : (l.objects ++ r.objects).Nodup) : Constructed r (l.build columns).2 := by
  intro leaf hleaf
  have hobject : leaf.1 ∈ r.objects := List.mem_map_of_mem hleaf
  have hnot : leaf.1 ∉ l.objects := fun hmem =>
    (List.nodup_append'.mp hdistinct).2.2 hmem hobject
  rw [build_frame hnot]
  exact h leaf (List.mem_append_right _ hleaf)

/-- What the operators write is what they would write on values. -/
lemma build_column (hdistinct : t.objects.Nodup) (h : Constructed t columns) :
    (t.build columns).2 (t.build columns).1 = t.cond.column := by
  induction t generalizing columns with
  | compare object name op value =>
    have hname : columns object = Column.of name.text := h _ (List.mem_singleton.mpr rfl)
    simp only [Tree.build, Function.update_self, hname]
    rfl
  | and l r ihl ihr | or l r ihl ihr =>
    rw [Tree.objects, Tree.leaves, List.map_append] at hdistinct
    have hparts := List.nodup_append'.mp hdistinct
    simp only [Tree.build]
    rw [build_combined _ hdistinct, ihl hparts.1 (constructed_left h),
      ihr hparts.2.1 (constructed_right h hdistinct)]
    rfl

/-! ## Meaning -/

lemma operandOf_data (value : Literal) : operandOf value.data = some value.operand := by
  cases value <;> rfl

lemma cond_expr (t : Tree) : t.cond.expr = some t.expr := by
  induction t with
  | compare object name op value =>
    rw [Tree.cond, Cond.expr, operandOf_data]
    rfl
  | and l r ihl ihr | or l r ihl ihr =>
    rw [Tree.cond, Cond.expr, ihl, ihr]
    rfl

lemma cond_plain (t : Tree) : t.cond.Plain := by
  induction t with
  | compare object name op value =>
    cases value with
    | int n => trivial
    | string s quoteFree => exact quoteFree
  | and l r ihl ihr | or l r ihl ihr => exact ⟨ihl, ihr⟩

lemma operand_scalar (row : Row) (value : Literal) : value.operand.scalar row = value.scalar := by
  cases value with
  | int n => exact numeral_scalar row n
  | string s quoteFree => rfl

lemma expr_sat (t : Tree) (row : Row) : t.expr.sat row = t.holds row := by
  induction t with
  | compare object name op value =>
    rw [Tree.expr, Expr.sat, Expr.eval, operand_scalar]
    rfl
  | and l r ihl ihr =>
    rw [Bool.eq_iff_iff, Tree.expr, sat_and, ihl, ihr, Tree.holds, Bool.and_eq_true]
  | or l r ihl ihr =>
    rw [Bool.eq_iff_iff, Tree.expr, sat_or, ihl, ihr, Tree.holds, Bool.or_eq_true]

/-- The text of the column is the tree, and means what the tree means. -/
theorem text_means_tree (t : Tree) (columns : Objects) (hdistinct : t.objects.Nodup)
    (h : Constructed t columns) :
    ofText (t.text columns) = some t.expr ∧ ∀ row, t.expr.sat row = t.holds row := by
  refine ⟨?_, expr_sat t⟩
  rw [Tree.text, build_column hdistinct h]
  exact (means_tree t.cond (cond_expr t) (cond_plain t)).1

/-- A literal with a parenthesis and a word in it. -/
def nested : Tree :=
  .or (.compare 0 ⟨"a", by decide, by decide⟩ .ge (.int (-1)))
    (.and (.compare 1 ⟨"b", by decide, by decide⟩ .ne (.string "x) or (y" (by decide)))
      (.compare 2 ⟨"c", by decide, by decide⟩ .eq (.int 3)))

def nestedColumns : Objects
  | 0 => Column.of "a"
  | 1 => Column.of "b"
  | _ => Column.of "c"

theorem nested_means_tree :
    ofText (nested.text nestedColumns) = some nested.expr ∧
      ∀ row, nested.expr.sat row = nested.holds row :=
  text_means_tree nested nestedColumns (by decide) (by unfold Constructed; decide)

end ColumnTrees
