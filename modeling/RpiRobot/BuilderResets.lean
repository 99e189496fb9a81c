import RpiRobot.SqlBuilder

/-!
# Builders that are used again

`reset` makes the model of a statement as good as a new one, whatever it was used for before.
That of `InsertModel` leaves out one member: whether the statement replaces.
-/

namespace BuilderResets

open SqlBuilder

/-! ## The calls on a builder -/

/-- What `std::to_string` is given. -/
inductive Number where
  | long (n : Int)
  | double (d : Double)

def Number.text : Number → String
  | .long n => toString n
  | .double d => d.text

/-- A condition that is a text is that of a column of this text. -/
inductive SelectCall where
  | select (columns : List String)
  | distinct
  | from_ (tables : List String)
  | join (table : String)
  | leftJoin (table : String)
  | leftOuterJoin (table : String)
  | rightJoin (table : String)
  | rightOuterJoin (table : String)
  | fullJoin (table : String)
  | fullOuterJoin (table : String)
  | on_ (condition : Column)
  | where_ (condition : Column)
  | group_by (columns : List String)
  | having_ (condition : Column)
  | order_by (orderBy : String)
  | limit (limit : Number)
  | limitFrom (offset limit : Number)
  | offset (offset : Number)
  | reset

def SelectCall.perform (m : SelectModel) : SelectCall → SelectModel
  | .select columns => m.select columns
  | .distinct => m.distinct
  | .from_ tables => m.from_ tables
  | .join table => m.join table
  | .leftJoin table => m.leftJoin table
  | .leftOuterJoin table => m.leftOuterJoin table
  | .rightJoin table => m.rightJoin table
  | .rightOuterJoin table => m.rightOuterJoin table
  | .fullJoin table => m.fullJoin table
  | .fullOuterJoin table => m.fullOuterJoin table
  | .on_ condition => m.on_ condition
  | .where_ condition => m.where_ condition
  | .group_by columns => m.group_by columns
  | .having_ condition => m.having_ condition
  | .order_by text => m.order_by text
  | .limit n => { m with limit := n.text }
  | .limitFrom first n => { m with offset := first.text, limit := n.text }
  | .offset first => { m with offset := first.text }
  | .reset => m.reset

/-- `operator()` is `insert`. -/
inductive InsertCall where
  | insert (column : String) (data : Data)
  | insertNull (column : String)
  | returning (columns : List String)
  | into (table : String)
  | replace (var : Bool)
  | reset

def InsertCall.perform (m : InsertModel) : InsertCall → InsertModel
  | .insert column data => m.insert column data
  | .insertNull column => m.insertNull column
  | .returning columns => m.returning columns
  | .into table => m.into table
  | .replace var => m.replace var
  | .reset => m.reset

/-- `operator()` is `set`. -/
inductive UpdateCall where
  | update (table : String)
  | set (column : String) (data : Data)
  | setNull (column : String)
  | where_ (condition : Column)
  | reset

def UpdateCall.perform (m : UpdateModel) : UpdateCall → UpdateModel
  | .update table => m.update table
  | .set column data => m.set column data
  | .setNull column => m.setNull column
  | .where_ condition => m.where_ condition
  | .reset => m.reset

/-- `_delete` does nothing. -/
inductive DeleteCall where
  | delete
  | from_ (tables : List String)
  | where_ (condition : Column)
  | reset

def DeleteCall.perform (m : DeleteModel) : DeleteCall → DeleteModel
  | .delete => m
  | .from_ tables => m.from_ tables
  | .where_ condition => m.where_ condition
  | .reset => m.reset

/-! ## A builder that is used again -/

section
variable {M C : Type}

/-- The calls of `d` make the same statement after those of `c` and a `reset` as on a new
object. The text is written anew by each `str`. -/
def Renewed (perform : M → C → M) (reset : M → M) (str : M → String) (new : M) (c d : List C) :
    Prop :=
  str (d.foldl perform (reset (c.foldl perform new))) = str (d.foldl perform new)

variable {perform : M → C → M} {reset : M → M} {new : M}

lemma renewed_of_reset (h : ∀ m, reset m = new) (str : M → String) (c d : List C) :
    Renewed perform reset str new c d := by
  rw [Renewed, h]

end

def SelectRenewed (c d : List SelectCall) : Prop :=
  Renewed SelectCall.perform SelectModel.reset SelectModel.str .new c d

def InsertRenewed (c d : List InsertCall) : Prop :=
  Renewed InsertCall.perform InsertModel.reset InsertModel.str .new c d

def UpdateRenewed (c d : List UpdateCall) : Prop :=
  Renewed UpdateCall.perform UpdateModel.reset UpdateModel.str .new c d

def DeleteRenewed (c d : List DeleteCall) : Prop :=
  Renewed DeleteCall.perform DeleteModel.reset DeleteModel.str .new c d

/-! ## The member that is left out -/

/-- The argument of the last `replace`. -/
def lastReplace : List InsertCall → Option Bool
  | [] => none
  | .replace var :: calls => (lastReplace calls).or (some var)
  | _ :: calls => lastReplace calls

lemma insert_reset (m : InsertModel) : m.reset = InsertModel.new.replace m.isReplace := rfl

lemma replace_replace (m : InsertModel) (a b : Bool) : (m.replace a).replace b = m.replace b := rfl

/-- No call but `replace` looks at the member or changes it. -/
lemma run_replace (m : InsertModel) (b : Bool) (d : List InsertCall) :
    d.foldl InsertCall.perform (m.replace b) =
      (d.foldl InsertCall.perform m).replace ((lastReplace d).getD b) := by
  induction d generalizing m b with
  | nil => rfl
  | cons call d ih =>
    rw [List.foldl_cons, List.foldl_cons]
    cases call with
    | replace var =>
      have hcall : InsertCall.perform (m.replace b) (.replace var) = m.replace var := rfl
      have hcall' : InsertCall.perform m (.replace var) = m.replace var := rfl
      rw [hcall, hcall', ih, replace_replace, lastReplace]
      cases lastReplace d <;> rfl
    | insert column data => exact ih (m.insert column data) b
    | insertNull column => exact ih (m.insertNull column) b
    | returning columns => exact ih (m.returning columns) b
    | into table => exact ih (m.into table) b
    | reset => exact ih m.reset b

lemma run_isReplace (c : List InsertCall) :
    (c.foldl InsertCall.perform .new).isReplace = (lastReplace c).getD false := by
  have hrun := run_replace .new false c
  exact congrArg InsertModel.isReplace hrun

/-- The first words of the statement tell whether it replaces. -/
lemma str_replacing (m : InsertModel) : (m.replace true).str ≠ (m.replace false).str := by
  intro h
  have hletter := congrArg (fun text => text.toList[7]?) h
  simp [InsertModel.str, InsertModel.replace] at hletter

lemma str_replace_iff (m : InsertModel) (a b : Bool) :
    (m.replace a).str = (m.replace b).str ↔ a = b := by
  have hne := str_replacing m
  cases a with
  | false =>
    cases b with
    | false => exact iff_of_true rfl rfl
    | true => exact iff_of_false hne.symm (by decide)
  | true =>
    cases b with
    | false => exact iff_of_false hne (by decide)
    | true => exact iff_of_true rfl rfl

/-- The calls before the `reset` do not make the statement a replacing one, or the calls after
it say whether it is. -/
def Settled (c d : List InsertCall) : Prop := lastReplace c ≠ some true ∨ lastReplace d ≠ none

instance (c d : List InsertCall) : Decidable (Settled c d) := inferInstanceAs (Decidable (_ ∨ _))

lemma insertRenewed_iff (c d : List InsertCall) : InsertRenewed c d ↔ Settled c d := by
  have hold := run_replace .new ((lastReplace c).getD false) d
  have hnew := run_replace .new false d
  have hfresh : InsertModel.new.replace false = .new := rfl
  rw [hfresh] at hnew
  rw [InsertRenewed, Renewed, insert_reset, run_isReplace, hold, hnew, replace_replace,
    str_replace_iff, Settled]
  rcases lastReplace c with _ | _ | _ <;> rcases lastReplace d with _ | _ | _ <;> simp

/-- `reset` makes every builder new but one that inserts, and that one just if it is settled
whether it replaces. -/
theorem renewed_iff (select select' : List SelectCall) (c d : List InsertCall)
    (update update' : List UpdateCall) (delete delete' : List DeleteCall) :
    SelectRenewed select select' ∧ (InsertRenewed c d ↔ Settled c d) ∧
      UpdateRenewed update update' ∧ DeleteRenewed delete delete' :=
  ⟨renewed_of_reset (fun _ => rfl) _ _ _, insertRenewed_iff c d,
    renewed_of_reset (fun _ => rfl) _ _ _, renewed_of_reset (fun _ => rfl) _ _ _⟩

/-- The second statement of the object replaces as the first one did. -/
theorem replaces_again :
    ¬ InsertRenewed [.replace true, .into "device"] [.into "registry", .insert "id" (.long 1)] := by
  intro h
  have htexts : "insert or replace into registry(id) values(1)" =
      "insert into registry(id) values(1)" := h
  exact absurd htexts (by decide)

end BuilderResets
