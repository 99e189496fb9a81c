import RpiRobot.SqlBuilder

/-!
# Request parameters

Filters, page requests and the query parameters they are made from, after
`http/HttpRequestParams.h` and its implementation. A value added to a filter is
one of the argument types that `Field::of` has an overload for; the type tag of a
field and the alternative its variant holds always agree there, so the tag is the
constructor of the value.
-/

namespace RequestParams

open DecimalText (StdError stoi)
open SqlBuilder (Double)

inductive Operation where
  | opUnknown
  | opLike
  | opNlike
  | opIn
  | opEq
  | opGt
  | opGte
  | opLt
  | opLte
  | opMe
  | opNin
  | opNull
  deriving DecidableEq, Repr

inductive FieldValue where
  | string (s : String)
  | long (n : Int)
  | double (d : Double)
  | vectorString (v : List String)
  | vectorNumber (v : List Double)

structure Field where
  name : String
  operation : Operation
  value : FieldValue

/-- The arguments `Field::of` is overloaded on. -/
inductive Arg where
  | integral (n : Int)
  | floating (d : Double)
  | chars (s : String)
  | string (s : String)
  | strings (v : List String)
  | numbers (v : List Double)

/-- `static_cast<long>` of an integer of any width. -/
def toLong (n : Int) : Int := n.bmod (2 ^ 64)

def vectorOperation : Operation → Operation
  | .opNlike => .opNin
  | _ => .opIn

/-- An array of characters is taken with its terminating NUL. -/
def Field.of (name : String) (op : Operation) : Arg → Field
  | .integral n => ⟨name, op, .long (toLong n)⟩
  | .floating d => ⟨name, op, .double d⟩
  | .chars s => ⟨name, op, .string (s ++ "\x00")⟩
  | .string s => ⟨name, op, .string s⟩
  | .strings v => ⟨name, vectorOperation op, .vectorString v⟩
  | .numbers v => ⟨name, vectorOperation op, .vectorNumber v⟩

abbrev Filter := List Field

namespace Filter

def create : Filter := []

def add (filter : Filter) (name : String) (op : Operation) (arg : Arg) : Filter :=
  filter ++ [Field.of name op arg]

def contains (filter : Filter) (name : String) : Bool := filter.any (fun f => f.name == name)

end Filter

structure PageRequest where
  offset : Int
  size : Int
  hasCount : Bool
  deriving DecidableEq, Repr

def PageRequest.of (offset size : Int) (count : Bool) : PageRequest := ⟨offset, size, count⟩

structure Page (T : Type) where
  data : List T
  total : Nat

/-- The decoded query parameters of a request, in order. -/
abbrev Params := List (String × String)

def Params.find (params : Params) (key : String) : Option String := params.lookup key

def Params.findLast (params : Params) (key : String) : Option String := params.reverse.lookup key

structure HttpRequestParams where
  filter : Filter
  page : PageRequest

namespace HttpRequestParams

/-- One `if (auto it = params.find_last(..))` of the constructor. -/
def addEqual (params : Params) (filter : Filter) (key : String) : Filter :=
  match params.findLast key with
  | some value => filter.add key .opEq (.string value)
  | none => filter

def filterOf (params : Params) : Filter :=
  ["name", "id", "device_id", "registry_id"].foldl (addEqual params) Filter.create

def sizeOf (params : Params) : Except StdError Int :=
  match params.find "size" with
  | some value => stoi value
  | none => .ok 10

/-- The product is formed in `int`. -/
def offsetOf (params : Params) (size : Int) : Except StdError Int :=
  match params.findLast "page" with
  | some value => (stoi value).map (fun page => (size * page).bmod (2 ^ 32))
  | none => .ok 0

def of (params : Params) : Except StdError HttpRequestParams := do
  let size ← sizeOf params
  let offset ← offsetOf params size
  return ⟨filterOf params, ⟨offset, size, true⟩⟩

end HttpRequestParams

/-- The fields a filter can hold come in the order of the adds. -/
lemma filter_adds {α : Type} (name : α → String) (op : α → Operation) (arg : α → Arg)
    (adds : List α) (filter : Filter) :
    adds.foldl (fun f a => f.add (name a) (op a) (arg a)) filter =
      filter ++ adds.map (fun a => Field.of (name a) (op a) (arg a)) := by
  induction adds generalizing filter with
  | nil => simp
  | cons a adds ih => rw [List.foldl_cons, ih, Filter.add, List.append_assoc]; rfl

/-- A key that is there gives one field, with its last value. -/
lemma filterOf_eq (params : Params) :
    HttpRequestParams.filterOf params =
      ["name", "id", "device_id", "registry_id"].filterMap (fun key =>
        (params.findLast key).map (fun value => ⟨key, .opEq, .string value⟩)) := by
  have general : ∀ (keys : List String) (filter : Filter),
      keys.foldl (HttpRequestParams.addEqual params) filter =
        filter ++ keys.filterMap (fun key =>
          (params.findLast key).map (fun value => ⟨key, .opEq, .string value⟩)) := by
    intro keys
    induction keys with
    | nil => simp
    | cons key keys ih =>
      intro filter
      rw [List.foldl_cons, ih, HttpRequestParams.addEqual, List.filterMap_cons]
      cases params.findLast key with
      | none => rfl
      | some value => simp [Filter.add, Field.of]
  rw [HttpRequestParams.filterOf, general, Filter.create, List.nil_append]

end RequestParams
