import Mathlib.Data.List.TakeWhile
import Mathlib.Data.Rat.Cast.Order
import Mathlib.Tactic.Lemma

/-!
# Decimal text of machine numbers

Integers are written as `std::to_string` writes them and read back by two
readers: the strict one a database uses for a numeral, and `std::stoi`, which
skips leading blanks and ignores whatever follows the digits.
-/

namespace DecimalText

/-- What the standard library's number readers throw. -/
inductive StdError where
  | invalidArgument
  | outOfRange
  deriving DecidableEq, Repr

def intMin : Int := -2147483648
def intMax : Int := 2147483647

def digitsValue (cs : List Char) : Option Nat :=
  if cs ≠ [] ∧ cs.all Char.isDigit then some (Nat.ofDigitChars 10 cs 0) else none

def intValue : List Char → Option Int
  | '-' :: rest => (digitsValue rest).map (fun n : Nat => -(n : Int))
  | cs => (digitsValue cs).map (fun n : Nat => (n : Int))

/-- Digits, and optionally a point and more digits. -/
def unsignedValue (cs : List Char) : Option ℚ :=
  let whole := cs.takeWhile Char.isDigit
  match cs.dropWhile Char.isDigit with
  | [] => (digitsValue whole).map (fun n : Nat => (n : ℚ))
  | '.' :: fraction =>
    match digitsValue whole, digitsValue fraction with
    | some w, some f => some (w + f / 10 ^ fraction.length)
    | _, _ => none
  | _ => none

def decimalValue : List Char → Option ℚ
  | '-' :: rest => (unsignedValue rest).map (fun q => -q)
  | cs => unsignedValue cs

/-- The blanks `std::isspace` skips in the default locale. -/
def isSpace (c : Char) : Bool :=
  c = ' ' || c = '\t' || c = '\n' || c = '\x0b' || c = '\x0c' || c = '\r'

def signed : List Char → Int × List Char
  | '-' :: rest => (-1, rest)
  | '+' :: rest => (1, rest)
  | cs => (1, cs)

/-- `std::stoi` in base ten. -/
def stoi (s : String) : Except StdError Int :=
  let (sign, rest) := signed (s.toList.dropWhile isSpace)
  let digits := rest.takeWhile Char.isDigit
  if digits = [] then .error .invalidArgument
  else
    let n := sign * (Nat.ofDigitChars 10 digits 0 : Int)
    if intMin ≤ n ∧ n ≤ intMax then .ok n else .error .outOfRange

lemma repr_all_digits (n : Nat) : (toString n).toList.all Char.isDigit = true := by
  rw [List.all_eq_true]
  intro c hc
  rw [Nat.toString_eq_repr, Nat.toList_repr] at hc
  exact Nat.isDigit_of_mem_toDigits (by decide) (by decide) hc

lemma repr_ne_nil (n : Nat) : (toString n).toList ≠ [] := by
  rw [Nat.toString_eq_repr, Nat.toList_repr]
  exact Nat.toDigits_ne_nil

lemma ofDigitChars_repr (n : Nat) : Nat.ofDigitChars 10 (toString n).toList 0 = n := by
  rw [Nat.toString_eq_repr, Nat.toList_repr, Nat.ofDigitChars_ten_toDigits]

lemma toString_negSucc (n : Nat) : toString (Int.negSucc n) = "-" ++ toString (n + 1) := rfl

/-- Decimal text starts with a sign only for the negative numbers. -/
lemma toList_negSucc (n : Nat) :
    (toString (Int.negSucc n)).toList = '-' :: (toString (n + 1)).toList := by
  rw [toString_negSucc, String.toList_append]
  rfl

/-- The text of an integer is of digits and a sign. -/
lemma int_chars (n : Int) : ∀ c ∈ (toString n).toList, c.isDigit = true ∨ c = '-' := by
  have hnat : ∀ k : Nat, ∀ c ∈ (toString k).toList, c.isDigit = true := fun k =>
    List.all_eq_true.mp (repr_all_digits k)
  intro c hc
  cases n with
  | ofNat k => exact .inl (hnat k c hc)
  | negSucc k =>
    rw [toList_negSucc] at hc
    rcases List.mem_cons.mp hc with rfl | hc
    · exact .inr rfl
    · exact .inl (hnat (k + 1) c hc)

lemma repr_cons (n : Nat) : ∃ c cs, (toString n).toList = c :: cs ∧ c.isDigit = true := by
  obtain ⟨c, cs, h⟩ := List.exists_cons_of_ne_nil (repr_ne_nil n)
  have all := repr_all_digits n
  rw [h, List.all_cons, Bool.and_eq_true] at all
  exact ⟨c, cs, h, all.1⟩

lemma digitsValue_repr (n : Nat) : digitsValue (toString n).toList = some n := by
  rw [digitsValue, if_pos ⟨repr_ne_nil n, repr_all_digits n⟩, ofDigitChars_repr]

lemma unsignedValue_repr (n : Nat) : unsignedValue (toString n).toList = some (n : ℚ) := by
  have all := List.all_eq_true.mp (repr_all_digits n)
  have hdrop : (toString n).toList.dropWhile Char.isDigit = [] := List.dropWhile_eq_nil_iff.mpr all
  have htake : (toString n).toList.takeWhile Char.isDigit = (toString n).toList :=
    List.takeWhile_eq_self_iff.mpr all
  simp only [unsignedValue, hdrop, htake, digitsValue_repr, Option.map_some]

lemma not_sign_of_digit {c : Char} (h : c.isDigit = true) : c ≠ '-' ∧ c ≠ '+' := by
  constructor
  · rintro rfl
    exact absurd h (by decide)
  · rintro rfl
    exact absurd h (by decide)

theorem intValue_toString (n : Int) : intValue (toString n).toList = some n := by
  cases n with
  | ofNat m =>
    obtain ⟨c, cs, h, hd⟩ := repr_cons m
    change intValue (toString m).toList = some (m : Int)
    have hv := digitsValue_repr m
    rw [h] at hv ⊢
    rw [intValue.eq_2 _ (fun rest he => (not_sign_of_digit hd).1 (List.cons.inj he).1), hv]
    rfl
  | negSucc m =>
    rw [toList_negSucc, intValue, digitsValue_repr]
    rfl

theorem decimalValue_toString (n : Int) : decimalValue (toString n).toList = some (n : ℚ) := by
  cases n with
  | ofNat m =>
    obtain ⟨c, cs, h, hd⟩ := repr_cons m
    change decimalValue (toString m).toList = some ((m : Int) : ℚ)
    have hv := unsignedValue_repr m
    rw [h] at hv ⊢
    rw [decimalValue.eq_2 _ (fun rest he => (not_sign_of_digit hd).1 (List.cons.inj he).1), hv]
    rfl
  | negSucc m =>
    rw [toList_negSucc, decimalValue, unsignedValue_repr, Option.map_some, Int.cast_negSucc]

lemma digit_not_space {c : Char} (h : c.isDigit = true) : isSpace c = false := by
  by_contra hs
  rw [Bool.not_eq_false] at hs
  simp only [isSpace, Bool.or_eq_true, decide_eq_true_eq] at hs
  rcases hs with ((((rfl | rfl) | rfl) | rfl) | rfl) | rfl <;> exact absurd h (by decide)

/-- `std::stoi` reads back what `std::to_string` wrote, within the range of `int`. -/
theorem stoi_toString (n : Int) (hn : intMin ≤ n ∧ n ≤ intMax) : stoi (toString n) = .ok n := by
  cases n with
  | ofNat m =>
    obtain ⟨c, cs, h, hd⟩ := repr_cons m
    have all := List.all_eq_true.mp (repr_all_digits m)
    have hsign : signed (c :: cs) = (1, c :: cs) :=
      signed.eq_3 _ (fun rest he => (not_sign_of_digit hd).1 (List.cons.inj he).1)
        (fun rest he => (not_sign_of_digit hd).2 (List.cons.inj he).1)
    change stoi (toString m) = .ok (m : Int)
    have hv := ofDigitChars_repr m
    rw [h] at all hv
    have htake : (c :: cs).takeWhile Char.isDigit = c :: cs := List.takeWhile_eq_self_iff.mpr all
    simp only [stoi, h, List.dropWhile_cons, digit_not_space hd, Bool.false_eq_true, if_false,
      hsign, htake, List.cons_ne_nil, hv, Int.one_mul]
    exact if_pos hn
  | negSucc m =>
    have all := List.all_eq_true.mp (repr_all_digits (m + 1))
    have htake : (toString (m + 1)).toList.takeWhile Char.isDigit = (toString (m + 1)).toList :=
      List.takeWhile_eq_self_iff.mpr all
    have hval : (-1 : Int) * ((m + 1 : Nat) : Int) = Int.negSucc m := by
      rw [Int.negSucc_eq]
      omega
    have hspace : isSpace '-' = false := by decide
    simp only [stoi, toList_negSucc, List.dropWhile_cons, hspace, Bool.false_eq_true, if_false,
      signed, htake, repr_ne_nil, ofDigitChars_repr, hval]
    exact if_pos hn

example : stoi " 42abc" = .ok 42 := by decide

end DecimalText
