import RpiRobot.DecimalText

/-!
# Tokens of a SQL text

A one-pass lexer in the manner of a server's scanner. A plain string literal
opens at a quote and closes at the next quote that is not doubled; a doubled
quote stands for one quote and a backslash is an ordinary character. Unquoted
identifiers are folded to lower case. Comments, quoted identifiers and prefixed
literals are left out.

The lexer is a fold, so the tokens of a concatenation are found piece by piece:
`Lexes` describes a piece that ends at a token boundary.
-/

namespace SqlTokens

inductive Token where
  | word (s : String)
  | num (s : String)
  | str (s : String)
  | sym (s : String)
  | mark (c : Char)
  deriving DecidableEq, Repr

/-- `quote acc` has just seen a quote inside a literal: its end, unless doubled. -/
inductive Mode where
  | gap
  | word (acc : List Char)
  | num (acc : List Char)
  | sym (acc : List Char)
  | str (acc : List Char)
  | quote (acc : List Char)
  deriving DecidableEq, Repr

structure State where
  done : List Token
  mode : Mode
  deriving DecidableEq, Repr

def isBlank (c : Char) : Bool := DecimalText.isSpace c

def isWordStart (c : Char) : Bool := c.isAlpha || c = '_' || 128 ≤ c.toNat

def isWordChar (c : Char) : Bool := isWordStart c || c.isDigit || c = '$'

def isNumStart (c : Char) : Bool := c.isDigit || c = '-'

def isNumChar (c : Char) : Bool := c.isDigit || c = '.'

def isSymChar (c : Char) : Bool := c = '=' || c = '<' || c = '>' || c = '!'

/-- Unquoted identifiers and keywords are folded to lower case. -/
def fold (cs : List Char) : String := String.ofList (cs.map Char.toLower)

/-- The first character of a token, or a blank, or a mark on its own. -/
def open_ (done : List Token) (c : Char) : State :=
  if isBlank c then ⟨done, .gap⟩
  else if c = '\'' then ⟨done, .str []⟩
  else if isWordStart c then ⟨done, .word [c]⟩
  else if isNumStart c then ⟨done, .num [c]⟩
  else if isSymChar c then ⟨done, .sym [c]⟩
  else ⟨done ++ [.mark c], .gap⟩

def step : State → Char → State
  | ⟨done, .gap⟩, c => open_ done c
  | ⟨done, .word acc⟩, c =>
    if isWordChar c then ⟨done, .word (acc ++ [c])⟩ else open_ (done ++ [.word (fold acc)]) c
  | ⟨done, .num acc⟩, c =>
    if isNumChar c then ⟨done, .num (acc ++ [c])⟩
    else open_ (done ++ [.num (String.ofList acc)]) c
  | ⟨done, .sym acc⟩, c =>
    if isSymChar c then ⟨done, .sym (acc ++ [c])⟩
    else open_ (done ++ [.sym (String.ofList acc)]) c
  | ⟨done, .str acc⟩, c =>
    if c = '\'' then ⟨done, .quote acc⟩ else ⟨done, .str (acc ++ [c])⟩
  | ⟨done, .quote acc⟩, c =>
    if c = '\'' then ⟨done, .str (acc ++ ['\''])⟩
    else open_ (done ++ [.str (String.ofList acc)]) c

def run (s : State) (text : List Char) : State := text.foldl step s

/-- The tokens once the text has ended; an open literal is an error. -/
def finish : State → Option (List Token)
  | ⟨done, .gap⟩ => some done
  | ⟨done, .word acc⟩ => some (done ++ [.word (fold acc)])
  | ⟨done, .num acc⟩ => some (done ++ [.num (String.ofList acc)])
  | ⟨done, .sym acc⟩ => some (done ++ [.sym (String.ofList acc)])
  | ⟨_, .str _⟩ => none
  | ⟨done, .quote acc⟩ => some (done ++ [.str (String.ofList acc)])

def start : State := ⟨[], .gap⟩

def lex (text : String) : Option (List Token) := finish (run start text.toList)

def Lexes (text : List Char) (tokens : List Token) : Prop :=
  finish (run start text) = some tokens

/-- A piece after which the lexer is between two tokens. -/
def Opens (text : List Char) (tokens : List Token) : Prop :=
  run start text = ⟨tokens, .gap⟩

instance (text : List Char) (tokens : List Token) : Decidable (Lexes text tokens) :=
  inferInstanceAs (Decidable (_ = _))

instance (text : List Char) (tokens : List Token) : Decidable (Opens text tokens) :=
  inferInstanceAs (Decidable (_ = _))

theorem lex_eq_some_iff (text : String) (tokens : List Token) :
    lex text = some tokens ↔ Lexes text.toList tokens := Iff.rfl

theorem run_append (s : State) (a b : List Char) : run s (a ++ b) = run (run s a) b := by
  simp only [run, List.foldl_append]

@[simp] theorem run_cons (s : State) (c : Char) (text : List Char) :
    run s (c :: text) = run (step s c) text := rfl

@[simp] theorem run_nil (s : State) : run s [] = s := rfl

/-! Tokens already emitted are never looked at again. -/

lemma open_frame (before done : List Token) (c : Char) :
    open_ (before ++ done) c = ⟨before ++ (open_ done c).done, (open_ done c).mode⟩ := by
  simp only [open_]
  split_ifs <;> simp

lemma step_frame (before done : List Token) (m : Mode) (c : Char) :
    step ⟨before ++ done, m⟩ c = ⟨before ++ (step ⟨done, m⟩ c).done, (step ⟨done, m⟩ c).mode⟩ := by
  cases m <;> simp only [step]
  case gap => exact open_frame before done c
  all_goals split_ifs
  all_goals first | rfl | rw [List.append_assoc, open_frame]

theorem run_frame (before done : List Token) (m : Mode) (text : List Char) :
    run ⟨before ++ done, m⟩ text =
      ⟨before ++ (run ⟨done, m⟩ text).done, (run ⟨done, m⟩ text).mode⟩ := by
  induction text generalizing done m with
  | nil => rfl
  | cons c text ih =>
    rw [run_cons, run_cons, step_frame]
    exact ih (step ⟨done, m⟩ c).done (step ⟨done, m⟩ c).mode

lemma finish_frame (before done : List Token) (m : Mode) :
    finish ⟨before ++ done, m⟩ = (finish ⟨done, m⟩).map (before ++ ·) := by
  cases m <;> simp [finish, List.append_assoc]

lemma run_gap (done : List Token) (text : List Char) :
    run ⟨done, .gap⟩ text = ⟨done ++ (run start text).done, (run start text).mode⟩ := by
  have h := run_frame done [] .gap text
  rwa [List.append_nil] at h

/-- Emitted tokens stay a prefix of the final tokens. -/
theorem done_prefix_run (s : State) (text : List Char) : s.done <+: (run s text).done := by
  have h := run_frame s.done [] s.mode text
  rw [List.append_nil] at h
  exact ⟨_, (congrArg State.done h).symm⟩

lemma done_prefix_finish {s : State} {tokens : List Token} (h : finish s = some tokens) :
    s.done <+: tokens := by
  obtain ⟨done, m⟩ := s
  cases m <;> simp only [finish, Option.some.injEq, reduceCtorEq] at h
  · exact ⟨[], by rw [List.append_nil, h]⟩
  all_goals exact ⟨_, h⟩

/-! Concatenation at a token boundary. -/

theorem Opens.append {a b : List Char} {ta tb : List Token} (ha : Opens a ta)
    (hb : Lexes b tb) : Lexes (a ++ b) (ta ++ tb) := by
  rw [Lexes, run_append, show run start a = ⟨ta, .gap⟩ from ha, run_gap, finish_frame]
  rw [Lexes] at hb
  rw [hb]
  rfl

theorem Opens.append_opens {a b : List Char} {ta tb : List Token} (ha : Opens a ta)
    (hb : Opens b tb) : Opens (a ++ b) (ta ++ tb) := by
  rw [Opens, run_append, show run start a = ⟨ta, .gap⟩ from ha, run_gap,
    show run start b = ⟨tb, .gap⟩ from hb]

/-- A character that ends every token but a literal: no word, number, symbol or
quote goes on with it. -/
def Ends (c : Char) : Prop :=
  isWordChar c = false ∧ isNumChar c = false ∧ isSymChar c = false ∧ c ≠ '\''

instance (c : Char) : Decidable (Ends c) := inferInstanceAs (Decidable (_ ∧ _))

lemma step_ends {s : State} {tokens : List Token} {c : Char} (hc : Ends c)
    (h : finish s = some tokens) : step s c = open_ tokens c := by
  obtain ⟨hw, hn, hs, hq⟩ := hc
  obtain ⟨done, m⟩ := s
  cases m <;> simp only [finish, Option.some.injEq, reduceCtorEq] at h <;>
    simp [step, hw, hn, hs, hq, h]

/-- Text that starts with an ending character and leaves the lexer in a gap. -/
structure Separates (text : List Char) (tokens : List Token) : Prop where
  ends : ∃ c rest, text = c :: rest ∧ Ends c
  opens : Opens text tokens

lemma separates {c : Char} {rest : List Char} {tokens : List Token} (hc : Ends c)
    (h : Opens (c :: rest) tokens) : Separates (c :: rest) tokens :=
  ⟨⟨c, rest, rfl, hc⟩, h⟩

theorem Lexes.separator {a sep : List Char} {ta ts : List Token} (ha : Lexes a ta)
    (hs : Separates sep ts) : Opens (a ++ sep) (ta ++ ts) := by
  obtain ⟨⟨c, rest, rfl, hc⟩, hopen⟩ := hs
  have hstart : step start c = open_ [] c := rfl
  have hframe := open_frame ta [] c
  rw [List.append_nil] at hframe
  rw [Opens, run_append, run_cons, step_ends hc ha, hframe,
    run_frame ta (open_ [] c).done (open_ [] c).mode rest, ← hstart]
  rw [Opens, run_cons] at hopen
  rw [show (⟨(step start c).done, (step start c).mode⟩ : State) = step start c from rfl, hopen]

theorem Lexes.append_separated {a sep b : List Char} {ta ts tb : List Token} (ha : Lexes a ta)
    (hs : Separates sep ts) (hb : Lexes b tb) : Lexes (a ++ sep ++ b) (ta ++ ts ++ tb) :=
  (ha.separator hs).append hb

theorem lexes_nil : Lexes [] [] := rfl

/-- Tokens of pieces with a separating token between them. -/
def joinTokens (sep : Token) : List (List Token) → List Token
  | [] => []
  | [t] => t
  | t :: u :: ts => t ++ sep :: joinTokens sep (u :: ts)

theorem Opens.lexes {a : List Char} {ta : List Token} (h : Opens a ta) : Lexes a ta := by
  rw [Lexes, show run start a = ⟨ta, .gap⟩ from h]
  rfl

/-! Words and numbers of any length. -/

lemma run_word (done : List Token) (acc cs : List Char) (h : cs.all isWordChar = true) :
    run ⟨done, .word acc⟩ cs = ⟨done, .word (acc ++ cs)⟩ := by
  induction cs generalizing acc with
  | nil => simp
  | cons c cs ih =>
    rw [List.all_cons, Bool.and_eq_true] at h
    rw [run_cons, step, if_pos h.1, ih (acc ++ [c]) h.2, List.append_assoc, List.singleton_append]

lemma run_num (done : List Token) (acc cs : List Char) (h : cs.all isNumChar = true) :
    run ⟨done, .num acc⟩ cs = ⟨done, .num (acc ++ cs)⟩ := by
  induction cs generalizing acc with
  | nil => simp
  | cons c cs ih =>
    rw [List.all_cons, Bool.and_eq_true] at h
    rw [run_cons, step, if_pos h.1, ih (acc ++ [c]) h.2, List.append_assoc, List.singleton_append]

/-- A name that lexes to itself: an identifier already in lower case. -/
def isName : List Char → Bool
  | [] => false
  | c :: cs => isWordStart c && cs.all isWordChar && ((c :: cs).map Char.toLower == c :: cs)

lemma wordStart_props {c : Char} (h : isWordStart c = true) : isBlank c = false ∧ c ≠ '\'' := by
  constructor
  · by_contra hb
    rw [Bool.not_eq_false, isBlank, DecimalText.isSpace] at hb
    simp only [Bool.or_eq_true, decide_eq_true_eq] at hb
    rcases hb with ((((rfl | rfl) | rfl) | rfl) | rfl) | rfl <;> exact absurd h (by decide)
  · rintro rfl
    exact absurd h (by decide)

theorem lexes_name {name : String} (h : isName name.toList = true) :
    Lexes name.toList [.word name] := by
  cases hn : name.toList with
  | nil => rw [hn] at h; exact absurd h (by decide)
  | cons c cs =>
    rw [hn, isName, Bool.and_eq_true, Bool.and_eq_true, beq_iff_eq] at h
    obtain ⟨⟨hc, hcs⟩, hfold⟩ := h
    obtain ⟨hb, hq⟩ := wordStart_props hc
    have hopen : step start c = ⟨[], .word [c]⟩ := by
      simp [step, start, open_, hb, hq, hc]
    have hname : fold (c :: cs) = name := by
      rw [fold, hfold, ← hn, String.ofList_toList]
    rw [Lexes, run_cons, hopen, run_word [] [c] cs hcs]
    simp [finish, hname]

/-- A numeral: an optional sign, then digits and points. -/
def isNumeral : List Char → Bool
  | [] => false
  | c :: cs => isNumStart c && cs.all isNumChar

lemma digit_toNat {c : Char} (h : c.isDigit = true) : 48 ≤ c.toNat ∧ c.toNat ≤ 57 := by
  simp only [Char.isDigit, Bool.and_eq_true, decide_eq_true_eq, UInt32.le_iff_toNat_le,
    ge_iff_le] at h
  exact h

lemma not_wordStart_of_digit {c : Char} (h : c.isDigit = true) : isWordStart c = false := by
  have hd := digit_toNat h
  by_contra hw
  rw [Bool.not_eq_false] at hw
  change ((decide (c.val ≥ 'A'.val ∧ c.val ≤ 'Z'.val) ||
    decide (c.val ≥ 'a'.val) && decide (c.val ≤ 'z'.val)) || decide (c = '_') ||
      decide (128 ≤ c.toNat)) = true at hw
  simp only [Bool.or_eq_true, Bool.and_eq_true, decide_eq_true_eq, UInt32.le_iff_toNat_le,
    ge_iff_le] at hw
  change (((65 ≤ c.toNat ∧ c.toNat ≤ 90) ∨ (97 ≤ c.toNat ∧ c.toNat ≤ 122)) ∨ c = '_') ∨
    128 ≤ c.toNat at hw
  rcases hw with ((hl | hl) | rfl) | hl
  · omega
  · omega
  · exact absurd h (by decide)
  · omega

lemma numStart_props {c : Char} (h : isNumStart c = true) :
    isBlank c = false ∧ c ≠ '\'' ∧ isWordStart c = false := by
  have hcases : c.isDigit = true ∨ c = '-' := by
    simpa only [isNumStart, Bool.or_eq_true, decide_eq_true_eq] using h
  rcases hcases with hd | rfl
  · refine ⟨DecimalText.digit_not_space hd, ?_, not_wordStart_of_digit hd⟩
    rintro rfl
    exact absurd hd (by decide)
  · decide

theorem lexes_numeral {text : String} (h : isNumeral text.toList = true) :
    Lexes text.toList [.num text] := by
  cases ht : text.toList with
  | nil => rw [ht] at h; exact absurd h (by decide)
  | cons c cs =>
    rw [ht, isNumeral, Bool.and_eq_true] at h
    obtain ⟨hb, hq, hw⟩ := numStart_props h.1
    have hopen : step start c = ⟨[], .num [c]⟩ := by
      simp [step, start, open_, hb, hq, hw, h.1]
    rw [Lexes, run_cons, hopen, run_num [] [c] cs h.2]
    have htext : String.ofList ([c] ++ cs) = text := by
      rw [List.singleton_append, ← ht, String.ofList_toList]
    simp only [finish, htext, List.nil_append]

lemma isNumChar_of_digit {c : Char} (h : c.isDigit = true) : isNumChar c = true := by
  rw [isNumChar, h, Bool.true_or]

theorem isNumeral_toString (n : Int) : isNumeral (toString n).toList = true := by
  have hall : ∀ k : Nat, (toString k).toList.all isNumChar = true := by
    intro k
    rw [List.all_eq_true]
    intro c hc
    exact isNumChar_of_digit (List.all_eq_true.mp (DecimalText.repr_all_digits k) c hc)
  cases n with
  | ofNat m =>
    obtain ⟨c, cs, h, hd⟩ := DecimalText.repr_cons m
    have hm := hall m
    change isNumeral (toString m).toList = true
    rw [h] at hm ⊢
    rw [List.all_cons, Bool.and_eq_true] at hm
    rw [isNumeral, Bool.and_eq_true, isNumStart, hd, Bool.true_or]
    exact ⟨rfl, hm.2⟩
  | negSucc m =>
    rw [DecimalText.toList_negSucc, isNumeral, hall (m + 1)]
    decide

theorem lexes_int (n : Int) : Lexes (toString n).toList [.num (toString n)] :=
  lexes_numeral (isNumeral_toString n)

end SqlTokens
