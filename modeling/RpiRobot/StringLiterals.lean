import RpiRobot.SqlTokens

/-!
# Texts with string data in them

A template is fixed text with places for string data, each rendered between two
quotes with nothing escaped. The lexer finds the intended literal at every
place exactly when no value contains a quote.
-/

namespace StringLiterals

open SqlTokens

def quoted (s : List Char) : List Char := '\'' :: (s ++ ['\''])

def QuoteFree (s : List Char) : Prop := '\'' ∉ s

instance (s : List Char) : Decidable (QuoteFree s) := inferInstanceAs (Decidable (_ ∉ _))

lemma quoteFree_int (n : Int) : QuoteFree (toString n).toList := by
  intro hquote
  rcases DecimalText.int_chars n _ hquote with hdigit | hminus
  · exact absurd hdigit (by decide)
  · exact absurd hminus (by decide)

/-- How a literal spells its content: every quote doubled. -/
def doubled : List Char → List Char
  | [] => []
  | c :: cs => if c = '\'' then '\'' :: '\'' :: doubled cs else c :: doubled cs

lemma run_str_free (done : List Token) (acc s : List Char) (h : QuoteFree s) :
    run ⟨done, .str acc⟩ s = ⟨done, .str (acc ++ s)⟩ := by
  induction s generalizing acc with
  | nil => simp
  | cons c s ih =>
    have hc : c ≠ '\'' := fun he => h (he ▸ List.mem_cons_self)
    rw [run_cons, step, if_neg hc, ih (acc ++ [c]) (fun hm => h (List.mem_cons_of_mem c hm)),
      List.append_assoc, List.singleton_append]

lemma run_quoted (s : List Char) (h : QuoteFree s) (done : List Token) :
    run ⟨done, .gap⟩ (quoted s) = ⟨done, .quote s⟩ := by
  have hopen : step ⟨done, .gap⟩ '\'' = ⟨done, .str []⟩ := rfl
  rw [quoted, run_cons, hopen, run_append, run_str_free done [] s h, List.nil_append, run_cons,
    run_nil, step, if_pos rfl]

theorem lexes_quoted {s : String} (h : QuoteFree s.toList) :
    Lexes (quoted s.toList) [.str s] := by
  rw [Lexes, start, run_quoted s.toList h, finish, List.nil_append, String.ofList_toList]

/-- Whatever follows an opening quote, the first token found is a literal whose
doubled content, its closing quote and the rest make up the text. -/
theorem literal_read (done : List Token) : ∀ (n : Nat) (text acc : List Char)
    (tokens : List Token), text.length ≤ n → finish (run ⟨done, .str acc⟩ text) = some tokens →
      ∃ content rest, text = doubled content ++ '\'' :: rest ∧
        done ++ [.str (String.ofList (acc ++ content))] <+: tokens := by
  intro n
  induction n with
  | zero =>
    intro text acc tokens hn h
    rw [List.length_eq_zero_iff.mp (Nat.le_zero.mp hn)] at h
    exact absurd h (by simp [finish])
  | succ n ih =>
    intro text acc tokens hn h
    cases text with
    | nil => exact absurd h (by simp [finish])
    | cons x text =>
      rw [List.length_cons] at hn
      by_cases hx : x = '\''
      · subst x
        rw [run_cons, step, if_pos rfl] at h
        cases text with
        | nil =>
          rw [run_nil, finish, Option.some.injEq] at h
          exact ⟨[], [], rfl, [], by rw [List.append_nil, List.append_nil, h]⟩
        | cons y text =>
          rw [List.length_cons] at hn
          by_cases hy : y = '\''
          · subst y
            rw [run_cons, step, if_pos rfl] at h
            obtain ⟨content, rest, heq, hpre⟩ := ih text (acc ++ ['\'']) tokens (by omega) h
            refine ⟨'\'' :: content, rest, ?_, ?_⟩
            · rw [doubled, if_pos rfl, heq]
              rfl
            · rwa [List.append_assoc, List.singleton_append] at hpre
          · rw [run_cons, step, if_neg hy] at h
            refine ⟨[], y :: text, rfl, ?_⟩
            have hopen := open_frame (done ++ [.str (String.ofList acc)]) [] y
            rw [List.append_nil] at hopen
            have hdone : done ++ [.str (String.ofList acc)] <+:
                (open_ (done ++ [.str (String.ofList acc)]) y).done :=
              ⟨_, (congrArg State.done hopen).symm⟩
            rw [List.append_nil]
            exact hdone.trans ((done_prefix_run _ text).trans (done_prefix_finish h))
      · rw [run_cons, step, if_neg hx] at h
        obtain ⟨content, rest, heq, hpre⟩ := ih text (acc ++ [x]) tokens (by omega) h
        refine ⟨x :: content, rest, ?_, ?_⟩
        · rw [doubled, if_neg hx, heq]
          rfl
        · rwa [List.append_assoc, List.singleton_append] at hpre

/-- A text cannot catch up with its own doubling: every quote puts the doubled
side one further ahead, and only a quote right after the closing one could
make up for it. -/
lemma no_catch_up (s rest tail : List Char) (hrest : rest.head? ≠ some '\'') (n : Nat)
    (h : s ++ '\'' :: rest = List.replicate (n + 1) '\'' ++ (doubled s ++ '\'' :: tail)) :
    False := by
  induction s generalizing n with
  | nil =>
    rw [List.nil_append, doubled, List.nil_append, List.replicate_succ, List.cons_append] at h
    have hr := (List.cons.inj h).2
    apply hrest
    cases n with
    | zero => rw [hr]; rfl
    | succ n => rw [hr]; rfl
  | cons c s ih =>
    rw [List.replicate_succ, List.cons_append, List.cons_append] at h
    obtain ⟨hc, ht⟩ := List.cons.inj h
    subst hc
    apply ih (n + 1)
    rw [ht, doubled, if_pos rfl, List.replicate_succ', List.replicate_succ']
    simp

lemma quoteFree_of_doubled (s rest tail : List Char) (hrest : rest.head? ≠ some '\'')
    (h : s ++ '\'' :: rest = doubled s ++ '\'' :: tail) : QuoteFree s := by
  induction s with
  | nil => exact List.not_mem_nil
  | cons c s ih =>
    by_cases hc : c = '\''
    · subst c
      rw [doubled, if_pos rfl] at h
      have ht := (List.cons.inj h).2
      exact False.elim (no_catch_up s rest tail hrest 0 ht)
    · rw [doubled, if_neg hc] at h
      have hs := ih (List.cons.inj h).2
      intro hm
      rcases List.mem_cons.mp hm with he | hm
      · exact hc he.symm
      · exact hs hm

/-- The first token after an opening quote is a literal, and what it holds spells a
prefix of the text. -/
theorem literal_content (done : List Token) (s rest : List Char) (tokens : List Token)
    (h : finish (run ⟨done, .gap⟩ (quoted s ++ rest)) = some tokens) :
    ∃ content tail, s ++ '\'' :: rest = doubled content ++ '\'' :: tail ∧
      done ++ [.str (String.ofList content)] <+: tokens := by
  have hopen : step ⟨done, .gap⟩ '\'' = ⟨done, .str []⟩ := rfl
  rw [quoted, List.cons_append, run_cons, hopen, List.append_assoc] at h
  exact literal_read done _ _ [] tokens le_rfl h

lemma prefix_str_inj {done tokens : List Token} {s t : List Char}
    (hs : done ++ [.str (String.ofList s)] <+: tokens)
    (ht : done ++ [.str (String.ofList t)] <+: tokens) : s = t := by
  have hsame := (List.prefix_of_prefix_length_le hs ht (by simp)).eq_of_length (by simp)
  have htoken := List.append_cancel_left hsame
  rw [List.cons.injEq, Token.str.injEq] at htoken
  exact String.ofList_injective htoken.1

/-- If the first token after an opening quote is the value itself, the value has
no quote in it. -/
theorem quoteFree_of_literal (done : List Token) (s rest : List Char) (tokens : List Token)
    (hrest : rest.head? ≠ some '\'')
    (h : finish (run ⟨done, .gap⟩ (quoted s ++ rest)) = some tokens)
    (first : done ++ [.str (String.ofList s)] <+: tokens) : QuoteFree s := by
  obtain ⟨content, tail, heq, hpre⟩ := literal_content done s rest tokens h
  rw [← prefix_str_inj first hpre] at heq
  exact quoteFree_of_doubled s rest tail hrest heq

/-- Fixed text after a value, with its tokens. -/
structure Part where
  value : String
  after : List Char
  tokens : List Token

structure Template where
  before : List Char
  tokens : List Token
  parts : List Part

def Part.render (p : Part) : List Char := quoted p.value.toList ++ p.after

def Part.expected (p : Part) : List Token := .str p.value :: p.tokens

def renderParts : List Part → List Char
  | [] => []
  | p :: ps => p.render ++ renderParts ps

def expectedParts : List Part → List Token
  | [] => []
  | p :: ps => p.expected ++ expectedParts ps

def Template.render (t : Template) : List Char := t.before ++ renderParts t.parts

/-- One literal per value, its content the value, and the fixed tokens around. -/
def Template.expected (t : Template) : List Token := t.tokens ++ expectedParts t.parts

def Template.values (t : Template) : List String := t.parts.map Part.value

/-- Between two values the fixed text stands apart from both; the last piece may
be empty. -/
def WellFormedParts : List Part → Prop
  | [] => True
  | [p] => (p.after = [] ∧ p.tokens = []) ∨
      (∃ c rest, p.after = c :: rest ∧ Ends c) ∧ Lexes p.after p.tokens
  | p :: q :: ps => Separates p.after p.tokens ∧ WellFormedParts (q :: ps)

structure Template.WellFormed (t : Template) : Prop where
  parts : WellFormedParts t.parts
  before : Opens t.before t.tokens
  nonempty : t.parts ≠ []

/-- Behind a closed literal the lexer goes on as from a gap. -/
lemma run_after_quoted {c : Char} {rest : List Char} (hc : Ends c) (done : List Token)
    (s : List Char) :
    run ⟨done, .quote s⟩ (c :: rest) =
      run ⟨done ++ [.str (String.ofList s)], .gap⟩ (c :: rest) := by
  rw [run_cons, run_cons]
  simp only [step, if_neg hc.2.2.2]

/-- A quote-free value and the fixed text after it leave the lexer in a gap. -/
lemma run_part {p : Part} (hp : QuoteFree p.value.toList) (h : Separates p.after p.tokens)
    (done : List Token) : run ⟨done, .gap⟩ p.render = ⟨done ++ p.expected, .gap⟩ := by
  obtain ⟨⟨c, rest, ha, hc⟩, hopen⟩ := h
  rw [ha] at hopen
  rw [Part.render, run_append, run_quoted _ hp, ha, run_after_quoted hc, run_gap,
    String.ofList_toList, show run start (c :: rest) = ⟨p.tokens, .gap⟩ from hopen]
  simp [Part.expected]

lemma head_renderParts {p : Part} {ps : List Part} (h : WellFormedParts (p :: ps)) :
    (p.after ++ renderParts ps).head? ≠ some '\'' := by
  cases ps with
  | nil =>
    rcases h with ⟨ha, _⟩ | ⟨⟨c, rest, ha, hc⟩, _⟩
    · simp [ha, renderParts]
    · simpa [ha] using hc.2.2.2
  | cons q ps =>
    obtain ⟨c, rest, ha, hc⟩ := h.1.ends
    simpa [ha] using hc.2.2.2

/-- With quote-free values the parts lex to what is expected. -/
lemma lex_parts (ps : List Part) (wf : WellFormedParts ps)
    (free : ∀ p ∈ ps, QuoteFree p.value.toList) (done : List Token) :
    finish (run ⟨done, .gap⟩ (renderParts ps)) = some (done ++ expectedParts ps) := by
  induction ps generalizing done with
  | nil => simp [renderParts, expectedParts, finish]
  | cons p ps ih =>
    have hp := free p List.mem_cons_self
    have hrest := fun q hq => free q (List.mem_cons_of_mem p hq)
    cases ps with
    | nil =>
      rw [renderParts, Part.render, List.append_assoc, run_append, run_quoted _ hp]
      rcases wf with ⟨ha, ht⟩ | ⟨⟨c, rest, ha, hc⟩, hlex⟩
      · simp [ha, ht, renderParts, expectedParts, Part.expected, finish]
      · rw [ha] at hlex
        rw [Lexes] at hlex
        rw [ha, renderParts, List.append_nil, run_after_quoted hc, run_gap, finish_frame, hlex]
        simp [expectedParts, Part.expected]
    | cons q ps =>
      rw [renderParts, run_append, run_part hp wf.1, ih wf.2 hrest, List.append_assoc]
      rfl

/-- Conversely, the expected tokens are found only when every value is quote-free:
the first value with a quote would already give another literal. -/
lemma quoteFree_of_lex_parts (ps : List Part) (wf : WellFormedParts ps) (done : List Token)
    (h : finish (run ⟨done, .gap⟩ (renderParts ps)) = some (done ++ expectedParts ps)) :
    ∀ p ∈ ps, QuoteFree p.value.toList := by
  induction ps generalizing done with
  | nil => simp
  | cons p ps ih =>
    have hfree : QuoteFree p.value.toList := by
      apply quoteFree_of_literal done p.value.toList (p.after ++ renderParts ps)
        (done ++ expectedParts (p :: ps)) (head_renderParts wf)
      · rwa [renderParts, Part.render, List.append_assoc] at h
      · refine ⟨p.tokens ++ expectedParts ps, ?_⟩
        simp [expectedParts, Part.expected]
    intro r hr
    rcases List.mem_cons.mp hr with rfl | hr
    · exact hfree
    · cases ps with
      | nil => exact absurd hr List.not_mem_nil
      | cons q ps =>
        rw [renderParts, run_append, run_part hfree wf.1] at h
        apply ih wf.2 (done ++ p.expected) _ r hr
        rwa [expectedParts, ← List.append_assoc] at h

/-- The exact condition under which a template keeps its data inside literals. -/
theorem template_lexes_iff (t : Template) (wf : t.WellFormed) :
    Lexes t.render t.expected ↔ ∀ v ∈ t.values, QuoteFree v.toList := by
  have hrun : finish (run start t.render) =
      finish (run ⟨t.tokens, .gap⟩ (renderParts t.parts)) := by
    rw [Template.render, run_append, show run start t.before = ⟨t.tokens, .gap⟩ from wf.before]
  have hvalues : (∀ v ∈ t.values, QuoteFree v.toList) ↔
      ∀ p ∈ t.parts, QuoteFree p.value.toList := by
    simp [Template.values]
  rw [hvalues, Lexes, hrun]
  constructor
  · exact quoteFree_of_lex_parts t.parts wf.parts t.tokens
  · exact fun free => lex_parts t.parts wf.parts free t.tokens

/-- A text that stops inside a value has an open literal. -/
lemma lex_cut_parts (stops : Char → Bool) (hquote : stops '\'' = false) (ps : List Part)
    (wf : WellFormedParts ps) (free : ∀ p ∈ ps, QuoteFree p.value.toList)
    (goes : ∀ p ∈ ps, ∀ c ∈ p.after, stops c = false)
    (stop : ∃ p ∈ ps, ∃ c ∈ p.value.toList, stops c = true) (done : List Token) :
    finish (run ⟨done, .gap⟩ ((renderParts ps).takeWhile (fun c => !stops c))) = none := by
  induction ps generalizing done with
  | nil =>
    obtain ⟨p, hp, _⟩ := stop
    exact absurd hp List.not_mem_nil
  | cons p ps ih =>
    rw [List.forall_mem_cons] at free goes
    by_cases hp : ∃ c ∈ p.value.toList, stops c = true
    · -- the value is cut, so its closing quote is missing
      obtain ⟨x, hx, hstop⟩ := hp
      have hcut : (renderParts (p :: ps)).takeWhile (fun c => !stops c) =
          '\'' :: p.value.toList.takeWhile (fun c => !stops c) := by
        have hshort : (p.value.toList.takeWhile (fun c => !stops c)).length ≠
            p.value.toList.length := by
          intro hl
          have hall := List.takeWhile_eq_self_iff.mp ((List.takeWhile_prefix _).eq_of_length hl)
          simpa [hstop] using hall x hx
        rw [renderParts, Part.render, quoted, List.cons_append, List.cons_append,
          List.takeWhile_cons, if_pos (by rw [hquote]; rfl), List.append_assoc, List.append_assoc,
          List.takeWhile_append, if_neg hshort]
      have hopen : step ⟨done, .gap⟩ '\'' = ⟨done, .str []⟩ := rfl
      have hfree : QuoteFree (p.value.toList.takeWhile (fun c => !stops c)) :=
        fun hm => free.1 ((List.takeWhile_prefix _).subset hm)
      rw [hcut, run_cons, hopen, run_str_free done [] _ hfree]
      rfl
    · obtain ⟨q, hq, hstop⟩ := stop
      rcases List.mem_cons.mp hq with rfl | hq
      · exact absurd hstop hp
      cases ps with
      | nil => exact absurd hq List.not_mem_nil
      | cons r ps =>
        have hwhole : ∀ c ∈ p.render, (!stops c) = true := by
          intro c hc
          rw [Part.render, quoted, List.cons_append, List.mem_cons, List.mem_append,
            List.mem_append, List.mem_singleton] at hc
          rw [Bool.not_eq_true']
          rcases hc with rfl | (hc | rfl) | hc
          · exact hquote
          · exact Bool.eq_false_iff.mpr (fun hs => hp ⟨c, hc, hs⟩)
          · exact hquote
          · exact goes.1 c hc
        rw [renderParts, List.takeWhile_append_of_pos hwhole, run_append, run_part free.1 wf.1]
        exact ih wf.2 free.2 goes.2 ⟨q, hq, hstop⟩ (done ++ p.expected)

def isLiteral : Token → Bool
  | .str _ => true
  | _ => false

/-- Tokens that are not string literals. -/
def outside (tokens : List Token) : List Token := tokens.filter (fun t => !isLiteral t)

@[simp] lemma outside_append (a b : List Token) : outside (a ++ b) = outside a ++ outside b :=
  List.filter_append a b

@[simp] lemma outside_str (s : String) (ts : List Token) :
    outside (.str s :: ts) = outside ts := rfl

/-- The fixed text of a template, without its values. -/
def Template.skeleton (t : Template) : List Char × List Token × List (List Char × List Token) :=
  (t.before, t.tokens, t.parts.map (fun p => (p.after, p.tokens)))

lemma outside_expectedParts (ps qs : List Part)
    (same : ps.map (fun p => (p.after, p.tokens)) = qs.map (fun p => (p.after, p.tokens))) :
    outside (expectedParts ps) = outside (expectedParts qs) := by
  induction ps generalizing qs with
  | nil =>
    rw [List.map_nil] at same
    rw [List.map_eq_nil_iff.mp same.symm]
  | cons p ps ih =>
    cases qs with
    | nil => exact absurd same (by simp)
    | cons q qs =>
      rw [List.map_cons, List.map_cons, List.cons.injEq, Prod.mk.injEq] at same
      simp only [expectedParts, Part.expected, List.cons_append, outside_str, outside_append,
        same.1.2, ih qs same.2]

theorem outside_expected (t u : Template) (same : t.skeleton = u.skeleton) :
    outside t.expected = outside u.expected := by
  simp only [Template.skeleton, Prod.mk.injEq] at same
  simp only [Template.expected, outside_append, same.2.1,
    outside_expectedParts t.parts u.parts same.2.2]

end StringLiterals
