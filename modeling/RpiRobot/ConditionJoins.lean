import RpiRobot.SqlConditions

/-!
# Conditions joined as text

What a condition that parses alone becomes inside a longer text: behind a chain
of conjuncts and an `and`, or between parentheses. Joining by `and` glues the
last alternative of one condition to the first alternative of the next, so a
list of conditions denotes its conjunction only if none of them offers more
than one alternative.
-/

namespace ConditionJoins

open SqlTokens (Token joinTokens)
open SqlConditions

/-- Read `f` behind the chain that `F` has open. -/
def glue (F f : Frame) : Frame :=
  match f.closed with
  | [] => ⟨F.closed, F.chain ++ f.chain⟩
  | g :: gs => ⟨F.closed ++ (F.chain ++ g) :: gs, f.chain⟩

lemma glue_push (F f : Frame) (e : Expr) : glue F (f.push e) = (glue F f).push e := by
  rcases f with ⟨_ | ⟨g, gs⟩, chain⟩ <;> simp [glue, Frame.push]

lemma glue_alternative (F f : Frame) : glue F f.alternative = (glue F f).alternative := by
  rcases f with ⟨_ | ⟨g, gs⟩, chain⟩ <;> simp [glue, Frame.alternative]

lemma glue_empty (F : Frame) : glue F .empty = F := by
  simp [glue, Frame.empty]

lemma empty_glue (f : Frame) : glue .empty f = f := by
  rcases f with ⟨_ | ⟨g, gs⟩, chain⟩ <;> simp [glue, Frame.empty]

lemma glue_assoc (F f g : Frame) : glue (glue F f) g = glue F (glue f g) := by
  rcases f with ⟨_ | ⟨x, xs⟩, c⟩ <;> rcases g with ⟨_ | ⟨y, ys⟩, d⟩ <;> simp [glue]

/-- The stack of a condition read on its own, placed inside a longer text. -/
def embed (F : Frame) (outer : List Frame) : List Frame → List Frame
  | [] => outer
  | [f] => glue F f :: outer
  | f :: g :: fs => f :: embed F outer (g :: fs)

lemma embed_head (F : Frame) (outer : List Frame) (f : Frame) (fs : List Frame)
    (h : Frame → Frame) (hglue : glue F (h f) = h (glue F f)) :
    ∃ g gs, embed F outer (f :: fs) = g :: gs ∧
      embed F outer (h f :: fs) = h g :: gs := by
  cases fs with
  | nil => exact ⟨glue F f, outer, rfl, by rw [embed, hglue]⟩
  | cons k fs => exact ⟨f, embed F outer (k :: fs), rfl, rfl⟩

lemma apply_embed (F : Frame) (outer : List Frame) (a : Action) (f : Frame) (fs : List Frame)
    (h : (apply a (f :: fs)).mode ≠ .bad) :
    (apply a (f :: fs)).stack ≠ [] ∧
    apply a (embed F outer (f :: fs)) =
      ⟨(apply a (f :: fs)).mode, embed F outer (apply a (f :: fs)).stack⟩ := by
  cases a with
  | move m => exact ⟨List.cons_ne_nil _ _, rfl⟩
  | push e =>
    obtain ⟨g, gs, hg, hp⟩ := embed_head F outer f fs (fun k => k.push e) (glue_push F f e)
    refine ⟨List.cons_ne_nil _ _, ?_⟩
    simp only [apply, hg, hp]
  | opening => exact ⟨List.cons_ne_nil _ _, rfl⟩
  | alternative =>
    obtain ⟨g, gs, hg, hp⟩ := embed_head F outer f fs Frame.alternative (glue_alternative F f)
    refine ⟨List.cons_ne_nil _ _, ?_⟩
    simp only [apply, hg, hp]
  | closing =>
    cases fs with
    | nil => exact absurd rfl h
    | cons k fs =>
      cases he : anyOf f.groups with
      | none => simp only [apply, he] at h; exact absurd rfl h
      | some e =>
        obtain ⟨g, gs, hg, hp⟩ := embed_head F outer k fs (fun x => x.push e) (glue_push F k e)
        simp only [apply, he, embed, hg, hp]
        exact ⟨List.cons_ne_nil _ _, trivial⟩
  | fail => exact absurd rfl h

lemma act_bad (t : Token) : act .bad t = .fail := by
  cases t <;> rfl

lemma run_bad (stack : List Frame) (tokens : List Token) :
    (run ⟨.bad, stack⟩ tokens).mode = .bad := by
  induction tokens generalizing stack with
  | nil => rfl
  | cons t tokens ih =>
    have hstep : step ⟨.bad, stack⟩ t = failed := by
      rw [step, act_bad]
      cases stack <;> rfl
    change (run (step ⟨.bad, stack⟩ t) tokens).mode = .bad
    rw [hstep]
    exact ih []

lemma run_append (p : Parser) (a b : List Token) : run p (a ++ b) = run (run p a) b := by
  simp only [run, List.foldl_append]

/-- Reading on behaves the same below any stack, as long as it does not fail. -/
theorem run_embed (F : Frame) (outer : List Frame) (tokens : List Token) (m : Mode)
    (f : Frame) (fs : List Frame) (h : (run ⟨m, f :: fs⟩ tokens).mode ≠ .bad) :
    run ⟨m, embed F outer (f :: fs)⟩ tokens =
      ⟨(run ⟨m, f :: fs⟩ tokens).mode, embed F outer (run ⟨m, f :: fs⟩ tokens).stack⟩ := by
  induction tokens generalizing m f fs with
  | nil => rfl
  | cons t tokens ih =>
    have hrun : run ⟨m, f :: fs⟩ (t :: tokens) = run (apply (act m t) (f :: fs)) tokens := rfl
    have hlong : run ⟨m, embed F outer (f :: fs)⟩ (t :: tokens) =
        run (apply (act m t) (embed F outer (f :: fs))) tokens := rfl
    rw [hrun] at h ⊢
    have hgood : (apply (act m t) (f :: fs)).mode ≠ .bad := by
      intro hb
      apply h
      have hp : apply (act m t) (f :: fs) = ⟨.bad, (apply (act m t) (f :: fs)).stack⟩ := by
        rw [← hb]
      rw [hp]
      exact run_bad _ tokens
    obtain ⟨hne, hemb⟩ := apply_embed F outer (act m t) f fs hgood
    rw [hlong, hemb]
    obtain ⟨g, gs, hs⟩ := List.exists_cons_of_ne_nil hne
    have hq : apply (act m t) (f :: fs) = ⟨(apply (act m t) (f :: fs)).mode, g :: gs⟩ := by
      rw [← hs]
    rw [hs]
    rw [hq] at h ⊢
    exact ih _ g gs h

lemma accept_eq_some {p : Parser} {f : Frame} (h : accept p = some f) : p = ⟨.done, [f]⟩ := by
  rcases p with ⟨m, _ | ⟨g, _ | ⟨k, ks⟩⟩⟩ <;> cases m <;> simp_all [accept]

/-- A condition that parses alone, read behind an open chain. -/
theorem run_condition {tokens : List Token} {f : Frame} (h : parseFrame tokens = some f)
    (F : Frame) (outer : List Frame) :
    run ⟨.operand, F :: outer⟩ tokens = ⟨.done, glue F f :: outer⟩ := by
  have hrun := accept_eq_some h
  have hemb := run_embed F outer tokens .operand .empty [] (by
    rw [show run ⟨.operand, [.empty]⟩ tokens = run start tokens from rfl, hrun]
    exact Mode.noConfusion)
  rw [show run ⟨.operand, [.empty]⟩ tokens = run start tokens from rfl, hrun] at hemb
  simpa only [embed, glue_empty] using hemb

/-- A condition between parentheses is one conjunct of the chain around it. -/
theorem run_parenthesised {tokens : List Token} {e : Expr} (h : parse tokens = some e)
    (F : Frame) (outer : List Frame) :
    run ⟨.operand, F :: outer⟩ (.mark '(' :: (tokens ++ [.mark ')'])) =
      ⟨.done, F.push e :: outer⟩ := by
  obtain ⟨f, hf, he⟩ := Option.bind_eq_some_iff.mp h
  change run ⟨.operand, .empty :: F :: outer⟩ (tokens ++ [.mark ')']) = _
  rw [run_append, run_condition hf, empty_glue]
  change apply .closing (f :: F :: outer) = _
  rw [apply, he]

/-! Lists of conditions. -/

/-- The frame that the text of a list of conditions joined by `and` is read into. -/
def glueAll : List Frame → Frame
  | [] => .empty
  | f :: fs => glue f (glueAll fs)

lemma run_join (ts : List (List Token)) (fs : List Frame)
    (h : List.Forall₂ (fun t f => parseFrame t = some f) ts fs) (hne : ts ≠ []) (F : Frame)
    (outer : List Frame) :
    run ⟨.operand, F :: outer⟩ (joinTokens (.word "and") ts) =
      ⟨.done, glue F (glueAll fs) :: outer⟩ := by
  induction h generalizing F with
  | nil => exact absurd rfl hne
  | cons hf hrest ih =>
    rename_i t f ts fs
    cases hrest with
    | nil =>
      rw [joinTokens, run_condition hf, glueAll, glueAll, glue_empty]
    | cons hg hrest =>
      rw [joinTokens, run_append, run_condition hf]
      change run ⟨.operand, glue F f :: outer⟩ (joinTokens _ _) = _
      rw [ih (List.cons_ne_nil _ _), glue_assoc]
      rfl

theorem parseFrame_join {ts : List (List Token)} {fs : List Frame}
    (h : List.Forall₂ (fun t f => parseFrame t = some f) ts fs) (hne : ts ≠ []) :
    parseFrame (joinTokens (.word "and") ts) = some (glueAll fs) := by
  have hrun := run_join ts fs h hne .empty []
  rw [empty_glue] at hrun
  rw [parseFrame, start, hrun]
  rfl

/-! Meanings of joined conditions. -/

def Whole (f : Frame) : Prop := ∀ g ∈ f.groups, g ≠ []

lemma foldl_or_isSome (gs : List (List Expr)) (acc : Option Expr) :
    (gs.foldl (fun acc h => acc.bind (fun e => (allOf h).map (.or e))) acc).isSome = true ↔
      acc.isSome = true ∧ ∀ g ∈ gs, g ≠ [] := by
  induction gs generalizing acc with
  | nil => simp
  | cons g gs ih =>
    rw [List.foldl_cons, ih]
    cases acc with
    | none => simp
    | some a => cases g <;> simp [allOf]

lemma anyOf_groups_isSome (f : Frame) : (anyOf f.groups).isSome = true ↔ Whole f := by
  rcases f with ⟨_ | ⟨g, gs⟩, chain⟩
  · cases chain <;> simp [Frame.groups, anyOf, allOf, Whole]
  · have hg : (allOf g).isSome = true ↔ g ≠ [] := by cases g <;> simp [allOf]
    simp only [Frame.groups, List.cons_append, anyOf, foldl_or_isSome, hg, Whole,
      List.forall_mem_cons]

lemma whole_glue {F f : Frame} (hF : Whole F) (hf : Whole f) : Whole (glue F f) := by
  intro g hg
  rcases f with ⟨_ | ⟨x, xs⟩, chain⟩
  · simp only [glue, Frame.groups, List.mem_append, List.mem_singleton] at hg
    rcases hg with hg | rfl
    · exact hF g (List.mem_append_left _ hg)
    · exact List.append_ne_nil_of_left_ne_nil (hF F.chain (by simp [Frame.groups])) chain
  · simp only [glue, Frame.groups, List.mem_append, List.mem_cons, List.not_mem_nil,
      or_false] at hg
    rcases hg with (hg | rfl | hg) | rfl
    · exact hF g (List.mem_append_left _ hg)
    · exact List.append_ne_nil_of_left_ne_nil (hF F.chain (by simp [Frame.groups])) x
    · exact hf g (by simp [Frame.groups, hg])
    · exact hf g (by simp [Frame.groups])

lemma whole_glueAll {fs : List Frame} (hne : fs ≠ []) (h : ∀ f ∈ fs, Whole f) :
    Whole (glueAll fs) := by
  induction fs with
  | nil => exact absurd rfl hne
  | cons f fs ih =>
    have hf := h f List.mem_cons_self
    cases fs with
    | nil => rwa [glueAll, glueAll, glue_empty]
    | cons g fs =>
      exact whole_glue hf (ih (List.cons_ne_nil _ _) (fun k hk => h k (List.mem_cons_of_mem f hk)))

lemma groupSat_append (row : Row) (g h : List Expr) :
    GroupSat row (g ++ h) ↔ GroupSat row g ∧ GroupSat row h := by
  simp only [GroupSat, List.mem_append, or_imp, forall_and]

/-- A row that satisfies two conditions satisfies their text joined by `and`. -/
lemma groupsSat_glue {row : Row} {F f : Frame} (hF : GroupsSat row F.groups)
    (hf : GroupsSat row f.groups) : GroupsSat row (glue F f).groups := by
  obtain ⟨g, hg, hgs⟩ := hF
  obtain ⟨h, hh, hhs⟩ := hf
  rcases f with ⟨_ | ⟨x, xs⟩, chain⟩
  · simp only [Frame.groups, List.mem_append, List.mem_singleton, List.not_mem_nil,
      false_or] at hg hh
    subst hh
    rcases hg with hg | rfl
    · exact ⟨g, by simp [glue, Frame.groups, hg], hgs⟩
    · exact ⟨F.chain ++ h, by simp [glue, Frame.groups],
        (groupSat_append row _ _).mpr ⟨hgs, hhs⟩⟩
  · simp only [Frame.groups, List.mem_append, List.mem_cons, List.not_mem_nil,
      or_false] at hg hh
    rcases hg with hg | rfl
    · exact ⟨g, by simp [glue, Frame.groups, hg], hgs⟩
    · rcases hh with (rfl | hh) | rfl
      · exact ⟨F.chain ++ h, by simp [glue, Frame.groups],
          (groupSat_append row _ _).mpr ⟨hgs, hhs⟩⟩
      · exact ⟨h, by simp [glue, Frame.groups, hh], hhs⟩
      · exact ⟨h, by simp [glue, Frame.groups], hhs⟩

theorem groupsSat_glueAll {row : Row} {fs : List Frame} (hne : fs ≠ [])
    (h : ∀ f ∈ fs, GroupsSat row f.groups) : GroupsSat row (glueAll fs).groups := by
  induction fs with
  | nil => exact absurd rfl hne
  | cons f fs ih =>
    have hf := h f List.mem_cons_self
    cases fs with
    | nil => rwa [glueAll, glueAll, glue_empty]
    | cons g fs =>
      exact groupsSat_glue hf
        (ih (List.cons_ne_nil _ _) (fun k hk => h k (List.mem_cons_of_mem f hk)))

/-- With one alternative each, gluing only makes the chain longer. -/
lemma glueAll_single {fs : List Frame} (h : ∀ f ∈ fs, f.closed = []) :
    glueAll fs = ⟨[], fs.flatMap Frame.chain⟩ := by
  induction fs with
  | nil => rfl
  | cons f fs ih =>
    rw [glueAll, ih (fun g hg => h g (List.mem_cons_of_mem f hg))]
    simp [glue, h f List.mem_cons_self]

/-! What a condition begins with. -/

/-- The frame opened first holds `x` as its very first conjunct. -/
def Begins (x : Expr) : List Frame → Prop
  | [] => False
  | [f] => ∃ g gs, f.groups = (x :: g) :: gs
  | _ :: f :: fs => Begins x (f :: fs)

lemma begins_head (x : Expr) (f : Frame) (fs : List Frame) (h : Frame → Frame)
    (keep : ∀ g gs, f.groups = (x :: g) :: gs → ∃ g' gs', (h f).groups = (x :: g') :: gs')
    (hb : Begins x (f :: fs)) : Begins x (h f :: fs) := by
  cases fs with
  | nil =>
    obtain ⟨g, gs, hg⟩ := hb
    exact keep g gs hg
  | cons k fs => exact hb

lemma groups_push (f : Frame) (e x : Expr) (g : List Expr) (gs : List (List Expr))
    (h : f.groups = (x :: g) :: gs) : ∃ g' gs', (f.push e).groups = (x :: g') :: gs' := by
  obtain ⟨_ | ⟨k, ks⟩, chain⟩ := f
  · obtain ⟨rfl, rfl⟩ := List.cons.inj h
    exact ⟨g ++ [e], [], rfl⟩
  · obtain ⟨rfl, rfl⟩ := List.cons.inj h
    exact ⟨g, ks ++ [chain ++ [e]], rfl⟩

lemma groups_alternative (f : Frame) (x : Expr) (g : List Expr) (gs : List (List Expr))
    (h : f.groups = (x :: g) :: gs) : ∃ g' gs', f.alternative.groups = (x :: g') :: gs' := by
  refine ⟨g, gs ++ [[]], ?_⟩
  rw [Frame.alternative, Frame.groups]
  change f.groups ++ [[]] = _
  rw [h, List.cons_append]

lemma begins_apply (x : Expr) (a : Action) (f : Frame) (fs : List Frame)
    (hb : Begins x (f :: fs)) (hgood : (apply a (f :: fs)).mode ≠ .bad) :
    ∃ g gs, (apply a (f :: fs)).stack = g :: gs ∧ Begins x (g :: gs) := by
  cases a with
  | move m => exact ⟨f, fs, rfl, hb⟩
  | push e => exact ⟨f.push e, fs, rfl, begins_head x f fs (·.push e) (groups_push f e x) hb⟩
  | opening => exact ⟨.empty, f :: fs, rfl, hb⟩
  | alternative =>
    exact ⟨f.alternative, fs, rfl, begins_head x f fs Frame.alternative (groups_alternative f x) hb⟩
  | closing =>
    cases fs with
    | nil => exact absurd rfl hgood
    | cons k fs =>
      cases he : anyOf f.groups with
      | none => simp only [apply, he] at hgood; exact absurd rfl hgood
      | some e =>
        simp only [apply, he]
        exact ⟨k.push e, fs, rfl, begins_head x k fs (·.push e) (groups_push k e x) hb⟩
  | fail => exact absurd rfl hgood

lemma begins_run (x : Expr) (tokens : List Token) (m : Mode) (f : Frame) (fs : List Frame)
    (hb : Begins x (f :: fs)) (hgood : (run ⟨m, f :: fs⟩ tokens).mode ≠ .bad) :
    Begins x (run ⟨m, f :: fs⟩ tokens).stack := by
  induction tokens generalizing m f fs with
  | nil => exact hb
  | cons t tokens ih =>
    have hrun : run ⟨m, f :: fs⟩ (t :: tokens) = run (apply (act m t) (f :: fs)) tokens := rfl
    rw [hrun] at hgood ⊢
    have hstep : (apply (act m t) (f :: fs)).mode ≠ .bad := by
      intro hbad
      apply hgood
      have hp : apply (act m t) (f :: fs) = ⟨.bad, (apply (act m t) (f :: fs)).stack⟩ := by
        rw [← hbad]
      rw [hp]
      exact run_bad _ tokens
    obtain ⟨g, gs, hs, hbegins⟩ := begins_apply x (act m t) f fs hb hstep
    have hp : apply (act m t) (f :: fs) = ⟨(apply (act m t) (f :: fs)).mode, g :: gs⟩ := by
      rw [← hs]
    rw [hp] at hgood ⊢
    exact ih _ g gs hbegins hgood

def Compound (e : Expr) : Prop := ∃ a b, e = .and a b ∨ e = .or a b

lemma foldl_and_cases (x : Expr) (g : List Expr) :
    g.foldl .and x = x ∨ Compound (g.foldl .and x) := by
  induction g generalizing x with
  | nil => exact Or.inl rfl
  | cons y g ih =>
    right
    rcases ih (.and x y) with h | h
    · exact ⟨x, y, Or.inl h⟩
    · exact h

lemma foldl_or_cases (gs : List (List Expr)) (x e : Expr)
    (h : gs.foldl (fun acc h => acc.bind (fun e => (allOf h).map (.or e))) (some x) = some e) :
    e = x ∨ Compound e := by
  induction gs generalizing x with
  | nil => exact Or.inl (Option.some.inj h).symm
  | cons g gs ih =>
    right
    rw [List.foldl_cons, Option.bind_some] at h
    cases hg : allOf g with
    | none =>
      rw [hg, Option.map_none] at h
      have hnone : ∀ ks : List (List Expr), ks.foldl
          (fun acc h => acc.bind (fun e => (allOf h).map (Expr.or e))) none = none := by
        intro ks
        induction ks with
        | nil => rfl
        | cons k ks ih => exact ih
      rw [hnone] at h
      exact absurd h (by simp)
    | some b =>
      rw [hg, Option.map_some] at h
      rcases ih (.or x b) h with rfl | hc
      · exact ⟨x, b, Or.inr rfl⟩
      · exact hc

/-- A text that begins with a complete conjunct denotes it alone or something
composed. -/
theorem parse_begins {tokens rest : List Token} {x e : Expr}
    (hfirst : run start tokens = ⟨.done, [⟨[], [x]⟩]⟩) (h : parse (tokens ++ rest) = some e) :
    e = x ∨ Compound e := by
  obtain ⟨f, hf, he⟩ := Option.bind_eq_some_iff.mp h
  have hrun := accept_eq_some hf
  rw [run_append, hfirst] at hrun
  have hb := begins_run x rest .done ⟨[], [x]⟩ [] ⟨[], [], rfl⟩ (by
    rw [hrun]
    exact Mode.noConfusion)
  rw [hrun] at hb
  obtain ⟨g, gs, hg⟩ := hb
  rw [hg, anyOf, allOf] at he
  rcases foldl_or_cases gs _ e he with rfl | hc
  · exact foldl_and_cases x g
  · exact Or.inr hc

end ConditionJoins
