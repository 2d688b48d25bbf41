import RigScript.Condition.Evaluate

/-! ## The grammar of conditions

A condition is an expression of the grammar

    expr   := term (OR term)*
    term   := factor (AND factor)*
    factor := NOT factor | ( expr ) | TRUE | FALSE

A derivation in it is a syntax tree: its leaves are the tokens, and it has a value of its own, in
which nothing is said about the order of evaluation. This file shows that the evaluator takes
exactly the rows of tokens that have a tree, and answers the value of the tree. -/

namespace RigScript.Condition

/-! ### Syntax trees -/

mutual
/-- `expr := term (OR term)*` -/
inductive Expr where
  | term (t : Term)
  | or (e : Expr) (t : Term)

/-- `term := factor (AND factor)*` -/
inductive Term where
  | factor (x : Factor)
  | and (t : Term) (x : Factor)

/-- `factor := NOT factor | ( expr ) | TRUE | FALSE` -/
inductive Factor where
  | literal (b : Bool)
  | not (x : Factor)
  | group (e : Expr)
end

mutual
/-- The leaves of an expression. -/
def Expr.tokens : Expr → List Token
  | .term t => t.tokens
  | .or e t => e.tokens ++ .or :: t.tokens

/-- The leaves of a term. -/
def Term.tokens : Term → List Token
  | .factor x => x.tokens
  | .and t x => t.tokens ++ .and :: x.tokens

/-- The leaves of a factor. -/
def Factor.tokens : Factor → List Token
  | .literal b => [.value b]
  | .not x => .not :: x.tokens
  | .group e => .opening :: (e.tokens ++ [.closing])
end

mutual
/-- The disjunction of the terms. -/
def Expr.value : Expr → Bool
  | .term t => t.value
  | .or e t => e.value || t.value

/-- The conjunction of the factors. -/
def Term.value : Term → Bool
  | .factor x => x.value
  | .and t x => t.value && x.value

/-- The value that is written, turned around by every `NOT`. -/
def Factor.value : Factor → Bool
  | .literal b => b
  | .not x => !x.value
  | .group e => e.value
end

/-! ### The evaluator takes every tree -/

namespace Frame

theorem operand_negate (f : Frame) (b : Bool) : f.negate.operand b = f.operand (!b) := by
  cases f with
  | mk terms factors negated => cases b <;> cases negated <;> simp [operand, negate]

theorem operand_and {f : Frame} (h : f.negated = false) (a b : Bool) :
    (f.operand a).operand b = f.operand (a && b) := by
  simp [operand, h, Bool.and_assoc]

end Frame

namespace State

mutual
theorem takeAll_expr (e : Expr) (outer : List Frame) (rest : List Token) :
    ∃ g : Frame, g.value = e.value ∧
      (State.before {} outer).takeAll (e.tokens ++ rest) = (State.after g outer).takeAll rest := by
  cases e with
  | term t =>
      refine ⟨({} : Frame).operand t.value, ?_, takeAll_term t {} rfl outer rest⟩
      simp [Frame.operand, Frame.value, Expr.value]
  | or e t =>
      -- The terms before the last one are in `g`; how they got there does not matter any more.
      obtain ⟨g, hvalue, hrun⟩ := takeAll_expr e outer (.or :: (t.tokens ++ rest))
      refine ⟨g.nextTerm.operand t.value, ?_, ?_⟩
      · simp only [Frame.value] at hvalue
        simp [Frame.nextTerm, Frame.operand, Frame.value, Expr.value, hvalue]
      · simp only [Expr.tokens, List.append_assoc, List.cons_append]
        rw [hrun]
        exact takeAll_term t g.nextTerm rfl outer rest

theorem takeAll_term (t : Term) (f : Frame) (hf : f.negated = false) (outer : List Frame)
    (rest : List Token) :
    (State.before f outer).takeAll (t.tokens ++ rest) =
      (State.after (f.operand t.value) outer).takeAll rest := by
  cases t with
  | factor x => exact takeAll_factor x f outer rest
  | and t x =>
      simp only [Term.tokens, List.append_assoc, List.cons_append]
      rw [takeAll_term t f hf outer, Term.value, ← Frame.operand_and hf]
      exact takeAll_factor x (f.operand t.value) outer rest

theorem takeAll_factor (x : Factor) (f : Frame) (outer : List Frame) (rest : List Token) :
    (State.before f outer).takeAll (x.tokens ++ rest) =
      (State.after (f.operand x.value) outer).takeAll rest := by
  cases x with
  | literal b => rfl
  | not x =>
      rw [Factor.value, ← Frame.operand_negate]
      exact takeAll_factor x f.negate outer rest
  | group e =>
      -- The parenthesis opens a level, and the closing one hands its value to the level outside.
      obtain ⟨g, hvalue, hrun⟩ := takeAll_expr e (f :: outer) (.closing :: rest)
      simp only [Factor.tokens, Factor.value, List.cons_append, List.append_assoc,
        List.nil_append, ← hvalue]
      exact hrun
end

end State

/-! ### The evaluator takes nothing else

What has been read is described level by level. Before an operand a level holds a `Pending` row:
perhaps an expression and `OR`, perhaps a term and `AND`, then some `NOT`. After an operand it
holds a `Complete` row, which is an expression on its own. -/

/-- A row of tokens that ends in an operand at one level, with the frame that is kept for it. -/
inductive Complete : Frame → List Token → Prop where
  | term (t : Term) : Complete { factors := t.value } t.tokens
  | or (e : Expr) (t : Term) :
    Complete { terms := e.value, factors := t.value } (e.tokens ++ .or :: t.tokens)

/-- A row of tokens at one level that an operand has to follow. -/
inductive Pending : Frame → List Token → Prop where
  | start : Pending {} []
  | or (e : Expr) : Pending { terms := e.value } (e.tokens ++ [.or])
  | and {g : Frame} {us : List Token} (h : Complete g us) : Pending g (us ++ [.and])
  | not {f : Frame} {us : List Token} (h : Pending f us) : Pending f.negate (us ++ [.not])

/-- The tokens of the levels around the present one, each up to its open parenthesis. -/
inductive Enclosing : List Frame → List Token → Prop where
  | nil : Enclosing [] []
  | cons {f : Frame} {outer : List Frame} {us vs : List Token} (houter : Enclosing outer us)
      (hlevel : Pending f vs) : Enclosing (f :: outer) (us ++ vs ++ [.opening])

/-- A row of tokens and the place that it leads to. -/
inductive Reaches : List Token → State → Prop where
  | before {f : Frame} {outer : List Frame} {us vs : List Token} (houter : Enclosing outer us)
      (hlevel : Pending f vs) : Reaches (us ++ vs) (.before f outer)
  | after {g : Frame} {outer : List Frame} {us vs : List Token} (houter : Enclosing outer us)
      (hlevel : Complete g vs) : Reaches (us ++ vs) (.after g outer)

theorem Complete.exists_expr {g : Frame} {us : List Token} (h : Complete g us) :
    ∃ e : Expr, e.tokens = us ∧ e.value = g.value := by
  cases h with
  | term t => exact ⟨.term t, rfl, by simp [Expr.value, Frame.value]⟩
  | or e t => exact ⟨.or e t, rfl, rfl⟩

/-- A factor completes the level. -/
theorem Pending.operand {f : Frame} {us : List Token} (h : Pending f us) (x : Factor) :
    Complete (f.operand x.value) (us ++ x.tokens) := by
  induction h generalizing x with
  | start => simpa [Frame.operand, Term.value, Term.tokens] using Complete.term (.factor x)
  | or e =>
      simpa [Frame.operand, Term.value, Term.tokens] using Complete.or e (.factor x)
  | and h =>
      cases h with
      | term t => simpa [Frame.operand, Term.value, Term.tokens] using Complete.term (.and t x)
      | or e t => simpa [Frame.operand, Term.value, Term.tokens] using Complete.or e (.and t x)
  | not _ ih =>
      -- The row without its `NOT` waits for the longer factor.
      rw [Frame.operand_negate]
      simpa [Factor.value, Factor.tokens] using ih (.not x)

/-- Taking a token keeps the description of what has been read. -/
theorem Reaches.take {ts : List Token} {s s' : State} {t : Token} (h : Reaches ts s)
    (htake : s.take t = .ok s') : Reaches (ts ++ [t]) s' := by
  cases h with
  | @before f outer us vs houter hlevel =>
      cases t with
      | value b =>
          cases htake
          rw [List.append_assoc]
          exact .after houter (hlevel.operand (.literal b))
      | not =>
          cases htake
          rw [List.append_assoc]
          exact .before houter hlevel.not
      | opening =>
          cases htake
          rw [← List.append_nil (us ++ vs ++ [Token.opening])]
          exact .before (.cons houter hlevel) .start
      | and => cases htake
      | or => cases htake
      | closing => cases htake
  | @after g outer us vs houter hlevel =>
      cases t with
      | value b => cases htake
      | not => cases htake
      | opening => cases htake
      | and =>
          cases htake
          rw [List.append_assoc]
          exact .before houter (.and hlevel)
      | or =>
          cases htake
          obtain ⟨e, rfl, hvalue⟩ := hlevel.exists_expr
          rw [List.append_assoc, Frame.nextTerm, ← Frame.value, ← hvalue]
          exact .before houter (.or e)
      | closing =>
          -- The level inside becomes one factor of the level around it.
          cases houter with
          | nil => cases htake
          | @cons f outer us vs' houter houterLevel =>
              cases htake
              obtain ⟨e, rfl, hvalue⟩ := hlevel.exists_expr
              have hgroup := houterLevel.operand (.group e)
              rw [Factor.value, hvalue] at hgroup
              simpa [Factor.tokens] using Reaches.after houter hgroup

theorem Reaches.takeAll {ts us : List Token} {s s' : State} (h : Reaches ts s)
    (htake : s.takeAll us = .ok s') : Reaches (ts ++ us) s' := by
  induction us generalizing ts s with
  | nil => cases htake; simpa using h
  | cons t us ih =>
      cases hstep : s.take t with
      | error e => simp [State.takeAll, hstep, bind, Except.bind] at htake
      | ok s₁ =>
          have hrest : s₁.takeAll us = .ok s' := by
            simpa [State.takeAll, hstep, bind, Except.bind] using htake
          simpa using ih (h.take hstep) hrest

theorem reaches_start : Reaches [] State.start := .before .nil .start

/-! ### The values of a row of tokens -/

theorem value_tokens (e : Expr) (hne : e.tokens ≠ []) : value e.tokens = .ok e.value := by
  obtain ⟨g, hvalue, hrun⟩ := State.takeAll_expr e [] []
  rw [List.append_nil] at hrun
  have hstart : State.start.takeAll e.tokens = .ok (.after g []) := hrun
  cases htokens : e.tokens with
  | nil => exact absurd htokens hne
  | cons t ts =>
      rw [htokens] at hstart
      simp [value, hstart, bind, Except.bind, State.finish, hvalue]

theorem exists_expr_of_value {ts : List Token} {b : Bool} (h : value ts = .ok b) :
    ∃ e : Expr, e.tokens = ts ∧ e.value = b := by
  cases ts with
  | nil => simp [value] at h
  | cons t ts =>
      cases hrun : State.start.takeAll (t :: ts) with
      | error e => simp [value, hrun, bind, Except.bind] at h
      | ok s =>
          have hfinish : s.finish = .ok b := by simpa [value, hrun, bind, Except.bind] using h
          have hreach := reaches_start.takeAll hrun
          rw [List.nil_append] at hreach
          generalize htokens : t :: ts = us at hreach
          -- The evaluator has come to its end after an operand, with no parenthesis open.
          cases hreach with
          | before => cases hfinish
          | after houter hlevel =>
              cases houter with
              | nil =>
                  obtain ⟨e, he, hvalue⟩ := hlevel.exists_expr
                  cases hfinish
                  exact ⟨e, by simpa using he, hvalue⟩
              | cons => cases hfinish

/-- The evaluator accepts exactly the rows of tokens that the grammar derives, and answers the
value of their derivations, of which all have the same. -/
theorem evaluate_eq_ok_iff_derives {s : String} {ts : List Token}
    (hscan : Token.scan s.toList = .ok ts) (hne : ts ≠ []) :
    (∀ b : Bool, evaluate s = .ok b ↔ ∃ e : Expr, e.tokens = ts ∧ e.value = b) ∧
      ∀ e e' : Expr, e.tokens = ts → e'.tokens = ts → e.value = e'.value := by
  have hevaluate : evaluate s = value ts := by simp [evaluate, hscan, bind, Except.bind]
  refine ⟨fun b => ⟨fun h => ?_, ?_⟩, ?_⟩
  · rw [hevaluate] at h
    exact exists_expr_of_value h
  · rintro ⟨e, rfl, rfl⟩
    rw [hevaluate]
    exact value_tokens e hne
  · rintro e e' rfl he'
    have h := value_tokens e hne
    have h' := value_tokens e' (he' ▸ hne)
    rw [he', h] at h'
    exact Except.ok.inj h'

/-- `NOT` binds tighter than `AND`, and `AND` tighter than `OR`. -/
theorem evaluate_precedence :
    Token.scan "TRUE || TRUE AND !TRUE".toList =
        .ok [.value true, .or, .value true, .and, .not, .value true] ∧
      evaluate "TRUE || TRUE AND !TRUE" = .ok true := by
  have hscan : Token.scan "TRUE || TRUE AND !TRUE".toList =
      .ok [.value true, .or, .value true, .and, .not, .value true] := by cbv
  let yes : Factor := .literal true
  let e : Expr := .or (.term (.factor yes)) (.and (.factor yes) (.not yes))
  exact ⟨hscan, ((evaluate_eq_ok_iff_derives hscan (by decide)).1 true).2 ⟨e, rfl, rfl⟩⟩

end RigScript.Condition
