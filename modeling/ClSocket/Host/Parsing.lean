import ClSocket.Model.Host

/-!
# How expressions are read

The grammar of C says how an expression is written: operands with operators between them, grouped by
precedence, with parentheses, casts and calls for operands (`Writes`, `Reads`). `parse` goes through
the tokens once, with a stack of what is still open. It accepts exactly what the grammar allows, and
finds the tree that the grammar means (`parse_iff`).

What has been read at each place is what the stack says (`Before`, `Consumed`).
-/

namespace ClSocket.Host

/-- The tokens write the tree: an operand by itself, or two trees with an operator between them. In
parentheses an expression is grouped by precedence. -/
inductive Writes : List Token → Written → Prop where
  | ident (name : String) : Writes [.ident name] (.leaf (.var name))
  | const (n : Int32) : Writes [.const n] (.leaf (.const n))
  | paren {ts : List Token} {t : Written} (h : Writes ts t) (hgrouped : t.Grouped BinOp.prec) :
    Writes (.lparen :: ts ++ [.rparen]) (.leaf (expr t))
  | cast {ts : List Token} {e : Expr} (h : Writes ts (.leaf e)) :
    Writes (.lparen :: .uint64 :: .rparen :: ts) (.leaf (.cast e))
  | call {ts : List Token} {t : Written} (f : HostFunction) (h : Writes ts t)
      (hgrouped : t.Grouped BinOp.prec) :
    Writes (.call f :: .lparen :: ts ++ [.rparen]) (.leaf (.call f (expr t)))
  | node {ts us : List Token} {l r : Written} (o : BinOp) (hl : Writes ts l) (hr : Writes us r) :
    Writes (ts ++ .op o :: us) (.node o l r)

/-- **The grammar**: the tokens are an expression, and the tree is its meaning. -/
structure Reads (ts : List Token) (t : Written) : Prop where
  writes : Writes ts t
  grouped : t.Grouped BinOp.prec

/-- An operand written behind an expression. -/
theorem Writes.push {ts us : List Token} {t : Written} {e : Expr} {o : BinOp} (h : Writes ts t)
    (he : Writes us (.leaf e)) : Writes (ts ++ .op o :: us) (t.push BinOp.prec o e) := by
  induction h with
  | ident name => exact .node o (.ident name) he
  | const n => exact .node o (.const n) he
  | paren h hgrouped _ => exact .node o (.paren h hgrouped) he
  | cast h _ => exact .node o (.cast h) he
  | call f h hgrouped _ => exact .node o (.call f h hgrouped) he
  | node o' hl hr _ ihr =>
    rw [OpTree.push]
    split
    · rw [List.append_assoc, List.cons_append]
      exact .node o' hl ihr
    · exact .node o (.node o' hl hr) he

theorem Reads.push {ts us : List Token} {t : Written} {e : Expr} {o : BinOp} (h : Reads ts t)
    (he : Writes us (.leaf e)) : Reads (ts ++ .op o :: us) (t.push BinOp.prec o e) :=
  ⟨h.writes.push he, h.grouped.push⟩

/-! ### What the grammar allows is accepted -/

theorem run_append (st : ParseState) (ts us : List Token) :
    st.run (ts ++ us) = (st.run ts).bind fun st' => st'.run us := List.foldlM_append

/-- A row of operators and operands is read. -/
def ParseState.extend : ParseState → List (BinOp × Expr) → ParseState
  | .has stack t, row => .has stack (t.extend BinOp.prec row)
  | st, _ => st

@[simp] theorem extend_nil (st : ParseState) : st.extend [] = st := by
  cases st <;> rfl

theorem give_eq_has (stack : List Unfinished) (e : Expr) :
    ∃ stack' t, give stack e = .has stack' t := by
  induction stack generalizing e with
  | nil => exact ⟨_, _, rfl⟩
  | cons x stack ih =>
    cases x with
    | after t o => exact ⟨_, _, rfl⟩
    | cast => exact ih (.cast e)
    | paren => exact ⟨_, _, rfl⟩
    | call f => exact ⟨_, _, rfl⟩

/-- An expression between its parentheses. -/
theorem run_parenthesised {ts : List Token} {t : Written} {x : Unfinished} {stack : List Unfinished}
    (hts : (ParseState.needs (x :: stack)).run ts =
      some ((give (x :: stack) t.first).extend t.rest))
    (hgive : give (x :: stack) t.first = .has (x :: stack) (.leaf t.first))
    (hgrouped : t.Grouped BinOp.prec) :
    (ParseState.needs (x :: stack)).run (ts ++ [.rparen]) =
      parseStep (.has (x :: stack) t) .rparen := by
  have hread : (give (x :: stack) t.first).extend t.rest = .has (x :: stack) t := by
    rw [hgive, ParseState.extend, hgrouped.extend_eq]
  rw [run_append, hts, hread]
  exact bind_pure _

/-- **What is written is read**, wherever an operand is to come: the first operand goes to what waits
for one, and the rest is read behind it. -/
theorem Writes.run {ts : List Token} {t : Written} (h : Writes ts t) (stack : List Unfinished) :
    (ParseState.needs stack).run ts = some ((give stack t.first).extend t.rest) := by
  induction h generalizing stack with
  | ident name => exact congrArg some (extend_nil _).symm
  | const n => exact congrArg some (extend_nil _).symm
  | @paren ts t _ hgrouped ih =>
    calc (ParseState.needs stack).run (.lparen :: ts ++ [.rparen])
      _ = (ParseState.needs (.paren :: stack)).run (ts ++ [.rparen]) := rfl
      _ = parseStep (.has (.paren :: stack) t) .rparen := run_parenthesised (ih _) rfl hgrouped
      _ = some ((give stack (expr t)).extend []) := congrArg some (extend_nil _).symm
  | @cast ts e _ ih => exact ih (.cast :: stack)
  | @call ts t f _ hgrouped ih =>
    calc (ParseState.needs stack).run (.call f :: .lparen :: ts ++ [.rparen])
      _ = (ParseState.needs (.call f :: stack)).run (ts ++ [.rparen]) := rfl
      _ = parseStep (.has (.call f :: stack) t) .rparen := run_parenthesised (ih _) rfl hgrouped
      _ = some ((give stack (.call f (expr t))).extend []) := congrArg some (extend_nil _).symm
  | @node ts us l r o _ _ ihl ihr =>
    obtain ⟨stack', t, hgive⟩ := give_eq_has stack l.first
    rw [run_append, ihl, hgive]
    calc (ParseState.needs (.after (t.extend BinOp.prec l.rest) o :: stack')).run us
      _ = some ((give (.after (t.extend BinOp.prec l.rest) o :: stack') r.first).extend r.rest) :=
        ihr _
      _ = some ((ParseState.has stack' t).extend (l.rest ++ (o, r.first) :: r.rest)) := by
        rw [ParseState.extend, OpTree.extend_append]
        rfl
      _ = some ((give stack l.first).extend (l.rest ++ (o, r.first) :: r.rest)) := by rw [hgive]

/-- An expression of the grammar is found. -/
theorem Reads.parse_eq {ts : List Token} {t : Written} (h : Reads ts t) : parse ts = some t := by
  have hrun : (ParseState.needs []).run ts = some (.has [] t) := by
    refine (h.writes.run []).trans (congrArg some ?_)
    change ParseState.has [] ((OpTree.leaf t.first).extend BinOp.prec t.rest) = _
    rw [h.grouped.extend_eq]
  rw [parse, hrun]

/-! ### What is accepted is allowed by the grammar -/

/-- The tokens that left these things open. -/
inductive Before : List Unfinished → List Token → Prop where
  | nil : Before [] []
  | after {stack : List Unfinished} {p ts : List Token} {t : Written} (o : BinOp)
      (h : Before stack p) (ht : Reads ts t) : Before (.after t o :: stack) (p ++ (ts ++ [.op o]))
  | cast {stack : List Unfinished} {p : List Token} (h : Before stack p) :
    Before (.cast :: stack) (p ++ [.lparen, .uint64, .rparen])
  | paren {stack : List Unfinished} {p : List Token} (h : Before stack p) :
    Before (.paren :: stack) (p ++ [.lparen])
  | call {stack : List Unfinished} {p : List Token} (f : HostFunction) (h : Before stack p) :
    Before (.call f :: stack) (p ++ [.call f, .lparen])

/-- The tokens that lead to a state. -/
def Consumed : ParseState → List Token → Prop
  | .needs stack, q => Before stack q
  | .typed stack, q => ∃ p, Before stack p ∧ q = p ++ [.lparen, .uint64]
  | .named f stack, q => ∃ p, Before stack p ∧ q = p ++ [.call f]
  | .has stack t, q => ∃ p ts, Before stack p ∧ Reads ts t ∧ q = p ++ ts

/-- An operand behind them. -/
theorem Before.give {stack : List Unfinished} {p ts : List Token} {e : Expr} (h : Before stack p)
    (he : Writes ts (.leaf e)) : Consumed (give stack e) (p ++ ts) := by
  induction h generalizing ts e with
  | nil => exact ⟨[], ts, .nil, ⟨he, trivial⟩, rfl⟩
  | @after stack p us t o h ht _ =>
    refine ⟨p, us ++ .op o :: ts, h, ht.push he, ?_⟩
    rw [List.append_assoc, List.append_assoc, List.singleton_append]
  | cast h ih =>
    rw [List.append_assoc]
    exact ih (.cast he)
  | paren h _ => exact ⟨_, ts, .paren h, ⟨he, trivial⟩, rfl⟩
  | call f h _ => exact ⟨_, ts, .call f h, ⟨he, trivial⟩, rfl⟩

/-- **One step** keeps account of what has been read. -/
theorem consumed_step {st st' : ParseState} {q : List Token} {tok : Token} (h : Consumed st q)
    (hstep : parseStep st tok = some st') : Consumed st' (q ++ [tok]) := by
  cases st with
  | needs stack =>
    have hb : Before stack q := h
    cases tok with
    | ident name =>
      obtain rfl := Option.some.inj hstep
      exact hb.give (.ident name)
    | const n =>
      obtain rfl := Option.some.inj hstep
      exact hb.give (.const n)
    | lparen =>
      obtain rfl := Option.some.inj hstep
      exact Before.paren hb
    | uint64 =>
      cases hb with
      | paren hb =>
        obtain rfl := Option.some.inj hstep
        exact ⟨_, hb, List.append_assoc _ _ _⟩
      | _ => cases hstep
    | call f =>
      obtain rfl := Option.some.inj hstep
      exact ⟨_, hb, rfl⟩
    | _ => cases hstep
  | typed stack =>
    obtain ⟨p, hb, rfl⟩ := h
    cases tok with
    | rparen =>
      obtain rfl := Option.some.inj hstep
      rw [List.append_assoc]
      exact Before.cast hb
    | _ => cases hstep
  | named f stack =>
    obtain ⟨p, hb, rfl⟩ := h
    cases tok with
    | lparen =>
      obtain rfl := Option.some.inj hstep
      rw [List.append_assoc]
      exact Before.call f hb
    | _ => cases hstep
  | has stack t =>
    obtain ⟨p, ts, hb, ht, rfl⟩ := h
    cases tok with
    | op o =>
      obtain rfl := Option.some.inj hstep
      rw [List.append_assoc]
      exact Before.after o hb ht
    | rparen =>
      -- the parenthesis that is closed is the last thing left open
      cases hb with
      | paren hb =>
        obtain rfl := Option.some.inj hstep
        rw [List.append_assoc, List.append_assoc]
        exact hb.give (.paren ht.writes ht.grouped)
      | call f hb =>
        obtain rfl := Option.some.inj hstep
        rw [List.append_assoc, List.append_assoc]
        exact hb.give (.call f ht.writes ht.grouped)
      | _ => cases hstep
    | _ => cases hstep

/-- A run. -/
theorem consumed_run {st st' : ParseState} {q ts : List Token} (h : Consumed st q)
    (hrun : st.run ts = some st') : Consumed st' (q ++ ts) := by
  induction ts generalizing st q with
  | nil =>
    obtain rfl := Option.some.inj hrun
    rwa [List.append_nil]
  | cons tok ts ih =>
    rw [ParseState.run, List.foldlM_cons] at hrun
    obtain ⟨st₁, hstep, hrun⟩ := Option.bind_eq_some_iff.mp hrun
    rw [List.append_cons]
    exact ih (consumed_step h hstep) hrun

/-- **An expression is read as the grammar has it.** -/
theorem parse_iff {ts : List Token} {t : Written} : parse ts = some t ↔ Reads ts t := by
  refine ⟨fun h => ?_, Reads.parse_eq⟩
  rw [parse] at h
  split at h
  · rename_i t' hrun
    obtain rfl := Option.some.inj h
    have hstart : Consumed (.needs []) [] := Before.nil
    obtain ⟨p, us, hb, hreads, hts⟩ := consumed_run hstart hrun
    cases hb
    rw [List.nil_append, List.nil_append] at hts
    rwa [hts]
  · cases h

/-- `a & b >> 32` is `a & (b >> 32)`. -/
example : parse [.ident "a", .op .amp, .ident "b", .op .shr, .const 32] =
    some (.node .amp (.leaf (.var "a")) (.node .shr (.leaf (.var "b")) (.leaf (.const 32)))) := rfl

end ClSocket.Host
