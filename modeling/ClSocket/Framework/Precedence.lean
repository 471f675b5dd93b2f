import Mathlib.Order.Lattice

/-!
# Operands, operators and precedence

An expression is written as an operand and a row of further operands with a binary operator before
each. What it means is a tree (`OpTree`) with the same operands and operators in the same order
(`OpTree.first`, `OpTree.rest`). When each operator has a precedence, and equals are taken from the
left, one tree only is meant: that in which an operator binds no tighter than the one at the root of
its left operand, and looser than the one at the root of its right operand (`OpTree.Grouped`).

It is found from left to right (`OpTree.Grouped.extend_eq`). An operator and an operand that are
written behind an expression go down its right side past all that binds looser (`OpTree.push`), so
that what is written behind an expression need not have the whole of it for its left operand.
-/

/-- An expression over operands of `α` and binary operators of `ω`. -/
inductive OpTree (ω α : Type) where
  | leaf (a : α)
  | node (o : ω) (l r : OpTree ω α)
  deriving DecidableEq

namespace OpTree

variable {ω α β : Type}

/-- The operand written first. -/
def first : OpTree ω α → α
  | leaf a => a
  | node _ l _ => l.first

/-- What is written behind it. -/
def rest : OpTree ω α → List (ω × α)
  | leaf _ => []
  | node o l r => l.rest ++ (o, r.first) :: r.rest

/-- The operator at the root. -/
def root : OpTree ω α → Option ω
  | leaf _ => none
  | node o _ _ => some o

/-- The tree with the operands and operators replaced by what they stand for. -/
def fold (operand : α → β) (operator : ω → β → β → β) : OpTree ω α → β
  | leaf a => operand a
  | node o l r => operator o (l.fold operand operator) (r.fold operand operator)

@[simp] theorem first_leaf (a : α) : (leaf a : OpTree ω α).first = a := rfl

@[simp] theorem rest_leaf (a : α) : (leaf a : OpTree ω α).rest = [] := rfl

@[simp] theorem root_node (o : ω) (l r : OpTree ω α) : (node o l r).root = some o := rfl

section

variable {P : Type} [LinearOrder P] (prec : ω → P)

/-- Grouped by precedence, and to the left among equals. -/
def Grouped : OpTree ω α → Prop
  | leaf _ => True
  | node o l r => l.Grouped ∧ r.Grouped ∧ (∀ o' ∈ l.root, prec o ≤ prec o') ∧
      ∀ o' ∈ r.root, prec o < prec o'

/-- The tree with one more operator and operand written behind it. -/
def push (o : ω) (a : α) : OpTree ω α → OpTree ω α
  | leaf b => node o (leaf b) (leaf a)
  | node o' l r =>
    if prec o' < prec o then node o' l (r.push o a) else node o (node o' l r) (leaf a)

/-- With a row of them. -/
def extend (t : OpTree ω α) (row : List (ω × α)) : OpTree ω α :=
  row.foldl (fun t x => t.push prec x.1 x.2) t

variable {prec}

@[simp] theorem extend_nil (t : OpTree ω α) : t.extend prec [] = t := rfl

@[simp] theorem extend_cons (t : OpTree ω α) (o : ω) (a : α) (row : List (ω × α)) :
    t.extend prec ((o, a) :: row) = (t.push prec o a).extend prec row := rfl

@[simp] theorem extend_append (t : OpTree ω α) (row row' : List (ω × α)) :
    t.extend prec (row ++ row') = (t.extend prec row).extend prec row' := List.foldl_append

/-! ### One more operand -/

theorem mem_root_push {o o' : ω} {a : α} {t : OpTree ω α} (h : o' ∈ (t.push prec o a).root) :
    o' = o ∨ o' ∈ t.root := by
  cases t with
  | leaf b => exact Or.inl (Option.some.inj h).symm
  | node o₁ l r =>
    rw [push] at h
    split at h
    · exact Or.inr h
    · exact Or.inl (Option.some.inj h).symm

/-- Grouping is kept. -/
theorem Grouped.push {o : ω} {a : α} {t : OpTree ω α} (h : t.Grouped prec) :
    (t.push prec o a).Grouped prec := by
  induction t with
  | leaf b =>
    exact ⟨trivial, trivial, fun o' ho' => (Option.not_mem_none o' ho').elim,
      fun o' ho' => (Option.not_mem_none o' ho').elim⟩
  | node o₁ l r _ ihr =>
    rw [OpTree.push]
    split
    -- the new operator binds tighter, and goes down on the right
    · rename_i hlt
      obtain ⟨hl, hr, hleft, hright⟩ := h
      refine ⟨hl, ihr hr, hleft, fun o' ho' => ?_⟩
      rcases mem_root_push ho' with rfl | hmem
      · exact hlt
      · exact hright o' hmem
    -- it does not, and becomes the root
    · rename_i hge
      refine ⟨h, trivial, fun o' ho' => ?_, fun o' ho' => (Option.not_mem_none o' ho').elim⟩
      obtain rfl := Option.some.inj ho'
      exact not_lt.mp hge

/-- Nothing at the root that binds looser: the whole is the left operand. -/
theorem push_of_root {o : ω} {a : α} {t : OpTree ω α} (h : ∀ o' ∈ t.root, prec o ≤ prec o') :
    t.push prec o a = node o t (leaf a) := by
  cases t with
  | leaf b => rfl
  | node o₁ l r => exact if_neg (not_lt.mpr (h o₁ rfl))

/-! ### One tree only -/

/-- No operator of a grouped tree binds looser than its root. -/
theorem Grouped.lt_prec {p : P} {t : OpTree ω α} (h : t.Grouped prec)
    (hroot : ∀ o ∈ t.root, p < prec o) : ∀ x ∈ t.rest, p < prec x.1 := by
  induction t with
  | leaf a => exact fun x hx => (List.not_mem_nil hx).elim
  | node o l r ihl ihr =>
    obtain ⟨hl, hr, hleft, hright⟩ := h
    have ho : p < prec o := hroot o rfl
    intro x hx
    rcases List.mem_append.mp hx with hx | hx
    · exact ihl hl (fun o' ho' => lt_of_lt_of_le ho (hleft o' ho')) x hx
    · rcases List.mem_cons.mp hx with rfl | hx
      · exact ho
      · exact ihr hr (fun o' ho' => lt_trans ho (hright o' ho')) x hx

/-- What binds tighter than the root goes to the right operand. -/
theorem extend_node {o : ω} {l r : OpTree ω α} {row : List (ω × α)}
    (h : ∀ x ∈ row, prec o < prec x.1) :
    (node o l r).extend prec row = node o l (r.extend prec row) := by
  induction row generalizing r with
  | nil => rfl
  | cons x row ih =>
    rw [List.forall_mem_cons] at h
    rw [extend_cons, extend_cons, push, if_pos h.1, ih h.2]

/-- **A grouped tree is found from left to right.** -/
theorem Grouped.extend_eq {t : OpTree ω α} (h : t.Grouped prec) :
    (leaf t.first).extend prec t.rest = t := by
  induction t with
  | leaf a => rfl
  | node o l r ihl ihr =>
    obtain ⟨hl, hr, hleft, hright⟩ := h
    calc (leaf l.first).extend prec (l.rest ++ (o, r.first) :: r.rest)
      _ = (l.push prec o r.first).extend prec r.rest := by rw [extend_append, ihl hl, extend_cons]
      _ = (node o l (leaf r.first)).extend prec r.rest := by rw [push_of_root hleft]
      _ = node o l ((leaf r.first).extend prec r.rest) := extend_node (hr.lt_prec hright)
      _ = node o l r := by rw [ihr hr]

end

end OpTree
