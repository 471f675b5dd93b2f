import ClSocket.Host.Bytes
import ClSocket.Host.Parsing

/-!
# `htonll` and `ntohll` of an expression

The macros are to give the value of their argument with its bytes in reverse, so that one undoes the
other (`Codec`). Their body has the argument twice: between the parentheses of a call, and with
`>> 32` behind it (`Reads.swapHalves`). There it is not in parentheses. An operator that binds looser
than the shift (`BinOp.Loose`) gives it the last operand only, and the operands in front of that are
narrowed to their lower half, where the upper one is wanted (`upperHalf`, `exists_shifted`).

So the macros are right about an argument when the lower halves of these operands would do as well as
the upper ones (`codec_iff`): always when there are none (`ReadAlike.of_root`), and otherwise by the
values of the variables. On a big-endian host the macros have their argument in parentheses, and are
never wrong (`value_bigEndian`).
-/

namespace ClSocket.Host

open OpTree

variable {vars : String → UInt64}

/-! ### What the macros are read as -/

/-- `((uint64)f(t) << 32) + f(u)`. -/
def swapExpr (f : HostFunction) (t u : Written) : Expr :=
  .binary .plus (.binary .shl (.cast (.call f (expr t))) (.const 32)) (.call f (expr u))

theorem Reads.paren {ts : List Token} {t : Written} (h : Reads ts t) :
    Reads (.lparen :: ts ++ [.rparen]) (.leaf (expr t)) :=
  ⟨.paren h.writes h.grouped, trivial⟩

theorem Reads.call {ts : List Token} {t : Written} (f : HostFunction) (h : Reads ts t) :
    Reads (.call f :: .lparen :: ts ++ [.rparen]) (.leaf (.call f (expr t))) :=
  ⟨.call f h.writes h.grouped, trivial⟩

/-- **The argument is read twice**: by itself, and with a shift behind it. -/
theorem Reads.swapHalves {ts : List Token} {t : Written} (f : HostFunction) (h : Reads ts t) :
    Reads ((swapHalves f).expand ts)
      (.leaf (swapExpr f t (t.push BinOp.prec .shr (.const 32)))) := by
  have hcast : Reads (.lparen :: .uint64 :: .rparen :: (.call f :: .lparen :: ts ++ [.rparen]))
      (.leaf (.cast (.call f (expr t)))) := ⟨.cast (h.call f).writes, trivial⟩
  have hhigh := (hcast.paren.push (o := .shl) (.const 32)).paren
  have hlow := (h.push (o := .shr) (.const 32)).call f
  have hsum := (hhigh.push (o := .plus) hlow.writes).paren
  convert hsum using 1
  · simp [Macro.expand, Host.swapHalves]
  · rfl

theorem Reads.identity {ts : List Token} {t : Written} (h : Reads ts t) :
    Reads (identity.expand ts) (.leaf (expr t)) := by
  convert h.paren using 1
  simp [Macro.expand, Host.identity]

/-- **On a big-endian host** the macros leave the value as it is, whatever the argument. -/
theorem value_bigEndian {ts : List Token} {t : Written} (h : Reads ts t) :
    value vars ((htonll true).expand ts) = value vars ts ∧
      value vars ((ntohll true).expand ts) = value vars ts := by
  have hidentity : value vars (identity.expand ts) = value vars ts := by
    rw [value, value, h.identity.parse_eq, h.parse_eq]
    rfl
  exact ⟨hidentity, hidentity⟩

/-! ### Values -/

theorem eval_binary {o : BinOp} {l r : Expr} {a b : Value} (hl : l.eval vars = some a)
    (hr : r.eval vars = some b) : (Expr.binary o l r).eval vars = o.apply a b := by
  rw [Expr.eval, hl, hr]
  rfl

/-- **What the macros compute** from the argument by itself, and from the argument with the shift. -/
theorem value_swapHalves {ts : List Token} {t : Written} {v w : UInt64} (f : HostFunction)
    (h : Reads ts t) (hv : (expr t).eval vars = some (.uint64 v))
    (hw : (expr (t.push BinOp.prec .shr (.const 32))).eval vars = some (.uint64 w)) :
    value vars ((swapHalves f).expand ts) = some (.uint64 (swapped (lower v) (lower w))) := by
  -- both functions reverse the bytes
  have hf : f.apply = ClSocket.htonl := by cases f <;> rfl
  rw [value, (h.swapHalves f).parse_eq, Option.bind_some]
  change (swapExpr f t _).eval vars = _
  simp only [swapExpr, Expr.eval, hv, hw, hf]
  rfl

/-- An argument that is one operand is reversed. -/
theorem value_swapHalves_leaf {ts : List Token} {e : Expr} {v : UInt64} (f : HostFunction)
    (h : Reads ts (.leaf e)) (hv : e.eval vars = some (.uint64 v)) :
    value vars ((swapHalves f).expand ts) = some (.uint64 (byteReversed v)) := by
  have hcount : (Expr.const 32).eval vars = some (.int 32) := rfl
  have hshift : (expr ((leaf e).push BinOp.prec .shr (.const 32))).eval vars =
      some (.uint64 (v >>> 32)) := eval_binary hv hcount
  rw [value_swapHalves f h hv hshift, ← swapped_halves]
  rfl

/-! ### A shift behind an expression -/

/-- Operators that bind looser than the shift. -/
def BinOp.Loose (o : BinOp) : Prop := o.prec < BinOp.shr.prec

instance (o : BinOp) : Decidable o.Loose := inferInstanceAs (Decidable (_ < _))

/-- They work on halves. -/
theorem apply_loose {o : BinOp} (ho : o.Loose) (a b : UInt64) :
    ∃ c, o.apply (.uint64 a) (.uint64 b) = some (.uint64 c) ∧
      o.apply (.uint32 (lower a)) (.uint32 (lower b)) = some (.uint32 (lower c)) ∧
      o.apply (.uint32 (upper a)) (.uint32 (upper b)) = some (.uint32 (upper c)) := by
  cases o with
  | amp =>
    refine ⟨a &&& b, rfl, ?_, ?_⟩
    · rw [lower, lower, lower, UInt64.toUInt32_and]
      rfl
    · rw [upper, upper, upper, UInt64.shiftRight_and, UInt64.toUInt32_and]
      rfl
  | caret =>
    refine ⟨a ^^^ b, rfl, ?_, ?_⟩
    · rw [lower, lower, lower, UInt64.toUInt32_xor]
      rfl
    · rw [upper, upper, upper, UInt64.shiftRight_xor, UInt64.toUInt32_xor]
      rfl
  | bar =>
    refine ⟨a ||| b, rfl, ?_, ?_⟩
    · rw [lower, lower, lower, UInt64.toUInt32_or]
      rfl
    · rw [upper, upper, upper, UInt64.shiftRight_or, UInt64.toUInt32_or]
      rfl
  -- no other operator works bit by bit
  | _ => exact absurd ho (by decide)

/-- The upper half of the value, with `half` of the operands that looser operators join in front of
the last one. For `o | x ^ a & s` it is `half o | half x ^ half a & upper s`. -/
def upperHalf (vars : String → UInt64) (half : UInt64 → UInt32) : Written → Option Value
  | .leaf e => (e.eval vars).map fun a => .uint32 (upper a.toUInt64)
  | .node o l r =>
    if o.Loose then do
      let a ← (expr l).eval vars
      let b ← upperHalf vars half r
      o.apply (.uint32 (half a.toUInt64)) b
    else ((expr (.node o l r)).eval vars).map fun a => .uint32 (upper a.toUInt64)

theorem upperHalf_loose {half : UInt64 → UInt32} {o : BinOp} {l r : Written} {a b : Value}
    (ho : o.Loose) (hl : (expr l).eval vars = some a) (hr : upperHalf vars half r = some b) :
    upperHalf vars half (.node o l r) = o.apply (.uint32 (half a.toUInt64)) b := by
  rw [upperHalf, if_pos ho, hl, hr]
  rfl

/-- Made of variables and operators. -/
def Expr.Plain : Expr → Prop
  | .var _ => True
  | .binary _ l r => l.Plain ∧ r.Plain
  | _ => False

/-- Words give a word. -/
theorem exists_of_apply {o : BinOp} {a b : UInt64} {c : Value}
    (h : o.apply (.uint64 a) (.uint64 b) = some c) : ∃ v, c = .uint64 v := by
  cases o with
  | shl =>
    obtain ⟨n, -, rfl⟩ := Option.map_eq_some_iff.mp h
    exact ⟨_, rfl⟩
  | shr =>
    obtain ⟨n, -, rfl⟩ := Option.map_eq_some_iff.mp h
    exact ⟨_, rfl⟩
  | _ => exact ⟨_, (Option.some.inj h).symm⟩

/-- The operands have values if the whole has one. -/
theorem eval_operands {o : BinOp} {l r : Expr} {c : Value}
    (h : (Expr.binary o l r).eval vars = some c) :
    ∃ a b, l.eval vars = some a ∧ r.eval vars = some b ∧ o.apply a b = some c := by
  obtain ⟨a, ha, h⟩ := Option.bind_eq_some_iff.mp h
  obtain ⟨b, hb, h⟩ := Option.bind_eq_some_iff.mp h
  exact ⟨a, b, ha, hb, h⟩

/-- The value of a plain expression is a word. -/
theorem Expr.Plain.exists_word {e : Expr} {a : Value} (h : e.Plain) (ha : e.eval vars = some a) :
    ∃ v, a = .uint64 v := by
  induction e generalizing a with
  | var name => exact ⟨vars name, (Option.some.inj ha).symm⟩
  | binary o l r ihl ihr =>
    obtain ⟨b, c, hb, hc, ha⟩ := eval_operands ha
    obtain ⟨v, rfl⟩ := ihl h.1 hb
    obtain ⟨w, rfl⟩ := ihr h.2 hc
    exact exists_of_apply ha
  | _ => exact h.elim

/-- What a shift by 32 written behind an expression makes of it. -/
structure Shifted (vars : String → UInt64) (t : Written) (v w : UInt64) : Prop where
  shifted : (expr (t.push BinOp.prec .shr (.const 32))).eval vars = some (.uint64 w)
  low : upperHalf vars lower t = some (.uint32 (lower w))
  high : upperHalf vars upper t = some (.uint32 (upper v))

/-- The whole is shifted. -/
theorem Shifted.of_push {t : Written} {v : UInt64} (hv : (expr t).eval vars = some (.uint64 v))
    (hpush : t.push BinOp.prec .shr (.const 32) = .node .shr t (.leaf (.const 32)))
    (hupper : ∀ half, upperHalf vars half t =
      ((expr t).eval vars).map fun a => .uint32 (upper a.toUInt64)) :
    Shifted vars t v (v >>> 32) where
  shifted := by
    have hcount : (Expr.const 32).eval vars = some (.int 32) := rfl
    rw [hpush]
    exact eval_binary hv hcount
  low := by
    rw [hupper, hv]
    rfl
  high := by
    rw [hupper, hv]
    rfl

/-- **The shift reaches the last operand only**, so that those in front of it that an operator looser
than the shift joins give their lower half. -/
theorem exists_shifted {t : Written} {v : UInt64} (h : (expr t).Plain)
    (hv : (expr t).eval vars = some (.uint64 v)) : ∃ w, Shifted vars t v w := by
  induction t generalizing v with
  | leaf e => exact ⟨_, .of_push hv rfl fun _ => rfl⟩
  | node o l r _ ihr =>
    by_cases ho : o.Loose
    -- a looser operator keeps its left operand, and the shift goes into the right one
    · obtain ⟨a, b, ha, hb, hab⟩ := eval_operands hv
      obtain ⟨x, rfl⟩ := Expr.Plain.exists_word h.1 ha
      obtain ⟨y, rfl⟩ := Expr.Plain.exists_word h.2 hb
      obtain ⟨w, hshifted, hlow, hhigh⟩ := ihr h.2 hb
      obtain ⟨c, hc, hclow, -⟩ := apply_loose ho x w
      obtain ⟨c', hc', -, hchigh⟩ := apply_loose ho x y
      obtain rfl : c' = v := by simpa using hc'.symm.trans hab
      refine ⟨c, ?_, ?_, ?_⟩
      · have hpush : (node o l r).push BinOp.prec .shr (.const 32) =
            .node o l (r.push BinOp.prec .shr (.const 32)) := if_pos ho
        rw [hpush]
        exact (eval_binary ha hshifted).trans hc
      · exact (upperHalf_loose ho ha hlow).trans hclow
      · exact (upperHalf_loose ho ha hhigh).trans hchigh
    -- one that binds as tight as the shift, or tighter, is its operand as a whole
    · exact ⟨_, .of_push hv (if_neg ho) fun _ => if_neg ho⟩

/-- No value, no upper half. -/
theorem upperHalf_eq_none {half : UInt64 → UInt32} {t : Written} (h : (expr t).Plain)
    (hnone : (expr t).eval vars = none) : upperHalf vars half t = none := by
  induction t with
  | leaf e => exact congrArg (Option.map _) hnone
  | node o l r _ ihr =>
    by_cases ho : o.Loose
    · rw [upperHalf, if_pos ho]
      cases hl : (expr l).eval vars with
      | none => rfl
      | some a =>
        cases hr : (expr r).eval vars with
        | none => rw [ihr h.2 hr]; rfl
        | some b =>
          -- looser operators always give a value
          obtain ⟨x, rfl⟩ := Expr.Plain.exists_word h.1 hl
          obtain ⟨y, rfl⟩ := Expr.Plain.exists_word h.2 hr
          obtain ⟨c, hc, -⟩ := apply_loose ho x y
          have hsome := (eval_binary hl hr).trans hc
          cases hnone.symm.trans hsome
    · rw [upperHalf, if_neg ho, hnone]
      rfl

/-! ### Arguments -/

/-- A variable, a binary operator or a parenthesis. -/
def Token.isPlain : Token → Bool
  | .ident _ | .op _ | .lparen | .rparen => true
  | _ => false

/-- An argument of the macros: an expression made of variables of the type `uint64`, binary operators
and parentheses. -/
structure Argument where
  text : List Token
  isExpr : (parse text).isSome
  plain : text.all Token.isPlain

/-- What is written. -/
def Argument.tree (e : Argument) : Written := (parse e.text).get e.isExpr

theorem Argument.reads (e : Argument) : Reads e.text e.tree :=
  parse_iff.mp (Option.some_get e.isExpr).symm

theorem Writes.plain {ts : List Token} {t : Written} (h : Writes ts t)
    (hplain : ts.all Token.isPlain) : (expr t).Plain := by
  induction h with
  | ident name => trivial
  | const n => cases hplain
  | paren _ _ ih =>
    rw [List.cons_append, List.all_cons, List.all_append] at hplain
    simp only [Bool.and_eq_true] at hplain
    exact ih hplain.2.1
  | cast _ _ => cases hplain
  | call f _ _ _ => cases hplain
  | node o _ _ ihl ihr =>
    rw [List.all_append, List.all_cons] at hplain
    simp only [Bool.and_eq_true] at hplain
    exact ⟨ihl hplain.1, ihr hplain.2.2⟩

theorem Argument.tree_plain (e : Argument) : (expr e.tree).Plain := e.reads.writes.plain e.plain

/-! ### A codec -/

/-- **The macros are a codec for `e`**, on a little-endian host: each gives the value of `e` with its
bytes in reverse, and one undoes the other. -/
structure Codec (vars : String → UInt64) (e : Argument) : Prop where
  hton : ∀ v, value vars e.text = some (.uint64 v) →
    value vars ((htonll false).expand e.text) = some (.uint64 (byteReversed v))
  ntoh : ∀ v, value vars e.text = some (.uint64 v) →
    value vars ((ntohll false).expand e.text) = some (.uint64 (byteReversed v))
  roundTrip : ∀ v, value vars e.text = some (.uint64 v) →
    value vars ((ntohll false).expand ((htonll false).expand e.text)) = some (.uint64 v)

/-- The operands in front of the last one may as well give their lower half. -/
def ReadAlike (vars : String → UInt64) (t : Written) : Prop :=
  upperHalf vars lower t = upperHalf vars upper t

theorem value_eq (e : Argument) : value vars e.text = (expr e.tree).eval vars := by
  rw [value, e.reads.parse_eq, Option.bind_some]

/-- An argument with a value. -/
theorem codec_iff_of_shifted {e : Argument} {v w : UInt64}
    (hval : (expr e.tree).eval vars = some (.uint64 v)) (hw : Shifted vars e.tree v w) :
    Codec vars e ↔ lower w = upper v := by
  have hvalue : value vars e.text = some (.uint64 v) := (value_eq e).trans hval
  -- the body takes the lower half of the argument and of what the shift makes of its text
  have hbody : ∀ f, value vars ((swapHalves f).expand e.text) =
      some (.uint64 (swapped (lower v) (lower w))) :=
    fun f => value_swapHalves f e.reads hval hw.shifted
  constructor
  · intro h
    -- that the value is reversed puts the upper half where the shift's is
    have hrev := (hbody .htonl).symm.trans (h.hton v hvalue)
    rw [← swapped_halves] at hrev
    exact swapped_inj.mp (by simpa using hrev)
  · intro h
    have hgood : ∀ f, value vars ((swapHalves f).expand e.text) =
        some (.uint64 (byteReversed v)) := by
      intro f
      rw [hbody f, h, swapped_halves]
    have honly : ∀ x, value vars e.text = some (.uint64 x) → x = v := by
      intro x hx
      simpa using hx.symm.trans hvalue
    refine ⟨fun x hx => ?_, fun x hx => ?_, fun x hx => ?_⟩
    · rw [honly x hx]
      exact hgood .htonl
    · rw [honly x hx]
      exact hgood .ntohl
    · -- the body is in parentheses, so that it is read as one operand
      have hreads := e.reads.swapHalves .htonl
      have hinner := hgood .htonl
      rw [value, hreads.parse_eq] at hinner
      rw [honly x hx, ← byteReversed_byteReversed v]
      exact value_swapHalves_leaf .ntohl hreads hinner

/-- **The exact condition.** -/
theorem codec_iff (e : Argument) (vars : String → UInt64) : Codec vars e ↔ ReadAlike vars e.tree := by
  cases hval : (expr e.tree).eval vars with
  | none =>
    -- nothing is promised
    have hnone : ∀ v, value vars e.text ≠ some (.uint64 v) := by
      intro v
      rw [value_eq, hval]
      exact (Option.some_ne_none _).symm
    refine iff_of_true ⟨fun v h => absurd h (hnone v), fun v h => absurd h (hnone v),
      fun v h => absurd h (hnone v)⟩ ?_
    rw [ReadAlike, upperHalf_eq_none e.tree_plain hval, upperHalf_eq_none e.tree_plain hval]
  | some a =>
    obtain ⟨v, rfl⟩ := e.tree_plain.exists_word hval
    obtain ⟨w, hw⟩ := exists_shifted e.tree_plain hval
    rw [codec_iff_of_shifted hval hw, ReadAlike, hw.low, hw.high]
    exact ⟨fun h => by rw [h], fun h => by simpa using h⟩

/-- An argument with no operator looser than the shift outside its parentheses. -/
theorem ReadAlike.of_root {t : Written} (h : ∀ o ∈ t.root, ¬ o.Loose) : ReadAlike vars t := by
  cases t with
  | leaf e => rfl
  | node o l r =>
    have ho : ¬ o.Loose := h o rfl
    rw [ReadAlike, upperHalf, upperHalf, if_neg ho, if_neg ho]

/-- `a - b`. -/
def difference : Argument := ⟨[.ident "a", .op .minus, .ident "b"], rfl, rfl⟩

/-- `a | b`. -/
def bitOr : Argument := ⟨[.ident "a", .op .bar, .ident "b"], rfl, rfl⟩

/-- The macros are a codec for a difference. -/
theorem codec_difference :
    value (fun name => if name = "a" then 9 else 1) difference.text = some (.uint64 8) ∧
      Codec (fun name => if name = "a" then 9 else 1) difference :=
  ⟨rfl, (codec_iff difference _).mpr (.of_root (by decide))⟩

/-- `htonll(a | b)` with 1 and 0 for `a` and `b` has its only bit twice. -/
theorem not_codec_bitOr :
    value (fun name => if name = "a" then 1 else 0) ((htonll false).expand bitOr.text) =
        some (.uint64 0x0100000001000000) ∧
      ¬ Codec (fun name => if name = "a" then 1 else 0) bitOr := by
  have hvalue : value (fun name => if name = "a" then 1 else 0)
      ((htonll false).expand bitOr.text) = some (.uint64 0x0100000001000000) := by rfl
  refine ⟨hvalue, fun h => ?_⟩
  have hrev := h.hton 1 (by rfl)
  rw [hvalue] at hrev
  revert hrev
  decide

end ClSocket.Host
