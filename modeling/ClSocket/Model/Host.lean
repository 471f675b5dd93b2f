import ClSocket.Framework.Precedence
import ClSocket.Model.Types

/-!
# The byte-order macros of `Host.h`

`htonll` and `ntohll` are macros. Their argument is put into the body as it is written
(`Macro.expand`), and what comes of that is read by the precedence of C (`parse`) and evaluated by
its rules of arithmetic (`Expr.eval`), in which what C leaves undefined has no value.

The tokens are those the two bodies are made of, and the operators on integers that bind looser or
tighter than the shift in them. Every variable is of the type `uint64`.
-/

namespace ClSocket.Host

/-! ### Tokens -/

/-- The binary operators on integers, without multiplication and comparison. -/
inductive BinOp where
  | plus | minus | amp | caret | bar | shl | shr
  deriving DecidableEq

/-- Their precedence; the larger number binds tighter. -/
def BinOp.prec : BinOp → ℕ
  | .plus | .minus => 5
  | .shl | .shr => 4
  | .amp => 3
  | .caret => 2
  | .bar => 1

/-- The functions the macros call. -/
inductive HostFunction where
  | htonl | ntohl
  deriving DecidableEq

inductive Token where
  | ident (name : String)
  /-- A constant of the type `int`. -/
  | const (n : Int32)
  | op (o : BinOp)
  | lparen
  | rparen
  /-- The name of the type `uint64`. -/
  | uint64
  | call (f : HostFunction)
  deriving DecidableEq

/-! ### Macros -/

/-- A macro of one parameter. -/
structure Macro where
  param : String
  body : List Token

/-- The body with the argument in place of the parameter. -/
def Macro.expand (m : Macro) (arg : List Token) : List Token :=
  m.body.flatMap fun tok => if tok = .ident m.param then arg else [tok]

/-- `(x)`. -/
def identity : Macro := ⟨"x", [.lparen, .ident "x", .rparen]⟩

/-- `((((uint64)f(x)) << 32) + f(x >> 32))`. -/
def swapHalves (f : HostFunction) : Macro :=
  ⟨"x", [.lparen, .lparen, .lparen, .lparen, .uint64, .rparen, .call f, .lparen, .ident "x",
    .rparen, .rparen, .op .shl, .const 32, .rparen, .op .plus, .call f, .lparen, .ident "x", .op .shr,
    .const 32, .rparen, .rparen]⟩

/-- `htonll`, by whether `_BIG_ENDIAN` is defined. -/
def htonll (bigEndian : Bool) : Macro := if bigEndian then identity else swapHalves .htonl

/-- `ntohll`. -/
def ntohll (bigEndian : Bool) : Macro := if bigEndian then identity else swapHalves .ntohl

/-! ### Expressions -/

inductive Expr where
  | var (name : String)
  | const (n : Int32)
  | binary (o : BinOp) (l r : Expr)
  | cast (e : Expr)
  | call (f : HostFunction) (e : Expr)
  deriving DecidableEq

/-- An expression as it is written, with its operands read. -/
abbrev Written : Type := OpTree BinOp Expr

/-- The expression it stands for. -/
def expr (t : Written) : Expr := t.fold id .binary

/-- What is still open at the place that has been read to. -/
inductive Unfinished where
  /-- An operator, with what is written before it. -/
  | after (t : Written) (o : BinOp)
  /-- A cast to `uint64`. -/
  | cast
  | paren
  /-- The parenthesis of a call. -/
  | call (f : HostFunction)

inductive ParseState where
  /-- An operand is to come. -/
  | needs (stack : List Unfinished)
  /-- A parenthesis and the name of a type have been read. -/
  | typed (stack : List Unfinished)
  /-- The name of a function has been read. -/
  | named (f : HostFunction) (stack : List Unfinished)
  /-- An operand has been read. -/
  | has (stack : List Unfinished) (t : Written)

/-- An operand is given to what waits for it. -/
def give : List Unfinished → Expr → ParseState
  | .after t o :: stack, e => .has stack (t.push BinOp.prec o e)
  | .cast :: stack, e => give stack (.cast e)
  | stack, e => .has stack (.leaf e)

/-- One token more. -/
def parseStep : ParseState → Token → Option ParseState
  | .needs stack, .ident name => some (give stack (.var name))
  | .needs stack, .const n => some (give stack (.const n))
  | .needs stack, .lparen => some (.needs (.paren :: stack))
  | .needs (.paren :: stack), .uint64 => some (.typed stack)
  | .needs stack, .call f => some (.named f stack)
  | .typed stack, .rparen => some (.needs (.cast :: stack))
  | .named f stack, .lparen => some (.needs (.call f :: stack))
  | .has stack t, .op o => some (.needs (.after t o :: stack))
  | .has (.paren :: stack) t, .rparen => some (give stack (expr t))
  | .has (.call f :: stack) t, .rparen => some (give stack (.call f (expr t)))
  | _, _ => none

/-- Token by token. -/
def ParseState.run (st : ParseState) (toks : List Token) : Option ParseState :=
  toks.foldlM parseStep st

/-- The expression that is written, if the tokens are one. -/
def parse (toks : List Token) : Option Written :=
  match (ParseState.needs []).run toks with
  | some (.has [] t) => some t
  | _ => none

/-! ### Values -/

/-- A number with its type. -/
inductive Value where
  | int (n : Int32)
  | uint32 (n : UInt32)
  | uint64 (n : UInt64)
  deriving DecidableEq

namespace Value

/-- The conversion to `uint32`. -/
def toUInt32 : Value → UInt32
  | int n => n.toUInt32
  | uint32 n => n
  | uint64 n => n.toUInt32

/-- The conversion to `uint64`. -/
def toUInt64 : Value → UInt64
  | int n => n.toInt64.toUInt64
  | uint32 n => n.toUInt64
  | uint64 n => n

def toInt : Value → Int
  | int n => n.toInt
  | uint32 n => n.toNat
  | uint64 n => n.toNat

/-- An `int`, as long as it does not overflow. -/
def signed (n : Int) : Option Value := if InInt32 n then some (int (Int32.ofInt n)) else none

/-- An operator on numbers of one type, after the usual conversions. -/
def arith (ofInt : Int32 → Int32 → Option Value) (op32 : UInt32 → UInt32 → UInt32)
    (op64 : UInt64 → UInt64 → UInt64) : Value → Value → Option Value
  | int a, int b => ofInt a b
  | uint64 a, b => some (uint64 (op64 a b.toUInt64))
  | a, uint64 b => some (uint64 (op64 a.toUInt64 b))
  | a, b => some (uint32 (op32 a.toUInt32 b.toUInt32))

/-- The count of a shift, which is less than the width. -/
def count (width : ℕ) (b : Value) : Option ℕ :=
  if 0 ≤ b.toInt ∧ b.toInt < width then some b.toInt.toNat else none

/-- `a << b`, in the type of `a`. -/
def shiftLeft : Value → Value → Option Value
  | int a, b => (b.count 32).bind fun n => if 0 ≤ a.toInt then signed (a.toInt * 2 ^ n) else none
  | uint32 a, b => (b.count 32).map fun n => uint32 (a <<< UInt32.ofNat n)
  | uint64 a, b => (b.count 64).map fun n => uint64 (a <<< UInt64.ofNat n)

/-- `a >> b`. -/
def shiftRight : Value → Value → Option Value
  | int a, b => (b.count 32).map fun n => int (a >>> Int32.ofNat n)
  | uint32 a, b => (b.count 32).map fun n => uint32 (a >>> UInt32.ofNat n)
  | uint64 a, b => (b.count 64).map fun n => uint64 (a >>> UInt64.ofNat n)

end Value

/-- An operator on two values. -/
def BinOp.apply : BinOp → Value → Value → Option Value
  | .plus => Value.arith (fun a b => Value.signed (a.toInt + b.toInt)) (· + ·) (· + ·)
  | .minus => Value.arith (fun a b => Value.signed (a.toInt - b.toInt)) (· - ·) (· - ·)
  | .amp => Value.arith (fun a b => some (.int (a &&& b))) (· &&& ·) (· &&& ·)
  | .caret => Value.arith (fun a b => some (.int (a ^^^ b))) (· ^^^ ·) (· ^^^ ·)
  | .bar => Value.arith (fun a b => some (.int (a ||| b))) (· ||| ·) (· ||| ·)
  | .shl => Value.shiftLeft
  | .shr => Value.shiftRight

/-- The functions on a little-endian host, where both reverse the four bytes. -/
def HostFunction.apply : HostFunction → UInt32 → UInt32
  | .htonl | .ntohl => ClSocket.htonl

/-- The value of an expression with these values of the variables. -/
def Expr.eval (vars : String → UInt64) : Expr → Option Value
  | .var name => some (.uint64 (vars name))
  | .const n => some (.int n)
  | .binary o l r => do
    let a ← l.eval vars
    let b ← r.eval vars
    o.apply a b
  | .cast e => (e.eval vars).map fun a => .uint64 a.toUInt64
  | .call f e => (e.eval vars).map fun a => .uint32 (f.apply a.toUInt32)

/-- The value of what is written. -/
def value (vars : String → UInt64) (toks : List Token) : Option Value :=
  (parse toks).bind fun t => (expr t).eval vars

end ClSocket.Host
