import Mathlib.Data.List.TakeWhile
import ClSocket.Model.Op

/-!
# Programs that use the library

The state of a program (`Process`) is its socket objects, by the variables `V` that name them, the
process they run in, the calls made so far and what has been printed. A method is called on one of
the objects with `invoke`, which runs it as `call` does and adds what it did to the whole; `wp_invoke`
takes what is known of the method over to the program.

A program halts inside a method that does not return, and with a `fault` where it would itself go on
past the end of a block of memory. What a method has written where is not its concern.
-/

namespace ClSocket

open Prog Function

/-- Why a program does not go on. -/
inductive Halt where
  /-- A method does not return. -/
  | inCall (e : Stop)
  /-- It accesses memory outside of a block. -/
  | fault
  deriving DecidableEq, Repr

/-- The state of a program with variables `V` that prints items of type `O`. -/
structure Process (V O : Type) where
  var : V → CSimpleSocket
  os : Os
  trace : Trace
  printed : List O

/-- A program, or a part of one, with result `α`. -/
abbrev Program (V O α : Type) : Type := Prog (Process V O) Halt α

variable {V O α : Type} [DecidableEq V]

namespace Process

/-- After a method of the object `v` that ended in the state `t`. -/
def after (p : Process V O) (v : V) (t : State) : Process V O :=
  { p with var := update p.var v t.self, os := t.os, trace := p.trace ++ t.trace }

/-- After an assignment to the variable `v`. -/
def set (p : Process V O) (v : V) (o : CSimpleSocket) : Process V O := { p with var := update p.var v o }

section

variable (p : Process V O) (v : V) (t : State) (o : CSimpleSocket)

@[simp] theorem after_var_self : (p.after v t).var v = t.self := update_self ..
@[simp] theorem after_var_ne {w : V} (h : w ≠ v) : (p.after v t).var w = p.var w := update_of_ne h ..
@[simp] theorem after_os : (p.after v t).os = t.os := rfl
@[simp] theorem after_trace : (p.after v t).trace = p.trace ++ t.trace := rfl
@[simp] theorem after_printed : (p.after v t).printed = p.printed := rfl
@[simp] theorem set_var_self : (p.set v o).var v = o := update_self ..
@[simp] theorem set_var_ne {w : V} (h : w ≠ v) : (p.set v o).var w = p.var w := update_of_ne h ..
@[simp] theorem set_os : (p.set v o).os = p.os := rfl
@[simp] theorem set_trace : (p.set v o).trace = p.trace := rfl
@[simp] theorem set_printed : (p.set v o).printed = p.printed := rfl

end

end Process

/-! ### What programs are made of -/

/-- Call a method on the object `v`. -/
def invoke (v : V) (x : M α) : Program V O α := fun p =>
  match call x (p.var v) p.os with
  | .done a t => .done a (p.after v t)
  | .stop e t => .stop (.inCall e) (p.after v t)

omit [DecidableEq V] in
/-- The object `v`, to read its members. -/
def object (v : V) : Program V O CSimpleSocket := fun p => .done (p.var v) p

/-- Put an object into the variable `v`. -/
def assignObject (v : V) (o : CSimpleSocket) : Program V O Unit := modify fun p => p.set v o

/-- The constructor, on the storage of the variable `v`. -/
def declare (v : V) (nType : CSocketType) : Program V O Unit :=
  modify fun p => p.set v (.construct (p.var v) nType)

omit [DecidableEq V] in
/-- Print an item. -/
def print (item : O) : Program V O Unit := modify fun p => { p with printed := p.printed ++ [item] }

omit [DecidableEq V] in
/-- `memcpy` to the front of a block. -/
def memcpy (dest : Bytes) (src : Option Bytes) (n : ℕ) : Program V O Bytes := fun p =>
  match src with
  | some block =>
    if n ≤ block.length ∧ n ≤ dest.length then .done (block.take n ++ dest.drop n) p
    else .stop .fault p
  | none => .stop .fault p

omit [DecidableEq V] in
/-- The string at the front of a block. -/
def cString (block : Bytes) : Program V O Bytes := fun p =>
  if 0 ∈ block then .done (block.takeWhile (· ≠ 0)) p else .stop .fault p

/-- The string in a block that is filled up with zeros. -/
theorem takeWhile_filled (bs : Bytes) (k : ℕ) :
    (bs ++ List.replicate k 0).takeWhile (· ≠ 0) = bs.takeWhile (· ≠ 0) := by
  have hzeros : (List.replicate k (0 : UInt8)).takeWhile (· ≠ 0) = [] := by
    cases k <;> simp [List.replicate_succ]
  rw [List.takeWhile_append, hzeros, List.append_nil]
  split
  · rename_i hlen
    exact ((List.takeWhile_prefix _).eq_of_length hlen).symm
  · rfl

omit [DecidableEq V] in
/-- Why a run has halted, if it has. -/
def halted : Outcome (Process V O) Halt α → Option Halt
  | .done _ _ => none
  | .stop e _ => some e

/-- The conversion of an `int32` to `size_t`. -/
def toSizeT (n : Int) : ℕ := (n % 18446744073709551616).toNat

theorem toSizeT_natCast {n : ℕ} (h : InInt32 n) : toSizeT n = n := by
  have hlt := h.2
  unfold toSizeT
  omega

section

variable {B : Halt → Process V O → Prop} {p : Process V O}

@[simp] theorem wp_invoke {Q : α → Process V O → Prop} (v : V) (x : M α) :
    wp (invoke v x) Q B p ↔ wp x (fun a t => Q a (p.after v t))
      (fun e t => B (.inCall e) (p.after v t)) ⟨p.var v, p.os, []⟩ := by
  unfold wp invoke call
  cases x ⟨p.var v, p.os, []⟩ <;> exact Iff.rfl

/-- What a method makes of its object. -/
theorem wp_invoke_self {P : α → CSimpleSocket → Prop} {R : CSimpleSocket → Prop} {v : V} {x : M α}
    (h : wp x (fun a t => P a t.self) (fun _ t => R t.self) ⟨p.var v, p.os, []⟩) :
    wp (invoke v x) (fun a q => P a (q.var v)) (fun _ q => R (q.var v)) p := by
  rw [wp_invoke]
  refine wp_mono (fun a t h => ?_) (fun _ t h => ?_) h
  · rwa [Process.after_var_self]
  · rwa [Process.after_var_self]

/-- A method does not fault. -/
theorem wp_inCall {Q : α → Process V O → Prop} {v : V} {x : M α} (h : wp (invoke v x) Q B p) :
    wp (invoke v x) Q (fun e q => e ≠ .fault ∧ B e q) p := by
  rw [wp_invoke] at h ⊢
  exact wp_mono (fun _ _ h => h) (fun _ _ h => ⟨nofun, h⟩) h

omit [DecidableEq V] in
@[simp] theorem wp_object {Q : CSimpleSocket → Process V O → Prop} (v : V) :
    wp (object v) Q B p ↔ Q (p.var v) p := Iff.rfl

@[simp] theorem wp_assignObject {Q : Unit → Process V O → Prop} (v : V) (o : CSimpleSocket) :
    wp (assignObject v o) Q B p ↔ Q () (p.set v o) := Iff.rfl

@[simp] theorem wp_declare {Q : Unit → Process V O → Prop} (v : V) (nType : CSocketType) :
    wp (declare v nType) Q B p ↔ Q () (p.set v (.construct (p.var v) nType)) := Iff.rfl

omit [DecidableEq V] in
@[simp] theorem wp_print {Q : Unit → Process V O → Prop} (item : O) :
    wp (print item) Q B p ↔ Q () { p with printed := p.printed ++ [item] } := Iff.rfl

omit [DecidableEq V] in
@[simp] theorem wp_memcpy_none {Q : Bytes → Process V O → Prop} (dest : Bytes) (n : ℕ) :
    wp (memcpy dest none n) Q B p ↔ B .fault p := Iff.rfl

omit [DecidableEq V] in
@[simp] theorem wp_memcpy_some {Q : Bytes → Process V O → Prop} (dest block : Bytes) (n : ℕ) :
    wp (memcpy dest (some block) n) Q B p ↔
      (n ≤ block.length ∧ n ≤ dest.length → Q (block.take n ++ dest.drop n) p) ∧
      (¬ (n ≤ block.length ∧ n ≤ dest.length) → B .fault p) := by
  unfold wp memcpy
  by_cases h : n ≤ block.length ∧ n ≤ dest.length <;> simp [h]

omit [DecidableEq V] in
@[simp] theorem wp_cString {Q : Bytes → Process V O → Prop} (block : Bytes) :
    wp (cString block) Q B p ↔
      (0 ∈ block → Q (block.takeWhile (· ≠ 0)) p) ∧ (0 ∉ block → B .fault p) := by
  unfold wp cString
  by_cases h : 0 ∈ block <;> simp [h]

omit [DecidableEq V] in
theorem wp_halted {Q : α → Process V O → Prop} {x : Program V O α} {e : Halt} (h : wp x Q B p)
    (hx : halted (x p) = some e) : B e (x p).state := by
  unfold wp at h
  cases hrun : x p with
  | done a q =>
    rw [hrun] at hx
    cases hx
  | stop e' q =>
    rw [hrun] at h hx
    cases hx
    exact h

end

end ClSocket
