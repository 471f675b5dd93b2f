import ClSocket.Framework.Transition
import ClSocket.Descriptor.Reachable

/-!
# Settings that are kept twice

Six setters keep a member of the object beside a setting of the kernel's (`CSimpleSocket.cached`). A
setter that fails is to leave the member alone, so that over a run each member has the value of the
last setter that succeeded (`LastSet`).

`SetBlocking` and `SetNonblocking` write the member once their calls have succeeded. The others write
it first and call then (`Setter.writesFirst`), and do not take it back. So a run is as it should be
exactly when every such call that fails was made with the value that was there already
(`cached_iff`).
-/

namespace ClSocket

open Prog CSimpleSocket

/-- The members that are kept beside the settings of a descriptor. -/
structure Cached where
  isMulticast : Bool
  recvTimeout : Timeval
  sendTimeout : Timeval
  linger : Linger
  isBlocking : Bool
  deriving DecidableEq

/-- Those of an object. -/
def CSimpleSocket.cached (o : CSimpleSocket) : Cached :=
  ⟨o.m_bIsMulticast, o.m_stRecvTimeout, o.m_stSendTimeout, o.m_stLinger, o.m_bIsBlocking⟩

/-- The setters, with their arguments. -/
inductive Setter where
  | setMulticast (bEnable : Bool) (multicastTTL : UInt8)
  | setReceiveTimeout (nRecvTimeoutSec nRecvTimeoutUsec : Int)
  | setSendTimeout (nSendTimeoutSec nSendTimeoutUsec : Int)
  | setOptionLinger (bEnable : Bool) (nTime : UInt16)
  | setBlocking
  | setNonblocking

namespace Setter

/-- The method of a setter. -/
def run : Setter → M Bool
  | .setMulticast bEnable multicastTTL => CSimpleSocket.setMulticast bEnable multicastTTL
  | .setReceiveTimeout sec usec => CSimpleSocket.setReceiveTimeout sec usec
  | .setSendTimeout sec usec => CSimpleSocket.setSendTimeout sec usec
  | .setOptionLinger bEnable nTime => CSimpleSocket.setOptionLinger bEnable nTime
  | .setBlocking => CSimpleSocket.setBlocking
  | .setNonblocking => CSimpleSocket.setNonblocking

/-- The members as a setter is to leave them. -/
def apply (c : Cached) : Setter → Cached
  | .setMulticast bEnable _ => { c with isMulticast := bEnable }
  | .setReceiveTimeout sec usec => { c with recvTimeout := ⟨sec, usec⟩ }
  | .setSendTimeout sec usec => { c with sendTimeout := ⟨sec, usec⟩ }
  | .setOptionLinger bEnable nTime => { c with linger := ⟨if bEnable then 1 else 0, nTime.toNat⟩ }
  | .setBlocking => { c with isBlocking := true }
  | .setNonblocking => { c with isBlocking := false }

/-- It writes the member before it makes its call. `SetMulticast` gives up on another type than UDP
before either. -/
def writesFirst (o : CSimpleSocket) : Setter → Bool
  | .setMulticast _ _ => o.m_nSocketType == .socketTypeUdp
  | .setReceiveTimeout _ _ | .setSendTimeout _ _ | .setOptionLinger _ _ => true
  | .setBlocking | .setNonblocking => false

end Setter

/-! ### Runs -/

/-- A call of a setter, the answers it meets and what it returns. -/
structure Setting where
  setter : Setter
  os : Os
  bRetVal : Bool

/-- The object goes through a call of a setter. -/
inductive SetStep : CSimpleSocket → Setting → CSimpleSocket → Prop where
  | called {o : CSimpleSocket} {setter : Setter} {os : Os} {bRetVal : Bool} {t : State}
      (hrun : call setter.run o os = .done bRetVal t) : SetStep o ⟨setter, os, bRetVal⟩ t.self

/-- The members as the last setters that succeeded are to have left them. -/
def Setting.last (c : Cached) (x : Setting) : Cached :=
  if x.bRetVal = true then x.setter.apply c else c

/-- In every state of the run each member has the value of its last setter that succeeded. -/
def LastSet : Cached → List (Taken CSimpleSocket Setting) → Prop
  | _, [] => True
  | c, x :: steps => x.post.cached = x.label.last c ∧ LastSet (x.label.last c) steps

/-- A step that fails leaves the members alone. -/
def LeavesAlone (o : CSimpleSocket) (x : Setting) (o' : CSimpleSocket) : Prop :=
  x.bRetVal = false → o'.cached = o.cached

/-- The member is not written before the call, or the call does not fail, or the value is there
already. -/
def Setting.Harmless (o : CSimpleSocket) (x : Setting) : Prop :=
  x.setter.writesFirst o = true → headFails x.os.script.setsockopt = true →
    x.setter.apply o.cached = o.cached

/-! ### One call -/

section

variable {o : CSimpleSocket} {os : Os} {s : State}

/-- **What a setter leaves**: the new value if it succeeds, and the new value all the same if it
fails and writes first. -/
structure SetBy (setter : Setter) (s : State) (r : Bool) (t : State) : Prop where
  written : r = true ∨ setter.writesFirst s.self = true →
    t.self.cached = setter.apply s.self.cached
  left : r = false → setter.writesFirst s.self = false → t.self.cached = s.self.cached
  result : setter.writesFirst s.self = true → r = !headFails s.os.script.setsockopt

/-- A setter that has written the member, and returns what its call tells. -/
theorem SetBy.of_written {setter : Setter} {r : Bool} {t : State}
    (hfirst : setter.writesFirst s.self = true) (hr : r = !headFails s.os.script.setsockopt)
    (hcached : t.self.cached = setter.apply s.self.cached) : SetBy setter s r t where
  written _ := hcached
  left _ hno := by
    rw [hfirst] at hno
    cases hno
  result _ := hr

/-- A setter that writes the member at last. -/
theorem SetBy.of_late {setter : Setter} {r : Bool} {t : State}
    (hlate : setter.writesFirst s.self = false)
    (hcached : t.self.cached = if r = true then setter.apply s.self.cached else s.self.cached) :
    SetBy setter s r t where
  written h := by
    rw [hcached, if_pos (h.resolve_right (by rw [hlate]; decide))]
  left hr _ := by
    rw [hcached, hr]
    rfl
  result h := by
    rw [hlate] at h
    cases h

/-- One option call, whose answer decides the result, and nothing else is written. -/
theorem wp_optionCall {level name : Int} {value : OptVal} {f : Answer Unit → M Bool}
    (hf : ∀ res t, wp (f res) (fun r u => (r = true ↔ res = .ok ()) ∧ u.self.cached = t.self.cached)
      (fun _ _ => True) t) (s : State) :
    wp (do let res ← sysSetsockopt s.self.m_socket level name value; f res)
      (fun r t => r = !headFails s.os.script.setsockopt ∧ t.self.cached = s.self.cached)
      (fun _ _ => True) s := by
  rw [wp_bind, sysSetsockopt, wp_issue_iff]
  refine ⟨fun _ => trivial, fun res rest hq => ?_⟩
  refine wp_mono (fun r t h => ⟨?_, h.2⟩) (fun _ _ h => h) (hf res _)
  have hres : (res = .ok ()) ↔ headFails s.os.script.setsockopt = false := by
    rw [hq]
    cases res <;> simp
  rw [Bool.eq_iff_iff, h.1, hres, Bool.not_eq_true']

theorem wp_setTimeoutOption (name : Int) (value : Timeval) (s : State) :
    wp (setTimeoutOption name value) (fun r t => r = !headFails s.os.script.setsockopt ∧
      t.self.cached = s.self.cached) (fun _ _ => True) s := by
  rw [setTimeoutOption, wp_bind, wp_this]
  refine wp_optionCall (fun res t => ?_) s
  cases res with
  | ok u => exact ⟨by simp, rfl⟩
  | fail e => exact ⟨by simp, rfl⟩

theorem wp_setOption (level name : Int) (value : OptVal) (s : State) :
    wp (setOption level name value) (fun r t => r = !headFails s.os.script.setsockopt ∧
      t.self.cached = s.self.cached) (fun _ _ => True) s := by
  rw [setOption, wp_bind, wp_this]
  refine wp_optionCall (fun res t => ?_) s
  exact ⟨decide_eq_true_iff, rfl⟩

theorem wp_setFlags_cached (change : UInt32 → UInt32) (blocking : Bool) (s : State) :
    wp (setFlags change blocking) (fun r t => t.self.cached =
      if r = true then { s.self.cached with isBlocking := blocking } else s.self.cached)
      (fun _ _ => True) s := by
  rw [setFlags, wp_bind, wp_this, wp_bind, sysGetfl, wp_issue_iff]
  refine ⟨fun _ => trivial, fun flags rest _ => ?_⟩
  cases flags with
  | fail e => exact rfl
  | ok nCurFlags =>
    rw [wp_bind, sysSetfl, wp_issue_iff]
    refine ⟨fun _ => trivial, fun res rest' _ => ?_⟩
    cases res with
    | fail e => exact rfl
    | ok u => exact rfl

/-- **Each setter.** -/
theorem wp_setter (setter : Setter) (s : State) :
    wp setter.run (SetBy setter s) (fun _ _ => True) s := by
  cases setter with
  | setMulticast bEnable multicastTTL =>
    simp only [Setter.run, CSimpleSocket.setMulticast, wp_bind, wp_this, wp_ite, wp_assign,
      sysSetsockopt, wp_setSocketError, wp_pure]
    refine ⟨fun hudp => ?_, fun hudp => ?_⟩
    · have hfirst : (Setter.setMulticast bEnable multicastTTL).writesFirst s.self = true :=
        beq_iff_eq.mpr hudp
      rw [wp_issue_iff]
      refine ⟨fun _ => trivial, fun res rest hq => ?_⟩
      have hr : ∀ {r : Bool}, r = !headFails (res :: rest) → r = !headFails s.os.script.setsockopt :=
        fun h => h.trans (congrArg (fun q => !headFails q) hq.symm)
      cases res with
      | ok u => exact .of_written hfirst (hr rfl) rfl
      | fail e => exact .of_written hfirst (hr rfl) rfl
    -- on another type than UDP it fails without writing
    · exact .of_late (beq_eq_false_iff_ne.mpr hudp) rfl
  -- these three write the member and then set the option
  | setReceiveTimeout sec usec =>
    simp only [Setter.run, CSimpleSocket.setReceiveTimeout, wp_bind, wp_assign]
    exact wp_mono (fun r t h => .of_written rfl h.1 h.2) (fun _ _ h => h) (wp_setTimeoutOption _ _ _)
  | setSendTimeout sec usec =>
    simp only [Setter.run, CSimpleSocket.setSendTimeout, wp_bind, wp_assign]
    exact wp_mono (fun r t h => .of_written rfl h.1 h.2) (fun _ _ h => h) (wp_setTimeoutOption _ _ _)
  | setOptionLinger bEnable nTime =>
    simp only [Setter.run, CSimpleSocket.setOptionLinger, wp_bind, wp_assign]
    exact wp_mono (fun r t h => .of_written rfl h.1 h.2) (fun _ _ h => h) (wp_setOption _ _ _ _)
  -- these two write it once the flags are set
  | setBlocking =>
    exact wp_mono (fun r t h => .of_late rfl h) (fun _ _ h => h) (wp_setFlags_cached _ _ s)
  | setNonblocking =>
    exact wp_mono (fun r t h => .of_late rfl h) (fun _ _ h => h) (wp_setFlags_cached _ _ s)

end

/-! ### Over a run -/

section

variable {o o' : CSimpleSocket} {x : Setting}

/-- A call that succeeds leaves the new value. -/
theorem SetStep.cached_of_true (h : SetStep o x o') (hr : x.bRetVal = true) :
    o'.cached = x.setter.apply o.cached := by
  cases h with
  | called hrun => exact (wp_call (wp_setter _ _) hrun).written (Or.inl hr)

/-- **One that fails leaves the members alone** exactly when it is harmless. -/
theorem SetStep.leavesAlone_iff (h : SetStep o x o') : LeavesAlone o x o' ↔ x.Harmless o := by
  cases h with
  | @called setter os r t hrun =>
    obtain ⟨hwritten, hleft, hresult⟩ := wp_call (wp_setter _ _) hrun
    cases hfirst : setter.writesFirst o with
    | false =>
      refine iff_of_true (fun hr => hleft hr hfirst) fun hno => ?_
      rw [hfirst] at hno
      cases hno
    | true =>
      have hr := hresult hfirst
      have hcached := hwritten (Or.inr hfirst)
      simp only [LeavesAlone, Setting.Harmless, hr, hcached, hfirst, Bool.not_eq_false',
        forall_true_left]

/-- When no failure changes them, the members are those of the last successes. -/
theorem lastSet_of_leavesAlone {steps : List (Taken CSimpleSocket Setting)}
    (h : Run SetStep o steps o') (hgood : ∀ x ∈ steps, LeavesAlone x.pre x.label x.post) :
    LastSet o.cached steps := by
  induction h with
  | nil o => trivial
  | @cons o o₁ o' x steps hstep _ ih =>
    rw [List.forall_mem_cons] at hgood
    have hcached : o₁.cached = x.last o.cached := by
      by_cases hr : x.bRetVal = true
      · rw [Setting.last, if_pos hr, hstep.cached_of_true hr]
      · rw [Setting.last, if_neg hr, hgood.1 (Bool.not_eq_true _ ▸ hr)]
    refine ⟨hcached, ?_⟩
    rw [← hcached]
    exact ih hgood.2

/-- **The exact condition**, over every run of the setters. -/
theorem cached_iff {steps : List (Taken CSimpleSocket Setting)} (h : Run SetStep o steps o') :
    (∀ x ∈ steps, LeavesAlone x.pre x.label x.post) ∧ LastSet o.cached steps ↔
      ∀ x ∈ steps, x.label.Harmless x.pre := by
  have hiff := Run.forall_iff (fun _ => True) LeavesAlone (fun o x _ => x.Harmless o)
    (fun _ _ _ hstep _ => hstep.leavesAlone_iff) (fun _ _ _ _ _ _ => trivial) h trivial
  rw [← hiff]
  exact ⟨fun hboth => hboth.1, fun hgood => ⟨hgood, lastSet_of_leavesAlone h hgood⟩⟩

end

/-- The first option call succeeds, and the next one fails. -/
def willingOnce : Os := .idle { setsockopt := [.ok ()] }

def unwilling : Os := .idle { setsockopt := [.fail ⟨ENOTSOCK, by decide⟩] }

/-- `SetReceiveTimeout` with these answers, as a step. -/
def timing (o : CSimpleSocket) (sec : Int) (os : Os) : Taken CSimpleSocket Setting :=
  ⟨o, ⟨.setReceiveTimeout sec 0, os, !headFails os.script.setsockopt⟩,
    (call (Setter.setReceiveTimeout sec 0).run o os).state.self⟩

/-- Five seconds are set, and cannot be set again. -/
theorem cached_iff_again : ∃ steps o', Run SetStep Reachable.initialized steps o' ∧
    steps.map (fun x => x.label.bRetVal) = [true, false] ∧
      LastSet Reachable.initialized.cached steps := by
  let first := timing Reachable.initialized 5 willingOnce
  let again := timing first.post 5 unwilling
  have hrun : Run SetStep Reachable.initialized [first, again] again.post :=
    .cons (.called rfl) (.cons (.called rfl) (.nil _))
  refine ⟨_, _, hrun, rfl, ((cached_iff hrun).mpr ?_).2⟩
  rw [List.forall_mem_cons, List.forall_mem_singleton]
  exact ⟨fun _ hfails => absurd hfails (by decide), fun _ _ => rfl⟩

/-- Five seconds cannot be set, and are told of by `GetReceiveTimeoutSec` all the same. -/
theorem not_leavesAlone_timing : Reachable .simple Reachable.initialized ∧
    ∃ o', SetStep Reachable.initialized ⟨.setReceiveTimeout 5 0, unwilling, false⟩ o' ∧
      o'.m_stRecvTimeout.tv_sec = 5 ∧
      ¬ LeavesAlone Reachable.initialized ⟨.setReceiveTimeout 5 0, unwilling, false⟩ o' := by
  refine ⟨Reachable.of_initialized, _, .called rfl, rfl, fun h => ?_⟩
  have hsame := congrArg (fun c => c.recvTimeout.tv_sec) (h rfl)
  revert hsame
  decide

end ClSocket
