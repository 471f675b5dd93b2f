import ClSocket.Descriptor.Reachable

/-!
# The clean-up of a failed `Listen` or `BindMulticast`

Both operations end a failure with `Close`: the buffer is freed and the descriptor given up
(`CleanedUp.freed`, `CleanedUp.closed`). The error code is to be the translation of the number which
the failing call left in `errno`. `Close` translates `errno` a second time, after its own call.
`Listen` saves the code and puts it back. `BindMulticast` does not, so its code is that of the cause
only as long as `close` leaves no other code in its place (`cleanedUp_iff`).
-/

namespace ClSocket

open Prog CSimpleSocket CPassiveSocket

/-- The number the next answer of a queue stores in `errno`, if that answer is a failure. -/
def failureOf {α : Type} : List (Answer α) → Option Errno
  | .fail e :: _ => some e
  | _ => none

@[simp] theorem failureOf_ok {α : Type} (a : α) (q : List (Answer α)) :
    failureOf (.ok a :: q) = none := rfl

@[simp] theorem failureOf_fail {α : Type} (e : Errno) (q : List (Answer α)) :
    failureOf (.fail e :: q) = some e := rfl

/-- A failure of one of the calls that decide whether the two operations succeed. -/
def Event.cause? : Event → Option Errno
  | .bind _ _ (.fail e) | .listen _ _ (.fail e) => some e
  | .setsockopt _ level name _ (.fail e) =>
    if level = IPPROTO_IP ∧ name = IP_ADD_MEMBERSHIP then some e else none
  | _ => none

/-- Those of a trace. -/
def causesIn (t : Trace) : List Errno := t.filterMap Event.cause?

@[simp] theorem causesIn_nil : causesIn [] = [] := rfl

@[simp] theorem causesIn_append (t u : Trace) : causesIn (t ++ u) = causesIn t ++ causesIn u :=
  List.filterMap_append

@[simp] theorem causesIn_cons (ev : Event) (t : Trace) :
    causesIn (ev :: t) = ev.cause?.toList ++ causesIn t := by
  cases h : ev.cause? <;> simp [causesIn, h]

/-- **What a failure leaves**: the buffer of `o` is freed, the descriptor is forgotten if it was
closed, and the code is that of the one call that failed. -/
structure CleanedUp (o : CSimpleSocket) (t : State) : Prop where
  freed : t.self.m_pBuffer = none ∧ ∀ b, o.m_pBuffer = some b → Event.free b.id ∈ t.trace
  closed : ∀ fd, Event.close fd (.ok ()) ∈ t.trace → t.self.m_socket = -1
  cause : ∃ e, causesIn t.trace = [e] ∧ t.self.m_socketErrno = translateErrno e.1

/-! ### `Close` -/

/-- `errno` when `Close` translates it. -/
def errnoAfterClose (s : State) : Int :=
  if s.self.m_socket = -1 then s.os.errno
  else ((failureOf s.os.script.close).map Subtype.val).getD s.os.errno

theorem wp_closeSocket_clean (s : State) :
    wp closeSocket (fun _ t => t.self.m_pBuffer = none ∧
      (∀ b, s.self.m_pBuffer = some b → Event.free b.id ∈ t.trace) ∧
      t.self.m_socketErrno = translateErrno (errnoAfterClose s)) (fun _ _ => True) s := by
  have hfree : ∀ b, s.self.m_pBuffer = some b → Event.free b.id ∈ (bufferDeleted s).trace := by
    intro b hb
    simp [bufferDeleted, hb]
  simp only [closeSocket, wp_bind, wp_deleteBuffer, wp_this, wp_ite, wp_pure, wp_translateSocketError,
    isSocketValid_iff, bufferDeleted_self]
  refine ⟨fun hv => ?_, fun hi => ⟨rfl, hfree, ?_⟩⟩
  · rw [closeHandle, wp_bind, wp_this, wp_bind, sysClose, wp_issue_iff]
    refine ⟨fun _ => trivial, fun res rest hclose => ?_⟩
    rw [bufferDeleted_os] at hclose
    have hmem : ∀ b, s.self.m_pBuffer = some b → Event.free b.id ∈ (bufferDeleted s).trace ++
        [.close s.self.m_socket res] := fun b hb => List.mem_append_left _ (hfree b hb)
    cases res with
    | ok _ => exact ⟨rfl, hmem, by simp [errnoAfterClose, hv, hclose]⟩
    | fail e => exact ⟨rfl, hmem, by simp [errnoAfterClose, hv, hclose]⟩
  · rw [errnoAfterClose, if_pos (not_not.mp hi)]
    rfl

theorem wp_closeSocket_causes (s : State) :
    wp closeSocket (fun _ t => causesIn t.trace = causesIn s.trace) (fun _ _ => True) s :=
  wp_closeSocket_log (fun _ => rfl) (fun _ _ => rfl) s

/-! ### The calls that fail -/

/-- A failing call was made, and `errno` has its number. -/
structure FailedBy (e : Errno) (s t : State) : Prop where
  causes : causesIn t.trace = causesIn s.trace ++ [e]
  errno : t.os.errno = e.1

theorem wp_bindAndListen_cause (nConnectionBacklog : Int) (s : State) :
    wp (bindAndListen nConnectionBacklog) (fun r t => t.self = s.self ∧
      (r = false → ∃ e, FailedBy e s t)) (fun _ _ => True) s := by
  rw [bindAndListen, wp_bind, wp_this, wp_bind, sysBind, wp_issue_iff]
  refine ⟨fun _ => trivial, fun res rest hbind => ?_⟩
  cases res with
  | fail e => exact ⟨rfl, fun _ => ⟨e, by simp [Event.cause?], rfl⟩⟩
  | ok u =>
    rw [wp_ite]
    refine ⟨fun _ => ?_, fun _ => ⟨rfl, fun hr => by cases hr⟩⟩
    rw [wp_bind, sysListen, wp_issue_iff]
    refine ⟨fun _ => trivial, fun res' rest' hlisten => ⟨rfl, fun hr => ?_⟩⟩
    cases res' with
    | ok u => simp at hr
    | fail e => exact ⟨e, by simp [Event.cause?], rfl⟩

/-- The number with which `BindMulticast` fails. -/
def multicastCause (sc : Script) : Option Errno := (failureOf sc.bind).or (failureOf sc.setsockopt)

theorem wp_bindAndJoin_cause (pGroup : String) (s : State) :
    wp (bindAndJoin pGroup) (fun r t => t.self.m_pBuffer = s.self.m_pBuffer ∧
      t.self.m_socket = s.self.m_socket ∧ t.os.script.close = s.os.script.close ∧
      (r = false → ∃ e, multicastCause s.os.script = some e ∧ FailedBy e s t))
      (fun _ _ => True) s := by
  rw [bindAndJoin, wp_bind, wp_this, wp_bind, sysBind, wp_issue_iff]
  refine ⟨fun _ => trivial, fun res rest hbind => ?_⟩
  cases res with
  | fail e =>
    exact ⟨rfl, rfl, rfl, fun _ => ⟨e, by simp [multicastCause, hbind], by simp [Event.cause?], rfl⟩⟩
  | ok u =>
    rw [joinGroup, wp_bind, wp_inetAddr, wp_bind, wp_this, wp_bind, sysSetsockopt, wp_issue_iff]
    refine ⟨fun _ => trivial, fun res' rest' hjoin => ⟨rfl, rfl, rfl, fun hr => ?_⟩⟩
    have hsetsockopt : s.os.script.setsockopt = res' :: rest' := hjoin
    cases res' with
    | ok u => simp at hr
    | fail e =>
      exact ⟨e, by simp [multicastCause, hbind, hsetsockopt], by simp [Event.cause?], rfl⟩

/-! ### The two operations -/

theorem wp_closeKeepingError_clean (s : State) :
    wp closeKeepingError (fun _ t => t.self.m_pBuffer = none ∧
      (∀ b, s.self.m_pBuffer = some b → Event.free b.id ∈ t.trace) ∧
      causesIn t.trace = causesIn s.trace ∧ t.self.m_socketErrno = s.self.m_socketErrno)
      (fun _ _ => True) s := by
  simp only [closeKeepingError, wp_bind, wp_this, wp_setSocketError]
  refine wp_mono (fun _ t h => ?_) (fun _ _ h => h)
    (wp_and (wp_closeSocket_clean s) (wp_closeSocket_causes s))
  exact ⟨h.1.1, h.1.2.1, h.2, rfl⟩

/-- **A `Listen` that fails** frees the buffer and keeps the code of the cause. -/
theorem wp_listen_clean (pAddr : Option String) (nPort : UInt16) (nConnectionBacklog : Int)
    (s : State) :
    wp (listen pAddr nPort nConnectionBacklog) (fun r t => r = false →
      t.self.m_pBuffer = none ∧ (∀ b, s.self.m_pBuffer = some b → Event.free b.id ∈ t.trace) ∧
        ∃ e : Errno, causesIn t.trace = causesIn s.trace ++ [e] ∧
          t.self.m_socketErrno = translateErrno e.1) (fun _ _ => True) s := by
  -- a failed option is not a cause: `Listen` goes on
  have hoptions : wp listenOptions (fun _ t => t.self = s.self ∧ causesIn t.trace = causesIn s.trace)
      (fun _ _ => True) s := by
    have hne : ¬(SOL_SOCKET = IPPROTO_IP ∧ SO_REUSEADDR = IP_ADD_MEMBERSHIP) := by decide
    have hne' : ¬(IPPROTO_TCP = IPPROTO_IP ∧ IP_TOS = IP_ADD_MEMBERSHIP) := by decide
    simp [listenOptions, sysSetsockopt, Event.cause?, hne, hne']
  rw [CPassiveSocket.listen, wp_bind]
  refine wp_mono (fun _ s₁ h₁ => ?_) (fun _ _ h => h) hoptions
  obtain ⟨hself₁, ht₁⟩ := h₁
  simp only [wp_bind, wp_bindAddress, wp_assign, wp_timerInitialize, wp_setStartTime]
  refine wp_mono (fun r s₂ h₂ => ?_) (fun _ _ h => h) (wp_bindAndListen_cause nConnectionBacklog _)
  obtain ⟨hself₂, hcause⟩ := h₂
  simp only [wp_setEndTime, wp_translateSocketError, wp_when, wp_pure]
  refine ⟨fun hr => ?_, fun hr hf => absurd hf hr⟩
  obtain ⟨e, he, herrno⟩ := hcause hr
  have hbuffer : s₂.self.m_pBuffer = s.self.m_pBuffer := by rw [hself₂, ← hself₁]; rfl
  -- `Close` comes last, and the code of the cause is put back after it
  refine wp_mono (fun _ t h => ?_) (fun _ _ h => h) (wp_closeKeepingError_clean _)
  obtain ⟨hnone, hfree, hcauses, hcode⟩ := h
  refine fun _ => ⟨hnone, fun b hb => hfree b (hbuffer.trans hb), e, ?_, ?_⟩
  · rw [hcauses, ← ht₁]
    exact he
  · rw [hcode, ← herrno]
    rfl

/-- **A `BindMulticast` that fails** frees the buffer and has the code that `Close` leaves. -/
theorem wp_bindMulticast_clean (pInterface : Option String) (pGroup : String) (nPort : UInt16)
    (s : State) :
    wp (bindMulticast pInterface pGroup nPort) (fun r t => r = false →
      t.self.m_pBuffer = none ∧ (∀ b, s.self.m_pBuffer = some b → Event.free b.id ∈ t.trace) ∧
        ∃ e : Errno, multicastCause s.os.script = some e ∧ causesIn t.trace = causesIn s.trace ++ [e] ∧
          t.self.m_socketErrno = translateErrno (if s.self.m_socket = -1 then e.1
            else ((failureOf s.os.script.close).getD e).1)) (fun _ _ => True) s := by
  simp only [bindMulticast, wp_bind, wp_bindAddress, wp_assign]
  refine wp_mono (fun r s₂ h₂ => ?_) (fun _ _ h => h) (wp_bindAndJoin_cause pGroup _)
  obtain ⟨hbuffer, hsocket, hclose, hcause⟩ := h₂
  simp only [wp_timerInitialize, wp_setStartTime, wp_translateSocketError, wp_when, wp_bind, wp_pure]
  refine ⟨fun hr => ?_, fun hr hf => absurd hf hr⟩
  obtain ⟨e, hscript, he, herrno⟩ := hcause hr
  refine wp_mono (fun _ t h => ?_) (fun _ _ h => h)
    (wp_and (wp_closeSocket_clean _) (wp_closeSocket_causes _))
  obtain ⟨⟨hnone, hfree, hcode⟩, hcauses⟩ := h
  refine fun _ => ⟨hnone, fun b hb => hfree b (hbuffer.trans hb), e, hscript, hcauses.trans he, ?_⟩
  -- the second translation is of the number `close` leaves, if there is a descriptor to close
  rw [hcode, errnoAfterClose]
  simp only [State.upd_self, State.upd_os, State.tick_self, State.tick_errno, State.tick_script,
    hsocket, hclose, herrno, State.upd_os]
  congr 1
  split
  · rfl
  · cases failureOf s.os.script.close <;> rfl

section

variable {o : CSimpleSocket} {os : Os} {t : State}

/-- A descriptor that was closed is forgotten. -/
theorem ClosedIfValid.forgotten (h : ClosedIfValid ⟨o, os, []⟩ t) (fd : Int)
    (hclose : Event.close fd (.ok ()) ∈ t.trace) : t.self.m_socket = -1 := by
  have hmem : Event.close fd (.ok ()) ∈ handles t.trace := List.mem_filter.mpr ⟨hclose, rfl⟩
  by_cases hv : o.m_socket = -1
  · exact (h.1 hv).socket.trans hv
  · obtain ⟨-, res, hh, hs⟩ := h.2 hv
    rw [hh, handles_nil, List.nil_append, List.mem_singleton] at hmem
    cases hmem
    exact hs

/-- **The clean-up of a failure.** `Listen` always leaves what it should. `BindMulticast` does when
there is no descriptor to close, or `close` does not fail, or fails with the code of the cause. -/
theorem cleanedUp_iff (o : CSimpleSocket) (os : Os) :
    (∀ pAddr nPort nConnectionBacklog t,
      call (listen pAddr nPort nConnectionBacklog) o os = .done false t → CleanedUp o t) ∧
    (∀ pInterface pGroup nPort t,
      call (bindMulticast pInterface pGroup nPort) o os = .done false t →
        (CleanedUp o t ↔ o.m_socket = -1 ∨ ∀ e e', multicastCause os.script = some e →
          failureOf os.script.close = some e' → translateErrno e'.1 = translateErrno e.1)) := by
  refine ⟨fun pAddr nPort nConnectionBacklog t hrun => ?_, fun pInterface pGroup nPort t hrun => ?_⟩
  · obtain ⟨-, -, -, heffect⟩ := wp_call (wp_listen pAddr nPort nConnectionBacklog _) hrun
    obtain ⟨hnone, hfree, e, hcauses, hcode⟩ :=
      wp_call (wp_listen_clean pAddr nPort nConnectionBacklog _) hrun rfl
    exact ⟨⟨hnone, hfree⟩, (heffect rfl).1.forgotten, e, hcauses, hcode⟩
  · obtain ⟨-, -, -, heffect⟩ := wp_call (wp_bindMulticast pInterface pGroup nPort _) hrun
    obtain ⟨hnone, hfree, e, hscript, hcauses, hcode⟩ :=
      wp_call (wp_bindMulticast_clean pInterface pGroup nPort _) hrun rfl
    -- all but the code is as it should be
    have hcode' : CleanedUp o t ↔ t.self.m_socketErrno = translateErrno e.1 := by
      refine ⟨fun h => ?_, fun h => ⟨⟨hnone, hfree⟩, (heffect rfl).1.forgotten, e, hcauses, h⟩⟩
      obtain ⟨e', he', htold⟩ := h.cause
      obtain rfl : e = e' := by simpa using hcauses.symm.trans he'
      exact htold
    rw [hcode', hcode]
    by_cases hv : o.m_socket = -1
    · simp [hv]
    · rw [if_neg hv, hscript]
      -- a `close` that fails is translated over it
      cases hclose : failureOf os.script.close with
      | none => simp
      | some e' => simp [hv]

end

/-- Binding the group fails, the address being in use. -/
def inUse (close : Answer Unit) : Os :=
  .idle { bind := [.fail ⟨EADDRINUSE, by decide⟩], close := [close] }

/-- A `BindMulticast` whose `close` succeeds tells that the address is in use. -/
theorem cleanedUp_closing : ∃ t, call (bindMulticast none "224.0.0.1" 80) Reachable.initialized
    (inUse (.ok ())) = .done false t ∧ CleanedUp Reachable.initialized t := by
  have hrun : ∃ t, call (bindMulticast none "224.0.0.1" 80) Reachable.initialized
      (inUse (.ok ())) = .done false t := ⟨_, rfl⟩
  obtain ⟨t, ht⟩ := hrun
  refine ⟨t, ht, ((cleanedUp_iff _ _).2 _ _ _ t ht).mpr (Or.inr fun e e' _ he' => ?_)⟩
  cases he'

/-- One whose `close` fails tells of that instead. -/
theorem not_cleanedUp_closing : Reachable .passive Reachable.initialized ∧
    ∃ t, call (bindMulticast none "224.0.0.1" 80) Reachable.initialized
      (inUse (.fail (Subtype.mk EIO (by decide)))) = .done false t ∧
        t.self.m_socketErrno = .socketEunknown ∧ ¬ CleanedUp Reachable.initialized t := by
  refine ⟨Reachable.of_initialized, _, rfl, rfl, fun h => ?_⟩
  obtain ⟨e, he, hcode⟩ := h.cause
  obtain rfl : ⟨EADDRINUSE, by decide⟩ = e := List.singleton_inj.mp he
  revert hcode
  decide

end ClSocket
