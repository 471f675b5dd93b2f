import ClSocket.Connect.Opening
import ClSocket.Descriptor.Effect
import ClSocket.Errors.Settling
import ClSocket.Transfer.Copying

/-!
# What the error code tells of a result

`GetSocketError` is to be asked right after a call. `Tells` says of the code a call leaves when
it is a success code after a failure (the call is *silent*), and when it is one after a
success (the call is *clean*).

The operations fall into a few families. Those that end in `TranslateSocketError` report
every failure, but after a success they report whatever `errno` held before. Those that
translate after a failure only, or set the code themselves, do better; and on some paths the
code is not touched at all, so that a failure is reported with the code of an earlier call. Here
is what is common to a family, and the operations that have no branches of their own.
-/

namespace ClSocket

open Prog CSimpleSocket CActiveSocket CPassiveSocket

/-- **What the code tells**: after a failure it is a success code only if the call is silent,
after a success exactly if it is clean. -/
structure Tells (failed silent done clean : Prop) (t : State) : Prop where
  failure : failed → (t.self.m_socketErrno = .socketSuccess ↔ silent)
  success : done → (t.self.m_socketErrno = .socketSuccess ↔ clean)

namespace Tells

variable {failed silent done clean : Prop} {t : State}

/-- A failure with a code of its own. -/
theorem of_failure (hdone : ¬ done) (hsilent : ¬ silent)
    (hcode : t.self.m_socketErrno ≠ .socketSuccess) : Tells failed silent done clean t :=
  ⟨fun _ => iff_of_false hcode hsilent, fun h => absurd h hdone⟩

/-- A success, whose code is the translation of `errno`. -/
theorem of_translated {errno : Int} (hfailed : ¬ failed)
    (hcode : t.self.m_socketErrno = translateErrno errno) (hclean : clean ↔ errno = 0) :
    Tells failed silent done clean t := by
  refine ⟨fun h => absurd h hfailed, fun _ => ?_⟩
  rw [hcode, translateErrno_eq_success, hclean]

/-- A success with the success code. -/
theorem of_success (hfailed : ¬ failed) (hclean : clean)
    (hcode : t.self.m_socketErrno = .socketSuccess) : Tells failed silent done clean t :=
  ⟨fun h => absurd h hfailed, fun _ => iff_of_true hcode hclean⟩

/-- Neither. -/
theorem of_neither (hfailed : ¬ failed) (hdone : ¬ done) : Tells failed silent done clean t :=
  ⟨fun h => absurd h hfailed, fun h => absurd h hdone⟩

/-- A failure that leaves the code alone. -/
theorem of_untouched {code : CSocketError} (hdone : ¬ done)
    (hcode : t.self.m_socketErrno = code) (hsilent : failed → (code = .socketSuccess ↔ silent)) :
    Tells failed silent done clean t :=
  ⟨fun h => hcode ▸ hsilent h, fun h => absurd h hdone⟩

end Tells

/-! ### One call and a translation -/

section

variable (s : State)

/-- A call whose answer is translated in any case, and returned. -/
theorem tells_translating (queue : Script → List (Answer Unit))
    (put : List (Answer Unit) → Script → Script) (ev : Answer Unit → Event) :
    wp (do
      let res ← issue queue put ev
      translateSocketError
      return (res = .ok () : Bool))
      (fun r t => Tells (r = false) False (r = true) (s.os.errno = 0) t) (fun _ _ => True) s := by
  rw [wp_bind, wp_issue]
  refine ⟨fun _ => trivial, fun u rest _ => ?_, fun e rest _ => ?_⟩
  · rw [wp_bind, wp_translateSocketError, wp_pure]
    exact .of_translated (by simp) rfl Iff.rfl
  · rw [wp_bind, wp_translateSocketError, wp_pure]
    exact .of_failure (by simp) id (translateErrno_ne_success e)

theorem tells_setOption (level name : Int) (value : OptVal) :
    wp (setOption level name value)
      (fun r t => Tells (r = false) False (r = true) (s.os.errno = 0) t) (fun _ _ => True) s := by
  rw [setOption, wp_bind, wp_this]
  exact tells_translating _ _ _ _

theorem tells_setOptionLinger (bEnable : Bool) (nTime : UInt16) :
    wp (setOptionLinger bEnable nTime)
      (fun r t => Tells (r = false) False (r = true) (s.os.errno = 0) t) (fun _ _ => True) s := by
  rw [setOptionLinger, wp_bind, wp_assign]
  exact tells_setOption _ _ _ _

theorem tells_shutdown (how : CShutdownMode) :
    wp (shutdown how)
      (fun r t => Tells (r = false) False (r = true) (s.os.errno = 0) t) (fun _ _ => True) s := by
  rw [shutdown, wp_bind, wp_this]
  exact tells_translating _ _ _ _

/-- `Initialize` clears `errno` first. -/
theorem tells_initializeSocket :
    wp initializeSocket (fun r t => Tells (r = false) False (r = true) True t)
      (fun _ _ => True) s := by
  rw [initializeSocket, wp_bind, wp_setErrno, wp_bind, wp_timerInitialize, wp_bind,
    wp_setStartTime, wp_bind, wp_this, wp_bind, sysSocket, wp_issue]
  refine ⟨fun _ => trivial, fun fd rest _ => ?_, fun e rest _ => ?_⟩
  · simp only [wp_bind, wp_assign, wp_setEndTime, wp_translateSocketError, wp_this, wp_pure]
    refine .of_success ?_ trivial rfl
    simp [isSocketValid]
  · simp only [wp_bind, wp_assign, wp_setEndTime, wp_translateSocketError, wp_this, wp_pure]
    refine .of_failure ?_ id (translateErrno_ne_success e)
    simp [isSocketValid]

/-- `Close` of an object without a descriptor fails, and translates what `errno` held. -/
theorem tells_closeSocket :
    wp closeSocket (fun r t => Tells (r = false) (s.self.m_socket = -1 ∧ s.os.errno = 0) (r = true)
      (s.os.errno = 0) t) (fun _ _ => True) s := by
  simp only [closeSocket, wp_bind, wp_deleteBuffer, wp_this, wp_ite, wp_pure,
    wp_translateSocketError, isSocketValid_iff, bufferDeleted_self]
  refine ⟨fun hvalid => ?_, fun hinvalid => ?_⟩
  · rw [closeHandle, wp_bind, wp_this, wp_bind, sysClose, wp_issue]
    refine ⟨fun _ => trivial, fun u rest _ => ?_, fun e rest _ => ?_⟩
    · rw [wp_bind, wp_assign, wp_pure]
      exact .of_translated (by simp) rfl Iff.rfl
    · rw [wp_pure]
      exact .of_failure (by simp) (fun h => hvalid h.1) (translateErrno_ne_success e)
  · refine .of_untouched (by simp) rfl fun _ => ?_
    show translateErrno s.os.errno = .socketSuccess ↔ _
    rw [translateErrno_eq_success]
    exact ⟨fun herrno => ⟨not_not.mp hinvalid, herrno⟩, fun h => h.2⟩

/-! ### A translation after a failure only -/

/-- A call whose failure is translated. -/
theorem tells_onFailure {α : Type} {clean : Prop} {queue : Script → List (Answer α)}
    {put : List (Answer α) → Script → Script} {ev : Answer α → Event} {f : Answer α → M Bool}
    (hok : ∀ a t, wp (f (.ok a)) (fun r u => Tells (r = false) False False clean u)
      (fun _ _ => True) t)
    (hfail : ∀ e, f (.fail e) = do translateSocketError; return false) :
    wp (do let res ← issue queue put ev; f res)
      (fun r t => Tells (r = false) False False clean t) (fun _ _ => True) s := by
  rw [wp_bind, wp_issue]
  refine ⟨fun _ => trivial, fun a rest _ => hok a _, fun e rest _ => ?_⟩
  rw [hfail]
  exact .of_failure id id (translateErrno_ne_success e)

/-- Nothing is promised of a success. -/
theorem tells_true (clean : Prop) : wp (return true : M Bool)
    (fun r t => Tells (r = false) False False clean t) (fun _ _ => True) s :=
  .of_neither (by simp) id

theorem tells_setTimeoutOption (name : Int) (v : Timeval) (clean : Prop) :
    wp (setTimeoutOption name v) (fun r t => Tells (r = false) False False clean t)
      (fun _ _ => True) s := by
  rw [setTimeoutOption, wp_bind, wp_this]
  exact tells_onFailure _ (fun _ _ => tells_true _ _) fun _ => rfl

theorem tells_setReceiveTimeout (sec usec : Int) (clean : Prop) :
    wp (setReceiveTimeout sec usec) (fun r t => Tells (r = false) False False clean t)
      (fun _ _ => True) s := by
  rw [setReceiveTimeout, wp_bind, wp_assign]
  exact tells_setTimeoutOption _ _ _ _

theorem tells_setSendTimeout (sec usec : Int) (clean : Prop) :
    wp (setSendTimeout sec usec) (fun r t => Tells (r = false) False False clean t)
      (fun _ _ => True) s := by
  rw [setSendTimeout, wp_bind, wp_assign]
  exact tells_setTimeoutOption _ _ _ _

theorem tells_setFlags (change : UInt32 → UInt32) (blocking : Bool) (clean : Prop) :
    wp (setFlags change blocking) (fun r t => Tells (r = false) False False clean t)
      (fun _ _ => True) s := by
  rw [setFlags, wp_bind, wp_this]
  refine tells_onFailure _ (fun _ t => ?_) fun _ => rfl
  exact tells_onFailure _ (fun _ _ => tells_true _ _) fun _ => rfl

theorem tells_setMulticast (bEnable : Bool) (multicastTTL : UInt8) (clean : Prop) :
    wp (setMulticast bEnable multicastTTL) (fun r t => Tells (r = false) False False clean t)
      (fun _ _ => True) s := by
  rw [setMulticast, wp_bind, wp_this, wp_ite]
  refine ⟨fun _ => ?_, fun _ => ?_⟩
  · rw [wp_bind, wp_assign]
    exact tells_onFailure _ (fun _ _ => tells_true _ _) fun _ => rfl
  · rw [wp_bind, wp_setSocketError, wp_pure]
    exact .of_failure id id (by simp)

theorem tells_setSocketDscp (nDscp : Int) (clean : Prop) :
    wp (setSocketDscp nDscp) (fun r t => Tells (r = false) False False clean t)
      (fun _ _ => True) s := by
  change wp (this >>= _) _ _ s
  rw [wp_bind, wp_this, wp_ite]
  refine ⟨fun _ => ?_, fun _ => tells_true _ _⟩
  exact tells_onFailure _ (fun _ _ => tells_true _ _) fun _ => rfl

/-- `BindInterface` on a multicast socket does not touch the code. -/
theorem tells_bindInterface (pInterface : Option String) (clean : Prop) :
    wp (bindInterface pInterface) (fun r t => Tells (r = false)
      (s.self.m_bIsMulticast = true ∧ s.self.m_socketErrno = .socketSuccess) False clean t)
      (fun _ _ => True) s := by
  rw [bindInterface, wp_bind, wp_this, wp_ite]
  refine ⟨fun hmulticast => ?_, fun hunicast => ?_⟩
  · have hsilent : s.self.m_socketErrno = .socketSuccess ↔
        s.self.m_bIsMulticast = true ∧ s.self.m_socketErrno = .socketSuccess :=
      ⟨fun h => ⟨hmulticast, h⟩, fun h => h.2⟩
    cases pInterface with
    | none => exact .of_untouched id rfl fun _ => hsilent
    | some iface =>
      rw [wp_bind, wp_inetAddr, wp_bind, sysSetsockopt, wp_issue_iff]
      refine ⟨fun _ => trivial, fun res rest _ => ?_⟩
      rw [wp_pure]
      exact .of_untouched id rfl fun _ => hsilent
  · rw [wp_bind, wp_setSocketError, wp_pure]
    exact .of_failure id (fun h => hunicast h.1) (by simp)

end

end ClSocket
