import ClSocket.Descriptor.Reachable
import ClSocket.Errors.Outcome

/-!
# Which results the error code tells

All operations together. `Op.failed` and `Op.succeeded` read a result as a failure or a success,
`Op.Silent` says when a failure is reported with the success code, and `Op.Clean` when a success
is. Both are conditions on the object and the process before the call: the code of an earlier
call that is not overwritten, the `errno` of an earlier call that is translated, and the
answers to options that nobody looks at.

`failure_told_iff` and `success_told_iff` read the two halves of `tells_of_call`. They hold for any
object whatever, so for the reachable ones.
-/

namespace ClSocket

open Prog CSimpleSocket CActiveSocket CPassiveSocket

/-- The result is that of a failure. -/
def Op.failed : Op → Ret → Bool
  | .send _ _, .int n => n == -1
  | .sendVector _, .int n => n == -1
  | .receive _ _, .received n _ => n == -1
  | .sendFile _ _ _ _, .sentFile n _ => n == -1
  | .accept _, .object client => client.isNone
  | _, .bool b => !b
  | _, _ => false

/-- The operations whose success leaves the code alone. -/
def Op.keepsCode : Op → Bool
  | .setBlocking | .setNonblocking | .setReceiveTimeout _ _ | .setSendTimeout _ _ => true
  | .setMulticast _ _ | .bindInterface _ | .setSocketDscp _ => true
  | _ => false

/-- The result is that of a success that the operation has a code for. -/
def Op.succeeded : Op → Ret → Bool
  | .send _ _, .int n => decide (0 < n)
  | .sendVector _, .int n => decide (0 < n)
  | .receive _ _, .received n _ => decide (0 < n)
  | op, .bool b => b && !op.keepsCode
  | _, _ => false

/-- **A failure is silent**: it leaves the success code. -/
def Op.Silent (o : CSimpleSocket) (os : Os) : Op → Prop
  | .openSocket pAddr nPort => OpenSilent o os pAddr nPort
  | .select _ _ => SelectSilent o os
  | .bindInterface _ => o.m_bIsMulticast = true ∧ o.m_socketErrno = .socketSuccess
  | .close => o.m_socket = -1 ∧ os.errno = 0
  | .send _ _ => Miscounted (sendCounts o.m_nSocketType) os
  | .sendVector _ => Miscounted Script.writev os
  | .receive _ _ => Miscounted (receiveCounts o.m_nSocketType) os
  | .sendFile _ _ _ nCount => SendFileSilent o os nCount
  | _ => False

/-- **A success is clean**: it leaves the success code. -/
def Op.Clean (cls : SocketClass) (o : CSimpleSocket) (os : Os) : Op → Prop
  | .initializeSocket | .openSocket _ _ | .select _ _ | .sendVector _ => True
  | .listen _ _ _ => os.errno = 0 ∧ OptionsTaken os.script
  | .send _ _ => cls = .passive ∧ o.m_nSocketType = .socketTypeUdp ∨ os.errno = 0
  | _ => os.errno = 0

/-- What is told of more results is told of fewer. -/
theorem Tells.imp {failed failed' silent done done' clean : Prop} {t : State}
    (h : Tells failed silent done clean t) (hfailed : failed' → failed) (hdone : done' → done) :
    Tells failed' silent done' clean t :=
  ⟨fun hf => h.failure (hfailed hf), fun hd => h.success (hdone hd)⟩

/-- **What the code tells of every operation.** -/
theorem tells_of_call {cls : SocketClass} {o : CSimpleSocket} {os : Os} {op : Op} {ret : Ret}
    {t : State} (hrun : call (op.run cls) o os = .done ret t) :
    Tells (op.failed ret = true) (op.Silent o os) (op.succeeded ret = true) (op.Clean cls o os)
      t := by
  -- a method tells of its own failures and successes; `Tells.imp` turns `ret` back into its result
  cases op with
  | initializeSocket =>
    obtain ⟨r, hr, rfl⟩ := call_done hrun
    exact (wp_call (tells_initializeSocket _) hr).imp (by simp [Op.failed])
      (by simp [Op.succeeded, Op.keepsCode])
  | close =>
    obtain ⟨r, hr, rfl⟩ := call_done hrun
    exact (wp_call (tells_closeSocket _) hr).imp (by simp [Op.failed])
      (by simp [Op.succeeded, Op.keepsCode])
  | shutdown how =>
    obtain ⟨r, hr, rfl⟩ := call_done hrun
    exact (wp_call (tells_shutdown _ how) hr).imp (by simp [Op.failed])
      (by simp [Op.succeeded, Op.keepsCode])
  | select sec usec =>
    obtain ⟨r, hr, rfl⟩ := call_done hrun
    exact (wp_call (tells_select _ sec usec) hr).imp (by simp [Op.failed])
      (by simp [Op.succeeded, Op.keepsCode])
  | receive n buf =>
    obtain ⟨r, hr, rfl⟩ := call_done hrun
    exact (wp_call (tells_receive _ n buf) hr).imp (by simp [Op.failed]) (by simp [Op.succeeded])
  | send buf n =>
    obtain ⟨r, hr, rfl⟩ := call_done hrun
    exact (wp_call (tells_virtualSend _ cls buf n) hr).imp (by simp [Op.failed])
      (by simp [Op.succeeded])
  | sendVector items =>
    obtain ⟨r, hr, rfl⟩ := call_done hrun
    exact (wp_call (tells_sendVector _ items) hr).imp (by simp [Op.failed])
      (by simp [Op.succeeded])
  | sendFile out inp off n =>
    obtain ⟨r, hr, rfl⟩ := call_done hrun
    exact (wp_call (tells_sendFile _ out inp off n _) hr).imp (by simp [Op.failed])
      (by simp [Op.succeeded])
  | setBlocking =>
    obtain ⟨r, hr, rfl⟩ := call_done hrun
    exact (wp_call (tells_setFlags _ _ _ _) hr).imp (by simp [Op.failed])
      (by simp [Op.succeeded, Op.keepsCode])
  | setNonblocking =>
    obtain ⟨r, hr, rfl⟩ := call_done hrun
    exact (wp_call (tells_setFlags _ _ _ _) hr).imp (by simp [Op.failed])
      (by simp [Op.succeeded, Op.keepsCode])
  | setOptionLinger b n =>
    obtain ⟨r, hr, rfl⟩ := call_done hrun
    exact (wp_call (tells_setOptionLinger _ b n) hr).imp (by simp [Op.failed])
      (by simp [Op.succeeded, Op.keepsCode])
  | setOptionReuseAddr =>
    obtain ⟨r, hr, rfl⟩ := call_done hrun
    exact (wp_call (tells_setOption _ _ _ _) hr).imp (by simp [Op.failed])
      (by simp [Op.succeeded, Op.keepsCode])
  -- only the member is written: it has no result and can neither fail nor succeed
  | setConnectTimeout sec usec =>
    obtain ⟨r, -, rfl⟩ := call_done hrun
    exact .of_neither (by simp [Op.failed]) (by simp [Op.succeeded])
  | setReceiveTimeout sec usec =>
    obtain ⟨r, hr, rfl⟩ := call_done hrun
    exact (wp_call (tells_setReceiveTimeout _ sec usec _) hr).imp (by simp [Op.failed])
      (by simp [Op.succeeded, Op.keepsCode])
  | setSendTimeout sec usec =>
    obtain ⟨r, hr, rfl⟩ := call_done hrun
    exact (wp_call (tells_setSendTimeout _ sec usec _) hr).imp (by simp [Op.failed])
      (by simp [Op.succeeded, Op.keepsCode])
  | setMulticast b ttl =>
    obtain ⟨r, hr, rfl⟩ := call_done hrun
    exact (wp_call (tells_setMulticast _ b ttl _) hr).imp (by simp [Op.failed])
      (by simp [Op.succeeded, Op.keepsCode])
  | bindInterface iface =>
    obtain ⟨r, hr, rfl⟩ := call_done hrun
    exact (wp_call (tells_bindInterface _ iface _) hr).imp (by simp [Op.failed])
      (by simp [Op.succeeded, Op.keepsCode])
  | setSocketDscp n =>
    obtain ⟨r, hr, rfl⟩ := call_done hrun
    exact (wp_call (tells_setSocketDscp _ n _) hr).imp (by simp [Op.failed])
      (by simp [Op.succeeded, Op.keepsCode])
  -- the values of these are not counted among the failures and successes
  | getSocketDscp =>
    obtain ⟨r, -, rfl⟩ := call_done hrun
    exact .of_neither (by simp [Op.failed]) (by simp [Op.succeeded])
  | getWindowSize name =>
    obtain ⟨r, -, rfl⟩ := call_done hrun
    exact .of_neither (by simp [Op.failed]) (by simp [Op.succeeded])
  | setWindowSize name n =>
    obtain ⟨r, -, rfl⟩ := call_done hrun
    exact .of_neither (by simp [Op.failed]) (by simp [Op.succeeded])
  | disableNagleAlgoritm =>
    obtain ⟨r, hr, rfl⟩ := call_done hrun
    exact (wp_call (tells_setOption _ _ _ _) hr).imp (by simp [Op.failed])
      (by simp [Op.succeeded, Op.keepsCode])
  | enableNagleAlgoritm =>
    obtain ⟨r, hr, rfl⟩ := call_done hrun
    exact (wp_call (tells_setOption _ _ _ _) hr).imp (by simp [Op.failed])
      (by simp [Op.succeeded, Op.keepsCode])
  | openSocket addr port =>
    obtain ⟨r, hr, rfl⟩ := call_done hrun
    exact (wp_call (tells_openSocket _ addr port) hr).imp (by simp [Op.failed])
      (by simp [Op.succeeded, Op.keepsCode])
  | listen addr port backlog =>
    obtain ⟨r, hr, rfl⟩ := call_done hrun
    exact (wp_call (tells_listen _ addr port backlog) hr).imp (by simp [Op.failed])
      (by simp [Op.succeeded, Op.keepsCode])
  | bindMulticast iface group port =>
    obtain ⟨r, hr, rfl⟩ := call_done hrun
    exact (wp_call (tells_bindMulticast _ iface group port) hr).imp (by simp [Op.failed])
      (by simp [Op.succeeded, Op.keepsCode])
  | accept raw =>
    obtain ⟨r, hr, rfl⟩ := call_done hrun
    exact (wp_call (tells_accept _ raw _) hr).imp (by simp [Op.failed]) (by simp [Op.succeeded])

/-! ### Failures -/

/-- **A failure is told** exactly when it is not one of the silent ones. -/
theorem failure_told_iff {cls : SocketClass} {o : CSimpleSocket} {os : Os} {op : Op} {ret : Ret}
    {t : State} (hrun : call (op.run cls) o os = .done ret t) (hfailed : op.failed ret = true) :
    t.self.m_socketErrno ≠ .socketSuccess ↔ ¬ op.Silent o os :=
  not_congr ((tells_of_call hrun).failure hfailed)

/-- `Shutdown` of a socket that is not connected. -/
theorem failure_told_shutdown : ∃ t, call ((Op.shutdown .both).run .active) Reachable.initialized
      (.idle { shutdown := [.fail ⟨ENOTCONN, by decide⟩] }) = .done (.bool false) t ∧
    t.self.m_socketErrno ≠ .socketSuccess := by
  have hrun : ∃ t, call ((Op.shutdown .both).run .active) Reachable.initialized
      (.idle { shutdown := [.fail ⟨ENOTCONN, by decide⟩] }) = .done (.bool false) t := ⟨_, rfl⟩
  obtain ⟨t, hrun⟩ := hrun
  exact ⟨t, hrun, (failure_told_iff hrun rfl).mpr id⟩

/-- An object as it is constructed. -/
def unopened : CSimpleSocket := .construct .zeroed .socketTypeTcp

/-- `Close` of an object that was never initialized fails with the success code. -/
theorem failure_silent_close : Reachable .active unopened ∧ ∃ t,
    call (Op.close.run .active) unopened (.idle {}) = .done (.bool false) t ∧
      ¬ t.self.m_socketErrno ≠ .socketSuccess :=
  ⟨.constructed .active .zeroed .socketTypeTcp, _, rfl, fun h => h rfl⟩

/-! ### Successes -/

/-- **A success is told** exactly when it is clean. -/
theorem success_told_iff {cls : SocketClass} {o : CSimpleSocket} {os : Os} {op : Op} {ret : Ret}
    {t : State} (hrun : call (op.run cls) o os = .done ret t)
    (hsucceeded : op.succeeded ret = true) :
    t.self.m_socketErrno = .socketSuccess ↔ op.Clean cls o os :=
  (tells_of_call hrun).success hsucceeded

/-- `Shutdown` with nothing in `errno`. -/
theorem success_told_shutdown : ∃ t, call ((Op.shutdown .both).run .active) Reachable.initialized
      (.idle { shutdown := [.ok ()] }) = .done (.bool true) t ∧
    t.self.m_socketErrno = .socketSuccess := by
  have hrun : ∃ t, call ((Op.shutdown .both).run .active) Reachable.initialized
      (.idle { shutdown := [.ok ()] }) = .done (.bool true) t := ⟨_, rfl⟩
  obtain ⟨t, hrun⟩ := hrun
  exact ⟨t, hrun, (success_told_iff hrun rfl).mpr rfl⟩

/-- `Listen` on a socket that does not take an option, with nothing in `errno` before. -/
def optionRefused : Os := .idle {
  setsockopt := [.ok (), .fail ⟨ENOPROTOOPT, by decide⟩], bind := [.ok ()], listen := [.ok ()] }

/-- It succeeds, and reports a connection reset. -/
theorem success_untold_listen : ∃ t,
    Reachable .passive Reachable.initialized ∧
    call ((Op.listen none 80 5).run .passive) Reachable.initialized optionRefused =
      .done (.bool true) t ∧
    t.self.m_socketErrno = .socketConnectionReset ∧
      ¬ t.self.m_socketErrno = .socketSuccess :=
  ⟨_, Reachable.of_initialized, rfl, rfl, by decide⟩

end ClSocket
