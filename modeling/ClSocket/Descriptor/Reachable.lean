import ClSocket.Descriptor.Effect

/-!
# Reachable objects

`Reachable cls o` says that a program can hold an object of class `cls` in the state `o`: it was
constructed, or returned by `Accept`, and went through public operations, each with any answers
of the operating system.

Of every reachable object the internal buffer has the size the object remembers for it
(`Reachable.bufferOk`), which is what lets `Receive` reuse it.
-/

namespace ClSocket

open Prog CSimpleSocket

/-- The objects a program can hold. -/
inductive Reachable : SocketClass → CSimpleSocket → Prop where
  | constructed (cls : SocketClass) (raw : CSimpleSocket) (nType : CSocketType) :
      Reachable cls (.construct raw nType)
  | called {cls : SocketClass} {o : CSimpleSocket} {op : Op} {os : Os} {ret : Ret} {t : State} :
      Reachable cls o → op.ofClass cls = true → call (op.run cls) o os = .done ret t →
      Reachable cls t.self
  | accepted {o raw client : CSimpleSocket} {os : Os} {t : State} :
      Reachable .passive o → call (CPassiveSocket.accept raw) o os = .done (some client) t →
      Reachable .active client

namespace Reachable

/-- A TCP object that `Initialize` gave the descriptor 3. -/
def initialized : CSimpleSocket :=
  (call initializeSocket (.construct .zeroed .socketTypeTcp) (.idle { socket := [.ok 3] })).state.self

theorem of_initialized {cls : SocketClass} : Reachable cls initialized := by
  have hrun : ∃ ret t, call (Op.initializeSocket.run cls) (.construct .zeroed .socketTypeTcp)
      (.idle { socket := [.ok 3] }) = .done ret t ∧ t.self = initialized := ⟨_, _, rfl, rfl⟩
  obtain ⟨ret, t, hrun, hself⟩ := hrun
  exact hself ▸ .called (.constructed cls .zeroed _) (by cases cls <;> rfl) hrun

end Reachable

/-- An operation keeps the buffer right. -/
theorem bufferOk_of_call {cls : SocketClass} {o : CSimpleSocket} {op : Op} {os : Os} {ret : Ret}
    {t : State} (h : BufferOk o) (hrun : call (op.run cls) o os = .done ret t) :
    BufferOk t.self := by
  by_cases hq : op.isQuiet = true
  · have hquiet := wp_call (quiet_run cls hq ⟨o, os, []⟩) hrun
    exact hquiet.steady.bufferKept.bufferOk h
  cases op with
  | initializeSocket =>
    obtain ⟨r, hr, rfl⟩ := call_done hrun
    exact (wp_call (wp_initializeSocket _) hr).1.bufferOk h
  | close =>
    obtain ⟨r, hr, rfl⟩ := call_done hrun
    exact (wp_call (wp_closeSocket _) hr).1.bufferOk h
  -- `Receive` is the one to make a buffer
  | receive n buf =>
    obtain ⟨r, hr, rfl⟩ := call_done hrun
    exact (wp_call (holds_receive n buf _) hr).2.2.2 h
  | openSocket addr port =>
    obtain ⟨r, hr, rfl⟩ := call_done hrun
    have hsteady := wp_call (steady_openSocket addr port _) hr
    exact hsteady.bufferKept.bufferOk h
  | listen addr port backlog =>
    obtain ⟨r, hr, rfl⟩ := call_done hrun
    exact (wp_call (wp_listen addr port backlog _) hr).2.1.bufferOk h
  | bindMulticast iface group port =>
    obtain ⟨r, hr, rfl⟩ := call_done hrun
    exact (wp_call (wp_bindMulticast iface group port _) hr).2.1.bufferOk h
  -- `Accept` leaves the listener's alone, and that of the new object is another
  | accept raw =>
    obtain ⟨r, hr, rfl⟩ := call_done hrun
    obtain ⟨hl, -⟩ := wp_call (CPassiveSocket.wp_accept raw _) hr
    exact BufferKept.bufferOk (Or.inl ⟨hl.buffer, hl.bufferSize⟩) h
  | _ => exact absurd rfl hq

/-- **The internal buffer of a reachable object** has the size the object remembers. -/
theorem Reachable.bufferOk {cls : SocketClass} {o : CSimpleSocket} (h : Reachable cls o) :
    BufferOk o := by
  induction h with
  | constructed cls raw nType => exact fun b hb => by cases hb
  | called _ _ hrun ih => exact bufferOk_of_call ih hrun
  | accepted _ hrun _ =>
    obtain ⟨-, fails, fd, peer, name', name, rfl, -⟩ :=
      wp_call (CPassiveSocket.wp_accept _ _) hrun
    exact fun b hb => by cases hb

end ClSocket
