import ClSocket.Framework.Monitor
import ClSocket.Framework.Transition
import ClSocket.Descriptor.Reachable

/-!
# The differentiated services code point

`SetSocketDscp` shifts its argument into place and hands it to the kernel, which keeps the low eight
bits of what it is given (`ipTos`); the code point is the upper six of them. `GetSocketDscp` is to
read back what was set.

The setter looks at nothing: a value that has more than six bits is stored in part, and one whose
shift overflows is too. The getter passes the length 0 for the kernel to write, so it reads nothing
and returns 0 (`wp_getSocketDscp`). `dscp_told_iff` says which values survive this.
-/

namespace ClSocket

open Prog CSimpleSocket

/-- The type of service the kernel stores for each descriptor: the low eight bits of what the last
`setsockopt` gave, and zero for a new one. -/
def ipTos : Monitor (Int → Int) Event where
  next tos
    | .setsockopt fd level name (.int n) (.ok _) =>
      if level = IPPROTO_IP ∧ name = IP_TOS then Function.update tos fd (n % 256) else tos
    | .socket _ _ (.ok fd) | .accept _ (.ok (fd, _)) => Function.update tos fd 0
    | _ => tos
  ok _ _ := True

/-- The call sets the type of service of the descriptor, or makes the descriptor anew. -/
def Event.setsTos (fd : Int) : Event → Bool
  | .setsockopt fd' level name _ _ => fd' == fd && level == IPPROTO_IP && name == IP_TOS
  | .socket _ _ (.ok n) | .accept _ (.ok (n, _)) => (n : Int) == fd
  | _ => false

/-- An object and the stored types of service. -/
structure Serving where
  self : CSimpleSocket
  tos : Int → Int

/-- The object goes through an operation that does neither for the descriptor, and keeps it. -/
inductive LaterStep (cls : SocketClass) (fd : Int) : Serving → Op × Os → Serving → Prop where
  | called {s : Serving} {op : Op} {os : Os} {ret : Ret} {t : State}
      (has : op.ofClass cls = true) (hrun : call (op.run cls) s.self os = .done ret t)
      (keeps : t.self.m_socket = s.self.m_socket)
      (spares : ∀ e ∈ t.trace, e.setsTos fd = false) :
      LaterStep cls fd s (op, os) ⟨t.self, ipTos.after s.tos t.trace⟩

/-- The value is one of six bits. -/
def FitsDscp (nDscp : Int) : Prop := 0 ≤ nDscp ∧ nDscp ≤ 63

instance (nDscp : Int) : Decidable (FitsDscp nDscp) := inferInstanceAs (Decidable (_ ∧ _))

/-- **The round trip**: `SetSocketDscp nDscp` on `o` returned `bRetVal`; `tos` is what is stored
afterwards, and `nRead` what `GetSocketDscp` returns. -/
structure DscpTold (o : CSimpleSocket) (nDscp : Int) (bRetVal : Bool) (tos nRead : Int) : Prop where
  stored : bRetVal = true → o.isSocketValid = true → tos / 4 = nDscp
  read : bRetVal = true → o.isSocketValid = true → nRead = nDscp
  refused : ¬ FitsDscp nDscp → bRetVal = false
  shift : InInt32 (nDscp * 16)

/-! ### The two operations -/

/-- The number `SetSocketDscp` hands over. -/
def dscpValue (nDscp : Int) : Int := (narrow (nDscp * 16)).tdiv 4

/-- **`SetSocketDscp`** on a valid socket returns whether its call succeeds, and on an invalid one
it makes none. -/
theorem wp_setSocketDscp (nDscp : Int) (s : State) :
    wp (setSocketDscp nDscp) (fun r t => t.self.m_socket = s.self.m_socket ∧
      (s.self.isSocketValid = true → r = !headFails s.os.script.setsockopt ∧ (r = true → t.trace =
        s.trace ++ [.setsockopt s.self.m_socket IPPROTO_IP IP_TOS (.int (dscpValue nDscp)) (.ok ())])) ∧
      (s.self.isSocketValid = false → r = true)) (fun _ _ => True) s := by
  simp only [setSocketDscp, wp_bind, wp_this, wp_ite, sysSetsockopt, wp_pure]
  refine ⟨fun hvalid => ?_, fun hinvalid => ⟨trivial, fun hvalid => absurd hvalid hinvalid, fun _ => trivial⟩⟩
  rw [wp_issue_iff]
  refine ⟨fun _ => trivial, fun res rest hq => ?_⟩
  have hinvalid : ¬ s.self.isSocketValid = false := by
    rw [hvalid]
    decide
  rw [hq]
  cases res with
  | ok u => exact ⟨rfl, fun _ => ⟨rfl, fun _ => rfl⟩, fun h => absurd h hinvalid⟩
  | fail e => exact ⟨rfl, fun _ => ⟨rfl, fun h => absurd h (by decide)⟩, fun h => absurd h hinvalid⟩

/-- **`GetSocketDscp`** returns zero, whatever the kernel answers. -/
theorem wp_getSocketDscp (s : State) :
    wp getSocketDscp (fun n _ => n = 0) (fun _ _ => True) s := by
  have hread : ∀ v, narrow (copyOut 0 v * 4) / 16 = 0 := by
    intro v
    rw [copyOut, if_neg (by decide), pow_zero, Int.emod_one, zero_mul]
    decide
  simp only [getSocketDscp, wp_bind, wp_this, wp_ite, sysGetsockopt, wp_pure, wp_issue_iff]
  refine ⟨fun _ => ⟨fun _ => trivial, fun res rest _ => ?_⟩, fun _ => trivial⟩
  cases res with
  | ok v => exact hread v
  | fail e => exact hread 0

/-! ### The stored value -/

/-- A call that does not set the type of service leaves it. -/
theorem ipTos_next {fd : Int} {e : Event} (h : e.setsTos fd = false) (tos : Int → Int) :
    ipTos.next tos e fd = tos fd := by
  cases e with
  | setsockopt fd' level name value res =>
    -- the option that is set is another one, or another descriptor's
    have hother : level = IPPROTO_IP ∧ name = IP_TOS → fd ≠ fd' := by
      rintro ⟨rfl, rfl⟩ rfl
      simp [Event.setsTos] at h
    cases value with
    | int n =>
      cases res with
      | ok u =>
        simp only [ipTos]
        split
        case isTrue htos => exact Function.update_of_ne (hother htos) _ _
        case isFalse => rfl
      | fail e => rfl
    | _ => rfl
  -- a new descriptor starts from zero, and `fd` is not the new one
  | socket domain type res =>
    cases res with
    | ok fd' => exact Function.update_of_ne (beq_eq_false_iff_ne.mp h).symm _ _
    | fail e => rfl
  | accept fd' res =>
    cases res with
    | ok d => exact Function.update_of_ne (beq_eq_false_iff_ne.mp h).symm _ _
    | fail e => rfl
  | _ => rfl

theorem ipTos_after {fd : Int} {t : Trace} (h : ∀ e ∈ t, e.setsTos fd = false) (tos : Int → Int) :
    ipTos.after tos t fd = tos fd := by
  induction t generalizing tos with
  | nil => rfl
  | cons e t ih =>
    rw [List.forall_mem_cons] at h
    rw [Monitor.after_cons, ih h.2, ipTos_next h.1]

/-- Nor does a run. -/
theorem tos_of_later {cls : SocketClass} {fd : Int} {s s' : Serving}
    {steps : List (Taken Serving (Op × Os))} (h : Run (LaterStep cls fd) s steps s') :
    s'.tos fd = s.tos fd := by
  induction h with
  | nil s => rfl
  | cons hstep _ ih =>
    cases hstep with
    | called has hrun keeps spares => exact ih.trans (ipTos_after spares _)

/-! ### The round trip -/

section

variable {cls : SocketClass} {o : CSimpleSocket} {os os' : Os} {nDscp nRead : Int} {bRetVal : Bool}
  {t t' : State} {tos : Int → Int} {steps : List (Taken Serving (Op × Os))} {last : Serving}

/-- The value comes back as zero, so on a valid socket a call that succeeds is right for zero only;
one that fails is right unless its shift overflowed. On an invalid one nothing is set, and true is
returned. -/
def ComesBack (o : CSimpleSocket) (sc : Script) (nDscp : Int) : Prop :=
  if o.isSocketValid = true then
    nDscp = 0 ∨ headFails sc.setsockopt = true ∧ InInt32 (nDscp * 16)
  else FitsDscp nDscp

/-- **When the round trip works**: a value is set, any run follows that does not set another one or
replace the descriptor, and the value is asked for. -/
theorem dscp_told_iff (hset : call (setSocketDscp nDscp) o os = .done bRetVal t)
    (hlater : Run (LaterStep cls o.m_socket) ⟨t.self, ipTos.after tos t.trace⟩ steps last)
    (hget : call getSocketDscp last.self os' = .done nRead t') :
    DscpTold o nDscp bRetVal (last.tos o.m_socket) nRead ↔ ComesBack o os.script nDscp := by
  obtain ⟨-, hvalid, hinvalid⟩ := wp_call (wp_setSocketDscp nDscp _) hset
  obtain rfl := wp_call (wp_getSocketDscp _) hget
  -- the later run has left the option as `SetSocketDscp` made it
  rw [ComesBack, tos_of_later hlater]
  by_cases hv : o.isSocketValid = true
  · obtain ⟨hresult, htrace⟩ := hvalid hv
    rw [if_pos hv]
    cases hfails : headFails os.script.setsockopt with
    | true =>
      rw [hfails] at hresult
      obtain rfl : bRetVal = false := hresult
      -- it was not set: nothing is promised of what is read
      refine ⟨fun h => Or.inr ⟨rfl, h.shift⟩, fun h => ⟨by simp, by simp, by simp, ?_⟩⟩
      rcases h with rfl | ⟨-, hshift⟩
      · decide
      · exact hshift
    | false =>
      rw [hfails] at hresult
      obtain rfl : bRetVal = true := hresult
      -- it was set, and 0 is read whatever it is
      refine ⟨fun h => Or.inl (h.read rfl hv).symm, fun h => ?_⟩
      obtain rfl : nDscp = 0 := h.resolve_right (by simp)
      refine ⟨fun _ _ => ?_, fun _ _ => rfl, fun hfit => absurd (by decide) hfit, by decide⟩
      have hstored : ipTos.after tos t.trace o.m_socket = dscpValue 0 % 256 := by
        rw [htrace rfl]
        exact Function.update_self ..
      exact (congrArg (· / 4) hstored).trans (by decide)
  · rw [if_neg hv]
    -- without a descriptor it is never set, and `true` is returned
    obtain rfl : bRetVal = true := hinvalid (Bool.not_eq_true _ ▸ hv)
    refine ⟨fun h => ?_, fun h => ⟨fun _ hvalid' => absurd hvalid' hv, fun _ hvalid' => absurd hvalid' hv,
      fun hfit => absurd h hfit, ?_⟩⟩
    · by_contra hfit
      exact absurd (h.refused hfit) (by simp)
    · obtain ⟨hlow, hhigh⟩ := h
      constructor <;> omega

end

/-- A process in which every call on a descriptor's settings succeeds. -/
def compliant : Os :=
  .idle { setsockopt := [.ok ()], getsockopt := [.ok 0], getfl := [.ok 2], setfl := [.ok ()] }

/-- The object after the value was set. -/
def Serving.set (nDscp : Int) : Serving :=
  let t := (call (setSocketDscp nDscp) Reachable.initialized compliant).state
  ⟨t.self, ipTos.after (fun _ => 0) t.trace⟩

/-- Zero is set, the socket made non-blocking, and zero is read back. -/
theorem dscp_told_zero : ∃ t steps last t',
    call (setSocketDscp 0) Reachable.initialized compliant = .done true t ∧
      Run (LaterStep .active 3) (.set 0) steps last ∧
      call getSocketDscp last.self compliant = .done 0 t' ∧
      DscpTold Reachable.initialized 0 true (last.tos 3) 0 := by
  have hstep : ∃ last, LaterStep .active 3 (.set 0) (.setNonblocking, compliant) last ∧
      ∃ t', call getSocketDscp last.self compliant = .done 0 t' :=
    ⟨_, .called rfl rfl rfl (by decide), _, rfl⟩
  obtain ⟨last, hstep, t', hget⟩ := hstep
  have hset : call (setSocketDscp 0) Reachable.initialized compliant = .done true _ := rfl
  have hlater : Run (LaterStep .active 3) (.set 0) [⟨_, _, last⟩] last := .cons hstep (.nil _)
  exact ⟨_, _, last, t', rfl, hlater, hget,
    (dscp_told_iff hset hlater hget).mpr (Or.inl rfl)⟩

/-- The code point of expedited forwarding is stored, and zero is read back. -/
theorem dscp_untold_expedited : ∃ t t', call (setSocketDscp 46) Reachable.initialized compliant =
    .done true t ∧ call getSocketDscp t.self compliant = .done 0 t' ∧
      ipTos.after (fun _ => 0) t.trace 3 = 184 ∧
      ¬ DscpTold Reachable.initialized 46 true (ipTos.after (fun _ => 0) t.trace 3) 0 :=
  ⟨_, _, rfl, rfl, rfl, fun h => absurd (h.read rfl rfl) (by decide)⟩

end ClSocket
