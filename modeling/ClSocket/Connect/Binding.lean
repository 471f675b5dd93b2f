import ClSocket.Method.Frame

/-!
# Which addresses a server is bound to

`Listen` and `BindMulticast` read their address argument by one rule (`boundAddress`), and each makes
one `bind`, to what the rule says. A null or empty argument asks for every interface, and a string
for the address `inet_addr` makes of it (`AsAsked`).

A string that `inet_addr` rejects is passed over, so that the address stays what `memset` left, which
is `INADDR_ANY` again: the server is bound to every interface. `binds_asked_iff` says that this is the
one way in which the two operations bind to something else than they were asked for.
-/

namespace ClSocket

open Prog CSimpleSocket CPassiveSocket

/-- The address of a `bind`. -/
def Event.boundTo? : Event → Option UInt32
  | .bind _ addr _ => some addr.sin_addr
  | _ => none

/-- The addresses that were bound to. -/
def boundIn (t : Trace) : List UInt32 := t.filterMap Event.boundTo?

@[simp] theorem boundIn_nil : boundIn [] = [] := rfl

@[simp] theorem boundIn_append (t u : Trace) : boundIn (t ++ u) = boundIn t ++ boundIn u :=
  List.filterMap_append

/-- The argument asks for every interface. -/
def AsksForAny (inet_addr : String → UInt32) (pAddr : Option String) : Prop :=
  pAddr = none ∨ ∃ addr, pAddr = some addr ∧ (addr = "" ∨ inet_addr addr = htonl INADDR_ANY)

/-- **The server is on no more addresses than asked**: it is bound to every interface only if the
argument asks for that, and otherwise to the very address the string stands for, or the operation
returns false and has bound nothing. -/
structure AsAskedFor (inet_addr : String → UInt32) (pAddr : Option String) (bRetVal : Bool)
    (t : Trace) : Prop where
  any : htonl INADDR_ANY ∈ boundIn t → AsksForAny inet_addr pAddr
  address : ¬ AsksForAny inet_addr pAddr → ∀ addr, pAddr = some addr →
    (inet_addr addr ≠ INADDR_NONE ∧ boundIn t = [inet_addr addr]) ∨
      (bRetVal = false ∧ boundIn t = [])

/-- The argument is null, empty, or a string `inet_addr` accepts. -/
def Readable (inet_addr : String → UInt32) (pAddr : Option String) : Prop :=
  ∀ addr, pAddr = some addr → addr = "" ∨ inet_addr addr ≠ INADDR_NONE

/-! ### One `bind` -/

theorem wp_closeSocket_bound (s : State) :
    wp closeSocket (fun _ t => boundIn t.trace = boundIn s.trace) (fun _ _ => True) s :=
  wp_closeSocket_log (fun _ => rfl) (fun _ _ => rfl) s

theorem wp_bindAndListen_bound (nConnectionBacklog : Int) (s : State) :
    wp (bindAndListen nConnectionBacklog) (fun _ t => boundIn t.trace =
      boundIn s.trace ++ [s.self.m_stServerSockaddr.sin_addr]) (fun _ _ => True) s := by
  simp [bindAndListen, sysBind, sysListen, boundIn, Event.boundTo?]

theorem wp_bindAndJoin_bound (pGroup : String) (s : State) :
    wp (bindAndJoin pGroup) (fun _ t => boundIn t.trace =
      boundIn s.trace ++ [s.self.m_stMulticastGroup.sin_addr]) (fun _ _ => True) s := by
  simp [bindAndJoin, joinGroup, sysBind, sysSetsockopt, boundIn, Event.boundTo?]

/-- **`Listen`** binds once. -/
theorem wp_listen_bound (pAddr : Option String) (nPort : UInt16) (nConnectionBacklog : Int)
    (s : State) :
    wp (listen pAddr nPort nConnectionBacklog) (fun _ t => boundIn t.trace =
      boundIn s.trace ++ [boundAddress s.os.inet_addr pAddr]) (fun _ _ => True) s := by
  have hoptions : wp listenOptions (fun _ t => boundIn t.trace = boundIn s.trace ∧
      t.os.inet_addr = s.os.inet_addr) (fun _ _ => True) s := by
    simp [listenOptions, sysSetsockopt, boundIn, Event.boundTo?]
  rw [CPassiveSocket.listen, wp_bind]
  refine wp_mono (fun _ s₁ h₁ => ?_) (fun _ _ h => h) hoptions
  obtain ⟨ht₁, hinet₁⟩ := h₁
  simp only [wp_bind, wp_bindAddress, wp_assign, wp_timerInitialize, wp_setStartTime]
  refine wp_mono (fun r s₂ h₂ => ?_) (fun _ _ h => h) (wp_bindAndListen_bound nConnectionBacklog _)
  have hbound : boundIn s₂.trace = boundIn s.trace ++ [boundAddress s.os.inet_addr pAddr] := by
    rw [h₂, ← ht₁, ← hinet₁]
    rfl
  simp only [wp_setEndTime, wp_translateSocketError, wp_when, wp_pure]
  refine ⟨fun _ => ?_, fun _ => hbound⟩
  -- the clean-up of a failure binds nothing
  simp only [closeKeepingError, wp_bind, wp_this, wp_setSocketError]
  exact wp_mono (fun _ t h => h.trans hbound) (fun _ _ h => h) (wp_closeSocket_bound _)

/-- **`BindMulticast`** binds once. -/
theorem wp_bindMulticast_bound (pInterface : Option String) (pGroup : String) (nPort : UInt16)
    (s : State) :
    wp (bindMulticast pInterface pGroup nPort) (fun _ t => boundIn t.trace =
      boundIn s.trace ++ [boundAddress s.os.inet_addr pInterface]) (fun _ _ => True) s := by
  simp only [bindMulticast, wp_bind, wp_bindAddress, wp_assign]
  refine wp_mono (fun r s₂ h₂ => ?_) (fun _ _ h => h) (wp_bindAndJoin_bound pGroup _)
  simp only [wp_timerInitialize, wp_setStartTime, wp_translateSocketError, wp_when, wp_bind, wp_pure]
  refine ⟨fun _ => ?_, fun _ => h₂⟩
  exact wp_mono (fun _ t h => h.trans h₂) (fun _ _ h => h) (wp_closeSocket_bound _)

/-! ### The address that is bound to -/

section

variable {inet_addr : String → UInt32} {pAddr : Option String} {bRetVal : Bool} {t : Trace}

/-- What the rule of the two operations makes of the argument is as asked when it is readable. -/
theorem asAskedFor_iff (h : boundIn t = [boundAddress inet_addr pAddr]) :
    AsAskedFor inet_addr pAddr bRetVal t ↔ Readable inet_addr pAddr := by
  by_cases hnull : pAddr = none ∨ pAddr = some ""
  · -- every interface is what is asked for
    have hany : AsksForAny inet_addr pAddr := hnull.imp_right fun he => ⟨"", he, Or.inl rfl⟩
    refine iff_of_true ⟨fun _ => hany, fun hn => absurd hany hn⟩ fun addr haddr => Or.inl ?_
    subst haddr
    simpa using hnull
  obtain ⟨hnone, hempty⟩ := not_or.mp hnull
  obtain ⟨addr, rfl⟩ := Option.ne_none_iff_exists'.mp hnone
  have hne : addr ≠ "" := fun he => hempty (congrArg some he)
  by_cases hrejected : inet_addr addr = INADDR_NONE
  · -- the cleared address is bound to, which is neither the one asked for nor none
    rw [boundAddress, if_neg hne, if_neg (not_not.mpr hrejected)] at h
    refine iff_of_false (fun hasked => ?_) fun hread => (hread addr rfl).elim hne (absurd hrejected)
    have hnot : ¬ AsksForAny inet_addr (some addr) := by
      rintro (hnull | ⟨_, haddr, hasks⟩)
      · cases hnull
      · obtain rfl := Option.some.inj haddr
        rw [hrejected] at hasks
        exact hasks.elim hne (by decide)
    refine hnot (hasked.any ?_)
    rw [h]
    decide
  -- it is read, and the address it stands for is bound to
  · rw [boundAddress, if_neg hne, if_pos hrejected] at h
    refine iff_of_true ⟨fun hmem => ?_, fun _ _ ha => ?_⟩ fun _ ha => Or.inr ?_
    · rw [h, List.mem_singleton] at hmem
      exact Or.inr ⟨addr, rfl, Or.inr hmem.symm⟩
    · obtain rfl := Option.some.inj ha
      exact Or.inl ⟨hrejected, h⟩
    · obtain rfl := Option.some.inj ha
      exact hrejected

/-- **Both operations bind as asked** exactly when the argument is null, empty or a string that
`inet_addr` accepts. -/
theorem binds_asked_iff (o : CSimpleSocket) (os : Os) (pAddr : Option String) (nPort : UInt16) :
    (∀ nConnectionBacklog r t, call (listen pAddr nPort nConnectionBacklog) o os = .done r t →
      (AsAskedFor os.inet_addr pAddr r t.trace ↔ Readable os.inet_addr pAddr)) ∧
    (∀ pGroup r t, call (bindMulticast pAddr pGroup nPort) o os = .done r t →
      (AsAskedFor os.inet_addr pAddr r t.trace ↔ Readable os.inet_addr pAddr)) := by
  refine ⟨fun nConnectionBacklog r t hrun => asAskedFor_iff ?_, fun pGroup r t hrun => asAskedFor_iff ?_⟩
  · exact wp_call (wp_listen_bound pAddr nPort nConnectionBacklog _) hrun
  · exact wp_call (wp_bindMulticast_bound pAddr pGroup nPort _) hrun

end

/-- A process whose `inet_addr` knows one address, and in which every call succeeds. -/
def Os.knowing (addr : String) (s_addr : UInt32) : Os :=
  { Os.idle { setsockopt := [.ok (), .ok ()], bind := [.ok ()], listen := [.ok ()] } with
    inet_addr := fun cp => if cp = addr then s_addr else INADDR_NONE }

/-- A server asked for one address is bound to that. -/
theorem binds_asked_loopback : ∃ t, call (listen (some "127.0.0.1") 80 5)
    (.holding .socketTypeTcp 3) (.knowing "127.0.0.1" 16777343) = .done true t ∧
      AsAskedFor (Os.knowing "127.0.0.1" 16777343).inet_addr (some "127.0.0.1") true t.trace := by
  have hrun : ∃ t, call (listen (some "127.0.0.1") 80 5) (.holding .socketTypeTcp 3)
      (.knowing "127.0.0.1" 16777343) = .done true t := ⟨_, rfl⟩
  obtain ⟨t, ht⟩ := hrun
  refine ⟨t, ht, ((binds_asked_iff _ _ _ _).1 _ _ _ ht).mpr fun addr haddr => Or.inr ?_⟩
  obtain rfl := Option.some.inj haddr
  decide

/-- A server asked for a host name is bound to every interface. -/
theorem binds_unasked_name : ∃ t, call (listen (some "localhost") 80 5) (.holding .socketTypeTcp 3)
    (.knowing "127.0.0.1" 16777343) = .done true t ∧ htonl INADDR_ANY ∈ boundIn t.trace ∧
      ¬ AsAskedFor (Os.knowing "127.0.0.1" 16777343).inet_addr (some "localhost") true t.trace := by
  refine ⟨_, rfl, by decide, fun hasked => ?_⟩
  rcases hasked.any (by decide) with hnull | ⟨addr, haddr, hasks⟩
  · cases hnull
  · obtain rfl := Option.some.inj haddr
    revert hasks
    decide

end ClSocket
