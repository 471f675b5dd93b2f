import ClSocket.Connect.AcceptOnce
import ClSocket.Framework.Monitor
import ClSocket.Framework.Transition
import ClSocket.Method.Modes

/-!
# Whether the cached blocking mode is the real one

`IsNonblocking` reads the member `m_bIsBlocking`, and nothing reads the flag back. The member is
written by `SetBlocking` and `SetNonblocking` together with the flag, and by the constructor;
`Initialize`, which takes a descriptor whose flag is clear, does not write it. So an object that
was made non-blocking and is initialized again says that it is non-blocking when it is not.

`mirrors_iff` says on which runs of any number of objects this cannot be seen: no `Initialize`
takes a descriptor for an object that says it is non-blocking, and no call clears or sets the flag
of a descriptor whose number another object stores in the other mode (`Clash`), as it may after a
`close` that failed. The kernel is the monitor `fileFlags`, which knows of every descriptor
whether the flag is set.
-/

namespace ClSocket

open Prog CSimpleSocket CPassiveSocket Function

/-! ### The kernel -/

/-- The flag among the flags of a descriptor. -/
def hasNonblock (fl : UInt32) : Bool := fl &&& O_NONBLOCK != 0

/-- `SetNonblocking` sets it. -/
theorem hasNonblock_set (fl : UInt32) : hasNonblock (fl ||| O_NONBLOCK) = true := by
  have hbit : (fl ||| O_NONBLOCK) &&& O_NONBLOCK = O_NONBLOCK := by
    refine UInt32.toBitVec_inj.mp ?_
    simp only [UInt32.toBitVec_and, UInt32.toBitVec_or]
    ext i hi
    rw [BitVec.getElem_and, BitVec.getElem_or]
    cases O_NONBLOCK.toBitVec[i] <;> simp
  rw [hasNonblock, hbit]
  decide

/-- `SetBlocking` clears it. -/
theorem hasNonblock_clear (fl : UInt32) : hasNonblock (fl &&& ~~~O_NONBLOCK) = false := by
  have hbit : (fl &&& ~~~O_NONBLOCK) &&& O_NONBLOCK = 0 := by
    refine UInt32.toBitVec_inj.mp ?_
    simp only [UInt32.toBitVec_and, UInt32.toBitVec_not]
    ext i hi
    simp
  rw [hasNonblock, hbit]
  decide

/-- **The kernel**: of every descriptor, whether `O_NONBLOCK` is set. A new one starts without it,
and `F_SETFL` installs the flags it is given or fails. -/
def fileFlags : Monitor (Int → Bool) Event where
  next flags
    | .socket _ _ (.ok fd) => update flags fd false
    | .accept _ (.ok (fd, _)) => update flags fd false
    | .setfl fd fl (.ok _) => update flags fd (hasNonblock fl)
    | _ => flags
  ok _ _ := True

theorem fileFlags_ignores : fileFlags.IgnoresOutside Event.isModal := by
  intro flags e he
  refine ⟨trivial, ?_⟩
  cases e <;> first | rfl | cases he

/-- The modal calls are what the kernel goes by. -/
theorem fileFlags_after (flags : Int → Bool) (t : Trace) :
    fileFlags.after flags t = fileFlags.after flags (modalCalls t) :=
  (Monitor.after_filter fileFlags_ignores flags t).symm

theorem fileFlags_rejections (flags : Int → Bool) (lfd : Int) (fails : List Errno) :
    fileFlags.after flags (rejections lfd fails) = flags := by
  refine Monitor.after_eq_self (fun e he flags => ?_) flags
  obtain ⟨f, -, rfl⟩ := List.mem_map.mp he
  rfl

/-! ### Runs -/

/-- The objects of a program, and the flags of the descriptors. -/
structure Modes where
  objects : ℕ → Option (SocketClass × CSimpleSocket)
  nonblock : Int → Bool

/-- What a program can do. A call names the object that `Accept` would make. -/
inductive ModeAct where
  | construct (i : ℕ) (cls : SocketClass) (nType : CSocketType)
  | call (i : ℕ) (op : Op) (os : Os) (j : ℕ)

/-- The state after a call on the object `i`, with the object it handed out as `j`. -/
def Modes.called (s : Modes) (i j : ℕ) (cls : SocketClass) (client : Option CSimpleSocket)
    (t : State) : Modes where
  objects := update (update s.objects i (some (cls, t.self))) j
    (client.map fun c => (.active, c))
  nonblock := fileFlags.after s.nonblock t.trace

/-- The steps of a program: constructions and operations. -/
inductive ModeStep : Modes → ModeAct → Modes → Prop where
  | construct {s : Modes} {i : ℕ} {cls : SocketClass} {nType : CSocketType} (raw : CSimpleSocket)
      (dead : s.objects i = none) : ModeStep s (.construct i cls nType)
        { s with objects := update s.objects i (some (cls, .construct raw nType)) }
  | call {s : Modes} {i j : ℕ} {cls : SocketClass} {o : CSimpleSocket} {op : Op} {os : Os}
      {ret : Ret} {t : State} (live : s.objects i = some (cls, o)) (has : op.ofClass cls = true)
      (dead : s.objects j = none) (hrun : call (op.run cls) o os = .done ret t) :
      ModeStep s (.call i op os j) (s.called i j cls ret.client t)

/-- **The property**: of a valid socket `IsNonblocking` is the flag of its descriptor. -/
def Mirrors (s : Modes) : Prop :=
  ∀ i cls o, s.objects i = some (cls, o) → o.isSocketValid = true →
    (o.isNonblocking = true ↔ s.nonblock o.m_socket = true)

/-- Another object than `i` stores the number in the other mode. -/
def Clash (s : Modes) (i : ℕ) (fd : Int) (nonblocking : Bool) : Prop :=
  ∃ k cls o, k ≠ i ∧ s.objects k = some (cls, o) ∧ o.isSocketValid = true ∧ o.m_socket = fd ∧
    o.isNonblocking ≠ nonblocking

/-- Both `fcntl` calls are going to succeed. -/
def FlagsTaken (sc : Script) : Prop :=
  (∃ fl, sc.getfl.head? = some (.ok fl)) ∧ sc.setfl.head? = some (.ok ())

/-- **The defect**, of an operation on the object `o`, which is `i`, that may hand out `j`. -/
def Op.Desyncs (s : Modes) (i j : ℕ) (o : CSimpleSocket) (sc : Script) : Op → Prop
  | .initializeSocket => ∃ fd, sc.socket.head? = some (.ok fd) ∧
      (o.isNonblocking = true ∨ Clash s i fd false)
  | .accept _ => o.m_nSocketType = .socketTypeTcp ∧
      ∃ d, decisive sc.accept = some (.ok d) ∧ Clash s j d.1 false
  | .setBlocking => FlagsTaken sc ∧ Clash s i o.m_socket false
  | .setNonblocking => FlagsTaken sc ∧ Clash s i o.m_socket true
  | _ => False

/-- The step takes the cached mode away from the real one. -/
def ModeAct.Desyncs (s : Modes) : ModeAct → Prop
  | .construct _ _ _ => False
  | .call i op os j => ∃ cls o, s.objects i = some (cls, o) ∧ op.Desyncs s i j o os.script

/-! ### One operation -/

section

variable {o : CSimpleSocket} {os : Os} {t : State} {ret : Ret} {cls : SocketClass} {op : Op}

/-- The operations that neither take a descriptor nor set the mode. -/
def Op.keepsFlags : Op → Bool
  | .initializeSocket | .setBlocking | .setNonblocking | .accept _ => false
  | _ => true

/-- They leave the cached mode and the flags alone. -/
theorem flags_of_call (hop : op.keepsFlags = true) (flags : Int → Bool)
    (hrun : call (op.run cls) o os = .done ret t) :
    t.self.m_bIsBlocking = o.m_bIsBlocking ∧ fileFlags.after flags t.trace = flags := by
  rw [fileFlags_after]
  by_cases hk : op.keepsModes = true
  · have hsame := wp_call (sameModes_run cls hk ⟨o, os, []⟩) hrun
    refine ⟨blocking_of_modes hsame.1, ?_⟩
    rw [hsame.2]
    rfl
  cases op with
  | initializeSocket => cases hop
  | setBlocking => cases hop
  | setNonblocking => cases hop
  | accept => cases hop
  | setMulticast b ttl =>
    obtain ⟨r, hr, -⟩ := call_done hrun
    obtain ⟨-, hblocking, -, hcalls⟩ := wp_call (wp_setMulticast_modes b ttl _) hr
    refine ⟨hblocking, ?_⟩
    rw [hcalls]
    rfl
  -- the option calls are modal, but no call of `fileFlags`
  | disableNagleAlgoritm =>
    obtain ⟨r, hr, -⟩ := call_done hrun
    obtain ⟨hmodes, res, -, hcalls⟩ := wp_call (wp_setOption_modes _ _ _) hr
    refine ⟨blocking_of_modes hmodes, ?_⟩
    rw [hcalls]
    rfl
  | enableNagleAlgoritm =>
    obtain ⟨r, hr, -⟩ := call_done hrun
    obtain ⟨hmodes, res, -, hcalls⟩ := wp_call (wp_setOption_modes _ _ _) hr
    refine ⟨blocking_of_modes hmodes, ?_⟩
    rw [hcalls]
    rfl
  | listen addr port backlog =>
    obtain ⟨r, hr, -⟩ := call_done hrun
    obtain ⟨hmodes, res, -, hcalls⟩ := wp_call (wp_listen_modes addr port backlog _) hr
    refine ⟨blocking_of_modes hmodes, ?_⟩
    rw [hcalls]
    rfl
  | _ => exact absurd rfl hk

/-- They hand out no object. -/
theorem client_of_keepsFlags (hop : op.keepsFlags = true)
    (hrun : call (op.run cls) o os = .done ret t) : ret.client = none := by
  have hclient := effect_of_call hrun
  generalize handles t.trace = calls at hclient
  generalize t.self.m_socket = fd at hclient
  generalize ret.client = client at hclient ⊢
  cases hclient with
  | accepted => cases hop
  | _ => rfl

/-- **`Accept`**: what it does to the flags, and the object it hands out. -/
inductive AcceptFlags (o : CSimpleSocket) (sc : Script) (flags : Int → Bool) :
    Option CSimpleSocket → (Int → Bool) → Prop where
  | refused (missed : o.m_nSocketType = .socketTypeTcp → ∀ d, decisive sc.accept ≠ some (.ok d)) :
      AcceptFlags o sc flags none flags
  | taken (raw : CSimpleSocket) (fd : ℕ) (peer : SockaddrIn) (name : Answer SockaddrIn)
      (tcp : o.m_nSocketType = .socketTypeTcp) (taken : decisive sc.accept = some (.ok (fd, peer))) :
      AcceptFlags o sc flags (some (accepted raw fd peer name)) (update flags fd false)

theorem flags_of_accept {raw : CSimpleSocket} {r : Option CSimpleSocket} (flags : Int → Bool)
    (hrun : call (accept raw) o os = .done r t) :
    t.self.m_bIsBlocking = o.m_bIsBlocking ∧
      AcceptFlags o os.script flags r (fileFlags.after flags t.trace) := by
  refine ⟨blocking_of_modes (wp_call (wp_accept_modes raw _) hrun), ?_⟩
  obtain ⟨-, fails, h⟩ := wp_call (wp_accept raw _) hrun
  by_cases htcp : o.m_nSocketType = .socketTypeTcp
  · obtain ⟨p, u, hend, -, -, hr⟩ := wp_call (wp_accept_end raw htcp) hrun
    cases hend with
    | refused _ pre rest e hpre hfinal hahead =>
      obtain rfl : r = none := hr.trans (if_neg (translateErrno_ne_success e))
      obtain ⟨-, htrace⟩ := h
      rw [show t.trace = _ from htrace, List.nil_append, fileFlags_rejections]
      refine .refused fun _ d hd => ?_
      rw [show os.script.accept = _ from hahead,
        decisive_append hpre (by simpa [Answer.interrupted] using hfinal)] at hd
      cases hd
    | taken _ pre rest fd peer name hpre hahead =>
      obtain rfl : r = some (accepted raw fd peer name) := hr.trans (if_pos rfl)
      obtain ⟨fd', peer', name'', name', hclient, htrace⟩ := h
      -- the connection of the trace is that of the object
      have hfd : fd' = fd := by
        have hsocket := congrArg m_socket hclient
        exact (Int.ofNat_inj.mp hsocket).symm
      rw [show t.trace = _ from htrace, List.nil_append, Monitor.after_append,
        fileFlags_rejections, hfd]
      refine .taken raw fd peer name htcp ?_
      rw [show os.script.accept = _ from hahead]
      exact decisive_append hpre rfl
  · obtain ⟨rfl, -⟩ := wp_call (wp_accept_unsupported raw htcp) hrun
    obtain ⟨-, htrace⟩ := h
    rw [show t.trace = _ from htrace, List.nil_append, fileFlags_rejections]
    exact .refused fun h => absurd h htcp

end

/-! ### One step -/

/-- What the property asks of one object. -/
def MirrorsOne (flags : Int → Bool) (o : CSimpleSocket) : Prop :=
  o.isSocketValid = true → (o.isNonblocking = true ↔ flags o.m_socket = true)

/-- An object that did not touch its mode, against flags that did not change for it. -/
theorem MirrorsOne.of_kept {flags : Int → Bool} {o u : CSimpleSocket} (h : MirrorsOne flags o)
    (hblocking : u.m_bIsBlocking = o.m_bIsBlocking)
    (hsocket : u.m_socket = o.m_socket ∨ u.m_socket = -1) : MirrorsOne flags u := by
  intro hvalid
  have hsame : u.m_socket = o.m_socket :=
    hsocket.resolve_right (isSocketValid_iff.mp hvalid)
  have hvalid' : o.isSocketValid = true := by
    rw [isSocketValid_iff, ← hsame]
    exact isSocketValid_iff.mp hvalid
  rw [isNonblocking, hblocking, hsame]
  exact h hvalid'

section

variable {s : Modes} {i j : ℕ} {cls : SocketClass} {o : CSimpleSocket}
  {client : Option CSimpleSocket} {t : State}

theorem Modes.called_objects : (s.called i j cls client t).objects =
    update (update s.objects i (some (cls, t.self))) j (client.map fun c => (.active, c)) := rfl

theorem Modes.called_of_ne {k : ℕ} (hi : k ≠ i) (hj : k ≠ j) :
    (s.called i j cls client t).objects k = s.objects k := by
  rw [Modes.called_objects, update_of_ne hj, update_of_ne hi]

/-- **After a call** the property is about the object, the one it handed out, and the others. -/
theorem mirrors_called (live : s.objects i = some (cls, o)) (dead : s.objects j = none) :
    Mirrors (s.called i j cls client t) ↔
      MirrorsOne (fileFlags.after s.nonblock t.trace) t.self ∧
      (∀ c, client = some c → MirrorsOne (fileFlags.after s.nonblock t.trace) c) ∧
      ∀ k cls' o', k ≠ i → s.objects k = some (cls', o') →
        MirrorsOne (fileFlags.after s.nonblock t.trace) o' := by
  -- the place of the new object is free, so it is not the one of the caller
  have hne : i ≠ j := by
    rintro rfl
    rw [live] at dead
    cases dead
  have hself : (s.called i j cls client t).objects i = some (cls, t.self) := by
    rw [Modes.called_objects, update_of_ne hne, update_self]
  have hclient : (s.called i j cls client t).objects j = client.map fun c => (.active, c) := by
    rw [Modes.called_objects, update_self]
  constructor
  · intro h
    refine ⟨h i cls t.self hself, fun c hc => h j .active c ?_, fun k cls' o' hk hlive => ?_⟩
    · rw [hclient, hc]
      rfl
    · have hkj : k ≠ j := by
        rintro rfl
        rw [dead] at hlive
        cases hlive
      exact h k cls' o' (by rw [Modes.called_of_ne hk hkj]; exact hlive)
  · rintro ⟨hone, hnew, hothers⟩ k cls' o' hlive
    -- an object afterwards is the caller, the one handed out, or one of the others
    by_cases hi : k = i
    · subst hi
      rw [hself] at hlive
      cases hlive
      exact hone
    by_cases hj : k = j
    · subst hj
      rw [hclient] at hlive
      obtain ⟨c, hc, heq⟩ := Option.map_eq_some_iff.mp hlive
      cases heq
      exact hnew _ hc
    · rw [Modes.called_of_ne hi hj] at hlive
      exact hothers k cls' o' hi hlive

/-- The other objects, when the flag of a descriptor has been written. -/
theorem others_iff {fd : Int} {b : Bool} (hs : Mirrors s) :
    (∀ k cls' o', k ≠ i → s.objects k = some (cls', o') →
      MirrorsOne (update s.nonblock fd b) o') ↔ ¬ Clash s i fd b := by
  constructor
  · rintro h ⟨k, cls', o', hk, hlive, hvalid, hfd, hne⟩
    have hone := h k cls' o' hk hlive hvalid
    rw [hfd, update_self] at hone
    exact hne (Bool.eq_iff_iff.mpr hone)
  · intro hno k cls' o' hk hlive hvalid
    -- the flag was written for the descriptors of that number, and for no other
    by_cases hfd : o'.m_socket = fd
    · have heq : o'.isNonblocking = b := by
        by_contra hne
        exact hno ⟨k, cls', o', hk, hlive, hvalid, hfd, hne⟩
      rw [hfd, update_self, heq]
    · rw [update_of_ne hfd]
      exact hs k cls' o' hlive hvalid

/-- `Initialize`: a descriptor that was taken has to be that of an object that says so. -/
theorem mirrors_initialize {os : Os} {ret : Ret} (hs : Mirrors s)
    (live : s.objects i = some (cls, o)) (dead : s.objects j = none)
    (hrun : call (Op.initializeSocket.run cls) o os = .done ret t) :
    Mirrors (s.called i j cls ret.client t) ↔ ¬ Op.initializeSocket.Desyncs s i j o os.script := by
  obtain ⟨r, hr, rfl⟩ := call_done hrun
  obtain ⟨hmodes, res, hanswer, hsocket, hcalls⟩ := wp_call (wp_initializeSocket_modes _) hr
  have hblocking : t.self.m_bIsBlocking = o.m_bIsBlocking := blocking_of_modes hmodes
  have hanswer : os.script.socket.head? = some res := hanswer
  rw [mirrors_called live dead, fileFlags_after, hcalls]
  show _ ↔ ¬ ∃ fd, os.script.socket.head? = some (.ok fd) ∧ (o.isNonblocking = true ∨ Clash s i fd false)
  cases res with
  | ok fd =>
    have hafter : fileFlags.after s.nonblock
        (modalCalls [] ++ [.socket o.m_nSocketDomain o.m_nSocketType.code (.ok fd)]) =
          update s.nonblock fd false := rfl
    rw [show (⟨o, os, []⟩ : State).trace = [] from rfl, hafter, others_iff hs]
    -- the new descriptor is blocking, so the member has to say that too
    have hself : MirrorsOne (update s.nonblock fd false) t.self ↔ ¬ o.isNonblocking = true := by
      have hvalid : t.self.isSocketValid = true := by
        rw [isSocketValid_iff, hsocket, Answer.ret_ok]
        omega
      have hmode : t.self.isNonblocking = o.isNonblocking := by
        rw [isNonblocking, isNonblocking, hblocking]
      unfold MirrorsOne
      rw [hsocket, Answer.ret_ok, update_self, hmode]
      simp [hvalid]
    rw [hself]
    constructor
    · rintro ⟨hmode, -, hclash⟩ ⟨fd', hfd', hwhy⟩
      rw [hanswer] at hfd'
      cases hfd'
      exact hwhy.elim hmode hclash
    · intro hno
      refine ⟨fun hmode => hno ⟨fd, hanswer, Or.inl hmode⟩, fun c hc => ?_,
        fun hclash => hno ⟨fd, hanswer, Or.inr hclash⟩⟩
      cases hc
  | fail e =>
    refine iff_of_true ⟨fun hvalid => ?_, fun c hc => ?_, fun k cls' o' _ hlive => hs k cls' o' hlive⟩ ?_
    · exact absurd hsocket (isSocketValid_iff.mp hvalid)
    · cases hc
    · rintro ⟨fd, hfd, -⟩
      rw [hanswer] at hfd
      cases hfd

/-- `SetBlocking` and `SetNonblocking` set the member and the flag together. -/
theorem mirrors_setFlags {os : Os} {r : Bool} {change : UInt32 → UInt32} {blocking : Bool}
    (hs : Mirrors s) (live : s.objects i = some (cls, o)) (dead : s.objects j = none)
    (hchange : ∀ fl, hasNonblock (change fl) = !blocking)
    (hrun : call (setFlags change blocking) o os = .done r t) :
    Mirrors (s.called i j cls none t) ↔ ¬ (FlagsTaken os.script ∧ Clash s i o.m_socket (!blocking)) := by
  obtain ⟨evs, hcase, hcalls⟩ := wp_call (wp_setFlags_modes change blocking _) hrun
  have hquiet := wp_call (quiet_setFlags change blocking _) hrun
  have hsocket : t.self.m_socket = o.m_socket := hquiet.steady.socket
  have hcalls : modalCalls t.trace = evs := hcalls
  rw [mirrors_called live dead, fileFlags_after, hcalls]
  generalize hu : t.self = u at hcase hsocket
  have hnew : ∀ (flags : Int → Bool) c, (none : Option CSimpleSocket) = some c → MirrorsOne flags c :=
    fun _ _ hc => absurd hc (Option.some_ne_none _).symm
  -- a call that failed leaves everything as it was
  have hsame : u.m_bIsBlocking = o.m_bIsBlocking → MirrorsOne s.nonblock u :=
    fun h => MirrorsOne.of_kept (hs i cls o live) h (Or.inl hsocket)
  cases hcase with
  | unread _ e hmodes answer =>
    refine iff_of_true ⟨hsame (blocking_of_modes hmodes), hnew _,
      fun k cls' o' _ hlive => hs k cls' o' hlive⟩ ?_
    rintro ⟨⟨⟨fl, hfl⟩, -⟩, -⟩
    rw [show os.script.getfl.head? = _ from answer] at hfl
    cases hfl
  | unset _ fl e hmodes answer =>
    refine iff_of_true ⟨hsame (blocking_of_modes hmodes), hnew _,
      fun k cls' o' _ hlive => hs k cls' o' hlive⟩ ?_
    rintro ⟨⟨-, hset⟩, -⟩
    rw [show os.script.setfl.head? = _ from answer] at hset
    cases hset
  | set _ fl hblocking read answer =>
    have hafter : fileFlags.after s.nonblock [.getfl o.m_socket (.ok fl),
        .setfl o.m_socket (change fl) (.ok ())] = update s.nonblock o.m_socket (!blocking) := by
      rw [← hchange fl]
      rfl
    have htaken : FlagsTaken os.script := ⟨⟨fl, read⟩, answer⟩
    rw [show (⟨o, os, []⟩ : State).self = o from rfl, hafter, others_iff hs]
    -- the member and the flag were set to the same mode
    have hself : MirrorsOne (update s.nonblock o.m_socket (!blocking)) u := by
      intro _
      rw [hsocket, update_self, isNonblocking, hblocking]
    constructor
    · rintro ⟨-, -, hclash⟩ ⟨-, hwhy⟩
      exact hclash hwhy
    · exact fun hno => ⟨hself, hnew _, fun hclash => hno ⟨htaken, hclash⟩⟩

/-- `Accept`: the object it hands out is blocking, and so is its descriptor. -/
theorem mirrors_accept {os : Os} {r : Option CSimpleSocket} {raw : CSimpleSocket} (hs : Mirrors s)
    (live : s.objects i = some (cls, o)) (dead : s.objects j = none)
    (hrun : call (accept raw) o os = .done r t) :
    Mirrors (s.called i j cls r t) ↔ ¬ (Op.accept raw).Desyncs s i j o os.script := by
  obtain ⟨hblocking, hflags⟩ := flags_of_accept s.nonblock hrun
  have hsocket : t.self.m_socket = o.m_socket := (wp_call (wp_accept raw _) hrun).1.socket
  rw [mirrors_called live dead]
  show _ ↔ ¬ (o.m_nSocketType = .socketTypeTcp ∧
    ∃ d, decisive os.script.accept = some (.ok d) ∧ Clash s j d.1 false)
  generalize fileFlags.after s.nonblock t.trace = flags at hflags ⊢
  cases hflags with
  -- nothing was accepted, and no flag was written
  | refused hmissed =>
    refine iff_of_true ⟨?_, fun c hc => ?_, fun k cls' o' _ hlive => hs k cls' o' hlive⟩ ?_
    · exact MirrorsOne.of_kept (hs i cls o live) hblocking (Or.inl hsocket)
    · cases hc
    · rintro ⟨htcp, d, hd, -⟩
      exact hmissed htcp d hd
  | taken raw fd peer name htcp htaken =>
    -- the number is new to all objects there were, the listener among them
    have hall : (MirrorsOne (update s.nonblock fd false) t.self ∧ ∀ k cls' o', k ≠ i →
        s.objects k = some (cls', o') → MirrorsOne (update s.nonblock fd false) o') ↔
        ∀ k cls' o', k ≠ j → s.objects k = some (cls', o') →
          MirrorsOne (update s.nonblock fd false) o' := by
      constructor
      · rintro ⟨hone, hothers⟩ k cls' o' _ hlive
        by_cases hk : k = i
        · subst hk
          rw [live] at hlive
          cases hlive
          exact hone.of_kept hblocking.symm (Or.inl hsocket.symm)
        · exact hothers k cls' o' hk hlive
      · intro h
        have hij : i ≠ j := by
          rintro rfl
          rw [live] at dead
          cases dead
        refine ⟨(h i cls o hij live).of_kept hblocking (Or.inl hsocket), fun k cls' o' _ hlive => ?_⟩
        refine h k cls' o' ?_ hlive
        rintro rfl
        rw [dead] at hlive
        cases hlive
    -- the new object is constructed as blocking
    have hnew : ∀ c, some (accepted raw fd peer name) = some c →
        MirrorsOne (update s.nonblock fd false) c := by
      intro c hc _
      rw [← Option.some.inj hc, show (accepted raw fd peer name).m_socket = (fd : Int) from rfl,
        update_self]
      exact Iff.rfl
    rw [and_left_comm, and_iff_right hnew, hall, others_iff hs]
    constructor
    · rintro hclash ⟨-, d, hd, hwhy⟩
      rw [htaken] at hd
      cases hd
      exact hclash hwhy
    · exact fun hno hclash => hno ⟨htcp, _, htaken, hclash⟩

end

/-- **One step** keeps the cached modes right exactly when it has none of the defects. -/
theorem ModeStep.mirrors_post_iff {s s' : Modes} {a : ModeAct} (h : ModeStep s a s') (hs : Mirrors s) :
    Mirrors s' ↔ ¬ a.Desyncs s := by
  cases h with
  | @construct i cls nType raw dead =>
    refine iff_of_true (fun k cls' o' hlive hvalid => ?_) id
    have hlive : update s.objects i (some (cls, .construct raw nType)) k = some (cls', o') := hlive
    by_cases hk : k = i
    · -- a new object has no descriptor
      subst hk
      rw [update_self] at hlive
      cases hlive
      exact absurd hvalid (by simp [CSimpleSocket.construct, INVALID_SOCKET])
    · rw [update_of_ne hk] at hlive
      exact hs k cls' o' hlive hvalid
  | @call i j cls o op os ret t live has dead hrun =>
    -- the object the act names is the one that lives there
    have hdesyncs : ModeAct.Desyncs s (.call i op os j) ↔ op.Desyncs s i j o os.script := by
      constructor
      · rintro ⟨cls', o', hlive, hwhy⟩
        rw [live] at hlive
        cases hlive
        exact hwhy
      · exact fun hwhy => ⟨cls, o, live, hwhy⟩
    rw [hdesyncs]
    -- most operations write neither the member nor a flag, at most the descriptor
    by_cases hk : op.keepsFlags = true
    · have hno : ¬ op.Desyncs s i j o os.script := by
        cases op <;> first | exact id | cases hk
      obtain ⟨hblocking, hflags⟩ := flags_of_call hk s.nonblock hrun
      refine iff_of_true ((mirrors_called live dead).mpr ?_) hno
      rw [hflags]
      refine ⟨?_, fun c hc => ?_, fun k cls' o' _ hlive => hs k cls' o' hlive⟩
      · refine MirrorsOne.of_kept (hs i cls o live) hblocking (socket_of_call ?_ hrun)
        rintro rfl
        cases hk
      · rw [client_of_keepsFlags hk hrun] at hc
        cases hc
    cases op with
    | initializeSocket => exact mirrors_initialize hs live dead hrun
    | setBlocking =>
      obtain ⟨r, hr, rfl⟩ := call_done hrun
      exact mirrors_setFlags hs live dead hasNonblock_clear hr
    | setNonblocking =>
      obtain ⟨r, hr, rfl⟩ := call_done hrun
      exact mirrors_setFlags hs live dead hasNonblock_set hr
    | accept raw =>
      obtain ⟨r, hr, rfl⟩ := call_done hrun
      exact mirrors_accept hs live dead hr
    | _ => exact absurd rfl hk

/-- **The cached blocking mode is the real one** in every state of a run exactly when no step of
it has the defect. -/
theorem mirrors_iff {nonblock : Int → Bool} {steps : List (Taken Modes ModeAct)} {s : Modes}
    (hrun : Run ModeStep ⟨fun _ => .none, nonblock⟩ steps s) :
    (∀ x ∈ steps, Mirrors x.post) ↔ ∀ x ∈ steps, ¬ x.label.Desyncs x.pre :=
  Run.forall_iff Mirrors (fun _ _ s' => Mirrors s') (fun s a _ => ¬ a.Desyncs s)
    (fun _ _ _ h hs => h.mirrors_post_iff hs) (fun _ _ _ h hs hc => (h.mirrors_post_iff hs).mpr hc) hrun
    (fun _ _ _ h => by cases h)

/-! ### An object that is initialized twice -/

/-- A program that has not started. -/
def noObjects : Modes := ⟨fun _ => none, fun _ => false⟩

/-- It makes an object. -/
def oneObject : Modes :=
  { noObjects with objects := update noObjects.objects 0 (some (.active, .construct .zeroed .socketTypeTcp)) }

/-- The kernel gives out the number 3, knows a flag of its own, and closes. -/
def obliging : Os := .idle { socket := [.ok 3], getfl := [.ok 2], setfl := [.ok ()], close := [.ok ()] }

/-- The object 0 of these modes. -/
def Modes.first (s : Modes) : CSimpleSocket := ((s.objects 0).map Prod.snd).getD .zeroed

/-- The modes after an operation on it. -/
def Modes.then (s : Modes) (op : Op) : Modes :=
  s.called 0 1 .active none (call (op.run .active) s.first obliging).state

/-- There is no other object. -/
def Modes.Alone (s : Modes) : Prop := ∀ k, k ≠ 0 → s.objects k = none

theorem Modes.Alone.then {s : Modes} (h : s.Alone) (op : Op) : (s.then op).Alone := by
  intro k hk
  by_cases h1 : k = 1
  · subst h1
    rw [Modes.then, Modes.called_objects, update_self]
    rfl
  · exact (Modes.called_of_ne hk h1).trans (h k hk)

theorem Modes.Alone.not_clash {s : Modes} (h : s.Alone) {fd : Int} {b : Bool} :
    ¬ Clash s 0 fd b := by
  rintro ⟨k, cls, o, hk, hlive, -⟩
  rw [h k hk] at hlive
  cases hlive

theorem alone_oneObject : oneObject.Alone := fun _ hk => update_of_ne hk _ _

theorem Modes.then_step {s : Modes} {op : Op} {r : Bool}
    (live : s.objects 0 = some (.active, s.first)) (has : op.ofClass .active = true)
    (dead : s.objects 1 = none) (hrun : call (op.run .active) s.first obliging =
      .done (.bool r) (call (op.run .active) s.first obliging).state) :
    ModeStep s (.call 0 op obliging 1) (s.then op) := .call live has dead hrun

def Modes.initialized : Modes := oneObject.then .initializeSocket

def Modes.nonblocking : Modes := Modes.initialized.then .setNonblocking

def Modes.closed : Modes := Modes.nonblocking.then .close

def Modes.reinitialized : Modes := Modes.closed.then .initializeSocket

/-- The object is initialized and made non-blocking. -/
def switching : List (Taken Modes ModeAct) :=
  [⟨noObjects, .construct 0 .active .socketTypeTcp, oneObject⟩,
    ⟨oneObject, .call 0 .initializeSocket obliging 1, Modes.initialized⟩,
    ⟨Modes.initialized, .call 0 .setNonblocking obliging 1, Modes.nonblocking⟩]

/-- It is closed and initialized again. -/
def switchingAgain : List (Taken Modes ModeAct) :=
  switching ++ [⟨Modes.nonblocking, .call 0 .close obliging 1, Modes.closed⟩,
    ⟨Modes.closed, .call 0 .initializeSocket obliging 1, Modes.reinitialized⟩]

theorem run_switching : Run ModeStep noObjects switching Modes.nonblocking := by
  refine .cons (.construct .zeroed rfl) (.cons ?_ (.cons ?_ (.nil _)))
  · exact Modes.then_step rfl rfl rfl rfl
  · exact Modes.then_step rfl rfl rfl rfl

theorem run_switchingAgain : Run ModeStep noObjects switchingAgain Modes.reinitialized := by
  refine run_switching.append (.cons ?_ (.cons ?_ (.nil _)))
  · exact Modes.then_step rfl rfl rfl rfl
  · exact Modes.then_step rfl rfl rfl rfl

/-- The first three steps are right. -/
theorem mirrors_switching : Run ModeStep noObjects switching Modes.nonblocking ∧
    ∀ x ∈ switching, Mirrors x.post := by
  refine ⟨run_switching, (mirrors_iff run_switching).mpr fun x hx => ?_⟩
  simp only [switching, List.mem_cons, List.not_mem_nil, or_false] at hx
  rcases hx with rfl | rfl | rfl
  · exact id
  · -- a new object says that it is blocking
    rintro ⟨cls, o, hlive, fd, -, hmode | hclash⟩
    · cases hlive
      cases hmode
    · exact alone_oneObject.not_clash hclash
  · rintro ⟨cls, o, -, -, hclash⟩
    exact (alone_oneObject.then .initializeSocket).not_clash hclash

/-- The object says that it is non-blocking, and its new descriptor is not. -/
theorem not_mirrors_switchingAgain : Run ModeStep noObjects switchingAgain Modes.reinitialized ∧
    ¬ ∀ x ∈ switchingAgain, Mirrors x.post := by
  refine ⟨run_switchingAgain, fun h => ?_⟩
  have hlast := h ⟨Modes.closed, .call 0 .initializeSocket obliging 1, Modes.reinitialized⟩
    (by simp [switchingAgain]) 0 .active Modes.reinitialized.first rfl rfl
  exact absurd (hlast.mp rfl) (by decide)

end ClSocket
