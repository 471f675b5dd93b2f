import ClSocket.Descriptor.Effect
import ClSocket.Timing.Elapsed

/-!
# The timed section of an operation

Seven operations take the time of what they do: they clear the timer, read the clock for its start,
go about it, and read the clock for its end. What lies between the readings does not touch the timer
(`Untimed`, closed under everything methods are made of), so each leaves a timer whose two times are
readings of its own, the start's first (`Timed`).

`BindMulticast` does it the other way round. It reads the clock for the end, then clears the timer and
reads the clock for the start, so that its end is zero and no reading at all
(`wp_bindMulticast_timer`).
-/

namespace ClSocket

open Prog CSimpleSocket CActiveSocket CPassiveSocket

/-- Neither the timer nor the clock has been touched. -/
def Untimed (s t : State) : Prop :=
  t.self.m_timer = s.self.m_timer ∧ t.os.clock = s.os.clock ∧ t.os.ticks = s.os.ticks

instance : Std.Refl Untimed := ⟨fun _ => ⟨rfl, rfl, rfl⟩⟩

instance : IsTrans State Untimed :=
  ⟨fun _ _ _ h₁ h₂ => ⟨h₂.1.trans h₁.1, h₂.2.1.trans h₁.2.1, h₂.2.2.trans h₁.2.2⟩⟩

/-- The start has been read, as the first reading since `s`. -/
def Started (s t : State) : Prop :=
  t.os.clock = s.os.clock ∧ t.os.ticks = s.os.ticks + 1 ∧
    t.self.m_timer.m_startTime = s.os.clock s.os.ticks ∧ t.self.m_timer.startedAt = some s.os.ticks

/-- Both times are readings from `first` on and before `last`, the start's not after the end's. -/
def TimedBy (clock : ℕ → Timeval) (first last : ℕ) (tm : TrackedTimer) : Prop :=
  ∃ i j, first ≤ i ∧ i ≤ j ∧ j < last ∧
    (tm.m_startTime = clock i ∧ tm.startedAt = some i) ∧ tm.m_endTime = clock j ∧ tm.endedAt = some j

/-- The clock was not read and the timer not touched, or both its times are readings since `s`. -/
def Timed (s t : State) : Prop :=
  Untimed s t ∨ t.os.clock = s.os.clock ∧ s.os.ticks < t.os.ticks ∧
    TimedBy s.os.clock s.os.ticks t.os.ticks t.self.m_timer

/-- What comes before a timed section. -/
theorem Timed.after {s s' t : State} (h : Timed s' t) (hs : Untimed s s') : Timed s t := by
  rcases h with h | h
  · exact Or.inl (IsTrans.trans _ _ _ hs h)
  · refine Or.inr ?_
    rw [← hs.2.1, ← hs.2.2]
    exact h

/-- What comes after it. -/
theorem Timed.before {s t t' : State} (h : Timed s t) (ht : Untimed t t') : Timed s t' := by
  rcases h with h | h
  · exact Or.inl (IsTrans.trans _ _ _ h ht)
  · refine Or.inr ?_
    rw [ht.1, ht.2.1, ht.2.2]
    exact h

/-- What is timed. -/
theorem Started.during {s t t' : State} (h : Started s t) (ht : Untimed t t') : Started s t' := by
  rw [Started, ht.1, ht.2.1, ht.2.2]
  exact h

/-- The end has been read. -/
theorem Started.ended {s t u : State} (h : Started s t) (hclock : u.os.clock = t.os.clock)
    (hticks : u.os.ticks = t.os.ticks + 1)
    (htimer : u.self.m_timer = t.self.m_timer.ended (t.os.clock t.os.ticks) t.os.ticks) :
    Timed s u := by
  obtain ⟨hc, hn, hstart⟩ := h
  refine Or.inr ⟨hclock.trans hc, by omega, s.os.ticks, s.os.ticks + 1, le_rfl, by omega, by omega, ?_⟩
  rw [htimer, hc, hn]
  exact ⟨hstart, rfl, rfl⟩

/-! ### What lies between the readings -/

theorem untimed_assign {f : CSimpleSocket → CSimpleSocket} (h : ∀ o, (f o).m_timer = o.m_timer) :
    Keeps Untimed (assign f) := fun s => ⟨h s.self, rfl, rfl⟩

theorem untimed_issue {α : Type} {queue : Script → List (Answer α)}
    {put : List (Answer α) → Script → Script} {ev : Answer α → Event} :
    Keeps Untimed (issue queue put ev) := fun s => by
  rw [wp_issue_iff]
  exact ⟨fun _ => Std.Refl.refl s, fun _ _ _ => ⟨rfl, rfl, rfl⟩⟩

theorem untimed_setSocketError (error : CSocketError) : Keeps Untimed (setSocketError error) :=
  untimed_assign fun _ => rfl

theorem untimed_translateSocketError : Keeps Untimed translateSocketError := fun _ => ⟨rfl, rfl, rfl⟩

theorem untimed_setErrno (e : Int) : Keeps Untimed (setErrno e) := fun _ => ⟨rfl, rfl, rfl⟩

theorem untimed_getErrno : Keeps Untimed getErrno := fun _ => ⟨rfl, rfl, rfl⟩

theorem untimed_deleteBuffer : Keeps Untimed deleteBuffer := fun _ => ⟨rfl, rfl, rfl⟩

theorem untimed_closeSocket : Keeps Untimed closeSocket := by
  have hhandle : Keeps Untimed closeHandle := by
    refine keeps_bind keeps_this fun _ => keeps_bind untimed_issue fun res => ?_
    cases res with
    | ok _ => exact keeps_bind (untimed_assign fun _ => rfl) fun _ => keeps_pure _
    | fail _ => exact keeps_pure _
  exact keeps_bind untimed_deleteBuffer fun _ => keeps_bind keeps_this fun _ =>
    keeps_bind (keeps_ite hhandle (keeps_pure _)) fun _ =>
      keeps_bind untimed_translateSocketError fun _ => keeps_pure _

theorem untimed_fillSets : Keeps Untimed fillSets := by
  intro s
  rw [wp_fillSets]
  exact ⟨fun _ => ⟨rfl, rfl, rfl⟩, fun _ => ⟨rfl, rfl, rfl⟩⟩

theorem untimed_select (nTimeoutSec nTimeoutUSec : Int) :
    Keeps Untimed (select nTimeoutSec nTimeoutUSec) := by
  have hsets : ∀ timeout, Keeps Untimed (selectSets timeout) := by
    intro timeout
    refine keeps_bind untimed_fillSets fun _ => keeps_bind keeps_this fun _ =>
      keeps_bind untimed_issue fun res => ?_
    cases res with
    | ok _ => exact keeps_bind (untimed_assign fun _ => rfl) fun _ => keeps_pure _
    | fail _ => exact keeps_pure _
  refine keeps_bind (hsets _) fun _ =>
    keeps_bind keeps_this fun _ => keeps_ite
      (keeps_bind (untimed_setSocketError _) fun _ => keeps_pure _)
      (keeps_ite (keeps_bind untimed_issue fun res => ?_) (keeps_pure _))
  cases res with
  | ok nError =>
    exact keeps_bind (untimed_setErrno _) fun _ =>
      keeps_bind untimed_translateSocketError fun _ => keeps_pure _
  | fail _ => exact keeps_bind untimed_translateSocketError fun _ => keeps_pure _

theorem untimed_resolve (pAddr : String) (nPort : UInt16) : Keeps Untimed (resolve pAddr nPort) := by
  intro s
  simp [resolve, Untimed, State.answered, State.withHErrno]

theorem untimed_awaitTCP (res : Answer Unit) : Keeps Untimed (awaitTCP res) := by
  refine keeps_bind untimed_translateSocketError fun _ => ?_
  cases res with
  | ok _ => exact keeps_pure _
  | fail _ => exact keeps_bind keeps_this fun _ => keeps_ite (untimed_select _ _) (keeps_pure _)

theorem untimed_storeEndpoints : Keeps Untimed storeEndpoints :=
  keeps_bind (untimed_assign fun _ => rfl) fun _ => keeps_bind keeps_this fun _ =>
    keeps_bind untimed_issue fun peer =>
      keeps_bind (untimed_assign fun _ => by cases peer <;> rfl) fun _ =>
        keeps_bind (untimed_assign fun _ => rfl) fun _ => keeps_bind untimed_issue fun name =>
          keeps_bind (untimed_assign fun _ => by cases name <;> rfl) fun _ =>
            untimed_setSocketError _

theorem untimed_bindAddress (pAddr : Option String) : Keeps Untimed (bindAddress pAddr) :=
  fun s => (wp_bindAddress pAddr).mpr (Std.Refl.refl s)

theorem untimed_listenOptions : Keeps Untimed listenOptions :=
  keeps_bind keeps_this fun _ => keeps_bind untimed_issue fun _ =>
    keeps_bind untimed_issue fun _ => keeps_pure _

theorem untimed_bindAndListen (nConnectionBacklog : Int) :
    Keeps Untimed (bindAndListen nConnectionBacklog) := by
  refine keeps_bind keeps_this fun _ => keeps_bind untimed_issue fun res => ?_
  cases res with
  | fail _ => exact keeps_pure _
  | ok _ => exact keeps_ite (keeps_bind untimed_issue fun _ => keeps_pure _) (keeps_pure _)

theorem untimed_closeKeepingError : Keeps Untimed closeKeepingError :=
  keeps_bind keeps_this fun _ => keeps_bind untimed_closeSocket fun _ => untimed_setSocketError _

theorem untimed_acceptRound (client : CSimpleSocket) : Keeps Untimed (acceptRound client) := by
  have hstore : ∀ client, Keeps Untimed (storeAccepted client) := by
    refine fun client => keeps_bind keeps_this fun _ => keeps_bind untimed_issue fun _ =>
      keeps_bind untimed_issue fun name => ?_
    cases name with
    | ok _ => exact keeps_pure _
    | fail _ => exact keeps_pure _
  refine keeps_bind (untimed_setErrno 0) fun _ => keeps_bind keeps_this fun _ =>
    keeps_bind untimed_issue fun res => ?_
  cases res with
  | ok d =>
    exact keeps_bind (untimed_assign fun _ => rfl) fun _ => keeps_bind untimed_getErrno fun _ =>
      keeps_bind (hstore _) fun _ => keeps_ite (keeps_pure _) (keeps_pure _)
  | fail _ =>
    exact keeps_bind untimed_translateSocketError fun _ => keeps_bind keeps_this fun _ =>
      keeps_ite (keeps_pure _) (keeps_pure _)

/-- A method run on another object leaves the timer of this one. -/
theorem untimed_onObject {α : Type} (o : CSimpleSocket) {x : M α} (h : Keeps Untimed x) :
    Keeps Untimed (onObject o x) := by
  intro s
  rw [wp_onObject]
  exact wp_mono (fun _ _ h => ⟨rfl, h.2⟩) (fun _ _ h => ⟨rfl, h.2⟩) (h { s with self := o })

theorem untimed_provideBuffer (nMaxBytes : Int) : Keeps Untimed (provideBuffer nMaxBytes) := by
  have hnew : Keeps Untimed (newBytes nMaxBytes) := fun s => by
    rw [wp_newBytes]
    exact ⟨fun _ => Std.Refl.refl s, fun _ => ⟨rfl, rfl, rfl⟩⟩
  exact keeps_bind keeps_this fun _ =>
    keeps_bind (keeps_ite untimed_deleteBuffer (keeps_pure _)) fun _ => keeps_bind keeps_this fun _ =>
      keeps_ite (keeps_bind (untimed_assign fun _ => rfl) fun _ => keeps_bind hnew fun _ =>
        untimed_assign fun _ => rfl) (keeps_pure _)

theorem untimed_receiveLoop (nMaxBytes : Int) (pBuffer : Option Bytes) :
    Keeps Untimed (receiveLoop nMaxBytes pBuffer) := by
  have hdeliver : ∀ pBuffer offset bs, Keeps Untimed (deliver pBuffer offset bs) := fun _ _ _ =>
    keeps_bind (keeps_ite (untimed_assign fun _ => rfl) (keeps_pure _)) fun _ => keeps_pure _
  have hrecv : ∀ pBuffer, Keeps Untimed (recvRound nMaxBytes pBuffer) := by
    refine fun pBuffer => keeps_bind keeps_this fun _ => keeps_bind untimed_issue fun res =>
      keeps_bind (untimed_assign fun _ => rfl) fun _ => ?_
    cases res with
    | ok _ => exact hdeliver _ _ _
    | fail _ => exact keeps_pure _
  have hrecvfrom : ∀ pBuffer, Keeps Untimed (recvfromRound nMaxBytes pBuffer) := by
    refine fun pBuffer => keeps_bind keeps_this fun _ => keeps_bind untimed_issue fun res =>
      keeps_bind (untimed_assign fun _ => rfl) fun _ => ?_
    cases res with
    | ok _ =>
      refine keeps_bind (untimed_assign fun o => ?_) fun _ => hdeliver _ _ _
      split <;> rfl
    | fail _ => exact keeps_pure _
  exact keeps_bind keeps_this fun _ => keeps_bind keeps_script fun _ => keeps_ite
    (keeps_whileInterrupted hrecv untimed_translateSocketError _ _)
    (keeps_ite (keeps_whileInterrupted hrecvfrom untimed_translateSocketError _ _) (keeps_pure _))

/-! ### Sections -/

/-- Started after the start has been read, the program reads the end. -/
def Ends {α : Type} (x : M α) : Prop :=
  ∀ s t, Started s t → wp x (fun _ u => Timed s u) (fun _ _ => True) t

/-- The program takes the time of what it does, or does nothing that is timed. -/
def TakesTime {α : Type} (x : M α) : Prop :=
  ∀ s, wp x (fun _ t => Timed s t) (fun _ _ => True) s

section

variable {α β : Type} {x : M α} {f : α → M β}

theorem ends_setEndTime : Ends setEndTime := fun _ _ h => h.ended rfl rfl rfl

/-- What is timed, before the end is read. -/
theorem Ends.of_untimed (hx : Keeps Untimed x) (hf : ∀ a, Ends (f a)) : Ends (x >>= f) := by
  intro s t h
  rw [wp_bind]
  exact wp_mono (fun a _ hu => hf a s _ (h.during hu)) (fun _ _ _ => trivial) (hx t)

/-- What comes after. -/
theorem Ends.bind (hx : Ends x) (hf : ∀ a, Keeps Untimed (f a)) : Ends (x >>= f) := by
  intro s t h
  rw [wp_bind]
  exact wp_mono (fun a u hu => wp_mono (fun _ _ hv => hu.before hv) (fun _ _ _ => trivial) (hf a u))
    (fun _ _ _ => trivial) (hx s t h)

/-- The start is read, and then the end. -/
theorem takesTime_of_started (hx : ∀ s, wp x (fun _ t => Started s t) (fun _ _ => True) s)
    (hf : ∀ a, Ends (f a)) : TakesTime (x >>= f) := by
  intro s
  rw [wp_bind]
  exact wp_mono (fun a t h => hf a s t h) (fun _ _ _ => trivial) (hx s)

theorem takesTime_section (hx : Ends x) :
    TakesTime (timerInitialize >>= fun _ => setStartTime >>= fun _ => x) := by
  intro s
  simp only [wp_bind, wp_timerInitialize, wp_setStartTime]
  exact hx s _ ⟨rfl, rfl, rfl, rfl⟩

theorem takesTime_of_untimed (hx : Keeps Untimed x) : TakesTime x := fun s =>
  wp_mono (fun _ _ h => Or.inl h) (fun _ _ _ => trivial) (hx s)

theorem TakesTime.after (hx : Keeps Untimed x) (hf : ∀ a, TakesTime (f a)) : TakesTime (x >>= f) := by
  intro s
  rw [wp_bind]
  exact wp_mono (fun a t h => wp_mono (fun _ _ hu => hu.after h) (fun _ _ h => h) (hf a t))
    (fun _ _ _ => trivial) (hx s)

theorem TakesTime.before (hx : TakesTime x) (hf : ∀ a, Keeps Untimed (f a)) : TakesTime (x >>= f) := by
  intro s
  rw [wp_bind]
  exact wp_mono (fun a t h => wp_mono (fun _ _ hu => h.before hu) (fun _ _ _ => trivial) (hf a t))
    (fun _ _ _ => trivial) (hx s)

theorem takesTime_ite {c : Prop} [Decidable c] {y : M α} (hx : TakesTime x) (hy : TakesTime y) :
    TakesTime (if c then x else y) := by
  split
  · exact hx
  · exact hy

end

/-! ### The operations -/

theorem takesTime_initializeSocket : TakesTime initializeSocket :=
  .after (untimed_setErrno 0) fun _ => takesTime_section <|
    .of_untimed keeps_this fun _ => .of_untimed untimed_issue fun _ =>
      .of_untimed (untimed_assign fun _ => rfl) fun _ => .bind ends_setEndTime fun _ =>
        keeps_bind untimed_translateSocketError fun _ => keeps_bind keeps_this fun _ => keeps_pure _

theorem wp_connectServer_started (s : State) :
    wp connectServer (fun _ t => Started s t) (fun _ _ => True) s := by
  simp [connectServer, sysConnect, Started, State.answered, State.tick, State.upd,
    TrackedTimer.started]

theorem takesTime_openSocket (pAddr : Option String) (nPort : UInt16) :
    TakesTime (openSocket pAddr nPort) := by
  -- the lookup comes before the section, which either helper starts and ends
  have htcp : ∀ addr, TakesTime (connectTCP addr nPort) := fun addr =>
    .after (untimed_resolve addr nPort) fun _ => takesTime_ite
      (takesTime_of_started wp_connectServer_started fun res =>
        .of_untimed (untimed_awaitTCP res) fun _ => .bind ends_setEndTime fun _ => keeps_pure _)
      (takesTime_of_untimed (keeps_pure _))
  have hudp : ∀ addr, TakesTime (connectUDP addr nPort) := fun addr =>
    .after (untimed_resolve addr nPort) fun _ => takesTime_ite
      (takesTime_of_started wp_connectServer_started fun res =>
        .of_untimed untimed_translateSocketError fun _ => .bind ends_setEndTime fun _ => keeps_pure _)
      (takesTime_of_untimed (keeps_pure _))
  have hnone : TakesTime (pure false : M Bool) := takesTime_of_untimed (keeps_pure _)
  have hrefused : ∀ error, TakesTime (do
      setSocketError error
      return false : M Bool) := fun error =>
    .after (untimed_setSocketError error) fun _ => hnone
  refine .after keeps_this fun _ => takesTime_ite (hrefused _) ?_
  cases pAddr with
  | none => exact hrefused _
  | some addr =>
    exact takesTime_ite (hrefused _) (.before
      (.after keeps_this fun _ => takesTime_ite (htcp addr) (takesTime_ite (hudp addr) hnone)) fun _ =>
        keeps_bind (keeps_ite untimed_storeEndpoints (keeps_pure _)) fun _ => keeps_pure _)

theorem takesTime_listen (pAddr : Option String) (nPort : UInt16) (nConnectionBacklog : Int) :
    TakesTime (listen pAddr nPort nConnectionBacklog) :=
  .after untimed_listenOptions fun _ => .after (untimed_bindAddress pAddr) fun _ =>
    .after (untimed_assign fun _ => rfl) fun _ => takesTime_section <|
      .of_untimed (untimed_bindAndListen nConnectionBacklog) fun _ => .bind ends_setEndTime fun _ =>
        keeps_bind untimed_translateSocketError fun _ =>
          keeps_bind (keeps_ite untimed_closeKeepingError (keeps_pure _)) fun _ => keeps_pure _

theorem takesTime_accept (raw : CSimpleSocket) : TakesTime (accept raw) := by
  have hdelete : ∀ client, Keeps Untimed (onObject client (do let _ ← closeSocket)) := fun client =>
    untimed_onObject client (keeps_bind untimed_closeSocket fun _ => keeps_pure _)
  refine .after keeps_this fun _ => takesTime_ite
    (.after (untimed_setSocketError _) fun _ => takesTime_of_untimed (keeps_pure _))
    (takesTime_section ?_)
  exact .of_untimed keeps_script fun _ => .of_untimed (keeps_iter untimed_acceptRound _ _) fun r =>
    .bind ends_setEndTime fun _ =>
      keeps_ite (keeps_bind (hdelete _) fun _ => keeps_pure _) (keeps_pure _)

theorem takesTime_sendTimed (queue : Script → List (Answer ℕ)) {round : M Unit}
    (hround : Keeps Untimed round) : TakesTime (sendTimed queue round) :=
  takesTime_section <| .of_untimed keeps_script fun _ => .of_untimed
    (keeps_whileInterrupted (fun _ => hround) untimed_translateSocketError _ _) fun _ => ends_setEndTime

theorem takesTime_send (pBuf : Option Bytes) (bytesToSend : ℕ) :
    TakesTime (CSimpleSocket.send pBuf bytesToSend) := by
  have hsend : ∀ data, Keeps Untimed (sendRound data) := fun _ =>
    keeps_bind keeps_this fun _ => keeps_bind untimed_issue fun _ => untimed_assign fun _ => rfl
  have hsendto : ∀ data, Keeps Untimed (sendtoRound data) := fun _ =>
    keeps_bind keeps_this fun _ => keeps_bind untimed_issue fun _ => untimed_assign fun _ => rfl
  have hnone : TakesTime (pure () : M Unit) := takesTime_of_untimed (keeps_pure _)
  exact .after (untimed_setSocketError _) fun _ => .after (untimed_assign fun _ => rfl) fun _ =>
    .after keeps_this fun _ => .before (takesTime_ite
      (takesTime_ite (takesTime_sendTimed _ (hsend _)) hnone)
      (takesTime_ite (takesTime_ite (takesTime_sendTimed _ (hsendto _)) hnone) hnone)) fun _ =>
        keeps_bind keeps_this fun _ => keeps_pure _

theorem takesTime_passiveSend (pBuf : Option Bytes) (bytesToSend : ℕ) :
    TakesTime (CPassiveSocket.send pBuf bytesToSend) := by
  have hsendto : ∀ data, TakesTime (sendtoClient data) := fun _ => takesTime_section <|
    .of_untimed keeps_this fun _ => .of_untimed untimed_issue fun _ =>
      .of_untimed (untimed_assign fun _ => rfl) fun _ => .bind ends_setEndTime fun _ =>
        keeps_ite untimed_translateSocketError (keeps_pure _)
  exact .after (untimed_setSocketError _) fun _ => .after (untimed_assign fun _ => rfl) fun _ =>
    .after keeps_this fun _ => .before (takesTime_ite
      (takesTime_ite (hsendto _) (takesTime_of_untimed (keeps_pure _)))
      (takesTime_ite (.before (takesTime_send pBuf bytesToSend) fun _ => keeps_pure _)
        (takesTime_of_untimed (untimed_setSocketError _)))) fun _ =>
          keeps_bind keeps_this fun _ => keeps_pure _

theorem takesTime_receive (nMaxBytes : Int) (pBuffer : Option Bytes) :
    TakesTime (receive nMaxBytes pBuffer) :=
  .after (untimed_assign fun _ => rfl) fun _ => .after keeps_this fun _ => takesTime_ite
    (takesTime_of_untimed (keeps_pure _))
    (.after (keeps_ite (untimed_provideBuffer nMaxBytes) (keeps_pure _)) fun _ =>
      .after (untimed_setSocketError _) fun _ => takesTime_section <|
        .of_untimed (untimed_receiveLoop nMaxBytes pBuffer) fun _ => .bind ends_setEndTime fun _ =>
          keeps_bind untimed_translateSocketError fun _ => keeps_bind keeps_this fun _ =>
            keeps_bind (keeps_ite untimed_deleteBuffer (keeps_pure _)) fun _ => keeps_pure _)

/-- The reading at which `BindMulticast` starts the timer: it has read the end before when `bind`
succeeded. -/
def multicastStart (os : Os) : ℕ := os.ticks + (if headFails os.script.bind = true then 0 else 1)

theorem wp_bindAndJoin_ticks (pGroup : String) (s : State) :
    wp (bindAndJoin pGroup) (fun _ t => t.os.clock = s.os.clock ∧ t.os.ticks = multicastStart s.os)
      (fun _ _ => True) s := by
  rw [bindAndJoin, wp_bind, wp_this, wp_bind, sysBind, wp_issue_iff]
  refine ⟨fun _ => trivial, fun res rest hbind => ?_⟩
  cases res with
  | fail e =>
    have hstart : multicastStart s.os = s.os.ticks := by simp [multicastStart, hbind]
    exact ⟨rfl, hstart.symm⟩
  | ok u =>
    have hstart : multicastStart s.os = s.os.ticks + 1 := by simp [multicastStart, hbind]
    simp only [joinGroup, wp_bind, wp_inetAddr, wp_this, sysSetsockopt]
    rw [wp_issue_iff]
    exact ⟨fun _ => trivial, fun _ _ _ => ⟨rfl, hstart.symm⟩⟩

/-- **`BindMulticast`** reads the clock for the start last, and leaves zero for the end. -/
theorem wp_bindMulticast_timer (pInterface : Option String) (pGroup : String) (nPort : UInt16)
    (s : State) :
    wp (bindMulticast pInterface pGroup nPort) (fun _ t => t.os.clock = s.os.clock ∧
      t.os.ticks = multicastStart s.os + 1 ∧
      t.self.m_timer = TrackedTimer.reset.started (s.os.clock (multicastStart s.os))
        (multicastStart s.os)) (fun _ _ => True) s := by
  rw [bindMulticast, wp_bind, wp_bindAddress, wp_bind, wp_assign, wp_bind]
  refine wp_mono (fun r s₁ h₁ => ?_) (fun _ _ h => h) (wp_bindAndJoin_ticks pGroup _)
  obtain ⟨hclock, hticks⟩ : s₁.os.clock = s.os.clock ∧ s₁.os.ticks = multicastStart s.os := h₁
  have hclose : Keeps Untimed (do let _ ← closeSocket) :=
    keeps_bind untimed_closeSocket fun _ => keeps_pure _
  have hrest : Keeps Untimed (do
      translateSocketError
      when (r = false) (do let _ ← closeSocket)
      return r) :=
    keeps_bind untimed_translateSocketError fun _ =>
      keeps_bind (keeps_ite hclose (keeps_pure _)) fun _ => keeps_pure _
  rw [wp_bind, wp_timerInitialize, wp_bind, wp_setStartTime, ← hclock, ← hticks]
  exact wp_mono (fun _ t ht => ⟨ht.2.1, ht.2.2, ht.1⟩) (fun _ _ _ => trivial) (hrest _)

end ClSocket
