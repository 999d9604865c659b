import CoroutineGateway.Properties.Suspension

/-!
# When `connect_with_timeout` may report a connection

`connect_with_timeout` ends with `getsockopt(SO_ERROR)`, and takes 0 for success.  That is right
after a report of writability, since the kernel has then completed the connection or given it up.
But 0 is also what the kernel answers while the connection is in progress, and the test is reached
in that state where `addEvent` fails, where another fiber, or the timer of another call, has
cancelled the event, and where a worker still holds a report of the file that has had the number
before, which it handles only now.

`truthful_throughout` says that there is no other way: what the function reports is true in every
run in which these do not happen while a connection is in progress, and no two fibers connect one
socket.  Of the kernel it takes that it does not report a socket writable, or in error, while its
connection is in progress.
-/

namespace CoroutineGateway

/-- Neither writability nor an error is reported. -/
def EpollEvent.Quiet (r : EpollEvent) : Prop :=
  .write ∉ r.events ∧ r.errHup = false

namespace HookSystem

variable {F C U : Type*} {s s' : HookSystem F C U} {f g : F} {c c' d : HookCall} {t : ℕ}

/-- Every connection reported is there. -/
def Truthful (s : HookSystem F C U) : Prop :=
  ∀ f r, s.activity f = .returned r → r.call.which = .connectWithTimeout →
    (r.result = .ok 0 ∧ r.connection = .established) ∨ ∃ e, r.result = .error e

/-- The kernel does not report a socket writable, or in error, while its connection is in
progress. -/
def Reported (s : HookSystem F C U) : HookAction F C U → Prop
  | .epollWait events => ∀ r ∈ events, s.connection r.fd = .inProgress → r.Quiet
  | _ => True

/-- The fiber is in `connect_with_timeout`, after `EINPROGRESS`. -/
def Awaits (s : HookSystem F C U) (f : F) (c : HookCall) : Prop :=
  s.activity f = .inCall c ∧ c.which = .connectWithTimeout ∧ c.pc ≠ .issue

/-- Cancelling the event takes no fiber but one of this `timer_info` out of its wait for a
connection in progress, or `epoll_ctl` fails. -/
def Harmless (s : HookSystem F C U) (info : Option ℕ) (fd : ℕ) (e : Event) (fail : Bool) : Prop :=
  ∀ f c, s.Awaits f c → some c.info ≠ info → s.connection c.fd = .inProgress →
    s.manager.Waits f fd e → fail = true

/-- No fiber begins to connect a socket that another one is connecting, nor one while a worker still
holds a report of writability, or of an error, for its number; and while the connection of a fiber
is in progress, its `addEvent` does not fail, and nothing but the callback of its own timer cancels
the event. -/
def Undisturbed [DecidableEq F] [DecidableEq C] (s : HookSystem F C U) : HookAction F C U → Prop
  | .connectF g .inProgress => ∀ d, s.activity g = .inCall d →
    (∀ f c, s.Awaits f c → c.fd ≠ d.fd) ∧ ∀ r ∈ s.inbox, r.fd = d.fd → r.Quiet
  | .add f ctl => ∀ c, s.Awaits f c → s.connection c.fd = .inProgress →
    ∀ x, s.manager.addEvent f .running c.fd c.event none ctl.isSome = some x → x.2 = 0
  | .event (.cancelEvent fd e fail) => s.Harmless none fd e fail
  | .event (.cancelAll fd fail) => ∀ e, s.Harmless none fd e fail
  | .run i fail => ∀ x ∈ s.queued[i]?, ∀ info fd e, s.calls x.2 = some (.timedOut info fd e) →
    s.infos info = some false → s.Harmless (some info) fd e fail
  | _ => True

variable [DecidableEq F] [DecidableEq C]

/-- What such steps keep. -/
structure Connecting (s : HookSystem F C U) : Prop where
  event : ∀ f c, s.activity f = .inCall c → c.which = .connectWithTimeout → c.event = .write
  unique : ∀ f g c d, s.Awaits f c → s.Awaits g d → c.fd = d.fd → f = g
  begun : ∀ f c, s.Awaits f c → s.connection c.fd ≠ .unconnected
  checked : ∀ f c, s.Awaits f c → c.pc = .check → s.connection c.fd ≠ .inProgress
  woken : ∀ f c, s.Awaits f c → c.pc = .parked → s.scheduled f →
    s.connection c.fd ≠ .inProgress ∨ s.infos c.info = some true

/-- What workers hold of a connection in progress is neither of writability nor of an error. -/
def QuietReports (s : HookSystem F C U) : Prop :=
  ∀ r ∈ s.inbox, s.connection r.fd = .inProgress → r.Quiet

/-- A step that is none of a call. -/
lemma Connecting.frame (hs : s.Connecting) (hactivity : s'.activity = s.activity)
    (hbegun : ∀ f c, s.Awaits f c → s.connection c.fd ≠ .unconnected →
      s'.connection c.fd ≠ .unconnected)
    (hsettled : ∀ f c, s.Awaits f c → s.connection c.fd ≠ .inProgress →
      s'.connection c.fd ≠ .inProgress)
    (hinfos : ∀ f c, s.Awaits f c → s.infos c.info = some true → s'.infos c.info = some true)
    (hscheduled : ∀ f c, s.Awaits f c → c.pc = .parked → s'.scheduled f →
      s.scheduled f ∨ s'.connection c.fd ≠ .inProgress ∨ s'.infos c.info = some true) :
    s'.Connecting := by
  have hawaits : ∀ f c, s'.Awaits f c ↔ s.Awaits f c := fun f c => by rw [Awaits, Awaits, hactivity]
  refine ⟨fun f c hact => hs.event f c (hactivity ▸ hact), fun f g c d hc hd => hs.unique f g c d
    ((hawaits f c).mp hc) ((hawaits g d).mp hd), fun f c hc => ?_, fun f c hc hpc => ?_,
    fun f c hc hpc hsched => ?_⟩
  · have hc' := (hawaits f c).mp hc
    exact hbegun f c hc' (hs.begun f c hc')
  · have hc' := (hawaits f c).mp hc
    exact hsettled f c hc' (hs.checked f c hc' hpc)
  · have hc' := (hawaits f c).mp hc
    rcases hscheduled f c hc' hpc hsched with hold | hnew
    · exact (hs.woken f c hc' hpc hold).imp (hsettled f c hc') (hinfos f c hc')
    · exact hnew

/-- A step that touches neither connections nor what calls wait for. -/
lemma Connecting.congr (hs : s.Connecting) (hactivity : s'.activity = s.activity)
    (hconnection : s'.connection = s.connection) (hinfos : s'.infos = s.infos)
    (hscheduled : ∀ f, s'.scheduled f → s.scheduled f) : s'.Connecting :=
  hs.frame hactivity (fun _ _ _ h => hconnection ▸ h) (fun _ _ _ h => hconnection ▸ h)
    (fun _ _ _ h => hinfos ▸ h) fun f _ _ _ h => .inl (hscheduled f h)

/-! ## Steps of others -/

lemma scheduled_of_wakeUps (hs' : s'.scheduled f) (hresumed : s'.resumed = s.resumed)
    (h : s'.manager.wakeUps f = s.manager.wakeUps f) : s.scheduled f := by
  unfold scheduled at hs' ⊢
  rw [hresumed] at hs'
  exact hs'.trans_eq h

/-- Only the end of its registration schedules a fiber. -/
lemma Sound.wakeUps (hs : s.Sound t) {m : IOManager F C} {fd : ℕ} {gone : Finset Event}
    (hfrees : s.manager.Frees fd gone m) (f : F) :
    m.wakeUps f = s.manager.wakeUps f ∨ ∃ e ∈ gone, s.manager.Waits f fd e := by
  have hseated := (hs.fibers f).seated
  rcases hfrees.wakeUps fun e e' he he' => (hseated.unique he he').2 with h | ⟨-, h⟩
  · exact .inl h
  · exact .inr h

/-- The seat of a fiber that waits for its connection. -/
lemma Sound.seat_of_waits (hs : s.Sound t) (hact : s.activity f = .inCall c) {fd : ℕ} {e : Event}
    (h : s.manager.Waits f fd e) : fd = c.fd ∧ e = c.event := by
  have hseat := (hs.call hact).seated.waits fd e h
  unfold HookCall.seat at hseat
  split_ifs at hseat
  simpa [eq_comm] using hseat

/-- `cancelEvent` and `cancelAll` schedule nobody whose connection is in progress, if they are
harmless. -/
lemma Sound.cancel_wakeUps (hs : s.Sound t) (op : RemovalOp) {info : Option ℕ} {fd : ℕ}
    {fail b : Bool} {m : IOManager F C} (h : op.run s.manager fd fail = some (m, b))
    (hharmless : ∀ e ∈ op.asked (s.manager.context fd), s.Harmless info fd e fail)
    (hc : s.Awaits f c) (hinfo : some c.info ≠ info) :
    m.wakeUps f = s.manager.wakeUps f ∨ s.connection c.fd ≠ .inProgress := by
  cases fail with
  | true => exact .inl (by rw [op.run_of_fail h])
  | false =>
    obtain ⟨gone, hgone, hfrees⟩ := IOManager.run_frees op (hs.manager.tight fd) h
    refine (hs.wakeUps hfrees f).imp_right ?_
    rintro ⟨e, he, hwaits⟩ hprogress
    exact absurd (hharmless e (hgone he) f c hc hinfo hprogress hwaits) (by simp)

/-- Calls on the registry that schedule nobody whose connection is in progress. -/
lemma Connecting.registry (hc : s.Connecting) {m : IOManager F C}
    (h : ∀ f c, s.Awaits f c →
      m.wakeUps f = s.manager.wakeUps f ∨ s.connection c.fd ≠ .inProgress) :
    ({ s with manager := m } : HookSystem F C U).Connecting := by
  refine hc.frame rfl (fun _ _ _ h => h) (fun _ _ _ h => h) (fun _ _ _ h => h)
    fun f c hawaits _ hsched => ?_
  rcases h f c hawaits with heq | hdone
  · exact .inl (scheduled_of_wakeUps hsched rfl heq)
  · exact .inr (.inl hdone)

/-- A report wakes nobody whose connection is in progress. -/
lemma Connecting.dispatch (hc : s.Connecting) (hs : s.Sound t) (hreports : s.QuietReports) {i : ℕ}
    {fail : Bool} (h : s.dispatch i fail = some s') : s'.Connecting := by
  obtain ⟨r, m, hr, hm, rfl⟩ := dispatch_cases h
  obtain ⟨gone, hgone, hfrees⟩ := hs.manager.held.dispatch_frees hm
  have hu : ({ s with manager := m } : HookSystem F C U).Connecting := by
    refine hc.registry fun f c hawaits => (hs.wakeUps hfrees f).imp_right ?_
    rintro ⟨e, he, hwaits⟩ hprogress
    obtain ⟨hfd, hevent⟩ := hs.seat_of_waits hawaits.1 hwaits
    rw [hc.event f c hawaits.1 hawaits.2.1] at hevent
    obtain ⟨hwrite, herrHup⟩ := hreports r (List.mem_of_getElem? hr) (hfd ▸ hprogress)
    have hreal : e ∈ r.events := by
      have hmem := hgone he
      rwa [IOManager.realEvents, if_neg (by simp [herrHup])] at hmem
    exact hwrite (hevent ▸ hreal)
  exact hu.congr rfl rfl rfl fun _ h => h

/-- A queued callback runs. -/
lemma Connecting.runQueued (hc : s.Connecting) (hs : s.Sound t) {i : ℕ} {fail : Bool}
    (hquiet : s.Undisturbed (.run i fail)) (h : s.runQueued i fail = some s') :
    s'.Connecting := by
  obtain ⟨id, cb, hget, hcases⟩ := runQueued_cases h
  have hcu : (s.dequeue i id).Connecting := hc.congr rfl rfl rfl fun f h => h
  rcases hcases with ⟨info, fd, e, hcalls, h⟩ | rfl
  · unfold HookSystem.timedOut at h
    by_cases hinfo : s.infos info = some false
    · rw [if_pos (show (s.dequeue i id).infos info = some false from hinfo)] at h
      obtain ⟨⟨m, b⟩, hcancel, rfl⟩ := Option.map_eq_some_iff.mp h
      have hharmless := hquiet _ hget info fd e hcalls hinfo
      refine hcu.frame rfl (fun _ _ _ h => h) (fun _ _ _ h => h) (fun f c _ htrue => ?_)
        fun f c hawaits _ hsched => ?_
      · by_cases hci : c.info = info
        · simp [hci]
        · exact (Function.update_of_ne hci _ _).trans htrue
      · by_cases hci : c.info = info
        · exact .inr (.inr (by simp [hci]))
        · have hne : some c.info ≠ some info := by simpa using hci
          have hop := hs.cancel_wakeUps (.cancelEvent e) hcancel (fun e' he' => ?_) hawaits hne
          · rcases hop with heq | hdone
            · exact .inl (scheduled_of_wakeUps hsched rfl heq)
            · exact .inr (.inl hdone)
          · obtain rfl := Finset.mem_singleton.mp (Finset.mem_inter.mp he').2
            exact hharmless
    · rw [if_neg (show (s.dequeue i id).infos info ≠ some false from hinfo)] at h
      obtain rfl := Option.some.inj h
      exact hcu
  · exact hcu

/-- The kernel completes a connection, or gives it up. -/
lemma Connecting.settle (hc : s.Connecting) (fd : ℕ) (failed : Option Errno) :
    ({ s with connection := Function.update s.connection fd (failed.elim .established .failed) } :
      HookSystem F C U).Connecting := by
  have hnew : failed.elim Connection.established .failed ≠ .unconnected ∧
      failed.elim Connection.established .failed ≠ .inProgress := by
    cases failed <;> simp
  refine hc.frame rfl (fun f c _ h => ?_) (fun f c _ h => ?_) (fun _ _ _ h => h)
    fun _ _ _ _ h => .inl h
  · by_cases hfd : c.fd = fd
    · simpa [hfd] using hnew.1
    · simpa [hfd] using h
  · by_cases hfd : c.fd = fd
    · simpa [hfd] using hnew.2
    · simpa [hfd] using h

/-! ## Steps of a call -/

omit [DecidableEq C] in
lemma awaits_goOn (h : (s.goOn f c').Awaits g d) :
    (g = f ∧ d = c') ∨ (g ≠ f ∧ s.Awaits g d) := by
  obtain ⟨hact, hd⟩ := h
  rcases activity_goOn hact with heq | ⟨hne, hold⟩
  · exact .inl heq
  · exact .inr ⟨hne, hold, hd⟩

/-- A call goes on, and if it awaits its connection then it has been begun, and no other fiber
awaits one on the socket. -/
lemma Connecting.goOn (hc : s.Connecting)
    (hevent : c'.which = .connectWithTimeout → c'.event = .write)
    (hbegun : c'.which = .connectWithTimeout → c'.pc ≠ .issue →
      s.connection c'.fd ≠ .unconnected ∧ ∀ g d, g ≠ f → s.Awaits g d → d.fd ≠ c'.fd)
    (hchecked : c'.which = .connectWithTimeout → c'.pc = .check →
      s.connection c'.fd ≠ .inProgress)
    (hwoken : c'.pc = .parked → ¬ s.scheduled f) : (s.goOn f c').Connecting where
  event g d hd := by
    rcases activity_goOn hd with ⟨rfl, rfl⟩ | ⟨-, hold⟩
    · exact hevent
    · exact hc.event g d hold
  unique g h d e hd he heq := by
    rcases awaits_goOn hd with ⟨hg, hd'⟩ | ⟨hg, hold⟩
    · rcases awaits_goOn he with ⟨hh, -⟩ | ⟨hh, hold'⟩
      · exact hg.trans hh.symm
      · subst hd'
        exact absurd heq.symm ((hbegun hd.2.1 hd.2.2).2 h e hh hold')
    · rcases awaits_goOn he with ⟨-, he'⟩ | ⟨-, hold'⟩
      · subst he'
        exact absurd heq ((hbegun he.2.1 he.2.2).2 g d hg hold)
      · exact hc.unique g h d e hold hold' heq
  begun g d hd := by
    rcases awaits_goOn hd with ⟨-, hd'⟩ | ⟨-, hold⟩
    · subst hd'
      exact (hbegun hd.2.1 hd.2.2).1
    · exact hc.begun g d hold
  checked g d hd hpc := by
    rcases awaits_goOn hd with ⟨-, hd'⟩ | ⟨-, hold⟩
    · subst hd'
      exact hchecked hd.2.1 hpc
    · exact hc.checked g d hold hpc
  woken g d hd hpc hsched := by
    rcases awaits_goOn hd with ⟨hg, hd'⟩ | ⟨-, hold⟩
    · subst hg hd'
      exact absurd hsched (hwoken hpc)
    · exact hc.woken g d hold hpc hsched

/-- A call that awaited its connection goes on to where it does so still. -/
lemma Connecting.move (hc : s.Connecting) (hact : s.activity f = .inCall c) (hpc : c.pc ≠ .issue)
    (hwhich : c'.which = c.which) (hfd : c'.fd = c.fd) (hevent : c'.event = c.event)
    (hchecked : c'.which = .connectWithTimeout → c'.pc = .check →
      s.connection c'.fd ≠ .inProgress)
    (hwoken : c'.pc = .parked → ¬ s.scheduled f) : (s.goOn f c').Connecting := by
  refine hc.goOn (fun h => hevent.trans (hc.event f c hact (hwhich ▸ h))) (fun h _ => ?_) hchecked
    hwoken
  have hawaits : s.Awaits f c := ⟨hact, hwhich ▸ h, hpc⟩
  rw [hfd]
  exact ⟨hc.begun f c hawaits, fun g d hg hd heq => hg (hc.unique g f d c hd hawaits heq)⟩

/-- A call returns.  Its last system call has left the connections `k`, those of other fibers
untouched or completed. -/
lemma Connecting.finish (hc : s.Connecting)
    (hown : ∀ g d, s.activity g = .inCall d → d.info = c'.info → g = f) {k : ℕ → Connection}
    (hk : ∀ g d, g ≠ f → s.Awaits g d → k d.fd = s.connection d.fd ∨ k d.fd = .established)
    (result : Except Errno ℕ) :
    (({ s with connection := k } : HookSystem F C U).finish f c' result).Connecting := by
  set u := ({ s with connection := k } : HookSystem F C U).finish f c' result with hu
  have hold : ∀ {g d}, u.Awaits g d → g ≠ f ∧ s.Awaits g d := fun h =>
    ⟨(activity_finish h.1).1, (activity_finish h.1).2, h.2⟩
  have hkeeps : ∀ {g d x}, u.Awaits g d → x ≠ .established → s.connection d.fd ≠ x →
      u.connection d.fd ≠ x := by
    intro g d x hd hx hne
    rcases hk g d (hold hd).1 (hold hd).2 with heq | hdone
    · exact heq.trans_ne hne
    · exact hdone.trans_ne hx.symm
  have hinfos : ∀ {g d}, u.Awaits g d → u.infos d.info = s.infos d.info := fun hd =>
    Function.update_of_ne (fun heq => (hold hd).1 (hown _ _ (hold hd).2.1 heq)) _ _
  refine ⟨fun g d hd => hc.event g d (activity_finish hd).2,
    fun g h d e hd he => hc.unique g h d e (hold hd).2 (hold he).2, fun g d hd => ?_,
    fun g d hd hpc => ?_, fun g d hd hpc hsched => ?_⟩
  · exact hkeeps hd (by simp) (hc.begun g d (hold hd).2)
  · exact hkeeps hd (by simp) (hc.checked g d (hold hd).2 hpc)
  · rw [hinfos hd]
    exact (hc.woken g d (hold hd).2 hpc hsched).imp_left (hkeeps hd (by simp))

/-- A call returns, and the connections are as they were. -/
lemma Connecting.finish_same (hc : s.Connecting)
    (hown : ∀ g d, s.activity g = .inCall d → d.info = c'.info → g = f)
    (result : Except Errno ℕ) : (s.finish f c' result).Connecting :=
  hc.finish hown (k := s.connection) (fun _ _ _ _ => .inl rfl) result

/-- A call begins. -/
lemma Connecting.start (hc : s.Connecting) (hs : s.Sound t) {which : HookedFun} {fd : ℕ} {e : Event}
    (he : which = .connectWithTimeout → e = .write) (timeout : Option ℕ) :
    (s.start f which fd e timeout).Connecting := by
  have hu : ({ s with
      infos := Function.update s.infos s.nextInfo (some false), nextInfo := s.nextInfo + 1 } :
      HookSystem F C U).Connecting :=
    hc.frame rfl (fun _ _ _ h => h) (fun _ _ _ h => h)
      (fun g d hd htrue => (Function.update_of_ne (hs.call hd.1).info.ne _ _).trans htrue)
      fun _ _ _ _ h => .inl h
  exact hu.goOn he (fun _ h => absurd rfl h) (fun _ h => by cases h) fun h => by cases h

lemma Connecting.issue (hc : s.Connecting) (hs : s.Sound t) (hact : s.activity f = .inCall c)
    (hpc : c.pc = .issue) (hwhich : c.which = .doIo) (result : Except Errno ℕ) :
    (s.issue f c result).Connecting := by
  have hno : c.which ≠ .connectWithTimeout := by simp [hwhich]
  unfold HookSystem.issue
  split
  · exact hc.goOn (fun h => absurd h hno) (fun h => absurd h hno) (fun h => absurd h hno)
      fun hparked => absurd hparked (by simp [hpc])
  · exact hc.goOn (fun h => absurd h hno) (fun h => absurd h hno) (fun h => absurd h hno)
      fun hparked => absurd hparked (by simp)
  · set c' : HookCall := { c with results := c.results ++ [result] } with hc'
    have hown : ∀ g d, s.activity g = .inCall d → d.info = c'.info → g = f :=
      fun g d hd => hs.infos g f d c hd hact
    exact hc.finish_same hown result

lemma Connecting.connectF (hc : s.Connecting) (hs : s.Sound t) (hact : s.activity f = .inCall c)
    {answer : ConnectAnswer} (hquiet : s.Undisturbed (.connectF f answer))
    (h : s.connectF f c answer = some s') : s'.Connecting := by
  have hown : ∀ g d, s.activity g = .inCall d → d.info = c.info → g = f :=
    fun g d hd => hs.infos g f d c hd hact
  cases answer with
  | connected =>
    obtain rfl := Option.some.inj h
    refine hc.finish hown (fun g d _ hd => ?_) _
    by_cases hfd : d.fd = c.fd
    · exact .inr (by rw [hfd, Function.update_self])
    · exact .inl (Function.update_of_ne hfd _ _)
  | inProgress =>
    have hothers : ∀ g d, s.Awaits g d → d.fd ≠ c.fd := (hquiet c hact).1
    simp only [HookSystem.connectF] at h
    split_ifs at h
    obtain rfl := Option.some.inj h
    have hconnection : ∀ g d, s.Awaits g d →
        Function.update s.connection c.fd .inProgress d.fd = s.connection d.fd :=
      fun g d hd => Function.update_of_ne (hothers g d hd) _ _
    have hu : ({ s with connection := Function.update s.connection c.fd .inProgress } :
        HookSystem F C U).Connecting :=
      hc.frame rfl (fun g d hd h => (hconnection g d hd).trans_ne h)
        (fun g d hd h => (hconnection g d hd).trans_ne h) (fun _ _ _ h => h) fun _ _ _ _ h => .inl h
    refine hu.goOn (hc.event f c hact) (fun _ _ => ⟨by simp, fun g d _ hd => hothers g d hd⟩)
      (fun _ h => by cases h) fun h => by cases h
  | failed e =>
    obtain rfl := Option.some.inj h
    exact hc.finish_same hown _

lemma Connecting.cancelTimer (hc : s.Connecting) (c : HookCall) : (s.cancelTimer c).Connecting :=
  hc.congr (cancelTimer_activity s c) (cancelTimer_connection s c) (cancelTimer_infos s c)
    fun f h => by simpa [scheduled] using h

/-- Calls on the timers. -/
lemma Connecting.timers (hc : s.Connecting) (m : TimerManager (TimerFun U)) (own : List TimerId) :
    ({ s with timers := m, own := own } : HookSystem F C U).Connecting :=
  hc.congr rfl rfl rfl fun _ h => h

lemma Connecting.arm (hc : s.Connecting) (hact : s.activity f = .inCall c) (hpc : c.pc = .arm)
    (now : ℤ) : (s.arm f c now).Connecting := by
  have hissue : c.pc ≠ .issue := by simp [hpc]
  unfold HookSystem.arm
  split
  · exact hc.move hact hissue rfl rfl rfl (fun _ h => by cases h) fun h => by cases h
  · exact (hc.timers _ _).move hact hissue rfl rfl rfl (fun _ h => by cases h) fun h => by cases h

lemma Connecting.add (hc : s.Connecting) (hs : s.Sound t) (hact : s.activity f = .inCall c)
    (hpc : c.pc = .add) {ctl : Option CtlErrno} (hquiet : s.Undisturbed (.add f ctl))
    (h : s.add f c ctl = some s') : s'.Connecting := by
  have hissue : c.pc ≠ .issue := by simp [hpc]
  obtain ⟨⟨m, rt⟩, hr, rfl⟩ := Option.map_eq_some_iff.mp h
  have hwakeUps : ∀ g, m.wakeUps g = s.manager.wakeUps g := fun g => by
    rw [IOManager.wakeUps, IOManager.wakeUps, (IOManager.addEvent_waits hs.manager.size hr).1]
  have hu : ({ s with manager := m } : HookSystem F C U).Connecting :=
    hc.registry fun g d _ => .inl (hwakeUps g)
  by_cases hrt : rt = 0
  · dsimp only
    rw [if_pos hrt]
    refine hu.move hact hissue rfl rfl rfl (fun _ h => by cases h) fun _ hsched => ?_
    have hseat := (hs.call hact).unseated (by simp [hpc])
    have hold : s.scheduled f := scheduled_of_wakeUps hsched rfl (hwakeUps f)
    exact absurd hold (not_lt.mpr (hseat.free rfl))
  · have hact' : (HookSystem.cancelTimer { s with manager := m } c).activity f = .inCall c := by
      simpa using hact
    dsimp only
    rw [if_neg hrt]
    split
    · refine (hu.cancelTimer c).finish_same (fun g d hd => ?_) _
      exact hs.infos g f d c (by simpa using hd) hact
    · rename_i hwhich
      refine (hu.cancelTimer c).move hact' hissue rfl rfl rfl (fun _ _ hprogress => ?_)
        fun h => by cases h
      exact hrt (hquiet c ⟨hact, hwhich, hissue⟩ (by simpa using hprogress) _ hr)

lemma Connecting.resume (hc : s.Connecting) (hs : s.Sound t) (hact : s.activity f = .inCall c)
    (hpc : c.pc = .parked) (hscheduled : s.scheduled f) : (s.resume f c).Connecting := by
  have hissue : c.pc ≠ .issue := by simp [hpc]
  set u : HookSystem F C U :=
    { s with resumed := Function.update s.resumed f (s.resumed f + 1) } with hu
  have hcu : u.Connecting := by
    refine hc.congr rfl rfl rfl fun g hg => ?_
    unfold scheduled at hg ⊢
    by_cases hgf : g = f
    · subst hgf
      simp only [hu, Function.update_self] at hg
      exact (Nat.lt_succ_self _).trans hg
    · simpa [hu, hgf] using hg
  have hact' : (u.cancelTimer c).activity f = .inCall c := by simpa using hact
  unfold HookSystem.resume
  split_ifs with hinfo
  · refine (hcu.cancelTimer c).finish_same (fun g d hd => ?_) _
    exact hs.infos g f d c (by simpa using hd) hact
  · split
    · rename_i hwhich
      exact (hcu.cancelTimer c).move hact' hissue rfl rfl rfl (fun _ h => by cases h)
        fun h => by cases h
    · rename_i hwhich
      refine (hcu.cancelTimer c).move hact' hissue rfl rfl rfl (fun _ _ => ?_) fun h => by cases h
      have hwoken := hc.woken f c ⟨hact, hwhich, hissue⟩ hpc hscheduled
      simpa using hwoken.resolve_right hinfo

lemma Connecting.getsockopt (hc : s.Connecting) (hs : s.Sound t) (hact : s.activity f = .inCall c)
    (hpc : c.pc = .check) (hwhich : c.which = .connectWithTimeout) (fail : Option Errno) :
    (s.getsockopt f c fail).Connecting := by
  have hown : ∀ g d, s.activity g = .inCall d → d.info = c.info → g = f :=
    fun g d hd => hs.infos g f d c hd hact
  unfold HookSystem.getsockopt
  split
  · exact hc.finish_same hown _
  · split
    · refine hc.finish hown (fun g d hg hd => .inl (Function.update_of_ne (fun heq => ?_) _ _)) _
      exact hg (hc.unique g f d c hd ⟨hact, hwhich, by simp [hpc]⟩ heq)
    · exact hc.finish_same hown _

/-! ## Reports -/

omit [DecidableEq F] [DecidableEq C] in
/-- No connection begins, and workers get no reports. -/
lemma QuietReports.congr (hr : s.QuietReports) (hinbox : s'.inbox ⊆ s.inbox)
    (hconnection : ∀ fd, s'.connection fd = .inProgress → s.connection fd = .inProgress) :
    s'.QuietReports :=
  fun r hmem hprogress => hr r (hinbox hmem) (hconnection r.fd hprogress)

omit [DecidableEq F] [DecidableEq C] in
lemma QuietReports.unchanged (hr : s.QuietReports) (hinbox : s'.inbox = s.inbox)
    (hconnection : s'.connection = s.connection) : s'.QuietReports :=
  hr.congr (fun _ h => hinbox ▸ h) fun _ h => hconnection ▸ h

lemma QuietReports.connectF (hr : s.QuietReports) (hact : s.activity f = .inCall c)
    {answer : ConnectAnswer} (hquiet : s.Undisturbed (.connectF f answer))
    (h : s.connectF f c answer = some s') : s'.QuietReports := by
  cases answer with
  | connected =>
    obtain rfl := Option.some.inj h
    refine hr.congr (List.Subset.refl _) fun fd hprogress => ?_
    by_cases hfd : fd = c.fd
    · subst hfd
      exact absurd ((Function.update_self ..).symm.trans hprogress) (by simp)
    · exact (Function.update_of_ne hfd _ _).symm.trans hprogress
  | inProgress =>
    obtain ⟨-, h⟩ := Option.ite_none_left_eq_some.mp h
    obtain rfl := Option.some.inj h
    intro r hmem hprogress
    by_cases hfd : r.fd = c.fd
    · exact (hquiet c hact).2 r hmem hfd
    · exact hr r hmem ((Function.update_of_ne hfd _ _).symm.trans hprogress)
  | failed e =>
    obtain rfl := Option.some.inj h
    exact hr.unchanged rfl rfl

omit [DecidableEq C] in
lemma QuietReports.add (hr : s.QuietReports) {ctl : Option CtlErrno}
    (h : s.add f c ctl = some s') : s'.QuietReports := by
  obtain ⟨⟨m, rt⟩, -, rfl⟩ := Option.map_eq_some_iff.mp h
  dsimp only
  split_ifs
  · exact hr.unchanged rfl rfl
  · split
    · exact hr.unchanged (cancelTimer_inbox _ c) (cancelTimer_connection _ c)
    · exact hr.unchanged (cancelTimer_inbox _ c) (cancelTimer_connection _ c)

omit [DecidableEq C] in
lemma QuietReports.resume (hr : s.QuietReports) (f : F) (c : HookCall) :
    (s.resume f c).QuietReports := by
  unfold HookSystem.resume
  split_ifs
  · exact hr.unchanged (cancelTimer_inbox _ c) (cancelTimer_connection _ c)
  · split
    · exact hr.unchanged (cancelTimer_inbox _ c) (cancelTimer_connection _ c)
    · exact hr.unchanged (cancelTimer_inbox _ c) (cancelTimer_connection _ c)

omit [DecidableEq C] in
lemma QuietReports.getsockopt (hr : s.QuietReports) (f : F) (c : HookCall)
    (fail : Option Errno) : (s.getsockopt f c fail).QuietReports := by
  unfold HookSystem.getsockopt
  split
  · exact hr.unchanged rfl rfl
  · split
    · refine hr.congr (List.Subset.refl _) fun fd hprogress => ?_
      by_cases hfd : fd = c.fd
      · subst hfd
        exact absurd ((Function.update_self ..).symm.trans hprogress) (by simp)
      · exact (Function.update_of_ne hfd _ _).symm.trans hprogress
    · exact hr.unchanged rfl rfl

omit [DecidableEq F] [DecidableEq C] in
/-- The kernel completes a connection, or gives it up. -/
lemma QuietReports.settle (hr : s.QuietReports) (fd : ℕ) (failed : Option Errno) :
    ({ s with connection := Function.update s.connection fd (failed.elim .established .failed) } :
      HookSystem F C U).QuietReports := by
  refine hr.congr (List.Subset.refl _) fun g hprogress => ?_
  by_cases hfd : g = fd
  · subst hfd
    have hnew := (Function.update_self ..).symm.trans hprogress
    cases failed <;> cases hnew
  · exact (Function.update_of_ne hfd _ _).symm.trans hprogress

omit [DecidableEq F] [DecidableEq C] in
lemma Truthful.congr (hs : s.Truthful) (hactivity : s'.activity = s.activity) : s'.Truthful :=
  fun f r hr => hs f r (hactivity ▸ hr)

section

omit [DecidableEq C]

lemma Truthful.goOn (hs : s.Truthful) (hactivity : s'.activity = s.activity) :
    (s'.goOn f c).Truthful := by
  intro g r hr
  by_cases hg : g = f
  · subst hg
    cases (Function.update_self ..).symm.trans hr
  · exact hs.congr hactivity g r ((Function.update_of_ne hg _ _).symm.trans hr)

lemma Truthful.finish (hs : s.Truthful) (hactivity : s'.activity = s.activity)
    {result : Except Errno ℕ} (hresult : c.which = .connectWithTimeout →
      (result = .ok 0 ∧ s'.connection c.fd = .established) ∨ ∃ e, result = .error e) :
    (s'.finish f c result).Truthful := by
  intro g r hr
  by_cases hg : g = f
  · subst hg
    cases (Function.update_self ..).symm.trans hr
    exact hresult
  · exact hs.congr hactivity g r ((Function.update_of_ne hg _ _).symm.trans hr)

lemma Truthful.issue (hs : s.Truthful) (hwhich : c.which = .doIo) (result : Except Errno ℕ) :
    (s.issue f c result).Truthful := by
  unfold HookSystem.issue
  split
  · exact hs.goOn rfl
  · exact hs.goOn rfl
  · exact hs.finish rfl fun h => absurd (h.symm.trans hwhich) (by simp)

lemma Truthful.connectF (hs : s.Truthful) {answer : ConnectAnswer}
    (h : s.connectF f c answer = some s') : s'.Truthful := by
  cases answer with
  | connected =>
    obtain rfl := Option.some.inj h
    refine hs.finish ?_ fun _ => .inl ⟨rfl, Function.update_self ..⟩
    rfl
  | inProgress =>
    obtain ⟨-, h⟩ := Option.ite_none_left_eq_some.mp h
    obtain rfl := Option.some.inj h
    refine hs.goOn ?_
    rfl
  | failed e =>
    obtain rfl := Option.some.inj h
    exact hs.finish rfl fun _ => .inr ⟨e, rfl⟩

lemma Truthful.arm (hs : s.Truthful) (f : F) (c : HookCall) (now : ℤ) :
    (s.arm f c now).Truthful := by
  unfold HookSystem.arm
  split
  · exact hs.goOn rfl
  · exact hs.goOn rfl

lemma Truthful.add (hs : s.Truthful) {ctl : Option CtlErrno} (h : s.add f c ctl = some s') :
    s'.Truthful := by
  obtain ⟨⟨m, rt⟩, -, rfl⟩ := Option.map_eq_some_iff.mp h
  dsimp only
  split_ifs
  · exact hs.goOn rfl
  · split
    · exact hs.finish (by simp) fun _ => .inr ⟨_, rfl⟩
    · exact hs.goOn (by simp)

lemma Truthful.resume (hs : s.Truthful) (f : F) (c : HookCall) : (s.resume f c).Truthful := by
  simp only [HookSystem.resume]
  split_ifs
  · exact hs.finish (by simp) fun _ => .inr ⟨_, rfl⟩
  · split
    · exact hs.goOn (by simp)
    · exact hs.goOn (by simp)

/-- The test reports the connection of a socket that is neither connecting nor unconnected. -/
lemma Truthful.getsockopt (hs : s.Truthful) {fail : Option Errno}
    (hsettled : fail = none → s.connection c.fd ≠ .inProgress ∧ s.connection c.fd ≠ .unconnected) :
    (s.getsockopt f c fail).Truthful := by
  cases fail with
  | some e => exact hs.finish rfl fun _ => .inr ⟨e, rfl⟩
  | none =>
    obtain ⟨hprogress, hunconnected⟩ := hsettled rfl
    simp only [HookSystem.getsockopt]
    split
    · refine hs.finish ?_ fun _ => .inr ⟨_, rfl⟩
      rfl
    · rename_i hfailed
      refine hs.finish rfl fun _ => .inl ⟨rfl, ?_⟩
      cases hconnection : s.connection c.fd with
      | unconnected => exact absurd hconnection hunconnected
      | inProgress => exact absurd hconnection hprogress
      | established => rfl
      | failed e => exact absurd hconnection (hfailed e)

end

end HookSystem

end CoroutineGateway
