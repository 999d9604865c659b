import CoroutineGateway.Properties.Generations

/-!
# Calls whose file is closed

A call of `do_io` that waits when its file is closed has to be woken, for no event will be reported
any more, and the `cancelEvent` of its timeout fails on a closed number.  The `cancelAll` of the
`close` wakes it, but not where `epoll_ctl` fails, and not if the call gets registered only after
the `cancelAll`: then it waits for good.

`Attended` is the invariant of the runs in which neither happens: a call that waits and has not been
scheduled is registered, its file is open and known to the `FdManager`, and no `close` of it is past
its `cancelAll`.  `ownIo_throughout` puts this and `Owned` together: the system calls of `do_io` are
on the file their call began with, and when that is closed the call ends with an error.
-/

namespace CoroutineGateway

/-- The call is past the look-up and has found a context of a socket. -/
def IoCall.Hooked (c : IoCall) : Prop := c.pc ≠ .lookup ∧ c.pc ≠ .direct

/-- Where the fiber may be registered. -/
def Activity.seat : Activity → Option (ℕ × Event)
  | .io c => if c.pc = .parked then some (c.fd, c.event) else none
  | _ => none

namespace DescriptorSystem

open IOManager

variable {F : Type*} [DecidableEq F] {s s' : DescriptorSystem F} {f g : F} {c : IoCall} {fd : ℕ}

/-! ## What is promised -/

/-- The number still names the file that the call began with. -/
def FileOpen (s : DescriptorSystem F) (c : IoCall) : Prop :=
  (s.kernel c.fd).isSome ∧ s.kernel c.fd = c.begun

/-- The fiber itself takes the step; the callbacks of its timers are run by workers. -/
def TakenBy (f : F) : DescriptorAction F → Prop
  | .fire _ _ => False
  | a => fiberOf a = some f

/-- The call waits for nobody: its next two steps at most return an error. -/
def EndsInError (s : DescriptorSystem F) (f : F) (c : IoCall) : Prop :=
  ∃ as s', as.length ≤ 2 ∧ (∀ a ∈ as, TakenBy f a) ∧ machine.run s as = some s' ∧
    s'.activity f = .idle ∧ s'.ended = s.ended ++ [⟨c.begun, s.kernel c.fd, true⟩]

/-- Every system call of `do_io` was on the file of its call.  A call that returned anything but an
error did so while its file was open, and one whose file is closed ends with an error. -/
structure OwnIo (s : DescriptorSystem F) : Prop where
  issued : ∀ i ∈ s.issued, i.OnOwn
  ended : ∀ e ∈ s.ended, e.Right
  ends : ∀ f c, s.activity f = .io c → ¬ s.FileOpen c → s.EndsInError f c

/-! ## The invariant -/

/-- The call is registered, and a `close` of its file is still to come to its `cancelAll`. -/
structure Watched (s : DescriptorSystem F) (f : F) (c : IoCall) : Prop where
  waits : s.manager.Waits f c.fd c.event
  fileOpen : s.FileOpen c
  known : s.datas c.fd ≠ none
  closers : ¬ s.PastCancelAll c.fd

/-- The number has a context, or is closed, or about to be. -/
def Known (s : DescriptorSystem F) (fd : ℕ) : Prop :=
  s.kernel fd = none ∨ s.datas fd ≠ none ∨ ∃ g, s.activity g = .closing fd .close

/-- The invariant of the waiting calls. -/
structure Attended (s : DescriptorSystem F) : Prop where
  held : s.manager.Held
  seated : ∀ f, s.manager.Seated f (s.activity f).seat (s.resumed f)
  resumed : ∀ f, s.resumed f ≤ s.manager.wakeUps f
  watched : ∀ f c, s.activity f = .io c → c.pc = .parked → ¬ s.scheduled f → s.Watched f c
  known : ∀ f c, s.activity f = .io c → c.Hooked → ¬ c.TimedOut → s.Known c.fd

lemma attended_init (t : ℕ) : (init t : DescriptorSystem F).Attended where
  held := (sound_init t).held
  seated f := by
    refine ⟨fun fd e h => absurd h (not_waits_init t), fun fd e h => absurd h (not_waits_init t),
      fun _ => ?_, ?_⟩
    · simp [IOManager.wakeUps, init, IOManager.init]
    · simp [IOManager.wakeUps, init, IOManager.init]
  resumed _ := Nat.zero_le _
  watched _ _ h := by cases h
  known _ _ h := by cases h

lemma scheduled_iff : s.scheduled f ↔ s.resumed f < s.manager.wakeUps f := Iff.rfl

lemma Attended.not_scheduled (hs : s.Attended) {e : Event} (h : s.manager.Waits f fd e) :
    ¬ s.scheduled f :=
  not_lt.mpr ((hs.seated f).waiting fd e h)

/-- Whoever waits for a number waits in a call, and no `close` is past its `cancelAll`. -/
lemma Attended.watched_of_waits (hs : s.Attended) {e : Event} (h : s.manager.Waits f fd e) :
    ∃ c, s.activity f = .io c ∧ c.fd = fd ∧ s.Watched f c := by
  have hseat := (hs.seated f).waits fd e h
  cases hact : s.activity f with
  | io c =>
    rw [hact, Activity.seat] at hseat
    split_ifs at hseat with hpc
    obtain ⟨rfl, rfl⟩ := Prod.mk.inj (Option.some.inj hseat)
    exact ⟨c, rfl, rfl, hs.watched f c hact hpc (hs.not_scheduled h)⟩
  | idle | closing _ _ | creating _ =>
    rw [hact] at hseat
    cases hseat

/-- Every registration is that of a fiber. -/
lemma Attended.exists_waits (hs : s.Attended) {e : Event}
    (he : e ∈ (s.manager.context fd).events) : ∃ f, s.manager.Waits f fd e := by
  rcases ((hs.held.tight fd).armed e he).2 with ⟨hfiber, -⟩ | ⟨-, hcb⟩
  · obtain ⟨f, hf⟩ := Option.isSome_iff_exists.mp hfiber
    exact ⟨f, he, hf⟩
  · obtain ⟨cb, -⟩ := Option.isSome_iff_exists.mp hcb
    exact cb.elim

/-! ## Steps that change no call -/

/-- Only the records change. -/
lemma Attended.congr (hs : s.Attended) (hkernel : s'.kernel = s.kernel)
    (hdatas : s'.datas = s.datas) (hmanager : s'.manager = s.manager)
    (hactivity : s'.activity = s.activity) (hresumed : s'.resumed = s.resumed) : s'.Attended := by
  obtain ⟨held, seated, resumed, watched, known⟩ := hs
  have hpast : ∀ fd, s'.PastCancelAll fd ↔ s.PastCancelAll fd := by
    simp [PastCancelAll, hactivity]
  refine ⟨hmanager ▸ held, fun f => ?_, fun f => ?_, fun f c hact hpc hsched => ?_,
    fun f c hact hhooked htimed => ?_⟩
  · rw [hmanager, hactivity, hresumed]
    exact seated f
  · rw [hmanager, hresumed]
    exact resumed f
  · rw [scheduled_iff, hresumed, hmanager] at hsched
    obtain ⟨hwaits, hopen, hdata, hclosers⟩ := watched f c (hactivity ▸ hact) hpc hsched
    refine ⟨hmanager ▸ hwaits, ?_, hdatas ▸ hdata, fun h => hclosers ((hpast c.fd).mp h)⟩
    rw [FileOpen, hkernel]
    exact hopen
  · rw [Known, hkernel, hdatas, hactivity]
    exact known f c (hactivity ▸ hact) hhooked htimed

/-- Registrations end, and their fibers are scheduled. -/
lemma Attended.wakes (hs : s.Attended) {m : IOManager F Empty} (hm : m.Held) {gone : Finset Event}
    (hwakes : s.manager.Wakes fd gone m) :
    ({ s with manager := m } : DescriptorSystem F).Attended where
  held := hm
  seated f := (hs.seated f).frees hwakes.toFrees
  resumed f := (hs.resumed f).trans (hwakes.toFrees.wakeUps_le f)
  watched f c hact hpc hsched := by
    have hle : m.wakeUps f ≤ s.resumed f := not_lt.mp hsched
    have hold : ¬ s.scheduled f := not_lt.mpr ((hwakes.toFrees.wakeUps_le f).trans hle)
    obtain ⟨hwaits, hopen, hdata, hclosers⟩ := hs.watched f c hact hpc hold
    refine ⟨(hwakes.waits f c.fd c.event).mpr ⟨hwaits, ?_⟩, hopen, hdata, hclosers⟩
    -- had its registration ended it would be scheduled
    rintro ⟨hfd, hgone⟩
    have hwoken := hwakes.woken f c.event hgone (hfd ▸ hwaits)
    exact absurd (hwoken.trans_le hle) (not_lt.mpr (hs.resumed f))
  known := hs.known

/-- Contexts are made or written. -/
lemma Attended.learn (hs : s.Attended) {datas : ℕ → Option FdCtx}
    (hdatas : ∀ fd, s.datas fd ≠ none → datas fd ≠ none) :
    ({ s with datas := datas } : DescriptorSystem F).Attended where
  held := hs.held
  seated := hs.seated
  resumed := hs.resumed
  watched f c hact hpc hsched := by
    obtain ⟨hwaits, hopen, hdata, hclosers⟩ := hs.watched f c hact hpc hsched
    exact ⟨hwaits, hopen, hdatas c.fd hdata, hclosers⟩
  known f c hact hhooked htimed :=
    (hs.known f c hact hhooked htimed).imp_right (.imp_left (hdatas c.fd))

/-- The context of a number goes, and its `close_f` is next. -/
lemma Attended.forget (hs : s.Attended) (hcloser : s.activity g = .closing fd .close) :
    ({ s with datas := Function.update s.datas fd none } : DescriptorSystem F).Attended where
  held := hs.held
  seated := hs.seated
  resumed := hs.resumed
  watched f c hact hpc hsched := by
    obtain ⟨hwaits, hopen, hdata, hclosers⟩ := hs.watched f c hact hpc hsched
    refine ⟨hwaits, hopen, ?_, hclosers⟩
    have hne : c.fd ≠ fd := fun heq => hclosers ⟨g, .close, heq ▸ hcloser, by simp⟩
    exact (Function.update_of_ne hne _ _).trans_ne hdata
  known f c hact hhooked htimed := by
    by_cases heq : c.fd = fd
    · exact .inr (.inr ⟨g, heq ▸ hcloser⟩)
    · exact (hs.known f c hact hhooked htimed).imp_right (.imp_left
        (Function.update_of_ne heq _ _).trans_ne)

/-- A free number is handed out that no call claims. -/
lemma Attended.openFile (hs : s.Attended) (hfree : s.Unclaimed fd)
    (hopen : s.openFile fd = some s') : s'.Attended := by
  unfold DescriptorSystem.openFile at hopen
  split_ifs at hopen with hclosed
  obtain rfl := Option.some.inj hopen
  refine ⟨hs.held, hs.seated, hs.resumed, fun f c hact hpc hsched => ?_,
    fun f c hact hhooked htimed => ?_⟩
  · obtain ⟨hwaits, hfile, hdata, hclosers⟩ := hs.watched f c hact hpc hsched
    have hne : c.fd ≠ fd := by
      rintro rfl
      rw [FileOpen, hclosed] at hfile
      cases hfile.1
    refine ⟨hwaits, ?_, hdata, hclosers⟩
    simpa [FileOpen, Function.update_of_ne hne] using hfile
  · have hne : c.fd ≠ fd := fun heq => htimed (hfree f c hact heq)
    exact (hs.known f c hact hhooked htimed).imp_left (Function.update_of_ne hne _ _).trans

/-- A number is freed for which nobody waits any more. -/
lemma Attended.closeFile (hs : s.Attended) (hcloser : s.activity g = .closing fd .close) :
    ({ s with
      kernel := Function.update s.kernel fd none
      manager := { s.manager with epoll := Function.update s.manager.epoll fd none } } :
        DescriptorSystem F).Attended := by
  have hpast : s.PastCancelAll fd := ⟨g, .close, hcloser, by simp⟩
  refine ⟨⟨⟨hs.held.size, hs.held.fd_eq, hs.held.tight, hs.held.conserved, hs.held.nonempty⟩,
    fun fd' e he => ?_⟩, fun f => ?_, hs.resumed, fun f c hact hpc hsched => ?_,
    fun f c hact hhooked htimed => ?_⟩
  · have hne : fd' ≠ fd := by
      rintro rfl
      obtain ⟨f, hwaits⟩ := hs.exists_waits he
      obtain ⟨c, -, rfl, hwatched⟩ := hs.watched_of_waits hwaits
      exact hwatched.closers hpast
    exact (Function.update_of_ne hne _ _).trans (hs.held.epoll_eq fd' e he)
  · exact (hs.seated f).congr rfl fun _ _ => Iff.rfl
  · obtain ⟨hwaits, hfile, hdata, hclosers⟩ := hs.watched f c hact hpc hsched
    have hne : c.fd ≠ fd := fun heq => hclosers (heq ▸ hpast)
    refine ⟨hwaits, ?_, hdata, hclosers⟩
    simpa [FileOpen, Function.update_of_ne hne] using hfile
  · by_cases heq : c.fd = fd
    · exact .inl (by simp [heq])
    · exact (hs.known f c hact hhooked htimed).imp_left (Function.update_of_ne heq _ _).trans

/-! ## Steps of a fiber -/

/-- A fiber comes to another place, and perhaps gets registered or is resumed; nobody else is
touched.  If it is past a `cancelAll` there, nobody waits for the number; and if it leaves a
`close`, the number is closed. -/
structure Moves (s s' : DescriptorSystem F) (f : F) : Prop where
  kernel : s'.kernel = s.kernel
  datas : s'.datas = s.datas
  held : s'.manager.Held
  wakeUps : ∀ g, s'.manager.wakeUps g = s.manager.wakeUps g
  waits : ∀ g, g ≠ f → ∀ fd e, s'.manager.Waits g fd e ↔ s.manager.Waits g fd e
  others : ∀ g, g ≠ f → s'.activity g = s.activity g ∧ s'.resumed g = s.resumed g
  seated : s'.manager.Seated f (s'.activity f).seat (s'.resumed f)
  resumed : s'.resumed f ≤ s.manager.wakeUps f
  watched : ∀ c, s'.activity f = .io c → c.pc = .parked → ¬ s'.scheduled f → s'.Watched f c
  known : ∀ c, s'.activity f = .io c → c.Hooked → ¬ c.TimedOut → s.Known c.fd
  entered : ∀ fd pc, s'.activity f = .closing fd pc → pc ≠ .cancelAll →
    ∀ g e, ¬ s.manager.Waits g fd e
  left : ∀ fd, s.activity f = .closing fd .close → s.kernel fd = none

lemma Moves.attended (h : s.Moves s' f) (hs : s.Attended) : s'.Attended where
  held := h.held
  seated g := by
    by_cases hg : g = f
    · exact hg ▸ h.seated
    · rw [(h.others g hg).1, (h.others g hg).2]
      have hold := hs.seated g
      refine ⟨fun fd e hw => hold.waits fd e ((h.waits g hg fd e).mp hw), fun fd e hw => ?_,
        fun hnone => ?_, ?_⟩
      · exact (h.wakeUps g).trans_le (hold.waiting fd e ((h.waits g hg fd e).mp hw))
      · exact (h.wakeUps g).trans_le (hold.free hnone)
      · exact (h.wakeUps g).trans_le hold.le
  resumed g := by
    rw [h.wakeUps]
    by_cases hg : g = f
    · exact hg ▸ h.resumed
    · rw [(h.others g hg).2]
      exact hs.resumed g
  watched g c hact hpc hsched := by
    by_cases hg : g = f
    · subst hg
      exact h.watched c hact hpc hsched
    · obtain ⟨hactivity, hresumed⟩ := h.others g hg
      rw [scheduled_iff, hresumed, h.wakeUps] at hsched
      obtain ⟨hwaits, hopen, hdata, hclosers⟩ := hs.watched g c (hactivity ▸ hact) hpc hsched
      refine ⟨(h.waits g hg _ _).mpr hwaits, ?_, h.datas ▸ hdata, ?_⟩
      · rw [FileOpen, h.kernel]
        exact hopen
      · rintro ⟨k, pc, hk, hpast⟩
        by_cases hkf : k = f
        · subst hkf
          exact h.entered c.fd pc hk hpast g c.event hwaits
        · exact hclosers ⟨k, pc, (h.others k hkf).1 ▸ hk, hpast⟩
  known g c hact hhooked htimed := by
    have hknown : s.Known c.fd := by
      by_cases hg : g = f
      · subst hg
        exact h.known c hact hhooked htimed
      · exact hs.known g c ((h.others g hg).1 ▸ hact) hhooked htimed
    rw [Known, h.kernel, h.datas]
    rcases hknown with hclosed | hdata | ⟨k, hk⟩
    · exact .inl hclosed
    · exact .inr (.inl hdata)
    · by_cases hkf : k = f
      · subst hkf
        exact .inl (h.left c.fd hk)
      · exact .inr (.inr ⟨k, (h.others k hkf).1.trans hk⟩)

/-- A fiber comes to another place, and nothing else happens. -/
lemma Attended.goOn (hs : s.Attended) {a : Activity}
    (hseat : a.seat = none ∧ (s.activity f).seat = none ∨ a.seat = (s.activity f).seat)
    (hwatched : ∀ c, a = .io c → c.pc = .parked → ¬ s.scheduled f → s.Watched f c)
    (hknown : ∀ c, a = .io c → c.Hooked → ¬ c.TimedOut → s.Known c.fd)
    (hentered : ∀ fd pc, a = .closing fd pc → pc ≠ .cancelAll → ∀ g e, ¬ s.manager.Waits g fd e)
    (hleft : ∀ fd, s.activity f = .closing fd .close → s.kernel fd = none) :
    (s.goOn f a).Attended := by
  have hnew : (s.goOn f a).activity f = a := Function.update_self ..
  have hseated : s.manager.Seated f a.seat (s.resumed f) := by
    have hold := hs.seated f
    rcases hseat with ⟨hnone, hold'⟩ | heq
    · rwa [hnone, ← hold']
    · rwa [heq]
  refine Moves.attended (s := s) (f := f) ⟨rfl, rfl, hs.held, fun _ => rfl,
    fun _ _ _ _ => Iff.rfl, fun g hg => ⟨Function.update_of_ne hg _ _, rfl⟩, ?_, hs.resumed f, ?_,
    fun c hact => hknown c (hnew.symm.trans hact), fun fd pc hact => hentered fd pc
      (hnew.symm.trans hact), hleft⟩ hs
  · rw [hnew]
    exact hseated
  · intro c hact hpc hsched
    have hc : a = .io c := hnew.symm.trans hact
    obtain ⟨hwaits, hopen, hdata, hclosers⟩ := hwatched c hc hpc hsched
    refine ⟨hwaits, hopen, hdata, ?_⟩
    rintro ⟨k, pc, hk, hpast⟩
    by_cases hkf : k = f
    · subst hkf
      rw [hnew, hc] at hk
      cases hk
    · exact hclosers ⟨k, pc, (Function.update_of_ne hkf _ _).symm.trans hk, hpast⟩

/-- A call returns. -/
lemma Attended.finish (hs : s.Attended) (hact : s.activity f = .io c) (hpc : c.pc ≠ .parked)
    (failed : Bool) : (s.finish f c failed).Attended := by
  have hrecord : ({ s with ended := s.ended ++ [⟨c.begun, s.kernel c.fd, failed⟩] } :
      DescriptorSystem F).Attended := hs.congr rfl rfl rfl rfl rfl
  have hseat : (s.activity f).seat = none := by simp [hact, Activity.seat, hpc]
  refine hrecord.goOn (.inl ⟨rfl, hseat⟩) (fun _ h => by cases h) (fun _ h => by cases h)
    (fun _ _ h => by cases h) fun fd h => ?_
  cases hact.symm.trans h

/-- A call that does not wait goes on. -/
lemma Attended.move (hs : s.Attended) (hact : s.activity f = .io c) (hpc : c.pc ≠ .parked)
    {c' : IoCall} (hpc' : c'.pc ≠ .parked) (hknown : c'.Hooked → s.Known c'.fd) :
    (s.goOn f (.io c')).Attended := by
  have hseat : (s.activity f).seat = none := by simp [hact, Activity.seat, hpc]
  refine hs.goOn (.inl ⟨by simp [Activity.seat, hpc'], hseat⟩) (fun c h hparked => ?_)
    (fun c h hhooked _ => ?_) (fun _ _ h => by cases h) fun fd h => ?_
  · obtain rfl := Activity.io.inj h
    exact absurd hparked hpc'
  · obtain rfl := Activity.io.inj h
    exact hknown hhooked
  · cases hact.symm.trans h

/-- A fiber that is in no call goes on. -/
lemma Attended.leave (hs : s.Attended) (hact : ∀ c, s.activity f ≠ .io c)
    (hleft : ∀ fd, s.activity f = .closing fd .close → s.kernel fd = none) {a : Activity}
    (ha : a.seat = none) (hio : ∀ c, a = .io c → ¬ c.Hooked ∧ c.pc ≠ .parked)
    (hentered : ∀ fd pc, a = .closing fd pc → pc ≠ .cancelAll →
      ∀ g e, ¬ s.manager.Waits g fd e) : (s.goOn f a).Attended := by
  have hseat : (s.activity f).seat = none := by
    cases h : s.activity f with
    | io c => exact absurd h (hact c)
    | idle | closing _ _ | creating _ => rfl
  exact hs.goOn (.inl ⟨ha, hseat⟩) (fun c h hpc => absurd hpc (hio c h).2)
    (fun c h hhooked => absurd hhooked (hio c h).1) hentered hleft

lemma Attended.lookup (hs : s.Attended) (hact : s.activity f = .io c) (hpc : c.pc = .lookup) :
    (s.lookup f c).Attended := by
  have hparked : c.pc ≠ .parked := by simp [hpc]
  unfold DescriptorSystem.lookup
  split
  · exact hs.move hact hparked (by simp) fun h => absurd rfl h.2
  · rename_i ctx hctx
    split_ifs
    · exact hs.finish hact hparked true
    · exact hs.move hact hparked (by simp) fun h => absurd rfl h.2
    · exact hs.move hact hparked (by simp) fun _ => .inr (.inl (by simp [hctx]))

lemma Attended.issue (hs : s.Attended) (hact : s.activity f = .io c)
    (hpc : c.pc = .direct ∨ c.pc = .retry) {answer : IoAnswer} (hG : s.Orderly (.issue f answer))
    (hstep : s.issue f c answer = some s') : s'.Attended := by
  have hparked : c.pc ≠ .parked := by rcases hpc with h | h <;> simp [h]
  have hrecord : ∀ r, (s.record c r).Attended := fun r => hs.congr rfl rfl rfl rfl rfl
  rcases issue_cases hstep with ⟨-, rfl⟩ | ⟨hopen, hcases⟩
  · exact (hrecord _).finish hact hparked true
  · rcases hcases with ⟨r, failed, rfl⟩ | ⟨fd, r, u, rfl, hu, rfl, -⟩ | ⟨r, rfl⟩ |
      ⟨hdirect, r, rfl⟩
    · exact (hrecord r).finish hact hparked failed
    · have hu' : u.Attended := (hrecord r).openFile (hG c hact hopen) hu
      have hact' : u.activity f = .io c := by
        unfold DescriptorSystem.openFile at hu
        split_ifs at hu
        obtain rfl := Option.some.inj hu
        exact hact
      have hidle : (u.finish f c false).activity f = .idle := Function.update_self ..
      exact (hu'.finish hact' hparked false).leave (fun _ h => by cases hidle.symm.trans h)
        (fun _ h => by cases hidle.symm.trans h) rfl (fun _ h => by cases h) fun _ _ h => by cases h
    · exact hrecord r
    · have hretry : c.pc = .retry := hpc.resolve_left hdirect
      refine (hrecord r).move hact hparked (by simp) fun _ => ?_
      exact hs.known f c hact ⟨by simp [hretry], by simp [hretry]⟩ fun h => hparked h.1

/-- A call is registered. -/
lemma Attended.park (hs : s.Attended) (hact : s.activity f = .io c) (hpc : c.pc = .add)
    {m : IOManager F Empty}
    (hr : s.manager.addEvent f .running c.fd c.event none false = some (m, 0))
    (hopen : s.FileOpen c) (hclosers : ¬ s.PastCancelAll c.fd) :
    (({ s with manager := m } : DescriptorSystem F).goOn f
      (.io { c with pc := .parked })).Attended := by
  have hseat : (s.activity f).seat = none := by simp [hact, Activity.seat, hpc]
  have hscheduled : m.scheduled = s.manager.scheduled := (addEvent_waits hs.held.size hr).1
  have hwaits : ∀ g fd e, m.Waits g fd e ↔
      s.manager.Waits g fd e ∨ (g = f ∧ fd = c.fd ∧ e = c.event) := fun g fd e => by
    simpa using (addEvent_waits hs.held.size hr).2 g fd e
  have hnew : (({ s with manager := m } : DescriptorSystem F).goOn f
      (.io { c with pc := .parked })).activity f = .io { c with pc := .parked } :=
    Function.update_self ..
  have hwakeUps : ∀ g, m.wakeUps g = s.manager.wakeUps g := fun g => by
    rw [IOManager.wakeUps, IOManager.wakeUps, hscheduled]
  have hfree := hs.seated f
  rw [hseat] at hfree
  refine Moves.attended (s := s) (f := f) ⟨rfl, rfl, hs.held.addEvent_held hr, hwakeUps,
    fun g hg fd e => ?_, fun g hg => ⟨Function.update_of_ne hg _ _, rfl⟩, ?_, hs.resumed f,
    fun c' hact' _ _ => ?_, fun c' hact' _ _ => ?_, fun fd pc h => ?_, fun fd h => ?_⟩ hs
  · exact (hwaits g fd e).trans (or_iff_left fun h => hg h.1)
  · rw [hnew, Activity.seat, if_pos rfl]
    exact hfree.sit hscheduled fun g e =>
      (hwaits f g e).trans (or_congr Iff.rfl (and_iff_right rfl))
  · obtain rfl := Activity.io.inj (hnew.symm.trans hact')
    have hhooked : c.Hooked := ⟨by simp [hpc], by simp [hpc]⟩
    have hknown := hs.known f c hact hhooked fun h => by cases hpc.symm.trans h.1
    have hdata : s.datas c.fd ≠ none := by
      rcases hknown with hclosed | hdata | ⟨g, hg⟩
      · rw [FileOpen, hclosed] at hopen
        cases hopen.1
      · exact hdata
      · exact absurd ⟨g, .close, hg, by simp⟩ hclosers
    refine ⟨(hwaits f c.fd c.event).mpr (.inr ⟨rfl, rfl, rfl⟩), hopen, hdata, ?_⟩
    rintro ⟨k, pc, hk, hpast⟩
    by_cases hkf : k = f
    · subst hkf
      cases hnew.symm.trans hk
    · exact hclosers ⟨k, pc, (Function.update_of_ne hkf _ _).symm.trans hk, hpast⟩
  · obtain rfl := Activity.io.inj (hnew.symm.trans hact')
    exact hs.known f c hact ⟨by simp [hpc], by simp [hpc]⟩ fun h => by cases hpc.symm.trans h.1
  · cases hnew.symm.trans h
  · cases hact.symm.trans h

omit [DecidableEq F] in
lemma addEvent_of_fail (m : IOManager F Empty) (f : F) (fd : ℕ) (e : Event) :
    m.addEvent f .running fd e none true = some (m.reserve fd, -1) := by
  unfold IOManager.addEvent
  dsimp only
  by_cases he : e ∈ ((m.reserve fd).context fd).events
  · rw [if_pos he]
  · rw [if_neg he]
    rfl

lemma Attended.add (hs : s.Attended) (howned : s.Owned) (hact : s.activity f = .io c)
    (hpc : c.pc = .add) {fail : Bool} (hG : s.Orderly (.add f fail)) {m : IOManager F Empty}
    {rt : ℤ} (hr : s.manager.addEvent f .running c.fd c.event none (s.ctlFails c.fd fail) =
      some (m, rt)) :
    (if rt = 0 then ({ s with manager := m } : DescriptorSystem F).goOn f
        (.io { c with pc := .parked })
      else ({ s with manager := m } : DescriptorSystem F).finish f c true).Attended := by
  have hparked : c.pc ≠ .parked := by simp [hpc]
  split_ifs with hrt
  · subst hrt
    cases hfails : s.ctlFails c.fd fail with
    | true =>
      rw [hfails, addEvent_of_fail] at hr
      cases hr
    | false =>
      rw [hfails] at hr
      obtain ⟨rfl, hopen⟩ : fail = false ∧ s.kernel c.fd ≠ none := by
        simpa [ctlFails, Option.isSome_iff_ne_none] using hfails
      have hfile : s.FileOpen c :=
        ((howned.calls f c hact).open_or_closed hparked).resolve_right hopen
      exact hs.park hact hpc hr hfile (hG c hact)
  · obtain ⟨hscheduled, hwaits⟩ := addEvent_waits hs.held.size hr
    have hsame : ∀ g fd e, m.Waits g fd e ↔ s.manager.Waits g fd e := fun g fd e => by
      simp [hwaits, hrt]
    have hm : ({ s with manager := m } : DescriptorSystem F).Attended := by
      have hfrees : s.manager.Wakes c.fd ∅ m :=
        ⟨⟨fun g fd e => by simp [hsame], [], List.nodup_nil, fun e he =>
          absurd he List.not_mem_nil, by simpa using hscheduled⟩,
          fun _ e he => absurd he (Finset.notMem_empty e)⟩
      exact hs.wakes (hs.held.addEvent_held hr) hfrees
    exact hm.finish hact hparked true

/-- A fiber that has been scheduled runs on. -/
lemma Attended.runOn (hs : s.Attended) (hact : s.activity f = .io c) (hscheduled : s.scheduled f)
    {a : Activity} (ha : a.seat = none) (hclosing : ∀ fd pc, a ≠ .closing fd pc)
    (hio : ∀ c', a = .io c' → c'.pc ≠ .parked ∧ (c'.Hooked → s.Known c'.fd)) :
    (({ s with resumed := Function.update s.resumed f (s.resumed f + 1) } :
      DescriptorSystem F).goOn f a).Attended := by
  have hnew : Function.update s.activity f a f = a := Function.update_self ..
  have hresumed : Function.update s.resumed f (s.resumed f + 1) f = s.resumed f + 1 :=
    Function.update_self ..
  refine Moves.attended (s := s) (f := f)
    { kernel := rfl
      datas := rfl
      held := hs.held
      wakeUps := fun _ => rfl
      waits := fun _ _ _ _ => Iff.rfl
      others := fun g hg => ⟨Function.update_of_ne hg _ _, Function.update_of_ne hg _ _⟩
      seated := ?_
      resumed := hresumed.trans_le hscheduled
      watched := fun c' h hpc => absurd hpc (hio c' (hnew.symm.trans h)).1
      known := fun c' h hhooked _ => (hio c' (hnew.symm.trans h)).2 hhooked
      entered := fun fd pc h => absurd (hnew.symm.trans h) (hclosing fd pc)
      left := fun fd h => by cases hact.symm.trans h } hs
  change s.manager.Seated f (Function.update s.activity f a f).seat
    (Function.update s.resumed f (s.resumed f + 1) f)
  rw [hnew, ha, hresumed]
  exact (hs.seated f).leave hscheduled

lemma Attended.resume (hs : s.Attended) (hact : s.activity f = .io c) (hpc : c.pc = .parked)
    (hscheduled : s.scheduled f) :
    (if c.cancelled then ({ s with resumed := Function.update s.resumed f (s.resumed f + 1) } :
        DescriptorSystem F).finish f c true
      else ({ s with resumed := Function.update s.resumed f (s.resumed f + 1) } :
        DescriptorSystem F).goOn f (.io { c with pc := .retry })).Attended := by
  split_ifs with hcancelled
  · have hidle := hs.runOn (a := .idle) hact hscheduled rfl (fun _ _ h => by cases h)
      fun _ h => by cases h
    exact hidle.congr rfl rfl rfl rfl rfl
  · refine hs.runOn hact hscheduled rfl (fun _ _ h => by cases h) fun c' h => ?_
    obtain rfl := Activity.io.inj h
    refine ⟨by simp, fun _ => ?_⟩
    exact hs.known f c hact ⟨by simp [hpc], by simp [hpc]⟩ fun h => hcancelled h.2

lemma Attended.fire (hs : s.Attended) (hact : s.activity f = .io c)
    (hcancelled : c.cancelled = false) {m : IOManager F Empty} {fail b : Bool}
    (hr : s.manager.cancelEvent c.fd c.event fail = some (m, b)) :
    (({ s with manager := m } : DescriptorSystem F).goOn f
      (.io { c with cancelled := true })).Attended := by
  obtain ⟨gone, hwakes⟩ := cancelEvent_wakes (hs.held.tight c.fd) hr
  obtain ⟨r, hr', hacted⟩ := hs.held.cancelEvent c.fd c.event fail
  obtain rfl := Option.some.inj (hr.symm.trans hr')
  have hm := hs.wakes (hacted.held hs.held) hwakes
  refine hm.goOn (.inr ?_) (fun c' h hpc hsched => ?_) (fun c' h hhooked _ => ?_)
    (fun _ _ h => by cases h) fun fd h => ?_
  · rw [show ({ s with manager := m } : DescriptorSystem F).activity f = .io c from hact]
    rfl
  · obtain rfl := Activity.io.inj h
    obtain ⟨hwaits, hopen, hdata, hclosers⟩ := hm.watched f c hact hpc hsched
    exact ⟨hwaits, hopen, hdata, hclosers⟩
  · obtain rfl := Activity.io.inj h
    exact hm.known f c hact hhooked fun h => by cases hcancelled.symm.trans h.2
  · cases hact.symm.trans h

lemma Attended.closeCancel (hs : s.Attended) (hact : s.activity f = .closing fd .cancelAll)
    {fail : Bool} (hG : s.Orderly (.closeCancel f fail)) {m : IOManager F Empty} {b : Bool}
    (hr : s.manager.cancelAll fd (s.ctlFails fd fail) = some (m, b)) :
    (({ s with manager := m } : DescriptorSystem F).goOn f (.closing fd .del)).Attended := by
  obtain ⟨gone, hwakes, hall⟩ := hs.held.cancelAll_wakes hr
  obtain ⟨r, hr', hacted⟩ := hs.held.cancelAll fd (s.ctlFails fd fail)
  obtain rfl := Option.some.inj (hr.symm.trans hr')
  have hm := hs.wakes (hacted.held hs.held) hwakes
  refine hm.leave (fun _ h => by cases hact.symm.trans h) (fun _ h => by cases hact.symm.trans h)
    rfl (fun _ h => by cases h) fun fd' pc h _ g e hwaits => ?_
  obtain ⟨rfl, -⟩ := Activity.closing.inj h
  obtain ⟨hold, hgone⟩ := (hwakes.waits g fd e).mp hwaits
  cases fail with
  | true => exact hG fd .cancelAll hact g e hold
  | false =>
    -- whoever waits for the number has its file open, so that `epoll_ctl` takes the call
    obtain ⟨c, -, rfl, hwatched⟩ := hs.watched_of_waits hold
    have hfails : s.ctlFails c.fd false = false := by
      simpa [ctlFails] using hwatched.fileOpen.1
    exact hgone ⟨rfl, (hall hfails) ▸ hold.1⟩

/-- In an orderly step a call that waits stays watched until it is scheduled. -/
theorem attended_step (hs : s.Attended) (howned : s.Owned) (a : DescriptorAction F)
    (hG : s.Orderly a) (hstep : machine.step s a = some s') : s'.Attended := by
  have hspec := step_spec hstep
  cases a with
  | begin f fd event accepts =>
    obtain ⟨hact, rfl⟩ := hspec
    refine hs.leave (fun _ h => by cases hact.symm.trans h)
      (fun _ h => by cases hact.symm.trans h) rfl (fun c h => ?_) fun _ _ h => by cases h
    obtain rfl := Activity.io.inj h
    exact ⟨fun h => h.1 rfl, by simp⟩
  | lookup f =>
    obtain ⟨c, hact, hpc, rfl⟩ := hspec
    exact hs.lookup hact hpc
  | issue f answer =>
    obtain ⟨c, hact, hpc, h⟩ := hspec
    exact hs.issue hact hpc hG h
  | arm f =>
    obtain ⟨c, hact, hpc, rfl⟩ := hspec
    refine hs.move hact (by simp [hpc]) (by simp) fun _ => ?_
    exact hs.known f c hact ⟨by simp [hpc], by simp [hpc]⟩ fun h => by cases hpc.symm.trans h.1
  | add f fail =>
    obtain ⟨c, m, rt, hact, hpc, hr, rfl⟩ := hspec
    exact hs.add howned hact hpc hG hr
  | resume f =>
    obtain ⟨c, hact, hpc, hscheduled, rfl⟩ := hspec
    exact hs.resume hact hpc hscheduled
  | fire f fail =>
    obtain ⟨c, m, b, hact, hcancelled, hr, rfl⟩ := hspec
    exact hs.fire hact hcancelled hr
  | dispatch r fail =>
    obtain ⟨m, hm, rfl⟩ := hspec
    obtain ⟨gone, hwakes⟩ := hs.held.dispatch_wakes hm
    exact hs.wakes ((hs.held.dispatch_acted hm).held hs.held) hwakes
  | close f fd =>
    obtain ⟨hact, rfl⟩ := hspec
    refine hs.leave (fun _ h => by cases hact.symm.trans h)
      (fun _ h => by cases hact.symm.trans h) rfl (fun c h => by cases h)
      fun fd' pc h hpc g e hwaits => ?_
    obtain ⟨rfl, rfl⟩ := Activity.closing.inj h
    -- the number of a call that waits has a context, so `close` does not leave out `cancelAll`
    obtain ⟨c, -, rfl, hwatched⟩ := hs.watched_of_waits hwaits
    exact hpc (if_pos (Option.isSome_iff_ne_none.mpr hwatched.known))
  | closeCancel f fail =>
    obtain ⟨fd, m, b, hact, hr, rfl⟩ := hspec
    exact hs.closeCancel hact hG hr
  | closeDel f =>
    obtain ⟨fd, hact, rfl⟩ := hspec
    have hgo : (s.goOn f (.closing fd .close)).Attended := by
      refine hs.leave (fun _ h => by cases hact.symm.trans h)
        (fun _ h => by cases hact.symm.trans h) rfl (fun c h => by cases h)
        fun fd' pc h _ g e hwaits => ?_
      obtain ⟨rfl, -⟩ := Activity.closing.inj h
      obtain ⟨c, -, rfl, hwatched⟩ := hs.watched_of_waits hwaits
      exact hwatched.closers ⟨f, .del, hact, by simp⟩
    exact hgo.forget (g := f) (Function.update_self ..)
  | closeF f =>
    obtain ⟨fd, hact, rfl⟩ := hspec
    refine (hs.closeFile hact).leave (fun _ h => by cases hact.symm.trans h) (fun fd' h => ?_) rfl
      (fun _ h => by cases h) fun _ _ h => by cases h
    obtain ⟨rfl, -⟩ := Activity.closing.inj (hact.symm.trans h)
    exact Function.update_self ..
  | socket f fd =>
    obtain ⟨hact, u, hopen, rfl⟩ := hspec
    have hact' : u.activity f = .idle := by
      unfold DescriptorSystem.openFile at hopen
      split_ifs at hopen
      obtain rfl := Option.some.inj hopen
      exact hact
    exact (hs.openFile hG hopen).leave (fun _ h => by cases hact'.symm.trans h)
      (fun _ h => by cases hact'.symm.trans h) rfl (fun _ h => by cases h) fun _ _ h => by cases h
  | create f =>
    obtain ⟨fd, hact, rfl⟩ := hspec
    have hcreate : (s.create fd).Attended ∧ (s.create fd).activity = s.activity := by
      unfold DescriptorSystem.create
      split
      · exact ⟨hs, rfl⟩
      · refine ⟨hs.learn fun fd' h => ?_, rfl⟩
        by_cases heq : fd' = fd
        · simp [heq]
        · exact (Function.update_of_ne heq _ _).trans_ne h
    have hact' : (s.create fd).activity f = .creating fd := by rw [hcreate.2, hact]
    exact hcreate.1.leave (fun _ h => by cases hact'.symm.trans h)
      (fun _ h => by cases hact'.symm.trans h) rfl (fun _ h => by cases h) fun _ _ h => by cases h
  | setUserNonblock fd v =>
    obtain rfl := hspec
    exact hs.learn fun fd' h => by by_cases heq : fd' = fd <;> simp_all
  | setTimeout fd event =>
    obtain rfl := hspec
    exact hs.learn fun fd' h => by by_cases heq : fd' = fd <;> simp_all

/-! ## A call whose file is closed -/

/-- The system call of a call whose number is closed is its last. -/
lemma run_issue (hact : s.activity f = .io c) (hpc : c.pc = .direct ∨ c.pc = .retry)
    (hclosed : s.kernel c.fd = none) : ∃ s', machine.run s [.issue f (.done 0)] = some s' ∧
      s'.activity f = .idle ∧ s'.ended = s.ended ++ [⟨c.begun, s.kernel c.fd, true⟩] := by
  refine ⟨(s.record c (some (.error .ebadf))).finish f c true, ?_, Function.update_self .., rfl⟩
  simp [Machine.run, machine, fiberOf, hact, ioStep, if_pos hpc, DescriptorSystem.issue, hclosed]

/-- So is its `addEvent`. -/
lemma run_add (hact : s.activity f = .io c) (hpc : c.pc = .add) (hclosed : s.kernel c.fd = none) :
    ∃ s', machine.run s [.add f false] = some s' ∧ s'.activity f = .idle ∧
      s'.ended = s.ended ++ [⟨c.begun, s.kernel c.fd, true⟩] := by
  have hfails : s.ctlFails c.fd false = true := by simp [ctlFails, hclosed]
  refine ⟨({ s with manager := s.manager.reserve c.fd } : DescriptorSystem F).finish f c true, ?_,
    Function.update_self .., rfl⟩
  simp [Machine.run, machine, fiberOf, hact, ioStep, hpc, hfails, addEvent_of_fail]

/-- **A call whose file is closed ends with an error.** -/
lemma Attended.endsInError (hs : s.Attended) (howned : s.Owned) (hact : s.activity f = .io c)
    (hclosed : ¬ s.FileOpen c) : s.EndsInError f c := by
  have hnone : c.pc ≠ .parked → s.kernel c.fd = none := fun hpc =>
    ((howned.calls f c hact).open_or_closed hpc).resolve_left hclosed
  cases hpc : c.pc with
  | lookup =>
    have hclosed := hnone (by simp [hpc])
    have hlookup : machine.step s (.lookup f) = some (s.lookup f c) := by
      simp [machine, fiberOf, hact, ioStep, hpc]
    -- without a context the call goes to a `return fun(fd, …)`, with one it may get to `retry`
    have hgo : ∀ c' : IoCall, (c'.pc = .direct ∨ c'.pc = .retry) → c'.fd = c.fd →
        c'.begun = c.begun → s.lookup f c = s.goOn f (.io c') → s.EndsInError f c := by
      intro c' hpc' hfd hbegun heq
      have hact' : (s.goOn f (.io c')).activity f = .io c' := Function.update_self ..
      obtain ⟨s', hrun, hidle, hended⟩ := run_issue hact' hpc' (by rw [hfd]; exact hclosed)
      rw [hbegun, hfd] at hended
      exact ⟨_, s', le_refl 2, by simp [TakenBy, fiberOf],
        (Machine.run_cons_eq_some machine).mpr ⟨_, hlookup.trans (congrArg some heq), hrun⟩,
        hidle, hended⟩
    cases hdata : s.datas c.fd with
    | none => exact hgo { c with pc := .direct } (.inl rfl) rfl rfl (by
        simp [DescriptorSystem.lookup, hdata])
    | some ctx =>
      by_cases hctx : ctx.isClosed
      · refine ⟨[.lookup f], _, by simp, by simp [TakenBy, fiberOf],
          (Machine.run_cons_eq_some machine).mpr ⟨_, hlookup, rfl⟩, ?_, ?_⟩
        · simp [DescriptorSystem.lookup, hdata, hctx, DescriptorSystem.finish,
            DescriptorSystem.goOn]
        · simp [DescriptorSystem.lookup, hdata, hctx, DescriptorSystem.finish,
            DescriptorSystem.goOn]
      · by_cases hdirect : !ctx.isSocket || ctx.userNonblock
        · exact hgo { c with pc := .direct } (.inl rfl) rfl rfl (by
            simp only [DescriptorSystem.lookup, hdata, if_neg hctx, if_pos hdirect])
        · exact hgo { c with pc := .retry, timeout := ctx.timeout c.event } (.inr rfl) rfl rfl (by
            simp only [DescriptorSystem.lookup, hdata, if_neg hctx, if_neg hdirect])
  | direct =>
    obtain ⟨s', hrun, hidle, hended⟩ := run_issue hact (.inl hpc) (hnone (by simp [hpc]))
    exact ⟨_, s', by simp, by simp [TakenBy, fiberOf], hrun, hidle, hended⟩
  | retry =>
    obtain ⟨s', hrun, hidle, hended⟩ := run_issue hact (.inr hpc) (hnone (by simp [hpc]))
    exact ⟨_, s', by simp, by simp [TakenBy, fiberOf], hrun, hidle, hended⟩
  | again =>
    have hclosed := hnone (by simp [hpc])
    have harm : machine.step s (.arm f) =
        some (s.goOn f (.io { c with pc := .add, armed := c.armed || c.timeout })) := by
      simp [machine, fiberOf, hact, ioStep, hpc]
    have hact' : (s.goOn f (.io { c with pc := .add, armed := c.armed || c.timeout })).activity f =
        .io { c with pc := .add, armed := c.armed || c.timeout } := Function.update_self ..
    obtain ⟨s', hrun, hidle, hended⟩ := run_add hact' rfl hclosed
    exact ⟨_, s', le_refl 2, by simp [TakenBy, fiberOf],
      (Machine.run_cons_eq_some machine).mpr ⟨_, harm, hrun⟩, hidle, hended⟩
  | add =>
    obtain ⟨s', hrun, hidle, hended⟩ := run_add hact hpc (hnone (by simp [hpc]))
    exact ⟨_, s', by simp, by simp [TakenBy, fiberOf], hrun, hidle, hended⟩
  | parked =>
    have hscheduled : s.scheduled f := by
      by_contra hsched
      exact hclosed (hs.watched f c hact hpc hsched).fileOpen
    have hresume : machine.step s (.resume f) = some
        (if c.cancelled then ({ s with resumed := Function.update s.resumed f (s.resumed f + 1) } :
            DescriptorSystem F).finish f c true
          else ({ s with resumed := Function.update s.resumed f (s.resumed f + 1) } :
            DescriptorSystem F).goOn f (.io { c with pc := .retry })) := by
      simp only [machine, fiberOf, hact, ioStep]
      rw [if_pos ⟨hpc, hscheduled⟩]
    by_cases hcancelled : c.cancelled
    · rw [if_pos hcancelled] at hresume
      exact ⟨[.resume f], _, by simp, by simp [TakenBy, fiberOf],
        (Machine.run_cons_eq_some machine).mpr ⟨_, hresume, rfl⟩, Function.update_self .., rfl⟩
    · rw [if_neg hcancelled] at hresume
      -- it has not timed out, so its number is closed when it is at `retry` again
      have hnumber : s.kernel c.fd = none := by
        rcases howned.calls f c hact with h | h | h
        · by_contra hopen
          exact hclosed ⟨Option.isSome_iff_ne_none.mpr hopen, h⟩
        · exact h
        · exact absurd h.2 hcancelled
      obtain ⟨s', hrun, hidle, hended⟩ := run_issue
        (s := ({ s with resumed := Function.update s.resumed f (s.resumed f + 1) } :
          DescriptorSystem F).goOn f (.io { c with pc := .retry })) (f := f)
        (Function.update_self ..) (.inr rfl) hnumber
      exact ⟨_, s', le_refl 2, by simp [TakenBy, fiberOf],
        (Machine.run_cons_eq_some machine).mpr ⟨_, hresume, hrun⟩, hidle, hended⟩

/-! ## Runs -/

/-- **When `do_io` stays on its connection.**  On every run in which no number is handed out while
an unfinished call that began on it has not timed out, no call gets registered while a `close` of
its number is past its `cancelAll`, and `epoll_ctl` does not fail in the `cancelAll` of a `close`
while a fiber waits, every system call of `do_io` is on the file its call began with, or is the last
of the call and fails; and when that file is closed, the call ends with an error. -/
theorem ownIo_throughout (t : ℕ) (as : List (DescriptorAction F))
    (hG : machine.Guarded Orderly (init t : DescriptorSystem F) as) :
    machine.Throughout OwnIo (init t : DescriptorSystem F) as :=
  Machine.throughout_of_guarded (I := fun s => s.Owned ∧ s.Attended)
    (fun _ a _ hs hG h => ⟨owned_step hs.1 a hG h, attended_step hs.2 hs.1 a hG h⟩)
    (fun _ hs => ⟨hs.1.issued, hs.1.ended, fun _ _ hact hclosed =>
      hs.2.endsInError hs.1 hact hclosed⟩)
    ⟨owned_init t, attended_init t⟩ hG

/-- A connection that is closed under a waiting call, whose number is not handed out again. -/
theorem ownIo_throughout_closed :
    machine.Throughout OwnIo (init 3 : DescriptorSystem Bool)
      [.socket false 5, .create false, .begin true 5 .read false, .lookup true,
        .issue true (.failed .eagain), .arm true, .add true false, .close false 5,
        .closeCancel false false, .closeDel false, .closeF false, .resume true,
        .issue true (.done 10)] := by
  refine ownIo_throughout 3 _ ?_
  refine .cons (fun _ _ h => by cases h) rfl (.cons trivial rfl (.cons trivial rfl (.cons trivial
    rfl (.cons trivial rfl (.cons trivial rfl (.cons ?_ rfl (.cons trivial rfl (.cons trivial
    rfl (.cons trivial rfl (.cons trivial rfl (.cons trivial rfl (.cons trivial rfl trivial))))))
    ))))))
  -- no `close` has begun
  rintro c - ⟨f, pc, hact, -⟩
  cases f <;> cases hact

/-- The connection is closed under a waiting call and its number is handed out again before the
fiber of the call runs: the call reads from the new connection. -/
theorem reads_other_connection :
    ¬ ∀ (as : List (DescriptorAction Bool)) (s : DescriptorSystem Bool),
      machine.run (init 3) as = some s → s.OwnIo := by
  intro hall
  have hown := hall [.socket false 5, .create false, .begin true 5 .read false, .lookup true,
    .issue true (.failed .eagain), .arm true, .add true false, .close false 5,
    .closeCancel false false, .closeDel false, .closeF false, .socket false 5, .create false,
    .resume true, .issue true (.done 10)] _ rfl
  have hlast := hown.issued ⟨some 1, some 2, some (.ok 10)⟩ (List.mem_of_getLast? rfl)
  rcases hlast with ⟨-, h⟩ | ⟨h, -⟩ <;> exact absurd h (by decide)

end DescriptorSystem

end CoroutineGateway
