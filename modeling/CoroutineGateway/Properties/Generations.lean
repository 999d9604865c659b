import CoroutineGateway.Properties.Waiters

/-!
# Whose connection a system call of `do_io` is on

`do_io` keeps the number of its descriptor while it waits, and nothing else.  The `cancelAll` of
a `close` schedules the waiting fiber, but the fiber runs only later, and then it goes back to
`retry` without looking at the `FdManager` again: by then `close_f` may have freed the number and
`socket` or `accept` may have handed it out for another file.

The system calls of `do_io` stay on the file their call began with as long as no number is handed
out while a call that began on it before is unfinished, where a call that waits and whose
timeout has fired does not count: it will return with `ETIMEDOUT`.
-/

namespace CoroutineGateway

/-- The system call acted on the file that the number named when the call of `do_io` began; or
the number named no file, and the call has ended with an error. -/
def Issue.OnOwn (i : Issue) : Prop :=
  (i.acted.isSome ∧ i.acted = i.begun) ∨ (i.acted = none ∧ ∃ e, i.returned = some (.error e))

/-- The call returned an error, or the number still named the file that it began with. -/
def IoEnding.Right (e : IoEnding) : Prop :=
  e.failed = true ∨ (e.named.isSome ∧ e.named = e.begun)

/-- The call waits, and its timeout has fired. -/
def IoCall.TimedOut (c : IoCall) : Prop := c.pc = .parked ∧ c.cancelled

namespace DescriptorSystem

variable {F : Type*}

/-- Every unfinished call that began on the number has timed out. -/
def Unclaimed (s : DescriptorSystem F) (fd : ℕ) : Prop :=
  ∀ f c, s.activity f = .io c → c.fd = fd → c.TimedOut

/-- A `close` of the number is past its `cancelAll`, or has left it out. -/
def PastCancelAll (s : DescriptorSystem F) (fd : ℕ) : Prop :=
  ∃ f pc, s.activity f = .closing fd pc ∧ pc ≠ .cancelAll

/-- The condition on the steps: a number that is handed out is unclaimed; no call gets registered
while a `close` of its number is past its `cancelAll`; and `epoll_ctl` does not fail in the
`cancelAll` of a `close` while a fiber waits for the number. -/
def Orderly (s : DescriptorSystem F) : DescriptorAction F → Prop
  | .socket _ fd => s.Unclaimed fd
  | .issue f (.accepted fd) =>
    ∀ c, s.activity f = .io c → (s.kernel c.fd).isSome → s.Unclaimed fd
  | .add f false => ∀ c, s.activity f = .io c → ¬ s.PastCancelAll c.fd
  | .closeCancel f true =>
    ∀ fd pc, s.activity f = .closing fd pc → ∀ g e, ¬ s.manager.Waits g fd e
  | _ => True

/-- The number of the call still names the file the call began with, or no file; or the call has
timed out. -/
def Holds (s : DescriptorSystem F) (c : IoCall) : Prop :=
  s.kernel c.fd = c.begun ∨ s.kernel c.fd = none ∨ c.TimedOut

/-- What holds of the calls and of the records. -/
structure Owned (s : DescriptorSystem F) : Prop where
  calls : ∀ f c, s.activity f = .io c → s.Holds c
  issued : ∀ i ∈ s.issued, i.OnOwn
  ended : ∀ e ∈ s.ended, e.Right

lemma owned_init (t : ℕ) : (init t : DescriptorSystem F).Owned where
  calls _ _ h := by cases h
  issued _ h := by cases h
  ended _ h := by cases h

variable {s s' : DescriptorSystem F}

/-- Neither the files nor the calls nor the records change. -/
lemma Owned.congr (hs : s.Owned) (hkernel : s'.kernel = s.kernel)
    (hactivity : s'.activity = s.activity) (hissued : s'.issued = s.issued)
    (hended : s'.ended = s.ended) : s'.Owned where
  calls f c h := by
    unfold Holds
    rw [hkernel]
    exact hs.calls f c (hactivity ▸ h)
  issued i hi := hs.issued i (hissued ▸ hi)
  ended e he := hs.ended e (hended ▸ he)

/-- A free number is handed out. -/
lemma Owned.openFile (hs : s.Owned) {fd : ℕ} (hfree : s.Unclaimed fd)
    (hopen : s.openFile fd = some s') : s'.Owned := by
  unfold DescriptorSystem.openFile at hopen
  split_ifs at hopen
  obtain rfl := Option.some.inj hopen
  refine ⟨fun f c h => ?_, hs.issued, hs.ended⟩
  by_cases hfd : c.fd = fd
  · exact .inr (.inr (hfree f c h hfd))
  · simpa [Holds, Function.update_of_ne hfd] using hs.calls f c h

/-- A number is freed. -/
lemma Owned.closeFile (hs : s.Owned) (fd : ℕ) (manager : IOManager F Empty) :
    ({ s with kernel := Function.update s.kernel fd none, manager := manager } :
      DescriptorSystem F).Owned := by
  refine ⟨fun f c h => ?_, hs.issued, hs.ended⟩
  by_cases hfd : c.fd = fd
  · exact .inr (.inl (by simp [hfd]))
  · simpa [Holds, Function.update_of_ne hfd] using hs.calls f c h

/-- The number of a call that has not timed out names the file of the call, or none. -/
lemma Holds.open_or_closed {c : IoCall} (hc : s.Holds c) (hpc : c.pc ≠ .parked) :
    ((s.kernel c.fd).isSome ∧ s.kernel c.fd = c.begun) ∨ s.kernel c.fd = none := by
  by_cases hopen : s.kernel c.fd = none
  · exact .inr hopen
  · rcases hc with hc | hc | hc
    · exact .inl ⟨Option.isSome_iff_ne_none.mpr hopen, hc⟩
    · exact absurd hc hopen
    · exact absurd hc.1 hpc

/-- One more system call is put on record. -/
lemma Owned.record (hs : s.Owned) {c : IoCall} {returned : Option (Except Errno ℕ)}
    (hown : Issue.OnOwn ⟨c.begun, s.kernel c.fd, returned⟩) : (s.record c returned).Owned := by
  refine ⟨hs.calls, fun i hi => ?_, hs.ended⟩
  rcases List.mem_append.mp hi with hi | hi
  · exact hs.issued i hi
  · obtain rfl := List.mem_singleton.mp hi
    exact hown

variable [DecidableEq F]

/-- A fiber goes on; if it is in a call of `do_io`, the call holds. -/
lemma Owned.goOn (hs : s.Owned) (f : F) {a : Activity} (ha : ∀ c, a = .io c → s.Holds c) :
    (s.goOn f a).Owned where
  calls g c h := by
    by_cases hg : g = f
    · subst hg
      exact ha c (by simpa [DescriptorSystem.goOn] using h)
    · exact hs.calls g c (by simpa [DescriptorSystem.goOn, Function.update_of_ne hg] using h)
  issued := hs.issued
  ended := hs.ended

/-- A call returns. -/
lemma Owned.finish (hs : s.Owned) (f : F) {c : IoCall} {failed : Bool}
    (hright : IoEnding.Right ⟨c.begun, s.kernel c.fd, failed⟩) : (s.finish f c failed).Owned := by
  have hrecord : ({ s with ended := s.ended ++ [⟨c.begun, s.kernel c.fd, failed⟩] } :
      DescriptorSystem F).Owned := by
    refine ⟨hs.calls, hs.issued, fun e he => ?_⟩
    rcases List.mem_append.mp he with he | he
    · exact hs.ended e he
    · obtain rfl := List.mem_singleton.mp he
      exact hright
  exact hrecord.goOn f fun _ h => by cases h

omit [DecidableEq F] in
/-- A call that has not timed out holds at every place it goes on to. -/
lemma Holds.moved {c c' : IoCall} (hc : s.Holds c) (hpc : c.pc ≠ .parked) (hfd : c'.fd = c.fd)
    (hbegun : c'.begun = c.begun) : s.Holds c' := by
  rcases hc with hc | hc | hc
  · exact .inl (by rw [hfd, hbegun, hc])
  · exact .inr (.inl (by rw [hfd, hc]))
  · exact absurd hc.1 hpc

/-! ## What each step does -/

/-- What each step does. -/
def StepSpec (s s' : DescriptorSystem F) : DescriptorAction F → Prop
  | .begin f fd event accepts => s.activity f = .idle ∧
      s' = s.goOn f (.io ⟨fd, event, accepts, s.kernel fd, false, false, false, .lookup⟩)
  | .lookup f => ∃ c, s.activity f = .io c ∧ c.pc = .lookup ∧ s' = s.lookup f c
  | .issue f answer => ∃ c, s.activity f = .io c ∧ (c.pc = .direct ∨ c.pc = .retry) ∧
      s.issue f c answer = some s'
  | .arm f => ∃ c, s.activity f = .io c ∧ c.pc = .again ∧
      s' = s.goOn f (.io { c with pc := .add, armed := c.armed || c.timeout })
  | .add f fail => ∃ c m rt, s.activity f = .io c ∧ c.pc = .add ∧
      s.manager.addEvent f .running c.fd c.event none (s.ctlFails c.fd fail) = some (m, rt) ∧
      s' = if rt = 0 then ({ s with manager := m } : DescriptorSystem F).goOn f
          (.io { c with pc := .parked })
        else ({ s with manager := m } : DescriptorSystem F).finish f c true
  | .resume f => ∃ c, s.activity f = .io c ∧ c.pc = .parked ∧ s.scheduled f ∧
      s' = if c.cancelled then
          ({ s with resumed := Function.update s.resumed f (s.resumed f + 1) } :
            DescriptorSystem F).finish f c true
        else ({ s with resumed := Function.update s.resumed f (s.resumed f + 1) } :
          DescriptorSystem F).goOn f (.io { c with pc := .retry })
  | .fire f fail => ∃ c m b, s.activity f = .io c ∧ c.cancelled = false ∧
      s.manager.cancelEvent c.fd c.event (s.ctlFails c.fd fail) = some (m, b) ∧
      s' = ({ s with manager := m } : DescriptorSystem F).goOn f (.io { c with cancelled := true })
  | .dispatch r fail => ∃ m, s.manager.dispatch r (s.ctlFails r.fd fail) = some m ∧
      s' = { s with manager := m }
  | .close f fd => s.activity f = .idle ∧
      s' = s.goOn f (.closing fd (if (s.datas fd).isSome then .cancelAll else .close))
  | .closeCancel f fail => ∃ fd m b, s.activity f = .closing fd .cancelAll ∧
      s.manager.cancelAll fd (s.ctlFails fd fail) = some (m, b) ∧
      s' = ({ s with manager := m } : DescriptorSystem F).goOn f (.closing fd .del)
  | .closeDel f => ∃ fd, s.activity f = .closing fd .del ∧
      s' = ({ s with datas := Function.update s.datas fd none } : DescriptorSystem F).goOn f
        (.closing fd .close)
  | .closeF f => ∃ fd, s.activity f = .closing fd .close ∧
      s' = ({ s with
        kernel := Function.update s.kernel fd none
        manager := { s.manager with epoll := Function.update s.manager.epoll fd none } } :
          DescriptorSystem F).goOn f .idle
  | .socket f fd => s.activity f = .idle ∧
      ∃ u, s.openFile fd = some u ∧ s' = u.goOn f (.creating fd)
  | .create f => ∃ fd, s.activity f = .creating fd ∧ s' = (s.create fd).goOn f .idle
  | .setUserNonblock fd v => s' = { s with
      datas := Function.update s.datas fd
        ((s.datas fd).map fun ctx => { ctx with userNonblock := v }) }
  | .setTimeout fd event => s' = { s with
      datas := Function.update s.datas fd ((s.datas fd).map fun ctx =>
        { ctx with timeout := Function.update ctx.timeout event true }) }

variable {f : F}

lemma ioStep_spec {a : DescriptorAction F} {c : IoCall} (hf : fiberOf a = some f)
    (hact : s.activity f = .io c) (hstep : s.ioStep f c a = some s') : StepSpec s s' a := by
  cases a with
  | lookup g =>
    obtain rfl := Option.some.inj hf
    obtain ⟨hpc, h⟩ := Option.ite_none_right_eq_some.mp hstep
    exact ⟨c, hact, hpc, (Option.some.inj h).symm⟩
  | issue g answer =>
    obtain rfl := Option.some.inj hf
    obtain ⟨hpc, h⟩ := Option.ite_none_right_eq_some.mp hstep
    exact ⟨c, hact, hpc, h⟩
  | arm g =>
    obtain rfl := Option.some.inj hf
    obtain ⟨hpc, h⟩ := Option.ite_none_right_eq_some.mp hstep
    exact ⟨c, hact, hpc, (Option.some.inj h).symm⟩
  | add g fail =>
    obtain rfl := Option.some.inj hf
    obtain ⟨hpc, h⟩ := Option.ite_none_right_eq_some.mp hstep
    obtain ⟨⟨m, rt⟩, hr, rfl⟩ := Option.map_eq_some_iff.mp h
    exact ⟨c, m, rt, hact, hpc, hr, rfl⟩
  | resume g =>
    obtain rfl := Option.some.inj hf
    obtain ⟨hpc, h⟩ := Option.ite_none_right_eq_some.mp hstep
    exact ⟨c, hact, hpc.1, hpc.2, (Option.some.inj h).symm⟩
  | fire g fail =>
    obtain rfl := Option.some.inj hf
    obtain ⟨hfire, h⟩ := Option.ite_none_right_eq_some.mp hstep
    obtain ⟨⟨m, b⟩, hr, rfl⟩ := Option.map_eq_some_iff.mp h
    exact ⟨c, m, b, hact, Bool.not_eq_true _ ▸ hfire.2, hr, rfl⟩
  | _ => cases hstep

lemma closeStep_spec {a : DescriptorAction F} {fd : ℕ} {pc : ClosePc} (hf : fiberOf a = some f)
    (hact : s.activity f = .closing fd pc) (hstep : s.closeStep f fd pc a = some s') :
    StepSpec s s' a := by
  cases a with
  | closeCancel g fail =>
    obtain rfl := Option.some.inj hf
    obtain ⟨rfl, h⟩ := Option.ite_none_right_eq_some.mp hstep
    obtain ⟨⟨m, b⟩, hr, rfl⟩ := Option.map_eq_some_iff.mp h
    exact ⟨fd, m, b, hact, hr, rfl⟩
  | closeDel g =>
    obtain rfl := Option.some.inj hf
    obtain ⟨rfl, h⟩ := Option.ite_none_right_eq_some.mp hstep
    exact ⟨fd, hact, (Option.some.inj h).symm⟩
  | closeF g =>
    obtain rfl := Option.some.inj hf
    obtain ⟨rfl, h⟩ := Option.ite_none_right_eq_some.mp hstep
    exact ⟨fd, hact, (Option.some.inj h).symm⟩
  | _ => cases hstep

lemma step_spec {a : DescriptorAction F} (hstep : machine.step s a = some s') :
    StepSpec s s' a := by
  simp only [machine] at hstep
  split at hstep
  next hf =>
    cases a with
    | dispatch r fail =>
      obtain ⟨m, hm, rfl⟩ := Option.map_eq_some_iff.mp hstep
      exact ⟨m, hm, rfl⟩
    | setUserNonblock fd v => exact (Option.some.inj hstep).symm
    | setTimeout fd event => exact (Option.some.inj hstep).symm
    | _ => cases hf
  next f hf =>
    split at hstep
    next hact =>
      cases a with
      | begin g fd event accepts =>
        obtain rfl := Option.some.inj hf
        exact ⟨hact, (Option.some.inj hstep).symm⟩
      | close g fd =>
        obtain rfl := Option.some.inj hf
        exact ⟨hact, (Option.some.inj hstep).symm⟩
      | socket g fd =>
        obtain rfl := Option.some.inj hf
        obtain ⟨u, hopen, rfl⟩ := Option.map_eq_some_iff.mp hstep
        exact ⟨hact, u, hopen, rfl⟩
      | _ => cases hstep
    next c hact => exact ioStep_spec hf hact hstep
    next fd pc hact => exact closeStep_spec hf hact hstep
    next fd hact =>
      cases a with
      | create g =>
        obtain rfl := Option.some.inj hf
        exact ⟨fd, hact, (Option.some.inj hstep).symm⟩
      | _ => cases hstep

/-- What a system call of `do_io` does, on a number that names a file or none. -/
lemma issue_cases {c : IoCall} {answer : IoAnswer} (h : s.issue f c answer = some s') :
    (s.kernel c.fd = none ∧ s' = (s.record c (some (.error .ebadf))).finish f c true) ∨
    ((s.kernel c.fd).isSome ∧
      ((∃ r failed, s' = (s.record c r).finish f c failed) ∨
        (∃ fd r u, answer = .accepted fd ∧ (s.record c r).openFile fd = some u ∧
          s' = (u.finish f c false).goOn f (.creating fd) ∧ fd ≠ c.fd) ∨
        (∃ r, s' = s.record c r) ∨
        (c.pc ≠ .direct ∧ ∃ r, s' = (s.record c r).goOn f (.io { c with pc := .again })))) := by
  unfold DescriptorSystem.issue at h
  by_cases hclosed : s.kernel c.fd = none
  · rw [if_pos hclosed] at h
    exact .inl ⟨hclosed, (Option.some.inj h).symm⟩
  · rw [if_neg hclosed] at h
    refine .inr ⟨Option.isSome_iff_ne_none.mpr hclosed, ?_⟩
    cases answer with
    | done n =>
      obtain ⟨-, h⟩ := Option.ite_none_left_eq_some.mp h
      exact .inl ⟨_, _, (Option.some.inj h).symm⟩
    | accepted fd =>
      obtain ⟨-, h⟩ := Option.ite_none_right_eq_some.mp h
      obtain ⟨u, hopen, rfl⟩ := Option.map_eq_some_iff.mp h
      refine .inr (.inl ⟨fd, _, u, rfl, hopen, rfl, ?_⟩)
      rintro rfl
      unfold DescriptorSystem.openFile at hopen
      rw [if_neg (show (s.record c _).kernel c.fd ≠ none from hclosed)] at hopen
      cases hopen
    | failed e =>
      cases e with
      | eintr =>
        dsimp only at h
        split_ifs at h
        · exact .inl ⟨_, _, (Option.some.inj h).symm⟩
        · exact .inr (.inr (.inl ⟨_, (Option.some.inj h).symm⟩))
      | eagain =>
        dsimp only at h
        split_ifs at h with hdirect
        · exact .inl ⟨_, _, (Option.some.inj h).symm⟩
        · exact .inr (.inr (.inr ⟨hdirect, _, (Option.some.inj h).symm⟩))
      | ebadf | etimedout | other => exact .inl ⟨_, _, (Option.some.inj h).symm⟩

/-! ## Every step -/

lemma Owned.lookup (hs : s.Owned) {c : IoCall} (hact : s.activity f = .io c)
    (hpc : c.pc = .lookup) : (s.lookup f c).Owned := by
  have hmoved : ∀ c' : IoCall, c'.fd = c.fd → c'.begun = c.begun →
      (s.goOn f (.io c')).Owned := by
    intro c' hfd hbegun
    refine hs.goOn f fun c'' h => ?_
    obtain rfl := Activity.io.inj h
    exact (hs.calls f c hact).moved (by simp [hpc]) hfd hbegun
  unfold DescriptorSystem.lookup
  split
  · exact hmoved _ rfl rfl
  · split_ifs
    · exact hs.finish f (.inl rfl)
    · exact hmoved _ rfl rfl
    · exact hmoved _ rfl rfl

lemma Owned.issue (hs : s.Owned) {c : IoCall} (hact : s.activity f = .io c)
    (hpc : c.pc ≠ .parked) {answer : IoAnswer} (hG : s.Orderly (.issue f answer))
    (hstep : s.issue f c answer = some s') : s'.Owned := by
  have hc := hs.calls f c hact
  rcases issue_cases hstep with ⟨hclosed, rfl⟩ | ⟨hopen, hcases⟩
  · exact (hs.record (.inr ⟨hclosed, _, rfl⟩)).finish f (.inl rfl)
  · have hown : s.kernel c.fd = c.begun := by
      rcases hc.open_or_closed hpc with h | h
      · exact h.2
      · rw [h] at hopen
        cases hopen
    have hrecord : ∀ r, (s.record c r).Owned := fun r => hs.record (.inl ⟨hopen, hown⟩)
    rcases hcases with ⟨r, failed, rfl⟩ | ⟨fd, r, u, rfl, hu, rfl, hfd⟩ | ⟨r, rfl⟩ | ⟨-, r, rfl⟩
    · exact (hrecord r).finish f (.inr ⟨hopen, hown⟩)
    · have hfree : s.Unclaimed fd := hG c hact hopen
      refine (((hrecord r).openFile hfree hu).finish f (.inr ?_)).goOn f fun _ h => by cases h
      unfold DescriptorSystem.openFile at hu
      split_ifs at hu
      obtain rfl := Option.some.inj hu
      simpa [DescriptorSystem.record, Function.update_of_ne hfd.symm] using ⟨hopen, hown⟩
    · exact hrecord r
    · refine (hrecord r).goOn f fun c' h => ?_
      obtain rfl := Activity.io.inj h
      exact hc.moved hpc rfl rfl

/-- Where a number that is handed out is unclaimed, every step keeps the invariant. -/
theorem owned_step (hs : s.Owned) (a : DescriptorAction F) (hG : s.Orderly a)
    (hstep : machine.step s a = some s') : s'.Owned := by
  have hspec := step_spec hstep
  cases a with
  | begin f fd event accepts =>
    obtain ⟨-, rfl⟩ := hspec
    refine hs.goOn f fun c h => ?_
    obtain rfl := Activity.io.inj h
    exact .inl rfl
  | lookup f =>
    obtain ⟨c, hact, hpc, rfl⟩ := hspec
    exact hs.lookup hact hpc
  | issue f answer =>
    obtain ⟨c, hact, hpc, h⟩ := hspec
    exact hs.issue hact (by rcases hpc with h | h <;> simp [h]) hG h
  | arm f =>
    obtain ⟨c, hact, hpc, rfl⟩ := hspec
    refine hs.goOn f fun c' h => ?_
    obtain rfl := Activity.io.inj h
    exact (hs.calls f c hact).moved (by simp [hpc]) rfl rfl
  | add f fail =>
    obtain ⟨c, m, rt, hact, hpc, -, rfl⟩ := hspec
    have hm : ({ s with manager := m } : DescriptorSystem F).Owned := hs.congr rfl rfl rfl rfl
    split_ifs
    · refine hm.goOn f fun c' h => ?_
      obtain rfl := Activity.io.inj h
      exact (hs.calls f c hact).moved (by simp [hpc]) rfl rfl
    · exact hm.finish f (.inl rfl)
  | resume f =>
    obtain ⟨c, hact, hpc, -, rfl⟩ := hspec
    have hr : ({ s with resumed := Function.update s.resumed f (s.resumed f + 1) } :
        DescriptorSystem F).Owned := hs.congr rfl rfl rfl rfl
    split_ifs with hcancelled
    · exact hr.finish f (.inl rfl)
    · refine hr.goOn f fun c' h => ?_
      obtain rfl := Activity.io.inj h
      -- it has not timed out, so its number still names its file or none
      rcases hs.calls f c hact with hc | hc | hc
      · exact .inl hc
      · exact .inr (.inl hc)
      · exact absurd hc.2 hcancelled
  | fire f fail =>
    obtain ⟨c, m, b, hact, hcancelled, -, rfl⟩ := hspec
    have hm : ({ s with manager := m } : DescriptorSystem F).Owned := hs.congr rfl rfl rfl rfl
    refine hm.goOn f fun c' h => ?_
    obtain rfl := Activity.io.inj h
    rcases hs.calls f c hact with hc | hc | hc
    · exact .inl hc
    · exact .inr (.inl hc)
    · exact absurd hc.2 (by simp [hcancelled])
  | dispatch r fail =>
    obtain ⟨m, -, rfl⟩ := hspec
    exact hs.congr rfl rfl rfl rfl
  | close f fd =>
    obtain ⟨-, rfl⟩ := hspec
    exact hs.goOn f fun _ h => by cases h
  | closeCancel f fail =>
    obtain ⟨fd, m, b, -, -, rfl⟩ := hspec
    have hm : ({ s with manager := m } : DescriptorSystem F).Owned := hs.congr rfl rfl rfl rfl
    exact hm.goOn f fun _ h => by cases h
  | closeDel f =>
    obtain ⟨fd, -, rfl⟩ := hspec
    have hd : ({ s with datas := Function.update s.datas fd none } :
        DescriptorSystem F).Owned := hs.congr rfl rfl rfl rfl
    exact hd.goOn f fun _ h => by cases h
  | closeF f =>
    obtain ⟨fd, -, rfl⟩ := hspec
    exact (hs.closeFile fd _).goOn f fun _ h => by cases h
  | socket f fd =>
    obtain ⟨-, u, hopen, rfl⟩ := hspec
    exact (hs.openFile hG hopen).goOn f fun _ h => by cases h
  | create f =>
    obtain ⟨fd, -, rfl⟩ := hspec
    have hc : (s.create fd).Owned := by
      unfold DescriptorSystem.create
      split
      · exact hs
      · exact hs.congr rfl rfl rfl rfl
    exact hc.goOn f fun _ h => by cases h
  | setUserNonblock fd v =>
    obtain rfl := hspec
    exact hs.congr rfl rfl rfl rfl
  | setTimeout fd event =>
    obtain rfl := hspec
    exact hs.congr rfl rfl rfl rfl

end DescriptorSystem

end CoroutineGateway
