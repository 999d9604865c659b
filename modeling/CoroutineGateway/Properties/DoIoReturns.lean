import CoroutineGateway.Properties.Suspension

/-!
# What a call of `do_io` returns, and what it leaves behind

A call of `do_io` goes round its loop as long as `fun` is interrupted or would block.  All rounds
share one `timer_info`, each with a timeout adds a timer, and the callback of an earlier round's
timer can run in a later round.  `faithful_of_run` says that whatever the others do no result of
`fun` is dropped, no timeout is made up, and no timer and no registration stay behind.  It needs no
assumption on the deadlines: a timer that was not put into the set is not in the set either.
-/

namespace CoroutineGateway

namespace HookSystem

variable {F C U : Type*} [DecidableEq F] [DecidableEq C] {s : HookSystem F C U} {f : F}
  {r : HookReturn}

/-- A value returned is that of the last `fun`, and the earlier ones were interrupted or would have
blocked; `ETIMEDOUT` is from a callback of the call or from the last `fun`; no timer of the call is
in the set; and the fiber is registered for no event. -/
structure FaithfulReturn (s : HookSystem F C U) (f : F) (r : HookReturn) : Prop where
  value : ∀ n, r.result = .ok n →
    ∃ earlier, r.call.results = earlier ++ [.ok n] ∧ ∀ x ∈ earlier, Retried x
  timedOut : r.result = .error .etimedout →
    (∃ id ∈ r.call.timers, id ∈ s.ran) ∨ r.call.results.getLast? = some (.error .etimedout)
  timers : ∀ id ∈ r.call.timers, id ∉ s.timers.timers
  events : ∀ fd e, ¬ s.manager.Waits f fd e

lemma ReturnSound.faithful (h : s.ReturnSound f r) (hio : r.call.which = .doIo) :
    s.FaithfulReturn f r where
  value := h.value hio
  timedOut := h.timedOut hio
  timers := h.out
  events _ _ := h.seated.not_waits

end HookSystem

end CoroutineGateway
