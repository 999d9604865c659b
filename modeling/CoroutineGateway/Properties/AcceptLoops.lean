import CoroutineGateway.Construction.TcpServer
import Mathlib.Data.List.Nodup
import Mathlib.Data.List.Perm.Basic

/-!
# One accept loop for every socket

A loop that is at `accept` when `stop` is called goes on until `accept` returns, and if `start` is
called before it has looked at `m_isStop`, it goes on for good: at a socket that is closed, where
`accept` fails at once, or beside the new loop of the same socket.  `serving_throughout_iff` says
that a started server has exactly one loop for each of its sockets as long as it is only started
when nothing of the time before `stop` is left, and no socket is bound while it runs.
-/

namespace CoroutineGateway

/-- The socket of a task that accepts. -/
def AcceptTask.sock : AcceptTask → Option ℕ
  | .startAccept sock => some sock
  | .closeSocks => none

namespace TcpServer

variable {K : Type*}

/-- The sockets of the fibers that accept, or are going to. -/
def served (s : TcpServer K) : List ℕ := s.tasks.filterMap AcceptTask.sock ++ s.loops.map Prod.fst

/-- Every socket has exactly one fiber, no fiber is at another socket, and no socket is closed or
about to be. -/
structure Served (s : TcpServer K) : Prop where
  perm : s.served.Perm s.socks
  nodup : s.socks.Nodup
  opened : ∀ k ∈ s.socks, k ∉ s.closed
  not_closing : .closeSocks ∉ s.tasks

/-- A server that was started serves. -/
def Serving (s : TcpServer K) : Prop := s.isStop = false → s.Served

/-- The server is started when nothing is left from before, and sockets are bound when it is not
running; a `bind` that changes nothing is no harm. -/
def Proper (s : TcpServer K) : TcpServerAction K → Prop
  | .start => s.isStop = true → s.tasks = [] ∧ s.loops = []
  | .bind oks => s.isStop = false → oks = [] ∨ oks.all id = false ∧ s.socks = []
  | _ => True

/-- What `Proper` steps keep. -/
structure Invariant (s : TcpServer K) : Prop where
  nodup : s.socks.Nodup
  socks_lt : ∀ k ∈ s.socks, k < s.made
  closed_lt : ∀ k ∈ s.closed, k < s.made
  opened : ∀ k ∈ s.socks, k ∉ s.closed
  single : s.served.Nodup
  perm : s.isStop = false → s.served.Perm s.socks
  not_closing : s.isStop = false → .closeSocks ∉ s.tasks

lemma Invariant.serving {s : TcpServer K} (hs : s.Invariant) : s.Serving := fun hrunning =>
  ⟨hs.perm hrunning, hs.nodup, hs.opened, hs.not_closing hrunning⟩

lemma invariant_init : (init : TcpServer K).Invariant where
  nodup := List.nodup_nil
  socks_lt := nofun
  closed_lt := nofun
  opened := nofun
  single := List.nodup_nil
  perm := nofun
  not_closing := nofun

/-! ## The fibers after a step -/

lemma map_fst_set {l : List (ℕ × AcceptPc K)} {i sock : ℕ} {p : AcceptPc K}
    (h : l[i]? = some (sock, p)) (q : AcceptPc K) :
    (l.set i (sock, q)).map Prod.fst = l.map Prod.fst := by
  obtain ⟨hi, hget⟩ := List.getElem?_eq_some_iff.mp h
  refine List.ext_getElem (by simp) fun n hn hn' => ?_
  by_cases hin : i = n
  · subst hin
    simp [hget]
  · simp [hin]

lemma served_start (s : TcpServer K) (hstop : s.isStop = true) :
    s.start.served.Perm (s.served ++ s.socks) := by
  have hsocks : (s.socks.map AcceptTask.startAccept).filterMap AcceptTask.sock = s.socks := by
    rw [List.filterMap_map]
    exact List.filterMap_some
  simp only [served, start, hstop, if_true, List.filterMap_append, hsocks]
  rw [List.append_assoc, List.append_assoc]
  exact List.perm_append_comm.append_left _

lemma served_stop (s : TcpServer K) : s.stop.served = s.served := by
  simp [served, stop, AcceptTask.sock]

lemma served_run {s : TcpServer K} {i : ℕ} {t : AcceptTask} (ht : s.tasks[i]? = some t) :
    ({ s with tasks := s.tasks.eraseIdx i }.begin t).served.Perm s.served := by
  obtain ⟨hi, rfl⟩ := List.getElem?_eq_some_iff.mp ht
  have htasks := (List.getElem_cons_eraseIdx_perm hi).filterMap AcceptTask.sock
  cases hnow : s.tasks[i] with
  | startAccept sock =>
    rw [hnow] at htasks
    simp only [served, begin, List.map_append, List.map_singleton, ← List.append_assoc]
    refine List.perm_append_comm.trans ?_
    simpa [AcceptTask.sock] using htasks.append_right (s.loops.map Prod.fst)
  | closeSocks =>
    rw [hnow] at htasks
    exact htasks.append_right (s.loops.map Prod.fst)

/-! ## The steps -/

namespace Invariant

variable {s : TcpServer K} (hs : s.Invariant)
include hs

lemma bind {oks : List Bool}
    (hproper : s.isStop = false → oks = [] ∨ oks.all id = false ∧ s.socks = []) :
    (s.bind oks).Invariant := by
  have hsame (hrunning : s.isStop = false) : (s.bind oks).socks = s.socks := by
    rcases hproper hrunning with rfl | ⟨hfail, hsocks⟩
    · simp [TcpServer.bind]
    · simp [TcpServer.bind, hfail, hsocks]
  have hold (k : ℕ) (hk : k ∈ (s.bind oks).socks) :
      k ∈ s.socks ∨ s.made ≤ k ∧ k < s.made + oks.length := by
    by_cases hall : oks.all id = true
    · simpa only [TcpServer.bind, hall, if_true, List.mem_append, List.mem_range'_1] using hk
    · simp [TcpServer.bind, hall] at hk
  refine
    { nodup := ?_
      socks_lt := fun k hk => ?_
      closed_lt := fun k hk => (hs.closed_lt k hk).trans_le (Nat.le_add_right ..)
      opened := fun k hk hclosed => ?_
      single := hs.single
      perm := fun hrunning => ?_
      not_closing := hs.not_closing }
  · by_cases hall : oks.all id = true
    · simp only [TcpServer.bind, hall, if_true]
      refine hs.nodup.append List.nodup_range' fun k hk hnew => ?_
      have hlt := hs.socks_lt k hk
      have hle := (List.mem_range'_1.mp hnew).1
      omega
    · simp [TcpServer.bind, hall]
  · rcases hold k hk with hk | hk
    · exact (hs.socks_lt k hk).trans_le (Nat.le_add_right ..)
    · exact hk.2
  · rcases hold k hk with hk | hk
    · exact hs.opened k hk hclosed
    · have hlt := hs.closed_lt k hclosed
      omega
  · rw [hsame hrunning]
    exact hs.perm hrunning

lemma start (hproper : s.isStop = true → s.tasks = [] ∧ s.loops = []) : s.start.Invariant := by
  by_cases hstop : s.isStop = true
  · obtain ⟨htasks, hloops⟩ := hproper hstop
    have hnone : s.served = [] := by rw [served, htasks, hloops]; rfl
    have hserved := s.served_start hstop
    rw [hnone, List.nil_append] at hserved
    have hstart : s.start = { s with isStop := false, tasks := s.socks.map .startAccept } := by
      simp [TcpServer.start, hstop, htasks]
    have hsingle : s.start.served.Nodup := hserved.nodup_iff.mpr hs.nodup
    rw [hstart] at hserved hsingle ⊢
    exact { hs with
      single := hsingle
      perm := fun _ => hserved
      not_closing := fun _ => by simp }
  · rw [TcpServer.start, if_neg hstop]
    exact hs

lemma stop : s.stop.Invariant :=
  { hs with
    single := by rw [served_stop]; exact hs.single
    perm := nofun
    not_closing := nofun }

lemma run {i : ℕ} {t : AcceptTask} (ht : s.tasks[i]? = some t) :
    ({ s with tasks := s.tasks.eraseIdx i }.begin t).Invariant := by
  have hserved := served_run ht
  have hsingle := hserved.nodup_iff.mpr hs.single
  have hother (hrunning : s.isStop = false) : .closeSocks ∉ s.tasks.eraseIdx i := fun hmem =>
    hs.not_closing hrunning (List.mem_of_mem_eraseIdx hmem)
  cases t with
  | startAccept sock =>
    exact
      { nodup := hs.nodup
        socks_lt := hs.socks_lt
        closed_lt := hs.closed_lt
        opened := hs.opened
        single := hsingle
        perm := fun hrunning => hserved.trans (hs.perm hrunning)
        not_closing := hother }
  | closeSocks =>
    have hstop : s.isStop ≠ false := fun hrunning =>
      hs.not_closing hrunning (List.mem_of_getElem? ht)
    exact
      { nodup := List.nodup_nil
        socks_lt := nofun
        closed_lt := fun k hk => (List.mem_append.mp hk).elim (hs.closed_lt k) (hs.socks_lt k)
        opened := nofun
        single := hsingle
        perm := fun hrunning => absurd hrunning hstop
        not_closing := hother }

/-- A loop goes on at its socket. -/
lemma goOn {loops : List (ℕ × AcceptPc K)} {accepted handed : List (ℕ × K)}
    (hloops : loops.map Prod.fst = s.loops.map Prod.fst) :
    Invariant { s with loops, accepted, handed } := by
  have hserved : ({ s with loops, accepted, handed } : TcpServer K).served = s.served := by
    simp only [served, hloops]
  exact
    { nodup := hs.nodup
      socks_lt := hs.socks_lt
      closed_lt := hs.closed_lt
      opened := hs.opened
      single := by rw [hserved]; exact hs.single
      perm := fun hrunning => by rw [hserved]; exact hs.perm hrunning
      not_closing := hs.not_closing }

/-- A loop has found `m_isStop` set. -/
lemma leave (hstop : s.isStop = true) (i : ℕ) :
    Invariant { s with loops := s.loops.eraseIdx i } := by
  have hsub : List.Sublist
      (({ s with loops := s.loops.eraseIdx i } : TcpServer K).served) s.served :=
    ((List.eraseIdx_sublist s.loops i).map Prod.fst).append_left _
  exact { hs with
    single := hs.single.sublist hsub
    perm := fun hrunning => by simp [hstop] at hrunning }

/-- Every proper step keeps the invariant. -/
theorem step {a : TcpServerAction K} {s' : TcpServer K} (hproper : s.Proper a)
    (h : machine.step s a = some s') : s'.Invariant := by
  cases a with
  | bind oks =>
    obtain rfl := Option.some.inj h
    exact hs.bind hproper
  | start =>
    obtain rfl := Option.some.inj h
    exact hs.start hproper
  | stop =>
    obtain rfl := Option.some.inj h
    exact hs.stop
  | run i =>
    obtain ⟨t, ht, rfl⟩ := Option.map_eq_some_iff.mp h
    exact hs.run ht
  | test i =>
    simp only [machine] at h
    split at h
    · rename_i sock hloop
      obtain rfl := Option.some.inj h
      by_cases hstop : s.isStop = true
      · rw [if_pos hstop]
        exact hs.leave hstop i
      · rw [if_neg hstop]
        exact hs.goOn (map_fst_set hloop _)
    · cases h
  | accept i client =>
    simp only [machine] at h
    split at h
    · rename_i sock hloop
      obtain rfl := Option.some.inj h
      exact hs.goOn (map_fst_set hloop _)
    · rename_i sock c hloop
      split_ifs at h
      obtain rfl := Option.some.inj h
      exact hs.goOn (map_fst_set hloop _)
    · cases h
  | schedule i =>
    simp only [machine] at h
    split at h
    · rename_i sock c hloop
      obtain rfl := Option.some.inj h
      exact hs.goOn (map_fst_set hloop _)
    · cases h

/-- A step that is not proper is seen at once. -/
lemma not_serving {a : TcpServerAction K} {s' : TcpServer K} (hproper : ¬ s.Proper a)
    (h : machine.step s a = some s') : ¬ s'.Serving := by
  cases a with
  | bind oks =>
    obtain rfl := Option.some.inj h
    obtain ⟨hrunning, hchanges⟩ := Classical.not_imp.mp hproper
    intro hserving
    have hlength := (hserving hrunning).perm.length_eq
    have hbefore := (hs.perm hrunning).length_eq
    change s.served.length = _ at hlength
    rw [hbefore] at hlength
    by_cases hall : oks.all id = true
    · simp only [TcpServer.bind, hall, if_true, List.length_append, List.length_range'] at hlength
      exact hchanges (.inl (List.length_eq_zero_iff.mp (by omega)))
    · simp only [TcpServer.bind, hall] at hlength
      exact hchanges (.inr ⟨Bool.eq_false_iff.mpr hall, List.length_eq_zero_iff.mp hlength⟩)
  | start =>
    obtain rfl := Option.some.inj h
    obtain ⟨hstop, hleft⟩ := Classical.not_imp.mp hproper
    intro hserving
    have hrunning : s.start.isStop = false := by simp [TcpServer.start, hstop]
    have hsocks : s.start.socks = s.socks := by simp [TcpServer.start, hstop]
    have hserved := hserving hrunning
    have hlength := ((s.served_start hstop).symm.trans hserved.perm).length_eq
    rw [List.length_append, hsocks] at hlength
    have hnone : s.served = [] := List.length_eq_zero_iff.mp (by omega)
    obtain ⟨htasks, hloops⟩ := List.append_eq_nil_iff.mp hnone
    refine hleft ⟨List.eq_nil_iff_forall_not_mem.mpr fun t ht => ?_, List.map_eq_nil_iff.mp hloops⟩
    cases t with
    | startAccept sock =>
      have hmem : sock ∈ s.tasks.filterMap AcceptTask.sock := List.mem_filterMap.mpr ⟨_, ht, rfl⟩
      simp [htasks] at hmem
    | closeSocks => exact hserved.not_closing (by simp [TcpServer.start, hstop, ht])
  | stop | run _ | test _ | accept _ _ | schedule _ => exact absurd trivial hproper

end Invariant

/-- **A started server serves.**  In a run, whenever the server is started each of its sockets is
open and has exactly one accept loop, exactly if it is started only when all that `stop` left to do
is done, and no socket is bound or dropped while it is started. -/
theorem serving_throughout_iff (as : List (TcpServerAction K)) (s : TcpServer K)
    (hrun : machine.run init as = some s) :
    machine.Throughout Serving init as ↔ machine.Guarded Proper init as :=
  Machine.throughout_iff_guarded (fun _ _ _ hs hproper h => hs.step hproper h)
    (fun _ hs => hs.serving) (fun _ _ _ hs hproper h => hs.not_serving hproper h)
    invariant_init hrun

/-- A client is accepted, and the server is stopped, and started again with two new sockets when
all is done. -/
def restartedRun : List (TcpServerAction ℕ) :=
  [.bind [true], .start, .run 0, .test 0, .accept 0 (some 7), .schedule 0, .stop, .test 0, .run 0,
    .bind [true, true], .start, .run 1]

lemma guarded_restartedRun : machine.Guarded Proper init restartedRun := by
  refine .cons nofun rfl (.cons (fun _ => ⟨rfl, rfl⟩) rfl ?_)
  refine .cons trivial rfl (.cons trivial rfl (.cons trivial rfl (.cons trivial rfl ?_)))
  refine .cons trivial rfl (.cons trivial rfl (.cons trivial rfl ?_))
  exact .cons nofun rfl (.cons (fun _ => ⟨rfl, rfl⟩) rfl (.cons trivial rfl trivial))

/-- The run goes well. -/
theorem serving_throughout_restartedRun : machine.Throughout Serving init restartedRun :=
  (serving_throughout_iff restartedRun _ rfl).mpr guarded_restartedRun

/-! ## The clients -/

/-- The client that a loop is about to schedule, with the socket it came from. -/
def heldBy : ℕ × AcceptPc K → Option (ℕ × K)
  | (sock, .schedule client) => some (sock, client)
  | _ => none

/-- The clients that were accepted and are not scheduled yet. -/
def held (s : TcpServer K) : List (ℕ × K) := s.loops.filterMap heldBy

/-- The clients of one socket. -/
def ofSock (k : ℕ) (l : List (ℕ × K)) : List (ℕ × K) := l.filter (·.1 = k)

lemma ofSock_append (k : ℕ) (l l' : List (ℕ × K)) :
    ofSock k (l ++ l') = ofSock k l ++ ofSock k l' :=
  List.filter_append l l'

lemma ofSock_perm (k : ℕ) {l l' : List (ℕ × K)} (h : l.Perm l') :
    (ofSock k l).Perm (ofSock k l') :=
  h.filter _

lemma held_set {l : List (ℕ × AcceptPc K)} {i : ℕ} {p q : ℕ × AcceptPc K} (h : l[i]? = some p) :
    (l.filterMap heldBy).Perm ((heldBy p).toList ++ (l.eraseIdx i).filterMap heldBy) ∧
      ((l.set i q).filterMap heldBy).Perm
        ((heldBy q).toList ++ (l.eraseIdx i).filterMap heldBy) := by
  obtain ⟨hi, rfl⟩ := List.getElem?_eq_some_iff.mp h
  have hcons (r : ℕ × AcceptPc K) : (r :: l.eraseIdx i).filterMap heldBy =
      (heldBy r).toList ++ (l.eraseIdx i).filterMap heldBy := by
    cases hr : heldBy r with
    | none => simp [hr]
    | some x => simp [hr]
  rw [← hcons, ← hcons]
  exact ⟨(List.getElem_cons_eraseIdx_perm hi).symm.filterMap _,
    (List.set_perm_cons_eraseIdx hi q).filterMap _⟩

/-- What a step does to the clients: nothing, or one is accepted, or one is scheduled. -/
inductive Moves (s s' : TcpServer K) : Prop
  | none (haccepted : s'.accepted = s.accepted) (hhanded : s'.handed = s.handed)
    (hheld : s'.held.Perm s.held)
  | accept (x : ℕ × K) (haccepted : s'.accepted = s.accepted ++ [x])
    (hhanded : s'.handed = s.handed) (hheld : s'.held.Perm (x :: s.held))
  | schedule (x : ℕ × K) (haccepted : s'.accepted = s.accepted)
    (hhanded : s'.handed = s.handed ++ [x]) (hheld : s.held.Perm (x :: s'.held))

lemma moves_of_step {s s' : TcpServer K} {a : TcpServerAction K}
    (h : machine.step s a = some s') : s.Moves s' := by
  cases a with
  | bind oks | stop =>
    obtain rfl := Option.some.inj h
    exact .none rfl rfl (.refl _)
  | start =>
    obtain rfl := Option.some.inj h
    by_cases hstop : s.isStop = true
    · exact .none (by simp [start, hstop]) (by simp [start, hstop]) (by simp [start, hstop, held])
    · exact .none (by simp [start, hstop]) (by simp [start, hstop]) (by simp [start, hstop])
  | run i =>
    obtain ⟨t, -, rfl⟩ := Option.map_eq_some_iff.mp h
    cases t with
    | startAccept sock =>
      have hnew : [(sock, (AcceptPc.test : AcceptPc K))].filterMap heldBy = [] := rfl
      exact .none rfl rfl (by simp only [held, begin, List.filterMap_append, hnew,
        List.append_nil, List.Perm.refl])
    | closeSocks => exact .none rfl rfl (.refl _)
  | test i =>
    simp only [machine] at h
    split at h
    · rename_i sock hloop
      obtain rfl := Option.some.inj h
      by_cases hstop : s.isStop = true
      · rw [if_pos hstop]
        exact .none rfl rfl (held_set (q := (sock, .test)) hloop).1.symm
      · rw [if_neg hstop]
        obtain ⟨hbefore, hafter⟩ := held_set (q := (sock, .accept)) hloop
        exact .none rfl rfl (hafter.trans hbefore.symm)
    · cases h
  | accept i client =>
    simp only [machine] at h
    split at h
    · rename_i sock hloop
      obtain rfl := Option.some.inj h
      obtain ⟨hbefore, hafter⟩ := held_set (q := (sock, .test)) hloop
      exact .none rfl rfl (hafter.trans hbefore.symm)
    · rename_i sock c hloop
      split_ifs at h
      obtain rfl := Option.some.inj h
      obtain ⟨hbefore, hafter⟩ := held_set (q := (sock, .schedule c)) hloop
      exact .accept (sock, c) rfl rfl (hafter.trans (hbefore.symm.cons _))
    · cases h
  | schedule i =>
    simp only [machine] at h
    split at h
    · rename_i sock c hloop
      obtain rfl := Option.some.inj h
      obtain ⟨hbefore, hafter⟩ := held_set (q := (sock, .test)) hloop
      exact .schedule (sock, c) rfl rfl (hbefore.trans (hafter.symm.cons _))
    · cases h

/-- No client is lost, and none is scheduled twice. -/
lemma handed_perm_step {s s' : TcpServer K} (h : s.Moves s')
    (hs : s.accepted.Perm (s.handed ++ s.held)) : s'.accepted.Perm (s'.handed ++ s'.held) := by
  cases h with
  | none haccepted hhanded hheld =>
    rw [haccepted, hhanded]
    exact hs.trans (hheld.symm.append_left _)
  | accept x haccepted hhanded hheld =>
    rw [haccepted, hhanded]
    refine (List.perm_append_singleton x _).trans ((hs.cons x).trans ?_)
    exact List.perm_middle.symm.trans (hheld.symm.append_left _)
  | schedule x haccepted hhanded hheld =>
    rw [haccepted, hhanded, List.append_assoc]
    exact hs.trans (hheld.append_left _)

lemma map_fst_held (l : List (ℕ × AcceptPc K)) :
    List.Sublist ((l.filterMap heldBy).map Prod.fst) (l.map Prod.fst) := by
  induction l with
  | nil => exact .slnil
  | cons p l ih =>
    obtain ⟨sock, pc⟩ := p
    cases pc with
    | test | accept => exact ih.cons sock
    | schedule client => exact ih.cons_cons sock

/-- With one loop for every socket, at most one client of a socket is on its way. -/
lemma Invariant.length_ofSock_held {s : TcpServer K} (hs : s.Invariant) (k : ℕ) :
    (ofSock k s.held).length ≤ 1 := by
  have hloops : (s.loops.map Prod.fst).Nodup := (List.nodup_append.mp hs.single).2.1
  have hnodup : ((ofSock k s.held).map Prod.fst).Nodup :=
    (hloops.sublist (map_fst_held s.loops)).sublist (List.filter_sublist.map Prod.fst)
  have hkey : (ofSock k s.held).map Prod.fst = List.replicate (ofSock k s.held).length k := by
    refine List.eq_replicate_iff.mpr ⟨List.length_map _, fun j hj => ?_⟩
    obtain ⟨x, hx, rfl⟩ := List.mem_map.mp hj
    simpa using (List.mem_filter.mp hx).2
  rw [hkey] at hnodup
  exact List.nodup_replicate.mp hnodup

lemma eq_of_perm {α : Type*} {l l' : List α} (h : l.Perm l') (hlength : l.length ≤ 1) : l = l' := by
  match l, hlength with
  | [], _ => exact h.nil_eq
  | [x], _ => exact (List.perm_singleton.mp h.symm).symm

/-- The clients of one socket are scheduled in the order in which they were accepted. -/
def Ordered (s : TcpServer K) : Prop :=
  ∀ k, ofSock k s.accepted = ofSock k s.handed ++ ofSock k s.held

lemma Ordered.step {s s' : TcpServer K} (hordered : s.Ordered) (hs : s.Invariant)
    (hs' : s'.Invariant) (h : s.Moves s') : s'.Ordered := by
  intro k
  have hlength := hs.length_ofSock_held k
  have hlength' := hs'.length_ofSock_held k
  cases h with
  | none haccepted hhanded hheld =>
    rw [haccepted, hhanded, hordered k, eq_of_perm (ofSock_perm k hheld) hlength']
  | accept x haccepted hhanded hheld =>
    have hheld' : ofSock k s'.held = ofSock k [x] ++ ofSock k s.held :=
      (eq_of_perm (ofSock_perm k hheld) hlength').trans (ofSock_append k [x] s.held)
    rw [hheld'] at hlength'
    rw [haccepted, hhanded, ofSock_append, hordered k, List.append_assoc, hheld',
      eq_of_perm List.perm_append_comm hlength']
  | schedule x haccepted hhanded hheld =>
    have hheld' : ofSock k s.held = ofSock k [x] ++ ofSock k s'.held :=
      (eq_of_perm (ofSock_perm k hheld) hlength).trans (ofSock_append k [x] s'.held)
    rw [haccepted, hhanded, ofSock_append, hordered k, hheld', List.append_assoc]

/-- **Every client is handed over once.**  Whatever is called when, each accepted client was
scheduled exactly once, or is about to be by the loop that accepted it.  If the server is used
properly, then the clients of one socket are scheduled in the order in which they were accepted. -/
theorem handed_over (as : List (TcpServerAction K)) (s : TcpServer K)
    (hrun : machine.run init as = some s) :
    s.accepted.Perm (s.handed ++ s.held) ∧ (machine.Guarded Proper init as →
      ∀ k, ofSock k s.accepted = ofSock k s.handed ++ ofSock k s.held ∧
        (ofSock k s.held).length ≤ 1) := by
  refine ⟨?_, fun hproper k => ?_⟩
  · exact Machine.run_invariant (I := fun s => s.accepted.Perm (s.handed ++ s.held))
      (fun _ _ _ hs h => handed_perm_step (moves_of_step h) hs) (.refl _) hrun
  · have hend : s.Invariant ∧ s.Ordered :=
      Machine.run_invariant_of_guarded (I := fun s => s.Invariant ∧ s.Ordered)
        (fun _ _ _ hs hproper h => ⟨hs.1.step hproper h,
          hs.2.step hs.1 (hs.1.step hproper h) (moves_of_step h)⟩)
        ⟨invariant_init, fun _ => rfl⟩ hproper hrun
    exact ⟨hend.2 k, hend.1.length_ofSock_held k⟩

/-- The client of the run is handed over. -/
theorem handed_over_restartedRun : ∃ s : TcpServer ℕ, machine.run init restartedRun = some s ∧
    s.handed = [(0, 7)] ∧ s.accepted.Perm (s.handed ++ s.held) ∧
    ofSock 0 s.accepted = ofSock 0 s.handed ++ ofSock 0 s.held := by
  have hend : (machine.run init restartedRun).map TcpServer.handed = some [(0, 7)] := rfl
  obtain ⟨s, hrun, hhanded⟩ := Option.map_eq_some_iff.mp hend
  obtain ⟨hperm, horder⟩ := handed_over restartedRun s hrun
  exact ⟨s, hrun, hhanded, hperm, (horder guarded_restartedRun 0).1⟩

end TcpServer

end CoroutineGateway
