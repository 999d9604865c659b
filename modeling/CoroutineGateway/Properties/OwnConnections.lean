import CoroutineGateway.Construction.ConnectionSlots
import CoroutineGateway.Framework.Ownership

/-!
# Every handler has its own connections

Two handlers never share an entry of the array, since their clients' descriptors differ; but the
entry is found by a number that the kernel gives away again, the array by a pointer that nothing
protects, and the sockets of an entry stay there when its handler has ended.  `Separate` is what is
nevertheless to hold: a handler's entry is that of its own client, every open descriptor is held by
a handler or an entry that will close it, and by one only, and no upstream connection serves two
requests.

`separate_throughout_iff` says when it holds throughout a run in which no client has a descriptor
that is beyond the end of the array: if and only if the array is allocated only while no handler has
an entry and no entry keeps a connection.  The code ensures neither: it compares no descriptor with
`GW_MAX_FD`, and it tests the pointer and sets it in two steps, so that a handler that found none
may allocate another array when the first one is in use.
-/

namespace CoroutineGateway

variable {K : Type*}

namespace HandlerPhase

/-- The array and the number of the entry that a handler uses, where `g_conns` is `conns`. -/
def entry (conns : Option ℕ) : HandlerPhase K → Option (ℕ × ℕ)
  | .looping d | .complete d => conns.map fun a => (a, d)
  | .reading a d | .processing a d | .connecting a d _ _ | .answering a d _ => some (a, d)
  | _ => none

/-- The handler has a client that it has not closed. -/
def hasClient : HandlerPhase K → Bool
  | .absent | .closed | .finished => false
  | _ => true

/-- The socket that the handler is connecting. -/
def connects : HandlerPhase K → Option ℕ
  | .connecting _ _ _ u => some u
  | _ => none

end HandlerPhase

/-- Who holds a socket: the handler whose client it is, the handler that connects it, or an entry of
an array. -/
inductive Holder where
  | handler
  | connecting (o : ℕ)
  | slot (p : ℕ × ℕ)

namespace ConnectionSlots

/-- `h` holds the socket `x`. -/
def Holds (s : ConnectionSlots K) : Holder → ℕ → Prop
  | .handler, x => (s.phase x).hasClient = true
  | .connecting o, x => (s.phase o).connects = some x
  | .slot p, x => ∃ k, (k, x) ∈ (s.slots p).upstreams

/-- No handler interferes with another one, and nothing is left behind that nobody will close. -/
structure Separate (s : ConnectionSlots K) : Prop where
  /-- A handler that is about to take its entry has an array and a descriptor for it. -/
  ready : ∀ o, s.phase o = .initializing → s.conns.isSome ∧ (s.socket o).sock.isSome
  /-- A handler's entry is one of `g_conns`, at the number of its client, and has its client. -/
  entry : ∀ o a d, (s.phase o).entry s.conns = some (a, d) →
    s.conns = some a ∧ (s.socket o).sock = some d ∧ (s.slots (a, d)).client = some o
  /-- A request is processed with no connection left over from another one. -/
  fresh : ∀ o a d, s.phase o = .processing a d → (s.slots (a, d)).upstreams = []
  /-- An answer comes over the connection that the handler's entry has. -/
  upstream : ∀ o a d u, s.phase o = .answering a d (some u) →
    ∃ k, (s.slots (a, d)).upstreams = [(k, u)]
  /-- An entry that keeps a connection is one of `g_conns`, whose next client will close it … -/
  present : ∀ a d, (s.slots (a, d)).upstreams ≠ [] → s.conns = some a
  /-- … and it keeps one at most. -/
  lone : ∀ q, (s.slots q).upstreams.length ≤ 1
  /-- A socket that is held has a descriptor that is open for it. -/
  open_of_holds : ∀ h x, s.Holds h x → ∃ d, (s.socket x).sock = some d ∧ s.files d = some x
  /-- A descriptor that is open is that of a socket that is held. -/
  holds_of_open : ∀ d x, s.files d = some x → (s.socket x).sock = some d ∧ ∃ h, s.Holds h x
  unique : ∀ h h' x, s.Holds h x → s.Holds h' x → h = h'

/-- Nothing in an array is in use: no handler has an entry, and no entry keeps a connection. -/
structure Unused (s : ConnectionSlots K) : Prop where
  entry : ∀ o, (s.phase o).entry s.conns = none
  upstreams : ∀ q, (s.slots q).upstreams = []

/-- The array is allocated while there is none, or none that is in use. -/
def Allocates (s : ConnectionSlots K) : SlotAction K → Prop
  | .allocate _ => s.Unused
  | _ => True

/-- The client's descriptor is the number of an entry. -/
def InRange (s : ConnectionSlots K) : SlotAction K → Prop
  | .initConn o => ∀ d, (s.socket o).sock = some d → d < GW_MAX_FD
  | _ => True

/-! ## The invariant -/

/-- The handler `o` uses the entry `d` of the array `a`. -/
structure Uses (s : ConnectionSlots K) (o a d : ℕ) : Prop where
  conns : s.conns = some a
  sock : (s.socket o).sock = some d
  client : (s.slots (a, d)).client = some o

/-- What is known of a handler that is in a phase. -/
def Fits (s : ConnectionSlots K) (o : ℕ) : HandlerPhase K → Prop
  | .initializing => s.conns.isSome
  | .looping d | .complete d => ∃ a, s.Uses o a d ∧ (s.slots (a, d)).upstreams = []
  | .reading a d | .processing a d | .connecting a d _ _ =>
    s.Uses o a d ∧ (s.slots (a, d)).upstreams = []
  | .answering a d none => s.Uses o a d
  | .answering a d (some u) => s.Uses o a d ∧ ∃ k, (s.slots (a, d)).upstreams = [(k, u)]
  | _ => True

/-- The descriptor that a socket keeps open: none from `::close` on. -/
def number (s : ConnectionSlots K) (x : ℕ) : Option ℕ :=
  match s.phase x with
  | .closed => none
  | _ => (s.socket x).sock

structure Kept (s : ConnectionSlots K) : Prop where
  inBounds : s.outOfBounds = false
  allocated : ∀ a, s.conns = some a → a < s.arrays
  unused : ∀ a d, s.arrays ≤ a → s.slots (a, d) = ⟨none, []⟩
  present : ∀ a d, (s.slots (a, d)).upstreams ≠ [] → s.conns = some a
  owned : Owned s.number s.files s.Holds
  fits : ∀ o, s.Fits o (s.phase o)
  stored : ∀ p k x, (k, x) ∈ (s.slots p).upstreams → (s.socket x).isConnected = true
  lone : ∀ p, (s.slots p).upstreams.length ≤ 1
  unmade : ∀ x, s.made ≤ x → s.phase x = .absent ∧ (s.socket x).sock = none

lemma kept_init : (init : ConnectionSlots K).Kept where
  inBounds := rfl
  allocated a ha := by cases ha
  unused _ _ _ := rfl
  present a d h := absurd rfl h
  owned :=
    { open_of_holds := fun h x hx => by
        rcases h with _ | o | p <;> simp [Holds, init, HandlerPhase.hasClient,
          HandlerPhase.connects] at hx
      holds_of_open := fun d x hd => by cases hd
      unique := fun h h' x hx _ => by
        rcases h with _ | o | p <;> simp [Holds, init, HandlerPhase.hasClient,
          HandlerPhase.connects] at hx }
  fits _ := trivial
  stored p k x h := by cases h
  lone p := by simp [init]
  unmade _ _ := ⟨rfl, rfl⟩

variable {s s' : ConnectionSlots K} {o a d u x y : ℕ} {p q : HandlerPhase K} {h : Holder}

/-- What is known of a handler remains known when its entry and its socket stay as they are. -/
lemma Fits.mono (hf : s.Fits o p) (hconns : ∀ a, s.conns = some a → s'.conns = some a)
    (hsock : (s'.socket o).sock = (s.socket o).sock)
    (hslots : ∀ a d, s.Uses o a d → s'.slots (a, d) = s.slots (a, d)) : s'.Fits o p := by
  have huses : ∀ a d, s.Uses o a d → s'.Uses o a d := fun a d hu =>
    ⟨hconns a hu.conns, hsock.trans hu.sock, by rw [hslots a d hu, hu.client]⟩
  have hfresh : ∀ a d, s.Uses o a d ∧ (s.slots (a, d)).upstreams = [] →
      s'.Uses o a d ∧ (s'.slots (a, d)).upstreams = [] := fun a d hu =>
    ⟨huses a d hu.1, by rw [hslots a d hu.1, hu.2]⟩
  match p, hf with
  | .initializing, hf =>
    obtain ⟨a, ha⟩ := Option.isSome_iff_exists.mp hf
    exact Option.isSome_iff_exists.mpr ⟨a, hconns a ha⟩
  | .looping d, ⟨a, hf⟩ => exact ⟨a, hfresh a d hf⟩
  | .complete d, ⟨a, hf⟩ => exact ⟨a, hfresh a d hf⟩
  | .reading a d, hf => exact hfresh a d hf
  | .processing a d, hf => exact hfresh a d hf
  | .connecting a d _ _, hf => exact hfresh a d hf
  | .answering a d none, hf => exact huses a d hf
  | .answering a d (some u), ⟨hf, hk⟩ => exact ⟨huses a d hf, by rwa [hslots a d hf]⟩
  | .absent, _ | .start, _ | .testing, _ | .allocating, _ | .closing, _ | .closed, _
  | .finished, _ => trivial

@[simp] lemma goto_phase_self : (s.goto o p).phase o = p := Function.update_self ..

@[simp] lemma goto_phase_of_ne (hx : x ≠ o) : (s.goto o p).phase x = s.phase x :=
  Function.update_of_ne hx ..

@[simp] lemma goto_socket : (s.goto o p).socket = s.socket := rfl

@[simp] lemma goto_files : (s.goto o p).files = s.files := rfl

@[simp] lemma goto_slots : (s.goto o p).slots = s.slots := rfl

lemma number_of_hasClient (hx : (s.phase x).hasClient = true) :
    s.number x = (s.socket x).sock := by
  cases hp : s.phase x <;> simp_all [number, HandlerPhase.hasClient]

lemma sock_of_number (hx : s.number x = some d) : (s.socket x).sock = some d := by
  cases hp : s.phase x <;> simp_all [number]

lemma Fits.uses (hf : s.Fits o p) (he : p.entry s.conns = some (a, d)) : s.Uses o a d := by
  have hconns : ∀ d', s.conns.map (fun a => (a, d')) = some (a, d) → s.conns = some a ∧ d' = d :=
    fun d' h => by simpa using h
  match p, hf with
  | .looping d', ⟨a', hf, _⟩ | .complete d', ⟨a', hf, _⟩ =>
    obtain ⟨hc, rfl⟩ := hconns d' he
    obtain rfl : a' = a := Option.some.inj (hf.conns.symm.trans hc)
    exact hf
  | .reading _ _, hf | .processing _ _, hf | .connecting _ _ _ _, hf
  | .answering _ _ (some _), hf =>
    obtain ⟨rfl, rfl⟩ := Prod.mk.inj (Option.some.inj he)
    exact hf.1
  | .answering _ _ none, hf =>
    obtain ⟨rfl, rfl⟩ := Prod.mk.inj (Option.some.inj he)
    exact hf

/-- A handler without an entry only needs some array. -/
lemma Fits.of_entry (hf : s.Fits o p) (he : p.entry s.conns = none) (hconns : s'.conns.isSome) :
    s'.Fits o p := by
  match p, hf with
  | .initializing, _ => exact hconns
  | .looping d, ⟨a, hf, _⟩ | .complete d, ⟨a, hf, _⟩ =>
    simp [HandlerPhase.entry, hf.conns] at he
  | .reading _ _, _ | .processing _ _, _ | .connecting _ _ _ _, _ | .answering _ _ _, _ =>
    cases he
  | .absent, _ | .start, _ | .testing, _ | .allocating, _ | .closing, _ | .closed, _
  | .finished, _ => trivial

/-- A handler that has an entry has one also where there is another array. -/
lemma exists_entry {conns : Option ℕ} (h : (p.entry conns).isSome) (a : ℕ) :
    ∃ a' d, p.entry (some a) = some (a', d) := by
  cases p <;> first | exact ⟨_, _, rfl⟩ | cases h

lemma fits_of_not_hasClient (hp : p.hasClient = false) : s.Fits o p := by
  cases p <;> trivial

namespace Kept

/-- A socket that is held has been made. -/
lemma lt_made (hs : s.Kept) (hx : s.Holds h x) : x < s.made := by
  by_contra hge
  obtain ⟨hphase, hsock⟩ := hs.unmade x (Nat.not_lt.mp hge)
  obtain ⟨d, hd, -⟩ := hs.owned.open_of_holds h x hx
  simp [number, hphase, hsock] at hd

/-- The entries of arrays that are not there yet are not those of `g_conns`. -/
lemma ne_of_unused {a' d' : ℕ} (hs : s.Kept) (hconns : s.conns = some a) (ha : s.arrays ≤ a') :
    (a', d') ≠ (a, d) := fun heq => by
  have hlt := hs.allocated a hconns
  rw [← (Prod.mk.inj heq).1] at hlt
  exact hlt.not_ge ha

/-- A handler that has a client has its descriptor open. -/
lemma client_open (hs : s.Kept) (ho : (s.phase o).hasClient = true) :
    ∃ d, (s.socket o).sock = some d ∧ s.files d = some o := by
  obtain ⟨d, hd, hopen⟩ := hs.owned.open_of_holds .handler o ho
  exact ⟨d, (number_of_hasClient ho).symm.trans hd, hopen⟩

/-- A handler that has a client holds it, and nothing else that is held is it. -/
lemma ne_of_holds (hs : s.Kept) (hx : s.Holds h x) (hh : h ≠ .handler)
    (hy : (s.phase y).hasClient = true) : y ≠ x := by
  have hy' : s.Holds .handler y := hy
  exact hs.owned.ne_of_ne hy' hx hh.symm

/-- Handlers that have clients use different entries. -/
lemma eq_of_uses {o' : ℕ} (hs : s.Kept) (ho : (s.phase o).hasClient = true)
    (ho' : (s.phase o').hasClient = true) (hu : (s.socket o).sock = some d)
    (hu' : (s.socket o').sock = some d) : o = o' := by
  have hx : s.Holds .handler o := ho
  have hx' : s.Holds .handler o' := ho'
  exact hs.owned.eq_of_name_eq hx hx' ((number_of_hasClient ho).trans hu)
    ((number_of_hasClient ho').trans hu')

/-- A step of the handler `o` leaves to the others what they have. -/
lemma fits_of_others (hs : s.Kept) (hself : s'.Fits o (s'.phase o))
    (hphase : ∀ x, x ≠ o → s'.phase x = s.phase x)
    (hconns : ∀ a, s.conns = some a → s'.conns = some a)
    (hsock : ∀ x, x ≠ o → (s.phase x).hasClient = true → (s'.socket x).sock = (s.socket x).sock)
    (hslots : ∀ x a d, x ≠ o → (s.phase x).hasClient = true → s.Uses x a d →
      s'.slots (a, d) = s.slots (a, d)) (x : ℕ) : s'.Fits x (s'.phase x) := by
  by_cases hx : x = o
  · exact hx ▸ hself
  rw [hphase x hx]
  by_cases hc : (s.phase x).hasClient = true
  · exact (hs.fits x).mono hconns (hsock x hx hc) fun a d => hslots x a d hx hc
  · exact fits_of_not_hasClient (Bool.eq_false_iff.mpr hc)

/-! ## Steps that only take the handler further -/

lemma owned_goto (hs : s.Kept) (hphase : s.phase o = q) (hq : q.hasClient = true)
    (hqconn : q.connects = none) (hp : p.hasClient = true) (hpconn : p.connects = none) :
    Owned (s.goto o p).number (s.goto o p).files (s.goto o p).Holds := by
  have ho : (s.phase o).hasClient = true := hphase ▸ hq
  have hconn : (s.phase o).connects = none := hphase ▸ hqconn
  refine hs.owned.congr (fun _ y _ => ?_) fun h y => ?_
  · by_cases hy : y = o
    · subst hy
      rw [number_of_hasClient ho, number_of_hasClient (by simpa using hp)]
      rfl
    · simp [number, hy]
  · rcases h with _ | o' | q
    · by_cases hy : y = o <;> simp [Holds, hy, ho, hp]
    · by_cases ho' : o' = o <;> simp [Holds, ho', hconn, hpconn]
    · exact Iff.rfl

lemma goto (hs : s.Kept) (hphase : s.phase o = q) (hq : q.hasClient = true)
    (hqconn : q.connects = none) (hp : p.hasClient = true) (hpconn : p.connects = none)
    (hfits : s.Fits o p) : (s.goto o p).Kept where
  inBounds := hs.inBounds
  allocated := hs.allocated
  unused := hs.unused
  present := hs.present
  owned := hs.owned_goto hphase hq hqconn hp hpconn
  fits := by
    refine hs.fits_of_others (o := o) ?_ (fun x hx => goto_phase_of_ne hx) (fun _ hc => hc)
      (fun _ _ _ => rfl) fun _ _ _ _ _ _ => rfl
    rw [goto_phase_self]
    exact hfits.mono (fun _ hc => hc) rfl fun _ _ _ => rfl
  stored := hs.stored
  lone := hs.lone
  unmade x hx := by
    have hxo : x ≠ o := fun heq => by
      rw [← hphase, ← heq, (hs.unmade x hx).1] at hq
      cases hq
    simpa [hxo] using hs.unmade x hx

/-- Where nothing is in use, another array takes nothing away. -/
lemma allocate (hs : s.Kept) (hp : s.phase o = .allocating) (hunused : s.Unused) :
    Kept { s.goto o .initializing with conns := some s.arrays, arrays := s.arrays + 1 } where
  inBounds := hs.inBounds
  allocated a ha := Option.some.inj ha ▸ Nat.lt_succ_self _
  unused a d ha := hs.unused a d (Nat.le_of_succ_le ha)
  present a d h := absurd (hunused.upstreams (a, d)) h
  owned := hs.owned_goto (p := .initializing) hp rfl rfl rfl rfl
  fits x := by
    by_cases hx : x = o
    · subst hx
      simp [Fits]
    · have hphase : (s.goto o .initializing).phase x = s.phase x := goto_phase_of_ne hx
      change Fits _ x ((s.goto o .initializing).phase x)
      rw [hphase]
      exact (hs.fits x).of_entry (hunused.entry x) rfl
  stored := hs.stored
  lone := hs.lone
  unmade x hx := by
    have hxo : x ≠ o := fun heq => by simp [heq ▸ (hs.unmade x hx).1] at hp
    simpa [hxo] using hs.unmade x hx

/-! ## Opening and closing -/

lemma not_holds_made (hs : s.Kept) (h : Holder) : ¬ s.Holds h s.made := fun hx =>
  (hs.lt_made hx).false

lemma accept (hs : s.Kept) (hd : s.files d = none) :
    ((s.newSocket d true).goto s.made .start).Kept where
  inBounds := hs.inBounds
  allocated := hs.allocated
  unused := hs.unused
  present := hs.present
  owned := by
    have habsent := (hs.unmade _ le_rfl).1
    refine hs.owned.opened (k := .handler) hs.not_holds_made hd (by simp [number, newSocket])
      (fun y hy => by simp [number, newSocket, hy]) (by simp [newSocket])
      (fun e he => by simp [newSocket, he]) fun h y => ?_
    rcases h with _ | o' | q
    · by_cases hy : y = s.made <;> simp [Holds, newSocket, hy, HandlerPhase.hasClient, habsent]
    · by_cases ho' : o' = s.made <;>
        simp [Holds, newSocket, ho', HandlerPhase.connects, habsent]
    · simp [Holds, newSocket]
  fits := by
    refine hs.fits_of_others (o := s.made) (by simp [Fits]) (fun x hx => goto_phase_of_ne hx)
      (fun _ hc => hc) (fun x hx _ => by simp [newSocket, hx]) fun _ _ _ _ _ _ => rfl
  stored q k x hx := by
    have hne := (hs.lt_made (h := .slot q) ⟨k, hx⟩).ne
    simpa [newSocket, hne] using hs.stored q k x hx
  lone := hs.lone
  unmade x hx := by
    have hlt : s.made < x := hx
    simpa [newSocket, hlt.ne'] using hs.unmade x hlt.le

lemma newUpstream {k : K} {e : ℕ} (hs : s.Kept) (hp : s.phase o = .processing a d)
    (he : s.files e = none) :
    ((s.newSocket e false).goto o (.connecting a d k s.made)).Kept where
  inBounds := hs.inBounds
  allocated := hs.allocated
  unused := hs.unused
  present := hs.present
  owned := by
    have habsent := (hs.unmade _ le_rfl).1
    have hne : s.made ≠ o := fun heq => by simp [heq, hp] at habsent
    refine hs.owned.opened (k := .connecting o) hs.not_holds_made he
      (by simp [number, newSocket, hne, habsent]) (fun y hy => ?_) (by simp [newSocket])
      (fun f hf => by simp [newSocket, hf]) fun h y => ?_
    · by_cases hyo : y = o
      · subst hyo
        simp [number, newSocket, hy, hp]
      · simp [number, newSocket, hy, hyo]
    · rcases h with _ | o' | q
      · by_cases hy : y = o <;> simp [Holds, newSocket, hy, HandlerPhase.hasClient, hp]
      · by_cases ho' : o' = o
        · simp [Holds, newSocket, ho', HandlerPhase.connects, hp, eq_comm]
        · simp [Holds, newSocket, ho']
      · simp [Holds, newSocket]
  fits := by
    have hmade : ∀ x, (s.phase x).hasClient = true → x ≠ s.made := fun x hx =>
      (hs.lt_made (h := .handler) hx).ne
    have ho : (s.phase o).hasClient = true := by rw [hp]; rfl
    refine hs.fits_of_others (o := o) ?_ (fun x hx => goto_phase_of_ne hx) (fun _ hc => hc)
      (fun x _ hc => by simp [newSocket, hmade x hc]) fun _ _ _ _ _ _ => rfl
    have hf : s.Fits o (.connecting a d k s.made) := by
      have hf := hs.fits o
      rwa [hp] at hf
    rw [goto_phase_self]
    exact hf.mono (fun _ hc => hc) (by simp [newSocket, hmade o ho]) fun _ _ _ => rfl
  stored q k x hx := by
    have hne := (hs.lt_made (h := .slot q) ⟨k, hx⟩).ne
    simpa [newSocket, hne] using hs.stored q k x hx
  lone := hs.lone
  unmade x hx := by
    have hlt : s.made < x := hx
    have hxo : x ≠ o := fun heq => by simp [(heq ▸ hs.unmade x hlt.le).1] at hp
    simpa [newSocket, hlt.ne', hxo] using hs.unmade x hlt.le

lemma close_eq (hs : s.Kept) (hx : s.Holds h x) : ∃ e, s.files e = some x ∧
    s.close x = { s with
      socket := Function.update s.socket x ⟨none, false⟩
      files := Function.update s.files e none } := by
  obtain ⟨e, he, hopen⟩ := hs.owned.open_of_holds h x hx
  exact ⟨e, hopen, by simp only [close, sock_of_number he]⟩

/-- The connection failed, and the new socket is closed. -/
lemma connectFailed {k : K} (hs : s.Kept) (hp : s.phase o = .connecting a d k u) :
    ((s.close u).goto o (.answering a d none)).Kept := by
  have hu : s.Holds (.connecting o) u := by simp [Holds, hp, HandlerPhase.connects]
  obtain ⟨e, hopen, heq⟩ := hs.close_eq hu
  rw [heq]
  have ho : (s.phase o).hasClient = true := by rw [hp]; rfl
  have hne : ∀ h y, h ≠ .connecting o → s.Holds h y → y ≠ u := fun h y hh hy =>
    hs.owned.ne_of_ne hy hu hh
  refine ⟨hs.inBounds, hs.allocated, hs.unused, hs.present, ?_, ?_, fun q k x hx => ?_, hs.lone,
    fun x hx => ?_⟩
  · refine hs.owned.closed hopen (fun y hy => ?_) (by simp) (fun f hf => by simp [hf]) fun h y => ?_
    · by_cases hyo : y = o
      · subst hyo
        simp [number, hy, hp]
      · simp [number, hy, hyo]
    · rcases h with _ | o' | q
      · by_cases hy : y = o
        · simp [Holds, hy, hp, hne .handler o (by simp) ho, HandlerPhase.hasClient]
        · simpa [Holds, hy] using hne .handler y (by simp)
      · by_cases ho' : o' = o
        · simp [Holds, ho', hp, HandlerPhase.connects, eq_comm]
        · simpa [Holds, ho'] using hne (.connecting o') y (by simp [ho'])
      · simpa [Holds] using fun k hk => hne (.slot q) y (by simp) ⟨k, hk⟩
  · refine hs.fits_of_others (o := o) ?_ (fun x hx => goto_phase_of_ne hx) (fun _ hc => hc)
      (fun x _ hc => by simp [hne .handler x (by simp) hc]) fun _ _ _ _ _ _ => rfl
    have hf := hs.fits o
    rw [hp] at hf
    rw [goto_phase_self]
    exact Fits.mono (p := .answering a d none) hf.1 (fun _ hc => hc)
      (by simp [hne .handler o (by simp) ho]) fun _ _ _ => rfl
  · have hxu := hne (.slot q) x (by simp) ⟨k, hx⟩
    simpa [hxu] using hs.stored q k x hx
  · have hxo : x ≠ o := fun heq => by simp [heq ▸ (hs.unmade x hx).1] at hp
    have hxu : x ≠ u := fun heq => (hs.lt_made hu).not_ge (heq ▸ hx)
    simpa [hxo, hxu] using hs.unmade x hx

/-- The connection is the first one of the handler's entry, which holds it from now on. -/
lemma stores [DecidableEq K] {k : K} (hs : s.Kept) (hp : s.phase o = .connecting a d k u) :
    ((s.store a d k u).goto o (.answering a d (some u))).Kept := by
  have hu : s.Holds (.connecting o) u := by simp [Holds, hp, HandlerPhase.connects]
  have ho : (s.phase o).hasClient = true := by rw [hp]; rfl
  have hne : ∀ h y, h ≠ .connecting o → s.Holds h y → y ≠ u := fun h y hh hy =>
    hs.owned.ne_of_ne hy hu hh
  obtain ⟨huses, hfresh⟩ : s.Fits o (.connecting a d k u) := hp ▸ hs.fits o
  have hstore : s.store a d k u = { s with
      socket := Function.update s.socket u { s.socket u with isConnected := true }
      slots := Function.update s.slots (a, d) ⟨some o, [(k, u)]⟩ } := by
    simp [store, hfresh, huses.client]
  rw [hstore]
  have hsock : ∀ x, (Function.update s.socket u { s.socket u with isConnected := true } x).sock =
      (s.socket x).sock := fun x => by
    by_cases hx : x = u
    · subst hx
      simp
    · simp [hx]
  refine ⟨hs.inBounds, hs.allocated, fun a' d' ha => ?_, fun a' d' h => ?_, ?_, ?_,
    fun q k' x hx => ?_, fun q => ?_, fun x hx => ?_⟩
  · have hne : (a', d') ≠ (a, d) := hs.ne_of_unused huses.conns ha
    simpa [hne] using hs.unused a' d' ha
  · by_cases hq : (a', d') = (a, d)
    · obtain ⟨rfl, -⟩ := Prod.mk.inj hq
      exact huses.conns
    · exact hs.present a' d' (by simpa [hq] using h)
  · have hnumber : ∀ y, number (ConnectionSlots.goto { s with
        socket := Function.update s.socket u { s.socket u with isConnected := true }
        slots := Function.update s.slots (a, d) ⟨some o, [(k, u)]⟩ } o
        (.answering a d (some u))) y = s.number y := fun y => by
      by_cases hyo : y = o
      · subst hyo
        simp [number, hp, hsock]
      · simp [number, hyo, hsock]
    rw [funext hnumber]
    refine hs.owned.handed (k := .slot (a, d)) hu (fun h => ?_) fun h y hy => ?_
    · rcases h with _ | o' | q
      · have huo : u ≠ o := (hne .handler o (by simp) ho).symm
        simpa [Holds, huo] using hne .handler u (by simp)
      · by_cases ho' : o' = o
        · simp [Holds, ho', HandlerPhase.connects]
        · simpa [Holds, ho'] using hne (.connecting o') u (by simp [ho'])
      · by_cases hq : q = (a, d)
        · simp [Holds, hq]
        · simpa [Holds, hq] using fun k hk => hne (.slot q) u (by simp) ⟨k, hk⟩
    · rcases h with _ | o' | q
      · by_cases hyo : y = o <;> simp [Holds, hyo, hp, HandlerPhase.hasClient]
      · by_cases ho' : o' = o
        · simp [Holds, ho', hp, HandlerPhase.connects, Ne.symm hy]
        · simp [Holds, ho']
      · by_cases hq : q = (a, d)
        · simp [Holds, hq, hy, hfresh]
        · simp [Holds, hq]
  · refine hs.fits_of_others (o := o) ?_ (fun x hx => goto_phase_of_ne hx) (fun _ hc => hc)
      (fun x _ _ => hsock x) fun x a' d' hx hc huses' => ?_
    · rw [goto_phase_self]
      exact ⟨⟨huses.conns, (hsock o).trans huses.sock, by simp⟩, k, by simp⟩
    · have hd : d' ≠ d := fun heq => hx (hs.eq_of_uses hc ho (heq ▸ huses'.sock) huses.sock)
      simp [hd]
  · by_cases hq : q = (a, d)
    · subst hq
      obtain ⟨-, rfl⟩ : k' = k ∧ x = u := by simpa using hx
      simp
    · have hstored : (k', x) ∈ (s.slots q).upstreams := by simpa [hq] using hx
      by_cases hxu : x = u
      · simp [hxu]
      · simpa [hxu] using hs.stored q k' x hstored
  · by_cases hq : q = (a, d)
    · simp [hq]
    · simpa [hq] using hs.lone q
  · have hxo : x ≠ o := fun heq => by simp [heq ▸ (hs.unmade x hx).1] at hp
    simpa [hxo, hsock] using hs.unmade x hx

/-- What `gateway_conn::init` closes: the sockets of the entry, and nothing else. -/
lemma closeUpstreams_eq (hs : s.Kept) (q : ℕ × ℕ) : ∃ socket files,
    s.closeUpstreams (s.slots q).upstreams = { s with socket, files } ∧
      (∀ x, ¬ s.Holds (.slot q) x → socket x = s.socket x) ∧
      Owned (number { s with socket, files }) files fun h x => s.Holds h x ∧ h ≠ .slot q := by
  match hq : (s.slots q).upstreams with
  | [] =>
    refine ⟨s.socket, s.files, rfl, fun _ _ => rfl, hs.owned.congr (fun _ _ _ => rfl) fun h x => ?_⟩
    refine and_iff_left_of_imp fun hx heq => ?_
    subst heq
    simp [Holds, hq] at hx
  | [(k, u)] =>
    have hu : s.Holds (.slot q) u := ⟨k, by simp [hq]⟩
    have hconn := hs.stored q k u (by simp [hq])
    obtain ⟨e, hopen, heq⟩ := hs.close_eq hu
    refine ⟨Function.update s.socket u ⟨none, false⟩, Function.update s.files e none,
      by simp [closeUpstreams, hconn, heq], fun x hx => ?_, ?_⟩
    · have hxu : x ≠ u := fun heq => hx (heq ▸ hu)
      simp [hxu]
    · refine hs.owned.closed hopen (fun y hy => by simp [number, hy]) (by simp)
        (fun f hf => by simp [hf]) fun h y => and_congr_right fun hy => ?_
      refine ⟨fun hh heq => hh (hs.owned.unique h _ u (heq ▸ hy) hu), fun hyu heq => hyu ?_⟩
      subst heq
      obtain ⟨k', hk'⟩ := hy
      simp only [hq, List.mem_singleton, Prod.mk.injEq] at hk'
      exact hk'.2
  | _ :: _ :: _ =>
    have hlone := hs.lone q
    simp [hq] at hlone

/-- The handler takes over the entry, once the descriptor is within the array. -/
lemma inits (hs : s.Kept) (hp : s.phase o = .initializing) (hconns : s.conns = some a)
    (hd : (s.socket o).sock = some d) (hlt : d < GW_MAX_FD) :
    ((s.initConn o a d).goto o (.looping d)).Kept := by
  have ho : (s.phase o).hasClient = true := by rw [hp]; rfl
  obtain ⟨socket, files, heq, hsock, howned⟩ := hs.closeUpstreams_eq (a, d)
  have hclient : ∀ x, (s.phase x).hasClient = true → socket x = s.socket x := fun x hx =>
    hsock x fun hslot => hs.ne_of_holds hslot (by simp) hx rfl
  have hinit : s.initConn o a d = { s with
      socket, files
      slots := Function.update s.slots (a, d) ⟨some o, []⟩ } := by
    simp [initConn, heq, hs.inBounds, hlt]
  rw [hinit]
  refine ⟨hs.inBounds, hs.allocated, fun a' d' ha => ?_, fun a' d' h => ?_, ?_, ?_,
    fun q k x hx => ?_, fun q => ?_, fun x hx => ?_⟩
  · have hne : (a', d') ≠ (a, d) := hs.ne_of_unused hconns ha
    simpa [hne] using hs.unused a' d' ha
  · by_cases hq : (a', d') = (a, d)
    · simp [hq] at h
    · exact hs.present a' d' (by simpa [hq] using h)
  · refine howned.congr (fun _ y _ => ?_) fun h y => ?_
    · by_cases hy : y = o
      · subst hy
        simp [number, hp]
      · simp [number, hy]
    · rcases h with _ | o' | q
      · by_cases hy : y = o <;> simp [Holds, hy, hp, HandlerPhase.hasClient]
      · by_cases ho' : o' = o <;> simp [Holds, ho', hp, HandlerPhase.connects]
      · by_cases hq : q = (a, d) <;> simp [Holds, hq]
  · refine hs.fits_of_others (o := o) ?_ (fun x hx => goto_phase_of_ne hx) (fun _ hc => hc)
      (fun x _ hx => by simp [hclient x hx]) fun x a' d' hx hc huses => ?_
    · rw [goto_phase_self]
      exact ⟨a, ⟨hconns, by simp [hclient o ho, hd], by simp⟩, by simp⟩
    · have hne : d' ≠ d := fun heq => hx (hs.eq_of_uses hc ho (heq ▸ huses.sock) hd)
      simp [hne]
  · by_cases hq : q = (a, d)
    · simp [hq] at hx
    · have hstored : (k, x) ∈ (s.slots q).upstreams := by simpa [hq] using hx
      have hslot : ¬ s.Holds (.slot (a, d)) x := fun hslot =>
        hq (Holder.slot.inj (hs.owned.unique (.slot q) _ x ⟨k, hstored⟩ hslot))
      simpa [hsock x hslot] using hs.stored q k x hstored
  · by_cases hq : q = (a, d)
    · simp [hq]
    · simpa [hq] using hs.lone q
  · have hxo : x ≠ o := fun heq => by simp [heq ▸ (hs.unmade x hx).1] at hp
    have hslot : ¬ s.Holds (.slot (a, d)) x := fun hslot => (hs.lt_made hslot).not_ge hx
    simpa [hxo, hsock x hslot] using hs.unmade x hx

lemma closes (hs : s.Kept) (hp : s.phase o = .closing) (hd : (s.socket o).sock = some d) :
    Kept { s.goto o .closed with
      socket := Function.update s.socket o ⟨some d, false⟩
      files := Function.update s.files d none } := by
  have ho : (s.phase o).hasClient = true := by rw [hp]; rfl
  have hclient : s.Holds .handler o := ho
  have hopen : s.files d = some o :=
    hs.owned.table_eq hclient ((number_of_hasClient ho).trans hd)
  refine ⟨hs.inBounds, hs.allocated, hs.unused, hs.present, ?_, ?_, fun q k x hx => ?_, hs.lone,
    fun x hx => ?_⟩
  · refine hs.owned.closed hopen (fun y hy => by simp [number, ConnectionSlots.goto, hy]) (by simp)
      (fun f hf => by simp [hf]) fun h y => ?_
    rcases h with _ | o' | q
    · by_cases hy : y = o <;> simp [Holds, ConnectionSlots.goto, hy, HandlerPhase.hasClient]
    · by_cases ho' : o' = o
      · simp [Holds, ConnectionSlots.goto, ho', hp, HandlerPhase.connects]
      · simpa [Holds, ConnectionSlots.goto, ho'] using fun hy =>
          (hs.ne_of_holds (h := .connecting o') hy (by simp) ho).symm
    · simpa [Holds, ConnectionSlots.goto] using fun k hk =>
        (hs.ne_of_holds (h := .slot q) ⟨k, hk⟩ (by simp) ho).symm
  · refine hs.fits_of_others (o := o) ?_ (fun x hx => by simp [ConnectionSlots.goto, hx])
      (fun _ hc => hc) (fun x hx _ => by simp [hx]) fun _ _ _ _ _ _ => rfl
    simp [ConnectionSlots.goto, Fits]
  · have hxo : x ≠ o := (hs.ne_of_holds (h := .slot q) ⟨k, hx⟩ (by simp) ho).symm
    simpa [hxo] using hs.stored q k x hx
  · have hxo : x ≠ o := fun heq => by simp [heq ▸ (hs.unmade x hx).1] at hp
    simpa [ConnectionSlots.goto, hxo] using hs.unmade x hx

/-- After `::close` the socket is nobody's, also while it still has the descriptor. -/
lemma closed (hs : s.Kept) (hp : s.phase o = .closed) :
    Kept { s.goto o .finished with socket := Function.update s.socket o ⟨none, false⟩ } := by
  have hne : ∀ h x, s.Holds h x → x ≠ o := fun h x hx heq => by
    obtain ⟨d, hd, -⟩ := hs.owned.open_of_holds h x hx
    simp [number, heq, hp] at hd
  refine ⟨hs.inBounds, hs.allocated, hs.unused, hs.present, ?_, ?_, fun q k x hx => ?_, hs.lone,
    fun x hx => ?_⟩
  · refine hs.owned.congr (fun h y hy => by simp [number, ConnectionSlots.goto, hne h y hy])
      fun h y => ?_
    rcases h with _ | o' | q
    · by_cases hy : y = o <;> simp [Holds, ConnectionSlots.goto, hy, hp, HandlerPhase.hasClient]
    · by_cases ho' : o' = o <;>
        simp [Holds, ConnectionSlots.goto, ho', hp, HandlerPhase.connects]
    · exact Iff.rfl
  · refine hs.fits_of_others (o := o) ?_ (fun x hx => by simp [ConnectionSlots.goto, hx])
      (fun _ hc => hc) (fun x hx _ => by simp [hx]) fun _ _ _ _ _ _ => rfl
    simp [ConnectionSlots.goto, Fits]
  · have hxo := hne (.slot q) x ⟨k, hx⟩
    simpa [hxo] using hs.stored q k x hx
  · have hxo : x ≠ o := fun heq => by simp [heq ▸ (hs.unmade x hx).1] at hp
    simpa [ConnectionSlots.goto, hxo] using hs.unmade x hx

lemma separate (hs : s.Kept) : s.Separate where
  ready o hp := by
    have hf : s.Fits o .initializing := hp ▸ hs.fits o
    obtain ⟨d, hd, -⟩ := hs.client_open (o := o) (by rw [hp]; rfl)
    exact ⟨hf, by simp [hd]⟩
  entry o a d he := by
    have huses := (hs.fits o).uses he
    exact ⟨huses.conns, huses.sock, huses.client⟩
  fresh o a d hp := by
    have hf : s.Fits o (.processing a d) := hp ▸ hs.fits o
    exact hf.2
  upstream o a d u hp := by
    have hf : s.Fits o (.answering a d (some u)) := hp ▸ hs.fits o
    exact hf.2
  present := hs.present
  lone := hs.lone
  open_of_holds h x hx := by
    obtain ⟨d, hd, hopen⟩ := hs.owned.open_of_holds h x hx
    exact ⟨d, sock_of_number hd, hopen⟩
  holds_of_open d x hd := by
    obtain ⟨hname, hheld⟩ := hs.owned.holds_of_open d x hd
    exact ⟨sock_of_number hname, hheld⟩
  unique := hs.owned.unique

/-! ## The steps of the machine -/

variable [DecidableEq K] {b : SlotAction K}

lemma step (hs : s.Kept) (hrange : s.InRange b) (halloc : s.Allocates b)
    (h : machine.step s b = some s') : s'.Kept := by
  cases b with
  | accept d =>
    simp only [machine] at h
    split_ifs at h with hd
    obtain rfl := Option.some.inj h
    exact hs.accept hd
  | isValid o =>
    simp only [machine] at h
    split at h
    next hp =>
      obtain rfl := Option.some.inj h
      split_ifs
      · exact hs.goto hp rfl rfl rfl rfl trivial
      · exact hs.goto hp rfl rfl rfl rfl trivial
    next => cases h
  | testConns o =>
    simp only [machine] at h
    split at h
    next hp =>
      obtain rfl := Option.some.inj h
      split_ifs with hconns
      · exact hs.goto hp rfl rfl rfl rfl trivial
      · exact hs.goto hp rfl rfl rfl rfl
          (Option.isSome_iff_ne_none.mpr fun hnone => hconns (by simp [hnone]))
    next => cases h
  | allocate o =>
    simp only [machine] at h
    split at h
    next hp =>
      obtain rfl := Option.some.inj h
      exact hs.allocate hp halloc
    next => cases h
  | initConn o =>
    simp only [machine] at h
    split at h
    next a d hp hconns hd =>
      obtain rfl := Option.some.inj h
      exact hs.inits hp hconns hd (hrange d hd)
    next => cases h
  | isConnected o =>
    simp only [machine] at h
    split at h
    next d a hp hconns =>
      obtain rfl := Option.some.inj h
      obtain ⟨a', huses, hfresh⟩ : s.Fits o (.looping d) := hp ▸ hs.fits o
      obtain rfl : a = a' := Option.some.inj (hconns.symm.trans huses.conns)
      split_ifs
      · exact hs.goto hp rfl rfl rfl rfl ⟨huses, hfresh⟩
      · exact hs.goto hp rfl rfl rfl rfl trivial
    next => cases h
  | readOnce o ok =>
    simp only [machine] at h
    split at h
    next a d hp =>
      split_ifs at h with hvalid hok
      · obtain rfl := Option.some.inj h
        have hf : s.Fits o (.reading a d) := hp ▸ hs.fits o
        exact hs.goto hp rfl rfl rfl rfl ⟨a, hf⟩
      · obtain rfl := Option.some.inj h
        exact hs.goto hp rfl rfl rfl rfl trivial
    next => cases h
  | process o =>
    simp only [machine] at h
    split at h
    next d a hp hconns =>
      obtain rfl := Option.some.inj h
      obtain ⟨a', huses, hfresh⟩ : s.Fits o (.complete d) := hp ▸ hs.fits o
      obtain rfl : a = a' := Option.some.inj (hconns.symm.trans huses.conns)
      exact hs.goto hp rfl rfl rfl rfl ⟨huses, hfresh⟩
    next => cases h
  | respond o =>
    simp only [machine] at h
    split at h
    next a d hp =>
      obtain rfl := Option.some.inj h
      have hf : s.Fits o (.processing a d) := hp ▸ hs.fits o
      exact hs.goto hp rfl rfl rfl rfl hf.1
    next => cases h
  | getUpstreamSocket o k e =>
    simp only [machine] at h
    split at h
    next a d hp =>
      have hf : s.Fits o (.processing a d) := hp ▸ hs.fits o
      have hnone : s.connected a d k = none := by simp [connected, hf.2]
      rw [hnone] at h
      cases e with
      | none =>
        obtain rfl := Option.some.inj h
        exact hs.goto hp rfl rfl rfl rfl hf.1
      | some e =>
        dsimp only at h
        split_ifs at h with he
        obtain rfl := Option.some.inj h
        exact hs.newUpstream hp he
    next => cases h
  | connect o ok =>
    simp only [machine] at h
    split at h
    next a d k u hp =>
      obtain rfl := Option.some.inj h
      split_ifs
      · exact hs.stores hp
      · exact hs.connectFailed hp
    next => cases h
  | processEnd o =>
    simp only [machine] at h
    split at h
    next hp =>
      obtain rfl := Option.some.inj h
      exact hs.goto hp rfl rfl rfl rfl trivial
    next => cases h
  | close o =>
    simp only [machine] at h
    split at h
    next d hp hd =>
      obtain rfl := Option.some.inj h
      exact hs.closes hp hd
    next hp hnone =>
      obtain ⟨d, hd, -⟩ := hs.client_open (o := o) (by rw [hp]; rfl)
      rw [hnone] at hd
      cases hd
    next => cases h
  | closeEnd o =>
    simp only [machine] at h
    split at h
    next hp =>
      obtain rfl := Option.some.inj h
      exact hs.closed hp
    next => cases h

end Kept

/-! ## The connections -/

variable [DecidableEq K] {b : SlotAction K}

/-- When another array is allocated, one that is in use is lost to its handlers and its entries. -/
lemma not_separate (hs : s.Kept) (hG : ¬ s.Allocates b) (h : machine.step s b = some s') :
    ¬ s'.Separate := by
  intro hsep
  cases b with
  | allocate o =>
    simp only [machine] at h
    split at h
    next hp =>
      obtain rfl := Option.some.inj h
      refine hG ⟨fun x => ?_, fun q => ?_⟩
      · by_contra hentry
        have hx : x ≠ o := fun heq => hentry (by rw [heq, hp]; rfl)
        obtain ⟨a, d, hnew⟩ := exists_entry (Option.ne_none_iff_isSome.mp hentry) s.arrays
        obtain ⟨hconns, -, hclient⟩ := hsep.entry x a d (by
          change ((s.goto o .initializing).phase x).entry (some s.arrays) = some (a, d)
          rw [goto_phase_of_ne hx, hnew])
        obtain rfl : s.arrays = a := Option.some.inj hconns
        have hempty : (s.slots (s.arrays, d)).client = some x := hclient
        rw [hs.unused _ d le_rfl] at hempty
        cases hempty
      · by_contra hkept
        have hpresent : s.arrays = q.1 := Option.some.inj (hsep.present q.1 q.2 hkept)
        exact hkept (by rw [hs.unused q.1 q.2 hpresent.le])
    next => cases h
  | _ => exact hG trivial

/-- **Every handler has its own connections.**  In a run where every client's descriptor is the
number of an entry, every handler has the entry of its client to itself and every descriptor that is
open has one holder, who will close it, throughout, if and only if the array is allocated only while
nothing in an array is in use. -/
theorem separate_throughout_iff (as : List (SlotAction K)) (s : ConnectionSlots K)
    (hrun : machine.run init as = some s) (hrange : machine.Guarded InRange init as) :
    machine.Throughout Separate init as ↔ machine.Guarded Allocates init as :=
  Machine.throughout_iff_guarded_of (fun _ _ _ hs hrange halloc h => hs.step hrange halloc h)
    (fun _ hs => hs.separate) (fun _ _ _ hs _ hG h => not_separate hs hG h) kept_init hrange hrun

/-- Two clients, the second of which is accepted under the descriptor of the first one before the
handler of that one has ended.  The first one's connection to the upstream is closed by the second
one's handler. -/
def handOverRun : List (SlotAction Unit) :=
  [.accept 5, .isValid 0, .testConns 0, .allocate 0, .initConn 0, .isConnected 0, .readOnce 0 true,
    .process 0, .getUpstreamSocket 0 () (some 6), .connect 0 true, .processEnd 0, .close 0,
    .accept 5, .closeEnd 0, .isValid 2, .testConns 2, .initConn 2]

theorem separate_throughout_handOverRun : machine.Throughout Separate init handOverRun := by
  have hinit : ∀ (s : ConnectionSlots Unit) o, (s.socket o).sock = some 5 →
      s.InRange (.initConn o) := fun s o h d hd => by
    obtain rfl : 5 = d := Option.some.inj (h.symm.trans hd)
    decide
  refine (separate_throughout_iff handOverRun _ rfl ?_).mpr ?_
  · refine .cons trivial rfl (.cons trivial rfl (.cons trivial rfl (.cons trivial rfl
      (.cons (hinit _ 0 rfl) rfl ?_))))
    repeat refine .cons trivial rfl ?_
    exact .cons (hinit _ 2 rfl) rfl trivial
  · refine .cons trivial rfl (.cons trivial rfl (.cons trivial rfl
      (.cons ⟨fun o => ?_, fun _ => rfl⟩ rfl ?_)))
    · match o with
      | 0 => rfl
      | _ + 1 => rfl
    repeat refine .cons trivial rfl ?_
    exact trivial

/-- Two handlers find no array, and both allocate one.  The first one has read a request into its
entry of the first array, and processes it in its entry of the second array, where it has no
client. -/
theorem client_lost_by_second_array : ∃ s : ConnectionSlots Unit,
    machine.run init [.accept 5, .accept 6, .isValid 0, .isValid 1, .testConns 0, .testConns 1,
      .allocate 0, .initConn 0, .isConnected 0, .readOnce 0 true, .allocate 1, .process 0] =
        some s ∧
      s.phase 0 = .processing 1 5 ∧ (s.slots (1, 5)).client = none :=
  ⟨_, rfl, rfl, rfl⟩

end ConnectionSlots

end CoroutineGateway
