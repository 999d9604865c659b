import CoroutineGateway.Construction.GatewayConfig

/-!
# Configurations are read as they are written

A `Statement` is one line of a configuration file together with what it is meant to do, and `line`
is how it is written.  A line is read as the statement that it is written for (`readLine_line`).  A
`Profile` states everything that a file can state; the file that is written for it is loaded, and
what is loaded is the profile, whatever was loaded before (`loadFromFile_profile`).  The one
exception is the capacity of the cache of tokens: `load_from_file` ends with `clear`, which puts the
default capacity back.

What can be written is a matter of the types: a `Text.Word` has no spaces, a `Target` has no comma
in addition, and a `Number` fits into the type it is read into.
-/

namespace CoroutineGateway

open Text

/-- A positive number that a signed type of `bits + 1` bits holds. -/
structure Number (bits : ℕ) where
  value : ℕ
  pos : 0 < value
  lt : value < 2 ^ bits

/-- A target in a list of targets. -/
structure Target extends Word where
  noComma : 44 ∉ text

/-- A route with its targets. -/
structure RouteEntry where
  path : Word
  targets : List Target
  ne_nil : targets ≠ []
  exact : Bool

/-- A line of a configuration file. -/
inductive Statement where
  | route (r : RouteEntry)
  | black (ip : Word)
  | qps (n : Number 31)
  | token (path tok : Word)
  | maxBodySize (n : Number 63)
  | timeoutConnectMs (n : Number 31)
  | timeoutSendMs (n : Number 31)
  | timeoutRecvMs (n : Number 31)
  | jwtEnabled (on : Bool)
  | jwtSecret (v : {v : Bytes // IsPlain v})
  | jwtIssuer (v : {v : Bytes // IsPlain v})
  | jwtAudience (v : {v : Bytes // IsPlain v})
  | jwtAlg (v : {v : Bytes // IsPlain v})
  | jwtCacheCapacity (n : Number 31)

namespace RouteEntry

/-- The targets as they are written. -/
def targetsText (r : RouteEntry) : Bytes := joinItems 44 (r.targets.map (·.text))

/-- The route before its targets are resolved and its token is set. -/
def config {A : Type*} (r : RouteEntry) : RouteConfig A where
  pathPrefix := r.path.text
  targets := r.targets.map (·.text)
  resolvedTargets := []
  exact := r.exact
  requiredToken := []

end RouteEntry

namespace Statement

open GatewayConfig

/-- The keyword of the line. -/
def directive : Statement → Directive
  | route r => if r.exact then .exact else .route
  | black _ => .black
  | qps _ => .qps
  | token _ _ => .token
  | maxBodySize _ => .maxBodySize
  | timeoutConnectMs _ => .timeoutConnectMs
  | timeoutSendMs _ => .timeoutSendMs
  | timeoutRecvMs _ => .timeoutRecvMs
  | jwtEnabled _ => .jwtEnabled
  | jwtSecret _ => .jwtSecret
  | jwtIssuer _ => .jwtIssuer
  | jwtAudience _ => .jwtAudience
  | jwtAlg _ => .jwtAlg
  | jwtCacheCapacity _ => .jwtCacheCapacity

/-- What is written behind the keyword. -/
def args : Statement → Bytes
  | route r => r.path.text ++ 32 :: r.targetsText
  | black ip => ip.text
  | token path tok => path.text ++ 32 :: tok.text
  | maxBodySize n => toDecimal n.value
  | qps n | timeoutConnectMs n | timeoutSendMs n | timeoutRecvMs n | jwtCacheCapacity n =>
    toDecimal n.value
  | jwtEnabled on => if on then ascii "on" else ascii "off"
  | jwtSecret v | jwtIssuer v | jwtAudience v | jwtAlg v => v.val

/-- The line. -/
def line (st : Statement) : Bytes := st.directive.keyword ++ 32 :: st.args

variable {A : Type*}

lemma capacity_of_number (n : Number 31) : (n.value : ℤ) = -1 ∨ 1 ≤ (n.value : ℤ) :=
  .inr (by exact_mod_cast n.pos)

/-- What the line is meant to do. -/
def set (d : Draft A) : Statement → Draft A
  | route r => { d with routes := d.routes ++ [r.config] }
  | black ip => { d with blacklist := d.blacklist ++ [ip.text] }
  | qps n => { d with maxQps := n.value }
  | token path tok =>
    { d with routeTokens := Function.update d.routeTokens path.text (some tok.text) }
  | maxBodySize n => { d with maxBodySize := n.value }
  | timeoutConnectMs n => { d with timeoutConnect := n.value }
  | timeoutSendMs n => { d with timeoutSend := n.value }
  | timeoutRecvMs n => { d with timeoutRecv := n.value }
  | jwtEnabled on => { d with jwtEnabled := on }
  | jwtSecret v => { d with jwtSecret := v.val }
  | jwtIssuer v => { d with jwtIssuer := v.val }
  | jwtAudience v => { d with jwtAudience := v.val }
  | jwtAlg v => { d with jwtAlg := v.val }
  | jwtCacheCapacity n => { d with cache := d.cache.setCapacity ⟨n.value, capacity_of_number n⟩ }

/-! ## Lines -/

lemma keyword_spec (k : Directive) :
    IsPlain k.keyword ∧ k.keyword ≠ [] ∧ Directive.ofWord k.keyword = some k := by
  cases k <;> decide +kernel

lemma isPlain_toDecimal (n : ℕ) : IsPlain (toDecimal n) :=
  fun c hc => isSpace_eq_false_of_isDigit (isDigit_toDecimal n c hc)

/-- A number after a blank. -/
lemma readInt_number {bits : ℕ} (n : Number bits) :
    readInt bits (32 :: toDecimal n.value) = n.value := by
  have hskip : parseInt (32 :: toDecimal n.value) = parseInt (toDecimal n.value) := rfl
  rw [readInt, hskip, parseInt_digits (toDecimal_ne_nil _) (isDigit_toDecimal _),
    decimalValue_toDecimal, Option.getD_some, saturate]
  have hlt : (n.value : ℤ) < 2 ^ bits := by exact_mod_cast n.lt
  generalize (2 : ℤ) ^ bits = bound at hlt ⊢
  omega

lemma items_spec (r : RouteEntry) :
    ∀ l ∈ r.targets.map (·.text), (44 ∉ l ∧ l ≠ []) ∧ IsPlain l := by
  intro l hl
  obtain ⟨t, -, rfl⟩ := List.mem_map.mp hl
  exact ⟨⟨t.noComma, t.ne_nil⟩, t.plain⟩

lemma isPlain_joinItems {items : List Bytes} (h : ∀ l ∈ items, IsPlain l) :
    IsPlain (joinItems 44 items) := by
  induction items with
  | nil => simp [joinItems, IsPlain]
  | cons item items ih =>
    obtain ⟨hitem, hitems⟩ := List.forall_mem_cons.mp h
    cases items with
    | nil => exact hitem
    | cons next items =>
      intro c hc
      rw [joinItems, List.mem_append, List.mem_cons] at hc
      · rcases hc with hc | rfl | hc
        · exact hitem c hc
        · rfl
        · exact ih hitems c hc
      · simp

/-- The list of the targets is one word. -/
lemma targetsText_spec (r : RouteEntry) : IsPlain r.targetsText ∧ r.targetsText ≠ [] := by
  refine ⟨isPlain_joinItems fun l hl => (items_spec r l hl).2, fun hnil => r.ne_nil ?_⟩
  have hitems := getlines_joinItems fun l hl => (items_spec r l hl).1
  have htext : joinItems 44 (r.targets.map (·.text)) = [] := hnil
  rw [htext] at hitems
  exact List.map_eq_nil_iff.mp hitems.symm

/-- **A line is read as it is written.** -/
theorem readLine_line (st : Statement) (d : Draft A) : d.readLine st.line = st.set d := by
  obtain ⟨hplain, hne, hword⟩ := keyword_spec st.directive
  have hline : d.readLine st.line = d.apply (32 :: st.args) st.directive := by
    simp only [Draft.readLine, line, readWord_start hplain hne, hword]
  rw [hline]
  cases st with
  | route r =>
    have hroute : ∀ exact, d.addRoute exact (32 :: (route r).args) =
        { d with routes := d.routes ++ [{ r.config with exact }] } := by
      intro exact
      have hpath := readWord_next r.path.plain r.path.ne_nil r.targetsText
      have hlast := readWord_last (targetsText_spec r).1
      have hitems : getlines 44 r.targetsText = r.targets.map (·.text) :=
        getlines_joinItems fun l hl => (items_spec r l hl).1
      have hfilter : (r.targets.map (·.text)).filter (· ≠ []) = r.targets.map (·.text) :=
        List.filter_eq_self.mpr fun l hl => by simpa using (items_spec r l hl).1.2
      simp only [Draft.addRoute, args, hpath, hlast, hitems, hfilter]
      rw [if_neg, if_neg]
      · rfl
      · simp [r.ne_nil]
      · simp [r.path.ne_nil, (targetsText_spec r).2]
    by_cases hexact : r.exact
    · simp [set, directive, Draft.apply, hexact, hroute, RouteEntry.config]
    · simp [set, directive, Draft.apply, hexact, hroute, RouteEntry.config]
  | black ip => simp [set, args, directive, Draft.apply, readWord_last ip.plain, ip.ne_nil]
  | token path tok =>
    simp [set, args, directive, Draft.apply, readWord_next path.plain path.ne_nil,
      readWord_last tok.plain, path.ne_nil, tok.ne_nil]
  | qps n | maxBodySize n | timeoutConnectMs n | timeoutSendMs n | timeoutRecvMs n =>
    simp [set, args, directive, Draft.apply, Draft.positive, readInt_number, n.pos]
  | jwtEnabled on =>
    cases on
    · rfl
    · rfl
  | jwtSecret v | jwtIssuer v | jwtAudience v | jwtAlg v =>
    simp [set, args, directive, Draft.apply, readWord_last v.2]
  | jwtCacheCapacity n =>
    simp [set, args, directive, Draft.apply, readInt_number, n.pos]

lemma lf_notMem {w : Bytes} (hw : IsPlain w) : lf ∉ w := fun h => by
  have hspace := hw lf h
  cases hspace

/-- A statement is written on one line. -/
lemma line_spec (st : Statement) : lf ∉ st.line ∧ st.line ≠ [] := by
  have hargs : lf ∉ st.args := by
    cases st with
    | route r =>
      simp only [args, List.mem_append, List.mem_cons, not_or]
      exact ⟨lf_notMem r.path.plain, by decide, lf_notMem (targetsText_spec r).1⟩
    | token path tok =>
      simp only [args, List.mem_append, List.mem_cons, not_or]
      exact ⟨lf_notMem path.plain, by decide, lf_notMem tok.plain⟩
    | black ip => exact lf_notMem ip.plain
    | jwtEnabled on => cases on <;> decide
    | jwtSecret v | jwtIssuer v | jwtAudience v | jwtAlg v => exact lf_notMem v.2
    | _ => exact lf_notMem (isPlain_toDecimal _)
  refine ⟨?_, by simp [line]⟩
  simp only [line, List.mem_append, List.mem_cons, not_or]
  exact ⟨lf_notMem (keyword_spec st.directive).1, by decide, hargs⟩

/-- The text of a file. -/
def fileText (sts : List Statement) : Bytes := Seq.joinLines [lf] (sts.map line)

/-- **A file is read as it is written**: statement by statement. -/
theorem foldl_fileText (sts : List Statement) (d : Draft A) :
    ((getlines lf (fileText sts)).filter (· ≠ [])).foldl Draft.readLine d = sts.foldl set d := by
  have hlines : ∀ l ∈ sts.map line, lf ∉ l ∧ l ≠ [] := by
    intro l hl
    obtain ⟨st, -, rfl⟩ := List.mem_map.mp hl
    exact line_spec st
  rw [fileText, getlines_joinLines fun l hl => (hlines l hl).1,
    List.filter_eq_self.mpr fun l hl => by simpa using (hlines l hl).2, List.foldl_map]
  simp only [readLine_line]

end Statement

/-! ## Profiles -/

/-- Everything that a configuration file can state, with a route for all paths. -/
structure Profile where
  routes : List RouteEntry
  defaultRoute : ∃ r ∈ routes, r.exact = false ∧ r.path.text = ascii "/"
  tokens : List (Word × Word)
  blacklist : List Word
  maxQps : Number 31
  maxBodySize : Number 63
  timeoutConnect : Number 31
  timeoutSend : Number 31
  timeoutRecv : Number 31
  jwtEnabled : Bool
  jwtSecret : {v : Bytes // IsPlain v}
  jwtIssuer : {v : Bytes // IsPlain v}
  jwtAudience : {v : Bytes // IsPlain v}
  jwtAlg : {v : Bytes // IsPlain v}
  jwtCacheCapacity : Number 31

namespace Profile

open GatewayConfig

/-- The statements of the file that is written for the profile. -/
def statements (p : Profile) : List Statement :=
  p.routes.map .route ++ p.tokens.map (fun t => .token t.1 t.2) ++ p.blacklist.map .black ++
    [.qps p.maxQps, .maxBodySize p.maxBodySize, .timeoutConnectMs p.timeoutConnect,
      .timeoutSendMs p.timeoutSend, .timeoutRecvMs p.timeoutRecv, .jwtEnabled p.jwtEnabled,
      .jwtSecret p.jwtSecret, .jwtIssuer p.jwtIssuer, .jwtAudience p.jwtAudience,
      .jwtAlg p.jwtAlg, .jwtCacheCapacity p.jwtCacheCapacity]

/-- The file that is written for the profile. -/
def text (p : Profile) : Bytes := Statement.fileText p.statements

/-- The token for a path: the last one stated. -/
def tokenOf (p : Profile) (path : Bytes) : Option Bytes :=
  (p.tokens.filter (·.1.text = path)).getLast?.map (·.2.text)

variable {A : Type*}

/-- The route with its addresses and its token. -/
def routeConfig (p : Profile) (lookup : Bytes → Option A) (r : RouteEntry) : RouteConfig A where
  pathPrefix := r.path.text
  targets := r.targets.map (·.text)
  resolvedTargets := (r.targets.map (·.text)).filterMap lookup
  exact := r.exact
  requiredToken := (p.tokenOf r.path.text).getD []

/-- The configuration that the profile states. -/
def config (p : Profile) (lookup : Bytes → Option A) (path : Bytes) : GatewayConfig A :=
  buildTrie
    { routes := p.routes.map (p.routeConfig lookup)
      blacklist := p.blacklist.map (·.text)
      maxQps := p.maxQps.value
      configPath := path
      maxBodySize := p.maxBodySize.value
      timeoutConnect := p.timeoutConnect.value
      timeoutSend := p.timeoutSend.value
      timeoutRecv := p.timeoutRecv.value
      jwtEnabled := p.jwtEnabled
      jwtSecret := p.jwtSecret.val
      jwtIssuer := p.jwtIssuer.val
      jwtAudience := p.jwtAudience.val
      jwtAlg := p.jwtAlg.val
      trieRoot := .null
      exactMap := fun _ => none }

/-- The capacity that the profile states for the cache of tokens. -/
def capacity (p : Profile) : Capacity :=
  ⟨p.jwtCacheCapacity.value, Statement.capacity_of_number p.jwtCacheCapacity⟩

lemma foldl_routes (rs : List RouteEntry) (d : Draft A) :
    (rs.map Statement.route).foldl Statement.set d =
      { d with routes := d.routes ++ rs.map RouteEntry.config } := by
  induction rs generalizing d with
  | nil => simp
  | cons r rs ih =>
    rw [List.map_cons, List.foldl_cons, ih]
    simp [Statement.set]

lemma foldl_blacklist (ips : List Word) (d : Draft A) :
    (ips.map Statement.black).foldl Statement.set d =
      { d with blacklist := d.blacklist ++ ips.map (·.text) } := by
  induction ips generalizing d with
  | nil => simp
  | cons ip ips ih =>
    rw [List.map_cons, List.foldl_cons, ih]
    simp [Statement.set]

lemma foldl_tokens (ts : List (Word × Word)) (d : Draft A) :
    (ts.map fun t => Statement.token t.1 t.2).foldl Statement.set d =
      { d with routeTokens := fun path =>
          ((ts.filter (·.1.text = path)).getLast?.map (·.2.text)).or (d.routeTokens path) } := by
  induction ts generalizing d with
  | nil => simp
  | cons t ts ih =>
    rw [List.map_cons, List.foldl_cons, ih]
    simp only [Statement.set]
    congr 1
    funext path
    by_cases ht : t.1.text = path
    · simp only [List.filter_cons_of_pos (p := fun t : Word × Word => t.1.text = path)
        (decide_eq_true ht), List.getLast?_cons, ht, Function.update_self]
      cases (ts.filter (·.1.text = path)).getLast? <;> simp
    · simp [ht, Function.update_of_ne (Ne.symm ht)]

/-- The local variables after the loop over the lines. -/
lemma foldl_statements (p : Profile) (cfg : GatewayConfig A) (cache : JwtCache) :
    p.statements.foldl Statement.set (cfg.draft cache) =
      { routes := p.routes.map RouteEntry.config
        blacklist := p.blacklist.map (·.text)
        maxQps := p.maxQps.value
        routeTokens := p.tokenOf
        maxBodySize := p.maxBodySize.value
        timeoutConnect := p.timeoutConnect.value
        timeoutSend := p.timeoutSend.value
        timeoutRecv := p.timeoutRecv.value
        jwtEnabled := p.jwtEnabled
        jwtSecret := p.jwtSecret.val
        jwtIssuer := p.jwtIssuer.val
        jwtAudience := p.jwtAudience.val
        jwtAlg := p.jwtAlg.val
        cache := cache.setCapacity p.capacity } := by
  simp only [statements, List.foldl_append, foldl_routes, foldl_tokens, foldl_blacklist,
    List.foldl_cons, List.foldl_nil, Statement.set, draft, List.nil_append, Option.or_none]
  rfl

/-- **A profile is loaded as it is written.**  The file that is written for a profile is loaded, and
then the configuration is what the profile states, whatever it was before; the cache of tokens is
empty, and has the default capacity whatever the profile states. -/
theorem loadFromFile_profile (p : Profile) (cfg : GatewayConfig A) (cache : JwtCache)
    (lookup : Bytes → Option A) (path : Bytes) :
    cfg.loadFromFile cache lookup path (some p.text) =
      (true, p.config lookup path, cache.clear) := by
  obtain ⟨r, hr, hexact, hpath⟩ := p.defaultRoute
  have hroutes : p.routes.map (RouteEntry.config (A := A)) ≠ [] := by
    simp [List.ne_nil_of_mem hr]
  have hdefault : (p.routes.map (RouteEntry.config (A := A))).any
      (fun r => !r.exact && r.pathPrefix = ascii "/") = true :=
    List.any_eq_true.mpr ⟨r.config, List.mem_map_of_mem hr, by
      simp [RouteEntry.config, hexact, hpath]⟩
  have hqps : (p.maxQps.value : ℤ) > 0 := by exact_mod_cast p.maxQps.pos
  have hfinish : (p.routes.map (RouteEntry.config (A := A))).map (fun r =>
      { r with
        resolvedTargets := r.targets.filterMap lookup
        requiredToken := (p.tokenOf r.pathPrefix).getD r.requiredToken }) =
      p.routes.map (p.routeConfig lookup) := by
    rw [List.map_map]
    rfl
  simp only [loadFromFile, text, Statement.foldl_fileText, foldl_statements, Draft.hasDefault,
    hdefault, if_neg hroutes, if_true, commit, Draft.finishRoutes, hfinish, if_pos hqps]
  rfl

end Profile

end CoroutineGateway
