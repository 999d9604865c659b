import CoroutineGateway.Framework.FlatJson
import CoroutineGateway.Properties.TokenSigning

/-!
# Where the claims of a token are looked for

`extract_number` and `extract_string` look for a quoted key in the payload, then for a colon, and
then for digits or for two quotes.  The key is found where it is first shown, which can be the value
of another member; the colon that follows is then the one of the next member, or stands in its name.
Behind the right colon there are three more traps: a line break in front of the digits hides them,
and `extract_string` leaves a number behind and takes the name of the next member.

The outcome is right where the first colon behind the first place is the one of the member of the
key, or there is neither such a colon nor such a member (`NumberLocated`, `StringLocated`).
`extract_of_located` says that this is enough, for every flat object and every key, and that where
it fails the outcome depends on the value: the member has a value for which something else is read.
A token whose issuer is named `exp` has no expiry (`issuerExp_unread`).
-/

namespace CoroutineGateway

namespace FlatJson

open Jwt

/-- Nothing but what `extract_number` skips stands between the colon and the value. -/
def Member.Tight (m : Member) : Prop := ∀ c ∈ m.afterColon, c ∈ Text.blanks

instance (m : Member) : Decidable m.Tight := inferInstanceAs (Decidable (∀ _ ∈ _, _))

/-- What follows the colon of a member. -/
def Member.behindColon (m : Member) (rest : Bytes) (post : List Member) : Bytes :=
  m.afterColon ++ (m.value.text ++ (m.after ++ closing rest post))

/-- What stands in front of the colon of a member. -/
def Member.nameText (m : Member) : Bytes :=
  m.before ++ 34 :: (m.spelling ++ 34 :: m.beforeColon)

/-- The key is shown in quotes, and there is no colon behind the first place. -/
def Leads (key text : Bytes) : Prop := ∃ t, Seq.after (quoted key) text = some t ∧ 58 ∉ t

/-- The member with another value. -/
def Member.withValue (m : Member) (v : Value) (hv : v.Simple) : Member :=
  { m with value := v, value_simple := hv }

/-- The member of the key has another value. -/
def setValue (key : Bytes) (v : Value) (hv : v.Simple) (m : Member) : Member :=
  if m.name = key then m.withValue v hv else m

lemma name_setValue (key : Bytes) (v : Value) (hv : v.Simple) (m : Member) :
    (setValue key v hv m).name = m.name := by
  unfold setValue
  split <;> rfl

namespace Object

lemma distinct_setValue (o : Object) (key : Bytes) (v : Value) (hv : v.Simple) :
    ((o.members.map (setValue key v hv)).map Member.name).Nodup := by
  have hnames : Member.name ∘ setValue key v hv = Member.name :=
    funext (name_setValue key v hv)
  rw [List.map_map, hnames]
  exact o.distinct

/-- The same object, but for the value of the member of a key. -/
def withValue (o : Object) (key : Bytes) (v : Value) (hv : v.Simple) : Object :=
  { o with
    members := o.members.map (setValue key v hv)
    distinct := o.distinct_setValue key v hv }

/-- The object as it is written, up to the colon of a member; `pre` are the members before it. -/
def front (o : Object) (pre : List Member) (m : Member) : Bytes :=
  o.before ++ 123 :: (o.inside ++ (pre.flatMap (fun p => p.text ++ [44]) ++ m.nameText))

/-- When `extract_number` comes to the member of the key. -/
inductive NumberLocated (o : Object) (key : Bytes) : Prop
  /-- There is no such integer, and nowhere a colon behind the key. -/
  | absent (hnone : o.integer key = none)
      (hcolon : ∀ t ∈ Seq.after (quoted key) o.text, 58 ∉ t) : NumberLocated o key
  /-- The first colon is the one of the member, and an integer stands close behind it. -/
  | own {pre post : List Member} {m : Member} (hmembers : o.members = pre ++ m :: post)
      (hname : m.name = key) (hleads : Leads key (o.front pre m))
      (hvalue : m.value.integer? = none ∨ m.Tight) : NumberLocated o key

/-- When `extract_string` comes to the member of the key. -/
inductive StringLocated (o : Object) (key : Bytes) : Prop
  /-- There is no such string, and nowhere a colon behind the key. -/
  | absent (hnone : o.string key = none)
      (hcolon : ∀ t ∈ Seq.after (quoted key) o.text, 58 ∉ t) : StringLocated o key
  /-- The first colon is the one of the member, and a string stands behind it, or no member. -/
  | own {pre post : List Member} {m : Member} (hmembers : o.members = pre ++ m :: post)
      (hname : m.name = key) (hleads : Leads key (o.front pre m))
      (hvalue : m.value.string? ≠ none ∨ post = []) : StringLocated o key

end Object

variable {key rest l s t : Bytes} {pre post ms : List Member} {m m' : Member} {o : Object}

/-! ## The colon -/

lemma Member.text_append (m : Member) (rest : Bytes) :
    m.text ++ rest = m.nameText ++ 58 :: (m.afterColon ++ (m.value.text ++ (m.after ++ rest))) := by
  simp [Member.text, Member.nameText]

lemma closing_of_ne_nil (h : ms ≠ []) : closing rest ms = 44 :: membersText rest ms := by
  cases ms with
  | nil => exact absurd rfl h
  | cons m ms => rfl

lemma membersText_append (rest : Bytes) (pre : List Member) (m : Member) (post : List Member) :
    membersText rest (pre ++ m :: post) =
      pre.flatMap (fun p => p.text ++ [44]) ++ (m.text ++ closing rest post) := by
  induction pre with
  | nil => rfl
  | cons p pre ih =>
    change p.text ++ closing rest (pre ++ m :: post) = _
    rw [closing_of_ne_nil (by simp), ih]
    simp

/-- The object as it is written, from the colon of a member on. -/
lemma Object.text_eq (hmembers : o.members = pre ++ m :: post) :
    o.text = o.front pre m ++ 58 :: m.behindColon o.after post := by
  rw [Object.text, hmembers, membersText_append, Member.text_append, Object.front,
    Member.behindColon]
  simp

/-- Both functions go on behind the colon of the member. -/
lemma Object.memberText_of_leads (hmembers : o.members = pre ++ m :: post)
    (hleads : Leads key (o.front pre m)) :
    memberText o.text key = some (m.behindColon o.after post) := by
  obtain ⟨t, ht, hcolon⟩ := hleads
  rw [memberText, Object.text_eq hmembers, Seq.after_append_left _ ht, Option.bind_some,
    Seq.after_symbol hcolon]

lemma memberText_of_notMem (hcolon : ∀ t ∈ Seq.after (quoted key) s, 58 ∉ t) :
    memberText s key = none := by
  rw [memberText, Option.bind_eq_none_iff]
  intro t ht
  rw [Seq.after, Seq.find_of_notMem (hcolon t ht)]
  rfl

/-! ## What is read behind a colon -/

/-- A symbol that is neither a blank nor a digit ends a number. -/
lemma numeral_append {c : UInt8} (hc : c ∉ Text.blanks) (hdigit : Text.isDigit c = false) :
    numeral (t ++ c :: s) = numeral t := by
  have hskip : (t ++ c :: s).dropWhile (· ∈ Text.blanks) =
      t.dropWhile (· ∈ Text.blanks) ++ c :: s := by
    induction t with
    | nil => simp [hc]
    | cons x t ih => by_cases hx : x ∈ Text.blanks <;> simp [hx, ih]
  have htake : ∀ u : Bytes, (u ++ c :: s).takeWhile Text.isDigit = u.takeWhile Text.isDigit := by
    intro u
    induction u with
    | nil => simp [hdigit]
    | cons x u ih => by_cases hx : Text.isDigit x <;> simp [hx, ih]
  simp only [numeral, hskip, htake]

lemma isDigit_of_white {c : UInt8} (h : c ∈ whitespace) : Text.isDigit c = false := by
  have hall : whitespace.all (fun b => !Text.isDigit b) = true := rfl
  simpa using List.all_eq_true.mp hall c h

/-- White space is no number. -/
lemma numeral_of_white (h : ∀ c ∈ l, c ∈ whitespace) : numeral l = none := by
  have hnil : (l.dropWhile (· ∈ Text.blanks)).takeWhile Text.isDigit = [] := by
    cases hrest : l.dropWhile (· ∈ Text.blanks) with
    | nil => rfl
    | cons c u =>
      have hc : c ∈ l := (List.dropWhile_suffix _).subset (hrest ▸ List.mem_cons_self)
      rw [List.takeWhile_cons_of_neg (by simp [isDigit_of_white (h c hc)])]
  simp only [numeral, hnil, if_true]

/-- Blanks, an integer and a symbol that ends it. -/
lemma numeral_toDecimal {n : ℕ} {c : UInt8} (hl : ∀ b ∈ l, b ∈ Text.blanks) (hn : n < 2 ^ 63)
    (hc : Text.isDigit c = false) (t : Bytes) :
    numeral (l ++ (Text.toDecimal n ++ c :: t)) = some (n : ℤ) := by
  have hne := Text.toDecimal_ne_nil n
  have hall := Text.isDigit_toDecimal n
  rw [numeral_digits hl hne hall hc,
    Text.strtol_digits hne hall (by rwa [Text.decimalValue_toDecimal]), Text.decimalValue_toDecimal]

lemma exists_cons_closing (m : Member) (rest : Bytes) (ms : List Member) :
    ∃ c u, m.after ++ closing rest ms = c :: u ∧ Text.isDigit c = false := by
  cases hafter : m.after with
  | nil =>
    cases ms with
    | nil => exact ⟨125, rest, rfl, rfl⟩
    | cons m' ms => exact ⟨44, _, rfl, rfl⟩
  | cons c u =>
    have hc : c ∈ m.after := hafter ▸ List.mem_cons_self
    exact ⟨c, _, rfl, isDigit_of_white (m.after_white c hc)⟩

/-- Behind the colon of a member `extract_number` reads its integer, if nothing but blanks stands
in front of it. -/
lemma Member.numeral_behindColon (m : Member) (rest : Bytes) (post : List Member) :
    numeral (m.behindColon rest post) = if m.Tight then m.value.integer? else none := by
  unfold Member.behindColon
  cases hvalue : m.value with
  | string s =>
    have hblank : (34 : UInt8) ∉ Text.blanks := by decide
    have hread := numeral_append (t := m.afterColon)
      (s := s ++ 34 :: (m.after ++ closing rest post)) hblank rfl
    simp only [Value.text, Value.integer?, ite_self, List.cons_append, List.append_assoc,
      List.nil_append]
    rw [hread, numeral_of_white m.afterColon_white]
  | integer n =>
    by_cases htight : m.Tight
    · obtain ⟨c, u, hcu, hc⟩ := exists_cons_closing m rest post
      have hlt : n < 2 ^ 63 := by
        have hsimple := m.value_simple
        rwa [hvalue] at hsimple
      rw [if_pos htight, Value.text, hcu, Value.integer?, numeral_toDecimal htight hlt hc]
    · -- the first symbol that is not skipped is a line break
      rw [if_neg htight]
      obtain ⟨c, hc, hblank⟩ : ∃ c ∈ m.afterColon, c ∉ Text.blanks := by
        simpa [Member.Tight] using htight
      obtain ⟨u, v, huv⟩ := List.append_of_mem hc
      have hdigit := isDigit_of_white (m.afterColon_white c hc)
      have hu : ∀ b ∈ u, b ∈ whitespace := fun b hb => m.afterColon_white b (by simp [huv, hb])
      rw [huv, List.append_assoc, List.cons_append, numeral_append hblank hdigit,
        numeral_of_white hu]

lemma quotedText_eq (hl : 34 ∉ l) (hs : 34 ∉ s) :
    quotedText (l ++ 34 :: (s ++ 34 :: t)) = some s := by
  rw [quotedText, Seq.after_symbol hl, Option.bind_some, Seq.find_symbol hs, Option.map_some,
    List.take_left]

lemma quotedText_of_notMem (hl : 34 ∉ l) : quotedText l = none := by
  rw [quotedText, Seq.after, Seq.find_of_notMem hl]
  rfl

lemma notMem_toDecimal {c : UInt8} (hc : Text.isDigit c = false) (n : ℕ) :
    c ∉ Text.toDecimal n := by
  intro hmem
  have := Text.isDigit_toDecimal n c hmem
  rw [hc] at this
  cases this

/-- Behind the colon of a string `extract_string` reads it. -/
lemma Member.quotedText_string (hvalue : m.value = .string s) (rest : Bytes) (post : List Member) :
    quotedText (m.behindColon rest post) = some s := by
  have hcolon : 34 ∉ m.afterColon := not_mem_of_white (by decide) m.afterColon_white
  have hread := quotedText_eq (t := m.after ++ closing rest post) hcolon
    (m.plain_of_string hvalue).1
  simpa [Member.behindColon, hvalue, Value.text] using hread

/-- Behind the colon of a number it goes on, to the end of the object … -/
lemma Member.quotedText_last {n : ℕ} (hvalue : m.value = .integer n) (hrest : 34 ∉ rest) :
    quotedText (m.behindColon rest []) = none := by
  refine quotedText_of_notMem ?_
  simp only [Member.behindColon, hvalue, Value.text, closing, List.mem_append, List.mem_cons,
    not_or]
  exact ⟨not_mem_of_white (by decide) m.afterColon_white, notMem_toDecimal rfl n,
    not_mem_of_white (by decide) m.after_white, by decide, hrest⟩

/-- … or into the name of the next member. -/
lemma Member.quotedText_next {n : ℕ} (hvalue : m.value = .integer n) (rest : Bytes)
    (m' : Member) (ms : List Member) : quotedText (m.behindColon rest (m' :: ms)) ≠ none := by
  have hfront : 34 ∉ m.afterColon ++ (Text.toDecimal n ++ (m.after ++ 44 :: m'.before)) := by
    simp only [List.mem_append, List.mem_cons, not_or]
    exact ⟨not_mem_of_white (by decide) m.afterColon_white, notMem_toDecimal rfl n,
      not_mem_of_white (by decide) m.after_white, by decide,
      not_mem_of_white (by decide) m'.before_white⟩
  obtain ⟨u, v, huv, hu⟩ := List.eq_append_cons_of_mem
    (show (34 : UInt8) ∈ m'.spelling ++ 34 :: m'.beforeColon by simp)
  have htext : m.behindColon rest (m' :: ms) =
      (m.afterColon ++ (Text.toDecimal n ++ (m.after ++ 44 :: m'.before))) ++
        34 :: (u ++ 34 :: (v ++
          58 :: (m'.afterColon ++ (m'.value.text ++ (m'.after ++ closing rest ms))))) := by
    have hname : m'.nameText = m'.before ++ 34 :: (u ++ 34 :: v) := by rw [Member.nameText, huv]
    rw [Member.behindColon, closing, Member.text_append, hname, hvalue, Value.text]
    simp
  rw [htext, quotedText_eq hfront hu]
  exact Option.some_ne_none u

/-! ## The member of the key -/

lemma Object.rest_white (o : Object) {c : UInt8} (hc : c ∉ whitespace) : c ∉ o.after :=
  not_mem_of_white hc o.after_white

lemma Object.value_of_members (hmembers : o.members = pre ++ m :: post) (hname : m.name = key) :
    o.value key = some m.value :=
  hname ▸ Object.value_of_mem (hmembers ▸ List.mem_append_right _ List.mem_cons_self)

/-- `extract_number` reads the integer member of the key, or fails where there is none. -/
lemma Object.NumberLocated.extracted (h : o.NumberLocated key) :
    extractNumber o.text key = o.integer key := by
  rw [extractNumber_eq]
  cases h with
  | absent hnone hcolon => rw [memberText_of_notMem hcolon, hnone]; rfl
  | @own pre post m hmembers hname hleads hvalue =>
    rw [Object.memberText_of_leads hmembers hleads, Option.bind_some, m.numeral_behindColon,
      Object.integer, Object.value_of_members hmembers hname, Option.bind_some]
    rcases hvalue with hvalue | htight
    · rw [hvalue, ite_self]
    · exact if_pos htight

/-- `extract_string` reads the string member of the key, or fails where there is none. -/
lemma Object.StringLocated.extracted (h : o.StringLocated key) :
    extractString o.text key = o.string key := by
  rw [extractString_eq]
  cases h with
  | absent hnone hcolon => rw [memberText_of_notMem hcolon, hnone]; rfl
  | @own pre post m hmembers hname hleads hvalue =>
    rw [Object.memberText_of_leads hmembers hleads, Option.bind_some, Object.string,
      Object.value_of_members hmembers hname, Option.bind_some]
    cases hm : m.value with
    | string s => exact m.quotedText_string hm _ _
    | integer n =>
      obtain rfl : post = [] := hvalue.resolve_left (fun h => h (by rw [hm]; rfl))
      exact m.quotedText_last hm (o.rest_white (by decide))

/-! ## Other values of the member -/

section WithValue

variable {v : Value} {hv : v.Simple}

/-- The other members keep their values. -/
lemma map_setValue (h : ∀ p ∈ ms, p.name ≠ key) : ms.map (setValue key v hv) = ms :=
  (List.map_congr_left fun p hp => if_neg (h p hp)).trans (List.map_id ms)

lemma Object.members_withValue (hmembers : o.members = pre ++ m :: post) (hname : m.name = key) :
    (o.withValue key v hv).members = pre ++ m.withValue v hv :: post := by
  have hdistinct := o.distinct
  rw [hmembers, List.map_append, List.map_cons, hname] at hdistinct
  obtain ⟨-, hpost, hcross⟩ := List.nodup_append.mp hdistinct
  have hpre : ∀ p ∈ pre, p.name ≠ key := fun p hp =>
    hcross p.name (List.mem_map_of_mem hp) key List.mem_cons_self
  have hafter : ∀ p ∈ post, p.name ≠ key := fun p hp heq =>
    (List.nodup_cons.mp hpost).1 (heq ▸ List.mem_map_of_mem hp)
  have hself : setValue key v hv m = m.withValue v hv := if_pos hname
  change o.members.map (setValue key v hv) = _
  rw [hmembers, List.map_append, List.map_cons, map_setValue hpre, map_setValue hafter, hself]

/-- The object with the other value, from the colon of the member on. -/
lemma Object.text_withValue (hmembers : o.members = pre ++ m :: post) (hname : m.name = key) :
    (o.withValue key v hv).text =
      o.front pre m ++ 58 :: (m.withValue v hv).behindColon o.after post :=
  Object.text_eq (Object.members_withValue hmembers hname)

lemma Object.value_withValue (hmembers : o.members = pre ++ m :: post) (hname : m.name = key) :
    (o.withValue key v hv).value key = some v :=
  Object.value_of_members (Object.members_withValue hmembers hname) hname

lemma Object.memberText_withValue (hmembers : o.members = pre ++ m :: post) (hname : m.name = key)
    (hleads : Leads key (o.front pre m)) :
    memberText (o.withValue key v hv).text key =
      some ((m.withValue v hv).behindColon o.after post) :=
  Object.memberText_of_leads (Object.members_withValue hmembers hname) hleads

/-- A name that is written as the key shows it. -/
lemma Object.after_front (o : Object) (pre : List Member) (hspelled : m.spelling = key) :
    ∃ t, Seq.after (quoted key) (o.front pre m) = some t := by
  cases hfind : Seq.find (quoted key) (o.front pre m) with
  | some i => exact ⟨_, by rw [Seq.after, hfind]; rfl⟩
  | none =>
    have hfront : o.front pre m = (o.before ++ 123 :: (o.inside ++
        (pre.flatMap (fun p => p.text ++ [44]) ++ m.before))) ++ (quoted key ++ m.beforeColon) := by
      simp [Object.front, Member.nameText, hspelled, quoted]
    rw [hfront, Seq.find_eq_none_iff] at hfind
    refine absurd ?_ (hfind _ (List.prefix_append _ _).length_le)
    rw [Seq.OccursAt, List.drop_left]
    exact List.prefix_append _ _

/-- Where the first colon is not the one of the member, the text behind it is the same up to that
colon, whatever the value, and it has a quote. -/
lemma Object.passed_of_not_leads (hmembers : o.members = pre ++ m :: post) (hname : m.name = key)
    (hspelled : m.spelling = key) (hleads : ¬ Leads key (o.front pre m)) :
    ∃ w, 34 ∈ w ∧ ∀ v hv, memberText (o.withValue key v hv).text key =
      some (w ++ 58 :: (m.withValue v hv).behindColon o.after post) := by
  obtain ⟨t, ht⟩ := o.after_front pre hspelled
  have hcolon : 58 ∈ t := by
    by_contra hnone
    exact hleads ⟨t, ht, hnone⟩
  obtain ⟨u, w, rfl, hu⟩ := List.eq_append_cons_of_mem hcolon
  refine ⟨w, ?_, fun v hv => ?_⟩
  · -- without a quote this colon would stand behind the name
    by_contra hquote
    obtain ⟨i, -, hdrop⟩ := Option.map_eq_some_iff.mp ht
    have hsuffix : 58 :: w <:+ o.front pre m :=
      (List.suffix_append u _).trans (hdrop ▸ List.drop_suffix _ _)
    have hquoted : 34 :: m.beforeColon <:+ o.front pre m := by
      refine ⟨o.before ++ 123 :: (o.inside ++ (pre.flatMap (fun p => p.text ++ [44]) ++
        (m.before ++ 34 :: m.spelling))), ?_⟩
      simp [Object.front, Member.nameText]
    rcases List.suffix_or_suffix_of_suffix hsuffix hquoted with h | h
    · rcases List.suffix_cons_iff.mp h with heq | h
      · exact absurd (List.cons.inj heq).1 (by decide)
      · exact not_mem_of_white (by decide) m.beforeColon_white (h.subset List.mem_cons_self)
    · rcases List.mem_cons.mp (h.subset List.mem_cons_self) with heq | hmem
      · exact absurd heq (by decide)
      · exact hquote hmem
  · rw [memberText, Object.text_withValue hmembers hname, Seq.after_append_left _ ht,
      Option.bind_some, List.append_assoc, List.cons_append, Seq.after_symbol hu]

/-- With at most one more quote before the value, what stands between two quotes is the same for
every string. -/
lemma quotedText_passed {w : Bytes} (m : Member) (hquote : 34 ∈ w) (rest : Bytes)
    (post : List Member) : ∃ x, ∀ s hs,
      quotedText (w ++ 58 :: (m.withValue (.string s) hs).behindColon rest post) = some x := by
  obtain ⟨u, w, rfl, hu⟩ := List.eq_append_cons_of_mem hquote
  by_cases hmore : 34 ∈ w
  · obtain ⟨x, w, rfl, hx⟩ := List.eq_append_cons_of_mem hmore
    refine ⟨x, fun s hs => ?_⟩
    have hread := quotedText_eq (s := x)
      (t := w ++ 58 :: (m.withValue (.string s) hs).behindColon rest post) hu hx
    simpa using hread
  · refine ⟨w ++ 58 :: m.afterColon, fun s hs => ?_⟩
    have hx : 34 ∉ w ++ 58 :: m.afterColon := by
      simp only [List.mem_append, List.mem_cons, not_or]
      exact ⟨hmore, by decide, not_mem_of_white (by decide) m.afterColon_white⟩
    have hread := quotedText_eq (t := s ++ 34 :: (m.after ++ closing rest post)) hu hx
    simpa [Member.behindColon, Member.withValue, Value.text] using hread

end WithValue

/-- **Where an integer is found.**  `extract_number` reads the member of the key, whatever its value
is, exactly if it comes to the member. -/
theorem Object.numberLocated_iff (hm : m ∈ o.members) (hname : m.name = key)
    (hspelled : m.spelling = key) :
    (∀ v hv, extractNumber (o.withValue key v hv).text key = v.integer?) ↔
      ∀ v hv, (o.withValue key v hv).NumberLocated key := by
  obtain ⟨pre, post, hmembers⟩ := List.append_of_mem hm
  refine ⟨fun hall => ?_, fun hlocated v hv => ?_⟩
  · have hzero := hall (.integer 0) (by decide)
    have hone := hall (.integer 1) (by decide)
    by_cases hleads : Leads key (o.front pre m)
    · rw [extractNumber_eq, Object.memberText_withValue hmembers hname hleads, Option.bind_some,
        Member.numeral_behindColon] at hzero
      have htight : m.Tight := by
        by_contra hnot
        have hnone : (if m.Tight then (Value.integer 0).integer? else none) =
            (Value.integer 0).integer? := hzero
        rw [if_neg hnot] at hnone
        cases hnone
      exact fun v hv => .own (Object.members_withValue hmembers hname) hname hleads (.inr htight)
    · obtain ⟨w, -, hw⟩ := Object.passed_of_not_leads hmembers hname hspelled hleads
      have hblank : (58 : UInt8) ∉ Text.blanks := by decide
      rw [extractNumber_eq, hw, Option.bind_some, numeral_append hblank rfl] at hzero hone
      rw [hzero] at hone
      cases hone
  · rw [(hlocated v hv).extracted, Object.integer, Object.value_withValue hmembers hname]
    rfl

/-- **Where a string is found.**  The same of `extract_string`. -/
theorem Object.stringLocated_iff (hm : m ∈ o.members) (hname : m.name = key)
    (hspelled : m.spelling = key) :
    (∀ v hv, extractString (o.withValue key v hv).text key = v.string?) ↔
      ∀ v hv, (o.withValue key v hv).StringLocated key := by
  obtain ⟨pre, post, hmembers⟩ := List.append_of_mem hm
  refine ⟨fun hall => ?_, fun hlocated v hv => ?_⟩
  · by_cases hleads : Leads key (o.front pre m)
    · have hlast : post = [] := by
        have hinteger := hall (.integer 0) (by decide)
        rw [extractString_eq, Object.memberText_withValue hmembers hname hleads,
          Option.bind_some] at hinteger
        cases post with
        | nil => rfl
        | cons m' post => exact absurd hinteger (Member.quotedText_next rfl _ m' post)
      exact fun v hv => .own (Object.members_withValue hmembers hname) hname hleads (.inr hlast)
    · obtain ⟨w, hquote, hw⟩ := Object.passed_of_not_leads hmembers hname hspelled hleads
      obtain ⟨x, hx⟩ := quotedText_passed m hquote o.after post
      have hempty := hall (.string []) (by decide)
      have hletter := hall (.string [97]) (by decide)
      rw [extractString_eq, hw, Option.bind_some, hx] at hempty hletter
      rw [hempty] at hletter
      cases hletter
  · rw [(hlocated v hv).extracted, Object.string, Object.value_withValue hmembers hname]
    rfl

/-! ## Tokens -/

/-- A token whose payload is an object. -/
def Carries (ssl : OpenSsl) (token : Bytes) (o : Object) : Prop :=
  ∃ h p s, parts token = some (h, p, s) ∧ ssl.base64Decode (b64urlToB64 p) = o.text

lemma Object.text_ne_nil (o : Object) : o.text ≠ [] := by
  intro h
  have hmem : (123 : UInt8) ∈ o.text := by simp [Object.text]
  rw [h] at hmem
  cases hmem

lemma getExp_of_carries {ssl : OpenSsl} {token : Bytes} (h : Carries ssl token o) :
    getExp ssl token = extractNumber o.text (ascii "exp") := by
  obtain ⟨hd, p, sg, hparts, hdecode⟩ := h
  simp only [getExp, hparts, hdecode, o.text_ne_nil, if_false, Option.bind_eq_bind,
    Option.bind_some]

/-- **Claims are read from their own members** in the objects where each is found.  With that,
`get_exp` returns the expiry of a token, and `verify_hs256` lets a genuine token pass up to it.
Where the member of a key is not found, it has a value with which the key is read wrongly. -/
theorem Object.extract_of_located (o : Object) (key : Bytes) :
    (o.NumberLocated key → extractNumber o.text key = o.integer key) ∧
      (o.StringLocated key → extractString o.text key = o.string key) ∧
      (o.NumberLocated (ascii "exp") → ∀ ssl token, Carries ssl token o →
        getExp ssl token = o.integer (ascii "exp") ∧
        ∀ cfg, Genuine ssl token cfg → ∀ now,
          (accepts ssl now token cfg = true ↔ ∀ e ∈ o.integer (ascii "exp"), now ≤ e)) ∧
      ∀ m ∈ o.members, m.name = key → m.spelling = key →
        ((∀ v hv, extractNumber (o.withValue key v hv).text key = v.integer?) ↔
          ∀ v hv, (o.withValue key v hv).NumberLocated key) ∧
        ((∀ v hv, extractString (o.withValue key v hv).text key = v.string?) ↔
          ∀ v hv, (o.withValue key v hv).StringLocated key) := by
  refine ⟨fun h => h.extracted, fun h => h.extracted, fun h ssl token hcarries => ?_,
    fun m hm hname hspelled => ⟨Object.numberLocated_iff hm hname hspelled,
      Object.stringLocated_iff hm hname hspelled⟩⟩
  have hget : getExp ssl token = o.integer (ascii "exp") := by
    rw [getExp_of_carries hcarries, h.extracted]
  refine ⟨hget, fun cfg hgenuine now => ?_⟩
  rw [accepts_iff, hget, and_iff_right hgenuine]

/-- The payload `{"iss":"gateway","aud":"web","exp":1700000300}`. -/
def gatewayPayload : Object where
  before := []
  inside := []
  members := [⟨[], ascii "iss", ascii "iss", [], [], .string (ascii "gateway"), [], by decide,
      by decide, List.forall_mem_nil _⟩,
    ⟨[], ascii "aud", ascii "aud", [], [], .string (ascii "web"), [], by decide, by decide,
      List.forall_mem_nil _⟩,
    ⟨[], ascii "exp", ascii "exp", [], [], .integer 1700000300, [], by decide, by decide,
      List.forall_mem_nil _⟩]
  after := []
  white := List.forall_mem_nil _
  distinct := by decide

lemma gatewayPayload_exp : gatewayPayload.NumberLocated (ascii "exp") := by
  have hleads : Leads (ascii "exp") (gatewayPayload.front (gatewayPayload.members.take 2)
      (gatewayPayload.members.get ⟨2, by decide⟩)) := ⟨[], by decide +kernel, by decide⟩
  exact @Object.NumberLocated.own _ _ _ [] _ rfl rfl hleads (.inr (List.forall_mem_nil _))

lemma gatewayPayload_iss : gatewayPayload.StringLocated (ascii "iss") := by
  have hleads : Leads (ascii "iss") (gatewayPayload.front []
      (gatewayPayload.members.get ⟨0, by decide⟩)) := ⟨[], by decide +kernel, by decide⟩
  exact @Object.StringLocated.own _ _ _ (gatewayPayload.members.drop 1) _ rfl rfl hleads
    (.inl (by decide))

/-- A token for the issuer `gateway` and the audience `web` is accepted up to its expiry. -/
theorem gatewayPayload_located :
    let token := signHs256 signingSsl ⟨ascii "secret", ascii "gateway", ascii "web"⟩ 1700000300
    extractString gatewayPayload.text (ascii "iss") = some (ascii "gateway") ∧
      getExp signingSsl token = some 1700000300 ∧
      ∀ now, accepts signingSsl now token ⟨ascii "secret", ascii "gateway", []⟩ = true ↔
        now ≤ 1700000300 := by
  have hcarries : Carries signingSsl
      (signHs256 signingSsl ⟨ascii "secret", ascii "gateway", ascii "web"⟩ 1700000300)
      gatewayPayload := by
    refine ⟨_, _, _, parts_signHs256 signingSsl_standard _ _, ?_⟩
    rw [decode_part signingSsl_standard (payloadOf_ne_nil _ _)]
    decide +kernel
  have hgenuine : Genuine signingSsl
      (signHs256 signingSsl ⟨ascii "secret", ascii "gateway", ascii "web"⟩ 1700000300)
      ⟨ascii "secret", ascii "gateway", []⟩ :=
    (genuine_signHs256_iff signingSsl_standard (by decide) (by decide)).mpr
      ⟨rfl, .inr rfl, .inl rfl⟩
  obtain ⟨-, hissuer, hexp, -⟩ := gatewayPayload.extract_of_located (ascii "iss")
  obtain ⟨hget, haccepts⟩ := hexp gatewayPayload_exp _ _ hcarries
  refine ⟨hissuer gatewayPayload_iss, hget, fun now => ?_⟩
  rw [haccepts _ hgenuine now]
  exact ⟨fun h => h _ rfl, fun h e he => by cases he; exact h⟩

/-- The payload `{"iss":"exp","aud":"x","exp":1}`. -/
def issuerExp : Object where
  before := []
  inside := []
  members := [⟨[], ascii "iss", ascii "iss", [], [], .string (ascii "exp"), [], by decide,
      by decide, List.forall_mem_nil _⟩,
    ⟨[], ascii "aud", ascii "aud", [], [], .string (ascii "x"), [], by decide, by decide,
      List.forall_mem_nil _⟩,
    ⟨[], ascii "exp", ascii "exp", [], [], .integer 1, [], by decide, by decide,
      List.forall_mem_nil _⟩]
  after := []
  white := List.forall_mem_nil _
  distinct := by decide

/-- The expiry of the payload with the issuer `exp` is not found: the name is first shown as a
value, and behind the next colon stands no number. -/
theorem issuerExp_unread :
    issuerExp.integer (ascii "exp") = some 1 ∧
      extractNumber issuerExp.text (ascii "exp") = none := by
  decide +kernel

end FlatJson

end CoroutineGateway
