import CoroutineGateway.Construction.GatewayConn
import CoroutineGateway.Framework.HttpMessage

/-!
# Where header fields are looked for

The authentication and `read_once` look for a header field in the same way: they search the header
block for the text `Authorization:` or `Content-Length:` and take the rest of that line.  The search
knows nothing of fields.  It finds the text in the request line, in a value and at the end of a
longer name, and it does not find a name that is spelled in another way.

The outcome is the one of HTTP where the first line that has the text is the first field of that
name, or neither is there (`Located`).  `extracted_of_located` says that this is enough, and that in
any other request the outcome depends on what the field says: there is a value of the field for
which something else is extracted.
-/

namespace CoroutineGateway

open Http

variable {h : Head} {name : Bytes} {rest : Bytes}

/-- `line` without the blanks around it, as `val` and `num` have it. -/
def trimmed (line : Bytes) : Bytes := (Text.trim line).getD []

/-- The text behind the first `key` in the header block, up to the end of its line and without the
blanks around it: `val` in `AuthFilter::apply` and `num` in `read_once`. -/
def headerText (key request : Bytes) : Option Bytes :=
  (Seq.afterUntil key crlf (Seq.substr request 0 (Seq.find blankLine request))).map trimmed

/-- `val` without `Bearer ` -/
def withoutBearer (val : Bytes) : Bytes :=
  if (ascii "Bearer ").isPrefixOf val then val.drop (ascii "Bearer ").length else val

/-- The token of the authentication is taken from this text. -/
lemma AuthFilter.token_eq (request : Bytes) :
    AuthFilter.token request = (headerText (ascii "Authorization:") request).map withoutBearer := by
  rw [AuthFilter.token, headerText, Option.map_map]
  rfl

/-- So is the number of bytes `read_once` waits for. -/
lemma GatewayConn.parseContentLength_eq (request : Bytes) :
    GatewayConn.parseContentLength request =
      ((headerText (ascii "Content-Length:") request).map Text.strtol).getD 0 := by
  rw [GatewayConn.parseContentLength, headerText]
  cases Seq.afterUntil (ascii "Content-Length:") crlf _ with
  | none => rfl
  | some line =>
    cases hline : Text.trim line with
    | none => simp [hline, trimmed]; rfl
    | some num => simp [hline, trimmed]

namespace Http.Head

/-- The text that is searched for. -/
def key (name : Bytes) : Bytes := name ++ [58]

/-- What is to be extracted for a name. -/
def value (h : Head) (name : Bytes) : Option Bytes := (h.field name).map fun f => trimmed f.value

/-- The text is first found where the field is, or there is neither. -/
inductive Located (h : Head) (name : Bytes) : Prop
  /-- Neither the text nor the field is there. -/
  | absent (hfield : h.field name = none)
      (hlines : ∀ l ∈ h.lines, Seq.after (key name) l = none) : Located h name
  /-- The first field of the name has it in the spelling that is searched for, and no line before
  has the text. -/
  | own {f : Field} {pre post : List Field} (hfields : h.fields = pre ++ f :: post)
      (hname : f.name = name) (hother : ∀ g ∈ pre, ¬ SameName g.name name)
      (hline : Seq.after (key name) h.requestLine = none)
      (hpre : ∀ g ∈ pre, Seq.after (key name) g.line = none) : Located h name

/-- The field with this value. -/
def withFieldValue (f : Field) (v : Bytes) (hv : IsLine v) : Field :=
  { f with value := v, value_line := hv }

/-- The same message, but for the value of the first field of the name, if there is one. -/
def withValue (h : Head) (name v : Bytes) (hv : IsLine v) : Head :=
  { h with fields := h.fields.replaceF fun f =>
      if SameName f.name name then some (withFieldValue f v hv) else none }

/-! ## The search in a header block -/

/-- What both functions extract. -/
lemma headerText_eq (hname : IsLine name) (rest : Bytes) :
    headerText (key name) (h.text ++ rest) =
      (h.lines.findSome? (Seq.after (key name))).map trimmed := by
  have hkey : IsLine (key name) := isLine_append_cons hname (by decide) (by decide) (by decide)
  have hne : h.lines ≠ [] := List.cons_ne_nil _ _
  obtain ⟨pos, hpos, hlen⟩ := find_blankLine_block (fun _ => h.line_of_mem) hne rest
  have hfind : Seq.find blankLine (h.text ++ rest) = some pos := hpos
  rw [headerText, hfind]
  show (Seq.afterUntil (key name) crlf ((h.text ++ rest).take pos)).map trimmed = _
  rw [text, afterUntil_block hkey (fun _ hl => (h.line_of_mem hl).2) hne rest hlen]

lemma after_own {f : Field} (hname : f.name = name) :
    Seq.after (key name) f.line = some f.value := by
  have hline : f.line = key name ++ f.value := by simp [Field.line, hname, key]
  rw [Seq.after, hline, Seq.find_at_start (List.prefix_append _ _), Option.map_some, Nat.zero_add,
    List.drop_left]

/-- The first field of a name in a list of fields. -/
lemma field_eq_some {f : Field} {pre post : List Field} (hfields : h.fields = pre ++ f :: post)
    (hname : SameName f.name name) (hother : ∀ g ∈ pre, ¬ SameName g.name name) :
    h.field name = some f :=
  List.find?_eq_some_iff_append.mpr ⟨decide_eq_true hname, pre, post, hfields, fun g hg => by
    simpa using hother g hg⟩

/-- The text is found where the field is. -/
lemma Located.extracted (hlocated : h.Located name) (hname : IsLine name) (rest : Bytes) :
    headerText (key name) (h.text ++ rest) = h.value name := by
  rw [headerText_eq hname]
  cases hlocated with
  | absent hfield hlines =>
    rw [List.findSome?_eq_none_iff.mpr hlines, value, hfield]
    rfl
  | @own f pre post hfields hname' hother hline hpre =>
    have hfield := field_eq_some hfields (congrArg (List.map lower) hname') hother
    have hlines : h.lines =
        (h.requestLine :: pre.map Field.line) ++ f.line :: post.map Field.line := by
      simp [lines, hfields]
    have hfirst : ∀ l ∈ h.requestLine :: pre.map Field.line, Seq.after (key name) l = none := by
      intro l hl
      rcases List.mem_cons.mp hl with rfl | hl
      · exact hline
      · obtain ⟨g, hg, rfl⟩ := List.mem_map.mp hl
        exact hpre g hg
    rw [List.findSome?_eq_some_iff.mpr ⟨_, _, _, hlines, after_own hname', hfirst⟩, value, hfield]
    rfl

/-! ## Other values of the field -/

section WithValue

variable {v : Bytes} {hv : IsLine v}

lemma fields_withValue {f : Field} {pre post : List Field} (hfields : h.fields = pre ++ f :: post)
    (hname : SameName f.name name) (hother : ∀ g ∈ pre, ¬ SameName g.name name) :
    (h.withValue name v hv).fields = pre ++ withFieldValue f v hv :: post := by
  change h.fields.replaceF _ = _
  rw [hfields]
  clear hfields
  induction pre with
  | nil => exact List.replaceF_cons_of_some _ (if_pos hname)
  | cons g pre ih =>
    have hskip : (if SameName g.name name then some (withFieldValue g v hv) else none) = none :=
      if_neg (hother g List.mem_cons_self)
    rw [List.cons_append, List.replaceF_cons_of_none _ hskip,
      ih fun g' hg' => hother g' (List.mem_cons_of_mem _ hg')]
    rfl

lemma withValue_of_absent (hfield : h.field name = none) : h.withValue name v hv = h := by
  have hfields : (h.withValue name v hv).fields = h.fields := by
    refine List.replaceF_of_forall_none fun g hg => if_neg ?_
    simpa using List.find?_eq_none.mp hfield g hg
  cases h
  simp only [withValue, mk.injEq, true_and]
  exact hfields

/-- Where the field is does not depend on its value. -/
lemma Located.withValue (hlocated : h.Located name) : (h.withValue name v hv).Located name := by
  cases hlocated with
  | absent hfield hlines =>
    rw [withValue_of_absent hfield]
    exact .absent hfield hlines
  | own hfields hname hother hline hpre =>
    exact .own (fields_withValue hfields (congrArg (List.map lower) hname) hother) hname hother
      hline hpre

/-- A name that is spelled in another way is not found in its field. -/
lemma after_other {f : Field} (hsame : SameName f.name name) (hne : f.name ≠ name)
    (hcolon : (58 : UInt8) ∉ v) : Seq.after (key name) (withFieldValue f v hv).line = none := by
  have hlength : f.name.length = name.length := by
    have hmap := congrArg List.length hsame
    rwa [List.length_map, List.length_map] at hmap
  rw [Seq.after, Option.map_eq_none_iff, Seq.find_eq_none_iff]
  rintro i - ⟨t, ht⟩
  -- the colon that ends the key is the only one of the line
  have hcut : f.name ++ 58 :: v = ((withFieldValue f v hv).line.take i ++ name) ++ 58 :: t := by
    have hline := List.take_append_drop i (withFieldValue f v hv).line
    rw [← ht, key] at hline
    simpa [Field.line, withFieldValue] using hline.symm
  have hwhole : ∀ a : Bytes, f.name = a ++ name → False := by
    intro a ha
    have hnil : a = [] := by
      have hlen := congrArg List.length ha
      rw [List.length_append] at hlen
      exact List.length_eq_zero_iff.mp (by omega)
    exact hne (by rw [ha, hnil, List.nil_append])
  rcases List.append_eq_append_iff.mp hcut with ⟨a, ha, hv'⟩ | ⟨a, ha, -⟩
  · cases a with
    | nil => exact hwhole _ (by rw [ha, List.append_nil])
    | cons c a =>
      have htail := (List.cons.inj hv').2
      exact hcolon (by rw [htail]; simp)
  · have hlen := congrArg List.length ha
    simp only [List.length_append] at hlen
    have hnil : a = [] := List.length_eq_zero_iff.mp (by omega)
    subst hnil
    exact hwhole _ (by rw [ha, List.append_nil])

lemma lines_withValue {f : Field} {pre post : List Field} (hfields : h.fields = pre ++ f :: post)
    (hname : SameName f.name name) (hother : ∀ g ∈ pre, ¬ SameName g.name name) :
    (h.withValue name v hv).lines = (h.requestLine :: pre.map Field.line) ++
      (withFieldValue f v hv).line :: post.map Field.line := by
  have hnew : (h.withValue name v hv).fields = pre ++ withFieldValue f v hv :: post :=
    fields_withValue hfields hname hother
  have hline : (h.withValue name v hv).requestLine = h.requestLine := rfl
  simp [lines, hnew, hline]

end WithValue

/-- **Where the field is found.**  The text that is extracted is the value of the first field of the
name, whatever that value is, exactly if it is found where the field is. -/
theorem located_iff (hname : IsLine name) (rest : Bytes) :
    h.Located name ↔ ∀ v (hv : IsLine v),
      headerText (key name) ((h.withValue name v hv).text ++ rest) =
        (h.withValue name v hv).value name := by
  refine ⟨fun hlocated v hv => hlocated.withValue.extracted hname rest, fun hall => ?_⟩
  cases hfield : h.field name with
  | none =>
    have hnone := hall [] (by decide)
    rw [withValue_of_absent hfield, headerText_eq hname, value, hfield] at hnone
    exact .absent hfield (List.findSome?_eq_none_iff.mp (Option.map_eq_none_iff.mp hnone))
  | some f =>
    obtain ⟨hsame, pre, post, hfields, hpre⟩ := List.find?_eq_some_iff_append.mp hfield
    have hsame : SameName f.name name := of_decide_eq_true hsame
    have hother : ∀ g ∈ pre, ¬ SameName g.name name := fun g hg => by simpa using hpre g hg
    -- were the field passed over, then whatever its value is
    have hpassed : ∀ x, (∀ v (hv : IsLine v), (58 : UInt8) ∉ v →
        (h.withValue name v hv).lines.findSome? (Seq.after (key name)) = x) → False := by
      intro x hx
      have hread : ∀ v (hv : IsLine v), (58 : UInt8) ∉ v → x.map trimmed = some (trimmed v) := by
        intro v hv hcolon
        have hv' := hall v hv
        have hnew : (h.withValue name v hv).field name = some (withFieldValue f v hv) :=
          field_eq_some (fields_withValue hfields hsame hother) hsame hother
        rw [headerText_eq hname, hx v hv hcolon, value, hnew] at hv'
        exact hv'
      have hnil := hread [] (by decide) (by decide)
      rw [hread [97] (by decide) (by decide)] at hnil
      exact absurd hnil (by decide)
    cases hfound : (h.requestLine :: pre.map Field.line).findSome? (Seq.after (key name)) with
    | some tail =>
      refine (hpassed (some tail) fun v hv _ => ?_).elim
      rw [lines_withValue hfields hsame hother, List.findSome?_append, hfound]
      rfl
    | none =>
      by_cases hspelled : f.name = name
      · have hlines := List.findSome?_eq_none_iff.mp hfound
        exact .own hfields hspelled hother (hlines _ List.mem_cons_self) fun g hg =>
          hlines _ (List.mem_cons_of_mem _ (List.mem_map_of_mem hg))
      · refine (hpassed ((post.map Field.line).findSome? (Seq.after (key name)))
          fun v hv hcolon => ?_).elim
        rw [lines_withValue hfields hsame hother, List.findSome?_append, hfound,
          List.findSome?_cons, after_other hsame hspelled hcolon]
        rfl

/-! ## The two headers -/

/-- The values the two functions extract are those of the fields. -/
def Extracted (h : Head) (rest : Bytes) : Prop :=
  headerText (ascii "Authorization:") (h.text ++ rest) = h.value (ascii "Authorization") ∧
    headerText (ascii "Content-Length:") (h.text ++ rest) = h.value (ascii "Content-Length")

/-- **What is extracted.**  The token and the length come from the texts that are found.  These are
the values of the fields if both are found where the fields are; and where one is not, then there is
a value of its field with which it is read wrongly. -/
theorem extracted_of_located (h : Head) (rest : Bytes) :
    AuthFilter.token (h.text ++ rest) =
        (headerText (ascii "Authorization:") (h.text ++ rest)).map withoutBearer ∧
      GatewayConn.parseContentLength (h.text ++ rest) =
        ((headerText (ascii "Content-Length:") (h.text ++ rest)).map Text.strtol).getD 0 ∧
      (h.Located (ascii "Authorization") ∧ h.Located (ascii "Content-Length") →
        Extracted h rest) ∧
      ∀ name ∈ [ascii "Authorization", ascii "Content-Length"], h.Located name ↔
        ∀ v (hv : IsLine v), headerText (key name) ((h.withValue name v hv).text ++ rest) =
          (h.withValue name v hv).value name := by
  have hauth : ascii "Authorization:" = key (ascii "Authorization") := by decide
  have hlength : ascii "Content-Length:" = key (ascii "Content-Length") := by decide
  refine ⟨AuthFilter.token_eq _, GatewayConn.parseContentLength_eq _, fun hlocated => ?_,
    fun name hname => located_iff ?_ rest⟩
  · rw [Extracted, hauth, hlength]
    exact ⟨hlocated.1.extracted (by decide) rest, hlocated.2.extracted (by decide) rest⟩
  · rcases List.mem_cons.mp hname with rfl | hname
    · decide
    · obtain rfl := List.mem_singleton.mp hname
      decide

/-- A request with both fields, the second text also in a value behind its field. -/
def userHead : Head where
  requestLine := ascii "POST /a HTTP/1.1"
  fields :=
    [⟨ascii "Content-Length", ascii " 5", by decide, by decide, by decide⟩,
      ⟨ascii "Authorization", ascii " Bearer t", by decide, by decide, by decide⟩,
      ⟨ascii "X-Note", ascii " Content-Length:7", by decide, by decide, by decide⟩]
  requestLine_line := by decide
  requestLine_ne := by decide

theorem extracted_userHead : Extracted userHead [] ∧
    userHead.value (ascii "Authorization") = some (ascii "Bearer t") ∧
    userHead.value (ascii "Content-Length") = some (ascii "5") := by
  refine ⟨(extracted_of_located userHead []).2.2.1 ⟨?_, ?_⟩, by decide +kernel, by decide +kernel⟩
  · refine @Located.own userHead (ascii "Authorization") _
      [⟨ascii "Content-Length", ascii " 5", by decide, by decide, by decide⟩] _ rfl rfl ?_
      (by decide +kernel) ?_
    · simp only [List.mem_singleton, forall_eq]
      decide
    · simp only [List.mem_singleton, forall_eq]
      decide +kernel
  · exact @Located.own userHead (ascii "Content-Length") _ [] _ rfl rfl (by simp)
      (by decide +kernel) (by simp)

/-- A request with a longer name before the field that counts, and a length in lower case. -/
def guestHead : Head where
  requestLine := ascii "POST /a HTTP/1.1"
  fields :=
    [⟨ascii "X-Authorization", ascii " guest", by decide, by decide, by decide⟩,
      ⟨ascii "Authorization", ascii " Bearer t", by decide, by decide, by decide⟩,
      ⟨ascii "content-length", ascii " 5", by decide, by decide, by decide⟩]
  requestLine_line := by decide
  requestLine_ne := by decide

/-- The wrong token is read, and the length is not. -/
theorem guestHead_misread : ¬ ∀ (h : Head) (rest : Bytes), Extracted h rest := by
  intro hall
  have hread : headerText (ascii "Authorization:") (guestHead.text ++ []) =
      some (ascii "guest") := by
    decide +kernel
  have hvalue : guestHead.value (ascii "Authorization") = some (ascii "Bearer t") := by
    decide +kernel
  have h := (hall guestHead []).1
  rw [hread, hvalue] at h
  exact absurd h (by decide)

end Http.Head

end CoroutineGateway
