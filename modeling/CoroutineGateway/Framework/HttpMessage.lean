import CoroutineGateway.Framework.Text

/-!
# HTTP/1.1 messages

The messages themselves, as structures whose fields carry their well-formedness, and the bytes
they are sent as: a request line, header fields and an empty line (`Head`), and a body whose length
is the one a `Content-Length` field announces (`Request`, `Response`).  Nothing here says how a
program reads a message.

* `find_blankLine_block` — the first empty line of a stream that starts with a header block is the
  one that ends it.
* `afterUntil_block` — what a program finds that looks for a key in the header block as a mere text:
  the rest of the first line that contains the key, be it the field of that name, a field whose
  name ends like it, a value, or the request line.
* `Response.text_append_inj` — whatever follows a response, its bytes are those of no other one.
-/

namespace CoroutineGateway

namespace Http

/-- A line of a message has no line end in it. -/
def IsLine (l : Bytes) : Prop := cr ∉ l ∧ lf ∉ l

instance (l : Bytes) : Decidable (IsLine l) := inferInstanceAs (Decidable (_ ∧ _))

/-- `Content-Length` -/
def contentLength : Bytes := ascii "Content-Length"

/-- The value of a `Content-Length` field that announces `n` bytes. -/
def Announces (value : Bytes) (n : ℕ) : Prop :=
  value.head? = some 32 ∧ value.tail ≠ [] ∧ value.tail.all Text.isDigit = true ∧
    Text.decimalValue value.tail = n

instance (value : Bytes) (n : ℕ) : Decidable (Announces value n) :=
  inferInstanceAs (Decidable (_ ∧ _ ∧ _ ∧ _))

/-- A header field; the value is everything after the colon. -/
structure Field where
  name : Bytes
  value : Bytes
  /-- The name ends at the first colon. -/
  name_colon : (58 : UInt8) ∉ name
  name_line : IsLine name
  value_line : IsLine value

/-- A field as a line, without the line end. -/
def Field.line (f : Field) : Bytes := f.name ++ 58 :: f.value

lemma Field.line_inj {f f' : Field} (h : f.line = f'.line) : f = f' := by
  obtain ⟨name, value, hcolon⟩ := f
  obtain ⟨name', value', hcolon'⟩ := f'
  obtain ⟨rfl, rfl⟩ := Seq.cut_inj hcolon hcolon' h
  rfl

/-! ## Header blocks -/

/-- A header block: lines with their ends, and the empty line after them. -/
def block (lines : List Bytes) : Bytes := Seq.joinLines crlf lines ++ crlf

lemma isLine_append_cons {l l' : Bytes} {c : UInt8} (hl : IsLine l) (hl' : IsLine l')
    (hcr : c ≠ cr) (hlf : c ≠ lf) : IsLine (l ++ c :: l') := by
  simp [IsLine, hl.1, hl.2, hl'.1, hl'.2, hcr.symm, hlf.symm]

lemma Field.line_isLine (f : Field) : IsLine f.line :=
  isLine_append_cons f.name_line f.value_line (by decide) (by decide)

lemma Field.line_ne_nil (f : Field) : f.line ≠ [] := by
  simp [Field.line]

/-- A header block is that of one list of lines. -/
lemma block_inj {lines lines' : List Bytes} (hlines : ∀ l ∈ lines, IsLine l)
    (hlines' : ∀ l ∈ lines', IsLine l) (h : block lines = block lines') : lines = lines' := by
  -- a line with its carriage return is one that ends with a line feed
  have hread : ∀ lines : List Bytes, (∀ l ∈ lines, IsLine l) →
      Text.getlines lf (Seq.joinLines crlf lines) = lines.map (· ++ [cr]) := by
    intro lines hlines
    have hjoin : Seq.joinLines crlf lines = Seq.joinLines [lf] (lines.map (· ++ [cr])) := by
      induction lines with
      | nil => rfl
      | cons l lines ih =>
        rw [Seq.joinLines_cons, List.map_cons, Seq.joinLines_cons,
          ih fun l hl => hlines l (List.mem_cons_of_mem _ hl), List.append_assoc l [cr]]
        rfl
    rw [hjoin, Text.getlines_joinLines]
    intro l hl
    obtain ⟨l', hl', rfl⟩ := List.mem_map.mp hl
    have hne : lf ≠ cr := by decide
    simp [(hlines l' hl').2, hne]
  have hmap := congrArg (Text.getlines lf) (List.append_cancel_right h)
  rw [hread lines hlines, hread lines' hlines'] at hmap
  exact List.map_injective_iff.mpr (List.append_left_injective [cr]) hmap

section Block

variable {lines : List Bytes} {pos : ℕ}

/-- The empty line that ends the header block is the first one of the stream. -/
theorem find_blankLine_block (hlines : ∀ l ∈ lines, l ≠ [] ∧ IsLine l) (hne : lines ≠ [])
    (rest : Bytes) :
    ∃ pos, Seq.find (crlf ++ crlf) (block lines ++ rest) = some pos ∧
      pos + 4 = (block lines).length := by
  have h := Seq.find_separator_pair (a := cr) (b := lf) (by decide)
    (fun l hl => ⟨(hlines l hl).1, (hlines l hl).2.1⟩) hne rest
  obtain ⟨pos, hpos, hlen⟩ := Option.map_eq_some_iff.mp h
  change pos + 2 = (Seq.joinLines crlf lines).length at hlen
  refine ⟨pos, hpos, ?_⟩
  simp only [block, List.length_append, List.length_cons, List.length_nil]
  omega

/-- Looking for a key in the header block as a text finds the first line that contains it. -/
theorem afterUntil_block {key : Bytes} (hkey : IsLine key) (hlines : ∀ l ∈ lines, IsLine l)
    (hne : lines ≠ []) (rest : Bytes) (hpos : pos + 4 = (block lines).length) :
    Seq.afterUntil key crlf ((block lines ++ rest).take pos) =
      lines.findSome? (Seq.after key) := by
  have hdisj : ∀ c ∈ key, c ∉ crlf := by
    intro c hc hcrlf
    rcases List.mem_cons.mp hcrlf with rfl | hcrlf
    · exact hkey.1 hc
    · exact hkey.2 (List.mem_singleton.mp hcrlf ▸ hc)
  obtain ⟨init, last, rfl⟩ : ∃ init last, lines = init ++ [last] :=
    ⟨_, _, (List.dropLast_concat_getLast hne).symm⟩
  have hhead : block (init ++ [last]) = (Seq.joinLines crlf init ++ last) ++ (crlf ++ crlf) := by
    rw [block, Seq.joinLines_concat]
    simp
  have htake : (block (init ++ [last]) ++ rest).take pos = Seq.joinLines crlf init ++ last := by
    rw [hhead, List.append_assoc, List.take_left']
    have hlen := congrArg List.length hhead
    simp only [List.length_append, List.length_cons, List.length_nil] at hlen ⊢
    omega
  rw [htake]
  exact Seq.afterUntil_joinLines hdisj (fun l hl => (hlines l (List.mem_append_left _ hl)).1)
    (hlines last (List.mem_append_right _ List.mem_cons_self)).1

end Block

/-- A request line and any fields. -/
structure Head where
  requestLine : Bytes
  fields : List Field
  requestLine_line : IsLine requestLine
  requestLine_ne : requestLine ≠ []

namespace Head

variable (h : Head)

/-- The lines of the header block. -/
def lines : List Bytes := h.requestLine :: h.fields.map Field.line

/-- The header block as it is sent. -/
def text : Bytes := block h.lines

lemma line_of_mem {l : Bytes} (hl : l ∈ h.lines) : l ≠ [] ∧ IsLine l := by
  rcases List.mem_cons.mp hl with rfl | hl
  · exact ⟨h.requestLine_ne, h.requestLine_line⟩
  · obtain ⟨f, -, rfl⟩ := List.mem_map.mp hl
    exact ⟨f.line_ne_nil, f.line_isLine⟩

/-- A letter in lower case. -/
def lower (c : UInt8) : UInt8 := if 65 ≤ c ∧ c ≤ 90 then c + 32 else c

/-- Names of fields are compared without regard to case. -/
def SameName (a b : Bytes) : Prop := a.map lower = b.map lower

instance (a b : Bytes) : Decidable (SameName a b) := inferInstanceAs (Decidable (_ = _))

/-- The first field of a name. -/
def field (name : Bytes) : Option Field := h.fields.find? (SameName ·.name name)

end Head

/-! ## Requests -/

/-- A request with at most one `Content-Length` field and a body of the length it announces, or
none. -/
structure Request where
  method : Bytes
  path : Bytes
  version : Bytes
  fields : List Field
  body : Bytes
  method_line : IsLine method
  path_line : IsLine path
  version_line : IsLine version
  /-- The request line is taken apart at its blanks. -/
  method_blank : (32 : UInt8) ∉ method
  path_blank : (32 : UInt8) ∉ path
  one_length : (fields.filter fun f => f.name = contentLength).length ≤ 1
  announced : ∀ f ∈ fields, f.name = contentLength → Announces f.value body.length
  no_body : (∀ f ∈ fields, f.name ≠ contentLength) → body = []

namespace Request

variable (r : Request)

/-- `method path version` -/
def requestLine : Bytes := r.method ++ 32 :: (r.path ++ 32 :: r.version)

/-- The lines of the header block. -/
def lines : List Bytes := r.requestLine :: r.fields.map Field.line

/-- The header block, with the empty line that ends it. -/
def head : Bytes := Seq.joinLines crlf r.lines ++ crlf

/-- The message as it is sent. -/
def text : Bytes := r.head ++ r.body

/-- Requests back to back. -/
def stream (rs : List Request) : Bytes := (rs.map text).flatten

/-- What follows the first `key` in the lines of the header block. -/
def after (key : Bytes) : Option Bytes := r.lines.findSome? (Seq.after key)

/-! ## The lines of a request -/

lemma isLine_requestLine : IsLine r.requestLine :=
  isLine_append_cons r.method_line
    (isLine_append_cons r.path_line r.version_line (by decide) (by decide))
    (by decide) (by decide)

lemma line_of_mem {l : Bytes} (h : l ∈ r.lines) : l ≠ [] ∧ IsLine l := by
  rcases List.mem_cons.mp h with rfl | h
  · exact ⟨by simp [requestLine], r.isLine_requestLine⟩
  · obtain ⟨f, -, rfl⟩ := List.mem_map.mp h
    exact ⟨f.line_ne_nil, f.line_isLine⟩

lemma lines_ne_nil : r.lines ≠ [] := List.cons_ne_nil _ _

/-! ## The end of the header block -/

/-- The empty line that ends the header block is the first one of the stream. -/
theorem find_blankLine (rest : Bytes) :
    ∃ pos, Seq.find (crlf ++ crlf) (r.head ++ rest) = some pos ∧ pos + 4 = r.head.length :=
  find_blankLine_block (fun _ => r.line_of_mem) r.lines_ne_nil rest

/-- Looking for a key in the header block as a text finds the first line that contains it. -/
theorem afterUntil_eq {key : Bytes} (hkey : IsLine key) {pos : ℕ} (rest : Bytes)
    (hpos : pos + 4 = r.head.length) :
    Seq.afterUntil key crlf ((r.head ++ rest).take pos) = r.after key :=
  afterUntil_block hkey (fun _ hl => (r.line_of_mem hl).2) r.lines_ne_nil rest hpos

/-! ## The announced length -/

/-- `Content-Length:` -/
def lengthKey : Bytes := contentLength ++ [58]

/-- The header block contains `Content-Length:` nowhere but at the start of the field of that
name. -/
def PlainLength : Prop :=
  ∀ l ∈ r.lines, Seq.after lengthKey l ≠ none → ∃ f ∈ r.fields, f.name = contentLength ∧ l = f.line

variable {r}

lemma after_line {f : Field} (h : f.name = contentLength) :
    Seq.after lengthKey f.line = some f.value := by
  have hline : f.line = lengthKey ++ f.value := by
    rw [Field.line, h, lengthKey, List.append_assoc]
    rfl
  rw [Seq.after, hline, Seq.find_at_start (List.prefix_append _ _), Option.map_some, Nat.zero_add,
    List.drop_left]

/-- What follows `Content-Length:` is then the value of the field that announces the body, or
there is no such field and no body. -/
theorem PlainLength.after_eq (h : r.PlainLength) :
    (∃ value, r.after lengthKey = some value ∧ Announces value r.body.length) ∨
      (r.after lengthKey = none ∧ r.body = []) := by
  cases hafter : r.after lengthKey with
  | none =>
    refine .inr ⟨rfl, r.no_body fun f hf hname => ?_⟩
    have hline : f.line ∈ r.lines := List.mem_cons_of_mem _ (List.mem_map_of_mem hf)
    have := List.findSome?_eq_none_iff.mp hafter _ hline
    rw [after_line hname] at this
    cases this
  | some value =>
    obtain ⟨l, hl, hvalue⟩ := List.exists_of_findSome?_eq_some hafter
    obtain ⟨f, hf, hname, rfl⟩ := h l hl (by simp [hvalue])
    obtain rfl : f.value = value := Option.some.inj ((after_line hname).symm.trans hvalue)
    exact .inl ⟨_, rfl, r.announced f hf hname⟩

end Request

/-! ## Responses -/

/-- A response with a `Content-Length` field that announces its body. -/
structure Response where
  version : Bytes
  status : ℕ
  reason : Bytes
  fields : List Field
  body : Bytes
  version_line : IsLine version
  /-- The status line is taken apart at its first two blanks. -/
  version_blank : (32 : UInt8) ∉ version
  reason_line : IsLine reason
  has_length : ∃ f ∈ fields, f.name = contentLength
  announced : ∀ f ∈ fields, f.name = contentLength → Announces f.value body.length

namespace Response

variable (r : Response)

/-- `version status reason` -/
def statusLine : Bytes := r.version ++ 32 :: (Text.toDecimal r.status ++ 32 :: r.reason)

/-- The lines of the header block. -/
def lines : List Bytes := r.statusLine :: r.fields.map Field.line

/-- The message as it is sent. -/
def text : Bytes := block r.lines ++ r.body

lemma isLine_toDecimal (n : ℕ) : IsLine (Text.toDecimal n) := by
  constructor <;> exact fun h => absurd (Text.isDigit_toDecimal n _ h) (by decide)

lemma isLine_statusLine : IsLine r.statusLine :=
  isLine_append_cons r.version_line
    (isLine_append_cons (isLine_toDecimal r.status) r.reason_line (by decide) (by decide))
    (by decide) (by decide)

lemma line_of_mem {l : Bytes} (h : l ∈ r.lines) : l ≠ [] ∧ IsLine l := by
  rcases List.mem_cons.mp h with rfl | h
  · exact ⟨by simp [statusLine], r.isLine_statusLine⟩
  · obtain ⟨f, -, rfl⟩ := List.mem_map.mp h
    exact ⟨f.line_ne_nil, f.line_isLine⟩

variable {r} {r' : Response}

/-- A status line is that of one version, status and reason. -/
lemma statusLine_inj (h : r.statusLine = r'.statusLine) :
    r.version = r'.version ∧ r.status = r'.status ∧ r.reason = r'.reason := by
  have hblank : ∀ n, (32 : UInt8) ∉ Text.toDecimal n := fun n h =>
    absurd (Text.isDigit_toDecimal n _ h) (by decide)
  obtain ⟨hversion, hrest⟩ := Seq.cut_inj r.version_blank r'.version_blank h
  obtain ⟨hstatus, hreason⟩ := Seq.cut_inj (hblank _) (hblank _) hrest
  refine ⟨hversion, ?_, hreason⟩
  rw [← Text.decimalValue_toDecimal r.status, hstatus, Text.decimalValue_toDecimal]

/-- **A response is recognized.**  The bytes of a response, whatever follows them, begin with no
other response, and the response ends where its body does. -/
theorem text_append_inj {s s' : Bytes} (h : r.text ++ s = r'.text ++ s') : r = r' ∧ s = s' := by
  simp only [text, List.append_assoc] at h
  -- the header blocks end at the same empty line
  obtain ⟨pos, hpos, hlen⟩ := find_blankLine_block (fun _ => r.line_of_mem) (List.cons_ne_nil _ _)
    (r.body ++ s)
  obtain ⟨pos', hpos', hlen'⟩ := find_blankLine_block (fun _ => r'.line_of_mem)
    (List.cons_ne_nil _ _) (r'.body ++ s')
  have hpos_eq : pos = pos' := by
    have hfind := congrArg (Seq.find (crlf ++ crlf)) h
    exact Option.some.inj (hpos.symm.trans (hfind.trans hpos'))
  obtain ⟨hblock, hrest⟩ := List.append_inj h (by rw [← hlen, hpos_eq, hlen'])
  have hlines := block_inj (fun _ hl => (r.line_of_mem hl).2) (fun _ hl => (r'.line_of_mem hl).2)
    hblock
  obtain ⟨hstatus, hfields⟩ := List.cons.inj hlines
  have hfields : r.fields = r'.fields :=
    List.map_injective_iff.mpr (fun _ _ => Field.line_inj) hfields
  -- and announce the same length
  have hbody : r.body.length = r'.body.length := by
    obtain ⟨f, hf, hname⟩ := r.has_length
    rw [← (r.announced f hf hname).2.2.2, ← (r'.announced f (hfields ▸ hf) hname).2.2.2]
  obtain ⟨hbody, hs⟩ := List.append_inj hrest hbody
  obtain ⟨hversion, hstatus, hreason⟩ := statusLine_inj hstatus
  refine ⟨?_, hs⟩
  cases r
  cases r'
  simp only [mk.injEq]
  exact ⟨hversion, hstatus, hreason, hfields, hbody⟩

end Response

/-- An announced length is read off the value by trimming it and reading its digits. -/
lemma Announces.strtol_trim {value : Bytes} {n : ℕ} (h : Announces value n) (hn : n < 2 ^ 63) :
    ∃ digits, Text.trim value = some digits ∧ Text.strtol digits = n := by
  obtain ⟨hblank, hne, hdigits, rfl⟩ := h
  obtain ⟨c, digits, rfl⟩ := List.exists_cons_of_ne_nil (l := value) (by rintro rfl; cases hblank)
  obtain rfl : c = 32 := Option.some.inj hblank
  have hdigits' := List.all_eq_true.mp hdigits
  exact ⟨digits, Text.trim_blank_digits hne hdigits', Text.strtol_digits hne hdigits' hn⟩

end Http

end CoroutineGateway
