import CoroutineGateway.Framework.Text

/-!
# Flat JSON objects

Objects whose values are strings and non-negative integers, as structures whose fields carry their
well-formedness, with the white space that may stand between any two symbols.  The names of members
are any strings, and may be spelled with escapes; string values need none.  Nothing here says how a
program reads an object.
-/

namespace CoroutineGateway

namespace FlatJson

/-- White space of JSON. -/
def whitespace : Bytes := [32, 9, 10, 13]

/-! ## Strings -/

/-- What a spelled symbol stands for: a byte of the string, or a code unit of UTF-16. -/
inductive Symbol where
  | byte (c : UInt8)
  | unit (n : ℕ)

/-- The symbols that have an escape of two characters. -/
def escapes : List (UInt8 × UInt8) :=
  [(34, 34), (92, 92), (47, 47), (98, 8), (102, 12), (110, 10), (114, 13), (116, 9)]

/-- The number of four hexadecimal digits. -/
def codeUnit (a b c d : UInt8) : Option ℕ := do
  let a ← Text.hexDigit? a
  let b ← Text.hexDigit? b
  let c ← Text.hexDigit? c
  let d ← Text.hexDigit? d
  return ((a * 16 + b) * 16 + c) * 16 + d

/-- The symbols between the quotes of a string. -/
def symbols : Bytes → Option (List Symbol)
  | [] => some []
  | 92 :: 117 :: a :: b :: c :: d :: rest => do
    let n ← codeUnit a b c d
    return .unit n :: (← symbols rest)
  | 92 :: e :: rest => do
    let c ← escapes.lookup e
    return .byte c :: (← symbols rest)
  | c :: rest =>
    if c < 32 ∨ c = 34 ∨ c = 92 then none else do return .byte c :: (← symbols rest)

/-- The string in UTF-8.  A code unit of the first half of a pair is followed by one of the second
half, and there are no others of that half. -/
def utf8 : List Symbol → Option Bytes
  | [] => some []
  | .byte c :: rest => do return c :: (← utf8 rest)
  | .unit high :: .unit low :: rest =>
    if 0xD800 ≤ high ∧ high < 0xDC00 then
      if 0xDC00 ≤ low ∧ low < 0xE000 then do
        let c := Char.ofNat (0x10000 + (high - 0xD800) * 0x400 + (low - 0xDC00))
        return c.toString.toUTF8.toList ++ (← utf8 rest)
      else none
    else if 0xDC00 ≤ high ∧ high < 0xE000 then none
    else do return (Char.ofNat high).toString.toUTF8.toList ++ (← utf8 (.unit low :: rest))
  | .unit n :: rest =>
    if 0xD800 ≤ n ∧ n < 0xE000 then none
    else do return (Char.ofNat n).toString.toUTF8.toList ++ (← utf8 rest)

/-- The string that is spelled between two quotes. -/
def unescape (spelling : Bytes) : Option Bytes := (symbols spelling).bind utf8

example : unescape (ascii "e\\u0078p\\n") = some (ascii "exp\n") := by decide +kernel

/-- A string that stands for itself: no quote and no backslash. -/
def Plain (s : Bytes) : Prop := 34 ∉ s ∧ 92 ∉ s

instance (s : Bytes) : Decidable (Plain s) := inferInstanceAs (Decidable (_ ∧ _))

/-! ## Objects -/

/-- The value of a member. -/
inductive Value where
  | string (s : Bytes)
  | integer (n : ℕ)
  deriving DecidableEq

namespace Value

/-- Strings without escapes, and numbers of 63 bits. -/
def Simple : Value → Prop
  | string s => Plain s
  | integer n => n < 2 ^ 63

instance : (v : Value) → Decidable v.Simple
  | string s => inferInstanceAs (Decidable (Plain s))
  | integer n => inferInstanceAs (Decidable (n < 2 ^ 63))

/-- The value as it is written. -/
def text : Value → Bytes
  | string s => 34 :: (s ++ [34])
  | integer n => Text.toDecimal n

def string? : Value → Option Bytes
  | string s => some s
  | integer _ => none

def integer? : Value → Option ℤ
  | string _ => none
  | integer n => some n

end Value

/-- A member, with the white space around its parts. -/
structure Member where
  before : Bytes
  /-- The name as it is written between its quotes. -/
  spelling : Bytes
  name : Bytes
  beforeColon : Bytes
  afterColon : Bytes
  value : Value
  after : Bytes
  spelled : unescape spelling = some name
  value_simple : value.Simple
  white : ∀ c ∈ before ++ beforeColon ++ afterColon ++ after, c ∈ whitespace

/-- A member as it is written. -/
def Member.text (m : Member) : Bytes :=
  m.before ++ 34 :: (m.spelling ++ 34 :: (m.beforeColon ++
    58 :: (m.afterColon ++ (m.value.text ++ m.after))))

/-- What follows a member, with the members that are left and the text after the object. -/
def closing (rest : Bytes) : List Member → Bytes
  | [] => 125 :: rest
  | m :: ms => 44 :: (m.text ++ closing rest ms)

/-- The members and the closing brace. -/
def membersText (rest : Bytes) : List Member → Bytes
  | [] => 125 :: rest
  | m :: ms => m.text ++ closing rest ms

/-- An object whose members have different names, with the white space around it. -/
structure Object where
  before : Bytes
  /-- After the opening brace. -/
  inside : Bytes
  members : List Member
  after : Bytes
  white : ∀ c ∈ before ++ inside ++ after, c ∈ whitespace
  distinct : (members.map Member.name).Nodup

namespace Object

variable (o : Object)

/-- An object as it is written. -/
def text : Bytes := o.before ++ 123 :: (o.inside ++ membersText o.after o.members)

/-- The value of the member of a name. -/
def value (name : Bytes) : Option Value := (o.members.find? (·.name = name)).map Member.value

/-- The value of the string member of a name. -/
def string (name : Bytes) : Option Bytes := (o.value name).bind Value.string?

/-- The value of the integer member of a name. -/
def integer (name : Bytes) : Option ℤ := (o.value name).bind Value.integer?

end Object

variable {l : Bytes}

lemma not_mem_of_white {c : UInt8} (hc : c ∉ whitespace) (h : ∀ b ∈ l, b ∈ whitespace) : c ∉ l :=
  fun hl => hc (h c hl)

lemma Member.before_white (m : Member) : ∀ c ∈ m.before, c ∈ whitespace :=
  fun c hc => m.white c (by simp [hc])

lemma Member.beforeColon_white (m : Member) : ∀ c ∈ m.beforeColon, c ∈ whitespace :=
  fun c hc => m.white c (by simp [hc])

lemma Member.afterColon_white (m : Member) : ∀ c ∈ m.afterColon, c ∈ whitespace :=
  fun c hc => m.white c (by simp [hc])

lemma Member.after_white (m : Member) : ∀ c ∈ m.after, c ∈ whitespace :=
  fun c hc => m.white c (by simp [hc])

lemma Member.plain_of_string {m : Member} {s : Bytes} (h : m.value = .string s) : Plain s := by
  have hsimple := m.value_simple
  rwa [h] at hsimple

lemma Object.after_white (o : Object) : ∀ c ∈ o.after, c ∈ whitespace :=
  fun c hc => o.white c (by simp [hc])

/-- The value of a name is that of the member that has it. -/
lemma Object.value_of_mem {o : Object} {m : Member} (hm : m ∈ o.members) :
    o.value m.name = some m.value := by
  rw [Object.value, Option.map_eq_some_iff]
  refine ⟨m, ?_, rfl⟩
  obtain ⟨pre, post, hmembers⟩ := List.append_of_mem hm
  rw [List.find?_eq_some_iff_append]
  refine ⟨by simp, pre, post, hmembers, fun a ha => ?_⟩
  have hdistinct := o.distinct
  rw [hmembers, List.map_append, List.map_cons] at hdistinct
  have hnotMem := (List.nodup_append.mp hdistinct).2.2 a.name (List.mem_map_of_mem ha) m.name
    List.mem_cons_self
  simpa using hnotMem

end FlatJson

end CoroutineGateway
