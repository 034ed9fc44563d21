import KlassGateway.Lib.Json
import KlassGateway.Lib.Text
/-!
# JSON text

The grammar of JSON as a relation between a value and its texts.  What number a
text of digits is read as is a parameter: it depends on how fractions are
rounded.

* `ValueText.head?` and `ValueText.getLast?`: how a value begins and ends.
* `ValueText.object`: an object stands between braces.
* `DocumentText.isObject`: nothing but an object begins with a brace.
-/

namespace KlassGateway.Lib.JsonText

open Json

/-! ## The grammar -/

/-- The white space between tokens. -/
def Blank (cs : List Char) : Prop := ∀ c ∈ cs, c = ' ' ∨ c = '\t' ∨ c = '\n' ∨ c = '\r'

/-- One or more digits. -/
def Digits (cs : List Char) : Prop := cs ≠ [] ∧ ∀ c ∈ cs, c.isDigit = true

/-- The integer part of a number, without leading zeros. -/
def IntegerText (cs : List Char) : Prop := cs = ['0'] ∨ Digits cs ∧ cs.head? ≠ some '0'

/-- The fraction of a number, if any. -/
def FractionText (cs : List Char) : Prop := cs = [] ∨ ∃ ds, cs = '.' :: ds ∧ Digits ds

/-- The exponent of a number, if any. -/
def ExponentText (cs : List Char) : Prop :=
  cs = [] ∨ ∃ e sign ds, cs = e :: (sign ++ ds) ∧ (e = 'e' ∨ e = 'E') ∧
    (sign = [] ∨ sign = ['+'] ∨ sign = ['-']) ∧ Digits ds

/-- A number. -/
def NumberText (cs : List Char) : Prop :=
  ∃ sign int fraction exponent, cs = sign ++ int ++ fraction ++ exponent ∧
    (sign = [] ∨ sign = ['-']) ∧ IntegerText int ∧ FractionText fraction ∧ ExponentText exponent

/-- A hexadecimal digit. -/
def hexDigit (c : Char) : Option Nat :=
  if c.isDigit then some (c.toNat - '0'.toNat)
  else if 'a' ≤ c ∧ c ≤ 'f' then some (c.toNat - 'a'.toNat + 10)
  else if 'A' ≤ c ∧ c ≤ 'F' then some (c.toNat - 'A'.toNat + 10)
  else none

/-- Four hexadecimal digits. -/
def hexFour (cs : List Char) : Option Nat :=
  if cs.length = 4 then (cs.mapM hexDigit).map (List.foldl (fun n d => 16 * n + d) 0) else none

/-- What stands for a character after a backslash. -/
def escapes : List (Char × Char) :=
  [('"', '"'), ('\\', '\\'), ('/', '/'), ('b', '\u0008'), ('f', '\u000c'), ('n', '\n'), ('r', '\r'),
    ('t', '\t')]

/-- The characters of a string, without the quotes. -/
inductive StringText : List Char → List Char → Prop where
  | nil : StringText [] []
  | plain {c : Char} {s cs : List Char} (hquote : c ≠ '"') (hbackslash : c ≠ '\\')
      (hcontrol : 0x20 ≤ c.toNat) (h : StringText s cs) : StringText (c :: s) (c :: cs)
  | escape {e c : Char} {s cs : List Char} (he : (e, c) ∈ escapes) (h : StringText s cs) :
      StringText (c :: s) ('\\' :: e :: cs)
  | unicode {digits : List Char} {c : Char} {s cs : List Char} (hc : hexFour digits = some c.toNat)
      (h : StringText s cs) : StringText (c :: s) ('\\' :: 'u' :: (digits ++ cs))
  | surrogates {digits digits' : List Char} {high low : Nat} {c : Char} {s cs : List Char}
      (hdigits : hexFour digits = some high) (hdigits' : hexFour digits' = some low)
      (hhigh : 0xD800 ≤ high ∧ high < 0xDC00) (hlow : 0xDC00 ≤ low ∧ low < 0xE000)
      (hc : c.toNat = 0x10000 + (high - 0xD800) * 0x400 + (low - 0xDC00)) (h : StringText s cs) :
      StringText (c :: s) ('\\' :: 'u' :: (digits ++ '\\' :: 'u' :: (digits' ++ cs)))

/-- The text of a value with the white space around it. -/
structure Spaced where
  before : List Char
  text : List Char
  after : List Char

/-- The whole text. -/
def Spaced.whole (s : Spaced) : List Char := s.before ++ s.text ++ s.after

/-- There is nothing but white space around it. -/
def Spaced.Blanks (s : Spaced) : Prop := Blank s.before ∧ Blank s.after

/-- The texts of a value. -/
inductive ValueText (number : List Char → Option Number) : Json → List Char → Prop where
  | null : ValueText number .null ['n', 'u', 'l', 'l']
  | boolTrue : ValueText number (.bool true) ['t', 'r', 'u', 'e']
  | boolFalse : ValueText number (.bool false) ['f', 'a', 'l', 's', 'e']
  | number {n : Number} {cs : List Char} (hcs : NumberText cs) (hn : number cs = some n) :
      ValueText number (.num n) cs
  | string {s cs : List Char} (hs : StringText s cs) :
      ValueText number (.str (String.ofList s)) ('"' :: (cs ++ ['"']))
  | emptyArray {blank : List Char} (hblank : Blank blank) :
      ValueText number (.arr []) ('[' :: (blank ++ [']']))
  | array (items : List (Json × Spaced)) (hitems : items ≠ [])
      (hblank : ∀ item ∈ items, item.2.Blanks)
      (htext : ∀ item ∈ items, ValueText number item.1 item.2.text) :
      ValueText number (.arr (items.map Prod.fst))
        ('[' :: ([','].intercalate (items.map fun item => item.2.whole) ++ [']']))
  | emptyObject {blank : List Char} (hblank : Blank blank) :
      ValueText number (.obj []) ('{' :: (blank ++ ['}']))
  | object (members : List ((String × Spaced) × (Json × Spaced))) (hmembers : members ≠ [])
      (hblank : ∀ m ∈ members, m.1.2.Blanks ∧ m.2.2.Blanks)
      (hkey : ∀ m ∈ members, ∃ cs, m.1.2.text = '"' :: (cs ++ ['"']) ∧
        StringText m.1.1.toList cs)
      (htext : ∀ m ∈ members, ValueText number m.2.1 m.2.2.text) :
      ValueText number
        (.obj (members.foldl (fun fields m => insertField m.1.1 m.2.1 fields) []))
        ('{' :: ([','].intercalate (members.map fun m => m.1.2.whole ++ ':' :: m.2.2.whole) ++
          ['}']))

/-- A value with white space around it. -/
def DocumentText (number : List Char → Option Number) (v : Json) (cs : List Char) : Prop :=
  ∃ s : Spaced, cs = s.whole ∧ s.Blanks ∧ ValueText number v s.text

/-! ## How a value begins and ends -/

variable {number : List Char → Option Number} {v : Json} {cs : List Char}

theorem Digits.getLast? {ds init : List Char} (h : Digits ds) :
    ∀ c ∈ (init ++ ds).getLast?, c.isDigit = true := by
  intro c hc
  rw [List.getLast?_append_of_ne_nil _ h.1] at hc
  exact h.2 c (List.mem_of_getLast? hc)

theorem IntegerText.digits (h : IntegerText cs) : Digits cs := by
  rcases h with rfl | h
  · exact ⟨List.cons_ne_nil _ _, List.forall_mem_singleton.2 (by decide)⟩
  · exact h.1

/-- A number ends in digits. -/
theorem NumberText.split (h : NumberText cs) : ∃ init ds, cs = init ++ ds ∧ Digits ds := by
  obtain ⟨sign, int, fraction, exponent, rfl, _, hint, hfraction, hexponent⟩ := h
  rcases hexponent with rfl | ⟨e, sign', ds, rfl, _, _, hds⟩
  · rcases hfraction with rfl | ⟨ds, rfl, hds⟩
    · exact ⟨sign, int, by simp, hint.digits⟩
    · exact ⟨sign ++ int ++ ['.'], ds, by simp, hds⟩
  · exact ⟨sign ++ int ++ fraction ++ e :: sign', ds, by simp, hds⟩

/-- A number begins with its sign or with a digit. -/
theorem NumberText.head? (h : NumberText cs) :
    ∃ c rest, cs = c :: rest ∧ (c = '-' ∨ c.isDigit = true) := by
  obtain ⟨sign, int, fraction, exponent, rfl, hsign, hint, _, _⟩ := h
  rcases hsign with rfl | rfl
  · obtain ⟨c, rest, hc⟩ := List.exists_cons_of_ne_nil hint.digits.1
    exact ⟨c, rest ++ fraction ++ exponent, by simp [hc], .inr (hint.digits.2 c (by simp [hc]))⟩
  · exact ⟨'-', int ++ fraction ++ exponent, by simp, .inl rfl⟩

/-- How a value begins. -/
theorem ValueText.head? (h : ValueText number v cs) :
    ∃ c rest, cs = c :: rest ∧ (c ∈ ['n', 't', 'f', '"', '[', '{', '-'] ∨ c.isDigit = true) := by
  cases h with
  | number hcs =>
    obtain ⟨c, rest, hc, hfirst⟩ := hcs.head?
    refine ⟨c, rest, hc, ?_⟩
    rcases hfirst with rfl | hdigit
    · exact .inl (by decide)
    · exact .inr hdigit
  | _ => exact ⟨_, _, rfl, .inl (by decide)⟩

/-- How a value ends. -/
theorem ValueText.getLast? (h : ValueText number v cs) :
    ∀ c ∈ cs.getLast?, c ∈ ['l', 'e', '"', ']', '}'] ∨ c.isDigit = true := by
  intro c hc
  cases h with
  | number hcs =>
    obtain ⟨init, ds, rfl, hds⟩ := hcs.split
    exact .inr (hds.getLast? c hc)
  | null | boolTrue | boolFalse =>
    left
    cases hc
    decide
  | _ =>
    left
    rw [← List.cons_append, List.getLast?_concat] at hc
    cases hc
    decide

/-- An object stands between braces. -/
theorem ValueText.object_eq (h : ValueText number v cs) (hv : v.isObject = true) :
    ∃ mid, cs = '{' :: (mid ++ ['}']) := by
  cases h with
  | emptyObject | object => exact ⟨_, rfl⟩
  | _ => cases hv

/-- Nothing but an object begins with a brace. -/
theorem ValueText.isObject (h : ValueText number v ('{' :: cs)) : v.isObject = true := by
  generalize htext : '{' :: cs = text at h
  cases h with
  | emptyObject | object => rfl
  | number hcs =>
    obtain ⟨c, rest, hc, hfirst⟩ := hcs.head?
    rw [← htext] at hc
    obtain ⟨rfl, _⟩ := List.cons.inj hc
    rcases hfirst with hfirst | hfirst <;> cases hfirst
  | _ => cases htext

theorem DocumentText.isObject (h : DocumentText number v ('{' :: cs)) : v.isObject = true := by
  obtain ⟨s, hcs, ⟨hbefore, _⟩, hvalue⟩ := h
  obtain ⟨c, rest, htext, _⟩ := hvalue.head?
  rw [Spaced.whole, htext, List.append_assoc, List.cons_append] at hcs
  rw [htext] at hvalue
  cases hblank : s.before with
  | nil =>
    rw [hblank, List.nil_append] at hcs
    obtain ⟨rfl, _⟩ := List.cons.inj hcs
    exact hvalue.isObject
  | cons d before =>
    rw [hblank, List.cons_append] at hcs
    obtain ⟨rfl, _⟩ := List.cons.inj hcs
    have hspace := hbefore '{' (by rw [hblank]; exact List.mem_cons_self ..)
    exact absurd hspace (by decide)

end KlassGateway.Lib.JsonText
