import Mathlib.Algebra.Ring.Int.Defs
import Mathlib.Algebra.Ring.Nat
import Mathlib.Data.List.Basic
/-!
# Text as UTF-8

The operations on strings that differ from Lean's own: white space is the
Unicode property, and a slice is taken at a byte offset.

* `trim` removes leading and trailing white space.
* `collapseWhitespace` turns every run of white space into one blank.
* `takeBytes` is the slice up to a byte offset.  It is `none` where the offset
  falls inside a character or past the end, which is a panic in the source
  language.
* `splitOnce` splits at the first occurrence of a character.
* `parseI64` reads a 64-bit number in decimal.

`splitOnce_toString` and `parseI64_toString` are the round trips of the last
two.
-/

namespace KlassGateway.Lib.Text

/-- The Unicode property `White_Space`. -/
def isWhitespace (c : Char) : Bool :=
  let n := c.toNat
  (0x09 ≤ n && n ≤ 0x0D) || n == 0x20 || n == 0x85 || n == 0xA0 || n == 0x1680 ||
    (0x2000 ≤ n && n ≤ 0x200A) || n == 0x2028 || n == 0x2029 || n == 0x202F || n == 0x205F ||
    n == 0x3000

/-- Drop leading and trailing white space of a character list. -/
def trimList (cs : List Char) : List Char :=
  ((cs.dropWhile isWhitespace).reverse.dropWhile isWhitespace).reverse

/-- `str::trim`. -/
def trim (s : String) : String := String.ofList (trimList s.toList)

/-- One pass over the characters: a white space character becomes a blank
unless the previous character was white space too. -/
def collapseList : Bool → List Char → List Char
  | _, [] => []
  | prev, c :: cs =>
    if isWhitespace c then
      if prev then collapseList true cs else ' ' :: collapseList true cs
    else c :: collapseList false cs

/-- Collapse every run of white space into one blank. -/
def collapseWhitespace (s : String) : String := String.ofList (collapseList false s.toList)

/-- The first `n` bytes of a character list, if that is a whole number of
characters. -/
def takeBytesList : List Char → Nat → Option (List Char)
  | [], n => if n = 0 then some [] else none
  | c :: cs, n =>
    if n = 0 then some []
    else if c.utf8Size ≤ n then (takeBytesList cs (n - c.utf8Size)).map (c :: ·)
    else none

/-- `&s[..n]`. -/
def takeBytes (s : String) (n : Nat) : Option String :=
  (takeBytesList s.toList n).map String.ofList

/-- Whether `pat` occurs in a character list. -/
def containsList (pat : List Char) : List Char → Bool
  | [] => pat.isEmpty
  | c :: cs => pat.isPrefixOf (c :: cs) || containsList pat cs

/-- `str::contains` for a string pattern. -/
def contains (s pat : String) : Bool := containsList pat.toList s.toList

/-- `chars().take(n)`. -/
def takeChars (s : String) (n : Nat) : String := String.ofList (s.toList.take n)

/-- `str::starts_with`. -/
def startsWith (s pat : String) : Bool := pat.toList.isPrefixOf s.toList

/-- What follows a leading text: `str::strip_prefix`. -/
def stripLeading (s pat : String) : Option String :=
  if startsWith s pat then some (String.ofList (s.toList.drop pat.toList.length)) else none

/-- Split a character list at the first `c`. -/
def splitOnceList (c : Char) : List Char → Option (List Char × List Char)
  | [] => none
  | d :: ds =>
    if d = c then some ([], ds)
    else (splitOnceList c ds).map fun (before, after) => (d :: before, after)

/-- `str::split_once` for a character. -/
def splitOnce (s : String) (c : Char) : Option (String × String) :=
  (splitOnceList c s.toList).map fun (before, after) => (String.ofList before, String.ofList after)

/-- A natural number in decimal: one digit or more. -/
def parseDigits (cs : List Char) : Option Nat :=
  if !cs.isEmpty && cs.all Char.isDigit then some (Nat.ofDigitChars 10 cs 0) else none

/-- The value of a list of characters with an optional sign. -/
def parseSigned : List Char → Option Int
  | '-' :: cs => (parseDigits cs).map fun n => -(n : Int)
  | '+' :: cs => (parseDigits cs).map fun n => (n : Int)
  | cs => (parseDigits cs).map fun n => (n : Int)

/-- `str::parse::<i64>`. -/
def parseI64 (s : String) : Option Int :=
  (parseSigned s.toList).filter fun n => -(2 ^ 63) ≤ n && n < 2 ^ 63

/-! ## Round trips -/

theorem stripLeading_append (pat s : String) : stripLeading (pat ++ s) pat = some s := by
  have hstarts : startsWith (pat ++ s) pat = true := by
    rw [startsWith, List.isPrefixOf_iff_prefix, String.toList_append]
    exact List.prefix_append _ _
  rw [stripLeading, if_pos hstarts, String.toList_append, List.drop_left]
  simp

theorem splitOnceList_append {c : Char} {before after : List Char} (h : c ∉ before) :
    splitOnceList c (before ++ c :: after) = some (before, after) := by
  induction before with
  | nil => simp [splitOnceList]
  | cons d ds ih =>
    have hd : d ≠ c := fun he => h (he ▸ List.mem_cons_self ..)
    have hds : c ∉ ds := fun hc => h (List.mem_cons_of_mem _ hc)
    simp [splitOnceList, hd, ih hds]

/-- A part without the separator is read off in one way only. -/
theorem append_cons_inj {c : Char} {before before' after after' : List Char} (h : c ∉ before)
    (h' : c ∉ before') (he : before ++ c :: after = before' ++ c :: after') :
    before = before' ∧ after = after' := by
  have hsplit : splitOnceList c (before ++ c :: after) = splitOnceList c (before' ++ c :: after') := by
    rw [he]
  rw [splitOnceList_append h, splitOnceList_append h'] at hsplit
  simpa using hsplit

theorem parseDigits_toDigits (n : Nat) : parseDigits (Nat.toDigits 10 n) = some n := by
  have hne : (Nat.toDigits 10 n).isEmpty = false := by
    rw [List.isEmpty_eq_false_iff]
    exact Nat.toDigits_ne_nil
  have hall : (Nat.toDigits 10 n).all Char.isDigit = true :=
    List.all_eq_true.2 fun c hc => Nat.isDigit_of_mem_toDigits (by decide) (by decide) hc
  rw [parseDigits, hne, hall, Nat.ofDigitChars_ten_toDigits]
  rfl

/-- Digits alone are read without a sign. -/
theorem parseSigned_toDigits (n : Nat) : parseSigned (Nat.toDigits 10 n) = some (n : Int) := by
  have hdigits (c : Char) (hc : c ∈ Nat.toDigits 10 n) : c.isDigit :=
    Nat.isDigit_of_mem_toDigits (by decide) (by decide) hc
  have hparse := parseDigits_toDigits n
  cases hcs : Nat.toDigits 10 n with
  | nil => exact absurd hcs Nat.toDigits_ne_nil
  | cons d ds =>
    rw [hcs] at hdigits hparse
    have hd : d.isDigit := hdigits d (List.mem_cons_self ..)
    have hminus : d ≠ '-' := by
      rintro rfl
      exact absurd hd (by decide)
    have hplus : d ≠ '+' := by
      rintro rfl
      exact absurd hd (by decide)
    unfold parseSigned
    split
    · next he => exact absurd (List.cons.inj he).1 hminus
    · next he => exact absurd (List.cons.inj he).1 hplus
    · rw [hparse]
      rfl

/-- The text of a number is read as that number. -/
theorem parseSigned_toString (i : Int) : parseSigned (toString i).toList = some i := by
  cases i with
  | ofNat n =>
    have htext : (toString (Int.ofNat n)).toList = Nat.toDigits 10 n := Nat.toList_repr
    rw [htext, parseSigned_toDigits]
    rfl
  | negSucc n =>
    have htext : (toString (Int.negSucc n)).toList = '-' :: Nat.toDigits 10 (n + 1) := by
      have hshow : toString (Int.negSucc n) = "-" ++ (n + 1).repr := rfl
      rw [hshow, String.toList_append, Nat.toList_repr]
      rfl
    rw [htext, parseSigned, parseDigits_toDigits]
    rfl

theorem toString_int_injective {i j : Int} (h : toString i = toString j) : i = j := by
  have hread : parseSigned (toString i).toList = parseSigned (toString j).toList := by
    rw [h]
  rw [parseSigned_toString, parseSigned_toString] at hread
  exact Option.some.inj hread

theorem not_mem_toString {i : Int} {c : Char} (hc : c.isDigit = false) (hminus : c ≠ '-') :
    c ∉ (toString i).toList := by
  have hdigits (n : Nat) : c ∉ Nat.toDigits 10 n := fun h => by
    rw [Nat.isDigit_of_mem_toDigits (by decide) (by decide) h] at hc
    cases hc
  cases i with
  | ofNat n =>
    have htext : (toString (Int.ofNat n)).toList = Nat.toDigits 10 n := Nat.toList_repr
    rw [htext]
    exact hdigits n
  | negSucc n =>
    have hshow : toString (Int.negSucc n) = "-" ++ (n + 1).repr := rfl
    rw [hshow, String.toList_append, Nat.toList_repr]
    exact fun h => (List.mem_cons.1 h).elim hminus (hdigits _)

/-- A number and a text that a separator joins are split again, and what the
first part is read as is the number. -/
theorem splitOnce_toString {c : Char} (hc : c.isDigit = false) (hminus : c ≠ '-') (i : Int)
    (s : String) : splitOnce (toString i ++ String.singleton c ++ s) c = some (toString i, s) := by
  have htext : (toString i ++ String.singleton c ++ s).toList = (toString i).toList ++ c :: s.toList := by
    rw [String.toList_append, String.toList_append, String.toList_singleton, List.append_assoc]
    rfl
  rw [splitOnce, htext, splitOnceList_append (not_mem_toString hc hminus)]
  simp

theorem parseI64_toString {i j : Int} (h : parseI64 (toString i) = some j) : j = i := by
  rw [parseI64, parseSigned_toString] at h
  obtain ⟨he, _⟩ := Option.filter_eq_some_iff.1 h
  exact (Option.some.inj he).symm

end KlassGateway.Lib.Text
