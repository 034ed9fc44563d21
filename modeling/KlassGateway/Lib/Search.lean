import KlassGateway.Lib.Utf8
import Mathlib.Data.List.Infix
/-!
# Search and replacement

`find` answers the byte offset of the first occurrence of a text, `dropBytes`
is the slice from a byte offset on, and `replace` replaces the occurrences of a
text from left to right.

* `containsList_iff_infix`: what `contains` tests.
* `findList_eq_some`: what stands at the offset that is found.
* `findList_singleton`, `rfindList_append`: the first and the last occurrence of
  a character.
* `dropBytesList_eq_some_iff`: which offsets can be sliced at.
* `replaceList_append`: replacement leaves a beginning in which no occurrence
  starts.
* `replaceList_eq_self_iff`: it changes every text that has an occurrence, when
  the replacement is shorter.
-/

namespace KlassGateway.Lib.Text

/-- The byte offset of the first occurrence of `pat`. -/
def findList (pat : List Char) : List Char → Option Nat
  | [] => if pat.isEmpty then some 0 else none
  | c :: cs =>
    if pat.isPrefixOf (c :: cs) then some 0 else (findList pat cs).map (c.utf8Size + ·)

/-- `str::find` for a string pattern. -/
def find (s pat : String) : Option Nat := findList pat.toList s.toList

/-- What follows the first `n` bytes of a character list, if these are a whole
number of characters. -/
def dropBytesList : List Char → Nat → Option (List Char)
  | [], n => if n = 0 then some [] else none
  | c :: cs, n =>
    if n = 0 then some (c :: cs)
    else if c.utf8Size ≤ n then dropBytesList cs (n - c.utf8Size)
    else none

/-- `&s[n..]`. -/
def dropBytes (s : String) (n : Nat) : Option String :=
  (dropBytesList s.toList n).map String.ofList

/-- `str::rfind` for a character: the byte offset of the last occurrence. -/
def rfindList (c : Char) : List Char → Option Nat
  | [] => none
  | d :: cs =>
    match rfindList c cs with
    | some n => some (d.utf8Size + n)
    | none => if d = c then some 0 else none

def rfind (s : String) (c : Char) : Option Nat := rfindList c s.toList

/-- `&s[start..stop]`. -/
def slice (s : String) (start stop : Nat) : Option String :=
  (takeBytes s stop).bind fun beginning => dropBytes beginning start

/-- `str::ends_with`. -/
def endsWith (s pat : String) : Bool := pat.toList.isSuffixOf s.toList

/-- Drop a beginning as often as it stands there, up to a number of times. -/
def trimStartMatchesFrom (pat : List Char) : Nat → List Char → List Char
  | 0, cs => cs
  | n + 1, cs =>
    if pat.isPrefixOf cs then trimStartMatchesFrom pat n (cs.drop pat.length) else cs

def trimStartMatchesList (pat cs : List Char) : List Char := trimStartMatchesFrom pat cs.length cs

def trimEndMatchesList (pat cs : List Char) : List Char :=
  (trimStartMatchesList pat.reverse cs.reverse).reverse

/-- `str::trim_start_matches` for a string pattern that is not empty. -/
def trimStartMatches (s pat : String) : String :=
  String.ofList (trimStartMatchesList pat.toList s.toList)

/-- `str::trim_end_matches` for a string pattern that is not empty. -/
def trimEndMatches (s pat : String) : String :=
  String.ofList (trimEndMatchesList pat.toList s.toList)

/-- One pass of a replacement; `skip` characters belong to an occurrence that
was replaced. -/
def replaceFrom (pat rep : List Char) : Nat → List Char → List Char
  | _, [] => []
  | skip + 1, _ :: cs => replaceFrom pat rep skip cs
  | 0, c :: cs =>
    if pat.isPrefixOf (c :: cs) then rep ++ replaceFrom pat rep (pat.length - 1) cs
    else c :: replaceFrom pat rep 0 cs

/-- Replace every occurrence of `pat`, from left to right. -/
def replaceList (pat rep cs : List Char) : List Char := replaceFrom pat rep 0 cs

/-- `str::replace` for a string pattern that is not empty. -/
def replace (s pat rep : String) : String :=
  String.ofList (replaceList pat.toList rep.toList s.toList)

variable {pat rep cs ds : List Char} {n : Nat}

/-! ## Occurrences -/

theorem containsList_iff_infix : containsList pat cs = true ↔ pat <:+: cs := by
  induction cs with
  | nil => simp [containsList]
  | cons c cs ih =>
    rw [containsList, Bool.or_eq_true, List.isPrefixOf_iff_prefix, ih, List.infix_cons_iff]

/-- An occurrence that begins before a character that it does not contain ends
before it. -/
theorem prefix_append_cons {c : Char} (hpat : c ∉ pat) (h : pat <+: cs ++ c :: ds) : pat <+: cs := by
  by_cases hlen : pat.length ≤ cs.length
  · exact List.prefix_of_prefix_length_le h (List.prefix_append _ _) hlen
  · have hbegins : cs ++ [c] <+: cs ++ c :: ds :=
      (List.prefix_append_right_inj cs).2 (List.prefix_append [c] ds)
    have hlong : (cs ++ [c]).length ≤ pat.length := by
      rw [List.length_append, List.length_singleton]
      omega
    have hinside := List.prefix_of_prefix_length_le hbegins h hlong
    exact absurd (hinside.subset (by simp)) hpat

/-- A text occurs on one side of a character that it does not contain. -/
theorem infix_append_cons_iff {c : Char} (hpat : c ∉ pat) :
    pat <:+: cs ++ c :: ds ↔ pat <:+: cs ∨ pat <:+: ds := by
  constructor
  · intro h
    induction cs with
    | nil =>
      rcases List.infix_cons_iff.1 h with hbegins | hrest
      · have hnil : pat <+: [] := prefix_append_cons hpat hbegins
        exact .inl hnil.isInfix
      · exact .inr hrest
    | cons d cs ih =>
      rcases List.infix_cons_iff.1 h with hbegins | hrest
      · have hfirst : pat <+: d :: cs := prefix_append_cons hpat hbegins
        exact .inl hfirst.isInfix
      · exact (ih hrest).imp_left fun hcs => hcs.trans (List.suffix_cons d cs).isInfix
  · rintro (h | h)
    · exact h.trans (List.prefix_append _ _).isInfix
    · exact h.trans ⟨cs ++ [c], [], by simp⟩

/-- An occurrence starts at the offset that is found. -/
theorem findList_eq_some (h : findList pat cs = some n) :
    ∃ before after, cs = before ++ pat ++ after ∧ sizeList before = n := by
  induction cs generalizing n with
  | nil =>
    unfold findList at h
    split at h
    · next hpat =>
      cases h
      exact ⟨[], [], by simp [List.isEmpty_iff.1 hpat], rfl⟩
    · cases h
  | cons c cs ih =>
    unfold findList at h
    split at h
    · next hbegins =>
      cases h
      obtain ⟨after, hafter⟩ := List.isPrefixOf_iff_prefix.1 hbegins
      exact ⟨[], after, by simp [hafter], rfl⟩
    · obtain ⟨m, hm, rfl⟩ := Option.map_eq_some_iff.1 h
      obtain ⟨before, after, rfl, rfl⟩ := ih hm
      exact ⟨c :: before, after, by simp, rfl⟩

/-- The first occurrence of a character. -/
theorem findList_singleton {c : Char} (h : c ∉ cs) :
    findList [c] (cs ++ c :: ds) = some (sizeList cs) := by
  induction cs with
  | nil => simp [findList, sizeList]
  | cons d cs ih =>
    have hd : c ≠ d := fun he => h (he ▸ List.mem_cons_self ..)
    have hrest := ih fun hc => h (List.mem_cons_of_mem _ hc)
    simp [findList, sizeList, hd, hrest]

theorem rfindList_eq_none {c : Char} (h : c ∉ cs) : rfindList c cs = none := by
  induction cs with
  | nil => rfl
  | cons d cs ih =>
    have hd : d ≠ c := fun he => h (he ▸ List.mem_cons_self ..)
    have hrest := ih fun hc => h (List.mem_cons_of_mem _ hc)
    simp [rfindList, hd, hrest]

/-- The last occurrence of a character. -/
theorem rfindList_append {c : Char} (h : c ∉ ds) :
    rfindList c (cs ++ c :: ds) = some (sizeList cs) := by
  induction cs with
  | nil => simp [rfindList, rfindList_eq_none h, sizeList]
  | cons d cs ih => simp [rfindList, ih, sizeList]

theorem rfindList_eq_some {c : Char} (h : rfindList c cs = some n) :
    ∃ before after, cs = before ++ c :: after ∧ sizeList before = n := by
  induction cs generalizing n with
  | nil => cases h
  | cons d cs ih =>
    unfold rfindList at h
    split at h
    · next m hm =>
      cases h
      obtain ⟨before, after, rfl, rfl⟩ := ih hm
      exact ⟨d :: before, after, rfl, rfl⟩
    · split at h
      · next hd =>
        cases h
        exact ⟨[], cs, by rw [hd]; rfl, rfl⟩
      · cases h

/-! ## Repeated beginnings -/

/-- A beginning that stands there once is dropped. -/
theorem trimStartMatchesList_append (hpat : pat ≠ []) (h : ¬ pat <+: cs) :
    trimStartMatchesList pat (pat ++ cs) = cs := by
  obtain ⟨n, hn⟩ : ∃ n, (pat ++ cs).length = n + 1 := by
    have hpos : 0 < pat.length := List.length_pos_of_ne_nil hpat
    exact Nat.exists_eq_add_one.2 (by rw [List.length_append]; omega)
  have hbegins : pat.isPrefixOf (pat ++ cs) = true :=
    List.isPrefixOf_iff_prefix.2 (List.prefix_append _ _)
  have hstop : pat.isPrefixOf cs = false := by
    rw [Bool.eq_false_iff, ne_eq, List.isPrefixOf_iff_prefix]
    exact h
  rw [trimStartMatchesList, hn, trimStartMatchesFrom, if_pos hbegins, List.drop_left]
  cases n with
  | zero => rfl
  | succ n => rw [trimStartMatchesFrom, hstop, if_neg (by decide)]

theorem trimEndMatchesList_append (hpat : pat ≠ []) (h : ¬ pat <:+ cs) :
    trimEndMatchesList pat (cs ++ pat) = cs := by
  have hstop : ¬ pat.reverse <+: cs.reverse := mt List.reverse_prefix.1 h
  rw [trimEndMatchesList, List.reverse_append,
    trimStartMatchesList_append (mt List.reverse_eq_nil_iff.1 hpat) hstop, List.reverse_reverse]

/-! ## Slices -/

/-- A slice can be taken at the end of every prefix and nowhere else. -/
theorem dropBytesList_eq_some_iff :
    dropBytesList cs n = some ds ↔ ∃ before, cs = before ++ ds ∧ sizeList before = n := by
  induction cs generalizing n with
  | nil =>
    unfold dropBytesList
    constructor
    · intro h
      split at h
      · next hn =>
        cases h
        exact ⟨[], rfl, hn.symm⟩
      · cases h
    · rintro ⟨before, hnil, rfl⟩
      obtain ⟨rfl, rfl⟩ := List.append_eq_nil_iff.1 hnil.symm
      rfl
  | cons c cs ih =>
    have hc : 0 < c.utf8Size := c.utf8Size_pos
    unfold dropBytesList
    constructor
    · intro h
      split at h
      · next hn =>
        cases h
        exact ⟨[], rfl, hn.symm⟩
      · split at h
        · obtain ⟨before, rfl, hsize⟩ := ih.1 h
          refine ⟨c :: before, rfl, ?_⟩
          simp only [sizeList]
          omega
        · cases h
    · rintro ⟨before, hcs, rfl⟩
      cases before with
      | nil =>
        rw [List.nil_append] at hcs
        rw [hcs]
        rfl
      | cons d before =>
        obtain ⟨rfl, rfl⟩ := List.cons.inj hcs
        have hsize : sizeList (c :: before) = c.utf8Size + sizeList before := rfl
        rw [hsize, if_neg (by omega), if_pos (Nat.le_add_right _ _), Nat.add_sub_cancel_left]
        exact ih.2 ⟨before, rfl, rfl⟩

theorem dropBytes_eq_some_iff {s t : String} :
    dropBytes s n = some t ↔ ∃ before, s.toList = before ++ t.toList ∧ sizeList before = n := by
  rw [dropBytes, Option.map_eq_some_iff]
  constructor
  · rintro ⟨rest, hrest, rfl⟩
    rw [String.toList_ofList]
    exact dropBytesList_eq_some_iff.1 hrest
  · intro h
    exact ⟨t.toList, dropBytesList_eq_some_iff.2 h, String.ofList_toList⟩

/-- A slice is what stands between two beginnings. -/
theorem slice_append {s : String} {before : List Char} (h : s.toList = before ++ cs ++ ds) :
    slice s (sizeList before) (sizeList (before ++ cs)) = some (String.ofList cs) := by
  have htake : takeBytes s (sizeList (before ++ cs)) = some (String.ofList (before ++ cs)) := by
    rw [takeBytes, takeBytesList_eq_some_iff.2 ⟨⟨ds, h.symm⟩, rfl⟩]
    rfl
  rw [slice, htake]
  apply dropBytes_eq_some_iff.2
  exact ⟨before, by rw [String.toList_ofList, String.toList_ofList], rfl⟩

/-! ## Replacement -/

private theorem replaceFrom_skip (hlen : n ≤ cs.length) :
    replaceFrom pat rep n cs = replaceFrom pat rep 0 (cs.drop n) := by
  induction n generalizing cs with
  | zero => rfl
  | succ n ih =>
    cases cs with
    | nil => simp at hlen
    | cons c cs =>
      rw [replaceFrom, List.drop_succ_cons]
      exact ih (by simpa using hlen)

/-- An occurrence at the start is replaced. -/
theorem replaceList_pat_append (hpat : pat ≠ []) :
    replaceList pat rep (pat ++ cs) = rep ++ replaceList pat rep cs := by
  obtain ⟨p, ps, rfl⟩ := List.exists_cons_of_ne_nil hpat
  have hbegins : (p :: ps).isPrefixOf (p :: ps ++ cs) = true :=
    List.isPrefixOf_iff_prefix.2 (List.prefix_append _ _)
  rw [replaceList, List.cons_append, replaceFrom, ← List.cons_append, if_pos hbegins,
    List.length_cons, Nat.add_sub_cancel, replaceFrom_skip (by simp), List.drop_left]
  rfl

/-- A character at which no occurrence starts stays. -/
theorem replaceList_cons {c : Char} (h : ¬ pat <+: c :: cs) :
    replaceList pat rep (c :: cs) = c :: replaceList pat rep cs := by
  rw [replaceList, replaceFrom, if_neg (by rwa [List.isPrefixOf_iff_prefix])]
  rfl

/-- A beginning in which no occurrence starts stays. -/
theorem replaceList_append (h : ∀ u, u ≠ [] → u <:+ cs → ¬ pat <+: u ++ ds) :
    replaceList pat rep (cs ++ ds) = cs ++ replaceList pat rep ds := by
  induction cs with
  | nil => rfl
  | cons c cs ih =>
    have hhere : ¬ pat <+: c :: (cs ++ ds) := h (c :: cs) (by simp) (List.suffix_refl _)
    have hrest := ih fun u hne hu => h u hne (hu.trans (List.suffix_cons c cs))
    rw [List.cons_append, replaceList_cons hhere, hrest, List.cons_append]

/-- A beginning without occurrences stays if none of its ends begins an
occurrence that goes on in the rest. -/
theorem replaceList_append_of_not_infix (h : ¬ pat <:+: cs)
    (hend : ∀ u, u ≠ [] → u <:+ cs → u.length < pat.length → ¬ pat <+: u ++ ds) :
    replaceList pat rep (cs ++ ds) = cs ++ replaceList pat rep ds := by
  apply replaceList_append
  intro u hne hu hbegins
  by_cases hlen : u.length < pat.length
  · exact hend u hne hu hlen hbegins
  · have hpat : pat <+: u := List.prefix_of_prefix_length_le hbegins (List.prefix_append u ds)
      (by omega)
    exact h (hpat.isInfix.trans hu.isInfix)

/-- A text without occurrences stays. -/
theorem replaceList_of_not_infix (h : ¬ pat <:+: cs) : replaceList pat rep cs = cs := by
  have hstay : replaceList pat rep (cs ++ []) = cs ++ replaceList pat rep [] := by
    apply replaceList_append
    intro u _ hu hbegins
    rw [List.append_nil] at hbegins
    exact h (hbegins.isInfix.trans hu.isInfix)
  simpa [replaceList, replaceFrom] using hstay

/-- A replacement that is not longer makes no text longer. -/
theorem length_replaceList_le (hrep : rep.length ≤ pat.length) (hpat : pat ≠ [])
    (cs : List Char) : (replaceList pat rep cs).length ≤ cs.length := by
  induction hn : cs.length using Nat.strongRecOn generalizing cs with
  | ind n ih =>
    by_cases hbegins : pat <+: cs
    · obtain ⟨rest, rfl⟩ := hbegins
      have hpos : 0 < pat.length := List.length_pos_of_ne_nil hpat
      rw [List.length_append] at hn
      have hrest := ih rest.length (by omega) rest rfl
      rw [replaceList_pat_append hpat, List.length_append]
      omega
    · cases cs with
      | nil => exact Nat.zero_le _
      | cons c cs =>
        rw [List.length_cons] at hn
        have hrest := ih cs.length (by omega) cs rfl
        rw [replaceList_cons hbegins, List.length_cons]
        omega

/-- A shorter replacement makes a text with an occurrence shorter. -/
theorem length_replaceList_lt (hrep : rep.length < pat.length) (h : pat <:+: cs) :
    (replaceList pat rep cs).length < cs.length := by
  have hpat : pat ≠ [] := List.ne_nil_of_length_pos (by omega)
  induction cs with
  | nil => exact absurd (List.infix_nil.1 h) hpat
  | cons c cs ih =>
    by_cases hbegins : pat <+: c :: cs
    · obtain ⟨rest, hrest⟩ := hbegins
      have hle := length_replaceList_le (Nat.le_of_lt hrep) hpat rest
      rw [← hrest, replaceList_pat_append hpat, List.length_append, List.length_append]
      omega
    · have hoccurs : pat <:+: cs := (List.infix_cons_iff.1 h).resolve_left hbegins
      rw [replaceList_cons hbegins, List.length_cons, List.length_cons]
      exact Nat.succ_lt_succ (ih hoccurs)

/-- A shorter replacement leaves exactly the texts without occurrences. -/
theorem replaceList_eq_self_iff (hrep : rep.length < pat.length) :
    replaceList pat rep cs = cs ↔ ¬ pat <:+: cs := by
  constructor
  · intro hsame hoccurs
    have hlt := length_replaceList_lt hrep hoccurs
    rw [hsame] at hlt
    exact Nat.lt_irrefl _ hlt
  · exact replaceList_of_not_infix

/-- A shorter replacement that does not make a text shorter leaves it. -/
theorem replaceList_eq_self_of_length (hrep : rep.length < pat.length)
    (h : cs.length ≤ (replaceList pat rep cs).length) : replaceList pat rep cs = cs := by
  apply replaceList_of_not_infix
  intro hoccurs
  have hlt := length_replaceList_lt hrep hoccurs
  omega

/-- The first character of a text stays if no occurrence starts with it. -/
theorem replaceList_cons_of_head {c : Char} (h : pat.head? ≠ some c) (hpat : pat ≠ []) :
    replaceList pat rep (c :: cs) = c :: replaceList pat rep cs := by
  apply replaceList_cons
  intro hbegins
  obtain ⟨p, ps, rfl⟩ := List.exists_cons_of_ne_nil hpat
  rw [(List.cons_prefix_cons.1 hbegins).1] at h
  exact h rfl

end KlassGateway.Lib.Text
