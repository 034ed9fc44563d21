import KlassGateway.Lib.Text
import Mathlib.Data.List.TakeWhile
/-!
# Lengths of texts

A text has a length in characters and a size in bytes, and a bound may be on
either.  `String.length` counts characters and `String.utf8ByteSize` bytes;
the lemmas relate the two and say what `trim`, `takeChars` and `takeBytes` do
to the size.

* `length_le_utf8ByteSize`: a text has no more characters than bytes.
* `trim_trim`: what was trimmed stays as it is.
* `trim_eq_empty_iff`: only white space is trimmed to nothing.
* `takeBytesList_eq_some_iff`: a slice is the prefix with that many bytes.
* `utf8ByteSize_takeBytes`: a slice of `n` bytes has `n` bytes.
-/

namespace KlassGateway.Lib.Text

/-- The number of bytes of a character list. -/
def sizeList : List Char → Nat
  | [] => 0
  | c :: cs => c.utf8Size + sizeList cs

theorem utf8ByteSize_ofList (cs : List Char) : (String.ofList cs).utf8ByteSize = sizeList cs := by
  induction cs with
  | nil => rfl
  | cons c cs ih =>
    rw [← List.singleton_append, String.ofList_append, String.utf8ByteSize_append, ih,
      ← String.singleton_eq_ofList, String.utf8ByteSize_singleton]
    rfl

theorem utf8ByteSize_eq (s : String) : s.utf8ByteSize = sizeList s.toList := by
  rw [← utf8ByteSize_ofList, String.ofList_toList]

theorem sizeList_append (cs ds : List Char) : sizeList (cs ++ ds) = sizeList cs + sizeList ds := by
  induction cs with
  | nil => simp [sizeList]
  | cons c cs ih => simp [sizeList, ih, Nat.add_assoc]

theorem length_le_sizeList (cs : List Char) : cs.length ≤ sizeList cs := by
  induction cs with
  | nil => exact Nat.le_refl _
  | cons c cs ih =>
    have hc : 0 < c.utf8Size := c.utf8Size_pos
    simp only [List.length_cons, sizeList]
    omega

/-- A text has no more characters than bytes. -/
theorem length_le_utf8ByteSize (s : String) : s.length ≤ s.utf8ByteSize := by
  rw [utf8ByteSize_eq, ← String.length_toList]
  exact length_le_sizeList _

theorem utf8ByteSize_pos_iff {s : String} : 1 ≤ s.utf8ByteSize ↔ s ≠ "" := by
  rw [Nat.one_le_iff_ne_zero, ne_eq, String.utf8ByteSize_eq_zero_iff]

theorem length_pos_iff {s : String} : 1 ≤ s.length ↔ s ≠ "" := by
  rw [Nat.one_le_iff_ne_zero, ne_eq, String.length_eq_zero_iff]

/-! ## Trimming -/

theorem isWhitespace_of_isDigit {c : Char} (h : c.isDigit = true) : isWhitespace c = false := by
  have hrange : 48 ≤ c.toNat ∧ c.toNat ≤ 57 := by
    rw [Char.isDigit, Bool.and_eq_true, decide_eq_true_eq, decide_eq_true_eq] at h
    exact h
  by_contra hspace
  simp [isWhitespace] at hspace
  omega

/-- The last character that is kept is no white space. -/
private theorem head_dropWhile {p : Char → Bool} {cs : List Char} {c : Char} {ds : List Char}
    (h : cs.dropWhile p = c :: ds) : p c = false := by
  induction cs with
  | nil => simp at h
  | cons d cs ih =>
    by_cases hd : p d = true
    · exact ih (by simpa [hd] using h)
    · simp only [List.dropWhile_cons, hd] at h
      simp only [Bool.not_eq_true] at hd
      obtain ⟨rfl, _⟩ := List.cons.inj h
      exact hd

private theorem dropWhile_dropWhile (p : Char → Bool) (cs : List Char) :
    (cs.dropWhile p).dropWhile p = cs.dropWhile p := by
  cases h : cs.dropWhile p with
  | nil => rfl
  | cons c ds => simp [head_dropWhile h]

/-- Dropping at the end leaves the beginning as it is. -/
private theorem dropWhile_reverse_dropWhile {p : Char → Bool} {cs : List Char}
    (h : cs.dropWhile p = cs) :
    ((cs.reverse.dropWhile p).reverse).dropWhile p = (cs.reverse.dropWhile p).reverse := by
  cases cs with
  | nil => rfl
  | cons c cs =>
    have hc : p c = false := head_dropWhile h
    have hrest : (c :: cs).reverse.dropWhile p = cs.reverse.dropWhile p ++ [c] := by
      rw [List.reverse_cons, List.dropWhile_append]
      split
      · next hnil =>
        rw [List.isEmpty_iff.1 hnil, List.dropWhile_cons_of_neg (by simp [hc])]
        rfl
      · rfl
    rw [hrest, List.reverse_append, List.reverse_singleton, List.singleton_append,
      List.dropWhile_cons_of_neg (by simp [hc])]

theorem trimList_trimList (cs : List Char) : trimList (trimList cs) = trimList cs := by
  have hstart := dropWhile_reverse_dropWhile (dropWhile_dropWhile isWhitespace cs)
  unfold trimList
  rw [hstart, List.reverse_reverse, dropWhile_dropWhile]

/-- What was trimmed stays as it is. -/
@[simp] theorem trim_trim (s : String) : trim (trim s) = trim s := by
  unfold trim
  rw [String.toList_ofList, trimList_trimList]

/-- A text that is not blank is not empty. -/
theorem ne_empty_of_trim {s : String} (h : trim s ≠ "") : s ≠ "" := by
  rintro rfl
  exact h rfl

/-- A text is blank when all of its characters are white space. -/
theorem trim_eq_empty_iff {s : String} :
    trim s = "" ↔ ∀ c ∈ s.toList, isWhitespace c = true := by
  have hlist : trim s = "" ↔ trimList s.toList = [] := by
    unfold trim
    rw [String.ofList_eq_empty_iff]
  rw [hlist, trimList, List.reverse_eq_nil_iff, List.dropWhile_eq_nil_iff]
  constructor
  · intro h
    have hall : ∀ c ∈ s.toList.dropWhile isWhitespace, isWhitespace c = true :=
      fun c hc => h c (List.mem_reverse.2 hc)
    intro c hc
    by_contra hne
    cases hdrop : s.toList.dropWhile isWhitespace with
    | nil => exact hne (List.dropWhile_eq_nil_iff.1 hdrop c hc)
    | cons d ds =>
      have hd : isWhitespace d = false := by
        simpa using head_dropWhile hdrop
      rw [hall d (by simp [hdrop])] at hd
      cases hd
  · intro h c hc
    exact h c ((List.dropWhile_sublist _).subset (List.mem_reverse.1 hc))

/-- A text of one repeated letter has nothing to trim. -/
theorem trim_replicate {n : Nat} {c : Char} (h : isWhitespace c = false) :
    trim (String.ofList (List.replicate n c)) = String.ofList (List.replicate n c) := by
  have hdrop : (List.replicate n c).dropWhile isWhitespace = List.replicate n c := by
    cases n with
    | zero => rfl
    | succ n => simp [List.replicate_succ, h]
  simp [trim, trimList, hdrop]

/-- A text without white space has nothing to trim. -/
theorem trimList_of_forall {cs : List Char} (h : ∀ c ∈ cs, isWhitespace c = false) :
    trimList cs = cs := by
  have hdrop : ∀ ds : List Char, (∀ c ∈ ds, isWhitespace c = false) →
      ds.dropWhile isWhitespace = ds := by
    intro ds hds
    cases ds with
    | nil => rfl
    | cons d ds => exact List.dropWhile_cons_of_neg (by simp [hds d])
  unfold trimList
  rw [hdrop cs h, hdrop cs.reverse fun c hc => h c (List.mem_reverse.1 hc), List.reverse_reverse]

theorem isWhitespace_of_mem_parseDigits {cs : List Char} {n : Nat} (h : parseDigits cs = some n)
    {c : Char} (hc : c ∈ cs) : isWhitespace c = false := by
  rw [parseDigits, Option.ite_none_right_eq_some, Bool.and_eq_true, List.all_eq_true] at h
  exact isWhitespace_of_isDigit (h.1.2 c hc)

/-- A number has no white space around it. -/
theorem trimList_of_parseSigned {cs : List Char} {i : Int} (h : parseSigned cs = some i) :
    trimList cs = cs := by
  have hdigits : ∀ {ds : List Char} {f : Int → Int},
      Option.map f (parseDigits ds >>= fun n => pure (n : Int)) = some i →
      ∀ c ∈ ds, isWhitespace c = false := by
    intro ds f hf c hc
    cases hds : parseDigits ds with
    | none =>
      rw [hds] at hf
      cases hf
    | some n => exact isWhitespace_of_mem_parseDigits hds hc
  apply trimList_of_forall
  intro c hc
  unfold parseSigned at h
  split at h
  · rcases List.mem_cons.1 hc with rfl | hc
    · decide
    · exact hdigits h c hc
  · rcases List.mem_cons.1 hc with rfl | hc
    · decide
    · exact hdigits h c hc
  · exact hdigits h c hc

theorem utf8ByteSize_replicate (n : Nat) (c : Char) :
    (String.ofList (List.replicate n c)).utf8ByteSize = n * c.utf8Size := by
  rw [utf8ByteSize_ofList]
  induction n with
  | zero => simp [sizeList]
  | succ n ih =>
    rw [List.replicate_succ, sizeList, ih, Nat.add_one_mul, Nat.add_comm]

private theorem sizeList_dropWhile_le (p : Char → Bool) (cs : List Char) :
    sizeList (cs.dropWhile p) ≤ sizeList cs := by
  induction cs with
  | nil => exact Nat.le_refl _
  | cons c cs ih =>
    rw [List.dropWhile_cons]
    split
    · simp only [sizeList]
      omega
    · exact Nat.le_refl _

private theorem sizeList_reverse (cs : List Char) : sizeList cs.reverse = sizeList cs := by
  induction cs with
  | nil => rfl
  | cons c cs ih =>
    rw [List.reverse_cons, sizeList_append, ih]
    simp only [sizeList]
    omega

/-- Trimming makes no text longer. -/
theorem utf8ByteSize_trim_le (s : String) : (trim s).utf8ByteSize ≤ s.utf8ByteSize := by
  rw [trim, utf8ByteSize_ofList, utf8ByteSize_eq, trimList, sizeList_reverse]
  have hend := sizeList_dropWhile_le isWhitespace (s.toList.dropWhile isWhitespace).reverse
  have hstart := sizeList_dropWhile_le isWhitespace s.toList
  rw [sizeList_reverse] at hend
  omega

theorem sizeList_collapseList_le (prev : Bool) (cs : List Char) :
    sizeList (collapseList prev cs) ≤ sizeList cs := by
  induction cs generalizing prev with
  | nil => exact Nat.le_refl _
  | cons c cs ih =>
    have hc : 0 < c.utf8Size := c.utf8Size_pos
    have hblank : ' '.utf8Size = 1 := by decide
    have htrue := ih true
    have hfalse := ih false
    unfold collapseList
    split
    · split
      · simp only [sizeList]
        omega
      · simp only [sizeList]
        omega
    · simp only [sizeList]
      omega

/-- Collapsing white space makes no text longer. -/
theorem utf8ByteSize_collapseWhitespace_le (s : String) :
    (collapseWhitespace s).utf8ByteSize ≤ s.utf8ByteSize := by
  rw [collapseWhitespace, utf8ByteSize_ofList, utf8ByteSize_eq]
  exact sizeList_collapseList_le false _

/-! ## Prefixes -/

theorem length_takeChars (s : String) (n : Nat) : (takeChars s n).length = min n s.length := by
  rw [takeChars, String.length_ofList, List.length_take, String.length_toList]

/-- A prefix that takes all characters is the whole text. -/
theorem takeChars_of_length_le {s : String} {n : Nat} (h : s.length ≤ n) : takeChars s n = s := by
  rw [takeChars, List.take_of_length_le (by rwa [String.length_toList]), String.ofList_toList]

private theorem sizeList_takeBytesList {cs ds : List Char} {n : Nat}
    (h : takeBytesList cs n = some ds) : sizeList ds = n := by
  induction cs generalizing n ds with
  | nil =>
    unfold takeBytesList at h
    split at h
    · next hn =>
      cases h
      exact hn.symm
    · cases h
  | cons c cs ih =>
    unfold takeBytesList at h
    split at h
    · next hn =>
      cases h
      exact hn.symm
    · split at h
      · next hc =>
        obtain ⟨es, hes, rfl⟩ := Option.map_eq_some_iff.1 h
        have hsize := ih hes
        simp only [sizeList]
        omega
      · cases h

theorem takeBytesList_append (cs ds : List Char) : takeBytesList (cs ++ ds) (sizeList cs) = some cs := by
  induction cs with
  | nil =>
    cases ds with
    | nil => rfl
    | cons d ds => rfl
  | cons c cs ih =>
    have hc : 0 < c.utf8Size := c.utf8Size_pos
    have hsize : c.utf8Size + sizeList cs ≠ 0 := by omega
    simp only [List.cons_append, takeBytesList, sizeList, if_neg hsize]
    rw [if_pos (Nat.le_add_right _ _), Nat.add_sub_cancel_left, ih]
    rfl

private theorem prefix_of_takeBytesList {cs ds : List Char} {n : Nat}
    (h : takeBytesList cs n = some ds) : ds <+: cs := by
  induction cs generalizing n ds with
  | nil =>
    unfold takeBytesList at h
    split at h <;> cases h
    exact List.prefix_refl _
  | cons c cs ih =>
    unfold takeBytesList at h
    split at h
    · cases h
      exact List.nil_prefix
    · split at h
      · obtain ⟨es, hes, rfl⟩ := Option.map_eq_some_iff.1 h
        exact List.cons_prefix_cons.2 ⟨rfl, ih hes⟩
      · cases h

/-- A slice up to `n` bytes is the prefix that has `n` bytes, if there is one. -/
theorem takeBytesList_eq_some_iff {cs ds : List Char} {n : Nat} :
    takeBytesList cs n = some ds ↔ ds <+: cs ∧ sizeList ds = n := by
  constructor
  · intro h
    exact ⟨prefix_of_takeBytesList h, sizeList_takeBytesList h⟩
  · rintro ⟨⟨rest, rfl⟩, rfl⟩
    exact takeBytesList_append ds rest

/-- A slice of `n` bytes has `n` bytes. -/
theorem utf8ByteSize_takeBytes {s t : String} {n : Nat} (h : takeBytes s n = some t) :
    t.utf8ByteSize = n := by
  obtain ⟨cs, hcs, rfl⟩ := Option.map_eq_some_iff.1 h
  rw [utf8ByteSize_ofList, sizeList_takeBytesList hcs]

end KlassGateway.Lib.Text
