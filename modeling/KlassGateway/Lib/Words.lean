import KlassGateway.Lib.Text
import Mathlib.Data.List.Chain
import Mathlib.Data.List.DropRight
/-!
# Words

The words of a text are the parts between its separators that are not empty,
so how many separators stand between two words, and what stands before the
first and after the last, does not count.

* `wordsList_append_cons`: a word is read off at the first separator.
* `trim_collapse`: collapsing white space and trimming leaves the words with
  one blank between them.
* `tidy_joinWords`, `Tidy.trim_collapse`: what is left is tidy, and a tidy text
  is left as it is.
-/

namespace KlassGateway.Lib.Text

/-- The words of a character list, as `split(sep)` without the empty parts. -/
def wordsList (sep : Char → Bool) (cs : List Char) : List (List Char) :=
  (cs.splitOnP sep).filter (!·.isEmpty)

/-- Words with one blank between any two. -/
def joinWords (ws : List (List Char)) : List Char := [' '].intercalate ws

variable {sep : Char → Bool} {c : Char} {w cs : List Char}

@[simp] theorem wordsList_cons_sep (hc : sep c = true) :
    wordsList sep (c :: cs) = wordsList sep cs := by
  simp [wordsList, List.splitOnP_cons_eq_if_modifyHead, hc]

/-- A text without separators is one word. -/
theorem wordsList_word (hne : w ≠ []) (hw : ∀ d ∈ w, sep d = false) : wordsList sep w = [w] := by
  simp [wordsList, List.splitOnP_eq_singleton hw, hne]

/-- A word is read off at the first separator. -/
theorem wordsList_append_cons (hne : w ≠ []) (hw : ∀ d ∈ w, sep d = false) (hc : sep c = true) :
    wordsList sep (w ++ c :: cs) = w :: wordsList sep cs := by
  simp [wordsList, List.splitOnP_append_cons_of_forall_mem hw c hc, hne]

theorem ne_nil_of_mem_wordsList (h : w ∈ wordsList sep cs) : w ≠ [] := by
  simpa using (List.mem_filter.1 h).2

private theorem sep_of_mem_splitOnP (h : w ∈ cs.splitOnP sep) : ∀ d ∈ w, sep d = false := by
  induction cs generalizing w with
  | nil =>
    rw [List.splitOnP_nil, List.mem_singleton] at h
    simp [h]
  | cons c cs ih =>
    rw [List.splitOnP_cons_eq_if_modifyHead] at h
    split at h
    · rcases List.mem_cons.1 h with rfl | hmem
      · simp
      · exact ih hmem
    · next hc =>
      obtain ⟨first, rest, hsplit⟩ := List.exists_cons_of_ne_nil (List.splitOnP_ne_nil sep cs)
      rw [hsplit, List.modifyHead_cons] at h
      rcases List.mem_cons.1 h with rfl | hmem
      · intro d hd
        rcases List.mem_cons.1 hd with rfl | hd
        · simpa using hc
        · exact ih (hsplit ▸ List.mem_cons_self ..) d hd
      · exact ih (hsplit ▸ List.mem_cons_of_mem _ hmem)

/-- A word holds no separator. -/
theorem sep_of_mem_wordsList (h : w ∈ wordsList sep cs) : ∀ d ∈ w, sep d = false :=
  sep_of_mem_splitOnP (List.mem_filter.1 h).1

/-! ## Joining -/

@[simp] theorem joinWords_nil : joinWords [] = [] := rfl

@[simp] theorem joinWords_singleton : joinWords [w] = w := List.intercalate_singleton

theorem joinWords_cons {ws : List (List Char)} (h : ws ≠ []) :
    joinWords (w :: ws) = w ++ ' ' :: joinWords ws := by
  rw [joinWords, List.intercalate_cons_of_ne_nil h]
  simp [joinWords]

/-! ## Collapsing white space -/

/-- `trim_end` of a character list. -/
def trimEndList (cs : List Char) : List Char := cs.rdropWhile isWhitespace

theorem trimEndList_append_of_ne_nil {ds : List Char} (h : trimEndList ds ≠ []) :
    trimEndList (cs ++ ds) = cs ++ trimEndList ds := by
  simp only [trimEndList, List.rdropWhile, ne_eq, List.reverse_eq_nil_iff] at h ⊢
  simp [List.dropWhile_append, h]

theorem trimEndList_append_of_nil {ds : List Char} (h : trimEndList ds = []) :
    trimEndList (cs ++ ds) = trimEndList cs := by
  simp only [trimEndList, List.rdropWhile, List.reverse_eq_nil_iff] at h ⊢
  simp [List.dropWhile_append, h]

theorem trimEndList_word (hw : ∀ d ∈ w, isWhitespace d = false) : trimEndList w = w := by
  rw [trimEndList, List.rdropWhile_eq_self_iff]
  intro hne
  simp [hw _ (List.getLast_mem hne)]

theorem joinWords_eq_nil {ws : List (List Char)} (hne : ∀ v ∈ ws, v ≠ []) :
    joinWords ws = [] ↔ ws = [] := by
  cases ws with
  | nil => simp
  | cons v ws =>
    have hv := hne v (List.mem_cons_self ..)
    by_cases hnil : ws = []
    · simp [hnil, hv]
    · simp [joinWords_cons hnil]

/-- Inside white space the next word starts afresh; inside a word, `w` is what
was read of it. -/
private theorem trimEnd_collapse (cs : List Char) :
    trimEndList (collapseList true cs) = joinWords (wordsList isWhitespace cs) ∧
      ∀ w, w ≠ [] → (∀ d ∈ w, isWhitespace d = false) →
        trimEndList (w ++ collapseList false cs) = joinWords (wordsList isWhitespace (w ++ cs)) := by
  induction cs with
  | nil =>
    constructor
    · rfl
    · intro w hne hw
      rw [collapseList, List.append_nil, wordsList_word hne hw, joinWords_singleton,
        trimEndList_word hw]
  | cons c cs ih =>
    by_cases hc : isWhitespace c = true
    · constructor
      · rw [wordsList_cons_sep hc, ← ih.1]
        simp [collapseList, hc]
      · intro w hne hw
        have hcollapse : collapseList false (c :: cs) = ' ' :: collapseList true cs := by
          simp [collapseList, hc]
        rw [hcollapse, wordsList_append_cons hne hw hc]
        by_cases hnil : wordsList isWhitespace cs = []
        · have hrest : trimEndList (' ' :: collapseList true cs) = [] := by
            rw [← List.singleton_append, trimEndList_append_of_nil (by rw [ih.1, hnil]; rfl)]
            rfl
          rw [trimEndList_append_of_nil hrest, trimEndList_word hw, hnil, joinWords_singleton]
        · have hne' : trimEndList (collapseList true cs) ≠ [] := by
            rwa [ih.1, ne_eq, joinWords_eq_nil fun _ => ne_nil_of_mem_wordsList]
          have hrest : trimEndList (' ' :: collapseList true cs) =
              ' ' :: joinWords (wordsList isWhitespace cs) := by
            rw [← List.singleton_append, trimEndList_append_of_ne_nil hne', ih.1]
            rfl
          rw [trimEndList_append_of_ne_nil (by rw [hrest]; simp), hrest, joinWords_cons hnil]
    · have hcollapse (prev : Bool) : collapseList prev (c :: cs) = c :: collapseList false cs := by
        simp [collapseList, hc]
      have hchar : isWhitespace c = false := by simpa using hc
      constructor
      · rw [hcollapse]
        exact ih.2 [c] (by simp) (by simpa using hchar)
      · intro w _ hw
        have hnext := ih.2 (w ++ [c]) (by simp) (by
          intro d hd
          rcases List.mem_append.1 hd with hd | hd
          · exact hw d hd
          · rwa [List.mem_singleton.1 hd])
        simpa [hcollapse] using hnext

/-- No blank stands first where white space was just read. -/
private theorem dropWhile_collapse (cs : List Char) :
    (collapseList true cs).dropWhile isWhitespace = collapseList true cs := by
  induction cs with
  | nil => rfl
  | cons c cs ih =>
    by_cases hc : isWhitespace c = true
    · simpa [collapseList, hc] using ih
    · simp [collapseList, hc]

/-- Collapsing white space and trimming leaves the words with one blank between
any two. -/
theorem trim_collapse (cs : List Char) :
    trimList (collapseList false cs) = joinWords (wordsList isWhitespace cs) := by
  have hstart : (collapseList false cs).dropWhile isWhitespace = collapseList true cs := by
    cases cs with
    | nil => rfl
    | cons c cs =>
      by_cases hc : isWhitespace c = true
      · have hblank : isWhitespace ' ' = true := by decide
        simp [collapseList, hc, hblank, dropWhile_collapse]
      · simp [collapseList, hc]
  have htrim : trimList (collapseList false cs) = trimEndList (collapseList true cs) := by
    rw [trimList, hstart]
    rfl
  rw [htrim]
  exact (trimEnd_collapse cs).1

/-! ## Tidy texts -/

/-- No white space at either end, and no two white space characters in a row. -/
structure Tidy (cs : List Char) : Prop where
  first : ∀ c ∈ cs.head?, isWhitespace c = false
  last : ∀ c ∈ cs.getLast?, isWhitespace c = false
  apart : cs.IsChain fun c d => isWhitespace c = true → isWhitespace d = false

theorem tidy_word (hw : ∀ d ∈ w, isWhitespace d = false) : Tidy w where
  first c hc := hw c (List.mem_of_head? hc)
  last c hc := hw c (List.mem_of_getLast? hc)
  apart := by
    induction w with
    | nil => exact .nil
    | cons c w ih =>
      have hc : isWhitespace c = false := hw c (List.mem_cons_self ..)
      have hrest := ih fun d hd => hw d (List.mem_cons_of_mem _ hd)
      refine List.isChain_cons.2 ⟨fun d _ h => ?_, hrest⟩
      rw [hc] at h
      cases h

/-- Words with one blank between any two are tidy. -/
theorem tidy_joinWords {ws : List (List Char)} (hne : ∀ v ∈ ws, v ≠ [])
    (hws : ∀ v ∈ ws, ∀ d ∈ v, isWhitespace d = false) : Tidy (joinWords ws) := by
  induction ws with
  | nil => exact tidy_word (by simp)
  | cons v ws ih =>
    have hv := hne v (List.mem_cons_self ..)
    have hword := tidy_word (hws v (List.mem_cons_self ..))
    have hne' : ∀ u ∈ ws, u ≠ [] := fun u hu => hne u (List.mem_cons_of_mem _ hu)
    have hrest := ih hne' fun u hu => hws u (List.mem_cons_of_mem _ hu)
    by_cases hnil : ws = []
    · subst hnil
      rwa [joinWords_singleton]
    · have hjoin : joinWords ws ≠ [] := mt (joinWords_eq_nil hne').1 hnil
      rw [joinWords_cons hnil]
      refine ⟨?_, ?_, ?_⟩
      · rw [List.head?_append_of_ne_nil _ hv]
        exact hword.first
      · rw [List.getLast?_append_of_ne_nil _ (by simp), List.getLast?_cons_of_ne_nil hjoin]
        exact hrest.last
      · refine List.isChain_append.2 ⟨hword.apart, List.isChain_cons.2 ⟨?_, hrest.apart⟩, ?_⟩
        · exact fun d hd _ => hrest.first d hd
        · intro c hc d _ hspace
          rw [hword.last c hc] at hspace
          cases hspace

/-- A beginning of a tidy text that does not end in white space is tidy. -/
theorem Tidy.of_beginning {ds : List Char} (h : Tidy cs) (hbegins : ds <+: cs)
    (hlast : ∀ c ∈ ds.getLast?, isWhitespace c = false) : Tidy ds where
  first c hc := by
    obtain ⟨rest, rfl⟩ := hbegins
    apply h.first
    cases ds with
    | nil => cases hc
    | cons d ds => exact hc
  last := hlast
  apart := by
    obtain ⟨rest, rfl⟩ := hbegins
    exact (List.isChain_append.1 h.apart).1

/-- What was trimmed does not end in white space. -/
theorem getLast?_trimList : ∀ c ∈ (trimList cs).getLast?, isWhitespace c = false := by
  intro c hc
  have hne : trimList cs ≠ [] := by
    intro hnil
    rw [hnil] at hc
    cases hc
  have hlast : c = (trimList cs).getLast hne := by
    rw [List.getLast?_eq_getLast_of_ne_nil hne] at hc
    exact (Option.some.inj hc).symm
  have hspace := List.rdropWhile_last_not isWhitespace (cs.dropWhile isWhitespace) hne
  rw [hlast]
  exact Bool.eq_false_iff.2 hspace

/-- What is trimmed stands in the text after nothing but white space. -/
theorem exists_eq_append_trimList (cs : List Char) :
    ∃ gap more, cs = gap ++ trimList cs ++ more ∧ ∀ c ∈ gap, isWhitespace c = true := by
  obtain ⟨more, hmore⟩ := List.rdropWhile_prefix isWhitespace (l := cs.dropWhile isWhitespace)
  refine ⟨cs.takeWhile isWhitespace, more, ?_, fun c hc => List.mem_takeWhile_imp hc⟩
  have htrim : trimList cs ++ more = cs.dropWhile isWhitespace := hmore
  rw [List.append_assoc, htrim, List.takeWhile_append_dropWhile]

/-- Trimming stops at both ends of a part that begins and ends in no white space. -/
theorem trimList_append_append {c d : Char} {rest init : List Char} (hfirst : cs = c :: rest)
    (hc : isWhitespace c = false) (hlast : cs = init ++ [d]) (hd : isWhitespace d = false)
    (before after : List Char) :
    trimList (before ++ cs ++ after) =
      before.dropWhile isWhitespace ++ cs ++ trimEndList after := by
  have hstart : (before ++ cs ++ after).dropWhile isWhitespace =
      before.dropWhile isWhitespace ++ cs ++ after := by
    have hpart : (cs ++ after).dropWhile isWhitespace = cs ++ after := by
      rw [hfirst, List.cons_append, List.dropWhile_cons_of_neg (by simp [hc])]
    rw [List.append_assoc, List.dropWhile_append, hpart, List.append_assoc]
    split
    · next hnil => rw [List.isEmpty_iff.1 hnil, List.nil_append]
    · rfl
  show trimEndList ((before ++ cs ++ after).dropWhile isWhitespace) = _
  rw [hstart]
  by_cases hafter : trimEndList after = []
  · rw [trimEndList_append_of_nil hafter, hafter, List.append_nil, hlast, ← List.append_assoc]
    exact List.rdropWhile_concat_neg _ _ _ (by simp [hd])
  · exact trimEndList_append_of_ne_nil hafter

theorem trimList_eq_self (hfirst : ∀ c ∈ cs.head?, isWhitespace c = false)
    (hlast : ∀ c ∈ cs.getLast?, isWhitespace c = false) : trimList cs = cs := by
  have hstart : cs.dropWhile isWhitespace = cs := by
    cases cs with
    | nil => rfl
    | cons c cs => simp [hfirst c rfl]
  rw [trimList, hstart]
  show cs.rdropWhile isWhitespace = cs
  rw [List.rdropWhile_eq_self_iff]
  intro hne
  simp [hlast _ (List.getLast?_eq_getLast_of_ne_nil hne)]

/-- Only a blank is left of any white space. -/
theorem eq_blank_of_mem_collapseList {prev : Bool} (h : c ∈ collapseList prev cs)
    (hc : isWhitespace c = true) : c = ' ' := by
  induction cs generalizing prev with
  | nil => cases h
  | cons d cs ih =>
    unfold collapseList at h
    split at h
    · split at h
      · exact ih h
      · rcases List.mem_cons.1 h with rfl | h
        · rfl
        · exact ih h
    · next hd =>
      rcases List.mem_cons.1 h with rfl | h
      · exact absurd hc hd
      · exact ih h

/-- Single blanks are left as they are. -/
theorem collapseList_eq_self {prev : Bool}
    (happart : cs.IsChain fun c d => isWhitespace c = true → isWhitespace d = false)
    (hblank : ∀ c ∈ cs, isWhitespace c = true → c = ' ')
    (hfirst : prev = true → ∀ c ∈ cs.head?, isWhitespace c = false) :
    collapseList prev cs = cs := by
  induction cs generalizing prev with
  | nil => rfl
  | cons c cs ih =>
    obtain ⟨hnext, hrest⟩ := List.isChain_cons.1 happart
    have hblank' : ∀ d ∈ cs, isWhitespace d = true → d = ' ' :=
      fun d hd => hblank d (List.mem_cons_of_mem _ hd)
    unfold collapseList
    split
    · next hc =>
      have hprev : ¬ prev = true := fun h => by
        rw [hfirst h c rfl] at hc
        cases hc
      rw [if_neg hprev, ih hrest hblank' fun _ d hd => hnext d hd hc,
        hblank c (List.mem_cons_self ..) hc]
    · rw [ih hrest hblank' (by simp)]

/-- A tidy text whose white space is blanks is left as it is. -/
theorem Tidy.trim_collapse (h : Tidy cs) (hblank : ∀ c ∈ cs, isWhitespace c = true → c = ' ') :
    trimList (collapseList false cs) = cs := by
  rw [collapseList_eq_self h.apart hblank (by simp), trimList_eq_self h.first h.last]

end KlassGateway.Lib.Text
