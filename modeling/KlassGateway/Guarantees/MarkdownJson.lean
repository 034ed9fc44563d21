import KlassGateway.Providers.OpenRouter
import KlassGateway.Lib.JsonText
import KlassGateway.Lib.Words
/-!
# What the extraction of JSON keeps

Everything between the first opening and the last closing brace is taken for the
answer, so an object is found in any text without braces.  Of another value with
a brace pair somewhere in it, only a part is taken.

* `cleanMarkdownJson_of_braces` and `cleanMarkdownJson_of_no_pair`: the two ways.
* `stripFences_fenced`: what the fences leave.
* `cleanMarkdownJson_keeps_iff`: which values are kept.
-/

namespace KlassGateway.Providers

open Lib Lib.Text Lib.JsonText

variable {number : List Char → Option Json.Number} {v : Json} {cs ds t : List Char}

/-- An opening brace stands before a closing one. -/
def BracePair (cs : List Char) : Prop := ['{', '}'].Sublist cs

/-- No brace occurs. -/
def NoBraces (cs : List Char) : Prop := '{' ∉ cs ∧ '}' ∉ cs

/-- Only white space occurs. -/
def OnlySpace (cs : List Char) : Prop := ∀ c ∈ cs, isWhitespace c = true

/-! ## The two ways -/

/-- What stands between the first opening and the last closing brace is taken. -/
theorem cleanMarkdownJson_of_braces {raw : String} {before mid after : List Char}
    (hraw : trimList raw.toList = before ++ ('{' :: mid ++ ['}']) ++ after)
    (hbefore : '{' ∉ before) (hafter : '}' ∉ after) :
    cleanMarkdownJson raw = some (String.ofList ('{' :: mid ++ ['}'])) := by
  have htrim : (trim raw).toList = before ++ ('{' :: mid ++ ['}']) ++ after := by
    rw [trim, String.toList_ofList, hraw]
  have hfind : find (trim raw) "\x7b" = some (sizeList before) := by
    have hfirst : (trim raw).toList = before ++ '{' :: (mid ++ ['}'] ++ after) := by
      rw [htrim]
      simp
    rw [find, hfirst]
    exact findList_singleton hbefore
  have hrfind : rfind (trim raw) '}' = some (sizeList (before ++ '{' :: mid)) := by
    have hlast : (trim raw).toList = (before ++ '{' :: mid) ++ '}' :: after := by
      rw [htrim]
      simp
    rw [rfind, hlast]
    exact rfindList_append hafter
  have hsize : sizeList before < sizeList (before ++ '{' :: mid) := by
    have hbrace : ('{' : Char).utf8Size = 1 := rfl
    rw [sizeList_append, sizeList, hbrace]
    omega
  have hstop : sizeList (before ++ '{' :: mid) + 1 =
      sizeList (before ++ ('{' :: mid ++ ['}'])) := by
    rw [← List.append_assoc, sizeList_append (before ++ '{' :: mid)]
    rfl
  unfold cleanMarkdownJson
  simp only [hfind, hrfind]
  rw [if_pos hsize, hstop, slice_append htrim]

/-- Without a brace pair only the fences are taken away. -/
theorem cleanMarkdownJson_of_no_pair {raw : String} (h : ¬ BracePair (trimList raw.toList)) :
    cleanMarkdownJson raw = some (stripFences (trim raw)) := by
  unfold cleanMarkdownJson
  dsimp only
  split
  · next start stop hstart hstop =>
    rw [if_neg]
    intro hlt
    apply h
    have htrim : (trim raw).toList = trimList raw.toList := by
      rw [trim, String.toList_ofList]
    obtain ⟨a, rest, ha, hsizea⟩ := findList_eq_some hstart
    obtain ⟨b, after, hb, hsizeb⟩ := rfindList_eq_some hstop
    rw [htrim] at ha hb
    -- The beginning before the opening brace is the shorter one.
    have hsame : a ++ '{' :: rest = b ++ '}' :: after := by
      rw [← hb, ha, List.append_assoc]
      rfl
    rcases List.append_eq_append_iff.1 hsame with ⟨more, hmore, hrest⟩ | ⟨more, hmore, _⟩
    · cases more with
      | nil => cases hrest
      | cons d more =>
        obtain ⟨rfl, _⟩ := List.cons.inj hrest
        rw [hb, hmore]
        have hopen : ['{'].Sublist (a ++ '{' :: more) := List.singleton_sublist.2 (by simp)
        have hclose : ['}'].Sublist ('}' :: after) := List.singleton_sublist.2 (by simp)
        exact hopen.append hclose
    · rw [hmore, sizeList_append] at hsizea
      omega
  · rfl

/-- A brace pair has a first opening and a last closing brace. -/
theorem BracePair.split (h : BracePair cs) :
    ∃ before mid after, cs = before ++ ('{' :: mid ++ ['}']) ++ after ∧ '{' ∉ before ∧
      '}' ∉ after := by
  obtain ⟨left, right, rfl, hleft, hright⟩ := List.cons_sublist_iff.1 h
  obtain ⟨before, mid, rfl, hbefore⟩ := List.eq_append_cons_of_mem hleft
  have hclose : '}' ∈ right.reverse := List.mem_reverse.2 (List.singleton_sublist.1 hright)
  obtain ⟨after, mid', hmid', hafter⟩ := List.eq_append_cons_of_mem hclose
  have hsplit : right = mid'.reverse ++ '}' :: after.reverse := by
    rw [← List.reverse_reverse right, hmid']
    simp
  refine ⟨before, mid ++ mid'.reverse, after.reverse, ?_, hbefore, ?_⟩
  · rw [hsplit]
    simp
  · rwa [List.mem_reverse]

/-- Text without braces adds no brace pair. -/
theorem BracePair.of_append {before after : List Char}
    (h : BracePair (before ++ cs ++ after)) (hbefore : NoBraces before) (hafter : NoBraces after) :
    BracePair cs := by
  have hnone {ds : List Char} (hds : NoBraces ds) : ds.filter (· ∈ ['{', '}']) = [] := by
    rw [List.filter_eq_nil_iff]
    intro c hc hbrace
    rcases List.mem_cons.1 (of_decide_eq_true hbrace) with rfl | hclose
    · exact hds.1 hc
    · rw [List.mem_singleton.1 hclose] at hc
      exact hds.2 hc
  have hfilter := h.filter (· ∈ ['{', '}'])
  rw [List.filter_append, List.filter_append, hnone hbefore, hnone hafter, List.nil_append,
    List.append_nil] at hfilter
  exact hfilter.trans List.filter_sublist

/-! ## How a value begins and ends -/

/-- The character of the fences. -/
def backtick : Char := '\x60'

/-- A text that begins and ends like a value of JSON. -/
structure ValueEdges (cs : List Char) : Prop where
  first : ∃ c rest, cs = c :: rest ∧ isWhitespace c = false ∧ c ≠ backtick ∧ c ≠ 'j'
  last : ∃ init c, cs = init ++ [c] ∧ isWhitespace c = false ∧ c ≠ backtick

theorem digit_edge {c : Char} (h : c.isDigit = true) :
    isWhitespace c = false ∧ c ≠ backtick ∧ c ≠ 'j' := by
  refine ⟨isWhitespace_of_isDigit h, ?_, ?_⟩
  · rintro rfl
    cases h
  · rintro rfl
    cases h

/-- A value begins and ends in no white space, no fence and not like `json`. -/
theorem valueEdges (h : ValueText number v cs) : ValueEdges cs := by
  obtain ⟨c, rest, hcs, hfirst⟩ := h.head?
  constructor
  · refine ⟨c, rest, hcs, ?_⟩
    rcases hfirst with hfirst | hdigit
    · have hall : ∀ d ∈ ['n', 't', 'f', '"', '[', '{', '-'],
          isWhitespace d = false ∧ d ≠ backtick ∧ d ≠ 'j' := by
        simp only [List.forall_mem_cons, List.not_mem_nil, false_implies, implies_true, and_true]
        decide
      exact hall c hfirst
    · exact digit_edge hdigit
  · have hne : cs ≠ [] := by
      rw [hcs]
      exact List.cons_ne_nil _ _
    refine ⟨cs.dropLast, cs.getLast hne, (List.dropLast_append_getLast hne).symm, ?_⟩
    have hlast := h.getLast? _ (List.getLast?_eq_getLast_of_ne_nil hne)
    rcases hlast with hlast | hdigit
    · have hall : ∀ d ∈ ['l', 'e', '"', ']', '}'], isWhitespace d = false ∧ d ≠ backtick := by
        simp only [List.forall_mem_cons, List.not_mem_nil, false_implies, implies_true, and_true]
        decide
      exact hall _ hlast
    · exact ⟨(digit_edge hdigit).1, (digit_edge hdigit).2.1⟩

/-- Trimming stops at both ends of a value. -/
theorem ValueEdges.trimList_around (h : ValueEdges cs) (before after : List Char) :
    trimList (before ++ cs ++ after) =
      before.dropWhile isWhitespace ++ cs ++ trimEndList after := by
  obtain ⟨c, rest, hfirst, hc, _⟩ := h.first
  obtain ⟨init, d, hlast, hd, _⟩ := h.last
  exact trimList_append_append hfirst hc hlast hd before after

theorem OnlySpace.dropWhile (h : OnlySpace cs) : cs.dropWhile isWhitespace = [] :=
  List.dropWhile_eq_nil_iff.2 h

theorem OnlySpace.trimEnd (h : OnlySpace cs) : trimEndList cs = [] :=
  List.rdropWhile_eq_nil_iff.2 h

theorem OnlySpace.noBraces (h : OnlySpace cs) : NoBraces cs := by
  constructor <;> intro hbrace
  · cases h _ hbrace
  · cases h _ hbrace

theorem OnlySpace.append (hcs : OnlySpace cs) (hds : OnlySpace ds) : OnlySpace (cs ++ ds) := by
  intro c hc
  rcases List.mem_append.1 hc with hc | hc
  · exact hcs c hc
  · exact hds c hc

theorem onlySpace_nil : OnlySpace [] := fun _ hc => absurd hc List.not_mem_nil

theorem onlySpace_of_blank (h : Blank cs) : OnlySpace cs := by
  intro c hc
  rcases h c hc with rfl | rfl | rfl | rfl <;> rfl

/-- White space around a value is trimmed. -/
theorem ValueEdges.trimList_spaces (h : ValueEdges cs) {before after : List Char}
    (hbefore : OnlySpace before) (hafter : OnlySpace after) :
    trimList (before ++ cs ++ after) = cs := by
  rw [h.trimList_around, hbefore.dropWhile, hafter.trimEnd, List.nil_append, List.append_nil]

/-! ## Fences -/

/-- The fence. -/
def fence : List Char := [backtick, backtick, backtick]

theorem fence_eq : "```".toList = fence := rfl

/-- White space and a value begin neither with a fence nor with `json`. -/
theorem ValueEdges.first_of_spaces (h : ValueEdges cs) (hds : OnlySpace ds) (rest : List Char) :
    ∃ c more, ds ++ cs ++ rest = c :: more ∧ c ≠ backtick ∧ c ≠ 'j' := by
  cases ds with
  | nil =>
    obtain ⟨c, more, hcs, _, hc⟩ := h.first
    exact ⟨c, more ++ rest, by rw [hcs]; rfl, hc⟩
  | cons d ds =>
    have hd := hds d (List.mem_cons_self ..)
    refine ⟨d, ds ++ cs ++ rest, rfl, ?_, ?_⟩
    · rintro rfl
      cases hd
    · rintro rfl
      cases hd

/-- Neither a value nor white space after it ends in a fence. -/
theorem ValueEdges.not_fence_suffix (h : ValueEdges cs) (hds : OnlySpace ds) :
    ¬ fence <:+ cs ++ ds := by
  intro hsuffix
  have hlast : backtick ∈ (cs ++ ds).getLast? := by
    obtain ⟨before, hbefore⟩ := hsuffix
    rw [← hbefore, List.getLast?_append_of_ne_nil _ (by decide)]
    rfl
  by_cases hnil : ds = []
  · obtain ⟨init, c, hcs, _, hc⟩ := h.last
    rw [hnil, List.append_nil, hcs, List.getLast?_concat] at hlast
    exact hc (Option.some.inj hlast)
  · rw [List.getLast?_append_of_ne_nil _ hnil] at hlast
    have hspace := hds _ (List.mem_of_getLast? hlast)
    cases hspace

/-- What begins with another character does not start with a fence. -/
theorem startsWith_of_first {s pat : String} {c : Char} {rest : List Char}
    (hs : s.toList = c :: rest) (hc : c ≠ backtick) (hpat : pat.toList.head? = some backtick) :
    startsWith s pat = false := by
  rw [startsWith, Bool.eq_false_iff, ne_eq, List.isPrefixOf_iff_prefix, hs]
  intro hbegins
  obtain ⟨p, ps, hp⟩ := List.exists_cons_of_ne_nil (l := pat.toList) (by
    intro hnil
    rw [hnil] at hpat
    cases hpat)
  rw [hp] at hbegins hpat
  cases hpat
  exact hc (List.cons_prefix_cons.1 hbegins).1.symm

/-- A value without fences stays. -/
theorem stripFences_value (h : ValueEdges cs) : stripFences (String.ofList cs) = String.ofList cs := by
  obtain ⟨c, rest, hcs, _, hc, _⟩ := h.first
  have htext : (String.ofList cs).toList = c :: rest := by
    rw [String.toList_ofList, hcs]
  have hjson : startsWith (String.ofList cs) "```json" = false := startsWith_of_first htext hc rfl
  have hfence : startsWith (String.ofList cs) "```" = false := startsWith_of_first htext hc rfl
  have hend : endsWith (String.ofList cs) "```" = false := by
    rw [endsWith, Bool.eq_false_iff, ne_eq, List.isSuffixOf_iff_suffix]
    show ¬ fence <:+ (String.ofList cs).toList
    rw [String.toList_ofList, ← List.append_nil cs]
    exact h.not_fence_suffix onlySpace_nil
  simp only [stripFences, hjson, hfence, hend, Bool.false_eq_true, if_false]

/-- A beginning that a text starts with is dropped, and what follows is trimmed. -/
theorem trim_trimStartMatches {pat : String} (hpat : pat.toList.head? = some backtick)
    (h : ValueEdges cs) {before : List Char} (hbefore : OnlySpace before) (after : List Char) :
    trim (trimStartMatches (String.ofList (pat.toList ++ (before ++ cs ++ (after ++ fence)))) pat) =
      String.ofList (cs ++ (after ++ fence)) := by
  obtain ⟨c, more, hbody, hc, _⟩ := h.first_of_spaces hbefore (after ++ fence)
  have hne : pat.toList ≠ [] := by
    intro hnil
    rw [hnil] at hpat
    cases hpat
  have hnot : ¬ pat.toList <+: before ++ cs ++ (after ++ fence) := by
    have hstart : startsWith (String.ofList (c :: more)) pat = false :=
      startsWith_of_first String.toList_ofList hc hpat
    rw [startsWith, Bool.eq_false_iff, ne_eq, List.isPrefixOf_iff_prefix,
      String.toList_ofList] at hstart
    rwa [hbody]
  have hend : trimEndList (after ++ fence) = after ++ fence := by
    have hfence : trimEndList fence = fence := by decide
    rw [trimEndList_append_of_ne_nil (by rw [hfence]; decide), hfence]
  rw [trimStartMatches, String.toList_ofList, trimStartMatchesList_append hne hnot, trim,
    String.toList_ofList, h.trimList_around, hbefore.dropWhile, hend, List.nil_append]

/-- Fences and white space around a value are taken away. -/
theorem stripFences_fenced {pat : String} (hpat : pat = "```" ∨ pat = "```json")
    (h : ValueEdges cs) {before after : List Char} (hbefore : OnlySpace before)
    (hafter : OnlySpace after) :
    stripFences (String.ofList (pat.toList ++ (before ++ cs ++ (after ++ fence)))) =
      String.ofList cs := by
  have hend : endsWith (String.ofList (cs ++ (after ++ fence))) "```" = true := by
    rw [endsWith, List.isSuffixOf_iff_suffix]
    show fence <:+ (String.ofList (cs ++ (after ++ fence))).toList
    rw [String.toList_ofList, ← List.append_assoc]
    exact List.suffix_append _ _
  have hrest : trim (trimEndMatches (String.ofList (cs ++ (after ++ fence))) "```") =
      String.ofList cs := by
    have hdropped : trimEndMatches (String.ofList (cs ++ (after ++ fence))) "```" =
        String.ofList (cs ++ after) := by
      show String.ofList (trimEndMatchesList fence (String.ofList (cs ++ (after ++ fence))).toList) = _
      rw [String.toList_ofList, ← List.append_assoc,
        trimEndMatchesList_append (by decide) (h.not_fence_suffix hafter)]
    have htrim : trimList ([] ++ cs ++ after) = cs := h.trimList_spaces onlySpace_nil hafter
    rw [List.nil_append] at htrim
    rw [hdropped, trim, String.toList_ofList, htrim]
  have hstarts : startsWith (String.ofList (pat.toList ++ (before ++ cs ++ (after ++ fence))))
      pat = true := by
    rw [startsWith, List.isPrefixOf_iff_prefix, String.toList_ofList]
    exact List.prefix_append _ _
  have hhead : pat.toList.head? = some backtick := by
    rcases hpat with rfl | rfl <;> rfl
  have hstripped := trim_trimStartMatches hhead h hbefore after
  rcases hpat with rfl | rfl
  · have hjson : startsWith (String.ofList ("```".toList ++
        (before ++ cs ++ (after ++ fence)))) "```json" = false := by
      obtain ⟨c, more, hbody, _, hc⟩ := h.first_of_spaces hbefore (after ++ fence)
      rw [startsWith, Bool.eq_false_iff, ne_eq, List.isPrefixOf_iff_prefix, hbody]
      show ¬ fence ++ ['j', 's', 'o', 'n'] <+: (String.ofList (fence ++ c :: more)).toList
      rw [String.toList_ofList, List.prefix_append_right_inj]
      intro hbegins
      exact hc (List.cons_prefix_cons.1 hbegins).1.symm
    simp only [stripFences, hjson, hstarts, hstripped, hend, hrest, Bool.false_eq_true, if_false,
      if_true]
  · simp only [stripFences, hstarts, hstripped, hend, hrest, if_true]

/-! ## All values -/

theorem NoBraces.append (hcs : NoBraces cs) (hds : NoBraces ds) : NoBraces (cs ++ ds) :=
  ⟨fun h => (List.mem_append.1 h).elim hcs.1 hds.1,
    fun h => (List.mem_append.1 h).elim hcs.2 hds.2⟩

theorem noBraces_fence : NoBraces fence := by
  constructor <;> decide

/-- The texts in which a value may come: alone, in a fence, or as an object in
any text without braces. -/
inductive Wrapped (v : Json) (t : List Char) : List Char → Prop where
  | plain : Wrapped v t t
  | fenced {pat : String} {before blank blank' after : List Char}
      (hpat : pat = "```" ∨ pat = "```json") (hbefore : OnlySpace before)
      (hblank : OnlySpace blank) (hblank' : OnlySpace blank') (hafter : OnlySpace after) :
      Wrapped v t (before ++ pat.toList ++ blank ++ t ++ blank' ++ "```".toList ++ after)
  | padded {before after : List Char} (hv : v.isObject = true) (hbefore : NoBraces before)
      (hafter : NoBraces after) : Wrapped v t (before ++ t ++ after)

/-- What is taken out is a text of the value, and is left as it is. -/
def Extracts (number : List Char → Option Json.Number) (v : Json) (raw : String) : Prop :=
  ∃ r, cleanMarkdownJson raw = some r ∧ DocumentText number v r.toList ∧
    cleanMarkdownJson r = some r

/-- An object is found in every text without other braces. -/
theorem cleanMarkdownJson_object (h : ValueText number v cs) (hv : v.isObject = true)
    {before after : List Char} (hbefore : NoBraces before) (hafter : NoBraces after) :
    cleanMarkdownJson (String.ofList (before ++ cs ++ after)) = some (String.ofList cs) := by
  obtain ⟨mid, rfl⟩ := h.object_eq hv
  have htrim := (valueEdges h).trimList_around before after
  apply cleanMarkdownJson_of_braces
  · rw [String.toList_ofList, htrim]
    rfl
  · exact fun hmem => hbefore.1 ((List.dropWhile_sublist _).subset hmem)
  · exact fun hmem => hafter.2 ((List.rdropWhile_prefix _ after).subset hmem)

/-- Another value is found alone or in a fence if it has no brace pair. -/
theorem cleanMarkdownJson_value (h : ValueText number v cs) (hpair : ¬ BracePair cs)
    {before after : List Char} (hbefore : OnlySpace before) (hafter : OnlySpace after) :
    cleanMarkdownJson (String.ofList (before ++ cs ++ after)) = some (String.ofList cs) := by
  have htrim := (valueEdges h).trimList_spaces hbefore hafter
  rw [cleanMarkdownJson_of_no_pair (by rwa [String.toList_ofList, htrim]), trim,
    String.toList_ofList, htrim, stripFences_value (valueEdges h)]

theorem cleanMarkdownJson_fenced (h : ValueText number v cs) (hpair : ¬ BracePair cs)
    {pat : String} (hpat : pat = "```" ∨ pat = "```json") {before blank blank' after : List Char}
    (hbefore : OnlySpace before) (hblank : OnlySpace blank) (hblank' : OnlySpace blank')
    (hafter : OnlySpace after) :
    cleanMarkdownJson (String.ofList (before ++
      (pat.toList ++ (blank ++ cs ++ (blank' ++ fence))) ++ after)) = some (String.ofList cs) := by
  have hhead : ∃ rest, pat.toList = backtick :: rest := by
    rcases hpat with rfl | rfl <;> exact ⟨_, rfl⟩
  have hbraces : NoBraces pat.toList := by
    rcases hpat with rfl | rfl
    · exact noBraces_fence
    · exact ⟨by decide, by decide⟩
  obtain ⟨rest, hrest⟩ := hhead
  have htrim : trimList (before ++ (pat.toList ++ (blank ++ cs ++ (blank' ++ fence))) ++ after) =
      pat.toList ++ (blank ++ cs ++ (blank' ++ fence)) := by
    have hfirst : pat.toList ++ (blank ++ cs ++ (blank' ++ fence)) =
        backtick :: (rest ++ (blank ++ cs ++ (blank' ++ fence))) := by
      rw [hrest, List.cons_append]
    have hlast : pat.toList ++ (blank ++ cs ++ (blank' ++ fence)) =
        (pat.toList ++ (blank ++ cs ++ (blank' ++ [backtick, backtick]))) ++ [backtick] := by
      simp [fence]
    rw [trimList_append_append hfirst (by decide) hlast (by decide), hbefore.dropWhile,
      hafter.trimEnd, List.nil_append, List.append_nil]
  have hnone : ¬ BracePair (pat.toList ++ (blank ++ cs ++ (blank' ++ fence))) := by
    intro h
    have hsplit : pat.toList ++ (blank ++ cs ++ (blank' ++ fence)) =
        (pat.toList ++ blank) ++ cs ++ (blank' ++ fence) := by
      simp
    rw [hsplit] at h
    exact hpair (h.of_append (hbraces.append hblank.noBraces)
      (hblank'.noBraces.append noBraces_fence))
  rw [cleanMarkdownJson_of_no_pair (by rwa [String.toList_ofList, htrim]), trim,
    String.toList_ofList, htrim, stripFences_fenced hpat (valueEdges h) hblank hblank']

section Spaces

variable {s : Spaced}

/-- An object with white space around it is kept in every text. -/
theorem cleanMarkdownJson_wrapped_object (hblank : s.Blanks) (h : ValueText number v s.text)
    (hv : v.isObject = true) {input : List Char} (hinput : Wrapped v s.whole input) :
    cleanMarkdownJson (String.ofList input) = some (String.ofList s.text) := by
  have hbefore := (onlySpace_of_blank hblank.1).noBraces
  have hafter := (onlySpace_of_blank hblank.2).noBraces
  cases hinput with
  | plain => exact cleanMarkdownJson_object h hv hbefore hafter
  | @fenced pat before blank blank' after hpat houtside hinside hinside' houtside' =>
    have hbraces : NoBraces pat.toList := by
      rcases hpat with rfl | rfl
      · exact noBraces_fence
      · exact ⟨by decide, by decide⟩
    have hsplit : before ++ pat.toList ++ blank ++ s.whole ++ blank' ++ "```".toList ++ after =
        (before ++ pat.toList ++ blank ++ s.before) ++ s.text ++
          (s.after ++ blank' ++ fence ++ after) := by
      rw [fence_eq]
      simp [Spaced.whole]
    rw [hsplit]
    exact cleanMarkdownJson_object h hv
      (((houtside.noBraces.append hbraces).append hinside.noBraces).append hbefore)
      (((hafter.append hinside'.noBraces).append noBraces_fence).append houtside'.noBraces)
  | @padded before after _ hnone hnone' =>
    have hsplit : before ++ s.whole ++ after =
        (before ++ s.before) ++ s.text ++ (s.after ++ after) := by
      simp [Spaced.whole]
    rw [hsplit]
    exact cleanMarkdownJson_object h hv (hnone.append hbefore) (hafter.append hnone')

/-- Another value is kept if it has no brace pair. -/
theorem cleanMarkdownJson_wrapped_value (hblank : s.Blanks) (h : ValueText number v s.text)
    (hv : ¬ v.isObject = true) (hpair : ¬ BracePair s.text) {input : List Char}
    (hinput : Wrapped v s.whole input) :
    cleanMarkdownJson (String.ofList input) = some (String.ofList s.text) := by
  have hbefore := onlySpace_of_blank hblank.1
  have hafter := onlySpace_of_blank hblank.2
  cases hinput with
  | plain => exact cleanMarkdownJson_value h hpair hbefore hafter
  | @fenced pat before blank blank' after hpat houtside hinside hinside' houtside' =>
    have hsplit : before ++ pat.toList ++ blank ++ s.whole ++ blank' ++ "```".toList ++ after =
        before ++ (pat.toList ++ ((blank ++ s.before) ++ s.text ++
          ((s.after ++ blank') ++ fence))) ++ after := by
      rw [fence_eq]
      simp [Spaced.whole]
    rw [hsplit]
    exact cleanMarkdownJson_fenced h hpair hpat houtside (hinside.append hbefore)
      (hafter.append hinside') houtside'
  | padded hv' => exact absurd hv' hv

/-- The brace pairs are those of the value. -/
theorem bracePair_whole_iff (hblank : s.Blanks) : BracePair s.whole ↔ BracePair s.text := by
  constructor
  · intro h
    exact h.of_append (onlySpace_of_blank hblank.1).noBraces (onlySpace_of_blank hblank.2).noBraces
  · intro h
    exact h.trans ((List.sublist_append_right _ _).trans (List.sublist_append_left _ _))

/-- What is taken out of another value with a brace pair begins with a brace. -/
theorem cleanMarkdownJson_of_bracePair (hblank : s.Blanks) (h : ValueText number v s.text)
    (hpair : BracePair s.text) :
    ∃ rest, cleanMarkdownJson (String.ofList s.whole) = some (String.ofList ('{' :: rest)) := by
  obtain ⟨before, mid, after, htext, hbefore, hafter⟩ := hpair.split
  have htrim : trimList s.whole = s.text := (valueEdges h).trimList_spaces
    (onlySpace_of_blank hblank.1) (onlySpace_of_blank hblank.2)
  refine ⟨mid ++ ['}'], cleanMarkdownJson_of_braces ?_ hbefore hafter⟩
  rw [String.toList_ofList, htrim, htext]

end Spaces

/-- A value is kept in every text in which it may come exactly when it is an
object or no opening brace in it stands before a closing one. -/
theorem cleanMarkdownJson_keeps_iff (h : DocumentText number v t) :
    (∀ input, Wrapped v t input → Extracts number v (String.ofList input)) ↔
      v.isObject = true ∨ ¬ BracePair t := by
  obtain ⟨s, rfl, hblank, hvalue⟩ := h
  have hdocument : DocumentText number v (String.ofList s.text).toList := by
    rw [String.toList_ofList]
    exact ⟨⟨[], s.text, []⟩, by simp [Spaced.whole], ⟨by simp [Blank], by simp [Blank]⟩, hvalue⟩
  rw [bracePair_whole_iff hblank]
  constructor
  · intro hkeeps
    by_contra hnot
    obtain ⟨hv, hpair⟩ := not_or.1 hnot
    obtain ⟨rest, hrest⟩ := cleanMarkdownJson_of_bracePair hblank hvalue (not_not.1 hpair)
    obtain ⟨r, hr, htext, _⟩ := hkeeps _ .plain
    rw [hrest] at hr
    cases hr
    rw [String.toList_ofList] at htext
    exact hv htext.isObject
  · intro hkind input hinput
    by_cases hv : v.isObject = true
    · have hagain := cleanMarkdownJson_object hvalue hv onlySpace_nil.noBraces onlySpace_nil.noBraces
      rw [List.nil_append, List.append_nil] at hagain
      exact ⟨_, cleanMarkdownJson_wrapped_object hblank hvalue hv hinput, hdocument, hagain⟩
    · have hpair := hkind.resolve_left hv
      have hagain := cleanMarkdownJson_value hvalue hpair onlySpace_nil onlySpace_nil
      rw [List.nil_append, List.append_nil] at hagain
      exact ⟨_, cleanMarkdownJson_wrapped_value hblank hvalue hv hpair hinput, hdocument, hagain⟩

/-- A text without white space around it. -/
def unspaced (text : List Char) : Spaced := ⟨[], text, []⟩

theorem unspaced_blanks (text : List Char) : (unspaced text).Blanks :=
  ⟨fun _ h => absurd h List.not_mem_nil, fun _ h => absurd h List.not_mem_nil⟩

/-- An object with one member. -/
theorem sampleObject_text : DocumentText (fun _ => none) (.obj [("a", .bool true)])
    "\x7b\"a\":true\x7d".toList := by
  have hkey : StringText "a".toList ['a'] :=
    .plain (by decide) (by decide) (by decide) .nil
  have hobject : ValueText (fun _ => none) _ _ :=
    .object [(("a", unspaced "\"a\"".toList), (.bool true, unspaced "true".toList))]
      (List.cons_ne_nil _ _)
      (List.forall_mem_singleton.2 ⟨unspaced_blanks _, unspaced_blanks _⟩)
      (List.forall_mem_singleton.2 ⟨['a'], rfl, hkey⟩)
      (List.forall_mem_singleton.2 .boolTrue)
  exact ⟨unspaced _, rfl, unspaced_blanks _, hobject⟩

theorem cleanMarkdownJson_keeps_sample : Extracts (fun _ => none) (.obj [("a", .bool true)])
    "Jawaban:\n```json\n\x7b\"a\":true\x7d\n```" := by
  have hbefore : NoBraces "Jawaban:\n```json\n".toList := ⟨by decide, by decide⟩
  have hafter : NoBraces "\n```".toList := ⟨by decide, by decide⟩
  have hall := (cleanMarkdownJson_keeps_iff sampleObject_text).2 (.inl rfl)
  exact hall _ (.padded rfl hbefore hafter)

/-- Of an array with braces in a string, what stands between them is taken. -/
theorem braces_in_string_taken :
    DocumentText (fun _ => none) (.arr [.str "\x7b\x7d"]) "[\"\x7b\x7d\"]".toList ∧
      cleanMarkdownJson "[\"\x7b\x7d\"]" = some "\x7b\x7d" ∧
      ¬ Extracts (fun _ => none) (.arr [.str "\x7b\x7d"]) "[\"\x7b\x7d\"]" := by
  have htaken : cleanMarkdownJson "[\"\x7b\x7d\"]" = some "\x7b\x7d" := by
    decide +kernel
  have hstring : ValueText (fun _ => none) (.str "\x7b\x7d") "\"\x7b\x7d\"".toList :=
    .string (.plain (by decide) (by decide) (by decide)
      (.plain (by decide) (by decide) (by decide) .nil))
  have harray : ValueText (fun _ => none) _ _ :=
    .array [(.str "\x7b\x7d", unspaced "\"\x7b\x7d\"".toList)] (List.cons_ne_nil _ _)
      (List.forall_mem_singleton.2 (unspaced_blanks _)) (List.forall_mem_singleton.2 hstring)
  refine ⟨⟨unspaced _, rfl, unspaced_blanks _, harray⟩, htaken, ?_⟩
  rintro ⟨r, hr, htext, _⟩
  rw [htaken] at hr
  cases hr
  have hobject := htext.isObject
  cases hobject

end KlassGateway.Providers
