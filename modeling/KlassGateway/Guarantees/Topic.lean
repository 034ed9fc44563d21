import KlassGateway.Llm.Clarification
import KlassGateway.Lib.Lowercase
import KlassGateway.System
/-!
# Where a topic is cut out

The marker is found in the lower-cased prompt, and the offset of its end is used
on the prompt itself.  The two texts may differ in bytes, and then the slice
starts elsewhere or inside a character.

* `exists_markerEnd`: the end of a marker is the end of a character of the
  prompt.
* `extractTopic_eq`: the topic is cut off at the slice.
* `extractTopic_afterMarker_iff`: when it is cut out after the marker.
* `sizesKept_of_chars`: it is in a prompt whose characters all keep their sizes.
-/

namespace KlassGateway.Llm

open Lib Lib.Text Standards

variable {P : TextPlatform} {prompt marker : String}

/-! ## Markers in the prompt -/

/-- A marker is found in the lower-cased prompt, and `before` is the part of the
prompt that is lower-cased to the text up to its end. -/
structure MarkerEnd (P : TextPlatform) (prompt marker : String) (before after : List Char) :
    Prop where
  split : prompt.toList = before ++ after
  lowered : ∃ pos, find (P.toLowercase prompt) marker = some pos ∧
    sizeList (before.flatMap P.lowerChar) = pos + marker.utf8ByteSize

/-- A marker ends in a blank, so it ends where a character of the prompt does. -/
theorem exists_markerEnd (hlower : LowersTexts P.lowerChar P.toLowercase)
    (hmarker : ' ' ∈ marker.toList.getLast?) {pos : Nat}
    (hfind : find (P.toLowercase prompt) marker = some pos) :
    ∃ before after, MarkerEnd P prompt marker before after := by
  obtain ⟨stem, hstem⟩ := List.getLast?_eq_some_iff.1 hmarker
  obtain ⟨x, y, hsplit, hx⟩ := findList_eq_some hfind
  rw [hstem, ← List.append_assoc, List.append_assoc] at hsplit
  obtain ⟨before, after, hprompt, hbefore⟩ :=
    (hlower.texts prompt).split_blank hlower.chars hsplit
  have hblank : P.lowerChar ' ' = [' '] := hlower.chars.space ' ' rfl
  refine ⟨before ++ [' '], after, by simp [hprompt], pos, hfind, ?_⟩
  rw [List.flatMap_append, sizeList_append, ← hbefore.size hlower.sigma, sizeList_append, hx,
    utf8ByteSize_eq, hstem, sizeList_append, List.flatMap_singleton, hblank, Nat.add_assoc]

/-- All markers end in a blank. -/
theorem blank_mem_topicMarkers (h : marker ∈ topicMarkers) : ' ' ∈ marker.toList.getLast? := by
  revert marker
  decide

/-! ## The slice -/

/-- The marker and the offset of the slice that gives the topic; `none` where a
slice on the way cannot be taken. -/
def topicSliceFrom (prompt lower : String) : List String → Option (Option (String × Nat))
  | [] => some none
  | marker :: markers =>
    match find lower marker with
    | none => topicSliceFrom prompt lower markers
    | some pos => do
      let rest ← dropBytes prompt (pos + marker.utf8ByteSize)
      if 2 < sizeList (topicOf rest.toList) then some (some (marker, pos + marker.utf8ByteSize))
      else topicSliceFrom prompt lower markers

/-- The topic is cut off at the slice. -/
theorem extractTopicFrom_eq (prompt lower : String) (markers : List String) :
    extractTopicFrom prompt lower markers =
      (topicSliceFrom prompt lower markers).map fun slice =>
        slice.bind fun s =>
          (dropBytes prompt s.2).map fun rest => String.ofList (topicOf rest.toList) := by
  induction markers with
  | nil => rfl
  | cons marker markers ih =>
    unfold extractTopicFrom topicSliceFrom
    cases hfind : find lower marker with
    | none => exact ih
    | some pos =>
      dsimp only
      cases hdrop : dropBytes prompt (pos + marker.utf8ByteSize) with
      | none => rfl
      | some rest =>
        have hlong : (String.ofList (topicOf rest.toList) ≠ "" ∧
            2 < (String.ofList (topicOf rest.toList)).utf8ByteSize) ↔
              2 < sizeList (topicOf rest.toList) := by
          rw [utf8ByteSize_ofList]
          refine ⟨And.right, fun h => ⟨fun hempty => ?_, h⟩⟩
          have hsize := utf8ByteSize_ofList (topicOf rest.toList)
          rw [hempty] at hsize
          have hzero : "".utf8ByteSize = 0 := rfl
          omega
        simp only [Option.bind_eq_bind, Option.bind_some, hlong]
        by_cases hsize : 2 < sizeList (topicOf rest.toList)
        · rw [if_pos hsize, if_pos hsize]
          simp [hdrop]
        · rw [if_neg hsize, if_neg hsize]
          exact ih

/-! ## When the topic follows the marker -/

/-- A slice starts at the end of its marker. -/
def StartsAtEnd (P : TextPlatform) (prompt : String) (slice : Option (String × Nat)) : Prop :=
  ∀ marker start, slice = some (marker, start) →
    ∃ before after, MarkerEnd P prompt marker before after ∧ sizeList before = start

/-- Lower-casing keeps sizes as far as it matters: at each marker that is looked
at, the lower-cased text up to its end has as many bytes as some beginning of
the prompt, and where a topic of more than two bytes follows this beginning, as
the text itself. -/
def SizesKept (P : TextPlatform) (prompt : String) : List String → Prop
  | [] => True
  | marker :: markers =>
    find (P.toLowercase prompt) marker = none ∧ SizesKept P prompt markers ∨
    ∃ before after beginning rest, MarkerEnd P prompt marker before after ∧
      prompt.toList = beginning ++ rest ∧
      sizeList beginning = sizeList (before.flatMap P.lowerChar) ∧
      if 2 < sizeList (topicOf rest) then
        sizeList before = sizeList (before.flatMap P.lowerChar)
      else SizesKept P prompt markers

theorem MarkerEnd.size {before after : List Char} {pos : Nat}
    (h : MarkerEnd P prompt marker before after)
    (hfind : find (P.toLowercase prompt) marker = some pos) :
    sizeList (before.flatMap P.lowerChar) = pos + marker.utf8ByteSize := by
  obtain ⟨pos', hpos', hsize⟩ := h.lowered
  rw [hfind] at hpos'
  rw [hsize, Option.some.inj hpos']

/-- One marker that is found. -/
theorem sizesKept_cons_iff (hlower : LowersTexts P.lowerChar P.toLowercase)
    (hmarker : ' ' ∈ marker.toList.getLast?) {pos : Nat}
    (hfind : find (P.toLowercase prompt) marker = some pos) (markers : List String) :
    SizesKept P prompt (marker :: markers) ↔
      ∃ rest, dropBytes prompt (pos + marker.utf8ByteSize) = some rest ∧
        if 2 < sizeList (topicOf rest.toList) then
          StartsAtEnd P prompt (some (marker, pos + marker.utf8ByteSize))
        else SizesKept P prompt markers := by
  constructor
  · rintro (⟨hnone, _⟩ | ⟨before, after, beginning, rest, hend, hsplit, hsize, hkept⟩)
    · rw [hfind] at hnone
      cases hnone
    · rw [hend.size hfind] at hsize hkept
      refine ⟨String.ofList rest, dropBytes_eq_some_iff.2 ⟨beginning, ?_, hsize⟩, ?_⟩
      · rw [String.toList_ofList, hsplit]
      · rw [String.toList_ofList]
        split at hkept
        · next hlong =>
          rw [if_pos hlong]
          intro m start hslice
          cases hslice
          exact ⟨before, after, hend, hkept⟩
        · next hshort =>
          rw [if_neg hshort]
          exact hkept
  · rintro ⟨rest, hdrop, hkept⟩
    obtain ⟨beginning, hsplit, hsize⟩ := dropBytes_eq_some_iff.1 hdrop
    obtain ⟨before, after, hend⟩ := exists_markerEnd hlower hmarker hfind
    split at hkept
    · next hlong =>
      obtain ⟨before', after', hend', hstart⟩ := hkept _ _ rfl
      have hlowered := hend'.size hfind
      refine .inr ⟨before', after', beginning, rest.toList, hend', hsplit, ?_, ?_⟩
      · omega
      · rw [if_pos hlong]
        omega
    · next hshort =>
      have hlowered := hend.size hfind
      refine .inr ⟨before, after, beginning, rest.toList, hend, hsplit, by omega, ?_⟩
      rw [if_neg hshort]
      exact hkept

/-- Sizes are kept in a prompt whose characters all keep theirs. -/
theorem sizesKept_of_chars (hlower : LowersTexts P.lowerChar P.toLowercase)
    (hchars : ∀ c ∈ prompt.toList, sizeList (P.lowerChar c) = c.utf8Size) {markers : List String}
    (hmarkers : ∀ marker ∈ markers, ' ' ∈ marker.toList.getLast?) : SizesKept P prompt markers := by
  induction markers with
  | nil => trivial
  | cons marker markers ih =>
    have hrest := ih fun m hm => hmarkers m (List.mem_cons_of_mem _ hm)
    cases hfind : find (P.toLowercase prompt) marker with
    | none => exact .inl ⟨hfind, hrest⟩
    | some pos =>
      obtain ⟨before, after, hend⟩ :=
        exists_markerEnd hlower (hmarkers marker (List.mem_cons_self ..)) hfind
      have hsize : sizeList before = sizeList (before.flatMap P.lowerChar) := by
        rw [hend.split] at hchars
        exact (sizeList_flatMap fun c hc => hchars c (List.mem_append_left _ hc)).symm
      refine .inr ⟨before, after, before, after, hend, hend.split, hsize, ?_⟩
      split
      · exact hsize
      · exact hrest

/-- The slices can all be taken, and the one that gives the topic starts at the
end of its marker, exactly when sizes are kept. -/
theorem topicSliceFrom_iff (hlower : LowersTexts P.lowerChar P.toLowercase)
    {markers : List String} (hmarkers : ∀ marker ∈ markers, ' ' ∈ marker.toList.getLast?) :
    (∃ slice, topicSliceFrom prompt (P.toLowercase prompt) markers = some slice ∧
      StartsAtEnd P prompt slice) ↔ SizesKept P prompt markers := by
  induction markers with
  | nil =>
    refine iff_of_true ⟨none, rfl, ?_⟩ trivial
    intro marker start h
    cases h
  | cons marker markers ih =>
    have hrest := ih fun m hm => hmarkers m (List.mem_cons_of_mem _ hm)
    cases hfind : find (P.toLowercase prompt) marker with
    | none =>
      have hskip : topicSliceFrom prompt (P.toLowercase prompt) (marker :: markers) =
          topicSliceFrom prompt (P.toLowercase prompt) markers := by
        rw [topicSliceFrom, hfind]
      rw [hskip, hrest]
      constructor
      · exact fun h => .inl ⟨hfind, h⟩
      · rintro (⟨_, h⟩ | ⟨before, after, _, _, hend, _⟩)
        · exact h
        · obtain ⟨pos, hpos, _⟩ := hend.lowered
          rw [hfind] at hpos
          cases hpos
    | some pos =>
      rw [sizesKept_cons_iff hlower (hmarkers marker (List.mem_cons_self ..)) hfind, topicSliceFrom,
        hfind]
      dsimp only
      cases hdrop : dropBytes prompt (pos + marker.utf8ByteSize) with
      | none => simp
      | some rest =>
        simp only [Option.bind_eq_bind, Option.bind_some, Option.some.injEq, exists_eq_left']
        split
        · simp only [Option.some.injEq, exists_eq_left']
        · exact hrest

/-- A topic is a trimmed part of the text that it is found in, after nothing but
white space. -/
theorem topicOf_spec (rest : List Char) :
    trimList (topicOf rest) = topicOf rest ∧
      ∃ gap more, rest = gap ++ topicOf rest ++ more ∧ ∀ c ∈ gap, isWhitespace c = true := by
  refine ⟨trimList_trimList _, ?_⟩
  obtain ⟨gap, more, hsplit, hgap⟩ :=
    exists_eq_append_trimList (rest.takeWhile fun c => !endsTopic c)
  refine ⟨gap, more ++ rest.dropWhile fun c => !endsTopic c, ?_, hgap⟩
  have hrest := List.takeWhile_append_dropWhile (p := fun c => !endsTopic c) (l := rest)
  rw [← List.append_assoc]
  rw [hsplit] at hrest
  exact hrest.symm

/-- The slice that gives the topic can be taken. -/
theorem exists_dropBytes_of_slice {lower marker : String} {start : Nat} {markers : List String}
    (h : topicSliceFrom prompt lower markers = some (some (marker, start))) :
    ∃ rest, dropBytes prompt start = some rest := by
  induction markers with
  | nil => cases h
  | cons m markers ih =>
    unfold topicSliceFrom at h
    split at h
    · exact ih h
    · obtain ⟨rest, hrest, hslice⟩ := Option.bind_eq_some_iff.1 h
      split at hslice
      · cases hslice
        exact ⟨rest, hrest⟩
      · exact ih hslice

/-- The topic of a prompt is cut out after its marker. -/
structure TopicAfterMarker (P : TextPlatform) (prompt : String) : Prop where
  /-- No slice starts inside a character or past the end. -/
  returns : extractTopic P prompt ≠ none
  /-- A topic is a trimmed part of the prompt, right after the marker that it was
  found by. -/
  topic : ∀ topic, extractTopic P prompt = some (some topic) →
    ∃ marker before after gap more,
      topicSliceFrom prompt (P.toLowercase prompt) topicMarkers =
        some (some (marker, sizeList before)) ∧
      MarkerEnd P prompt marker before after ∧ after = gap ++ topic.toList ++ more ∧
      (∀ c ∈ gap, isWhitespace c = true) ∧ trim topic = topic

/-- The topic is cut out after its marker exactly when lower-casing keeps the
sizes that matter. -/
theorem extractTopic_afterMarker_iff (hlower : LowersTexts P.lowerChar P.toLowercase)
    (prompt : String) : TopicAfterMarker P prompt ↔ SizesKept P prompt topicMarkers := by
  have hmarkers : ∀ marker ∈ topicMarkers, ' ' ∈ marker.toList.getLast? :=
    fun _ => blank_mem_topicMarkers
  have htopic : extractTopic P prompt = _ :=
    extractTopicFrom_eq prompt (P.toLowercase prompt) topicMarkers
  rw [← topicSliceFrom_iff hlower hmarkers]
  cases hslice : topicSliceFrom prompt (P.toLowercase prompt) topicMarkers with
  | none =>
    rw [hslice] at htopic
    refine iff_of_false (fun h => h.returns htopic) ?_
    rintro ⟨_, hnone, _⟩
    cases hnone
  | some slice =>
    rw [hslice] at htopic
    simp only [Option.some.injEq, exists_eq_left']
    constructor
    · intro h marker start hstart
      cases hstart
      obtain ⟨rest, hrest⟩ := exists_dropBytes_of_slice hslice
      rw [Option.map_some, Option.bind_some, hrest] at htopic
      obtain ⟨m, before, after, _, _, hslice', hend, _⟩ := h.topic _ htopic
      rw [hslice] at hslice'
      cases hslice'
      exact ⟨before, after, hend, rfl⟩
    · intro hstarts
      refine ⟨by rw [htopic]; exact Option.some_ne_none _, fun topic hresult => ?_⟩
      cases slice with
      | none =>
        rw [htopic] at hresult
        cases hresult
      | some slice =>
        obtain ⟨before, after, hend, hstart⟩ := hstarts slice.1 slice.2 rfl
        have hdrop : dropBytes prompt slice.2 = some (String.ofList after) :=
          dropBytes_eq_some_iff.2 ⟨before, by rw [String.toList_ofList, hend.split], hstart⟩
        rw [htopic, Option.map_some, Option.bind_some, hdrop, Option.map_some,
          String.toList_ofList] at hresult
        have hvalue := Option.some.inj (Option.some.inj hresult)
        obtain ⟨htrim, gap, more, hsplit, hgap⟩ := topicOf_spec after
        refine ⟨slice.1, before, after, gap, more, by rw [hslice, hstart], hend, ?_, hgap, ?_⟩
        · rw [← hvalue, String.toList_ofList]
          exact hsplit
        · rw [← hvalue, trim, String.toList_ofList, htrim]

/-- The mapping of ASCII letters and of two other capitals. -/
def lowerTurkish (c : Char) : List Char :=
  if c = 'İ' then ['i', '\u0307'] else if c = 'Σ' then ['σ'] else [c.toLower]

/-- The ASCII platform with these two, for texts in which no pattern matches. -/
def turkishTexts : TextPlatform :=
  { asciiPlatform with
    lowerChar := lowerTurkish
    toLowercase := fun s => String.ofList (s.toList.flatMap lowerTurkish)
    regexIsMatch := fun _ _ => false
    regexCapture := fun _ _ => none }

theorem turkishTexts_lowers : LowersTexts turkishTexts.lowerChar turkishTexts.toLowercase where
  chars := by
    have hsigma : ∀ d ∈ ['σ'], isWhitespace d = false := List.forall_mem_singleton.2 (by decide)
    have hdotted : ∀ d ∈ ['i', '\u0307'], isWhitespace d = false :=
      List.forall_mem_cons.2 ⟨by decide, List.forall_mem_singleton.2 (by decide)⟩
    exact (lowersChars_toLower.update (by decide) (by decide) hsigma).update (by decide)
      (by decide) hdotted
  sigma := by decide
  texts s := by
    show Lowered lowerTurkish s.toList (String.ofList (s.toList.flatMap lowerTurkish)).toList
    rw [String.toList_ofList]
    exact lowered_flatMap _ _

theorem extractTopic_afterMarker_sample :
    TopicAfterMarker turkishTexts "Buatkan materi tentang İstanbul, kelas 5" := by
  apply (extractTopic_afterMarker_iff turkishTexts_lowers _).2
  refine .inr ⟨"Buatkan materi tentang ".toList, "İstanbul, kelas 5".toList,
    "Buatkan materi tentang ".toList, "İstanbul, kelas 5".toList,
    ⟨by decide +kernel, 15, by decide +kernel, by decide +kernel⟩, by decide +kernel,
    by decide +kernel, ?_⟩
  rw [if_pos (by decide +kernel)]
  decide +kernel

/-- A slice starts inside the first letter of the topic. -/
theorem topic_cut_in_character :
    extractTopic turkishTexts "İSTANBUL tentang ılıman iklim" = none ∧
      ¬ TopicAfterMarker turkishTexts "İSTANBUL tentang ılıman iklim" := by
  have hcut : extractTopic turkishTexts "İSTANBUL tentang ılıman iklim" = none := by
    decide +kernel
  exact ⟨hcut, fun h => h.returns hcut⟩

end KlassGateway.Llm
