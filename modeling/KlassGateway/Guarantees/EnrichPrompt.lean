import KlassGateway.Llm.EnrichPrompt
import KlassGateway.System
/-!
# What enriching keeps

The clauses are appended to the teacher's prompt, and the clean-up then runs
over all of it.  An occurrence that it replaces may lie in the prompt, or start
with its last character.

* `Clean.prefix_cleanUpList`: the clean-up leaves a prompt without doubled
  punctuation as it stands before what is appended.
* `enrichPrompt_keeps_iff`: which prompts are kept whatever is answered.
-/

namespace KlassGateway.Llm

open Lib Lib.Text Standards

/-- No doubled punctuation of the kind that is cleaned up. -/
structure Clean (cs : List Char) : Prop where
  commas : ¬ [',', ' ', ','] <:+: cs
  commaStop : ¬ [',', '.'] <:+: cs
  stops : ¬ ['.', '.'] <:+: cs

/-- The clean-up on characters. -/
def cleanUpList (cs : List Char) : List Char :=
  replaceList ['.', '.'] ['.']
    (replaceList [',', '.'] ['.'] (replaceList [',', ' ', ','] [','] cs))

theorem toList_cleanUp (s : String) : (cleanUp s).toList = cleanUpList s.toList := by
  simp only [cleanUp, replace, String.toList_ofList]
  rfl

/-- The clean-up leaves exactly the clean texts. -/
theorem cleanUpList_eq_self_iff {cs : List Char} : cleanUpList cs = cs ↔ Clean cs := by
  constructor
  · intro hsame
    -- No pass makes its text longer, so none of them makes it shorter.
    have hlength := congrArg List.length hsame
    unfold cleanUpList at hlength
    have hcommas : (replaceList [',', ' ', ','] [','] cs).length ≤ cs.length :=
      length_replaceList_le (by decide) (by decide) _
    have hcommaStop : (replaceList [',', '.'] ['.'] (replaceList [',', ' ', ','] [','] cs)).length ≤
        (replaceList [',', ' ', ','] [','] cs).length :=
      length_replaceList_le (by decide) (by decide) _
    have hstops : (replaceList ['.', '.'] ['.']
        (replaceList [',', '.'] ['.'] (replaceList [',', ' ', ','] [','] cs))).length ≤
          (replaceList [',', '.'] ['.'] (replaceList [',', ' ', ','] [','] cs)).length :=
      length_replaceList_le (by decide) (by decide) _
    have hfirst : replaceList [',', ' ', ','] [','] cs = cs :=
      replaceList_eq_self_of_length (by decide) (by omega)
    rw [hfirst] at hlength hcommaStop hstops
    have hsecond : replaceList [',', '.'] ['.'] cs = cs :=
      replaceList_eq_self_of_length (by decide) (by omega)
    rw [cleanUpList, hfirst, hsecond] at hsame
    exact ⟨(replaceList_eq_self_iff (by decide)).1 hfirst,
      (replaceList_eq_self_iff (by decide)).1 hsecond,
      (replaceList_eq_self_iff (by decide)).1 hsame⟩
  · rintro ⟨hfirst, hsecond, hthird⟩
    rw [cleanUpList, replaceList_of_not_infix hfirst, replaceList_of_not_infix hsecond,
      replaceList_of_not_infix hthird]

/-! ## What is appended -/

/-- An addition to a prompt: nothing, a clause after a comma, or a sentence. -/
inductive Addition : List Char → Prop where
  | nothing : Addition []
  | clause (c : Char) (rest : List Char) (h : c ≠ ',') : Addition (',' :: ' ' :: c :: rest)
  | sentence (rest : List Char) : Addition ('.' :: ' ' :: rest)

section Replacements

variable {t rest : List Char}

/-- Neither a comma nor a blank at the end of a prompt begins a doubled comma
with what is appended. -/
theorem commas_append {c : Char} (hclean : ¬ [',', ' ', ','] <:+: t) (hc : c ≠ ' ')
    (hlast : ' ' ∉ t.getLast?) :
    replaceList [',', ' ', ','] [','] (t ++ c :: rest) =
      t ++ replaceList [',', ' ', ','] [','] (c :: rest) := by
  apply replaceList_append_of_not_infix hclean
  intro u hne hu hlen hbegins
  match u, hne, hlen with
  | [a], _, _ =>
    have hblank := List.cons_prefix_cons.1 (List.cons_prefix_cons.1 hbegins).2
    exact hc hblank.1.symm
  | [a, b], _, _ =>
    have hblank := List.cons_prefix_cons.1 (List.cons_prefix_cons.1 hbegins).2
    obtain ⟨before, rfl⟩ := hu
    apply hlast
    rw [hblank.1]
    simp
  | a :: b :: d :: u, _, hlen => exact absurd hlen (by simp)

theorem replaceList_pair {a b : Char} {rep : List Char} :
    replaceList [a, b] rep (a :: b :: rest) = rep ++ replaceList [a, b] rep rest :=
  replaceList_pat_append (List.cons_ne_nil a [b])

/-- A pattern of two characters is split between a text and what is appended
only if one ends with the first and the other begins with the second. -/
theorem pair_append {a b c : Char} {rep : List Char} (hclean : ¬ [a, b] <:+: t)
    (hsplit : a ∈ t.getLast? → b ≠ c) :
    replaceList [a, b] rep (t ++ c :: rest) = t ++ replaceList [a, b] rep (c :: rest) := by
  apply replaceList_append_of_not_infix hclean
  intro u hne hu hlen hbegins
  match u, hne, hlen with
  | [d], _, _ =>
    have hfirst := List.cons_prefix_cons.1 hbegins
    have hsecond := List.cons_prefix_cons.1 hfirst.2
    obtain ⟨before, rfl⟩ := hu
    apply hsplit _ hsecond.1
    rw [hfirst.1]
    simp
  | d :: e :: u, _, hlen => exact absurd hlen (by simp)

/-- A full stop that is appended to another one is cleaned up. -/
theorem stops_append {v : List Char} (hclean : ¬ ['.', '.'] <:+: v ++ ['.']) :
    replaceList ['.', '.'] ['.'] (v ++ ['.'] ++ '.' :: rest) =
      v ++ ['.'] ++ replaceList ['.', '.'] ['.'] rest := by
  have hinit : ¬ ['.', '.'] <:+: v := fun h => hclean (h.trans (List.prefix_append _ _).isInfix)
  have hlast : '.' ∉ v.getLast? := by
    intro h
    obtain ⟨w, rfl⟩ := List.getLast?_eq_some_iff.1 h
    exact hclean ⟨w, [], by simp⟩
  rw [List.append_assoc, List.singleton_append, pair_append hinit fun h => absurd h hlast]
  rw [replaceList_pair, ← List.append_assoc]

end Replacements

/-- A prompt without doubled punctuation that does not end in a comma stays
before every addition. -/
theorem Clean.prefix_cleanUpList {t a : List Char} (h : Clean t) (hblank : ' ' ∉ t.getLast?)
    (hcomma : ',' ∉ t.getLast?) (ha : Addition a) : t <+: cleanUpList (t ++ a) := by
  cases ha with
  | nothing => rw [List.append_nil, cleanUpList_eq_self_iff.2 h]
  | clause c rest hc =>
    have hcommas : ¬ [',', ' ', ','] <+: ',' :: ' ' :: c :: rest := by
      simpa using fun h => hc h.symm
    have hcommaStop (cs : List Char) : ¬ [',', '.'] <+: ',' :: ' ' :: cs := by simp
    rw [cleanUpList, commas_append h.commas (by decide) hblank, replaceList_cons hcommas,
      replaceList_cons_of_head (by decide) (by decide),
      pair_append h.commaStop (fun hlast => absurd hlast hcomma), replaceList_cons (hcommaStop _),
      pair_append h.stops (fun _ => by decide)]
    exact List.prefix_append _ _
  | sentence rest =>
    rw [cleanUpList, commas_append h.commas (by decide) hblank,
      replaceList_cons_of_head (by decide) (by decide),
      pair_append h.commaStop (fun hlast => absurd hlast hcomma),
      replaceList_cons_of_head (by decide) (by decide)]
    by_cases hstop : '.' ∈ t.getLast?
    · obtain ⟨v, rfl⟩ := List.getLast?_eq_some_iff.1 hstop
      rw [stops_append h.stops]
      exact List.prefix_append _ _
    · rw [pair_append h.stops fun hlast => absurd hlast hstop]
      exact List.prefix_append _ _

/-- A full stop that is appended replaces a comma. -/
theorem Clean.not_prefix_cleanUpList {v : List Char} (h : Clean (v ++ [','])) (rest : List Char) :
    ¬ v ++ [','] <+: cleanUpList (v ++ [','] ++ '.' :: ' ' :: rest) := by
  have hcommaStop : ¬ [',', '.'] <:+: v :=
    fun hoccurs => h.commaStop (hoccurs.trans (List.prefix_append _ _).isInfix)
  have hstops : ¬ ['.', '.'] <:+: v :=
    fun hoccurs => h.stops (hoccurs.trans (List.prefix_append _ _).isInfix)
  have hchar {d : Char} (hd : ',' ≠ d) (cs : List Char) : ¬ v ++ [','] <+: v ++ d :: cs := by
    rw [List.prefix_append_right_inj]
    exact fun hbegins => hd (List.cons_prefix_cons.1 hbegins).1
  rw [cleanUpList, commas_append h.commas (by decide) (by simp),
    replaceList_cons_of_head (by decide) (by decide),
    replaceList_cons_of_head (by decide) (by decide), List.append_assoc, List.singleton_append,
    pair_append hcommaStop (fun _ => by decide)]
  rw [replaceList_pair, replaceList_cons_of_head (by decide) (by decide), List.singleton_append]
  by_cases hstop : '.' ∈ v.getLast?
  · obtain ⟨w, rfl⟩ := List.getLast?_eq_some_iff.1 hstop
    rw [stops_append hstops, replaceList_cons_of_head (by decide) (by decide)]
    exact hchar (by decide) _
  · have hpair' (cs : List Char) : ¬ ['.', '.'] <+: '.' :: ' ' :: cs := by simp
    rw [pair_append hstops (fun hlast => absurd hlast hstop), replaceList_cons (hpair' _)]
    exact hchar (by decide) _

/-! ## The parts of the result -/

/-- A clause that begins with something other than a comma. -/
def BeginsWord (clause : Option String) : Prop :=
  ∀ s ∈ clause, ∃ c rest, s.toList = c :: rest ∧ c ≠ ','

theorem beginsWord_bind {answer : Option String} {clause : String → Option String}
    (h : ∀ a, BeginsWord (clause a)) : BeginsWord (answer.bind clause) := by
  intro s hs
  obtain ⟨a, _, ha⟩ := Option.bind_eq_some_iff.1 hs
  exact h a s ha

theorem beginsWord_clauseUnless {mentioned : Bool} {word rest : String}
    (hword : ∃ c cs, word.toList = c :: cs ∧ c ≠ ',') :
    BeginsWord (clauseUnless mentioned (word ++ rest)) := by
  intro s hs
  obtain ⟨c, cs, hcs, hc⟩ := hword
  cases mentioned with
  | true => cases hs
  | false =>
    cases hs
    exact ⟨c, cs ++ rest.toList, by rw [String.toList_append, hcs, List.cons_append], hc⟩

variable {P : Platform} {hLower : String} {answers : Answers}

/-- Every clause begins with a word. -/
theorem beginsWord_of_mem_clauses {clause : String} (h : clause ∈ clauses P hLower answers) :
    BeginsWord (some clause) := by
  have hall : ∀ optional ∈ [audienceClause P hLower answers, outputTypeClause P hLower answers,
      pageCountClause P hLower answers, slideCountClause P hLower answers,
      objectivesClause P hLower answers, difficultyClause P hLower answers,
      questionCountClause P hLower answers, methodClause P hLower answers,
      activitiesClause hLower answers], BeginsWord optional := by
    simp only [List.forall_mem_cons]
    refine ⟨?_, ?_, ?_, ?_, ?_, ?_, ?_, ?_, ?_, by simp⟩
    · exact beginsWord_bind fun _ => beginsWord_clauseUnless ⟨'u', _, rfl, by decide⟩
    · exact beginsWord_bind fun _ => beginsWord_clauseUnless ⟨'d', _, rfl, by decide⟩
    · exact beginsWord_bind fun _ => beginsWord_clauseUnless ⟨'s', _, rfl, by decide⟩
    · exact beginsWord_bind fun _ => beginsWord_clauseUnless ⟨'s', _, rfl, by decide⟩
    · refine beginsWord_bind fun objectives => ?_
      split
      · intro s hs
        cases hs
      · exact beginsWord_clauseUnless ⟨'d', _, rfl, by decide⟩
    · exact beginsWord_bind fun _ => beginsWord_clauseUnless ⟨'t', _, rfl, by decide⟩
    · refine beginsWord_bind fun count => ?_
      rw [String.append_assoc]
      exact beginsWord_clauseUnless ⟨'d', _, rfl, by decide⟩
    · exact beginsWord_bind fun _ => beginsWord_clauseUnless ⟨'d', _, rfl, by decide⟩
    · refine beginsWord_bind fun activities => ?_
      split
      · rw [← String.append_empty (s := "sertakan latihan/soal")]
        exact beginsWord_clauseUnless ⟨'s', _, rfl, by decide⟩
      · intro s hs
        cases hs
  obtain ⟨optional, hmem, hclause⟩ := List.mem_filterMap.1 h
  exact hclause ▸ hall optional hmem

theorem intercalate_cons (sep clause : String) (more : List String) :
    ∃ rest, sep.intercalate (clause :: more) = clause ++ rest := by
  cases more with
  | nil => exact ⟨"", by rw [String.intercalate_singleton, String.append_empty]⟩
  | cons next more =>
    exact ⟨sep ++ sep.intercalate (next :: more), by
      rw [String.intercalate_cons_cons, String.append_assoc]⟩

/-- What is appended to a prompt is an addition. -/
theorem joinParts_addition (raw : String) {parts : List String} (slides : List String)
    (hparts : ∀ clause ∈ parts, BeginsWord (some clause)) :
    ∃ a, (joinParts raw parts slides).toList = raw.toList ++ a ∧ Addition a := by
  unfold joinParts
  rw [String.append_assoc, String.toList_append]
  refine ⟨_, rfl, ?_⟩
  cases parts with
  | nil =>
    rw [List.isEmpty_nil, if_pos rfl, String.empty_append]
    split
    · exact .nothing
    · rw [String.toList_append]
      exact .sentence _
  | cons clause more =>
    obtain ⟨rest, hrest⟩ := intercalate_cons ", " clause more
    obtain ⟨c, cs, hclause, hc⟩ := hparts clause (List.mem_cons_self ..) clause rfl
    rw [List.isEmpty_cons, if_neg (by decide), hrest, String.append_assoc, String.append_assoc,
      String.toList_append, String.toList_append, hclause]
    exact .clause c _ hc

/-! ## Prompts -/

/-- A prompt that is kept whatever is answered. -/
structure KeepsPrompt (P : Platform) (p : String) : Prop where
  /-- The trimmed prompt begins the result. -/
  answered : ∀ answers, (trim p).toList <+: (enrichPrompt P answers p).toList
  /-- It is the result without answers. -/
  unanswered : enrichPrompt P (fun _ => none) p = trim p
  /-- To skip a second time changes nothing. -/
  idempotent : enrichPrompt P (fun _ => none) (enrichPrompt P (fun _ => none) p) =
    enrichPrompt P (fun _ => none) p

theorem enrichPrompt_none (p : String) : enrichPrompt P (fun _ => none) p = cleanUp (trim p) := by
  have hclauses : clauses P (P.toLowercase (trim p)) (fun _ => none) = [] := rfl
  have hslides : slideContents (fun _ => none) = [] := rfl
  simp only [enrichPrompt, hclauses, hslides, joinParts, List.isEmpty_nil, if_pos,
    String.append_empty]

/-- The answers of a teacher who describes the first slide only. -/
def firstSlideOnly : Answers := fun field => if field = "slide_1" then some "x" else none

theorem enrichPrompt_firstSlideOnly (p : String) :
    (enrichPrompt P firstSlideOnly p).toList =
      cleanUpList ((trim p).toList ++ ". Rincian isi per slide:\nSlide 1: x".toList) := by
  have hclauses : clauses P (P.toLowercase (trim p)) firstSlideOnly = [] := rfl
  have hslides : slideContents firstSlideOnly = ["Slide 1: x"] := by decide +kernel
  rw [enrichPrompt, toList_cleanUp, hclauses, hslides, joinParts, List.isEmpty_nil, if_pos rfl,
    String.append_empty, String.toList_append]
  rfl

/-- A prompt is kept exactly when, trimmed, it has no doubled punctuation and
does not end in a comma. -/
theorem enrichPrompt_keeps_iff (P : Platform) (p : String) :
    KeepsPrompt P p ↔ Clean (trim p).toList ∧ ',' ∉ (trim p).toList.getLast? := by
  have hunanswered : enrichPrompt P (fun _ => none) p = trim p ↔ Clean (trim p).toList := by
    rw [enrichPrompt_none, ← cleanUpList_eq_self_iff, ← toList_cleanUp, String.toList_inj]
  constructor
  · intro hkeeps
    have hclean := hunanswered.1 hkeeps.unanswered
    refine ⟨hclean, fun hcomma => ?_⟩
    obtain ⟨v, hv⟩ := List.getLast?_eq_some_iff.1 hcomma
    have hbegins := hkeeps.answered firstSlideOnly
    rw [enrichPrompt_firstSlideOnly, hv] at hbegins
    rw [hv] at hclean
    exact hclean.not_prefix_cleanUpList _ hbegins
  · rintro ⟨hclean, hcomma⟩
    have hblank : ' ' ∉ (trim p).toList.getLast? := by
      intro hlast
      have hspace := getLast?_trimList ' ' (by simpa [trim] using hlast)
      cases hspace
    refine ⟨fun answers => ?_, hunanswered.2 hclean, ?_⟩
    · have hparts : ∀ clause ∈ clauses P (P.toLowercase (trim p)) answers,
          BeginsWord (some clause) := fun _ => beginsWord_of_mem_clauses
      obtain ⟨a, hresult, ha⟩ := joinParts_addition (trim p) (slideContents answers) hparts
      rw [enrichPrompt, toList_cleanUp, hresult]
      exact hclean.prefix_cleanUpList hblank hcomma ha
    · have hsame := hunanswered.2 hclean
      rw [hsame, enrichPrompt_none, trim_trim, ← enrichPrompt_none p, hsame]

/-- A full stop that the teacher wrote is taken away. -/
theorem stop_lost :
    enrichPrompt asciiPlatform (fun _ => none) "Buatkan materi tentang gaya..." =
      "Buatkan materi tentang gaya.." ∧
    ¬ KeepsPrompt asciiPlatform "Buatkan materi tentang gaya..." := by
  have hresult : enrichPrompt asciiPlatform (fun _ => none) "Buatkan materi tentang gaya..." =
      "Buatkan materi tentang gaya.." := by
    decide +kernel
  refine ⟨hresult, fun hkeeps => ?_⟩
  have hsame := hkeeps.unanswered
  rw [hresult] at hsame
  revert hsame
  decide +kernel

end KlassGateway.Llm
