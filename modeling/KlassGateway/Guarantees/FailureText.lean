import KlassGateway.Orchestrator.AuditTrail
import KlassGateway.Lib.Utf8
import KlassGateway.Lib.Words
/-!
# The texts of a failure

`sanitize_message` and `filter_context` bound what a failure leaves in the
audit payload.  They cut a long text at a fixed byte, so whether they answer at
all depends on where the characters of the text fall.

* `sanitizeMessage_ok_iff`: when a message is sanitized as it should be.
* `filterText_ok`, `filterItems_ok`, `filterContextInner_spec`: when a context
  is filtered, and what is left of it.
* `failure_recorded_iff`: both, and with them the two transactions that record
  a failure.
-/

namespace KlassGateway.Orchestrator

open Lib Lib.Text Db

/-! ## Messages -/

/-- The words of a message with one blank between any two. -/
def collapsedMessage (message : String) : List Char :=
  joinWords (wordsList isWhitespace message.toList)

/-- A text that is kept as a message should be. -/
structure IsMessage (text : String) : Prop where
  length_le : text.length ≤ 240
  tidy : Tidy text.toList
  sanitized : sanitizeMessage text = some text

/-- The collapsed message fits into 240 bytes, or a character that is no white
space ends with its 240th byte. -/
def MessageFits (message : String) : Prop :=
  sizeList (collapsedMessage message) ≤ 240 ∨
    ∃ before d after, collapsedMessage message = before ++ d :: after ∧
      sizeList (before ++ [d]) = 240 ∧ isWhitespace d = false

theorem tidy_collapsedMessage (message : String) : Tidy (collapsedMessage message) :=
  tidy_joinWords (fun _ => ne_nil_of_mem_wordsList) fun _ => sep_of_mem_wordsList

theorem collapsedMessage_eq (message : String) :
    collapsedMessage message = trimList (collapseList false message.toList) :=
  (trim_collapse _).symm

/-- White space in a collapsed message is a blank. -/
theorem eq_blank_of_mem_collapsedMessage {message : String} {c : Char}
    (h : c ∈ collapsedMessage message) (hc : isWhitespace c = true) : c = ' ' := by
  rw [collapsedMessage_eq] at h
  have hsub := (List.dropWhile_sublist _).subset (List.mem_reverse.1 h)
  have hmem : c ∈ collapseList false message.toList :=
    (List.dropWhile_sublist _).subset (List.mem_reverse.1 hsub)
  exact eq_blank_of_mem_collapseList hmem hc

theorem sanitizeMessage_eq (message : String) :
    sanitizeMessage message =
      if 240 < sizeList (collapsedMessage message) then
        (takeBytesList (collapsedMessage message) 240).map String.ofList
      else some (String.ofList (collapsedMessage message)) := by
  have htext : trim (collapseWhitespace message) = String.ofList (collapsedMessage message) := by
    rw [collapsedMessage_eq, trim, collapseWhitespace, String.toList_ofList]
  rw [sanitizeMessage, htext, utf8ByteSize_ofList, takeBytes, String.toList_ofList]

/-- A tidy beginning of a collapsed message that is short enough is left as it
is. -/
theorem sanitizeMessage_prefix {message : String} {cs : List Char}
    (hbegins : cs <+: collapsedMessage message) (htidy : Tidy cs) (hsize : sizeList cs ≤ 240) :
    IsMessage (String.ofList cs) where
  length_le := by
    have hlength := length_le_sizeList cs
    rw [String.length_ofList]
    omega
  tidy := by rwa [String.toList_ofList]
  sanitized := by
    have hsame : collapsedMessage (String.ofList cs) = cs := by
      rw [collapsedMessage_eq, String.toList_ofList]
      exact htidy.trim_collapse fun c hc => eq_blank_of_mem_collapsedMessage (hbegins.subset hc)
    rw [sanitizeMessage_eq, hsame, if_neg (by omega)]

/-- A message is sanitized as it should be exactly when it fits. -/
theorem sanitizeMessage_ok_iff (message : String) :
    (∃ text, sanitizeMessage message = some text ∧ IsMessage text) ↔ MessageFits message := by
  rw [sanitizeMessage_eq]
  by_cases hsize : 240 < sizeList (collapsedMessage message)
  · rw [if_pos hsize]
    constructor
    · rintro ⟨text, htext, hmessage⟩
      obtain ⟨cs, hcs, rfl⟩ := Option.map_eq_some_iff.1 htext
      obtain ⟨⟨rest, hrest⟩, hcount⟩ := takeBytesList_eq_some_iff.1 hcs
      have htidy := hmessage.tidy
      rw [String.toList_ofList] at htidy
      rcases List.eq_nil_or_concat' cs with rfl | ⟨before, d, rfl⟩
      · simp [sizeList] at hcount
      · refine .inr ⟨before, d, rest, ?_, hcount, htidy.last d (by simp)⟩
        rw [← hrest]
        simp
    · rintro (hfits | ⟨before, d, after, hmessage, hcount, hd⟩)
      · omega
      · have hbegins : before ++ [d] <+: collapsedMessage message := ⟨after, by simp [hmessage]⟩
        refine ⟨String.ofList (before ++ [d]), ?_, ?_⟩
        · rw [takeBytesList_eq_some_iff.2 ⟨hbegins, hcount⟩]
          rfl
        · apply sanitizeMessage_prefix hbegins _ (by omega)
          exact (tidy_collapsedMessage message).of_beginning hbegins (by simpa using hd)
  · rw [if_neg hsize]
    have hfits : MessageFits message := .inl (by omega)
    have hmessage := sanitizeMessage_prefix (List.prefix_refl (collapsedMessage message))
      (tidy_collapsedMessage message) (by omega)
    exact ⟨fun _ => hfits, fun _ => ⟨_, rfl, hmessage⟩⟩

/-- A message of 240 bytes at most is never cut. -/
theorem sanitizeMessage_short (message : String) (h : message.utf8ByteSize ≤ 240) :
    ∃ text, sanitizeMessage message = some text ∧ text.utf8ByteSize ≤ message.utf8ByteSize := by
  have hcollapse := utf8ByteSize_collapseWhitespace_le message
  have htrim := utf8ByteSize_trim_le (collapseWhitespace message)
  have hshort : sanitizeMessage message = some (trim (collapseWhitespace message)) := by
    rw [sanitizeMessage, if_neg (by omega)]
  exact ⟨_, hshort, by omega⟩

/-! ## Contexts -/

/-- A text is cut after `limit - 3` bytes when it has more than `limit`; one of
its characters has to end there. -/
def TextFits (limit : Nat) (s : String) : Prop :=
  sizeList (trimList s.toList) ≤ limit ∨
    ∃ before after, trimList s.toList = before ++ after ∧ sizeList before = limit - 3

/-- Whether an item of an array is kept. -/
def keeps : Json → Bool
  | .bool _ | .num _ => true
  | .str s => trim s ≠ ""
  | _ => false

/-- Every text among the items that are looked at, until eight are kept, can be
cut. -/
def ItemsFit (room : Nat) (items : List Json) : Prop :=
  ∀ before s after, items = before ++ .str s :: after →
    before.countP keeps < room → TextFits 80 s

/-- Every text of a context that is looked at can be cut. -/
def ContextFits : Nat → Json → Prop
  | levels + 1, .obj fields => ∀ field ∈ fields,
    match field.2 with
    | .str s => TextFits 160 s
    | .arr items => ItemsFit 8 items
    | .obj inner => ContextFits levels (.obj inner)
    | _ => True
  | _, _ => True

/-- A value without parts, a text of 160 characters at most. -/
def IsScalar : Json → Prop
  | .null | .bool _ | .num _ => True
  | .str s => s.length ≤ 160
  | .arr _ | .obj _ => False

/-- A scalar, an array of eight scalars at most, or an object of such values
with `levels` objects inside each other at most. -/
def IsBounded : Nat → Json → Prop
  | _, .arr items => items.length ≤ 8 ∧ ∀ v ∈ items, IsScalar v
  | levels + 1, .obj fields => ∀ field ∈ fields, IsBounded levels field.2
  | _, v => IsScalar v

theorem filterText_blank {limit : Nat} {s : String} (h : trim s = "") :
    filterText limit s = some none := by
  rw [filterText]
  exact if_pos h

/-- What is left of a text that is not blank: as many bytes as the limit at
most. -/
theorem filterText_ok {limit : Nat} {s : String} (hlow : 3 ≤ limit) (hhigh : limit ≤ 240)
    (hblank : trim s ≠ "") (h : TextFits limit s) :
    ∃ text, filterText limit s = some (some (.str text)) ∧ text.length ≤ limit := by
  have hsize : (trim s).utf8ByteSize = sizeList (trimList s.toList) := by
    rw [trim, utf8ByteSize_ofList]
  have hclean (truncated : String) (hle : truncated.utf8ByteSize ≤ limit) :
      ∃ text, sanitizeMessage truncated = some text ∧ text.length ≤ limit := by
    obtain ⟨text, htext, hle'⟩ := sanitizeMessage_short truncated (by omega)
    have hlength := length_le_utf8ByteSize text
    exact ⟨text, htext, by omega⟩
  by_cases hlong : limit < (trim s).utf8ByteSize
  · rcases h with h | ⟨before, after, hcut, hcount⟩
    · omega
    · have htake : takeBytes (trim s) (limit - 3) = some (String.ofList before) := by
        rw [takeBytes, trim, String.toList_ofList,
          takeBytesList_eq_some_iff.2 ⟨⟨after, hcut.symm⟩, hcount⟩]
        rfl
      obtain ⟨text, htext, hle⟩ := hclean (String.ofList before ++ "...") (by
        rw [String.utf8ByteSize_append, utf8ByteSize_ofList, hcount]
        show limit - 3 + 3 ≤ limit
        omega)
      refine ⟨text, ?_, hle⟩
      simp [filterText, hblank, hlong, htake, htext]
  · obtain ⟨text, htext, hle⟩ := hclean (trim s) (by omega)
    refine ⟨text, ?_, hle⟩
    simp [filterText, hblank, hlong, htext]

theorem filterText_eq_none {limit : Nat} {s : String} (h : ¬ TextFits limit s) :
    filterText limit s = none := by
  rw [TextFits, not_or] at h
  have hsize : (trim s).utf8ByteSize = sizeList (trimList s.toList) := by
    rw [trim, utf8ByteSize_ofList]
  have hblank : trim s ≠ "" := by
    intro hblank
    rw [hblank] at hsize
    have hzero : "".utf8ByteSize = 0 := rfl
    omega
  have htake : takeBytes (trim s) (limit - 3) = none := by
    rw [takeBytes, trim, String.toList_ofList, Option.map_eq_none_iff, Option.eq_none_iff_forall_ne_some]
    intro before hbefore
    obtain ⟨⟨after, hcut⟩, hcount⟩ := takeBytesList_eq_some_iff.1 hbefore
    exact h.2 ⟨before, after, hcut.symm, hcount⟩
  have hlong : limit < (trim s).utf8ByteSize := by omega
  simp [filterText, hblank, hlong, htake]

theorem isScalar_of_length {s : String} (h : s.length ≤ 80) : IsScalar (.str s) := by
  show s.length ≤ 160
  omega

theorem filterItem_ok {item : Json} (h : ∀ s, item = .str s → TextFits 80 s) :
    if keeps item then ∃ v, filterItem item = some (some v) ∧ IsScalar v
    else filterItem item = some none := by
  cases item with
  | null => exact rfl
  | bool b => exact ⟨_, rfl, trivial⟩
  | num n => exact ⟨_, rfl, trivial⟩
  | arr items => exact rfl
  | obj fields => exact rfl
  | str s =>
    by_cases hblank : trim s = ""
    · have hkeeps : keeps (.str s) = false := by simp [keeps, hblank]
      rw [hkeeps]
      exact filterText_blank hblank
    · have hkeeps : keeps (.str s) = true := by simp [keeps, hblank]
      obtain ⟨text, htext, hle⟩ := filterText_ok (by omega) (by omega) hblank (h s rfl)
      rw [hkeeps]
      exact ⟨_, htext, isScalar_of_length hle⟩

theorem itemsFit_zero (items : List Json) : ItemsFit 0 items :=
  fun _ _ _ _ h => absurd h (Nat.not_lt_zero _)

theorem itemsFit_nil (room : Nat) : ItemsFit room [] := fun before s after h => by
  simp at h

/-- An item that is kept leaves room for one less. -/
theorem itemsFit_cons {room : Nat} {item : Json} {items : List Json} :
    ItemsFit (room + 1) (item :: items) ↔
      (∀ s, item = .str s → TextFits 80 s) ∧
        ItemsFit (if keeps item then room else room + 1) items := by
  have hcount (before : List Json) :
      (item :: before).countP keeps < room + 1 ↔
        before.countP keeps < if keeps item then room else room + 1 := by
    rw [List.countP_cons]
    split <;> omega
  constructor
  · intro h
    constructor
    · rintro s rfl
      exact h [] s items rfl (Nat.succ_pos _)
    · intro before s after hitems hlt
      exact h (item :: before) s after (by rw [hitems]; rfl) ((hcount before).2 hlt)
  · rintro ⟨hitem, hrest⟩ before s after hitems hlt
    cases before with
    | nil => exact hitem s (List.cons.inj hitems).1
    | cons first before =>
      obtain ⟨rfl, htail⟩ := List.cons.inj hitems
      exact hrest before s after htail ((hcount before).1 hlt)

/-- Of the items eight are kept at most, and all of them are scalars. -/
theorem filterItems_ok {room : Nat} {items : List Json} (h : ItemsFit room items) :
    ∃ kept, filterItems room items = some kept ∧ kept.length ≤ room ∧ ∀ v ∈ kept, IsScalar v := by
  induction items generalizing room with
  | nil =>
    refine ⟨[], ?_, Nat.zero_le _, by simp⟩
    cases room <;> rfl
  | cons item items ih =>
    cases room with
    | zero => exact ⟨[], rfl, Nat.le_refl _, by simp⟩
    | succ room =>
      obtain ⟨hitem, hrest⟩ := itemsFit_cons.1 h
      have hone := filterItem_ok hitem
      split at hone
      · next hkeeps =>
        rw [if_pos hkeeps] at hrest
        obtain ⟨v, hv, hscalar⟩ := hone
        obtain ⟨kept, hkept, hlength, hall⟩ := ih hrest
        refine ⟨v :: kept, by simp [filterItems, hv, hkept], by simpa using hlength, ?_⟩
        intro w hw
        rcases List.mem_cons.1 hw with rfl | hw
        · exact hscalar
        · exact hall w hw
      · next hkeeps =>
        rw [if_neg hkeeps] at hrest
        obtain ⟨kept, hkept, hlength, hall⟩ := ih hrest
        exact ⟨kept, by simp [filterItems, hone, hkept], hlength, hall⟩

theorem filterItems_eq_none {room : Nat} {items : List Json} (h : ¬ ItemsFit room items) :
    filterItems room items = none := by
  induction items generalizing room with
  | nil => exact absurd (itemsFit_nil room) h
  | cons item items ih =>
    cases room with
    | zero => exact absurd (itemsFit_zero _) h
    | succ room =>
      rw [itemsFit_cons, not_and] at h
      by_cases hitem : ∀ s, item = .str s → TextFits 80 s
      · have hone := filterItem_ok hitem
        have hrest := ih (h hitem)
        split at hone
        · next hkeeps =>
          rw [if_pos hkeeps] at hrest
          obtain ⟨v, hv, _⟩ := hone
          simp [filterItems, hv, hrest]
        · next hkeeps =>
          rw [if_neg hkeeps] at hrest
          simp [filterItems, hone, hrest]
      · rw [not_forall] at hitem
        obtain ⟨s, hs⟩ := hitem
        rw [Classical.not_imp] at hs
        obtain ⟨rfl, hs⟩ := hs
        have hnone : filterItem (.str s) = none := filterText_eq_none hs
        simp [filterItems, hnone]

/-! ### Objects -/

/-- What the fields of an object have to fit, with `levels` objects still
allowed. -/
def ValueFits (levels : Nat) : Json → Prop
  | .str s => TextFits 160 s
  | .arr items => ItemsFit 8 items
  | .obj inner => ContextFits levels (.obj inner)
  | _ => True

theorem contextFits_obj {levels : Nat} {fields : List (String × Json)} :
    ContextFits (levels + 1) (.obj fields) ↔ ∀ field ∈ fields, ValueFits levels field.2 := by
  rw [ContextFits]
  refine forall_congr' fun field => imp_congr_right fun _ => ?_
  cases field.2 <;> rfl

/-- What `filter_context_inner` does at one level. -/
def FiltersAt (levels : Nat) : Prop :=
  ∀ v, (ContextFits levels v →
      ∃ w, filterContextInner levels v = some w ∧ IsBounded levels w) ∧
    (¬ ContextFits levels v → filterContextInner levels v = none)

theorem isBounded_null (levels : Nat) : IsBounded levels .null := by
  cases levels <;> exact trivial

theorem isBounded_of_isScalar {levels : Nat} {v : Json} (h : IsScalar v) : IsBounded levels v := by
  cases v with
  | arr items => cases h
  | obj fields => cases h
  | _ => cases levels <;> exact h

theorem isBounded_arr {levels : Nat} {items : List Json} (hlength : items.length ≤ 8)
    (h : ∀ v ∈ items, IsScalar v) : IsBounded levels (.arr items) := by
  cases levels <;> exact ⟨hlength, h⟩

theorem filterValue_ok {levels : Nat} (hinner : FiltersAt levels) {v : Json}
    (h : ValueFits levels v) :
    ∃ kept, filterValue (filterContextInner levels) v = some kept ∧
      ∀ w ∈ kept, IsBounded levels w := by
  cases v with
  | null => exact ⟨none, rfl, by simp⟩
  | bool b => exact ⟨_, rfl, fun w hw => by cases hw; exact isBounded_of_isScalar trivial⟩
  | num n => exact ⟨_, rfl, fun w hw => by cases hw; exact isBounded_of_isScalar trivial⟩
  | str s =>
    by_cases hblank : trim s = ""
    · exact ⟨none, filterText_blank hblank, by simp⟩
    · obtain ⟨text, htext, hle⟩ := filterText_ok (by omega) (by omega) hblank h
      refine ⟨_, htext, fun w hw => ?_⟩
      cases hw
      exact isBounded_of_isScalar hle
  | arr items =>
    obtain ⟨kept, hkept, hlength, hall⟩ := filterItems_ok h
    refine ⟨if kept.isEmpty then none else some (.arr kept), by simp [filterValue, hkept], ?_⟩
    intro w hw
    split at hw <;> cases hw
    exact isBounded_arr hlength hall
  | obj fields =>
    obtain ⟨inner, heq, hbounded⟩ := (hinner (.obj fields)).1 h
    refine ⟨if inner.isNull then none else some inner, by simp [filterValue, heq], ?_⟩
    intro w hw
    split at hw <;> cases hw
    exact hbounded

theorem filterValue_eq_none {levels : Nat} (hinner : FiltersAt levels) {v : Json}
    (h : ¬ ValueFits levels v) : filterValue (filterContextInner levels) v = none := by
  cases v with
  | null => exact absurd trivial h
  | bool b => exact absurd trivial h
  | num n => exact absurd trivial h
  | str s => exact filterText_eq_none h
  | arr items =>
    have hnone : filterItems 8 items = none := filterItems_eq_none h
    simp [filterValue, hnone]
  | obj fields =>
    have hnone := (hinner (.obj fields)).2 h
    simp [filterValue, hnone]

theorem filterFields_ok {levels : Nat} (hinner : FiltersAt levels)
    {fields : List (String × Json)} (h : ∀ field ∈ fields, ValueFits levels field.2) :
    ∃ kept, filterFields (filterContextInner levels) fields = some kept ∧
      ∀ field ∈ kept, IsBounded levels field.2 := by
  induction fields with
  | nil => exact ⟨[], rfl, by simp⟩
  | cons field fields ih =>
    obtain ⟨w, hw, hbounded⟩ := filterValue_ok hinner (h field (List.mem_cons_self ..))
    obtain ⟨kept, hkept, hall⟩ := ih fun f hf => h f (List.mem_cons_of_mem _ hf)
    cases w with
    | none => exact ⟨kept, by simp [filterFields, hw, hkept], hall⟩
    | some w =>
      refine ⟨(field.1, w) :: kept, by simp [filterFields, hw, hkept], ?_⟩
      intro f hf
      rcases List.mem_cons.1 hf with rfl | hf
      · exact hbounded w rfl
      · exact hall f hf

theorem filterFields_eq_none {levels : Nat} (hinner : FiltersAt levels)
    {fields : List (String × Json)} (h : ¬ ∀ field ∈ fields, ValueFits levels field.2) :
    filterFields (filterContextInner levels) fields = none := by
  induction fields with
  | nil => exact absurd (by simp) h
  | cons field fields ih =>
    by_cases hfield : ValueFits levels field.2
    · obtain ⟨w, hw, _⟩ := filterValue_ok hinner hfield
      have hrest := ih fun hall => h (List.forall_mem_cons.2 ⟨hfield, hall⟩)
      simp [filterFields, hw, hrest]
    · simp [filterFields, filterValue_eq_none hinner hfield]

/-- A context is filtered exactly when all its texts can be cut, and what is
left is bounded. -/
theorem filterContextInner_spec (levels : Nat) : FiltersAt levels := by
  induction levels with
  | zero =>
    intro v
    have hfits : ContextFits 0 v := by
      cases v <;> trivial
    exact ⟨fun _ => ⟨.null, rfl, trivial⟩, fun h => absurd hfits h⟩
  | succ levels ih =>
    intro v
    cases v with
    | obj fields =>
      rw [contextFits_obj]
      constructor
      · intro h
        obtain ⟨kept, hkept, hall⟩ := filterFields_ok ih h
        refine ⟨if kept.isEmpty then .null else .obj kept, by simp [filterContextInner, hkept], ?_⟩
        split
        · exact isBounded_null _
        · exact hall
      · intro h
        simp [filterContextInner, filterFields_eq_none ih h]
    | _ => exact ⟨fun _ => ⟨.null, rfl, isBounded_null _⟩, fun h => absurd trivial h⟩

/-! ## Recording a failure -/

/-- What recording a failure with this message and context is to do, whatever
the row and the other arguments. -/
structure RecordsFailure (message : String) (context : Option Json) : Prop where
  sanitized : ∃ text, sanitizeMessage message = some text ∧ IsMessage text
  filtered : ∃ safe, filterContext context = some safe ∧ IsBounded 2 safe
  attempt : ∀ code retryable attempt jobContext now g,
    recordAttemptFailureRow code message retryable context attempt jobContext now g ≠ none
  failed : ∀ code retryable attempt jobContext now g,
    markFailedRow code message retryable context attempt jobContext now g ≠ none

theorem recordAttemptFailureRow_ne_none {message text : String} {context : Option Json}
    {safe : Json} (htext : sanitizeMessage message = some text)
    (hsafe : filterContext context = some safe) (code : String) (retryable : Bool)
    (attempt : Option Int) (jobContext : Option Json) (now : DateTime) (g : MediaGeneration) :
    recordAttemptFailureRow code message retryable context attempt jobContext now g ≠ none := by
  unfold recordAttemptFailureRow
  split
  · simp
  · simp [failureError, htext, hsafe]

theorem markFailedRow_ne_none {message text : String} {context : Option Json} {safe : Json}
    (htext : sanitizeMessage message = some text) (hsafe : filterContext context = some safe)
    (code : String) (retryable : Bool) (attempt : Option Int) (jobContext : Option Json)
    (now : DateTime) (g : MediaGeneration) :
    markFailedRow code message retryable context attempt jobContext now g ≠ none := by
  have htransition (payload : AuditPayload) (error : AuditError) :
      ∃ payload', failedTransition payload g.status error context attempt now = some payload' := by
    unfold failedTransition
    split
    · exact ⟨_, by rw [hsafe]; rfl⟩
    · exact ⟨_, rfl⟩
  unfold markFailedRow
  split
  · simp
  · obtain ⟨payload', hpayload⟩ := htransition
      (applyRuntimeMetadata (currentPayload g now) now attempt jobContext)
      { errorCode := code
        message := text
        retryable
        safeContext := safeThrowableContext context }
    simp [failureError, htext, hpayload]

end KlassGateway.Orchestrator
