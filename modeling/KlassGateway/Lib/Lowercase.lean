import KlassGateway.Lib.Search
/-!
# Lower case

What is used of the mapping to lower case, which may change the number of
characters and of bytes.

* `Lowered.split_blank`: a blank in the lower-cased text is a blank of the text.
* `Lowered.size`: how many bytes the lower-cased text has.
* `LowersTexts.contains_iff`: which texts without a sigma occur in it.
-/

namespace KlassGateway.Lib.Text

/-- What the mapping of single characters to lower case does to white space. -/
structure LowersChars (lower : Char → List Char) : Prop where
  /-- White space has no case. -/
  space : ∀ c, isWhitespace c = true → lower c = [c]
  /-- Every character is mapped to one or more. -/
  ne_nil : ∀ c, lower c ≠ []
  /-- A letter is mapped to no white space. -/
  word : ∀ c, isWhitespace c = false → ∀ d ∈ lower c, isWhitespace d = false

/-- A text is lower-cased character by character; only a capital sigma may get
the form that it has at the end of a word. -/
inductive Lowered (lower : Char → List Char) : List Char → List Char → Prop where
  | nil : Lowered lower [] []
  | char (c : Char) {cs ds : List Char} (h : Lowered lower cs ds) :
      Lowered lower (c :: cs) (lower c ++ ds)
  | finalSigma {cs ds : List Char} (h : Lowered lower cs ds) :
      Lowered lower ('Σ' :: cs) ('ς' :: ds)

/-- The mapping of texts to lower case, with that of single characters. -/
structure LowersTexts (lower : Char → List Char) (toLowercase : String → String) : Prop where
  chars : LowersChars lower
  sigma : lower 'Σ' = ['σ']
  texts : ∀ s, Lowered lower s.toList (toLowercase s).toList

variable {lower : Char → List Char} {cs ds : List Char}

/-- The bytes of the lower-cased text are those of its characters, in either
form of sigma. -/
theorem Lowered.size (h : Lowered lower cs ds) (hsigma : lower 'Σ' = ['σ']) :
    sizeList ds = sizeList (cs.flatMap lower) := by
  induction h with
  | nil => rfl
  | char c _ ih => rw [List.flatMap_cons, sizeList_append, sizeList_append, ih]
  | finalSigma _ ih =>
    rw [List.flatMap_cons, hsigma, sizeList_append, ← ih]
    rfl

/-- Characters that keep their sizes make a text that keeps its size. -/
theorem sizeList_flatMap (h : ∀ c ∈ cs, sizeList (lower c) = c.utf8Size) :
    sizeList (cs.flatMap lower) = sizeList cs := by
  induction cs with
  | nil => rfl
  | cons c cs ih =>
    have hrest := ih fun d hd => h d (List.mem_cons_of_mem _ hd)
    rw [List.flatMap_cons, sizeList_append, h c (List.mem_cons_self ..), hrest]
    rfl

/-- A blank comes from a blank. -/
theorem LowersChars.eq_blank {c : Char} (h : LowersChars lower) (hc : ' ' ∈ lower c) : c = ' ' := by
  have hspace : isWhitespace c = true := by
    by_contra hword
    have hblank := h.word c (by simpa using hword) ' ' hc
    cases hblank
  rw [h.space c hspace, List.mem_singleton] at hc
  exact hc.symm

/-- The lower-cased text is cut at a blank where the text is. -/
theorem Lowered.split_blank (hlower : LowersChars lower) (h : Lowered lower cs ds)
    {x y : List Char} (hds : ds = x ++ ' ' :: y) :
    ∃ before after, cs = before ++ ' ' :: after ∧ Lowered lower before x := by
  induction h generalizing x with
  | nil => simp at hds
  | @char c cs ds h ih =>
    rcases List.append_eq_append_iff.1 hds with ⟨rest, rfl, hrest⟩ | ⟨rest, hc, hrest⟩
    · obtain ⟨before, after, rfl, hbefore⟩ := ih hrest
      exact ⟨c :: before, after, rfl, .char c hbefore⟩
    · cases rest with
      | nil =>
        obtain ⟨before, after, rfl, hbefore⟩ := ih (x := []) hrest.symm
        rw [List.append_nil] at hc
        refine ⟨c :: before, after, rfl, ?_⟩
        rw [← hc, ← List.append_nil (lower c)]
        exact hbefore.char c
      | cons d rest =>
        -- The blank is one of those to which the character itself is mapped.
        obtain ⟨rfl, _⟩ := List.cons.inj hrest
        have hblank : c = ' ' := hlower.eq_blank (by rw [hc]; simp)
        rw [hblank, hlower.space ' ' rfl] at hc
        have hx : x = [] := by
          cases x with
          | nil => rfl
          | cons e x => simp at hc
        rw [hx, hblank]
        exact ⟨[], cs, rfl, .nil⟩
  | @finalSigma cs ds h ih =>
    cases x with
    | nil => cases hds
    | cons d x =>
      obtain ⟨rfl, hrest⟩ := List.cons.inj hds
      obtain ⟨before, after, rfl, hbefore⟩ := ih hrest
      exact ⟨'Σ' :: before, after, rfl, hbefore.finalSigma⟩

theorem lowered_flatMap (lower : Char → List Char) (cs : List Char) :
    Lowered lower cs (cs.flatMap lower) := by
  induction cs with
  | nil => exact .nil
  | cons c cs ih =>
    rw [List.flatMap_cons]
    exact ih.char c

/-! ## Occurrences -/

/-- One form of sigma for both. -/
def oneSigma (c : Char) : Char := if c = 'ς' then 'σ' else c

/-- A text in which neither form of sigma stands. -/
def NoSigma (pat : List Char) : Prop := 'σ' ∉ pat ∧ 'ς' ∉ pat

instance (pat : List Char) : Decidable (NoSigma pat) :=
  inferInstanceAs (Decidable ('σ' ∉ pat ∧ 'ς' ∉ pat))

/-- Up to the form of sigma, the text is that of its characters. -/
theorem Lowered.map_oneSigma (h : Lowered lower cs ds) (hsigma : lower 'Σ' = ['σ']) :
    ds.map oneSigma = (cs.flatMap lower).map oneSigma := by
  induction h with
  | nil => rfl
  | char c _ ih => rw [List.flatMap_cons, List.map_append, List.map_append, ih]
  | finalSigma _ ih =>
    rw [List.flatMap_cons, hsigma, List.map_append, ← ih]
    rfl

/-- Characters that become those of a text without sigma are its characters. -/
theorem eq_of_map_oneSigma {pat xs : List Char} (hpat : NoSigma pat)
    (h : xs.map oneSigma = pat) : xs = pat := by
  subst h
  have hid : ∀ c ∈ xs, oneSigma c = c := by
    intro c hc
    unfold oneSigma
    split
    · next hfinal =>
      have hmem : oneSigma c ∈ xs.map oneSigma := List.mem_map_of_mem hc
      rw [hfinal] at hmem
      exact absurd hmem hpat.1
    · rfl
  rw [List.map_congr_left hid, List.map_id']

theorem infix_map_oneSigma {pat xs : List Char} (hpat : NoSigma pat) :
    pat <:+: xs.map oneSigma ↔ pat <:+: xs := by
  constructor
  · rintro ⟨before, after, h⟩
    obtain ⟨left, after', rfl, hleft, rfl⟩ := List.map_eq_append_iff.1 h.symm
    obtain ⟨before', pat', rfl, rfl, hpat'⟩ := List.map_eq_append_iff.1 hleft
    rw [← eq_of_map_oneSigma hpat hpat']
    exact ⟨before', after', rfl⟩
  · intro h
    have hself : pat.map oneSigma = pat := by
      have hid : ∀ c ∈ pat, oneSigma c = c := by
        intro c hc
        have hfinal : c ≠ 'ς' := fun he => hpat.2 (he ▸ hc)
        exact if_neg hfinal
      rw [List.map_congr_left hid, List.map_id']
    have hmap := h.map oneSigma
    rwa [hself] at hmap

/-- A text without sigma occurs in a lower-cased text where it occurs in the
lower-cased characters. -/
theorem LowersTexts.contains_iff {toLowercase : String → String}
    (h : LowersTexts lower toLowercase) {pat : String} (hpat : NoSigma pat.toList) (s : String) :
    contains (toLowercase s) pat = true ↔ pat.toList <:+: s.toList.flatMap lower := by
  rw [contains, containsList_iff_infix, ← infix_map_oneSigma hpat,
    (h.texts s).map_oneSigma h.sigma, infix_map_oneSigma hpat]

/-! ## The mapping of ASCII letters -/

/-- ASCII characters are mapped as such. -/
def LowersAscii (lower : Char → List Char) : Prop := ∀ c, c.toNat < 128 → lower c = [c.toLower]

/-- The mapping of an ASCII text. -/
theorem LowersAscii.flatMap (h : LowersAscii lower) (hcs : cs.all (fun c => c.toNat < 128) = true) :
    cs.flatMap lower = cs.map Char.toLower := by
  induction cs with
  | nil => rfl
  | cons c cs ih =>
    rw [List.all_cons, Bool.and_eq_true] at hcs
    rw [List.flatMap_cons, h c (by simpa using hcs.1), ih hcs.2]
    rfl

theorem toNat_toLower (c : Char) :
    c.toLower.toNat = if 65 ≤ c.toNat ∧ c.toNat ≤ 90 then c.toNat + 32 else c.toNat := by
  have hcode : (c.val ≥ 'A'.val ∧ c.val ≤ 'Z'.val) ↔ 65 ≤ c.toNat ∧ c.toNat ≤ 90 := by
    simp [UInt32.le_iff_toNat_le]
  unfold Char.toLower
  split
  · next hupper =>
    have hrange := hcode.1 hupper
    rw [if_pos hrange]
    show (c.val + 32).toNat = c.toNat + 32
    rw [UInt32.toNat_add]
    show (c.toNat + 32) % 2 ^ 32 = c.toNat + 32
    omega
  · next hupper => rw [if_neg (mt hcode.2 hupper)]

theorem lowersChars_toLower : LowersChars fun c => [c.toLower] where
  space c hc := by
    have hcode := toNat_toLower c
    rw [if_neg (by simp [isWhitespace] at hc; omega)] at hcode
    show [c.toLower] = [c]
    rw [Char.toNat_inj.1 hcode]
  ne_nil c := List.cons_ne_nil _ _
  word c hc d hd := by
    rw [List.mem_singleton.1 hd]
    have hcode := toNat_toLower c
    simp [isWhitespace] at hc ⊢
    split at hcode <;> omega

/-- One more letter may be mapped to letters. -/
theorem LowersChars.update (h : LowersChars lower) {letter : Char} {ds : List Char}
    (hletter : isWhitespace letter = false) (hne : ds ≠ [])
    (hds : ∀ d ∈ ds, isWhitespace d = false) :
    LowersChars fun c => if c = letter then ds else lower c where
  space c hc := by
    have hother : c ≠ letter := by
      rintro rfl
      rw [hletter] at hc
      cases hc
    rw [if_neg hother]
    exact h.space c hc
  ne_nil c := by
    split
    · exact hne
    · exact h.ne_nil c
  word c hc := by
    split
    · exact hds
    · exact h.word c hc

end KlassGateway.Lib.Text
