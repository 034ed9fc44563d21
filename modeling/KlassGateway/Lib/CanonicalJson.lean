import KlassGateway.Lib.Json
import Mathlib.Data.List.Sort
import Mathlib.Data.List.Perm.Basic
import Mathlib.Data.String.Basic
/-!
# Canonical JSON text

The text of a JSON value with sorted keys and without white space, and what it
determines.  The text of a number is a parameter.

* `KeyEquiv`: two values are equal up to the order of object keys, at every depth.
* `text_congr`: equivalent values have one text.
* `text_append_inj`: the text of a value can be read back from any text that it
  starts, up to this equivalence.
* `text_eq_iff` puts the two together, and `keyEquiv_obj_iff` compares two objects
  whose keys are in the same order.

Texts are lists of characters here.  Reading back goes from the characters of a
string (`readChar`) over strings and lists to values, each time with the rest of
the text as an argument.
-/

namespace KlassGateway.Lib.Json

/-- Induction over the values inside arrays and objects. -/
@[elab_as_elim]
theorem induct {motive : Json → Prop} (null : motive .null) (bool : ∀ b, motive (.bool b))
    (num : ∀ n, motive (.num n)) (str : ∀ s, motive (.str s))
    (arr : ∀ items, (∀ v ∈ items, motive v) → motive (.arr items))
    (obj : ∀ fields : List (String × Json), (∀ kv ∈ fields, motive kv.2) → motive (.obj fields))
    (v : Json) : motive v := by
  refine @Json.rec motive (fun items => ∀ v ∈ items, motive v)
    (fun fields => ∀ kv ∈ fields, motive kv.2) (fun kv => motive kv.2)
    null bool num str arr obj ?_ ?_ ?_ ?_ ?_ v
  · simp
  · intro w items hw hitems
    simpa [hw] using hitems
  · simp
  · intro kv fields hkv hfields
    simpa [hkv] using hfields
  · intro k w hw
    exact hw

/-- The keys of each object are distinct, as in the maps of the source. -/
inductive DistinctKeys : Json → Prop
  | null : DistinctKeys .null
  | bool (b : Bool) : DistinctKeys (.bool b)
  | num (n : Number) : DistinctKeys (.num n)
  | str (s : String) : DistinctKeys (.str s)
  | arr {items : List Json} (hitems : ∀ v ∈ items, DistinctKeys v) : DistinctKeys (.arr items)
  | obj {fields : List (String × Json)} (hkeys : (fields.map Prod.fst).Nodup)
      (hfields : ∀ kv ∈ fields, DistinctKeys kv.2) : DistinctKeys (.obj fields)

/-- Equality up to the order of object keys, at every depth. -/
inductive KeyEquiv : Json → Json → Prop
  | null : KeyEquiv .null .null
  | bool (b : Bool) : KeyEquiv (.bool b) (.bool b)
  | num (n : Number) : KeyEquiv (.num n) (.num n)
  | str (s : String) : KeyEquiv (.str s) (.str s)
  | arr {xs ys : List Json} (hitems : List.Forall₂ KeyEquiv xs ys) : KeyEquiv (.arr xs) (.arr ys)
  | obj {fs fs' gs' gs : List (String × Json)} (hf : fs.Perm fs')
      (hkeys : fs'.map Prod.fst = gs'.map Prod.fst)
      (hvalues : List.Forall₂ KeyEquiv (fs'.map Prod.snd) (gs'.map Prod.snd))
      (hg : gs'.Perm gs) : KeyEquiv (.obj fs) (.obj gs)

/-! ## The text -/

/-- Two hexadecimal digits of a small number. -/
def hexDigit (n : Nat) : Char := if n < 10 then Char.ofNat (48 + n) else Char.ofNat (87 + n)

/-- A character inside a string: quotes, backslashes and control characters are
escaped. -/
def escapeChar (c : Char) : List Char :=
  if c = '"' then ['\\', '"']
  else if c = '\\' then ['\\', '\\']
  else if c = '\n' then ['\\', 'n']
  else if c = '\r' then ['\\', 'r']
  else if c = '\t' then ['\\', 't']
  else if c.toNat = 8 then ['\\', 'b']
  else if c.toNat = 12 then ['\\', 'f']
  else if c.toNat < 32 then ['\\', 'u', '0', '0', hexDigit (c.toNat / 16), hexDigit (c.toNat % 16)]
  else [c]

/-- A string in quotes. -/
def quoted (s : String) : List Char := '"' :: s.toList.flatMap escapeChar ++ ['"']

/-- Elements with commas between them. -/
def commaSeparated : List (List Char) → List Char
  | [] => []
  | t :: ts => t ++ ts.flatMap (',' :: ·)

/-- The entries of a map in the order of their keys. -/
def sortKeys {α : Type} (fields : List (String × α)) : List (String × α) :=
  fields.insertionSort fun f g => f.1 ≤ g.1

section Text

variable (number : Number → List Char)

mutual

/-- The canonical text.  The texts of the fields are sorted by their keys. -/
def text : Json → List Char
  | null => "null".toList
  | bool b => if b then "true".toList else "false".toList
  | num n => number n
  | str s => quoted s
  | arr items => '[' :: commaSeparated (textItems items) ++ [']']
  | obj fields => '{' :: commaSeparated
      ((sortKeys (textFields fields)).map fun kt => quoted kt.1 ++ ':' :: kt.2) ++ ['}']

/-- The texts of the items of an array. -/
def textItems : List Json → List (List Char)
  | [] => []
  | v :: items => text v :: textItems items

/-- The texts of the fields of an object, with their keys. -/
def textFields : List (String × Json) → List (String × List Char)
  | [] => []
  | (k, v) :: fields => (k, text v) :: textFields fields

end

theorem textItems_eq (items : List Json) : textItems number items = items.map (text number) := by
  induction items with
  | nil => rfl
  | cons v items ih => rw [textItems, ih, List.map_cons]

theorem textFields_eq (fields : List (String × Json)) :
    textFields number fields = fields.map fun kv => (kv.1, text number kv.2) := by
  induction fields with
  | nil => rfl
  | cons kv fields ih =>
    obtain ⟨k, v⟩ := kv
    rw [textFields, ih, List.map_cons]

end Text

/-! ## Sorted keys -/

theorem sortKeys_perm {α : Type} (fields : List (String × α)) : (sortKeys fields).Perm fields :=
  List.perm_insertionSort _ fields

/-- Sorting looks at the keys only. -/
theorem sortKeys_map {α β : Type} (g : α → β) (fields : List (String × α)) :
    sortKeys (fields.map fun kv => (kv.1, g kv.2)) =
      (sortKeys fields).map fun kv => (kv.1, g kv.2) :=
  (List.map_insertionSort (fun f g : String × α => f.1 ≤ g.1) (fun f g : String × β => f.1 ≤ g.1)
    (fun kv => (kv.1, g kv.2)) fields fun _ _ _ _ => Iff.rfl).symm

/-- The order of the entries of a map does not matter. -/
theorem sortKeys_congr {α : Type} {fs gs : List (String × α)} (hkeys : (fs.map Prod.fst).Nodup)
    (h : fs.Perm gs) : sortKeys fs = sortKeys gs := by
  have hsorted : ∀ hs : List (String × α), (sortKeys hs).Pairwise fun f g => f.1 ≤ g.1 := by
    intro hs
    have htotal : Std.Total fun f g : String × α => f.1 ≤ g.1 := ⟨fun f g => le_total f.1 g.1⟩
    have htrans : IsTrans (String × α) fun f g => f.1 ≤ g.1 := ⟨fun _ _ _ => le_trans⟩
    exact List.pairwise_insertionSort _ hs
  have hperm : (sortKeys fs).Perm (sortKeys gs) :=
    ((sortKeys_perm fs).trans h).trans (sortKeys_perm gs).symm
  apply hperm.eq_of_pairwise _ (hsorted fs) (hsorted gs)
  -- two entries with one key are the same entry
  intro f g hf hg hfg hgf
  have hmem : f ∈ fs := (sortKeys_perm fs).mem_iff.1 hf
  have hmem' : g ∈ fs := h.mem_iff.2 ((sortKeys_perm gs).mem_iff.1 hg)
  exact List.inj_on_of_nodup_map hkeys hmem hmem' (le_antisymm hfg hgf)

/-- The text of an object in terms of its sorted fields. -/
theorem text_obj (number : Number → List Char) (fields : List (String × Json)) :
    text number (.obj fields) = '{' :: commaSeparated
      ((sortKeys fields).map fun kv => quoted kv.1 ++ ':' :: text number kv.2) ++ ['}'] := by
  rw [text, textFields_eq, sortKeys_map, List.map_map]
  rfl

theorem text_arr (number : Number → List Char) (items : List Json) :
    text number (.arr items) = '[' :: commaSeparated (items.map (text number)) ++ [']'] := by
  rw [text, textItems_eq]

/-- Equivalent lists have the same texts, if equivalent elements have. -/
theorem map_text_congr {number : Number → List Char} {xs ys : List Json}
    (h : List.Forall₂ KeyEquiv xs ys)
    (htext : ∀ v ∈ xs, ∀ w ∈ ys, KeyEquiv v w → text number v = text number w) :
    xs.map (text number) = ys.map (text number) := by
  induction h with
  | nil => rfl
  | @cons v w xs ys hvw _ ih =>
    have hhead := htext v (List.mem_cons_self ..) w (List.mem_cons_self ..) hvw
    have htail := ih fun v' hv' w' hw' =>
      htext v' (List.mem_cons_of_mem _ hv') w' (List.mem_cons_of_mem _ hw')
    rw [List.map_cons, List.map_cons, hhead, htail]

/-- Fields are a list of keys and a list of values. -/
theorem fields_eq_zip {α β : Type} (g : α → β) (fields : List (String × α)) :
    fields.map (fun kv => (kv.1, g kv.2)) =
      (fields.map Prod.fst).zip ((fields.map Prod.snd).map g) := by
  induction fields with
  | nil => rfl
  | cons kv fields ih => simp [ih]

theorem DistinctKeys.items {items : List Json} (h : DistinctKeys (.arr items)) :
    ∀ v ∈ items, v.DistinctKeys := by
  cases h with
  | arr hitems => exact hitems

theorem DistinctKeys.fields {fields : List (String × Json)} (h : DistinctKeys (.obj fields)) :
    (fields.map Prod.fst).Nodup ∧ ∀ kv ∈ fields, kv.2.DistinctKeys := by
  cases h with
  | obj hkeys hfields => exact ⟨hkeys, hfields⟩

/-- Values that are equal up to the order of keys have one text. -/
theorem text_congr (number : Number → List Char) {a : Json} :
    ∀ {b : Json}, a.DistinctKeys → b.DistinctKeys → KeyEquiv a b →
      text number a = text number b := by
  induction a using induct with
  | null | bool b | num n | str s =>
    intro b _ _ h
    cases h
    rfl
  | arr xs ih =>
    intro b ha hb h
    cases h with
    | arr hitems =>
      have hmap : xs.map (text number) = _ := map_text_congr hitems fun v hv w hw hvw =>
        ih v hv (ha.items v hv) (hb.items w hw) hvw
      rw [text_arr, text_arr, hmap]
  | obj fs ih =>
    intro b ha hb h
    cases h with
    | @obj _ fs' gs' gs hf hkeys hvalues hg =>
      have hmap : (fs'.map Prod.snd).map (text number) = (gs'.map Prod.snd).map (text number) := by
        apply map_text_congr hvalues
        intro v hv w hw hvw
        obtain ⟨kv, hkv, rfl⟩ := List.mem_map.1 hv
        obtain ⟨kw, hkw, rfl⟩ := List.mem_map.1 hw
        have hmem : kv ∈ fs := hf.mem_iff.2 hkv
        exact ih kv hmem (ha.fields.2 kv hmem) (hb.fields.2 kw (hg.mem_iff.1 hkw)) hvw
      have hfields : (fs'.map fun kv => (kv.1, text number kv.2)) =
          gs'.map fun kv => (kv.1, text number kv.2) := by
        rw [fields_eq_zip, fields_eq_zip, hkeys, hmap]
      have hperm : (fs.map fun kv => (kv.1, text number kv.2)).Perm
          (gs.map fun kv => (kv.1, text number kv.2)) := by
        refine (hf.map _).trans ?_
        rw [hfields]
        exact hg.map _
      have hnodup : ((fs.map fun kv => (kv.1, text number kv.2)).map Prod.fst).Nodup := by
        rw [List.map_map]
        exact ha.fields.1
      rw [text, text, textFields_eq, textFields_eq, sortKeys_congr hnodup hperm]

/-! ## Reading a string back -/

/-- The value of a hexadecimal digit. -/
def hexValue (c : Char) : Nat := if c.toNat < 58 then c.toNat - 48 else c.toNat - 87

/-- The first character of a string's text, and what follows it. -/
def readChar : List Char → Option (Char × List Char)
  | '\\' :: 'u' :: _ :: _ :: a :: b :: rest => some (Char.ofNat (16 * hexValue a + hexValue b), rest)
  | '\\' :: 'n' :: rest => some ('\n', rest)
  | '\\' :: 'r' :: rest => some ('\r', rest)
  | '\\' :: 't' :: rest => some ('\t', rest)
  | '\\' :: 'b' :: rest => some (Char.ofNat 8, rest)
  | '\\' :: 'f' :: rest => some (Char.ofNat 12, rest)
  | '\\' :: c :: rest => some (c, rest)
  | c :: rest => some (c, rest)
  | [] => none

/-- The digits of a control character determine it. -/
theorem hexValue_hexDigit {n : Nat} (hn : n < 32) :
    16 * hexValue (hexDigit (n / 16)) + hexValue (hexDigit (n % 16)) = n := by
  have hall : ∀ m < 32, 16 * hexValue (hexDigit (m / 16)) + hexValue (hexDigit (m % 16)) = m := by
    decide
  exact hall n hn

/-- An escaped character is read back, whatever follows it. -/
theorem readChar_escapeChar (c : Char) (rest : List Char) :
    readChar (escapeChar c ++ rest) = some (c, rest) := by
  unfold escapeChar
  split_ifs with hquote hslash hn hr ht hb hf hcontrol
  · subst hquote
    rfl
  · subst hslash
    rfl
  · subst hn
    rfl
  · subst hr
    rfl
  · subst ht
    rfl
  · have hc : c = Char.ofNat 8 := by rw [← hb, Char.ofNat_toNat]
    subst hc
    rfl
  · have hc : c = Char.ofNat 12 := by rw [← hf, Char.ofNat_toNat]
    subst hc
    rfl
  · simp [readChar, hexValue_hexDigit hcontrol, Char.ofNat_toNat]
  · cases rest <;> simp [readChar, hslash]

/-- No character of a string reads as the quote at its end. -/
theorem escapeChar_head (c : Char) : ∃ d ds, escapeChar c = d :: ds ∧ d ≠ '"' := by
  unfold escapeChar
  split_ifs with hquote
  all_goals first
    | exact ⟨_, _, rfl, by decide⟩
    | exact ⟨_, _, rfl, hquote⟩

/-- A string is read back, up to the quote at its end. -/
theorem escaped_append_inj {s t x y : List Char}
    (h : s.flatMap escapeChar ++ '"' :: x = t.flatMap escapeChar ++ '"' :: y) : s = t ∧ x = y := by
  induction s generalizing t with
  | nil =>
    cases t with
    | nil => simpa using h
    | cons d t =>
      obtain ⟨e, es, he, hne⟩ := escapeChar_head d
      simp [he] at h
      exact absurd h.1.symm hne
  | cons c s ih =>
    cases t with
    | nil =>
      obtain ⟨e, es, he, hne⟩ := escapeChar_head c
      simp [he] at h
      exact absurd h.1 hne
    | cons d t =>
      simp only [List.flatMap_cons, List.append_assoc] at h
      have hread := congrArg readChar h
      rw [readChar_escapeChar, readChar_escapeChar] at hread
      simp only [Option.some.injEq, Prod.mk.injEq] at hread
      obtain ⟨hst, hxy⟩ := ih hread.2
      exact ⟨by rw [hread.1, hst], hxy⟩

theorem quoted_append_inj {s t : String} {x y : List Char} (h : quoted s ++ x = quoted t ++ y) :
    s = t ∧ x = y := by
  simp only [quoted, List.cons_append, List.append_assoc, List.cons.injEq, true_and,
    List.nil_append] at h
  obtain ⟨hst, hxy⟩ := escaped_append_inj h
  exact ⟨String.toList_inj.1 hst, hxy⟩

/-! ## Reading a value back -/

/-- The characters of a number. -/
def IsNumberChar (c : Char) : Prop := c ∈ "0123456789+-.eE".toList

instance (c : Char) : Decidable (IsNumberChar c) := inferInstanceAs (Decidable (c ∈ _))

/-- What is assumed of the texts of numbers: they are distinct, not empty, and made
of the characters of a number. -/
structure NumberText (number : Number → List Char) : Prop where
  injective : Function.Injective number
  nonempty : ∀ n, number n ≠ []
  chars : ∀ n, ∀ c ∈ number n, IsNumberChar c

/-- What can follow a value: nothing, a comma, or a closing bracket. -/
def Ends : List Char → Prop
  | [] => True
  | c :: _ => c ∈ [',', ']', '}']

theorem ends_comma (x : List Char) : Ends (',' :: x) := by simp [Ends]

theorem ends_bracket (x : List Char) : Ends (']' :: x) := by simp [Ends]

theorem ends_brace (x : List Char) : Ends ('}' :: x) := by simp [Ends]

/-- What follows a number is no part of it. -/
theorem takeWhile_ends {x : List Char} (hx : Ends x) :
    x.takeWhile (fun c => decide (IsNumberChar c)) = [] := by
  cases x with
  | nil => rfl
  | cons c x =>
    have hc : ¬ IsNumberChar c := by
      simp only [Ends, List.mem_cons, List.not_mem_nil, or_false] at hx
      rcases hx with rfl | rfl | rfl <;> decide
    simp [hc]

/-- The kinds of values, as the first character tells them apart. -/
inductive Kind where
  | null
  | bool
  | num
  | str
  | arr
  | obj
  | none
  deriving DecidableEq

/-- The kind of the value that starts with a character. -/
def kindOf (c : Char) : Kind :=
  if c = 'n' then .null
  else if c = 't' ∨ c = 'f' then .bool
  else if c = '"' then .str
  else if c = '[' then .arr
  else if c = '{' then .obj
  else if IsNumberChar c then .num
  else .none

/-- The kind of a value. -/
def kind : Json → Kind
  | null => .null
  | bool _ => .bool
  | num _ => .num
  | str _ => .str
  | arr _ => .arr
  | obj _ => .obj

theorem kindOf_numberChar {c : Char} (hc : IsNumberChar c) : kindOf c = .num := by
  have hall : ("0123456789+-.eE".toList.all fun d => kindOf d = .num) = true := by decide
  exact of_decide_eq_true (List.all_eq_true.1 hall c hc)

variable {number : Number → List Char}

/-- The first character of a text tells the kind of its value. -/
theorem text_head (hnumber : NumberText number) (v : Json) :
    ∃ c cs, text number v = c :: cs ∧ kindOf c = v.kind := by
  cases v with
  | null => exact ⟨_, _, rfl, by decide⟩
  | bool b =>
    cases b with
    | true => exact ⟨_, _, rfl, by decide⟩
    | false => exact ⟨_, _, rfl, by decide⟩
  | num n =>
    obtain ⟨c, cs, hn⟩ := List.exists_cons_of_ne_nil (hnumber.nonempty n)
    refine ⟨c, cs, by rw [text, hn], kindOf_numberChar ?_⟩
    apply hnumber.chars n
    simp [hn]
  | str s => exact ⟨_, _, by rw [text, quoted, List.cons_append], rfl⟩
  | arr items => exact ⟨_, _, by rw [text, List.cons_append], rfl⟩
  | obj fields => exact ⟨_, _, by rw [text, List.cons_append], rfl⟩

/-- Two values with texts that start equal texts have one kind. -/
theorem kind_eq_of_text (hnumber : NumberText number) {v w : Json} {x y : List Char}
    (h : text number v ++ x = text number w ++ y) : v.kind = w.kind := by
  obtain ⟨c, cs, hv, hc⟩ := text_head hnumber v
  obtain ⟨d, ds, hw, hd⟩ := text_head hnumber w
  rw [hv, hw] at h
  simp only [List.cons_append, List.cons.injEq] at h
  rw [← hc, ← hd, h.1]

/-- A number is read back. -/
theorem number_append_inj (hnumber : NumberText number) {m n : Number} {x y : List Char}
    (hx : Ends x) (hy : Ends y) (h : number m ++ x = number n ++ y) : m = n ∧ x = y := by
  have hread : ∀ (k : Number) {z : List Char}, Ends z →
      (number k ++ z).takeWhile (fun c => decide (IsNumberChar c)) = number k := by
    intro k z hz
    rw [List.takeWhile_append_of_pos, takeWhile_ends hz, List.append_nil]
    intro c hc
    exact decide_eq_true (hnumber.chars k c hc)
  have hmn : number m = number n := by rw [← hread m hx, h, hread n hy]
  refine ⟨hnumber.injective hmn, ?_⟩
  rw [hmn] at h
  exact List.append_cancel_left h

section Elements

variable {α : Type} {f : α → List Char} {R : α → α → Prop}

/-- Elements after a comma are read back up to the closing bracket. -/
theorem commas_append_inj {close : Char} (hclose : close ∈ [']', '}']) {us ws : List α}
    {x y : List Char}
    (hread : ∀ u ∈ us, ∀ w x y, Ends x → Ends y → f u ++ x = f w ++ y → R u w ∧ x = y)
    (h : (us.map f).flatMap (',' :: ·) ++ close :: x = (ws.map f).flatMap (',' :: ·) ++ close :: y) :
    List.Forall₂ R us ws ∧ x = y := by
  have hne : close ≠ ',' := by
    rintro rfl
    exact absurd hclose (by decide)
  have hends : ∀ (vs : List α) (z : List Char),
      Ends ((vs.map f).flatMap (',' :: ·) ++ close :: z) := by
    intro vs z
    cases vs with
    | nil =>
      simp only [List.mem_cons, List.not_mem_nil, or_false] at hclose
      rcases hclose with rfl | rfl
      · exact ends_bracket z
      · exact ends_brace z
    | cons v vs => exact ends_comma _
  induction us generalizing ws with
  | nil =>
    cases ws with
    | nil => exact ⟨.nil, by simpa using h⟩
    | cons w ws =>
      simp only [List.map_nil, List.flatMap_nil, List.nil_append, List.map_cons, List.flatMap_cons,
        List.cons_append, List.cons.injEq] at h
      exact absurd h.1 hne
  | cons u us ih =>
    cases ws with
    | nil =>
      simp only [List.map_nil, List.flatMap_nil, List.nil_append, List.map_cons, List.flatMap_cons,
        List.cons_append, List.cons.injEq] at h
      exact absurd h.1.symm hne
    | cons w ws =>
      simp only [List.map_cons, List.flatMap_cons, List.cons_append, List.append_assoc,
        List.cons.injEq, true_and] at h
      obtain ⟨huw, hrest⟩ := hread u (List.mem_cons_self ..) w _ _ (hends us x) (hends ws y) h
      obtain ⟨husws, hxy⟩ := ih (fun v hv => hread v (List.mem_cons_of_mem _ hv)) hrest
      exact ⟨.cons huw husws, hxy⟩

/-- Elements with commas between them are read back up to the closing bracket, if
none of them starts with it. -/
theorem commaSeparated_append_inj {close : Char} (hclose : close ∈ [']', '}']) {us ws : List α}
    {x y : List Char} (hhead : ∀ u, ∃ c cs, f u = c :: cs ∧ c ≠ close)
    (hread : ∀ u ∈ us, ∀ w x y, Ends x → Ends y → f u ++ x = f w ++ y → R u w ∧ x = y)
    (h : commaSeparated (us.map f) ++ close :: x = commaSeparated (ws.map f) ++ close :: y) :
    List.Forall₂ R us ws ∧ x = y := by
  cases us with
  | nil =>
    cases ws with
    | nil => exact ⟨.nil, by simpa [commaSeparated] using h⟩
    | cons w ws =>
      obtain ⟨c, cs, hw, hc⟩ := hhead w
      simp [commaSeparated, hw] at h
      exact absurd h.1.symm hc
  | cons u us =>
    cases ws with
    | nil =>
      obtain ⟨c, cs, hu, hc⟩ := hhead u
      simp [commaSeparated, hu] at h
      exact absurd h.1 hc
    | cons w ws =>
      -- a comma in front of both makes one more element of the first ones
      have hcommas : ((u :: us).map f).flatMap (',' :: ·) ++ close :: x =
          ((w :: ws).map f).flatMap (',' :: ·) ++ close :: y := by
        simpa [commaSeparated] using h
      exact commas_append_inj hclose hread hcommas

end Elements

/-- The fields of an object are read back in the order of their keys. -/
theorem fieldText_append_inj {u w : String × Json} {x y : List Char}
    (hread : text number u.2 ++ x = text number w.2 ++ y → KeyEquiv u.2 w.2 ∧ x = y)
    (h : (quoted u.1 ++ ':' :: text number u.2) ++ x = (quoted w.1 ++ ':' :: text number w.2) ++ y) :
    (u.1 = w.1 ∧ KeyEquiv u.2 w.2) ∧ x = y := by
  rw [List.append_assoc, List.append_assoc] at h
  obtain ⟨hkey, hrest⟩ := quoted_append_inj h
  simp only [List.cons_append, List.cons.injEq, true_and] at hrest
  obtain ⟨hvalue, hxy⟩ := hread hrest
  exact ⟨⟨hkey, hvalue⟩, hxy⟩

/-- Fields with the same keys and equivalent values, as two lists. -/
theorem forall₂_fields {fs gs : List (String × Json)}
    (h : List.Forall₂ (fun f g => f.1 = g.1 ∧ KeyEquiv f.2 g.2) fs gs) :
    fs.map Prod.fst = gs.map Prod.fst ∧
      List.Forall₂ KeyEquiv (fs.map Prod.snd) (gs.map Prod.snd) := by
  induction h with
  | nil => exact ⟨rfl, .nil⟩
  | cons hfg _ ih => exact ⟨by simp [hfg.1, ih.1], .cons hfg.2 ih.2⟩

/-- A value is read back from any text that its text starts, up to the order of
keys. -/
theorem text_append_inj (hnumber : NumberText number) (a : Json) :
    ∀ (b : Json) (x y : List Char), Ends x → Ends y →
      text number a ++ x = text number b ++ y → KeyEquiv a b ∧ x = y := by
  have hclosed : ∀ (v : Json) (close : Char), kindOf close = .none →
      ∃ c cs, text number v = c :: cs ∧ c ≠ close := by
    intro v close hclose
    obtain ⟨c, cs, hv, hc⟩ := text_head hnumber v
    refine ⟨c, cs, hv, ?_⟩
    rintro rfl
    rw [hclose] at hc
    cases v <;> cases hc
  induction a using induct with
  | null =>
    intro b x y hx hy h
    have hkind := kind_eq_of_text hnumber h
    cases b with
    | null => exact ⟨.null, List.append_cancel_left h⟩
    | _ => cases hkind
  | bool p =>
    intro b x y hx hy h
    have hkind := kind_eq_of_text hnumber h
    cases b with
    | bool q =>
      cases p <;> cases q <;> simp [text] at h
      · exact ⟨.bool false, h⟩
      · exact ⟨.bool true, h⟩
    | _ => cases hkind
  | num n =>
    intro b x y hx hy h
    have hkind := kind_eq_of_text hnumber h
    cases b with
    | num m =>
      obtain ⟨rfl, hxy⟩ := number_append_inj hnumber hx hy h
      exact ⟨.num n, hxy⟩
    | _ => cases hkind
  | str s =>
    intro b x y hx hy h
    have hkind := kind_eq_of_text hnumber h
    cases b with
    | str t =>
      obtain ⟨rfl, hxy⟩ := quoted_append_inj h
      exact ⟨.str s, hxy⟩
    | _ => cases hkind
  | arr xs ih =>
    intro b x y hx hy h
    have hkind := kind_eq_of_text hnumber h
    cases b with
    | arr ys =>
      simp only [text_arr, List.cons_append, List.append_assoc, List.cons.injEq, true_and,
        List.nil_append] at h
      obtain ⟨hitems, hxy⟩ := commaSeparated_append_inj (by decide)
        (fun v => hclosed v ']' (by decide)) ih h
      exact ⟨.arr hitems, hxy⟩
    | _ => cases hkind
  | obj fs ih =>
    intro b x y hx hy h
    have hkind := kind_eq_of_text hnumber h
    cases b with
    | obj gs =>
      simp only [text_obj, List.cons_append, List.append_assoc, List.cons.injEq, true_and,
        List.nil_append] at h
      have hquote : ∀ kv : String × Json, ∃ c cs,
          quoted kv.1 ++ ':' :: text number kv.2 = c :: cs ∧ c ≠ '}' :=
        fun kv => ⟨_, _, rfl, by decide⟩
      have hread : ∀ u ∈ sortKeys fs, ∀ (w : String × Json) (x y : List Char), Ends x → Ends y →
          (quoted u.1 ++ ':' :: text number u.2) ++ x = (quoted w.1 ++ ':' :: text number w.2) ++ y →
          (u.1 = w.1 ∧ KeyEquiv u.2 w.2) ∧ x = y := by
        intro u hu w x y hx hy
        exact fieldText_append_inj (ih u ((sortKeys_perm fs).mem_iff.1 hu) w.2 x y hx hy)
      obtain ⟨hfields, hxy⟩ := commaSeparated_append_inj (by decide) hquote hread h
      obtain ⟨hkeys, hvalues⟩ := forall₂_fields hfields
      exact ⟨.obj (sortKeys_perm fs).symm hkeys hvalues (sortKeys_perm gs), hxy⟩
    | _ => cases hkind

/-- Two values have one text exactly if they are equal up to the order of keys at
every depth. -/
theorem text_eq_iff (hnumber : NumberText number) {a b : Json} (ha : a.DistinctKeys)
    (hb : b.DistinctKeys) : text number a = text number b ↔ KeyEquiv a b := by
  constructor
  · intro h
    have happend : text number a ++ [] = text number b ++ [] := by rw [h]
    exact (text_append_inj hnumber a b [] [] trivial trivial happend).1
  · exact text_congr number ha hb

/-! ## Comparing values -/

@[simp] theorem distinctKeys_str (s : String) : DistinctKeys (.str s) := .str s

@[simp] theorem distinctKeys_null : DistinctKeys .null := .null

@[simp] theorem distinctKeys_ofOption {α : Type} {f : α → Json} {o : Option α} :
    DistinctKeys (ofOption f o) ↔ ∀ a, o = some a → DistinctKeys (f a) := by
  cases o with
  | none => simp [ofOption]
  | some a => simp [ofOption]

@[simp] theorem distinctKeys_obj {fields : List (String × Json)} : DistinctKeys (.obj fields) ↔
    (fields.map Prod.fst).Nodup ∧ ∀ kv ∈ fields, kv.2.DistinctKeys :=
  ⟨DistinctKeys.fields, fun h => .obj h.1 h.2⟩

@[simp] theorem keyEquiv_str {s t : String} : KeyEquiv (.str s) (.str t) ↔ s = t := by
  constructor
  · intro h
    cases h
    rfl
  · rintro rfl
    exact .str s

/-- Two nullable values are both null, or equivalent. -/
theorem keyEquiv_ofOption {α : Type} {f : α → Json} (hnull : ∀ a, (f a).kind ≠ .null)
    (hf : ∀ a b, KeyEquiv (f a) (f b) ↔ a = b) {o p : Option α} :
    KeyEquiv (ofOption f o) (ofOption f p) ↔ o = p := by
  cases o with
  | none =>
    cases p with
    | none => simp [ofOption, KeyEquiv.null]
    | some b =>
      have hne : ¬ KeyEquiv .null (f b) := by
        intro h
        cases hb : f b with
        | null => exact hnull b (by rw [hb]; rfl)
        | _ =>
          rw [hb] at h
          cases h
      simp [ofOption, hne]
  | some a =>
    cases p with
    | none =>
      have hne : ¬ KeyEquiv (f a) .null := by
        intro h
        cases ha : f a with
        | null => exact hnull a (by rw [ha]; rfl)
        | _ =>
          rw [ha] at h
          cases h
      simp [ofOption, hne]
    | some b => simp [ofOption, hf]

/-- A field of one of two lists with the same keys has its counterpart in the other. -/
theorem exists_field {fs gs : List (String × Json)} (hkeys : fs.map Prod.fst = gs.map Prod.fst)
    (hvalues : List.Forall₂ KeyEquiv (fs.map Prod.snd) (gs.map Prod.snd)) {f : String × Json}
    (hf : f ∈ fs) : ∃ g ∈ gs, f.1 = g.1 ∧ KeyEquiv f.2 g.2 := by
  induction fs generalizing gs with
  | nil => cases hf
  | cons f' fs ih =>
    cases gs with
    | nil => cases hkeys
    | cons g gs =>
      simp only [List.map_cons, List.cons.injEq, List.forall₂_cons] at hkeys hvalues
      rcases List.mem_cons.1 hf with rfl | hf
      · exact ⟨g, List.mem_cons_self .., hkeys.1, hvalues.1⟩
      · obtain ⟨g', hg', hrest⟩ := ih hkeys.2 hvalues.2 hf
        exact ⟨g', List.mem_cons_of_mem _ hg', hrest⟩

/-- Objects with the same keys in the same order are equivalent if their values are. -/
theorem keyEquiv_obj_iff {fs gs : List (String × Json)} (hkeys : fs.map Prod.fst = gs.map Prod.fst)
    (hnodup : (fs.map Prod.fst).Nodup) : KeyEquiv (.obj fs) (.obj gs) ↔
      List.Forall₂ KeyEquiv (fs.map Prod.snd) (gs.map Prod.snd) := by
  constructor
  · intro h
    cases h with
    | @obj _ fs' gs' _ hf hkeys' hvalues hg =>
      -- the counterpart of a field has its key, and so has the field at its place
      have hfield : ∀ f ∈ fs, ∀ g ∈ gs, f.1 = g.1 → KeyEquiv f.2 g.2 := by
        intro f hfmem g hgmem hfg
        obtain ⟨g', hg', hfg', hequiv⟩ := exists_field hkeys' hvalues (hf.mem_iff.1 hfmem)
        have hsame : g' = g := List.inj_on_of_nodup_map (hkeys ▸ hnodup) (hg.mem_iff.1 hg') hgmem
          (hfg'.symm.trans hfg)
        rw [← hsame]
        exact hequiv
      clear hf hkeys' hvalues hg hnodup
      induction fs generalizing gs with
      | nil =>
        cases gs with
        | nil => exact .nil
        | cons g gs => cases hkeys
      | cons f fs ih =>
        cases gs with
        | nil => cases hkeys
        | cons g gs =>
          simp only [List.map_cons, List.cons.injEq] at hkeys
          refine .cons (hfield f (List.mem_cons_self ..) g (List.mem_cons_self ..) hkeys.1) ?_
          apply ih hkeys.2
          intro f' hf' g' hg'
          exact hfield f' (List.mem_cons_of_mem _ hf') g' (List.mem_cons_of_mem _ hg')
  · intro hvalues
    exact .obj (.refl fs) hkeys hvalues (.refl gs)

end KlassGateway.Lib.Json
