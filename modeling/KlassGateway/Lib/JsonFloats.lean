import KlassGateway.Lib.Serde
/-!
# The floats of a JSON value

A float that is written as a text and read again need not be the float that it was, and a column
of a database may even read it as an integer.  `mapFloats f` is a value after that: each float `q`
of it is the number `f q`, and nothing else has changed.

* `Same` is a reader that returns the same after it, such as one of texts.
* `Blind` is a reader that accepts the same values after it, up to a condition on what it reads: the
  floats do not decide whether a value is accepted.
* Both have a rule for each of the combinators, so that one line for each field shows them of a
  record.
-/

namespace KlassGateway.Lib.Json

section Map

variable (f : Rat → Number)

mutual

/-- The value with every float `q` replaced by the number `f q`. -/
def mapFloats : Json → Json
  | null => null
  | bool b => bool b
  | num (.int n) => num (.int n)
  | num (.float q) => num (f q)
  | str s => str s
  | arr items => arr (mapItems items)
  | obj fields => obj (mapFields fields)

/-- `mapFloats` on the items of an array. -/
def mapItems : List Json → List Json
  | [] => []
  | v :: items => mapFloats v :: mapItems items

/-- `mapFloats` on the fields of an object. -/
def mapFields : List (String × Json) → List (String × Json)
  | [] => []
  | (k, v) :: fields => (k, mapFloats v) :: mapFields fields

end

variable {f}

@[simp] theorem mapFloats_null : mapFloats f null = null := rfl

@[simp] theorem mapFloats_bool (b : Bool) : mapFloats f (bool b) = bool b := rfl

@[simp] theorem mapFloats_int (n : Int) : mapFloats f (num (.int n)) = num (.int n) := rfl

@[simp] theorem mapFloats_float (q : Rat) : mapFloats f (num (.float q)) = num (f q) := rfl

@[simp] theorem mapFloats_str (s : String) : mapFloats f (str s) = str s := rfl

@[simp] theorem mapFloats_arr (items : List Json) :
    mapFloats f (arr items) = arr (items.map (mapFloats f)) := by
  rw [mapFloats]
  congr 1
  induction items with
  | nil => rfl
  | cons v items ih => rw [mapItems, ih, List.map_cons]

@[simp] theorem mapFloats_obj (fields : List (String × Json)) :
    mapFloats f (obj fields) = obj (mapFields f fields) := rfl

theorem mapFields_eq (fields : List (String × Json)) :
    mapFields f fields = fields.map fun kv => (kv.1, mapFloats f kv.2) := by
  induction fields with
  | nil => rfl
  | cons kv fields ih => rw [mapFields, ih, List.map_cons]

@[simp] theorem lookup_mapFields (key : String) (fields : List (String × Json)) :
    lookup key (mapFields f fields) = (lookup key fields).map (mapFloats f) := by
  induction fields with
  | nil => rfl
  | cons kv fields ih =>
    obtain ⟨k, v⟩ := kv
    rw [mapFields, lookup_cons, lookup_cons, ih]
    split <;> rfl

@[simp] theorem get_mapFloats (key : String) (v : Json) :
    (mapFloats f v).get key = (v.get key).map (mapFloats f) := by
  cases v with
  | obj fields => exact lookup_mapFields key fields
  | num n => cases n <;> simp [get]
  | _ => simp [get]

@[simp] theorem isNull_mapFloats (v : Json) : (mapFloats f v).isNull = v.isNull := by
  cases v with
  | num n => cases n <;> rfl
  | _ => rfl

@[simp] theorem isObject_mapFloats (v : Json) : (mapFloats f v).isObject = v.isObject := by
  cases v with
  | num n => cases n <;> rfl
  | _ => rfl

theorem recordFields_mapFloats (names : List String) (least : Nat) (v : Json) :
    recordFields names least (mapFloats f v) = (recordFields names least v).map (mapFields f) := by
  cases v with
  | num n => cases n <;> rfl
  | arr items =>
    rw [mapFloats_arr]
    unfold recordFields
    dsimp only
    rw [List.length_map]
    split_ifs with h
    · rw [Option.map_some, mapFields_eq, List.zip_map_right]
      rfl
    · rfl
  | _ => rfl

/-- The fields of a record after the change. -/
theorem isRecord_mapFloats {names : List String} {least : Nat} {p : Json → Prop} {v : Json} :
    IsRecord names least p (mapFloats f v) ↔ IsRecord names least (fun w => p (mapFloats f w)) v := by
  unfold IsRecord
  rw [recordFields_mapFloats, yields_map]
  rfl

end Map

/-! ## Readers -/

section Readers

variable {α : Type} (f : Rat → Number)

/-- The reader returns the same, whatever the floats are. -/
def Same (d : Decoder α) : Prop := ∀ v, d (mapFloats f v) = d v

/-- The reader accepts the same values as ones with the condition, whatever the floats are. -/
def Blind (d : Decoder α) (Q : α → Prop) : Prop :=
  ∀ v, Yields (d (mapFloats f v)) Q ↔ Yields (d v) Q

variable {f} {d : Decoder α} {Q : α → Prop} {key : String}

/-- A reader that accepts the same values. -/
theorem Blind.isSome (h : Blind f d fun _ => True) (v : Json) :
    (d (mapFloats f v)).isSome ↔ (d v).isSome := by
  simpa only [yields_true] using h v

theorem same_asStr : Same f asStr := fun v => by
  cases v with
  | num n => cases n <;> rfl
  | _ => rfl

theorem same_asBool : Same f asBool := fun v => by
  cases v with
  | num n => cases n <;> rfl
  | _ => rfl

/-- An integer is no float, as long as floats stay floats. -/
theorem same_integer {lo hi : Int} (hf : ∀ q, ∃ r, f q = .float r) : Same f (integer lo hi) :=
  fun v => by
    cases v with
    | num n =>
      cases n with
      | int n => rfl
      | float q =>
        obtain ⟨r, hr⟩ := hf q
        rw [mapFloats_float, hr]
        rfl
    | _ => rfl

theorem Same.nullable (h : Same f d) : Same f (nullable d) := fun v => by
  have hv := h v
  cases v with
  | null => rfl
  | num n =>
    cases n with
    | int n => rfl
    | float q => exact congrArg (Option.map some) hv
  | arr items =>
    rw [mapFloats_arr] at hv ⊢
    exact congrArg (Option.map some) hv
  | _ => exact congrArg (Option.map some) hv

theorem Same.list (h : Same f d) : Same f (list d) := fun v => by
  cases v with
  | num n => cases n <;> rfl
  | arr items =>
    rw [mapFloats_arr]
    induction items with
    | nil => rfl
    | cons v items ih => rw [List.map_cons, list_cons, list_cons, h v, ih]
  | _ => rfl

theorem Same.field (h : Same f d) : Same f (field key d) := fun v => by
  unfold Json.field
  rw [get_mapFloats]
  cases v.get key with
  | none => rfl
  | some x => exact h x

theorem Same.fieldOr {default : α} (h : Same f d) : Same f (fieldOr key default d) := fun v => by
  unfold Json.fieldOr
  rw [get_mapFloats]
  cases v.get key with
  | none => rfl
  | some x => exact h x

theorem Same.record {names : List String} {least : Nat} (h : Same f d) :
    Same f (record names least d) := fun v => by
  unfold Json.record
  rw [recordFields_mapFloats]
  cases recordFields names least v with
  | none => rfl
  | some fields => exact h (obj fields)

theorem Blind.nullable {Q : Option α → Prop} (h : Blind f d fun a => Q (some a)) :
    Blind f (nullable d) Q := fun v => by
  have hnull : (mapFloats f v).isNull = v.isNull := isNull_mapFloats v
  have hv := h v
  simp only [← yields_map] at hv
  have hread {w : Json} (hw : w.isNull = false) : Json.nullable d w = (d w).map some := by
    cases w with
    | null => cases hw
    | _ => rfl
  cases hcase : v.isNull with
  | true =>
    cases v with
    | null => rfl
    | _ => cases hcase
  | false =>
    rw [hread (hnull.trans hcase), hread hcase]
    exact hv

theorem Blind.list (h : Blind f d Q) : Blind f (list d) fun xs => ∀ x ∈ xs, Q x := fun v => by
  cases v with
  | num n => cases n <;> exact Iff.rfl
  | arr items =>
    rw [mapFloats_arr, yields_list, yields_list, List.forall_mem_map]
    exact forall₂_congr fun w _ => h w
  | _ => exact Iff.rfl

theorem Blind.list_ne_nil (h : Blind f d Q) :
    Blind f (Json.list d) fun xs => (∀ x ∈ xs, Q x) ∧ xs ≠ [] := fun v => by
  cases v with
  | num n => cases n <;> exact Iff.rfl
  | arr items =>
    rw [mapFloats_arr, yields_list_ne_nil, yields_list_ne_nil, List.forall_mem_map]
    exact and_congr (forall₂_congr fun w _ => h w) (by simp)
  | _ => exact Iff.rfl

theorem Blind.list_true (h : Blind f d fun _ => True) : Blind f (Json.list d) fun _ => True :=
  fun v => by simpa using h.list v

theorem Blind.field (h : Blind f d Q) : Blind f (field key d) Q := fun v => by
  unfold Json.field
  rw [get_mapFloats]
  cases v.get key with
  | none => exact Iff.rfl
  | some x => exact h x

theorem Blind.fieldOr {default : α} (h : Blind f d Q) : Blind f (fieldOr key default d) Q :=
  fun v => by
    unfold Json.fieldOr
    rw [get_mapFloats]
    cases v.get key with
    | none => exact Iff.rfl
    | some x => exact h x

theorem Blind.record {names : List String} {least : Nat} (h : Blind f d Q) :
    Blind f (record names least d) Q := fun v => by
  rw [yields_record, yields_record, isRecord_mapFloats]
  exact exists_congr fun fields => and_congr_right fun _ => h (obj fields)

/-- A reader that accepts every value. -/
theorem blind_total (g : Json → α) : Blind f (fun v => some (g v)) fun _ => True := fun v => by
  simp

end Readers

end KlassGateway.Lib.Json
