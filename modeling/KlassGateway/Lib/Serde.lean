import KlassGateway.Lib.Json
/-!
# Reading and writing typed values

What the derived `Deserialize` and `Serialize` of a record do on a JSON value.

* A `Decoder` reads a value of a type; `field`, `fieldOr`, `list` and
  `nullable` are the field attributes and the container types.
* A record is read from an object, or from an array with its fields in order.
* A record is written as its fields in order; `skipNone` is
  `skip_serializing_if = "Option::is_none"`.
* `Yields d Q` says that a decoder succeeds with a value that satisfies `Q`.
  Its rules turn a statement about a record into one statement for each field.
* The lookup lemmas compute what a decoder sees of a record that was written,
  and of an object in which keys were set.

The texts of decoding errors are left out: an error is `none`.
-/

namespace KlassGateway.Lib.Json

/-- How a value of a type is read. -/
abbrev Decoder (α : Type) := Json → Option α

variable {α β : Type}

/-- An array of values. -/
def list (d : Decoder α) : Decoder (List α)
  | arr items => items.mapM d
  | _ => none

/-- `Option<T>`. -/
def nullable (d : Decoder α) : Decoder (Option α)
  | null => some none
  | v => (d v).map some

/-- A required field of a record. -/
def field (key : String) (d : Decoder α) : Decoder α := fun v => (v.get key).bind d

/-- A field with `#[serde(default)]`. -/
def fieldOr (key : String) (default : α) (d : Decoder α) : Decoder α := fun v =>
  match v.get key with
  | some x => d x
  | none => some default

/-- An optional text that may be missing. -/
def optionalText (key : String) : Decoder (Option String) := fieldOr key none (nullable asStr)

/-- An integer from `lo` on and below `hi`. -/
def integer (lo hi : Int) : Decoder Int
  | num (.int n) => if lo ≤ n ∧ n < hi then some n else none
  | _ => none

/-- `i32`. -/
def i32 : Decoder Int := integer (-(2 ^ 31)) (2 ^ 31)

/-- `i64`, and `Value::as_i64`. -/
def i64 : Decoder Int := integer (-(2 ^ 63)) (2 ^ 63)

/-- `u32`. -/
def u32 : Decoder Int := integer 0 (2 ^ 32)

/-- The fields of a record by their names.  An object has them under its keys, an array in their
order, and an array has at least the first `least` of them, up to the last one without a default. -/
def recordFields (names : List String) (least : Nat) : Json → Option (List (String × Json))
  | obj fields => some fields
  | arr items =>
    if least ≤ items.length ∧ items.length ≤ names.length then some (names.zip items) else none
  | _ => none

/-- A record is read from its fields. -/
def record (names : List String) (least : Nat) (d : Decoder α) : Decoder α := fun v =>
  (recordFields names least v).bind fun fields => d (obj fields)

/-- The fields of a text that is read without a `Value` in between: a field that is there twice is
an error. -/
def fieldsOfText (names : List String) (least : Nat) (v : Json) : Option (List (String × Json)) :=
  if v.repeats names then none else recordFields names least v

/-- A record is read from the fields of a text. -/
def textRecord (names : List String) (least : Nat) (d : Decoder α) : Decoder α := fun v =>
  (fieldsOfText names least v).bind fun fields => d (obj fields)

/-- A list of texts as it is written. -/
def textArray (xs : List String) : Json := arr (xs.map str)

/-- The entry of a field that is skipped when it is `None`. -/
def skipNone (key : String) : Option Json → List (String × Json)
  | some v => [(key, v)]
  | none => []

/-! ## Success -/

theorem list_nil (d : Decoder α) : list d (arr []) = some [] := rfl

theorem list_cons (d : Decoder α) (v : Json) (items : List Json) :
    list d (arr (v :: items)) =
      (d v).bind fun x => (list d (arr items)).map fun xs => x :: xs := by
  change (v :: items).mapM d = _
  rw [List.mapM_cons]
  cases d v with
  | none => rfl
  | some x =>
    change (items.mapM d).bind (fun xs => some (x :: xs)) = (items.mapM d).map fun xs => x :: xs
    exact Option.map_eq_bind.symm

/-- An array is read if each of its elements is. -/
theorem list_isSome_iff {d : Decoder α} {items : List Json} :
    (list d (arr items)).isSome ↔ ∀ v ∈ items, (d v).isSome := by
  induction items with
  | nil => simp [list_nil]
  | cons v items ih =>
    rw [list_cons, List.forall_mem_cons, ← ih]
    cases d v with
    | none => simp
    | some x => simp

/-- A value is there and satisfies `Q`. -/
def Yields (o : Option α) (Q : α → Prop) : Prop := ∃ a, o = some a ∧ Q a

/-! ### Rules of `Yields` -/

section Yields

variable {o : Option α} {Q Q' : α → Prop} {R : Prop}

@[simp] theorem yields_some (a : α) (Q : α → Prop) : Yields (some a) Q ↔ Q a := by
  simp [Yields]

@[simp] theorem yields_none (Q : α → Prop) : ¬ Yields none Q := by
  simp [Yields]

@[simp] theorem yields_pure (a : α) (Q : α → Prop) : Yields (pure a) Q ↔ Q a := yields_some a Q

@[simp] theorem yields_bind (o : Option α) (f : α → Option β) (Q : β → Prop) :
    Yields (o.bind f) Q ↔ Yields o fun a => Yields (f a) Q := by
  cases o with
  | none => simp
  | some a => simp

@[simp] theorem yields_seq (o : Option α) (f : α → Option β) (Q : β → Prop) :
    Yields (o >>= f) Q ↔ Yields o fun a => Yields (f a) Q := yields_bind o f Q

@[simp] theorem yields_map (o : Option α) (f : α → β) (Q : β → Prop) :
    Yields (o.map f) Q ↔ Yields o fun a => Q (f a) := by
  cases o with
  | none => simp
  | some a => simp

/-- A condition that does not depend on the value. -/
@[simp] theorem yields_and_left : (Yields o fun a => R ∧ Q a) ↔ R ∧ Yields o Q := by
  constructor
  · rintro ⟨a, ha, hR, hQ⟩
    exact ⟨hR, a, ha, hQ⟩
  · rintro ⟨hR, a, ha, hQ⟩
    exact ⟨a, ha, hR, hQ⟩

@[simp] theorem yields_and_right : (Yields o fun a => Q a ∧ R) ↔ Yields o Q ∧ R := by
  constructor
  · rintro ⟨a, ha, hQ, hR⟩
    exact ⟨⟨a, ha, hQ⟩, hR⟩
  · rintro ⟨⟨a, ha, hQ⟩, hR⟩
    exact ⟨a, ha, hQ, hR⟩

/-- The same beside two conditions on the value. -/
theorem yields_and_and_right :
    (Yields o fun a => Q a ∧ Q' a ∧ R) ↔ (Yields o fun a => Q a ∧ Q' a) ∧ R := by
  simp only [← and_assoc, yields_and_right]

/-- A decoder that owes nothing only has to succeed. -/
@[simp] theorem yields_true : (Yields o fun _ => True) ↔ o.isSome := by
  cases o with
  | none => simp
  | some a => simp

@[simp] theorem yields_const : (Yields o fun _ => R) ↔ o.isSome ∧ R := by
  cases o with
  | none => simp
  | some a => simp

theorem yields_eq {a : α} : (Yields o fun b => b = a) ↔ o = some a := by
  cases o with
  | none => simp
  | some b => simp

theorem Yields.mono (h : ∀ a, Q a → Q' a) (ho : Yields o Q) : Yields o Q' := by
  obtain ⟨a, ha, hQ⟩ := ho
  exact ⟨a, ha, h a hQ⟩

theorem Yields.isSome (h : Yields o Q) : o.isSome := by
  obtain ⟨a, rfl, _⟩ := h
  rfl

end Yields

/-! ### Records -/

/-- The value is read as a record whose fields satisfy `p`. -/
def IsRecord (names : List String) (least : Nat) (p : Json → Prop) (v : Json) : Prop :=
  Yields (recordFields names least v) fun fields => p (obj fields)

section Record

variable {names : List String} {least : Nat} {p : Json → Prop} {d : Decoder α}

@[simp] theorem isRecord_obj {fields : List (String × Json)} :
    IsRecord names least p (obj fields) ↔ p (obj fields) :=
  yields_some fields fun fields => p (obj fields)

theorem isRecord_of_isObject {v : Json} (h : v.isObject) : IsRecord names least p v ↔ p v := by
  cases v with
  | obj fields => exact isRecord_obj
  | _ => cases h

@[simp] theorem not_isRecord_null : ¬ IsRecord names least p null := yields_none _

@[simp] theorem not_isRecord_bool (b : Bool) : ¬ IsRecord names least p (bool b) := yields_none _

@[simp] theorem not_isRecord_num (n : Number) : ¬ IsRecord names least p (num n) := yields_none _

@[simp] theorem not_isRecord_str (s : String) : ¬ IsRecord names least p (str s) := yields_none _

@[simp] theorem record_obj (fields : List (String × Json)) :
    record names least d (obj fields) = d (obj fields) := rfl

@[simp] theorem yields_record {v : Json} {Q : α → Prop} :
    Yields (record names least d v) Q ↔ IsRecord names least (fun w => Yields (d w) Q) v :=
  yields_bind _ _ _

theorem record_isSome {v : Json} :
    (record names least d v).isSome ↔ IsRecord names least (fun w => (d w).isSome) v := by
  simp only [← yields_true, yields_record]

theorem record_isSome_iff {v : Json} (h : ∀ w, (d w).isSome ↔ p w) :
    (record names least d v).isSome ↔ IsRecord names least p v := by
  simp only [record_isSome, h]

theorem yields_record_iff {v : Json} {Q : α → Prop} (h : ∀ w, Yields (d w) Q ↔ p w) :
    Yields (record names least d v) Q ↔ IsRecord names least p v := by
  simp only [yields_record, h]

/-- A record was read from fields. -/
theorem record_eq_some {v : Json} {a : α} (h : record names least d v = some a) :
    ∃ fields, recordFields names least v = some fields ∧ d (obj fields) = some a :=
  Option.bind_eq_some_iff.1 h

end Record

theorem seq_isSome {o : Option α} {f : α → Option β} :
    (o >>= f).isSome ↔ Yields o fun a => (f a).isSome := by
  cases o with
  | none => simp
  | some a => simp

theorem filter_isSome {o : Option α} {p : α → Prop} [DecidablePred p] :
    (o.filter fun a => p a).isSome ↔ Yields o p := by
  cases o with
  | none => simp
  | some a => simp [Option.filter]

theorem pure_isSome {a : α} : (pure a : Option α).isSome ↔ True := by
  simp

/-- Every element of an array satisfies the condition on elements. -/
theorem yields_list {d : Decoder α} {Q : α → Prop} {items : List Json} :
    (Yields (list d (arr items)) fun xs => ∀ x ∈ xs, Q x) ↔ ∀ v ∈ items, Yields (d v) Q := by
  induction items with
  | nil => simp [list_nil]
  | cons v items ih =>
    rw [list_cons, List.forall_mem_cons, ← ih]
    simp

/-- An array with an element is read as a list with an element. -/
theorem yields_list_ne_nil {d : Decoder α} {Q : α → Prop} {items : List Json} :
    (Yields (list d (arr items)) fun xs => (∀ x ∈ xs, Q x) ∧ xs ≠ []) ↔
      (∀ v ∈ items, Yields (d v) Q) ∧ items ≠ [] := by
  cases items with
  | nil => simp [list_nil]
  | cons v items =>
    rw [List.forall_mem_cons, ← yields_list, list_cons]
    simp

/-- What was written element by element reads back if each element does. -/
theorem list_map_eq_some {d : Decoder α} {e : α → Json} {xs : List α} :
    list d (arr (xs.map e)) = some xs ↔ ∀ x ∈ xs, d (e x) = some x := by
  induction xs with
  | nil => simp [list_nil]
  | cons x xs ih =>
    rw [List.map_cons, list_cons, List.forall_mem_cons, ← ih]
    simp [Option.bind_eq_some_iff]

theorem list_map {d : Decoder α} {e : α → Json} {xs : List α}
    (h : ∀ x ∈ xs, d (e x) = some x) : list d (arr (xs.map e)) = some xs :=
  list_map_eq_some.2 h

theorem list_textArray (xs : List String) : list asStr (textArray xs) = some xs :=
  list_map fun _ _ => rfl

/-! ### When a field decodes -/

/-- The key is missing or its value satisfies `p`. -/
def WhenPresent (key : String) (p : Json → Prop) (v : Json) : Prop :=
  ∀ x, v.get key = some x → p x

/-- The value is an array whose elements satisfy `p`. -/
def IsList (p : Json → Prop) (v : Json) : Prop := ∃ items, v = arr items ∧ ∀ x ∈ items, p x

/-- The value is null or satisfies `p`. -/
def OrNull (p : Json → Prop) (v : Json) : Prop := v.isNull ∨ p v

/-- The value is a text. -/
def IsText (v : Json) : Prop := ∃ s, v = str s

/-- The value is a Boolean. -/
def IsBool (v : Json) : Prop := ∃ b, v = bool b

/-- The value is an integer from `lo` on and below `hi`. -/
def IsInteger (lo hi : Int) (v : Json) : Prop := ∃ n, v = num (.int n) ∧ lo ≤ n ∧ n < hi

/-- The key is there and its value satisfies `p`. -/
def Required (key : String) (p : Json → Prop) (v : Json) : Prop := ∃ x, v.get key = some x ∧ p x

theorem required_iff {key : String} {p : Json → Prop} {v : Json} :
    Required key p v ↔ (v.get key).isSome ∧ WhenPresent key p v := by
  unfold Required WhenPresent
  cases v.get key with
  | none => simp
  | some x => simp

theorem yields_field {key : String} {d : Decoder α} {Q : α → Prop} {v : Json} :
    Yields (field key d v) Q ↔ Required key (fun x => Yields (d x) Q) v := yields_bind _ _ _

/-- A list that must not be empty. -/
theorem yields_list_iff {d : Decoder α} {Q : α → Prop} {v : Json} :
    (Yields (list d v) fun xs => (∀ x ∈ xs, Q x) ∧ xs ≠ []) ↔
      ∃ items, v = arr items ∧ (∀ x ∈ items, Yields (d x) Q) ∧ items ≠ [] := by
  cases v with
  | arr items => simp only [yields_list_ne_nil, arr.injEq, exists_eq_left']
  | _ => simp [list]

theorem asStr_isSome {v : Json} : (asStr v).isSome ↔ IsText v := by
  cases v <;> simp [asStr, IsText]

theorem yields_asStr {Q : String → Prop} {v : Json} :
    Yields (asStr v) Q ↔ ∃ s, v = str s ∧ Q s := by
  cases v <;> simp [asStr]

theorem asBool_isSome {v : Json} : (asBool v).isSome ↔ IsBool v := by
  cases v <;> simp [asBool, IsBool]

theorem integer_isSome {lo hi : Int} {v : Json} :
    (integer lo hi v).isSome ↔ IsInteger lo hi v := by
  cases v with
  | num n =>
    cases n with
    | int n => simp [integer, IsInteger]
    | float q => simp [integer, IsInteger]
  | _ => simp [integer, IsInteger]

theorem field_isSome {key : String} {d : Decoder α} {v : Json} :
    (field key d v).isSome ↔ Required key (fun x => (d x).isSome) v := by
  unfold field Required
  cases v.get key with
  | none => simp
  | some x => simp

/-- A required field with a reader that accepts every value. -/
theorem field_total_isSome {key : String} {g : Json → α} {v : Json} :
    (field key (fun x => some (g x)) v).isSome = (v.get key).isSome := by
  unfold field
  cases v.get key <;> rfl

theorem fieldOr_isSome {key : String} {default : α} {d : Decoder α} {v : Json} :
    (fieldOr key default d v).isSome ↔ WhenPresent key (fun x => (d x).isSome) v := by
  unfold fieldOr WhenPresent
  cases v.get key with
  | none => simp
  | some x => simp

theorem WhenPresent.congr {key : String} {p : Json → Prop} {v w : Json}
    (h : v.get key = w.get key) : WhenPresent key p v ↔ WhenPresent key p w := by
  unfold WhenPresent
  rw [h]

theorem nullable_isSome {d : Decoder α} {v : Json} :
    (nullable d v).isSome ↔ OrNull (fun x => (d x).isSome) v := by
  cases v <;> simp [nullable, OrNull, isNull]

theorem list_isSome {d : Decoder α} {v : Json} :
    (list d v).isSome ↔ IsList (fun x => (d x).isSome) v := by
  cases v with
  | arr items => simp [list_isSome_iff, IsList]
  | _ => simp [list, IsList]

theorem optionalText_isSome {key : String} {v : Json} :
    (optionalText key v).isSome ↔ WhenPresent key (OrNull IsText) v := by
  simp only [optionalText, fieldOr_isSome, nullable_isSome, asStr_isSome]

/-! ## Lookup in the fields of an object -/

/-- The value under a key of a list of fields. -/
def lookup (key : String) (fields : List (String × Json)) : Option Json :=
  (fields.find? fun kv => kv.1 == key).map Prod.snd

@[simp] theorem get_obj (key : String) (fields : List (String × Json)) :
    (obj fields).get key = lookup key fields := rfl

@[simp] theorem lookup_nil (key : String) : lookup key [] = none := rfl

@[simp] theorem lookup_cons (key k : String) (v : Json) (fields : List (String × Json)) :
    lookup key ((k, v) :: fields) = if k = key then some v else lookup key fields := by
  unfold lookup
  by_cases h : k = key
  · simp [h]
  · simp [h]

@[simp] theorem lookup_append (key : String) (fs gs : List (String × Json)) :
    lookup key (fs ++ gs) = (lookup key fs).or (lookup key gs) := by
  induction fs with
  | nil => simp
  | cons kv fs ih =>
    obtain ⟨k, v⟩ := kv
    rw [List.cons_append, lookup_cons, lookup_cons, ih]
    split <;> rfl

@[simp] theorem lookup_skipNone (key k : String) (v : Option Json) :
    lookup key (skipNone k v) = if k = key then v else none := by
  cases v with
  | none => simp [skipNone]
  | some v => simp [skipNone]

@[simp] theorem lookup_insertField (key k : String) (v : Json) (fields : List (String × Json)) :
    lookup key (insertField k v fields) = if k = key then some v else lookup key fields := by
  induction fields with
  | nil => simp [insertField]
  | cons kv fields ih =>
    obtain ⟨k', v'⟩ := kv
    rw [insertField]
    by_cases hk : k' = k
    · subst hk
      by_cases hkey : k' = key
      · simp [hkey]
      · simp [hkey]
    · by_cases hkey : k' = key
      · subst hkey
        simp [hk, Ne.symm hk]
      · simp [hk, hkey, ih]

/-- `Map::remove`, up to the order of the other keys. -/
def removeField (key : String) : List (String × Json) → List (String × Json)
  | [] => []
  | kv :: kvs => if kv.1 = key then removeField key kvs else kv :: removeField key kvs

/-- Change the value under a key, where `none` is an absent key. -/
def alterField (key : String) (f : Option Json → Option Json) (fields : List (String × Json)) :
    List (String × Json) :=
  match f (lookup key fields) with
  | some v => insertField key v fields
  | none => removeField key fields

@[simp] theorem lookup_removeField (key k : String) (fields : List (String × Json)) :
    lookup key (removeField k fields) = if k = key then none else lookup key fields := by
  induction fields with
  | nil => simp [removeField]
  | cons kv fields ih =>
    obtain ⟨k', v⟩ := kv
    rw [removeField]
    by_cases hk : k' = k
    · rw [if_pos hk, ih, lookup_cons, hk]
      split <;> rfl
    · by_cases hkey : k' = key
      · subst hkey
        simp [hk, Ne.symm hk]
      · simp [hk, hkey, ih]

@[simp] theorem lookup_alterField (key k : String) (f : Option Json → Option Json)
    (fields : List (String × Json)) :
    lookup key (alterField k f fields) = if k = key then f (lookup k fields) else lookup key fields := by
  unfold alterField
  cases hf : f (lookup k fields) with
  | none => simp
  | some v => simp

theorem field_obj (key : String) (d : Decoder α) (fields : List (String × Json)) :
    field key d (obj fields) = (lookup key fields).bind d := rfl

theorem fieldOr_obj (key : String) (default : α) (d : Decoder α)
    (fields : List (String × Json)) :
    fieldOr key default d (obj fields) = (lookup key fields).elim (some default) d := by
  unfold fieldOr
  rw [get_obj]
  cases lookup key fields <;> rfl

/-- An optional value reads back if what it holds does. -/
theorem elim_eq_some {g : α → Option (Option α)} {o : Option α} :
    o.elim (some none) g = some o ↔ ∀ a ∈ o, g a = some (some a) := by
  cases o with
  | none => simp
  | some a => simp

theorem nullable_eq_some {d : Decoder α} {v : Json} {a : α} (h : v.isNull = false) :
    nullable d v = some (some a) ↔ d v = some a := by
  cases v with
  | null => cases h
  | _ => simp [nullable]

@[simp] theorem isObject_obj (fields : List (String × Json)) : (obj fields).isObject = true := rfl

@[simp] theorem insert_obj (key : String) (v : Json) (fields : List (String × Json)) :
    (obj fields).insert key v = obj (insertField key v fields) := rfl

end KlassGateway.Lib.Json
