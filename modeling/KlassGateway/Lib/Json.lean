import Mathlib.Algebra.Ring.Int.Defs
import Mathlib.Algebra.Ring.Nat
import Mathlib.Data.Rat.Defs
/-!
# JSON values

A model of `serde_json::Value` with insertion-ordered objects.  A number is an
integer or a float; a float is the rational it denotes.

* `get` and `pointer` look a value up; `asStr` and its siblings project it.
* `insert` is the map insertion, which keeps the place of a key that exists.
* `nonEmptyText` is the SQL test `v ->> 'key' IS NOT NULL AND v ->> 'key' != ''`
  on the value under the key.
-/

namespace KlassGateway.Lib

/-- A JSON number. -/
inductive Json.Number where
  | int (n : Int)
  | float (q : Rat)
  deriving DecidableEq, Repr

/-- An integer as a float: the nearest number with 53 binary digits, and the even one of two. -/
def Json.f64OfInt (n : Int) : Int :=
  let unit := 2 ^ (n.natAbs.log2 - 52)
  let digits := n.natAbs / unit
  let rest := n.natAbs % unit
  let rounded :=
    if unit < 2 * rest ∨ (unit = 2 * rest ∧ digits % 2 = 1) then digits + 1 else digits
  n.sign * (rounded * unit)

example : Json.f64OfInt (-7) = -7 ∧ Json.f64OfInt (2 ^ 53 + 1) = 2 ^ 53 ∧
    Json.f64OfInt (2 ^ 53 + 3) = 2 ^ 53 + 4 := by decide

/-- The rational that a number denotes as a float. -/
def Json.Number.toRat : Json.Number → Rat
  | int n => f64OfInt n
  | float q => q

/-- A JSON value. -/
inductive Json where
  | null
  | bool (b : Bool)
  | num (n : Json.Number)
  | str (s : String)
  | arr (items : List Json)
  | obj (fields : List (String × Json))

namespace Json

instance : Inhabited Json := ⟨null⟩

instance : Coe String Json := ⟨str⟩

instance : Coe Bool Json := ⟨bool⟩

instance : Coe Int Json := ⟨fun n => num (.int n)⟩

/-- A nullable value in a JSON literal. -/
def ofOption {α : Type} (f : α → Json) : Option α → Json
  | some a => f a
  | none => null

/-- The value under a key of an object. -/
def get (key : String) : Json → Option Json
  | obj fields => (fields.find? fun kv => kv.1 == key).map Prod.snd
  | _ => none

/-- `Value::pointer` along object keys. -/
def pointer : List String → Json → Option Json
  | [], v => some v
  | key :: keys, v => (v.get key).bind (pointer keys)

def asStr : Json → Option String
  | str s => some s
  | _ => none

def asBool : Json → Option Bool
  | bool b => some b
  | _ => none

def asArray : Json → Option (List Json)
  | arr items => some items
  | _ => none

def asF64 : Json → Option Rat
  | num n => some n.toRat
  | _ => none

def isNull : Json → Bool
  | null => true
  | _ => false

def isObject : Json → Bool
  | obj _ => true
  | _ => false

/-- An object has one of the keys more than once. -/
def repeats (names : List String) : Json → Bool
  | obj fields => names.any fun name => 1 < (fields.filter fun kv => kv.1 == name).length
  | _ => false

/-- `Map::insert` on the fields of an object. -/
def insertField (key : String) (v : Json) : List (String × Json) → List (String × Json)
  | [] => [(key, v)]
  | kv :: kvs => if kv.1 == key then (key, v) :: kvs else kv :: insertField key v kvs

/-- Set a key of an object; any other value stays as it is. -/
def insert (w : Json) (key : String) (v : Json) : Json :=
  match w with
  | obj fields => obj (insertField key v fields)
  | _ => w

/-- The text of the value is neither `NULL` nor empty. -/
def nonEmptyText : Option Json → Bool
  | none => false
  | some null => false
  | some (str s) => s != ""
  | some _ => true

/-! ## Lookup after insertion -/

theorem find?_insertField (key : String) (v : Json) (fields : List (String × Json)) :
    (insertField key v fields).find? (fun kv => kv.1 == key) = some (key, v) := by
  induction fields with
  | nil => simp [insertField]
  | cons kv kvs ih =>
    rw [insertField]
    split_ifs with h
    · simp
    · simpa [h] using ih

/-- The key that was inserted holds the inserted value. -/
theorem get_insert_self {key : String} {v w : Json} (hw : w.isObject) :
    (w.insert key v).get key = some v := by
  cases w with
  | obj fields => simp [insert, get, find?_insertField]
  | _ => cases hw

end Json

end KlassGateway.Lib
