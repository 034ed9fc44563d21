import KlassGateway.Lib.JsonFloats
/-!
# Values that all modules share

`Uuid` is a 128-bit number with its hyphenated text; `DateTime` counts
nanoseconds since the Unix epoch.  `SqlxError` is what a database call returns
when it fails.

`Platform` holds the functions of other crates and of the standard library
whose tables are not modelled.  Every result holds for each of them.
-/

namespace KlassGateway

/-- A UUID.  Generated UUIDs are numbered in the order they are drawn. -/
structure Uuid where
  value : Nat
  deriving DecidableEq, Repr, Inhabited

namespace Uuid

/-- The last `n` hexadecimal digits of a number, most significant first. -/
private def hexDigits : Nat → Nat → List Char → List Char
  | 0, _, acc => acc
  | n + 1, v, acc => hexDigits n (v / 16) (Nat.digitChar (v % 16) :: acc)

/-- The hyphenated lower-case text, `8-4-4-4-12`. -/
def toText (u : Uuid) : String :=
  let ds := hexDigits 32 u.value []
  let part (i n : Nat) : List Char := (ds.drop i).take n
  String.ofList
    (part 0 8 ++ '-' :: part 8 4 ++ '-' :: part 12 4 ++ '-' :: part 16 4 ++ '-' :: part 20 12)

end Uuid

/-- `chrono::DateTime<Utc>` as nanoseconds since the epoch. -/
abbrev DateTime := Int

namespace DateTime

/-- `timestamp_millis`. -/
def timestampMillis (t : DateTime) : Int := t / 1000000

/-- A duration in hours. -/
def hours (n : Int) : DateTime := n * 3600000000000

end DateTime

/-- `sqlx::Error`: an error that the server returned with its code, or any
other failure of the call. -/
inductive SqlxError where
  | database (code message : String)
  | other (message : String)
  deriving DecidableEq, Repr

namespace SqlxError

/-- `Display` of `sqlx::Error`. -/
def toText : SqlxError → String
  | database _ message => "error returned from database: " ++ message
  | other message => message

/-- `db_err.code()`. -/
def code : SqlxError → Option String
  | database code _ => some code
  | other _ => none

end SqlxError

/-- `Option::ok_or`. -/
def okOr {ε α : Type} (e : ε) : Option α → Except ε α
  | some a => .ok a
  | none => .error e

/-- The text functions that the code takes from elsewhere. -/
structure Platform where
  /-- `char::to_lowercase`. -/
  lowerChar : Char → List Char
  /-- `str::to_lowercase`. -/
  toLowercase : String → String
  /-- `str::to_uppercase`. -/
  toUppercase : String → String
  /-- The hexadecimal SHA-256 digest of a text. -/
  sha256Hex : String → String
  /-- `DateTime::to_rfc3339`. -/
  rfc3339 : DateTime → String
  /-- `DateTime::to_rfc3339_opts` with milliseconds. -/
  rfc3339Millis : DateTime → String
  /-- `Display` of `serde_json::Value`. -/
  jsonText : Lib.Json → String
  /-- A float that `serde_json` has written and read again: without its feature `float_roundtrip`
  it may be another one. -/
  rereadFloat : Rat → Rat
  /-- A float that was written into a `JSONB` column and read again.  The column holds decimals, so
  a large float comes back as an integer. -/
  jsonbFloat : Rat → Lib.Json.Number
  /-- `serde_json::from_value::<InterpretationPayload>`: the error, if any. -/
  interpretationError : Lib.Json → Option String

namespace Platform

/-- A learning objective as a text: the one that the repair of an interpretation and the generation
spec take from a list. -/
def objectiveText (P : Platform) : Lib.Json → String
  | .str s => s
  -- `m.values().next()`
  | .obj fields => ((fields.head?.map Prod.snd).bind Lib.Json.asStr).getD "Objective"
  | other => P.jsonText other

/-- A value that was written as a text and parsed again. -/
def reread (P : Platform) : Lib.Json → Lib.Json := Lib.Json.mapFloats fun q => .float (P.rereadFloat q)

@[simp] theorem reread_str (P : Platform) (s : String) : P.reread (.str s) = .str s := rfl

@[simp] theorem reread_arr (P : Platform) (items : List Lib.Json) :
    P.reread (.arr items) = .arr (items.map P.reread) := Lib.Json.mapFloats_arr items

@[simp] theorem get_reread (P : Platform) (key : String) (v : Lib.Json) :
    (P.reread v).get key = (v.get key).map P.reread := Lib.Json.get_mapFloats key v

/-- A reader of a value that was parsed again, if it looks at no float. -/
theorem reread_same (P : Platform) {α : Type} {d : Lib.Json.Decoder α}
    (h : Lib.Json.Same (fun q => .float (P.rereadFloat q)) d) (v : Lib.Json) :
    d (P.reread v) = d v := h v

/-- A reader of a value that was parsed again, if it accepts a value whatever its floats are. -/
theorem reread_blind (P : Platform) {α : Type} {d : Lib.Json.Decoder α} {Q : α → Prop}
    (h : Lib.Json.Blind (fun q => .float (P.rereadFloat q)) d Q) (v : Lib.Json) :
    Lib.Json.Yields (d (P.reread v)) Q ↔ Lib.Json.Yields (d v) Q := h v

theorem reread_isSome (P : Platform) {α : Type} {d : Lib.Json.Decoder α}
    (h : Lib.Json.Blind (fun q => .float (P.rereadFloat q)) d fun _ => True) (v : Lib.Json) :
    (d (P.reread v)).isSome ↔ (d v).isSome := by
  simpa only [Lib.Json.yields_true] using P.reread_blind h v

/-- A value that was written into a `JSONB` column and read again.  The order of the keys of an
object, which the column does not keep, is left out. -/
def fromJsonb (P : Platform) : Lib.Json → Lib.Json := Lib.Json.mapFloats P.jsonbFloat

end Platform

end KlassGateway
