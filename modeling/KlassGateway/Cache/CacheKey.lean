import KlassGateway.Base
import KlassGateway.Lib.CanonicalJson
import KlassGateway.Lib.Text
/-!
# Cache keys

Model of the key generation in `cache/mod.rs`.  A key is the digest of the
canonical JSON text of a document that names the route, the request and its
input.

* `toCanonicalJsonString_eq_iff`: two values have one canonical text exactly if
  they are equal up to the order of object keys at every depth.
* `buildCacheKey_inj` says what two requests with one key have in common.
-/

namespace KlassGateway.Cache

open Lib

variable (P : Platform)

/-- `CacheRoute`. -/
inductive CacheRoute where
  | interpret
  | respond
  deriving DecidableEq, Repr

/-- `CacheRoute::as_str`. -/
def CacheRoute.asStr : CacheRoute → String
  | interpret => "interpret"
  | respond => "respond"

/-- The text of a number: `serde_json::to_string`. -/
def numberText (n : Json.Number) : List Char := (P.jsonText (.num n)).toList

/-- `to_canonical_json_string`. -/
def toCanonicalJsonString (value : Json) : String := String.ofList (value.text (numberText P))

/-- The document that `build_cache_key` digests. -/
def keyDocument (route : CacheRoute) (provider model requestType instruction : String)
    (inputPayload : Json) : Json :=
  .obj [("schema_version", "llm_adapter_cache.v1"), ("route", route.asStr),
    ("request_type", requestType), ("provider", P.toLowercase provider), ("model", model),
    ("instruction", instruction), ("input", inputPayload)]

/-- `build_cache_key`. -/
def buildCacheKey (route : CacheRoute) (provider model requestType instruction : String)
    (inputPayload : Json) : String :=
  P.sha256Hex (toCanonicalJsonString P
    (keyDocument P route provider model requestType instruction inputPayload))

variable {P}

/-- Texts of numbers for the examples: integers in decimal, and a float as its two
parts. -/
def sampleNumber : Json.Number → String
  | .int n => toString n
  | .float q => toString q.num ++ String.singleton 'E' ++ toString (q.den : Int)

/-- A platform with these texts. -/
def samplePlatform : Platform where
  lowerChar c := [c.toLower]
  toLowercase s := String.ofList (s.toList.map Char.toLower)
  toUppercase s := String.ofList (s.toList.map Char.toUpper)
  sha256Hex s := s
  rfc3339 _ := "1970-01-01T00:00:00+00:00"
  rfc3339Millis _ := "1970-01-01T00:00:00.000Z"
  jsonText
    | .num n => sampleNumber n
    | _ => "{}"
  rereadFloat q := q
  jsonbFloat q := .float q
  interpretationError _ := none

/-- Decimal digits and the sign are characters of a number. -/
theorem isNumberChar_toString {i : Int} {c : Char} (hc : c ∈ (toString i).toList) :
    Json.IsNumberChar c := by
  by_cases hminus : c = '-'
  · subst hminus
    decide
  · cases hdigit : c.isDigit with
    | false => exact absurd hc (Text.not_mem_toString hdigit hminus)
    | true =>
      have hall : ∀ n < 58, 48 ≤ n → Json.IsNumberChar (Char.ofNat n) := by decide
      obtain ⟨hlo, hhi⟩ : 48 ≤ c.toNat ∧ c.toNat ≤ 57 := by
        simpa [Char.isDigit, UInt32.le_iff_toNat_le] using hdigit
      have hnumber := hall c.toNat (by omega) hlo
      rwa [Char.ofNat_toNat] at hnumber

/-- The text of a float is split at the letter between its parts. -/
theorem splitOnce_float (q : Rat) : Text.splitOnce (sampleNumber (.float q)) 'E' =
    some (toString q.num, toString (q.den : Int)) :=
  Text.splitOnce_toString rfl (by decide) q.num _

/-- The text of an integer is not split. -/
theorem int_ne_float {i : Int} {q : Rat} : sampleNumber (.int i) ≠ sampleNumber (.float q) := by
  intro h
  have hmem : 'E' ∈ (sampleNumber (.float q)).toList := by simp [sampleNumber]
  rw [← h] at hmem
  exact Text.not_mem_toString rfl (by decide) hmem

/-- The sample texts of numbers are what is assumed of such texts. -/
theorem numberText_sample : Json.NumberText (numberText samplePlatform) where
  injective := by
    intro m n h
    have htext : sampleNumber m = sampleNumber n := String.toList_inj.1 h
    cases m with
    | int i =>
      cases n with
      | int j => rw [Text.toString_int_injective htext]
      | float q => exact absurd htext int_ne_float
    | float p =>
      cases n with
      | int j => exact absurd htext.symm int_ne_float
      | float q =>
        have hsplit : Text.splitOnce (sampleNumber (.float p)) 'E' =
            Text.splitOnce (sampleNumber (.float q)) 'E' := by rw [htext]
        rw [splitOnce_float, splitOnce_float] at hsplit
        simp only [Option.some.injEq, Prod.mk.injEq] at hsplit
        have hnum := Text.toString_int_injective hsplit.1
        have hden := Text.toString_int_injective hsplit.2
        have hpq : p = q := Rat.ext hnum (by omega)
        rw [hpq]
  nonempty n h := by
    have hlength : (sampleNumber n).toList = [] := h
    cases n with
    | int i =>
      have hread := Text.parseSigned_toString i
      rw [show (toString i).toList = [] from hlength] at hread
      cases hread
    | float q => simp [sampleNumber] at hlength
  chars n c hc := by
    have hmem : c ∈ (sampleNumber n).toList := hc
    cases n with
    | int i => exact isNumberChar_toString hmem
    | float q =>
      simp only [sampleNumber, String.toList_append, String.toList_singleton, List.mem_append,
        List.mem_singleton] at hmem
      rcases hmem with (hnum | rfl) | hden
      · exact isNumberChar_toString hnum
      · decide
      · exact isNumberChar_toString hden

/-- Requests with one key have one model and one instruction, and their inputs are
equal up to the order of keys. -/
theorem buildCacheKey_inj {P : Platform} (hnumber : Json.NumberText (numberText P))
    (hdigest : Function.Injective P.sha256Hex) {route : CacheRoute} {provider requestType : String}
    {model model' instruction instruction' : String} {input input' : Json}
    (hinput : input.DistinctKeys) (hinput' : input'.DistinctKeys)
    (h : buildCacheKey P route provider model requestType instruction input =
      buildCacheKey P route provider model' requestType instruction' input') :
    model = model' ∧ instruction = instruction' ∧ Json.KeyEquiv input input' := by
  have hdistinct : ∀ {m i : String} {v : Json}, v.DistinctKeys →
      (keyDocument P route provider m requestType i v).DistinctKeys := by
    intro m i v hv
    simp [keyDocument, hv]
  have hequiv := (Json.text_eq_iff hnumber (hdistinct hinput) (hdistinct hinput')).1
    (String.ofList_inj.1 (hdigest h))
  rw [keyDocument, keyDocument, Json.keyEquiv_obj_iff] at hequiv
  · simpa using hequiv
  · rfl
  · simp

end KlassGateway.Cache
