import KlassGateway.Lib.Text
/-!
# Password hashes

Model of `auth/password.rs`.  The two algorithms come from other crates and are
parameters; which of them verifies a hash is decided here by the hash's leading
characters.
-/

namespace KlassGateway.Auth

open Lib

/-- The hash functions of other crates. -/
structure Passwords where
  /-- `Argon2::hash_password` for a password and a salt. -/
  argon2Hash : String → String → String
  /-- `Argon2::verify_password` on a parsed hash; `false` where it does not
  parse. -/
  verifyArgon2 : String → String → Bool
  /-- `bcrypt::verify`; `false` where it fails. -/
  verifyBcrypt : String → String → Bool

/-- `BCRYPT_PREFIXES`. -/
def bcryptPrefixes : List String := ["$2y$", "$2b$", "$2a$"]

namespace Passwords

variable (H : Passwords)

/-- `verify_password`. -/
def verifyPassword (plain hash : String) : Bool :=
  if Text.startsWith hash "$argon2" then H.verifyArgon2 plain hash
  else if bcryptPrefixes.any fun p => Text.startsWith hash p then H.verifyBcrypt plain hash
  else false

/-- An Argon2 hash verifies exactly the password that it was made from. -/
structure Exact : Prop where
  header : ∀ plain salt, Text.startsWith (H.argon2Hash plain salt) "$argon2"
  verify : ∀ plain plain' salt, H.verifyArgon2 plain' (H.argon2Hash plain salt) ↔ plain' = plain

variable {H}

theorem Exact.verifyPassword_iff (hH : H.Exact) (plain plain' salt : String) :
    H.verifyPassword plain' (H.argon2Hash plain salt) ↔ plain' = plain := by
  rw [verifyPassword, if_pos (hH.header plain salt)]
  exact hH.verify plain plain' salt

end Passwords

end KlassGateway.Auth
