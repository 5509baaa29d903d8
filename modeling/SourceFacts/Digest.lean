import SourceFacts.Digest.Xxh3

/-!
Digests of file contents. A digest carries the version of the scheme that made it, and only a
digest of the current scheme says anything about a text of today.
-/
namespace SourceFacts

/-- A checksum and the version of the scheme behind it. -/
structure Digest where
  value : UInt64
  version : Nat
  deriving DecidableEq, Repr, Inhabited

namespace Digest

/-- The version of the scheme in use. -/
def currentVersion : Nat := 1

/-- The digest of a text. -/
def ofText (text : String) : Digest :=
  ⟨Xxh3.hash text.toByteArray, currentVersion⟩

/-- Whether the digest was made by the scheme in use. -/
def isCurrent (digest : Digest) : Bool :=
  digest.version = currentVersion

/-- Lower-case hexadecimal digits of a word, with leading zeros up to sixteen. -/
def hexDigits (value : UInt64) : String :=
  let digits := Nat.toDigits 16 value.toNat
  String.ofList (List.replicate (16 - digits.length) '0' ++ digits)

/-- The checksum as sixteen hexadecimal digits. -/
def hex (digest : Digest) : String := hexDigits digest.value

end Digest

end SourceFacts
