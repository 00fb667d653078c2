import KSlide.Json.Value
import KSlide.Text.Patterns

namespace KSlide

/-- The standard library computes the digest, and the model takes it as a parameter. -/
class Sha256 where
  hexdigest : String → String
  shape : ∀ text, Text.isSha256 (hexdigest text) = true

/-- This is the digest of the canonical text of a value. -/
def stableRevision [Sha256] (value : Json) : String := Sha256.hexdigest value.dumps

@[simp] theorem stableRevision_shape [Sha256] (value : Json) :
    Text.isSha256 (stableRevision value) = true := Sha256.shape _

@[simp] theorem stableRevision_ne_empty [Sha256] (value : Json) : stableRevision value ≠ "" := by
  intro empty
  exact absurd (empty ▸ stableRevision_shape value) (by decide)

/-- The lowest digits of a number are written in hexadecimal. -/
def hexDigits (value : Nat) : Nat → List Char
  | 0 => []
  | count + 1 => Json.hexDigit (value % 16) :: hexDigits (value / 16) count

theorem hexDigits_shape (value count : Nat) :
    (hexDigits value count).all Text.isHex = true ∧ (hexDigits value count).length = count := by
  induction count generalizing value with
  | zero => exact ⟨rfl, rfl⟩
  | succ count ih =>
    obtain ⟨digits, length⟩ := ih (value / 16)
    have digit : ∀ small < 16, Text.isHex (Json.hexDigit small) = true := by decide
    simp [hexDigits, digits, length, digit _ (Nat.mod_lt value (by decide))]

/-- This stand-in digest is a polynomial of the letters and serves the closed runs. -/
@[reducible] def Sha256.polynomial : Sha256 where
  hexdigest text :=
    let sum := text.toList.foldl (fun sum letter => (sum * 1000003 + letter.toNat) % Nat.pow 2 256) 7
    String.ofList (hexDigits sum 64)
  shape text := by
    simp [Text.isSha256, Text.isExactly, hexDigits_shape]

/-- The stand-in digest adds the letters up. -/
def letterSum (text : List Char) : Nat :=
  text.foldl (fun sum letter => (sum * 1000003 + letter.toNat) % Nat.pow 2 256) 7

theorem stableRevision_polynomial (value : Json) : @stableRevision Sha256.polynomial value =
    String.ofList (hexDigits (letterSum value.dumpsChars) 64) := by
  show String.ofList (hexDigits (letterSum value.dumps.toList) 64) = _
  rw [Json.dumps, String.toList_ofList]

end KSlide
