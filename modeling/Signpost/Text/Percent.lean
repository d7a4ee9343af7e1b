import Signpost.Text.Numeral
import Signpost.Text.Utf8

/-!
# Percent-encoding

Bytes written as `%` and two hexadecimal digits. Which characters of a text are written so is a
predicate that the caller gives; characters outside it stand for themselves.
-/

namespace Signpost.Percent

def encodeByte (b : UInt8) : List Char :=
  ['%', Hex.upper (b.toNat / 16), Hex.upper (b.toNat % 16)]

def encodeChar (c : Char) : List Char :=
  (Utf8.encodeChar c).flatMap encodeByte

/-- A text with the characters of a class written as escapes. -/
def encode (escaped : Char → Bool) (cs : List Char) : List Char :=
  cs.flatMap fun c => if escaped c then encodeChar c else [c]

/-- The bytes that a text stands for; a `%` without two digits behind it is a plain character. -/
def decode : List Char → List UInt8
  | [] => []
  | '%' :: a :: b :: rest =>
    match Hex.value? a, Hex.value? b with
    | some x, some y => Utf8.byteOf (x * 16 + y) :: decode rest
    | _, _ => Utf8.encodeChar '%' ++ decode (a :: b :: rest)
  | c :: rest => Utf8.encodeChar c ++ decode rest

@[simp] theorem encode_append (p : Char → Bool) (xs ys : List Char) :
    encode p (xs ++ ys) = encode p xs ++ encode p ys := by
  simp [encode]

theorem encode_eq_self {p : Char → Bool} {cs : List Char} (h : ∀ c ∈ cs, p c = false) :
    encode p cs = cs := by
  induction cs with
  | nil => rfl
  | cons c cs ih =>
    simp only [List.mem_cons, forall_eq_or_imp] at h
    simpa [encode, h.1] using ih h.2

end Signpost.Percent
