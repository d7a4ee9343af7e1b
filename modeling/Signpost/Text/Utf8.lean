/-!
# UTF-8

Scalars to bytes, and bytes back to scalars. A byte sequence is read as a list of `Unit`s, each a
scalar or a maximal run of bytes that starts no scalar; the strict and the forgiving decoder are
two views of that list.
-/

namespace Signpost.Utf8

/-- The byte of a value below 256. -/
def byteOf (n : Nat) : UInt8 :=
  UInt8.ofNat n

def encodeChar (c : Char) : List UInt8 :=
  let n := c.toNat
  if n < 0x80 then [byteOf n]
  else if n < 0x800 then [byteOf (0xC0 + n / 64), byteOf (0x80 + n % 64)]
  else if n < 0x10000 then
    [byteOf (0xE0 + n / 4096), byteOf (0x80 + n / 64 % 64), byteOf (0x80 + n % 64)]
  else
    [byteOf (0xF0 + n / 262144), byteOf (0x80 + n / 4096 % 64), byteOf (0x80 + n / 64 % 64),
      byteOf (0x80 + n % 64)]

def encode (cs : List Char) : List UInt8 :=
  cs.flatMap encodeChar

/-- The number of bytes that a text takes. -/
def size (cs : List Char) : Nat :=
  (encode cs).length

@[simp] theorem size_cons (c : Char) (cs : List Char) :
    size (c :: cs) = (encodeChar c).length + size cs := by
  simp [size, encode]

@[simp] theorem length_encodeChar (c : Char) : (encodeChar c).length = c.utf8Size := by
  have le_iff (n : Nat) (h : n < UInt32.size) :
      c.val ≤ UInt32.ofNatLT n h ↔ c.toNat < n + 1 :=
    UInt32.le_iff_toNat_le.trans Nat.lt_succ_iff.symm
  unfold encodeChar Char.utf8Size
  simp only [le_iff]
  split
  · rfl
  · split
    · rfl
    · split <;> rfl

/-- The size of a text is that of the string it makes. -/
theorem size_eq_utf8ByteSize (cs : List Char) : size cs = (String.ofList cs).utf8ByteSize := by
  induction cs with
  | nil => rfl
  | cons c cs ih =>
    rw [size_cons, length_encodeChar, ih, String.ofList_cons, String.utf8ByteSize_append,
      String.utf8ByteSize_singleton]

/-- ASCII takes one byte a character. -/
theorem size_eq_length {cs : List Char} (h : ∀ c ∈ cs, c.toNat < 0x80) :
    size cs = cs.length := by
  induction cs with
  | nil => rfl
  | cons c cs ih =>
    simp only [List.mem_cons, forall_eq_or_imp] at h
    rw [size_cons, ih h.2, encodeChar, if_pos h.1, List.length_cons, Nat.add_comm]
    rfl

def isTail (b : UInt8) : Bool :=
  0x80 ≤ b.toNat && b.toNat < 0xC0

/-- Whether a byte may follow the first byte of a scalar: three first bytes leave out the
overlong forms and the surrogates, a fourth what lies beyond the last scalar. -/
def isSecond (first second : UInt8) : Bool :=
  isTail second &&
    (if first.toNat = 0xE0 then 0xA0 ≤ second.toNat
    else if first.toNat = 0xED then second.toNat < 0xA0
    else if first.toNat = 0xF0 then 0x90 ≤ second.toNat
    else if first.toNat = 0xF4 then second.toNat < 0x90
    else true)

/-- The scalars of a byte sequence in order, `none` standing for bytes that belong to none. -/
def decodeUnits : List UInt8 → List (Option Char)
  | [] => []
  | a :: rest =>
    if a.toNat < 0x80 then some (Char.ofNat a.toNat) :: decodeUnits rest
    else if 0xC2 ≤ a.toNat && a.toNat < 0xE0 then
      match rest with
      | [] => [none]
      | b :: rest₁ =>
        if isTail b then
          some (Char.ofNat ((a.toNat - 0xC0) * 64 + (b.toNat - 0x80))) :: decodeUnits rest₁
        else none :: decodeUnits (b :: rest₁)
    else if 0xE0 ≤ a.toNat && a.toNat < 0xF0 then
      match rest with
      | [] => [none]
      | b :: rest₁ =>
        if isSecond a b then
          match rest₁ with
          | [] => [none]
          | c :: rest₂ =>
            if isTail c then
              some (Char.ofNat
                ((a.toNat - 0xE0) * 4096 + (b.toNat - 0x80) * 64 + (c.toNat - 0x80))) ::
                decodeUnits rest₂
            else none :: decodeUnits (c :: rest₂)
        else none :: decodeUnits (b :: rest₁)
    else if 0xF0 ≤ a.toNat && a.toNat < 0xF5 then
      match rest with
      | [] => [none]
      | b :: rest₁ =>
        if isSecond a b then
          match rest₁ with
          | [] => [none]
          | c :: rest₂ =>
            if isTail c then
              match rest₂ with
              | [] => [none]
              | d :: rest₃ =>
                if isTail d then
                  some (Char.ofNat ((a.toNat - 0xF0) * 262144 + (b.toNat - 0x80) * 4096 +
                    (c.toNat - 0x80) * 64 + (d.toNat - 0x80))) :: decodeUnits rest₃
                else none :: decodeUnits (d :: rest₃)
            else none :: decodeUnits (c :: rest₂)
        else none :: decodeUnits (b :: rest₁)
    else none :: decodeUnits rest

/-- The text of a byte sequence, or `none` where some byte belongs to no scalar. -/
def decode? (bytes : List UInt8) : Option (List Char) :=
  (decodeUnits bytes).mapM id

/-- The text of a byte sequence, with U+FFFD in place of what belongs to no scalar. -/
def decodeLossy (bytes : List UInt8) : List Char :=
  (decodeUnits bytes).map (·.getD '\uFFFD')

end Signpost.Utf8
