/-!
# UTF-8

Encoding of a text as octets and the reading of arbitrary octets as text. An ill-formed stretch of
octets reads as one replacement character: the stretch is the longest one that could still have
begun a character.
-/

namespace PathRouter.Text.Utf8

/-- The octets of a text. -/
def encode (cs : List Char) : List UInt8 :=
  cs.flatMap String.utf8EncodeChar

/-- The number of octets of a text. -/
def size : List Char → Nat
  | [] => 0
  | c :: cs => c.utf8Size + size cs

@[simp] theorem encode_nil : encode [] = [] := rfl

@[simp] theorem encode_cons (c : Char) (cs : List Char) :
    encode (c :: cs) = String.utf8EncodeChar c ++ encode cs := rfl

@[simp] theorem encode_append (cs ds : List Char) : encode (cs ++ ds) = encode cs ++ encode ds := by
  simp [encode]

@[simp] theorem size_nil : size [] = 0 := rfl

@[simp] theorem size_cons (c : Char) (cs : List Char) : size (c :: cs) = c.utf8Size + size cs := rfl

@[simp] theorem size_append (cs ds : List Char) : size (cs ++ ds) = size cs + size ds := by
  induction cs with
  | nil => simp
  | cons c cs ih => simp [ih, Nat.add_assoc]

/-- The character that stands for an ill-formed stretch of octets. -/
def replacement : Char := '\uFFFD'

/-- What the first octet of a character announces. -/
structure Lead where
  /-- The bits of the code point that the first octet carries. -/
  bits : Nat
  /-- How many octets follow. -/
  followers : Nat
  /-- The least octet that may come next. -/
  low : Nat
  /-- The greatest octet that may come next. -/
  high : Nat

/-- The announcement of an octet, if a character can begin with it. -/
def Lead.of? (b : Nat) : Option Lead :=
  if b < 0x80 then some ⟨b, 0, 0x80, 0xBF⟩
  else if b < 0xC2 then none
  else if b < 0xE0 then some ⟨b - 0xC0, 1, 0x80, 0xBF⟩
  else if b == 0xE0 then some ⟨0, 2, 0xA0, 0xBF⟩
  else if b == 0xED then some ⟨0xD, 2, 0x80, 0x9F⟩
  else if b < 0xF0 then some ⟨b - 0xE0, 2, 0x80, 0xBF⟩
  else if b == 0xF0 then some ⟨0, 3, 0x90, 0xBF⟩
  else if b < 0xF4 then some ⟨b - 0xF0, 3, 0x80, 0xBF⟩
  else if b == 0xF4 then some ⟨4, 3, 0x80, 0x8F⟩
  else none

/-- How far the reading of a character has come. -/
inductive Progress where
  /-- Between two characters. -/
  | start
  /-- Inside a character: the bits read, the number of octets owed, the range of the next octet. -/
  | inside (bits owed low high : Nat)

/-- What is read from octets, an ill-formed stretch as `none`. -/
def read : Progress → List UInt8 → List (Option Char)
  | .start, [] => []
  | .inside .., [] => [none]
  | .start, b :: bs => first b.toNat bs
  | .inside bits owed low high, b :: bs =>
    if low ≤ b.toNat ∧ b.toNat ≤ high then
      let bits := bits * 64 + (b.toNat - 0x80)
      match owed with
      | 0 | 1 => some (Char.ofNat bits) :: read .start bs
      | n + 1 => read (.inside bits n 0x80 0xBF) bs
    else none :: first b.toNat bs
where
  /-- Reading from the first octet of a character. -/
  first (b : Nat) (bs : List UInt8) : List (Option Char) :=
    match Lead.of? b with
    | none => none :: read .start bs
    | some lead =>
      if lead.followers = 0 then some (Char.ofNat lead.bits) :: read .start bs
      else read (.inside lead.bits lead.followers lead.low lead.high) bs

/-- The text of well-formed octets. -/
def decode? (bs : List UInt8) : Option (List Char) :=
  (read .start bs).mapM id

/-- The text of octets, with a replacement character for each ill-formed stretch. -/
def decodeLossy (bs : List UInt8) : List Char :=
  (read .start bs).map (·.getD replacement)

end PathRouter.Text.Utf8
