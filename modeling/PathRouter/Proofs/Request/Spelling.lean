import PathRouter.Request.Path
import PathRouter.Text.Digit
import PathRouter.Proofs.Text.Utf8

/-!
# Spellings

A path may be spelled in many ways: every character can be written as the escapes of its octets, and
the percent sign and the characters that end a path must be. The normal form of a path does not
depend on the spelling.
-/

namespace PathRouter.Request

open Text (hexNumber? hexDigit?)
open Text.Utf8 (encode encode_small not_mem_utf8EncodeChar)

/-- A text of escapes for octets. The hexadecimal digits may be capitals or not. -/
inductive Escapes : List UInt8 → List Char → Prop where
  | nil : Escapes [] []
  | cons {octet : UInt8} {octets : List UInt8} {high low : Char} {text : List Char} :
      hexNumber? [high, low] = some octet.toNat → Escapes octets text →
      Escapes (octet :: octets) ('%' :: high :: low :: text)

/-- The characters that do not stand for themselves in a request path. -/
def specialChars : List Char := ['%', '?', '#']

/-- A text without special characters. -/
def Plain (text : List Char) : Prop := ∀ c ∈ text, c ∉ specialChars

-- Characters are finite in number, so that an instance that is only inferred may try all of them.
instance (text : List Char) : Decidable (Plain text) := List.decidableBAll _ text

/-- A text and one of the ways to write it in a request path. -/
inductive Spelling : List Char → List Char → Prop where
  | nil : Spelling [] []
  | plain {c : Char} {text spelled : List Char} : c ∉ specialChars → Spelling text spelled →
      Spelling (c :: text) (c :: spelled)
  | escaped {c : Char} {escapes text spelled : List Char} :
      Escapes (String.utf8EncodeChar c) escapes → Spelling text spelled →
      Spelling (c :: text) (escapes ++ spelled)

namespace Spelling

theorem append {text spelled text' spelled' : List Char} (h : Spelling text spelled)
    (h' : Spelling text' spelled') : Spelling (text ++ text') (spelled ++ spelled') := by
  induction h with
  | nil => exact h'
  | plain hc _ ih => exact .plain hc ih
  | escaped hescapes _ ih =>
      rw [List.append_assoc]
      exact .escaped hescapes ih

/-- A text without special characters spells itself. -/
theorem refl {text : List Char} (h : Plain text) : Spelling text text := by
  induction text with
  | nil => exact .nil
  | cons c text ih =>
      apply Spelling.plain (h c List.mem_cons_self)
      apply ih
      intro d hd
      exact h d (List.mem_cons_of_mem _ hd)

end Spelling

/-! ## Hexadecimal digits -/

theorem digit?_of_hexDigit? : ∀ k < 0x80, (hexDigit? (Char.ofNat k)).all (fun n =>
    n < 16 && Percent.digit? (UInt8.ofNat k) == some (UInt8.ofNat n)) = true := by
  decide

theorem toNat_lt_of_hexDigit? {c : Char} {n : Nat} (h : hexDigit? c = some n) : c.toNat < 0x80 := by
  have hle (d : Char) (hcd : c ≤ d) (hd : d.toNat < 0x80) : c.toNat < 0x80 :=
    Nat.lt_of_le_of_lt (UInt32.le_iff_toNat_le.1 hcd) hd
  unfold hexDigit? at h
  split at h
  · next hc => exact hle '9' hc.2 (by decide)
  · split at h
    · next hc => exact hle 'F' hc.2 (by decide)
    · split at h
      · next hc => exact hle 'f' hc.2 (by decide)
      · cases h

/-- A hexadecimal digit means the same as a character and as an octet. -/
theorem digit?_eq {c : Char} {n : Nat} (h : hexDigit? c = some n) :
    n < 16 ∧ Percent.digit? (UInt8.ofNat c.toNat) = some (UInt8.ofNat n) := by
  have hall := digit?_of_hexDigit? c.toNat (toNat_lt_of_hexDigit? h)
  rw [Char.ofNat_toNat, h] at hall
  simpa using hall

theorem hexDigit?_of_hexNumber? {high low : Char} {k : Nat} (h : hexNumber? [high, low] = some k) :
    ∃ m n, hexDigit? high = some m ∧ hexDigit? low = some n ∧ k = m * 16 + n := by
  cases hhigh : hexDigit? high with
  | none => simp [hexNumber?, hhigh] at h
  | some m =>
      cases hlow : hexDigit? low with
      | none => simp [hexNumber?, hhigh, hlow] at h
      | some n =>
          refine ⟨m, n, rfl, rfl, ?_⟩
          simpa [hexNumber?, hhigh, hlow] using h.symm

theorem octet?_eq {high low : Char} {octet : UInt8}
    (h : hexNumber? [high, low] = some octet.toNat) :
    high.toNat < 0x80 ∧ low.toNat < 0x80 ∧
      Percent.octet? (UInt8.ofNat high.toNat) (UInt8.ofNat low.toNat) = some octet := by
  obtain ⟨m, n, hhigh, hlow, hsum⟩ := hexDigit?_of_hexNumber? h
  obtain ⟨hm, hmdigit⟩ := digit?_eq hhigh
  obtain ⟨hn, hndigit⟩ := digit?_eq hlow
  refine ⟨toNat_lt_of_hexDigit? hhigh, toNat_lt_of_hexDigit? hlow, ?_⟩
  rw [Percent.octet?, hmdigit, hndigit]
  apply congrArg some
  apply UInt8.toNat_inj.1
  rw [hsum]
  simp only [UInt8.toNat_add, UInt8.toNat_mul, UInt8.toNat_ofNat']
  change (m % 256 * 16 % 256 + n % 256) % 256 = m * 16 + n
  omega

/-! ## Decoding -/

theorem decode_octet {b : UInt8} (hb : b ≠ 0x25) (bs : List UInt8) :
    Percent.decode (b :: bs) = b :: Percent.decode bs := by
  match bs with
  | [] => rfl
  | [_] => rfl
  | _ :: _ :: _ => rw [Percent.decode, if_neg hb]

theorem decode_octets {cs : List UInt8} (h : 0x25 ∉ cs) (bs : List UInt8) :
    Percent.decode (cs ++ bs) = cs ++ Percent.decode bs := by
  induction cs with
  | nil => rfl
  | cons c cs ih =>
      rw [List.mem_cons, not_or] at h
      rw [List.cons_append, decode_octet (Ne.symm h.1), ih h.2, List.cons_append]

theorem decode_escape {high low octet : UInt8} (h : Percent.octet? high low = some octet)
    (bs : List UInt8) :
    Percent.decode (0x25 :: high :: low :: bs) = octet :: Percent.decode bs := by
  rw [Percent.decode, if_pos rfl, h]

/-- Escapes are read as the octets they stand for. -/
theorem decode_escapes {octets : List UInt8} {text : List Char} (h : Escapes octets text)
    (cs : List Char) :
    Percent.decode (encode (text ++ cs)) = octets ++ Percent.decode (encode cs) := by
  induction h with
  | nil => rfl
  | @cons octet octets high low text hoctet _ ih =>
      obtain ⟨hhigh, hlow, hvalue⟩ := octet?_eq hoctet
      have hpercent : '%'.toNat < 0x80 := by decide
      rw [List.cons_append, List.cons_append, List.cons_append, encode_small hpercent,
        encode_small hhigh, encode_small hlow]
      calc
        Percent.decode (0x25 :: UInt8.ofNat high.toNat :: UInt8.ofNat low.toNat ::
            encode (text ++ cs)) = octet :: Percent.decode (encode (text ++ cs)) :=
          decode_escape hvalue _
        _ = octet :: octets ++ Percent.decode (encode cs) := by rw [ih, List.cons_append]

theorem Spelling.decode {text spelled : List Char} (h : Spelling text spelled) :
    Percent.decode (encode spelled) = encode text := by
  induction h with
  | nil => rfl
  | @plain c text spelled hc _ ih =>
      have hpercent : c ≠ '%' := by
        rintro rfl
        exact hc List.mem_cons_self
      calc
        Percent.decode (encode (c :: spelled)) =
            String.utf8EncodeChar c ++ Percent.decode (encode spelled) := by
          rw [Text.Utf8.encode_cons, decode_octets (not_mem_utf8EncodeChar (by decide) hpercent)]
        _ = encode (c :: text) := by rw [ih, Text.Utf8.encode_cons]
  | @escaped c escapes text spelled hescapes _ ih =>
      calc
        Percent.decode (encode (escapes ++ spelled)) =
            String.utf8EncodeChar c ++ Percent.decode (encode spelled) :=
          decode_escapes hescapes spelled
        _ = encode (c :: text) := by rw [ih, Text.Utf8.encode_cons]

/-- A spelling is read as the text it spells. -/
theorem Spelling.decodeText {text spelled : List Char} (h : Spelling text spelled) :
    Percent.decodeText spelled = text := by
  rw [Percent.decodeText, h.decode, Text.Utf8.decodeLossy_encode]

/-! ## Normal forms -/

/-- The characters that end a path. -/
def endsPath (c : Char) : Bool := c == '?' || c == '#'

theorem endsPath_escapes {octets : List UInt8} {text : List Char} (h : Escapes octets text) :
    ∀ c ∈ text, endsPath c = false := by
  have hdigit {c : Char} {n : Nat} (hc : hexDigit? c = some n) : endsPath c = false := by
    have hquery : hexDigit? '?' = none := by decide
    have hfragment : hexDigit? '#' = none := by decide
    rw [endsPath, Bool.or_eq_false_iff]
    constructor <;> apply beq_false_of_ne <;> rintro rfl
    · rw [hquery] at hc
      cases hc
    · rw [hfragment] at hc
      cases hc
  induction h with
  | nil => exact nofun
  | @cons octet octets high low text hoctet _ ih =>
      obtain ⟨m, n, hhigh, hlow, -⟩ := hexDigit?_of_hexNumber? hoctet
      intro c hc
      rcases List.mem_cons.1 hc with rfl | hc
      · rfl
      · rcases List.mem_cons.1 hc with rfl | hc
        · exact hdigit hhigh
        · rcases List.mem_cons.1 hc with rfl | hc
          · exact hdigit hlow
          · exact ih c hc

theorem Spelling.endsPath_eq {text spelled : List Char} (h : Spelling text spelled) :
    ∀ c ∈ spelled, endsPath c = false := by
  induction h with
  | nil => exact nofun
  | @plain d text spelled hd _ ih =>
      intro c hc
      rcases List.mem_cons.1 hc with rfl | hc
      · simp only [specialChars, List.mem_cons, List.not_mem_nil, or_false, not_or] at hd
        simp [endsPath, hd]
      · exact ih c hc
  | escaped hescapes _ ih =>
      intro c hc
      rcases List.mem_append.1 hc with hc | hc
      · exact endsPath_escapes hescapes c hc
      · exact ih c hc

/-- Nothing, or a query or a fragment. -/
def BehindPath (text : List Char) : Prop := ∀ c ∈ text.head?, endsPath c = true

instance (text : List Char) : Decidable (BehindPath text) :=
  match text with
  | [] => isTrue nofun
  | c :: _ => decidable_of_iff (endsPath c = true) (by simp [BehindPath])

/-- A spelling ends where a query or a fragment begins. -/
theorem Spelling.beforeQuery_append {text spelled behind : List Char} (h : Spelling text spelled)
    (hbehind : BehindPath behind) : beforeQuery (spelled ++ behind) = spelled := by
  have hkeep : (fun c => c != '?' && c != '#') = fun c => !endsPath c := by
    funext c
    rw [endsPath, Bool.not_or]
    rfl
  have hall : ∀ c ∈ spelled, (!endsPath c) = true := by
    intro c hc
    rw [h.endsPath_eq c hc]
    rfl
  rw [beforeQuery, hkeep, List.takeWhile_append_of_pos hall]
  cases behind with
  | nil => exact List.append_nil spelled
  | cons c behind =>
      have hc : endsPath c = true := hbehind c rfl
      have hstop : (c :: behind).takeWhile (fun d => !endsPath d) = [] :=
        List.takeWhile_cons_of_neg (by simp [hc])
      rw [hstop, List.append_nil]

/-- A path with exactly one slash in front, or none at all. -/
def Rooted (path : List Char) : Prop :=
  path = [] ∨ ∃ rest, path = '/' :: rest ∧ rest.head? ≠ some '/'

instance (path : List Char) : Decidable (Rooted path) :=
  match path with
  | [] => isTrue (.inl rfl)
  | c :: rest => decidable_of_iff (c = '/' ∧ rest.head? ≠ some '/')
    ⟨fun h => .inr ⟨rest, h.1 ▸ rfl, h.2⟩, fun h => by
      rcases h with h | ⟨_, h, hrest⟩
      · cases h
      · obtain ⟨rfl, rfl⟩ := List.cons.inj h
        exact ⟨rfl, hrest⟩⟩

/-- A path that may stand behind a base path: it is empty or begins with a slash. -/
def BehindBase (path : List Char) : Prop := ∀ c ∈ path.head?, c = '/'

theorem Rooted.behindBase {path : List Char} (h : Rooted path) : BehindBase path := by
  rcases h with rfl | ⟨rest, rfl, -⟩
  · exact nofun
  · rintro c hc
    exact (Option.some.inj hc).symm

theorem stripBase_append (base : List Char) {path : List Char} (h : BehindBase path) :
    stripBase base (base ++ path) = path := by
  rw [stripBase, if_pos (List.isPrefixOf_iff_prefix.2 (List.prefix_append _ _)), List.drop_left]
  cases path with
  | nil => rfl
  | cons c path =>
      obtain rfl := h c rfl
      rfl

/-- The normal form of a spelling of a path behind the base path is the path. -/
theorem normalizePathChars_spelling {base path spelled : List Char}
    (h : Spelling (base ++ path) spelled) (hpath : Rooted path) :
    normalizePathChars spelled base = rooted path := by
  have hnothing : BehindPath [] := nofun
  have hspelled : beforeQuery spelled = spelled := by
    simpa using h.beforeQuery_append hnothing
  rw [normalizePathChars, hspelled, h.decodeText]
  cases base with
  | nil => rfl
  | cons c base =>
      rw [stripBase_append (c :: base) hpath.behindBase]
      rfl

end PathRouter.Request
