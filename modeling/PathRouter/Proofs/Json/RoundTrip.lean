import PathRouter.Json.Reading
import PathRouter.Json.Value
import PathRouter.Proofs.Text.Digit
import PathRouter.Proofs.Text.Utf8

/-!
# Reading what was written

A value that is written over several lines is read as the tree of this value, whatever characters
stand in its strings. What is read ends where the text of the value ends.
-/

namespace PathRouter.Json

open Text (head?_repr isDigit_of_mem_repr number_repr repr_toList_ne_nil)

/-! ## Strings -/

theorem hexNumber?_hexDigit : ∀ n < 0x20,
    Text.hexNumber? ['0', '0', hexDigit (n / 16), hexDigit (n % 16)] = some n := by
  decide

/-- A control character is read off its hexadecimal digits. -/
theorem escapeChar_control {c : Char} (hc : c.toNat < 0x20) (rest : List Char) :
    escapeChar ('u' :: '0' :: '0' :: hexDigit (c.toNat / 16) :: hexDigit (c.toNat % 16) :: rest) =
      .ok (c, 5) := by
  let digits := ['0', '0', hexDigit (c.toNat / 16), hexDigit (c.toNat % 16)]
  have hsize : ¬Text.Utf8.size (digits ++ rest) < 4 := by
    have hpos (d : Char) : 0 < d.utf8Size := d.utf8Size_pos
    simp only [digits, List.cons_append, List.nil_append, Text.Utf8.size_cons]
    have h₁ := hpos '0'
    have h₂ := hpos (hexDigit (c.toNat / 16))
    have h₃ := hpos (hexDigit (c.toNat % 16))
    omega
  have hunit : hexUnit (digits ++ rest) = .ok c.toNat := by
    have htake : (digits ++ rest).take 4 = digits := rfl
    rw [hexUnit, if_neg hsize, htake, hexNumber?_hexDigit c.toNat hc]
  have hchar : unitChar (digits ++ rest) = .ok (c, 4) := by
    have hlow : ¬(0xDC00 ≤ c.toNat ∧ c.toNat ≤ 0xDFFF) := by omega
    have hhigh : ¬(0xD800 ≤ c.toNat ∧ c.toNat ≤ 0xDBFF) := by omega
    simp only [unitChar, hunit, bind, Except.bind, hlow, hhigh, if_false, Char.ofNat_toNat]
    rfl
  change (unitChar (digits ++ rest)).map (fun found => (found.1, found.2 + 1)) = _
  rw [hchar]
  rfl

theorem stringChars_escape {cs : List Char} {d : Char} {used : Nat}
    (h : escapeChar cs = .ok (d, used)) : stringChars 0 ('\\' :: cs) =
      (stringChars used cs).map fun (ds, rest) => (d :: ds, rest) := by
  have hquote : '\\' ≠ '"' := by decide
  rw [stringChars, if_neg hquote, if_pos rfl, h]

/-- A character is read as it was written. -/
theorem stringChars_encodeChar (c : Char) (more : List Char) :
    stringChars 0 (encodeChar c ++ more) =
      (stringChars 0 more).map fun (cs, rest) => (c :: cs, rest) := by
  unfold encodeChar
  split_ifs with hquote hslash hback hfeed hline hreturn htab hcontrol
  · subst hquote; rfl
  · subst hslash; rfl
  · subst hback; rfl
  · subst hfeed; rfl
  · subst hline; rfl
  · subst hreturn; rfl
  · subst htab; rfl
  · exact stringChars_escape (escapeChar_control hcontrol more)
  · rw [List.singleton_append, stringChars, if_neg hquote, if_neg hslash, if_neg hcontrol]

theorem stringChars_encode (cs rest : List Char) :
    stringChars 0 (cs.flatMap encodeChar ++ '"' :: rest) = .ok (cs, rest) := by
  induction cs with
  | nil => rfl
  | cons c cs ih =>
      rw [List.flatMap_cons, List.append_assoc, stringChars_encodeChar, ih]
      rfl

/-! ## Spaces -/

@[simp] theorem length_indent (depth : Nat) : (indent depth).length = 2 * depth + 1 := by
  rw [indent, List.length_cons, List.length_replicate]

theorem dropWhile_indent (depth : Nat) (cs : List Char) :
    (indent depth ++ cs).dropWhile isSpace = cs.dropWhile isSpace := by
  apply List.dropWhile_append_of_pos
  intro c hc
  rcases List.mem_cons.1 hc with rfl | hc
  · rfl
  · obtain rfl := List.eq_of_mem_replicate hc
    rfl

theorem readValue_congr {cs ds : List Char} (h : cs.dropWhile isSpace = ds.dropWhile isSpace)
    (fuel : Nat) : readValue fuel cs = readValue fuel ds := by
  cases fuel with
  | zero => rfl
  | succ fuel => rw [readValue, readValue, h]

theorem isSpace_of_isDigit {c : Char} (h : c.isDigit = true) : isSpace c = false := by
  rw [Bool.eq_false_iff]
  intro hspace
  simp only [isSpace, Bool.or_eq_true, beq_iff_eq] at hspace
  rcases hspace with ((rfl | rfl) | rfl) | rfl <;> cases h

/-! ## Trees -/

/-- The items of an array that is complete. -/
def Items.ofList : List Reading → Items
  | [] => .done
  | item :: items => .cons item (ofList items)

/-- The members of an object that is complete. -/
def Members.ofList : List (String × Reading) → Members
  | [] => .done
  | (key, value) :: members => .cons key value (ofList members)

mutual

/-- The tree of a value. -/
def Value.reading : Value → Reading
  | .null => .null
  | .number n => .number (.natural n)
  | .string s => .string s
  | .array items => .array (itemReadings items)
  | .object members => .object (memberReadings members)

def Value.itemReadings : List Value → Items
  | [] => .done
  | item :: items => .cons item.reading (itemReadings items)

def Value.memberReadings : List (String × Value) → Members
  | [] => .done
  | (key, value) :: members => .cons key value.reading (memberReadings members)

end

mutual

/-- All numbers in a value fit into 64 bits. -/
def Value.Fits : Value → Prop
  | .null | .string _ => True
  | .number n => n ≤ Number.maxSignificand
  | .array items => AllFit items
  | .object members => AllMembersFit members

/-- All numbers in items fit into 64 bits. -/
def Value.AllFit : List Value → Prop
  | [] => True
  | item :: items => item.Fits ∧ AllFit items

/-- All numbers in members fit into 64 bits. -/
def Value.AllMembersFit : List (String × Value) → Prop
  | [] => True
  | (_, value) :: members => value.Fits ∧ AllMembersFit members

end

/-- A text cannot be taken for more of a number before it. -/
def EndsNumber (cs : List Char) : Prop :=
  ∀ c, cs.head? = some c → c.isDigit = false ∧ c ≠ '.' ∧ c ≠ 'e' ∧ c ≠ 'E'

/-! ## Numbers -/

theorem le_extendNumber (n : Nat) (digits : List Char) : n ≤ Text.extendNumber n digits := by
  induction digits generalizing n with
  | nil => exact Nat.le_refl n
  | cons c cs ih =>
      have hlater : n * 10 + Text.digit c ≤ Text.extendNumber n (c :: cs) := ih _
      omega

namespace Number

theorem extend_eq {n : Nat} {digits : List Char}
    (h : Text.extendNumber n digits ≤ maxSignificand) :
    extend n digits = (Text.extendNumber n digits, []) := by
  induction digits generalizing n with
  | nil => rfl
  | cons c cs ih =>
      have hfits : n * 10 + Text.digit c ≤ maxSignificand := Nat.le_trans (le_extendNumber _ cs) h
      rw [extend, if_pos hfits]
      exact ih h

theorem readDigits_append {digits : List Char} (hne : digits ≠ [])
    (hdigits : ∀ c ∈ digits, c.isDigit = true) {rest : List Char} (hrest : EndsNumber rest) :
    readDigits (digits ++ rest) = .ok (digits, rest) := by
  have hstop : rest.takeWhile Char.isDigit = [] ∧ rest.dropWhile Char.isDigit = rest := by
    cases rest with
    | nil => exact ⟨rfl, rfl⟩
    | cons c rest =>
        have hc := (hrest c rfl).1
        simp [hc]
  cases digits with
  | nil => exact absurd rfl hne
  | cons c cs =>
      have hc := hdigits c List.mem_cons_self
      rw [List.cons_append, readDigits, if_pos hc, ← List.cons_append,
        List.takeWhile_append_of_pos hdigits, List.dropWhile_append_of_pos hdigits, hstop.1,
        hstop.2, List.append_nil]

theorem readFraction_none {rest : List Char} (hrest : EndsNumber rest) :
    readFraction rest = .ok (none, rest) := by
  unfold readFraction
  split
  · exact absurd rfl (hrest '.' rfl).2.1
  · rfl

theorem readExponent_none {rest : List Char} (hrest : EndsNumber rest) :
    readExponent rest = .ok (none, rest) := by
  cases rest with
  | nil => rfl
  | cons c rest =>
      have hc : ¬(c = 'e' ∨ c = 'E') := not_or.2 (hrest c rfl).2.2
      exact if_neg hc

/-- Digits without a needless zero at the beginning are read as the number that they write. -/
theorem read_digits {digits : List Char} (hne : digits ≠ [])
    (hdigits : ∀ c ∈ digits, c.isDigit = true)
    (hzero : ¬(digits.head? = some '0' ∧ digits.length ≠ 1))
    (hfits : Text.number digits ≤ maxSignificand) {rest : List Char} (hrest : EndsNumber rest) :
    read (digits ++ rest) = .ok (.natural (Text.number digits), rest) := by
  have hwritten : (Written.mk false digits none none).number? =
      some (.natural (Text.number digits)) := by
    simp only [Written.number?, extend_eq hfits]
    rfl
  have hminus : (digits ++ rest).head? ≠ some '-' := by
    obtain ⟨c, cs, rfl⟩ := List.exists_cons_of_ne_nil hne
    intro hhead
    obtain rfl := Option.some.inj hhead
    exact absurd (hdigits '-' List.mem_cons_self) (by decide)
  unfold read
  split
  next heq =>
    split at heq
    · next htext => exact absurd (congrArg List.head? htext) hminus
    · obtain ⟨rfl, rfl⟩ := Prod.mk.inj heq
      simp only [readDigits_append hne hdigits hrest, hzero, readFraction_none hrest,
        readExponent_none hrest, hwritten, bind, Except.bind, pure, Except.pure, if_false]

/-- A number that fits is read off its numeral. -/
theorem read_repr {n : Nat} (h : n ≤ maxSignificand) {rest : List Char}
    (hrest : EndsNumber rest) : read ((Nat.repr n).toList ++ rest) = .ok (.natural n, rest) := by
  have hzero : ¬((Nat.repr n).toList.head? = some '0' ∧ (Nat.repr n).toList.length ≠ 1) := by
    rintro ⟨hhead, hlength⟩
    obtain rfl := head?_repr hhead
    exact hlength rfl
  have hread := read_digits (repr_toList_ne_nil n) (fun c hc => isDigit_of_mem_repr hc) hzero
    ((number_repr n).symm ▸ h) hrest
  rwa [number_repr] at hread

end Number

/-! ## Items and members -/

/-- A value begins with a character that is no space and does not close an array. -/
theorem exists_chars_eq_cons (depth : Nat) (v : Value) :
    ∃ c cs, v.chars depth = c :: cs ∧ isSpace c = false ∧ c ≠ ']' := by
  match v with
  | .null =>
      have hnull : "null".toList = ['n', 'u', 'l', 'l'] := by decide
      exact ⟨'n', _, hnull, rfl, by decide⟩
  | .number n =>
      obtain ⟨c, cs, hdigits⟩ := List.exists_cons_of_ne_nil (repr_toList_ne_nil n)
      have hc : c.isDigit = true := isDigit_of_mem_repr (hdigits ▸ List.mem_cons_self)
      refine ⟨c, cs, hdigits, isSpace_of_isDigit hc, ?_⟩
      rintro rfl
      cases hc
  | .string s => exact ⟨'"', _, rfl, rfl, by decide⟩
  | .array [] => exact ⟨'[', _, rfl, rfl, by decide⟩
  | .array (item :: items) => exact ⟨'[', _, rfl, rfl, by decide⟩
  | .object [] => exact ⟨'\x7b', _, rfl, rfl, by decide⟩
  | .object ((key, value) :: members) => exact ⟨'\x7b', _, rfl, rfl, by decide⟩

/-- The rest of an array is an item and the rest behind it. -/
def restItems (fuel : Nat) (text : List Char) : Items × List Char :=
  let (item, rest) := readValue fuel text
  let (items, rest) := readItems fuel false rest
  (.cons item items, rest)

theorem restItems_of {fuel : Nat} {text tail rest : List Char} {item : Reading} {items : Items}
    (hitem : readValue fuel text = (item, tail))
    (hitems : readItems fuel false tail = (items, rest)) :
    restItems fuel text = (.cons item items, rest) := by
  rw [restItems, hitem]
  dsimp only
  rw [hitems]

theorem restItems_indent (fuel depth : Nat) (text : List Char) :
    restItems fuel (indent depth ++ text) = restItems fuel text := by
  rw [restItems, readValue_congr (dropWhile_indent depth text)]
  rfl

theorem readItems_first (fuel depth : Nat) (item : Value) (tail : List Char) :
    readItems (fuel + 1) true (indent depth ++ (item.chars depth ++ tail)) =
      restItems fuel (item.chars depth ++ tail) := by
  obtain ⟨c, cs, hchars, hspace, hclose⟩ := exists_chars_eq_cons depth item
  have htext : (indent depth ++ (c :: cs ++ tail)).dropWhile isSpace = c :: (cs ++ tail) := by
    rw [dropWhile_indent, List.cons_append, List.dropWhile_cons_of_neg (by rw [hspace]; decide)]
  rw [hchars, readItems, htext]
  split
  · next heq => cases heq
  · next heq => exact absurd (List.cons.inj heq).1 hclose
  · next heq =>
      obtain ⟨rfl, rfl⟩ := List.cons.inj heq
      rfl

theorem readItems_later (fuel : Nat) (text : List Char) :
    readItems (fuel + 1) false (',' :: text) = restItems fuel text := by
  rw [readItems]
  rfl

theorem readItems_end (fuel depth : Nat) (rest : List Char) :
    readItems (fuel + 1) false (indent depth ++ ']' :: rest) = (.done, rest) := by
  have htext : (indent depth ++ ']' :: rest).dropWhile isSpace = ']' :: rest :=
    dropWhile_indent depth _
  rw [readItems, htext]
  rfl

theorem readMembers_end (fuel depth : Nat) (rest : List Char) :
    readMembers (fuel + 1) false (indent depth ++ '\x7d' :: rest) = (.done, rest) := by
  have htext : (indent depth ++ '\x7d' :: rest).dropWhile isSpace = '\x7d' :: rest :=
    dropWhile_indent depth _
  rw [readMembers, htext]
  rfl

theorem readMembers_first (fuel depth : Nat) (key : String) (text : List Char) :
    readMembers (fuel + 1) true (indent depth ++ (encodeString key ++ text)) =
      readMember fuel (encodeString key ++ text) := by
  have htext : (indent depth ++ (encodeString key ++ text)).dropWhile isSpace =
      encodeString key ++ text := dropWhile_indent depth _
  rw [readMembers, htext]
  rfl

theorem readMembers_later (fuel depth : Nat) (key : String) (text : List Char) :
    readMembers (fuel + 1) false (',' :: (indent depth ++ (encodeString key ++ text))) =
      readMember fuel (encodeString key ++ text) := by
  have htext : (indent depth ++ (encodeString key ++ text)).dropWhile isSpace =
      encodeString key ++ text := dropWhile_indent depth _
  rw [readMembers]
  change readMember fuel (List.dropWhile isSpace _) = _
  rw [htext]

theorem readMember_of {fuel : Nat} (key : String) {text tail rest : List Char} {value : Reading}
    {members : Members} (hvalue : readValue fuel text = (value, tail))
    (hmembers : readMembers fuel false tail = (members, rest)) :
    readMember (fuel + 1) (encodeString key ++ ':' :: ' ' :: text) =
      (.cons key value members, rest) := by
  have hkey : encodeString key ++ ':' :: ' ' :: text =
      '"' :: (key.toList.flatMap encodeChar ++ '"' :: (':' :: ' ' :: text)) := by
    simp [encodeString]
  have hspace : readValue fuel (' ' :: text) = readValue fuel text := by
    apply readValue_congr
    exact List.dropWhile_cons_of_pos rfl
  rw [hkey, readMember, if_pos rfl, stringChars_encode]
  change (Members.cons (String.ofList key.toList) (readValue fuel (' ' :: text)).1
    (readMembers fuel false (readValue fuel (' ' :: text)).2).1,
    (readMembers fuel false (readValue fuel (' ' :: text)).2).2) = _
  rw [hspace, hvalue, String.ofList_toList, hmembers]

/-! ## Values -/

theorem endsNumber_cons {c : Char} (h : c ∈ [',', '\n']) (cs : List Char) :
    EndsNumber (c :: cs) := by
  intro d hd
  obtain rfl := Option.some.inj hd
  simp only [List.mem_cons, List.not_mem_nil, or_false] at h
  rcases h with rfl | rfl <;> decide

theorem readValue_digit {c : Char} (h : c.isDigit = true) (fuel : Nat) (cs : List Char) :
    readValue (fuel + 1) (c :: cs) = orBroken .number (Number.read (c :: cs)) := by
  rw [readValue, List.dropWhile_cons_of_neg (by rw [isSpace_of_isDigit h]; decide)]
  split <;> rename_i heq
  · cases heq
  all_goals obtain ⟨rfl, rfl⟩ := List.cons.inj heq
  · cases h
  · cases h
  · cases h
  · cases h
  · cases h
  · cases h
  · simp [h]

section Trees
open Value

/-- What follows an item of an array. -/
def itemTail (depth : Nat) (items : List Value) (rest : List Char) : List Char :=
  itemChars depth items ++ (indent depth ++ ']' :: rest)

/-- What follows a member of an object. -/
def memberTail (depth : Nat) (members : List (String × Value)) (rest : List Char) : List Char :=
  memberChars depth members ++ (indent depth ++ '\x7d' :: rest)

theorem itemTail_cons (depth : Nat) (item : Value) (items : List Value) (rest : List Char) :
    itemTail depth (item :: items) rest =
      ',' :: (indent (depth + 1) ++ (item.chars (depth + 1) ++ itemTail depth items rest)) := by
  simp [itemTail, itemChars]

theorem memberTail_cons (depth : Nat) (key : String) (value : Value)
    (members : List (String × Value)) (rest : List Char) :
    memberTail depth ((key, value) :: members) rest = ',' :: (indent (depth + 1) ++
      (encodeString key ++
        ':' :: ' ' :: (value.chars (depth + 1) ++ memberTail depth members rest))) := by
  simp [memberTail, memberChars]

theorem chars_array (depth : Nat) (item : Value) (items : List Value) (rest : List Char) :
    (Value.array (item :: items)).chars depth ++ rest =
      '[' :: (indent (depth + 1) ++ (item.chars (depth + 1) ++ itemTail depth items rest)) := by
  simp [Value.chars, itemTail]

theorem chars_object (depth : Nat) (key : String) (value : Value)
    (members : List (String × Value)) (rest : List Char) :
    (Value.object ((key, value) :: members)).chars depth ++ rest =
      '\x7b' :: (indent (depth + 1) ++ (encodeString key ++
        ':' :: ' ' :: (value.chars (depth + 1) ++ memberTail depth members rest))) := by
  simp [Value.chars, memberTail]

theorem endsNumber_itemTail (depth : Nat) (items : List Value) (rest : List Char) :
    EndsNumber (itemTail depth items rest) := by
  cases items with
  | nil => exact endsNumber_cons (by decide) _
  | cons item items => exact endsNumber_cons (by decide) _

theorem endsNumber_memberTail (depth : Nat) (members : List (String × Value)) (rest : List Char) :
    EndsNumber (memberTail depth members rest) := by
  cases members with
  | nil => exact endsNumber_cons (by decide) _
  | cons member members => exact endsNumber_cons (by decide) _

mutual

/-- A value is read as its tree, up to its end. -/
theorem readValue_chars : ∀ (v : Value) (depth fuel : Nat) {rest : List Char}, v.Fits →
    EndsNumber rest → (v.chars depth ++ rest).length ≤ fuel →
      readValue fuel (v.chars depth ++ rest) = (v.reading, rest)
  | v, depth, 0, rest, _, _, hfuel => by
      obtain ⟨c, cs, hchars, -, -⟩ := exists_chars_eq_cons depth v
      rw [hchars] at hfuel
      exact absurd hfuel (Nat.not_succ_le_zero _)
  | .null, depth, fuel + 1, rest, _, _, _ => by
      have hnull : "null".toList = ['n', 'u', 'l', 'l'] := by decide
      have hword : "ull".toList = ['u', 'l', 'l'] := by decide
      rw [Value.chars, hnull]
      change readWord "ull" .null ('u' :: 'l' :: 'l' :: rest) = _
      rw [readWord, hword]
      rfl
  | .number n, depth, fuel + 1, rest, hn, hrest, _ => by
      obtain ⟨c, cs, hdigits⟩ := List.exists_cons_of_ne_nil (repr_toList_ne_nil n)
      have hc : c.isDigit = true := isDigit_of_mem_repr (hdigits ▸ List.mem_cons_self)
      have hread := Number.read_repr hn hrest
      rw [Value.chars, hdigits, List.cons_append, readValue_digit hc, ← List.cons_append, ← hdigits,
        hread]
      rfl
  | .string s, depth, fuel + 1, rest, _, _, _ => by
      have htext : encodeString s ++ rest =
          '"' :: (s.toList.flatMap encodeChar ++ '"' :: rest) := by
        simp [encodeString]
      rw [Value.chars, htext]
      change orBroken _ (stringChars 0 _) = _
      rw [stringChars_encode]
      change (Reading.string (String.ofList s.toList), rest) = _
      rw [String.ofList_toList]
      rfl
  | .array [], depth, 1, rest, _, _, hfuel => by
      exact absurd hfuel (by simp [Value.chars])
  | .array [], depth, fuel + 2, rest, _, _, _ => rfl
  | .object [], depth, 1, rest, _, _, hfuel => by
      exact absurd hfuel (by simp [Value.chars])
  | .object [], depth, fuel + 2, rest, _, _, _ => rfl
  | .array (item :: items), depth, 1, rest, _, _, hfuel => by
      exact absurd hfuel (by simp [chars_array])
  | .array (item :: items), depth, fuel + 2, rest, hfits, _, hfuel => by
      rw [chars_array] at hfuel ⊢
      simp only [List.length_cons, List.length_append, length_indent] at hfuel
      have hitem := readValue_chars item (depth + 1) fuel hfits.1
        (endsNumber_itemTail depth items rest) (by rw [List.length_append]; omega)
      have hitems := readItems_chars items depth fuel rest hfits.2 (by omega)
      change (let (items, rest) := readItems (fuel + 1) true _; (Reading.array items, rest)) = _
      rw [readItems_first, restItems_of hitem hitems]
      rfl
  | .object ((key, value) :: members), depth, 1, rest, _, _, hfuel => by
      exact absurd hfuel (by simp [chars_object])
  | .object ((key, value) :: members), depth, 2, rest, _, _, hfuel => by
      exact absurd hfuel (by simp [chars_object]; omega)
  | .object ((key, value) :: members), depth, fuel + 3, rest, hfits, _, hfuel => by
      rw [chars_object] at hfuel ⊢
      simp only [List.length_cons, List.length_append, length_indent] at hfuel
      have hvalue := readValue_chars value (depth + 1) fuel hfits.1
        (endsNumber_memberTail depth members rest) (by rw [List.length_append]; omega)
      have hmembers := readMembers_chars members depth fuel rest hfits.2 (by omega)
      change (let (members, rest) := readMembers (fuel + 2) true _
        (Reading.object members, rest)) = _
      rw [readMembers_first, readMember_of key hvalue hmembers]
      rfl

/-- The items behind the first one are read up to the end of the array. -/
theorem readItems_chars : ∀ (items : List Value) (depth fuel : Nat) (rest : List Char),
    AllFit items → (itemTail depth items rest).length ≤ fuel →
      readItems fuel false (itemTail depth items rest) = (itemReadings items, rest)
  | [], depth, 0, rest, _, hfuel => by
      exact absurd hfuel (by simp [itemTail])
  | [], depth, fuel + 1, rest, _, _ => readItems_end fuel depth rest
  | item :: items, depth, 0, rest, _, hfuel => by
      exact absurd hfuel (by simp [itemTail_cons])
  | item :: items, depth, fuel + 1, rest, hfits, hfuel => by
      rw [itemTail_cons] at hfuel ⊢
      simp only [List.length_cons, List.length_append, length_indent] at hfuel
      have hitem := readValue_chars item (depth + 1) fuel hfits.1
        (endsNumber_itemTail depth items rest) (by rw [List.length_append]; omega)
      have hitems := readItems_chars items depth fuel rest hfits.2 (by omega)
      rw [readItems_later, restItems_indent, restItems_of hitem hitems]
      rfl

/-- The members behind the first one are read up to the end of the object. -/
theorem readMembers_chars : ∀ (members : List (String × Value)) (depth fuel : Nat)
    (rest : List Char), AllMembersFit members → (memberTail depth members rest).length ≤ fuel →
      readMembers fuel false (memberTail depth members rest) = (memberReadings members, rest)
  | [], depth, 0, rest, _, hfuel => by
      exact absurd hfuel (by simp [memberTail])
  | [], depth, fuel + 1, rest, _, _ => readMembers_end fuel depth rest
  | (key, value) :: members, depth, 0, rest, _, hfuel => by
      exact absurd hfuel (by simp [memberTail_cons])
  | (key, value) :: members, depth, 1, rest, _, hfuel => by
      exact absurd hfuel (by simp [memberTail_cons, encodeString])
  | (key, value) :: members, depth, fuel + 2, rest, hfits, hfuel => by
      rw [memberTail_cons] at hfuel ⊢
      simp only [List.length_cons, List.length_append, length_indent] at hfuel
      have hvalue := readValue_chars value (depth + 1) fuel hfits.1
        (endsNumber_memberTail depth members rest) (by rw [List.length_append]; omega)
      have hmembers := readMembers_chars members depth fuel rest hfits.2 (by omega)
      rw [readMembers_later, readMember_of key hvalue hmembers]
      rfl

end

end Trees

/-- The text of a value and an end of a line are read as the tree of this value, and nothing is
left. -/
theorem read_text {v : Value} (h : v.Fits) : read (v.text ++ "\n") = (v.reading, true) := by
  have hend : "\n".toList = ['\n'] := by decide
  have htext : (v.text ++ "\n").toList = v.chars 0 ++ ['\n'] := by
    rw [String.toList_append, Value.text, String.toList_ofList, hend]
  have hvalue := readValue_chars v 0 (2 * (v.chars 0 ++ ['\n']).length + 2) h
    (endsNumber_cons (c := '\n') (by decide) []) (by omega)
  rw [read, htext]
  dsimp only
  rw [hvalue]
  rfl

end PathRouter.Json
