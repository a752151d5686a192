/-
  Region routing — keys that are text.

  A key is text if its bytes are those of characters, one after the other.  What bytes
  a character may have is told here byte by byte: the first one says how many follow,
  and the second one must not belong to a character that has a shorter form, to a
  surrogate, or to none at all.

  * `Utf8.IsCharacter` lists these rows of bytes, and `Utf8.isCharacter_iff` says that
    they are the encodings of the characters, no more and no less;
  * `Key.isText_iff`: so a key is text just if it encodes one, and just then it is
    decoded (`Key.isText_iff_isValidUTF8`);
  * `Key.text_ofText`: such a key is printed as the text that it encodes; any other one
    in hexadecimal (`Key.text_of_not_isText`).
-/
import RegionRouting.Key

namespace RegionRouting

namespace Utf8

/-! ## The bytes of a character -/

/-- Is the byte one that goes on with a character? -/
def Continues (byte : UInt8) : Prop :=
  0x80 ≤ byte ∧ byte ≤ 0xBF

/-- The bytes of one character. -/
inductive IsCharacter : List UInt8 → Prop
  | one {b : UInt8} (first : b ≤ 0x7F) : IsCharacter [b]
  /-- the first bytes below 0xC2 would begin a longer form of the characters above -/
  | two {b c : UInt8} (first : 0xC2 ≤ b ∧ b ≤ 0xDF) (second : Continues c) : IsCharacter [b, c]
  /-- neither a longer form of the characters above, nor a surrogate -/
  | three {b c d : UInt8} (first : 0xE0 ≤ b ∧ b ≤ 0xEF) (second : Continues c)
      (third : Continues d) (shortest : b = 0xE0 → 0xA0 ≤ c) (scalar : b = 0xED → c ≤ 0x9F) :
      IsCharacter [b, c, d]
  /-- neither a longer form of the characters above, nor beyond the last character -/
  | four {b c d e : UInt8} (first : 0xF0 ≤ b ∧ b ≤ 0xF4) (second : Continues c)
      (third : Continues d) (fourth : Continues e) (shortest : b = 0xF0 → 0x90 ≤ c)
      (scalar : b = 0xF4 → c ≤ 0x8F) : IsCharacter [b, c, d, e]

/-- The last six bits of a number make a byte that goes on. -/
theorem continues_ofNat (n : Nat) : Continues (.ofNat (n % 64 + 128)) := by
  constructor <;> simp [UInt8.le_iff_toNat_le] <;> omega

theorem isCharacter_utf8EncodeChar (c : Char) : IsCharacter (String.utf8EncodeChar c) := by
  have valid : c.val.toNat.isValidChar := c.valid
  rw [Nat.isValidChar] at valid
  unfold String.utf8EncodeChar
  generalize c.val.toNat = n at valid
  dsimp only
  split
  · refine .one ?_
    simp only [UInt8.le_iff_toNat_le, UInt8.toNat_ofNat', UInt8.reduceToNat]
    omega
  split
  · refine .two ⟨?_, ?_⟩ (continues_ofNat _) <;>
      simp [UInt8.le_iff_toNat_le] <;> omega
  split
  · refine .three ⟨?_, ?_⟩ (continues_ofNat _) (continues_ofNat _) ?_ ?_ <;>
      simp [UInt8.le_iff_toNat_le, ← UInt8.toNat_inj] <;> omega
  · refine .four ⟨?_, ?_⟩ (continues_ofNat _) (continues_ofNat _) (continues_ofNat _) ?_ ?_ <;>
      simp [UInt8.le_iff_toNat_le, ← UInt8.toNat_inj] <;> omega

theorem exists_char {n : Nat} (valid : n.isValidChar) : ∃ c : Char, c.val.toNat = n :=
  ⟨Char.ofNatAux n valid, rfl⟩

/-- The bits that its bytes leave free make up the number of a character. -/
theorem IsCharacter.exists_utf8EncodeChar {bytes : List UInt8} (h : IsCharacter bytes) :
    ∃ c : Char, String.utf8EncodeChar c = bytes := by
  cases h with
  | @one b first =>
    simp only [UInt8.le_iff_toNat_le, UInt8.reduceToNat] at first
    obtain ⟨char, code⟩ := exists_char (n := b.toNat) (by omega)
    refine ⟨char, ?_⟩
    rw [String.utf8EncodeChar, code, if_pos first, UInt8.ofNat_toNat]
  | @two b c first second =>
    simp only [Continues, UInt8.le_iff_toNat_le, UInt8.reduceToNat] at first second
    obtain ⟨char, code⟩ := exists_char (n := b.toNat % 32 * 64 + c.toNat % 64) (by omega)
    refine ⟨char, ?_⟩
    rw [String.utf8EncodeChar, code, if_neg (by omega), if_pos (by omega)]
    simp only [List.cons.injEq, and_true, UInt8.ofNat_eq_iff_mod_eq_toNat]
    omega
  | @three b c d first second third shortest scalar =>
    simp only [Continues, UInt8.le_iff_toNat_le, ← UInt8.toNat_inj, UInt8.reduceToNat]
      at first second third shortest scalar
    obtain ⟨char, code⟩ :=
      exists_char (n := b.toNat % 16 * 4096 + c.toNat % 64 * 64 + d.toNat % 64) (by omega)
    refine ⟨char, ?_⟩
    rw [String.utf8EncodeChar, code, if_neg (by omega), if_neg (by omega), if_pos (by omega)]
    simp only [List.cons.injEq, and_true, UInt8.ofNat_eq_iff_mod_eq_toNat]
    omega
  | @four b c d e first second third fourth shortest scalar =>
    simp only [Continues, UInt8.le_iff_toNat_le, ← UInt8.toNat_inj, UInt8.reduceToNat]
      at first second third fourth shortest scalar
    obtain ⟨char, code⟩ := exists_char
      (n := b.toNat % 8 * 262144 + c.toNat % 64 * 4096 + d.toNat % 64 * 64 + e.toNat % 64)
      (by omega)
    refine ⟨char, ?_⟩
    rw [String.utf8EncodeChar, code, if_neg (by omega), if_neg (by omega), if_neg (by omega)]
    simp only [List.cons.injEq, and_true, UInt8.ofNat_eq_iff_mod_eq_toNat]
    omega

/-- The forms of a character are the encodings of the characters. -/
theorem isCharacter_iff {bytes : List UInt8} :
    IsCharacter bytes ↔ ∃ c : Char, String.utf8EncodeChar c = bytes :=
  ⟨IsCharacter.exists_utf8EncodeChar, fun ⟨c, encoded⟩ => encoded ▸ isCharacter_utf8EncodeChar c⟩

end Utf8

namespace Key

/-! ## Text -/

/-- The bytes of a key are those of characters. -/
inductive IsText : Key → Prop
  | nil : IsText []
  | cons {bytes : List UInt8} {key : Key} (character : Utf8.IsCharacter bytes)
      (rest : IsText key) : IsText (bytes ++ key)

/-- The key that encodes a text. -/
def ofText (text : String) : Key :=
  text.toList.flatMap String.utf8EncodeChar

theorem isText_ofText (text : String) : (ofText text).IsText := by
  rw [ofText]
  induction text.toList with
  | nil => exact .nil
  | cons c chars ih =>
    rw [List.flatMap_cons]
    exact .cons (Utf8.isCharacter_utf8EncodeChar c) ih

variable {key : Key}

/-- A key is text just if it encodes one. -/
theorem isText_iff : key.IsText ↔ ∃ text, ofText text = key := by
  refine ⟨fun text => ?_, fun ⟨text, encoded⟩ => encoded ▸ isText_ofText text⟩
  induction text with
  | nil => exact ⟨"", rfl⟩
  | cons character _ ih =>
    obtain ⟨c, encoded⟩ := Utf8.isCharacter_iff.1 character
    obtain ⟨text, rest⟩ := ih
    refine ⟨String.ofList (c :: text.toList), ?_⟩
    rw [ofText, String.toList_ofList, List.flatMap_cons, encoded, ← rest, ofText]

theorem toByteArray_inj {a b : Key} : a.toByteArray = b.toByteArray ↔ a = b := by
  refine ⟨fun same => ?_, fun same => same ▸ rfl⟩
  rw [← List.toList_data_toByteArray (l := a), same, List.toList_data_toByteArray]

theorem toByteArray_ofText (text : String) : (ofText text).toByteArray = text.toByteArray :=
  String.utf8Encode_toList

/-- Just the keys that are text are decoded. -/
theorem isText_iff_isValidUTF8 : key.IsText ↔ key.toByteArray.IsValidUTF8 := by
  rw [isText_iff]
  constructor
  · rintro ⟨text, rfl⟩
    rw [toByteArray_ofText]
    exact text.isValidUTF8
  · rintro ⟨chars, encoded⟩
    refine ⟨String.ofList chars, toByteArray_inj.1 ?_⟩
    rw [encoded, toByteArray_ofText, String.toByteArray_ofList]

/-- A key that encodes a text is printed as that text. -/
@[simp] theorem text_ofText (text : String) : (ofText text).text = text := by
  rw [Key.text, String.fromUTF8?, dif_pos (isText_iff_isValidUTF8.1 (isText_ofText text))]
  exact String.toByteArray_inj.1 (toByteArray_ofText text)

/-- A key that encodes no text is printed in hexadecimal. -/
theorem text_of_not_isText (other : ¬key.IsText) : key.text = key.hex := by
  rw [Key.text, String.fromUTF8?, dif_neg (mt isText_iff_isValidUTF8.2 other)]
  rfl

-- A longer form of a character, a surrogate, and a number beyond the last character.
example : [[0xC0, 0x80], [0xED, 0xA0, 0x80], [0xF4, 0x90, 0x80, 0x80]].map Key.text =
    ["c080", "eda080", "f4908080"] := by decide +kernel

end Key
end RegionRouting
