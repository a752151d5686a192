/-
  Region routing — keys that are printed alike.

  A key is printed as the text that it encodes, or else in hexadecimal.  Either form is
  read in one way only.  But a key may encode the very digits that another one is
  printed with; nothing else can be mistaken.

  * `Key.spelling` is the key that encodes the digits of another (`Key.ofText_hex`), and
    no two keys have one spelling (`Key.spelling_inj`);
  * `Key.text_eq_iff`: two keys are printed alike just if they are one key, or one spells
    out the other (`Key.SpellsOut`).
-/
import RegionRouting.Proofs.EncodedText

namespace RegionRouting

/-! ## Hexadecimal digits -/

namespace Digit

/-- The byte of a lower-case hexadecimal digit: those of 0 to 9 begin at 0x30, those of
    a to f at 0x61. -/
def hexCode (n : Nat) : UInt8 :=
  .ofNat (if n < 10 then 0x30 + n else 0x61 + (n - 10))

theorem utf8EncodeChar_digitChar {n : Nat} (digit : n < 16) :
    String.utf8EncodeChar n.digitChar = [hexCode n] := by
  revert n
  decide

theorem hexCode_inj {m n : Nat} (hm : m < 16) (hn : n < 16) (h : hexCode m = hexCode n) :
    m = n := by
  have table : ∀ m < 16, ∀ n < 16, hexCode m = hexCode n → m = n := by decide
  exact table m hm n hn h

end Digit

namespace Key

/-- The bytes of the digits that stand for a key, two for each of its own bytes. -/
def spelling (key : Key) : Key :=
  key.flatMap fun byte => [Digit.hexCode (byte.toNat / 16), Digit.hexCode (byte.toNat % 16)]

/-- The spelling encodes what is printed in hexadecimal. -/
theorem ofText_hex (key : Key) : ofText key.hex = key.spelling := by
  rw [ofText, hex, String.toList_ofList, List.flatMap_assoc, spelling]
  congr 1
  funext byte
  have bound := byte.toNat_lt
  rw [Digit.hexPair, List.flatMap_cons, List.flatMap_cons, List.flatMap_nil,
    Digit.utf8EncodeChar_digitChar (by omega), Digit.utf8EncodeChar_digitChar (by omega)]
  rfl

theorem spelling_inj {a b : Key} : a.spelling = b.spelling ↔ a = b := by
  refine ⟨fun same => ?_, fun same => same ▸ rfl⟩
  induction a generalizing b with
  | nil =>
    cases b with
    | nil => rfl
    | cons => cases same
  | cons x a ih =>
    cases b with
    | nil => cases same
    | cons y b =>
      have hx := x.toNat_lt
      have hy := y.toNat_lt
      simp only [spelling, List.flatMap_cons, List.cons_append, List.nil_append, List.cons.injEq]
        at same
      obtain ⟨high, low, rest⟩ := same
      replace high := Digit.hexCode_inj (by omega) (by omega) high
      replace low := Digit.hexCode_inj (by omega) (by omega) low
      have byte : x = y := UInt8.toNat_inj.1 (by omega)
      rw [byte, ih rest]

/-! ## Keys printed alike -/

/-- The first key is text and the second is none, and the text spells out the bytes of
    the second in hexadecimal. -/
structure SpellsOut (a b : Key) : Prop where
  isText : a.IsText
  other : ¬b.IsText
  spelled : a = b.spelling

variable {a b : Key}

theorem SpellsOut.text_eq (h : a.SpellsOut b) : a.text = b.text := by
  rw [h.spelled, ← ofText_hex, text_ofText, text_of_not_isText h.other]

/-- Two keys are printed alike just if they are one key, or one spells out the other. -/
theorem text_eq_iff : a.text = b.text ↔ a = b ∨ a.SpellsOut b ∨ b.SpellsOut a := by
  constructor
  · intro alike
    by_cases ha : a.IsText <;> by_cases hb : b.IsText
    · obtain ⟨s, rfl⟩ := isText_iff.1 ha
      obtain ⟨t, rfl⟩ := isText_iff.1 hb
      rw [text_ofText, text_ofText] at alike
      exact .inl (alike ▸ rfl)
    · obtain ⟨s, rfl⟩ := isText_iff.1 ha
      rw [text_ofText, text_of_not_isText hb] at alike
      exact .inr (.inl ⟨ha, hb, by rw [alike, ofText_hex]⟩)
    · obtain ⟨t, rfl⟩ := isText_iff.1 hb
      rw [text_of_not_isText ha, text_ofText] at alike
      exact .inr (.inr ⟨hb, ha, by rw [← alike, ofText_hex]⟩)
    · rw [text_of_not_isText ha, text_of_not_isText hb] at alike
      exact .inl (spelling_inj.1 (by rw [← ofText_hex, alike, ofText_hex]))
  · rintro (rfl | spelled | spelled)
    · rfl
    · exact spelled.text_eq
    · exact spelled.text_eq.symm

end Key

end RegionRouting
