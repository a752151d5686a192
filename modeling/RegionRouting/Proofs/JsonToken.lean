/-
  Region routing — tokens of JSON are read as they are written.

  * `Token.readUnits_escape`: whatever way a character is escaped, it is read back;
    so is a string literal (`scan_quote`);
  * `Token.ofWord?_int`: an integer is read as the number that it writes;
  * `Token.scan_text`: a token is read off the front of a text, unless it is a word
    and runs into another one;
  * `Token.Spaced.scan`: so tokens are read as they are written, with whatever blanks
    in between.
-/
import RegionRouting.Json.Token

namespace RegionRouting

/-! ## Decimal digits -/

namespace Digit

theorem value?_of_isDigit {c : Char} (digit : c.isDigit = true) :
    value? c = some (c.toNat - '0'.toNat) := by
  have bounds : '0' ≤ c ∧ c ≤ '9' := by
    simpa [Char.isDigit, Char.le_def] using digit
  rw [value?, if_pos bounds]

theorem all_isDigit_toDigits (n : Nat) : (Nat.toDigits 10 n).all Char.isDigit = true :=
  List.all_eq_true.2 fun _ among => Nat.isDigit_of_mem_toDigits (by decide) (by decide) among

/-- The decimal digits of a number write it. -/
theorem number_toDigits (n : Nat) : number 10 (Nat.toDigits 10 n) = n := by
  have same (digits : List Char) (start : Nat) (all : ∀ c ∈ digits, c.isDigit = true) :
      digits.foldl (fun number digit => 10 * number + (value? digit).getD 0) start =
        Nat.ofDigitChars 10 digits start := by
    induction digits generalizing start with
    | nil => rfl
    | cons c digits ih =>
      rw [List.foldl_cons, value?_of_isDigit (all c List.mem_cons_self), Option.getD_some]
      exact ih _ fun d among => all d (List.mem_cons_of_mem c among)
  rw [number, same _ 0 (List.all_eq_true.1 (all_isDigit_toDigits n)),
    Nat.ofDigitChars_ten_toDigits]

/-- The digits of a positive number do not begin with a zero. -/
theorem head?_toDigits {n : Nat} (positive : 0 < n) : (Nat.toDigits 10 n).head? ≠ some '0' := by
  induction n using Nat.strongRecOn with
  | _ n ih =>
    by_cases small : n < 10
    · have one : ∀ digit < 10, 0 < digit → [Nat.digitChar digit].head? ≠ some '0' := by decide
      rw [Nat.toDigits_of_lt_base small]
      exact one n small positive
    · have first := ih (n / 10) (by omega) (by omega)
      rw [Nat.toDigits_of_base_le (by decide) (Nat.not_lt.1 small)]
      cases higher : Nat.toDigits 10 (n / 10) with
      | nil => exact absurd higher Nat.toDigits_ne_nil
      | cons c digits => rwa [higher] at first

end Digit

namespace Json.Token

/-! ## String literals -/

/-- Puts a code point in front of what is read of a literal. -/
def withUnit (c : Char) (read : List Nat × List Char) : List Nat × List Char :=
  (c.toNat :: read.1, read.2)

theorem readUnits_letter {e c : Char} (named : unescape? e = some c) (rest : List Char) :
    readUnits ('\\' :: e :: rest) = (readUnits rest).map (withUnit c) := by
  rw [readUnits]
  · rw [named]
    cases readUnits rest <;> rfl
  · rintro _ _ _ _ _ rfl
    cases named

theorem readUnits_control {c : Char} (control : c.toNat < 0x20) (rest : List Char) :
    readUnits ('\\' :: 'u' :: '0' :: '0' :: Digit.hexPair c.toNat ++ rest) =
      (readUnits rest).map (withUnit c) := by
  have code : ∀ n < 0x20, Digit.hexNumber? ('0' :: '0' :: Digit.hexPair n) = some n := by decide
  have unit := code c.toNat control
  rw [Digit.hexPair] at unit ⊢
  simp only [List.cons_append, List.nil_append]
  rw [readUnits, unit]
  cases readUnits rest <;> rfl

theorem readUnits_plain {c : Char} (quote : c ≠ '"') (slash : c ≠ '\\') (plain : ¬c.toNat < 0x20)
    (rest : List Char) : readUnits (c :: rest) = (readUnits rest).map (withUnit c) := by
  rw [readUnits, if_neg plain]
  · cases readUnits rest <;> rfl
  · exact quote
  · rintro _ _ _ _ _ rfl
    exact absurd rfl slash
  · rintro _ _ rfl
    exact absurd rfl slash

/-- A character is read as it was escaped. -/
theorem readUnits_escape (c : Char) (rest : List Char) :
    readUnits (escape c ++ rest) = (readUnits rest).map (withUnit c) := by
  unfold escape
  split
  case h_8 c quote slash _ _ _ _ _ =>
    split
    · next control => exact readUnits_control control rest
    · next plain => exact readUnits_plain quote slash plain rest
  all_goals exact readUnits_letter rfl rest

theorem readUnits_escapes (text rest : List Char) :
    readUnits (text.flatMap escape ++ '"' :: rest) = some (text.map Char.toNat, rest) := by
  induction text with
  | nil => rw [List.flatMap_nil, List.nil_append, readUnits, List.map_nil]
  | cons c text ih =>
    rw [List.flatMap_cons, List.append_assoc, readUnits_escape, ih]
    rfl

/-- The code points of characters are no halves of pairs. -/
theorem joinPairs_toNat (text : List Char) : joinPairs (text.map Char.toNat) = some text := by
  have whole (c : Char) : isHighSurrogate c.toNat = false ∧ isLowSurrogate c.toNat = false := by
    have valid : c.toNat < 0xD800 ∨ 0xDFFF < c.toNat ∧ c.toNat < 0x110000 := c.valid
    simp only [isHighSurrogate, isLowSurrogate, Bool.and_eq_false_iff, decide_eq_false_iff_not]
    omega
  induction text with
  | nil => rw [List.map_nil, joinPairs]
  | cons c text ih =>
    obtain ⟨high, low⟩ := whole c
    cases text with
    | nil => simp [joinPairs, high, low]
    | cons d text =>
      rw [List.map_cons, List.map_cons, joinPairs, if_neg (by simp [low]), if_neg (by simp [high]),
        ← List.map_cons, ih]
      simp

/-- What is read of a literal, past its opening quote: one that stands for half a
    pair is read as such. -/
theorem readUnits_quote (text : Literal) : ∃ units, (∀ rest, readUnits
    ((quote text).tail ++ rest) = some (units, rest)) ∧
      (joinPairs units).map String.ofList = text := by
  cases text with
  | some text =>
    refine ⟨text.toList.map Char.toNat, fun rest => ?_, ?_⟩
    · have body : (quote (some text)).tail = text.toList.flatMap escape ++ ['"'] := rfl
      rw [body, List.append_assoc, List.singleton_append, readUnits_escapes]
    · rw [joinPairs_toNat, Option.map_some, String.ofList_toList]
  | none =>
    have half : quote none = ['"', '\\', 'u', 'd', '8', '0', '0', '"'] := by decide
    have unit : Digit.hexNumber? ['d', '8', '0', '0'] = some 0xD800 := by decide
    refine ⟨[0xD800], fun rest => ?_, by simp [joinPairs, isHighSurrogate]⟩
    simp only [half, List.tail_cons, List.cons_append, List.nil_append]
    rw [readUnits, unit]
    rfl

/-! ## Words -/

/-- A word that follows would be read as part of the word before. -/
def Stops (rest : List Char) : Prop :=
  ∀ c ∈ rest.head?, isWordChar c = false

/-- A text is cut after the characters that have a property. -/
theorem span_append {p : Char → Bool} {word rest : List Char} (all : ∀ c ∈ word, p c = true)
    (stops : ∀ c ∈ rest.head?, p c = false) :
    (word ++ rest).takeWhile p = word ∧ (word ++ rest).dropWhile p = rest := by
  rw [List.takeWhile_append_of_pos all, List.dropWhile_append_of_pos all]
  cases rest with
  | nil => simp
  | cons c rest =>
    have stop : p c = false := stops c rfl
    simp [stop]

theorem isWordChar_of_isDigit {c : Char} (digit : c.isDigit = true) : isWordChar c = true := by
  simp [isWordChar, Char.isAlphanum, digit]

/-- Neither blanks nor quotes are part of a word. -/
theorem ne_of_isWordChar {c : Char} (word : isWordChar c = true) :
    isBlank c = false ∧ c ≠ '"' := by
  constructor
  · refine Bool.eq_false_iff.2 fun blank => ?_
    simp only [isBlank, Bool.or_eq_true, decide_eq_true_eq] at blank
    rcases blank with ((rfl | rfl) | rfl) | rfl <;> cases word
  · rintro rfl
    cases word

theorem scan_word {word rest : List Char} {token : Token} (all : word.all isWordChar = true)
    (read : ofWord? word = some token) (stops : Stops rest) :
    scan (word ++ rest) = (scan rest).map (token :: ·) := by
  rw [List.all_eq_true] at all
  cases word with
  | nil =>
    have empty : ofWord? [] = none := by decide
    cases empty.symm.trans read
  | cons c word =>
    have first : isWordChar c = true := all c List.mem_cons_self
    obtain ⟨blank, quote⟩ := ne_of_isWordChar first
    obtain ⟨taken, dropped⟩ := span_append (fun d among => all d (List.mem_cons_of_mem c among))
      stops
    rw [List.cons_append, scan, if_neg (by simp [blank]), if_neg quote, if_pos first, taken,
      dropped, read]
    rfl

/-! ## Numbers -/

/-- Decimal digits without a zero in front are a numeral. -/
theorem isNumeral_toDigits (n : Nat) : isNumeral (Nat.toDigits 10 n) = true := by
  have all := List.all_eq_true.1 (Digit.all_isDigit_toDigits n)
  rcases Nat.eq_zero_or_pos n with rfl | positive
  · decide
  · have first := Digit.head?_toDigits positive
    cases digits : Nat.toDigits 10 n with
    | nil => exact absurd digits Nat.toDigits_ne_nil
    | cons c rest =>
      rw [digits] at all first
      have ends : ∀ d ∈ ([] : List Char).head?, d.isDigit = false := by simp
      have whole := (span_append (fun d among => all d (List.mem_cons_of_mem c among)) ends).2
      rw [List.append_nil] at whole
      rw [isNumeral, whole, all c List.mem_cons_self]
      · rfl
      · rintro rfl
        exact first rfl

theorem ofNumeral?_nat (n : Nat) : ofNumeral? (Nat.toDigits 10 n) = some (int n) := by
  have digits := Digit.all_isDigit_toDigits n
  rw [ofNumeral?, isNumeral_toDigits, digits, Digit.number_toDigits]
  · rfl
  · intro rest signed
    rw [signed] at digits
    simp at digits

theorem ofNumeral?_negSucc (n : Nat) :
    ofNumeral? ('-' :: Nat.toDigits 10 (n + 1)) = some (int (.negSucc n)) := by
  have nonzero : Nat.toDigits 10 (n + 1) ≠ ['0'] := by
    intro zero
    refine Digit.head?_toDigits (Nat.succ_pos n) ?_
    rw [zero]
    rfl
  have other : (Nat.toDigits 10 (n + 1) != ['0']) = true := bne_iff_ne.2 nonzero
  rw [ofNumeral?, isNumeral_toDigits, Digit.all_isDigit_toDigits, Digit.number_toDigits, other]
  rfl

/-- A word that does not begin with a letter is a number or nothing. -/
theorem ofWord?_eq_ofNumeral? {word : List Char} (number : ofNumeral? word ≠ none) :
    ofWord? word = ofNumeral? word := by
  have letters : ofNumeral? "null".toList = none ∧ ofNumeral? "true".toList = none ∧
      ofNumeral? "false".toList = none := by decide
  obtain ⟨null, yes, no⟩ := letters
  rw [ofWord?, if_neg, if_neg, if_neg]
  · rintro rfl
    exact number no
  · rintro rfl
    exact number yes
  · rintro rfl
    exact number null

theorem text_ofNat (n : Nat) : (int (.ofNat n)).text = Nat.toDigits 10 n :=
  Nat.toList_repr

theorem text_negSucc (n : Nat) : (int (.negSucc n)).text = '-' :: Nat.toDigits 10 (n + 1) := by
  change ("-" ++ Nat.repr (n + 1)).toList = _
  rw [String.toList_append, Nat.toList_repr]
  rfl

/-- An integer is read as the number that it writes. -/
theorem ofWord?_int (n : Int) : ofWord? (int n).text = some (int n) := by
  have read : ofNumeral? (int n).text = some (int n) := by
    cases n with
    | ofNat n => rw [text_ofNat, ofNumeral?_nat, Int.ofNat_eq_natCast]
    | negSucc n => rw [text_negSucc, ofNumeral?_negSucc]
  rw [ofWord?_eq_ofNumeral? (by simp [read]), read]

theorem all_isWordChar_int (n : Int) : (int n).text.all isWordChar = true := by
  have digits (n : Nat) : (Nat.toDigits 10 n).all isWordChar = true :=
    List.all_eq_true.2 fun c among =>
      isWordChar_of_isDigit (List.all_eq_true.1 (Digit.all_isDigit_toDigits n) c among)
  cases n with
  | ofNat n => rw [text_ofNat, digits]
  | negSucc n =>
    rw [text_negSucc, List.all_cons, digits]
    decide

/-! ## Texts -/

theorem scan_punctuation {c : Char} {token : Token} (read : ofPunctuation? c = some token)
    (plain : isBlank c = false ∧ c ≠ '"' ∧ isWordChar c = false) (rest : List Char) :
    scan (c :: rest) = (scan rest).map (token :: ·) := by
  obtain ⟨blank, quote, word⟩ := plain
  rw [scan, if_neg (by simp [blank]), if_neg quote, if_neg (by simp [word]), read]
  rfl

theorem scan_quote (text : Literal) (rest : List Char) :
    scan (quote text ++ rest) = (scan rest).map (str text :: ·) := by
  obtain ⟨units, read, joined⟩ := readUnits_quote text
  have opened : quote text = '"' :: (quote text).tail := by
    cases text <;> rfl
  rw [opened, List.cons_append, scan, if_neg (by decide), if_pos rfl]
  split
  · next unread => cases (read rest).symm.trans unread
  · next units' after readAs =>
    cases (read rest).symm.trans readAs
    rw [joined]

/-- Is the token written as a word? -/
def isWord : Token → Bool
  | null | bool _ | int _ | real _ => true
  | _ => false

/-- A token is read off the front of a text, if no word runs on. -/
theorem scan_text {token : Token} (integral : ∀ numeral, token ≠ real numeral) {rest : List Char}
    (stops : token.isWord = true → Stops rest) :
    scan (token.text ++ rest) = (scan rest).map (token :: ·) := by
  cases token with
  | openObject | closeObject | openArray | closeArray | colon | comma =>
    exact scan_punctuation rfl (by decide) rest
  | null => exact scan_word (by decide) (by decide) (stops rfl)
  | bool value =>
    cases value with
    | false => exact scan_word (by decide) (by decide) (stops rfl)
    | true => exact scan_word (by decide) (by decide) (stops rfl)
  | int n => exact scan_word (all_isWordChar_int n) (ofWord?_int n) (stops rfl)
  | real numeral => exact absurd rfl (integral numeral)
  | str text => exact scan_quote text rest

/-- A token that is not written as a word ends the word in front of it. -/
theorem stops_text {token : Token} (apart : token.isWord = false) (rest : List Char) :
    Stops (token.text ++ rest) := by
  have begins : ∃ c more, token.text = c :: more ∧ isWordChar c = false := by
    cases token with
    | openObject | closeObject | openArray | closeArray | colon | comma =>
      exact ⟨_, [], rfl, by decide⟩
    | str text => cases text <;> exact ⟨'"', _, rfl, by decide⟩
    | null | bool | int | real => cases apart
  obtain ⟨c, more, text, plain⟩ := begins
  rw [text]
  rintro _ ⟨⟩
  exact plain

/-- Tokens of which no two words follow each other, and whose numbers are integers. -/
inductive Legible : List Token → Prop
  | nil : Legible []
  | cons {token : Token} {tokens : List Token} (integral : ∀ numeral, token ≠ real numeral)
      (parted : token.isWord = true → ∀ next ∈ tokens.head?, next.isWord = false)
      (h : Legible tokens) : Legible (token :: tokens)

/-- A text that consists of tokens, with blanks around any of them. -/
inductive Spaced : List Token → List Char → Prop
  | nil : Spaced [] []
  | blank {c : Char} {tokens : List Token} {text : List Char} (blank : isBlank c = true)
      (h : Spaced tokens text) : Spaced tokens (c :: text)
  | token {tokens : List Token} {text : List Char} (token : Token) (h : Spaced tokens text) :
      Spaced (token :: tokens) (token.text ++ text)

section
variable {token : Token} {tokens tokens' : List Token} {text : List Char}

/-- A token that is no word may stand in front of any others. -/
theorem Legible.mark (apart : token.isWord = false) (h : Legible tokens) :
    Legible (token :: tokens) := by
  refine .cons ?_ (by simp [apart]) h
  rintro numeral rfl
  cases apart

/-- What does not begin with a word may follow any tokens. -/
theorem Legible.append (h : Legible tokens) (h' : Legible (token :: tokens'))
    (apart : token.isWord = false) : Legible (tokens ++ token :: tokens') := by
  induction h with
  | nil => exact h'
  | @cons first tokens integral parted _ ih =>
    refine .cons integral (fun word next among => ?_) ih
    cases tokens with
    | nil =>
      cases among
      exact apart
    | cons second tokens => exact parted word next among

theorem Spaced.stops (h : Spaced tokens text)
    (apart : ∀ next ∈ tokens.head?, next.isWord = false) : Stops text := by
  cases h with
  | nil => simp [Stops]
  | @blank c _ _ blank =>
    rintro _ ⟨⟩
    refine Bool.eq_false_iff.2 fun word => ?_
    rw [(ne_of_isWordChar word).1] at blank
    cases blank
  | token token _ => exact stops_text (apart token rfl) _

/-- Tokens are read off a text in which they stand with blanks in between. -/
theorem Spaced.scan (h : Spaced tokens text) (legible : Legible tokens) :
    Token.scan text = some tokens := by
  induction h with
  | nil => rw [Token.scan]
  | blank blank _ ih =>
    rw [Token.scan, if_pos blank]
    exact ih legible
  | token token spaced ih =>
    cases legible with
    | cons integral parted legible =>
      rw [scan_text integral fun word => spaced.stops (parted word), ih legible]
      rfl

/-- Blanks are not needed. -/
theorem spaced_flatMap (tokens : List Token) : Spaced tokens (tokens.flatMap Token.text) := by
  induction tokens with
  | nil => exact .nil
  | cons token tokens ih => exact .token token ih

end

end Json.Token
end RegionRouting
