/-
  Region routing — documents of JSON are read as they are written.

  * `Value.Integral`: a document whose numbers are all integers;
  * `Value.legible_tokens`: no two words follow each other in it, so that its tokens
    are read off a text of them;
  * `Value.builds_tokens`: the machine makes the value of them, whatever arrays and
    objects are open around it;
  * `Value.parse?_of_spaced`: so a text of these tokens is read as the document.
-/
import RegionRouting.Json.Value
import RegionRouting.Proofs.JsonToken

namespace RegionRouting.Json.Value

/-- All numbers in a document are integers. -/
inductive Integral : Value → Prop
  | null : Integral null
  | bool (value : Bool) : Integral (bool value)
  | int (value : Int) : Integral (int value)
  | str (text : Literal) : Integral (str text)
  | arr {items : List Value} (h : ∀ item ∈ items, Integral item) : Integral (arr items)
  | obj {members : List (Literal × Value)} (h : ∀ member ∈ members, Integral member.2) :
      Integral (obj members)

/-! ## Tokens -/

theorem legible_itemTokens {items : List Value}
    (h : ∀ item ∈ items, Token.Legible item.tokens) : Token.Legible (itemTokens items) := by
  induction items with
  | nil => exact .nil
  | cons item items ih =>
    have first := h item List.mem_cons_self
    have later := ih fun other among => h other (List.mem_cons_of_mem item among)
    cases items with
    | nil => exact first
    | cons next items => exact first.append (.mark rfl later) rfl

theorem legible_memberTokens {members : List (Literal × Value)}
    (h : ∀ member ∈ members, Token.Legible member.2.tokens) :
    Token.Legible (memberTokens members) := by
  induction members with
  | nil => exact .nil
  | cons member members ih =>
    obtain ⟨name, value⟩ := member
    have first : Token.Legible (.str name :: .colon :: value.tokens) :=
      .mark rfl (.mark rfl (h (name, value) List.mem_cons_self))
    have later := ih fun other among => h other (List.mem_cons_of_mem _ among)
    cases members with
    | nil => exact first
    | cons next members => exact first.append (.mark rfl later) rfl

/-- Where a document has a word, a mark follows. -/
theorem legible_tokens {value : Value} (h : value.Integral) : Token.Legible value.tokens := by
  induction h with
  | null | bool | int | str =>
    rw [tokens]
    exact .cons (by simp) (by simp) .nil
  | arr _ ih =>
    rw [tokens]
    exact .mark rfl ((legible_itemTokens ih).append (.mark rfl .nil) rfl)
  | obj _ ih =>
    rw [tokens]
    exact .mark rfl ((legible_memberTokens ih).append (.mark rfl .nil) rfl)

/-! ## The machine -/

/-- Where a value is to come, the machine makes it of its tokens. -/
def Builds (value : Value) : Prop :=
  ∀ frames rest, (value.tokens ++ rest).foldlM State.next (.value frames) =
    rest.foldlM State.next (.after value frames)

/-- In an array that was just opened, the first item is made like any other. -/
theorem foldlM_first (item : Value) (items : List Value) (frames : List Frame)
    (rest : List Token) :
    (itemTokens (item :: items) ++ rest).foldlM State.next (.first frames) =
      (itemTokens (item :: items) ++ rest).foldlM State.next (.value (.arr [] :: frames)) := by
  have begins (rest : List Token) : (item.tokens ++ rest).foldlM State.next (.first frames) =
      (item.tokens ++ rest).foldlM State.next (.value (.arr [] :: frames)) := by
    cases item <;> rw [tokens] <;> rfl
  cases items with
  | nil => exact begins rest
  | cons next items =>
    rw [itemTokens, List.append_assoc]
    · exact begins _
    · simp

/-- So is the first member of an object. -/
theorem foldlM_firstName (member : Literal × Value) (members : List (Literal × Value))
    (frames : List Frame) (rest : List Token) :
    (memberTokens (member :: members) ++ rest).foldlM State.next (.firstName frames) =
      (memberTokens (member :: members) ++ rest).foldlM State.next (.name [] frames) := by
  cases members <;> rfl

theorem foldlM_itemTokens {item : Value} {items : List Value} (read : List Value)
    (h : ∀ value ∈ item :: items, value.Builds) (frames : List Frame) (rest : List Token) :
    (itemTokens (item :: items) ++ .closeArray :: rest).foldlM State.next
        (.value (.arr read :: frames)) =
      rest.foldlM State.next (.after (arr (read.reverse ++ item :: items)) frames) := by
  have first := h item List.mem_cons_self
  induction items generalizing item read with
  | nil =>
    rw [itemTokens, first, ← List.reverse_reverse (read.reverse ++ [item])]
    simp [State.next]
  | cons next items ih =>
    have later := ih (item :: read) (fun value among => h value (List.mem_cons_of_mem item among))
      (h next (List.mem_cons_of_mem item List.mem_cons_self))
    rw [itemTokens, List.append_assoc, first]
    · simpa [State.next] using later
    · simp

/-- The name of a member leads to its value. -/
theorem foldlM_member {name : Literal} {value : Value} (read : List (Literal × Value))
    (h : value.Builds) (frames : List Frame) (rest : List Token) :
    (.str name :: .colon :: value.tokens ++ rest).foldlM State.next (.name read frames) =
      rest.foldlM State.next (.after value (.obj read name :: frames)) :=
  h (.obj read name :: frames) rest

theorem foldlM_memberTokens {member : Literal × Value} {members : List (Literal × Value)}
    (read : List (Literal × Value)) (h : ∀ entry ∈ member :: members, entry.2.Builds)
    (frames : List Frame) (rest : List Token) :
    (memberTokens (member :: members) ++ .closeObject :: rest).foldlM State.next
        (.name read frames) =
      rest.foldlM State.next (.after (obj (read.reverse ++ member :: members)) frames) := by
  have first := h member List.mem_cons_self
  induction members generalizing member read with
  | nil =>
    rw [memberTokens, foldlM_member read first]
    simp [State.next]
  | cons next members ih =>
    have later := ih (member :: read)
      (fun entry among => h entry (List.mem_cons_of_mem member among))
      (h next (List.mem_cons_of_mem member List.mem_cons_self))
    rw [memberTokens, List.append_assoc, foldlM_member read first]
    · simpa [State.next] using later
    · simp

/-- The machine makes a document of its tokens. -/
theorem builds_tokens {value : Value} (h : value.Integral) : value.Builds := by
  induction h with
  | null | bool | int | str =>
    intro frames rest
    rw [tokens]
    rfl
  | @arr items _ ih =>
    intro frames rest
    rw [tokens, List.append_assoc, List.singleton_append, List.cons_append, List.foldlM_cons]
    change (itemTokens items ++ .closeArray :: rest).foldlM State.next (.first frames) = _
    cases items with
    | nil => rfl
    | cons item items =>
      rw [foldlM_first, foldlM_itemTokens [] ih, List.reverse_nil, List.nil_append]
  | @obj members _ ih =>
    intro frames rest
    rw [tokens, List.append_assoc, List.singleton_append, List.cons_append, List.foldlM_cons]
    change (memberTokens members ++ .closeObject :: rest).foldlM State.next (.firstName frames) = _
    cases members with
    | nil => rfl
    | cons member members =>
      rw [foldlM_firstName, foldlM_memberTokens [] ih, List.reverse_nil, List.nil_append]

/-- **Documents.** A text of a document's tokens, with whatever blanks in between, is
    read as the document. -/
theorem parse?_of_spaced {value : Value} {text : String} (h : value.Integral)
    (spaced : Token.Spaced value.tokens text.toList) : parse? text = some value := by
  have built : value.tokens.foldlM State.next (.value []) = some (.after value []) := by
    have whole := builds_tokens h [] []
    rwa [List.append_nil] at whole
  rw [parse?, spaced.scan (legible_tokens h), Option.bind_eq_bind, Option.bind_some, built]
  rfl

/-- The text that is written of a value is read as that value. -/
theorem parse?_text {value : Value} (h : value.Integral) : parse? value.text = some value := by
  refine parse?_of_spaced h ?_
  rw [text, String.toList_ofList]
  exact Token.spaced_flatMap value.tokens

end RegionRouting.Json.Value
