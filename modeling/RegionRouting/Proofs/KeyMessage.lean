/-
  Region routing — messages that name a key.

  A route whose region is missing or invalid fails with an error that names the key, as
  it is printed.  The message puts the key between words of its own, and it stands there
  as it is.  So a key that goes on with these very words may be taken for a shorter one,
  if the rest of the message plays along.

  * `Lookup.error_route_of_fault`: a route fails with such an error, if the lookup of
    its region meets a fault (`RegionFault`);
  * `RouteError.eq_of_sequel`: these words are found in one place only, unless a key
    quotes them (`Key.Quotes`);
  * `RegionFault.eq_of_message` and `RegionFault.eq_or_quotes_of_message`: so messages
    over one fault tell how the key is printed, and so do any others, unless a key
    quotes and the regions differ;
  * `Key.printed_alike` says when two keys can be mistaken for each other, and
    `Key.quoting_printed_alike` shows a key that quotes.
-/
import Mathlib.Data.List.Infix
import RegionRouting.Proofs.PrintedKey
import RegionRouting.Proofs.StoreSearch
import RegionRouting.Simulation.Script

namespace RegionRouting

/-! ## What a message says behind a key -/

/-- No text that begins with the name of a kind can be read as one that begins with
    another. -/
theorem StoreKind.text_append_inj {s t : List Char} {kind kind' : StoreKind} :
    kind.text.toList ++ s = kind'.text.toList ++ t ↔ kind = kind' ∧ s = t := by
  cases kind <;> cases kind' <;> simp [text]

/-- No text that ends in the name of a kind can be read as one that ends in another. -/
theorem StoreKind.append_text_inj {s t : List Char} {kind kind' : StoreKind} :
    s ++ kind.text.toList = t ++ kind'.text.toList ↔ s = t ∧ kind = kind' := by
  have last {s t : List Char} : s ++ "primary".toList ≠ t ++ "columnar".toList := by
    intro same
    have ends := congrArg List.getLast? same
    simp at ends
  cases kind <;> cases kind'
  · simp [text]
  · simpa [text] using last
  · simpa [text] using last.symm
  · simp [text]

namespace RouteError

/-- What a message says next to the key: the kind of request. -/
def sequel (kind : StoreKind) : List Char :=
  " (store kind ".toList ++ (kind.text.toList ++ ")".toList)

variable {s t u v : List Char} {kind kind' : StoreKind}

theorem append_sequel_inj : s ++ sequel kind = t ++ sequel kind' ↔ s = t ∧ kind = kind' := by
  unfold sequel
  generalize " (store kind ".toList = words, ")".toList = close
  rw [← List.append_assoc, ← List.append_assoc, ← List.append_assoc, ← List.append_assoc,
    List.append_cancel_right_eq, StoreKind.append_text_inj, List.append_cancel_right_eq]

theorem sequel_append_inj : sequel kind ++ u = sequel kind' ++ v ↔ kind = kind' ∧ u = v := by
  unfold sequel
  generalize " (store kind ".toList = words, ")".toList = close
  rw [List.append_assoc, List.append_assoc, List.append_assoc, List.append_assoc,
    List.append_cancel_left_eq, StoreKind.text_append_inj, List.append_cancel_left_eq]

/-- No proper ending of the words next to a key is the beginning of such words. -/
theorem sequel_unbordered (kind kind' : StoreKind) :
    ∀ ending ∈ (sequel kind).tails, ending ≠ [] →
      ending <+: sequel kind' ∨ sequel kind' <+: ending → ending = sequel kind := by
  cases kind <;> cases kind' <;> decide

/-- What begins with the words next to a key and holds such words again, holds them behind
    the end of the first. -/
theorem sequel_within (same : sequel kind ++ u = s ++ (sequel kind' ++ v)) :
    s = [] ∨ sequel kind <+: s := by
  rcases List.append_eq_append_iff.1 same with ⟨more, rfl, -⟩ | ⟨ending, whole, rest⟩
  · exact .inr (List.prefix_append (sequel kind) more)
  by_cases none : ending = []
  · subst none
    rw [List.append_nil] at whole
    exact .inr (whole ▸ List.prefix_rfl)
  · have border : ending <+: sequel kind' ∨ sequel kind' <+: ending :=
      List.prefix_or_prefix_of_prefix (List.prefix_append ending u)
        (rest ▸ List.prefix_append (sequel kind') v)
    have last : ending ∈ (sequel kind).tails := (List.mem_tails ..).2 ⟨s, whole.symm⟩
    have all : ending = sequel kind := sequel_unbordered kind kind' ending last none border
    rw [all, List.self_eq_append_left] at whole
    exact .inl whole

/-- What stands in front of them is the same, and so is all that follows, unless one goes on
    with them behind the other. -/
theorem eq_of_sequel (same : s ++ (sequel kind ++ u) = t ++ (sequel kind' ++ v)) :
    s = t ∧ kind = kind' ∧ u = v ∨ s ++ sequel kind <+: t ∨ t ++ sequel kind' <+: s := by
  rcases List.append_eq_append_iff.1 same with ⟨more, rfl, rest⟩ | ⟨more, rfl, rest⟩
  · rcases sequel_within rest with rfl | again
    · exact .inl ⟨(List.append_nil s).symm, sequel_append_inj.1 rest⟩
    · exact .inr (.inl ((List.prefix_append_right_inj s).2 again))
  · rcases sequel_within rest with rfl | again
    · exact .inl ⟨List.append_nil t, sequel_append_inj.1 rest.symm⟩
    · exact .inr (.inr ((List.prefix_append_right_inj t).2 again))

end RouteError

/-- The first key is printed like the second one and goes on with what a message about that
    one says next. -/
def Key.Quotes (a b : Key) (kind : StoreKind) : Prop :=
  b.text.toList ++ RouteError.sequel kind <+: a.text.toList

/-! ## Messages that name a key -/

/-- What may be wrong with the region of a key: none owns the key, or the one that is
    reported, written as errors show it, is not valid. -/
inductive RegionFault where
  | missing
  | invalid (region : String)

namespace RegionFault

/-- The error of a lookup that meets the fault. -/
def error : RegionFault → RouteError
  | missing => .authority .regionNotFound
  | invalid region => .invalidRegion region

/-- The error of a route that meets it, which names the key and the kind of request. -/
def errorFor (key : Key) (kind : StoreKind) : RegionFault → RouteError
  | missing => .regionNotFound key.text kind
  | invalid region => .invalidRegionForKey key.text kind region

/-- What the message of the error says before the key. -/
def opening : RegionFault → List Char
  | missing => "region not exist for key: ".toList
  | invalid _ => "invalid region for key: ".toList

/-- What the message of the error says behind the kind of request. -/
def account : RegionFault → List Char
  | missing => []
  | invalid region => ": ".toList ++ region.toList

variable {a b : Key} {kind kind' : StoreKind} {fault fault' : RegionFault}

theorem toList_message_errorFor (fault : RegionFault) (key : Key) (kind : StoreKind) :
    (fault.errorFor key kind).message.toList = fault.opening ++
      (key.text.toList ++ (RouteError.sequel kind ++ fault.account)) := by
  cases fault with
  | missing =>
    change ("region not exist for key: " ++ key.text ++ " (store kind " ++ kind.text ++
      ")").toList = "region not exist for key: ".toList ++
        (key.text.toList ++ (RouteError.sequel kind ++ []))
    rw [List.append_nil (RouteError.sequel kind)]
    simp only [String.toList_append, List.append_assoc]
    rfl
  | invalid region =>
    have close : "): ".toList = ")".toList ++ ": ".toList := rfl
    change ("invalid region for key: " ++ key.text ++ " (store kind " ++ kind.text ++
      "): " ++ region).toList = "invalid region for key: ".toList ++
        (key.text.toList ++ ((" (store kind ".toList ++ (kind.text.toList ++ ")".toList)) ++
          (": ".toList ++ region.toList)))
    simp only [String.toList_append, List.append_assoc, close]

theorem opening_ne {s t : List Char} :
    "region not exist for key: ".toList ++ s ≠ "invalid region for key: ".toList ++ t := by
  intro same
  have first := congrArg (List.take 1) same
  rw [List.take_append_of_le_length (by decide), List.take_append_of_le_length (by decide)]
    at first
  revert first
  decide

/-- The error of a route tells the fault, the kind, and how the key is printed. -/
theorem errorFor_eq_iff : fault.errorFor a kind = fault'.errorFor b kind' ↔
    a.text = b.text ∧ kind = kind' ∧ fault = fault' := by
  cases fault <;> cases fault' <;> simp [errorFor]

/-- The message of such an error tells the kind and how the key is printed, where the fault
    is known. -/
theorem eq_of_message (same : (fault.errorFor a kind).message = (fault.errorFor b kind').message) :
    a.text = b.text ∧ kind = kind' := by
  have chars := congrArg String.toList same
  rw [toList_message_errorFor, toList_message_errorFor, List.append_cancel_left_eq,
    ← List.append_assoc, ← List.append_assoc, List.append_cancel_right_eq,
    RouteError.append_sequel_inj, String.toList_inj] at chars
  exact chars

/-- A message that stands for two errors, of whatever faults, stands for one and the same,
    unless they report different regions and one of the keys quotes the message of the
    other. -/
theorem eq_or_quotes_of_message
    (same : (fault.errorFor a kind).message = (fault'.errorFor b kind').message) :
    fault.errorFor a kind = fault'.errorFor b kind' ∨
      (a.Quotes b kind' ∨ b.Quotes a kind) ∧
        ∃ region region', region ≠ region' ∧ fault = .invalid region ∧
          fault' = .invalid region' := by
  by_cases one : fault = fault'
  · subst one
    obtain ⟨alike, kinds⟩ := eq_of_message same
    exact .inl (errorFor_eq_iff.2 ⟨alike, kinds, rfl⟩)
  have chars := congrArg String.toList same
  rw [toList_message_errorFor, toList_message_errorFor] at chars
  cases fault with
  | missing =>
    cases fault' with
    | missing => exact absurd rfl one
    | invalid => exact absurd chars opening_ne
  | invalid region =>
    cases fault' with
    | missing => exact absurd chars.symm opening_ne
    | invalid region' =>
      have others : region ≠ region' := fun same => one (congrArg invalid same)
      rcases RouteError.eq_of_sequel (List.append_cancel_left chars) with
        ⟨-, -, accounts⟩ | quoted | quoted
      · exact absurd (String.toList_inj.1 (List.append_cancel_left accounts)) others
      · exact .inr ⟨.inr quoted, region, region', others, rfl, rfl⟩
      · exact .inr ⟨.inl quoted, region, region', others, rfl, rfl⟩

end RegionFault

namespace Lookup

variable {ω : Type} [Authority ω] {fault : RegionFault} {key : Key} {kind : StoreKind}
  {error : RouteError} {budget : Backoffer} {client : Client ω}

/-- Where the lookup of the region meets a fault, a route fails with the error that names
    the key. -/
theorem error_route_of_fault (selector : ReplicaSelector)
    (met : ((regionByKey key).outcome budget client).1.1 = .error fault.error) :
    ((route key kind selector).outcome budget client).1.1 = .error (fault.errorFor key kind) := by
  rcases looked : (regionByKey key).outcome budget client with ⟨⟨result, budget'⟩, client'⟩
  rw [looked] at met
  obtain rfl : result = .error fault.error := met
  have named : (regionToServe key kind).outcome budget client =
      ((.error (fault.errorFor key kind), budget'), client') := by
    rw [regionToServe, outcome_tryCatch, looked]
    cases fault <;> rfl
  rw [route, outcome_bind, named, Outcome.andThen_error]

/-- Some route of a key, for requests of a kind, fails with an error, since the lookup of
    the region has met a fault. -/
def FailsFor (ω : Type) [Authority ω] (fault : RegionFault) (key : Key) (kind : StoreKind)
    (error : RouteError) : Prop :=
  ∃ (selector : ReplicaSelector) (budget : Backoffer) (client : Client ω),
    ((regionByKey key).outcome budget client).1.1 = .error fault.error ∧
      ((route key kind selector).outcome budget client).1.1 = .error error

/-- A lookup that meets a fault is enough.  It is compared without the regions that it
    might have found, which cannot be. -/
theorem failsFor_of_met (kind : StoreKind) (budget : Backoffer) (client : Client ω)
    (met : ((regionByKey key).outcome budget client).1.1.map (fun _ => ()) =
      .error fault.error) : FailsFor ω fault key kind (fault.errorFor key kind) := by
  have failed : ((regionByKey key).outcome budget client).1.1 = .error fault.error := by
    generalize ((regionByKey key).outcome budget client).1.1 = result at met ⊢
    cases result with
    | error => exact congrArg _ (Except.error.inj met)
    | ok => cases met
  exact ⟨.leader, budget, client, failed, error_route_of_fault .leader failed⟩

theorem FailsFor.error_eq (h : FailsFor ω fault key kind error) :
    error = fault.errorFor key kind := by
  obtain ⟨selector, budget, client, met, failed⟩ := h
  rw [error_route_of_fault selector met] at failed
  exact (Except.error.inj failed).symm

end Lookup

namespace Key

/-- **Printed keys.** Two different keys are printed alike just if one of them is text and
    the other is none, and the text spells out the bytes of the other in hexadecimal; so
    two that are text are never printed alike, nor two that are none.  Hence routes of the
    two, whatever the authorities answer, fail with one error that names the key only in
    this one way.  They fail with one message then, and else only where they report two
    regions that are not valid, and one key goes on with what the message about the other
    says next. -/
theorem printed_alike (ω ω' : Type) [Authority ω] [Authority ω'] {a b : Key} (differ : a ≠ b) :
    (a.text = b.text ↔ a.SpellsOut b ∨ b.SpellsOut a) ∧
    ((a.IsText ↔ b.IsText) → a.text ≠ b.text) ∧
    ∀ fault fault' kind kind' error error', Lookup.FailsFor ω fault a kind error →
      Lookup.FailsFor ω' fault' b kind' error' →
        (error = error' ↔ (a.SpellsOut b ∨ b.SpellsOut a) ∧ kind = kind' ∧ fault = fault') ∧
        (error.message = error'.message →
          error = error' ∨ (a.Quotes b kind' ∨ b.Quotes a kind) ∧ ∃ region region',
            region ≠ region' ∧ fault = .invalid region ∧ fault' = .invalid region') := by
  have alike : a.text = b.text ↔ a.SpellsOut b ∨ b.SpellsOut a := by
    rw [text_eq_iff, or_iff_right differ]
  refine ⟨alike, ?_, ?_⟩
  · intro both same
    rcases alike.1 same with spelled | spelled
    · exact spelled.other (both.1 spelled.isText)
    · exact spelled.other (both.2 spelled.isText)
  · intro fault fault' kind kind' error error' fails fails'
    rw [fails.error_eq, fails'.error_eq]
    refine ⟨?_, RegionFault.eq_or_quotes_of_message⟩
    rw [RegionFault.errorFor_eq_iff, alike]

/-- A byte that is no text, and the text of its two digits: where no region owns them,
    routes of the two fail with one error. -/
theorem twoDigits_printed_alike :
    let byte : Key := [0xFF]
    let digits : Key := [0x66, 0x66]
    let error (key : Key) := RegionFault.missing.errorFor key .primary
    byte ≠ digits ∧ digits.SpellsOut byte ∧ byte.text = digits.text ∧
      Lookup.FailsFor Script .missing byte .primary (error byte) ∧
      Lookup.FailsFor Script .missing digits .primary (error digits) ∧
      error byte = error digits := by
  intro byte digits error
  have differ : byte ≠ digits := by decide
  have isText : digits.IsText := .cons (.one (by decide)) (.cons (.one (by decide)) .nil)
  have other : ¬byte.IsText := by
    rw [isText_iff_isValidUTF8]
    decide +kernel
  have spelled : digits.SpellsOut byte := ⟨isText, other, rfl⟩
  have fails : Lookup.FailsFor Script .missing byte .primary (error byte) :=
    Lookup.failsFor_of_met .primary {} { world := {} } (by decide +kernel)
  have fails' : Lookup.FailsFor Script .missing digits .primary (error digits) :=
    Lookup.failsFor_of_met .primary {} { world := {} } (by decide +kernel)
  obtain ⟨alike, -, told⟩ := printed_alike Script Script differ
  exact ⟨differ, spelled, alike.2 (.inr spelled), fails, fails',
    (told _ _ _ _ _ _ fails fails').1.2 ⟨.inr spelled, rfl, rfl⟩⟩

/-- A region without voters, from a key on. -/
def voterless (start : Key) : Script where
  regions := [({ id := ⟨2⟩, range := ⟨start, []⟩, epoch := {}, peers := [] },
    ⟨⟨1⟩, ⟨1⟩, .voter⟩)]

/-- The key "k", and one that goes on with what a message says next.  Both are text, and
    are owned by regions without voters, which start at different keys; but the routes
    fail with one message. -/
theorem quoting_printed_alike :
    let words := " (store kind primary): region \x7bid: 2, range: [a"
    let short := ofText "k"
    let long := ofText ("k" ++ words)
    let fault (start : Key) := RegionFault.invalid
      ("region \x7bid: 2, range: [" ++ start.text ++
        ", ), epoch: conf_ver:0 ver:0, leader: peer 1 on store 1\x7d")
    let error := (fault (ofText ("a" ++ words))).errorFor short .primary
    let error' := (fault (ofText "a")).errorFor long .primary
    short ≠ long ∧ short.IsText ∧ long.IsText ∧
      Lookup.FailsFor Script (fault (ofText ("a" ++ words))) short .primary error ∧
      Lookup.FailsFor Script (fault (ofText "a")) long .primary error' ∧
      error.message = error'.message := by
  intro words short long fault error error'
  refine ⟨by decide +kernel, isText_ofText _, isText_ofText _, ?_, ?_, by decide +kernel⟩
  · exact Lookup.failsFor_of_met .primary {} { world := voterless (ofText ("a" ++ words)) }
      (by decide +kernel)
  · exact Lookup.failsFor_of_met .primary {} { world := voterless (ofText "a") }
      (by decide +kernel)

end Key
end RegionRouting
