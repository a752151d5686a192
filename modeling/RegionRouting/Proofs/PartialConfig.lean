/-
  Region routing — configuration files that give some fields only.

  * `Json.Value.occurrences` counts the members of a name; `member?` finds the one
    member of a name, and refuses a name that occurs twice;
  * `RoutingConfig.Excerpt`: the members of an object give some fields of a
    configuration, each once and in any order, among members of other names;
  * `RoutingConfig.keeping`: what such an object says, where the other fields have
    their defaults;
  * `ConfigFile.partly_loaded`: a file in JSON of such an object is loaded as that.
    A file in which a field occurs twice, or whose retry budget is not complete, is
    refused.
-/
import RegionRouting.ConfigFile
import RegionRouting.Proofs.RoundTrip

namespace RegionRouting

open Json Serial

/-! ## Members of an object -/

namespace Json.Value

variable {name : String} {members : List (Literal × Value)} {value : Value}

/-- How often a name occurs in an object. -/
def occurrences (name : String) (members : List (Literal × Value)) : Nat :=
  members.countP (·.1 == some name)

/-- What is found under a name is the only member with that name. -/
theorem member?_eq_some_iff {found : Option Value} :
    member? members name = some found ↔
      members.filter (·.1 == some name) = found.toList.map (some name, ·) := by
  have named : ∀ member ∈ members.filter (·.1 == some name), member.1 = some name := by simp
  rw [member?]
  generalize members.filter (·.1 == some name) = those at named
  rcases those with _ | ⟨⟨key, value⟩, _ | ⟨_, _⟩⟩
  · cases found <;> simp
  · obtain rfl : key = some name := named _ List.mem_cons_self
    cases found <;> simp
  · cases found <;> simp

theorem occurrences_of_member? {found : Option Value} (h : member? members name = some found) :
    occurrences name members = found.toList.length := by
  rw [occurrences, List.countP_eq_length_filter, member?_eq_some_iff.1 h, List.length_map]

theorem found_of_mem {found : Option Value} (h : member? members name = some found)
    (among : (some name, value) ∈ members) : found = some value := by
  have chosen : (some name, value) ∈ members.filter (·.1 == some name) := by simp [among]
  rw [member?_eq_some_iff.1 h] at chosen
  simpa using chosen

/-- What is found of an object is found under its name. -/
theorem exists_found {names : List String} {found : List (Option Value)}
    (h : names.mapM (member? members) = some found) (among : name ∈ names) :
    ∃ field ∈ found, member? members name = some field := by
  induction names generalizing found with
  | nil => cases among
  | cons first names ih =>
    rw [List.mapM_cons] at h
    obtain ⟨field, here, h⟩ := Option.bind_eq_some_iff.1 h
    obtain ⟨fields, there, ⟨⟩⟩ := Option.bind_eq_some_iff.1 h
    rcases List.mem_cons.1 among with rfl | among
    · exact ⟨field, List.mem_cons_self, here⟩
    · obtain ⟨field', listed, read⟩ := ih there among
      exact ⟨field', List.mem_cons_of_mem field listed, read⟩

end Json.Value

/-! ## Retry budgets -/

/-- A document that gives each field of a retry budget once. -/
def BackoffConfig.Complete : Value → Prop
  | .obj members => ∀ name ∈ ["max_attempts", "base_ms", "max_sleep_ms", "total_budget_ms"],
      Value.occurrences name members = 1
  | .arr items => items.length = 4
  | _ => False

theorem isSome_of_required {α : Type} [Serial α] {field : Option Value} {value : α}
    (h : required field = some value) : field.isSome = true := by
  cases field with
  | none => cases h
  | some => rfl

/-- Only a complete budget is read. -/
theorem BackoffConfig.complete_of_ofJson? {json : Value} {config : BackoffConfig}
    (h : ofJson? json = some config) : Complete json := by
  change (json.fields? _ >>= _) = some config at h
  obtain ⟨found, read, made⟩ := Option.bind_eq_some_iff.1 h
  have given : ∀ field ∈ found, field.isSome = true := by
    split at made
    · obtain ⟨_, attempts, made⟩ := Option.bind_eq_some_iff.1 made
      obtain ⟨_, base, made⟩ := Option.bind_eq_some_iff.1 made
      obtain ⟨_, sleep, made⟩ := Option.bind_eq_some_iff.1 made
      obtain ⟨_, budget, _⟩ := Option.bind_eq_some_iff.1 made
      simp [isSome_of_required attempts, isSome_of_required base, isSome_of_required sleep,
        isSome_of_required budget]
    · cases made
  cases json with
  | obj members =>
    intro name among
    obtain ⟨-, read⟩ := Option.ite_none_right_eq_some.1 read
    obtain ⟨field, listed, once⟩ := Value.exists_found read among
    obtain ⟨value, rfl⟩ := Option.isSome_iff_exists.1 (given field listed)
    exact Value.occurrences_of_member? once
  | arr items => exact (Option.ite_none_right_eq_some.1 read).1
  | null | bool | int | real | str => cases read

/-! ## Fields of a configuration -/

/-- A field of a configuration. -/
inductive ConfigField where
  | interval
  | forwarding
  | selector
  | backoff
  deriving DecidableEq

namespace ConfigField

def name : ConfigField → String
  | interval => "health_check_interval_secs"
  | forwarding => "enable_forwarding"
  | selector => "default_selector"
  | backoff => "backoff"

/-- The document of a field of a configuration. -/
def document (config : RoutingConfig) : ConfigField → Value
  | interval => toJson config.healthCheckIntervalSecs
  | forwarding => toJson config.enableForwarding
  | selector => toJson config.defaultSelector
  | backoff => toJson config.backoff

def all : List ConfigField :=
  [interval, forwarding, selector, backoff]

theorem mem_all (field : ConfigField) : field ∈ all := by
  cases field <;> decide

theorem name_inj {field other : ConfigField} : field.name = other.name ↔ field = other := by
  cases field <;> cases other <;> decide

end ConfigField

namespace RoutingConfig

/-- A configuration is written as the documents of all its fields. -/
theorem toJson_eq_record (config : RoutingConfig) :
    toJson config =
      .record (ConfigField.all.map fun field => (field.name, field.document config)) :=
  rfl

/-- A configuration is read off what is found under the names of its fields. -/
theorem ofJson?_obj (members : List (Literal × Value)) :
    ofJson? (Value.obj members) =
      if members.all (·.1.isSome) then do
        let base : RoutingConfig := {}
        let interval ← Value.member? members ConfigField.interval.name
        let forwarding ← Value.member? members ConfigField.forwarding.name
        let selector ← Value.member? members ConfigField.selector.name
        let backoff ← Value.member? members ConfigField.backoff.name
        return ⟨← defaulted base.healthCheckIntervalSecs interval,
          ← defaulted base.enableForwarding forwarding, ← defaulted base.defaultSelector selector,
          ← defaulted base.backoff backoff⟩
      else (none : Option RoutingConfig) := by
  change (if members.all (·.1.isSome) then _ else none) >>= _ = _
  split
  · simp only [List.mapM_cons, List.mapM_nil, bind_assoc, pure_bind]
    rfl
  · rfl

variable {config : RoutingConfig} {fields : List ConfigField} {members : List (Literal × Value)}

/-- Only an object that has each field once at most, and a complete budget if it has
    any, is read. -/
theorem of_ofJson? (h : ofJson? (Value.obj members) = some config) :
    (∀ field : ConfigField, Value.occurrences field.name members ≤ 1) ∧
    ∀ budget, (some ConfigField.backoff.name, budget) ∈ members →
      BackoffConfig.Complete budget := by
  rw [ofJson?_obj] at h
  obtain ⟨-, h⟩ := Option.ite_none_right_eq_some.1 h
  obtain ⟨interval, hInterval, h⟩ := Option.bind_eq_some_iff.1 h
  obtain ⟨forwarding, hForwarding, h⟩ := Option.bind_eq_some_iff.1 h
  obtain ⟨selector, hSelector, h⟩ := Option.bind_eq_some_iff.1 h
  obtain ⟨backoff, hBackoff, h⟩ := Option.bind_eq_some_iff.1 h
  constructor
  · intro field
    have found : ∃ found, Value.member? members field.name = some found := by
      cases field with
      | interval => exact ⟨interval, hInterval⟩
      | forwarding => exact ⟨forwarding, hForwarding⟩
      | selector => exact ⟨selector, hSelector⟩
      | backoff => exact ⟨backoff, hBackoff⟩
    obtain ⟨found, read⟩ := found
    rw [Value.occurrences_of_member? read]
    cases found <;> simp
  · intro budget among
    obtain rfl := Value.found_of_mem hBackoff among
    obtain ⟨_, -, h⟩ := Option.bind_eq_some_iff.1 h
    obtain ⟨_, -, h⟩ := Option.bind_eq_some_iff.1 h
    obtain ⟨_, -, h⟩ := Option.bind_eq_some_iff.1 h
    obtain ⟨_, read, -⟩ := Option.bind_eq_some_iff.1 h
    exact BackoffConfig.complete_of_ofJson? read

/-! ## Some of the fields -/

/-- The members of an object that gives some fields of a configuration, each once and
    in any order, among members of other names. -/
inductive Excerpt (config : RoutingConfig) : List ConfigField → List (Literal × Value) → Prop
  | nil : Excerpt config [] []
  | field {fields : List ConfigField} {members : List (Literal × Value)} (field : ConfigField)
      (fresh : field ∉ fields) (h : Excerpt config fields members) :
      Excerpt config (field :: fields) ((some field.name, field.document config) :: members)
  | other {fields : List ConfigField} {members : List (Literal × Value)} {key : String}
      {value : Value} (unknown : ∀ field : ConfigField, key ≠ field.name)
      (integral : value.Integral) (h : Excerpt config fields members) :
      Excerpt config fields ((some key, value) :: members)

/-- A configuration with some fields of another one and the defaults of all others. -/
def keeping (config : RoutingConfig) (kept : List ConfigField) : RoutingConfig :=
  let base : RoutingConfig := {}
  { healthCheckIntervalSecs :=
      if .interval ∈ kept then config.healthCheckIntervalSecs else base.healthCheckIntervalSecs
    enableForwarding :=
      if .forwarding ∈ kept then config.enableForwarding else base.enableForwarding
    defaultSelector := if .selector ∈ kept then config.defaultSelector else base.defaultSelector
    backoff := if .backoff ∈ kept then config.backoff else base.backoff }

theorem integral_document (config : RoutingConfig) (field : ConfigField) :
    (field.document config).Integral := by
  have whole := LawfulSerial.integral config
  rw [toJson_eq_record] at whole
  cases whole with
  | obj h => exact h _ (List.mem_map_of_mem (List.mem_map_of_mem field.mem_all))

theorem Excerpt.integral (h : Excerpt config fields members) : (Value.obj members).Integral := by
  refine .obj ?_
  induction h with
  | nil => simp
  | field field _ _ ih =>
    exact List.forall_mem_cons.2 ⟨integral_document config field, ih⟩
  | other _ integral _ ih => exact List.forall_mem_cons.2 ⟨integral, ih⟩

theorem Excerpt.all_isSome (h : Excerpt config fields members) :
    members.all (·.1.isSome) = true := by
  induction h with
  | nil => rfl
  | field _ _ _ ih | other _ _ _ ih => exact ih

theorem Excerpt.member? (h : Excerpt config fields members) (field : ConfigField) :
    Value.member? members field.name =
      some (if field ∈ fields then some (field.document config) else none) := by
  rw [Value.member?_eq_some_iff]
  induction h with
  | nil => rfl
  | @field fields members first fresh _ ih =>
    by_cases same : first = field
    · subst same
      rw [if_neg fresh] at ih
      rw [List.filter_cons_of_pos (by simp), ih, if_pos List.mem_cons_self]
      rfl
    · have apart : first.name ≠ field.name := mt ConfigField.name_inj.1 same
      rw [List.filter_cons_of_neg (by simpa using apart), ih]
      simp [Ne.symm same]
  | other unknown _ _ ih => rw [List.filter_cons_of_neg (by simpa using unknown field), ih]

/-- A field that is kept is read, and another one has its default. -/
theorem defaulted_ite {α : Type} [Serial α] [LawfulSerial α] (kept : Prop) [Decidable kept]
    (default value : α) : defaulted default (if kept then some (toJson value) else none) =
      some (if kept then value else default) := by
  split
  · exact defaulted_toJson default value
  · rfl

theorem Excerpt.read (h : Excerpt config fields members) :
    ofJson? (Value.obj members) = some (config.keeping fields) := by
  rw [ofJson?_obj, if_pos h.all_isSome]
  simp only [h.member?, Option.bind_eq_bind, Option.bind_some, ConfigField.document, defaulted_ite]
  rfl

end RoutingConfig

/-! ## Files -/

namespace ConfigFile

/-- A file's name with the extension of JSON, in whatever case. -/
def IsJson (name : String) : Prop :=
  ∃ stem ext, name.toList = stem ++ '.' :: ext ∧ stem ≠ [] ∧ ext.map Char.toLower = "json".toList

theorem extension_append {stem ext : List Char} (named : stem ≠ []) (last : '.' ∉ ext) :
    extension (stem ++ '.' :: ext) = ext := by
  have after : ((stem ++ '.' :: ext).reverse.takeWhile (· != '.')).reverse = ext := by
    have undotted : ∀ c ∈ ext.reverse, (c != '.') = true := by
      intro c among
      simp only [bne_iff_ne]
      rintro rfl
      exact last (List.mem_reverse.1 among)
    have turned : (stem ++ '.' :: ext).reverse = ext.reverse ++ '.' :: stem.reverse := by simp
    rw [turned, List.takeWhile_append_of_pos undotted]
    simp
  have shorter : ext.length + 1 < (stem ++ '.' :: ext).length := by
    have positive := List.length_pos_iff.2 named
    simp only [List.length_append, List.length_cons]
    omega
  rw [extension, after, if_pos shorter]

/-- A file in JSON is loaded as what its text says. -/
theorem load_json {name : String} (json : IsJson name) (text : String) :
    load name (some text.toUTF8) =
      match Serial.parse? RoutingConfig text with
      | some config => .ok config
      | none => .error .json := by
  obtain ⟨stem, ext, whole, named, lower⟩ := json
  have last : '.' ∉ ext := by
    intro dot
    have lowered : '.'.toLower ∈ "json".toList := lower ▸ List.mem_map_of_mem dot
    revert lowered
    decide
  have decoded : String.fromUTF8? text.toUTF8 = some text := by
    have valid : text.toUTF8.IsValidUTF8 := text.isValidUTF8
    rw [String.fromUTF8?, dif_pos valid]
    rfl
  rw [load, Option.bind_some, decoded, whole, extension_append named last]
  unfold parse
  rw [lower]
  rfl

/-- **Partial configurations.** A file in JSON whose object gives some fields of a
    configuration is loaded as these and the defaults of the others, whatever other
    members it has.  It is refused if a field occurs twice, or if it gives a retry
    budget that is not complete. -/
theorem partly_loaded {name text : String} {members : List (Literal × Value)}
    (json : IsJson name) (integral : (Value.obj members).Integral)
    (written : Token.Spaced (Value.obj members).tokens text.toList) :
    (∀ config fields, RoutingConfig.Excerpt config fields members →
      load name (some text.toUTF8) = .ok (config.keeping fields)) ∧
    (∀ budget, (some ConfigField.backoff.name, budget) ∈ members →
      ¬BackoffConfig.Complete budget → load name (some text.toUTF8) = .error .json) ∧
    (∀ field : ConfigField, 1 < Value.occurrences field.name members →
      load name (some text.toUTF8) = .error .json) := by
  have parsed : Serial.parse? RoutingConfig text = ofJson? (Value.obj members) := by
    rw [Serial.parse?, Value.parse?_of_spaced integral written]
    rfl
  rw [load_json json, parsed]
  refine ⟨fun config fields excerpt => ?_, fun budget among incomplete => ?_, fun field twice => ?_⟩
  · rw [excerpt.read]
  · cases read : (ofJson? (Value.obj members) : Option RoutingConfig) with
    | none => rfl
    | some config => exact absurd ((RoutingConfig.of_ofJson? read).2 budget among) incomplete
  · cases read : (ofJson? (Value.obj members) : Option RoutingConfig) with
    | none => rfl
    | some config =>
      have once := (RoutingConfig.of_ofJson? read).1 field
      omega

/-- A field among blanks and comments is read; a budget of one field is refused, and so
    is a field that is given twice. -/
theorem partly_loaded_among_blanks :
    load "router.JSON" (some "\x7b\"comment\": null,\n \"enable_forwarding\": true\x7d\n".toUTF8) =
        .ok { enableForwarding := true } ∧
      load "a.json" (some "\x7b\"backoff\":\x7b\"base_ms\":5\x7d\x7d".toUTF8) = .error .json ∧
      load "a.json" (some "\x7b\"backoff\":1,\"backoff\":2\x7d".toUTF8) = .error .json := by
  have shouted : IsJson "router.JSON" :=
    ⟨"router".toList, "JSON".toList, by decide, by decide, by decide⟩
  have json : IsJson "a.json" := ⟨['a'], "json".toList, by decide, by decide, by decide⟩
  refine ⟨?_, ?_, ?_⟩
  · have excerpt : RoutingConfig.Excerpt { enableForwarding := true } [.forwarding]
        [(some "comment", .null), (some "enable_forwarding", .bool true)] :=
      .other (by rintro ⟨⟩ <;> decide) .null (.field .forwarding (by simp) .nil)
    refine (partly_loaded shouted excerpt.integral ?_).1 _ _ excerpt
    exact .token .openObject <| .token (.str _) <| .token .colon <| .blank (c := ' ') rfl <|
      .token .null <| .token .comma <| .blank (c := '\n') rfl <| .blank (c := ' ') rfl <|
      .token (.str _) <| .token .colon <| .blank (c := ' ') rfl <| .token (.bool true) <|
      .token .closeObject <| .blank (c := '\n') rfl .nil
  · have integral : (Value.obj [(some "backoff", .obj [(some "base_ms", .int 5)])]).Integral :=
      .obj (by simpa using .obj (by simpa using .int 5))
    refine (partly_loaded json integral (Token.spaced_flatMap _)).2.1 _ List.mem_cons_self ?_
    intro complete
    have once := complete "max_attempts" (by decide)
    revert once
    decide
  · have integral : (Value.obj [(some "backoff", .int 1), (some "backoff", .int 2)]).Integral :=
      .obj (by simpa using ⟨.int 1, .int 2⟩)
    exact (partly_loaded json integral (Token.spaced_flatMap _)).2.2 .backoff (by decide)

end ConfigFile

end RegionRouting
