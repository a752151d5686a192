/-
  Region routing — what is written in JSON is read back.

  * `LawfulSerial`: a type whose values are read off their JSON forms, as numbers,
    strings, lists and enumerated values are;
  * `Value.someFields?_record`: so are the fields of a record, whose names differ;
  * `RoundTrips`: the text of a value is a document, and is read as this value alone;
  * `round_trips`: this holds of every type of the library that has a JSON form.
-/
import RegionRouting.Proofs.JsonValue
import RegionRouting.Serialized

namespace RegionRouting.Json

open Serial

/-- A type whose values are read off their JSON forms, in which all numbers are
    integers. -/
class LawfulSerial (α : Type) [Serial α] : Prop where
  integral (value : α) : (toJson value).Integral
  ofJson?_toJson (value : α) : ofJson? (toJson value) = some value

variable {α : Type}

/-! ## Numbers, strings and collections -/

theorem Value.nat?_int {n bound : Nat} (fits : n < bound) : (Value.int n).nat? bound = some n := by
  have inside : (0 : Int) ≤ n ∧ (n : Int) < bound := by omega
  rw [nat?, if_pos inside, Int.toNat_natCast]

instance : LawfulSerial UInt64 where
  integral n := .int n.toNat
  ofJson?_toJson n := by
    have read : (Value.int n.toNat).nat? UInt64.size = some n.toNat := Value.nat?_int n.toNat_lt
    exact (congrArg (Option.map UInt64.ofNat) read).trans (congrArg some UInt64.ofNat_toNat)

instance : LawfulSerial UInt32 where
  integral n := .int n.toNat
  ofJson?_toJson n := by
    have read : (Value.int n.toNat).nat? UInt32.size = some n.toNat := Value.nat?_int n.toNat_lt
    exact (congrArg (Option.map UInt32.ofNat) read).trans (congrArg some UInt32.ofNat_toNat)

instance : LawfulSerial UInt8 where
  integral n := .int n.toNat
  ofJson?_toJson n := by
    have read : (Value.int n.toNat).nat? UInt8.size = some n.toNat := Value.nat?_int n.toNat_lt
    exact (congrArg (Option.map UInt8.ofNat) read).trans (congrArg some UInt8.ofNat_toNat)

instance : LawfulSerial Bool where
  integral := .bool
  ofJson?_toJson _ := rfl

instance : LawfulSerial String where
  integral text := .str (some text)
  ofJson?_toJson _ := rfl

instance [Serial α] [LawfulSerial α] : LawfulSerial (List α) where
  integral items := by
    refine .arr fun json among => ?_
    obtain ⟨item, -, rfl⟩ := List.mem_map.1 among
    exact LawfulSerial.integral item
  ofJson?_toJson items := by
    change (items.map toJson).mapM ofJson? = some items
    induction items with
    | nil => rfl
    | cons item items ih =>
      rw [List.map_cons, List.mapM_cons, LawfulSerial.ofJson?_toJson, ih]
      rfl

/-- What may be missing is told from what is there, if that is never `null`. -/
theorem LawfulSerial.option [Serial α] [LawfulSerial α]
    (present : ∀ value : α, toJson value ≠ .null) : LawfulSerial (Option α) where
  integral
    | none => .null
    | some value => LawfulSerial.integral value
  ofJson?_toJson value := by
    cases value with
    | none => rfl
    | some value =>
      have same : toJson (some value) = toJson value := rfl
      have there := present value
      have read := LawfulSerial.ofJson?_toJson value
      rw [same]
      generalize toJson value = json at there read ⊢
      cases json with
      | null => exact absurd rfl there
      | _ => exact congrArg (Option.map some) read

/-! ## Enumerations -/

/-- An enumeration whose values have each a name of its own. -/
class LawfulNamed (α : Type) [Named α] : Prop where
  ofName?_name (value : α) : Named.ofName? (Named.name value) = some value

instance [Named α] [LawfulNamed α] : LawfulSerial α where
  integral value := .str (some (Named.name value))
  ofJson?_toJson := LawfulNamed.ofName?_name

instance : LawfulNamed PeerRole where
  ofName?_name role := by cases role <;> decide

instance : LawfulNamed StoreState where
  ofName?_name state := by cases state <;> decide

instance : LawfulNamed StoreKind where
  ofName?_name kind := by cases kind <;> decide

instance : LawfulNamed ReplicaSelector where
  ofName?_name selector := by cases selector <;> decide

instance : LawfulNamed Scope where
  ofName?_name scope := by cases scope <;> decide

/-! ## Records -/

theorem Value.integral_record {fields : List (String × Value)}
    (h : ∀ field ∈ fields, field.2.Integral) : (Value.record fields).Integral := by
  refine .obj fun member among => ?_
  obtain ⟨field, listed, rfl⟩ := List.mem_map.1 among
  exact h field listed

section
variable {fields : List (String × Value)} {names : List String}

/-- A name that is not among those of the members finds none. -/
theorem Value.filter_record_of_notMem {name : String} (absent : name ∉ fields.map (·.1)) :
    (fields.map fun (name, value) => ((some name : Literal), value)).filter (·.1 == some name) =
      [] := by
  rw [List.filter_eq_nil_iff]
  rintro _ among same
  obtain ⟨field, listed, rfl⟩ := List.mem_map.1 among
  exact absent (List.mem_map.2 ⟨field, listed, by simpa using same⟩)

/-- A field is found by its name, which no other has. -/
theorem Value.member?_record (distinct : (fields.map (·.1)).Nodup) {field : String × Value}
    (among : field ∈ fields) :
    Value.member? (fields.map fun (name, value) => (some name, value)) field.1 =
      some (some field.2) := by
  suffices found : (fields.map fun (name, value) => ((some name : Literal), value)).filter
      (·.1 == some field.1) = [(some field.1, field.2)] by
    rw [member?, found]
  induction fields with
  | nil => cases among
  | cons other fields ih =>
    rw [List.map_cons, List.nodup_cons] at distinct
    rcases List.mem_cons.1 among with rfl | among
    · rw [List.map_cons, List.filter_cons_of_pos (by simp), filter_record_of_notMem distinct.1]
    · have apart : other.1 ≠ field.1 := fun same =>
        distinct.1 (same ▸ List.mem_map_of_mem among)
      rw [List.map_cons, List.filter_cons_of_neg (by simpa using apart), ih distinct.2 among]

/-- The values of the fields of a record are read by their names. -/
theorem Value.someFields?_record (named : fields.map (·.1) = names) (distinct : names.Nodup) :
    (record fields).someFields? names = some (fields.map (some ·.2)) := by
  subst named
  have listed (part : List (String × Value)) (among : part ⊆ fields) :
      (part.map (·.1)).mapM (member? (fields.map fun (name, value) => (some name, value))) =
        some (part.map (some ·.2)) := by
    induction part with
    | nil => rfl
    | cons field part ih =>
      rw [List.cons_subset] at among
      rw [List.map_cons, List.mapM_cons, member?_record distinct among.1, ih among.2]
      rfl
  have texts : (fields.map fun (name, value) => ((some name : Literal), value)).all
      (·.1.isSome) = true := by
    simp
  exact (if_pos texts).trans (listed fields (List.Subset.refl fields))

/-- What makes something of the fields of a record gets the values of them all. -/
theorem Value.bind_someFields?_record (named : fields.map (·.1) = names)
    (distinct : names.Nodup) {read : List (Option Value) → Option α} :
    ((record fields).someFields? names >>= read) = read (fields.map (some ·.2)) :=
  congrArg (· >>= read) (someFields?_record named distinct)

/-- What makes something of the fields of a record, none of which may be missing, gets the
    values of them all. -/
theorem Value.bind_fields?_record (named : fields.map (·.1) = names) (distinct : names.Nodup)
    {read : List (Option Value) → Option α} :
    ((record fields).fields? names >>= read) = read (fields.map (some ·.2)) :=
  bind_someFields?_record named distinct

end

@[simp] theorem required_toJson [Serial α] [LawfulSerial α] (value : α) :
    required (some (toJson value)) = some value :=
  LawfulSerial.ofJson?_toJson value

@[simp] theorem defaulted_toJson [Serial α] [LawfulSerial α] (default value : α) :
    defaulted default (some (toJson value)) = some value :=
  LawfulSerial.ofJson?_toJson value

instance {e : Entity} : LawfulSerial (Ident e) where
  integral i := LawfulSerial.integral i.val
  ofJson?_toJson i := congrArg (Option.map Ident.mk) (LawfulSerial.ofJson?_toJson i.val)

instance {e : Entity} : LawfulSerial (Option (Ident e)) :=
  LawfulSerial.option (by rintro _ ⟨⟩)

/-! ## The records of the library

A record is read with members that may be any documents, before they are those that
its fields are written as. -/

-- With the words of the fields in place, the step from the list of members to the
-- reading of each would compare these words with their bounds.
theorem ofJson?_peer (id store role : Value) :
    ofJson? (.record [("id", id), ("store_id", store), ("role", role)]) =
      (do return ⟨← required (some id), ← required (some store), ← required (some role)⟩ :
        Option Peer) :=
  Value.bind_fields?_record (by rfl) (by decide)

instance : LawfulSerial Peer where
  integral peer := Value.integral_record (by simp [LawfulSerial.integral])
  ofJson?_toJson peer := (ofJson?_peer ..).trans (by simp)

theorem ofJson?_epoch (confVer version : Value) :
    ofJson? (.record [("conf_ver", confVer), ("version", version)]) =
      (do return ⟨← required (some confVer), ← required (some version)⟩ : Option Epoch) :=
  Value.bind_fields?_record (by rfl) (by decide)

instance : LawfulSerial Epoch where
  integral epoch := Value.integral_record (by simp [LawfulSerial.integral])
  ofJson?_toJson epoch := (ofJson?_epoch ..).trans (by simp)

theorem ofJson?_region (id start stop epoch peers : Value) :
    ofJson? (.record [("id", id), ("start_key", start), ("end_key", stop), ("epoch", epoch),
        ("peers", peers)]) =
      (do return ⟨← required (some id), ⟨← required (some start), ← required (some stop)⟩,
        ← required (some epoch), ← required (some peers)⟩ : Option RegionDescriptor) :=
  Value.bind_fields?_record (by rfl) (by decide)

instance : LawfulSerial RegionDescriptor where
  integral region := Value.integral_record (by simp [LawfulSerial.integral])
  ofJson?_toJson region := (ofJson?_region ..).trans (by simp)

theorem ofJson?_label (key value : Value) :
    ofJson? (.record [("key", key), ("value", value)]) =
      (do return ⟨← required (some key), ← required (some value)⟩ : Option StoreLabel) :=
  Value.bind_fields?_record (by rfl) (by decide)

instance : LawfulSerial StoreLabel where
  integral label := Value.integral_record (by simp [LawfulSerial.integral])
  ofJson?_toJson label := (ofJson?_label ..).trans (by simp)

theorem ofJson?_store (id address labels state : Value) :
    ofJson? (.record [("id", id), ("address", address), ("labels", labels), ("state", state)]) =
      (do return ⟨← required (some id), ← required (some address), ← required (some labels),
        ← required (some state)⟩ : Option StoreDescriptor) :=
  Value.bind_fields?_record (by rfl) (by decide)

instance : LawfulSerial StoreDescriptor where
  integral store := Value.integral_record (by simp [LawfulSerial.integral])
  ofJson?_toJson store := (ofJson?_store ..).trans (by simp)

theorem ofJson?_invalidation (region store dropsRegion dropsStore scope : Value) :
    ofJson? (.record [("region_id", region), ("store_id", store),
        ("invalidate_region", dropsRegion), ("invalidate_store", dropsStore),
        ("cache_type", scope)]) =
      (do return ⟨← defaulted none (some region), ← defaulted none (some store),
        ← required (some dropsRegion), ← required (some dropsStore), ← required (some scope)⟩ :
        Option Invalidation) :=
  Value.bind_fields?_record (by rfl) (by decide)

instance : LawfulSerial Invalidation where
  integral notice := Value.integral_record (by simp [LawfulSerial.integral])
  ofJson?_toJson notice := (ofJson?_invalidation ..).trans (by simp)

theorem ofJson?_backoffConfig (attempts base sleep budget : Value) :
    ofJson? (.record [("max_attempts", attempts), ("base_ms", base), ("max_sleep_ms", sleep),
        ("total_budget_ms", budget)]) =
      (do return ⟨← required (some attempts), ← required (some base), ← required (some sleep),
        ← required (some budget)⟩ : Option BackoffConfig) :=
  Value.bind_fields?_record (by rfl) (by decide)

instance : LawfulSerial BackoffConfig where
  integral config := Value.integral_record (by simp [LawfulSerial.integral])
  ofJson?_toJson config := (ofJson?_backoffConfig ..).trans (by simp)

theorem ofJson?_routingConfig (interval forwarding selector backoff : Value) :
    ofJson? (.record [("health_check_interval_secs", interval), ("enable_forwarding", forwarding),
        ("default_selector", selector), ("backoff", backoff)]) =
      (do
        let base : RoutingConfig := {}
        return ⟨← defaulted base.healthCheckIntervalSecs (some interval),
          ← defaulted base.enableForwarding (some forwarding),
          ← defaulted base.defaultSelector (some selector),
          ← defaulted base.backoff (some backoff)⟩ : Option RoutingConfig) :=
  Value.bind_someFields?_record (by rfl) (by decide)

instance : LawfulSerial RoutingConfig where
  integral config := Value.integral_record (by simp [LawfulSerial.integral])
  ofJson?_toJson config := (ofJson?_routingConfig ..).trans (by simp)

/-! ## Texts -/

theorem Serial.document_text [Serial α] [LawfulSerial α] (value : α) :
    Value.parse? (text value) = some (toJson value) :=
  Value.parse?_text (LawfulSerial.integral value)

theorem Serial.parse?_text [Serial α] [LawfulSerial α] (value : α) :
    parse? α (text value) = some value := by
  rw [parse?, document_text]
  exact LawfulSerial.ofJson?_toJson value

/-- The text of a value is a document of its JSON form, the value is read off it,
    and no other value has this text. -/
structure RoundTrips (α : Type) [Serial α] : Prop where
  document (value : α) : Value.parse? (text value) = some (toJson value)
  read (value : α) : parse? α (text value) = some value
  distinct {value other : α} (same : text value = text other) : value = other

theorem LawfulSerial.roundTrips [Serial α] [LawfulSerial α] : RoundTrips α where
  document := document_text
  read := parse?_text
  distinct {value other} same := by
    have read : some value = some other := by
      rw [← parse?_text value, same, parse?_text]
    exact Option.some.inj read

/-- **Round trip.** Whatever the library writes in JSON it reads back. -/
theorem round_trips :
    RoundTrips RegionId ∧ RoundTrips StoreId ∧ RoundTrips PeerId ∧ RoundTrips PeerRole ∧
    RoundTrips Peer ∧ RoundTrips Epoch ∧ RoundTrips RegionDescriptor ∧ RoundTrips StoreState ∧
    RoundTrips StoreLabel ∧ RoundTrips StoreDescriptor ∧ RoundTrips StoreKind ∧
    RoundTrips ReplicaSelector ∧ RoundTrips Scope ∧ RoundTrips Invalidation ∧
    RoundTrips BackoffConfig ∧ RoundTrips RoutingConfig := by
  and_intros <;> exact LawfulSerial.roundTrips

end RegionRouting.Json
