import CodecTables.Decode.Tables
import Mathlib.Data.List.Forall2
import Mathlib.Data.Option.Basic

/-!
# What fields take

A field takes a value if the record gives the key a value of the field's kind, and an optional field
also takes its default where the record lacks the key (`required_eq_ok`, `optional_eq_ok`). Whatever
a field does not take is refused with a fault of loading.
-/

namespace CodecTables.Decode

open Plist (Value Dictionary.find?)
open Report (Code Fault)

variable {α β : Type}

/-! ### Results -/

/-- A chain of two readings gives a content when both do. -/
theorem bind_eq_ok {result : Except Refusal α} {next : α → Except Refusal β} {b : β} :
    result >>= next = .ok b ↔ ∃ a, result = .ok a ∧ next a = .ok b := by
  rcases result with refusal | a <;> simp [bind, Except.bind]

/-- A result that is found to be a content is one. -/
theorem exists_ok_of_isOk {ε : Type} {result : Except ε α} (ok : result.isOk = true) :
    ∃ a, result = .ok a := by
  rcases result with failure | a
  · cases ok
  · exact ⟨a, rfl⟩

/-- A result that is found to be no content is a failure. -/
theorem exists_error_of_isOk_eq_false {ε : Type} {result : Except ε α}
    (failed : result.isOk = false) : ∃ failure, result = .error failure := by
  rcases result with failure | a
  · exact ⟨failure, rfl⟩
  · cases failed

theorem pure_eq_ok {a b : α} : (pure a : Except Refusal α) = .ok b ↔ a = b := by
  simp [pure, Except.pure]

/-- Reading all items gives contents when each item gives its own. -/
theorem mapM_eq_ok {read : α → Except Refusal β} {as : List α} {bs : List β} :
    as.mapM read = .ok bs ↔ List.Forall₂ (fun a b => read a = .ok b) as bs := by
  induction as generalizing bs with
  | nil => rw [List.mapM_nil, pure_eq_ok, List.forall₂_nil_left_iff, eq_comm]
  | cons a as ih =>
    simp only [List.mapM_cons, bind_eq_ok, pure_eq_ok, ih, List.forall₂_cons_left_iff]
    constructor
    · rintro ⟨b, first, bs, rest, rfl⟩
      exact ⟨b, bs, first, rest, rfl⟩
    · rintro ⟨b, bs, first, rest, rfl⟩
      exact ⟨b, first, bs, rest, rfl⟩

/-- If reading all items is refused, one of them is refused so. -/
theorem exists_of_mapM_error {β : Type} {read : α → Except Refusal β} {as : List α}
    {refusal : Refusal} (refused : as.mapM read = .error refusal) :
    ∃ a ∈ as, read a = .error refusal := by
  induction as with
  | nil => cases refused
  | cons a as ih =>
    rw [List.mapM_cons] at refused
    rcases first : read a with reason | b
    · rw [first] at refused
      cases refused
      exact ⟨a, List.mem_cons_self, first⟩
    · rw [first] at refused
      rcases rest : as.mapM read with reason | bs
      · rw [rest] at refused
        cases refused
        obtain ⟨other, member, failed⟩ := ih rest
        exact ⟨other, List.mem_cons_of_mem _ member, failed⟩
      · rw [rest] at refused
        cases refused

/-- The refusal is reported as a fault of loading. -/
def Refusal.IsFault (refusal : Refusal) : Prop :=
  ∃ fault, refusal.failure = .fault fault ∧ fault.isA .load = true

/-- The fault of a refusal has one of three codes. -/
theorem Refusal.code_of_failure {refusal : Refusal} {f : Fault}
    (failed : refusal.failure = .fault f) :
    f.code ∈ [Code.missingKey, .invalidValue, .invalidPatch] := by
  cases refusal with
  | missingKey =>
    cases failed
    exact .head _
  | unequalPatch =>
    cases failed
    exact .tail _ (.tail _ (.head _))
  | wrongKind | notRecord | notArray | unknownLabel =>
    cases failed
    exact .tail _ (.head _)
  | repeatedKext | unspeakable => cases failed

/-- The result may be refused, but only with faults of loading. -/
def Faults (result : Except Refusal α) : Prop :=
  ∀ refusal, result = .error refusal → refusal.IsFault

theorem faults_ok (a : α) : Faults (.ok a) := nofun

theorem faults_error {refusal : Refusal} (fault : refusal.IsFault) :
    Faults (.error refusal : Except Refusal α) := by
  intro other same
  rwa [← Except.error.inj same]

/-- A chain of two readings refuses with faults only if both do. -/
theorem Faults.bind {result : Except Refusal α} {next : α → Except Refusal β}
    (first : Faults result) (second : ∀ a, Faults (next a)) : Faults (result >>= next) := by
  rcases result with refusal | a
  · exact faults_error (first refusal rfl)
  · exact second a

/-- Reading all items refuses with faults only if each reading does. -/
theorem Faults.mapM {read : α → Except Refusal β} {as : List α} (each : ∀ a ∈ as, Faults (read a)) :
    Faults (as.mapM read) := by
  intro refusal refused
  obtain ⟨a, member, failed⟩ := exists_of_mapM_error refused
  exact each a member refusal failed

/-! ### Shapes -/

/-- The values of a shape are those that `write` makes of their contents. -/
def Shape.Writes (shape : Shape α) (write : α → Value) : Prop :=
  ∀ value content, shape.read value = some content ↔ value = write content

/-- The values with the shape of a truth value are the truth values. -/
theorem Shape.writes_bool : Shape.bool.Writes Value.bool := by
  rintro (s | _ | _) content
  · cases s <;> simp [Shape.bool]
  · simp [Shape.bool]
  · simp [Shape.bool]

/-- The values with the shape of an integer are the integers. -/
theorem Shape.writes_int : Shape.int.Writes Value.int := by
  rintro (s | _ | _) content
  · cases s <;> simp [Shape.int]
  · simp [Shape.int]
  · simp [Shape.int]

/-- The values with the shape of a text are the texts. -/
theorem Shape.writes_string : Shape.string.Writes Value.string := by
  rintro (s | _ | _) content
  · cases s <;> simp [Shape.string]
  · simp [Shape.string]
  · simp [Shape.string]

/-- The values with the shape of bytes are the rows of bytes. -/
theorem Shape.writes_data : Shape.data.Writes Value.data := by
  rintro (s | _ | _) content
  · cases s <;> simp [Shape.data]
  · simp [Shape.data]
  · simp [Shape.data]

/-- The values with the shape of an array are the arrays. -/
theorem Shape.writes_array : Shape.array.Writes Value.array := by
  rintro (_ | _ | _) content <;> simp [Shape.array]

/-- The values with the shape of a dictionary are the dictionaries. -/
theorem Shape.writes_dict : Shape.dict.Writes Value.dict := by
  rintro (_ | _ | _) content <;> simp [Shape.dict]

/-! ### Fields -/

/-- The record gives a key the value. -/
def Gives (entry : Record) (key : String) (value : Value) : Prop :=
  Dictionary.find? entry key = some value

/-- The record gives a key the value of a content; or it lacks the key, and the content is the
default. -/
def GivesOr (entry : Record) (key : String) (write : α → Value) (default content : α) : Prop :=
  Gives entry key (write content) ∨ Dictionary.find? entry key = none ∧ content = default

section Fields

variable {shape : Shape α} {write : α → Value} {entry : Record} {key site : String}
  {default content : α}

/-- A check is passed by the values of the shape. -/
theorem checked_eq_ok (writes : shape.Writes write) {value : Value} :
    checked shape value key site = .ok content ↔ value = write content := by
  rw [← writes, checked]
  cases shape.read value <;> simp

/-- A required field gives a content when the record gives its value. -/
theorem required_eq_ok (writes : shape.Writes write) :
    required entry shape key site = .ok content ↔ Gives entry key (write content) := by
  unfold required Gives
  cases Dictionary.find? entry key with
  | none => simp
  | some value => rw [checked_eq_ok writes, Option.some.injEq]

/-- An optional field gives a content when the record gives its value, or the default. -/
theorem optional_eq_ok (writes : shape.Writes write) :
    optional entry shape key site default = .ok content ↔
      GivesOr entry key write default content := by
  unfold optional GivesOr Gives
  cases Dictionary.find? entry key with
  | none => simp [eq_comm]
  | some value => simp [checked_eq_ok writes]

/-- Items of a shape are read when each is the value of a content. -/
theorem each_eq_ok (writes : shape.Writes write) {values : List Value} {contents : List α} :
    each shape values key site = .ok contents ↔ values = contents.map write := by
  unfold each
  simp only [mapM_eq_ok, checked_eq_ok writes]
  rw [← List.forall₂_eq_eq_eq, List.forall₂_map_right_iff]

/-- A value is read as a record when it is a dictionary. -/
theorem record_eq_ok {value : Value} : record value site = .ok entry ↔ value = .dict entry := by
  cases value <;> simp [record]

/-- A value is read as items when it is an array. -/
theorem items_eq_ok {value : Value} {values : List Value} :
    items value site = .ok values ↔ value = .array values := by
  cases value <;> simp [items]

/-- Values are read one by one where no place matters to what is read. -/
theorem indexed_eq_ok {read : Value → String → Except Refusal α} {Describes : Value → α → Prop}
    (exact : ∀ value site content, read value site = .ok content ↔ Describes value content)
    {index : Nat} {values : List Value} {contents : List α} :
    indexed read site index values = .ok contents ↔ List.Forall₂ Describes values contents := by
  induction values generalizing index contents with
  | nil => simp [indexed, eq_comm]
  | cons value rest ih =>
    simp only [indexed, bind_eq_ok, pure_eq_ok, exact, ih, List.forall₂_cons_left_iff]
    constructor
    · rintro ⟨first, given, others, all, rfl⟩
      exact ⟨first, others, given, all, rfl⟩
    · rintro ⟨first, others, given, all, rfl⟩
      exact ⟨first, given, others, all, rfl⟩

theorem faults_checked (value : Value) : Faults (checked shape value key site) := by
  unfold checked
  split
  · exact faults_ok _
  · exact faults_error ⟨_, rfl, rfl⟩

/-- A required field is refused with faults only. -/
theorem faults_required : Faults (required entry shape key site) := by
  unfold required
  split
  · exact faults_checked _
  · exact faults_error ⟨_, rfl, rfl⟩

/-- An optional field is refused with faults only. -/
theorem faults_optional : Faults (optional entry shape key site default) := by
  unfold optional
  split
  · exact faults_checked _
  · exact faults_ok _

theorem faults_each (values : List Value) : Faults (each shape values key site) :=
  Faults.mapM fun value _ => faults_checked value

theorem faults_record (value : Value) : Faults (record value site) := by
  cases value with
  | dict entries => exact faults_ok _
  | scalar s => exact faults_error ⟨_, rfl, rfl⟩
  | array items => exact faults_error ⟨_, rfl, rfl⟩

theorem faults_items (value : Value) : Faults (items value site) := by
  cases value with
  | array items => exact faults_ok _
  | scalar s => exact faults_error ⟨_, rfl, rfl⟩
  | dict entries => exact faults_error ⟨_, rfl, rfl⟩

/-- Items are refused with faults only if each reading does so. -/
theorem faults_indexed {read : Value → String → Except Refusal α}
    (each : ∀ value site, Faults (read value site)) (index : Nat) (values : List Value) :
    Faults (indexed read site index values) := by
  induction values generalizing index with
  | nil => exact faults_ok _
  | cons value rest ih =>
    exact (each value _).bind fun _ => (ih (index + 1)).bind fun _ => faults_ok _

end Fields

end CodecTables.Decode
