import CodecTables.Proofs.Decode.Schema

/-!
# What decoders look at

Two property lists that differ in keys that no decoder reads, or in the order of keys, are one to a
decoder; only the dictionary of the kexts is read in its order. Together with the schema this says
all about the decoders: each takes the values that are described and gives what they describe,
refuses all others with faults of loading, and does not see the rest (`decoders_follow_schema`). The
one exception is a kext whose name is an integer with too many digits
(`kextTable_long_name_no_fault`).
-/

namespace CodecTables.Decode

open Plist (Scalar Value Dictionary.find?)
open Resource

variable {α β γ δ : Type}

/-! ### Results of two readings -/

/-- Two readings are refused alike, or give contents that are related. -/
inductive Agree (Related : α → β → Prop) : Except Refusal α → Except Refusal β → Prop
  | refused (refusal : Refusal) : Agree Related (.error refusal) (.error refusal)
  | taken {a : α} {b : β} : Related a b → Agree Related (.ok a) (.ok b)

/-- Readings that agree are followed by readings that agree. -/
theorem Agree.bind {Related : α → β → Prop} {Further : γ → δ → Prop} {result : Except Refusal α}
    {other : Except Refusal β} {next : α → Except Refusal γ} {further : β → Except Refusal δ}
    (first : Agree Related result other)
    (second : ∀ a b, Related a b → Agree Further (next a) (further b)) :
    Agree Further (result >>= next) (other >>= further) := by
  cases first with
  | refused refusal => exact .refused refusal
  | taken related => exact second _ _ related

/-- The steps after one that gives the same go on with the same. -/
theorem Agree.step {Further : γ → δ → Prop} {result other : Except Refusal α}
    {next : α → Except Refusal γ} {further : α → Except Refusal δ} (first : Agree Eq result other)
    (second : ∀ a, Agree Further (next a) (further a)) :
    Agree Further (result >>= next) (other >>= further) := by
  refine first.bind fun a b same => ?_
  rw [← same]
  exact second a

theorem Agree.refl (result : Except Refusal α) : Agree Eq result result := by
  cases result with
  | error refusal => exact .refused refusal
  | ok a => exact .taken rfl

theorem Agree.eq {result other : Except Refusal α} (agree : Agree Eq result other) :
    result = other := by
  cases agree with
  | refused refusal => rfl
  | taken same => rw [same]

/-! ### Values that are alike -/

/-- Under each of the keys both records have values that are alike, or neither has one. -/
def AlikeEntries (fields : List (String × (Value → Value → Prop))) (entry twin : Record) : Prop :=
  ∀ field ∈ fields,
    Option.Rel field.2 (Dictionary.find? entry field.1) (Dictionary.find? twin field.1)

/-- Values of one kind; if they are records, they are alike under each of the keys. -/
def AlikeRecords (fields : List (String × (Value → Value → Prop))) (value other : Value) : Prop :=
  value.kind = other.kind ∧
    ∀ entry twin, value = .dict entry → other = .dict twin → AlikeEntries fields entry twin

/-- Values of one kind; if they are arrays, their items are alike one by one. -/
def AlikeArrays (Alike : Value → Value → Prop) (value other : Value) : Prop :=
  value.kind = other.kind ∧
    ∀ values others, value = .array values → other = .array others →
      List.Forall₂ Alike values others

/-- The keys of an entry of the lookup table, all with values that are the same. -/
def lookupKeys : List (String × (Value → Value → Prop)) :=
  [("Tree", Eq), ("controllerNum", Eq), ("Detect", Eq), ("Comment", Eq)]

/-- The keys of the description of a kext. -/
def kextKeys : List (String × (Value → Value → Prop)) :=
  [("Id", Eq), ("Paths", Eq), ("Reloadable", Eq), ("Detect", Eq)]

/-- The keys of a patch. -/
def patchKeys : List (String × (Value → Value → Prop)) :=
  [("Find", Eq), ("Replace", Eq), ("Count", Eq), ("Name", Eq), ("MinKernel", Eq), ("MaxKernel", Eq)]

/-- The keys of the description of a file. -/
def fileKeys : List (String × (Value → Value → Prop)) :=
  [("Id", Eq), ("Path", Eq), ("MinKernel", Eq), ("MaxKernel", Eq)]

/-- The keys of an entry of the table of controllers; its patches need only be alike. -/
def controllerKeys : List (String × (Value → Value → Prop)) :=
  [("Device", Eq), ("Name", Eq), ("Vendor", Eq), ("Patches", AlikeArrays (AlikeRecords patchKeys)),
    ("Revisions", Eq), ("Model", Eq), ("Platform", Eq)]

/-- The keys of the files of a codec, with descriptions that need only be alike. -/
def filesKeys : List (String × (Value → Value → Prop)) :=
  [("Layouts", AlikeArrays (AlikeRecords fileKeys)),
    ("Platforms", AlikeArrays (AlikeRecords fileKeys))]

/-- The keys of the description of a codec; its files and patches need only be alike. -/
def infoKeys : List (String × (Value → Value → Prop)) :=
  [("Vendor", Eq), ("CodecName", Eq), ("CodecID", Eq), ("Files", AlikeRecords filesKeys),
    ("Patches", AlikeArrays (AlikeRecords patchKeys)), ("Revisions", Eq)]

/-- Values of one kind; if they are dictionaries, they hold the same names in the same order, with
kexts that are alike. -/
def AlikeKexts (value other : Value) : Prop :=
  value.kind = other.kind ∧
    ∀ entries twins, value = .dict entries → other = .dict twins →
      List.Forall₂ (fun entry twin => entry.1 = twin.1 ∧ AlikeRecords kextKeys entry.2 twin.2)
        entries twins

/-! ### Fields -/

section Fields

variable {fields : List (String × (Value → Value → Prop))} {value other : Value}
  {entry twin : Record} {shape : Shape α} {key site : String} {default : α}

/-- Values of one kind are made alike. -/
theorem cases_of_kind (same : value.kind = other.kind) :
    (∃ s t, value = .scalar s ∧ other = .scalar t ∧ s.kind = t.kind) ∨
      (∃ values others, value = .array values ∧ other = .array others) ∨
      ∃ entry twin, value = .dict entry ∧ other = .dict twin := by
  rcases value with s | values | entry
  · rcases other with t | others | twin
    · exact .inl ⟨s, t, rfl, rfl, same⟩
    · cases s <;> cases same
    · cases s <;> cases same
  · rcases other with t | others | twin
    · cases t <;> cases same
    · exact .inr (.inl ⟨values, others, rfl, rfl⟩)
    · cases same
  · rcases other with t | others | twin
    · cases t <;> cases same
    · cases same
    · exact .inr (.inr ⟨entry, twin, rfl, rfl⟩)

theorem agree_record (alike : AlikeRecords fields value other) :
    Agree (AlikeEntries fields) (record value site) (record other site) := by
  rcases cases_of_kind alike.1 with ⟨s, t, rfl, rfl, same⟩ | ⟨_, _, rfl, rfl⟩ | ⟨_, _, rfl, rfl⟩
  · unfold record
    dsimp only [Value.kind]
    rw [same]
    exact .refused _
  · exact .refused _
  · exact .taken (alike.2 _ _ rfl rfl)

/-- Records that are alike pass the check for a dictionary alike. -/
theorem agree_checked_dict (alike : AlikeRecords fields value other) :
    Agree (AlikeEntries fields) (checked .dict value key site) (checked .dict other key site) := by
  rcases cases_of_kind alike.1 with ⟨s, t, rfl, rfl, same⟩ | ⟨_, _, rfl, rfl⟩ | ⟨_, _, rfl, rfl⟩
  · unfold checked
    dsimp only [Value.kind, Shape.dict]
    rw [same]
    exact .refused _
  · exact .refused _
  · exact .taken (alike.2 _ _ rfl rfl)

variable {Alike : Value → Value → Prop}

theorem agree_items (alike : AlikeArrays Alike value other) :
    Agree (List.Forall₂ Alike) (items value site) (items other site) := by
  rcases cases_of_kind alike.1 with ⟨s, t, rfl, rfl, same⟩ | ⟨_, _, rfl, rfl⟩ | ⟨_, _, rfl, rfl⟩
  · unfold items
    dsimp only [Value.kind]
    rw [same]
    exact .refused _
  · exact .taken (alike.2 _ _ rfl rfl)
  · exact .refused _

/-- Arrays that are alike pass the check for an array alike. -/
theorem agree_checked_array (alike : AlikeArrays Alike value other) :
    Agree (List.Forall₂ Alike) (checked .array value key site) (checked .array other key site) := by
  rcases cases_of_kind alike.1 with ⟨s, t, rfl, rfl, same⟩ | ⟨_, _, rfl, rfl⟩ | ⟨_, _, rfl, rfl⟩
  · unfold checked
    dsimp only [Value.kind, Shape.array]
    rw [same]
    exact .refused _
  · exact .taken (alike.2 _ _ rfl rfl)
  · exact .refused _

theorem eq_of_rel {found given : Option Value} (same : Option.Rel Eq found given) :
    found = given := by
  cases same with
  | some same => rw [same]
  | none => rfl

/-- A key under which the records have the same value is read alike. -/
theorem agree_required
    (same : Option.Rel Eq (Dictionary.find? entry key) (Dictionary.find? twin key)) :
    Agree Eq (required entry shape key site) (required twin shape key site) := by
  unfold required
  rw [eq_of_rel same]
  exact .refl _

/-- An optional key under which the records have the same value is read alike. -/
theorem agree_optional
    (same : Option.Rel Eq (Dictionary.find? entry key) (Dictionary.find? twin key)) :
    Agree Eq (optional entry shape key site default) (optional twin shape key site default) := by
  unfold optional
  rw [eq_of_rel same]
  exact .refl _

/-- A key under which the records have records that are alike is read alike. -/
theorem agree_required_dict (alike : Option.Rel (AlikeRecords fields) (Dictionary.find? entry key)
      (Dictionary.find? twin key)) :
    Agree (AlikeEntries fields) (required entry .dict key site) (required twin .dict key site) := by
  unfold required
  revert alike
  generalize Dictionary.find? entry key = found
  generalize Dictionary.find? twin key = given
  intro alike
  cases alike with
  | some alike => exact agree_checked_dict alike
  | none => exact .refused _

/-- An optional key under which the records have arrays that are alike is read alike. -/
theorem agree_optional_array (alike : Option.Rel (AlikeArrays Alike) (Dictionary.find? entry key)
      (Dictionary.find? twin key)) :
    Agree (List.Forall₂ Alike) (optional entry .array key site [])
      (optional twin .array key site []) := by
  unfold optional
  revert alike
  generalize Dictionary.find? entry key = found
  generalize Dictionary.find? twin key = given
  intro alike
  cases alike with
  | some alike => exact agree_checked_array alike
  | none => exact .taken .nil

/-- Items that are alike are read alike, each at its place. -/
theorem agree_indexed {read : Value → String → Except Refusal α}
    (same : ∀ value other site, Alike value other → read value site = read other site)
    {values others : List Value} (alike : List.Forall₂ Alike values others) (index : Nat) :
    indexed read site index values = indexed read site index others := by
  induction alike generalizing index with
  | nil => rfl
  | cons first _ ih => rw [indexed, indexed, same _ _ _ first, ih]

end Fields

/-! ### Records -/

section Records

variable (value other : Value) (site : String)

/-- Entries of the lookup table that are alike are decoded alike. -/
theorem lookupEntry_congr (alike : AlikeRecords lookupKeys value other) :
    lookupEntry value site = lookupEntry other site := by
  refine ((agree_record alike).bind fun entry twin alike => ?_).eq
  refine (agree_required (alike ("Tree", Eq) (by simp [lookupKeys]))).step fun _ => ?_
  refine (Agree.refl _).step fun _ => ?_
  refine (agree_required (alike ("controllerNum", Eq) (by simp [lookupKeys]))).step fun _ => ?_
  refine (agree_optional (alike ("Detect", Eq) (by simp [lookupKeys]))).step fun _ => ?_
  exact (agree_optional (alike ("Comment", Eq) (by simp [lookupKeys]))).step fun _ => .refl _

/-- Descriptions of kexts that are alike are decoded alike. -/
theorem kextInfo_congr (alike : AlikeRecords kextKeys value other) :
    kextInfo value site = kextInfo other site := by
  refine ((agree_record alike).bind fun entry twin alike => ?_).eq
  refine (agree_required (alike ("Paths", Eq) (by simp [kextKeys]))).step fun _ => ?_
  refine (agree_required (alike ("Id", Eq) (by simp [kextKeys]))).step fun _ => ?_
  refine (Agree.refl _).step fun _ => ?_
  refine (agree_optional (alike ("Reloadable", Eq) (by simp [kextKeys]))).step fun _ => ?_
  exact (agree_optional (alike ("Detect", Eq) (by simp [kextKeys]))).step fun _ => .refl _

theorem patch_congr (alike : AlikeRecords patchKeys value other) :
    patch value site = patch other site := by
  refine ((agree_record alike).bind fun entry twin alike => ?_).eq
  refine (agree_required (alike ("Find", Eq) (by simp [patchKeys]))).step fun _ => ?_
  refine (agree_required (alike ("Replace", Eq) (by simp [patchKeys]))).step fun _ => ?_
  refine (agree_required (alike ("Count", Eq) (by simp [patchKeys]))).step fun _ => ?_
  refine (agree_required (alike ("Name", Eq) (by simp [patchKeys]))).step fun _ => ?_
  refine (agree_optional (alike ("MinKernel", Eq) (by simp [patchKeys]))).step fun _ => ?_
  exact (agree_optional (alike ("MaxKernel", Eq) (by simp [patchKeys]))).step fun _ => .refl _

/-- Descriptions of files that are alike are decoded alike. -/
theorem codecFile_congr (alike : AlikeRecords fileKeys value other) :
    codecFile value site = codecFile other site := by
  refine ((agree_record alike).bind fun entry twin alike => ?_).eq
  refine (agree_required (alike ("Id", Eq) (by simp [fileKeys]))).step fun _ => ?_
  refine (agree_required (alike ("Path", Eq) (by simp [fileKeys]))).step fun _ => ?_
  refine (agree_optional (alike ("MinKernel", Eq) (by simp [fileKeys]))).step fun _ => ?_
  exact (agree_optional (alike ("MaxKernel", Eq) (by simp [fileKeys]))).step fun _ => .refl _

section Parts

variable {fields : List (String × (Value → Value → Prop))} {entry twin : Record}

/-- The patches of records that are alike are decoded alike. -/
theorem agree_patchField (alike : AlikeEntries fields entry twin)
    (listed : ("Patches", AlikeArrays (AlikeRecords patchKeys)) ∈ fields) (inner : String) :
    Agree Eq (patchField entry site inner) (patchField twin site inner) := by
  refine (agree_optional_array (alike _ listed)).bind fun values others alike => ?_
  rw [agree_indexed patch_congr alike]
  exact .refl _

/-- The revisions of records that are alike are decoded alike. -/
theorem agree_revisions (alike : AlikeEntries fields entry twin)
    (listed : ("Revisions", Eq) ∈ fields) :
    Agree Eq (revisions entry site) (revisions twin site) :=
  (agree_optional (alike _ listed)).step fun _ => .refl _

end Parts

theorem controller_congr (alike : AlikeRecords controllerKeys value other) :
    controller value site = controller other site := by
  refine ((agree_record alike).bind fun entry twin alike => ?_).eq
  refine (agree_required (alike ("Vendor", Eq) (by simp [controllerKeys]))).step fun _ => ?_
  refine (agree_optional (alike ("Model", Eq) (by simp [controllerKeys]))).step fun _ => ?_
  refine (agree_required (alike ("Device", Eq) (by simp [controllerKeys]))).step fun _ => ?_
  refine (agree_required (alike ("Name", Eq) (by simp [controllerKeys]))).step fun _ => ?_
  refine (Agree.refl _).step fun _ => ?_
  refine (agree_patchField _ alike (by simp [controllerKeys]) _).step fun _ => ?_
  refine (agree_revisions _ alike (by simp [controllerKeys])).step fun _ => ?_
  refine (Agree.refl _).step fun _ => ?_
  exact (agree_optional (alike ("Platform", Eq) (by simp [controllerKeys]))).step fun _ => .refl _

/-- Descriptions of codecs that are alike are decoded alike. -/
theorem codecInfo_congr (alike : AlikeRecords infoKeys value other) :
    codecInfo value = codecInfo other := by
  refine ((agree_record alike).bind fun entry twin alike => ?_).eq
  refine (agree_required_dict (alike ("Files", AlikeRecords filesKeys)
    (by simp [infoKeys]))).bind fun files others like => ?_
  refine (agree_optional_array (like ("Layouts", AlikeArrays (AlikeRecords fileKeys))
    (by simp [filesKeys]))).bind fun layouts layouts' likeLayouts => ?_
  refine (agree_optional_array (like ("Platforms", AlikeArrays (AlikeRecords fileKeys))
    (by simp [filesKeys]))).bind fun platforms platforms' likePlatforms => ?_
  rw [agree_indexed codecFile_congr likeLayouts,
    agree_indexed codecFile_congr likePlatforms]
  refine (agree_required (alike ("Vendor", Eq) (by simp [infoKeys]))).step fun _ => ?_
  refine (Agree.refl _).step fun _ => ?_
  refine (agree_required (alike ("CodecName", Eq) (by simp [infoKeys]))).step fun _ => ?_
  refine (agree_required (alike ("CodecID", Eq) (by simp [infoKeys]))).step fun _ => ?_
  refine (Agree.refl _).step fun _ => (Agree.refl _).step fun _ => ?_
  refine (agree_patchField _ alike (by simp [infoKeys]) _).step fun _ => ?_
  exact (agree_revisions _ alike (by simp [infoKeys])).step fun _ => .refl _

theorem lookupTable_congr (alike : AlikeArrays (AlikeRecords lookupKeys) value other) :
    lookupTable value = lookupTable other := by
  refine ((agree_items alike).bind fun values others alike => ?_).eq
  rw [agree_indexed lookupEntry_congr alike]
  exact .refl _

/-- Tables of controllers that are alike are decoded alike. -/
theorem controllerTable_congr (alike : AlikeArrays (AlikeRecords controllerKeys) value other) :
    controllerTable value = controllerTable other := by
  refine ((agree_items alike).bind fun values others alike => ?_).eq
  rw [agree_indexed controller_congr alike]
  exact .refl _

/-- Kexts that are alike are decoded alike, one by one. -/
theorem kexts_congr {entries twins : Record}
    (alike : List.Forall₂ (fun entry twin =>
      entry.1 = twin.1 ∧ AlikeRecords kextKeys entry.2 twin.2) entries twins) :
    entries.mapM kext = twins.mapM kext := by
  have one (entry twin : Scalar × Value)
      (like : entry.1 = twin.1 ∧ AlikeRecords kextKeys entry.2 twin.2) :
      kext entry = kext twin := by
    unfold kext
    rw [like.1, funext fun site => kextInfo_congr entry.2 twin.2 site like.2]
  induction alike with
  | nil => rfl
  | cons first _ ih => rw [List.mapM_cons, List.mapM_cons, one _ _ first, ih]

theorem kextTable_congr (alike : AlikeKexts value other) : kextTable value = kextTable other := by
  rcases cases_of_kind alike.1 with ⟨s, t, rfl, rfl, same⟩ | ⟨_, _, rfl, rfl⟩ | ⟨_, _, rfl, rfl⟩
  · change Except.error (Refusal.notRecord "Kexts" s.kind) = .error (.notRecord "Kexts" t.kind)
    rw [same]
  · rfl
  · unfold kextTable
    dsimp only [record, bind, Except.bind]
    rw [kexts_congr (alike.2 _ _ rfl rfl)]

end Records

/-! ### Decoders -/

/-- On a value, a decoder follows its schema: it takes what is described and gives what is
described, it refuses anything else with a fault of loading, and it gives the same for values that
are alike. -/
structure Follows (decode : Value → Except Refusal α) (Describes : Value → α → Prop)
    (Alike : Value → Value → Prop) (value : Value) : Prop where
  takes : ∀ content, decode value = .ok content ↔ Describes value content
  refuses : ∀ refusal, decode value = .error refusal → refusal.IsFault
  ignores : ∀ other, Alike value other → decode value = decode other

/-- All decoders follow their schemas. The dictionary of kexts, whose keys are distinct, must have a
text for each of its names; if not, no kext table is taken from it. -/
theorem decoders_follow_schema (value : Value) :
    Follows lookupTable (IsArray (IsRecord LookupFields)) (AlikeArrays (AlikeRecords lookupKeys))
        value ∧
      Follows controllerTable (IsArray (IsRecord ControllerFields))
        (AlikeArrays (AlikeRecords controllerKeys)) value ∧
      Follows codecInfo (IsRecord InfoFields) (AlikeRecords infoKeys) value ∧
      (KeysDistinct value →
        (KeysHaveText value → Follows kextTable IsKexts AlikeKexts value) ∧
        (¬ KeysHaveText value → ∀ table, kextTable value ≠ .ok table)) := by
  refine ⟨⟨lookupTable_eq_ok value, faults_lookupTable value, lookupTable_congr value⟩,
    ⟨controllerTable_eq_ok value, faults_controllerTable value, controllerTable_congr value⟩,
    ⟨codecInfo_eq_ok value, faults_codecInfo value, codecInfo_congr value⟩,
    fun distinct => ⟨?_, ?_⟩⟩
  · intro speak
    refine ⟨fun table => ?_, faults_kextTable distinct speak, kextTable_congr value⟩
    rw [kextTable_eq_ok distinct]
    exact and_iff_right speak
  · intro mute table taken
    exact mute ((kextTable_eq_ok distinct).mp taken).1

/-- A dictionary with one kext, which leaves its optional keys out. -/
def oneKext : Value :=
  .dict [(.string "AppleHDA",
    .dict [(.string "Paths", .array [.string "AppleHDA"]),
      (.string "Id", .string "com.apple.HDA")])]

/-- A table with one kext is decoded as the schema says. -/
theorem decoders_follow_schema_oneKext :
    KeysDistinct oneKext ∧ KeysHaveText oneKext ∧
      kextTable oneKext = .ok
        (.ofDictionary [(.string "AppleHDA", ⟨"com.apple.HDA", ["AppleHDA"], false, false⟩)]) := by
  have distinct : KeysDistinct oneKext := by
    rintro entries ⟨⟩
    exact List.pairwise_singleton _ _
  have speak : KeysHaveText oneKext := by
    rintro entries ⟨⟩ entry member n named
    rw [List.mem_singleton.mp member] at named
    cases named
  refine ⟨distinct, speak, ?_⟩
  refine (((decoders_follow_schema oneKext).2.2.2 distinct).1 speak).takes _ |>.mpr ?_
  refine ⟨_, rfl, .cons ⟨rfl, _, rfl, ?_⟩ .nil⟩
  exact ⟨rfl, rfl, .inr ⟨rfl, rfl⟩, .inr ⟨rfl, rfl⟩⟩

/-- A kext whose name is the least integer with too many digits, and which has no fields. -/
def longName : Value := .dict [(.int (10 ^ 4300), .dict [])]

/-- A name with too many digits is refused with something that is no fault. -/
theorem kextTable_long_name_no_fault :
    KeysDistinct longName ∧
      ∃ refusal, kextTable longName = .error refusal ∧ ¬ refusal.IsFault := by
  have distinct : KeysDistinct longName := by
    rintro entries ⟨⟩
    exact List.pairwise_singleton _ _
  have long : 10 ^ Text.maxDigits ≤ (10 ^ 4300 : Int).natAbs := by
    rw [Int.natAbs_pow]
    decide +kernel
  refine ⟨distinct, _, kextTable_of_mute (not_hasText_of_le long) [], ?_⟩
  rintro ⟨fault, failed, _⟩
  cases failed

end CodecTables.Decode
