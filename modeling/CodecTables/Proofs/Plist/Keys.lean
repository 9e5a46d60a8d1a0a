import CodecTables.Plist.Document
import CodecTables.Proofs.Decode.Schema

/-!
# The keys of a dictionary that is read

Whatever file it is read from, a property list that is a dictionary holds each key once
(`keysDistinct_of_read?`). In the written form each entry is put into the dictionary where its
element ends; in the binary form all entries of a dictionary are put into it together.
-/

namespace CodecTables.Plist

open Decode (KeysDistinct)

theorem keysDistinct_scalar (s : Scalar) : KeysDistinct (.scalar s) := nofun

theorem keysDistinct_array (items : List Value) : KeysDistinct (.array items) := nofun

/-- A dictionary whose entries are distinct holds each key once. -/
theorem keysDistinct_dict {entries : List (Scalar × Value)}
    (distinct : Dictionary.Distinct entries) :
    KeysDistinct (.dict entries) := by
  rintro _ ⟨⟩
  exact distinct

/-! ### Written property lists -/

namespace Written

open Xml (Event)

/-- A dictionary that is being read holds each key once. -/
def Container.Sound : Container → Prop
  | array _ => True
  | dict entries => Dictionary.Distinct entries

theorem Container.sound_dict_nil : Sound (.dict []) := List.Pairwise.nil

theorem Container.sound_array_nil : Sound (.array []) := trivial

namespace Builder

/-- All dictionaries that are being read hold each key once, and so does the whole list. -/
structure Sound (b : Builder) : Prop where
  frames : ∀ frame ∈ b.frames, frame.container.Sound
  root : KeysDistinct b.root

variable {b after : Builder}

theorem sound_start : start.Sound := ⟨nofun, keysDistinct_scalar _⟩

/-- To take a slot keeps dictionaries sound. -/
theorem Sound.claim? (sound : b.Sound) {slot : Slot} (claimed : b.claim? = some (slot, after)) :
    after.Sound := by
  unfold Builder.claim? at claimed
  split at claimed <;> cases claimed
  · exact ⟨sound.frames, sound.root⟩
  · exact sound
  · exact sound

/-- To fill a slot keeps dictionaries sound. -/
theorem Sound.fill (sound : b.Sound) (slot : Slot) {value : Value} (distinct : KeysDistinct value) :
    (b.fill slot value).Sound := by
  unfold Builder.fill
  split
  · next frames opened =>
    refine ⟨?_, sound.root⟩
    rintro frame (_ | ⟨_, outer⟩)
    · trivial
    · exact sound.frames frame (opened ▸ List.mem_cons_of_mem _ outer)
  · next frames opened =>
    refine ⟨?_, sound.root⟩
    rintro frame (_ | ⟨_, outer⟩)
    · have before : Container.Sound (.dict _) := sound.frames _ (opened ▸ List.mem_cons_self)
      exact Dictionary.distinct_insert before _ _
    · exact sound.frames frame (opened ▸ List.mem_cons_of_mem _ outer)
  · exact ⟨sound.frames, distinct⟩
  · exact sound

/-- To add a scalar keeps dictionaries sound. -/
theorem Sound.add? (sound : b.Sound) {s : Scalar} (added : b.add? (.scalar s) = some after) :
    after.Sound := by
  obtain ⟨⟨slot, claimed⟩, taken, ⟨⟩⟩ := Option.bind_eq_some_iff.mp added
  exact (sound.claim? taken).fill slot (keysDistinct_scalar s)

/-- To open a container keeps dictionaries sound. -/
theorem Sound.open? (sound : b.Sound) {container : Container} (fresh : container.Sound)
    (opened : b.open? container = some after) : after.Sound := by
  obtain ⟨⟨slot, claimed⟩, taken, ⟨⟩⟩ := Option.bind_eq_some_iff.mp opened
  have kept := sound.claim? taken
  exact ⟨List.forall_mem_cons.mpr ⟨fresh, kept.frames⟩, kept.root⟩

/-- To close a container keeps dictionaries sound. -/
theorem Sound.close? (sound : b.Sound) (closed : b.close? = some after) : after.Sound := by
  unfold Builder.close? at closed
  split at closed
  · cases closed
  · next container slot frames opened =>
    cases closed
    have all := List.forall_mem_cons.mp (opened ▸ sound.frames)
    have outer : Sound { b with frames := frames } := ⟨all.2, sound.root⟩
    apply outer.fill
    cases container with
    | array items => exact keysDistinct_array _
    | dict entries => exact keysDistinct_dict all.1

/-- To take a key keeps dictionaries sound. -/
theorem Sound.takeKey? (sound : b.Sound) (taken : b.takeKey? = some after) : after.Sound := by
  unfold Builder.takeKey? at taken
  split at taken
  · split at taken <;> cases taken
    exact ⟨sound.frames, sound.root⟩
  · cases taken

/-- To take a text as a scalar keeps dictionaries sound. -/
theorem Sound.take? (sound : b.Sound) {read : List Char → Option Scalar}
    (taken : b.take? read = some after) : after.Sound := by
  obtain ⟨s, _, added⟩ := Option.bind_eq_some_iff.mp taken
  exact Sound.add? (b := { b with text := [] }) ⟨sound.frames, sound.root⟩ added

end Builder

variable {b after : Builder}

/-- An opening tag keeps dictionaries sound. -/
theorem sound_begin? (sound : b.Sound) {name : List Char} (begun : begin? b name = some after) :
    after.Sound := by
  have cleared : Builder.Sound { b with text := [] } := ⟨sound.frames, sound.root⟩
  unfold begin? at begun
  dsimp only at begun
  split at begun
  · exact cleared.open? Container.sound_dict_nil begun
  · exact cleared.open? Container.sound_array_nil begun
  · cases begun
    exact cleared

/-- A closing tag keeps dictionaries sound. -/
theorem sound_finish? (sound : b.Sound) {name : List Char} (ended : finish? b name = some after) :
    after.Sound := by
  unfold finish? at ended
  split at ended
  · split at ended
    · cases ended
    · exact sound.close? ended
  · exact sound.close? ended
  · exact sound.takeKey? ended
  · exact sound.add? ended
  · exact sound.add? ended
  · exact sound.take? ended
  · exact sound.take? ended
  · exact sound.take? ended
  · exact sound.take? ended
  · exact sound.take? ended
  · cases ended
    exact sound

theorem sound_step? (sound : b.Sound) {event : Event} (stepped : step? b event = some after) :
    after.Sound := by
  cases event with
  | start name => exact sound_begin? sound stepped
  | finish name => exact sound_finish? sound stepped
  | text chars =>
    cases stepped
    exact ⟨sound.frames, sound.root⟩

/-- A run of events keeps dictionaries sound. -/
theorem sound_foldlM {events : List Event} (sound : b.Sound)
    (run : events.foldlM step? b = some after) : after.Sound := by
  induction events generalizing b with
  | nil =>
    cases run
    exact sound
  | cons event events ih =>
    rw [List.foldlM_cons] at run
    obtain ⟨next, stepped, rest⟩ := Option.bind_eq_some_iff.mp run
    exact ih (sound_step? sound stepped) rest

/-- A dictionary in the written form holds each key once. -/
theorem keysDistinct_of_read? {bytes : List UInt8} {value : Value}
    (read : read? bytes = some value) : KeysDistinct value := by
  obtain ⟨events, _, built⟩ := Option.bind_eq_some_iff.mp read
  obtain ⟨b, run, rfl⟩ := Option.map_eq_some_iff.mp built
  exact (sound_foldlM Builder.sound_start run).root

end Written

/-! ### Binary property lists -/

namespace Object

variable {object? : Nat → Option Object} {inside : Nat → Option Value} {room count number : Nat}
  {value : Value} {survey : Survey}

/-- Before any object is read, none of them is begun. -/
theorem progress_start (count number : Nat) :
    (Survey.start count).progress[number]? = none ∨
      (Survey.start count).progress[number]? = some .unread := by
  unfold Survey.start
  rw [Array.getElem?_replicate]
  split
  · exact .inr rfl
  · exact .inl rfl

/-- A chain of two steps that gives a value is a run of the first and then of the second. -/
theorem run_bind {α β : Type} {step : Walk α} {next : α → Walk β} {s t : Survey} {b : β}
    (run : (step >>= next).run s = some (b, t)) :
    ∃ a u, step.run s = some (a, u) ∧ (next a).run u = some (b, t) := by
  rw [StateT.run_bind] at run
  obtain ⟨⟨a, u⟩, first, rest⟩ := Option.bind_eq_some_iff.mp run
  exact ⟨a, u, first, rest⟩

/-- The last step gives the value that it notes. -/
theorem run_finish {result : Value} {s t : Survey}
    (run : (finish number result).run s = some (value, t)) : value = result := by
  cases run
  rfl

/-- Before any object is read, the value of an object does not come from a container that is being
read. -/
theorem keysDistinct_of_value?
    (run : (value? object? inside room number).run (.start count) = some (value, survey)) :
    KeysDistinct value := by
  rw [value?] at run
  obtain ⟨_, _, ⟨⟩, run⟩ := run_bind run
  -- Only an object that is begun could give a value that was not built here.
  rcases progress_start count number with absent | unread
  · rw [absent] at run
    cases run
  rw [unread] at run
  obtain ⟨object, _, _, run⟩ := run_bind run
  cases object with
  | scalar s =>
    rw [run_finish run]
    exact keysDistinct_scalar s
  | array items =>
    dsimp only at run
    split at run
    · obtain ⟨_, _, _, run⟩ := run_bind run
      obtain ⟨values, _, _, run⟩ := run_bind run
      rw [run_finish run]
      exact keysDistinct_array values
    · cases run
  | dict keys values =>
    dsimp only at run
    split at run
    · obtain ⟨_, _, _, run⟩ := run_bind run
      obtain ⟨pairs, _, _, run⟩ := run_bind run
      rw [run_finish run]
      exact keysDistinct_dict (Dictionary.distinct_ofPairs pairs)
    · cases run

/-- The value of an object holds each key once, however often it is unfolded. -/
theorem keysDistinct_of_unfolded? {times : Nat}
    (run : unfolded? object? count number times = some (value, survey)) : KeysDistinct value := by
  induction times generalizing value survey with
  | zero => exact keysDistinct_of_value? run
  | succ times ih =>
    obtain ⟨⟨first, known⟩, before, run⟩ := Option.bind_eq_some_iff.mp run
    dsimp only at run
    split at run
    · exact keysDistinct_of_value? run
    · cases run
      exact ih before

end Object

/-- A dictionary in the binary form holds each key once. -/
theorem Binary.keysDistinct_of_read? {bytes : List UInt8} {value : Value}
    (read : read? bytes = some value) : KeysDistinct value := by
  obtain ⟨layout, _, read⟩ := Option.bind_eq_some_iff.mp read
  obtain ⟨⟨_, survey⟩, run, rfl⟩ := Option.map_eq_some_iff.mp read
  exact Object.keysDistinct_of_unfolded? run

/-- A property list that is a dictionary holds each key once. -/
theorem keysDistinct_of_read? {bytes : List UInt8} {value : Value}
    (read : read? bytes = some value) : KeysDistinct value := by
  unfold read? at read
  split at read
  · exact Written.keysDistinct_of_read? read
  · exact Binary.keysDistinct_of_read? read
  · cases read

end CodecTables.Plist
