import CodecTables.Plist.Document
import Mathlib

/-!
# Binary property lists with a long integer

An integer of a binary property list may have any number of bytes, also where it is the key of a
dictionary (`read?_withInteger`, `read?_withKey`), and so it may be larger than any bound
(`number_cons`).
-/

namespace CodecTables.Plist.Binary

/-! ### Numbers -/

/-- Bytes that are read on count as behind the ones read before. -/
theorem foldl_number (start : Nat) (bytes : List UInt8) :
    bytes.foldl (fun value b => 256 * value + b.toNat) start =
      256 ^ bytes.length * start + number bytes := by
  induction bytes generalizing start with
  | nil => simp [number]
  | cons b bytes ih =>
    have here : number (b :: bytes) = 256 ^ bytes.length * (256 * 0 + b.toNat) + number bytes :=
      ih _
    rw [List.foldl_cons, ih, here, List.length_cons, Nat.pow_succ, Nat.mul_add, Nat.mul_zero,
      Nat.zero_add, Nat.mul_assoc, Nat.add_assoc]

/-- The first byte counts as many times as the bytes behind it can be. -/
theorem number_cons (b : UInt8) (bytes : List UInt8) :
    number (b :: bytes) = 256 ^ bytes.length * b.toNat + number bytes := by
  have first : number (b :: bytes) = _ := foldl_number (256 * 0 + b.toNat) bytes
  rw [first, Nat.mul_zero, Nat.zero_add]

/-! ### Parts of a file -/

section Parts

variable {bytes front back : List UInt8} {start length count width : Nat}

theorem slice?_eq (inside : start + length ≤ bytes.length) :
    slice? bytes.toArray start length = some ((bytes.drop start).take length) := by
  unfold slice?
  rw [List.size_toArray, if_pos inside]
  simp

/-- What is read near the beginning does not depend on what comes later. -/
theorem slice?_front (inside : start + length ≤ front.length) :
    slice? (front ++ back).toArray start length = some ((front.drop start).take length) := by
  rw [slice?_eq (by rw [List.length_append]; omega), List.drop_append_of_le_length (by omega),
    List.take_append_of_le_length (by rw [List.length_drop]; omega)]

/-- What is read near the end does not depend on what comes before. -/
theorem slice?_back (inside : start + length ≤ back.length) :
    slice? (front ++ back).toArray (front.length + start) length =
      some ((back.drop start).take length) := by
  rw [slice?_eq (by rw [List.length_append]; omega), List.drop_length_add_append]

/-- A number near the beginning does not depend on what comes later. -/
theorem numberAt?_front (inside : start + width ≤ front.length) :
    numberAt? (front ++ back).toArray start width =
      some (number ((front.drop start).take width)) := by
  rw [numberAt?, slice?_front inside]
  rfl

/-- A number near the end does not depend on what comes before. -/
theorem numberAt?_back (inside : start + width ≤ back.length) :
    numberAt? (front ++ back).toArray (front.length + start) width =
      some (number ((back.drop start).take width)) := by
  rw [numberAt?, slice?_back inside]
  rfl

theorem mapM_some {α β : Type} {f : α → Option β} {g : α → β} {as : List α}
    (same : ∀ a ∈ as, f a = some (g a)) : as.mapM f = some (as.map g) := by
  induction as with
  | nil => rfl
  | cons a as ih =>
    rw [List.mapM_cons, same a List.mem_cons_self,
      ih fun a member => same a (List.mem_cons_of_mem _ member)]
    rfl

/-- Several numbers are read if each of them is. -/
theorem numbersAt?_eq {file : Bytes} {read : Nat → Nat}
    (inside : start + count * width ≤ file.size) (wide : 0 < width)
    (each : ∀ i, i * width + width ≤ count * width →
      numberAt? file (start + i * width) width = some (read i)) :
    numbersAt? file start count width = some ((List.range count).map read) := by
  unfold numbersAt?
  rw [if_neg (by omega)]
  refine mapM_some fun i member => each i ?_
  have room : (i + 1) * width ≤ count * width :=
    Nat.mul_le_mul_right _ (List.mem_range.mp member)
  rwa [Nat.add_mul, Nat.one_mul] at room

/-- Numbers near the beginning do not depend on what comes later. -/
theorem numbersAt?_front (inside : start + count * width ≤ front.length) (wide : 0 < width) :
    numbersAt? (front ++ back).toArray start count width =
      some ((List.range count).map fun i =>
        number ((front.drop (start + i * width)).take width)) := by
  refine numbersAt?_eq ?_ wide fun i room => numberAt?_front (by omega)
  rw [List.size_toArray, List.length_append]
  omega

theorem numbersAt?_back (inside : start + count * width ≤ back.length) (wide : 0 < width) :
    numbersAt? (front ++ back).toArray (front.length + start) count width =
      some ((List.range count).map fun i =>
        number ((back.drop (start + i * width)).take width)) := by
  refine numbersAt?_eq ?_ wide fun i room => ?_
  · rw [List.size_toArray, List.length_append]
    omega
  · rw [Nat.add_assoc]
    exact numberAt?_back (by omega)

/-- The number at a place of the trailer, which is at the end. -/
def trailerNumber (back : List UInt8) (start width : Nat) : Nat :=
  number ((back.drop (back.length - trailerSize + start)).take width)

/-- The trailer tells the layout. -/
theorem layout?_back {table : Nat} (room : trailerSize ≤ back.length)
    (stands : trailerNumber back 24 8 = front.length + table)
    (inside : table + trailerNumber back 8 8 * trailerNumber back 6 1 ≤ back.length)
    (wide : 0 < trailerNumber back 6 1) :
    layout? (front ++ back).toArray =
      some ⟨trailerNumber back 7 1,
        ((List.range (trailerNumber back 8 8)).map fun i => number
          ((back.drop (table + i * trailerNumber back 6 1)).take (trailerNumber back 6 1))).toArray,
        trailerNumber back 16 8⟩ := by
  have size : (front ++ back).toArray.size = front.length + back.length := by
    rw [List.size_toArray, List.length_append]
  have told (start width : Nat) (fits : start + width ≤ trailerSize) :
      numberAt? (front ++ back).toArray (front.length + back.length - trailerSize + start) width =
        some (trailerNumber back start width) := by
    rw [Nat.add_sub_assoc room, Nat.add_assoc]
    exact numberAt?_back (by omega)
  unfold layout?
  rw [size, if_neg (by omega)]
  dsimp only
  rw [told 6 1 (by decide), told 7 1 (by decide), told 8 8 (by decide), told 16 8 (by decide),
    told 24 8 (by decide)]
  dsimp only [bind, Option.bind]
  rw [stands, numbersAt?_back inside wide]
  rfl

end Parts

/-! ### Objects by their tokens -/

section Objects

variable {file : Bytes} {layout : Layout} {object start low : Nat}

theorem objectAt?_array (token : numberAt? file start 1 = some (160 + low)) (short : low < 15)
    {items : List Nat} (listed : numbersAt? file (start + 1) low layout.refSize = some items) :
    objectAt? file layout object start = some (.array items) := by
  have kind : (160 + low) / 16 = 10 := by omega
  have rest : (160 + low) % 16 = low := by omega
  simp [objectAt?, countAt?, token, kind, rest, short, listed]

/-- A dictionary by its token, with the numbers of its keys and values. -/
theorem objectAt?_dict (token : numberAt? file start 1 = some (208 + low)) (short : low < 15)
    {keys values : List Nat} (keyed : numbersAt? file (start + 1) low layout.refSize = some keys)
    (valued : numbersAt? file (start + 1 + low * layout.refSize) low layout.refSize = some values) :
    objectAt? file layout object start = some (.dict keys values) := by
  have kind : (208 + low) / 16 = 13 := by omega
  have rest : (208 + low) % 16 = low := by omega
  simp [objectAt?, countAt?, token, kind, rest, short, keyed, valued]

theorem objectAt?_ascii (token : numberAt? file start 1 = some (80 + low)) (short : low < 15)
    {bytes : List UInt8} {text : Scalar} (spelled : slice? file (start + 1) low = some bytes)
    (read : asciiString? bytes = some text) :
    objectAt? file layout object start = some (.scalar text) := by
  have kind : (80 + low) / 16 = 5 := by omega
  have rest : (80 + low) % 16 = low := by omega
  simp [objectAt?, countAt?, token, kind, rest, short, spelled, read]

/-- An integer by its token, which tells the number of its bytes. -/
theorem objectAt?_integer (token : numberAt? file start 1 = some (16 + low)) (short : low < 16)
    (wide : 3 ≤ low) {bytes : List UInt8} (spelled : upTo file (start + 1) (2 ^ low) = bytes) :
    objectAt? file layout object start = some (.scalar (.int (signedNumber bytes))) := by
  have kind : (16 + low) / 16 = 1 := by omega
  have rest : (16 + low) % 16 = low := by omega
  simp [objectAt?, integer, token, kind, rest, wide, spelled]

end Objects

/-! ### A record with an integer -/

/-- A list of one record, up to the integer in it: an empty array `Tree`, and the integer
`controllerNum`. -/
def beforeInteger : List UInt8 :=
  [98, 112, 108, 105, 115, 116, 48, 48, 161, 1, 210, 2, 3, 4, 5, 84, 84, 114, 101, 101, 93, 99, 111,
    110, 116, 114, 111, 108, 108, 101, 114, 78, 117, 109, 160, 27]

/-- The places of the objects of the list, and the trailer. -/
def behindInteger : List UInt8 :=
  [0, 8, 0, 10, 0, 15, 0, 20, 0, 34, 0, 35, 0, 0, 0, 0, 0, 0, 2, 1, 0, 0, 0, 0, 0, 0, 0, 6, 0, 0, 0,
    0, 0, 0, 0, 0, 0, 0, 0, 0, 0, 0, 8, 36]

/-- The list with an integer of 2048 bytes. -/
def withInteger (digits : List UInt8) : List UInt8 := beforeInteger ++ digits ++ behindInteger

/-- The objects of the list, by their numbers. -/
def partsOf (n : Int) : List Object :=
  [.array [1], .dict [2, 3] [4, 5], .scalar (.string "Tree"), .scalar (.string "controllerNum"),
    .array [], .scalar (.int n)]

section

variable {digits : List UInt8} (long : digits.length = 2048)

include long

/-- The layout of the list does not depend on the integer in it. -/
theorem layout?_withInteger :
    layout? (withInteger digits).toArray = some ⟨1, #[8, 10, 15, 20, 34, 35], 0⟩ := by
  have stands : trailerNumber behindInteger 24 8 = (beforeInteger ++ digits).length + 0 := by
    rw [List.length_append, long]
    decide
  exact layout?_back (by decide) stands (by decide) (by decide)

/-- The objects of the list are read at their places. -/
theorem objectAt?_withInteger (object : Nat) :
    #[8, 10, 15, 20, 34, 35][object]?.bind
        (objectAt? (withInteger digits).toArray ⟨1, #[8, 10, 15, 20, 34, 35], 0⟩ object) =
      (partsOf (signedNumber digits))[object]? := by
  have token (start width : Nat) (inside : start + width ≤ 36) :
      numberAt? (withInteger digits).toArray start width =
        some (number ((beforeInteger.drop start).take width)) := by
    rw [withInteger, List.append_assoc]
    exact numberAt?_front inside
  have refs (start count : Nat) (inside : start + count * 1 ≤ 36) :
      numbersAt? (withInteger digits).toArray start count 1 =
        some ((List.range count).map fun i =>
          number ((beforeInteger.drop (start + i * 1)).take 1)) := by
    rw [withInteger, List.append_assoc]
    exact numbersAt?_front inside (by decide)
  have text (start length : Nat) (inside : start + length ≤ 36) :
      slice? (withInteger digits).toArray start length =
        some ((beforeInteger.drop start).take length) := by
    rw [withInteger, List.append_assoc]
    exact slice?_front inside
  have whole : upTo (withInteger digits).toArray 36 (2 ^ 11) = digits := by
    have before : beforeInteger.length = 36 := rfl
    unfold upTo withInteger
    simp [before, long]
  match object with
  | 0 => exact objectAt?_array (token 8 1 (by decide)) (by decide) (refs 9 1 (by decide))
  | 1 =>
    exact objectAt?_dict (token 10 1 (by decide)) (by decide) (refs 11 2 (by decide))
      (refs 13 2 (by decide))
  | 2 =>
    exact objectAt?_ascii (token 15 1 (by decide)) (by decide) (text 16 4 (by decide))
      (by decide +kernel)
  | 3 =>
    exact objectAt?_ascii (token 20 1 (by decide)) (by decide) (text 21 13 (by decide))
      (by decide +kernel)
  | 4 => exact objectAt?_array (token 34 1 (by decide)) (by decide) (refs 35 0 (by decide))
  | 5 =>
    exact objectAt?_integer (token 35 1 (by decide)) (by decide) (by decide) whole
  | object + 6 => rfl

/-- An integer of 2048 bytes is read as the number that they spell. -/
theorem read?_withInteger :
    Plist.read? (withInteger digits) =
      some (.array [.dict [(.string "Tree", .array []),
        (.string "controllerNum", .scalar (.int (signedNumber digits)))]]) := by
  have form : form? (withInteger digits) = some .binary := rfl
  have parts (n : Int) : Object.read? (fun object => (partsOf n)[object]?) 6 0 =
      some (.array [.dict [(.string "Tree", .array []),
        (.string "controllerNum", .scalar (.int n))]]) := by
    cbv
  unfold Plist.read? Binary.read?
  rw [form]
  dsimp only
  rw [layout?_withInteger long]
  dsimp only [bind, Option.bind]
  have objects := funext (objectAt?_withInteger long)
  dsimp only [bind, Option.bind] at objects
  rw [objects]
  exact parts _

end

/-! ### A dictionary with an integer for its key -/

/-- A dictionary of one key, up to the integer that this key is. -/
def beforeKey : List UInt8 := [98, 112, 108, 105, 115, 116, 48, 48, 209, 1, 2, 27]

/-- The empty dictionary under the key, the places of the objects, and the trailer. -/
def behindKey : List UInt8 :=
  [208, 0, 8, 0, 11, 8, 12, 0, 0, 0, 0, 0, 0, 2, 1, 0, 0, 0, 0, 0, 0, 0, 3, 0, 0, 0, 0, 0, 0, 0, 0,
    0, 0, 0, 0, 0, 0, 8, 13]

/-- The dictionary with an integer of 2048 bytes for its key. -/
def withKey (digits : List UInt8) : List UInt8 := beforeKey ++ digits ++ behindKey

/-- The objects of the dictionary, by their numbers. -/
def keyedParts (n : Int) : List Object := [.dict [1] [2], .scalar (.int n), .dict [] []]

section

variable {digits : List UInt8} (long : digits.length = 2048)

include long

theorem length_beforeKey_append : (beforeKey ++ digits).length = 2060 := by
  rw [List.length_append, long]
  rfl

/-- The layout of the dictionary does not depend on the integer in it. -/
theorem layout?_withKey :
    layout? (withKey digits).toArray = some ⟨1, #[8, 11, 2060], 0⟩ := by
  have stands : trailerNumber behindKey 24 8 = (beforeKey ++ digits).length + 1 := by
    rw [length_beforeKey_append long]
    decide
  exact layout?_back (by decide) stands (by decide) (by decide)

/-- The objects of the dictionary are read at their places. -/
theorem objectAt?_withKey (object : Nat) :
    #[8, 11, 2060][object]?.bind
        (objectAt? (withKey digits).toArray ⟨1, #[8, 11, 2060], 0⟩ object) =
      (keyedParts (signedNumber digits))[object]? := by
  have token (start : Nat) (inside : start + 1 ≤ 12) :
      numberAt? (withKey digits).toArray start 1 =
        some (number ((beforeKey.drop start).take 1)) := by
    rw [withKey, List.append_assoc]
    exact numberAt?_front inside
  have ref (start : Nat) (inside : start + 1 * 1 ≤ 12) :
      numbersAt? (withKey digits).toArray start 1 1 =
        some [number ((beforeKey.drop start).take 1)] := by
    rw [withKey, List.append_assoc]
    exact numbersAt?_front inside (by decide)
  have whole : upTo (withKey digits).toArray 12 (2 ^ 11) = digits := by
    have before : beforeKey.length = 12 := rfl
    unfold upTo withKey
    simp [before, long]
  have behind : numberAt? (withKey digits).toArray 2060 1 = some 208 := by
    rw [← length_beforeKey_append long]
    exact @numberAt?_back (beforeKey ++ digits) behindKey 0 1 (by decide)
  have none : numbersAt? (withKey digits).toArray 2061 0 1 = some [] := by
    have listed := @numbersAt?_back (beforeKey ++ digits) behindKey 1 0 1 (by decide) (by decide)
    rwa [length_beforeKey_append long] at listed
  match object with
  | 0 =>
    exact objectAt?_dict (token 8 (by decide)) (by decide) (ref 9 (by decide)) (ref 10 (by decide))
  | 1 => exact objectAt?_integer (token 11 (by decide)) (by decide) (by decide) whole
  | 2 => exact objectAt?_dict behind (by decide) none none
  | object + 3 => rfl

/-- An integer of 2048 bytes is read as the number that they spell where it is a key, too. -/
theorem read?_withKey :
    Plist.read? (withKey digits) =
      some (.dict [(.int (signedNumber digits), .dict [])]) := by
  have form : form? (withKey digits) = some .binary := rfl
  have parts (n : Int) : Object.read? (fun object => (keyedParts n)[object]?) 3 0 =
      some (.dict [(.int n, .dict [])]) := by
    cbv
  unfold Plist.read? Binary.read?
  rw [form]
  dsimp only
  rw [layout?_withKey long]
  dsimp only [bind, Option.bind]
  have objects := funext (objectAt?_withKey long)
  dsimp only [bind, Option.bind] at objects
  rw [objects]
  exact parts _

end

/-- The bytes of an integer that has more digits in decimal than can be written. -/
def longDigits : List UInt8 := 127 :: List.replicate 2047 255

theorem length_longDigits : longDigits.length = 2048 := by
  rw [longDigits, List.length_cons, List.length_replicate]

theorem le_longDigits : 10 ^ Text.maxDigits ≤ (signedNumber longDigits).natAbs := by
  have positive : signedNumber longDigits = number longDigits := rfl
  have split := number_cons 127 (List.replicate 2047 255)
  have size : (List.replicate 2047 (255 : UInt8)).length = 2047 := List.length_replicate
  have first : (127 : UInt8).toNat = 127 := rfl
  have enough : 10 ^ Text.maxDigits ≤ 256 ^ 2047 * 127 := by decide +kernel
  rw [size, first] at split
  rw [positive, Int.natAbs_natCast, longDigits, split]
  generalize 256 ^ 2047 = power at enough ⊢
  omega

end CodecTables.Plist.Binary
