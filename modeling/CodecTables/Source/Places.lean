/-!
# Places in a list

Places count from zero at the front, and from minus one backwards at the end. A slice runs from a
place up to but not including another one, by a step that may be negative.
-/

namespace CodecTables.Source

variable {α : Type}

/-- The element at a place, from either end. -/
def at? (items : List α) (place : Int) : Option α :=
  if place < 0 then
    if place + items.length < 0 then none else items[(place + items.length).toNat]?
  else items[place.toNat]?

/-- A bound of a slice, counted from either end and moved into the given range. -/
def clampPlace (length low high bound : Int) : Int :=
  let place := if bound < 0 then bound + length else bound
  max low (min high place)

/-- So many elements from a place on, by a step. -/
def stride (items : List α) (step : Int) : Nat → Int → List α
  | 0, _ => []
  | n + 1, place =>
    match at? items place with
    | some item => item :: stride items step n (place + step)
    | none => []

/-- A slice; a missing bound is the end that the step leads from or to. There is none for a step of
zero. -/
def slice? (items : List α) (start stop step : Option Int) : Option (List α) :=
  let length : Int := items.length
  let step := step.getD 1
  if step = 0 then none
  else if 0 < step then
    let first := (start.map (clampPlace length 0 length)).getD 0
    let last := (stop.map (clampPlace length 0 length)).getD length
    some (stride items step ((last - first + step - 1) / step).toNat first)
  else
    let first := (start.map (clampPlace length (-1) (length - 1))).getD (length - 1)
    let last := (stop.map (clampPlace length (-1) (length - 1))).getD (-1)
    some (stride items step ((first - last - step - 1) / -step).toNat first)

end CodecTables.Source
