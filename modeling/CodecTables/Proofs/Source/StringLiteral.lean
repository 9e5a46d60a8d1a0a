import CodecTables.Proofs.Source.Escape
import CodecTables.Proofs.Source.Printing

/-!
# String literals are read back

A reader of string literals takes a backslash with one more character, or with up to three octal
digits, for one character, and stops at the first quote that is not escaped (`readString?`). Behind
the opening quote of a printed literal it reads the content and leaves what follows the literal,
whatever that is; and nothing in the literal is a control character (`string_reads_back`).
-/

namespace CodecTables.Source

/-! ### The reader -/

/-- The character is an octal digit. -/
def isOctalDigit (c : Char) : Bool := '0' ≤ c && c ≤ '7'

/-- The character that a single character after a backslash stands for. -/
def shortEscape? : Char → Option Char
  | 'n' => some '\n'
  | 'r' => some '\r'
  | 't' => some '\t'
  | '"' => some '"'
  | '\\' => some '\\'
  | _ => none

/-- Reads one character from its octal digits, which are taken as far as there are any, but no more
than three, and gives what comes after them. -/
def readOctal? (cs : List Char) : Option (Char × List Char) :=
  let digits := (cs.take 3).takeWhile isOctalDigit
  if digits.isEmpty then none
  else some (.ofNat (Nat.ofDigitChars 8 digits 0), cs.drop digits.length)

/-- Reads what stands for one character after a backslash, and gives what comes after it. -/
def readEscape? : List Char → Option (Char × List Char)
  | [] => none
  | c :: rest =>
    match shortEscape? c with
    | some escaped => some (escaped, rest)
    | none => readOctal? (c :: rest)

theorem length_lt_of_readOctal? {cs rest : List Char} {c : Char}
    (read : readOctal? cs = some (c, rest)) : rest.length < cs.length := by
  unfold readOctal? at read
  have within := (List.takeWhile_prefix isOctalDigit (l := cs.take 3)).length_le
  have taken := List.length_take_le' 3 cs
  generalize (cs.take 3).takeWhile isOctalDigit = digits at read within
  by_cases none : digits.isEmpty
  · simp [none] at read
  · have some : 0 < digits.length := List.length_pos_iff.mpr (by simpa using none)
    simp only [none, Bool.false_eq_true, ↓reduceIte, Option.some.injEq, Prod.mk.injEq] at read
    rw [← read.2, List.length_drop]
    omega

theorem length_lt_of_readEscape? {cs rest : List Char} {c : Char}
    (read : readEscape? cs = some (c, rest)) : rest.length < cs.length := by
  cases cs with
  | nil => cases read
  | cons d cs =>
    cases short : shortEscape? d with
    | some escaped =>
      simp only [readEscape?, short, Option.some.injEq, Prod.mk.injEq] at read
      rw [← read.2]
      exact Nat.lt_succ_self _
    | none =>
      simp only [readEscape?, short] at read
      exact length_lt_of_readOctal? read

/-- Reads a string literal from behind its opening quote: the content up to the first quote that is
not escaped, and what comes after this quote. -/
def readString? : List Char → Option (List Char × List Char)
  | [] => none
  | '"' :: rest => some ([], rest)
  | '\\' :: rest =>
    match read : readEscape? rest with
    | none => none
    | some (c, later) =>
      have : later.length < rest.length := length_lt_of_readEscape? read
      (readString? later).map fun (content, after) => (c :: content, after)
  | c :: rest => (readString? rest).map fun (content, after) => (c :: content, after)
termination_by cs => cs.length

theorem readString?_quote (rest : List Char) : readString? ('"' :: rest) = some ([], rest) := by
  rw [readString?]

/-- An escape stands for its character. -/
theorem readString?_escape {rest later : List Char} {c : Char}
    (read : readEscape? rest = some (c, later)) :
    readString? ('\\' :: rest) =
      (readString? later).map fun (content, after) => (c :: content, after) := by
  rw [readString?]
  split
  next none =>
    rw [read] at none
    cases none
  next d rest' same =>
    rw [read] at same
    cases same
    rfl

/-- A character other than a quote or a backslash stands for itself. -/
theorem readString?_plain {c : Char} (quote : c ≠ '"') (backslash : c ≠ '\\') (rest : List Char) :
    readString? (c :: rest) =
      (readString? rest).map fun (content, after) => (c :: content, after) := by
  rw [readString?]
  · exact fun same => quote same
  · exact fun same => backslash same

/-! ### Escaped characters -/

theorem isOctalDigit_digitChar {digit : Nat} (small : digit < 8) :
    isOctalDigit digit.digitChar = true := by
  revert digit
  decide

/-- An octal digit is no letter of an escape. -/
theorem shortEscape?_digitChar {digit : Nat} (small : digit < 8) :
    shortEscape? digit.digitChar = none := by
  revert digit
  decide

/-- Three octal digits are read as one character, also before another digit. -/
theorem readEscape?_octal3 {n : Nat} (small : n < 512) (rest : List Char) :
    readEscape? (octal3 n ++ rest) = some (.ofNat n, rest) := by
  have first : n / 64 % 8 < 8 := Nat.mod_lt _ (by decide)
  have second : n / 8 % 8 < 8 := Nat.mod_lt _ (by decide)
  have third : n % 8 < 8 := Nat.mod_lt _ (by decide)
  have digits : (octal3 n).takeWhile isOctalDigit = octal3 n := by
    simp [octal3, isOctalDigit_digitChar, first, second, third]
  have number : Nat.ofDigitChars 8 (octal3 n) 0 = n := by
    unfold octal3
    rw [Nat.ofDigitChars_cons_digitChar_of_lt_ten (by omega),
      Nat.ofDigitChars_cons_digitChar_of_lt_ten (by omega),
      Nat.ofDigitChars_cons_digitChar_of_lt_ten (by omega), Nat.ofDigitChars_nil]
    omega
  have read : readOctal? (octal3 n ++ rest) = some (.ofNat n, rest) := by
    have three : (octal3 n ++ rest).take 3 = octal3 n := rfl
    simp only [readOctal?, three, digits, number]
    rfl
  rw [← read]
  simp [octal3, readEscape?, shortEscape?_digitChar first]

/-- An escaped character is read as this character, whatever comes after it. -/
theorem readString?_escapeChar (c : Char) (rest : List Char) :
    readString? (escapeChar c ++ rest) =
      (readString? rest).map fun (content, after) => (c :: content, after) := by
  by_cases backslash : c = '\\'
  · subst backslash
    exact readString?_escape rfl
  by_cases quote : c = '"'
  · subst quote
    exact readString?_escape rfl
  by_cases newline : c = '\n'
  · subst newline
    exact readString?_escape rfl
  by_cases carriage : c = '\r'
  · subst carriage
    exact readString?_escape rfl
  by_cases tab : c = '\t'
  · subst tab
    exact readString?_escape rfl
  rw [escapeChar, if_neg backslash, if_neg quote, if_neg newline, if_neg carriage, if_neg tab]
  by_cases control : c.toNat < 0x20 ∨ c.toNat = 0x7f
  · have read := readEscape?_octal3 (n := c.toNat) (by omega) rest
    rw [Char.ofNat_toNat] at read
    rw [if_pos control]
    exact readString?_escape read
  · rw [if_neg control]
    exact readString?_plain quote backslash rest

/-- The first quote that is not escaped is the one after the escaped text. -/
theorem readString?_escaped (content rest : List Char) :
    readString? (content.flatMap escapeChar ++ '"' :: rest) = some (content, rest) := by
  induction content with
  | nil => exact readString?_quote rest
  | cons c content ih =>
    rw [List.flatMap_cons, List.append_assoc, readString?_escapeChar, ih]
    rfl

/-! ### Control characters -/

/-- The control characters of ASCII. -/
def isControl (c : Char) : Bool := c.toNat < 0x20 || c.toNat == 0x7f

theorem isControl_digitChar {digit : Nat} (small : digit < 8) :
    isControl digit.digitChar = false := by
  revert digit
  decide

/-- An octal escape holds no control character. -/
theorem isControl_of_mem_octal3 {n : Nat} {c : Char} (member : c ∈ octal3 n) :
    isControl c = false := by
  simp only [octal3, List.mem_cons, List.not_mem_nil, or_false] at member
  rcases member with rfl | rfl | rfl <;> exact isControl_digitChar (Nat.mod_lt _ (by decide))

/-- A character with a short escape is given by a backslash and a mark. -/
theorem escapeChar_short {c : Char}
    (short : c = '\\' ∨ c = '"' ∨ c = '\n' ∨ c = '\r' ∨ c = '\t') :
    ∃ mark, isControl mark = false ∧ escapeChar c = ['\\', mark] := by
  rcases short with rfl | rfl | rfl | rfl | rfl
  · exact ⟨'\\', rfl, rfl⟩
  · exact ⟨'"', rfl, rfl⟩
  · exact ⟨'n', rfl, rfl⟩
  · exact ⟨'r', rfl, rfl⟩
  · exact ⟨'t', rfl, rfl⟩

/-- What stands for a character in a literal holds no control character. -/
theorem isControl_of_mem_escapeChar {c d : Char} (member : d ∈ escapeChar c) :
    isControl d = false := by
  by_cases short : c = '\\' ∨ c = '"' ∨ c = '\n' ∨ c = '\r' ∨ c = '\t'
  · obtain ⟨mark, printed, escaped⟩ := escapeChar_short short
    rw [escaped] at member
    rcases List.mem_cons.mp member with rfl | last
    · rfl
    · rw [List.mem_singleton.mp last]
      exact printed
  simp only [not_or] at short
  obtain ⟨backslash, quote, newline, carriage, tab⟩ := short
  rw [escapeChar, if_neg backslash, if_neg quote, if_neg newline, if_neg carriage, if_neg tab]
    at member
  by_cases control : c.toNat < 0x20 ∨ c.toNat = 0x7f
  · rw [if_pos control] at member
    rcases List.mem_cons.mp member with rfl | digit
    · decide
    · exact isControl_of_mem_octal3 digit
  · rw [if_neg control, List.mem_singleton] at member
    subst member
    simpa [isControl] using control

/-! ### Printed literals -/

/-- A string literal is printed on a single line, whatever its content is. -/
theorem render_string (unit content : String) :
    (Node.string content).render unit =
      .ok (String.ofList ('"' :: (content.toList.flatMap escapeChar ++ ['"']))) := by
  have spelled : "\"" ++ escape content ++ "\"" =
      String.ofList ('"' :: (content.toList.flatMap escapeChar ++ ['"'])) := by
    apply String.toList_inj.mp
    simp [escape]
  have line : '\n' ∉ ("\"" ++ escape content ++ "\"").toList := by
    simp [newline_notMem_escape]
  rw [← spelled]
  exact render_of_print rfl line unit

/-- A printed string literal is read back from behind its opening quote, whatever follows it, and
holds no control character. So different contents are escaped differently. -/
theorem string_reads_back :
    (∀ unit content : String, ∃ tail : List Char,
      (Node.string content).render unit = .ok (String.ofList ('"' :: tail)) ∧
        (∀ rest, readString? (tail ++ rest) = some (content.toList, rest)) ∧
        ∀ c ∈ '"' :: tail, isControl c = false) ∧
      Function.Injective escape := by
  constructor
  · intro unit content
    refine ⟨_, render_string unit content, fun rest => ?_, fun c member => ?_⟩
    · rw [List.append_assoc]
      exact readString?_escaped content.toList rest
    · have quote : isControl '"' = false := by decide
      rcases List.mem_cons.mp member with rfl | inside
      · exact quote
      rcases List.mem_append.mp inside with escaped | last
      · obtain ⟨d, _, written⟩ := List.mem_flatMap.mp escaped
        exact isControl_of_mem_escapeChar written
      · rw [List.mem_singleton.mp last]
        exact quote
  · intro content content' same
    have texts : content.toList.flatMap escapeChar = content'.toList.flatMap escapeChar :=
      String.ofList_injective same
    have read := readString?_escaped content.toList []
    rw [texts, readString?_escaped] at read
    exact String.toList_inj.mp (congrArg Prod.fst (Option.some.inj read)).symm

end CodecTables.Source
