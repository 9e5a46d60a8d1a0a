import CodecTables.Proofs.Source.Hexadecimal

/-!
# Rows of bytes

Data is printed in braces on rows of sixteen bytes (`byteLines`), with a comma and a blank between
two bytes of a row and a comma at the end of every row but the last. The printer decides at each
byte what comes after it (`separator`); a row is what it writes up to a place that sixteen divides
(`spell_eq_byteLines`). The numbers of the rows are the data again (`bytes_read_back`).
-/

namespace CodecTables.Source

open Print

/-! ### The form of the rows -/

/-- A byte with two digits. -/
def byteText (b : UInt8) : List Char :=
  ['0', 'x', Text.upperDigit (b.toNat / 16).digitChar, Text.upperDigit (b.toNat % 16).digitChar]

/-- The bytes of a row with commas between them. -/
def rowText (row : List UInt8) : List Char := [',', ' '].intercalate (row.map byteText)

/-- The lines of data without their indentation. There is an empty one if there is no byte. -/
def byteLines (data : List UInt8) : List (List Char) :=
  if bytesPerLine < data.length then
    (rowText (data.take bytesPerLine) ++ [',']) :: byteLines (data.drop bytesPerLine)
  else [rowText data]
termination_by data.length
decreasing_by
  rw [List.length_drop]
  unfold bytesPerLine at *
  omega

/-- Data that fits on a line is one line. -/
theorem byteLines_short {data : List UInt8} (short : data.length ≤ bytesPerLine) :
    byteLines data = [rowText data] := by
  rw [byteLines, if_neg (Nat.not_lt.mpr short)]

/-- Longer data begins with a full line, which ends in a comma. -/
theorem byteLines_long {data : List UInt8} (long : bytesPerLine < data.length) :
    byteLines data =
      (rowText (data.take bytesPerLine) ++ [',']) :: byteLines (data.drop bytesPerLine) := by
  rw [byteLines, if_pos long]

/-- There is at least one line. -/
theorem byteLines_ne_nil (data : List UInt8) : byteLines data ≠ [] := by
  unfold byteLines
  split
  · exact List.cons_ne_nil _ _
  · exact List.cons_ne_nil _ _

/-- There is a line for every sixteen bytes and one for those that are left. -/
theorem length_byteLines {data : List UInt8} (present : data ≠ []) :
    (byteLines data).length = (data.length + 15) / 16 := by
  have inhabited := List.length_pos_iff.mpr present
  induction data using byteLines.induct with
  | case1 data long ih =>
    have left : 0 < (data.drop bytesPerLine).length := by
      rw [List.length_drop]
      omega
    have later := ih (List.length_pos_iff.mp left) left
    rw [List.length_drop] at later
    rw [byteLines_long long, List.length_cons, later]
    unfold bytesPerLine at *
    omega
  | case2 data short =>
    rw [byteLines_short (Nat.not_lt.mp short), List.length_singleton]
    unfold bytesPerLine at short
    omega

/-- Each line holds the bytes from its place on, and ends with a comma unless it is the last. -/
theorem getElem?_byteLines (data : List UInt8) {k : Nat} (inside : k < (byteLines data).length) :
    (byteLines data)[k]? = some (rowText ((data.drop (bytesPerLine * k)).take bytesPerLine) ++
      if k + 1 < (byteLines data).length then [','] else []) := by
  induction data using byteLines.induct generalizing k with
  | case1 data long ih =>
    rw [byteLines_long long] at inside ⊢
    cases k with
    | zero =>
      have more := List.length_pos_iff.mpr (byteLines_ne_nil (data.drop bytesPerLine))
      simp [more]
    | succ k =>
      have later := ih (Nat.lt_of_succ_lt_succ inside)
      rw [List.drop_drop] at later
      rw [List.getElem?_cons_succ, later, Nat.mul_succ, Nat.add_comm bytesPerLine]
      simp
  | case2 data short =>
    have short := Nat.not_lt.mp short
    rw [byteLines_short short] at inside ⊢
    have first : k = 0 := by simpa using inside
    subst first
    simp [List.take_of_length_le short]

/-! ### What the printer writes -/

/-- The text between the byte at a place and the next one. -/
def separator (place : Nat) : List Char :=
  if (place + 1) % bytesPerLine = 0 then [',', '\n'] else [',', ' ']

/-- Bytes with the texts between them, where the first one has the given place. -/
def spell (place : Nat) : List UInt8 → List Char
  | [] => []
  | [b] => byteText b
  | b :: next :: rest => byteText b ++ (separator place ++ spell (place + 1) (next :: rest))

/-- A byte that is not the last is followed by a separator. -/
theorem spell_cons_cons (place : Nat) (b next : UInt8) (rest : List UInt8) :
    spell place (b :: next :: rest) =
      byteText b ++ (separator place ++ spell (place + 1) (next :: rest)) := rfl

/-- A byte needs no more than its two digits. -/
theorem padded_byte (b : UInt8) :
    Text.padded Text.hexDigits 2 b.toNat =
      [Text.upperDigit (b.toNat / 16).digitChar, Text.upperDigit (b.toNat % 16).digitChar] := by
  have small := b.toNat_lt
  have unsigned : Text.signOf b.toNat = [] := if_neg (by omega)
  rw [Text.padded, unsigned, Int.natAbs_natCast, Text.hexDigits_eq]
  by_cases single : b.toNat < 16
  · have front : b.toNat / 16 = 0 := by omega
    have last : b.toNat % 16 = b.toNat := by omega
    have zero : Text.upperDigit (Nat.digitChar 0) = '0' := by decide
    rw [if_pos single, front, last, zero]
    rfl
  · have front : b.toNat / 16 < 16 := by omega
    rw [if_neg single, Text.hexDigits_eq, if_pos front]
    rfl

/-- A byte is printed with two digits. -/
theorem print_byte (b : UInt8) :
    (Node.hexInteger b.toNat Node.defaultWidth).print = write (String.ofList (byteText b)) := by
  have two : Text.lengthOf .format (max (Int.fdiv Node.defaultWidth 4) 1) = .ok 2 :=
    Text.lengthOf_eq_ok_iff.mpr (by decide)
  have spelled : hexSpelling b.toNat Node.defaultWidth = String.ofList (byteText b) := by
    apply String.toList_inj.mp
    rw [toList_hexSpelling, String.toList_ofList]
    exact congrArg ('0' :: 'x' :: ·) (padded_byte b)
  exact (print_hexOf two).trans (congrArg write spelled)

/-- The break after a byte is the separator of its place. -/
theorem rowBreak_eq_write (place : Nat) :
    rowBreak place = write (String.ofList (separator place)) := by
  unfold rowBreak separator
  split
  · rfl
  · rfl

/-- Texts that are written one after the other are written as one. -/
theorem write_bind_write (cs ds : List Char) :
    (do
      write (String.ofList cs)
      write (String.ofList ds)) = write (String.ofList (cs ++ ds)) := by
  funext w
  change (Except.ok (), (w.write (String.ofList cs)).write (String.ofList ds)) =
    (Except.ok (), w.write (String.ofList (cs ++ ds)))
  rw [String.ofList_append, Writer.write_append]

/-- Bytes are printed as they are spelled. -/
theorem printRows_bytes (place : Nat) (data : List UInt8) :
    printRows place (data.map fun b => .hexInteger b.toNat Node.defaultWidth) =
      write (String.ofList (spell place data)) := by
  induction data generalizing place with
  | nil => rfl
  | cons b rest ih =>
    cases rest with
    | nil =>
      rw [List.map_singleton, printRows_singleton, print_byte]
      rfl
    | cons next rest =>
      have later := ih (place + 1)
      rw [List.map_cons] at later
      rw [List.map_cons, List.map_cons, printRows_cons_cons, later, print_byte, rowBreak_eq_write,
        write_bind_write, write_bind_write, spell_cons_cons]

/-! ### Rows among what is written -/

theorem rowText_cons_cons (b next : UInt8) (rest : List UInt8) :
    rowText (b :: next :: rest) = byteText b ++ ([',', ' '] ++ rowText (next :: rest)) := by
  simp only [rowText, List.map_cons, List.intercalate_cons_cons, List.append_assoc]

/-- Bytes that do not fill up the row from their place on are written as a row. -/
theorem spell_inside {place : Nat} {row : List UInt8}
    (inside : place % bytesPerLine + row.length ≤ bytesPerLine) :
    spell place row = rowText row := by
  induction row generalizing place with
  | nil => rfl
  | cons b rest ih =>
    cases rest with
    | nil => simp [spell, rowText]
    | cons next rest =>
      simp only [List.length_cons] at inside ih
      have middle : (place + 1) % bytesPerLine = place % bytesPerLine + 1 := by
        unfold bytesPerLine at *
        omega
      have blank : separator place = [',', ' '] := by
        rw [separator, middle, if_neg (Nat.succ_ne_zero _)]
      rw [spell_cons_cons, blank, ih (by omega), rowText_cons_cons]

/-- Bytes that fill up the row from their place on are written as a row, and the others begin the
next line. -/
theorem spell_full {place : Nat} {row rest : List UInt8} (present : row ≠ []) (more : rest ≠ [])
    (full : place % bytesPerLine + row.length = bytesPerLine) :
    spell place (row ++ rest) =
      rowText row ++ [','] ++ '\n' :: spell (place + row.length) rest := by
  induction row generalizing place with
  | nil => exact absurd rfl present
  | cons b row ih =>
    cases row with
    | nil =>
      obtain ⟨next, rest, rfl⟩ := List.exists_cons_of_ne_nil more
      have last : (place + 1) % bytesPerLine = 0 := by
        simp only [List.length_singleton] at full
        unfold bytesPerLine at *
        omega
      rw [List.singleton_append, spell_cons_cons, separator, if_pos last]
      simp [rowText]
    | cons next row =>
      simp only [List.length_cons] at full ih
      have middle : (place + 1) % bytesPerLine = place % bytesPerLine + 1 := by
        unfold bytesPerLine at *
        omega
      have blank : separator place = [',', ' '] := by
        rw [separator, middle, if_neg (Nat.succ_ne_zero _)]
      have fills : (place + 1) % bytesPerLine + (row.length + 1) = bytesPerLine := by omega
      have later := ih (List.cons_ne_nil _ _) fills
      rw [List.cons_append] at later
      rw [List.cons_append, List.cons_append, spell_cons_cons, blank, later, rowText_cons_cons,
        List.length_cons, Nat.add_assoc place 1, Nat.add_comm 1]
      simp

/-- From the start of a row on, the rows are written with line breaks between them. -/
theorem spell_eq_byteLines {place : Nat} (data : List UInt8) (begins : place % bytesPerLine = 0) :
    spell place data = ['\n'].intercalate (byteLines data) := by
  induction data using byteLines.induct generalizing place with
  | case1 data long ih =>
    have length : (data.take bytesPerLine).length = bytesPerLine :=
      List.length_take_of_le (Nat.le_of_lt long)
    have present : data.take bytesPerLine ≠ [] := by
      rw [← List.length_pos_iff, length]
      decide
    have more : data.drop bytesPerLine ≠ [] := by
      rw [← List.length_pos_iff, List.length_drop]
      omega
    have fills : place % bytesPerLine + (data.take bytesPerLine).length = bytesPerLine := by
      rw [begins, length, Nat.zero_add]
    have row := spell_full present more fills
    have begins' : (place + bytesPerLine) % bytesPerLine = 0 := by rw [Nat.add_mod_right, begins]
    rw [List.take_append_drop, length, ih begins'] at row
    rw [row, byteLines_long long, List.intercalate_cons_of_ne_nil (byteLines_ne_nil _)]
    simp
  | case2 data short =>
    have short := Nat.not_lt.mp short
    rw [byteLines_short short, List.intercalate_singleton]
    exact spell_inside (by rwa [begins, Nat.zero_add])

/-! ### Printed data -/

theorem newline_notMem_rowText (row : List UInt8) : '\n' ∉ rowText row := by
  have digit {n : Nat} (small : n < 16) : '\n' ≠ Text.upperDigit n.digitChar := by
    intro same
    have hex := Text.isUpperHex_upperDigit small
    rw [← same] at hex
    exact absurd hex (by decide)
  have inside (b : UInt8) : '\n' ∉ byteText b := by
    have small := b.toNat_lt
    have first := digit (n := b.toNat / 16) (by omega)
    have second := digit (n := b.toNat % 16) (by omega)
    simp [byteText, first, second]
  induction row with
  | nil => exact List.not_mem_nil
  | cons b rest ih =>
    cases rest with
    | nil => simpa [rowText] using inside b
    | cons next rest =>
      rw [rowText_cons_cons]
      simp [inside b, ih]

theorem newline_notMem_byteLines (data : List UInt8) : ∀ line ∈ byteLines data, '\n' ∉ line := by
  induction data using byteLines.induct with
  | case1 data long ih =>
    rw [byteLines_long long]
    intro line member
    rcases List.mem_cons.mp member with rfl | later
    · simp [newline_notMem_rowText]
    · exact ih line later
  | case2 data short =>
    rw [byteLines_short (Nat.not_lt.mp short)]
    intro line member
    rw [List.mem_singleton.mp member]
    exact newline_notMem_rowText data

theorem intercalate_append_singleton {sep : List Char} {lines : List (List Char)}
    (some : lines ≠ []) (last : List Char) :
    sep.intercalate (lines ++ [last]) = sep.intercalate lines ++ sep ++ last := by
  induction lines with
  | nil => exact absurd rfl some
  | cons line rest ih =>
    cases rest with
    | nil => simp
    | cons next rest =>
      have later := ih (List.cons_ne_nil _ _)
      simp only [List.cons_append, List.intercalate_cons_cons, List.append_assoc] at later ⊢
      rw [later]

/-- Lines between braces are the lines of one text. -/
theorem intercalate_braces {lines : List (List Char)} (some : lines ≠ []) :
    ['\n'].intercalate (['\x7b'] :: lines ++ [['\x7d']]) =
      ['\x7b', '\n'] ++ ['\n'].intercalate lines ++ ['\n', '\x7d'] := by
  rw [List.cons_append, List.intercalate_cons_of_ne_nil (List.append_ne_nil_of_left_ne_nil some _),
    intercalate_append_singleton some]
  simp

/-- Data is printed in brackets, with its lines between them and one level deeper. -/
theorem print_bytesOf (data : List UInt8) :
    (bytesOf data).print = (do
      writeLine "\x7b"
      indented (write (String.ofList (['\n'].intercalate (byteLines data))))
      writeLine ""
      write "\x7d") := by
  rw [← spell_eq_byteLines data (Nat.zero_mod _), ← printRows_bytes]
  rfl

/-- The lines of printed data stand in braces, each with one level of indentation. -/
theorem render_bytesOf (unit : String) (data : List UInt8) :
    (bytesOf data).render unit = .ok (String.ofList (['\n'].intercalate
      (['\x7b'] :: (byteLines data).map (Writer.start unit).indent.marginLine ++ [['\x7d']]))) := by
  let opened := ((Writer.start unit).writeLine "\x7b").indent
  let rows := opened.write (String.ofList (['\n'].intercalate (byteLines data)))
  let closed := rows.outdent.writeLine ""
  have text : (bytesOf data).render unit = .ok (closed.write "\x7d").text := by
    unfold Node.render
    rw [print_bytesOf]
    rfl
  have before : opened.chars = ['\x7b', '\n'] :=
    Writer.chars_writeLine (.start unit) (by decide) (by decide)
  have margins : opened.marginLine = (Writer.start unit).indent.marginLine :=
    Writer.marginLine_congr (congrArg (· + 1) (Writer.level_writeLine _ _)) (Writer.unit_write _ _)
  have inner : rows.chars = opened.chars ++ ['\n'].intercalate
      ((byteLines data).map opened.marginLine) :=
    Writer.chars_write_lines rfl (newline_notMem_byteLines data)
  have level : closed.level = 0 := by
    simp only [closed, rows, opened, Writer.level_writeLine, Writer.level_write,
      Writer.level_outdent, Writer.level_indent, Writer.start]
  have whole : (closed.write "\x7d").chars =
      opened.chars ++ ['\n'].intercalate ((byteLines data).map opened.marginLine) ++
        ['\n', '\x7d'] := by
    have last : closed.chars = rows.chars ++ ['\n'] := Writer.chars_writeLine_nil rows.outdent
    rw [Writer.chars_write closed (by decide) (by decide), Writer.lead_of_level level, last, inner]
    simp
  rw [text]
  refine congrArg Except.ok (String.toList_inj.mp ?_)
  change (closed.write "\x7d").chars = _
  have some : (byteLines data).map (Writer.start unit).indent.marginLine ≠ [] := by
    simpa using byteLines_ne_nil data
  rw [whole, before, margins, String.toList_ofList, intercalate_braces some]

/-! ### Reading the numbers back -/

/-- The hexadecimal numbers in a text, in their order: after each mark `0x`, the digits as far as
there are any. -/
def readHexNumbers : List Char → List Nat
  | [] => []
  | '0' :: 'x' :: rest =>
    Text.hexNumber (rest.takeWhile Text.isUpperHex) ::
      readHexNumbers (rest.dropWhile Text.isUpperHex)
  | _ :: rest => readHexNumbers rest
termination_by cs => cs.length
decreasing_by
  · have shorter := (List.dropWhile_suffix Text.isUpperHex (l := rest)).length_le
    simp only [List.length_cons]
    omega
  · exact Nat.lt_succ_self _

theorem readHexNumbers_nil : readHexNumbers [] = [] := by rw [readHexNumbers]

/-- A mark of a hexadecimal number is followed by its digits. -/
theorem readHexNumbers_mark (rest : List Char) :
    readHexNumbers ('0' :: 'x' :: rest) =
      Text.hexNumber (rest.takeWhile Text.isUpperHex) ::
        readHexNumbers (rest.dropWhile Text.isUpperHex) := by
  rw [readHexNumbers]

/-- What is not a mark is passed over. -/
theorem readHexNumbers_other {c : Char} (other : c ≠ '0') (rest : List Char) :
    readHexNumbers (c :: rest) = readHexNumbers rest := by
  rw [readHexNumbers]
  exact fun _ same _ => other same

/-- A byte is read from its text, up to a comma or the end. -/
theorem readHexNumbers_byteText (b : UInt8) {rest : List Char}
    (ends : rest = [] ∨ ∃ more, rest = ',' :: more) :
    readHexNumbers (byteText b ++ rest) = b.toNat :: readHexNumbers rest := by
  have small := b.toNat_lt
  have first : b.toNat / 16 < 16 := by omega
  have second : b.toNat % 16 < 16 := by omega
  let digits := [Text.upperDigit (b.toNat / 16).digitChar, Text.upperDigit (b.toNat % 16).digitChar]
  have hex : ∀ d ∈ digits, Text.isUpperHex d = true := by
    intro d member
    simp only [digits, List.mem_cons, List.not_mem_nil, or_false] at member
    rcases member with rfl | rfl
    · exact Text.isUpperHex_upperDigit first
    · exact Text.isUpperHex_upperDigit second
  have number : Text.hexNumber digits = b.toNat := by
    simp only [digits, Text.hexNumber, List.foldl_cons, List.foldl_nil,
      Text.upperDigitValue_upperDigit first, Text.upperDigitValue_upperDigit second]
    omega
  have stop : rest.takeWhile Text.isUpperHex = [] ∧ rest.dropWhile Text.isUpperHex = rest := by
    have comma : Text.isUpperHex ',' = false := by decide
    rcases ends with rfl | ⟨more, rfl⟩
    · exact ⟨rfl, rfl⟩
    · simp [comma]
  have mark : byteText b ++ rest = '0' :: 'x' :: (digits ++ rest) := rfl
  rw [mark, readHexNumbers_mark, List.takeWhile_append_of_pos hex, List.dropWhile_append_of_pos hex,
    stop.1, stop.2, List.append_nil, number]

/-- The bytes of a row are read back. -/
theorem readHexNumbers_rowText (row : List UInt8) {rest : List Char}
    (ends : rest = [] ∨ rest = [',']) :
    readHexNumbers (rowText row ++ rest) = row.map UInt8.toNat := by
  have after : readHexNumbers rest = [] := by
    rcases ends with rfl | rfl
    · exact readHexNumbers_nil
    · rw [readHexNumbers_other (by decide), readHexNumbers_nil]
  induction row with
  | nil => exact after
  | cons b row ih =>
    cases row with
    | nil =>
      have single : rowText [b] = byteText b := by simp [rowText]
      rw [single, readHexNumbers_byteText b (ends.imp id fun comma => ⟨[], comma⟩), after]
      rfl
    | cons next row =>
      have comma : readHexNumbers (',' :: ' ' :: (rowText (next :: row) ++ rest)) =
          readHexNumbers (rowText (next :: row) ++ rest) := by
        rw [readHexNumbers_other (by decide), readHexNumbers_other (by decide)]
      rw [rowText_cons_cons, List.append_assoc, List.append_assoc, List.cons_append,
        List.cons_append, List.nil_append, readHexNumbers_byteText b (.inr ⟨_, rfl⟩), comma, ih]
      rfl

/-- The bytes of all lines are read back. -/
theorem readHexNumbers_byteLines (data : List UInt8) :
    (byteLines data).flatMap readHexNumbers = data.map UInt8.toNat := by
  induction data using byteLines.induct with
  | case1 data long ih =>
    rw [byteLines_long long, List.flatMap_cons, ih, readHexNumbers_rowText _ (.inr rfl),
      ← List.map_append, List.take_append_drop]
  | case2 data short =>
    have row := readHexNumbers_rowText data (.inl rfl)
    rw [List.append_nil] at row
    rw [byteLines_short (Nat.not_lt.mp short), List.flatMap_singleton, row]

theorem marginLine_first (unit : String) {line : List Char} (inked : line ≠ []) :
    (Writer.start unit).indent.marginLine line = unit.toList ++ line := by
  have margin : (Writer.start unit).indent.margin = unit := by
    simp [Writer.margin, Writer.indent, Writer.start]
  rw [Writer.marginLine, margin, if_neg]
  simpa using inked

/-- The margin does not count for what is on a line. -/
theorem drop_marginLine (unit : String) (line : List Char) :
    ((Writer.start unit).indent.marginLine line).drop unit.length = line := by
  by_cases empty : line = []
  · subst empty
    exact List.drop_nil
  · rw [marginLine_first unit empty, ← String.length_toList, List.drop_left]

theorem newline_notMem_marginLine {unit : String} (single : '\n' ∉ unit.toList)
    {line : List Char} (single' : '\n' ∉ line) :
    '\n' ∉ (Writer.start unit).indent.marginLine line := by
  by_cases empty : line = []
  · subst empty
    exact List.not_mem_nil
  · rw [marginLine_first unit empty]
    exact fun member => (List.mem_append.mp member).elim single single'

theorem rowText_ne_nil {row : List UInt8} (present : row ≠ []) : rowText row ≠ [] := by
  obtain ⟨b, rest, rfl⟩ := List.exists_cons_of_ne_nil present
  cases rest with
  | nil => simp [rowText, byteText]
  | cons next rest => simp [rowText_cons_cons, byteText]

/-- Data is printed as an opening brace, the lines of its bytes and a closing brace. There is a line
for every sixteen bytes and one for those that are left; each is indented once and ends with a comma
unless it is the last one, and without bytes there is one empty line. The numbers on the lines are
the bytes, whatever the indentation is. -/
theorem bytes_read_back (unit : String) (data : List UInt8) (single : '\n' ∉ unit.toList) :
    ∃ text lines,
      (Constant.bytes data).literal? = .ok (bytesOf data) ∧
      (Constant.value (.scalar (.data data))).literal? = .ok (bytesOf data) ∧
      (bytesOf data).render unit = .ok text ∧
      text.toList.splitOn '\n' = ['\x7b'] :: lines ++ [['\x7d']] ∧
      (data = [] → lines = [[]]) ∧
      (data ≠ [] → lines.length = (data.length + 15) / 16 ∧
        ∀ k < lines.length, lines[k]? =
          some (unit.toList ++ (rowText ((data.drop (16 * k)).take 16) ++
            if k + 1 < lines.length then [','] else []))) ∧
      lines.flatMap (fun line => readHexNumbers (line.drop unit.length)) =
        data.map UInt8.toNat := by
  let lines := (byteLines data).map (Writer.start unit).indent.marginLine
  have count : lines.length = (byteLines data).length := List.length_map _
  have breaks : ∀ line ∈ ['\x7b'] :: lines ++ [['\x7d']], '\n' ∉ line := by
    intro line member
    simp only [lines, List.cons_append, List.mem_cons, List.mem_append, List.mem_map,
      List.not_mem_nil, or_false] at member
    obtain rfl | ⟨inner, listed, rfl⟩ | rfl := member
    · decide
    · exact newline_notMem_marginLine single (newline_notMem_byteLines data inner listed)
    · decide
  refine ⟨_, lines, rfl, rfl, render_bytesOf unit data, ?split, ?empty, ?rows, ?numbers⟩
  case split =>
    rw [String.toList_ofList]
    exact List.splitOn_intercalate '\n' breaks (List.cons_ne_nil _ _)
  case empty =>
    intro none
    have short : data.length ≤ bytesPerLine := by
      rw [none]
      exact Nat.zero_le _
    change (byteLines data).map _ = [[]]
    rw [byteLines_short short, none]
    rfl
  case rows =>
    intro present
    refine ⟨count.trans (length_byteLines present), fun k inside => ?_⟩
    rw [count] at inside
    have bytes : (data.drop (16 * k)).take 16 ≠ [] := by
      rw [length_byteLines present] at inside
      rw [← List.length_pos_iff, List.length_take, List.length_drop]
      omega
    have line := getElem?_byteLines data inside
    rw [List.getElem?_map, line, count]
    have inked : rowText ((data.drop (16 * k)).take 16) ++
        (if k + 1 < (byteLines data).length then [','] else []) ≠ [] :=
      List.append_ne_nil_of_left_ne_nil (rowText_ne_nil bytes) _
    exact congrArg some (marginLine_first unit inked)
  case numbers =>
    rw [← readHexNumbers_byteLines data, List.flatMap_map]
    simp only [drop_marginLine]

/-- Seventeen bytes take two lines. -/
theorem bytes_read_back_seventeen :
    ∃ text lines, (bytesOf (List.replicate 17 255)).render "\t" = .ok text ∧
      text.toList.splitOn '\n' = ['\x7b'] :: lines ++ [['\x7d']] ∧ lines.length = 2 ∧
      lines.flatMap (fun line => readHexNumbers (line.drop 1)) = List.replicate 17 255 := by
  have single : '\n' ∉ "\t".toList := by decide
  obtain ⟨text, lines, _, _, rendered, split, _, rows, numbers⟩ :=
    bytes_read_back "\t" (List.replicate 17 255) single
  exact ⟨text, lines, rendered, split, (rows (List.cons_ne_nil _ _)).1, numbers⟩

end CodecTables.Source
