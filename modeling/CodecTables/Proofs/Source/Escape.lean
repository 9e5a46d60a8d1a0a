import CodecTables.Source.Escape

/-!
# Escaped texts are read back

The first character of an escaped text is read back from it, whatever follows
(`unescape?_escapeChar`). A quote is always escaped, so the quote after an escaped text ends it, and
an escaped text is a single line.
-/

namespace CodecTables.Source

/-- Reads one character of an escaped text, and gives what comes after it. -/
def unescape? : List Char → Option (Char × List Char)
  | '\\' :: '\\' :: rest => some ('\\', rest)
  | '\\' :: '"' :: rest => some ('"', rest)
  | '\\' :: 'n' :: rest => some ('\n', rest)
  | '\\' :: 'r' :: rest => some ('\r', rest)
  | '\\' :: 't' :: rest => some ('\t', rest)
  | '\\' :: a :: b :: c :: rest => some (.ofNat (Nat.ofDigitChars 8 [a, b, c] 0), rest)
  | c :: rest => some (c, rest)
  | [] => none

/-- The characters that are given by octal digits. -/
theorem unescape?_octal3 {n : Nat} (control : n < 0x20 ∨ n = 0x7f) (rest : List Char) :
    unescape? ('\\' :: octal3 n ++ rest) = some (.ofNat n, rest) := by
  rcases control with below | rfl
  · have first : n / 64 % 8 = 0 := by omega
    have number : Nat.ofDigitChars 8 (octal3 n) 0 = n := by
      revert n
      decide
    unfold octal3 at number ⊢
    rw [first] at number ⊢
    exact congrArg (fun value => some (Char.ofNat value, rest)) number
  · rfl

/-- An escaped character is read back, whatever follows it. -/
theorem unescape?_escapeChar (c : Char) (rest : List Char) :
    unescape? (escapeChar c ++ rest) = some (c, rest) := by
  by_cases backslash : c = '\\'
  · subst backslash
    rfl
  by_cases quote : c = '"'
  · subst quote
    rfl
  by_cases newline : c = '\n'
  · subst newline
    rfl
  by_cases carriage : c = '\r'
  · subst carriage
    rfl
  by_cases tab : c = '\t'
  · subst tab
    rfl
  rw [escapeChar, if_neg backslash, if_neg quote, if_neg newline, if_neg carriage, if_neg tab]
  by_cases control : c.toNat < 0x20 ∨ c.toNat = 0x7f
  · rw [if_pos control, unescape?_octal3 control, Char.ofNat_toNat]
  · rw [if_neg control]
    simp [unescape?, backslash]

/-- The first character of a text is told by the escaped text, and so is what follows. -/
theorem escapeChar_append_inj {c d : Char} {rest rest' : List Char}
    (same : escapeChar c ++ rest = escapeChar d ++ rest') : c = d ∧ rest = rest' := by
  have reads := unescape?_escapeChar c rest
  rw [same, unescape?_escapeChar] at reads
  exact ⟨(congrArg Prod.fst (Option.some.inj reads)).symm,
    (congrArg Prod.snd (Option.some.inj reads)).symm⟩

/-- No character is escaped by a quote alone. -/
theorem escapeChar_append_ne_quote (c : Char) (rest rest' : List Char) :
    escapeChar c ++ rest ≠ '"' :: rest' := by
  intro same
  have reads := unescape?_escapeChar c rest
  rw [same] at reads
  have quote : '"' = c := congrArg Prod.fst (Option.some.inj reads)
  rw [← quote] at same
  exact absurd same (by simp [escapeChar])

/-- The quote after an escaped text ends it. -/
theorem escape_append_inj {cs ds rest rest' : List Char}
    (same : cs.flatMap escapeChar ++ '"' :: rest = ds.flatMap escapeChar ++ '"' :: rest') :
    cs = ds := by
  induction cs generalizing ds with
  | nil =>
    cases ds with
    | nil => rfl
    | cons d ds =>
      rw [List.flatMap_cons, List.append_assoc] at same
      exact absurd same.symm (escapeChar_append_ne_quote _ _ _)
  | cons c cs ih =>
    cases ds with
    | nil =>
      rw [List.flatMap_cons, List.append_assoc] at same
      exact absurd same (escapeChar_append_ne_quote _ _ _)
    | cons d ds =>
      rw [List.flatMap_cons, List.flatMap_cons, List.append_assoc, List.append_assoc] at same
      obtain ⟨rfl, later⟩ := escapeChar_append_inj same
      rw [ih later]

theorem newline_notMem_octal3 (n : Nat) : '\n' ∉ octal3 n := by
  have digit : ∀ d < 8, '\n' ≠ Nat.digitChar d := by decide
  have below (k : Nat) : k % 8 < 8 := Nat.mod_lt k (by decide)
  simp [octal3, digit _ (below _)]

theorem newline_notMem_escapeChar (c : Char) : '\n' ∉ escapeChar c := by
  by_cases newline : c = '\n'
  · subst newline
    decide
  · have apart : '\n' ≠ c := fun same => newline same.symm
    unfold escapeChar
    repeat' split
    all_goals simp [apart, newline_notMem_octal3]

/-- An escaped text is a single line. -/
theorem newline_notMem_escape (content : String) : '\n' ∉ (escape content).toList := by
  rw [escape, String.toList_ofList]
  intro member
  obtain ⟨c, _, inside⟩ := List.mem_flatMap.mp member
  exact newline_notMem_escapeChar c inside

end CodecTables.Source
