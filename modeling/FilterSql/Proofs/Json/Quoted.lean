import FilterSql.Json.Reader

/-!
# Quoted texts

Every character of a string is written so that reading it takes exactly what was
written: an escape is undone, a raw character is neither a quote nor a backslash
nor a control character. So a quoted string is read back, whatever follows it.

`readText_quote` is about texts without gaps. A gap stands for half a surrogate
pair, and no string holds one.
-/

namespace FilterSql.Json

theorem hexDigit?_digitChar {n : Nat} (digit : n < 16) : hexDigit? n.digitChar = some n := by
  have table : ∀ n < 16, hexDigit? n.digitChar = some n := by decide
  exact table n digit

/-- The four digits of a code unit are read back. -/
theorem readHex4_hex4 {n : Nat} (unit : n < 65536) (rest : List Char) :
    readHex4 (hex4 n ++ rest) = some (n, rest) := by
  have digit (m : Nat) : hexDigit? (m % 16).digitChar = some (m % 16) :=
    hexDigit?_digitChar (Nat.mod_lt m (by decide))
  have value : n / 4096 % 16 * 4096 + n / 256 % 16 * 256 + n / 16 % 16 * 16 + n % 16 = n := by omega
  simp [hex4, readHex4, digit, value]

/-- A character is written with a letter of its own, by its code unit, or as it is. -/
theorem escape_cases (c : Char) :
    (∃ letter, letter ≠ 'u' ∧ shortEscape? letter = some c ∧ escape c = ['\\', letter]) ∨
      (c.toNat < 0x20 ∧ escape c = '\\' :: 'u' :: hex4 c.toNat) ∨
      (c ≠ '"' ∧ c ≠ '\\' ∧ ¬ c.toNat < 0x20 ∧ escape c = [c]) := by
  by_cases lettered : c ∈ ['"', '\\', '\x08', '\x0c', '\n', '\r', '\t']
  · left
    simp only [List.mem_cons, List.not_mem_nil, or_false] at lettered
    rcases lettered with rfl | rfl | rfl | rfl | rfl | rfl | rfl <;>
      exact ⟨_, by decide, by decide, rfl⟩
  · right
    simp only [List.mem_cons, List.not_mem_nil, or_false, not_or] at lettered
    by_cases control : c.toNat < 0x20
    · exact Or.inl ⟨control, by simp [escape, lettered, control]⟩
    · exact Or.inr ⟨lettered.1, lettered.2.1, control, by simp [escape, lettered, control]⟩

theorem readUnit_lettered {letter c : Char} (other : letter ≠ 'u')
    (denotes : shortEscape? letter = some c) (rest : List Char) :
    readUnit ('\\' :: letter :: rest) = some (some c, rest) := by
  rw [readUnit.eq_def]
  split
  · contradiction
  · next same => exact absurd (List.cons.inj (List.cons.inj same).2).1 other
  · next same =>
    obtain ⟨rfl, rfl⟩ := List.cons.inj (List.cons.inj same).2
    rw [denotes]
    rfl
  · next escaped same =>
    obtain ⟨backslash, more⟩ := List.cons.inj same
    exact (escaped _ _ backslash.symm more.symm).elim

theorem readUnit_raw {c : Char} (plain : c ≠ '\\') (visible : ¬ c.toNat < 0x20) (rest : List Char) :
    readUnit (c :: rest) = some (some c, rest) := by
  rw [readUnit.eq_def]
  split
  · contradiction
  · next same => exact absurd (List.cons.inj same).1 plain
  · next same => exact absurd (List.cons.inj same).1 plain
  · next same =>
    obtain ⟨rfl, rfl⟩ := List.cons.inj same
    simp [plain, visible]

/-- A control character is read back from its code unit. -/
theorem readUnicode_hex4 {c : Char} (control : c.toNat < 0x20) (rest : List Char) :
    readUnicode (hex4 c.toNat ++ rest) = some (some c, rest) := by
  have unit := readHex4_hex4 (show c.toNat < 65536 by omega) rest
  have single : c.toNat < 0xD800 := by omega
  simp [readUnicode, unit, single, Char.ofNat_toNat]

/-- Reading undoes the escape of a character. -/
theorem readUnit_escape (c : Char) (rest : List Char) :
    readUnit (escape c ++ rest) = some (some c, rest) := by
  rcases escape_cases c with ⟨letter, other, denotes, written⟩ | ⟨control, written⟩ |
    ⟨_, plain, visible, written⟩
  · rw [written]
    exact readUnit_lettered other denotes rest
  · rw [written]
    exact readUnicode_hex4 control rest
  · rw [written]
    exact readUnit_raw plain visible rest

/-- A written character cannot be taken for the closing quote. -/
theorem escape_ne_quote (c : Char) : ∃ first more, escape c = first :: more ∧ first ≠ '"' := by
  rcases escape_cases c with ⟨letter, _, _, written⟩ | ⟨_, written⟩ | ⟨open_, _, _, written⟩
  · exact ⟨_, _, written, by decide⟩
  · exact ⟨_, _, written, by decide⟩
  · exact ⟨_, _, written, open_⟩

theorem length_le_flatMap_escape (cs : List Char) : cs.length ≤ (cs.flatMap escape).length := by
  induction cs with
  | nil => exact Nat.le_refl _
  | cons c rest ih =>
    obtain ⟨first, more, written, -⟩ := escape_ne_quote c
    rw [List.flatMap_cons, written, List.length_append, List.length_cons, List.length_cons]
    omega

/-- An escaped text is read back up to the closing quote. -/
theorem readUnits_escape (cs rest : List Char) {fuel : Nat} (enough : cs.length < fuel) :
    readUnits fuel (cs.flatMap escape ++ '"' :: rest) = some (cs.map some, rest) := by
  induction cs generalizing fuel with
  | nil =>
    obtain ⟨fuel, rfl⟩ := Nat.exists_eq_add_one.mpr enough
    rfl
  | cons c cs ih =>
    obtain ⟨fuel, rfl⟩ := Nat.exists_eq_add_one.mpr (Nat.zero_lt_of_lt enough)
    have later := ih (Nat.lt_of_succ_lt_succ enough)
    obtain ⟨first, more, written, open_⟩ := escape_ne_quote c
    have unit := readUnit_escape c (cs.flatMap escape ++ '"' :: rest)
    rw [List.flatMap_cons, List.append_assoc]
    rw [written] at unit ⊢
    rw [List.cons_append] at unit ⊢
    rw [readUnits.eq_def]
    split
    · next zero => cases zero
    · next same => exact absurd (List.cons.inj same).1 open_
    · next same _ =>
      obtain rfl := Nat.succ.inj same
      rw [unit]
      simp [later]

/-- A quoted string is read back. -/
theorem readText_quote (cs rest : List Char) :
    readText (quote (cs.map some) ++ rest) = some (cs.map some, rest) := by
  have text : quote (cs.map some) ++ rest = '"' :: (cs.flatMap escape ++ '"' :: rest) := by
    simp [quote, List.flatMap_map]
  have enough : cs.length < (cs.flatMap escape ++ '"' :: rest).length + 1 := by
    have := length_le_flatMap_escape cs
    rw [List.length_append]
    omega
  rw [text]
  exact readUnits_escape cs rest enough

/-- A text without gaps denotes its characters. -/
theorem string?_map_some (cs : List Char) : string? (cs.map some) = some (.ofList cs) := by
  have each : (cs.map some).mapM id = some cs := by
    induction cs with
    | nil => rfl
    | cons c rest ih => simp [List.mapM_cons, ih]
  rw [string?, each]
  rfl

end FilterSql.Json
