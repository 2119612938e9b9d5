import FilterSql.Json.Value

/-!
# Integers as numerals

An integer is written without a point, an exponent or a leading zero, so it is
read back as it was written if nothing follows that could belong to it. The
kind of value that it denotes is decided by the range it lies in.

`readNumeral_ofInt` reads the numeral back, and `EndsNumeral` says what may follow
it. In a compact text that is a comma, a bracket or nothing.
-/

namespace FilterSql.Json

/-- What may follow a numeral: nothing that would go on with it. -/
def EndsNumeral (rest : List Char) : Prop :=
  ∀ c ∈ rest.head?, c.isDigit = false ∧ c ≠ '.' ∧ c ≠ 'e' ∧ c ≠ 'E'

theorem endsNumeral_cons {c : Char} (ends : c.isDigit = false ∧ c ≠ '.' ∧ c ≠ 'e' ∧ c ≠ 'E')
    (rest : List Char) : EndsNumeral (c :: rest) :=
  fun _ head => Option.some.inj head ▸ ends

/-- A positive number is written without a leading zero. -/
theorem head_toDigits {n : Nat} (positive : 0 < n) : (Nat.toDigits 10 n).head? ≠ some '0' := by
  induction n using Nat.strongRecOn with
  | ind n ih =>
    by_cases single : n < 10
    · rw [Nat.toDigits_of_lt_base single]
      have table : ∀ m < 10, 0 < m → [m.digitChar].head? ≠ some '0' := by decide
      exact table n single positive
    · have shorter := ih (n / 10) (by omega) (by omega)
      have given : Nat.toDigits 10 (n / 10) ≠ [] := Nat.toDigits_ne_nil
      obtain ⟨first, more, digits⟩ := List.exists_cons_of_ne_nil given
      rw [Nat.toDigits_of_base_le (by decide) (by omega), digits]
      rwa [digits] at shorter

/-- Only zero has a zero in front, and it has no other digit. -/
theorem leadingZero_toDigits (n : Nat) :
    ((Nat.toDigits 10 n).isEmpty ||
      ((Nat.toDigits 10 n).head? == some '0' && decide ((Nat.toDigits 10 n).length > 1))) = false := by
  have given : (Nat.toDigits 10 n).isEmpty = false := by
    rw [← Bool.not_eq_true, List.isEmpty_iff]
    exact Nat.toDigits_ne_nil
  by_cases zero : n = 0
  · subst zero
    decide
  · have head := head_toDigits (Nat.pos_of_ne_zero zero)
    simp [given, head]

/-- A run of digits is read up to the first other character. -/
theorem readDigits_append {ds rest : List Char} (digits : ∀ c ∈ ds, c.isDigit = true)
    (ends : ∀ c ∈ rest.head?, c.isDigit = false) : readDigits (ds ++ rest) = (ds, rest) := by
  unfold readDigits
  rw [List.takeWhile_append_of_pos digits, List.dropWhile_append_of_pos digits]
  cases rest with
  | nil => simp
  | cons c rest =>
    have stops : c.isDigit = false := ends c rfl
    simp [stops]

theorem readFraction_none {rest : List Char} (ends : EndsNumeral rest) :
    readFraction rest = some ([], rest) := by
  unfold readFraction
  split
  · exact absurd rfl (ends '.' rfl).2.1
  · rfl

theorem readExponent_none {rest : List Char} (ends : EndsNumeral rest) :
    readExponent rest = some (none, rest) := by
  cases rest with
  | nil => rfl
  | cons c rest =>
    obtain ⟨-, -, lower, upper⟩ := ends c rfl
    simp [readExponent, lower, upper]

def Numeral.ofInt (n : Int) : Numeral :=
  ⟨decide (n < 0), Nat.toDigits 10 n.natAbs, [], none⟩

theorem digits_ofInt (n : Int) {c : Char} (member : c ∈ (Numeral.ofInt n).whole) :
    c.isDigit = true :=
  Nat.isDigit_of_mem_toDigits (by decide) (by decide) member

def BeginsNumeral (c : Char) : Prop :=
  c = '-' ∨ c.isDigit = true

theorem BeginsNumeral.ne {c x : Char} (begins : BeginsNumeral c)
    (other : x ≠ '-' ∧ x.isDigit = false) : c ≠ x := by
  rintro rfl
  rcases begins with sign | digit
  · exact other.1 sign
  · rw [other.2] at digit
    cases digit

theorem whole_ofInt_cons (n : Int) :
    ∃ first more, (Numeral.ofInt n).whole = first :: more ∧ first.isDigit = true := by
  have given : (Numeral.ofInt n).whole ≠ [] := Nat.toDigits_ne_nil
  obtain ⟨first, more, whole⟩ := List.exists_cons_of_ne_nil given
  exact ⟨first, more, whole, digits_ofInt n (whole ▸ List.mem_cons_self)⟩

/-- An integer is written without a point and without an exponent. -/
theorem render_ofInt (n : Int) :
    (Numeral.ofInt n).render = (if n < 0 then ['-'] else []) ++ (Numeral.ofInt n).whole := by
  simp [Numeral.render, Numeral.ofInt]

theorem render_ofInt_cons (n : Int) :
    ∃ first more, (Numeral.ofInt n).render = first :: more ∧ BeginsNumeral first := by
  obtain ⟨first, more, whole, digit⟩ := whole_ofInt_cons n
  rw [render_ofInt, whole]
  split
  · exact ⟨_, _, rfl, Or.inl rfl⟩
  · exact ⟨_, _, rfl, Or.inr digit⟩

/-- The numeral of an integer is read back, up to what cannot belong to it. -/
theorem readNumeral_ofInt (n : Int) {rest : List Char} (ends : EndsNumeral rest) :
    readNumeral ((Numeral.ofInt n).render ++ rest) = some (Numeral.ofInt n, rest) := by
  have digits : readDigits ((Numeral.ofInt n).whole ++ rest) = ((Numeral.ofInt n).whole, rest) :=
    readDigits_append (fun c => digits_ofInt n) fun c head => (ends c head).1
  have leading : ((Numeral.ofInt n).whole.isEmpty || ((Numeral.ofInt n).whole.head? == some '0' &&
      decide ((Numeral.ofInt n).whole.length > 1))) = false := leadingZero_toDigits n.natAbs
  have numeral (negative : Bool) (sign : decide (n < 0) = negative) :
      (⟨negative, (Numeral.ofInt n).whole, [], none⟩ : Numeral) = Numeral.ofInt n := by
    rw [← sign]
    rfl
  unfold readNumeral
  by_cases negative : n < 0
  · have text : (Numeral.ofInt n).render ++ rest = '-' :: ((Numeral.ofInt n).whole ++ rest) := by
      rw [render_ofInt, if_pos negative]
      rfl
    have numeral := numeral true (decide_eq_true negative)
    rw [text]
    simp [digits, leading, readFraction_none ends, readExponent_none ends, numeral]
  · have text : (Numeral.ofInt n).render ++ rest = (Numeral.ofInt n).whole ++ rest := by
      rw [render_ofInt, if_neg negative]
      rfl
    -- a digit is no sign
    have unsigned : ∀ r, (Numeral.ofInt n).whole ++ rest ≠ '-' :: r := by
      obtain ⟨first, more, whole, digit⟩ := whole_ofInt_cons n
      intro r same
      rw [whole] at same
      obtain rfl := (List.cons.inj same).1
      exact absurd digit (by decide)
    have numeral := numeral false (decide_eq_false negative)
    rw [text]
    simp [digits, leading, readFraction_none ends, readExponent_none ends, numeral]

end FilterSql.Json
