import FilterSql.Number.Decimal
import FilterSql.Proofs.Text.Trimming

/-!
# What a decimal text denotes

A text denotes an integer if it is one or more ASCII digits after at most one
sign; the digits count by their places, so leading zeros change nothing. The
reader accepts exactly these texts, with the integer that they denote, and what
is written for an integer denotes it.

`readInt?_eq_some_iff` says which texts are read, `denotes_ofInt` that written
integers are among them. Signs are ASCII, digits are ASCII, and blanks do not
belong to a number; whoever allows them trims first (`Denotes.trim_eq`).
-/

namespace FilterSql.Decimal

/-- The sum of the digits, each times the power of ten of its place. -/
def positional : List Char → Nat
  | [] => 0
  | c :: rest => (c.toNat - '0'.toNat) * pow10 rest.length + positional rest

structure Digits (s : List Char) : Prop where
  nonempty : s ≠ []
  ascii : ∀ c ∈ s, c.isDigit = true

/-- The integer that a text of digits with an optional sign denotes. -/
inductive Denotes : List Char → Int → Prop
  | unsigned {s : List Char} (digits : Digits s) : Denotes s (positional s)
  | plus {s : List Char} (digits : Digits s) : Denotes ('+' :: s) (positional s)
  | minus {s : List Char} (digits : Digits s) : Denotes ('-' :: s) (-(positional s : Int))

/-- Reading digit by digit comes to the sum by places. -/
theorem ofDigitChars_eq_positional (s : List Char) : Nat.ofDigitChars 10 s 0 = positional s := by
  induction s with
  | nil => rfl
  | cons c rest ih =>
    have power : (10 : Nat) ^ rest.length = pow10 rest.length := rfl
    rw [Nat.ofDigitChars_cons, Nat.ofDigitChars_eq_ofDigitChars_zero, ih, positional, power,
      Nat.mul_zero, Nat.zero_add, Nat.mul_comm]

/-- Exactly the texts of ASCII digits are read, as the numbers that they denote. -/
theorem readNat?_eq_some_iff {s : List Char} {n : Nat} :
    readNat? s = some n ↔ Digits s ∧ n = positional s := by
  unfold readNat?
  rw [ofDigitChars_eq_positional]
  constructor
  · intro read
    split at read
    · next digits =>
      rw [Bool.and_eq_true, Bool.not_eq_true', List.isEmpty_eq_false_iff,
        List.all_eq_true] at digits
      exact ⟨⟨digits.1, digits.2⟩, (Option.some.inj read).symm⟩
    · cases read
  · rintro ⟨digits, rfl⟩
    have given : s.isEmpty = false := List.isEmpty_eq_false_iff.mpr digits.nonempty
    have ascii : s.all (·.isDigit) = true := List.all_eq_true.mpr digits.ascii
    rw [given, ascii]
    rfl

theorem map_readNat?_eq_some_iff {s : List Char} {f : Nat → Int} {n : Int} :
    (readNat? s).map f = some n ↔ Digits s ∧ n = f (positional s) := by
  rw [Option.map_eq_some_iff]
  constructor
  · rintro ⟨m, read, rfl⟩
    obtain ⟨digits, rfl⟩ := readNat?_eq_some_iff.mp read
    exact ⟨digits, rfl⟩
  · rintro ⟨digits, rfl⟩
    exact ⟨_, readNat?_eq_some_iff.mpr ⟨digits, rfl⟩, rfl⟩

theorem readInt?_minus (s : List Char) :
    readInt? ('-' :: s) = (readNat? s).map fun m : Nat => -(m : Int) := by
  rw [readInt?]
  cases readNat? s <;> rfl

theorem readInt?_unsigned {c : Char} (s : List Char) (unsigned : c ≠ '+' ∧ c ≠ '-') :
    readInt? (c :: s) = (readNat? (c :: s)).map Int.ofNat := by
  unfold readInt?
  split
  · next same => exact absurd (List.cons.inj same).1 unsigned.1
  · next same => exact absurd (List.cons.inj same).1 unsigned.2
  · rfl

theorem Digits.head {c : Char} {s : List Char} (digits : Digits (c :: s)) : c ≠ '+' ∧ c ≠ '-' := by
  have digit := digits.ascii c List.mem_cons_self
  constructor
  · rintro rfl
    exact absurd digit (by decide)
  · rintro rfl
    exact absurd digit (by decide)

/-- The reader accepts the texts that denote an integer, and reads them as that integer. -/
theorem readInt?_eq_some_iff {s : List Char} {n : Int} : readInt? s = some n ↔ Denotes s n := by
  constructor
  · intro read
    cases s with
    | nil => cases read
    | cons c rest =>
      by_cases plus : c = '+'
      · subst plus
        obtain ⟨digits, rfl⟩ := map_readNat?_eq_some_iff.mp read
        exact .plus digits
      · by_cases minus : c = '-'
        · subst minus
          rw [readInt?_minus] at read
          obtain ⟨digits, rfl⟩ := map_readNat?_eq_some_iff.mp read
          exact .minus digits
        · rw [readInt?_unsigned rest ⟨plus, minus⟩] at read
          obtain ⟨digits, rfl⟩ := map_readNat?_eq_some_iff.mp read
          exact .unsigned digits
  · intro denotes
    cases denotes with
    | plus digits => exact map_readNat?_eq_some_iff.mpr ⟨digits, rfl⟩
    | minus digits =>
      rw [readInt?_minus]
      exact map_readNat?_eq_some_iff.mpr ⟨digits, rfl⟩
    | unsigned digits =>
      cases s with
      | nil => exact absurd rfl digits.nonempty
      | cons c rest =>
        rw [readInt?_unsigned rest digits.head]
        exact map_readNat?_eq_some_iff.mpr ⟨digits, rfl⟩

/-- Neither a sign nor a digit is a blank. -/
theorem Denotes.trim_eq {s : List Char} {n : Int} (denotes : Denotes s n) : Text.trim s = s := by
  have visible {c : Char} (digit : c.isDigit = true) : Text.isBlank c = false := by
    rw [Char.isDigit_iff_toNat] at digit
    simp [Text.isBlank] at digit ⊢
    omega
  have each : ∀ c ∈ s, Text.isBlank c = false := by
    cases denotes with
    | unsigned digits => exact fun c member => visible (digits.ascii c member)
    | plus digits | minus digits =>
      exact List.forall_mem_cons.mpr ⟨by decide, fun c member => visible (digits.ascii c member)⟩
  exact Text.trim_eq_self (fun c head => each c (List.mem_of_mem_head? head))
    fun c last => each c (List.mem_of_mem_getLast? last)

/-- An integer is written as a text that denotes it. -/
theorem denotes_ofInt (n : Int) : Denotes (ofInt n).toList n := by
  have digits (m : Nat) : Digits (Nat.toDigits 10 m) :=
    ⟨Nat.toDigits_ne_nil, fun c => Nat.isDigit_of_mem_toDigits (by decide) (by decide)⟩
  have value (m : Nat) : positional (Nat.toDigits 10 m) = m := by
    rw [← ofDigitChars_eq_positional]
    exact Nat.ofDigitChars_toDigits (by decide) (by decide)
  unfold ofInt
  split
  · next negative =>
    have denotes := Denotes.minus (digits n.natAbs)
    have number : -((n.natAbs : Nat) : Int) = n := by omega
    rw [value, number] at denotes
    rwa [String.toList_ofList]
  · next natural =>
    have denotes := Denotes.unsigned (digits n.natAbs)
    have number : ((n.natAbs : Nat) : Int) = n := by omega
    rw [value, number] at denotes
    rwa [ofNat, String.toList_ofList]

end FilterSql.Decimal
