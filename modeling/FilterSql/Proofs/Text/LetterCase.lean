import FilterSql.Text.LetterCase

/-!
# ASCII words in lower case

A character outside ASCII never becomes an ASCII one in lower case, but for the
Kelvin sign, whose lower case form is the letter `k`. Hence a text is an ASCII
word without that letter in lower case exactly when it is that word up to the
case of its ASCII letters (`lower_eq_iff_isWord`).

Sort directions are recognised by it, and the Kelvin sign does not matter there,
since neither of their words has a `k`. The table of capitals is looked through
once (`small_of_capital`).
-/

namespace FilterSql.Text

/-- What holds of the 128 ASCII characters one by one. -/
theorem of_ascii_table {P : Char → Prop} (table : ∀ n < 128, P (Char.ofNat n)) {c : Char}
    (ascii : c.toNat < 128) : P c := by
  have entry := table c.toNat ascii
  rwa [Char.ofNat_toNat] at entry

theorem toLower_of_ascii {c : Char} (ascii : c.toNat < 128) : toLower c = [c.toLower] :=
  if_pos ascii

theorem endsAsSigma_of_ascii {c : Char} (ascii : c.toNat < 128) (behindLetter : Bool)
    (next : List Char) : endsAsSigma behindLetter c next = false := by
  have other : c.toNat ≠ 0x3A3 := by omega
  simp [endsAsSigma, other]

theorem asciiLower_of_not_ascii {c : Char} (wide : 128 ≤ c.toNat) : c.toLower = c := by
  have capital : ¬ (c.val ≥ 'A'.val ∧ c.val ≤ 'Z'.val) := by
    rintro ⟨-, below⟩
    have bound : c.toNat ≤ 90 := UInt32.le_iff_toNat_le.mp below
    omega
  exact dif_neg capital

/-- An ASCII character that is the lower case form of ASCII characters only. The null character is
what the table would give for a code point that is none. -/
def Ascii (c : Char) : Prop :=
  0 < c.toNat ∧ c.toNat < 128 ∧ c ≠ 'k'

instance (c : Char) : Decidable (Ascii c) :=
  inferInstanceAs (Decidable (_ ∧ _))

theorem not_ascii_ofNat {n : Nat} (wide : 128 ≤ n) : ¬ Ascii (Char.ofNat n) := by
  rintro ⟨positive, narrow, -⟩
  by_cases valid : n.isValidChar
  · have code : Char.ofNat n = Char.ofNatAux n valid := dif_pos valid
    rw [code] at narrow
    exact absurd wide (Nat.not_le.mpr narrow)
  · have code : (Char.ofNat n).toNat = 0 := congrArg Char.toNat (dif_neg valid)
    omega

/-- The Kelvin sign alone has its lower case form in ASCII. -/
theorem small_of_capital :
    ∀ r ∈ capitals, 128 ≤ r.small ∨ r = ⟨0x212A, 0x212A, 1, 0x6B⟩ := by
  decide +kernel

/-- The lower case form of a character outside ASCII is not spelled in ASCII. -/
theorem exists_not_ascii {c : Char} (wide : 128 ≤ c.toNat) : ∃ y ∈ toLower c, ¬ Ascii y := by
  rw [toLower, if_neg (Nat.not_lt.mpr wide)]
  split
  · exact ⟨Char.ofNat 0x307, by simp, not_ascii_ofNat (by decide)⟩
  · split
    · next r found =>
      refine ⟨_, List.mem_singleton_self _, ?_⟩
      rcases small_of_capital r (List.mem_of_find?_eq_some found) with small | rfl
      · exact not_ascii_ofNat (Nat.le_add_right_of_le small)
      · have covered := List.find?_some found
        simp only [Capitals.covers, Bool.and_eq_true, decide_eq_true_eq] at covered
        have kelvin : c.toNat = 0x212A := Nat.le_antisymm covered.1.2 covered.1.1
        rw [kelvin]
        decide
    · exact ⟨c, List.mem_singleton_self c, fun ascii => absurd wide (Nat.not_le.mpr ascii.2.1)⟩

/-- One character of a text whose lower case is an ASCII word. -/
theorem lowered_cons_eq_iff (behindLetter : Bool) (c : Char) (s : List Char) {x : Char}
    {xs : List Char} (ascii : ∀ y ∈ x :: xs, Ascii y) :
    lowered behindLetter (c :: s) = x :: xs ↔ c.toLower = x ∧ lowered (isCased c) s = xs := by
  rw [lowered]
  by_cases wide : 128 ≤ c.toNat
  · have foreign : ∃ y ∈ if endsAsSigma behindLetter c s then [Char.ofNat 0x3C2] else toLower c,
        ¬ Ascii y := by
      split
      · exact ⟨_, List.mem_singleton_self _, not_ascii_ofNat (by decide)⟩
      · exact exists_not_ascii wide
    obtain ⟨y, member, other⟩ := foreign
    constructor
    · intro same
      exact absurd (ascii y (same ▸ List.mem_append_left _ member)) other
    · rintro ⟨rfl, -⟩
      have narrow := (ascii _ List.mem_cons_self).2.1
      rw [asciiLower_of_not_ascii wide] at narrow
      exact absurd wide (Nat.not_le.mpr narrow)
  · have narrow : c.toNat < 128 := Nat.not_le.mp wide
    rw [endsAsSigma_of_ascii narrow, if_neg Bool.false_ne_true, toLower_of_ascii narrow,
      List.singleton_append, List.cons.injEq]

theorem lowered_ne_nil (behindLetter : Bool) (c : Char) (s : List Char) :
    lowered behindLetter (c :: s) ≠ [] := by
  have some : toLower c ≠ [] := by
    unfold toLower
    split
    · simp
    · split
      · simp
      · split <;> simp
  rw [lowered]
  split
  · simp
  · simp [some]

/-- A text is lowered to an ASCII word exactly if core's ASCII lower case gives that word. -/
theorem lowered_eq_iff (behindLetter : Bool) (cs word : List Char) (ascii : ∀ x ∈ word, Ascii x) :
    lowered behindLetter cs = word ↔ cs.map Char.toLower = word := by
  induction cs generalizing behindLetter word with
  | nil => rfl
  | cons c rest ih =>
    cases word with
    | nil => simp [lowered_ne_nil]
    | cons x xs =>
      have later := ih (isCased c) xs fun y member => ascii y (List.mem_cons_of_mem x member)
      rw [lowered_cons_eq_iff behindLetter c rest ascii, later, List.map_cons, List.cons.injEq]

/-- The text is the word, but for the case of ASCII letters. -/
def IsWord (word s : String) : Prop :=
  s.toList.map Char.toLower = word.toList

instance (word s : String) : Decidable (IsWord word s) :=
  inferInstanceAs (Decidable (_ = _))

theorem lower_eq_iff_isWord (word : String) (ascii : ∀ x ∈ word.toList, Ascii x) (s : String) :
    lower s = word ↔ IsWord word s := by
  rw [IsWord, ← lowered_eq_iff false _ _ ascii, lower, ← String.toList_inj, String.toList_ofList]

end FilterSql.Text
