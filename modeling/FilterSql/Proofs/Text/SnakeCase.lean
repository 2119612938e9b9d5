import Mathlib.Data.List.Chain
import FilterSql.Proofs.Text.LetterCase
import FilterSql.Text.SnakeCase

/-!
# Names that are in snake case already

In a name of lower case letters, digits and underscores a word ends at an
underscore or between a letter and a digit. So its snake case is the name with a
further underscore wherever a letter and a digit touch: the name itself only if
none do. Two such names become one exactly if they are one without the
underscores between a letter and a digit.

The first statement is `snakeCase_of_isSnake`, the second `apart_eq_apart_iff`.
Putting underscores in (`apart`) and taking them out (`closeUp`) undo each other
as far as that is possible (`closeUp_apart`, `apart_closeUp`). Leading, trailing
and doubled underscores are allowed and stay.
-/

namespace FilterSql.Text

/-- What names in snake case are written with. -/
def IsSnake (c : Char) : Prop :=
  c.isLower = true ∨ c.isDigit = true ∨ c = '_'

instance (c : Char) : Decidable (IsSnake c) :=
  inferInstanceAs (Decidable (_ ∨ _))

def mixed (a b : Char) : Bool :=
  (a.isLower && b.isDigit) || (a.isDigit && b.isLower)

def Unmixed (s : List Char) : Prop :=
  s.IsChain fun a b => mixed a b = false

instance (s : List Char) : Decidable (Unmixed s) :=
  inferInstanceAs (Decidable (s.IsChain _))

/-- The text with an underscore wherever a letter and a digit touch. -/
def apart : List Char → List Char
  | [] => []
  | a :: s => if s.head?.any (mixed a) then a :: '_' :: apart s else a :: apart s

/-- The text without the underscores between a letter and a digit. -/
def closeUp : List Char → List Char
  | a :: '_' :: s => if s.head?.any (mixed a) then a :: closeUp s else a :: '_' :: closeUp s
  | a :: s => a :: closeUp s
  | [] => []

/-! ## Single characters -/

theorem IsSnake.ascii {c : Char} (snake : IsSnake c) : c.toNat < 128 := by
  rcases snake with lower | digit | rfl
  · have below : c.toNat ≤ 122 := by
      simpa using UInt32.le_iff_toNat_le.mp (of_decide_eq_true (Bool.and_eq_true_iff.mp lower).2)
    omega
  · have below : c.toNat ≤ 57 := by
      simpa using UInt32.le_iff_toNat_le.mp (of_decide_eq_true (Bool.and_eq_true_iff.mp digit).2)
    omega
  · decide

/-- None of the characters is a capital. -/
theorem isUpper_of_isSnake {c : Char} (snake : IsSnake c) : isUpper c = false := by
  rw [isUpper, if_pos snake.ascii]
  exact of_ascii_table (P := fun c => IsSnake c → c.isUpper = false) (by decide) snake.ascii snake

theorem isLower_of_isSnake {c : Char} (snake : IsSnake c) : isLower c = c.isLower :=
  if_pos snake.ascii

theorem toLower_of_isSnake {c : Char} (snake : IsSnake c) : toLower c = [c] := by
  rw [toLower_of_ascii snake.ascii]
  exact of_ascii_table (P := fun c => IsSnake c → [c.toLower] = [c]) (by decide) snake.ascii snake

/-- Such a text is in lower case already. -/
theorem lowered_of_isSnake {s : List Char} (snake : ∀ c ∈ s, IsSnake c) (behindLetter : Bool) :
    lowered behindLetter s = s := by
  induction s generalizing behindLetter with
  | nil => rfl
  | cons c s ih =>
    obtain ⟨first, later⟩ := List.forall_mem_cons.mp snake
    rw [lowered, endsAsSigma_of_ascii first.ascii, if_neg Bool.false_ne_true,
      toLower_of_isSnake first, ih later, List.singleton_append]

/-- Without capitals a word ends between a letter and a digit. -/
theorem wordEnds_eq_mixed {a b : Char} (first : IsSnake a) (second : IsSnake b) (next : List Char) :
    wordEnds a b next = mixed a b := by
  simp [wordEnds, mixed, isUpper_of_isSnake first, isUpper_of_isSnake second,
    isLower_of_isSnake first, isLower_of_isSnake second]

theorem mixed_underscore (a : Char) : mixed a '_' = false := by
  simp [mixed]

theorem underscore_mixed (b : Char) : mixed '_' b = false := by
  simp [mixed]

/-! ## Underscores put in -/

theorem apart_cons_cons (a b : Char) (s : List Char) :
    apart (a :: b :: s) =
      if mixed a b then a :: '_' :: apart (b :: s) else a :: apart (b :: s) := rfl

theorem apart_underscore (s : List Char) : apart ('_' :: s) = '_' :: apart s := by
  have none : s.head?.any (mixed '_') = false := by
    cases s <;> simp [underscore_mixed]
  simp [apart, none]

/-- An underscore separates already. -/
theorem apart_gap (a : Char) (s : List Char) : apart (a :: '_' :: s) = a :: '_' :: apart s := by
  rw [apart_cons_cons, mixed_underscore, if_neg Bool.false_ne_true, apart_underscore]

theorem head?_apart (s : List Char) : (apart s).head? = s.head? := by
  cases s with
  | nil => rfl
  | cons a s =>
    rw [apart]
    split <;> rfl

/-- Nothing is put in exactly if no letter and digit touch. -/
theorem apart_eq_self_iff (s : List Char) : apart s = s ↔ Unmixed s := by
  induction s with
  | nil => simp [apart, Unmixed]
  | cons a s ih =>
    cases s with
    | nil => simp [apart, Unmixed]
    | cons b s =>
      rw [Unmixed, List.isChain_cons_cons, ← Unmixed, ← ih, apart_cons_cons]
      cases touch : mixed a b with
      | false => simp
      | true =>
        -- the text goes on with an underscore where it had a letter or a digit
        have other : '_' ≠ b := by
          rintro rfl
          simp [mixed_underscore] at touch
        simp [other]

/-! ## Underscores taken out -/

theorem closeUp_cons {s : List Char} (solid : s.head? ≠ some '_') (a : Char) :
    closeUp (a :: s) = a :: closeUp s := by
  cases s with
  | nil => rfl
  | cons b s =>
    rw [closeUp]
    intro t gap
    exact solid (congrArg List.head? gap)

theorem head?_closeUp (s : List Char) : (closeUp s).head? = s.head? := by
  fun_cases closeUp s <;> simp_all

/-- Underscores that are put in are taken out again. -/
theorem closeUp_apart (s : List Char) : closeUp (apart s) = closeUp s := by
  fun_induction closeUp s with
  | case1 a s touch ih => rw [apart_gap, closeUp, head?_apart, if_pos touch, ih]
  | case2 a s touch ih => rw [apart_gap, closeUp, head?_apart, if_neg touch, ih]
  | case3 a s solid ih =>
    have solid : s.head? ≠ some '_' := by
      cases s <;> simp_all
    rw [apart]
    split
    · next touch => rw [closeUp, head?_apart, if_pos touch, ih]
    · rw [closeUp_cons (by rwa [head?_apart]), ih]
  | case4 => rfl

/-- Underscores that are taken out are put in again. -/
theorem apart_closeUp (s : List Char) : apart (closeUp s) = apart s := by
  fun_induction closeUp s with
  | case1 a s touch ih => rw [apart_gap, apart, head?_closeUp, if_pos touch, ih]
  | case2 a s touch ih => rw [apart_gap, apart_gap, ih]
  | case3 a s solid ih => rw [apart, apart, head?_closeUp, ih]
  | case4 => rfl

/-- Two texts become one exactly if they are one when closed up. -/
theorem apart_eq_apart_iff (s t : List Char) : apart s = apart t ↔ closeUp s = closeUp t := by
  constructor
  · intro same
    rw [← closeUp_apart s, same, closeUp_apart]
  · intro same
    rw [← apart_closeUp s, same, apart_closeUp]

/-! ## Snake case -/

theorem words_ne_nil (s : List Char) : words s ≠ [] := by
  fun_cases words s <;> simp

/-- A character more in the first word is one more in front. -/
theorem intercalate_cons_head (a : Char) (w : List Char) (ws : List (List Char)) :
    ['_'].intercalate ((a :: w) :: ws) = a :: ['_'].intercalate (w :: ws) := by
  cases ws <;> simp [List.intercalate_cons_cons]

/-- The words of such a text, joined again, are the text with underscores put in. -/
theorem intercalate_words {s : List Char} (snake : ∀ c ∈ s, IsSnake c) :
    ['_'].intercalate (words s) = apart s := by
  fun_induction words s with
  | case1 => rfl
  | case2 s ih =>
    rw [List.intercalate_cons_of_ne_nil (words_ne_nil s), ih (List.forall_mem_cons.mp snake).2,
      apart_underscore]
    rfl
  | case3 c => rfl
  | case4 a b s solid ends ih =>
    obtain ⟨first, later⟩ := List.forall_mem_cons.mp snake
    have touch : mixed a b = true :=
      (wordEnds_eq_mixed first (List.forall_mem_cons.mp later).1 s).symm.trans ends
    rw [List.intercalate_cons_of_ne_nil (words_ne_nil _), ih later, apart_cons_cons, if_pos touch]
    rfl
  | case5 a b s solid ends none ih => exact absurd none (words_ne_nil _)
  | case6 a b s solid ends w ws given ih =>
    obtain ⟨first, later⟩ := List.forall_mem_cons.mp snake
    rw [wordEnds_eq_mixed first (List.forall_mem_cons.mp later).1] at ends
    rw [intercalate_cons_head, ← given, ih later, apart_cons_cons, if_neg ends]

theorem mem_of_mem_words {s w : List Char} {c : Char} (word : w ∈ words s) (member : c ∈ w) :
    c ∈ s := by
  fun_induction words s generalizing w with
  | case1 => simp_all
  | case5 a b s solid ends none ih => exact absurd none (words_ne_nil _)
  | case2 | case3 | case4 | case6 => grind

/-- Snake case puts in underscores and leaves the rest of the name. -/
theorem snakeCase_of_isSnake {name : String} (snake : ∀ c ∈ name.toList, IsSnake c) :
    snakeCase name = String.ofList (apart name.toList) := by
  have kept : (words name.toList).map (lowered false) = words name.toList := by
    refine (List.map_congr_left fun w word => ?_).trans (List.map_id _)
    exact lowered_of_isSnake (fun c member => snake c (mem_of_mem_words word member)) false
  rw [snakeCase, kept, intercalate_words snake]

end FilterSql.Text
