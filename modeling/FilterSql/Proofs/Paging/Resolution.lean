import FilterSql.Paging
import FilterSql.Proofs.Number.Decimal

/-!
# The window of two texts

A paging text counts as the integer that it denotes between blanks, or as zero
if it denotes none or 64 bits do not hold it. The window follows from the two
integers by arithmetic over the unbounded integers: one clamp, at the largest
signed word, is all that the word arithmetic adds, and the end of a page is still
an unsigned word.

`ofTexts_exact` says so of every two texts. The steps on the way are specified one
by one through `toInt`: a text to a number (`countsAs_iff`), the product
(`toInt_saturatingMul`), and the window of two numbers (`ofNumbers_page`).
-/

namespace FilterSql.Window

open Decimal

/-- Whether a signed word of 64 bits holds the integer. -/
def Fits (n : Int) : Prop :=
  Int64.minValue.toInt ≤ n ∧ n ≤ Int64.maxValue.toInt

/-- The integer that a paging text counts as. -/
inductive CountsAs (s : String) : Int → Prop
  | denoted {n : Int} (denotes : Denotes (Text.trim s.toList) n) (fits : Fits n) : CountsAs s n
  | other (unfit : ∀ n, Denotes (Text.trim s.toList) n → ¬ Fits n) : CountsAs s 0

theorem toInt_ofInt {n : Int} (fits : Fits n) : (Int64.ofInt n).toInt = n := by
  have largest := Int64.toInt_maxValue
  have smallest := Int64.toInt_minValue
  unfold Fits at fits
  exact Int64.toInt_ofInt_of_le (by omega) (by omega)

/-! ## Reading the texts -/

/-- A text that denotes a signed word counts as that number. -/
theorem toInt_number_of_denotes {s : String} {n : Int} (denotes : Denotes (Text.trim s.toList) n)
    (fits : Fits n) : (number s).toInt = n := by
  have word : toInt64? n = some (Int64.ofInt n) := if_pos fits
  rw [number, readInt64?, readInt?_eq_some_iff.mpr denotes, Option.bind_some, word,
    Option.getD_some, toInt_ofInt fits]

/-- A text that denotes no signed word counts as zero. -/
theorem number_of_unfit {s : String} (unfit : ∀ n, Denotes (Text.trim s.toList) n → ¬ Fits n) :
    number s = 0 := by
  rw [number, readInt64?]
  cases read : readInt? (Text.trim s.toList) with
  | none => rfl
  | some n =>
    have word : toInt64? n = none := if_neg (unfit n (readInt?_eq_some_iff.mp read))
    rw [Option.bind_some, word, Option.getD_none]

/-- Every text counts as exactly one integer, the one that it is read as. -/
theorem countsAs_iff {s : String} {n : Int} : CountsAs s n ↔ n = (number s).toInt := by
  constructor
  · intro counts
    cases counts with
    | denoted denotes fits => exact (toInt_number_of_denotes denotes fits).symm
    | other unfit => rw [number_of_unfit unfit, Int64.toInt_zero]
  · rintro rfl
    by_cases held : ∃ n, Denotes (Text.trim s.toList) n ∧ Fits n
    · obtain ⟨n, denotes, fits⟩ := held
      rw [toInt_number_of_denotes denotes fits]
      exact .denoted denotes fits
    · have unfit : ∀ n, Denotes (Text.trim s.toList) n → ¬ Fits n :=
        fun n denotes fits => held ⟨n, denotes, fits⟩
      rw [number_of_unfit unfit, Int64.toInt_zero]
      exact .other unfit

/-- What is written for an integer counts as that integer. -/
theorem toInt_number_ofInt {n : Int} (fits : Fits n) : (number (ofInt n)).toInt = n := by
  have denotes := denotes_ofInt n
  rw [← denotes.trim_eq] at denotes
  exact toInt_number_of_denotes denotes fits

/-! ## Word arithmetic -/

/-- Of two factors that are not negative only the upper bound can be reached. -/
theorem toInt_saturatingMul {a b : Int64} (left : 0 ≤ a.toInt) (right : 0 ≤ b.toInt) :
    (saturatingMul a b).toInt = min (a.toInt * b.toInt) Int64.maxValue.toInt := by
  have product : 0 ≤ a.toInt * b.toInt := Int.mul_nonneg left right
  have largest := Int64.toInt_maxValue
  have smallest := Int64.toInt_minValue
  have above : max Int64.minValue.toInt (min (a.toInt * b.toInt) Int64.maxValue.toInt) =
      min (a.toInt * b.toInt) Int64.maxValue.toInt := by omega
  rw [saturatingMul, above]
  refine toInt_ofInt ⟨?_, ?_⟩ <;> omega

theorem toNat_toUInt64 {a : Int64} (natural : 0 ≤ a.toInt) :
    (a.toUInt64.toNat : Int) = a.toInt := by
  have word : (0 : Int64) ≤ a := Int64.le_iff_toInt_le.mpr natural
  rw [Int64.toNat_toUInt64_of_le word]
  exact Int.toNat_of_nonneg natural

/-! ## The window -/

def firstPage (page : Int64) : Int64 :=
  if page < 1 then 1 else page

def pageRows (size : Int64) : Int64 :=
  if size ≤ 0 then defaultSize else size

/-- A page number below one counts as one. -/
theorem toInt_firstPage (page : Int64) : (firstPage page).toInt = max page.toInt 1 := by
  have one : (1 : Int64).toInt = 1 := rfl
  unfold firstPage
  split
  · next below => rw [Int64.lt_iff_toInt_lt, one] at below; omega
  · next above => rw [Int64.lt_iff_toInt_lt, one] at above; omega

/-- A size that is not positive counts as ten. -/
theorem toInt_pageRows (size : Int64) :
    (pageRows size).toInt = if 0 < size.toInt then size.toInt else 10 := by
  unfold pageRows
  split
  · next low =>
    rw [Int64.le_iff_toInt_le, Int64.toInt_zero] at low
    rw [if_neg (by omega)]
    rfl
  · next high =>
    rw [Int64.le_iff_toInt_le, Int64.toInt_zero] at high
    rw [if_pos (by omega)]

theorem toInt_pageRows_pos (size : Int64) : 0 < (pageRows size).toInt := by
  rw [toInt_pageRows]
  split <;> omega

/-- The subtraction stays inside the signed range, since a page has a number of at least one. -/
theorem toInt_firstPage_sub_one (page : Int64) :
    (firstPage page - 1).toInt = max page.toInt 1 - 1 := by
  have one : (1 : Int64).toInt = 1 := rfl
  have number := toInt_firstPage page
  have order : 1 ≤ firstPage page := Int64.le_iff_toInt_le.mpr (by omega)
  rw [Int64.toInt_sub_of_le (firstPage page) 1 (by decide) order, number, one]

theorem ofNumbers_eq_page (page : Int64) {size : Int64} (bounded : size ≠ unboundedSize) :
    ofNumbers page size =
      .page (saturatingMul (firstPage page - 1) (pageRows size)).toUInt64
        (pageRows size).toUInt64 :=
  if_neg bounded

/-- The rows of a page and those before it, over the unbounded integers. -/
theorem ofNumbers_page (page : Int64) {size : Int64} (bounded : size ≠ unboundedSize) :
    ∃ offset limit, ofNumbers page size = .page offset limit ∧
      (limit.toNat : Int) = (if 0 < size.toInt then size.toInt else 10) ∧
      (offset.toNat : Int) =
        min ((max page.toInt 1 - 1) * limit.toNat) Int64.maxValue.toInt := by
  have rows : 0 ≤ (pageRows size).toInt := Int.le_of_lt (toInt_pageRows_pos size)
  have before := toInt_firstPage_sub_one page
  have natural : 0 ≤ (firstPage page - 1).toInt := by omega
  have offset := toInt_saturatingMul natural rows
  have product : 0 ≤ (firstPage page - 1).toInt * (pageRows size).toInt :=
    Int.mul_nonneg natural rows
  have skipped : 0 ≤ (saturatingMul (firstPage page - 1) (pageRows size)).toInt := by
    rw [offset]
    exact Int.le_min.mpr ⟨product, by decide⟩
  refine ⟨_, _, ofNumbers_eq_page page bounded, ?_, ?_⟩
  · rw [toNat_toUInt64 rows, toInt_pageRows]
  · rw [toNat_toUInt64 rows, toNat_toUInt64 skipped, offset, before]

/-- Only the size minus one asks for all rows. -/
theorem ofNumbers_eq_unbounded_iff {page size : Int64} :
    ofNumbers page size = .unbounded ↔ size.toInt = -1 := by
  have sentinel : size = unboundedSize ↔ size.toInt = -1 := Int64.toInt_inj.symm
  rw [← sentinel, ofNumbers]
  constructor
  · intro all
    by_contra bounded
    rw [if_neg bounded] at all
    cases all
  · exact fun all => if_pos all

/-- Each of the two texts counts as one integer, and these decide the window: all rows for a size
of minus one, else a page of so many rows as the size says, ten for a size that is not positive,
after the rows of the pages before it. -/
theorem ofTexts_exact (page size : String) :
    ∃ p s : Int, (∀ n, CountsAs page n ↔ n = p) ∧ (∀ n, CountsAs size n ↔ n = s) ∧
      (ofTexts page size = .unbounded ↔ s = -1) ∧
      (s ≠ -1 → ∃ offset limit, ofTexts page size = .page offset limit ∧
        (limit.toNat : Int) = (if 0 < s then s else 10) ∧
        (offset.toNat : Int) = min ((max p 1 - 1) * limit.toNat) Int64.maxValue.toInt ∧
        offset.toNat + limit.toNat < UInt64.size) := by
  refine ⟨(number page).toInt, (number size).toInt, fun _ => countsAs_iff, fun _ => countsAs_iff,
    ofNumbers_eq_unbounded_iff, fun bounded => ?_⟩
  have other : number size ≠ unboundedSize := by
    intro all
    rw [all] at bounded
    exact bounded rfl
  obtain ⟨offset, limit, isPage, rows, before⟩ := ofNumbers_page (number page) other
  refine ⟨offset, limit, isPage, rows, before, ?_⟩
  have largest := Int64.toInt_maxValue
  have sizeFits := Int64.toInt_le (number size)
  have fits : (limit.toNat : Int) ≤ Int64.maxValue.toInt := by
    rw [rows]
    split <;> omega
  have word : UInt64.size = 2 ^ 64 := rfl
  omega

example : ofTexts " +007" "0" = .page 60 10 := by decide +kernel

end FilterSql.Window
