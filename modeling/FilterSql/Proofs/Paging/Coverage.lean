import Mathlib.Logic.ExistsUnique
import FilterSql.Proofs.Paging.Resolution

/-!
# Pages cover the rows

For a page size that is positive, the pages cut the rows into runs of that
length, one after the other. The clamp of the offset comes into play only where
no row is left, so that neither an overlap nor a gap arises from it.

By `pages_partition_rows`, of all pages exactly one has the row, and a later page
never starts earlier. It is reduced to the quotient of the row by the page size
(`between_iff_ediv`).
-/

namespace FilterSql.Window

open Decimal

/-- Whether a window with a bound has the row of this index, the first row being zero. -/
def Covers (w : Window) (row : Nat) : Prop :=
  w.offset.toNat ≤ row ∧ ∃ limit, w.limit = some limit ∧ row < w.offset.toNat + limit.toNat

section

variable {page size : Int}
variable (pageFrom : 1 ≤ page) (pageTo : page ≤ Int64.maxValue.toInt)
variable (sizeFrom : 1 ≤ size) (sizeTo : size ≤ Int64.maxValue.toInt)

include pageFrom pageTo sizeFrom sizeTo

/-- The offset is the number of rows on the pages before, as far as the signed range reaches. -/
theorem ofTexts_ofInt :
    ((ofTexts (ofInt page) (ofInt size)).offset.toNat : Int) =
        min ((page - 1) * size) Int64.maxValue.toInt ∧
      ∃ limit, (ofTexts (ofInt page) (ofInt size)).limit = some limit ∧
        (limit.toNat : Int) = size := by
  have smallest := Int64.toInt_minValue
  have pageNumber : (number (ofInt page)).toInt = page := toInt_number_ofInt ⟨by omega, pageTo⟩
  have sizeNumber : (number (ofInt size)).toInt = size := toInt_number_ofInt ⟨by omega, sizeTo⟩
  have bounded : number (ofInt size) ≠ unboundedSize := by
    intro all
    have sentinel : unboundedSize.toInt = -1 := rfl
    rw [all, sentinel] at sizeNumber
    omega
  obtain ⟨offset, limit, isPage, rows, before⟩ := ofNumbers_page (number (ofInt page)) bounded
  have first : max page 1 = page := by omega
  rw [sizeNumber, if_pos (by omega)] at rows
  rw [pageNumber, rows, first] at before
  rw [ofTexts, isPage]
  exact ⟨before, limit, rfl, rows⟩

/-- Below the clamp, a page has the rows from its first one to the first one of the next page. -/
theorem covers_iff {row : Nat} (below : (row : Int) < Int64.maxValue.toInt) :
    Covers (ofTexts (ofInt page) (ofInt size)) row ↔
      (page - 1) * size ≤ row ∧ (row : Int) < page * size := by
  obtain ⟨offset, limit, bound, rows⟩ := ofTexts_ofInt pageFrom pageTo sizeFrom sizeTo
  have next : page * size = (page - 1) * size + size := by
    rw [Int.sub_mul, Int.one_mul, Int.sub_add_cancel]
  rw [Covers, next]
  -- the clamp lies above the row, so an offset that does not is the product itself
  constructor
  · rintro ⟨start, found, isBound, finish⟩
    obtain rfl : limit = found := Option.some.inj (bound.symm.trans isBound)
    omega
  · rintro ⟨start, finish⟩
    exact ⟨by omega, limit, bound, by omega⟩

end

/-- The page that a row is on comes after as many pages as its index divided by the page size. -/
theorem between_iff_ediv {page size row : Int} (positive : 0 < size) :
    (page - 1) * size ≤ row ∧ row < page * size ↔ page = row / size + 1 := by
  rw [← Int.le_ediv_iff_mul_le positive, ← Int.ediv_lt_iff_lt_mul positive]
  omega

/-- Every row below the largest signed word is on exactly one page, and no page starts before an
earlier one. -/
theorem pages_partition_rows {size : Int} (sizeFrom : 1 ≤ size)
    (sizeTo : size ≤ Int64.maxValue.toInt) :
    (∀ row : Nat, (row : Int) < Int64.maxValue.toInt →
      ∃! page : Int, 1 ≤ page ∧ page ≤ Int64.maxValue.toInt ∧
        Covers (ofTexts (ofInt page) (ofInt size)) row) ∧
    ∀ first second : Int, 1 ≤ first → first ≤ second → second ≤ Int64.maxValue.toInt →
      (ofTexts (ofInt first) (ofInt size)).offset ≤
        (ofTexts (ofInt second) (ofInt size)).offset := by
  constructor
  · intro row below
    have pagesBefore : 0 ≤ (row : Int) / size := Int.ediv_nonneg (by omega) (by omega)
    have fewer : (row : Int) / size ≤ row := Int.ediv_le_self size (by omega)
    refine ⟨(row : Int) / size + 1, ⟨by omega, by omega, ?_⟩, ?_⟩
    · rw [covers_iff (by omega) (by omega) sizeFrom sizeTo below, between_iff_ediv (by omega)]
    · rintro page ⟨pageFrom, pageTo, covered⟩
      rwa [covers_iff pageFrom pageTo sizeFrom sizeTo below, between_iff_ediv (by omega)] at covered
  · intro first second firstFrom order secondTo
    have earlier := (ofTexts_ofInt firstFrom (by omega) sizeFrom sizeTo).1
    have later := (ofTexts_ofInt (by omega) secondTo sizeFrom sizeTo).1
    have products : (first - 1) * size ≤ (second - 1) * size :=
      Int.mul_le_mul_of_nonneg_right (by omega) (by omega)
    rw [UInt64.le_iff_toNat_le]
    omega

/-- Pages of three rows. -/
theorem pages_of_three_partition_rows :
    (∃! page : Int, 1 ≤ page ∧ page ≤ Int64.maxValue.toInt ∧
      Covers (ofTexts (ofInt page) (ofInt 3)) 7) ∧
    (ofTexts (ofInt 2) (ofInt 3)).offset ≤ (ofTexts (ofInt 3) (ofInt 3)).offset :=
  have pages := @pages_partition_rows 3 (by decide) (by decide)
  ⟨pages.1 7 (by decide), pages.2 2 3 (by decide) (by decide) (by decide)⟩

end FilterSql.Window
