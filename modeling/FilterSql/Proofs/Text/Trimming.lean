import Mathlib.Data.List.Basic
import FilterSql.Text.Blank

/-!
# Trimming and splitting

Trimming takes blanks off both ends and nothing else. A text that is split at a
separator which is no blank, and then trimmed part by part, gives the same parts
whether or not it was trimmed before.

A separator that is no blank is all that `trimmedParts_trim` needs, so it serves
segments and tokens alike.
-/

namespace FilterSql.Text

def Blank (s : List Char) : Prop :=
  ∀ c ∈ s, isBlank c = true

instance (s : List Char) : Decidable (Blank s) :=
  decidable_of_iff (s.all isBlank = true) List.all_eq_true

theorem Blank.not_mem {s : List Char} (blank : Blank s) {c : Char} (visible : isBlank c = false) :
    c ∉ s := by
  intro member
  rw [blank c member] at visible
  cases visible

theorem blank_takeWhile (s : List Char) : Blank (s.takeWhile isBlank) :=
  List.all_eq_true.mp List.all_takeWhile

theorem dropWhile_blank {s : List Char} (blank : Blank s) : s.dropWhile isBlank = [] := by
  have dropped : (s ++ []).dropWhile isBlank = [].dropWhile isBlank :=
    List.dropWhile_append_of_pos blank
  rwa [List.append_nil] at dropped

theorem blank_reverse {s : List Char} (blank : Blank s) : Blank s.reverse :=
  fun c member => blank c (List.mem_reverse.mp member)

theorem trim_blank {s : List Char} (blank : Blank s) : trim s = [] := by
  rw [trim, dropWhile_blank blank]
  rfl

theorem trim_blank_append {b : List Char} (blank : Blank b) (s : List Char) :
    trim (b ++ s) = trim s := by
  rw [trim, trim, List.dropWhile_append_of_pos blank]

theorem trim_append_blank {b : List Char} (blank : Blank b) (s : List Char) :
    trim (s ++ b) = trim s := by
  rw [trim, trim, List.dropWhile_append]
  cases rest : s.dropWhile isBlank with
  | nil => rw [dropWhile_blank blank]; rfl
  | cons c cs =>
    change (((c :: cs) ++ b).reverse.dropWhile isBlank).reverse = _
    rw [List.reverse_append, List.dropWhile_append_of_pos (blank_reverse blank)]

/-- A text that neither begins nor ends with a blank is left alone. -/
theorem trim_eq_self {s : List Char} (first : ∀ c ∈ s.head?, isBlank c = false)
    (last : ∀ c ∈ s.getLast?, isBlank c = false) : trim s = s := by
  have untouched (t : List Char) (first : ∀ c ∈ t.head?, isBlank c = false) :
      t.dropWhile isBlank = t := by
    cases t with
    | nil => rfl
    | cons c rest => exact List.dropWhile_cons_of_neg (by simp [first c rfl])
  rw [trim, untouched s first, untouched s.reverse, List.reverse_reverse]
  rwa [List.head?_reverse]

/-- What trimming takes away is blank. -/
theorem exists_blank_around_trim (s : List Char) :
    ∃ before after, Blank before ∧ Blank after ∧ s = before ++ trim s ++ after := by
  refine ⟨s.takeWhile isBlank, ((s.dropWhile isBlank).reverse.takeWhile isBlank).reverse,
    blank_takeWhile s, blank_reverse (blank_takeWhile _), ?_⟩
  rw [trim, List.append_assoc, ← List.reverse_append, List.takeWhile_append_dropWhile,
    List.reverse_reverse, List.takeWhile_append_dropWhile]

theorem mem_of_mem_trim {s : List Char} {c : Char} (member : c ∈ trim s) : c ∈ s := by
  obtain ⟨before, after, -, -, parts⟩ := exists_blank_around_trim s
  rw [parts]
  exact List.mem_append_left _ (List.mem_append_right _ member)

theorem trim_trim (s : List Char) : trim (trim s) = trim s := by
  obtain ⟨before, after, blankBefore, blankAfter, parts⟩ := exists_blank_around_trim s
  have trimmed := congrArg trim parts
  rw [trim_append_blank blankAfter, trim_blank_append blankBefore] at trimmed
  exact trimmed.symm

/-- The parts between the separators hold characters of the text, and no separator. -/
theorem mem_of_mem_splitOn {sep : Char} {s part : List Char} (among : part ∈ s.splitOn sep) :
    ∀ c ∈ part, c ∈ s ∧ c ≠ sep := by
  induction s generalizing part with
  | nil =>
    rw [List.splitOn_nil, List.mem_singleton] at among
    subst among
    exact nofun
  | cons first rest ih =>
    rw [List.splitOn_cons_eq_if_modifyHead] at among
    split at among
    · rcases List.mem_cons.mp among with rfl | among
      · exact nofun
      · exact fun c member => ⟨List.mem_cons_of_mem _ (ih among c member).1, (ih among c member).2⟩
    · next other =>
      have given : rest.splitOn sep ≠ [] := List.splitOn_ne_nil sep rest
      obtain ⟨head, tail, split⟩ := List.exists_cons_of_ne_nil given
      rw [split, List.modifyHead_cons] at among
      have later {p : List Char} (among : p ∈ head :: tail) (c : Char) (member : c ∈ p) :
          c ∈ first :: rest ∧ c ≠ sep :=
        have kept := ih (split ▸ among) c member
        ⟨List.mem_cons_of_mem _ kept.1, kept.2⟩
      rcases List.mem_cons.mp among with rfl | among
      · intro c member
        rcases List.mem_cons.mp member with rfl | member
        · exact ⟨List.mem_cons_self, fun same => other (beq_iff_eq.mpr same)⟩
        · exact later List.mem_cons_self c member
      · exact later (List.mem_cons_of_mem _ among)

section
variable {sep : Char} {b : List Char} (absent : sep ∉ b)

include absent

/-- What has no separator goes to the first part. -/
theorem splitOn_append_left (s : List Char) :
    (b ++ s).splitOn sep = (s.splitOn sep).modifyHead (b ++ ·) := by
  induction b with
  | nil =>
    rw [List.nil_append]
    cases s.splitOn sep <;> rfl
  | cons c rest ih =>
    obtain ⟨other, absent⟩ := List.ne_and_not_mem_of_not_mem_cons absent
    have different : ¬ (c == sep) = true := by simp [Ne.symm other]
    rw [List.cons_append, List.splitOn_cons_eq_if_modifyHead, if_neg different, ih absent,
      List.modifyHead_modifyHead]
    rfl

/-- What has no separator goes to the last part. -/
theorem splitOn_append_right (s : List Char) :
    ∃ init last, s.splitOn sep = init ++ [last] ∧ (s ++ b).splitOn sep = init ++ [last ++ b] := by
  induction s with
  | nil => exact ⟨[], [], List.splitOn_nil sep, List.splitOn_eq_singleton absent⟩
  | cons c rest ih =>
    obtain ⟨init, last, split, longer⟩ := ih
    rw [List.cons_append, List.splitOn_cons_eq_if_modifyHead, List.splitOn_cons_eq_if_modifyHead,
      split, longer]
    by_cases separates : (c == sep) = true
    · rw [if_pos separates, if_pos separates]
      exact ⟨[] :: init, last, rfl, rfl⟩
    · rw [if_neg separates, if_neg separates]
      cases init with
      | nil => exact ⟨[], c :: last, rfl, rfl⟩
      | cons first later => exact ⟨(c :: first) :: later, last, rfl, rfl⟩

end

def trimmedParts (sep : Char) (s : List Char) : List (List Char) :=
  (s.splitOn sep).map trim

/-- Trimming a text first makes no difference to its trimmed parts. -/
theorem trimmedParts_trim {sep : Char} (visible : isBlank sep = false) (s : List Char) :
    trimmedParts sep (trim s) = trimmedParts sep s := by
  obtain ⟨before, after, blankBefore, blankAfter, parts⟩ := exists_blank_around_trim s
  have left : trimmedParts sep (before ++ trim s) = trimmedParts sep (trim s) := by
    unfold trimmedParts
    rw [splitOn_append_left (blankBefore.not_mem visible)]
    cases (trim s).splitOn sep with
    | nil => rfl
    | cons first later =>
      change trim (before ++ first) :: _ = _
      rw [trim_blank_append blankBefore]
      rfl
  have right : trimmedParts sep (before ++ trim s ++ after) =
      trimmedParts sep (before ++ trim s) := by
    obtain ⟨init, last, split, longer⟩ :=
      splitOn_append_right (blankAfter.not_mem visible) (before ++ trim s)
    unfold trimmedParts
    rw [split, longer, List.map_append, List.map_append, List.map_singleton, List.map_singleton,
      trim_append_blank blankAfter]
  rw [← left, ← right, ← parts]

end FilterSql.Text
