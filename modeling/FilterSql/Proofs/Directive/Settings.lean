import Mathlib.Tactic.SplitIfs
import FilterSql.Proofs.Record.Visits

/-!
# What a setting carries

A setting that is not ignored carries a text, and the first text it carries is
not empty. So a descriptor never has an empty text that was set, apart from the
later values of `on`, which are not looked at while reading.

`asked_ofTokens` lists what the words of a segment can ask for, one case for each
key, and the other statements follow from it by cases. `head_on_ne_empty` is the
one that joins rely on.
-/

namespace FilterSql

namespace Directive

namespace Setting

/-- The first text of a setting is not empty. -/
def Filled : Setting → Prop
  | kind token => token ≠ ""
  | column name => name ≠ ""
  | table name => name ≠ ""
  | join name => name ≠ ""
  | on columns => ∃ first, columns.head? = some first ∧ first ≠ ""
  | ignored _ => True

theorem ofKey_cases (key : Key) (values : List String) (make : String → Setting) :
    ofKey key values make = .ignored (.missingValue key) ∨
      ∃ first, values.head? = some first ∧ first ≠ "" ∧ ofKey key values make = make first := by
  unfold ofKey
  cases values.head? with
  | none => exact Or.inl rfl
  | some first =>
    by_cases empty : first = ""
    · subst empty
      exact Or.inl rfl
    · have given : first.isEmpty = false := by
        rw [← Bool.not_eq_true, String.isEmpty_iff]
        exact empty
      refine Or.inr ⟨first, rfl, empty, ?_⟩
      dsimp only
      rw [given]
      rfl

/-- What the words of a segment can ask for. -/
inductive Asked : List String → Setting → Prop
  | silent : Asked [] (.ignored (.unknownKey ""))
  | unknown (word : String) (values : List String) :
      Asked (word :: values) (.ignored (.unknownKey word))
  | missing (key : Key) (values : List String) :
      Asked (key.word :: values) (.ignored (.missingValue key))
  | kind {values : List String} {first : String} (head : values.head? = some first)
      (given : first ≠ "") : Asked ("type" :: values) (.kind first)
  | column {values : List String} {first : String} (head : values.head? = some first)
      (given : first ≠ "") : Asked ("column" :: values) (.column first)
  | table {values : List String} {first : String} (head : values.head? = some first)
      (given : first ≠ "") : Asked ("table" :: values) (.table first)
  | join {values : List String} {first : String} (head : values.head? = some first)
      (given : first ≠ "") : Asked ("join" :: values) (.join first)
  | on {values : List String} {first : String} (head : values.head? = some first)
      (given : first ≠ "") : Asked ("on" :: values) (.on values)
  | page (values : List String) : Asked ("page" :: values) (.kind "page")
  | pageSize (values : List String) : Asked ("pageSize" :: values) (.kind "pageSize")

/-- Whatever the words of a segment are, they ask for one of these. -/
theorem asked_ofTokens (words : List String) : Asked words (ofTokens words) := by
  cases words with
  | nil => exact .silent
  | cons word values =>
    have ofKey (key : Key) (make : String → Setting) (makes : ∀ {first : String},
        values.head? = some first → first ≠ "" → Asked (key.word :: values) (make first)) :
        Asked (key.word :: values) (ofKey key values make) := by
      rcases ofKey_cases key values make with ignored | ⟨first, head, given, made⟩
      · rw [ignored]
        exact .missing key values
      · rw [made]
        exact makes head given
    simp only [ofTokens]
    split_ifs with type column table join on paging
    · subst type
      exact ofKey .type .kind .kind
    · subst column
      exact ofKey .column .column .column
    · subst table
      exact ofKey .table .table .table
    · subst join
      exact ofKey .join .join .join
    · subst on
      exact ofKey .on (fun _ => .on values) .on
    · rcases paging with rfl | rfl
      · exact .page values
      · exact .pageSize values
    · exact .unknown word values

theorem Asked.filled {words : List String} {s : Setting} (asked : Asked words s) : s.Filled := by
  cases asked with
  | silent | unknown | missing => trivial
  | kind _ given | column _ given | table _ given | join _ given => exact given
  | on head given => exact ⟨_, head, given⟩
  | page => exact (by decide : "page" ≠ "")
  | pageSize => exact (by decide : "pageSize" ≠ "")

end Setting

/-- No setting that is read starts with an empty text. -/
theorem filled_of_mem_settings {s : List Char} {setting : Setting} (member : setting ∈ settings s) :
    setting.Filled := by
  obtain ⟨segment, _, rfl⟩ := List.mem_map.mp member
  exact (Setting.asked_ofTokens (tokens segment)).filled

theorem head_on_apply {d : Descriptor} {setting : Setting} (named : d.on.head? ≠ some "")
    (filled : setting.Filled) : (apply d setting).on.head? ≠ some "" := by
  cases setting with
  | on columns =>
    obtain ⟨first, head, given⟩ := filled
    change columns.head? ≠ some ""
    rw [head]
    exact fun same => given (Option.some.inj same)
  | kind | column | table | join | ignored => exact named

/-- The joined column is not empty if `on` is set at all. -/
theorem head_on_ne_empty {s : String} {d : Descriptor}
    (said : (read s).directive.descriptor? = some d) : d.on.head? ≠ some "" := by
  unfold read at said
  split at said
  · cases said
  · obtain rfl := Option.some.inj said
    change ((settings s.toList).foldl apply {}).on.head? ≠ some ""
    refine List.foldlRecOn (motive := fun d : Descriptor => d.on.head? ≠ some "") _ _ nofun ?_
    intro d named setting member
    exact head_on_apply named (filled_of_mem_settings member)

end Directive

end FilterSql
