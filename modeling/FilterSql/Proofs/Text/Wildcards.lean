import Mathlib.Data.List.Infix

/-!
# Patterns with wildcards

What a pattern matches when `%` stands for any text and `_` for any character. A
value between wildcards is looked for as it is exactly if it holds no wildcard
of its own; otherwise the pattern also matches a text as long as the value that
differs from it where the wildcards are.

`pattern_exact_iff` is the main result, for the three places in which a value can
be looked for. A counter-text is found by writing another character for each
wildcard (`disguised`), which the pattern still matches.
-/

namespace FilterSql.Text

def isWildcard (c : Char) : Bool :=
  c == '%' || c == '_'

theorem no_wildcard_iff {v : List Char} :
    (∀ c ∈ v, isWildcard c = false) ↔ '%' ∉ v ∧ '_' ∉ v := by
  simp only [isWildcard, Bool.or_eq_false_iff, beq_eq_false_iff_ne]
  constructor
  · exact fun plain => ⟨fun any => (plain _ any).1 rfl, fun one => (plain _ one).2 rfl⟩
  · rintro ⟨noAny, noOne⟩ c member
    exact ⟨fun any => noAny (any ▸ member), fun one => noOne (one ▸ member)⟩

/-- Whether a pattern matches a whole text. -/
def like : List Char → List Char → Bool
  | [], text => text.isEmpty
  | c :: pattern, text =>
    if c = '%' then text.tails.any (like pattern)
    else
      match text with
      | [] => false
      | x :: rest => (c == '_' || c == x) && like pattern rest

/-- Where in a text a value is looked for. -/
inductive Side where
  | anywhere | atStart | atEnd
  deriving DecidableEq, Repr

def Side.Holds (value text : List Char) : Side → Prop
  | anywhere => value <:+: text
  | atStart => value <+: text
  | atEnd => value <:+ text

/-- The pattern that looks for a value: wildcards in the value are left as they are. -/
def Side.pattern (value : List Char) : Side → List Char
  | anywhere => '%' :: (value ++ ['%'])
  | atStart => value ++ ['%']
  | atEnd => '%' :: value

theorem like_nil {text : List Char} : like [] text = true ↔ text = [] := by
  rw [like, List.isEmpty_iff]

/-- A percent sign matches any part of the text, an empty one as well. -/
theorem like_any {pattern text : List Char} :
    like ('%' :: pattern) text = true ↔ ∃ rest, rest <:+ text ∧ like pattern rest = true := by
  simp only [like, if_pos, List.any_eq_true, List.mem_tails]

theorem like_any_only (text : List Char) : like ['%'] text = true :=
  like_any.mpr ⟨[], List.nil_suffix, rfl⟩

theorem like_cons {c x : Char} {pattern text : List Char} (single : c ≠ '%')
    (stands : c = '_' ∨ c = x) (rest : like pattern text = true) :
    like (c :: pattern) (x :: text) = true := by
  simpa [like, single, rest] using stands

/-- Without wildcards in front, a pattern matches what begins with the same characters. -/
theorem like_plain_append {value : List Char} (plain : ∀ c ∈ value, isWildcard c = false)
    {pattern text : List Char} :
    like (value ++ pattern) text = true ↔ ∃ rest, value ++ rest = text ∧ like pattern rest = true := by
  induction value generalizing text with
  | nil => simp
  | cons c value ih =>
    obtain ⟨notAny, notOne⟩ : c ≠ '%' ∧ c ≠ '_' := by
      simpa [isWildcard] using plain c List.mem_cons_self
    have rest : ∀ e ∈ value, isWildcard e = false :=
      fun e member => plain e (List.mem_cons_of_mem c member)
    cases text with
    | nil => simp [like, notAny]
    | cons x text => simp [like, notAny, notOne, ih rest, and_assoc]

/-- Without wildcards only the text itself matches. -/
theorem like_plain {value : List Char} (plain : ∀ c ∈ value, isWildcard c = false)
    {text : List Char} : like value text = true ↔ value = text := by
  have whole : like (value ++ []) text = true ↔ ∃ rest, value ++ rest = text ∧ like [] rest = true :=
    like_plain_append plain
  simpa [like_nil] using whole

/-- The value with another character in place of each wildcard. -/
def disguised (value : List Char) : List Char :=
  value.map fun c => if isWildcard c then 'x' else c

theorem length_disguised (value : List Char) : (disguised value).length = value.length :=
  List.length_map ..

theorem disguised_ne {value : List Char} {c : Char} (member : c ∈ value)
    (wild : isWildcard c = true) : value ≠ disguised value := by
  intro same
  have plain : ∀ e ∈ disguised value, isWildcard e = false := by
    intro e among
    obtain ⟨original, _, rfl⟩ := List.mem_map.mp among
    cases kind : isWildcard original with
    | true => rfl
    | false => exact kind
  rw [← same] at plain
  rw [plain c member] at wild
  cases wild

/-- As a pattern a value takes its disguise for itself. -/
theorem like_disguised (value : List Char) {pattern text : List Char}
    (rest : like pattern text = true) :
    like (value ++ pattern) (disguised value ++ text) = true := by
  induction value with
  | nil => exact rest
  | cons c value ih =>
    by_cases any : c = '%'
    · rw [any]
      exact like_any.mpr ⟨_, List.suffix_cons .., ih⟩
    · apply like_cons any _ ih
      by_cases one : c = '_'
      · exact Or.inl one
      · exact Or.inr (by simp [isWildcard, any, one])

namespace Side

/-- A value without wildcards is looked for as it is. -/
theorem like_pattern_iff {value : List Char} (plain : ∀ c ∈ value, isWildcard c = false)
    (side : Side) (text : List Char) :
    like (side.pattern value) text = true ↔ side.Holds value text := by
  cases side with
  | anywhere =>
    rw [pattern, like_any, Holds, List.infix_iff_prefix_suffix]
    simp only [like_plain_append plain, like_any_only, and_true]
    exact exists_congr fun rest => and_comm
  | atStart =>
    rw [pattern, like_plain_append plain, Holds]
    simp only [like_any_only, and_true]
    rfl
  | atEnd =>
    rw [pattern, like_any, Holds]
    simp [like_plain plain]

/-- The disguised value matches wherever the value is looked for. -/
theorem like_pattern_disguised (side : Side) (value : List Char) :
    like (side.pattern value) (disguised value) = true := by
  have whole := like_disguised value (like_nil.mpr rfl)
  have front := like_disguised value (like_any_only [])
  rw [List.append_nil, List.append_nil] at whole
  rw [List.append_nil] at front
  cases side with
  | anywhere => exact like_any.mpr ⟨_, List.suffix_rfl, front⟩
  | atStart => exact front
  | atEnd => exact like_any.mpr ⟨_, List.suffix_rfl, whole⟩

/-- A text that is no longer than the value holds it only by being the value. -/
theorem Holds.eq_of_length {side : Side} {value text : List Char} (holds : side.Holds value text)
    (length : text.length = value.length) : value = text := by
  cases side with
  | anywhere => exact List.IsInfix.eq_of_length holds length.symm
  | atStart => exact List.IsPrefix.eq_of_length holds length.symm
  | atEnd => exact List.IsSuffix.eq_of_length holds length.symm

/-- The pattern says what it is meant to say exactly if the value holds no wildcard. -/
theorem pattern_exact_iff (side : Side) (value : List Char) :
    (∀ text, like (side.pattern value) text = true ↔ side.Holds value text) ↔
      ∀ c ∈ value, isWildcard c = false := by
  constructor
  · intro exact c member
    cases wild : isWildcard c with
    | false => rfl
    | true =>
      have holds := (exact (disguised value)).mp (side.like_pattern_disguised value)
      exact absurd (holds.eq_of_length (length_disguised value)) (disguised_ne member wild)
  · exact fun plain => side.like_pattern_iff plain

end Side

end FilterSql.Text
