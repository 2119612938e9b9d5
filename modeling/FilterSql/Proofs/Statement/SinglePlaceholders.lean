import FilterSql.Proofs.Statement.Placeholders

/-!
# One placeholder for each question mark

A list argument is spread over the text, element by element, so the `?` that it
fills need not become one placeholder. It does exactly if the list is one scalar
in brackets. What tells the two apart in the text is a comma or the `NULL` of an
empty list, neither of which a placeholder can hold.

By `Predicate.Balanced.single_iff` the text of a predicate is its template with
the marks numbered exactly if each argument is one scalar (`Value.isSingle`).
-/

namespace FilterSql

/-- Whether a value is one scalar, in however many lists of one element. -/
def Value.isSingle : Value → Bool
  | .list [v] => v.isSingle
  | .list _ => false
  | _ => true

/-- A template in which the first `?` is the placeholder with the number `n + 1`, and so on. -/
def Driver.numbered (d : Driver) (n : Nat) : List Char → List Char
  | [] => []
  | c :: rest =>
    if c = '?' then (d.placeholder (n + 1)).toList ++ d.numbered (n + 1) rest
    else c :: d.numbered n rest

def Predicate.text (d : Driver) (n : Nat) (p : Predicate) : String :=
  String.ofList (Statement.spell d n p.statement)

/-- The predicate has one placeholder in its text for each `?` of its template. -/
def Predicate.Single (d : Driver) (n : Nat) (p : Predicate) : Prop :=
  p.text d n = String.ofList (d.numbered n p.template.toList)

/-- A character that only a list brings into the text of an argument. -/
def Text.marksList (c : Char) : Bool :=
  c == ',' || c == 'N'

namespace Driver

theorem numbered_append (d : Driver) (n : Nat) (a b : List Char) :
    d.numbered n (a ++ b) = d.numbered n a ++ d.numbered (n + a.count '?') b := by
  induction a generalizing n with
  | nil => rfl
  | cons c rest ih =>
    rw [List.cons_append, numbered, numbered]
    by_cases mark : c = '?'
    · have moved : n + 1 + rest.count '?' = n + (rest.count '?' + 1) := by omega
      rw [if_pos mark, if_pos mark, ih, mark, List.count_cons_self, moved, List.append_assoc]
    · rw [if_neg mark, if_neg mark, ih, List.count_cons_of_ne mark, List.cons_append]

theorem numbered_plain (d : Driver) (n : Nat) {s : String} (plain : Text.Plain s) :
    d.numbered n s.toList = s.toList := by
  unfold Text.Plain at plain
  generalize s.toList = cs at plain
  induction cs with
  | nil => rfl
  | cons c rest ih =>
    have first : c ≠ '?' := fun mark => plain (mark ▸ List.mem_cons_self)
    have later : '?' ∉ rest := fun member => plain (List.mem_cons_of_mem c member)
    rw [numbered, if_neg first, ih later]

theorem marksList_placeholder (d : Driver) (number : Nat) :
    (d.placeholder number).toList.countP Text.marksList = 0 := by
  have digits : (Decimal.ofNat number).toList.countP Text.marksList = 0 := by
    rw [List.countP_eq_zero, Decimal.ofNat, String.toList_ofList]
    intro c member
    have digit := Nat.isDigit_of_mem_toDigits (by decide) (by decide) member
    intro marks
    rcases Bool.or_eq_true_iff.mp marks with comma | letter
    · rw [eq_of_beq comma] at digit
      exact absurd digit (by decide)
    · rw [eq_of_beq letter] at digit
      exact absurd digit (by decide)
  unfold placeholder
  split
  · rw [String.toList_append, List.countP_append, digits]
    rfl
  · rfl

/-- Numbering a template brings no mark of a list into it. -/
theorem marksList_numbered (d : Driver) (n : Nat) (template : List Char) :
    (d.numbered n template).countP Text.marksList = template.countP Text.marksList := by
  induction template generalizing n with
  | nil => rfl
  | cons c rest ih =>
    rw [numbered]
    by_cases mark : c = '?'
    · subst mark
      rw [if_pos rfl, List.countP_append, marksList_placeholder, ih, Nat.zero_add]
      rfl
    · rw [if_neg mark, List.countP_cons, List.countP_cons, ih]

end Driver

namespace Statement

/-- A single value is bound as one argument. -/
theorem ofValue_single {v : Value} (single : v.isSingle = true) : ∃ s, ofValue v = [.arg s] := by
  fun_induction Value.isSingle v with
  | case1 v ih => exact ih single
  | case2 vs several => cases single
  | case3 v _ scalar =>
    refine ⟨v, ?_⟩
    cases v with
    | list vs => exact absurd rfl (scalar vs)
    | null | bool | int | uint | float | text => rfl

/-- A single scalar is spelled as one placeholder. -/
theorem spell_single (d : Driver) (n : Nat) {v : Value} (single : v.isSingle = true) :
    spell d n (ofValue v) = (d.placeholder (n + 1)).toList ∧ (ofValue v).args.length = 1 := by
  obtain ⟨s, bound⟩ := ofValue_single single
  rw [bound]
  exact ⟨List.append_nil _, rfl⟩

/-- Any other value shows in the text. -/
theorem marksList_spell (d : Driver) (n : Nat) {v : Value} (spread : v.isSingle = false) :
    0 < (spell d n (ofValue v)).countP Text.marksList := by
  fun_induction Value.isSingle v with
  | case1 v ih => exact ih spread
  | case2 vs several =>
    rw [List.countP_pos_iff, ofValue]
    rcases vs with _ | ⟨v, _ | ⟨w, rest⟩⟩
    · exact ⟨'N', by rw [ofValues, spell_ofText]; decide, rfl⟩
    · exact absurd rfl (several v)
    · refine ⟨',', ?_, rfl⟩
      rw [ofValues, spell_append, spell_append, spell_ofText]
      exact List.mem_append_left _ (List.mem_append_right _ (by decide))
  | case3 v _ scalar => cases spread

/-- With single arguments a template is numbered as it stands. -/
theorem spell_fill_single (d : Driver) {template : List Char} {vs : List Value}
    (enough : template.count '?' = vs.length) (single : ∀ v ∈ vs, v.isSingle = true) (n : Nat) :
    spell d n (fill template vs) = d.numbered n template := by
  induction template generalizing vs n with
  | nil => rfl
  | cons c rest ih =>
    rw [Driver.numbered]
    by_cases mark : c = '?'
    · subst mark
      rw [List.count_cons_self] at enough
      cases vs with
      | nil => cases enough
      | cons v vs =>
        obtain ⟨first, count⟩ := spell_single d n (single v List.mem_cons_self)
        have later := ih (Nat.succ.inj enough) (fun w member => single w (List.mem_cons_of_mem v member))
        rw [if_pos rfl, fill, if_pos rfl, spell_append, first, count, later]
    · rw [List.count_cons_of_ne mark] at enough
      rw [if_neg mark]
      cases vs with
      | nil => rw [fill, spell, ih enough single]
      | cons v vs => rw [fill, if_neg mark, spell, ih enough single]

/-- Each argument that is not single leaves a mark in the text. -/
theorem marksList_spell_fill (d : Driver) {template : List Char} {vs : List Value}
    (enough : template.count '?' = vs.length) (n : Nat) :
    template.countP Text.marksList + vs.countP (fun v => !v.isSingle) ≤
      (spell d n (fill template vs)).countP Text.marksList := by
  induction template generalizing vs n with
  | nil =>
    obtain rfl := List.eq_nil_of_length_eq_zero enough.symm
    exact Nat.le_refl 0
  | cons c rest ih =>
    by_cases mark : c = '?'
    · subst mark
      rw [List.count_cons_self] at enough
      cases vs with
      | nil => cases enough
      | cons v vs =>
        have later := ih (Nat.succ.inj enough) (n + (ofValue v).args.length)
        have own : (if (!v.isSingle) = true then 1 else 0) ≤
            (spell d n (ofValue v)).countP Text.marksList := by
          cases spread : v.isSingle with
          | true => exact Nat.zero_le _
          | false => exact marksList_spell d n spread
        have kept : ('?' :: rest).countP Text.marksList = rest.countP Text.marksList := rfl
        rw [kept, List.countP_cons, fill, if_pos rfl, spell_append, List.countP_append]
        omega
    · rw [List.count_cons_of_ne mark] at enough
      have later := ih enough n
      have filled : spell d n (fill (c :: rest) vs) = c :: spell d n (fill rest vs) := by
        cases vs with
        | nil => rw [fill, spell]
        | cons v vs => rw [fill, if_neg mark, spell]
      rw [filled, List.countP_cons, List.countP_cons]
      omega

end Statement

/-- A balanced predicate has one placeholder for each `?` exactly if its arguments are single. -/
theorem Predicate.Balanced.single_iff {p : Predicate} (balanced : p.Balanced) (d : Driver) (n : Nat) :
    p.Single d n ↔ ∀ v ∈ p.args, v.isSingle = true := by
  unfold Single text statement
  constructor
  · intro written
    have marks := Statement.marksList_spell_fill d balanced n
    rw [String.ofList_injective written, Driver.marksList_numbered] at marks
    have none : p.args.countP (fun v => !v.isSingle) = 0 := by omega
    intro v member
    simpa using List.countP_eq_zero.mp none v member
  · intro single
    rw [Statement.spell_fill_single d balanced single]

end FilterSql
