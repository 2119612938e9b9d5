import FilterSql.Proofs.Json.Integers
import FilterSql.Proofs.Json.Quoted

/-!
# Documents of scalars and arrays

A document made of scalars and arrays, with no number but integers and no gap in
a text, is read back from its compact text, and what follows it is left over.
The reader's fuel is enough as soon as it is as long as the text.

For a whole text this is `Plain.read?_render`. The induction is on the depth of
arrays, with the rest of the text general (`ReadsBack`), since an array hands on
what stands behind each of its items.
-/

namespace FilterSql.Json

/-- Documents of null, truth values, integers, strings and arrays. -/
inductive Plain : Json → Prop
  | null : Plain .null
  | bool (b : Bool) : Plain (.bool b)
  | integer (n : Int) : Plain (ofInt n)
  | string (s : String) : Plain (ofString s)
  | array {items : List Json} (each : ∀ j ∈ items, Plain j) : Plain (.array items)

theorem BeginsNumeral.visible {c : Char} (begins : BeginsNumeral c) : isSpace c = false := by
  simp [isSpace, begins.ne]

theorem skipSpace_cons {c : Char} (visible : isSpace c = false) (rest : List Char) :
    skipSpace (c :: rest) = c :: rest :=
  List.dropWhile_cons_of_neg (by simp [visible])

/-- The document is read back, whatever follows it but the rest of a numeral. -/
def ReadsBack (j : Json) : Prop :=
  ∀ fuel rest, j.render.length ≤ fuel → EndsNumeral rest →
    readDocument fuel (j.render ++ rest) = some (j, rest)

/-- A document begins with a character that stands neither between documents nor after the last. -/
theorem Plain.render_cons {j : Json} (plain : Plain j) :
    ∃ first more, j.render = first :: more ∧ isSpace first = false ∧ first ≠ ']' := by
  cases plain with
  | null => exact ⟨_, _, rfl, by decide, by decide⟩
  | bool b => cases b <;> exact ⟨_, _, rfl, by decide, by decide⟩
  | string s => exact ⟨_, _, rfl, by decide, by decide⟩
  | array each => exact ⟨_, _, rfl, by decide, by decide⟩
  | integer n =>
    obtain ⟨first, more, written, begins⟩ := render_ofInt_cons n
    exact ⟨first, more, written, begins.visible, begins.ne (by decide)⟩

/-- Items begin neither with white space nor with the closing bracket. -/
theorem renderItems_cons {j : Json} (plain : Plain j) (js : List Json) :
    ∃ first more, renderItems (j :: js) = first :: more ∧ isSpace first = false ∧ first ≠ ']' := by
  obtain ⟨first, more, written, visible, item⟩ := plain.render_cons
  cases js with
  | nil => exact ⟨first, more, written, visible, item⟩
  | cons k js =>
    rw [renderItems, written]
    exact ⟨first, _, rfl, visible, item⟩

/-- What begins like a numeral is read as one. -/
theorem readDocument_numeral {c : Char} (begins : BeginsNumeral c) (fuel : Nat)
    (rest : List Char) :
    readDocument (fuel + 1) (c :: rest) =
      (readNumeral (c :: rest)).map fun p => (.number p.1, p.2) := by
  rw [readDocument, skipSpace_cons begins.visible]
  split
  case h_7 => rfl
  -- every other document begins with a character of its own
  all_goals next same => exact absurd (List.cons.inj same).1 (begins.ne (by decide))

/-- Behind an opening bracket, what begins neither with a blank nor with the closing bracket is read
as items. -/
theorem readDocument_items {c : Char} (visible : isSpace c = false) (item : c ≠ ']') (fuel : Nat)
    (rest : List Char) :
    readDocument (fuel + 1) ('[' :: c :: rest) =
      (readItems fuel (c :: rest)).map fun p => (.array p.1, p.2) := by
  have bracket : isSpace '[' = false := by decide
  simp only [readDocument, skipSpace_cons bracket, skipSpace_cons visible]
  split
  · next same => exact absurd (List.cons.inj same).1 item
  · rfl

section
variable {items : List Json} (each : ∀ j ∈ items, ReadsBack j)

include each

/-- Items are read back up to the bracket behind them. -/
theorem readItems_render (given : items ≠ []) (fuel : Nat) (rest : List Char)
    (enough : (renderItems items).length < fuel) :
    readItems fuel (renderItems items ++ ']' :: rest) = some (items, rest) := by
  induction items generalizing fuel with
  | nil => exact absurd rfl given
  | cons j js ih =>
    obtain ⟨fuel, rfl⟩ := Nat.exists_eq_add_one.mpr (Nat.zero_lt_of_lt enough)
    have here := each j List.mem_cons_self
    cases js with
    | nil =>
      have document := here fuel (']' :: rest) (Nat.le_of_lt_succ enough)
        (endsNumeral_cons (by decide) rest)
      rw [readItems, renderItems, document]
      rfl
    | cons k js =>
      have shorter : (renderItems (k :: js)).length < fuel := by
        rw [renderItems, List.length_append, List.length_cons] at enough
        omega
      have length : j.render.length ≤ fuel := by
        rw [renderItems, List.length_append] at enough
        omega
      have document := here fuel (',' :: (renderItems (k :: js) ++ ']' :: rest)) length
        (endsNumeral_cons (by decide) _)
      have later := ih (fun j member => each j (List.mem_cons_of_mem _ member))
        (List.cons_ne_nil k js) fuel shorter
      rw [readItems, renderItems, List.append_assoc, List.cons_append, document]
      change (readItems fuel (renderItems (k :: js) ++ ']' :: rest)).bind _ = _
      rw [later]
      rfl

end

/-- A document needs some fuel at least. -/
theorem readsBack_of_succ {j : Json} (plain : Plain j)
    (succ : ∀ fuel rest, j.render.length ≤ fuel + 1 → EndsNumeral rest →
      readDocument (fuel + 1) (j.render ++ rest) = some (j, rest)) : ReadsBack j := by
  intro fuel rest enough ends
  cases fuel with
  | zero =>
    obtain ⟨first, more, written, -⟩ := plain.render_cons
    rw [written] at enough
    cases enough
  | succ fuel => exact succ fuel rest enough ends

/-- Every such document is read back, by induction on the depth of its arrays. -/
theorem Plain.readsBack {j : Json} (plain : Plain j) : ReadsBack j := by
  induction plain with
  | null => exact readsBack_of_succ .null fun _ _ _ _ => rfl
  | bool b => cases b <;> exact readsBack_of_succ (.bool _) fun _ _ _ _ => rfl
  | integer n =>
    refine readsBack_of_succ (.integer n) fun fuel rest _ ends => ?_
    obtain ⟨first, more, written, begins⟩ := render_ofInt_cons n
    have numeral := readNumeral_ofInt n ends
    change readDocument (fuel + 1) ((Numeral.ofInt n).render ++ rest) = some (ofInt n, rest)
    rw [written, List.cons_append] at numeral ⊢
    rw [readDocument_numeral begins, numeral]
    rfl
  | string s =>
    refine readsBack_of_succ (.string s) fun fuel rest _ _ => ?_
    have text := readText_quote s.toList rest
    change (readText (quote (s.toList.map some) ++ rest)).map _ = _
    rw [text]
    rfl
  | @array items plain ih =>
    refine readsBack_of_succ (.array plain) fun fuel rest enough _ => ?_
    cases items with
    | nil => rfl
    | cons j js =>
      have shorter : (renderItems (j :: js)).length < fuel := by
        have brackets : (Json.array (j :: js)).render.length = (renderItems (j :: js)).length + 2 := by
          simp [render]
        omega
      have items := readItems_render ih (List.cons_ne_nil j js) fuel rest shorter
      obtain ⟨first, more, written, visible, item⟩ :=
        renderItems_cons (plain j List.mem_cons_self) js
      have text : (Json.array (j :: js)).render ++ rest =
          '[' :: (renderItems (j :: js) ++ ']' :: rest) := by
        simp [render]
      rw [text, written]
      rw [written] at items
      rw [List.cons_append, readDocument_items visible item, ← List.cons_append, items]
      rfl

/-- The compact text of a document is read as that document. -/
theorem Plain.read?_render {j : Json} (plain : Plain j) :
    read? (String.ofList j.render) = some j := by
  have enough : j.render.length ≤ 2 * (String.ofList j.render).length + 2 := by
    rw [String.length_ofList]
    omega
  have document := plain.readsBack _ [] enough nofun
  rw [List.append_nil] at document
  rw [read?, String.toList_ofList, document]
  rfl

end FilterSql.Json
