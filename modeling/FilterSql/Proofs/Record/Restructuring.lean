import Mathlib.Logic.Relation
import FilterSql.Proofs.Record.Composition

/-!
# Restructured records

A record can be written in several ways that amount to the same: with or without
holders around it and the records in it, with an absent record or one that makes
no calls, with the calls of a flattened record behind a call of their own or in
place. A single replacement may stand at any depth. Whether a record is zero and
what a walk of it yields are two recursions, and a record field reads both, so
both are followed through the replacement at once.

`restructured_compiles_alike` allows any chain of replacements in either
direction. A record without calls that declares itself set may not take the place
of an absent one: it opens a scope where the other opens none
(`absent_unlike_declaredSet`).
-/

namespace FilterSql

mutual

/-- One replacement in a record, at any depth. -/
inductive Record.Restructures : Record → Record → Prop
  | unheld (holder : Holder) (r : Record) : Record.Restructures (.held holder r) r
  /-- A record that declares itself set is no replacement for an absent one. -/
  | absent (zero : Option Bool) (unset : zero ≠ some false) :
      Record.Restructures .absent (.made [] zero)
  | held (holder : Holder) {r s : Record} (inner : Record.Restructures r s) :
      Record.Restructures (.held holder r) (.held holder s)
  | made {cs ds : List Call} (calls : Call.RestructuresAmong cs ds) (zero : Option Bool) :
      Record.Restructures (.made cs zero) (.made ds zero)

inductive Call.Restructures : Call → Call → Prop
  | join (m : FieldSpec) {r s : Record} (inner : Record.Restructures r s) :
      Call.Restructures (.join m r) (.join m s)
  | flatten {r s : Record} (inner : Record.Restructures r s) :
      Call.Restructures (.flatten r) (.flatten s)
  | whenDriver (d : Driver) {r s : Record} (inner : Record.Restructures r s) :
      Call.Restructures (.whenDriver d r) (.whenDriver d s)

/-- One replacement in one of several calls, or of one of them by the calls it flattens. -/
inductive Call.RestructuresAmong : List Call → List Call → Prop
  | inlined (cs rest : List Call) :
      Call.RestructuresAmong (.flatten (.made cs none) :: rest) (cs ++ rest)
  | here {c e : Call} (replaced : Call.Restructures c e) (rest : List Call) :
      Call.RestructuresAmong (c :: rest) (e :: rest)
  | later (c : Call) {cs ds : List Call} (replaced : Call.RestructuresAmong cs ds) :
      Call.RestructuresAmong (c :: cs) (c :: ds)

end

theorem Record.allZero_append (as bs : List Call) :
    allZero (as ++ bs) = (allZero as && allZero bs) := by
  induction as with
  | nil => rfl
  | cons c rest ih => rw [List.cons_append, allZero, allZero, ih, Bool.and_assoc]

mutual

theorem Record.Restructures.isZero_eq :
    {r s : Record} → Record.Restructures r s → r.isZero = s.isZero
  | _, _, .unheld _ _ => rfl
  | _, _, .absent none _ => rfl
  | _, _, .absent (some true) _ => rfl
  | _, _, .absent (some false) unset => absurd rfl unset
  | _, _, .held _ inner => inner.isZero_eq
  | _, _, .made calls none => calls.allZero_eq
  | _, _, .made _ (some _) => rfl

theorem Call.Restructures.isZero_eq :
    {c e : Call} → Call.Restructures c e → c.isZero = e.isZero
  | _, _, .join _ inner => inner.isZero_eq
  | _, _, .flatten inner => inner.isZero_eq
  | _, _, .whenDriver _ inner => inner.isZero_eq

theorem Call.RestructuresAmong.allZero_eq :
    {cs ds : List Call} → Call.RestructuresAmong cs ds → Record.allZero cs = Record.allZero ds
  | _, _, .inlined cs rest => (Record.allZero_append cs rest).symm
  | _, _, .here replaced rest => by
    rw [Record.allZero, Record.allZero, replaced.isZero_eq]
  | _, _, .later c replaced => by
    rw [Record.allZero, Record.allZero, replaced.allZero_eq]

end

section
variable (o : Options)

mutual

/-- A replacement changes nothing that a walk yields, wherever the record is walked. -/
theorem Record.Restructures.walk_eq :
    {r s : Record} → Record.Restructures r s →
      ∀ place path, r.walk o place path = s.walk o place path
  | _, _, .unheld _ _ => fun _ _ => rfl
  | _, _, .absent _ _ => fun _ _ => rfl
  | _, _, .held _ inner => inner.walk_eq
  | _, _, .made calls _ => calls.walkAll_eq

theorem Call.Restructures.walk_eq :
    {c e : Call} → Call.Restructures c e →
      ∀ place path, c.walk o place path = e.walk o place path
  | _, _, .join m inner => fun place path => by
    -- The record's zero decides whether there is a scope, its walk what goes into it.
    rw [Call.walk, Call.walk, inner.isZero_eq, inner.walk_eq]
  | _, _, .flatten inner => inner.walk_eq
  | _, _, .whenDriver d inner => fun place path => by
    rw [Call.walk, Call.walk, inner.walk_eq]

theorem Call.RestructuresAmong.walkAll_eq :
    {cs ds : List Call} → Call.RestructuresAmong cs ds →
      ∀ place path, Record.walkAll o place path cs = Record.walkAll o place path ds
  | _, _, .inlined cs rest => fun place path => (Record.walkAll_append o place path cs rest).symm
  | _, _, .here replaced rest => fun place path => by
    rw [Record.walkAll, Record.walkAll, replaced.walk_eq]
  | _, _, .later c replaced => fun place path => by
    rw [Record.walkAll, Record.walkAll, replaced.walkAll_eq]

end

end

namespace Record

/-- What two records written differently have in common. -/
def SameQuery (r s : Record) : Prop :=
  r.isZero = s.isZero ∧ ∀ o place path, r.walk o place path = s.walk o place path

/-- One replacement changes neither zero nor query nor issues. -/
theorem Restructures.sameQuery {r s : Record} (replaced : Restructures r s) : SameQuery r s :=
  ⟨replaced.isZero_eq, fun o => replaced.walk_eq o⟩

/-- Nor does a chain of replacements, in whatever direction each goes. -/
theorem sameQuery_of_eqvGen {r s : Record} (replaced : Relation.EqvGen Restructures r s) :
    SameQuery r s := by
  induction replaced with
  | rel r s replaced => exact replaced.sameQuery
  | refl r => exact ⟨rfl, fun _ _ _ => rfl⟩
  | symm r s _ ih => exact ⟨ih.1.symm, fun o place path => (ih.2 o place path).symm⟩
  | trans r s t _ _ first second =>
    exact ⟨first.1.trans second.1,
      fun o place path => (first.2 o place path).trans (second.2 o place path)⟩

/-- However many replacements are made or undone, and wherever they stand, the record is zero as
before and compiles to what it did: a lenient compile gives one result for both records, tree and
issues alike, and a compile in any mode for any driver is refused for the same issues. -/
theorem restructured_compiles_alike {r s : Record}
    (replaced : Relation.EqvGen Restructures r s) :
    r.isZero = s.isZero ∧
      (∀ d, ∃ c, r.compile ⟨d, .lenient⟩ = .ok c ∧ s.compile ⟨d, .lenient⟩ = .ok c) ∧
      ∀ o, r.compile o = s.compile o := by
  obtain ⟨zero, walked⟩ := sameQuery_of_eqvGen replaced
  have compiles (o : Options) : r.compile o = s.compile o := by
    unfold compile
    rw [walked]
  refine ⟨zero, fun d => ⟨_, r.compile_lenient d, ?_⟩, compiles⟩
  rw [← compiles, r.compile_lenient]

def usersWithOrdersBy (inner : Record) : Record :=
  .made [.join (.ofName "orders" "type:left;join:orders;on:user_id:id;table:users") inner] none

def totalAndPage : List Call :=
  [.field (.ofName "total" "type:gte;table:orders") (.signed 10),
    .field (.ofName "page" "page:2") (.signed 3)]

/-- Holders, empty records and layers around the orders are taken off one by one. -/
theorem layeredUsers_alike :
    let layered := Record.held .optional (usersWithOrdersBy
      (.held .owned (.made [.flatten (.made totalAndPage none), .flatten .absent] none)))
    let plain := usersWithOrdersBy
      (.made (totalAndPage ++ [.flatten (.made [] (some true))]) none)
    Relation.EqvGen Restructures layered plain ∧ layered.isZero = plain.isZero ∧
      ∃ c, layered.compile ⟨.mysql, .lenient⟩ = .ok c ∧
        plain.compile ⟨.mysql, .lenient⟩ = .ok c ∧ c.tree.joins.length = 1 := by
  intro layered plain
  have inside {r s : Record} (inner : Restructures r s) :
      Restructures (usersWithOrdersBy r) (usersWithOrdersBy s) :=
    .made (.here (.join _ inner) []) none
  have replaced : Relation.EqvGen Restructures layered plain := by
    refine .trans _ _ _ (.rel _ _ (.unheld ..)) ?_
    refine .trans _ _ _ (.rel _ _ (inside (.unheld ..))) ?_
    refine .trans _ _ _ (.rel _ _ (inside (.made (.inlined ..) none))) ?_
    refine .rel _ _ (inside (.made (.later _ (.later _ (.here (.flatten ?_) []))) none))
    exact .absent (some true) (by decide)
  obtain ⟨zero, lenient, -⟩ := restructured_compiles_alike replaced
  obtain ⟨c, first, second⟩ := lenient .mysql
  refine ⟨replaced, zero, c, first, second, ?_⟩
  obtain rfl := eq_compiled_of_compile second
  decide +kernel

/-- A record without calls that declares itself set opens a scope where an absent record opens none,
so it is left out of the replacements. -/
theorem absent_unlike_declaredSet :
    Record.absent.isZero = true ∧ (Record.made [] (some false)).isZero = false ∧
      ∃ c e, (usersWithOrdersBy .absent).compile ⟨.mysql, .lenient⟩ = .ok c ∧
        (usersWithOrdersBy (.made [] (some false))).compile ⟨.mysql, .lenient⟩ = .ok e ∧
        c.tree.joins.length = 0 ∧ e.tree.joins.length = 1 :=
  ⟨rfl, rfl, _, _, compile_lenient .., compile_lenient .., by decide +kernel, by decide +kernel⟩

end Record

end FilterSql
