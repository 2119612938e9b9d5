import FilterSql.Record.Walk

/-!
# Two records side by side

Records that make the same calls and may differ in the rest, call by call. How
far they may differ is left open. A relation between outcomes that single calls
establish and that joining outcomes keeps holds of the walks of two such
records.

`Record.Like.walk_at` is the induction over both records, done once for every
relation; `Likeness.KeepsAt` collects what it asks of single calls, at some of the
places or at all of them. A likeness that is finer than another one keeps what
that one keeps (`Likeness.Finer.keepsAt`).
-/

namespace FilterSql

/-- How far two records of the same calls may differ. -/
structure Likeness where
  field : FieldSpec → Datum → FieldSpec → Datum → Prop
  join : FieldSpec → FieldSpec → Prop
  step : Step → Step → Prop
  zero : Option Bool → Option Bool → Prop

mutual

/-- Records held in the same way that make the same calls. -/
inductive Record.Like (L : Likeness) : Record → Record → Prop
  | absent : Record.Like L .absent .absent
  | held (holder : Holder) {r s : Record} (inner : Record.Like L r s) :
      Record.Like L (.held holder r) (.held holder s)
  | made {cs ds : List Call} {y z : Option Bool} (calls : Call.LikeAll L cs ds)
      (zero : L.zero y z) : Record.Like L (.made cs y) (.made ds z)

inductive Call.Like (L : Likeness) : Call → Call → Prop
  | field {m n : FieldSpec} {x y : Datum} (alike : L.field m x n y) :
      Call.Like L (.field m x) (.field n y)
  | join {m n : FieldSpec} {r s : Record} (alike : L.join m n) (inner : Record.Like L r s) :
      Call.Like L (.join m r) (.join n s)
  | flatten {r s : Record} (inner : Record.Like L r s) : Call.Like L (.flatten r) (.flatten s)
  | condition {s t : Step} (alike : L.step s t) : Call.Like L (.condition s) (.condition t)
  | whenDriver (d : Driver) {r s : Record} (inner : Record.Like L r s) :
      Call.Like L (.whenDriver d r) (.whenDriver d s)

inductive Call.LikeAll (L : Likeness) : List Call → List Call → Prop
  | nil : Call.LikeAll L [] []
  | cons {c e : Call} {cs es : List Call} (head : Call.Like L c e) (rest : Call.LikeAll L cs es) :
      Call.LikeAll L (c :: cs) (e :: es)

end

/-- Fields agree on being unset and records on what they declare. -/
structure Likeness.FixesZero (L : Likeness) : Prop where
  field {m n : FieldSpec} {x y : Datum} (alike : L.field m x n y) : x.isZero = y.isZero
  zero {y z : Option Bool} (alike : L.zero y z) : y = z

section
variable {L : Likeness}

mutual

/-- Records that are alike are both zero or both not. -/
theorem Record.Like.isZero_eq (fixes : L.FixesZero) :
    {r s : Record} → Record.Like L r s → r.isZero = s.isZero
  | _, _, .absent => rfl
  | _, _, .held _ inner => inner.isZero_eq fixes
  | _, _, .made (y := y) calls zero => by
    obtain rfl := fixes.zero zero
    cases y with
    | none => exact calls.allZero_eq fixes
    | some declared => rfl

theorem Call.Like.isZero_eq (fixes : L.FixesZero) :
    {c e : Call} → Call.Like L c e → c.isZero = e.isZero
  | _, _, .field alike => fixes.field alike
  | _, _, .join _ inner => inner.isZero_eq fixes
  | _, _, .flatten inner => inner.isZero_eq fixes
  | _, _, .condition _ => rfl
  | _, _, .whenDriver _ inner => inner.isZero_eq fixes

theorem Call.LikeAll.allZero_eq (fixes : L.FixesZero) :
    {cs es : List Call} → Call.LikeAll L cs es → Record.allZero cs = Record.allZero es
  | _, _, .nil => rfl
  | _, _, .cons head rest => by
    rw [Record.allZero, Record.allZero, head.isZero_eq fixes, rest.allZero_eq fixes]

end

/-- What single calls must ensure for `R` to hold of two walks that start at some of the places. A
record field may use that `R` holds of what the two records yield inside the join. Records are
walked inside a join from anywhere, so that place is always among them. -/
structure Likeness.KeepsAt (L : Likeness) (among : Place → Prop) (o : Options)
    (R : Outcome → Outcome → Prop) : Prop where
  joined : among .joined
  empty : R {} {}
  append {a b a' b' : Outcome} (first : R a b) (second : R a' b') : R (a ++ a') (b ++ b')
  field {m n : FieldSpec} {x y : Datum} (alike : L.field m x n y) (path : String) :
    R (m.visit o path x) (n.visit o path y)
  join {m n : FieldSpec} {r s : Record} (alike : L.join m n) (inner : Record.Like L r s)
    (within : ∀ path, R (r.walk o .joined path) (s.walk o .joined path))
    {place : Place} (here : among place) (path : String) :
    R ((Call.join m r).walk o place path) ((Call.join n s).walk o place path)
  condition {s t : Step} (alike : L.step s t) : R ⟨[s], []⟩ ⟨[t], []⟩

abbrev Likeness.Keeps (L : Likeness) (o : Options) (R : Outcome → Outcome → Prop) : Prop :=
  L.KeepsAt (fun _ => True) o R

section
variable {among : Place → Prop} {o : Options} {R : Outcome → Outcome → Prop}
  (keeps : L.KeepsAt among o R)

include keeps

mutual

/-- What holds of single calls that are alike holds of the walks of the records. -/
theorem Record.Like.walk_at :
    {r s : Record} → Record.Like L r s →
      ∀ {place}, among place → ∀ path, R (r.walk o place path) (s.walk o place path)
  | _, _, .absent => fun _ _ => keeps.empty
  | _, _, .held _ inner => inner.walk_at
  | _, _, .made calls _ => calls.walk_at

theorem Call.Like.walk_at :
    {c e : Call} → Call.Like L c e →
      ∀ {place}, among place → ∀ path, R (c.walk o place path) (e.walk o place path)
  | _, _, .field alike => fun _ => keeps.field alike
  | _, _, .join alike inner => keeps.join alike inner (inner.walk_at keeps.joined)
  | _, _, .flatten inner => inner.walk_at
  | _, _, .condition alike => fun _ _ => keeps.condition alike
  | _, _, .whenDriver d inner => fun here path => by
    rw [Call.walk, Call.walk]
    by_cases active : o.driver = d
    · rw [if_pos active, if_pos active]
      exact inner.walk_at here path
    · rw [if_neg active, if_neg active]
      exact keeps.empty

theorem Call.LikeAll.walk_at :
    {cs es : List Call} → Call.LikeAll L cs es →
      ∀ {place}, among place →
        ∀ path, R (Record.walkAll o place path cs) (Record.walkAll o place path es)
  | _, _, .nil => fun _ _ => keeps.empty
  | _, _, .cons head rest => fun here path =>
    keeps.append (head.walk_at here path) (rest.walk_at here path)

end

end

theorem Record.Like.walk {o : Options} {R : Outcome → Outcome → Prop} (keeps : L.Keeps o R)
    {r s : Record} (alike : Record.Like L r s) (place : Place) (path : String) :
    R (r.walk o place path) (s.walk o place path) :=
  alike.walk_at keeps trivial path

end

/-- Calls that are alike in the first way are alike in the second. -/
structure Likeness.Finer (L M : Likeness) : Prop where
  field {m n : FieldSpec} {x y : Datum} (alike : L.field m x n y) : M.field m x n y
  join {m n : FieldSpec} (alike : L.join m n) : M.join m n
  step {s t : Step} (alike : L.step s t) : M.step s t
  zero {y z : Option Bool} (alike : L.zero y z) : M.zero y z

section
variable {L M : Likeness}

mutual

/-- Records that are alike in a finer way are alike in a coarser one. -/
theorem Record.Like.coarsen (finer : L.Finer M) :
    {r s : Record} → Record.Like L r s → Record.Like M r s
  | _, _, .absent => .absent
  | _, _, .held h inner => .held h (inner.coarsen finer)
  | _, _, .made calls zero => .made (calls.coarsen finer) (finer.zero zero)

theorem Call.Like.coarsen (finer : L.Finer M) : {c e : Call} → Call.Like L c e → Call.Like M c e
  | _, _, .field alike => .field (finer.field alike)
  | _, _, .join alike inner => .join (finer.join alike) (inner.coarsen finer)
  | _, _, .flatten inner => .flatten (inner.coarsen finer)
  | _, _, .condition alike => .condition (finer.step alike)
  | _, _, .whenDriver d inner => .whenDriver d (inner.coarsen finer)

theorem Call.LikeAll.coarsen (finer : L.Finer M) :
    {cs es : List Call} → Call.LikeAll L cs es → Call.LikeAll M cs es
  | _, _, .nil => .nil
  | _, _, .cons head rest => .cons (head.coarsen finer) (rest.coarsen finer)

end

/-- A finer likeness keeps what a coarser one keeps. -/
theorem Likeness.Finer.keepsAt (finer : L.Finer M) {among : Place → Prop} {o : Options}
    {R : Outcome → Outcome → Prop} (keeps : M.KeepsAt among o R) : L.KeepsAt among o R where
  joined := keeps.joined
  empty := keeps.empty
  append := keeps.append
  field := fun alike => keeps.field (finer.field alike)
  join := fun alike inner => keeps.join (finer.join alike) (inner.coarsen finer)
  condition := fun alike => keeps.condition (finer.step alike)

end

end FilterSql
