import Mathlib.Data.List.Forall2
import FilterSql.Proofs.Record.NestedJoins

/-!
# Join scopes that no join field opened

A walk that starts in such a scope refuses every join, but it learns so only by
trying to open one. A zero record opens none, so it is walked instead of being
refused, and whether a join is reported there depends on contents after all.

`detached_issues_fixed_iff` says exactly when the contents make no difference, and
`nested_join_of_total` is a record for which they do. Elsewhere they never do
(`Record.issues_independent_of_contents`), which is where what is needed of joined
records comes from.
-/

namespace FilterSql

/-- Equality of all but field contents and declared zeros. -/
def Likeness.upToValues : Likeness where
  field m _ n _ := m = n
  join := Eq
  step := Eq
  zero _ _ := True

mutual

theorem Record.like_self : (r : Record) → Record.Like .upToValues r r
  | .absent => .absent
  | .held h r => .held h (Record.like_self r)
  | .made cs _ => .made (Call.likeAll_self cs) trivial

theorem Call.like_self : (c : Call) → Call.Like .upToValues c c
  | .field _ _ => .field rfl
  | .join _ r => .join rfl (Record.like_self r)
  | .flatten r => .flatten (Record.like_self r)
  | .condition _ => .condition rfl
  | .whenDriver d r => .whenDriver d (Record.like_self r)

theorem Call.likeAll_self : (cs : List Call) → Call.LikeAll .upToValues cs cs
  | [] => .nil
  | c :: rest => .cons (Call.like_self c) (Call.likeAll_self rest)

end

section
variable {L : Likeness} (d : Driver)

mutual

/-- Records that make the same calls come to the same calls. -/
theorem Record.Like.reached :
    {r s : Record} → Record.Like L r s → List.Forall₂ (Call.Like L) (r.reached d) (s.reached d)
  | _, _, .absent => .nil
  | _, _, .held _ inner => inner.reached
  | _, _, .made calls _ => calls.reachedIn

theorem Call.Like.reached :
    {c e : Call} → Call.Like L c e → List.Forall₂ (Call.Like L) (c.reached d) (e.reached d)
  | _, _, .field alike => .cons (.field alike) .nil
  | _, _, .join alike inner => .cons (.join alike inner) .nil
  | _, _, .flatten inner => inner.reached
  | _, _, .condition alike => .cons (.condition alike) .nil
  | _, _, .whenDriver e inner => by
    rw [Call.reached, Call.reached]
    split
    · exact inner.reached
    · exact .nil

theorem Call.LikeAll.reachedIn :
    {cs es : List Call} → Call.LikeAll L cs es →
      List.Forall₂ (Call.Like L) (Call.reachedIn d cs) (Call.reachedIn d es)
  | _, _, .nil => .nil
  | _, _, .cons head rest => List.rel_append head.reached rest.reachedIn

end

end

/-- Whether there is a record at all, however it is held. -/
def Record.isPresent : Record → Bool
  | .absent => false
  | .held _ r => r.isPresent
  | .made _ _ => true

def Record.declare (zero : Bool) : Record → Record
  | .absent => .absent
  | .held h r => .held h (r.declare zero)
  | .made cs _ => .made cs (some zero)

theorem Record.like_declare (zero : Bool) :
    (r : Record) → Record.Like .upToValues r (r.declare zero)
  | .absent => .absent
  | .held h r => .held h (r.like_declare zero)
  | .made cs _ => .made (Call.likeAll_self cs) trivial

/-- A record that is there can be made zero or not by what it declares. -/
theorem Record.isZero_declare (zero : Bool) :
    (r : Record) → r.isPresent = true → (r.declare zero).isZero = zero
  | .absent => nofun
  | .held _ r => r.isZero_declare zero
  | .made _ _ => fun _ => rfl

theorem Record.isZero_of_not_present : (r : Record) → r.isPresent = false → r.isZero = true
  | .absent => fun _ => rfl
  | .held _ r => r.isZero_of_not_present
  | .made _ _ => nofun

theorem Record.Like.isPresent_eq {L : Likeness} :
    {r s : Record} → Record.Like L r s → r.isPresent = s.isPresent
  | _, _, .absent => rfl
  | _, _, .held _ inner => inner.isPresent_eq
  | _, _, .made _ _ => rfl

/-! ## One join -/

namespace FieldSpec

/-- The issues of a record field in a detached scope: its record is asked first whether it is
zero. -/
theorem issues_visitJoin_detached (path : String) (m : FieldSpec) (zero : Bool) (inner : Outcome) :
    (m.visitJoin .detached path zero inner).issues =
      (m.faults path).issues ++
        match m.joinRequest with
        | .none => []
        | .faulty p => [⟨path ++ m.name, p⟩]
        | .link _ => if zero then inner.issues else [⟨path ++ m.name, .nestedJoin⟩] := by
  rw [visitJoin_eq, Outcome.issues_append]
  cases m.joinRequest with
  | none => rfl
  | faulty p => rfl
  | link l => cases zero <;> rfl

theorem issues_described_detached {m : FieldSpec} (described : m.describesJoin = true)
    (path : String) (zero : Bool) (inner : Outcome) :
    (m.visitJoin .detached path zero inner).issues =
      (m.faults path).issues ++
        if zero then inner.issues else [⟨path ++ m.name, .nestedJoin⟩] := by
  obtain ⟨l, asked⟩ := m.describesJoin_iff.mp described
  rw [issues_visitJoin_detached, asked]

/-- In a detached scope no record field opens another. -/
theorem steps_visitJoin_detached (path : String) (m : FieldSpec) (zero : Bool) (inner : Outcome) :
    (m.visitJoin .detached path zero inner).steps = [] := by
  rcases m.visitJoin_steps .detached path zero inner with silent | ⟨_, _, atRoot, _, _⟩
  · exact silent
  · cases atRoot

end FieldSpec

/-- No issue inside a joined record has the path of its record field. -/
theorem Record.path_ne_of_joined {o : Options} {path : String} {m : FieldSpec} {j : Record}
    {i : Issue} (reported : i ∈ (j.walk o .joined (m.innerPath path)).issues) :
    i.path ≠ path ++ m.name := by
  obtain ⟨_, _, n, _, named⟩ := path_of_issue_joined reported
  intro same
  have lengths := congrArg String.length (named.symm.trans same)
  simp only [FieldSpec.innerPath, String.length_append] at lengths
  have dot : ".".length = 1 := rfl
  omega

/-- A join in a detached scope is reported as nested exactly if its record is not zero. -/
theorem Call.mem_nestedJoin_iff {m : FieldSpec} (described : m.describesJoin = true) (j : Record)
    (o : Options) (path : String) :
    ⟨path ++ m.name, .nestedJoin⟩ ∈ ((Call.join m j).walk o .detached path).issues ↔
      j.isZero = false := by
  have fault : ⟨path ++ m.name, .nestedJoin⟩ ∉ (m.faults path).issues :=
    fun member => (m.issues_faults path _ member).2 rfl
  have inside : ⟨path ++ m.name, .nestedJoin⟩ ∉ (j.walk o .joined (m.innerPath path)).issues :=
    fun member => Record.path_ne_of_joined member rfl
  rw [Call.walk, FieldSpec.issues_described_detached described, List.mem_append]
  cases j.isZero with
  | true => simpa [fault] using inside
  | false => simp

/-- The two calls agree on being zero if they join tables. -/
def Call.ZeroAlike : Call → Call → Prop
  | .join m j, .join _ k => m.describesJoin = true → j.isZero = k.isZero
  | _, _ => True

/-- Where no record is there both are zero. -/
theorem Call.Like.zeroAlike {L : Likeness} {c e : Call} (alike : Call.Like L c e)
    (missing : ∀ m j, c = .join m j → m.describesJoin = true → j.isPresent = false) :
    c.ZeroAlike e := by
  cases alike with
  | @join m _ r s _ inner =>
    intro described
    have absent := missing m r rfl described
    have absent' : s.isPresent = false := by rw [← inner.isPresent_eq, absent]
    rw [r.isZero_of_not_present absent, s.isZero_of_not_present absent']
  | field | flatten | condition | whenDriver => trivial

theorem Likeness.upToValues_finer : upToValues.Finer upToContents where
  field := fun same => same ▸ ⟨rfl, rfl, rfl⟩
  join := fun same => same ▸ ⟨rfl, rfl, rfl⟩
  step := fun _ => trivial
  zero := fun _ => trivial

/-- Contents and declared zeros decide nothing about issues, except in a detached scope. -/
theorem Likeness.keepsAt_upToValues (o : Options) :
    upToValues.KeepsAt (· ≠ .detached) o fun a b => a.issues = b.issues :=
  upToValues_finer.keepsAt (keepsAt_upToContents o)

/-! ## A whole walk -/

/-- Calls that agree on being zero where it matters report the same. -/
theorem Call.Like.issues_detached {c e : Call} (alike : Call.Like .upToValues c e)
    (zero : c.ZeroAlike e) (o : Options) (path : String)
    (plain : (∃ m x, c = .field m x) ∨ (∃ m s, c = .join m s) ∨ ∃ step, c = .condition step) :
    (c.walk o .detached path).issues = (e.walk o .detached path).issues := by
  cases alike with
  | @field m _ x y same =>
    obtain rfl := same
    rw [Call.walk, Call.walk, m.issues_visit, m.issues_visit]
  | @join m _ r s same inner =>
    obtain rfl := same
    have within : (r.walk o .joined (m.innerPath path)).issues =
        (s.walk o .joined (m.innerPath path)).issues :=
      inner.walk_at (Likeness.keepsAt_upToValues o) (by decide) (m.innerPath path)
    rw [Call.walk, Call.walk, m.issues_visitJoin_detached, m.issues_visitJoin_detached, within]
    cases asked : m.joinRequest with
    | none => rfl
    | faulty p => rfl
    | link l => rw [zero (m.describesJoin_iff.mpr ⟨l, asked⟩)]
  | condition same =>
    obtain rfl := same
    rfl
  | flatten | whenDriver => simp at plain

namespace Record

/-- Two records whose joins agree on being zero report the same. -/
theorem Like.issues_detached {r s : Record} (alike : Record.Like .upToValues r s) (o : Options)
    (path : String)
    (zero : List.Forall₂ Call.ZeroAlike (r.reached o.driver) (s.reached o.driver)) :
    (r.walk o .detached path).issues = (s.walk o .detached path).issues := by
  have calls := alike.reached o.driver
  have kinds := r.reached_kinds o.driver
  rw [walk_eq_reached, walk_eq_reached, Outcome.ofCalls, Outcome.ofCalls]
  generalize r.reached o.driver = cs at calls zero kinds
  generalize s.reached o.driver = es at calls zero
  induction calls with
  | nil => rfl
  | @cons c e cs es head rest ih =>
    obtain ⟨agree, agreeRest⟩ := List.forall₂_cons.mp zero
    have first := head.issues_detached agree o path (kinds c List.mem_cons_self)
    have later := ih (fun c member => kinds c (List.mem_cons_of_mem _ member)) agreeRest
    dsimp only at later ⊢
    rw [List.flatMap_cons, List.flatMap_cons, first, later]

/-- A record that can be zero or not, behind a join: the other choice is reported otherwise. -/
theorem exists_unlikeJoin (o : Options) (path : String) {m : FieldSpec} {j : Record}
    (described : m.describesJoin = true) (present : j.isPresent = true) :
    ∃ e, Call.Like .upToValues (.join m j) e ∧
      (e.walk o .detached path).issues ≠ ((Call.join m j).walk o .detached path).issues := by
  refine ⟨.join m (j.declare (!j.isZero)), .join rfl (j.like_declare _), fun same => ?_⟩
  -- Of the two calls exactly one is reported as a nested join.
  have reported := Call.mem_nestedJoin_iff described j o path
  have reported' := Call.mem_nestedJoin_iff described (j.declare (!j.isZero)) o path
  rw [same, reported, j.isZero_declare _ present] at reported'
  cases zero : j.isZero <;> simp [zero] at reported'

mutual

/-- If one call of a walk has a like that reports otherwise, so does the record. -/
theorem exists_unlike {o : Options} {path : String} {c e : Call}
    (alike : Call.Like .upToValues c e)
    (unlike : (e.walk o .detached path).issues ≠ (c.walk o .detached path).issues) :
    (r : Record) → c ∈ r.reached o.driver →
      ∃ s, Record.Like .upToValues r s ∧
        (s.walk o .detached path).issues ≠ (r.walk o .detached path).issues
  | .absent => fun member => absurd member List.not_mem_nil
  | .held h r => fun member => by
    obtain ⟨s, alike, unlike⟩ := exists_unlike alike unlike r member
    exact ⟨.held h s, .held h alike, unlike⟩
  | .made cs zero => fun member => by
    obtain ⟨es, alike, unlike⟩ := exists_unlikeAll alike unlike cs member
    exact ⟨.made es zero, .made alike trivial, unlike⟩

theorem exists_unlikeCall {o : Options} {path : String} {c e : Call}
    (alike : Call.Like .upToValues c e)
    (unlike : (e.walk o .detached path).issues ≠ (c.walk o .detached path).issues) :
    (f : Call) → c ∈ f.reached o.driver →
      ∃ g, Call.Like .upToValues f g ∧
        (g.walk o .detached path).issues ≠ (f.walk o .detached path).issues
  | .field m x => fun member => by
    obtain rfl : c = .field m x := List.mem_singleton.mp member
    exact ⟨e, alike, unlike⟩
  | .join m s => fun member => by
    obtain rfl : c = .join m s := List.mem_singleton.mp member
    exact ⟨e, alike, unlike⟩
  | .flatten r => fun member => by
    obtain ⟨s, alike, unlike⟩ := exists_unlike alike unlike r member
    exact ⟨.flatten s, .flatten alike, unlike⟩
  | .condition step => fun member => by
    obtain rfl : c = .condition step := List.mem_singleton.mp member
    exact ⟨e, alike, unlike⟩
  | .whenDriver d r => fun member => by
    rw [Call.reached] at member
    split at member
    · rename_i active
      obtain ⟨s, alike, unlike⟩ := exists_unlike alike unlike r member
      refine ⟨.whenDriver d s, .whenDriver d alike, ?_⟩
      rwa [Call.walk, Call.walk, if_pos active, if_pos active]
    · exact absurd member List.not_mem_nil

theorem exists_unlikeAll {o : Options} {path : String} {c e : Call}
    (alike : Call.Like .upToValues c e)
    (unlike : (e.walk o .detached path).issues ≠ (c.walk o .detached path).issues) :
    (cs : List Call) → c ∈ Call.reachedIn o.driver cs →
      ∃ es, Call.LikeAll .upToValues cs es ∧
        (walkAll o .detached path es).issues ≠ (walkAll o .detached path cs).issues
  | [] => fun member => absurd member List.not_mem_nil
  | f :: rest => fun member => by
    rcases List.mem_append.mp member with here | later
    · obtain ⟨g, alike, unlike⟩ := exists_unlikeCall alike unlike f here
      exact ⟨g :: rest, .cons alike (Call.likeAll_self rest),
        fun same => unlike (List.append_cancel_right same)⟩
    · obtain ⟨es, alike, unlike⟩ := exists_unlikeAll alike unlike rest later
      exact ⟨f :: es, .cons (Call.like_self f) alike,
        fun same => unlike (List.append_cancel_left same)⟩

end

/-- Two records that differ in contents only report the same if their joins agree on being zero. A
record reports the same as all of these exactly if no record that is there stands behind a join of
its own: such a join opens nothing, and it is reported as nested exactly if its record is not
zero. -/
theorem detached_issues_fixed_iff (r : Record) (o : Options) :
    (∀ s, Record.Like .upToValues r s →
        List.Forall₂ Call.ZeroAlike (r.reached o.driver) (s.reached o.driver) →
        (r.walk o .detached "").issues = (s.walk o .detached "").issues) ∧
      ((∀ s, Record.Like .upToValues r s →
          (r.walk o .detached "").issues = (s.walk o .detached "").issues) ↔
        ∀ m j, Call.join m j ∈ r.reached o.driver → m.describesJoin = true →
          j.isPresent = false) ∧
      ∀ m j, Call.join m j ∈ r.reached o.driver →
        let outcome := (Call.join m j).walk o .detached ""
        outcome.steps = [] ∧
          (m.describesJoin = true → (⟨m.name, .nestedJoin⟩ ∈ outcome.issues ↔ j.isZero = false)) := by
  have agreeing (s : Record) (alike : Record.Like .upToValues r s) := alike.issues_detached o ""
  refine ⟨agreeing, ⟨?_, ?_⟩, ?_⟩
  · intro fixed m j among described
    cases present : j.isPresent with
    | false => rfl
    | true =>
      obtain ⟨e, alike, unlike⟩ := exists_unlikeJoin o "" described present
      obtain ⟨s, alike, unlike⟩ := exists_unlike alike unlike r among
      exact absurd (fixed s alike).symm unlike
  · intro missing s alike
    have calls := alike.reached o.driver
    apply agreeing s alike
    rw [List.forall₂_iff_zip] at calls ⊢
    refine ⟨calls.1, fun {c e} pair => (calls.2 pair).zeroAlike ?_⟩
    rintro m j rfl
    exact missing m j (List.of_mem_zip pair).1
  · intro m j among
    refine ⟨m.steps_visitJoin_detached .., fun described => ?_⟩
    have reported := Call.mem_nestedJoin_iff described j o ""
    rwa [String.empty_append] at reported

def usersByTotal (total : Int64) : Record :=
  .made
    [.join (.ofName "orders" "type:left;join:orders;on:user_id:id;table:users")
      (.made [.field (.ofName "total" "type:gte;table:orders") (.signed total)] none)]
    none

theorem usersByTotal_alike (a b : Int64) :
    Record.Like .upToValues (usersByTotal a) (usersByTotal b) :=
  .made (.cons (.join rfl (.made (.cons (.field rfl) .nil) trivial)) .nil) trivial

/-- The amount decides whether the join is refused. -/
theorem nested_join_of_total :
    Record.Like .upToValues (usersByTotal 10) (usersByTotal 0) ∧
      ((usersByTotal 10).walk {} .detached "").issues = [⟨"orders", .nestedJoin⟩] ∧
      ((usersByTotal 0).walk {} .detached "").issues = [] := by
  refine ⟨usersByTotal_alike 10 0, ?_, ?_⟩
  · decide +kernel
  · decide +kernel

/-- Two amounts that are not zero are reported alike, and some content is reported otherwise. -/
theorem usersByTotal_issues :
    List.Forall₂ Call.ZeroAlike ((usersByTotal 10).reached .other) ((usersByTotal 7).reached .other) ∧
      ((usersByTotal 10).walk {} .detached "").issues =
        ((usersByTotal 7).walk {} .detached "").issues ∧
      (∃ s, Record.Like .upToValues (usersByTotal 10) s ∧
        ((usersByTotal 10).walk {} .detached "").issues ≠ (s.walk {} .detached "").issues) ∧
      ∃ m j, Call.join m j ∈ (usersByTotal 10).reached .other ∧ m.describesJoin = true ∧
        j.isZero = false ∧
        ((Call.join m j).walk {} .detached "").steps = [] ∧
        ⟨m.name, .nestedJoin⟩ ∈ ((Call.join m j).walk {} .detached "").issues := by
  obtain ⟨agreeing, fixed, joins⟩ := detached_issues_fixed_iff (usersByTotal 10) {}
  have zero : List.Forall₂ Call.ZeroAlike ((usersByTotal 10).reached .other)
      ((usersByTotal 7).reached .other) := .cons (fun _ => rfl) .nil
  have described : (FieldSpec.ofName "orders"
      "type:left;join:orders;on:user_id:id;table:users").describesJoin = true := by decide +kernel
  refine ⟨zero, agreeing _ (usersByTotal_alike 10 7) zero, ?_, ?_⟩
  · have unfixed := mt fixed.mp fun missing =>
      absurd (missing _ _ List.mem_cons_self described) nofun
    simpa only [not_forall, exists_prop] using unfixed
  · obtain ⟨silent, nested⟩ := joins _ _ List.mem_cons_self
    exact ⟨_, _, List.mem_cons_self, described, rfl, silent, (nested described).mpr rfl⟩

end Record

end FilterSql
