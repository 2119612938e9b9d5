import FilterSql.Record.Walk

/-!
# The calls of a record

Two lists of calls. `calls` holds everything a record is made of, at any depth.
`reached` holds the fields, record fields and conditions that a walk comes to at
the record's own level: through holders, flattened records and records for the
current driver, but not through a record field. A walk is the concatenation of
the outcomes of the reached calls.

`Record.walk_eq_reached` is the equation that other modules start from, and
`Record.mem_steps_walk` and `Record.mem_issues_walk` read it element by element.
Only calls for another driver are skipped, so `reached` depends on the driver and
on nothing else.
-/

namespace FilterSql

mutual

/-- The calls of a record at any depth, each one before those inside it. -/
def Record.calls : Record → List Call
  | .absent => []
  | .held _ r => r.calls
  | .made cs _ => Call.callsIn cs

def Call.calls : Call → List Call
  | .field m content => [.field m content]
  | .join m r => .join m r :: r.calls
  | .flatten r => .flatten r :: r.calls
  | .condition step => [.condition step]
  | .whenDriver d r => .whenDriver d r :: r.calls

def Call.callsIn : List Call → List Call
  | [] => []
  | c :: rest => c.calls ++ Call.callsIn rest

end

mutual

/-- The calls that a walk for a driver comes to at the record's own level. -/
def Record.reached (d : Driver) : Record → List Call
  | .absent => []
  | .held _ r => r.reached d
  | .made cs _ => Call.reachedIn d cs

def Call.reached (d : Driver) : Call → List Call
  | .field m content => [.field m content]
  | .join m r => [.join m r]
  | .flatten r => r.reached d
  | .condition step => [.condition step]
  | .whenDriver e r => if d = e then r.reached d else []

def Call.reachedIn (d : Driver) : List Call → List Call
  | [] => []
  | c :: rest => c.reached d ++ Call.reachedIn d rest

end

mutual

/-- A walk comes to rest at fields, record fields and conditions only. -/
theorem Record.reached_kinds (d : Driver) :
    (r : Record) → ∀ c ∈ r.reached d,
      (∃ m x, c = .field m x) ∨ (∃ m s, c = .join m s) ∨ ∃ step, c = .condition step
  | .absent => fun _ member => absurd member List.not_mem_nil
  | .held _ r => r.reached_kinds d
  | .made cs _ => Call.reachedIn_kinds d cs

theorem Call.reached_kinds (d : Driver) :
    (c : Call) → ∀ e ∈ c.reached d,
      (∃ m x, e = .field m x) ∨ (∃ m s, e = .join m s) ∨ ∃ step, e = .condition step
  | .field m x => fun _ member => Or.inl ⟨m, x, List.mem_singleton.mp member⟩
  | .join m s => fun _ member => Or.inr (Or.inl ⟨m, s, List.mem_singleton.mp member⟩)
  | .flatten r => r.reached_kinds d
  | .condition step => fun _ member => Or.inr (Or.inr ⟨step, List.mem_singleton.mp member⟩)
  | .whenDriver active r => fun e member => by
    rw [Call.reached] at member
    split at member
    · exact r.reached_kinds d e member
    · exact absurd member List.not_mem_nil

theorem Call.reachedIn_kinds (d : Driver) :
    (cs : List Call) → ∀ e ∈ Call.reachedIn d cs,
      (∃ m x, e = .field m x) ∨ (∃ m s, e = .join m s) ∨ ∃ step, e = .condition step
  | [] => fun _ member => absurd member List.not_mem_nil
  | c :: rest => fun e member => by
    rcases List.mem_append.mp member with here | later
    · exact c.reached_kinds d e here
    · exact Call.reachedIn_kinds d rest e later

end

mutual

/-- What is inside a reached call is inside the record. -/
theorem Record.calls_of_reached (d : Driver) :
    (r : Record) → ∀ c ∈ r.reached d, ∀ e ∈ c.calls, e ∈ r.calls
  | .absent => fun _ member => absurd member List.not_mem_nil
  | .held _ r => r.calls_of_reached d
  | .made cs _ => Call.callsIn_of_reached d cs

theorem Call.calls_of_reached (d : Driver) :
    (c : Call) → ∀ e ∈ c.reached d, ∀ f ∈ e.calls, f ∈ c.calls
  | .field m x => fun e member f inside => by
    rwa [List.mem_singleton.mp member] at inside
  | .join m s => fun e member f inside => by
    rwa [List.mem_singleton.mp member] at inside
  | .flatten r => fun e member f inside =>
    List.mem_cons_of_mem _ (r.calls_of_reached d e member f inside)
  | .condition step => fun e member f inside => by
    rwa [List.mem_singleton.mp member] at inside
  | .whenDriver active r => fun e member f inside => by
    rw [Call.reached] at member
    split at member
    · exact List.mem_cons_of_mem _ (r.calls_of_reached d e member f inside)
    · exact absurd member List.not_mem_nil

theorem Call.callsIn_of_reached (d : Driver) :
    (cs : List Call) → ∀ c ∈ Call.reachedIn d cs, ∀ e ∈ c.calls, e ∈ Call.callsIn cs
  | [] => fun _ member => absurd member List.not_mem_nil
  | c :: rest => fun e member f inside => by
    rcases List.mem_append.mp member with here | later
    · exact List.mem_append_left _ (c.calls_of_reached d e here f inside)
    · exact List.mem_append_right _ (Call.callsIn_of_reached d rest e later f inside)

end

section
variable {r : Record} {d : Driver} (own : ∀ step, Call.condition step ∉ r.calls)

include own

theorem Record.no_condition_reached : ∀ step, Call.condition step ∉ r.reached d :=
  fun step among => own step (r.calls_of_reached d _ among _ List.mem_cons_self)

theorem Record.no_condition_joined {m : FieldSpec} {s : Record}
    (among : Call.join m s ∈ r.reached d) : ∀ step, Call.condition step ∉ s.calls :=
  fun step inside => own step (r.calls_of_reached d _ among _ (List.mem_cons_of_mem _ inside))

end

def Call.field? : Call → Option (FieldSpec × Datum)
  | .field m content => some (m, content)
  | _ => none

def Call.join? : Call → Option (FieldSpec × Record)
  | .join m r => some (m, r)
  | _ => none

/-- The fields that a walk for a driver comes to at the record's own level, in order. -/
def Record.fields (d : Driver) (r : Record) : List (FieldSpec × Datum) :=
  (r.reached d).filterMap Call.field?

def Record.joins (d : Driver) (r : Record) : List (FieldSpec × Record) :=
  (r.reached d).filterMap Call.join?

theorem Record.mem_joins_iff {d : Driver} {r : Record} {m : FieldSpec} {s : Record} :
    (m, s) ∈ r.joins d ↔ Call.join m s ∈ r.reached d := by
  unfold joins
  rw [List.mem_filterMap]
  constructor
  · rintro ⟨c, among, isJoin⟩
    cases c with
    | join m' s' =>
      obtain ⟨rfl, rfl⟩ := Prod.mk.inj (Option.some.inj isJoin)
      exact among
    | field | flatten | condition | whenDriver => cases isJoin
  · exact fun among => ⟨_, among, rfl⟩

def Outcome.ofCalls (o : Options) (place : Place) (path : String) (cs : List Call) : Outcome :=
  ⟨cs.flatMap fun c => (c.walk o place path).steps, cs.flatMap fun c => (c.walk o place path).issues⟩

theorem Outcome.ofCalls_append (o : Options) (place : Place) (path : String) (cs ds : List Call) :
    Outcome.ofCalls o place path (cs ++ ds) =
      Outcome.ofCalls o place path cs ++ Outcome.ofCalls o place path ds := by
  unfold ofCalls
  rw [List.flatMap_append, List.flatMap_append]
  rfl

theorem Outcome.ofCalls_singleton (o : Options) (place : Place) (path : String) (c : Call) :
    Outcome.ofCalls o place path [c] = c.walk o place path := by
  simp [ofCalls]

mutual

/-- A walk yields what the reached calls yield, one after the other. -/
theorem Record.walk_eq_reached (o : Options) (place : Place) (path : String) :
    (r : Record) → r.walk o place path = Outcome.ofCalls o place path (r.reached o.driver)
  | .absent => rfl
  | .held _ r => r.walk_eq_reached o place path
  | .made cs _ => Call.walkAll_eq_reached o place path cs

theorem Call.walk_eq_reached (o : Options) (place : Place) (path : String) :
    (c : Call) → c.walk o place path = Outcome.ofCalls o place path (c.reached o.driver)
  | .field m content => (Outcome.ofCalls_singleton o place path (.field m content)).symm
  | .join m r => (Outcome.ofCalls_singleton o place path (.join m r)).symm
  | .flatten r => r.walk_eq_reached o place path
  | .condition step => (Outcome.ofCalls_singleton o place path (.condition step)).symm
  | .whenDriver d r => by
    rw [Call.walk, Call.reached]
    by_cases active : o.driver = d
    · rw [if_pos active, if_pos active]
      exact r.walk_eq_reached o place path
    · rw [if_neg active, if_neg active]
      rfl

theorem Call.walkAll_eq_reached (o : Options) (place : Place) (path : String) :
    (cs : List Call) →
      Record.walkAll o place path cs = Outcome.ofCalls o place path (Call.reachedIn o.driver cs)
  | [] => rfl
  | c :: rest => by
    rw [Record.walkAll, c.walk_eq_reached, Call.walkAll_eq_reached o place path rest,
      Call.reachedIn, Outcome.ofCalls_append]

end

/-- Every step of a walk comes from a reached call. -/
theorem Record.mem_steps_walk (o : Options) (place : Place) (path : String) (r : Record)
    (step : Step) :
    step ∈ (r.walk o place path).steps ↔
      ∃ c ∈ r.reached o.driver, step ∈ (c.walk o place path).steps := by
  rw [walk_eq_reached]
  exact List.mem_flatMap

/-- Every issue of a walk is an issue of a call that it comes to. -/
theorem Record.mem_issues_walk {o : Options} {place : Place} {path : String} {r : Record} {i : Issue} :
    i ∈ (r.walk o place path).issues ↔
      ∃ c ∈ r.reached o.driver, i ∈ (c.walk o place path).issues := by
  rw [walk_eq_reached]
  exact List.mem_flatMap

end FilterSql
