import Mathlib.Data.List.Induction
import FilterSql.Proofs.Directive.Settings
import FilterSql.Proofs.Text.Trimming

/-!
# Directives one after the other

Two directives joined by a semicolon are read as one. It says what the second one
says, and what the first one says where the second is silent; only then is the
operator looked up. A segment that is of no use changes nothing that was said
before it.

The main result is `read_joined`. It rests on `described_joined` for what is said
and on `faults_read` for what is reported: the faults of the segments in the order
of the text, then the one fault about the operator. A lone hyphen is no list of
settings, so neither text may be one.
-/

namespace FilterSql

namespace Descriptor

def named (d : Descriptor) : Descriptor :=
  { d with operator := Operator.ofToken? d.kind }

/-- What the second descriptor says, and what the first one says where the second is silent. -/
def overlay (d e : Descriptor) : Descriptor :=
  named
    { kind := orElse e.kind d.kind
      column := orElse e.column d.column
      table := orElse e.table d.table
      on := match e.on with
        | [] => d.on
        | columns => columns
      join := orElse e.join d.join }

theorem operator_named (d : Descriptor) : d.named.operator = Operator.ofToken? d.named.kind := rfl

theorem overlay_silent (d : Descriptor) : d.overlay {} = d.named := rfl

/-- The operator may be looked up before a setting or after it. -/
theorem named_apply (d : Descriptor) (s : Directive.Setting) :
    (Directive.apply d.named s).named = (Directive.apply d s).named := by
  cases s <;> rfl

/-- A setting that carries something can be carried out before or after the overlay. -/
theorem named_apply_overlay (d e : Descriptor) {s : Directive.Setting} (filled : s.Filled) :
    (Directive.apply (d.overlay e) s).named = d.overlay (Directive.apply e s) := by
  have given {s t : String} (given : s ≠ "") : orElse s t = s := by
    rw [orElse, if_neg (mt String.isEmpty_iff.mp given)]
  cases s with
  | kind token => simp only [overlay, Directive.apply, named, given filled]
  | column name | table name | join name =>
    simp only [overlay, Directive.apply, named, given filled]
  | on columns =>
    obtain ⟨first, head, -⟩ := filled
    cases columns with
    | nil => cases head
    | cons first rest => rfl
  | ignored fault => rfl

/-- Settings carried out after others overlay them. -/
theorem named_foldl_apply (d : Descriptor) {written : List Directive.Setting}
    (filled : ∀ s ∈ written, s.Filled) :
    (written.foldl Directive.apply d).named = d.overlay (written.foldl Directive.apply {}) := by
  induction written using List.reverseRecOn with
  | nil => exact d.overlay_silent.symm
  | append_singleton earlier s ih =>
    have before := ih fun t member => filled t (List.mem_append_left _ member)
    have last : s.Filled := filled s (List.mem_append_right _ List.mem_cons_self)
    rw [List.foldl_append, List.foldl_append, List.foldl_cons, List.foldl_nil, List.foldl_cons,
      List.foldl_nil, ← named_apply_overlay d _ last, ← before, named_apply]

end Descriptor

/-- A kind names no operator exactly if it is no operator's token. -/
theorem Operator.ofToken?_eq_none_iff {kind : String} :
    ofToken? kind = none ↔ ∀ op : Operator, op.token ≠ kind := by
  rw [ofToken?, List.find?_eq_none]
  simp [mem_all]

namespace Directive

/-- A fault of a single segment. The other two are about the directive as a whole. -/
def Fault.ofSegment : Fault → Bool
  | unknownKey _ => true
  | missingValue _ => true
  | unsupportedOperator _ => false
  | missingOperator => false

/-- The faults of the segments, in the order of the text. -/
def Reading.skipped (r : Reading) : List Fault :=
  r.faults.filter Fault.ofSegment

def described (s : List Char) : Descriptor :=
  ((settings s).foldl apply {}).named

/-- Unless the text is a lone hyphen, its settings say what the field is about. -/
theorem read_described {s : String} (included : Text.trim s.toList ≠ ['-']) :
    read s = ⟨.search (described s.toList),
      (settings s.toList).filterMap Setting.fault? ++ kindFaults (described s.toList).kind⟩ := by
  rw [read, if_neg included]
  rfl

/-! ### Faults -/

theorem Setting.Asked.ofSegment {words : List String} {s : Setting} {f : Fault}
    (asked : Setting.Asked words s) (fault : s.fault? = some f) : f.ofSegment = true := by
  cases asked with
  | silent | unknown | missing =>
    cases fault
    rfl
  | kind | column | table | join | on | page | pageSize => cases fault

theorem ofSegment_of_mem_settings {s : List Char} {f : Fault}
    (member : f ∈ (settings s).filterMap Setting.fault?) : f.ofSegment = true := by
  obtain ⟨setting, written, fault⟩ := List.mem_filterMap.mp member
  obtain ⟨segment, -, rfl⟩ := List.mem_map.mp written
  exact (Setting.asked_ofTokens (tokens segment)).ofSegment fault

theorem skipped_read {s : String} (included : Text.trim s.toList ≠ ['-']) :
    (read s).skipped = (settings s.toList).filterMap Setting.fault? := by
  have segments : ((settings s.toList).filterMap Setting.fault?).filter Fault.ofSegment =
      (settings s.toList).filterMap Setting.fault? :=
    List.filter_eq_self.mpr fun f member => ofSegment_of_mem_settings member
  have whole (kind : String) : (kindFaults kind).filter Fault.ofSegment = [] := by
    unfold kindFaults
    split_ifs <;> rfl
  rw [read_described included, Reading.skipped, List.filter_append, segments, whole,
    List.append_nil]

theorem kindFaults_token (op : Operator) : kindFaults op.token = [] := by
  rw [kindFaults, Operator.ofToken?_token]
  rfl

theorem kindFaults_unsupported {kind : String} (given : kind ≠ "")
    (unknown : Operator.ofToken? kind = none) : kindFaults kind = [.unsupportedOperator kind] := by
  rw [kindFaults, unknown, if_neg nofun, if_neg (mt String.isEmpty_iff.mp given)]

section
variable {s : String} (included : Text.trim s.toList ≠ ['-'])

include included

/-- The faults of the segments come first and that of the kind last. -/
theorem faults_read :
    (read s).faults = (read s).skipped ++ kindFaults (described s.toList).kind := by
  rw [skipped_read included, read_described included]

theorem faults_of_silent (silent : (described s.toList).kind = "") :
    (read s).faults = (read s).skipped ++ [.missingOperator] := by
  rw [faults_read included, silent]
  rfl

theorem faults_of_unsupported (given : (described s.toList).kind ≠ "")
    (unknown : Operator.ofToken? (described s.toList).kind = none) :
    (read s).faults = (read s).skipped ++ [.unsupportedOperator (described s.toList).kind] := by
  rw [faults_read included, kindFaults_unsupported given unknown]

theorem faults_of_token {op : Operator} (token : op.token = (described s.toList).kind) :
    (read s).faults = (read s).skipped := by
  rw [faults_read included, ← token, kindFaults_token, List.append_nil]

/-- The operator is missing exactly if the last fault is about the directive as a whole. -/
theorem operator_eq_none_iff :
    (described s.toList).operator = none ↔
      (read s).faults.getLast? = some .missingOperator ∨
        ∃ token, (read s).faults.getLast? = some (.unsupportedOperator token) := by
  have operator : (described s.toList).operator = Operator.ofToken? (described s.toList).kind :=
    Descriptor.operator_named _
  rw [operator]
  cases found : Operator.ofToken? (described s.toList).kind with
  | none =>
    refine iff_of_true rfl ?_
    by_cases silent : (described s.toList).kind = ""
    · rw [faults_of_silent included silent]
      exact Or.inl List.getLast?_concat
    · rw [faults_of_unsupported included silent found]
      exact Or.inr ⟨_, List.getLast?_concat⟩
  | some op =>
    have last {f : Fault} (last : (read s).skipped.getLast? = some f) : f.ofSegment = true :=
      (List.mem_filter.mp (List.mem_of_getLast? last)).2
    rw [faults_of_token included (Operator.token_of_ofToken? found)]
    refine iff_of_false (Option.some_ne_none op) ?_
    rintro (missing | ⟨token, unsupported⟩)
    · cases last missing
    · cases last unsupported

end

/-! ### Two texts -/

/-- A semicolon separates settings, whatever stands before and behind it. -/
theorem settings_joined (a b : List Char) :
    settings (a ++ ';' :: b) = settings a ++ settings b := by
  have split : (a ++ ';' :: b).splitOn ';' = a.splitOn ';' ++ b.splitOn ';' :=
    List.splitOn_append_cons_self a b
  rw [settings, segments, split, List.map_append, List.filter_append, List.map_append]
  rfl

/-- What the second text says is laid over what the first one says. -/
theorem described_joined (a b : List Char) :
    described (a ++ ';' :: b) = (described a).overlay (described b) := by
  rw [described, settings_joined, List.foldl_append,
    Descriptor.named_foldl_apply _ fun s member => filled_of_mem_settings member]
  rfl

/-- A text with a semicolon in it is no lone hyphen. -/
theorem trim_ne_hyphen {s : List Char} (semicolon : ';' ∈ s) : Text.trim s ≠ ['-'] := by
  intro hyphen
  obtain ⟨before, after, blankBefore, blankAfter, text⟩ := Text.exists_blank_around_trim s
  rw [text, hyphen] at semicolon
  have absentBefore := blankBefore.not_mem (by decide : Text.isBlank ';' = false)
  have absentAfter := blankAfter.not_mem (by decide : Text.isBlank ';' = false)
  simp [absentBefore, absentAfter] at semicolon

section
variable {a b : String}

theorem toList_joined : (a ++ ";" ++ b).toList = a.toList ++ ';' :: b.toList := by
  simp [String.toList_append]

theorem joined_included : Text.trim (a ++ ";" ++ b).toList ≠ ['-'] := by
  rw [toList_joined]
  exact trim_ne_hyphen (by simp)

theorem skipped_joined (first : Text.trim a.toList ≠ ['-']) (second : Text.trim b.toList ≠ ['-']) :
    (read (a ++ ";" ++ b)).skipped = (read a).skipped ++ (read b).skipped := by
  rw [skipped_read joined_included, skipped_read first, skipped_read second, toList_joined,
    settings_joined, List.filterMap_append]

end

/-- A text says nothing if none of its segments is of use. -/
theorem described_useless {s : List Char} (useless : ∀ t ∈ settings s, t.fault? ≠ none) :
    described s = ({} : Descriptor).named := by
  have kept : (settings s).foldl apply {} = {} := by
    refine List.foldlRecOn (motive := fun d : Descriptor => d = {}) _ _ rfl ?_
    rintro d rfl t member
    cases t with
    | ignored fault => rfl
    | kind | column | table | join | on => exact absurd rfl (useless _ member)
  rw [described, kept]

/-- Two directives joined by a semicolon are read as one that says what the second says and, where
the second is silent, what the first says. The faults are those of the segments of both, then at
most one for the operator, which is looked up from the resulting kind. Segments that are of no use
leave all that was said before them. -/
theorem read_joined {a b : String} (first : Text.trim a.toList ≠ ['-'])
    (second : Text.trim b.toList ≠ ['-']) :
    ∃ d e, (read a).directive = .search d ∧ (read b).directive = .search e ∧
      let whole := d.overlay e
      let joined := read (a ++ ";" ++ b)
      let skipped := (read a).skipped ++ (read b).skipped
      joined.directive = .search whole ∧
        (whole.kind = "" → joined.faults = skipped ++ [.missingOperator]) ∧
        (whole.kind ≠ "" → (∀ op : Operator, op.token ≠ whole.kind) →
          joined.faults = skipped ++ [.unsupportedOperator whole.kind]) ∧
        (∀ op : Operator, op.token = whole.kind →
          whole.operator = some op ∧ joined.faults = skipped) ∧
        (whole.operator = none ↔
          joined.faults.getLast? = some .missingOperator ∨
            ∃ token, joined.faults.getLast? = some (.unsupportedOperator token)) ∧
        ((∀ s ∈ settings b.toList, s.fault? ≠ none) → whole = d) := by
  have whole : described (a ++ ";" ++ b).toList =
      (described a.toList).overlay (described b.toList) := by
    rw [toList_joined, described_joined]
  refine ⟨described a.toList, described b.toList, ?_, ?_, ?_⟩
  · rw [read_described first]
  · rw [read_described second]
  dsimp only
  rw [← whole, ← skipped_joined first second]
  refine ⟨?_, ?_, ?_, ?_, ?_, ?_⟩
  · rw [read_described joined_included]
  · exact faults_of_silent joined_included
  · exact fun given other =>
      faults_of_unsupported joined_included given (Operator.ofToken?_eq_none_iff.mpr other)
  · intro op token
    have operator : (described (a ++ ";" ++ b).toList).operator = some op := by
      rw [← Operator.ofToken?_token op, token]
      exact Descriptor.operator_named _
    exact ⟨operator, faults_of_token joined_included token⟩
  · exact operator_eq_none_iff joined_included
  · intro useless
    rw [whole, described_useless useless]
    rfl

/-- The second directive sets an operator that there is none of, and no column: the first one's
stays. -/
theorem nameThenFuzzy_joined :
    Text.trim "type:eq;column:name;colour".toList ≠ ['-'] ∧
      Text.trim " column: ;type:fuzzy:x; - ".toList ≠ ['-'] ∧
      let joined := read ("type:eq;column:name;colour" ++ ";" ++ " column: ;type:fuzzy:x; - ")
      joined.directive = .search { kind := "fuzzy", column := "name" } ∧
        joined.faults =
          [.unknownKey "colour", .missingValue .column, .unknownKey "-",
            .unsupportedOperator "fuzzy"] := by
  have first : Text.trim "type:eq;column:name;colour".toList ≠ ['-'] := by decide
  have second : Text.trim " column: ;type:fuzzy:x; - ".toList ≠ ['-'] := by decide
  have firstRead : read "type:eq;column:name;colour" =
      ⟨.search { operator := some .eq, kind := "eq", column := "name" },
        [.unknownKey "colour"]⟩ := by
    decide
  have secondRead : read " column: ;type:fuzzy:x; - " =
      ⟨.search { kind := "fuzzy" },
        [.missingValue .column, .unknownKey "-", .unsupportedOperator "fuzzy"]⟩ := by
    decide
  obtain ⟨d, e, saidFirst, saidSecond, directive, -, unsupported, -⟩ := read_joined first second
  rw [firstRead] at saidFirst unsupported
  rw [secondRead] at saidSecond unsupported
  obtain rfl := Directive.search.inj saidFirst
  obtain rfl := Directive.search.inj saidSecond
  have faults := unsupported (by decide) (Operator.ofToken?_eq_none_iff.mp (by decide))
  exact ⟨first, second, directive, faults⟩

end Directive

end FilterSql
