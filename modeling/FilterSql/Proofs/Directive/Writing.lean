import Mathlib.Data.List.Perm.Basic
import FilterSql.Proofs.Directive.Settings
import FilterSql.Proofs.Text.Trimming

/-!
# Writing directives

The written forms of a descriptor: its settings in any order, each spelled as a
key with its values, with blanks around every word and empty segments in
between. Reading a written form gives the descriptor back, without a fault.

This is `read_written`. A word is writable if it survives splitting and trimming
(`IsToken`): it is not empty, holds neither separator, and has no blank at its
ends. The order of the settings does not matter because those of different keys
commute (`Carries.apply_comm`).
-/

namespace FilterSql

namespace Directive

/-- A text that survives splitting and trimming. -/
structure IsToken (t : String) : Prop where
  nonempty : t ≠ ""
  semicolon : ';' ∉ t.toList
  colon : ':' ∉ t.toList
  first : ∀ c ∈ t.toList.head?, Text.isBlank c = false
  last : ∀ c ∈ t.toList.getLast?, Text.isBlank c = false

theorem all_visible_iff (o : Option Char) :
    o.all (fun c => !Text.isBlank c) = true ↔ ∀ c ∈ o, Text.isBlank c = false := by
  rw [Option.all_eq_true]
  simp only [Bool.not_eq_true', Option.mem_def]

instance (t : String) : Decidable (IsToken t) :=
  decidable_of_iff (t ≠ "" ∧ ';' ∉ t.toList ∧ ':' ∉ t.toList ∧
      t.toList.head?.all (fun c => !Text.isBlank c) = true ∧
      t.toList.getLast?.all (fun c => !Text.isBlank c) = true)
    ⟨fun ⟨nonempty, semicolon, colon, first, last⟩ =>
        ⟨nonempty, semicolon, colon, (all_visible_iff _).mp first, (all_visible_iff _).mp last⟩,
      fun token => ⟨token.nonempty, token.semicolon, token.colon,
        (all_visible_iff _).mpr token.first, (all_visible_iff _).mpr token.last⟩⟩

def Padded (word : String) (text : List Char) : Prop :=
  ∃ before after, Text.Blank before ∧ Text.Blank after ∧ text = before ++ word.toList ++ after

/-- The words of the segment for a setting. The two paging operators may stand alone. -/
inductive Setting.Spelled : Setting → List String → Prop
  | kind (token : String) : Spelled (.kind token) ["type", token]
  | page : Spelled (.kind "page") ["page"]
  | pageSize : Spelled (.kind "pageSize") ["pageSize"]
  | column (name : String) : Spelled (.column name) ["column", name]
  | table (name : String) : Spelled (.table name) ["table", name]
  | join (name : String) : Spelled (.join name) ["join", name]
  | on (columns : List String) : Spelled (.on columns) ("on" :: columns)

/-- Segments that spell these settings in this order, with empty ones anywhere. -/
inductive Spells : List Setting → List (List Char) → Prop
  | nil : Spells [] []
  | empty {written : List Setting} {segments : List (List Char)} {blanks : List Char}
      (blank : Text.Blank blanks) (rest : Spells written segments) :
      Spells written (blanks :: segments)
  | setting {written : List Setting} {segments : List (List Char)} {s : Setting}
      {words : List String} {padded : List (List Char)} (spelled : s.Spelled words)
      (padding : List.Forall₂ Padded words padded) (rest : Spells written segments) :
      Spells (s :: written) ([':'].intercalate padded :: segments)

end Directive

namespace Descriptor

/-- What a descriptor says, setting by setting. -/
def settings (d : Descriptor) : List Directive.Setting :=
  .kind d.kind ::
    (if d.column = "" then [] else [.column d.column]) ++
    (if d.table = "" then [] else [.table d.table]) ++
    (if d.join = "" then [] else [.join d.join]) ++
    (if d.on = [] then [] else [.on d.on])

def WrittenAs (d : Descriptor) (text : String) : Prop :=
  ∃ written segments, written.Perm d.settings ∧ Directive.Spells written segments ∧
    text.toList = [';'].intercalate segments

/-- The descriptor names an operator by its token, and all it says is said in tokens. -/
structure Writable (d : Descriptor) : Prop where
  named : ∃ op : Operator, d.operator = some op ∧ d.kind = op.token
  column : d.column = "" ∨ Directive.IsToken d.column
  table : d.table = "" ∨ Directive.IsToken d.table
  join : d.join = "" ∨ Directive.IsToken d.join
  on : ∀ t ∈ d.on, Directive.IsToken t

end Descriptor

namespace Directive

/-! ### Words -/

/-- The tokens of the operators survive splitting and trimming. -/
theorem isToken_token (op : Operator) : IsToken op.token := by
  cases op <;> decide

namespace Padded
variable {word : String} {text : List Char} (padded : Padded word text)

include padded

theorem trim_eq (isToken : IsToken word) : Text.trim text = word.toList := by
  obtain ⟨before, after, blankBefore, blankAfter, rfl⟩ := padded
  rw [Text.trim_append_blank blankAfter, Text.trim_blank_append blankBefore,
    Text.trim_eq_self isToken.first isToken.last]

theorem not_mem {c : Char} (visible : Text.isBlank c = false) (absent : c ∉ word.toList) :
    c ∉ text := by
  obtain ⟨before, after, blankBefore, blankAfter, rfl⟩ := padded
  simp only [List.mem_append, not_or]
  exact ⟨⟨blankBefore.not_mem visible, absent⟩, blankAfter.not_mem visible⟩

end Padded

section
variable {words : List String} {padded : List (List Char)}

/-- Blanks around tokens are taken off again. -/
theorem trim_padding (padding : List.Forall₂ Padded words padded)
    (each : ∀ w ∈ words, IsToken w) :
    padded.map (fun t => String.ofList (Text.trim t)) = words := by
  induction padding with
  | nil => rfl
  | cons first _ ih =>
    have trimmed := first.trim_eq (each _ List.mem_cons_self)
    rw [List.map_cons, trimmed, String.ofList_toList,
      ih fun w member => each w (List.mem_cons_of_mem _ member)]

theorem not_mem_padding (padding : List.Forall₂ Padded words padded) {c : Char}
    (visible : Text.isBlank c = false) (absent : ∀ w ∈ words, c ∉ w.toList) :
    ∀ text ∈ padded, c ∉ text := by
  induction padding with
  | nil => exact fun text member => absurd member List.not_mem_nil
  | cons first _ ih =>
    intro text member
    rcases List.mem_cons.mp member with rfl | later
    · exact first.not_mem visible (absent _ List.mem_cons_self)
    · exact ih (fun w member => absent w (List.mem_cons_of_mem _ member)) text later

end

theorem not_mem_intercalate {sep c : Char} (other : c ≠ sep) {parts : List (List Char)}
    (absent : ∀ part ∈ parts, c ∉ part) : c ∉ [sep].intercalate parts := by
  induction parts with
  | nil => exact List.not_mem_nil
  | cons part rest ih =>
    have later := ih fun p member => absent p (List.mem_cons_of_mem part member)
    have here := absent part List.mem_cons_self
    cases rest with
    | nil => rwa [List.intercalate_singleton]
    | cons next rest =>
      rw [List.intercalate_cons_cons]
      simp [here, other, later]

/-! ### Segments -/

theorem tokens_eq (segment : List Char) :
    tokens segment = (Text.trimmedParts ':' segment).map String.ofList := by
  rw [tokens, Text.trimmedParts, List.map_map]
  rfl

theorem tokens_trim (segment : List Char) : tokens (Text.trim segment) = tokens segment := by
  rw [tokens_eq, tokens_eq, Text.trimmedParts_trim (by decide)]

/-- An empty segment is read as one empty word. -/
theorem trim_isEmpty {segment : List Char} (given : tokens segment ≠ [""]) :
    (Text.trim segment).isEmpty = false := by
  rw [← Bool.not_eq_true, List.isEmpty_iff]
  intro empty
  rw [← tokens_trim, empty] at given
  exact given rfl

theorem settings_trim (s : List Char) : settings (Text.trim s) = settings s := by
  have parts (s : List Char) :
      segments s = (Text.trimmedParts ';' s).filter fun t => !t.isEmpty := rfl
  rw [settings, settings, parts, parts, Text.trimmedParts_trim (by decide)]

/-- A padded segment is read as its words. -/
theorem tokens_padding {words : List String} {padded : List (List Char)} (given : words ≠ [])
    (padding : List.Forall₂ Padded words padded) (each : ∀ w ∈ words, IsToken w) :
    tokens ([':'].intercalate padded) = words := by
  have nonempty : padded ≠ [] := by
    rintro rfl
    cases padding
    exact given rfl
  have plain := not_mem_padding padding (by decide : Text.isBlank ':' = false)
    fun w member => (each w member).colon
  rw [tokens, List.splitOn_intercalate ':' plain nonempty, trim_padding padding each]

namespace Setting

/-- Every text that the setting carries is a token. -/
def Writable : Setting → Prop
  | kind token => IsToken token
  | column name => IsToken name
  | table name => IsToken name
  | join name => IsToken name
  | on columns => columns ≠ [] ∧ ∀ c ∈ columns, IsToken c
  | ignored _ => False

namespace Spelled
variable {s : Setting} {words : List String} (spelled : s.Spelled words)

include spelled

theorem words_ne_nil : words ≠ [] := by
  cases spelled <;> exact List.cons_ne_nil _ _

theorem isToken_of_mem (writable : s.Writable) : ∀ w ∈ words, IsToken w := by
  have key : ∀ w ∈ ["type", "page", "pageSize", "column", "table", "join", "on"], IsToken w := by
    decide
  cases spelled with
  | kind token | column name | table name | join name =>
    simpa using ⟨key _ (by simp), writable⟩
  | page | pageSize =>
    intro w member
    rw [List.mem_singleton.mp member]
    exact writable
  | on columns =>
    intro w member
    rcases List.mem_cons.mp member with rfl | value
    · exact key _ (by simp)
    · exact writable.2 w value

/-- The words of a setting ask for that setting. -/
theorem ofTokens_eq (writable : s.Writable) : ofTokens words = s := by
  have made (k : Key) (value : String) (values : List String) (make : String → Setting)
      (isToken : IsToken value) : ofKey k (value :: values) make = make value := by
    have given : value.isEmpty = false := by
      rw [← Bool.not_eq_true, String.isEmpty_iff]
      exact isToken.nonempty
    simp [ofKey, given]
  cases spelled with
  | page | pageSize => rfl
  | kind token => exact made .type token [] _ writable
  | column name => exact made .column name [] _ writable
  | table name => exact made .table name [] _ writable
  | join name => exact made .join name [] _ writable
  | on columns =>
    cases columns with
    | nil => exact absurd rfl writable.1
    | cons first rest =>
      exact made .on first rest (fun _ => .on (first :: rest))
        (writable.2 first List.mem_cons_self)

end Spelled

end Setting

section
variable {written : List Setting} {segments : List (List Char)}

theorem not_mem_of_spells (spells : Spells written segments)
    (writable : ∀ s ∈ written, s.Writable) : ∀ segment ∈ segments, ';' ∉ segment := by
  induction spells with
  | nil => exact fun segment member => absurd member List.not_mem_nil
  | empty blank _ ih =>
    intro segment member
    rcases List.mem_cons.mp member with rfl | later
    · exact blank.not_mem (by decide)
    · exact ih writable segment later
  | setting spelled padding _ ih =>
    intro segment member
    rcases List.mem_cons.mp member with rfl | later
    · have tokens := spelled.isToken_of_mem (writable _ List.mem_cons_self)
      exact not_mem_intercalate (by decide)
        (not_mem_padding padding (by decide) fun w member => (tokens w member).semicolon)
    · exact ih (fun s member => writable s (List.mem_cons_of_mem _ member)) segment later

/-- Segments that spell settings are read as those settings; the empty ones say nothing. -/
theorem ofTokens_of_spells (spells : Spells written segments)
    (writable : ∀ s ∈ written, s.Writable) :
    ((segments.map Text.trim).filter fun t => !t.isEmpty).map
      (fun t => Setting.ofTokens (tokens t)) = written := by
  induction spells with
  | nil => rfl
  | empty blank _ ih =>
    rw [List.map_cons, Text.trim_blank blank]
    exact ih writable
  | @setting _ _ _ _ padded spelled padding _ ih =>
    have here := writable _ List.mem_cons_self
    have later := ih fun s member => writable s (List.mem_cons_of_mem _ member)
    have isToken := spelled.isToken_of_mem here
    have read := tokens_padding spelled.words_ne_nil padding isToken
    have visible : (Text.trim ([':'].intercalate padded)).isEmpty = false := by
      refine trim_isEmpty fun empty => ?_
      rw [empty] at read
      exact (isToken "" (read ▸ List.mem_cons_self)).nonempty rfl
    rw [List.map_cons, List.filter_cons_of_pos (by rw [visible]; rfl), List.map_cons, tokens_trim,
      read, spelled.ofTokens_eq here, later]

/-- Segments that spell settings are read as these settings. -/
theorem settings_of_spells (spells : Spells written segments)
    (writable : ∀ s ∈ written, s.Writable) (given : written ≠ []) :
    settings ([';'].intercalate segments) = written := by
  have nonempty : segments ≠ [] := by
    rintro rfl
    cases spells
    exact given rfl
  rw [settings, Directive.segments,
    List.splitOn_intercalate ';' (not_mem_of_spells spells writable) nonempty]
  exact ofTokens_of_spells spells writable

end

end Directive

namespace Descriptor
variable {d : Descriptor}

/-- The setting carries something that the descriptor says. -/
def Carries (d : Descriptor) : Directive.Setting → Prop
  | .kind token => token = d.kind
  | .column name => name ≠ "" ∧ name = d.column
  | .table name => name ≠ "" ∧ name = d.table
  | .join name => name ≠ "" ∧ name = d.join
  | .on columns => columns ≠ [] ∧ columns = d.on
  | .ignored _ => False

theorem carries_of_mem_settings {s : Directive.Setting} (member : s ∈ d.settings) : d.Carries s := by
  cases s <;> simp_all [settings, Carries]

theorem Carries.writable {s : Directive.Setting} (carried : d.Carries s) (writable : d.Writable) :
    s.Writable := by
  cases s with
  | kind token =>
    obtain ⟨op, -, kind⟩ := writable.named
    obtain rfl := carried.trans kind
    exact Directive.isToken_token op
  | column name =>
    obtain ⟨given, rfl⟩ := carried
    exact writable.column.resolve_left given
  | table name =>
    obtain ⟨given, rfl⟩ := carried
    exact writable.table.resolve_left given
  | join name =>
    obtain ⟨given, rfl⟩ := carried
    exact writable.join.resolve_left given
  | on columns =>
    obtain ⟨given, rfl⟩ := carried
    exact ⟨given, writable.on⟩
  | ignored fault => exact carried

/-- Settings of one descriptor can be carried out in any order. -/
theorem Carries.apply_comm {s t : Directive.Setting} (first : d.Carries s) (second : d.Carries t)
    (e : Descriptor) :
    Directive.apply (Directive.apply e s) t = Directive.apply (Directive.apply e t) s := by
  cases s <;> cases t <;> simp_all [Carries, Directive.apply]

/-- Carrying out all that a descriptor says gives it, but for the operator, which is looked up. -/
theorem foldl_apply_settings (d : Descriptor) :
    d.settings.foldl Directive.apply {} = { d with operator := none } := by
  obtain ⟨operator, kind, column, table, on, join⟩ := d
  simp only [settings]
  split_ifs <;> simp_all [Directive.apply]

end Descriptor

namespace Directive

/-- Reading undoes writing: every written form of a descriptor, whatever the order of its settings,
the blanks and the empty segments, is read as that descriptor and without a fault. -/
theorem read_written {d : Descriptor} {text : String} (writable : d.Writable)
    (form : d.WrittenAs text) : read text = ⟨.search d, []⟩ := by
  obtain ⟨written, segments, order, spells, form⟩ := form
  obtain ⟨op, operator, kind⟩ := writable.named
  have carried : ∀ s ∈ written, d.Carries s := fun s member =>
    Descriptor.carries_of_mem_settings (order.mem_iff.mp member)
  have first : .kind d.kind ∈ written := order.mem_iff.mpr List.mem_cons_self
  have settings : settings text.toList = written := by
    rw [form]
    exact settings_of_spells spells (fun s member => (carried s member).writable writable)
      (List.ne_nil_of_mem first)
  -- a lone hyphen would be read as one unknown key
  have included : Text.trim text.toList ≠ ['-'] := by
    intro hyphen
    have unknown : Directive.settings ['-'] = [.ignored (.unknownKey "-")] := by decide
    rw [← settings_trim, hyphen, unknown] at settings
    rw [← settings] at first
    cases List.mem_singleton.mp first
  have result : written.foldl apply {} = { d with operator := none } := by
    rw [order.foldl_eq' fun s first t second e => (carried s first).apply_comm (carried t second) e]
    exact d.foldl_apply_settings
  have faultless : written.filterMap Setting.fault? = [] := by
    refine List.filterMap_eq_nil_iff.mpr fun s member => ?_
    cases s with
    | ignored fault => exact (carried _ member).elim
    | kind | column | table | join | on => rfl
  have found : Operator.ofToken? d.kind = d.operator := by
    rw [kind, Operator.ofToken?_token, operator]
  have known : kindFaults d.kind = [] := by
    simp [kindFaults, found, operator]
  rw [read, if_neg included, settings]
  dsimp only
  rw [result, faultless, found, known]
  rfl

/-- A join whose names look like keys and operators. -/
def pageJoin : Descriptor :=
  { operator := some .left, kind := "left", table := "type", on := ["user_id", "id"],
    join := "page" }

/-- Ideographic blanks, tabs and empty segments are read over, and the words of keys and operators
may be names. -/
theorem pageJoin_read :
    pageJoin.Writable ∧
      pageJoin.WrittenAs " table:\u3000type\t;; on :user_id: id;\n;join:page;type:left;" ∧
      read " table:\u3000type\t;; on :user_id: id;\n;join:page;type:left;" =
        ⟨.search pageJoin, []⟩ := by
  have writable : pageJoin.Writable :=
    ⟨⟨.left, rfl, rfl⟩, by decide, by decide, by decide, by decide⟩
  have form : pageJoin.WrittenAs
      " table:\u3000type\t;; on :user_id: id;\n;join:page;type:left;" := by
    have bare (word : String) : Padded word word.toList :=
      ⟨[], [], nofun, nofun, (List.append_nil _).symm⟩
    refine ⟨[.table "type", .on ["user_id", "id"], .join "page", .kind "left"], _, by decide,
      .setting (.table _) (.cons ⟨[' '], [], by decide, nofun, rfl⟩
        (.cons ⟨['\u3000'], ['\t'], by decide, by decide, rfl⟩ .nil)) <|
      .empty (List.forall_mem_nil _) <|
      .setting (.on _) (.cons ⟨[' '], [' '], by decide, by decide, rfl⟩
        (.cons (bare _) (.cons ⟨[' '], [], by decide, nofun, rfl⟩ .nil))) <|
      .empty (by decide : Text.Blank ['\n']) <|
      .setting (.join _) (.cons (bare _) (.cons (bare _) .nil)) <|
      .setting (.kind _) (.cons (bare _) (.cons (bare _) .nil)) <|
      .empty (List.forall_mem_nil _) .nil, by decide⟩
  exact ⟨writable, form, read_written writable form⟩

end Directive

end FilterSql
