import Mathlib.Data.List.Perm.Lattice
import FilterSql.Proofs.Directive.Overlay
import FilterSql.Proofs.Directive.Writing

/-!
# What a reading leaves out without a fault

A directive read without a fault need not say only what its descriptor says. A
value too many after a key and a key that is written again are dropped in
silence, and nothing else is: where neither occurs, the segments are those of
the canonical text of the descriptor, up to their order.

`clean_reading_keeps_all` states the exact condition, `OmitsNothing`, and
`surplus_value_dropped` shows a directive that does not meet it. The canonical
text is `Descriptor.print`; it names every key once, so no two of its segments
compete (`heads_distinct`).
-/

namespace FilterSql

namespace Directive

def Setting.words : Setting → List String
  | kind token => ["type", token]
  | column name => ["column", name]
  | table name => ["table", name]
  | join name => ["join", name]
  | on columns => "on" :: columns
  | ignored _ => []

def Setting.print (s : Setting) : String :=
  ":".intercalate s.words

/-- The words of a segment, where a paging operator that stands alone is written out. -/
def writtenOut : List String → List String
  | ["page"] => ["type", "page"]
  | ["pageSize"] => ["type", "pageSize"]
  | words => words

/-- The segments of a text as words: without blanks and empty segments. -/
def entries (s : String) : List (List String) :=
  (segments s.toList).map fun t => writtenOut (tokens t)

/-- Every segment has the values that its key takes and no more, and no key occurs twice. -/
structure OmitsNothing (s : String) : Prop where
  whole : ∀ words ∈ (segments s.toList).map tokens, ∃ setting : Setting, setting.Spelled words
  distinct : ((entries s).map List.head?).Nodup

end Directive

def Descriptor.print (d : Descriptor) : String :=
  ";".intercalate (d.settings.map Directive.Setting.print)

namespace Directive

/-! ### The words of a setting -/

theorem writtenOut_words (s : Setting) : writtenOut s.words = s.words := by
  cases s with
  | kind token | column name | table name | join name => simp [Setting.words, writtenOut]
  | on columns => simp [Setting.words, writtenOut]
  | ignored fault => rfl

theorem Setting.ofKey_useful (key : Key) (value : String) (values : List String)
    (make : String → Setting) (useful : (ofKey key (value :: values) make).fault? = none) :
    ofKey key (value :: values) make = make value := by
  rcases ofKey_cases key (value :: values) make with ignored | ⟨first, head, -, made⟩
  · rw [ignored] at useful
    cases useful
  · obtain rfl := Option.some.inj head
    exact made

/-- Words that spell a setting, and are of use, ask for it. -/
theorem ofTokens_spelled {s : Setting} {words : List String} (spelled : s.Spelled words)
    (useful : (Setting.ofTokens words).fault? = none) : Setting.ofTokens words = s := by
  cases spelled with
  | page | pageSize => rfl
  | kind token => exact Setting.ofKey_useful .type token [] .kind useful
  | column name => exact Setting.ofKey_useful .column name [] .column useful
  | table name => exact Setting.ofKey_useful .table name [] .table useful
  | join name => exact Setting.ofKey_useful .join name [] .join useful
  | on columns =>
    cases columns with
    | nil => cases useful
    | cons first rest =>
      exact Setting.ofKey_useful .on first rest (fun _ => .on (first :: rest)) useful

/-- However a setting is spelled, written out it has its own words. -/
theorem writtenOut_spelled {s : Setting} {words : List String} (spelled : s.Spelled words) :
    writtenOut words = s.words := by
  cases spelled with
  | page | pageSize => rfl
  | kind token => exact writtenOut_words (.kind token)
  | column name => exact writtenOut_words (.column name)
  | table name => exact writtenOut_words (.table name)
  | join name => exact writtenOut_words (.join name)
  | on columns => exact writtenOut_words (.on columns)

/-- Only words that spell a setting are its words when written out. -/
theorem spelled_of_writtenOut {s : Setting} {words : List String} (useful : s.fault? = none)
    (same : writtenOut words = s.words) : s.Spelled words := by
  have spelled : s.Spelled s.words := by
    cases s with
    | kind token => exact .kind token
    | column name => exact .column name
    | table name => exact .table name
    | join name => exact .join name
    | on columns => exact .on columns
    | ignored fault => cases useful
  unfold writtenOut at same
  split at same
  · cases s with
    | kind token =>
      obtain rfl : "page" = token := by simpa [Setting.words] using same
      exact .page
    | column | table | join | on | ignored => simp [Setting.words] at same
  · cases s with
    | kind token =>
      obtain rfl : "pageSize" = token := by simpa [Setting.words] using same
      exact .pageSize
    | column | table | join | on | ignored => simp [Setting.words] at same
  · rwa [same]

/-- A descriptor says each key at most once. -/
theorem heads_distinct (d : Descriptor) :
    ((d.settings.map Setting.words).map List.head?).Nodup := by
  simp only [Descriptor.settings]
  split_ifs <;> simp [Setting.words]

/-! ### Reading the canonical text -/

/-- A text, empty or not, that survives splitting and trimming. -/
structure IsPart (t : String) : Prop where
  semicolon : ';' ∉ t.toList
  colon : ':' ∉ t.toList
  trimmed : Text.trim t.toList = t.toList

theorem IsToken.isPart {t : String} (token : IsToken t) : IsPart t :=
  ⟨token.semicolon, token.colon, Text.trim_eq_self token.first token.last⟩

theorem isPart_of_mem_tokens {s t : List Char} (segment : t ∈ segments s) :
    ∀ w ∈ tokens t, IsPart w := by
  intro w word
  obtain ⟨written, among, rfl⟩ := List.mem_map.mp (List.mem_of_mem_filter segment)
  obtain ⟨part, inside, rfl⟩ := List.mem_map.mp word
  have absent (c : Char) (member : c ∈ (String.ofList (Text.trim part)).toList) :
      c ≠ ';' ∧ c ≠ ':' := by
    rw [String.toList_ofList] at member
    have colon := Text.mem_of_mem_splitOn inside c (Text.mem_of_mem_trim member)
    have semicolon := Text.mem_of_mem_splitOn among c (Text.mem_of_mem_trim colon.1)
    exact ⟨semicolon.2, colon.2⟩
  refine ⟨fun member => (absent _ member).1 rfl, fun member => (absent _ member).2 rfl, ?_⟩
  rw [String.toList_ofList, Text.trim_trim]

/-- A setting is made of the words that ask for it, and of a key. -/
theorem isPart_words {words : List String} {s : Setting} (asked : Setting.Asked words s)
    (each : ∀ w ∈ words, IsPart w) : ∀ w ∈ s.words, IsPart w := by
  have key : ∀ k ∈ ["type", "column", "table", "join"], IsPart k := by
    have token : ∀ k ∈ ["type", "column", "table", "join"], IsToken k := by
      decide
    exact fun k member => (token k member).isPart
  have value {word first : String} {values : List String} (each : ∀ w ∈ word :: values, IsPart w)
      (head : values.head? = some first) : IsPart first :=
    each first (List.mem_cons_of_mem _ (List.mem_of_mem_head? head))
  cases asked with
  | silent | unknown | missing => exact List.forall_mem_nil IsPart
  | kind head | column head | table head | join head =>
    simpa [Setting.words] using ⟨key _ (by simp), value each head⟩
  | on => exact each
  | page | pageSize => simpa [Setting.words] using ⟨key _ (by simp), each _ List.mem_cons_self⟩

theorem toList_print (s : Setting) :
    s.print.toList = [':'].intercalate (s.words.map String.toList) :=
  String.toList_intercalate

theorem tokens_print {s : Setting} (useful : s.fault? = none) (each : ∀ w ∈ s.words, IsPart w) :
    tokens s.print.toList = s.words := by
  have given : s.words.map String.toList ≠ [] := by
    cases s with
    | kind | column | table | join | on => exact List.cons_ne_nil _ _
    | ignored => cases useful
  have plain : ∀ t ∈ s.words.map String.toList, ':' ∉ t := by
    intro t member colon
    obtain ⟨w, word, rfl⟩ := List.mem_map.mp member
    exact (each w word).colon colon
  rw [toList_print, tokens, List.splitOn_intercalate ':' plain given, List.map_map]
  have whole : ∀ w ∈ s.words, String.ofList (Text.trim w.toList) = w := by
    intro w word
    rw [(each w word).trimmed, String.ofList_toList]
  exact (List.map_congr_left whole).trans (List.map_id _)

/-- What is printed is read segment by segment as it was printed. -/
theorem segments_print {written : List Setting} (given : written ≠ [])
    (useful : ∀ s ∈ written, s.fault? = none) (each : ∀ s ∈ written, ∀ w ∈ s.words, IsPart w) :
    (segments (";".intercalate (written.map Setting.print)).toList).map tokens =
      written.map Setting.words := by
  have lines : (written.map Setting.print).map String.toList ≠ [] := by simpa using given
  have plain : ∀ t ∈ (written.map Setting.print).map String.toList, ';' ∉ t := by
    intro t member
    obtain ⟨_, line, rfl⟩ := List.mem_map.mp member
    obtain ⟨s, among, rfl⟩ := List.mem_map.mp line
    rw [toList_print]
    refine not_mem_intercalate (by decide) fun part inside semicolon => ?_
    obtain ⟨w, word, rfl⟩ := List.mem_map.mp inside
    exact (each s among w word).semicolon semicolon
  have text : (";".intercalate (written.map Setting.print)).toList =
      [';'].intercalate ((written.map Setting.print).map String.toList) :=
    String.toList_intercalate
  rw [text, segments, List.splitOn_intercalate ';' plain lines]
  clear given lines plain text
  induction written with
  | nil => rfl
  | cons s rest ih =>
    have words := tokens_print (useful s List.mem_cons_self) (each s List.mem_cons_self)
    have visible : (Text.trim s.print.toList).isEmpty = false := by
      refine trim_isEmpty fun empty => ?_
      rw [empty] at words
      cases s <;> simp [Setting.words] at words
    rw [List.map_cons, List.map_cons, List.map_cons, List.filter_cons_of_pos (by rw [visible]; rfl),
      List.map_cons, List.map_cons, tokens_trim, words,
      ih (fun t member => useful t (List.mem_cons_of_mem _ member))
        fun t member => each t (List.mem_cons_of_mem _ member)]

/-! ### What settings leave -/

section
variable {d : Descriptor} {s t : Setting}

theorem mem_settings_iff : s ∈ d.settings ↔ d.Carries s := by
  refine ⟨Descriptor.carries_of_mem_settings, fun carried => ?_⟩
  cases s with
  | kind token =>
    obtain rfl := carried
    simp [Descriptor.settings]
  | column name | table name | join name | on columns =>
    obtain ⟨given, rfl⟩ := carried
    simp [Descriptor.settings, given]
  | ignored fault => exact carried.elim

theorem carries_named : d.named.Carries s ↔ d.Carries s := by
  cases s <;> rfl

theorem carries_apply (d : Descriptor) (filled : s.Filled) (useful : s.fault? = none) :
    (apply d s).Carries s := by
  cases s with
  | kind token => rfl
  | column name | table name | join name => exact ⟨filled, rfl⟩
  | on columns =>
    obtain ⟨first, head, -⟩ := filled
    refine ⟨?_, rfl⟩
    rintro rfl
    cases head
  | ignored fault => cases useful

/-- A setting stays while those of other keys are carried out. -/
theorem carries_apply_other (carried : d.Carries s) (other : s.words.head? ≠ t.words.head?) :
    (apply d t).Carries s := by
  cases s with
  | kind => cases t with
    | kind => exact absurd rfl other
    | column | table | join | on | ignored => exact carried
  | column => cases t with
    | column => exact absurd rfl other
    | kind | table | join | on | ignored => exact carried
  | table => cases t with
    | table => exact absurd rfl other
    | kind | column | join | on | ignored => exact carried
  | join => cases t with
    | join => exact absurd rfl other
    | kind | column | table | on | ignored => exact carried
  | on => cases t with
    | on => exact absurd rfl other
    | kind | column | table | join | ignored => exact carried
  | ignored => exact carried.elim

theorem carries_of_apply (carried : (apply d t).Carries s) : s = t ∨ d.Carries s := by
  cases s with
  | kind => cases t with
    | kind => exact Or.inl (congrArg Setting.kind carried)
    | column | table | join | on | ignored => exact Or.inr carried
  | column => cases t with
    | column => exact Or.inl (congrArg Setting.column carried.2)
    | kind | table | join | on | ignored => exact Or.inr carried
  | table => cases t with
    | table => exact Or.inl (congrArg Setting.table carried.2)
    | kind | column | join | on | ignored => exact Or.inr carried
  | join => cases t with
    | join => exact Or.inl (congrArg Setting.join carried.2)
    | kind | column | table | on | ignored => exact Or.inr carried
  | on => cases t with
    | on => exact Or.inl (congrArg Setting.on carried.2)
    | kind | column | table | join | ignored => exact Or.inr carried
  | ignored => exact carried.elim

end

/-- Settings of different keys are all kept, whatever their order. -/
theorem carries_foldl {written : List Setting} (filled : ∀ s ∈ written, s.Filled)
    (useful : ∀ s ∈ written, s.fault? = none)
    (distinct : (written.map fun s => s.words.head?).Nodup) :
    ∀ s ∈ written, (written.foldl apply {}).Carries s := by
  induction written using List.reverseRecOn with
  | nil => exact nofun
  | append_singleton earlier t ih =>
    rw [List.map_append, List.nodup_append] at distinct
    obtain ⟨earlierDistinct, -, apart⟩ := distinct
    have carried := ih (fun s member => filled s (List.mem_append_left _ member))
      (fun s member => useful s (List.mem_append_left _ member)) earlierDistinct
    intro s member
    rw [List.foldl_append, List.foldl_cons, List.foldl_nil]
    rcases List.mem_append.mp member with before | last
    · exact carries_apply_other (carried s before)
        (apart _ (List.mem_map_of_mem before) _ List.mem_cons_self)
    · obtain rfl := List.mem_singleton.mp last
      exact carries_apply _ (filled s member) (useful s member)

/-- Nothing is said but by a setting; where no kind is set it is empty. -/
theorem mem_of_carries_foldl {written : List Setting} {s : Setting}
    (carried : (written.foldl apply {}).Carries s) : s ∈ written ∨ s = .kind "" := by
  induction written using List.reverseRecOn with
  | nil => cases s <;> simp_all [Descriptor.Carries]
  | append_singleton earlier t ih =>
    rw [List.foldl_append, List.foldl_cons, List.foldl_nil] at carried
    rcases carries_of_apply carried with rfl | before
    · exact Or.inl (List.mem_append_right _ List.mem_cons_self)
    · exact (ih before).imp (List.mem_append_left _) id

/-! ### Readings without a fault -/

section
variable {text : String} {d : Descriptor} (clean : read text = ⟨.search d, []⟩)

include clean

/-- A reading without faults says what its segments say; each of them is of use, and a kind is among
them. -/
theorem described_of_clean : d = described text.toList ∧
    (∀ s ∈ settings text.toList, s.fault? = none) ∧ d.kind ≠ "" := by
  have included : Text.trim text.toList ≠ ['-'] := by
    intro hyphen
    rw [read, if_pos hyphen] at clean
    cases clean
  rw [read_described included] at clean
  obtain rfl := Directive.search.inj (congrArg Reading.directive clean)
  have faults := List.append_eq_nil_iff.mp (congrArg Reading.faults clean)
  refine ⟨rfl, List.filterMap_eq_nil_iff.mp faults.1, fun silent => ?_⟩
  have missing := faults.2
  rw [silent] at missing
  cases missing

theorem mem_settings_of_clean {s : Setting} (said : s ∈ d.settings) : s ∈ settings text.toList := by
  obtain ⟨rfl, -, given⟩ := described_of_clean clean
  rcases mem_of_carries_foldl (carries_named.mp (mem_settings_iff.mp said)) with written | rfl
  · exact written
  · exact absurd (mem_settings_iff.mp said).symm given

theorem useful_of_clean {s : Setting} (said : s ∈ d.settings) : s.fault? = none :=
  (described_of_clean clean).2.1 s (mem_settings_of_clean clean said)

/-- The canonical text of the descriptor is read as its settings. -/
theorem entries_print : entries d.print = d.settings.map Setting.words := by
  have each : ∀ s ∈ d.settings, ∀ w ∈ s.words, IsPart w := by
    intro s said
    obtain ⟨segment, written, rfl⟩ := List.mem_map.mp (mem_settings_of_clean clean said)
    exact isPart_words (Setting.asked_ofTokens _) (isPart_of_mem_tokens written)
  have given : d.settings ≠ [] := by simp [Descriptor.settings]
  have lines := segments_print given (fun s => useful_of_clean clean) each
  have split : entries d.print = ((segments d.print.toList).map tokens).map writtenOut := by
    rw [entries, List.map_map]
    rfl
  rw [split, Descriptor.print, lines, List.map_map]
  exact List.map_congr_left fun s _ => writtenOut_words s

/-- Where every segment is a setting in full, the segments are the words of the settings. -/
theorem entries_eq
    (whole : ∀ words ∈ (segments text.toList).map tokens, ∃ s : Setting, s.Spelled words) :
    entries text = (settings text.toList).map Setting.words := by
  rw [entries, settings, List.map_map]
  refine List.map_congr_left fun t segment => ?_
  obtain ⟨s, spelled⟩ := whole _ (List.mem_map_of_mem segment)
  have useful := (described_of_clean clean).2.1 _ (List.mem_map_of_mem segment)
  rw [writtenOut_spelled spelled, Function.comp_apply, ofTokens_spelled spelled useful]

/-- A text with the segments of the canonical one omits nothing. -/
theorem omitsNothing_of_perm (same : (entries text).Perm (entries d.print)) :
    OmitsNothing text := by
  rw [entries_print clean] at same
  constructor
  · intro words written
    obtain ⟨t, segment, rfl⟩ := List.mem_map.mp written
    have among : writtenOut (tokens t) ∈ entries text := List.mem_map_of_mem segment
    obtain ⟨s, said, words⟩ := List.mem_map.mp (same.mem_iff.mp among)
    exact ⟨s, spelled_of_writtenOut (useful_of_clean clean said) words.symm⟩
  · exact (same.map List.head?).nodup_iff.mpr (heads_distinct d)

/-- A text that omits nothing has the segments of the canonical one, perhaps in another order. -/
theorem perm_of_omitsNothing (omits : OmitsNothing text) :
    (entries text).Perm (entries d.print) := by
  have entries := entries_eq clean omits.whole
  have distinct := omits.distinct
  rw [entries, List.map_map] at distinct
  rw [entries_print clean, entries]
  refine List.Perm.map _ ?_
  have once : (settings text.toList).Nodup := List.Nodup.of_map _ distinct
  have onceSaid : d.settings.Nodup := by
    have heads := heads_distinct d
    rw [List.map_map] at heads
    exact List.Nodup.of_map _ heads
  refine (List.perm_ext_iff_of_nodup once onceSaid).mpr fun s =>
    ⟨fun written => ?_, mem_settings_of_clean clean⟩
  obtain ⟨rfl, useful, -⟩ := described_of_clean clean
  have carried := carries_foldl (fun s member => filled_of_mem_settings member) useful distinct s
    written
  exact mem_settings_iff.mpr (carries_named.mpr carried)

end

/-- A directive that is read without a fault has the segments of the canonical text of its
descriptor, up to their order, exactly if it omits nothing; so two of them with different segments
say different things, if neither omits anything. -/
theorem clean_reading_keeps_all {text : String} {d : Descriptor}
    (clean : read text = ⟨.search d, []⟩) :
    ((entries text).Perm (entries d.print) ↔ OmitsNothing text) ∧
      ∀ other, read other = ⟨.search d, []⟩ → OmitsNothing text → OmitsNothing other →
        (entries text).Perm (entries other) := by
  refine ⟨⟨omitsNothing_of_perm clean, perm_of_omitsNothing clean⟩, ?_⟩
  intro other cleanOther omits omitsOther
  exact (perm_of_omitsNothing clean omits).trans (perm_of_omitsNothing cleanOther omitsOther).symm

/-- A value too many is dropped without a fault. -/
theorem surplus_value_dropped :
    read "type:eq:x" = ⟨.search { operator := some .eq, kind := "eq" }, []⟩ ∧
      read "type:eq" = ⟨.search { operator := some .eq, kind := "eq" }, []⟩ ∧
      ¬ (entries "type:eq:x").Perm
          (entries (Descriptor.print { operator := some .eq, kind := "eq" })) ∧
      ¬ (entries "type:eq:x").Perm (entries "type:eq") := by
  decide

/-- A page size with blanks around it, an empty segment, and an empty value of `on`. -/
def sizeOfColumn : Descriptor :=
  { operator := some .pageSize, kind := "pageSize", column := "size", on := ["a", "", "b"] }

/-- Two texts of one descriptor that differ in order, blanks and the form of the page size. -/
theorem sizeOfColumn_kept :
    read " pageSize ;; column:size;on:a: :b;" = ⟨.search sizeOfColumn, []⟩ ∧
      read "on:a::b;type:pageSize;column:size" = ⟨.search sizeOfColumn, []⟩ ∧
      (entries " pageSize ;; column:size;on:a: :b;").Perm (entries sizeOfColumn.print) ∧
      (entries " pageSize ;; column:size;on:a: :b;").Perm
        (entries "on:a::b;type:pageSize;column:size") := by
  have clean : read " pageSize ;; column:size;on:a: :b;" = ⟨.search sizeOfColumn, []⟩ := by decide
  have cleanOther : read "on:a::b;type:pageSize;column:size" = ⟨.search sizeOfColumn, []⟩ := by
    decide
  have omits : OmitsNothing " pageSize ;; column:size;on:a: :b;" := by
    have lines : (segments " pageSize ;; column:size;on:a: :b;".toList).map tokens =
        [["pageSize"], ["column", "size"], ["on", "a", "", "b"]] := by
      decide
    refine ⟨?_, by decide⟩
    simp only [lines, List.forall_mem_cons]
    exact ⟨⟨_, .pageSize⟩, ⟨_, .column _⟩, ⟨_, .on _⟩, nofun⟩
  have omitsOther : OmitsNothing "on:a::b;type:pageSize;column:size" := by
    have lines : (segments "on:a::b;type:pageSize;column:size".toList).map tokens =
        [["on", "a", "", "b"], ["type", "pageSize"], ["column", "size"]] := by
      decide
    refine ⟨?_, by decide⟩
    simp only [lines, List.forall_mem_cons]
    exact ⟨⟨_, .on _⟩, ⟨_, .kind _⟩, ⟨_, .column _⟩, nofun⟩
  have keeps := clean_reading_keeps_all clean
  exact ⟨clean, cleanOther, keeps.1.mpr omits, keeps.2 _ cleanOther omits omitsOther⟩

end Directive

end FilterSql
