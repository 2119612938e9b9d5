import FilterSql.Proofs.Derive.Classification

/-!
# Which declarations are accepted

The attribute grammar of a declaration, and what a declaration outside of it is
refused for. Both are said of the places in the declaration: an attribute is to
blame for its form, or for standing behind another one. The reading goes through
these places in order, so it finds the first one that is to blame.

The two readings are `ofDeclaration_ok_iff`, by which a declaration is accepted
with the definition that it describes, and `ofDeclaration_error_iff`, by which it
is refused for what it is to blame for. `grammatical_defined_else_first_blamed`
puts them together. How the text of an attribute is split into its parts is taken
as `Attribute` has it.
-/

namespace FilterSql.Derive

/-! ## The first one to blame -/

section
variable {α : Type} {blame : List α → α → Fault → Prop} {fault : Fault}

/-- The first element of a list that is to blame, and for what. Blame may depend on the elements
ahead. -/
def FirstBlamed (blame : List α → α → Fault → Prop) (xs : List α) (fault : Fault) : Prop :=
  ∃ before x after, xs = before ++ x :: after ∧ blame before x fault ∧
    ∀ earlier y later, before = earlier ++ y :: later → ∀ other, ¬ blame earlier y other

theorem not_firstBlamed_nil : ¬ FirstBlamed blame [] fault := by
  rintro ⟨before, x, after, split, -⟩
  simp at split

/-- The first element is to blame, or it is not and one of the rest is, which then stands behind it.
-/
theorem firstBlamed_cons {x : α} {xs : List α} :
    FirstBlamed blame (x :: xs) fault ↔
      blame [] x fault ∨
        (∀ other, ¬ blame [] x other) ∧ FirstBlamed (fun ahead => blame (x :: ahead)) xs fault := by
  constructor
  · rintro ⟨before, y, after, split, blamed, first⟩
    cases before with
    | nil =>
      obtain ⟨rfl, rfl⟩ := List.cons.inj split
      exact Or.inl blamed
    | cons z before =>
      obtain ⟨rfl, rfl⟩ := List.cons.inj split
      refine Or.inr ⟨first [] x before rfl, before, y, after, rfl, blamed, ?_⟩
      rintro earlier u later rfl
      exact first (x :: earlier) u later rfl
  · rintro (blamed | ⟨innocent, before, y, after, rfl, blamed, first⟩)
    · exact ⟨[], x, xs, rfl, blamed, fun earlier y later split => by simp at split⟩
    · refine ⟨x :: before, y, after, rfl, blamed, ?_⟩
      intro earlier u later split
      cases earlier with
      | nil =>
        obtain ⟨rfl, -⟩ := List.cons.inj split
        exact innocent
      | cons v earlier =>
        obtain ⟨rfl, tail⟩ := List.cons.inj split
        exact first earlier u later tail

end

/-! ## The grammar -/

namespace Attribute

def tableName? : Attribute → Option String
  | table name => some name
  | _ => none

inductive FitsItem : Attribute → Prop
  | bare {a : Attribute} (bare : a.isBare = true) : FitsItem a
  | table (name : String) : FitsItem (.table name)

inductive FitsField : Attribute → Prop
  | directive (tag : String) : FitsField (.directive tag)
  | flatten : FitsField (.word "flatten")

/-- What a `search` attribute on a field is refused for, if it has none of these forms. -/
inductive Refused (a : Attribute) : Fault → Prop
  | word {w : String} (misfit : ¬ a.FitsField) (leads : a.leadingWord? = some w)
      (other : w ≠ "flatten") : Refused a .unexpectedWord
  | form (misfit : ¬ a.FitsField) (search : a.isSearch = true)
      (leads : ∀ w ∈ a.leadingWord?, w = "flatten") : Refused a .malformed

/-- What an attribute of a field is to blame for, behind the attributes ahead of it. -/
inductive Blamed (ahead : List Attribute) (a : Attribute) : Fault → Prop
  | form {fault : Fault} (first : ∀ b ∈ ahead, b.isSearch = false) (refused : a.Refused fault) :
      Blamed ahead a fault
  | second {b : Attribute} (earlier : b ∈ ahead) (tagged : b.isSearch = true)
      (search : a.isSearch = true) : Blamed ahead a .duplicate

end Attribute

namespace FieldDeclaration

/-- A field has at most one `search` attribute, in one of the two forms. -/
structure Fits (f : FieldDeclaration) : Prop where
  forms : ∀ a ∈ f.attributes, a.isSearch = true → a.FitsField
  once : (f.attributes.filter (·.isSearch)).length ≤ 1

/-- What a field is to blame for: that of the first of its attributes that is. -/
def Blamed (f : FieldDeclaration) (fault : Fault) : Prop :=
  FirstBlamed Attribute.Blamed f.attributes fault

end FieldDeclaration

namespace Declaration

/-- The `search` attributes of an item are empty or name the table, which one of them may do. -/
structure ItemFits (d : Declaration) : Prop where
  forms : ∀ a ∈ d.attributes, a.isSearch = true → a.FitsItem
  once : (d.attributes.filterMap Attribute.tableName?).length ≤ 1

structure Grammatical (d : Declaration) : Prop where
  item : d.ItemFits
  shape : d.shape = .struct
  fields : ∀ f ∈ d.fields, f.Fits

/-- What a declaration within the grammar defines. -/
structure Defines (d : Declaration) (r : Definition) : Prop where
  grammatical : d.Grammatical
  ident : r.ident = d.ident
  generics : r.generics = d.generics
  bounds : r.bounds = d.bounds
  table : r.table = (d.attributes.filterMap Attribute.tableName?).head?.getD ""
  fields : List.Forall₂ (fun f g => g.ident = f.ident ∧ f.Classified g.kind) d.fields r.fields

/-- What a declaration is to blame for. The item comes before its fields. -/
inductive Blamed (d : Declaration) : Fault → Prop
  | item (misfit : ¬ d.ItemFits) : Blamed d .itemAttribute
  | shape (item : d.ItemFits) (other : d.shape ≠ .struct) : Blamed d .shape
  | field {fault : Fault} (item : d.ItemFits) (shape : d.shape = .struct)
      (first : FirstBlamed (fun _ f => f.Blamed) d.fields fault) : Blamed d fault

/-- The declaration without the attributes of other names. -/
def searchOnly (d : Declaration) : Declaration :=
  { d with
    attributes := d.attributes.filter (·.isSearch)
    fields := d.fields.map fun f => { f with attributes := f.attributes.filter (·.isSearch) } }

end Declaration

/-! ## Attributes of a field -/

namespace Attribute

variable {ahead : List Attribute} {a : Attribute} {fault : Fault}

theorem Refused.search (refused : a.Refused fault) : a.isSearch = true := by
  cases refused with
  | word misfit leads other =>
    cases a with
    | foreign => cases leads
    | directive | table | word | unusual => rfl
  | form misfit search leads => exact search

/-- Behind no other `search` attribute only the form counts. -/
theorem blamed_first_iff (first : ∀ b ∈ ahead, b.isSearch = false) :
    a.Blamed ahead fault ↔ a.Refused fault := by
  constructor
  · rintro (⟨-, refused⟩ | ⟨earlier, tagged, -⟩)
    · exact refused
    · simp [first _ earlier] at tagged
  · exact .form first

/-- Behind another `search` attribute the form does not count. -/
theorem blamed_second_iff {b : Attribute} (earlier : b ∈ ahead) (tagged : b.isSearch = true) :
    a.Blamed ahead fault ↔ a.isSearch = true ∧ fault = .duplicate := by
  constructor
  · rintro (⟨first, -⟩ | ⟨-, -, search⟩)
    · simp [first b earlier] at tagged
    · exact ⟨search, rfl⟩
  · rintro ⟨search, rfl⟩
    exact .second earlier tagged search

/-- Attributes of other names are never to blame. -/
theorem not_blamed_of_foreign (foreign : a.isSearch = false) : ¬ a.Blamed ahead fault := by
  rintro (⟨-, refused⟩ | ⟨-, -, search⟩)
  · simp [refused.search] at foreign
  · simp [search] at foreign

end Attribute

namespace FieldKind

theorem ofAttribute_of_fits {a : Attribute} (fits : a.FitsField) :
    ∃ kind, ofAttribute a = .ok kind := by
  cases fits with
  | directive tag => exact ⟨_, rfl⟩
  | flatten => exact ⟨_, rfl⟩

theorem ofAttribute_of_misfit {a : Attribute} (misfit : ¬ a.FitsField) :
    ofAttribute a =
      .error (if ∀ w ∈ a.leadingWord?, w = "flatten" then .malformed else .unexpectedWord) := by
  unfold ofAttribute
  split
  · exact absurd (.directive _) misfit
  · exact absurd .flatten misfit
  · cases a.leadingWord? <;> simp

/-- A `search` attribute that stands alone is refused for its form. -/
theorem ofAttribute_error_iff {a : Attribute} (search : a.isSearch = true) {fault : Fault} :
    ofAttribute a = .error fault ↔ a.Refused fault := by
  by_cases fits : a.FitsField
  · obtain ⟨kind, given⟩ := ofAttribute_of_fits fits
    rw [given]
    constructor
    · intro refused
      cases refused
    · rintro (⟨misfit, -, -⟩ | ⟨misfit, -, -⟩)
      · exact absurd fits misfit
      · exact absurd fits misfit
  · rw [ofAttribute_of_misfit fits, Except.error.injEq]
    constructor
    · rintro rfl
      split
      · next leads => exact .form fits search leads
      · next leads =>
        obtain ⟨w, leads, other⟩ : ∃ w, a.leadingWord? = some w ∧ w ≠ "flatten" := by
          simpa using leads
        exact .word fits leads other
    · rintro (⟨-, leads, other⟩ | ⟨-, -, leads⟩)
      · rw [if_neg (by simpa [leads] using other)]
      · rw [if_pos leads]

/-- One `search` attribute at a time is read. What was read ahead only tells whether this is the
first. -/
theorem ofAttributes_error_iff {kind : Option FieldKind} (ahead : List Attribute)
    {as : List Attribute} (seen : kind.isSome = ahead.any (·.isSearch)) {fault : Fault} :
    ofAttributes kind as = .error fault ↔
      FirstBlamed (fun l a => a.Blamed (ahead ++ l)) as fault := by
  induction as generalizing kind ahead with
  | nil => simp [ofAttributes, not_firstBlamed_nil]
  | cons a as ih =>
    rw [ofAttributes, firstBlamed_cons, List.append_nil]
    have later (kind : Option FieldKind) (seen : kind.isSome = (ahead ++ [a]).any (·.isSearch)) :
        ofAttributes kind as = .error fault ↔
          FirstBlamed (fun l b => b.Blamed (ahead ++ a :: l)) as fault := by
      simpa using ih (ahead ++ [a]) seen
    cases search : a.isSearch with
    | false =>
      have innocent (other : Fault) : ¬ a.Blamed ahead other :=
        Attribute.not_blamed_of_foreign search
      simp [innocent, later kind (by simp [seen, search])]
    | true =>
      cases kind with
      | some set =>
        obtain ⟨b, earlier, tagged⟩ := List.any_eq_true.mp seen.symm
        simp only [Attribute.blamed_second_iff earlier tagged, search]
        simp [eq_comm]
      | none =>
        have first : ∀ b ∈ ahead, b.isSearch = false := by simpa using seen
        simp only [Attribute.blamed_first_iff first, ← ofAttribute_error_iff search]
        cases given : ofAttribute a with
        | ok set => simp [later (some set) (by simp [search])]
        | error own => simp

/-- Attributes of other names play no part. -/
theorem ofAttributes_filter (kind : Option FieldKind) (as : List Attribute) :
    ofAttributes kind (as.filter (·.isSearch)) = ofAttributes kind as := by
  induction as generalizing kind with
  | nil => rfl
  | cons a as ih =>
    cases search : a.isSearch with
    | false =>
      rw [List.filter_cons_of_neg (by simp [search]), ih, ofAttributes]
      simp [search]
    | true =>
      rw [List.filter_cons_of_pos search, ofAttributes, ofAttributes]
      simp only [search, ih]

theorem ofAttributes_classified {f : FieldDeclaration} {kind : FieldKind}
    (classified : f.Classified kind) : ofAttributes none f.attributes = .ok kind := by
  rw [← ofAttributes_filter]
  cases classified with
  | untagged bare => rw [bare]; rfl
  | flatten tagged => rw [tagged]; rfl
  | excluded tagged read =>
    rw [tagged]
    simp [ofAttributes, ofAttribute, Attribute.isSearch, ofTag, read]
  | join tagged read joins =>
    rw [tagged]
    simp [ofAttributes, ofAttribute, Attribute.isSearch, ofTag, read, Directive.isJoin, joins]
  | scalar tagged read other =>
    rw [tagged]
    simp [ofAttributes, ofAttribute, Attribute.isSearch, ofTag, read, Directive.isJoin, other]

end FieldKind

/-! ## Fields -/

namespace FieldDefinition

variable {f : FieldDeclaration} {fs : List FieldDeclaration} {fault : Fault}

theorem ofDeclaration_ok_iff {g : FieldDefinition} :
    ofDeclaration f = .ok g ↔ g.ident = f.ident ∧ f.Classified g.kind := by
  constructor
  · exact ofDeclaration_classified
  · rintro ⟨ident, classified⟩
    rw [ofDeclaration, FieldKind.ofAttributes_classified classified, ← ident]

theorem ofDeclaration_error_iff : ofDeclaration f = .error fault ↔ f.Blamed fault := by
  have read : FieldKind.ofAttributes none f.attributes = .error fault ↔ f.Blamed fault :=
    FieldKind.ofAttributes_error_iff [] rfl
  rw [← read, ofDeclaration]
  cases FieldKind.ofAttributes none f.attributes <;> simp

theorem ofDeclarations_ok_iff {gs : List FieldDefinition} :
    ofDeclarations fs = .ok gs ↔
      List.Forall₂ (fun f g => g.ident = f.ident ∧ f.Classified g.kind) fs gs := by
  constructor
  · exact ofDeclarations_classified
  · intro classified
    induction classified with
    | nil => rfl
    | cons first _ ih => rw [ofDeclarations, ofDeclaration_ok_iff.mpr first, ih]

/-- The reading of the fields stops at the first one that is to blame. -/
theorem ofDeclarations_error_iff :
    ofDeclarations fs = .error fault ↔ FirstBlamed (fun _ f => f.Blamed) fs fault := by
  induction fs with
  | nil => simp [ofDeclarations, not_firstBlamed_nil]
  | cons f fs ih =>
    simp only [firstBlamed_cons, ← ih, ← ofDeclaration_error_iff, ofDeclarations]
    cases ofDeclaration f with
    | error own => simp
    | ok g => cases ofDeclarations fs <;> simp

end FieldDefinition

/-- A field fits the grammar exactly when it has a kind. -/
theorem FieldDeclaration.fits_iff {f : FieldDeclaration} : f.Fits ↔ ∃ kind, f.Classified kind := by
  constructor
  · rintro ⟨forms, once⟩
    match tagged : f.attributes.filter (·.isSearch) with
    | [] => exact ⟨_, .untagged tagged⟩
    | [a] =>
      obtain ⟨member, search⟩ := List.mem_filter.mp (tagged ▸ List.mem_singleton_self a)
      cases forms a member search with
      | directive tag => exact ⟨_, classified_ofTag tagged⟩
      | flatten => exact ⟨_, .flatten tagged⟩
    | a :: b :: rest => simp [tagged] at once
  · rintro ⟨kind, classified⟩
    have tagged : f.attributes.filter (·.isSearch) = [] ∨
        ∃ a, f.attributes.filter (·.isSearch) = [a] ∧ a.FitsField := by
      cases classified with
      | untagged bare => exact Or.inl bare
      | flatten tagged => exact Or.inr ⟨_, tagged, .flatten⟩
      | excluded tagged _ | join tagged _ _ | scalar tagged _ _ =>
        exact Or.inr ⟨_, tagged, .directive _⟩
    rcases tagged with bare | ⟨a, tagged, fits⟩
    · refine ⟨fun b member search => ?_, by simp [bare]⟩
      have kept := List.mem_filter.mpr ⟨member, search⟩
      simp [bare] at kept
    · refine ⟨fun b member search => ?_, by simp [tagged]⟩
      have kept := List.mem_filter.mpr ⟨member, search⟩
      rw [tagged, List.mem_singleton] at kept
      exact kept ▸ fits

/-! ## The item -/

namespace Attribute

/-- An attribute that is passed over on an item names no table. -/
theorem tableName?_of_passed {a : Attribute} (passed : (!a.isSearch || a.isBare) = true) :
    a.tableName? = none := by
  cases a with
  | table name => simp [isSearch, isBare] at passed
  | directive | word | unusual | foreign => rfl

theorem fitsItem_of_passed {a : Attribute} (passed : (!a.isSearch || a.isBare) = true)
    (search : a.isSearch = true) : a.FitsItem :=
  .bare (by simpa [search] using passed)

theorem isSearch_of_counted {a : Attribute} (counted : (!a.isSearch || a.isBare) = false) :
    a.isSearch = true := by
  cases search : a.isSearch with
  | true => rfl
  | false => simp [search] at counted

theorem fitsItem_iff {a : Attribute} (counted : (!a.isSearch || a.isBare) = false) :
    a.FitsItem ↔ ∃ name, a = .table name := by
  constructor
  · rintro (bare | name)
    · simp [bare] at counted
    · exact ⟨name, rfl⟩
  · rintro ⟨name, rfl⟩
    exact .table name

end Attribute

namespace Definition

/-- One attribute of an item: it is passed over, it names the table, or it is not accepted. -/
theorem tableOf_cons (table : Option String) (a : Attribute) (as : List Attribute) :
    tableOf table (a :: as) =
      if !a.isSearch || a.isBare then tableOf table as
      else
        match table, a with
        | none, .table name => tableOf (some name) as
        | _, _ => .error .itemAttribute :=
  rfl

/-- The reading of an item's attributes behind those that named `table`: it succeeds exactly if they
all fit and no second table is named. -/
theorem tableOf_cases (table : Option String) (as : List Attribute) :
    let names := table.toList ++ as.filterMap Attribute.tableName?
    let fits := (∀ a ∈ as, a.isSearch = true → a.FitsItem) ∧ names.length ≤ 1
    (fits ∧ tableOf table as = .ok names.head?) ∨
      (¬ fits ∧ tableOf table as = .error .itemAttribute) := by
  induction as generalizing table with
  | nil => cases table <;> simp [tableOf]
  | cons a as ih =>
    rw [tableOf_cons]
    cases passed : !a.isSearch || a.isBare with
    | true =>
      have fits := iff_true_intro (Attribute.fitsItem_of_passed passed)
      rw [if_pos rfl, List.filterMap_cons_none (Attribute.tableName?_of_passed passed)]
      simpa only [List.forall_mem_cons, fits, true_and] using ih table
    | false =>
      rw [if_neg Bool.false_ne_true]
      by_cases named : ∃ name, a = .table name
      · obtain ⟨name, rfl⟩ := named
        have fits :=
          iff_true_intro fun _ : (Attribute.table name).isSearch = true =>
            Attribute.FitsItem.table name
        cases table with
        | none =>
          simp only [List.forall_mem_cons, fits, true_and]
          exact ih (some name)
        | some earlier => exact Or.inr ⟨by simp [Attribute.tableName?], rfl⟩
      · have misfit : ¬ a.FitsItem := mt (Attribute.fitsItem_iff passed).mp named
        have search : a.isSearch = true := Attribute.isSearch_of_counted passed
        refine Or.inr ⟨fun fits => misfit (fits.1 a List.mem_cons_self search), ?_⟩
        split
        · exact absurd ⟨_, rfl⟩ named
        · rfl

theorem tableOf_ok {d : Declaration} (fits : d.ItemFits) :
    tableOf none d.attributes = .ok (d.attributes.filterMap Attribute.tableName?).head? := by
  rcases tableOf_cases none d.attributes with ⟨-, read⟩ | ⟨misfit, -⟩
  · exact read
  · exact absurd ⟨fits.forms, fits.once⟩ misfit

theorem tableOf_error {d : Declaration} (misfit : ¬ d.ItemFits) :
    tableOf none d.attributes = .error .itemAttribute := by
  rcases tableOf_cases none d.attributes with ⟨⟨forms, once⟩, -⟩ | ⟨-, read⟩
  · exact absurd ⟨forms, once⟩ misfit
  · exact read

/-- Attributes of other names play no part in the table either. -/
theorem tableOf_filter (table : Option String) (as : List Attribute) :
    tableOf table (as.filter (·.isSearch)) = tableOf table as := by
  induction as generalizing table with
  | nil => rfl
  | cons a as ih =>
    cases search : a.isSearch with
    | false =>
      rw [List.filter_cons_of_neg (by simp [search]), ih, tableOf_cons]
      simp [search]
    | true =>
      rw [List.filter_cons_of_pos search, tableOf_cons, tableOf_cons]
      simp only [ih]

/-! ## Declarations -/

variable {d : Declaration}

/-- What is read of a declaration whose item fits. -/
theorem ofDeclaration_of_fits (item : d.ItemFits) (shape : d.shape = .struct) :
    ofDeclaration d =
      match FieldDefinition.ofDeclarations d.fields with
      | .error fault => .error fault
      | .ok fields =>
        .ok ⟨d.ident, d.generics, d.bounds,
          (d.attributes.filterMap Attribute.tableName?).head?.getD "", fields⟩ := by
  rw [ofDeclaration, tableOf_ok item]
  exact if_neg (not_not_intro shape)

/-- The shape counts only for an item whose attributes fit. -/
theorem ofDeclaration_of_other (item : d.ItemFits) (other : d.shape ≠ .struct) :
    ofDeclaration d = .error .shape := by
  rw [ofDeclaration, tableOf_ok item]
  exact if_pos other

theorem ofDeclaration_of_misfit (misfit : ¬ d.ItemFits) :
    ofDeclaration d = .error .itemAttribute := by
  rw [ofDeclaration, tableOf_error misfit]

/-- All fields fit exactly if they are all defined. -/
theorem fields_fit_iff {fs : List FieldDeclaration} :
    (∀ f ∈ fs, f.Fits) ↔
      ∃ gs : List FieldDefinition,
        List.Forall₂ (fun f g => g.ident = f.ident ∧ f.Classified g.kind) fs gs := by
  constructor
  · intro fits
    induction fs with
    | nil => exact ⟨[], .nil⟩
    | cons f fs ih =>
      obtain ⟨first, later⟩ := List.forall_mem_cons.mp fits
      obtain ⟨kind, classified⟩ := FieldDeclaration.fits_iff.mp first
      obtain ⟨gs, rest⟩ := ih later
      exact ⟨⟨f.ident, kind⟩ :: gs, .cons ⟨rfl, classified⟩ rest⟩
  · rintro ⟨gs, classified⟩
    induction classified with
    | nil => simp
    | cons first _ ih =>
      exact List.forall_mem_cons.mpr ⟨FieldDeclaration.fits_iff.mpr ⟨_, first.2⟩, ih⟩

/-- A declaration is accepted with the definition that it describes and with no other. -/
theorem ofDeclaration_ok_iff {r : Definition} : ofDeclaration d = .ok r ↔ d.Defines r := by
  constructor
  · intro accepted
    by_cases item : d.ItemFits
    · by_cases shape : d.shape = .struct
      · rw [ofDeclaration_of_fits item shape] at accepted
        cases read : FieldDefinition.ofDeclarations d.fields with
        | error fault => simp [read] at accepted
        | ok fields =>
          rw [read] at accepted
          obtain rfl := Except.ok.inj accepted
          have classified := FieldDefinition.ofDeclarations_ok_iff.mp read
          have fit := fields_fit_iff.mpr ⟨fields, classified⟩
          exact ⟨⟨item, shape, fit⟩, rfl, rfl, rfl, rfl, classified⟩
      · rw [ofDeclaration_of_other item shape] at accepted
        cases accepted
    · rw [ofDeclaration_of_misfit item] at accepted
      cases accepted
  · rintro ⟨⟨item, shape, -⟩, ident, generics, bounds, table, classified⟩
    rw [ofDeclaration_of_fits item shape, FieldDefinition.ofDeclarations_ok_iff.mpr classified,
      ← ident, ← generics, ← bounds, ← table]

/-- A declaration is refused for what it is to blame for. -/
theorem ofDeclaration_error_iff {fault : Fault} :
    ofDeclaration d = .error fault ↔ d.Blamed fault := by
  by_cases item : d.ItemFits
  · by_cases shape : d.shape = .struct
    · have read : ofDeclaration d = .error fault ↔
          FieldDefinition.ofDeclarations d.fields = .error fault := by
        rw [ofDeclaration_of_fits item shape]
        cases FieldDefinition.ofDeclarations d.fields <;> simp
      rw [read, FieldDefinition.ofDeclarations_error_iff]
      constructor
      · exact .field item shape
      · rintro (misfit | ⟨-, other⟩ | ⟨-, -, first⟩)
        · exact absurd item misfit
        · exact absurd shape other
        · exact first
    · rw [ofDeclaration_of_other item shape, Except.error.injEq]
      constructor
      · rintro rfl
        exact .shape item shape
      · rintro (misfit | ⟨-, -⟩ | ⟨-, same, -⟩)
        · exact absurd item misfit
        · rfl
        · exact absurd same shape
  · rw [ofDeclaration_of_misfit item, Except.error.injEq]
    constructor
    · rintro rfl
      exact .item item
    · rintro (- | ⟨fits, -⟩ | ⟨fits, -, -⟩)
      · rfl
      · exact absurd fits item
      · exact absurd fits item

theorem ofDeclarations_searchOnly (fs : List FieldDeclaration) :
    FieldDefinition.ofDeclarations
        (fs.map fun f => { f with attributes := f.attributes.filter (·.isSearch) }) =
      FieldDefinition.ofDeclarations fs := by
  induction fs with
  | nil => rfl
  | cons f fs ih =>
    rw [List.map_cons, FieldDefinition.ofDeclarations, FieldDefinition.ofDeclarations, ih,
      FieldDefinition.ofDeclaration, FieldDefinition.ofDeclaration, FieldKind.ofAttributes_filter]

theorem ofDeclaration_searchOnly (d : Declaration) :
    ofDeclaration d.searchOnly = ofDeclaration d := by
  rw [ofDeclaration, ofDeclaration, Declaration.searchOnly, tableOf_filter,
    ofDeclarations_searchOnly]

/-- A declaration has a definition exactly if it is within the grammar: that of a struct whose item
names at most one table and whose fields have at most one `search` attribute each, a string or
`flatten`. The definition has all fields in declaration order, of the kinds of their attributes. Any
other declaration is refused for its item, or else for the first attribute to blame of its first
field to blame; behind a first `search` attribute a second one is a duplicate whatever its form.
Attributes of other names never matter. -/
theorem grammatical_defined_else_first_blamed (d : Declaration) :
    ((∃ r, ofDeclaration d = .ok r) ↔ d.Grammatical) ∧
      (∀ r, ofDeclaration d = .ok r ↔ d.Defines r) ∧
      (∀ fault, ofDeclaration d = .error fault ↔ d.Blamed fault) ∧
      ofDeclaration d.searchOnly = ofDeclaration d := by
  refine ⟨⟨?_, ?_⟩, fun r => ofDeclaration_ok_iff, fun fault => ofDeclaration_error_iff,
    ofDeclaration_searchOnly d⟩
  · rintro ⟨r, accepted⟩
    exact (ofDeclaration_ok_iff.mp accepted).grammatical
  · intro grammatical
    obtain ⟨fields, classified⟩ := fields_fit_iff.mp grammatical.fields
    exact ⟨⟨d.ident, d.generics, d.bounds, _, fields⟩,
      ofDeclaration_ok_iff.mpr ⟨grammatical, rfl, rfl, rfl, rfl, classified⟩⟩

/-- The second attribute of `age` is malformed as well, and `name` comes too late. -/
example :
    ofDeclaration
      { ident := "UserSearch"
        fields :=
          [⟨"id", [.foreign, .directive "type:eq"]⟩,
            ⟨"age", [.directive "type:gt", .foreign, .word "deep"]⟩,
            ⟨"name", [.table "users"]⟩] } = .error .duplicate := rfl

end Definition

end FilterSql.Derive
