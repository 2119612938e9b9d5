import Mathlib.Data.List.Forall2
import FilterSql.Derive.Definition

/-!
# How fields are classified

The kind of each field of an accepted declaration, by the one `search` attribute
of the field and by what a walk reads in its directive. Attributes of other names
play no part.

In `fields_classified` the fields of an accepted declaration and their
declarations correspond one to one, in order. Which declarations are accepted is
the subject of `Derive/Acceptance`.
-/

namespace FilterSql.Derive

theorem exists_of_mem_forall₂ {α β : Type} {R : α → β → Prop} {as : List α} {bs : List β}
    (related : List.Forall₂ R as bs) {b : β} (member : b ∈ bs) : ∃ a ∈ as, R a b := by
  induction related with
  | nil => cases member
  | @cons a _ as _ head _ ih =>
    rcases List.mem_cons.mp member with rfl | later
    · exact ⟨a, List.mem_cons_self, head⟩
    · obtain ⟨other, among, found⟩ := ih later
      exact ⟨other, List.mem_cons_of_mem a among, found⟩

/-- The kind that a field has by its attributes. A directive is read as a walk reads it. -/
inductive FieldDeclaration.Classified (f : FieldDeclaration) : FieldKind → Prop
  | untagged (bare : f.attributes.filter (·.isSearch) = []) : Classified f .untagged
  | flatten (tagged : f.attributes.filter (·.isSearch) = [.word "flatten"]) : Classified f .flatten
  | excluded {tag : String} (tagged : f.attributes.filter (·.isSearch) = [.directive tag])
      (read : (Directive.read tag).directive = .excluded) : Classified f .excluded
  | join {tag : String} {d : Descriptor}
      (tagged : f.attributes.filter (·.isSearch) = [.directive tag])
      (read : (Directive.read tag).directive = .search d) (joins : d.operator = some .left) :
      Classified f (.join tag)
  | scalar {tag : String} {d : Descriptor}
      (tagged : f.attributes.filter (·.isSearch) = [.directive tag])
      (read : (Directive.read tag).directive = .search d) (other : d.operator ≠ some .left) :
      Classified f (.scalar tag)

namespace FieldKind

/-- Only a string and the word `flatten` are accepted on a field. -/
theorem ofAttribute_cases {a : Attribute} {kind : FieldKind} (accepted : ofAttribute a = .ok kind) :
    (∃ tag, a = .directive tag ∧ kind = ofTag tag) ∨ (a = .word "flatten" ∧ kind = .flatten) := by
  unfold ofAttribute at accepted
  split at accepted
  · next tag => exact Or.inl ⟨tag, rfl, (Except.ok.inj accepted).symm⟩
  · exact Or.inr ⟨rfl, (Except.ok.inj accepted).symm⟩
  · split at accepted <;> cases accepted

/-- Once a kind is set, no further `search` attribute is accepted. -/
theorem ofAttributes_some {set kind : FieldKind} {as : List Attribute}
    (accepted : ofAttributes (some set) as = .ok kind) :
    kind = set ∧ as.filter (·.isSearch) = [] := by
  induction as with
  | nil => exact ⟨(Except.ok.inj accepted).symm, rfl⟩
  | cons a rest ih =>
    rw [ofAttributes] at accepted
    cases search : a.isSearch with
    | true => simp [search] at accepted
    | false =>
      obtain ⟨same, none⟩ := ih (by simpa [search] using accepted)
      exact ⟨same, by rw [List.filter_cons_of_neg (by simp [search]), none]⟩

/-- The kind is that of the one `search` attribute, if there is one. -/
theorem ofAttributes_none {kind : FieldKind} {as : List Attribute}
    (accepted : ofAttributes none as = .ok kind) :
    (as.filter (·.isSearch) = [] ∧ kind = .untagged) ∨
      ∃ a, as.filter (·.isSearch) = [a] ∧ ofAttribute a = .ok kind := by
  induction as with
  | nil => exact Or.inl ⟨rfl, (Except.ok.inj accepted).symm⟩
  | cons a rest ih =>
    rw [ofAttributes] at accepted
    cases search : a.isSearch with
    | true =>
      cases given : ofAttribute a with
      | error fault => simp [search, given] at accepted
      | ok set =>
        obtain ⟨rfl, none⟩ := ofAttributes_some (by simpa [search, given] using accepted)
        exact Or.inr ⟨a, by rw [List.filter_cons_of_pos search, none], given⟩
    | false =>
      rw [List.filter_cons_of_neg (by simp [search])]
      exact ih (by simpa [search] using accepted)

end FieldKind

theorem FieldDeclaration.classified_ofTag {f : FieldDeclaration} {tag : String}
    (tagged : f.attributes.filter (·.isSearch) = [.directive tag]) :
    f.Classified (FieldKind.ofTag tag) := by
  unfold FieldKind.ofTag
  cases read : (Directive.read tag).directive with
  | excluded => exact .excluded tagged read
  | search d =>
    by_cases joins : d.operator = some .left
    · simpa [Directive.isJoin, joins] using Classified.join tagged read joins
    · simpa [Directive.isJoin, joins] using Classified.scalar tagged read joins

namespace FieldDefinition

/-- A field that is accepted has the kind of its attributes. -/
theorem ofDeclaration_classified {f : FieldDeclaration} {d : FieldDefinition}
    (accepted : ofDeclaration f = .ok d) : d.ident = f.ident ∧ f.Classified d.kind := by
  unfold ofDeclaration at accepted
  split at accepted
  · next kind given =>
    obtain rfl := Except.ok.inj accepted
    refine ⟨rfl, ?_⟩
    rcases FieldKind.ofAttributes_none given with ⟨bare, rfl⟩ | ⟨a, tagged, read⟩
    · exact .untagged bare
    · rcases FieldKind.ofAttribute_cases read with ⟨tag, rfl, rfl⟩ | ⟨rfl, rfl⟩
      · exact FieldDeclaration.classified_ofTag tagged
      · exact .flatten tagged
  · cases accepted

theorem ofDeclarations_classified {fs : List FieldDeclaration} {ds : List FieldDefinition}
    (accepted : ofDeclarations fs = .ok ds) :
    List.Forall₂ (fun f d => d.ident = f.ident ∧ f.Classified d.kind) fs ds := by
  induction fs generalizing ds with
  | nil =>
    obtain rfl := Except.ok.inj accepted
    exact .nil
  | cons f rest ih =>
    rw [ofDeclarations] at accepted
    cases first : ofDeclaration f with
    | error fault => simp [first] at accepted
    | ok d =>
      cases later : ofDeclarations rest with
      | error fault => simp [first, later] at accepted
      | ok ds' =>
        simp only [first, later, Except.ok.injEq] at accepted
        obtain rfl := accepted
        exact .cons (ofDeclaration_classified first) (ih later)

end FieldDefinition

namespace Definition

/-- The fields of an accepted declaration are all defined, in their order and by their kinds. -/
theorem fields_classified {declaration : Declaration} {definition : Definition}
    (accepted : ofDeclaration declaration = .ok definition) :
    List.Forall₂ (fun f d => d.ident = f.ident ∧ f.Classified d.kind) declaration.fields
      definition.fields := by
  unfold ofDeclaration at accepted
  split at accepted
  · cases accepted
  · split at accepted
    · cases accepted
    · split at accepted
      · cases accepted
      · next fields defined =>
        obtain rfl := Except.ok.inj accepted
        exact FieldDefinition.ofDeclarations_classified defined

/-- A defined field comes from a declared one. -/
theorem classified_of_mem {declaration : Declaration} {definition : Definition}
    (accepted : ofDeclaration declaration = .ok definition) {d : FieldDefinition}
    (defined : d ∈ definition.fields) :
    ∃ f ∈ declaration.fields, d.ident = f.ident ∧ f.Classified d.kind :=
  exists_of_mem_forall₂ (fields_classified accepted) defined

end Definition

end FilterSql.Derive
