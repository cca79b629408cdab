import DebugOutline.Proofs.Ancestry
import DebugOutline.Proofs.Qualifying

/-! Paths of scopes and qualifiers. A path joins the names of the scopes from the outermost one down
to an object, a qualifier puts one name after the other in front of those inside it: they are the
same text, but for the separator at the end of a qualifier and for functions, which do not qualify
what is declared right under them. -/
namespace DebugOutline

namespace Outline

/-- The scopes from the outermost one down to an object. The walk out of the object ends below the
nearest unit or the file, or at an object that is in nothing. -/
inductive ScopeTrail (outline : Outline) : NodeId → List NodeId → Prop where
  | boundary {id : NodeId} (ends : (outline.node id).kind.endsScopes = true) :
      ScopeTrail outline id []
  | outermost {id : NodeId} (inside : (outline.node id).kind.endsScopes = false)
      (alone : (outline.node id).parent = none) : ScopeTrail outline id [id]
  | within {id parent : NodeId} {trail : List NodeId}
      (inside : (outline.node id).kind.endsScopes = false)
      (named : (outline.node id).parent = some parent)
      (outer : ScopeTrail outline parent trail) : ScopeTrail outline id (trail ++ [id])

/-- The names of the scopes that have one. -/
def namesOf (outline : Outline) (scopes : List NodeId) : List String :=
  (scopes.map fun scope => (outline.node scope).name).filter (· != "")

variable {outline : Outline} {id parent : NodeId} {trail : List NodeId} {names : List String}

/-! ### Trails -/

namespace WellFormed

variable (valid : outline.WellFormed)
include valid

theorem exists_scopeTrail (id : NodeId) : ∃ trail, outline.ScopeTrail id trail := by
  induction id using Nat.strong_induction_on with
  | _ id ih =>
    cases ends : (outline.node id).kind.endsScopes with
    | true => exact ⟨[], .boundary ends⟩
    | false =>
      cases named : (outline.node id).parent with
      | none => exact ⟨[id], .outermost ends named⟩
      | some parent =>
        obtain ⟨trail, outer⟩ := ih parent (valid.of_parent named).2.2
        exact ⟨trail ++ [id], .within ends named outer⟩

theorem enclosing_of_boundary (ends : (outline.node id).kind.endsScopes = true) :
    outline.enclosing (some id) = [] := by
  rw [enclosing, Option.elim_some, valid.ancestry_eq_cons,
    List.takeWhile_cons_of_neg (by simp [ends])]

theorem enclosing_of_none (inside : (outline.node id).kind.endsScopes = false)
    (alone : (outline.node id).parent = none) : outline.enclosing (some id) = [id] := by
  rw [enclosing, Option.elim_some, valid.ancestry_of_none alone,
    List.takeWhile_cons_of_pos (by simp [inside]), List.takeWhile_nil]

theorem enclosing_of_parent (inside : (outline.node id).kind.endsScopes = false)
    (named : (outline.node id).parent = some parent) :
    outline.enclosing (some id) = id :: outline.enclosing (some parent) := by
  rw [enclosing, Option.elim_some, valid.ancestry_of_parent named,
    List.takeWhile_cons_of_pos (by simp [inside])]
  rfl

/-- A trail lists what encloses its end, from the outside in. -/
theorem eq_reverse_enclosing (trails : outline.ScopeTrail id trail) :
    trail = (outline.enclosing (some id)).reverse := by
  induction trails with
  | boundary ends => rw [valid.enclosing_of_boundary ends, List.reverse_nil]
  | outermost inside alone => rw [valid.enclosing_of_none inside alone, List.reverse_singleton]
  | within inside named outer ih =>
    rw [valid.enclosing_of_parent inside named, List.reverse_cons, ih]

end WellFormed

/-! ### Names along a trail -/

theorem scopeNames_eq_namesOf (outline : Outline) (id : NodeId) :
    outline.scopeNames id = outline.namesOf (outline.enclosing (some id)) := rfl

theorem namesOf_reverse (outline : Outline) (scopes : List NodeId) :
    outline.namesOf scopes.reverse = (outline.namesOf scopes).reverse := by
  simp only [namesOf, List.map_reverse, List.filter_reverse]

theorem ne_empty_of_mem_scopeNames : ∀ name ∈ outline.scopeNames id, name ≠ "" := by
  intro name member
  simpa using (List.mem_filter.mp member).2

/-- Names put in front of each other, each with a separator behind it, against names that are
joined. -/
theorem foldl_prepend (names : List String) :
    names.foldl (fun path name => name ++ ("::" ++ path)) "" =
      if names = [] then "" else String.intercalate "::" names.reverse ++ "::" := by
  induction names using List.reverseRecOn with
  | nil => rfl
  | append_singleton inner outer ih =>
    have some : inner ++ [outer] ≠ [] := by simp
    rw [List.foldl_append, List.foldl_cons, List.foldl_nil, ih, if_neg some, List.reverse_append,
      List.reverse_singleton, List.singleton_append]
    by_cases alone : inner = []
    · subst alone
      simp
    · rw [if_neg alone, String.intercalate_cons_of_ne_nil (by simpa using alone)]
      simp only [String.append_assoc]

theorem intercalate_eq_empty_iff (full : ∀ name ∈ names, name ≠ "") :
    String.intercalate "::" names = "" ↔ names = [] := by
  rcases names with _ | ⟨first, rest⟩
  · simp
  · have own := full first List.mem_cons_self
    cases rest <;> simp [own]

theorem scopePath_eq_empty_iff : outline.scopePath id = "" ↔ outline.scopeNames id = [] := by
  rw [scopePath, intercalate_eq_empty_iff, List.reverse_eq_nil_iff]
  exact fun name member => ne_empty_of_mem_scopeNames name (List.mem_reverse.mp member)

theorem qualifierUnder_eq_scopePath (outline : Outline) (id : NodeId) :
    outline.qualifierUnder (some id) =
      if (outline.node id).kind = .function then ""
      else if outline.scopePath id = "" then ""
      else outline.scopePath id ++ "::" := by
  simp only [qualifierUnder, foldl_prepend, scopePath_eq_empty_iff]
  rfl

/-! ### The theorem -/

/-- In a tree, exactly one trail of scopes leads to an object, and its path joins the names along
that trail. What is declared under the object is qualified by the path with a separator behind it,
and by nothing if there is no name in the path or the object is a function. -/
theorem scope_walks_agree (valid : outline.WellFormed) (id : NodeId) :
    (outline.qualifierUnder (some id) =
      if (outline.node id).kind = .function then ""
      else if outline.scopePath id = "" then ""
      else outline.scopePath id ++ "::") ∧
    ∃ trail, (∀ other, outline.ScopeTrail id other ↔ other = trail) ∧
      outline.scopePath id = String.intercalate "::" (outline.namesOf trail) := by
  refine ⟨outline.qualifierUnder_eq_scopePath id, (outline.enclosing (some id)).reverse,
    fun other => ⟨valid.eq_reverse_enclosing, ?_⟩, ?_⟩
  · rintro rfl
    obtain ⟨trail, trails⟩ := valid.exists_scopeTrail id
    exact valid.eq_reverse_enclosing trails ▸ trails
  · rw [namesOf_reverse, ← scopeNames_eq_namesOf, scopePath]

/-- A structure in a member function of a class, which is in a namespace without a name. -/
private def nestedUnit : Dwarf.UnitRecord where
  entries := #[
    { offset := 11, tag := .compileUnit, attributes := [⟨.name, .string, .string "a.cpp"⟩] },
    { offset := 16, tag := .namespaceEntry, parent := some 11,
      attributes := [⟨.name, .string, .string "A"⟩] },
    { offset := 20, tag := .namespaceEntry, parent := some 16 },
    { offset := 24, tag := .classType, parent := some 20,
      attributes := [⟨.name, .string, .string "C"⟩] },
    { offset := 32, tag := .subprogram, parent := some 24,
      attributes := [⟨.name, .string, .string "run"⟩] },
    { offset := 48, tag := .structureType, parent := some 32,
      attributes := [⟨.name, .string, .string "L"⟩] }]

/-- The function is part of the path of the structure, but does not qualify it. -/
theorem scope_walks_agree_in_function :
    let outline := (Outline.build "a.o" [nestedUnit] "void").1
    outline.WellFormed ∧ outline.ScopeTrail 6 [2, 3, 4, 5, 6] ∧
      outline.scopePath 6 = "A::C::run::L" ∧ outline.qualifierUnder (some 6) = "A::C::run::L::" ∧
      outline.qualifierUnder (some 5) = "" := by
  intro outline
  have valid : outline.WellFormed := .build "a.o" [nestedUnit] "void"
  have known : outline = buildBySearch "a.o" [nestedUnit] "void" := build_eq_buildBySearch ..
  obtain ⟨qualifier, trail, unique, path⟩ := scope_walks_agree valid 6
  have trails := (unique trail).mpr rfl
  obtain rfl : trail = [2, 3, 4, 5, 6] := by
    rw [valid.eq_reverse_enclosing trails, known]
    decide +kernel
  have named : outline.scopePath 6 = "A::C::run::L" := by
    rw [path, known]
    decide +kernel
  refine ⟨valid, trails, named, ?_, ?_⟩
  · rw [qualifier, named, known]
    decide +kernel
  · rw [(scope_walks_agree valid 5).1, known]
    decide +kernel

end Outline

end DebugOutline
