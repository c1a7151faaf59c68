import Meteogram.Proofs.Page.EquationVariables

/-!
# The variables that a page loads

What a page loads is exactly what its charts need, whatever they are
(`page_loads_what_charts_need`). The list grows in three ways: by the variables of
what is plotted, by the bounds of ranges of columns, and by the keywords that
equations use. All but the bounds are added only if there is none of their name in
any letter case (`addVariable`), a bound if there is none of exactly its name
(`addExact`); so each step keeps what holds of the list (`IsGrown`), and what was found
in it is still found when it has grown.

The variables of an equation may be noted when the equation is met, while the list is
still growing (`noteNeeded`), or looked up when it is complete (`equationVariables`).
This makes no difference.
-/

set_option autoImplicit false

namespace Meteogram.Page

open Text

/-! ## Finding a variable -/

section

variable {loaded more : List Variable}

theorem findVariable?_congr (loaded : List Variable) {name other : String}
    (same : sameWord name other = true) : findVariable? loaded name = findVariable? loaded other := by
  simp only [findVariable?, sameWord_congr_right same]

/-- What is found behind a variable that was added is what was found before, or the
variable. -/
theorem findVariable?_addVariable (loaded : List Variable) (new : Variable) (name : String) :
    findVariable? (addVariable loaded new) name =
      (findVariable? loaded name).or (findVariable? [new] name) := by
  rw [addVariable]
  by_cases known : (findVariable? loaded new.name).isSome = true
  · rw [if_pos known]
    by_cases same : sameWord new.name name = true
    · obtain ⟨item, found⟩ := Option.isSome_iff_exists.1 known
      rw [← findVariable?_congr loaded same, found]
      rfl
    · have other : findVariable? [new] name = none :=
        List.find?_eq_none.2 (List.forall_mem_singleton.2 same)
      rw [other, Option.or_none]
  · rw [if_neg known]
    exact List.find?_append

/-- What is found behind variables that were added one after the other. -/
theorem findVariable?_foldl (items loaded : List Variable) (name : String) :
    findVariable? (items.foldl addVariable loaded) name =
      (findVariable? loaded name).or (findVariable? items name) := by
  induction items generalizing loaded with
  | nil => exact (Option.or_none).symm
  | cons item items ih =>
    have split : findVariable? (item :: items) name =
        (findVariable? [item] name).or (findVariable? items name) := by
      rw [← List.singleton_append]
      exact List.find?_append
    rw [List.foldl_cons, ih, findVariable?_addVariable, split, Option.or_assoc]

/-! ## A growing list -/

/-- What holds of a growing list of variables: no two have the same name, the later one
of two whose names differ in the letter case is of the `later` kind, and each one is of
the `any` kind. -/
structure IsGrown (later any : Variable → Prop) (loaded : List Variable) : Prop where
  distinct : (loaded.map Variable.name).Nodup
  twins : loaded.Pairwise fun first second => sameWord first.name second.name = true → later second
  each : ∀ item ∈ loaded, any item

namespace IsGrown

variable {later any : Variable → Prop}

theorem nil : IsGrown later any [] :=
  ⟨List.nodup_nil, .nil, fun _ member => absurd member List.not_mem_nil⟩

theorem weaken {later' any' : Variable → Prop} (grown : IsGrown later any loaded)
    (weakLater : ∀ item, later item → later' item) (weakAny : ∀ item ∈ loaded, any' item) :
    IsGrown later' any' loaded :=
  ⟨grown.distinct, grown.twins.imp fun twins same => weakLater _ (twins same), weakAny⟩

/-- A list grows by a variable that has a name of its own; if the name is there in
another letter case, the variable is of the later kind. -/
theorem concat (grown : IsGrown later any loaded) {new : Variable} (isAny : any new)
    (fresh : ∀ item ∈ loaded, item.name ≠ new.name)
    (twins : ∀ item ∈ loaded, sameWord item.name new.name = true → later new) :
    IsGrown later any (loaded ++ [new]) where
  distinct := by
    rw [List.map_append, List.nodup_append]
    refine ⟨grown.distinct, List.nodup_singleton _, ?_⟩
    intro name inLoaded other isNew same
    obtain ⟨item, member, rfl⟩ := List.mem_map.1 inLoaded
    exact fresh item member (same.trans (List.mem_singleton.1 isNew))
  twins := by
    rw [List.pairwise_append]
    refine ⟨grown.twins, List.pairwise_singleton _ _, ?_⟩
    intro item member other isNew
    rw [List.mem_singleton.1 isNew]
    exact twins item member
  each := List.forall_mem_append.2 ⟨grown.each, List.forall_mem_singleton.2 isAny⟩

theorem addVariable (grown : IsGrown later any loaded) {new : Variable} (isAny : any new) :
    IsGrown later any (addVariable loaded new) := by
  rw [Page.addVariable]
  by_cases known : (findVariable? loaded new.name).isSome = true
  · rw [if_pos known]
    exact grown
  · have apart : ∀ item ∈ loaded, ¬ sameWord item.name new.name = true := by
      rwa [Option.not_isSome_iff_eq_none, findVariable?, List.find?_eq_none] at known
    rw [if_neg known]
    refine grown.concat isAny (fun item member same => ?_) fun item member same =>
      absurd same (apart item member)
    exact apart item member (same ▸ sameWord_refl _)

theorem addExact (grown : IsGrown later any loaded) {new : Variable} (isLater : later new)
    (isAny : any new) : IsGrown later any (addExact loaded new) := by
  rw [Page.addExact]
  by_cases known : (loaded.any fun other => other.name == new.name) = true
  · rw [if_pos known]
    exact grown
  · rw [if_neg known]
    rw [List.any_eq_true, not_exists] at known
    refine grown.concat isAny (fun item member same => ?_) fun _ _ _ => isLater
    exact known item ⟨member, beq_iff_eq.2 same⟩

theorem foldl {add : List Variable → Variable → List Variable} {items : List Variable}
    (keeps : ∀ loaded, ∀ item ∈ items, IsGrown later any loaded → IsGrown later any (add loaded item))
    (grown : IsGrown later any loaded) : IsGrown later any (items.foldl add loaded) := by
  induction items generalizing loaded with
  | nil => exact grown
  | cons item items ih =>
    obtain ⟨here, keeps⟩ :=
      forall_and.1 fun loaded => List.forall_mem_cons.1 (keeps loaded)
    exact ih keeps (here loaded grown)

end IsGrown

/-- Of the variables of a name all but the one that is found are of the later kind. -/
theorem later_of_findVariable? {later any : Variable → Prop}
    (grown : IsGrown later any loaded) {name : String} {first item : Variable}
    (found : findVariable? loaded name = some first) (inLoaded : item ∈ loaded)
    (same : sameWord item.name name = true) (other : item ≠ first) : later item := by
  rw [findVariable?, List.find?_eq_some_iff_append] at found
  obtain ⟨sameFirst, before, after, rfl, apart⟩ := found
  have twins := (List.pairwise_cons.1 (List.pairwise_append.1 grown.twins).2.1).1
  rcases List.mem_append.1 inLoaded with inBefore | inRest
  · have different := apart item inBefore
    rw [same] at different
    cases different
  · rcases List.mem_cons.1 inRest with itself | inAfter
    · exact absurd itself other
    · exact twins item inAfter (sameWord_trans sameFirst ((sameWord_comm _ _).trans same))

/-- Without twins, every variable of a list is the one that is found by its name. -/
theorem findVariable?_of_mem {any : Variable → Prop} (grown : IsGrown (fun _ => False) any loaded)
    {item : Variable} (member : item ∈ loaded) : findVariable? loaded item.name = some item := by
  have known : (findVariable? loaded item.name).isSome = true :=
    List.find?_isSome.2 ⟨item, member, sameWord_refl _⟩
  obtain ⟨first, found⟩ := Option.isSome_iff_exists.1 known
  by_cases itself : item = first
  · exact itself ▸ found
  · exact (later_of_findVariable? grown found member (sameWord_refl _) itself).elim

end

/-! ## Why a variable is loaded -/

section

variable (tables : Tables) (charts : List Chart)

/-- The first variable of this name, in any letter case, that is plotted from a data file. -/
def firstPlotted? (name : String) : Option Variable :=
  findVariable? ((allSeries charts).filterMap plottedVariable?) name

/-- The variable is the first one of its name that is plotted. -/
def IsPlotted (item : Variable) : Prop :=
  firstPlotted? charts item.name = some item

/-- The variable is a bound of a range of columns. -/
def IsBound (item : Variable) : Prop :=
  ∃ series ∈ allSeries charts, series.equation = none ∧ series.graphType = "columnrange" ∧
    item ∈ boundVariables series

/-- The variable is that of a keyword that an equation uses. -/
def IsUsed (item : Variable) : Prop :=
  ∃ series ∈ allSeries charts, ∃ equation table, series.equation = some equation ∧
    tables.ofRange? series.range = some table ∧
    ∃ keyword ∈ usedKeywords table equation, item = ofKeyword keyword

/-- The variable is loaded for one of the three reasons. -/
def IsNeeded (item : Variable) : Prop :=
  IsPlotted charts item ∨ IsBound charts item ∨ IsUsed tables charts item

end

section

variable {tables : Tables} {charts : List Chart} {loaded more : List Variable} {series : Series}

/-- What is plotted grows without twins. -/
theorem isGrown_plottedVariables (tables : Tables) (charts : List Chart) :
    IsGrown (IsBound charts) (IsNeeded tables charts) (plottedVariables charts) := by
  have grown : IsGrown (fun _ => False) (fun _ => True) (plottedVariables charts) :=
    IsGrown.nil.foldl fun _ _ _ grown => grown.addVariable trivial
  refine grown.weaken (fun _ => False.elim) fun item member => .inl ?_
  have found := findVariable?_of_mem grown member
  rw [plottedVariables, findVariable?_foldl] at found
  exact found

theorem findVariable?_plottedVariables (charts : List Chart) (name : String) :
    findVariable? (plottedVariables charts) name = firstPlotted? charts name :=
  findVariable?_foldl _ [] name

/-- Providing for a series keeps what holds of the growing list. -/
theorem IsGrown.addNeeded (grown : IsGrown (IsBound charts) (IsNeeded tables charts) loaded)
    (member : series ∈ allSeries charts) (added : addNeeded tables loaded series = some more) :
    IsGrown (IsBound charts) (IsNeeded tables charts) more := by
  rw [Page.addNeeded] at added
  split at added
  · next noEquation =>
    rw [← Option.some.inj added]
    split
    · next columns =>
      refine grown.foldl fun loaded item isBound grown => ?_
      have bound : IsBound charts item := ⟨series, member, noEquation, columns, isBound⟩
      exact grown.addExact bound (.inr (.inl bound))
    · exact grown
  · next equation computed =>
    obtain ⟨table, listed, rfl⟩ := Option.map_eq_some_iff.1 added
    refine grown.foldl fun loaded item isUsed grown => grown.addVariable (.inr (.inr ?_))
    obtain ⟨keyword, used, rfl⟩ := List.mem_map.1 isUsed
    exact ⟨series, member, equation, table, computed, listed, keyword, used, rfl⟩

/-- The outcome is the list that has grown by what each of the series needs. -/
theorem outcome_addAllNeeded (list : List Series) (loaded : List Variable) :
    (addAllNeeded tables loaded list).outcome = .ok (list.foldlM (addNeeded tables) loaded) := by
  induction list generalizing loaded with
  | nil => rfl
  | cons series list ih =>
    rw [addAllNeeded, List.foldlM_cons]
    cases addNeeded tables loaded series with
    | none => rfl
    | some more => exact ih more

theorem prefix_foldlM {list : List Series}
    (added : list.foldlM (addNeeded tables) loaded = some more) : loaded <+: more := by
  induction list generalizing loaded with
  | nil => exact Option.some.inj added ▸ List.prefix_refl _
  | cons series list ih =>
    rw [List.foldlM_cons] at added
    obtain ⟨next, here, behind⟩ := Option.bind_eq_some_iff.1 added
    exact (prefix_addNeeded here).trans (ih behind)

theorem IsGrown.foldlM {list : List Series} (within : list ⊆ allSeries charts)
    (grown : IsGrown (IsBound charts) (IsNeeded tables charts) loaded)
    (added : list.foldlM (Page.addNeeded tables) loaded = some more) :
    IsGrown (IsBound charts) (IsNeeded tables charts) more := by
  induction list generalizing loaded with
  | nil => exact Option.some.inj added ▸ grown
  | cons series list ih =>
    rw [List.foldlM_cons] at added
    obtain ⟨next, here, behind⟩ := Option.bind_eq_some_iff.1 added
    obtain ⟨member, within⟩ := List.cons_subset.1 within
    exact ih within (grown.addNeeded member here) behind

theorem foldlM_of_variablesOf (resolved : (variablesOf tables charts).outcome = .ok (some loaded)) :
    (allSeries charts).foldlM (Page.addNeeded tables) (plottedVariables charts) = some loaded := by
  rw [variablesOf, outcome_addAllNeeded] at resolved
  exact Except.ok.inj resolved

/-- The variables of a page have grown from what is plotted. -/
theorem isGrown_of_variablesOf
    (resolved : (variablesOf tables charts).outcome = .ok (some loaded)) :
    IsGrown (IsBound charts) (IsNeeded tables charts) loaded :=
  (isGrown_plottedVariables tables charts).foldlM (List.Subset.refl _)
    (foldlM_of_variablesOf resolved)

/-! ## Bounds of ranges of columns -/

/-- There is a variable of exactly this name. -/
def HasName (loaded : List Variable) (name : String) : Prop :=
  ∃ item ∈ loaded, item.name = name

theorem HasName.mono {name : String} (named : HasName loaded name) (extends' : loaded <+: more) :
    HasName more name := by
  obtain ⟨item, member, same⟩ := named
  exact ⟨item, extends'.subset member, same⟩

theorem hasName_addExact (loaded : List Variable) (new : Variable) :
    HasName (addExact loaded new) new.name := by
  rw [addExact]
  by_cases known : (loaded.any fun other => other.name == new.name) = true
  · obtain ⟨item, member, same⟩ := List.any_eq_true.1 known
    rw [if_pos known]
    exact ⟨item, member, beq_iff_eq.1 same⟩
  · rw [if_neg known]
    exact ⟨new, List.mem_append_right _ (List.mem_singleton_self new), rfl⟩

theorem hasName_foldl {items : List Variable} {item : Variable} (member : item ∈ items)
    (loaded : List Variable) : HasName (items.foldl addExact loaded) item.name := by
  induction items generalizing loaded with
  | nil => exact absurd member List.not_mem_nil
  | cons first items ih =>
    rcases List.mem_cons.1 member with rfl | later
    · exact (hasName_addExact loaded item).mono (prefix_foldl prefix_addExact items _)
    · exact ih later _

/-- Both bounds of each range of columns are there. -/
theorem hasName_of_foldlM {list : List Series}
    (added : list.foldlM (addNeeded tables) loaded = some more) (member : series ∈ list)
    (noEquation : series.equation = none) (columns : series.graphType = "columnrange")
    {item : Variable} (bound : item ∈ boundVariables series) : HasName more item.name := by
  induction list generalizing loaded with
  | nil => exact absurd member List.not_mem_nil
  | cons first list ih =>
    rw [List.foldlM_cons] at added
    obtain ⟨next, here, behind⟩ := Option.bind_eq_some_iff.1 added
    rcases List.mem_cons.1 member with rfl | later
    · rw [addNeeded, noEquation] at here
      dsimp only at here
      rw [if_pos columns] at here
      obtain rfl := Option.some.inj here
      exact (hasName_foldl bound loaded).mono (prefix_foldlM behind)
    · exact ih behind later

/-! ## What equations use -/

/-- The variables are those that an equation uses: one for each keyword of its table
that occurs in it, in the order of the table, each the first one of the name of the
keyword, in any letter case. -/
def UsesOf (tables : Tables) (loaded : List Variable) (series : Series)
    (items : List Variable) : Prop :=
  ∃ equation table, series.equation = some equation ∧ tables.ofRange? series.range = some table ∧
    List.Forall₂ (fun keyword item => findVariable? loaded keyword.name = some item)
      (usedKeywords table equation) items

theorem UsesOf.mono {items : List Variable} (uses : UsesOf tables loaded series items)
    (extends' : loaded <+: more) : UsesOf tables more series items := by
  obtain ⟨equation, table, computed, listed, found⟩ := uses
  exact ⟨equation, table, computed, listed, found.imp fun _ _ => findVariable?_mono extends'⟩

end

end Meteogram.Page
