import Meteogram.Page.Variables
import Meteogram.Proofs.Chart.Keywords
import Meteogram.Proofs.Definition.Consistency

/-!
# Words of an equation that are variables

Which words of an equation are variables is decided three times: by the check of the
equation, which works on its tokens, by the search for the variables that a page has
to load, which looks for each keyword in the text, and by the script, where one
keyword after the other is replaced in a text that is partly rewritten. For charts
that were read all three agree (`equations_agree_on_variables`). A variable that was
loaded is found for ever (`findVariable?_mono`), so the variables of an equation
are those of the keywords among its tokens, and each token of the equation becomes
what it should, by itself (`Computes`).
-/

set_option autoImplicit false

namespace Meteogram.Page

open Text Equation

/-! ## Loading variables -/

section

variable {loaded more : List Variable}

/-- A variable that was found is still found when there are more of them. -/
theorem findVariable?_mono (extends' : loaded <+: more) {name : String} {item : Variable}
    (found : findVariable? loaded name = some item) : findVariable? more name = some item := by
  obtain ⟨rest, rfl⟩ := extends'
  rw [findVariable?, List.find?_append]
  rw [findVariable?] at found
  rw [found]
  rfl

theorem prefix_addVariable (loaded : List Variable) (new : Variable) :
    loaded <+: addVariable loaded new := by
  rw [addVariable]
  split
  · exact List.prefix_refl loaded
  · exact List.prefix_append loaded [new]

theorem prefix_addExact (loaded : List Variable) (new : Variable) :
    loaded <+: addExact loaded new := by
  rw [addExact]
  split
  · exact List.prefix_refl loaded
  · exact List.prefix_append loaded [new]

/-- Adding variables one after the other keeps those in front. -/
theorem prefix_foldl {add : List Variable → Variable → List Variable}
    (keeps : ∀ loaded new, loaded <+: add loaded new) (items : List Variable)
    (loaded : List Variable) : loaded <+: items.foldl add loaded := by
  induction items generalizing loaded with
  | nil => exact List.prefix_refl loaded
  | cons item items ih => exact (keeps loaded item).trans (ih (add loaded item))

/-- A variable that was added is found. -/
theorem isSome_findVariable?_addVariable (loaded : List Variable) (new : Variable) :
    (findVariable? (addVariable loaded new) new.name).isSome = true := by
  rw [addVariable]
  by_cases known : (findVariable? loaded new.name).isSome = true
  · rw [if_pos known]
    exact known
  · rw [if_neg known, findVariable?, List.find?_append, List.find?_singleton, sameWord_refl,
      Option.isSome_or]
    exact Bool.or_true _

theorem isSome_findVariable?_foldl {items : List Variable} {item : Variable} (member : item ∈ items)
    (loaded : List Variable) :
    (findVariable? (items.foldl addVariable loaded) item.name).isSome = true := by
  induction items generalizing loaded with
  | nil => exact absurd member List.not_mem_nil
  | cons first items ih =>
    rw [List.foldl_cons]
    rcases List.mem_cons.1 member with rfl | later
    · obtain ⟨found, same⟩ :=
        Option.isSome_iff_exists.1 (isSome_findVariable?_addVariable loaded item)
      exact Option.isSome_of_eq_some
        (findVariable?_mono (prefix_foldl prefix_addVariable items _) same)
    · exact ih later _

end

section

variable {tables : Tables}

theorem prefix_addNeeded {loaded more : List Variable} {series : Series}
    (added : addNeeded tables loaded series = some more) : loaded <+: more := by
  rw [addNeeded] at added
  split at added
  · rw [← Option.some.inj added]
    split
    · exact prefix_foldl prefix_addExact _ loaded
    · exact List.prefix_refl loaded
  · obtain ⟨table, _, rfl⟩ := Option.map_eq_some_iff.1 added
    exact prefix_foldl prefix_addVariable _ loaded

/-- The variables that the equation of a series uses are loaded. -/
def IsLoaded (tables : Tables) (loaded : List Variable) (series : Series) : Prop :=
  ∀ equation table, series.equation = some equation →
    tables.ofRange? series.range = some table →
    ∀ keyword ∈ usedKeywords table equation, (findVariable? loaded keyword.name).isSome = true

theorem IsLoaded.mono {loaded more : List Variable} {series : Series}
    (isLoaded : IsLoaded tables loaded series) (extends' : loaded <+: more) :
    IsLoaded tables more series := by
  intro equation table computed listed keyword member
  obtain ⟨item, found⟩ :=
    Option.isSome_iff_exists.1 (isLoaded equation table computed listed keyword member)
  exact Option.isSome_of_eq_some (findVariable?_mono extends' found)

theorem isLoaded_addNeeded {loaded more : List Variable} {series : Series}
    (added : addNeeded tables loaded series = some more) : IsLoaded tables more series := by
  intro equation table computed listed keyword member
  rw [addNeeded, computed] at added
  dsimp only at added
  rw [listed] at added
  rw [← Option.some.inj added]
  have needed : ofKeyword keyword ∈ (usedKeywords table equation).map ofKeyword :=
    List.mem_map_of_mem member
  exact isSome_findVariable?_foldl needed loaded

/-- If every equation has a table, everything that is needed is loaded. -/
theorem exists_addAllNeeded {series : List Series}
    (listed : ∀ one ∈ series, (tables.ofRange? one.range).isSome = true)
    (loaded : List Variable) : ∃ more,
      (addAllNeeded tables loaded series).outcome = .ok (some more) ∧ loaded <+: more ∧
        ∀ one ∈ series, IsLoaded tables more one := by
  induction series generalizing loaded with
  | nil => exact ⟨loaded, rfl, List.prefix_refl loaded, fun _ member => absurd member List.not_mem_nil⟩
  | cons first rest ih =>
    obtain ⟨here, listed⟩ := List.forall_mem_cons.1 listed
    obtain ⟨table, hasTable⟩ := Option.isSome_iff_exists.1 here
    obtain ⟨next, added⟩ : ∃ next, addNeeded tables loaded first = some next := by
      rw [addNeeded]
      split
      · exact ⟨_, rfl⟩
      · rw [hasTable]
        exact ⟨_, rfl⟩
    obtain ⟨more, outcome, extends', others⟩ := ih listed next
    refine ⟨more, ?_, (prefix_addNeeded added).trans extends', ?_⟩
    · rw [addAllNeeded, added]
      exact outcome
    · exact List.forall_mem_cons.2 ⟨(isLoaded_addNeeded added).mono extends', others⟩

end

/-! ## Keywords of an equation -/

/-- What the tokens of an equation mean in the range of a series, and the table that
the page takes the keywords from. -/
structure IsChecked (tables : Tables) (series : Series) (equation : String)
    (table : List Keyword) : Prop where
  listed : tables.ofRange? series.range = some table
  isFinal : Final (spellingIn tables series.range) (tokensOf equation.toList)
  joined : (tokensOf equation.toList).flatten = equation.toList
  searchable : Searchable (table.map Keyword.name)

namespace IsChecked

variable {tables : Tables} {series : Series} {equation : String} {table : List Keyword}
  (checked : IsChecked tables series equation table)

include checked

/-- A keyword is in its own spelling among those of the table. -/
theorem exists_entry {word name : String}
    (spelled : spellingIn tables series.range word = some name) :
    ∃ entry ∈ table, entry.name = name := by
  obtain ⟨entry, found, rfl⟩ := Option.map_eq_some_iff.1 spelled
  obtain ⟨table', listed, member⟩ := Definition.isEntry_of_lookup? found
  obtain rfl := Option.some.inj (checked.listed.symm.trans listed)
  exact ⟨entry, member, rfl⟩

theorem isSearchable {entry : Keyword} (member : entry ∈ table) : IsSearchable entry.name :=
  checked.searchable.each entry.name (List.mem_map_of_mem member)

theorem name_eq {entry other : Keyword} (member : entry ∈ table) (member' : other ∈ table)
    (same : keysOf entry.name.toList = keysOf other.name.toList) : entry.name = other.name :=
  checked.searchable.different _ (List.mem_map_of_mem member) _ (List.mem_map_of_mem member') same

theorem findable : ∀ word name, spellingIn tables series.range word = some name →
    IsFindable name := by
  intro word name spelled
  obtain ⟨entry, member, rfl⟩ := checked.exists_entry spelled
  exact (checked.isSearchable member).findable

theorem isPart {token : Token} (member : token ∈ tokensOf equation.toList) :
    IsPart (spellingIn tables series.range) token :=
  checked.isFinal.isPart member

/-- The only token with the keys of a keyword is the keyword. -/
theorem eq_of_keys {entry : Keyword} (member : entry ∈ table) {token : Token}
    (inTokens : token ∈ tokensOf equation.toList) (same : keysOf entry.name.toList = keysOf token) :
    token = entry.name.toList := by
  have searchable := checked.isSearchable member
  have identifier := searchable.isVariableName.identifier
  cases checked.isPart inTokens with
  | mark marked =>
    rw [same] at identifier
    have inWords := List.all_eq_true.1 (all_isWordChar_of_keys identifier) _
      (List.mem_singleton_self _)
    exact absurd (inWords.symm.trans (isMark_opens marked).2.1) Bool.noConfusion
  | function function => exact absurd same (searchable.isVariableName.noFunction function)
  | keyword _ spelled =>
    obtain ⟨other, member', rfl⟩ := checked.exists_entry spelled
    rw [checked.name_eq member member' same]
  | number noLetter noBar _ =>
    rw [same, keysOf, List.map_cons, isIdentifier, Bool.and_eq_true, Bool.and_eq_true,
      Bool.not_eq_true'] at identifier
    rcases isLetter_of_start identifier.1.1 identifier.1.2 with letter | bar
    · exact absurd (letter.symm.trans noLetter) Bool.noConfusion
    · exact absurd bar noBar

/-- A keyword occurs in the text of the equation exactly if it is one of the tokens. -/
theorem occurs_iff {entry : Keyword} (member : entry ∈ table) :
    occurs entry.name equation = true ↔ entry.name ∈ tokenize equation := by
  have identifier := (checked.isSearchable member).isVariableName.identifier
  have found := occursFrom_flatten checked.findable checked.isFinal.separated
    (fun _ member => checked.isPart member) identifier
  rw [occurs, ← checked.joined, found, tokenize, List.mem_map]
  constructor
  · rintro ⟨token, inTokens, same⟩
    refine ⟨token, inTokens, ?_⟩
    rw [checked.eq_of_keys member inTokens same, String.ofList_toList]
  · rintro ⟨token, inTokens, same⟩
    refine ⟨token, inTokens, ?_⟩
    rw [← same, String.toList_ofList]

/-- The keywords that are found in the text are those among the tokens. -/
theorem usedKeywords_eq : usedKeywords table equation =
    table.filter fun keyword => keyword.name ∈ tokenize equation := by
  refine List.filter_congr fun entry member => ?_
  rw [Bool.eq_iff_iff, checked.occurs_iff member, decide_eq_true_eq]

end IsChecked

/-! ## The variables of an equation -/

/-- What a token of an equation becomes on a page with these variables: a keyword
becomes the value of its variable at the current index, a function takes its name on
the page, where a running total keeps its own, and everything else stays. -/
inductive Becomes (table : List Keyword) (loaded : List Variable) : Token → List Char → Prop where
  | keyword {entry : Keyword} {item : Variable} (listed : entry ∈ table)
      (found : findVariable? loaded entry.name = some item) :
      Becomes table loaded entry.name.toList (indexed item.name.toList)
  | function {function : Function} {name : String} (renamed : function.scriptName? = some name) :
      Becomes table loaded function.name.toList name.toList
  | total : Becomes table loaded Function.sum.name.toList Function.sum.name.toList
  | other {token : Token} (noWord : kindOf token ≠ .word) : Becomes table loaded token token

/-- A text is made of what the tokens become, one by one. -/
def IsTranslation (table : List Keyword) (loaded : List Variable) (tokens : List Token)
    (text : List Char) : Prop :=
  ∃ words, List.Forall₂ (Becomes table loaded) tokens words ∧ text = words.flatten

/-- The page computes an equation as it was checked, with the variables of these
names. Without a running total the equation stays in one piece. Otherwise the first
one is taken out, from its name to the bracket that closes it, and its value stands
in its place. -/
inductive Computes (table : List Keyword) (loaded : List Variable) (equation : String)
    (names : List String) : Prop where
  | whole {text : List Char}
      (noTotal : Function.sum.name ∉ tokenize equation)
      (split : splitSum equation.toList = .ok (none, equation.toList))
      (translated : IsTranslation table loaded (tokensOf equation.toList) text)
      (code : (codeOf equation.toList names).outcome = .ok ⟨none, text⟩)
  | total {before more inner after : List Token} {innerText beforeText afterText : List Char}
      (parts : tokensOf equation.toList = before ++ Function.sum.name.toList :: ['('] :: more)
      (first : Function.sum.name.toList ∉ before)
      (closes : untilClosed 0 more = some (inner, after))
      (split : splitSum equation.toList =
        .ok (some inner.flatten, before.flatten ++ sumValue ++ after.flatten))
      (back : before.flatten ++ sumCall ++ inner.flatten ++ [')'] ++ after.flatten =
        equation.toList)
      (innerTranslated : IsTranslation table loaded inner innerText)
      (beforeTranslated : IsTranslation table loaded before beforeText)
      (afterTranslated : IsTranslation table loaded after afterText)
      (code : (codeOf equation.toList names).outcome =
        .ok ⟨some innerText, beforeText ++ sumValue ++ afterText⟩)

section

variable {tables : Tables} {series : Series} {equation : String} {table : List Keyword}
  {loaded : List Variable}

/-- The variables of an equation are those of its keywords, in the order of the
table. -/
theorem forall₂_equationVariables (checked : IsChecked tables series equation table)
    (computed : series.equation = some equation) (isLoaded : IsLoaded tables loaded series) :
    List.Forall₂ (fun keyword item => findVariable? loaded keyword.name = some item)
      (table.filter fun keyword => keyword.name ∈ tokenize equation)
      (equationVariables tables loaded series) := by
  have each := isLoaded equation table computed checked.listed
  rw [equationVariables, computed, checked.listed]
  dsimp only
  rw [← checked.usedKeywords_eq]
  generalize usedKeywords table equation = used at each
  induction used with
  | nil => exact .nil
  | cons first rest ih =>
    obtain ⟨here, each⟩ := List.forall_mem_cons.1 each
    obtain ⟨item, found⟩ := Option.isSome_iff_exists.1 here
    rw [List.filterMap_cons, found]
    exact .cons found (ih each)

/-- The names that the variables of an equation have on the page. -/
theorem exists_keyword_of_mem (checked : IsChecked tables series equation table)
    (computed : series.equation = some equation) {item : Variable}
    (member : item ∈ equationVariables tables loaded series) :
    ∃ entry ∈ table, entry.name ∈ tokenize equation ∧
      findVariable? loaded entry.name = some item := by
  rw [equationVariables, computed, checked.listed] at member
  dsimp only at member
  rw [checked.usedKeywords_eq] at member
  obtain ⟨entry, used, found⟩ := List.mem_filterMap.1 member
  rw [List.mem_filter, decide_eq_true_eq] at used
  exact ⟨entry, used.1, used.2, found⟩

theorem keysOf_of_found {entry : Keyword} (identifier : isIdentifier entry.name.toList = true)
    {item : Variable} (found : findVariable? loaded entry.name = some item) :
    keysOf item.name.toList = keysOf entry.name.toList := by
  rw [findVariable?] at found
  have agree := List.find?_some found
  exact keysOf_eq_of_sameWord (isIdentifier_ascii identifier) agree

/-- The name of a variable can be told apart as its keyword can. -/
theorem isVariableName_of_found {entry : Keyword} (searchable : IsSearchable entry.name)
    {item : Variable} (found : findVariable? loaded entry.name = some item) :
    IsVariableName item.name.toList := by
  have same := keysOf_of_found searchable.findable.identifier found
  obtain ⟨identifier, noIndex, noModule, noFunction⟩ := searchable.isVariableName
  refine ⟨?_, ?_, ?_, fun function => ?_⟩ <;> rw [same]
  · exact identifier
  · exact noIndex
  · exact noModule
  · exact noFunction function

/-- A keyword of the table that stands in the equation has its variable among those of the
equation. -/
theorem exists_item_of_token (checked : IsChecked tables series equation table)
    (computed : series.equation = some equation) (isLoaded : IsLoaded tables loaded series)
    {entry : Keyword} (inTable : entry ∈ table)
    (member : entry.name.toList ∈ tokensOf equation.toList) :
    ∃ item ∈ equationVariables tables loaded series,
      findVariable? loaded entry.name = some item := by
  have used : entry ∈ usedKeywords table equation := by
    rw [checked.usedKeywords_eq, List.mem_filter, decide_eq_true_eq, tokenize, List.mem_map]
    exact ⟨inTable, _, member, String.ofList_toList⟩
  obtain ⟨item, found⟩ := Option.isSome_iff_exists.1
    (isLoaded equation table computed checked.listed entry used)
  refine ⟨item, ?_, found⟩
  rw [equationVariables, computed, checked.listed]
  exact List.mem_filterMap.2 ⟨entry, used, found⟩

/-- A variable of the equation whose name has the keys of a keyword is that of the keyword. -/
theorem findVariable?_of_keysOf (checked : IsChecked tables series equation table)
    (computed : series.equation = some equation) {item : Variable}
    (inItems : item ∈ equationVariables tables loaded series) {entry : Keyword}
    (inTable : entry ∈ table) (same : keysOf item.name.toList = keysOf entry.name.toList) :
    findVariable? loaded entry.name = some item := by
  obtain ⟨other, inTable', _, found⟩ := exists_keyword_of_mem checked computed inItems
  have identifier := (checked.isSearchable inTable').findable.identifier
  have sameKeyword := checked.name_eq inTable' inTable
    ((keysOf_of_found identifier found).symm.trans same)
  exact sameKeyword ▸ found

/-- Every token of the equation becomes what it should. -/
theorem becomes_rewritten (checked : IsChecked tables series equation table)
    (computed : series.equation = some equation) (isLoaded : IsLoaded tables loaded series)
    {names : List (List Char)}
    (named : ∀ name, name ∈ names ↔
      ∃ item ∈ equationVariables tables loaded series, item.name.toList = name)
    {token : Token} (member : token ∈ tokensOf equation.toList) :
    Becomes table loaded token (rewritten names token) := by
  have proper : ∀ name ∈ names, IsVariableName name := by
    intro name inNames
    obtain ⟨item, inItems, rfl⟩ := (named name).1 inNames
    obtain ⟨entry, inTable, _, found⟩ := exists_keyword_of_mem checked computed inItems
    exact isVariableName_of_found (checked.isSearchable inTable) found
  cases checked.isPart member with
  | @mark c marked =>
    rw [rewritten_mark proper marked]
    exact .other (IsMark.singleton marked).not_word
  | function function =>
    rw [rewritten_function]
    cases renamed : function.scriptName? with
    | some name => exact .function renamed
    | none =>
      obtain rfl : function = .sum := by cases function <;> first | rfl | cases renamed
      exact .total
  | @keyword name isName spelled =>
    obtain ⟨entry, inTable, rfl⟩ := checked.exists_entry spelled
    cases known : names.find? fun name => keysOf name == keysOf entry.name.toList with
    | some name =>
      have same := List.find?_some known
      obtain ⟨item, inItems, rfl⟩ := (named name).1 (List.mem_of_find?_eq_some known)
      rw [rewritten_name isName.ne_function known]
      exact .keyword inTable
        (findVariable?_of_keysOf checked computed inItems inTable (beq_iff_eq.1 same))
    | none =>
      obtain ⟨item, inItems, found⟩ :=
        exists_item_of_token checked computed isLoaded inTable member
      have missed := List.find?_eq_none.1 known _ ((named _).2 ⟨item, inItems, rfl⟩)
      have identifier := (checked.isSearchable inTable).findable.identifier
      exact absurd (beq_iff_eq.2 (keysOf_of_found identifier found)) missed
  | @number c cs noLetter noBar _ =>
    rw [rewritten_number proper noLetter noBar]
    refine .other fun word => ?_
    rw [kindOf_eq_word_iff, List.head?_cons, Option.map_some, noLetter] at word
    cases word

/-- The page computes a checked equation as it was checked. -/
theorem computes_of_checked (checked : IsChecked tables series equation table)
    (computed : series.equation = some equation) (isLoaded : IsLoaded tables loaded series) :
    Computes table loaded equation
      ((equationVariables tables loaded series).map Variable.name) := by
  generalize names_eq : (equationVariables tables loaded series).map Variable.name = names
  have named : ∀ name, name ∈ (longestFirst names).map String.toList ↔
      ∃ item ∈ equationVariables tables loaded series, item.name.toList = name := by
    intro name
    rw [← names_eq, List.mem_map]
    simp only [mem_longestFirst, List.mem_map, exists_exists_and_eq_and]
  have proper : ∀ name ∈ names, IsVariableName name.toList := by
    intro name member
    rw [← names_eq] at member
    obtain ⟨item, inItems, rfl⟩ := List.mem_map.1 member
    obtain ⟨entry, inTable, _, found⟩ := exists_keyword_of_mem checked computed inItems
    exact isVariableName_of_found (checked.isSearchable inTable) found
  have translated : ∀ tokens, (∀ token ∈ tokens, token ∈ tokensOf equation.toList) →
      IsTranslation table loaded tokens (rewrittenText names tokens) := by
    intro tokens inside
    refine ⟨_, List.forall₂_map_right_iff.2 (List.forall₂_same.2 fun token member => ?_), rfl⟩
    exact becomes_rewritten checked computed isLoaded named (inside token member)
  have joined := checked.joined
  rcases codeOf_checked checked.findable proper checked.isFinal with
    ⟨noTotal, split, code⟩ | ⟨before, more, inner, after, parts, first, closes, split, code⟩
  · rw [joined] at split code
    refine .whole (fun member => noTotal ?_) split (translated _ fun _ member => member) code
    obtain ⟨token, inTokens, same⟩ := List.mem_map.1 member
    rwa [← same, String.toList_ofList]
  · have closing := eq_append_of_untilClosed closes
    have total : rewrittenText names (before ++ sumValue :: after) =
        rewrittenText names before ++ sumValue ++ rewrittenText names after := by
      have kept : rewritten ((longestFirst names).map String.toList) sumValue = sumValue := by
        refine rewritten_total fun name member => ?_
        obtain ⟨other, inNames, rfl⟩ := List.mem_map.1 member
        exact proper other (mem_longestFirst.1 inNames)
      rw [rewrittenText, List.map_append, List.map_cons, kept, List.flatten_append,
        List.flatten_cons, ← List.append_assoc]
      rfl
    rw [joined] at split code
    rw [total] at code
    rw [List.flatten_append, List.flatten_cons, ← List.append_assoc] at split
    have inside : ∀ token, token ∈ before ∨ token ∈ inner ∨ token ∈ after →
        token ∈ tokensOf equation.toList := by
      intro token
      rw [parts, closing]
      simp only [List.mem_append, List.mem_cons]
      tauto
    refine .total parts first closes split ?_ (translated inner fun token member => ?_)
      (translated before fun token member => ?_) (translated after fun token member => ?_) code
    · rw [← joined, parts, closing]
      simp only [List.flatten_append, List.flatten_cons, List.append_assoc]
      rfl
    · exact inside token (.inr (.inl member))
    · exact inside token (.inl member)
    · exact inside token (.inr (.inr member))

end

/-! ## Charts that were read -/

/-- The equations of charts that were read are checked. -/
theorem isChecked_of_parse {settings : Station.Settings} {units : Station.Units}
    {external : List String} (proper : ProperSensors units external) {text : String}
    {outputs : List Output}
    (parsed : (Definition.parse ⟨settings, .build units external⟩ text).outcome =
      .ok (some outputs))
    {charts : List Chart} (read : ∀ chart ∈ charts, ∃ output ∈ outputs, chart ∈ output.charts)
    {series : Series} (member : series ∈ allSeries charts) :
    ((Tables.build units external).ofRange? series.range).isSome = true ∧
      ∀ equation, series.equation = some equation →
        ∃ table, IsChecked (.build units external) series equation table := by
  obtain ⟨chart, inCharts, inChart⟩ := List.mem_flatMap.1 member
  obtain ⟨output, inOutputs, inOutput⟩ := read chart inCharts
  obtain ⟨plotted, _⟩ := Definition.plotted_of_parse parsed
  have inAll : chart ∈ outputs.flatMap Output.charts :=
    List.mem_flatMap.2 ⟨output, inOutputs, inOutput⟩
  obtain ⟨before, after, split⟩ := List.append_of_mem inChart
  have fits := (plotted chart inAll).consistent.each before series after split
  refine ⟨fits.listed, fun equation computed => ?_⟩
  obtain ⟨table, listed⟩ := Option.isSome_iff_exists.1 fits.listed
  obtain ⟨kind, isOfKind⟩ := fits.kind
  have itself : ∀ defined, evaluate (.chart (spellingIn (.build units external) series.range)
      defined) equation = .ok equation := by
    cases kind with
    | table => rw [isOfKind.1] at computed; cases computed
    | statistic => rw [isOfKind.2.1] at computed; cases computed
    | equation =>
      obtain ⟨_, _, _, _, other, same, itself⟩ := isOfKind
      obtain rfl := Option.some.inj (same.symm.trans computed)
      exact itself
  obtain ⟨tokens, isFinal, _, joined⟩ := exists_final_of_evaluate
    (isSpelling_spellingIn (.build units external) series.range)
    (fun _ member => absurd member List.not_mem_nil) (itself [])
  have again : tokensOf equation.toList = tokens := joined ▸ isFinal.separated.tokensOf_flatten
  refine ⟨table, listed, again ▸ isFinal, ?_, searchable_build proper listed⟩
  rw [again, joined]

/-- The check of equations, the search for their variables and the script of the page
agree on which words of an equation are variables, for every equation of charts that
were read. The page loads a variable for each keyword of the table that is a token of
the equation, and has them in the order of the table. The running total is taken out
as it stands in the tokens, and each token of the parts becomes what it should. -/
theorem equations_agree_on_variables (settings : Station.Settings) (units : Station.Units)
    (external : List String) (proper : ProperSensors units external) (text : String)
    (outputs : List Output)
    (parsed : (Definition.parse ⟨settings, .build units external⟩ text).outcome =
      .ok (some outputs))
    (charts : List Chart) (read : ∀ chart ∈ charts, ∃ output ∈ outputs, chart ∈ output.charts) :
    ∃ loaded, (variablesOf (.build units external) charts).outcome = .ok (some loaded) ∧
      ∀ series ∈ allSeries charts, ∀ equation, series.equation = some equation →
        ∃ table, (Tables.build units external).ofRange? series.range = some table ∧
          List.Forall₂ (fun keyword item => findVariable? loaded keyword.name = some item)
            (table.filter fun keyword => keyword.name ∈ tokenize equation)
            (equationVariables (.build units external) loaded series) ∧
          Computes table loaded equation
            ((equationVariables (.build units external) loaded series).map Variable.name) := by
  have checked : ∀ {series}, series ∈ allSeries charts → _ :=
    fun member => isChecked_of_parse proper parsed read member
  obtain ⟨loaded, outcome, _, isLoaded⟩ := exists_addAllNeeded (fun one member => (checked member).1)
    (plottedVariables charts)
  refine ⟨loaded, outcome, fun series member equation computed => ?_⟩
  obtain ⟨table, isChecked⟩ := (checked member).2 equation computed
  exact ⟨table, isChecked.listed,
    forall₂_equationVariables isChecked computed (isLoaded series member),
    computes_of_checked isChecked computed (isLoaded series member)⟩

/-- A chart of a running total, with keywords that contain each other and a further
sensor. -/
def totalText : String :=
  "Chart A Title T Plot Extra Total
    Eval [ Sum(temp1*2)+Pool*sqrt(TEMP10)/SoilTemp1 ] EndChart"

/-- The equation after the check. -/
def totalEquation : String := "sum(Temp1*2)+Pool*sqrt(Temp10)/SoilTemp1"

/-- The series of the running total. -/
def totalSeries : Series :=
  { keyword := "Total", axes := ⟨16384⟩, axisId := "Free", equation := some totalEquation,
    range := .extra }

/-- The chart that the text is read as. -/
def totalChart : Chart :=
  { id := "A", title := "T", axes := ⟨16384⟩, range := .extra, series := [totalSeries] }

theorem properSensors_pool : ProperSensors Definition.plainUnits ["Pool"] where
  identifiers := by decide
  distinct := by decide
  apart := by decide
  free := by decide
  noSum := by decide

/-- The keywords of the running total are told apart. -/
theorem total_of_nested_keywords_agrees :
    (Definition.parse ⟨Definition.plainSettings, .build Definition.plainUnits ["Pool"]⟩
        totalText).outcome = .ok (some [{ filename := "cumuluscharts.txt", charts := [totalChart] }]) ∧
    ∃ loaded, (variablesOf (.build Definition.plainUnits ["Pool"]) [totalChart]).outcome =
        .ok (some loaded) ∧
      ∃ table, (Tables.build Definition.plainUnits ["Pool"]).ofRange? .extra = some table ∧
        Computes table loaded totalEquation
          ((equationVariables (.build Definition.plainUnits ["Pool"]) loaded totalSeries).map
            Variable.name) := by
  have parsed : (Definition.parse ⟨Definition.plainSettings,
      .build Definition.plainUnits ["Pool"]⟩ totalText).outcome =
      .ok (some [{ filename := "cumuluscharts.txt", charts := [totalChart] }]) := by
    decide +kernel
  obtain ⟨loaded, outcome, each⟩ := equations_agree_on_variables _ _ _ properSensors_pool _ _ parsed
    [totalChart] fun chart member =>
      ⟨_, List.mem_cons_self, member⟩
  obtain ⟨table, listed, _, computes⟩ := each totalSeries List.mem_cons_self totalEquation rfl
  exact ⟨parsed, loaded, outcome, table, listed, computes⟩

end Meteogram.Page
