import Meteogram.Ini.Reference
import Meteogram.Station.Settings

/-!
# Texts that are set are read back

A text that was set in a section is what the section has under its key, whatever stood
there before, and a text without a percent sign refers to nothing. So the text is read
back as it is (`siteText_setSite`).
-/

set_option autoImplicit false

namespace Meteogram.Ini

/-! ## Texts without references -/

theorem reference?_of_ne {c : Char} (plain : c ≠ '%') (cs : List Char) :
    reference? (c :: cs) = none := by
  rw [reference?]
  intro _ same
  exact plain (List.cons.inj same).1

/-- The text does not refer to other settings. -/
def HasNoReferences (text : List Char) : Prop :=
  ∀ key, Part.reference key ∉ partsFrom 0 text

theorem partsFrom_of_noReferences {text : List Char} (free : HasNoReferences text) :
    partsFrom 0 text = text.map Part.plain := by
  induction text with
  | nil => rfl
  | cons c cs ih =>
    rw [HasNoReferences, partsFrom] at free
    rw [partsFrom]
    cases found : reference? (c :: cs) with
    | some reference =>
      rw [found] at free
      exact absurd List.mem_cons_self (free reference.1)
    | none =>
      rw [found] at free
      refine congrArg (Part.plain c :: ·) (ih fun key member => ?_)
      exact free key (List.mem_cons_of_mem _ member)

theorem hasNoReferences_of_plain {text : List Char} (plain : '%' ∉ text) :
    HasNoReferences text := by
  induction text with
  | nil => exact fun _ => List.not_mem_nil
  | cons c cs ih =>
    rw [List.mem_cons, not_or] at plain
    rw [HasNoReferences, partsFrom, reference?_of_ne (Ne.symm plain.1)]
    intro key member
    rcases List.mem_cons.1 member with same | inRest
    · cases same
    · exact ih plain.2 key inRest

theorem mapM_plain {step : Part → Except Fault (List Char)} (plain : ∀ c, step (.plain c) = .ok [c])
    (text : List Char) : (text.map Part.plain).mapM step = .ok (text.map fun c => [c]) := by
  induction text with
  | nil => rfl
  | cons c cs ih =>
    rw [List.map_cons, List.mapM_cons, plain, ih]
    rfl

/-- A text without references stands for itself. -/
theorem expand_of_noReferences {file : SettingsFile} {chain : Chain} {fuel : Nat}
    {trail : List (String × Option String)} {text : List Char} (free : HasNoReferences text) :
    expand file chain (fuel + 1) trail text = .ok text := by
  rw [expand, partsFrom_of_noReferences free, mapM_plain fun _ => rfl]
  change Except.ok (text.map fun c => [c]).flatten = _
  rw [← List.flatMap_def, List.flatMap_singleton']

theorem Following.resolve_of_noReferences (following : Following) (chain : Chain) (key : String)
    {text : String} (free : HasNoReferences text.toList) :
    following.resolve chain key text = .ok text := by
  rw [resolve]
  split
  · simp only [expand_of_noReferences free]
    exact congrArg Except.ok String.ofList_toList
  · rfl

/-- A text without a percent sign stands for itself. -/
theorem Following.resolve_of_plain (following : Following) (chain : Chain) (key : String)
    {text : String} (plain : '%' ∉ text.toList) : following.resolve chain key text = .ok text :=
  following.resolve_of_noReferences chain key (hasNoReferences_of_plain plain)

/-! ## Setting and reading -/

/-- A change that keeps what is looked for changes what is found. -/
theorem find?_map_of_keeps {α : Type} {change : α → α} {holds : α → Bool}
    (keeps : ∀ a, holds (change a) = holds a) (list : List α) :
    (list.map change).find? holds = (list.find? holds).map change := by
  rw [List.find?_map]
  congr 2
  funext a
  exact keeps a

theorem exists_find? {α : Type} {holds : α → Bool} {list : List α} (there : list.any holds = true) :
    ∃ a, list.find? holds = some a ∧ holds a = true := by
  obtain ⟨b, member, holds'⟩ := List.any_eq_true.1 there
  obtain ⟨a, found⟩ := Option.isSome_iff_exists.1 (List.find?_isSome.2 ⟨b, member, holds'⟩)
  exact ⟨a, found, List.find?_some found⟩

theorem find?_of_not_any {α : Type} {holds : α → Bool} {list : List α}
    (absent : ¬ list.any holds = true) : list.find? holds = none := by
  rw [List.find?_eq_none]
  exact fun a member holds' => absent (List.any_eq_true.2 ⟨a, member, holds'⟩)

/-- What was set under a key stands there. -/
theorem Section.content?_set (body : Section) (key text : String) :
    (body.set key text).content? key = some (.text text) := by
  rw [set]
  split
  · next isSetting =>
    obtain ⟨setting, found, same⟩ := exists_find? isSetting
    rw [content?, find?_map_of_keeps, found]
    · simp only [Option.map_some, if_pos same]
    · intro setting
      split <;> rfl
  · next noSetting =>
    have absent := find?_of_not_any noSetting
    split
    · next isChild =>
      obtain ⟨⟨name, margin, content⟩, found, same⟩ := exists_find? isChild
      rw [content?, absent]
      dsimp only
      rw [find?_map_of_keeps, found]
      · exact congrArg some (if_pos same)
      · exact fun _ => rfl
    · next noChild =>
      have added : [({ key, text } : Setting)].find? (fun setting => setting.key == key) =
          some { key, text } := List.find?_cons_of_pos (beq_self_eq_true key)
      rw [content?, List.find?_append, absent, Option.none_or, added]

/-- Without a setting of the name, a name stands for a section. -/
theorem Section.content?_of_noSetting {body : Section} {name : String}
    (noSetting : body.settings.find? (fun setting => setting.key == name) = none) :
    body.content? name =
      (body.children.find? fun child => child.1 == name).map fun child => child.2.2 := by
  rw [content?, noSetting]

theorem Section.noSetting_of_content? {body : Section} {name : String}
    (noText : ∀ text, body.content? name ≠ some (.text text)) :
    body.settings.find? (fun setting => setting.key == name) = none := by
  cases found : body.settings.find? fun setting => setting.key == name with
  | none => rfl
  | some setting =>
    refine absurd ?_ (noText setting.text)
    rw [content?, found]

section

variable {body : Section} {name : String} {margin : Margin} {content : Content Section}
  {change : String × Margin × Content Section → String × Margin × Content Section}

/-- A section that is added has its name, if the name was free. -/
theorem Section.content?_append (free : body.content? name = none) :
    ({ body with children := body.children ++ [(name, margin, content)] } : Section).content? name =
      some content := by
  have noSetting := Section.noSetting_of_content? fun text standing => by
    rw [free] at standing
    cases standing
  rw [Section.content?_of_noSetting noSetting, Option.map_eq_none_iff] at free
  rw [Section.content?_of_noSetting]
  · dsimp only
    rw [List.find?_append, free, Option.none_or, List.find?_singleton, beq_self_eq_true,
      if_pos rfl]
    rfl
  · exact noSetting

/-- For any other name nothing changes then. -/
theorem Section.content?_append_of_ne {other : String} (apart : other ≠ name) :
    ({ body with children := body.children ++ [(name, margin, content)] } : Section).content?
        other = body.content? other := by
  have notHere : (name == other) = false := beq_eq_false_iff_ne.2 apart.symm
  rw [Section.content?, Section.content?]
  dsimp only
  rw [List.find?_append, List.find?_singleton, notHere]
  simp only [Bool.false_eq_true, if_false, Option.or_none]

/-- Sections that are changed under their names are found as they are then. -/
theorem Section.content?_map (keeps : ∀ child, (change child).1 = child.1)
    (noSetting : body.settings.find? (fun setting => setting.key == name) = none) :
    ({ body with children := body.children.map change } : Section).content? name =
      (body.children.find? fun child => child.1 == name).map fun child => (change child).2.2 := by
  rw [Section.content?_of_noSetting]
  · dsimp only
    rw [find?_map_of_keeps fun child => congrArg (· == name) (keeps child), Option.map_map]
    rfl
  · exact noSetting

/-- For a name whose sections are left alone nothing changes then. -/
theorem Section.content?_map_of_same (keeps : ∀ child, (change child).1 = child.1)
    (same : ∀ child, child.1 = name → change child = child) :
    ({ body with children := body.children.map change } : Section).content? name =
      body.content? name := by
  cases setting : body.settings.find? fun setting => setting.key == name with
  | some setting' => rw [Section.content?, Section.content?, setting]
  | none =>
    rw [Section.content?_map keeps setting, Section.content?_of_noSetting setting]
    cases child : body.children.find? fun child => child.1 == name with
    | none => rfl
    | some child' =>
      have here := List.find?_some child
      rw [Option.map_some, Option.map_some, same child' (beq_iff_eq.1 here)]

end

/-- A setting that was set stands in its section, which is added if it was not there. All other
sections and settings at the top are as they were. -/
theorem Document.content?_set {document after : Document} {name key text : String}
    (set : document.set name key text = .ok after) :
    ∃ body : Section, (document.body.content? name = some (.group body) ∨
        (document.body.content? name = none ∧ body = {})) ∧
      after.body.content? name = some (.group (body.set key text)) ∧
      ∀ other, other ≠ name → after.body.content? other = document.body.content? other := by
  rw [Document.set] at set
  cases standing : document.body.content? name with
  | none =>
    rw [standing] at set
    obtain rfl := Except.ok.inj set
    exact ⟨{}, .inr ⟨rfl, rfl⟩, Section.content?_append standing,
      fun other apart => Section.content?_append_of_ne apart⟩
  | some content =>
    rw [standing] at set
    cases content with
    | text found =>
      obtain ⟨_, _, stopped⟩ := bind_eq_ok.1 set
      cases stopped
    | group body =>
      obtain rfl := Except.ok.inj set
      have noSetting := Section.noSetting_of_content? fun text isText => by
        rw [standing] at isText
        cases isText
      rw [Section.content?_of_noSetting noSetting, Option.map_eq_some_iff] at standing
      obtain ⟨⟨_, margin, _⟩, child, rfl⟩ := standing
      refine ⟨body, .inl rfl, ?_, fun other apart => ?_⟩
      · rw [Section.content?_map _ noSetting, child]
        · exact congrArg (fun body => some (Content.group body)) (if_pos (List.find?_some child))
        · rintro ⟨other, margin, content⟩
          cases content <;> rfl
      · rw [Section.content?_map_of_same]
        · rintro ⟨other, margin, content⟩
          cases content <;> rfl
        · rintro ⟨here, margin, content⟩ rfl
          cases content with
          | text found => rfl
          | group body =>
            have notName : ¬ (here == name) = true := fun same => apart (beq_iff_eq.1 same)
            exact congrArg (fun body => (here, margin, Content.group body)) (if_neg notName)

theorem Document.get_set {document after : Document} {name key text : String} {standard : Value}
    (set : document.set name key text = .ok after) (plain : '%' ∉ text.toList)
    (notEmpty : text ≠ "") : after.get name key standard = .ok (.text text) := by
  obtain ⟨body, _, found, _⟩ := content?_set set
  have value : after.valueOf ((some name, body.set key text) :: after.top) key (.text text) =
      .ok (.text text) := by
    rw [valueOf, Following.resolve_of_plain _ _ _ plain]
    rfl
  rw [get, found]
  dsimp only
  rw [Section.content?_set]
  dsimp only
  rw [value]
  dsimp only [bind, Except.bind]
  split
  · next same => exact absurd (Value.text.inj same) notEmpty
  · rfl

end Meteogram.Ini

namespace Meteogram.Station.Settings

/-- Settings that are built have the document of the site, and units with the list of those of soil
moisture that stands there. -/
theorem steps_of_build {site station records : Ini.Document} {settings : Settings}
    (built : (Settings.build site station records).outcome = .ok settings) :
    settings.site = { site with file := .site } ∧ ∃ list choice,
      ({ site with file := .site } : Ini.Document).get "Compiler" "SoilMoistureUnits" (.text "") =
        .ok (.text list) ∧
      choice.soilMoisture = soilMoistureUnits list ∧
      (Units.build choice).outcome = .ok settings.units := by
  obtain ⟨_, _, built⟩ := Report.outcome_bind_eq_ok_iff.1 built
  obtain ⟨_, found, built⟩ := Report.outcome_bind_eq_ok_iff.1 built
  obtain ⟨_, _, built⟩ := Report.outcome_bind_eq_ok_iff.1 built
  obtain ⟨_, _, built⟩ := Report.outcome_bind_eq_ok_iff.1 built
  obtain ⟨_, _, built⟩ := Report.outcome_bind_eq_ok_iff.1 built
  obtain ⟨_, _, built⟩ := Report.outcome_bind_eq_ok_iff.1 built
  obtain ⟨_, _, built⟩ := Report.outcome_bind_eq_ok_iff.1 built
  dsimp only at built
  split at built
  · obtain ⟨_, same, built⟩ := Report.outcome_bind_eq_ok_iff.1 built
    obtain ⟨units, made, built⟩ := Report.outcome_bind_eq_ok_iff.1 built
    rw [← Except.ok.inj built]
    cases Except.ok.inj same
    exact ⟨rfl, _, _, found, rfl, made⟩
  · obtain ⟨_, stopped, _⟩ := Report.outcome_bind_eq_ok_iff.1 built
    cases stopped

/-- A text that was set in the settings of the site is read back. -/
theorem siteText_setSite {settings after : Settings} {name key text : String}
    (set : settings.setSite name key text = .ok after) (plain : '%' ∉ text.toList)
    (notEmpty : text ≠ "") : after.siteText name key = .ok text := by
  obtain ⟨site, changed, same⟩ := bind_eq_ok.1 set
  obtain rfl := Except.ok.inj same
  rw [siteText]
  dsimp only
  rw [Ini.Document.get_set changed plain notEmpty]
  rfl

/-- Setting a text for the site leaves the settings of the station. -/
theorem station_setSite {settings after : Settings} {name key text : String}
    (set : settings.setSite name key text = .ok after) : after.station = settings.station := by
  obtain ⟨site, _, same⟩ := bind_eq_ok.1 set
  obtain rfl := Except.ok.inj same
  rfl

end Meteogram.Station.Settings
