import Meteogram.Proofs.Ini.ReadBack

/-!
# Changed documents are read back

Setting a text under a key where no section stands leaves a document sound (`Document.IsSound.set`),
and all its entries are kept if the new one is (`Document.IsKept.set`). So the document with all
changes is read back when the entries that were not changed are kept.
-/

set_option autoImplicit false

namespace Meteogram.Ini

/-! ## Sections -/

namespace Section

variable {body : Section} {key text : String} {indent : String} {depth : Nat}

/-- A section inside has its name for itself. -/
theorem IsSound.content?_of_mem (sound : body.IsSound) {name : String} {margin : Margin}
    {content : Content Section} (member : (name, margin, content) ∈ body.children) :
    body.content? name = some content := by
  obtain ⟨_, names, apart⟩ := List.nodup_append.1 sound.distinct
  have inNames : name ∈ body.children.map Prod.fst := List.mem_map.2 ⟨_, member, rfl⟩
  have noSetting : body.settings.find? (fun setting => setting.key == name) = none := by
    rw [List.find?_eq_none]
    intro setting inSettings same
    rw [beq_iff_eq] at same
    exact apart _ (List.mem_map_of_mem inSettings) _ inNames same
  rw [content?_of_noSetting noSetting]
  cases found : body.children.find? fun child => child.1 == name with
  | none => exact absurd (List.find?_eq_none.1 found _ member) (by simp)
  | some child =>
    have same : child.1 = name := by simpa using List.find?_some found
    have unique := List.inj_on_of_nodup_map names (List.mem_of_find?_eq_some found) member same
    rw [unique]
    rfl

/-- A text is set in the place of a text, or behind the other settings. -/
theorem set_cases (sound : body.IsSound)
    (noGroup : ∀ inner, body.content? key ≠ some (.group inner)) (text : String) :
    body.set key text = { body with settings := body.settings.map fun setting =>
        if setting.key == key then { setting with text } else setting } ∨
      body.has key = false ∧ body.set key text = body.withSetting { key, text } := by
  rw [set]
  split
  · exact .inl rfl
  · next noSetting =>
    have noChild : ¬ body.hasChild key = true := by
      intro isChild
      obtain ⟨⟨name, margin, content⟩, member, same⟩ := List.any_eq_true.1 isChild
      obtain ⟨_, inner, isGroup⟩ := sound.groups _ member
      obtain rfl : name = key := by simpa using same
      obtain rfl : content = .group inner := isGroup
      exact noGroup inner (sound.content?_of_mem member)
    rw [if_neg noChild, has, Bool.or_eq_false_iff, ← Bool.not_eq_true, ← Bool.not_eq_true]
    exact .inr ⟨⟨noSetting, noChild⟩, rfl⟩

theorem IsSound.set (sound : body.IsSound)
    (noGroup : ∀ inner, body.content? key ≠ some (.group inner)) (text : String) :
    (body.set key text).IsSound := by
  rcases set_cases sound noGroup text with same | ⟨fresh, same⟩
  · rw [same]
    refine .mk (List.forall_mem_map.2 fun setting member => ?_) sound.groups
      (fun _ _ _ member => sound.inner member) ?_
    · have margin := sound.margins setting member
      split <;> exact margin
    · have keys : (Setting.key ∘ fun setting : Setting =>
          if setting.key == key then { setting with text } else setting) = Setting.key := by
        funext setting
        rw [Function.comp_apply]
        split <;> rfl
      dsimp only
      rw [List.map_map, keys]
      exact sound.distinct
  · rw [same]
    exact sound.addSetting Margin.isSound_empty fresh

theorem isKept_empty (indent : String) (free : List String → Prop) (depth : Nat) :
    ({} : Section).IsKept indent free depth :=
  .mk (fun _ member => (by cases member)) (fun _ member => (by cases member))
    (fun _ _ _ member => (by cases member))

/-- With more free paths a section is kept all the more. -/
theorem IsKept.mono {free wider : List String → Prop} (kept : body.IsKept indent free depth)
    (more : ∀ path, path ≠ [] → free path → wider path) : body.IsKept indent wider depth := by
  induction kept generalizing wider with
  | mk settings heads _ ih =>
    exact .mk (fun setting member notFree => settings setting member
        fun isFree => notFree (more _ (List.cons_ne_nil _ _) isFree)) heads
      fun name margin inner member => ih name margin inner member
        fun path _ isFree => more (name :: path) (List.cons_ne_nil _ _) isFree

/-- The entry under a key is kept once a text is set there that is kept. -/
theorem IsKept.set {free : List String → Prop} (kept : body.IsKept indent free depth)
    (sound : body.IsSound) (noGroup : ∀ inner, body.content? key ≠ some (.group inner))
    (isNew : ∀ margin : Margin, margin.IsSound →
      (⟨key, text, margin⟩ : Setting).IsKept indent depth) :
    (body.set key text).IsKept indent (fun path => free path ∧ path ≠ [key]) depth := by
  cases kept with
  | mk settings heads inner =>
    have inner' : ∀ name margin child, (name, margin, .group child) ∈ body.children →
        child.IsKept indent (fun path => free (name :: path) ∧ name :: path ≠ [key]) (depth + 1) := by
      intro name margin child member
      refine (inner name margin child member).mono fun path notEmpty isFree => ⟨isFree, ?_⟩
      exact fun same => notEmpty (List.cons.inj same).2
    rcases set_cases sound noGroup text with same | ⟨fresh, same⟩
    · rw [same]
      refine .mk (List.forall_mem_map.2 fun setting member notFree => ?_) heads inner'
      split at notFree
      · next isKey =>
        rw [if_pos isKey, beq_iff_eq.1 isKey]
        exact isNew _ (sound.margins setting member)
      · next other =>
        rw [if_neg other]
        refine settings setting member fun isFree => notFree ⟨isFree, ?_⟩
        exact fun same => other (beq_iff_eq.2 (List.cons.inj same).1)
    · rw [same]
      refine .mk (List.forall_mem_append.2 ⟨fun setting member notFree => ?_, ?_⟩) heads inner'
      · refine settings setting member fun isFree => notFree ⟨isFree, fun same => ?_⟩
        rw [has_eq_false_iff, List.mem_append, not_or] at fresh
        exact fresh.1 (List.mem_map.2 ⟨setting, member, (List.cons.inj same).1⟩)
      · rw [List.forall_mem_singleton]
        exact fun _ => isNew {} Margin.isSound_empty

end Section

/-! ## Documents -/

/-- Changes a section and leaves a text. -/
def Content.change (step : Section → Section) : Content Section → Content Section
  | .text found => .text found
  | .group body => .group (step body)

namespace Document

variable {document after : Document} {name key text : String}

/-- No section stands at the key of a setting. -/
def IsFreeAt (document : Document) (name key : String) : Prop :=
  ∀ body, document.body.content? name = some (.group body) →
    ∀ inner, body.content? key ≠ some (.group inner)

/-- What setting a text in a section makes of the sections of a document. -/
theorem body_set (set : document.set name key text = .ok after) :
    after.body = { document.body with children := document.body.children.map fun child =>
        (child.1, child.2.1, child.2.2.change fun body =>
          if child.1 == name then body.set key text else body) } ∨
      document.body.has name = false ∧
        after.body = document.body.withChild name {} (({} : Section).set key text) := by
  rw [Document.set] at set
  split at set
  · obtain ⟨_, _, stopped⟩ := bind_eq_ok.1 set
    cases stopped
  · obtain rfl := Except.ok.inj set
    refine .inl (congrArg (Section.mk _) (List.map_congr_left ?_))
    rintro ⟨other, margin, content⟩ _
    cases content <;> rfl
  · next absent =>
    obtain rfl := Except.ok.inj set
    exact .inr ⟨Section.has_of_content?_eq_none absent, rfl⟩

/-- A document stays sound when a text is set where no section stands. -/
theorem IsSound.set (sound : document.IsSound) (isFree : document.IsFreeAt name key)
    (set : document.set name key text = .ok after) : after.IsSound := by
  rw [set_eq set]
  refine ⟨?_, sound.heading, sound.closing, sound.indent⟩
  rcases body_set set with same | ⟨fresh, same⟩
  · rw [same]
    refine .mk sound.body.margins (List.forall_mem_map.2 fun child member => ?_)
      (fun other margin inner member => ?_) ?_
    · obtain ⟨isSound, body, isGroup⟩ := sound.body.groups child member
      exact ⟨isSound, _, by rw [isGroup]; rfl⟩
    · obtain ⟨⟨other', margin', content⟩, inChildren, same⟩ := List.mem_map.1 member
      obtain ⟨_, body, isGroup⟩ := sound.body.groups _ inChildren
      obtain rfl : content = .group body := isGroup
      have isSound := sound.body.inner inChildren
      cases same
      split
      · next isName =>
        obtain rfl := beq_iff_eq.1 isName
        exact isSound.set (isFree body (sound.body.content?_of_mem inChildren)) text
      · exact isSound
    · dsimp only
      rw [List.map_map]
      exact sound.body.distinct
  · rw [same]
    exact sound.body.addChild Margin.isSound_empty 
      (Section.isSound_empty.set (fun _ none => (by cases none)) text) fresh

/-- The entries of a document are kept when a text is set that is kept, where no section stands. -/
theorem isKept_set {free : List String → Prop} (kept : document.body.IsKept document.indent free 0)
    (sound : document.IsSound) (isFree : document.IsFreeAt name key)
    (set : document.set name key text = .ok after) (isHead : IsKeptHead document.indent 0 name {})
    (isNew : ∀ margin : Margin, margin.IsSound →
      (⟨key, text, margin⟩ : Setting).IsKept document.indent 1) :
    after.body.IsKept document.indent (fun path => free path ∧ path ≠ [name, key]) 0 := by
  cases kept with
  | mk settings heads inner =>
    have settings' : ∀ setting ∈ document.body.settings,
        ¬ (free [setting.key] ∧ [setting.key] ≠ [name, key]) →
          setting.IsKept document.indent 0 := by
      intro setting member notFree
      exact settings setting member fun isFree => notFree ⟨isFree, fun same => by cases same⟩
    rcases body_set set with same | ⟨fresh, same⟩
    · rw [same]
      refine .mk settings' (List.forall_mem_map.2 heads) fun other margin child member => ?_
      obtain ⟨⟨other', margin', content⟩, inChildren, same⟩ := List.mem_map.1 member
      obtain ⟨_, body, isGroup⟩ := sound.body.groups _ inChildren
      obtain rfl : content = .group body := isGroup
      have isKept := inner _ _ _ inChildren
      cases same
      split
      · next isName =>
        obtain rfl := beq_iff_eq.1 isName
        have changed := isKept.set (sound.body.inner inChildren)
          (isFree body (sound.body.content?_of_mem inChildren)) isNew
        refine changed.mono fun path _ isFree => ⟨isFree.1, fun same => isFree.2 ?_⟩
        exact (List.cons.inj same).2
      · next other =>
        refine isKept.mono fun path _ isFree => ⟨isFree, fun same => other ?_⟩
        exact beq_iff_eq.2 (List.cons.inj same).1
    · rw [same]
      refine .mk settings' (List.forall_mem_append.2 ⟨heads, ?_⟩) fun other margin child member => ?_
      · exact List.forall_mem_singleton.2 isHead
      · rcases List.mem_append.1 member with before | last
        · refine (inner _ _ _ before).mono fun path _ isFree => ⟨isFree, fun same => ?_⟩
          rw [Section.has_eq_false_iff, List.mem_append, not_or] at fresh
          obtain rfl : other = name := (List.cons.inj same).1
          exact fresh.2 (List.mem_map.2 ⟨_, before, rfl⟩)
        · cases List.mem_singleton.1 last
          have changed := (Section.isKept_empty document.indent (fun path => free (name :: path)) 1).set
            Section.isSound_empty (fun _ none => (by cases none)) isNew
          refine changed.mono fun path _ isFree => ⟨isFree.1, fun same => isFree.2 ?_⟩
          exact (List.cons.inj same).2

/-- Where no section stands none stands after a text was set, wherever it was. -/
theorem IsFreeAt.set {name' key' : String} (isFree : document.IsFreeAt name' key')
    (set : document.set name key text = .ok after) : after.IsFreeAt name' key' := by
  intro body found inner
  obtain ⟨before, standing, here, others⟩ := content?_set set
  by_cases sameName : name' = name
  · subst sameName
    obtain rfl : before.set key text = body := by
      rw [here] at found
      cases found
      rfl
    by_cases sameKey : key' = key
    · rw [sameKey, Section.content?_set]
      exact fun same => by cases same
    · rw [Section.content?_set_of_ne sameKey]
      rcases standing with standing | ⟨_, rfl⟩
      · exact isFree before standing inner
      · exact fun none => by cases none
  · rw [others name' sameName] at found
    exact isFree body found inner

/-- No text stands below a key where no section stands. -/
theorem IsFreeAt.textAt?_eq_none (isFree : document.IsFreeAt name key) {path : List String}
    (below : [name, key] <+: path) (notHere : path ≠ [name, key]) :
    document.body.textAt? path = none := by
  obtain ⟨rest, rfl⟩ := below
  have notEmpty : rest ≠ [] := by
    rintro rfl
    exact notHere (List.append_nil _)
  rw [List.cons_append, List.cons_append, List.nil_append, Section.textAt?]
  cases outer : document.body.content? name with
  | none => rfl
  | some content =>
    cases content with
    | text found => rfl
    | group body =>
      dsimp only
      rw [Section.textAt?]
      cases inner : body.content? key with
      | none => rfl
      | some content =>
        cases content with
        | text found => exact if_neg (by simpa using notEmpty)
        | group child => exact absurd inner (isFree body outer child)

/-- Only the text at the key is another one. -/
theorem IsFreeAt.textAt?_set (isFree : document.IsFreeAt name key)
    (set : document.set name key text = .ok after) {path : List String}
    (elsewhere : path ≠ [name, key]) : after.body.textAt? path = document.body.textAt? path := by
  by_cases below : [name, key] <+: path
  · rw [isFree.textAt?_eq_none below elsewhere, (isFree.set set).textAt?_eq_none below elsewhere]
  · exact Document.textAt?_set set below

/-- All entries of a document that was read are kept, apart from those at free paths. -/
structure IsWritable (document : Document) (free : List String → Prop) : Prop where
  sound : document.IsSound
  kept : document.body.IsKept document.indent free 0
  lineEnd : IsLineEnd document.lineEnd.toList

/-- Setting a plain text makes its entry one that is kept. -/
theorem IsWritable.set {free : List String → Prop} (writable : document.IsWritable free)
    (isFree : document.IsFreeAt name key) (set : document.set name key text = .ok after)
    (isHead : IsKeptHead document.indent 0 name {}) (plainKey : IsPlainKey key.toList)
    (plainText : IsPlainText text.toList) :
    after.IsWritable (fun path => free path ∧ path ≠ [name, key]) := by
  obtain ⟨sound, kept, lineEnd⟩ := writable
  have same := set_eq set
  refine ⟨sound.set isFree set, ?_, ?_⟩
  · have indent : after.indent = document.indent := by rw [same]
    rw [indent]
    exact isKept_set kept sound isFree set isHead fun margin isSound =>
      Setting.isKept_of_plain sound.indent isSound plainKey plainText
  · rw [same]
    exact lineEnd

end Document

end Meteogram.Ini
