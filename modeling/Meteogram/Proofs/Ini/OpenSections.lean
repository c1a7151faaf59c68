import Meteogram.Proofs.Ini.Items
import Meteogram.Proofs.Ini.Paths

/-!
# Sections that are read into open sections

While the entries of a section are read, further sections may be open inside it. Once they are
closed the section has the entries that were read (`Stack.HasRead`), whatever comments stand around
them: a section and its comments are taken apart by `Section.bare`.
-/

set_option autoImplicit false

namespace Meteogram.Ini

/-! ## Sections without comments -/

/-- The setting without its comments. -/
def Setting.bare (setting : Setting) : Setting :=
  { setting with margin := {} }

/-- The section without its comments and those inside it. -/
def Section.bare (body : Section) : Section :=
  match body with
  | ⟨settings, children⟩ =>
    { settings := settings.map Setting.bare
      children := children.attach.map fun ⟨(name, _, content), _member⟩ =>
        match content with
        | .text text => (name, {}, .text text)
        | .group child => (name, {}, .group child.bare) }
termination_by body
decreasing_by
  have smaller := Section.sizeOf_lt_of_mem _member
  simp only [Section.mk.sizeOf_spec]
  omega

/-- What a name stands for, without comments. -/
def Content.bare : Content Section → Content Section
  | .text found => .text found
  | .group child => .group child.bare

namespace Section

variable {body other : Section} {name : String}

theorem bare_eq (body : Section) : body.bare =
    ⟨body.settings.map Setting.bare,
      body.children.map fun child => (child.1, {}, child.2.2.bare)⟩ := by
  obtain ⟨settings, children⟩ := body
  rw [bare]
  congr 1
  rw [← List.attach_map_subtype_val children, List.map_map, List.attach_map_subtype_val]
  refine List.map_congr_left ?_
  rintro ⟨⟨name, margin, content⟩, member⟩ _
  cases content <;> rfl

theorem has_bare (body : Section) (name : String) : body.bare.has name = body.has name := by
  rw [bare_eq, has, has, hasSetting, hasSetting, hasChild, hasChild, List.any_map, List.any_map]
  rfl

theorem content?_bare (body : Section) (name : String) :
    body.bare.content? name = (body.content? name).map Content.bare := by
  rw [bare_eq, content?, content?, List.find?_map]
  have same : (fun setting : Setting => setting.key == name) ∘ Setting.bare =
      fun setting => setting.key == name := rfl
  rw [same]
  cases body.settings.find? fun setting => setting.key == name with
  | some setting => rfl
  | none =>
    dsimp only [Option.map_none]
    rw [List.find?_map, Option.map_map, Option.map_map]
    rfl

/-- Sections that differ in their comments have the same texts. -/
theorem textAt?_bare (body : Section) (path : List String) :
    body.bare.textAt? path = body.textAt? path := by
  induction path generalizing body with
  | nil => rfl
  | cons name path ih =>
    rw [textAt?, textAt?, content?_bare]
    cases body.content? name with
    | none => rfl
    | some content =>
      cases content with
      | text text => rfl
      | group inner => exact ih inner

theorem textAt?_congr (same : body.bare = other.bare) (path : List String) :
    body.textAt? path = other.textAt? path := by
  rw [← textAt?_bare body, same, textAt?_bare]

theorem has_congr (same : body.bare = other.bare) : body.has name = other.has name := by
  rw [← has_bare body, same, has_bare]

/-- The section with one more setting. -/
def withSetting (body : Section) (setting : Setting) : Section :=
  { body with settings := body.settings ++ [setting] }

/-- The section with one more section inside. -/
def withChild (body : Section) (name : String) (margin : Margin) (inner : Section) : Section :=
  { body with children := body.children ++ [(name, margin, .group inner)] }

theorem has_withSetting_of_ne {setting : Setting} (apart : name ≠ setting.key)
    (fresh : body.has name = false) : (body.withSetting setting).has name = false := by
  rw [has, hasSetting, hasChild, Bool.or_eq_false_iff] at fresh ⊢
  rw [withSetting, List.any_append, fresh.1]
  exact ⟨by simpa using Ne.symm apart, fresh.2⟩

theorem has_withChild_of_ne {margin : Margin} {inner : Section} {key : String} (apart : key ≠ name)
    (fresh : body.has key = false) : (body.withChild name margin inner).has key = false := by
  rw [has, hasSetting, hasChild, Bool.or_eq_false_iff] at fresh ⊢
  rw [withChild, List.any_append, fresh.2]
  exact ⟨fresh.1, by simpa using Ne.symm apart⟩

theorem bare_withSetting_congr (same : body.bare = other.bare) {setting setting' : Setting}
    (same' : setting.bare = setting'.bare) :
    (body.withSetting setting).bare = (other.withSetting setting').bare := by
  rw [bare_eq, bare_eq other, mk.injEq] at same
  rw [bare_eq, bare_eq (other.withSetting _), withSetting, withSetting]
  dsimp only
  rw [List.map_append, List.map_append, same.1, same.2, List.map_singleton, same']
  rfl

theorem bare_withChild_congr (same : body.bare = other.bare) {inner inner' : Section}
    (same' : inner.bare = inner'.bare) (margin margin' : Margin) :
    (body.withChild name margin inner).bare = (other.withChild name margin' inner').bare := by
  rw [bare_eq, bare_eq other, mk.injEq] at same
  rw [bare_eq, bare_eq (other.withChild _ _ _), withChild, withChild]
  dsimp only
  rw [List.map_append, List.map_append, same.1, same.2, List.map_singleton, List.map_singleton,
    Content.bare, Content.bare, same']

end Section

/-! ## Open sections -/

namespace Stack

variable {stack base next : Stack} {body : Section}

theorem current_withCurrent (stack : Stack) (body : Section) :
    (stack.withCurrent body).current = body := by
  obtain ⟨frames, top⟩ := stack
  cases frames <;> rfl

theorem withCurrent_current (stack : Stack) : stack.withCurrent stack.current = stack := by
  obtain ⟨frames, top⟩ := stack
  cases frames <;> rfl

theorem withCurrent_withCurrent (stack : Stack) (body other : Section) :
    (stack.withCurrent body).withCurrent other = stack.withCurrent other := by
  obtain ⟨frames, top⟩ := stack
  cases frames <;> rfl

theorem length_withCurrent (stack : Stack) (body : Section) :
    (stack.withCurrent body).frames.length = stack.frames.length := by
  obtain ⟨frames, top⟩ := stack
  cases frames <;> rfl

theorem close_of_nil {top : Section} (count : Nat) : close count ⟨[], top⟩ = ⟨[], top⟩ := by
  cases count <;> rfl

theorem close_add (first second : Nat) (stack : Stack) :
    stack.close (first + second) = (stack.close first).close second := by
  induction first generalizing stack with
  | zero => rw [Nat.zero_add, close]
  | succ first ih =>
    rw [Nat.succ_add]
    obtain ⟨frames, top⟩ := stack
    cases frames with
    | nil => rw [close_of_nil, close_of_nil, close_of_nil]
    | cons frame outer => exact ih _

theorem close_one (outer : Stack) (frame : Frame) (inner : Section) :
    close 1 (withCurrent ⟨frame :: outer.frames, outer.top⟩ inner) =
      outer.withCurrent (outer.current.withChild frame.name frame.margin inner) := by
  rfl

/-- Once the sections inside are closed, the stack is `base`, and its innermost section has been
read but for comments. -/
structure HasRead (stack base : Stack) (body : Section) : Prop where
  deep : base.frames.length ≤ stack.frames.length
  closed : ∃ read : Section, read.bare = body.bare ∧
    stack.close (stack.frames.length - base.frames.length) = base.withCurrent read

/-- Nothing has been read yet. -/
theorem hasRead_empty (empty : base.current = {}) : base.HasRead base {} := by
  refine ⟨Nat.le_refl _, {}, rfl, ?_⟩
  rw [Nat.sub_self, close, ← empty, withCurrent_current]

/-- A setting is read into the section itself as long as no section inside has been. -/
theorem HasRead.add (read : stack.HasRead base body)
    (level : stack.frames.length = base.frames.length) {setting setting' : Setting}
    (same : setting'.bare = setting.bare) (fresh : body.has setting.key = false) :
    ∃ next, stack.add? setting' = some next ∧ next.HasRead base (body.withSetting setting) ∧
      next.frames.length = base.frames.length := by
  obtain ⟨found, isBare, closed⟩ := read.closed
  rw [level, Nat.sub_self, close] at closed
  have sameKey : setting'.bare.key = setting.bare.key := congrArg Setting.key same
  change setting'.key = setting.key at sameKey
  have level' : (base.withCurrent (found.withSetting setting')).frames.length = base.frames.length :=
    length_withCurrent _ _
  refine ⟨base.withCurrent (found.withSetting setting'), ?_, ⟨Nat.le_of_eq level'.symm,
    found.withSetting setting', ?_, ?_⟩, level'⟩
  · rw [add?, closed, current_withCurrent, sameKey, Section.has_congr isBare, fresh,
      withCurrent_withCurrent]
    rfl
  · exact Section.bare_withSetting_congr isBare same
  · rw [level', Nat.sub_self, close]

/-- The head of a section closes those in front of it. What is read then is read into the new
section. -/
theorem HasRead.openAt (read : stack.HasRead base body) {name : String}
    (fresh : body.has name = false) (margin margin' : Margin) :
    ∃ opened, stack.openAt? (base.frames.length + 1) name margin = some opened ∧
      opened.frames.length = base.frames.length + 1 ∧ opened.current = {} ∧
      ∀ {next : Stack} {inner : Section}, next.HasRead opened inner →
        next.HasRead base (body.withChild name margin' inner) := by
  obtain ⟨found, isBare, closed⟩ := read.closed
  have deep : ¬ stack.frames.length + 1 < base.frames.length + 1 := by
    have := read.deep
    omega
  let outer := base.withCurrent found
  have length : outer.frames.length = base.frames.length := length_withCurrent _ _
  refine ⟨{ outer with frames := { name, margin } :: outer.frames }, ?_, congrArg (· + 1) length, rfl,
    fun {next inner} inside => ?_⟩
  · rw [openAt?, if_neg deep, Nat.add_sub_add_right, closed]
    dsimp only
    rw [current_withCurrent, Section.has_congr isBare, fresh, if_neg Bool.false_ne_true]
  · obtain ⟨found', isBare', closed'⟩ := inside.closed
    have deep' : base.frames.length + 1 ≤ next.frames.length := length ▸ inside.deep
    have oneMore : next.frames.length - base.frames.length =
        next.frames.length - (outer.frames.length + 1) + 1 := by
      omega
    refine ⟨by omega, found.withChild name margin found',
      Section.bare_withChild_congr isBare isBare' margin margin', ?_⟩
    rw [oneMore, close_add]
    refine (congrArg (close 1) closed').trans ?_
    rw [close_one, withCurrent_withCurrent, current_withCurrent]

end Stack

/-! ## Reading entries -/

namespace Reading

variable {reading : Reading} {base : Stack} {body : Section}

/-- Comments leave the open sections. -/
theorem exists_addComments (reading : Reading) (comments : List (List Char)) :
    ∃ next, (comments.map Item.comment).foldlM add? reading = some next ∧
      next.stack = reading.stack := by
  induction comments generalizing reading with
  | nil => exact ⟨reading, rfl, rfl⟩
  | cons line comments ih =>
    rw [List.map_cons, List.foldlM_cons]
    exact ih (reading.addComment line)

theorem stack_begin (reading : Reading) (indent : List Char) :
    (reading.begin indent).stack = reading.stack := by
  rw [Reading.begin]
  split <;> rfl

/-- Reads a setting below comments. -/
theorem exists_addSetting (comments : List (List Char)) (read : reading.stack.HasRead base body)
    (level : reading.stack.frames.length = base.frames.length) {setting : Setting}
    (fresh : body.has setting.key = false) {assignment : Assignment} {text : List Char}
    (beside : List Char) (sameKey : String.ofList assignment.key = setting.key)
    (sameText : String.ofList text = setting.text) :
    ∃ next, (comments.map Item.comment ++ [Item.setting assignment text beside]).foldlM add? reading =
        some next ∧
      next.stack.HasRead base (body.withSetting setting) ∧
      next.stack.frames.length = base.frames.length := by
  obtain ⟨below, added, kept⟩ := exists_addComments reading comments
  have same : (⟨String.ofList assignment.key, String.ofList text,
      ⟨(below.begin assignment.indent).comments, String.ofList beside⟩⟩ : Setting).bare =
      setting.bare := by
    rw [Setting.bare, Setting.bare, sameKey, sameText]
  rw [← kept] at read level
  obtain ⟨stack, isNext, read', level'⟩ := read.add level same fresh
  rw [List.foldlM_append, added]
  refine ⟨{ below.begin assignment.indent with stack, comments := [] }, ?_, read', level'⟩
  change (below.addSetting? assignment text beside).bind some = _
  rw [Option.bind_fun_some, addSetting?, stack_begin, isNext]
  rfl

/-- Reads a head below comments. -/
theorem exists_addHead (comments : List (List Char)) (read : reading.stack.HasRead base body)
    {name : String} (fresh : body.has name = false) {head : Head} (opened : head.opened = base.frames.length + 1)
    (closed : head.closed = base.frames.length + 1) (sameName : String.ofList head.name = name)
    (margin : Margin) :
    ∃ next, (comments.map Item.comment ++ [Item.head head]).foldlM add? reading = some next ∧
      next.stack.frames.length = base.frames.length + 1 ∧ next.stack.current = ({} : Section) ∧
      ∀ {stack : Stack} {inner : Section}, stack.HasRead next.stack inner →
        stack.HasRead base (body.withChild name margin inner) := by
  obtain ⟨below, added, kept⟩ := exists_addComments reading comments
  rw [← kept] at read
  obtain ⟨stack, isNext, length, empty, inside⟩ := read.openAt fresh
    ⟨(below.begin head.indent).comments, String.ofList head.comment⟩ margin
  rw [List.foldlM_append, added]
  refine ⟨{ below.begin head.indent with stack, comments := [] }, ?_, length, empty, inside⟩
  change (below.addHead? head).bind some = _
  rw [Option.bind_fun_some, addHead?, if_pos (opened.trans closed.symm)]
  dsimp only
  rw [stack_begin, opened, sameName, isNext]
  rfl

end Reading

end Meteogram.Ini
