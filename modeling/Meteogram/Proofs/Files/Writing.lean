import Meteogram.Files

/-!
# Written files are read back

A name leads to a path where a file is or can be made (`Place.target?`). Writing a file
makes no directory and takes none away, so the paths that names lead to stay
(`target?_locate_put`), and with them the contents of all other files. Two plain names in
one directory lead to two paths.
-/

set_option autoImplicit false

namespace Meteogram

open Text

/-! ## Association lists -/

section

variable {α β : Type} [BEq α] [LawfulBEq α]

/-- Another value for a key is found under the key if it was there, and nothing else
changes. -/
theorem lookup_replace (entries : List (α × β)) (key : α) (value : β) (other : α) :
    (entries.map fun entry => if entry.1 == key then (key, value) else entry).lookup other =
      if other == key then (entries.lookup key).map fun _ => value else entries.lookup other := by
  induction entries with
  | nil => split <;> rfl
  | cons entry rest ih =>
    obtain ⟨name, content⟩ := entry
    rw [List.map_cons]
    by_cases here : name = key
    · subst here
      simp only [beq_self_eq_true, if_true, List.lookup_cons, Option.map_some]
      cases same : other == name with
      | true => rfl
      | false =>
        rw [ih, same]
        rfl
    · have apart : (name == key) = false := beq_eq_false_iff_ne.2 here
      simp only [apart, Bool.false_eq_true, if_false, List.lookup_cons,
        BEq.comm (a := key) (b := name)]
      cases same : other == name with
      | true =>
        obtain rfl := eq_of_beq same
        simp [apart]
      | false => exact ih

omit [LawfulBEq α] in
/-- What is added behind the entries is found under its key if nothing stands there. -/
theorem lookup_concat (entries : List (α × β)) (key : α) (value : β) (other : α) :
    (entries ++ [(key, value)]).lookup other =
      (entries.lookup other).or (if other == key then some value else none) := by
  rw [List.lookup_append, List.lookup_cons, List.lookup_nil]
  cases other == key <;> rfl

end

/-! ## Where names lead -/

/-- The path of a file that is there or can be made. -/
def Place.target? : Place → Option Path
  | .file path _ | .vacant path => some path
  | .directory _ | .noDirectory _ | .nowhere _ => none

/-- The name is no way to a directory, and has no slash in it. -/
structure IsPlainName (name : String) : Prop where
  notEmpty : name ≠ ""
  notHere : name ≠ "."
  notBack : name ≠ ".."
  noSlash : '/' ∉ name.toList

namespace Files

variable {files : Files} {place path : Path} {bytes : ByteArray}

/-- The path is one of a file that is there or can be made: there is a directory for
it, and it is none itself. -/
structure IsLeaf (files : Files) (path : Path) : Prop where
  directory : files.isDirectory path.dropLast = true
  noDirectory : files.isDirectory path = false

theorem isDirectory_of_prefix {outer : Path} (isPrefix : outer <+: path)
    (directory : files.isDirectory path = true) : files.isDirectory outer = true := by
  simp only [isDirectory, Bool.or_eq_true, List.any_eq_true, List.isPrefixOf_iff_prefix]
    at directory ⊢
  rcases directory with (here | ⟨other, member, inside⟩) | ⟨entry, member, inside⟩
  · exact .inl (.inl (isPrefix.trans here))
  · exact .inl (.inr ⟨other, member, isPrefix.trans inside⟩)
  · exact .inr ⟨entry, member, isPrefix.trans inside⟩

/-- What stands at the end of a name is a leaf if a file is or can be made there. -/
theorem target?_stopAt {part : String} {rest : List String} {target : Path}
    (found : (files.stopAt path part rest).target? = some target) :
    rest = [] ∧ target = path ∧
      files.stopAt path part rest =
        match files.file? path with
        | some bytes => .file path bytes
        | none => .vacant path := by
  cases rest with
  | cons next rest =>
    rw [stopAt] at found
    split at found <;> cases found
  | nil =>
    rw [stopAt] at found ⊢
    split at found
    · cases found
    · next short =>
      rw [if_neg short]
      cases content : files.file? path with
      | none =>
        rw [content] at found
        exact ⟨rfl, (Option.some.inj found).symm, rfl⟩
      | some bytes =>
        rw [content] at found
        exact ⟨rfl, (Option.some.inj found).symm, rfl⟩

theorem isDirectory_dropLast (directory : files.isDirectory place = true) :
    files.isDirectory place.dropLast = true :=
  isDirectory_of_prefix (List.dropLast_prefix place) directory

/-- From a directory, names lead to leaves, and the contents of the path decide whether a
file is there. -/
theorem target?_follow {parts : List String} {target : Path}
    (directory : files.isDirectory place = true)
    (found : (files.follow place parts).target? = some target) :
    files.IsLeaf target ∧
      files.follow place parts =
        match files.file? target with
        | some bytes => .file target bytes
        | none => .vacant target := by
  induction parts generalizing place with
  | nil => cases found
  | cons part parts ih =>
    rw [follow] at found ⊢
    split at found
    · next stays =>
      rw [if_pos stays]
      exact ih directory found
    · next moves =>
      rw [if_neg moves]
      split at found
      · next back =>
        rw [if_pos back]
        exact ih (isDirectory_dropLast directory) found
      · next forward =>
        rw [if_neg forward]
        dsimp only at found ⊢
        split at found
        · next inner =>
          rw [if_pos inner]
          exact ih inner found
        · next leaf =>
          rw [if_neg leaf]
          obtain ⟨_, rfl, same⟩ := target?_stopAt found
          refine ⟨⟨?_, Bool.eq_false_iff.2 leaf⟩, same⟩
          rwa [List.dropLast_concat]

theorem isDirectory_startOf (files : Files) (name : String) :
    files.isDirectory (files.startOf name) = true := by
  simp only [isDirectory, Bool.or_eq_true, List.isPrefixOf_iff_prefix, startOf]
  refine .inl (.inl ?_)
  split
  · exact List.nil_prefix
  · exact List.prefix_rfl

/-- A name that leads to a path is followed part by part. -/
theorem locate_eq_follow {name : String} {target : Path}
    (found : (files.locate name).target? = some target) :
    files.locate name = files.follow (files.startOf name) (nameParts name) := by
  rw [locate] at found ⊢
  split at found
  · cases found
  · next notEmpty =>
    rw [if_neg notEmpty]
    split at found
    · cases found
    · next noNull =>
      rw [if_neg noNull]
      split at found
      · cases found
      · next short => rw [if_neg short]

theorem target?_locate {name : String} {target : Path}
    (found : (files.locate name).target? = some target) :
    files.IsLeaf target ∧
      files.locate name =
        match files.file? target with
        | some bytes => .file target bytes
        | none => .vacant target := by
  have followed := locate_eq_follow found
  rw [followed] at found ⊢
  exact target?_follow (isDirectory_startOf files name) found

/-- The file of a name is read where the name leads to. -/
theorem read_of_target? {name : String} {target : Path}
    (found : (files.locate name).target? = some target) (content : files.file? target = some bytes) :
    files.read name = .ok bytes := by
  obtain ⟨_, same⟩ := target?_locate found
  rw [content] at same
  rw [read, same]

/-! ## Putting a file somewhere -/

/-- Putting a file where one is or can be made changes no directory. -/
theorem isDirectory_put (leaf : files.IsLeaf path) (bytes : ByteArray) (other : Path) :
    (files.put path bytes).isDirectory other = files.isDirectory other := by
  rw [put]
  split
  · have same : ((files.contents.map fun entry => if entry.1 = path then (path, bytes) else entry).any
        fun entry => other.isPrefixOf entry.1.dropLast) =
        files.contents.any fun entry => other.isPrefixOf entry.1.dropLast := by
      rw [List.any_map]
      congr 1
      funext entry
      dsimp only [Function.comp]
      split
      · next here => rw [here]
      · rfl
    rw [isDirectory, same]
    rfl
  · have within : other.isPrefixOf path.dropLast = true → files.isDirectory other = true := fun inner =>
      isDirectory_of_prefix (List.isPrefixOf_iff_prefix.1 inner) leaf.directory
    rw [isDirectory, List.any_append, List.any_cons, List.any_nil, Bool.or_false, ← Bool.or_assoc]
    change (files.isDirectory other || other.isPrefixOf path.dropLast) = files.isDirectory other
    rw [Bool.or_eq_left_iff_imp]
    exact within

theorem file?_put (files : Files) (path : Path) (bytes : ByteArray) (other : Path) :
    (files.put path bytes).file? other =
      if other = path then some bytes else files.file? other := by
  rw [put]
  split
  · next there =>
    have replaced := lookup_replace files.contents path bytes other
    simp only [beq_iff_eq] at replaced
    rw [file?, replaced]
    split
    · obtain ⟨before, found⟩ := Option.isSome_iff_exists.1 there
      rw [file?] at found
      rw [found]
      rfl
    · rfl
  · next vacant =>
    rw [file?, lookup_concat]
    simp only [beq_iff_eq]
    split
    · next here =>
      subst here
      rw [Option.not_isSome_iff_eq_none, file?] at vacant
      rw [vacant]
      rfl
    · rw [Option.or_none]
      rfl

/-- Putting a file somewhere leaves all names where they lead to. -/
theorem target?_follow_put (leaf : files.IsLeaf path) (bytes : ByteArray) (parts : List String)
    (place : Path) :
    ((files.put path bytes).follow place parts).target? = (files.follow place parts).target? := by
  have stop : ∀ (part : String) (rest : List String) (here : Path),
      ((files.put path bytes).stopAt here part rest).target? =
        (files.stopAt here part rest).target? := by
    intro part rest here
    cases rest with
    | cons next rest =>
      rw [stopAt, stopAt]
      split <;> rfl
    | nil =>
      rw [stopAt, stopAt]
      split
      · rfl
      · cases (files.put path bytes).file? here <;> cases files.file? here <;> rfl
  induction parts generalizing place with
  | nil => rfl
  | cons part parts ih =>
    rw [follow, follow]
    split
    · exact ih place
    · split
      · exact ih _
      · dsimp only
        rw [isDirectory_put leaf]
        split
        · exact ih _
        · exact stop part parts _

theorem target?_locate_put (leaf : files.IsLeaf path) (bytes : ByteArray) (name : String) :
    ((files.put path bytes).locate name).target? = (files.locate name).target? := by
  have start : (files.put path bytes).startOf name = files.startOf name := by
    have here : (files.put path bytes).here = files.here := by
      rw [put]
      split <;> rfl
    rw [startOf, startOf, here]
  rw [locate, locate, start]
  split
  · rfl
  · split
    · rfl
    · split
      · rfl
      · exact target?_follow_put leaf bytes _ _

/-! ## Writing -/

/-- What is written under a name is put where the name leads to. -/
theorem target?_of_write {after : Files} {name : String} (written : files.write name bytes = .ok after) :
    ∃ target, (files.locate name).target? = some target ∧ after = files.put target bytes := by
  rw [write] at written
  cases place : files.locate name with
  | file path before =>
    rw [place] at written
    exact ⟨path, rfl, (Except.ok.inj written).symm⟩
  | vacant path =>
    rw [place] at written
    exact ⟨path, rfl, (Except.ok.inj written).symm⟩
  | directory path =>
    rw [place] at written
    cases written
  | noDirectory fault =>
    rw [place] at written
    cases written
  | nowhere fault =>
    rw [place] at written
    cases written

/-- A file is written under a name exactly if the name leads to a place for one. -/
theorem exists_write_iff {name : String} : (∃ after, files.write name bytes = .ok after) ↔
    ((files.locate name).target?).isSome = true := by
  rw [write]
  cases files.locate name with
  | file path before => exact ⟨fun _ => rfl, fun _ => ⟨_, rfl⟩⟩
  | vacant path => exact ⟨fun _ => rfl, fun _ => ⟨_, rfl⟩⟩
  | directory path => exact ⟨fun ⟨_, wrote⟩ => (by cases wrote), fun leads => (by cases leads)⟩
  | noDirectory fault => exact ⟨fun ⟨_, wrote⟩ => (by cases wrote), fun leads => (by cases leads)⟩
  | nowhere fault => exact ⟨fun ⟨_, wrote⟩ => (by cases wrote), fun leads => (by cases leads)⟩

/-- Only the file where the name leads to has other contents. -/
theorem file?_write {after : Files} {name : String} (written : files.write name bytes = .ok after)
    (path : Path) : after.file? path =
      if (files.locate name).target? = some path then some bytes else files.file? path := by
  obtain ⟨target, found, rfl⟩ := target?_of_write written
  rw [file?_put, found]
  by_cases here : path = target
  · rw [if_pos here, if_pos (congrArg some here.symm)]
  · rw [if_neg here, if_neg fun same => here (Option.some.inj same).symm]

/-- A file that is written is read back. -/
theorem read_write {after : Files} {name : String} (written : files.write name bytes = .ok after) :
    after.read name = .ok bytes := by
  obtain ⟨target, found, rfl⟩ := target?_of_write written
  obtain ⟨leaf, _⟩ := target?_locate found
  have leads : ((files.put target bytes).locate name).target? = some target :=
    (target?_locate_put leaf bytes name).trans found
  exact read_of_target? leads (by rw [file?_put, if_pos rfl])

/-- A name still leads where it led before a file was written. -/
theorem target?_write {after : Files} {name : String} (written : files.write name bytes = .ok after)
    (other : String) : (after.locate other).target? = (files.locate other).target? := by
  obtain ⟨target, found, rfl⟩ := target?_of_write written
  exact target?_locate_put (target?_locate found).1 bytes other

/-- A file that can be read stands where its name leads to. -/
theorem target?_of_read {name : String} (found : files.read name = .ok bytes) :
    ∃ target, (files.locate name).target? = some target ∧ files.file? target = some bytes := by
  rw [read] at found
  cases place : files.locate name with
  | file path before =>
    rw [place] at found
    obtain rfl := Except.ok.inj found
    have leads : (files.locate name).target? = some path := by rw [place]; rfl
    obtain ⟨_, same⟩ := target?_locate leads
    rw [place] at same
    refine ⟨path, rfl, ?_⟩
    cases content : files.file? path with
    | none =>
      rw [content] at same
      cases same
    | some bytes =>
      rw [content] at same
      cases same
      rfl
  | directory path =>
    rw [place] at found
    cases found
  | vacant path =>
    rw [place] at found
    cases found
  | noDirectory fault =>
    rw [place] at found
    cases found
  | nowhere fault =>
    rw [place] at found
    cases found

end Files

/-! ## Plain names -/

theorem nameParts_of_plain {name : String} (plain : IsPlainName name) : nameParts name = [name] := by
  rw [nameParts, splitFields, fieldsOf_of_not_mem plain.noSlash, List.map_singleton,
    String.ofList_toList]

/-- The last part of the name of a file in a directory is the plain name of the file. -/
theorem nameParts_joinName (directory : String) {name : String} (plain : IsPlainName name) :
    ∃ outer, nameParts (joinName directory name) = outer ++ [name] := by
  have behind : ∀ before : List Char, ∃ outer,
      nameParts (String.ofList (before ++ '/' :: name.toList)) = outer ++ [name] := by
    intro before
    rw [nameParts, splitFields, String.toList_ofList, fieldsOf_append, List.map_append]
    exact ⟨_, congrArg _ (nameParts_of_plain plain)⟩
  rw [joinName]
  split
  · exact ⟨[], nameParts_of_plain plain⟩
  · split
    · next ends =>
      obtain ⟨before, split⟩ := List.getLast?_eq_some_iff.1 (eq_of_beq ends)
      obtain ⟨outer, parts⟩ := behind before
      refine ⟨outer, ?_⟩
      rw [← parts]
      congr 1
      apply String.toList_injective
      rw [String.toList_append, String.toList_ofList, split, List.append_assoc]
      rfl
    · obtain ⟨outer, parts⟩ := behind directory.toList
      refine ⟨outer, ?_⟩
      rw [← parts]
      congr 1
      apply String.toList_injective
      simp

namespace Files

variable {files : Files} {place : Path}

/-- A name with a plain last part leads to a path that ends in this part. -/
theorem getLast?_of_target?_follow {name : String} (plain : IsPlainName name) {outer : List String}
    {target : Path} (found : (files.follow place (outer ++ [name])).target? = some target) :
    target.getLast? = some name := by
  induction outer generalizing place with
  | nil =>
    rw [List.nil_append, follow, if_neg (by simp [plain.notEmpty, plain.notHere]),
      if_neg plain.notBack] at found
    dsimp only at found
    split at found
    · cases found
    · obtain ⟨_, rfl, _⟩ := target?_stopAt found
      exact List.getLast?_concat
  | cons part outer ih =>
    rw [List.cons_append, follow] at found
    split at found
    · exact ih found
    · split at found
      · exact ih found
      · dsimp only at found
        split at found
        · exact ih found
        · obtain ⟨none, _⟩ := target?_stopAt found
          exact absurd none (List.append_ne_nil_of_right_ne_nil outer (List.cons_ne_nil _ _))

/-- Files of different plain names in one directory are at different places. -/
theorem target?_joinName_ne {directory name other : String} (plain : IsPlainName name)
    (plain' : IsPlainName other) (different : name ≠ other) {target : Path}
    (found : (files.locate (joinName directory name)).target? = some target) :
    (files.locate (joinName directory other)).target? ≠ some target := by
  have last : ∀ {name : String}, IsPlainName name →
      (files.locate (joinName directory name)).target? = some target →
      target.getLast? = some name := by
    intro name plain found
    obtain ⟨outer, parts⟩ := nameParts_joinName directory plain
    rw [locate_eq_follow found, parts] at found
    exact getLast?_of_target?_follow plain found
  intro found'
  exact different (Option.some.inj ((last plain found).symm.trans (last plain' found')))

end Files

end Meteogram
