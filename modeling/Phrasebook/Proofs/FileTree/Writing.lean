import Phrasebook.FileTree.Basic

/-!
A file that was written is found at its path and holds what was written (`read?_of_write?`). The
path is followed through the tree twice, before and after; writing puts a file where no directory
was, so no step of the way is lost, and the file can be written once more in the same place
(`exists_write?_again`).
-/
namespace Phrasebook

theorem splitAtEach_ne_nil (mark : Char) (chars : List Char) : splitAtEach mark chars ≠ [] := by
  cases chars with
  | nil => simp [splitAtEach]
  | cons char rest =>
    rw [splitAtEach]
    split
    · simp
    · split <;> simp

theorem splitAtEach_of_not_mem {mark : Char} {chars : List Char} (h : mark ∉ chars) :
    splitAtEach mark chars = [chars] := by
  induction chars with
  | nil => rfl
  | cons char rest ih =>
    have hchar : char ≠ mark := fun heq => h (heq ▸ List.mem_cons_self)
    rw [splitAtEach, ih fun hrest => h (List.mem_cons_of_mem char hrest)]
    simp [hchar]

theorem suffix_of_getLast?_splitAtEach {mark : Char} {back part : List Char} (hback : mark ∉ back)
    (front : List Char) (h : (splitAtEach mark (front ++ back)).getLast? = some part) :
    back <:+ part := by
  induction front generalizing part with
  | nil =>
    rw [List.nil_append, splitAtEach_of_not_mem hback] at h
    cases h
    exact List.suffix_rfl
  | cons char front ih =>
    rw [List.cons_append, splitAtEach] at h
    cases hsplit : splitAtEach mark (front ++ back) with
    | nil => exact absurd hsplit (splitAtEach_ne_nil mark _)
    | cons first parts =>
      simp only [hsplit] at h ih
      split at h
      · rw [List.getLast?_cons_cons] at h
        exact ih h
      · cases parts with
        | nil =>
          cases h
          exact (ih rfl).trans (List.suffix_cons char first)
        | cons second parts =>
          rw [List.getLast?_cons_cons] at h ih
          exact ih h

namespace Location

theorem ne_of_isName {name : String} (h : isName name = true) :
    name ≠ "" ∧ name ≠ "." ∧ name ≠ ".." := by
  simp only [isName, Bool.and_eq_true, decide_eq_true_eq] at h
  exact ⟨h.1.1.1.1, h.1.1.1.2, h.1.1.2⟩

theorem exists_ofPath_eq (workingDirectory : Location) (path : String) :
    ∃ start names name, ofPath workingDirectory path = (start, names ++ [name]) := by
  have hne : (ofPath workingDirectory path).2 ≠ [] := by
    unfold ofPath
    split <;> simp [splitAtEach_ne_nil]
  rcases List.eq_nil_or_concat (ofPath workingDirectory path).2 with hnil | ⟨names, name, hnames⟩
  · contradiction
  · exact ⟨_, names, name, Prod.ext rfl (hnames.trans List.concat_eq_append)⟩

theorem suffix_of_ofPath {path : String} {back : List Char} {workingDirectory start : Location}
    {names : List String} {name : String} (hback : '/' ∉ back) (hpath : back <:+ path.toList)
    (h : ofPath workingDirectory path = (start, names ++ [name])) : back <:+ name.toList := by
  have hparts (chars : List Char) (hchars : back <:+ chars)
      (hnames : (splitAtEach '/' chars).map String.ofList = names ++ [name]) :
      back <:+ name.toList := by
    obtain ⟨front, rfl⟩ := hchars
    apply suffix_of_getLast?_splitAtEach hback front
    have hlast := congrArg List.getLast? hnames
    rw [List.getLast?_concat, List.getLast?_map] at hlast
    obtain ⟨part, hpart, rfl⟩ := Option.map_eq_some_iff.1 hlast
    rw [hpart, String.toList_ofList]
  unfold ofPath at h
  split at h
  · next rest hroot =>
    refine hparts rest ?_ (Prod.mk.inj h).2
    rw [hroot] at hpath
    rcases List.suffix_cons_iff.1 hpath with heq | hrest
    · rw [heq] at hback
      simp at hback
    · exact hrest
  · exact hparts _ hpath (Prod.mk.inj h).2

end Location

namespace FileTree

variable {tree tree' : FileTree} {location : Location} {name : String} {entry : Entry}

theorem not_prefix_of_entry?_ne (h : tree.entry? location ≠ some .directory) :
    ¬ location <+: tree.workingDirectory := by
  intro hprefix
  rw [ entry?, if_pos hprefix] at h
  contradiction

theorem entry?_insert (h : tree.entry? location ≠ some .directory) (entry : Entry)
    (other : Location) : FileTree.entry? (tree.insert location entry) other =
      if other = location then some entry else tree.entry? other := by
  have hlocation := not_prefix_of_entry?_ne h
  simp only [ entry?, workingDirectory_insert, getElem?_entries_insert]
  by_cases hother : other = location
  · rw [if_pos hother, hother, if_neg hlocation, if_pos rfl]
  · rw [if_neg hother, if_neg hother]

theorem put?_eq_some : tree.put? location name entry = some tree' ↔
    (tree.entry? location = some .directory ∧ Location.isName name = true ∧
      tree.entry? (location ++ [name]) ≠ some .directory) ∧
      tree' = tree.insert (location ++ [name]) entry := by
  unfold put?
  split
  · next hput => simp [hput, eq_comm]
  · next hput => simp [hput]

theorem entry?_of_put? (h : tree.put? location name entry = some tree') (other : Location) :
    tree'.entry? other = if other = location ++ [name] then some entry else tree.entry? other := by
  obtain ⟨⟨-, -, hfree⟩, rfl⟩ := put?_eq_some.1 h
  exact entry?_insert hfree entry other

/-- Directories stay directories, and nothing goes away. -/
structure Extends (tree tree' : FileTree) : Prop where
  workingDirectory_eq : tree'.workingDirectory = tree.workingDirectory
  directory : ∀ location, tree.entry? location = some .directory →
    tree'.entry? location = some .directory
  isSome : ∀ location, (tree.entry? location).isSome → (tree'.entry? location).isSome

theorem extends_of_put? (h : tree.put? location name entry = some tree') :
    tree.Extends tree' := by
  have hentry := entry?_of_put? h
  obtain ⟨⟨-, -, hfree⟩, hinsert⟩ := put?_eq_some.1 h
  constructor
  · rw [hinsert, workingDirectory_insert]
  · intro other hdirectory
    rw [hentry, if_neg, hdirectory]
    rintro rfl
    exact hfree hdirectory
  · intro other hsome
    rw [hentry]
    split
    · rfl
    · exact hsome

theorem Extends.step_eq (h : tree.Extends tree') {next : Location}
    (hstep : tree.step location name = some next) : tree'.step location name = some next := by
  unfold step at hstep ⊢
  split at hstep
  · next hdirectory =>
    rw [if_pos (h.directory location hdirectory)]
    split at hstep
    · next hstay => rw [if_pos hstay, hstep]
    next hmove =>
    rw [if_neg hmove]
    split at hstep
    · next hup => rw [if_pos hup, hstep]
    next hdown =>
    rw [if_neg hdown]
    obtain ⟨entry, hentry, rfl⟩ := Option.map_eq_some_iff.1 hstep
    obtain ⟨entry', hentry'⟩ := Option.isSome_iff_exists.1
      (h.isSome (location ++ [name]) (by rw [hentry]; rfl))
    rw [hentry']
    rfl
  · contradiction

theorem Extends.foldlM_step_eq (h : tree.Extends tree') {names : List String}
    {target : Location} (hwalk : names.foldlM tree.step location = some target) :
    names.foldlM tree'.step location = some target := by
  induction names generalizing location with
  | nil => exact hwalk
  | cons name names ih =>
    rw [List.foldlM_cons] at hwalk ⊢
    obtain ⟨next, hstep, hrest⟩ := Option.bind_eq_some_iff.1 hwalk
    exact Option.bind_eq_some_iff.2 ⟨next, h.step_eq hstep, ih hrest⟩

theorem Extends.trans {last : FileTree} (h : tree.Extends tree') (h' : tree'.Extends last) :
    tree.Extends last :=
  ⟨h'.workingDirectory_eq.trans h.workingDirectory_eq,
    fun location hentry => h'.directory location (h.directory location hentry),
    fun location hsome => h'.isSome location (h.isSome location hsome)⟩

theorem Extends.locate_eq (h : tree.Extends tree') {path : String}
    (hlocate : tree.locate path = some location) : tree'.locate path = some location := by
  unfold locate at hlocate ⊢
  split at hlocate
  · next hpath =>
    rw [if_pos hpath, h.workingDirectory_eq]
    exact h.foldlM_step_eq hlocate
  · contradiction

theorem eq_of_step {next : Location} (hname : name ≠ "" ∧ name ≠ "." ∧ name ≠ "..")
    (h : tree.step location name = some next) : next = location ++ [name] := by
  simp only [step, hname, or_self, if_false] at h
  split at h
  · obtain ⟨_, -, rfl⟩ := Option.map_eq_some_iff.1 h
    rfl
  · contradiction

theorem exists_of_locate {path : String} {target start : Location} {names : List String}
    (hsplit : Location.ofPath tree.workingDirectory path = (start, names ++ [name]))
    (hname : name ≠ "" ∧ name ≠ "." ∧ name ≠ "..") (h : tree.locate path = some target) :
    ∃ location, target = location ++ [name] := by
  unfold locate at h
  split at h
  · rw [hsplit] at h
    obtain ⟨location, -, hlast⟩ := Option.bind_eq_some_iff.1 (List.foldlM_append.symm.trans h)
    obtain ⟨next, hstep, hnext⟩ := Option.bind_eq_some_iff.1 hlast
    cases hnext
    exact ⟨location, eq_of_step hname hstep⟩
  · contradiction

theorem step_of_put? (h : tree.put? location name entry = some tree') :
    tree'.step location name = some (location ++ [name]) := by
  obtain ⟨⟨hdirectory, hname, -⟩, -⟩ := put?_eq_some.1 h
  have hentry := entry?_of_put? h (location ++ [name])
  rw [if_pos rfl] at hentry
  have hdirectory' := (extends_of_put? h).directory location hdirectory
  simp [step, hdirectory', Location.ne_of_isName hname, hentry]

theorem write?_eq_some {path content : String} : tree.write? path content = some tree' ↔
    Location.isPath path = true ∧ ∃ start names name location,
      Location.ofPath tree.workingDirectory path = (start, names ++ [name]) ∧
        names.foldlM tree.step start = some location ∧
          tree.put? location name (.text content) = some tree' := by
  unfold write?
  constructor
  · intro h
    split at h
    · next hpath =>
      obtain ⟨start, names, name, hsplit⟩ := Location.exists_ofPath_eq tree.workingDirectory path
      rw [hsplit] at h
      obtain ⟨location, hwalk, hput⟩ := Option.bind_eq_some_iff.1 h
      rw [List.dropLast_concat] at hwalk
      rw [List.getLast?_concat, Option.getD_some] at hput
      exact ⟨hpath, start, names, name, location, hsplit, hwalk, hput⟩
    · contradiction
  · rintro ⟨hpath, start, names, name, location, hsplit, hwalk, hput⟩
    rw [if_pos hpath, hsplit]
    refine Option.bind_eq_some_iff.2 ⟨location, ?_, ?_⟩
    · rwa [List.dropLast_concat]
    · rwa [List.getLast?_concat, Option.getD_some]

theorem locate_of_put? {path : String} {start : Location} {names : List String}
    (hpath : Location.isPath path = true) (hsplit : Location.ofPath tree.workingDirectory path = (start, names ++ [name]))
    (hwalk : names.foldlM tree.step start = some location)
    (hput : tree.put? location name entry = some tree') :
    tree'.locate path = some (location ++ [name]) := by
  have hnonempty : path ≠ "" := by
    rintro rfl
    have hlast := congrArg (·.2.getLast?) hsplit
    simp only [List.getLast?_concat] at hlast
    exact (Location.ne_of_isName (put?_eq_some.1 hput).1.2.1).1 (Option.some.inj hlast).symm
  unfold locate
  rw [if_pos ⟨hnonempty, hpath⟩, (extends_of_put? hput).workingDirectory_eq, hsplit]
  have hwalk' := (extends_of_put? hput).foldlM_step_eq hwalk
  have hstep : [name].foldlM tree'.step location = some (location ++ [name]) :=
    Option.bind_eq_some_iff.2 ⟨_, step_of_put? hput, rfl⟩
  exact List.foldlM_append.trans (Option.bind_eq_some_iff.2 ⟨location, hwalk', hstep⟩)

theorem exists_of_write? {path content : String} (h : tree.write? path content = some tree') :
    ∃ location name, tree.put? location name (.text content) = some tree' ∧
      tree'.locate path = some (location ++ [name]) := by
  obtain ⟨hpath, start, names, name, location, hsplit, hwalk, hput⟩ := write?_eq_some.1 h
  exact ⟨location, name, hput, locate_of_put? hpath hsplit hwalk hput⟩

theorem extends_of_write? {path content : String} (h : tree.write? path content = some tree') :
    tree.Extends tree' := by
  obtain ⟨location, name, hput, -⟩ := exists_of_write? h
  exact extends_of_put? hput

theorem put?_again (h : tree.put? location name entry = some tree') (hentry : entry ≠ .directory)
    (next : Entry) : tree'.put? location name next =
      some (tree'.insert (location ++ [name]) next) := by
  obtain ⟨⟨hdirectory, hname, -⟩, -⟩ := put?_eq_some.1 h
  have hthere := entry?_of_put? h (location ++ [name])
  rw [if_pos rfl] at hthere
  refine put?_eq_some.2 ⟨⟨(extends_of_put? h).directory location hdirectory, hname, ?_⟩, rfl⟩
  rw [hthere]
  exact fun heq => hentry (Option.some.inj heq)

theorem exists_write?_again {path content : String} (h : tree.write? path content = some tree') :
    ∃ target, tree'.locate path = some target ∧
      (∀ other, tree'.entry? other =
        if other = target then some (.text content) else tree.entry? other) ∧
      ∀ next, tree'.write? path next = some (tree'.insert target (.text next)) := by
  obtain ⟨hpath, start, names, name, location, hsplit, hwalk, hput⟩ := write?_eq_some.1 h
  refine ⟨location ++ [name], locate_of_put? hpath hsplit hwalk hput, entry?_of_put? hput,
    fun next => write?_eq_some.2 ⟨hpath, start, names, name, location, ?_, ?_, ?_⟩⟩
  · rw [(extends_of_put? hput).workingDirectory_eq, hsplit]
  · exact (extends_of_put? hput).foldlM_step_eq hwalk
  · exact put?_again hput (by simp) (.text next)

theorem find?_of_write? {path content : String} (h : tree.write? path content = some tree') :
    tree'.find? path = some (.text content) := by
  obtain ⟨location, name, hput, hlocate⟩ := exists_of_write? h
  have hentry := entry?_of_put? hput (location ++ [name])
  rw [if_pos rfl] at hentry
  exact Option.bind_eq_some_iff.2 ⟨_, hlocate, hentry⟩

theorem read?_of_write? {path content : String} (h : tree.write? path content = some tree') :
    tree'.read? path = some content := by
  rw [read?, find?_of_write? h]
  rfl

theorem contains_of_read? {path content : String} (h : tree.read? path = some content) :
    tree.contains path = true := by
  obtain ⟨entry, hfind, -⟩ := Option.bind_eq_some_iff.1 h
  obtain ⟨location, hlocate, -⟩ := Option.bind_eq_some_iff.1 hfind
  rw [contains, hlocate]
  rfl

theorem contains_of_write? {path content : String} (h : tree.write? path content = some tree') :
    tree'.contains path = true :=
  contains_of_read? (read?_of_write? h)

end FileTree

end Phrasebook
