import Phrasebook.Proofs.FileTree.Writing

/-!
Directories on the way to a path. Making them changes no entry that there is
(`makesDirectories_makeDirectories`), and where they are there already nothing happens
(`makeDirectories_again`).
-/
namespace Phrasebook.FileTree

variable {tree made later : FileTree} {location target : Location} {names : List String}

/-- Directories were made where nothing was, and nothing else has changed. -/
structure MakesDirectories (tree made : FileTree) : Prop where
  workingDirectory_eq : made.workingDirectory = tree.workingDirectory
  entry?_eq_or : ∀ location, made.entry? location = tree.entry? location ∨
    tree.entry? location = none ∧ made.entry? location = some .directory

namespace MakesDirectories

theorem refl (tree : FileTree) : tree.MakesDirectories tree :=
  ⟨rfl, fun _ => .inl rfl⟩

theorem trans (h : tree.MakesDirectories made) (h' : made.MakesDirectories later) :
    tree.MakesDirectories later := by
  refine ⟨h'.workingDirectory_eq.trans h.workingDirectory_eq, fun location => ?_⟩
  rcases h.entry?_eq_or location with heq | ⟨hnone, hmade⟩ <;>
    rcases h'.entry?_eq_or location with heq' | ⟨hnone', hmade'⟩
  · exact .inl (heq'.trans heq)
  · exact .inr ⟨heq.symm.trans hnone', hmade'⟩
  · exact .inr ⟨hnone, heq'.trans hmade⟩
  · rw [hmade] at hnone'
    contradiction

theorem extends_ (h : tree.MakesDirectories made) : tree.Extends made := by
  refine ⟨h.workingDirectory_eq, fun location hentry => ?_, fun location hsome => ?_⟩
  · rcases h.entry?_eq_or location with heq | ⟨hnone, -⟩
    · rw [heq, hentry]
    · rw [hnone] at hentry
      contradiction
  · rcases h.entry?_eq_or location with heq | ⟨-, hmade⟩
    · rwa [heq]
    · rw [hmade]
      rfl

theorem of_insert (h : tree.entry? location = none) :
    tree.MakesDirectories (tree.insert location .directory) := by
  refine ⟨rfl, fun other => ?_⟩
  rw [entry?_insert (by simp [h])]
  by_cases hother : other = location
  · rw [if_pos hother, hother]
    exact .inr ⟨h, rfl⟩
  · rw [if_neg hother]
    exact .inl rfl

end MakesDirectories

theorem makesDirectories_makeAlong (tree : FileTree) (location : Location) (names : List String) :
    tree.MakesDirectories (tree.makeAlong location names).1 := by
  fun_induction makeAlong tree location names with
  | case1 tree location => exact .refl tree
  | case2 tree location name names hstay ih => exact ih
  | case3 tree location names hmove ih => exact ih
  | case4 tree location name names hmove hdown hentry ih => exact ih
  | case5 tree location name names hmove hdown entry hentry hne => exact .refl tree
  | case6 tree location name names hmove hdown hentry hname ih =>
    exact (MakesDirectories.of_insert hentry).trans ih
  | case7 tree location name names hmove hdown hentry hname => exact .refl tree

theorem entry?_insert_directory (h : tree.entry? location = none) :
    FileTree.entry? (tree.insert location .directory) location = some .directory := by
  rw [entry?_insert (by simp [h]), if_pos rfl]

theorem makeAlong_again (hmake : tree.makeAlong location names = (made, some target))
    (hlater : made.Extends later) : later.makeAlong location names = (later, some target) := by
  have hmade := makesDirectories_makeAlong tree location names
  rw [hmake] at hmade
  -- Each name meets a directory: one that was there at first, or one that was made for it.
  fun_induction makeAlong tree location names with
  | case1 tree location =>
    cases hmake
    rfl
  | case2 tree location name names hstay ih =>
    rw [makeAlong, if_pos hstay]
    exact ih hmake hmade
  | case3 tree location names hmove ih =>
    rw [makeAlong, if_neg hmove, if_pos rfl]
    exact ih hmake hmade
  | case4 tree location name names hmove hdown hentry ih =>
    have hthere := hlater.directory _ (hmade.extends_.directory _ hentry)
    rw [makeAlong, if_neg hmove, if_neg hdown, hthere]
    exact ih hmake hmade
  | case5 => cases hmake
  | case6 tree location name names hmove hdown hentry hname ih =>
    have hrest := makesDirectories_makeAlong (tree.insert (location ++ [name]) .directory)
      (location ++ [name]) names
    rw [hmake] at hrest
    have hthere :=
      hlater.directory _ (hrest.extends_.directory _ (entry?_insert_directory hentry))
    rw [makeAlong, if_neg hmove, if_neg hdown, hthere]
    exact ih hmake hrest
  | case7 => cases hmake

theorem makesDirectories_makeDirectories (tree : FileTree) (path : String) :
    tree.MakesDirectories (tree.makeDirectories path).1 := by
  unfold makeDirectories
  split
  · dsimp only
    split
    · have hmade := makesDirectories_makeAlong tree
        (Location.ofPath tree.workingDirectory path).1
        (((Location.ofPath tree.workingDirectory path).2.filter fun name => name ≠ "" ∧ name ≠ ".").dropLast)
      split
      · next hmake => rwa [hmake] at hmade
      · next hmake => rwa [hmake] at hmade
    · exact makesDirectories_makeAlong _ _ _
  · exact .refl tree

theorem makeDirectories_again {path : String}
    (hmake : tree.makeDirectories path = (made, some target)) (hlater : made.Extends later) :
    later.makeDirectories path = (later, some target) := by
  have hplace : later.workingDirectory = tree.workingDirectory := by
    have hmade := makesDirectories_makeDirectories tree path
    rw [hmake] at hmade
    exact hlater.workingDirectory_eq.trans hmade.workingDirectory_eq
  unfold makeDirectories at hmake ⊢
  rw [hplace]
  split at hmake
  · next hpath =>
    rw [if_pos hpath]
    dsimp only at hmake ⊢
    split at hmake
    · next hdot =>
      rw [if_pos hdot]
      split at hmake
      · cases hmake
      · next location halong =>
        obtain ⟨rfl, hfound⟩ := Prod.mk.inj hmake
        obtain ⟨hwalk, hdirectory⟩ := Option.filter_eq_some_iff.1 hfound
        have hthere := hlater.directory target (of_decide_eq_true hdirectory)
        rw [makeAlong_again halong hlater]
        dsimp only
        rw [hlater.foldlM_step_eq hwalk, Option.filter_some, if_pos (decide_eq_true hthere)]
    · next hdot =>
      rw [if_neg hdot]
      exact makeAlong_again hmake hlater
  · cases hmake

end Phrasebook.FileTree
