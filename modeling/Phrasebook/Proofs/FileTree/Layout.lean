import Phrasebook.FileTree.Basic

/-!
What lies below a location and above it. A tree filled up with the working directory and those above
has an entry for all that there is (`getElem?_filled`), so nothing below a location is left out
(`mem_below`), wherever the working directory is. Of the files of one name above the working
directory the nearest one is found (`nearestFile?_eq_some_iff`).
-/
namespace Phrasebook

namespace Location

theorem mem_upward {location other : Location} : other ∈ location.upward ↔ other <+: location := by
  simp only [upward, List.mem_map, List.mem_reverse, List.mem_range]
  constructor
  · rintro ⟨length, -, rfl⟩
    exact List.take_prefix length location
  · intro hprefix
    have hlength := hprefix.length_le
    exact ⟨other.length, by omega, (List.prefix_iff_eq_take.1 hprefix).symm⟩

theorem pairwise_upward (location : Location) :
    location.upward.Pairwise fun nearer other => other.length < nearer.length := by
  rw [upward, List.pairwise_map, List.pairwise_reverse]
  refine List.Pairwise.imp_of_mem ?_ List.pairwise_lt_range
  intro shorter longer _ hlonger hlt
  rw [List.mem_range] at hlonger
  rw [List.length_take, List.length_take]
  omega

end Location

namespace FileTree

variable {tree : FileTree}

theorem getElem?_foldl_insert (directories : List Location) (tree : FileTree) (other : Location) :
    (directories.foldl (·.insert · .directory) tree).entries[other]? =
      if other ∈ directories then some .directory else tree.entries[other]? := by
  induction directories generalizing tree with
  | nil => rfl
  | cons directory directories ih =>
    rw [List.foldl_cons, ih, getElem?_entries_insert]
    by_cases hother : other = directory <;> simp [hother]

theorem getElem?_filled (tree : FileTree) (location : Location) :
    tree.filled.entries[location]? = tree.entry? location := by
  simp only [filled, getElem?_foldl_insert, Location.mem_upward, entry?]

theorem mem_below {path shown : String} {location : Location} {entry : Entry} :
    (shown, entry) ∈ tree.below path location ↔
      ∃ file : Location, location <+: file ∧ tree.entry? file = some entry ∧
        shown = (file.drop location.length).foldl joinPath path := by
  simp only [below, List.mem_filterMap, Prod.exists]
  constructor
  · rintro ⟨file, found, hmem, hshown⟩
    split at hshown
    · next hbelow =>
      cases hshown
      refine ⟨file, List.isPrefixOf_iff_prefix.1 hbelow, ?_, rfl⟩
      rw [← getElem?_filled]
      exact Std.ExtTreeMap.mem_toList_iff_getElem?_eq_some.1 hmem
    · contradiction
  · rintro ⟨file, hbelow, hentry, rfl⟩
    rw [← getElem?_filled] at hentry
    refine ⟨file, entry, Std.ExtTreeMap.mem_toList_iff_getElem?_eq_some.2 hentry, ?_⟩
    rw [if_pos (List.isPrefixOf_iff_prefix.2 hbelow)]

/-- The file that is found is that of the longest directory, so nearer to the working directory
there is none. -/
theorem nearestFile?_eq_some_iff {name : String} {entry : Entry} :
    tree.nearestFile? name = some entry ↔
      Location.isPath (Location.path (tree.workingDirectory ++ [name])) = true ∧
      ∃ directory : Location, directory <+: tree.workingDirectory ∧
        tree.file? (directory ++ [name]) = some entry ∧
        ∀ nearer : Location, nearer <+: tree.workingDirectory →
          directory.length < nearer.length → tree.file? (nearer ++ [name]) = none := by
  have hdescending := Location.pairwise_upward tree.workingDirectory
  simp only [nearestFile?, Option.ite_none_right_eq_some, List.findSome?_eq_some_iff]
  refine and_congr_right fun _ => ⟨?_, ?_⟩
  · rintro ⟨front, directory, back, hsplit, hfound, hnone⟩
    rw [hsplit, List.pairwise_append, List.pairwise_cons] at hdescending
    obtain ⟨-, ⟨hback, -⟩, -⟩ := hdescending
    have hmem {location : Location} : location <+: tree.workingDirectory ↔
        location ∈ front ++ directory :: back := by
      rw [← hsplit, Location.mem_upward]
    refine ⟨directory, hmem.2 (by simp), hfound, fun nearer hnearer hlonger => ?_⟩
    rcases List.mem_append.1 (hmem.1 hnearer) with hfront | hrest
    · exact hnone nearer hfront
    · rcases List.mem_cons.1 hrest with rfl | hmemBack
      · exact absurd hlonger (Nat.lt_irrefl _)
      · exact absurd hlonger (Nat.lt_asymm (hback nearer hmemBack))
  · rintro ⟨directory, hdirectory, hfound, hnone⟩
    obtain ⟨front, back, hsplit⟩ := List.append_of_mem (Location.mem_upward.2 hdirectory)
    refine ⟨front, directory, back, hsplit, hfound, fun nearer hfront => hnone nearer ?_ ?_⟩
    · rw [← Location.mem_upward, hsplit]
      exact List.mem_append_left _ hfront
    · rw [hsplit, List.pairwise_append] at hdescending
      exact hdescending.2.2 nearer hfront directory List.mem_cons_self

end FileTree

end Phrasebook
