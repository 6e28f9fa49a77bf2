import Phrasebook.Catalog.Folder
import Phrasebook.Proofs.FileTree.Directories
import Phrasebook.Proofs.Json.Reading

/-!
Catalog files. A saved catalog is loaded again as it was (`load_of_save`), whatever characters its
keys and texts have. To save it changes one file, may make directories, and leaves all else as it
was; the next catalog goes to the same place (`exists_savedAt`).
-/
namespace Phrasebook.Catalog

theorem mapM_entryOfField?_textFields (pairs : List (String × String)) :
    (Json.textFields pairs).mapM entryOfField? = some pairs := by
  induction pairs with
  | nil => rfl
  | cons pair pairs ih =>
    simp only [Json.textFields, List.map_cons, List.mapM_cons] at ih ⊢
    rw [ih]
    rfl

theorem ofJson?_toJson (catalog : Catalog) : ofJson? catalog.toJson = some catalog := by
  have hfields : catalog.toJson = .object (Json.textFields catalog.toList) := rfl
  rw [hfields, ofJson?, mapM_entryOfField?_textFields, Option.map_some, ofPairs_toList]

theorem ofText?_fileText (catalog : Catalog) : ofText? catalog.fileText = some catalog := by
  have hindent : ∀ char ∈ "\t".toList, Json.Token.isSpace char = true := by
    intro char hchar
    obtain rfl : char = '\t' := by simpa using hchar
    rfl
  have hread : Json.ofText? catalog.fileText = some catalog.toJson :=
    Json.ofText?_prettyText hindent catalog.toList
  rw [ofText?, hread, Option.bind_some, ofJson?_toJson]

theorem ofText?_compactText (catalog : Catalog) :
    ofText? catalog.toJson.compactText = some catalog := by
  have hread : Json.ofText? catalog.toJson.compactText = some catalog.toJson :=
    Json.ofText?_compactText catalog.toList
  rw [ofText?, hread, Option.bind_some, ofJson?_toJson]

theorem load_of_not_contains {tree : FileTree} {folder code : String}
    (h : tree.contains (path folder code) = false) : load tree folder code = .ok ∅ := by
  unfold load
  dsimp only
  rw [h]
  rfl

inductive Stored (tree : FileTree) (folder code : String) : Except FileError Catalog → Prop
  | absent (hfile : tree.contains (path folder code) = false) : Stored tree folder code (.ok ∅)
  | catalog {content : String} {catalog : Catalog}
      (hread : tree.read? (path folder code) = some content)
      (htext : ofText? content = some catalog) : Stored tree folder code (.ok catalog)
  | unreadable (hfile : tree.contains (path folder code) = true)
      (hread : tree.read? (path folder code) = none) :
      Stored tree folder code (.error (.unreadableCatalog (path folder code)))
  | unparsable {content : String} (hread : tree.read? (path folder code) = some content)
      (htext : ofText? content = none) :
      Stored tree folder code (.error (.unparsableCatalog (path folder code)))

theorem stored_iff {tree : FileTree} {folder code : String} {result : Except FileError Catalog} :
    Stored tree folder code result ↔ load tree folder code = result := by
  constructor
  · intro h
    cases h with
    | absent hfile => exact load_of_not_contains hfile
    | catalog hread htext => simp [load, FileTree.contains_of_read? hread, hread, htext]
    | unreadable hfile hread => simp [load, hfile, hread]
    | unparsable hread htext => simp [load, FileTree.contains_of_read? hread, hread, htext]
  · rintro rfl
    unfold load
    dsimp only
    split
    · next hfile =>
      split
      · next hread => exact .unreadable hfile hread
      · next content hread =>
        split
        · next catalog htext => exact .catalog hread htext
        · next htext => exact .unparsable hread htext
    · next hfile => exact .absent (Bool.eq_false_iff.2 hfile)

theorem exists_of_save {tree saved : FileTree} {folder code file : String} {catalog : Catalog}
    (h : save tree folder code catalog = (saved, .ok file)) :
    file = path folder code ∧ ∃ made location, tree.makeDirectories folder = (made, some location) ∧
      made.write? (path folder code) catalog.fileText = some saved := by
  unfold save at h
  split at h
  · cases h
  · next made location hmade =>
    dsimp only at h
    split at h
    · next hwrite =>
      cases h
      exact ⟨rfl, made, location, hmade, hwrite⟩
    · cases h

theorem makesDirectories_of_save_eq_error {tree saved : FileTree} {folder code : String}
    {catalog : Catalog} {error : FileError}
    (h : save tree folder code catalog = (saved, .error error)) : tree.MakesDirectories saved := by
  have hmade := FileTree.makesDirectories_makeDirectories tree folder
  unfold save at h
  split at h
  · next made hmake =>
    cases h
    rwa [hmake] at hmade
  · next made location hmake =>
    rw [hmake] at hmade
    dsimp only at h
    split at h
    · cases h
    · cases h
      exact hmade

theorem read?_of_save {tree saved : FileTree} {folder code file : String} {catalog : Catalog}
    (h : save tree folder code catalog = (saved, .ok file)) :
    saved.read? file = some catalog.fileText := by
  obtain ⟨rfl, made, location, -, hwrite⟩ := exists_of_save h
  exact FileTree.read?_of_write? hwrite

theorem load_of_save {tree saved : FileTree} {folder code file : String} {catalog : Catalog}
    (h : save tree folder code catalog = (saved, .ok file)) :
    load saved folder code = .ok catalog := by
  have hread := read?_of_save h
  obtain ⟨rfl, made, location, -, hwrite⟩ := exists_of_save h
  unfold load
  rw [if_pos (FileTree.contains_of_write? hwrite), hread]
  dsimp only
  rw [ofText?_fileText]

/-- A catalog stands in its file, and to save it there took nothing but directories. -/
structure SavedAt (tree saved : FileTree) (folder code : String) (catalog : Catalog)
    (target : Location) : Prop where
  locate_eq : saved.locate (path folder code) = some target
  entry_eq : saved.entry? target = some (.text catalog.fileText)
  extends_ : tree.Extends saved
  other_eq_or : ∀ file ≠ target, saved.entry? file = tree.entry? file ∨
    tree.entry? file = none ∧ saved.entry? file = some .directory
  save_again : ∀ next, save saved folder code next =
    (saved.insert target (.text next.fileText), .ok (path folder code))

theorem exists_savedAt {tree saved : FileTree} {folder code file : String} {catalog : Catalog}
    (h : save tree folder code catalog = (saved, .ok file)) :
    ∃ target, SavedAt tree saved folder code catalog target := by
  obtain ⟨-, made, location, hmake, hwrite⟩ := exists_of_save h
  obtain ⟨target, hlocate, hsaved, hwriteAgain⟩ := FileTree.exists_write?_again hwrite
  have hmade := FileTree.makesDirectories_makeDirectories tree folder
  rw [hmake] at hmade
  have hextends := FileTree.extends_of_write? hwrite
  refine ⟨target, hlocate, ?_, hmade.extends_.trans hextends, fun file hfile => ?_, fun next => ?_⟩
  · rw [hsaved, if_pos rfl]
  · rw [hsaved, if_neg hfile]
    exact hmade.entry?_eq_or file
  · unfold save
    rw [FileTree.makeDirectories_again hmake hextends]
    dsimp only
    rw [hwriteAgain]

theorem SavedAt.file?_eq {tree saved : FileTree} {folder code : String} {catalog : Catalog}
    {target file : Location} (h : SavedAt tree saved folder code catalog target)
    (hfile : file ≠ target) : saved.file? file = tree.file? file := by
  unfold FileTree.file?
  rcases h.other_eq_or file hfile with heq | ⟨hnone, hmade⟩
  · rw [heq]
  · rw [hnone, hmade]
    rfl

theorem SavedAt.text_iff {tree saved : FileTree} {folder code : String} {catalog : Catalog}
    {target file : Location} (h : SavedAt tree saved folder code catalog target)
    (hfile : file ≠ target) {content : String} :
    saved.entry? file = some (.text content) ↔ tree.entry? file = some (.text content) := by
  rcases h.other_eq_or file hfile with heq | ⟨hnone, hmade⟩
  · rw [heq]
  · simp [hnone, hmade]

theorem suffix_path (folder code : String) : ".json".toList <:+ (path folder code).toList := by
  unfold path joinPath
  split
  · exact ⟨code.toList, by simp⟩
  · split
    · exact ⟨folder.toList ++ code.toList, by simp⟩
    · exact ⟨folder.toList ++ '/' :: code.toList, by simp⟩

theorem exists_of_locate_path {tree : FileTree} {folder code : String} {target : Location}
    (h : tree.locate (path folder code) = some target) :
    ∃ location name, target = location ++ [name] ∧ ".json".toList <:+ name.toList := by
  obtain ⟨start, names, name, hsplit⟩ := Location.exists_ofPath_eq tree.workingDirectory (path folder code)
  have hsuffix := Location.suffix_of_ofPath (by decide) (suffix_path folder code) hsplit
  have hname : name ≠ "" ∧ name ≠ "." ∧ name ≠ ".." := by
    refine ⟨?_, ?_, ?_⟩ <;>
    · rintro rfl
      exact absurd hsuffix (by decide)
  obtain ⟨location, htarget⟩ := FileTree.exists_of_locate hsplit hname h
  exact ⟨location, name, htarget, hsuffix⟩

theorem SavedAt.ne_of_not_suffix {tree saved : FileTree} {folder code name : String}
    {catalog : Catalog} {location target : Location}
    (h : SavedAt tree saved folder code catalog target) (hname : ¬ ".json".toList <:+ name.toList) :
    location ++ [name] ≠ target := by
  rintro rfl
  obtain ⟨location', name', heq, hsuffix⟩ := exists_of_locate_path h.locate_eq
  obtain ⟨-, rfl⟩ := List.append_singleton_inj.1 heq
  exact hname hsuffix

end Phrasebook.Catalog
