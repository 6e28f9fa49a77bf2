import Phrasebook.Proofs.Catalog.File
import Phrasebook.Proofs.Catalog.Merge
import Phrasebook.Proofs.Text.ByteOrder

/-!
A catalog and its file say the same (`round_trip`): a catalog is read back from its file and from
its text on one line, and the bytes of the file are those of another catalog only if both have the
same text for every key, in whatever order these were put in.
-/
namespace Phrasebook.Catalog

variable {catalog other : Catalog}

theorem fileText_inj : catalog.fileText = other.fileText ↔ catalog = other := by
  constructor
  · intro h
    have hread := ofText?_fileText catalog
    rw [h, ofText?_fileText] at hread
    exact (Option.some.inj hread).symm
  · rintro rfl
    rfl

theorem bytes_fileText_eq_iff : bytes catalog.fileText = bytes other.fileText ↔
    ∀ key : String, catalog[key]? = other[key]? := by
  rw [bytes_inj, fileText_inj]
  constructor
  · rintro rfl key
    rfl
  · exact Std.ExtTreeMap.ext_getElem?

/-- A catalog is loaded from its saved file and read from its text on one line as it was. Its file
has one field for each entry, in the order of the bytes of the keys, and the same bytes as the file
of another catalog exactly if that one has the same text for every key; so what counts of the pairs
that a catalog was made from is the last text for each key. -/
theorem round_trip (catalog : Catalog) :
    (∀ tree saved folder code file, save tree folder code catalog = (saved, .ok file) →
      load saved folder code = .ok catalog ∧ saved.read? file = some catalog.fileText) ∧
    ofText? catalog.toJson.compactText = some catalog ∧
    (∃ entries : List (String × String),
      entries.Pairwise (fun entry entry' => bytes entry.1 < bytes entry'.1) ∧
      (∀ key text, (key, text) ∈ entries ↔ catalog[key]? = some text) ∧
      catalog.fileText = (Json.object (Json.textFields entries)).prettyText "\t") ∧
    (∀ other : Catalog, bytes catalog.fileText = bytes other.fileText ↔
      ∀ key : String, catalog[key]? = other[key]?) ∧
    ∀ pairs, bytes catalog.fileText = bytes (ofPairs pairs).fileText ↔
      ∀ key, catalog[key]? = lastText? pairs key := by
  refine ⟨?_, ofText?_compactText catalog, ⟨catalog.toList, ?_, ?_, rfl⟩, ?_, ?_⟩
  · intro tree saved folder code file hsave
    exact ⟨load_of_save hsave, read?_of_save hsave⟩
  · exact pairwise_bytes_toList catalog
  · intro key text
    exact Std.ExtTreeMap.mem_toList_iff_getElem?_eq_some
  · intro other
    exact bytes_fileText_eq_iff
  · intro pairs
    simp only [bytes_fileText_eq_iff, getElem?_ofPairs]

def awkwardPairs : List (String × String) :=
  [("", "\""), ("\"\\/\x08", ""), ("\x00\n\t", "\x7f\r\u2028"), ("😀", "ﬁ"), ("ﬁ", "😀")]

theorem round_trip_awkward : ∃ saved,
    save {} "locales" "fr" (ofPairs awkwardPairs) = (saved, .ok "locales/fr.json") ∧
    load saved "locales" "fr" = .ok (ofPairs awkwardPairs) ∧
    ofText? (ofPairs awkwardPairs).toJson.compactText = some (ofPairs awkwardPairs) ∧
    bytes (ofPairs awkwardPairs).fileText = bytes (ofPairs awkwardPairs.reverse).fileText ∧
    bytes (ofPairs awkwardPairs).fileText ≠ bytes (∅ : Catalog).fileText := by
  have hdone : (save {} "locales" "fr" (ofPairs awkwardPairs)).2.toOption =
      some "locales/fr.json" := by
    decide +kernel
  obtain ⟨saved, hsave⟩ : ∃ saved,
      save {} "locales" "fr" (ofPairs awkwardPairs) = (saved, .ok "locales/fr.json") := by
    generalize save {} "locales" "fr" (ofPairs awkwardPairs) = result at hdone
    obtain ⟨saved, _ | file⟩ := result
    · contradiction
    · cases hdone
      exact ⟨saved, rfl⟩
  obtain ⟨hfile, hcompact, -, hother, hpairs⟩ := round_trip (ofPairs awkwardPairs)
  refine ⟨_, hsave, (hfile _ _ _ _ _ hsave).1, hcompact, (hpairs _).2 fun key => ?_, fun h => ?_⟩
  · have hnodup : (awkwardPairs.map Prod.fst).Nodup := by decide
    rw [getElem?_ofPairs, lastText?_of_perm hnodup awkwardPairs.reverse_perm.symm]
  · exact absurd ((hother ∅).1 h "") (by decide +kernel)

end Phrasebook.Catalog
