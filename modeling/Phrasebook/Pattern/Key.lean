import Phrasebook.Pattern.Basic

/-!
Translation keys. A translator supplies one text for each way in which the values of a pattern can
be classified; the key of such a text is the pattern with a tag in the place of each placeholder.
The key that values select is one of the keys of the pattern (`mem_keys_of_lookupKey`).
-/
namespace Phrasebook.Pattern

def branch (keys : List String) (word : String) (placeholder : Placeholder) : List String :=
  keys.flatMap fun key => placeholder.tags.map fun tag => replaceWord word tag key

def keys (pattern : Pattern) : List String :=
  pattern.placeholders.foldl
    (fun keys (word, placeholder) => branch keys word placeholder) [pattern.source]

def selectKey (values : Values) (key : String) :
    List (String × Placeholder) → Except Error String
  | [] => .ok key
  | (word, placeholder) :: placeholders => do
    let tag ← placeholder.tagFor values
    selectKey values (replaceWord word tag key) placeholders

def lookupKey (pattern : Pattern) (values : Values) : Except Error String :=
  selectKey values pattern.source pattern.placeholders

theorem selectKey_mem {values : Values} {key selected : String} {start : List String}
    {placeholders : List (String × Placeholder)}
    (h : selectKey values key placeholders = .ok selected) (hkey : key ∈ start) :
    selected ∈ placeholders.foldl
      (fun keys (word, placeholder) => branch keys word placeholder) start := by
  induction placeholders generalizing key start with
  | nil =>
    cases h
    exact hkey
  | cons head placeholders ih =>
    obtain ⟨word, placeholder⟩ := head
    cases htag : placeholder.tagFor values with
    | error => simp [selectKey, htag, bind, Except.bind] at h
    | ok tag =>
      simp only [selectKey, htag, bind, Except.bind] at h
      refine ih h (List.mem_flatMap.2 ⟨key, hkey, List.mem_map.2 ⟨tag, ?_, rfl⟩⟩)
      exact Placeholder.tagFor_mem_tags htag

theorem mem_keys_of_lookupKey {pattern : Pattern} {values : Values} {key : String}
    (h : pattern.lookupKey values = .ok key) : key ∈ pattern.keys :=
  selectKey_mem h (List.mem_singleton_self pattern.source)

end Phrasebook.Pattern
