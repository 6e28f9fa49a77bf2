import Phrasebook.Proofs.Catalog.Validation
import Phrasebook.Proofs.Text.Fragment

/-!
What the names of categories do to the tags of a placeholder. A domain is accepted whatever its
categories are called. Its tags differ exactly where the names differ; a tag is one fragment exactly
if the name has no brace, and the validation reads it as a tag exactly if the name is not empty and
has no reserved character (`tags_of_accepted_domain`).
-/
namespace Phrasebook

namespace Placeholder

variable {placeholder : Placeholder} {category : String}

theorem tag_inj {category' : String} :
    placeholder.tag category = placeholder.tag category' ↔ category = category' := by
  simp [tag, braced, String.append_assoc]

theorem nodup_tags_iff :
    placeholder.tags.Nodup ↔ (placeholder.domain.categories.map (·.name)).Nodup := by
  have htags : placeholder.tags =
      (placeholder.domain.categories.map (·.name)).map placeholder.tag := by
    rw [tags, List.map_map]
    rfl
  rw [htags]
  exact List.nodup_map_iff fun _ _ => tag_inj.1

theorem tags_ne_nil (placeholder : Placeholder) : placeholder.tags ≠ [] := by
  simpa [tags] using placeholder.domain.categories_ne_nil

theorem braceFree_tagWord_iff (hname : isPlain placeholder.name = true) :
    BraceFree (placeholder.tagWord category) ↔ BraceFree category := by
  refine ⟨fun h c hc => h c ?_, fun h => braceFree_tagWord h hname⟩
  rw [toList_tagWord]
  exact List.mem_append_left _ hc

theorem exists_segments_tag_iff (hname : isPlain placeholder.name = true) :
    (∃ word, segments (placeholder.tag category) = [.fragment word]) ↔ BraceFree category := by
  simp only [tag_eq_braced, segments_braced_eq_singleton, exists_eq_left,
    braceFree_tagWord_iff hname]

theorem tagName?_tagWord_iff (hname : placeholder.name ≠ "")
    (hplain : isPlain placeholder.name = true) :
    tagName? (placeholder.tagWord category) = some placeholder.name ↔
      category ≠ "" ∧ isPlain category = true := by
  constructor
  · intro h
    obtain ⟨⟨outer, middle, inner⟩, happlication, -⟩ := Option.map_eq_some_iff.1 h
    obtain ⟨hchars, houter, hmiddle, hinner⟩ := nestedApplication?_eq_some happlication
    rw [toList_tagWord] at hchars
    obtain ⟨rfl, -, -⟩ :=
      nested_inj placeholder.domain.isPlain_name hmiddle hplain hinner hchars
    exact houter
  · rintro ⟨hcategory, hcategoryPlain⟩
    exact tagName?_tagWord hcategory hcategoryPlain hname hplain

theorem exists_tagName?_tag_iff (hname : placeholder.name ≠ "")
    (hplain : isPlain placeholder.name = true) :
    (∃ word, segments (placeholder.tag category) = [.fragment word] ∧
        tagName? word = some placeholder.name) ↔ category ≠ "" ∧ isPlain category = true := by
  simp only [tag_eq_braced, segments_braced_eq_singleton, and_assoc, exists_eq_left,
    braceFree_tagWord_iff hplain, tagName?_tagWord_iff hname hplain]
  exact and_iff_right_of_imp fun h => braceFree_of_isPlain h.2

theorem mem_keyNames_append_tag (hname : placeholder.name ≠ "")
    (hplain : isPlain placeholder.name = true) (hcategory : category ≠ "")
    (hcategoryPlain : isPlain category = true) (before after : String) :
    placeholder.name ∈ keyNames (before ++ placeholder.tag category ++ after) := by
  have hword := braceFree_tagWord (braceFree_of_isPlain hcategoryPlain) hplain
  rw [mem_keyNames, tag_eq_braced, fragments_append_braced hword]
  exact ⟨placeholder.tagWord category, by simp,
    tagName?_tagWord hcategory hcategoryPlain hname hplain⟩

end Placeholder

namespace Pattern

theorem nodup_of_nodup_branch {keys : List String} {word : String} {placeholder : Placeholder}
    (hkeys : keys ≠ []) (h : (branch keys word placeholder).Nodup) :
    keys.Nodup ∧ placeholder.tags.Nodup := by
  obtain ⟨htags, hdisjoint⟩ := List.nodup_flatMap.1 h
  constructor
  · refine hdisjoint.imp fun {key key'} hkeys heq => ?_
    obtain ⟨tag, htag⟩ := List.exists_mem_of_ne_nil _ placeholder.tags_ne_nil
    have hmem := List.mem_map_of_mem (f := fun tag => replaceWord word tag key) htag
    exact hkeys hmem (heq ▸ hmem)
  · obtain ⟨key, hkey⟩ := List.exists_mem_of_ne_nil _ hkeys
    exact (htags key hkey).of_map

theorem nodup_of_nodup_foldl_branch {places : List (String × Placeholder)} {start : List String}
    (hstart : start ≠ [])
    (h : (places.foldl (fun keys (word, placeholder) => branch keys word placeholder)
      start).Nodup) :
    start.Nodup ∧ ∀ place ∈ places, place.2.tags.Nodup := by
  induction places generalizing start with
  | nil => exact ⟨h, by simp⟩
  | cons place places ih =>
    have hbranch : branch start place.1 place.2 ≠ [] := by
      simpa [branch, place.2.tags_ne_nil] using List.exists_mem_of_ne_nil _ hstart
    obtain ⟨hfirst, hfurther⟩ := ih hbranch h
    obtain ⟨hkeys, htags⟩ := nodup_of_nodup_branch hstart hfirst
    exact ⟨hkeys, List.forall_mem_cons.2 ⟨htags, hfurther⟩⟩

theorem Parsed.nodup_keys_iff {languages : Languages} {code source : String} {pattern : Pattern}
    (parsed : Parsed languages code source pattern)
    (hcategories : ∀ place ∈ pattern.placeholders, ∀ category ∈ place.2.domain.categories,
      BraceFree category.name) :
    pattern.keys.Nodup ↔
      ∀ place ∈ pattern.placeholders, (place.2.domain.categories.map (·.name)).Nodup := by
  constructor
  · intro h place hplace
    exact Placeholder.nodup_tags_iff.1
      ((nodup_of_nodup_foldl_branch (by simp) h).2 place hplace)
  · intro hnames
    apply nodup_keys (parsed.independent_of_braceFree hcategories) _ hnames
    intro place hplace
    rw [parsed.source_eq, ← parsed.mem_words]
    exact List.mem_map_of_mem hplace

theorem Parsed.mem_placeholders {languages : Languages} {code source word : String}
    {pattern : Pattern} {placeholder : Placeholder} (parsed : Parsed languages code source pattern)
    (hword : word ∈ fragments source)
    (hparse : Placeholder.parse languages code word = .ok placeholder) :
    (word, placeholder) ∈ pattern.placeholders := by
  obtain ⟨place, hplace, rfl⟩ := List.mem_map.1 (parsed.mem_words.2 hword)
  obtain rfl : placeholder = place.2 := by
    simpa [parsed.parse_eq place hplace] using hparse.symm
  exact hplace

end Pattern

section

variable {name : String} {categories : List Category} {format : Value → String} {domain : Domain}
  {languages : Languages} {code source word : String} {placeholder : Placeholder}

theorem tags_of_accepted_domain (haccepted : Domain.of name categories format = .ok domain)
    (hword : word ∈ fragments source)
    (hparse : Placeholder.parse languages code word = .ok placeholder)
    (hdomain : placeholder.domain = domain) :
    (∀ others, others ≠ [] → ∃ other, Domain.of name others format = .ok other) ∧
      (placeholder.tags.Nodup ↔ (categories.map (·.name)).Nodup) ∧
      (∀ first ∈ categories, ∀ second ∈ categories,
        placeholder.tag first.name = placeholder.tag second.name ↔ first.name = second.name) ∧
      (∀ category ∈ categories,
        placeholder.tag category.name = braced (placeholder.tagWord category.name) ∧
          ((∃ word, segments (placeholder.tag category.name) = [.fragment word]) ↔
            BraceFree category.name) ∧
          ((∃ word, segments (placeholder.tag category.name) = [.fragment word] ∧
              tagName? word = some placeholder.name) ↔
            category.name ≠ "" ∧ isPlain category.name = true) ∧
          (category.name ≠ "" → isPlain category.name = true → ∀ before after,
            placeholder.name ∈ keyNames (before ++ placeholder.tag category.name ++ after))) ∧
      ∀ pattern, Pattern.parse languages code source = .ok pattern →
        (word, placeholder) ∈ pattern.placeholders ∧
          ((∀ place ∈ pattern.placeholders, ∀ category ∈ place.2.domain.categories,
              BraceFree category.name) →
            (pattern.keys.Nodup ↔ ∀ place ∈ pattern.placeholders,
              (place.2.domain.categories.map (·.name)).Nodup)) := by
  have hread := Placeholder.reads_of_parse (braceFree_of_mem_fragments hword) hparse
  obtain ⟨rfl, rfl, rfl⟩ := Domain.of_eq_ok_iff.1 haccepted
  subst hdomain
  refine ⟨fun others hothers => ?_, Placeholder.nodup_tags_iff, fun _ _ _ _ => Placeholder.tag_inj,
    fun category _ => ⟨rfl, Placeholder.exists_segments_tag_iff hread.isPlain_name,
      Placeholder.exists_tagName?_tag_iff hread.name_ne_empty hread.isPlain_name,
      Placeholder.mem_keyNames_append_tag hread.name_ne_empty hread.isPlain_name⟩,
    fun pattern hpattern => ?_⟩
  · exact ⟨{ placeholder.domain with categories := others, categories_ne_nil := hothers },
      Domain.of_eq_ok_iff.2 ⟨rfl, rfl, rfl⟩⟩
  · have parsed := Pattern.parsed_of_parse hpattern
    exact ⟨parsed.mem_placeholders hword hparse, parsed.nodup_keys_iff⟩

end

/-- Two categories of one name, and names with a parenthesis, with a brace and without a
character. -/
def sizes : Domain where
  name := "size"
  categories := [⟨"big", Standard.isExactly 1⟩, ⟨"big", Standard.isNumber⟩,
    ⟨"very (big)", Standard.isText "L"⟩, ⟨"huge\x7d", Standard.isText "XL"⟩,
    ⟨"", Value.isUndefined⟩, .catchAll "small"]
  format := Value.shown
  name_ne_empty := by decide
  isPlain_name := by decide
  categories_ne_nil := by simp

def sizedLanguages : Languages :=
  .ofLanguages [{ code := "en", domains := [sizes] }]

/-- Categories share a tag, a tag has a third brace, two tags are not recognised, and two keys are
equal. -/
theorem accepted_domain_with_ambiguous_tags :
    Domain.of "size" sizes.categories Value.shown = .ok sizes ∧
      Placeholder.parse sizedLanguages "en" "size(n)" = .ok ⟨"n", sizes⟩ ∧
      ¬ (Placeholder.mk "n" sizes).tags.Nodup ∧
      (Placeholder.mk "n" sizes).tag "huge\x7d" = "\x7bhuge\x7d(size(n))\x7d" ∧
      keyNames ((Placeholder.mk "n" sizes).tag "very (big)") = [] ∧
      keyNames ((Placeholder.mk "n" sizes).tag "") = [] ∧
      ∃ pattern, Pattern.parse sizedLanguages "en" (braced "size(n)" ++ " box") = .ok pattern ∧
        ¬ pattern.keys.Nodup := by
  refine ⟨Domain.of_self sizes, rfl, by decide, by decide, by decide +kernel, by decide +kernel,
    ⟨_, _, [("size(n)", ⟨"n", sizes⟩)]⟩, rfl, by decide +kernel⟩

theorem tags_of_accepted_domain_sizes :
    Domain.of "size" sizes.categories Value.shown = .ok sizes ∧
      "size(n)" ∈ fragments (braced "size(n)" ++ " box") ∧
      Placeholder.parse sizedLanguages "en" "size(n)" = .ok ⟨"n", sizes⟩ ∧
      (∃ word, segments ((Placeholder.mk "n" sizes).tag "very (big)") = [.fragment word]) ∧
      (¬ ∃ word, segments ((Placeholder.mk "n" sizes).tag "very (big)") = [.fragment word] ∧
        tagName? word = some "n") ∧
      "n" ∈ keyNames ("Eine " ++ (Placeholder.mk "n" sizes).tag "small" ++ " Kiste") := by
  have haccepted : Domain.of "size" sizes.categories Value.shown = .ok sizes := Domain.of_self sizes
  have hword : "size(n)" ∈ fragments (braced "size(n)" ++ " box") := by decide +kernel
  have hparse : Placeholder.parse sizedLanguages "en" "size(n)" = .ok ⟨"n", sizes⟩ := rfl
  obtain ⟨-, -, -, htags, -⟩ := tags_of_accepted_domain haccepted hword hparse rfl
  obtain ⟨-, hfragment, hread, -⟩ := htags ⟨"very (big)", Standard.isText "L"⟩ (by simp [sizes])
  obtain ⟨-, -, -, hsmall⟩ := htags (.catchAll "small") (by simp [sizes])
  refine ⟨haccepted, hword, hparse, hfragment.2 (by decide), ?_, ?_⟩
  · exact fun h => absurd (hread.1 h).2 (by decide)
  · exact hsmall (by decide) (by decide) "Eine " " Kiste"

end Phrasebook
