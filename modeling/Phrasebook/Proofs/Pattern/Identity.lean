import Phrasebook.Proofs.Pattern.Keys

/-!
Keys identify their patterns. A key comes apart in only one way into literal characters and tags,
and each tag tells the word that it stands for, up to the domain that a bare name leaves out. So
two patterns that have a key in common differ at most in whether they write `{n}` or `{plain(n)}`.
-/
namespace Phrasebook.Pattern

def explicit (source : String) : String :=
  replaceFragments (fun word => braced (Placeholder.explicitWord word)) source

/-- What sources have in common that differ at most in leaving out the plain domain. -/
structure Alike (source source' : String) : Prop where
  explicit_eq : explicit source = explicit source'
  names_eq : (fragments source).map Placeholder.splitWord =
    (fragments source').map Placeholder.splitWord
  literal_eq : replaceFragments (fun _ => "") source = replaceFragments (fun _ => "") source'

theorem replaceFragments_eq_of_map_eq {rename : String → String} {text text' : String}
    (h : (segments text).map (Segment.mapWord rename) =
      (segments text').map (Segment.mapWord rename)) (replacement : String → String) :
    replaceFragments (fun word => replacement (rename word)) text =
      replaceFragments (fun word => replacement (rename word)) text' := by
  have hflatMap (segments : List Segment) :
      segments.flatMap (Segment.rewrite fun word => replacement (rename word)) =
        (segments.map (Segment.mapWord rename)).flatMap (Segment.rewrite replacement) := by
    rw [List.flatMap_map]
    apply List.flatMap_congr
    intro segment _
    cases segment <;> rfl
  rw [replaceFragments, replaceFragments, hflatMap, hflatMap, h]

theorem exists_wordFor_eq {places : List (String × Placeholder)} {choice : List Category}
    (hchoice : choice ∈ choices places) {word : String} (hword : word ∈ places.map Prod.fst) :
    ∃ place ∈ places, place.1 = word ∧ ∃ category ∈ place.2.domain.categories,
      wordFor (places.zip choice) word = place.2.tagWord category.name := by
  have hlength : places.length ≤ choice.length := by
    have hsame := List.mem_sections_length hchoice
    rw [List.length_map] at hsame
    exact Nat.le_of_eq hsame.symm
  rw [← List.map_fst_zip hlength, List.map_map] at hword
  obtain ⟨pair, hpair, heq⟩ := List.mem_map.1 hword
  cases hfound : (places.zip choice).find? (·.1.1 == word) with
  | none =>
    have hne := List.find?_eq_none.1 hfound pair hpair
    simp only [beq_iff_eq] at hne
    exact absurd heq hne
  | some found =>
    obtain ⟨place, category⟩ := found
    have hmem := List.mem_of_find?_eq_some hfound
    have hfirst := List.find?_some hfound
    refine ⟨place, (List.of_mem_zip hmem).1, beq_iff_eq.1 hfirst, category,
      mem_categories_of_mem_zip hchoice hmem, ?_⟩
    simp [wordFor, hfound]

theorem mem_keys {pattern : Pattern} (h : Independent pattern.placeholders) {key : String} :
    key ∈ pattern.keys ↔ ∃ choice ∈ choices pattern.placeholders, pattern.keyFor choice = key := by
  rw [← Multiset.mem_coe, coe_keys_eq_map_keyFor h, Multiset.mem_map]
  simp only [Multiset.mem_coe]

section

variable {languages languages' : Languages} {code code' source source' : String}
  {pattern pattern' : Pattern}

theorem map_explicitWord_eq_of_keyFor_eq (parsed : Parsed languages code source pattern)
    (parsed' : Parsed languages' code' source' pattern')
    (hlanguages : languages.CategoriesBraceFree) (hlanguages' : languages'.CategoriesBraceFree)
    {choice choice' : List Category} (hchoice : choice ∈ choices pattern.placeholders)
    (hchoice' : choice' ∈ choices pattern'.placeholders)
    (h : pattern.keyFor choice = pattern'.keyFor choice') :
    (segments source).map (Segment.mapWord Placeholder.explicitWord) =
      (segments source').map (Segment.mapWord Placeholder.explicitWord) := by
  have hsegments := congrArg segments h
  rw [segments_keyFor (parsed.independent hlanguages) hchoice,
    segments_keyFor (parsed'.independent hlanguages') hchoice', parsed.source_eq,
    parsed'.source_eq] at hsegments
  apply Segment.map_mapWord_congr hsegments
  intro word hword word' hword' heq
  have hplace := parsed.mem_words.2 (mem_fragments.2 hword)
  have hplace' := parsed'.mem_words.2 (mem_fragments.2 hword')
  obtain ⟨place, hmem, rfl, category, -, htag⟩ := exists_wordFor_eq hchoice hplace
  obtain ⟨place', hmem', rfl, category', -, htag'⟩ := exists_wordFor_eq hchoice' hplace'
  rw [htag, htag'] at heq
  exact (parsed.reads hmem).explicitWord_eq (parsed'.reads hmem') heq

theorem alike_of_map_explicitWord_eq
    (h : (segments source).map (Segment.mapWord Placeholder.explicitWord) =
      (segments source').map (Segment.mapWord Placeholder.explicitWord)) :
    Alike source source' where
  explicit_eq := replaceFragments_eq_of_map_eq h braced
  names_eq := by
    have hsplit (text : String) : (fragments text).map Placeholder.splitWord =
        ((fragments text).map Placeholder.explicitWord).map Placeholder.splitWord := by
      rw [List.map_map]
      apply List.map_congr_left
      intro word hword
      exact (Placeholder.splitWord_explicitWord (braceFree_of_mem_fragments hword)).symm
    rw [hsplit, hsplit source', map_fragments, map_fragments, h]
  literal_eq := replaceFragments_eq_of_map_eq h fun _ => ""

theorem alike_of_common_key (hlanguages : languages.CategoriesBraceFree)
    (hlanguages' : languages'.CategoriesBraceFree)
    (hparse : parse languages code source = .ok pattern)
    (hparse' : parse languages' code' source' = .ok pattern') :
    (∀ key ∈ pattern.keys, key ∈ pattern'.keys → Alike source source') ∧
      ∀ values values' key, pattern.lookupKey values = .ok key →
        pattern'.lookupKey values' = .ok key → Alike source source' := by
  have parsed := parsed_of_parse hparse
  have parsed' := parsed_of_parse hparse'
  have hkeys : ∀ key ∈ pattern.keys, key ∈ pattern'.keys → Alike source source' := by
    intro key hkey hkey'
    obtain ⟨choice, hchoice, heq⟩ := (mem_keys (parsed.independent hlanguages)).1 hkey
    obtain ⟨choice', hchoice', heq'⟩ := (mem_keys (parsed'.independent hlanguages')).1 hkey'
    apply alike_of_map_explicitWord_eq
    exact map_explicitWord_eq_of_keyFor_eq parsed parsed' hlanguages hlanguages' hchoice hchoice'
      (heq.trans heq'.symm)
  refine ⟨hkeys, ?_⟩
  intro values values' key hselect hselect'
  exact hkeys key (mem_keys_of_lookupKey hselect) (mem_keys_of_lookupKey hselect')

end

theorem alike_of_common_key_bare :
    (Languages.ofLanguages Standard.languages).CategoriesBraceFree ∧
      ∃ pattern pattern',
        parse (Languages.ofLanguages Standard.languages) "en" (braced "n" ++ "\x7b") =
          .ok pattern ∧
        parse (Languages.ofLanguages Standard.languages) "de" (braced "plain(n)" ++ "\x7b") =
          .ok pattern' ∧
        (∃ key ∈ pattern.keys, key ∈ pattern'.keys) ∧
        Alike (braced "n" ++ "\x7b") (braced "plain(n)" ++ "\x7b") := by
  have hparse : ∃ pattern pattern',
      parse (Languages.ofLanguages Standard.languages) "en" (braced "n" ++ "\x7b") =
        .ok pattern ∧
      parse (Languages.ofLanguages Standard.languages) "de" (braced "plain(n)" ++ "\x7b") =
        .ok pattern' ∧
      ∃ key ∈ pattern.keys, key ∈ pattern'.keys :=
    ⟨_, _, rfl, rfl, by decide⟩
  obtain ⟨pattern, pattern', hparse, hparse', key, hkey, hkey'⟩ := hparse
  have halike := (alike_of_common_key Languages.categoriesBraceFree_standard
    Languages.categoriesBraceFree_standard hparse hparse').1 key hkey hkey'
  exact ⟨Languages.categoriesBraceFree_standard, pattern, pattern', hparse, hparse',
    ⟨key, hkey, hkey'⟩, halike⟩

end Phrasebook.Pattern
