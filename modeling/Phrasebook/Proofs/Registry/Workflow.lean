import Phrasebook.Proofs.Catalog.File
import Phrasebook.Proofs.Registry.Loading
import Phrasebook.Proofs.Source.Extraction

/-!
From the program text to the rendered text. The keys of every pattern in a codebase are extracted,
translated, saved and loaded again, and the key that values select is one of them; so no rendering
of a pattern that was extracted misses its translation (`render_of_extracted`).
-/
namespace Phrasebook.Registry

variable {registry : Registry} {code : String}

theorem WellFormed.exists_chain {codes : List String} (h : registry.WellFormed)
    (hcodes : registry.fallbackChain code = .ok codes) :
    ∃ language rest, registry.language? code = some language ∧ language.code = code ∧
      registry.languages.chain code = .ok (language :: rest) ∧
      codes = code :: rest.map (·.code) := by
  obtain ⟨chain, hchain, heq⟩ := exists_of_bind_eq_ok hcodes
  obtain ⟨language, rest, hlanguage, rfl⟩ := Languages.exists_cons_of_chain hchain
  have hcode := h.code_eq code language hlanguage
  refine ⟨language, rest, hlanguage, hcode, hchain, ?_⟩
  rw [← Except.ok.inj heq, List.map_cons, hcode]

theorem render_of_own {codes : List String} (hwell : registry.WellFormed)
    (hcodes : registry.fallbackChain code = .ok codes) {source : String} {pattern : Pattern}
    (hpattern : registry.pattern code source = .ok pattern) {values : Values} {key text : String}
    (hkey : pattern.lookupKey values = .ok key)
    (htext : registry.localText? code key = some text) :
    (registry.render code source values).1 = .ok (pattern.fill values text) := by
  obtain ⟨language, rest, hlanguage, hcode, hchain, -⟩ := hwell.exists_chain hcodes
  have htranslation : registry.translation? code key = some text := by
    rw [translation?_of_chain hchain, nearest?, List.findSome?_cons, hcode, htext]
  exact congrArg Prod.fst (render_of_translation? hlanguage hpattern hkey htranslation)

theorem exists_fallbackChain_standard (mode : RenderMode)
    (hcode : code ∈ Standard.languages.map (·.code)) :
    ∃ codes, (standard mode).fallbackChain code = .ok codes := by
  obtain ⟨language, hlanguage, rfl⟩ := List.mem_map.1 hcode
  simp only [Standard.languages, List.mem_cons, List.not_mem_nil, or_false] at hlanguage
  rcases hlanguage with rfl | rfl | rfl | rfl | rfl <;> exact ⟨_, rfl⟩

theorem exists_of_loadChain_of_save {before saved : FileTree} {folder file : String}
    {translated : Catalog} {codes : List String} (hwell : registry.WellFormed)
    (hcodes : registry.fallbackChain code = .ok codes)
    (hsave : Catalog.save before folder code translated = (saved, .ok file))
    (hothers : ∀ other ∈ codes, other ≠ code →
      ∃ found, Catalog.load saved folder other = .ok found) :
    ∃ loaded registry', registry.loadChain saved folder code = (.ok loaded, registry') ∧
      registry'.languages = registry.languages ∧ registry'.WellFormed ∧
      ∀ (key text : String), translated[key]? = some text →
        registry'.localText? code key = some text := by
  have hown := Catalog.load_of_save hsave
  have hall : ∀ other, ∃ found, other ∈ codes → Catalog.load saved folder other = .ok found := by
    intro other
    by_cases hmem : other ∈ codes
    · by_cases hcode : other = code
      · exact ⟨translated, fun _ => hcode ▸ hown⟩
      · obtain ⟨found, hfound⟩ := hothers other hmem hcode
        exact ⟨found, fun _ => hfound⟩
    · exact ⟨∅, fun hmem' => absurd hmem' hmem⟩
  obtain ⟨files, hfiles⟩ := Classical.axiomOfChoice hall
  obtain ⟨registry', hload, hmerged⟩ := exists_of_loadChain hwell hcodes hfiles
  have hpreserves := preserves_loadChain registry saved folder code
  rw [hload] at hpreserves
  refine ⟨_, registry', hload, hmerged.languages, hpreserves.wellFormed hwell, ?_⟩
  intro key text htext
  have hmem : code ∈ codes := by
    obtain ⟨_, _, -, -, -, rfl⟩ := hwell.exists_chain hcodes
    exact List.mem_cons_self
  have hfile : files code = translated := Except.ok.inj ((hfiles code hmem).symm.trans hown)
  rw [localText?, hmerged.catalog, if_pos hmem, hfile]
  simp [Catalog.getElem?_mergeCatalog, htext]

/-- A pattern anywhere in a codebase is extracted for a standard language, and the texts given to
its keys are saved; a fresh strict registry that loads them, with the other files of the chain
absent or in order, then renders the pattern from the text of the very key that the values
select. -/
theorem render_of_extracted {codebase before saved : FileTree}
    {callee path folder file : String} {mode : RenderMode} {options : ExtractionOptions}
    {catalog extracted translated : Catalog} {report : ExtractionReport}
    (hcode : code ∈ Standard.languages.map (·.code)) (hoptions : options.discardEmpty = false)
    (hextract : Source.extract codebase callee path (standard mode).languages code options
      catalog = .ok (extracted, report))
    (htranslated : ∀ key ∈ extracted, key ∈ translated)
    (hsave : Catalog.save before folder code translated = (saved, .ok file))
    (hothers : ∀ codes, (standard .strict).fallbackChain code = .ok codes →
      ∀ other ∈ codes, other ≠ code → ∃ found, Catalog.load saved folder other = .ok found) :
    ∃ loaded registry, (standard .strict).loadChain saved folder code = (.ok loaded, registry) ∧
      ∀ source pattern, Source.Occurs codebase callee path source →
        (standard mode).pattern code source = .ok pattern →
        ∀ values key, pattern.lookupKey values = .ok key →
          ∃ text, translated[key]? = some text ∧
            (registry.render code source values).1 = .ok (pattern.fill values text) := by
  obtain ⟨codes, hcodes⟩ := exists_fallbackChain_standard .strict hcode
  obtain ⟨loaded, registry, hload, hlanguages, hwell, htexts⟩ :=
    exists_of_loadChain_of_save (wellFormed_standard .strict) hcodes hsave (hothers codes hcodes)
  refine ⟨loaded, registry, hload, ?_⟩
  intro source pattern hoccurs hpattern values key hkey
  have hextracted : key ∈ extracted :=
    Source.mem_of_extract hextract hoptions hoccurs hpattern (Pattern.mem_keys_of_lookupKey hkey)
  obtain ⟨text, htext⟩ := Option.isSome_iff_exists.1
    (Std.ExtTreeMap.mem_iff_isSome_getElem?.1 (htranslated key hextracted))
  have hcodes' : registry.fallbackChain code = .ok codes := by
    rw [fallbackChain, hlanguages]
    exact hcodes
  have hpattern' : registry.pattern code source = .ok pattern := by
    rw [Registry.pattern, hlanguages]
    exact hpattern
  exact ⟨text, htext, render_of_own hwell hcodes' hpattern' hkey (htexts key text htext)⟩

def greetingCodebase : FileTree where
  entries := .ofList [
    ([".", "app"], Entry.directory),
    ([".", "app", "views"], Entry.directory),
    ([".", "app", "views", "main.js"], Entry.text "alert(t('Hello {name}'));")]

def greetingCatalog : Catalog :=
  Catalog.ofPairs [("Hello " ++ braced "plain(plain(name))", "Servus {name}")]

theorem render_of_extracted_greeting :
    ∃ saved loaded registry,
      Catalog.save {} "locales" "de_AT" greetingCatalog = (saved, .ok "locales/de_AT.json") ∧
      (standard .strict).loadChain saved "locales" "de_AT" = (.ok loaded, registry) ∧
      (registry.render "de_AT" "Hello {name}" (.ofList [("name", Value.text "Ann")])).1 =
        .ok "Servus Ann" := by
  have hscan : Source.scan greetingCodebase "t" "app" = .ok ["Hello {name}"] := by
    decide +kernel
  have hextract : Source.extract greetingCodebase "t" "app" (standard .passthrough).languages
      "de_AT" {} ∅ = .ok (Catalog.extract (standard .passthrough).languages "de_AT" {}
        ["Hello {name}"] ∅) := by
    rw [Source.extract, hscan]
    rfl
  have hsave : Catalog.save {} "locales" "de_AT" greetingCatalog =
      ((Catalog.save {} "locales" "de_AT" greetingCatalog).1, .ok "locales/de_AT.json") :=
    Prod.ext rfl (by decide +kernel)
  have hkeys : ∀ key ∈ (Catalog.extract (standard .passthrough).languages "de_AT" {}
      ["Hello {name}"] ∅).1.keys, key ∈ greetingCatalog := by
    decide +kernel
  have hothers : ∀ codes, (standard .strict).fallbackChain "de_AT" = .ok codes →
      ∀ other ∈ codes, other ≠ "de_AT" → ∃ found, Catalog.load
        (Catalog.save {} "locales" "de_AT" greetingCatalog).1 "locales" other = .ok found := by
    rintro codes hcodes other hother hne
    have hchain : (standard .strict).fallbackChain "de_AT" = .ok ["de_AT", "de", "root"] := rfl
    obtain rfl := Except.ok.inj (hcodes.symm.trans hchain)
    have habsent : ∀ other ∈ ["de", "root"], (Catalog.save {} "locales" "de_AT"
        greetingCatalog).1.contains (Catalog.path "locales" other) = false := by
      decide +kernel
    exact ⟨∅, Catalog.load_of_not_contains
      (habsent other ((List.mem_cons.1 hother).resolve_left hne))⟩
  obtain ⟨loaded, registry, hload, hrender⟩ := render_of_extracted (by decide) rfl hextract
    (fun key hkey => hkeys key (Std.ExtTreeMap.mem_keys.2 hkey)) hsave hothers
  have hpattern : ∃ pattern, (standard .passthrough).pattern "de_AT" "Hello {name}" = .ok pattern ∧
      pattern.lookupKey (.ofList [("name", Value.text "Ann")]) =
        .ok ("Hello " ++ braced "plain(plain(name))") ∧
      pattern.fill (.ofList [("name", Value.text "Ann")]) "Servus {name}" = "Servus Ann" :=
    ⟨_, rfl, rfl, by decide +kernel⟩
  obtain ⟨pattern, hpattern, hkey, hfill⟩ := hpattern
  have hoccurs : Source.Occurs greetingCodebase "t" "app" "Hello {name}" :=
    (Source.mem_scan_iff hscan).1 List.mem_cons_self
  obtain ⟨text, htext, hrender⟩ := hrender _ pattern hoccurs hpattern _ _ hkey
  obtain rfl : "Servus {name}" = text := by
    have hfound : greetingCatalog["Hello " ++ braced "plain(plain(name))"]? =
        some "Servus {name}" := rfl
    exact Option.some.inj (hfound.symm.trans htext)
  exact ⟨_, loaded, registry, hsave, hload, hfill ▸ hrender⟩

end Phrasebook.Registry
