import Phrasebook.Pattern.Rendering
import Phrasebook.Proofs.Pattern.Selection

/-!
What is put into a translated text. A bare name stands for the first placeholder of that name
(`Parsed.inserted?_name`); the tag that the key has for a placeholder stands for a placeholder with
the same domain and name, so it shows the value in the way of that placeholder
(`Parsed.inserted?_tagWord`). For this reason a key that is its own translation reads like the
pattern (`render_key_eq_passThrough`).
-/
namespace Phrasebook

theorem braced_inj {word word' : String} : braced word = braced word' ↔ word = word' := by
  refine ⟨fun h => ?_, congrArg braced⟩
  have hlist := congrArg String.toList h
  rw [toList_braced, toList_braced, List.cons.injEq] at hlist
  exact String.toList_inj.1 (List.append_cancel_right hlist.2)

namespace Placeholder

theorem isMeantBy_iff {placeholder : Placeholder} {value : Value} {word : String} :
    placeholder.isMeantBy value word = true ↔
      word = placeholder.name ∨ ∃ category, placeholder.domain.category? value = some category ∧
        word = placeholder.tagWord category.name := by
  unfold isMeantBy
  cases hcategory : placeholder.domain.category? value with
  | none => simp
  | some category =>
    simp only [Bool.or_eq_true, beq_iff_eq, tag_eq_braced, braced_inj, Option.some.injEq,
      exists_eq_left']
    exact or_congr_right eq_comm

theorem tagWord_ne_of_isPlain {word : String} (hword : isPlain word = true)
    (placeholder : Placeholder) (category : String) : placeholder.tagWord category ≠ word := by
  intro heq
  have hcount := count_close_of_isPlain hword
  rw [← heq, toList_tagWord] at hcount
  simp at hcount

/-- The words of a translated text that refer to a placeholder: its name, and the tag that its value
calls for. -/
inductive AnswersTo (placeholder : Placeholder) (values : Values) : String → Prop
  | name : AnswersTo placeholder values placeholder.name
  | tag {word : String} {value : Value} {category : Category}
      (hselects : placeholder.Selects values value category)
      (htag : braced word = placeholder.tag category.name) : AnswersTo placeholder values word

theorem isMeantBy_iff_answersTo {placeholder : Placeholder} {values : Values} {value : Value}
    {word : String} (hvalue : values[placeholder.name]? = some value) :
    placeholder.isMeantBy value word = true ↔ placeholder.AnswersTo values word := by
  rw [isMeantBy_iff]
  constructor
  · rintro (rfl | ⟨category, hcategory, rfl⟩)
    · exact .name
    · exact .tag ⟨hvalue, hcategory⟩ (tag_eq_braced _ _).symm
  · rintro (_ | ⟨hselects, htag⟩)
    · exact .inl rfl
    · rw [tag_eq_braced, braced_inj] at htag
      obtain rfl := Option.some.inj (hvalue.symm.trans hselects.1)
      exact .inr ⟨_, hselects.2, htag⟩

theorem insertion?_eq_some {placeholder : Placeholder} {values : Values} {word text : String} :
    placeholder.insertion? values word = some text ↔
      placeholder.AnswersTo values word ∧ ∃ value, values[placeholder.name]? = some value ∧
        placeholder.domain.format value = text := by
  unfold insertion?
  cases hvalue : values[placeholder.name]? with
  | none => simp
  | some value =>
    rw [← isMeantBy_iff_answersTo hvalue]
    by_cases hmeant : placeholder.isMeantBy value word = true <;> simp [hmeant]

theorem answersTo_iff_of_isPlain {word : String} (hword : isPlain word = true)
    {placeholder : Placeholder} {values : Values} :
    placeholder.AnswersTo values word ↔ placeholder.name = word := by
  constructor
  · rintro (_ | ⟨-, htag⟩)
    · rfl
    · rw [tag_eq_braced, braced_inj] at htag
      exact absurd htag.symm (tagWord_ne_of_isPlain hword _ _)
  · rintro rfl
    exact .name

theorem insertion?_of_isPlain {word : String} (hword : isPlain word = true)
    (placeholder : Placeholder) (values : Values) :
    placeholder.insertion? values word =
      if placeholder.name = word then values[word]?.map placeholder.domain.format else none := by
  rw [Option.ext_iff]
  intro text
  rw [insertion?_eq_some, answersTo_iff_of_isPlain hword]
  by_cases hname : placeholder.name = word
  · simp [hname]
  · simp [hname]

theorem sourceText_undefined {placeholder : Placeholder} {values : Values}
    (h : values[placeholder.name]? = some .undefined) :
    placeholder.sourceText values = braced placeholder.name := by
  rw [sourceText, h]

theorem sourceText_eq {placeholder : Placeholder} {values : Values} {value : Value}
    (h : values[placeholder.name]? = some value) (hvalue : value ≠ .undefined) :
    placeholder.sourceText values = placeholder.domain.format value := by
  unfold sourceText
  rw [h]
  cases value with
  | undefined => contradiction
  | _ => rfl

theorem resolveDomain_of_parse {languages : Languages} {code word : String}
    {placeholder : Placeholder} (h : parse languages code word = .ok placeholder) :
    languages.resolveDomain code placeholder.domain.name = .ok placeholder.domain := by
  obtain ⟨domainName, -, -, hresolve⟩ := exists_of_parse h
  rw [(Languages.resolveDomain_eq_ok hresolve).1, hresolve]

end Placeholder

namespace Pattern

def inserted? (pattern : Pattern) (values : Values) (word : String) : Option String :=
  pattern.placeholders.findSome? fun place => place.2.insertion? values word

theorem findSome?_eq_some_of_forall {α β : Type} {find : α → Option β} {items : List α} {found : β}
    (hsome : ∃ item ∈ items, find item = some found)
    (hall : ∀ item ∈ items, ∀ other, find item = some other → other = found) :
    items.findSome? find = some found := by
  obtain ⟨item, hitem, hfind⟩ := hsome
  cases hfirst : items.findSome? find with
  | none =>
    rw [List.findSome?_eq_none_iff] at hfirst
    rw [hfirst item hitem] at hfind
    contradiction
  | some first =>
    obtain ⟨other, hother, hvalue⟩ := List.exists_of_findSome?_eq_some hfirst
    rw [hall other hother first hvalue]

theorem fill_eq_replaceFragments (pattern : Pattern) (values : Values) (template : String) :
    pattern.fill values template =
      replaceFragments (fun word => (pattern.inserted? values word).getD (braced word)) template :=
  rfl

theorem inserted?_eq_none_iff {pattern : Pattern} {values : Values} {word : String} :
    pattern.inserted? values word = none ↔ ∀ place ∈ pattern.placeholders,
      place.2.AnswersTo values word → values[place.2.name]? = none := by
  rw [inserted?, List.findSome?_eq_none_iff]
  refine forall₂_congr fun place _ => ?_
  rw [Option.eq_none_iff_forall_ne_some, Option.eq_none_iff_forall_ne_some]
  constructor
  · exact fun h hanswers value hvalue =>
      h _ (Placeholder.insertion?_eq_some.2 ⟨hanswers, value, hvalue, rfl⟩)
  · intro h text htext
    obtain ⟨hanswers, value, hvalue, -⟩ := Placeholder.insertion?_eq_some.1 htext
    exact h hanswers value hvalue

theorem findSome?_insertion?_of_isPlain {word : String} (hword : isPlain word = true)
    (values : Values) (places : List (String × Placeholder)) :
    (places.findSome? fun place => place.2.insertion? values word) =
      (places.find? (·.2.name == word)).bind fun place =>
        values[word]?.map place.2.domain.format := by
  induction places with
  | nil => rfl
  | cons place places ih =>
    rw [List.findSome?_cons, List.find?_cons, Placeholder.insertion?_of_isPlain hword]
    by_cases hname : place.2.name = word
    · rw [if_pos hname, beq_iff_eq.2 hname]
      cases hvalue : values[word]? with
      | some value => rfl
      | none =>
        -- Without a value for the name no later placeholder of it puts anything in either.
        simp only [hvalue] at ih ⊢
        simpa using ih
    · rw [if_neg hname, beq_eq_false_iff_ne.2 hname]
      exact ih

theorem inserted?_of_isPlain {word : String} (hword : isPlain word = true) (pattern : Pattern)
    (values : Values) :
    pattern.inserted? values word =
      (pattern.placeholders.find? (·.2.name == word)).bind fun place =>
        values[word]?.map place.2.domain.format :=
  findSome?_insertion?_of_isPlain hword values pattern.placeholders

namespace Parsed

variable {languages : Languages} {code source : String} {pattern : Pattern} {values : Values}

theorem domain_eq (parsed : Parsed languages code source pattern)
    {place place' : String × Placeholder} (hplace : place ∈ pattern.placeholders)
    (hplace' : place' ∈ pattern.placeholders) (h : place.2.domain.name = place'.2.domain.name) :
    place.2.domain = place'.2.domain := by
  have hresolve := Placeholder.resolveDomain_of_parse (parsed.parse_eq place hplace)
  rw [h, Placeholder.resolveDomain_of_parse (parsed.parse_eq place' hplace')] at hresolve
  exact (Except.ok.inj hresolve).symm

theorem inserted?_name (parsed : Parsed languages code source pattern)
    {before after : List (String × Placeholder)} {place : String × Placeholder} {value : Value}
    (hplaces : pattern.placeholders = before ++ place :: after)
    (hfirst : ∀ other ∈ before, other.2.name ≠ place.2.name)
    (hvalue : values[place.2.name]? = some value) :
    pattern.inserted? values place.2.name = some (place.2.domain.format value) := by
  have hplace : place ∈ pattern.placeholders := hplaces ▸ by simp
  have hfound : pattern.placeholders.find? (·.2.name == place.2.name) = some place := by
    rw [List.find?_eq_some_iff_append]
    exact ⟨beq_self_eq_true _, before, after, hplaces, fun other hother => by
      simpa using hfirst other hother⟩
  rw [inserted?_of_isPlain (parsed.reads hplace).isPlain_name, hfound, Option.bind_some, hvalue,
    Option.map_some]

theorem inserted?_tagWord (parsed : Parsed languages code source pattern)
    {place : String × Placeholder} (hplace : place ∈ pattern.placeholders) {value : Value}
    {category : Category} (hselects : place.2.Selects values value category) :
    pattern.inserted? values (place.2.tagWord category.name) =
      some (place.2.domain.format value) := by
  apply findSome?_eq_some_of_forall
  · exact ⟨place, hplace, Placeholder.insertion?_eq_some.2
      ⟨.tag hselects (Placeholder.tag_eq_braced _ _).symm, value, hselects.1, rfl⟩⟩
  · intro other hother text htext
    obtain ⟨hanswers, value', hvalue', rfl⟩ := Placeholder.insertion?_eq_some.1 htext
    have hplain := (parsed.reads hplace).isPlain_name
    have hplain' := (parsed.reads hother).isPlain_name
    obtain ⟨hdomain, hname⟩ : place.2.domain.name = other.2.domain.name ∧
        place.2.name = other.2.name := by
      generalize htag : place.2.tagWord category.name = word at hanswers
      cases hanswers with
      | name =>
        exact absurd htag (Placeholder.tagWord_ne_of_isPlain hplain' place.2 category.name)
      | tag _ heq =>
        rw [← htag, Placeholder.tag_eq_braced, braced_inj] at heq
        exact (Placeholder.tagWord_inj hplain hplain' heq).2
    rw [← hname, hselects.1] at hvalue'
    rw [parsed.domain_eq hother hplace hdomain.symm, Option.some.inj hvalue']

end Parsed

theorem render_of_lookupKey {pattern : Pattern} {values : Values} {key : String}
    (hkey : pattern.lookupKey values = .ok key) (find? : String → Option String) :
    pattern.render values find? = .ok
      (match find? key with
      | some template => { text := pattern.fill values template, key, translated := true }
      | none => { text := pattern.passThrough values, key, translated := false }) := by
  unfold render
  rw [hkey]
  simp only [bind, Except.bind]
  cases find? key <;> rfl

theorem find?_word_eq_some {places : List (String × Placeholder)}
    (hwords : (places.map Prod.fst).Nodup) {place : String × Placeholder}
    (hplace : place ∈ places) : places.find? (·.1 == place.1) = some place := by
  cases hfound : places.find? (·.1 == place.1) with
  | none => simpa using List.find?_eq_none.1 hfound place hplace
  | some other =>
    have hword := List.find?_some hfound
    have hother := List.mem_of_find?_eq_some hfound
    rw [List.inj_on_of_nodup_map hwords hother hplace (beq_iff_eq.1 hword)]

theorem Parsed.passThrough_eq {languages : Languages} {code source : String} {pattern : Pattern}
    {values : Values} {shown : String → String} (parsed : Parsed languages code source pattern)
    (hshown : ∀ place ∈ pattern.placeholders, shown place.1 = place.2.sourceText values) :
    pattern.passThrough values = replaceFragments shown source := by
  unfold passThrough
  rw [parsed.source_eq]
  apply replaceFragments_congr
  intro word hword
  rw [← parsed.mem_words] at hword
  obtain ⟨place, hplace, rfl⟩ := List.mem_map.1 hword
  rw [find?_word_eq_some parsed.nodup_words hplace]
  exact (hshown place hplace).symm

theorem fill_keyFor_eq_passThrough {languages : Languages} {code source : String}
    {pattern : Pattern} {values : Values} {choice : List Category}
    (parsed : Parsed languages code source pattern) (hlanguages : languages.CategoriesBraceFree)
    (hchoice : SelectsAll values pattern.placeholders choice)
    (hgiven : ∀ place ∈ pattern.placeholders, values[place.2.name]? ≠ some .undefined) :
    pattern.fill values (pattern.keyFor choice) = pattern.passThrough values := by
  have independent := parsed.independent hlanguages
  rw [fill_eq_replaceFragments, keyFor, replaceFragments_replaceFragments, parsed.source_eq]
  · refine (parsed.passThrough_eq fun place hplace => ?_).symm
    obtain ⟨value, category, hselects, hwordFor⟩ :=
      hchoice.exists_wordFor independent.nodup hplace
    have hvalue : value ≠ .undefined := fun heq => hgiven place hplace (heq ▸ hselects.1)
    rw [hwordFor, parsed.inserted?_tagWord hplace hselects,
      Placeholder.sourceText_eq hselects.1 hvalue, Option.getD_some]
  · intro word hword
    exact independent.braceFree_wordFor hchoice.mem_choices (braceFree_of_mem_fragments hword)

/-- A key that is its own translation is rendered as the pattern is without a translation. -/
theorem render_key_eq_passThrough {languages : Languages} {code source : String}
    {pattern : Pattern} {values : Values} {key : String}
    (hlanguages : languages.CategoriesBraceFree)
    (hparse : parse languages code source = .ok pattern)
    (hgiven : ∀ place ∈ pattern.placeholders, values[place.2.name]? ≠ some .undefined)
    (hkey : pattern.lookupKey values = .ok key) (itself? nothing? : String → Option String)
    (hitself : itself? key = some key) (hnothing : nothing? key = none) :
    ∃ text, pattern.render values itself? = .ok { text, key, translated := true } ∧
      pattern.render values nothing? = .ok { text, key, translated := false } := by
  have parsed := parsed_of_parse hparse
  obtain ⟨choice, hchoice, rfl⟩ :=
    exists_keyFor_of_lookupKey (parsed.independent hlanguages) hkey
  refine ⟨pattern.passThrough values, ?_, ?_⟩
  · rw [render_of_lookupKey hkey, hitself]
    simp only
    rw [fill_keyFor_eq_passThrough parsed hlanguages hchoice hgiven]
  · rw [render_of_lookupKey hkey, hnothing]

/-- One name under two domains, a word that occurs twice, and unpaired braces. -/
theorem render_key_eq_passThrough_german :
    ∃ pattern key text,
      (Languages.ofLanguages Standard.languages).CategoriesBraceFree ∧
      parse (Languages.ofLanguages Standard.languages) "de"
        ("\x7d" ++ braced "gender(g)" ++ "\x7b" ++ braced "g" ++ braced "gender(g)") =
          .ok pattern ∧
      pattern.lookupKey {("g", .text "male")} = .ok key ∧
      pattern.render {("g", .text "male")} some = .ok { text, key, translated := true } ∧
      pattern.render {("g", .text "male")} (fun _ => none) =
        .ok { text, key, translated := false } ∧
      text = "\x7dmännlich\x7bmalemännlich" := by
  have hparse : ∃ pattern key, parse (Languages.ofLanguages Standard.languages) "de"
      ("\x7d" ++ braced "gender(g)" ++ "\x7b" ++ braced "g" ++ braced "gender(g)") =
        .ok pattern ∧
      pattern.lookupKey {("g", .text "male")} = .ok key ∧
      pattern.passThrough {("g", .text "male")} = "\x7dmännlich\x7bmalemännlich" ∧
      ∀ place ∈ pattern.placeholders,
        ({("g", .text "male")} : Values)[place.2.name]? ≠ some .undefined :=
    ⟨_, _, rfl, rfl, by decide +kernel, by decide +kernel⟩
  obtain ⟨pattern, key, hparse, hkey, htext, hgiven⟩ := hparse
  obtain ⟨text, hitself, hnothing⟩ := render_key_eq_passThrough
    Languages.categoriesBraceFree_standard hparse hgiven hkey some (fun _ => none) rfl rfl
  refine ⟨pattern, key, text, Languages.categoriesBraceFree_standard, hparse, hkey, hitself,
    hnothing, ?_⟩
  rw [render_of_lookupKey hkey] at hnothing
  rw [← htext]
  exact (congrArg Rendering.text (Except.ok.inj hnothing)).symm

end Pattern

end Phrasebook
