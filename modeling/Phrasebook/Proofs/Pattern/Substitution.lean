import Phrasebook.Proofs.Catalog.Pairing
import Phrasebook.Proofs.Pattern.Faults
import Phrasebook.Proofs.Pattern.Filling

/-!
Filling as one pass. What takes the place of a segment of a translated text depends on that segment,
the pattern and the values alone (`Fills`), and the filled text is what takes their places in a row
(`fill_in_one_pass`). So a text that was put in is not looked at again, and a text whose braces pair
up can be filled apart from the one that follows it.
-/
namespace Phrasebook

namespace Pattern

inductive Fills (pattern : Pattern) (values : Values) : Segment → String → Prop
  | literal (char : Char) : Fills pattern values (.literal char) (String.singleton char)
  /-- The first placeholder of the name counts, whatever the later ones are. -/
  | name {before after : List (String × Placeholder)} {place : String × Placeholder}
      {value : Value} (hplaces : pattern.placeholders = before ++ place :: after)
      (hfirst : ∀ other ∈ before, other.2.name ≠ place.2.name)
      (hvalue : values[place.2.name]? = some value) :
      Fills pattern values (.fragment place.2.name) (place.2.domain.format value)
  | tag {word : String} {place : String × Placeholder} {value : Value} {category : Category}
      (hplace : place ∈ pattern.placeholders)
      (hselects : place.2.Selects values value category)
      (htag : braced word = place.2.tag category.name) :
      Fills pattern values (.fragment word) (place.2.domain.format value)
  | other {word : String} (hname : ∀ place ∈ pattern.placeholders, place.2.name ≠ word)
      (htag : ∀ place ∈ pattern.placeholders, ∀ value category,
        place.2.Selects values value category → place.2.tag category.name ≠ braced word) :
      Fills pattern values (.fragment word) (braced word)

section

variable {languages : Languages} {code source : String} {pattern : Pattern} {values : Values}

/-- The text that takes the place of a segment, as `Fills` has it (`Parsed.fills_filling`). -/
def filling (pattern : Pattern) (values : Values) (segment : Segment) : String :=
  String.ofList
    (segment.rewrite fun word => (pattern.inserted? values word).getD (braced word))

theorem fill_eq_join (pattern : Pattern) (values : Values) (template : String) :
    pattern.fill values template =
      String.join ((segments template).map (pattern.filling values)) := by
  rw [fill_eq_replaceFragments, ← String.toList_inj, String.toList_join, List.flatMap_map]
  simp [replaceFragments, filling]

theorem Parsed.filling_eq_of_fills (parsed : Parsed languages code source pattern)
    {segment : Segment} {piece : String} (h : Fills pattern values segment piece) :
    pattern.filling values segment = piece := by
  cases h with
  | literal char => rfl
  | name hplaces hfirst hvalue =>
    simp [filling, Segment.rewrite, parsed.inserted?_name hplaces hfirst hvalue]
  | tag hplace hselects htag =>
    rw [Placeholder.tag_eq_braced, braced_inj] at htag
    subst htag
    simp [filling, Segment.rewrite, parsed.inserted?_tagWord hplace hselects]
  | @other word hname htag =>
    have hnone : pattern.inserted? values word = none := by
      rw [inserted?_eq_none_iff]
      intro place hplace hanswers
      cases hanswers with
      | name => exact absurd rfl (hname place hplace)
      | tag hselects heq => exact absurd heq.symm (htag place hplace _ _ hselects)
    simp [filling, Segment.rewrite, hnone]

theorem fills_braced {word : String}
    (hgiven : ∀ place ∈ pattern.placeholders, ∃ value, values[place.2.name]? = some value)
    (hnone : pattern.inserted? values word = none) :
    Fills pattern values (.fragment word) (braced word) := by
  have hanswers : ∀ place ∈ pattern.placeholders, ¬ place.2.AnswersTo values word := by
    intro place hplace hanswers
    obtain ⟨value, hvalue⟩ := hgiven place hplace
    rw [inserted?_eq_none_iff.1 hnone place hplace hanswers] at hvalue
    contradiction
  refine .other (fun place hplace heq => ?_) fun place hplace value category hselects heq => ?_
  · exact hanswers place hplace (heq ▸ .name)
  · exact hanswers place hplace (.tag hselects heq.symm)

theorem Parsed.fills_of_inserted? (parsed : Parsed languages code source pattern)
    {word text : String} (hinserted : pattern.inserted? values word = some text) :
    Fills pattern values (.fragment word) text := by
  obtain ⟨place, hplace, hinsertion⟩ := List.exists_of_findSome?_eq_some hinserted
  obtain ⟨hanswers, value, hvalue, rfl⟩ := Placeholder.insertion?_eq_some.1 hinsertion
  cases hanswers with
  | name =>
    -- Another placeholder may come first: the first one of this name.
    rw [inserted?_of_isPlain (parsed.reads hplace).isPlain_name] at hinserted
    obtain ⟨first, hfirst, hformat⟩ := Option.bind_eq_some_iff.1 hinserted
    obtain ⟨hname, before, after, hplaces, hbefore⟩ := List.find?_eq_some_iff_append.1 hfirst
    simp only [beq_iff_eq, Bool.not_eq_true', beq_eq_false_iff_ne] at hname hbefore
    rw [hvalue, Option.map_some, Option.some.injEq] at hformat
    rw [← hname] at hbefore hvalue ⊢
    rw [← hformat]
    exact .name hplaces hbefore hvalue
  | tag hselects htag =>
    obtain rfl := Option.some.inj (hvalue.symm.trans hselects.1)
    exact .tag hplace hselects htag

theorem Parsed.fills_filling (parsed : Parsed languages code source pattern)
    (hgiven : ∀ place ∈ pattern.placeholders, ∃ value, values[place.2.name]? = some value)
    (segment : Segment) : Fills pattern values segment (pattern.filling values segment) := by
  cases segment with
  | literal char => exact .literal char
  | fragment word =>
    cases hinserted : pattern.inserted? values word with
    | none => simpa [filling, Segment.rewrite, hinserted] using fills_braced hgiven hinserted
    | some text =>
      simpa [filling, Segment.rewrite, hinserted] using parsed.fills_of_inserted? hinserted

/-- A rendering shows what takes the place of each segment of the text that was found, one after
the other. Nothing around a fragment matters to what takes its place, and a text whose opening
braces are closed, as they are where braces pair up (`openingsClosed_of_bracesPairUp`), is filled
apart from what follows it. -/
theorem fill_in_one_pass {key : String} (hparse : parse languages code source = .ok pattern)
    (hkey : pattern.lookupKey values = .ok key) :
    pattern.placeholders.map Prod.fst = (fragments source).eraseDups ∧
      (∀ segment, ∃! piece, Fills pattern values segment piece) ∧
      (∀ template, (segments template).flatMap Segment.toList = template.toList ∧
        (∀ word ∈ fragments template, BraceFree word) ∧
        ∃ pieces, List.Forall₂ (Fills pattern values) (segments template) pieces ∧
          pattern.fill values template = String.join pieces ∧
          ∀ find?, find? key = some template → pattern.render values find? =
            .ok { text := String.join pieces, key, translated := true }) ∧
      (∀ before word after, BraceFree word → ∃ piece,
        Fills pattern values (.fragment word) piece ∧
          pattern.fill values (before ++ braced word ++ after) =
            pattern.fill values before ++ piece ++ pattern.fill values after) ∧
      ∀ front back, Segment.OpeningsClosed front.toList →
        pattern.fill values (front ++ back) =
          pattern.fill values front ++ pattern.fill values back := by
  have parsed := parsed_of_parse hparse
  have hgiven : ∀ place ∈ pattern.placeholders, ∃ value,
      values[place.2.name]? = some value := fun _ => exists_value_of_lookupKey hkey
  have hfills := parsed.fills_filling hgiven
  refine ⟨parsed.words_eq, fun segment => ?_, fun template => ?_, ?_, ?_⟩
  · exact ⟨_, hfills segment, fun piece hpiece => (parsed.filling_eq_of_fills hpiece).symm⟩
  · refine ⟨Segment.flatMap_toList_split _, fun word hword => braceFree_of_mem_fragments hword,
      (segments template).map (pattern.filling values), ?_, fill_eq_join pattern values template,
      fun find? htemplate => ?_⟩
    · rw [List.forall₂_map_right_iff, List.forall₂_same]
      exact fun segment _ => hfills segment
    · rw [render_of_lookupKey hkey, htemplate, ← fill_eq_join]
  · intro before word after hword
    refine ⟨_, hfills (.fragment word), ?_⟩
    rw [fill_eq_replaceFragments, replaceFragments_append_braced hword]
    simp [fill_eq_replaceFragments, filling, Segment.rewrite]
  · exact fun front back hfront => replaceFragments_append hfront _ back

end

/-- A value full of braces, two placeholders that share a name, and the tag of another category. -/
theorem fill_in_one_pass_german :
    ∃ pattern key values template,
      parse (Languages.ofLanguages Standard.languages) "de"
        (braced "gender(g)" ++ braced "g" ++ braced "who") = .ok pattern ∧
      values = {("g", .text "male"), ("who", .text (braced "g" ++ "\x7b$1"))} ∧
      pattern.lookupKey values = .ok key ∧
      template = "\x7b" ++ braced "who" ++ "\x7d" ++ braced "g" ++ braced "male(gender(g))" ++
        braced "female(gender(g))" ++ braced "x" ∧
      pattern.render values (fun _ => some template) =
        .ok { text := "\x7b" ++ braced "g" ++ "\x7b$1\x7dmännlichmännlich" ++
                braced "female(gender(g))" ++ braced "x",
              key, translated := true } ∧
      ∀ back, pattern.fill values (braced "who" ++ back) =
        braced "g" ++ "\x7b$1" ++ pattern.fill values back := by
  have hparse : ∃ pattern key,
      parse (Languages.ofLanguages Standard.languages) "de"
        (braced "gender(g)" ++ braced "g" ++ braced "who") = .ok pattern ∧
      pattern.lookupKey {("g", .text "male"), ("who", .text (braced "g" ++ "\x7b$1"))} =
        .ok key ∧
      pattern.fill {("g", .text "male"), ("who", .text (braced "g" ++ "\x7b$1"))}
        ("\x7b" ++ braced "who" ++ "\x7d" ++ braced "g" ++ braced "male(gender(g))" ++
          braced "female(gender(g))" ++ braced "x") =
        "\x7b" ++ braced "g" ++ "\x7b$1\x7dmännlichmännlich" ++
          braced "female(gender(g))" ++ braced "x" ∧
      pattern.fill {("g", .text "male"), ("who", .text (braced "g" ++ "\x7b$1"))}
        (braced "who") = braced "g" ++ "\x7b$1" :=
    ⟨_, _, rfl, rfl, by decide +kernel, by decide +kernel⟩
  obtain ⟨pattern, key, hparse, hkey, htext, hfront⟩ := hparse
  obtain ⟨-, -, hpieces, -, happend⟩ := fill_in_one_pass hparse hkey
  obtain ⟨-, -, pieces, -, hjoin, hrender⟩ := hpieces _
  refine ⟨pattern, key, _, _, hparse, rfl, hkey, rfl, ?_, fun back => ?_⟩
  · rw [hrender (fun _ => some _) rfl, ← hjoin, htext]
  · have hpairs : bracesPairUp false (braced "who").toList = true := by decide +kernel
    rw [happend _ back (openingsClosed_of_bracesPairUp hpairs).1, hfront]

end Pattern

end Phrasebook
