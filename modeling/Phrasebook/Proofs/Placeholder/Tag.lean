import Phrasebook.Placeholder
import Phrasebook.Proofs.Language.Resolution

/-!
The words of placeholders and of tags. A tag tells the category, the domain and the value name that
it was made from (`tagWord_inj`), whatever the category is called, because neither of the other two
has a parenthesis in it. For the same reason no tag can be read as a placeholder
(`Reads.tagWord_ne`).
-/
namespace Phrasebook

theorem isPlain_iff {text : String} :
    isPlain text = true ↔ ∀ c ∈ text.toList, isReserved c = false := by
  simp [isPlain]

theorem eq_of_plainRun_eq {chars front back : List Char} (h : plainRun chars = (front, back)) :
    chars = front ++ back ∧ isPlain (String.ofList front) = true := by
  cases h
  refine ⟨List.takeWhile_append_dropWhile.symm, ?_⟩
  rw [isPlain, String.toList_ofList]
  exact List.all_takeWhile

theorem application?_eq_some {chars : List Char} {outer inner : String}
    (h : application? chars = some (outer, inner)) :
    chars = outer.toList ++ '(' :: (inner.toList ++ [')']) ∧
      isPlain outer = true ∧ isPlain inner = true := by
  unfold application? at h
  split at h
  · contradiction
  · next front rest _ hfront =>
    split at h
    · next back hback =>
      cases h
      obtain ⟨rfl, houter⟩ := eq_of_plainRun_eq hfront
      obtain ⟨rfl, hinner⟩ := eq_of_plainRun_eq hback
      exact ⟨by simp, houter, hinner⟩
    · contradiction
  · contradiction

theorem application?_append {outer inner : String} (hne : outer ≠ "")
    (houter : isPlain outer = true) (hinner : isPlain inner = true) :
    application? (outer.toList ++ '(' :: (inner.toList ++ [')'])) = some (outer, inner) := by
  have hrest : plainRun (inner.toList ++ [')']) = (inner.toList, [')']) :=
    plainRun_append (isPlain_iff.1 hinner) rfl []
  rw [application?, plainRun_append (isPlain_iff.1 houter) rfl]
  cases houterChars : outer.toList with
  | nil => exact absurd (String.toList_inj.1 houterChars) hne
  | cons char chars =>
    simp only [hrest]
    rw [← houterChars, String.ofList_toList, String.ofList_toList]

theorem braceFree_of_isPlain {text : String} (h : isPlain text = true) : BraceFree text := by
  intro c hc
  have hreserved := isPlain_iff.1 h c hc
  simp_all [isReserved, isBrace]

theorem count_close_of_isPlain {text : String} (h : isPlain text = true) :
    text.toList.count ')' = 0 := by
  apply List.count_eq_zero_of_not_mem
  intro hmem
  have hreserved := isPlain_iff.1 h _ hmem
  simp [isReserved] at hreserved

theorem plain_append_inj {front front' rest rest' : List Char} {mark : Char}
    (hfront : ∀ c ∈ front, isReserved c = false) (hfront' : ∀ c ∈ front', isReserved c = false)
    (hmark : isReserved mark = true) (h : front ++ mark :: rest = front' ++ mark :: rest') :
    front = front' ∧ rest = rest' := by
  have hrun := congrArg plainRun h
  rw [plainRun_append hfront hmark, plainRun_append hfront' hmark] at hrun
  simpa using hrun

/-- In `outer(middle(inner))` the inner words cannot hold a parenthesis, but the outer one may. -/
theorem nested_inj {outer outer' middle middle' inner inner' : String}
    (hmiddle : isPlain middle = true) (hmiddle' : isPlain middle' = true)
    (hinner : isPlain inner = true) (hinner' : isPlain inner' = true)
    (h : outer.toList ++ '(' :: (middle.toList ++ '(' :: (inner.toList ++ [')', ')'])) =
      outer'.toList ++ '(' :: (middle'.toList ++ '(' :: (inner'.toList ++ [')', ')']))) :
    outer = outer' ∧ middle = middle' ∧ inner = inner' := by
  have hreserved {text : String} (htext : isPlain text = true) :
      ∀ c ∈ text.toList.reverse, isReserved c = false := by
    intro c hc
    exact isPlain_iff.1 htext c (List.mem_reverse.1 hc)
  -- Read from the right, where no parenthesis is met before the outer word is reached.
  have hlist := congrArg List.reverse h
  simp only [List.reverse_append, List.reverse_cons, List.reverse_nil,
    List.nil_append, List.cons_append, List.append_assoc, List.cons.injEq, true_and] at hlist
  obtain ⟨heqInner, hrest⟩ := plain_append_inj (hreserved hinner) (hreserved hinner') rfl hlist
  obtain ⟨heqMiddle, heqOuter⟩ :=
    plain_append_inj (hreserved hmiddle) (hreserved hmiddle') rfl hrest
  exact ⟨String.toList_inj.1 (List.reverse_inj.1 heqOuter),
    String.toList_inj.1 (List.reverse_inj.1 heqMiddle),
    String.toList_inj.1 (List.reverse_inj.1 heqInner)⟩

namespace Placeholder

def explicitWord (word : String) : String :=
  if hasParenthesis word then word else plainDomain ++ "(" ++ word ++ ")"

def tagWord (placeholder : Placeholder) (category : String) : String :=
  category ++ "(" ++ placeholder.domain.name ++ "(" ++ placeholder.name ++ "))"

theorem tag_eq_braced (placeholder : Placeholder) (category : String) :
    placeholder.tag category = braced (placeholder.tagWord category) :=
  rfl

theorem toList_tagWord (placeholder : Placeholder) (category : String) :
    (placeholder.tagWord category).toList = category.toList ++
      '(' :: (placeholder.domain.name.toList ++ '(' :: (placeholder.name.toList ++ [')', ')'])) := by
  simp [tagWord]

structure Reads (languages : Languages) (word : String) (placeholder : Placeholder) : Prop where
  name_ne_empty : placeholder.name ≠ ""
  isPlain_name : isPlain placeholder.name = true
  explicit : explicitWord word = placeholder.domain.name ++ "(" ++ placeholder.name ++ ")"
  known : ∃ language, languages.Knows language ∧ placeholder.domain ∈ language.domains

theorem isPlain_of_not_hasParenthesis {word : String} (hword : BraceFree word)
    (h : ¬ hasParenthesis word = true) : isPlain word = true := by
  rw [isPlain_iff]
  intro c hc
  have hbrace := hword c hc
  simp only [hasParenthesis, List.any_eq_true, not_exists, not_and] at h
  have hparenthesis := h c hc
  simp_all [isReserved, isBrace]

theorem splitWord_eq_ok {word domain name : String} (hword : BraceFree word)
    (h : splitWord word = .ok (domain, name)) :
    isPlain name = true ∧ explicitWord word = domain ++ "(" ++ name ++ ")" := by
  unfold splitWord at h
  split at h
  · next hparenthesis =>
    split at h
    · next names hnames =>
      cases h
      obtain ⟨hchars, -, hname⟩ := application?_eq_some hnames
      refine ⟨hname, ?_⟩
      rw [explicitWord, if_pos hparenthesis, ← String.ofList_toList (s := word), hchars]
      simp [← String.toList_inj]
    · contradiction
  · next hparenthesis =>
    cases h
    refine ⟨isPlain_of_not_hasParenthesis hword hparenthesis, ?_⟩
    rw [explicitWord, if_neg hparenthesis]

theorem splitWord_explicitWord {word : String} (hword : BraceFree word) :
    splitWord (explicitWord word) = splitWord word := by
  by_cases hparenthesis : hasParenthesis word = true
  · rw [explicitWord, if_pos hparenthesis]
  · have hplain := isPlain_of_not_hasParenthesis hword hparenthesis
    have hchars : (plainDomain ++ "(" ++ word ++ ")").toList =
        plainDomain.toList ++ '(' :: (word.toList ++ [')']) := by
      simp
    have hopen : hasParenthesis (plainDomain ++ "(" ++ word ++ ")") = true := by
      simp [hasParenthesis]
    rw [explicitWord, if_neg hparenthesis, splitWord, if_pos hopen, splitWord,
      if_neg hparenthesis, hchars, application?_append (by decide) (by decide) hplain]

theorem exists_of_parse {languages : Languages} {code word : String} {placeholder : Placeholder}
    (h : parse languages code word = .ok placeholder) :
    ∃ domainName, splitWord word = .ok (domainName, placeholder.name) ∧ placeholder.name ≠ "" ∧
      languages.resolveDomain code domainName = .ok placeholder.domain := by
  obtain ⟨⟨domainName, name⟩, hsplit, h⟩ := exists_of_bind_eq_ok h
  by_cases hempty : name = ""
  · simp [hempty, throw, throwThe, MonadExceptOf.throw, bind, Except.bind] at h
  · simp only [if_neg hempty] at h
    obtain ⟨domain, hresolve, heq⟩ := exists_of_bind_eq_ok h
    cases heq
    exact ⟨domainName, hsplit, hempty, hresolve⟩

theorem eq_of_splitWord_eq_error {word : String} {error : Error}
    (h : splitWord word = .error error) : error = .malformedPlaceholder word .shape := by
  unfold splitWord at h
  split at h
  · split at h
    · contradiction
    · exact (Except.error.inj h).symm
  · contradiction

theorem reads_of_parse {languages : Languages} {code word : String} {placeholder : Placeholder}
    (hword : BraceFree word) (h : parse languages code word = .ok placeholder) :
    Reads languages word placeholder := by
  obtain ⟨domainName, hsplit, hempty, hresolve⟩ := exists_of_parse h
  obtain ⟨hname, hknown⟩ := Languages.resolveDomain_eq_ok hresolve
  obtain ⟨hplain, hexplicit⟩ := splitWord_eq_ok hword hsplit
  exact ⟨hempty, hplain, hname ▸ hexplicit, hknown⟩

theorem braceFree_tagWord {placeholder : Placeholder} {category : String}
    (hcategory : BraceFree category) (hname : isPlain placeholder.name = true) :
    BraceFree (placeholder.tagWord category) := by
  have hdomain := braceFree_of_isPlain placeholder.domain.isPlain_name
  have hname := braceFree_of_isPlain hname
  intro c hc
  simp only [toList_tagWord, List.mem_append, List.mem_cons, List.not_mem_nil, or_false] at hc
  rcases hc with hc | rfl | hc | rfl | hc | rfl | rfl
  · exact hcategory c hc
  · rfl
  · exact hdomain c hc
  · rfl
  · exact hname c hc
  · rfl
  · rfl

theorem tagWord_inj {placeholder placeholder' : Placeholder} {category category' : String}
    (hname : isPlain placeholder.name = true) (hname' : isPlain placeholder'.name = true)
    (h : placeholder.tagWord category = placeholder'.tagWord category') :
    category = category' ∧ placeholder.domain.name = placeholder'.domain.name ∧
      placeholder.name = placeholder'.name := by
  apply nested_inj placeholder.domain.isPlain_name placeholder'.domain.isPlain_name hname hname'
  rw [← toList_tagWord, ← toList_tagWord, h]

namespace Reads

variable {languages : Languages} {word : String} {placeholder : Placeholder}

theorem count_close_le (reads : Reads languages word placeholder) :
    word.toList.count ')' ≤ 1 := by
  have hexplicit : (explicitWord word).toList.count ')' = 1 := by
    rw [reads.explicit]
    simp [count_close_of_isPlain placeholder.domain.isPlain_name,
      count_close_of_isPlain reads.isPlain_name]
  have hle : word.toList.count ')' ≤ (explicitWord word).toList.count ')' := by
    unfold explicitWord
    split
    · exact Nat.le_refl _
    · simp only [String.toList_append, List.count_append]
      omega
  omega

theorem tagWord_ne (reads : Reads languages word placeholder) (tagged : Placeholder)
    (category : String) : tagged.tagWord category ≠ word := by
  intro heq
  have hle := reads.count_close_le
  rw [← heq, toList_tagWord] at hle
  simp only [List.count_append, List.count_cons, List.count_nil, beq_self_eq_true, if_true] at hle
  omega

theorem braceFree_category (reads : Reads languages word placeholder)
    (hlanguages : languages.CategoriesBraceFree) {category : Category}
    (hcategory : category ∈ placeholder.domain.categories) : BraceFree category.name := by
  obtain ⟨language, hknown, hdomain⟩ := reads.known
  exact hlanguages language hknown placeholder.domain hdomain category hcategory

theorem explicitWord_eq {languages' : Languages} {word' : String} {placeholder' : Placeholder}
    (reads : Reads languages word placeholder) (reads' : Reads languages' word' placeholder')
    {category category' : String}
    (h : placeholder.tagWord category = placeholder'.tagWord category') :
    explicitWord word = explicitWord word' := by
  obtain ⟨-, hdomain, hname⟩ := tagWord_inj reads.isPlain_name reads'.isPlain_name h
  rw [reads.explicit, reads'.explicit, hdomain, hname]

end Reads

end Placeholder

end Phrasebook
