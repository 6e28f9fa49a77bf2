import Phrasebook.Proofs.First
import Phrasebook.Proofs.Source.Literal

/-!
The search for calls. It goes through a text from left to right, skips a character where no call
starts, and goes on behind the literal where one does (`Searches`). A call that is written into a
text is found with its pattern, whatever the pattern is, and the search then goes on as in a text of
its own (`search_written_call`); so nothing in a literal is taken for a call.
-/
namespace Phrasebook.Source

def callHere? (callee : List Char) (before : Option Char) :
    List Char → Option (List Char × Char × List Char)
  | [] => none
  | char :: rest =>
    if !startsLikeWord callee || isBoundary before char then callAt? callee (char :: rest) else none

structure Hit where
  text : List Char
  content : List Char

/-- What a search finds in a text, where it depends on the character before the text whether a word
starts with it. -/
inductive Searches (callee : List Char) : Option Char → List Char → List Hit → Prop
  | done {before : Option Char} : Searches callee before [] []
  | call {before : Option Char} {text content after : List Char} {quote : Char} {hits : List Hit}
      (hcall : callHere? callee before text = some (content, quote, after))
      (hafter : Searches callee (some quote) after hits) :
      Searches callee before text (⟨text, content⟩ :: hits)
  | skip {before : Option Char} {char : Char} {rest : List Char} {hits : List Hit}
      (hnone : callHere? callee before (char :: rest) = none)
      (hrest : Searches callee (some char) rest hits) : Searches callee before (char :: rest) hits

variable {callee : List Char} {before : Option Char}

theorem callAt?_of_callHere? {text content after : List Char} {quote : Char}
    (h : callHere? callee before text = some (content, quote, after)) :
    callAt? callee text = some (content, quote, after) := by
  unfold callHere? at h
  split at h
  · contradiction
  · split at h
    · exact h
    · contradiction

theorem append_of_callHere? {text content after : List Char} {quote : Char}
    (h : callHere? callee before text = some (content, quote, after)) :
    ∃ front, text = front ++ quote :: after := by
  obtain ⟨gap, innerGap, written, -, -, -, -, heq⟩ :=
    callAt?_eq_some_iff.1 (callAt?_of_callHere? h)
  exact ⟨callee ++ gap ++ '(' :: (innerGap ++ quote :: written), by simp [heq]⟩

theorem literals_cons (callee : List Char) (before : Option Char) (char : Char)
    (rest : List Char) :
    literals callee before (char :: rest) =
      match callHere? callee before (char :: rest) with
      | some (content, quote, after) => content :: literals callee (some quote) after
      | none => literals callee (some char) rest := by
  rw [literals, callHere?]
  split
  · next h => simp only [h]
  · next h => simp only [h]

theorem Searches.literals_eq {text : List Char} {hits : List Hit}
    (h : Searches callee before text hits) :
    literals callee before text = hits.map Hit.content := by
  induction h with
  | done => rw [literals]; rfl
  | @call before text content after quote hits hcall _ ih =>
    cases text with
    | nil => contradiction
    | cons char rest =>
      rw [literals_cons, hcall]
      exact congrArg (content :: ·) ih
  | skip hnone _ ih =>
    rw [literals_cons, hnone]
    exact ih

theorem exists_searches (callee : List Char) (before : Option Char) (text : List Char) :
    ∃ hits, Searches callee before text hits := by
  induction hlength : text.length using Nat.strongRecOn generalizing before text with
  | ind length ih =>
    subst hlength
    cases text with
    | nil => exact ⟨[], .done⟩
    | cons char rest =>
      cases hcall : callHere? callee before (char :: rest) with
      | none =>
        obtain ⟨hits, hrest⟩ := ih rest.length (Nat.lt_succ_self _) (some char) rest rfl
        exact ⟨hits, .skip hcall hrest⟩
      | some parts =>
        obtain ⟨content, quote, after⟩ := parts
        obtain ⟨hits, hafter⟩ := ih after.length (length_callAt? (callAt?_of_callHere? hcall))
          (some quote) after rfl
        exact ⟨_, .call hcall hafter⟩

theorem Searches.exists_of_callHere? {text content after : List Char} {quote : Char}
    {hits : List Hit} (h : Searches callee before text hits)
    (hcall : callHere? callee before text = some (content, quote, after)) :
    ∃ later, Searches callee (some quote) after later ∧ hits = ⟨text, content⟩ :: later := by
  cases h with
  | done => contradiction
  | call hcall' hafter =>
    cases hcall.symm.trans hcall'
    exact ⟨_, hafter, rfl⟩
  | skip hnone =>
    rw [hnone] at hcall
    contradiction

theorem Searches.unique {text : List Char} {hits hits' : List Hit}
    (h : Searches callee before text hits) (h' : Searches callee before text hits') :
    hits = hits' := by
  induction h generalizing hits' with
  | done =>
    cases h' with
    | done => rfl
    | call hcall => contradiction
  | call hcall _ ih =>
    obtain ⟨later, hafter, rfl⟩ := h'.exists_of_callHere? hcall
    rw [ih hafter]
  | skip hnone _ ih =>
    cases h' with
    | call hcall =>
      rw [hnone] at hcall
      contradiction
    | skip _ hrest' => exact ih hrest'

theorem Searches.of_any_eq {before' : Option Char} {text : List Char} {hits : List Hit}
    (hbefore : before.any isWordChar = before'.any isWordChar)
    (h : Searches callee before text hits) : Searches callee before' text hits := by
  have hcall (text : List Char) : callHere? callee before text = callHere? callee before' text := by
    cases text with
    | nil => rfl
    | cons char rest => rw [callHere?, callHere?, isBoundary, isBoundary, hbefore]
  cases h with
  | done => exact .done
  | call h hafter => exact .call ((hcall _).symm.trans h) hafter
  | skip h hrest => exact .skip ((hcall _).symm.trans h) hrest

theorem getLast?_append_cons_or (front back : List Char) (char : Char) (before : Option Char) :
    (front ++ char :: back).getLast?.or before = back.getLast?.or (some char) := by
  rw [List.getLast?_append, List.getLast?_cons]
  cases back.getLast? <;> rfl

theorem Searches.of_append {front text : List Char} {hits : List Hit}
    (hnone : ∀ before' back, back ≠ [] → back <:+ front →
      callHere? callee before' (back ++ text) = none)
    (h : Searches callee before (front ++ text) hits) :
    Searches callee (front.getLast?.or before) text hits := by
  induction front generalizing before with
  | nil => exact h
  | cons char front ih =>
    cases h with
    | call hcall =>
      have hnone := hnone before (char :: front) (by simp) List.suffix_rfl
      rw [hnone] at hcall
      contradiction
    | skip _ hrest =>
      have hsearch := ih (fun before' back hne hback =>
        hnone before' back hne (hback.trans (List.suffix_cons _ _))) hrest
      rwa [← List.nil_append (char :: front), getLast?_append_cons_or]

theorem Searches.exists_of_mem {text : List Char} {hits : List Hit}
    (h : Searches callee before text hits) {hit : Hit} (hmem : hit ∈ hits) :
    ∃ front, text = front ++ hit.text ∧
      (callHere? callee (front.getLast?.or before) hit.text).isSome = true := by
  induction h with
  | done => contradiction
  | @call before text content after quote hits hcall _ ih =>
    rcases List.mem_cons.1 hmem with rfl | hmem
    · exact ⟨[], rfl, by simp [hcall]⟩
    · obtain ⟨back, rfl, hstart⟩ := ih hmem
      obtain ⟨front, rfl⟩ := append_of_callHere? hcall
      refine ⟨front ++ quote :: back, by simp, ?_⟩
      rwa [getLast?_append_cons_or]
  | @skip before char rest hits _ _ ih =>
    obtain ⟨front, rfl, hstart⟩ := ih hmem
    refine ⟨char :: front, rfl, ?_⟩
    rwa [← List.nil_append (char :: front), getLast?_append_cons_or]

def startsInWord (text : String) : Bool :=
  text.toList.head?.any isWordChar

def endsInWord (text : String) : Bool :=
  text.toList.getLast?.any isWordChar

/-- The names of functions for which the search is sure to find a call. -/
structure Scannable (callee : String) : Prop where
  ne_empty : callee ≠ ""
  ascii : ∀ c ∈ callee.toList, c.toNat < 128
  not_isBlank : ∀ c ∈ callee.toList, isBlank c = false
  parenthesis_not_mem : '(' ∉ callee.toList

structure WrittenCall where
  gap : String
  innerGap : String
  quote : Char
  pattern : String
  isBlank_gap : ∀ c ∈ gap.toList, isBlank c = true
  isBlank_innerGap : ∀ c ∈ innerGap.toList, isBlank c = true
  isQuote_quote : IsQuote quote

def WrittenCall.text (call : WrittenCall) (callee : String) : String :=
  callee ++ call.gap ++ "(" ++ call.innerGap ++ String.singleton call.quote ++
    String.ofList (escape call.quote call.pattern.toList) ++ String.singleton call.quote

theorem WrittenCall.toList_text (call : WrittenCall) (callee : String) :
    (call.text callee).toList = callee.toList ++ call.gap.toList ++ '(' ::
      (call.innerGap.toList ++
        call.quote :: (escape call.quote call.pattern.toList ++ [call.quote])) := by
  simp [text]

theorem WrittenCall.callAt?_text (call : WrittenCall) (callee : String) (after : List Char) :
    callAt? callee.toList ((call.text callee).toList ++ after) =
      some (call.pattern.toList, call.quote, after) := by
  rw [callAt?_eq_some_iff]
  refine ⟨call.gap.toList, call.innerGap.toList, escape call.quote call.pattern.toList,
    call.isBlank_gap, call.isBlank_innerGap, call.isQuote_quote,
    spells_escape call.isQuote_quote _, ?_⟩
  simp [call.toList_text]

namespace Scannable

variable {callee : String}

theorem callHere?_append (h : Scannable callee) (before : Option Char) (rest : List Char) :
    callHere? callee.toList before (callee.toList ++ rest) =
      if before.any isWordChar && startsInWord callee then none
      else callAt? callee.toList (callee.toList ++ rest) := by
  cases hchars : callee.toList with
  | nil => exact absurd (String.toList_inj.1 hchars) h.ne_empty
  | cons first more =>
    have hfirst := isLetterOrNumber_or_eq_isWordChar (h.ascii first (by simp [hchars]))
    rw [List.cons_append, callHere?, startsInWord, hchars]
    simp only [startsLikeWord, isBoundary, hfirst, List.head?_cons, Option.any_some]
    by_cases hword : isWordChar first = true
    · cases before.any isWordChar <;> simp [hword]
    · simp [hword]

theorem callHere?_eq_none (h : Scannable callee) {front gap : List Char} (hne : front ≠ [])
    (hfront : '(' ∉ front) (hgap : ∀ c ∈ gap, isBlank c = true) (before : Option Char)
    (rest : List Char) :
    callHere? callee.toList before (front ++ (callee.toList ++ gap ++ '(' :: rest)) = none := by
  have hnotMem {gap : List Char} (hgap : ∀ c ∈ gap, isBlank c = true) : '(' ∉ gap :=
    fun hmem => absurd (hgap _ hmem) (by decide)
  rw [Option.eq_none_iff_forall_ne_some]
  rintro ⟨content, quote, after⟩ hcall
  obtain ⟨gap', innerGap, written, hgap', -, -, -, heq⟩ :=
    callAt?_eq_some_iff.1 (callAt?_of_callHere? hcall)
  rw [← List.append_assoc, ← List.append_assoc] at heq
  obtain ⟨hbefore, -⟩ := First.append_cons_inj
    (by simp [hfront, h.parenthesis_not_mem, hnotMem hgap])
    (by simp [h.parenthesis_not_mem, hnotMem hgap']) heq
  obtain ⟨last, more, hlast⟩ : ∃ last more, callee.toList.reverse = last :: more :=
    List.exists_cons_of_ne_nil (by simpa using h.ne_empty)
  have hblank : isBlank last = false :=
    h.not_isBlank last (List.mem_reverse.1 (by simp [hlast]))
  have hreverse := congrArg (fun chars => skipBlanks chars.reverse) hbefore
  simp only [List.reverse_append, hlast, List.cons_append] at hreverse
  rw [skipBlanks_append (by simpa using hgap) hblank,
    skipBlanks_append (by simpa using hgap') hblank] at hreverse
  simp [hne] at hreverse

end Scannable

theorem patterns_eq_of_searches {callee text : String} {hits : List Hit}
    (h : Searches callee.toList none text.toList hits) :
    patterns callee text = hits.map fun hit => String.ofList hit.content := by
  rw [patterns, h.literals_eq, List.map_map]
  rfl

theorem Scannable.callHere?_text {callee : String} (h : Scannable callee) (call : WrittenCall)
    (before : Option Char) (after : String) :
    callHere? callee.toList before (call.text callee ++ after).toList =
      if before.any isWordChar && startsInWord callee then none
      else some (call.pattern.toList, call.quote, after.toList) := by
  obtain ⟨rest, hrest⟩ : ∃ rest, (call.text callee).toList ++ after.toList =
      callee.toList ++ rest :=
    ⟨_, by rw [call.toList_text, List.append_assoc, List.append_assoc]⟩
  rw [String.toList_append, ← call.callAt?_text callee, hrest, h.callHere?_append]

theorem Scannable.searches_text {callee before after : String} {hits : List Hit}
    (hcallee : Scannable callee) (call : WrittenCall) (hbefore : '(' ∉ before.toList)
    (h : Searches callee.toList none (before ++ call.text callee ++ after).toList hits) :
    Searches callee.toList before.toList.getLast? (call.text callee ++ after).toList hits := by
  rw [String.append_assoc, String.toList_append] at h
  have hsearch := h.of_append fun before' back hne hback => by
    rw [String.toList_append, call.toList_text, List.append_assoc, List.cons_append]
    exact hcallee.callHere?_eq_none hne (fun hmem => hbefore (hback.subset hmem))
      call.isBlank_gap before' _
  rwa [Option.or_none] at hsearch

/-- The search finds a written call with its pattern, and nothing before it and in it, and goes on
behind it as if the text started there. Only where its name is the tail of a longer word does it not
find the call. -/
theorem search_written_call {callee : String} (hcallee : Scannable callee) (call : WrittenCall)
    {before : String} (hbefore : '(' ∉ before.toList) (after : String) :
    ∃ hits, Searches callee.toList none (before ++ call.text callee ++ after).toList hits ∧
      (∀ hits', Searches callee.toList none (before ++ call.text callee ++ after).toList hits' →
        hits' = hits) ∧
      patterns callee (before ++ call.text callee ++ after) =
        hits.map (fun hit => String.ofList hit.content) ∧
      ((endsInWord before && startsInWord callee) = false →
        patterns callee (before ++ call.text callee ++ after) =
          call.pattern :: patterns callee after ∧
        ∃ later, Searches callee.toList none after.toList later ∧
          hits = ⟨(call.text callee ++ after).toList, call.pattern.toList⟩ :: later) ∧
      ((endsInWord before && startsInWord callee) = true →
        ∀ hit ∈ hits, hit.text ≠ (call.text callee ++ after).toList) := by
  obtain ⟨hits, hsearch⟩ := exists_searches callee.toList none
    (before ++ call.text callee ++ after).toList
  have hpatterns := patterns_eq_of_searches hsearch
  have hhere := hcallee.callHere?_text call before.toList.getLast? after
  refine ⟨hits, hsearch, fun hits' h => h.unique hsearch, hpatterns, fun hword => ?_,
    fun hword hit hmem htext => ?_⟩
  · rw [endsInWord] at hword
    rw [hword, if_neg Bool.false_ne_true] at hhere
    obtain ⟨later, hafter, rfl⟩ :=
      (hcallee.searches_text call hbefore hsearch).exists_of_callHere? hhere
    -- A quote ends a word, as does the start of a text.
    have hlater : Searches callee.toList none after.toList later :=
      hafter.of_any_eq (by simp [call.isQuote_quote.not_isWordChar])
    refine ⟨?_, later, hlater, rfl⟩
    rw [hpatterns, patterns_eq_of_searches hlater, List.map_cons, String.ofList_toList]
  · obtain ⟨front, heq, hstart⟩ := hsearch.exists_of_mem hmem
    rw [String.append_assoc, String.toList_append, htext] at heq
    rw [endsInWord] at hword
    rw [← List.append_cancel_right heq, Option.or_none, htext, hhere, if_pos hword] at hstart
    contradiction

/-- A pattern that has a call in quotes in it and a backslash at its end. -/
theorem search_written_call_nested :
    ∃ call : WrittenCall, Scannable "t" ∧ call.pattern = "Say \"t('no')\" \\" ∧
      call.text "t" = "t (\n\"Say \\\"t('no')\\\" \\\\\"" ∧
      patterns "t" ("let x = " ++ call.text "t" ++ "); t('yes')") =
        call.pattern :: patterns "t" "); t('yes')" ∧
      ∃ hits, Searches "t".toList none ("prin" ++ call.text "t" ++ ")").toList hits ∧
        ∀ hit ∈ hits, hit.text ≠ (call.text "t" ++ ")").toList := by
  have hcallee : Scannable "t" :=
    ⟨by decide, List.forall_mem_singleton.2 (by decide), List.forall_mem_singleton.2 (by decide),
      by decide⟩
  have hcall : ∃ call : WrittenCall, call.pattern = "Say \"t('no')\" \\" ∧
      call.text "t" = "t (\n\"Say \\\"t('no')\\\" \\\\\"" :=
    ⟨⟨" ", "\n", '"', "Say \"t('no')\" \\", List.forall_mem_singleton.2 (by decide),
      List.forall_mem_singleton.2 (by decide), .inl rfl⟩, rfl, by decide +kernel⟩
  obtain ⟨call, hpattern, htext⟩ := hcall
  obtain ⟨_, -, -, -, hfound, -⟩ :=
    search_written_call hcallee call (show '(' ∉ "let x = ".toList by decide) "); t('yes')"
  obtain ⟨hits, hsearch, -, -, -, hmissed⟩ :=
    search_written_call hcallee call (show '(' ∉ "prin".toList by decide) ")"
  exact ⟨call, hcallee, hpattern, htext, (hfound (by decide +kernel)).1, hits, hsearch,
    hmissed (by decide +kernel)⟩

end Phrasebook.Source
