import Sift.Proofs.Replacement
import Sift.Proofs.Seams

/-!
Part of a text against the lower case of the whole. All characters but one become the same wherever
they stand. A capital sigma looks at its neighbours, past what is ignorable, and at an end of a part
it cannot see what the part was cut from: in front of a letter that is left out it becomes final. A
part is exposed if one of its sigmas can change so. The lower case of any other part stands in the
lower case of each text that the part stands in.
-/

namespace Sift

namespace Text

/-- The lower case of a text between the reversed text `before` and the text `after`. -/
def lowerBetween (before : List Char) : List Char → List Char → List Char
  | [], _ => []
  | c :: cs, after =>
      (if c = 'Σ' then [lowerSigma before (cs ++ after)] else lowerChar c) ++
        lowerBetween (c :: before) cs after

/-- The lower case of some sigma of a text depends on what the text is a part of: a cased character
in front would make it final, or one behind would keep it from that. -/
def Exposed (text : List Char) : Prop :=
  ∃ front rest, text = front ++ 'Σ' :: rest ∧
    (front.all isCaseIgnorable = true ∧ startsCased rest = false ∨
      rest.all isCaseIgnorable = true ∧ startsCased front.reverse = true)

/-- Whether a text that follows the reversed text `before` adds an exposed sigma to it. -/
def exposedAfter (before : List Char) : List Char → Bool
  | [] => false
  | c :: cs =>
      (c = 'Σ' && (before.all isCaseIgnorable && !startsCased cs ||
        cs.all isCaseIgnorable && startsCased before)) || exposedAfter (c :: before) cs

theorem exposedAfter_iff {before text : List Char} :
    exposedAfter before text = true ↔
      ∃ front rest, text = front ++ 'Σ' :: rest ∧
        ((front.reverse ++ before).all isCaseIgnorable = true ∧ startsCased rest = false ∨
          rest.all isCaseIgnorable = true ∧ startsCased (front.reverse ++ before) = true) := by
  induction text generalizing before with
  | nil => simp [exposedAfter]
  | cons c cs ih =>
      rw [exposedAfter, Bool.or_eq_true, ih]
      constructor
      · rintro (here | ⟨front, rest, rfl, sides⟩)
        · simp only [Bool.and_eq_true, decide_eq_true_eq, Bool.or_eq_true,
            Bool.not_eq_true'] at here
          exact ⟨[], cs, by rw [here.1, List.nil_append], here.2⟩
        · exact ⟨c :: front, rest, rfl, by simpa using sides⟩
      · rintro ⟨front, rest, split, sides⟩
        cases front with
        | nil =>
            obtain ⟨rfl, rfl⟩ := List.cons.inj split
            exact .inl (by simpa using sides)
        | cons first front =>
            obtain ⟨rfl, rfl⟩ := List.cons.inj split
            exact .inr ⟨front, rest, rfl, by simpa using sides⟩

instance (text : List Char) : Decidable (Exposed text) :=
  decidable_of_iff (exposedAfter [] text = true) (by simp [exposedAfter_iff, Exposed])

/-! What a sigma sees. -/

theorem sigma_counts : isCaseIgnorable 'Σ' = false := by decide +kernel

theorem startsCased_append (cs after : List Char) :
    startsCased (cs ++ after) =
      if cs.all isCaseIgnorable then startsCased after else startsCased cs := by
  induction cs with
  | nil => rfl
  | cons c cs ih =>
      cases ignorable : isCaseIgnorable c with
      | true =>
          have passed (tail : List Char) : startsCased (c :: tail) = startsCased tail := by
            simp only [startsCased, List.dropWhile_cons_of_pos ignorable]
          rw [List.cons_append, passed, passed, ih, List.all_cons, ignorable, Bool.true_and]
      | false => simp [startsCased, ignorable]

theorem startsCased_ignorable {cs : List Char} (ignorable : cs.all isCaseIgnorable = true) :
    startsCased cs = false := by
  have passed := startsCased_append cs []
  rw [List.append_nil, if_pos ignorable] at passed
  exact passed

/-- Behind a sigma nothing can be seen from before it. -/
theorem startsCased_sigma (cs after : List Char) :
    startsCased (cs ++ 'Σ' :: after) = startsCased (cs ++ ['Σ']) := by
  have seen : startsCased ('Σ' :: after) = startsCased ['Σ'] := by
    simp [startsCased, sigma_counts]
  rw [startsCased_append, startsCased_append, seen]

/-! Texts between others. -/

theorem lowerBetween_append (before left right after : List Char) :
    lowerBetween before (left ++ right) after =
      lowerBetween before left (right ++ after) ++
        lowerBetween (left.reverse ++ before) right after := by
  induction left generalizing before with
  | nil => rfl
  | cons c cs ih =>
      simp only [List.cons_append, lowerBetween, ih, List.append_assoc, List.reverse_cons,
        List.nil_append]

theorem lowerBetween_nil (before text : List Char) :
    lowerBetween before text [] = lowerAfter before text := by
  induction text generalizing before with
  | nil => rfl
  | cons c cs ih => rw [lowerBetween, lowerAfter, ih, List.append_nil]

/-- The lower case of a text, told at one of its sigmas. -/
theorem lowerBetween_sigma (before front rest after : List Char) :
    lowerBetween before (front ++ 'Σ' :: rest) after =
      lowerBetween before front ('Σ' :: rest ++ after) ++
        lowerSigma (front.reverse ++ before) (rest ++ after) ::
          lowerBetween ('Σ' :: (front.reverse ++ before)) rest after := by
  rw [lowerBetween_append]
  rfl

theorem lowerBetween_congr {before before' text after after' : List Char}
    (same : ∀ front rest, text = front ++ 'Σ' :: rest →
      lowerSigma (front.reverse ++ before) (rest ++ after) =
        lowerSigma (front.reverse ++ before') (rest ++ after')) :
    lowerBetween before text after = lowerBetween before' text after' := by
  induction text generalizing before before' with
  | nil => rfl
  | cons c cs ih =>
      have tail : lowerBetween (c :: before) cs after = lowerBetween (c :: before') cs after' := by
        apply ih
        intro front rest split
        have deeper := same (c :: front) rest (by rw [split, List.cons_append])
        simpa using deeper
      rw [lowerBetween, lowerBetween, tail]
      split
      next sigma =>
        subst sigma
        have head : lowerSigma before (cs ++ after) = lowerSigma before' (cs ++ after') :=
          same [] cs rfl
        rw [head]
      next => rfl

theorem lowerSigma_kept {text front rest : List Char} (covered : ¬ Exposed text)
    (split : text = front ++ 'Σ' :: rest) (before after : List Char) :
    lowerSigma (front.reverse ++ before) (rest ++ after) = lowerSigma front.reverse rest := by
  by_cases first : front.all isCaseIgnorable = true
  · -- Nothing before the sigma counts, so a cased character must follow it, and it decides alone.
    have cased : startsCased rest = true := by
      rw [← Bool.not_eq_false]
      intro uncased
      exact covered ⟨front, rest, split, .inl ⟨first, uncased⟩⟩
    have seen : rest.all isCaseIgnorable = false := by
      rw [Bool.eq_false_iff]
      intro ignorable
      rw [startsCased_ignorable ignorable] at cased
      cases cased
    simp [lowerSigma, startsCased_append, cased, seen]
  by_cases last : rest.all isCaseIgnorable = true
  · have uncased : startsCased front.reverse = false := by
      rw [Bool.eq_false_iff]
      intro cased
      exact covered ⟨front, rest, split, .inr ⟨last, cased⟩⟩
    simp [lowerSigma, startsCased_append, first, uncased]
  · simp [lowerSigma, startsCased_append, first, last]

/-- The lower case of a part that is not exposed stands in the lower case of the whole. -/
theorem lowercase_infix {part text : List Char} (covered : ¬ Exposed part)
    (stands : part <:+: text) : lowercase part <:+: lowercase text := by
  obtain ⟨front, rest, rfl⟩ := stands
  have same : lowerBetween front.reverse part rest = lowerBetween [] part [] := by
    apply lowerBetween_congr
    intro inner outer split
    simpa using lowerSigma_kept covered split front.reverse rest
  refine ⟨lowerBetween [] front (part ++ rest), lowerAfter (part.reverse ++ front.reverse) rest, ?_⟩
  rw [lowercase, lowercase, ← lowerBetween_nil, ← lowerBetween_nil, ← lowerBetween_nil,
    ← same, List.append_assoc front, lowerBetween_append, lowerBetween_append]
  simp

/-! Exposed texts, with a letter at the open end. -/

theorem lowerBetween_ignorable {text : List Char} (ignorable : text.all isCaseIgnorable = true)
    (before before' after after' : List Char) :
    lowerBetween before text after = lowerBetween before' text after' := by
  apply lowerBetween_congr
  intro front rest split
  simp [split, sigma_counts] at ignorable

theorem lowerBetween_behind_sigma (before before' text after : List Char) :
    lowerBetween ('Σ' :: before) text after = lowerBetween ('Σ' :: before') text after := by
  apply lowerBetween_congr
  intro front rest split
  rw [lowerSigma, lowerSigma, startsCased_sigma _ before, startsCased_sigma _ before']

theorem lowerBetween_before_sigma (before text after after' : List Char) :
    lowerBetween before text ('Σ' :: after) = lowerBetween before text ('Σ' :: after') := by
  apply lowerBetween_congr
  intro front rest split
  rw [lowerSigma, lowerSigma, startsCased_sigma _ after, startsCased_sigma _ after']

theorem not_infix_exchanged {front rest left right : List Char} {old new : Char}
    (differ : new ≠ old) (outside : old ∉ left ++ right) :
    ¬ front ++ old :: rest <:+: left ++ (front ++ new :: rest) ++ right := by
  intro stands
  have most := stands.sublist.count_le old
  have nowhere := List.count_eq_zero.mpr outside
  rw [List.count_append] at nowhere
  simp only [List.count_append, List.count_cons_self, List.count_cons_of_ne differ] at most
  omega

theorem final_behind_letter {front rest : List Char} (ignorable : front.all isCaseIgnorable = true)
    (uncased : startsCased rest = false) :
    ¬ lowercase (front ++ 'Σ' :: rest) <:+: lowercase ('a' :: (front ++ 'Σ' :: rest)) := by
  have alone : lowerSigma (front.reverse ++ []) (rest ++ []) = 'σ' := by
    have nothing : startsCased front.reverse = false :=
      startsCased_ignorable (by rwa [List.all_reverse])
    simp [lowerSigma, nothing]
  have behind : lowerSigma (front.reverse ++ ['a']) (rest ++ []) = 'ς' := by
    have letter : startsCased ['a'] = true := by decide
    simp [lowerSigma, startsCased_append, ignorable, uncased, letter]
  have whole : lowercase ('a' :: (front ++ 'Σ' :: rest)) =
      ['a'] ++ lowerBetween ['a'] (front ++ 'Σ' :: rest) [] ++ [] := by
    rw [List.append_nil, lowerBetween_nil]
    rfl
  rw [whole, lowercase, ← lowerBetween_nil, lowerBetween_sigma, lowerBetween_sigma, alone, behind,
    lowerBetween_ignorable ignorable ['a'] [] _ ('Σ' :: rest ++ []),
    lowerBetween_behind_sigma (front.reverse ++ ['a']) (front.reverse ++ [])]
  exact not_infix_exchanged (by decide) (by decide)

theorem inner_before_letter {front rest : List Char} (ignorable : rest.all isCaseIgnorable = true)
    (cased : startsCased front.reverse = true) :
    ¬ lowercase (front ++ 'Σ' :: rest) <:+: lowercase (front ++ 'Σ' :: rest ++ ['a']) := by
  have alone : lowerSigma (front.reverse ++ []) (rest ++ []) = 'ς' := by
    simp [lowerSigma, cased, startsCased_ignorable ignorable]
  have before : lowerSigma (front.reverse ++ []) (rest ++ ['a']) = 'σ' := by
    have letter : startsCased ['a'] = true := by decide
    simp [lowerSigma, startsCased_append, ignorable, letter]
  have whole : lowercase (front ++ 'Σ' :: rest ++ ['a']) =
      [] ++ lowerBetween [] (front ++ 'Σ' :: rest) ['a'] ++ ['a'] := by
    rw [lowercase, ← lowerBetween_nil, lowerBetween_append]
    rfl
  rw [whole, lowercase, ← lowerBetween_nil, lowerBetween_sigma, lowerBetween_sigma, alone, before,
    lowerBetween_ignorable ignorable _ ('Σ' :: (front.reverse ++ [])) ['a'] [],
    List.cons_append, List.cons_append,
    lowerBetween_before_sigma [] front (rest ++ ['a']) (rest ++ [])]
  exact not_infix_exchanged (by decide) (by decide)

/-- A letter at the open end changes one sigma of an exposed text, and nothing else of it. -/
theorem exposed_hidden {text : List Char} (exposed : Exposed text) :
    ∃ whole, text <:+: whole ∧ ¬ lowercase text <:+: lowercase whole := by
  obtain ⟨front, rest, rfl, ⟨ignorable, uncased⟩ | ⟨ignorable, cased⟩⟩ := exposed
  · exact ⟨_, ⟨['a'], [], by simp⟩, final_behind_letter ignorable uncased⟩
  · exact ⟨_, ⟨[], ['a'], rfl⟩, inner_before_letter ignorable cased⟩

end Text

namespace Suggestion

/-- What was typed stands, letter by letter, in the shown or the inserted text. -/
def Shows (suggestion : Suggestion) (typed : String) : Prop :=
  typed.toList <:+: suggestion.displayText.toList ∨ typed.toList <:+: suggestion.value.toList

theorem isMatch_iff {suggestion : Suggestion} {typed : String} :
    suggestion.isMatch typed = true ↔
      Text.lowercase typed.toList <:+: Text.lowercase suggestion.value.toList ∨
        Text.lowercase typed.toList <:+: Text.lowercase suggestion.displayText.toList := by
  have covered : typed.isEmpty = true →
      Text.lowercase typed.toList <:+: Text.lowercase suggestion.value.toList := by
    intro empty
    rw [String.isEmpty_iff.mp empty]
    exact List.nil_infix
  simp only [isMatch, Bool.or_eq_true, Text.occursInAnyCase, Text.occursIn_iff, or_assoc]
  exact or_iff_right_of_imp (fun empty => .inl (covered empty))

theorem shows_isMatch {suggestion : Suggestion} {typed : String}
    (covered : ¬ Text.Exposed typed.toList) (shows : suggestion.Shows typed) :
    suggestion.isMatch typed = true := by
  rw [isMatch_iff]
  rcases shows with shown | inserted
  · exact .inr (Text.lowercase_infix covered shown)
  · exact .inl (Text.lowercase_infix covered inserted)

/-- Some suggestion is hidden by an exposed part of it. -/
theorem exposed_unmatched {typed : String} (exposed : Text.Exposed typed.toList) :
    ∃ suggestion : Suggestion, suggestion.Shows typed ∧ suggestion.isMatch typed = false := by
  obtain ⟨whole, stands, hidden⟩ := Text.exposed_hidden exposed
  refine ⟨plain (String.ofList whole) .value, ?_, ?_⟩
  · exact .inl (by rwa [plain, String.toList_ofList])
  · rw [Bool.eq_false_iff, ne_eq, isMatch_iff]
    simpa [plain] using hidden

end Suggestion

namespace Lexer

theorem lexemes_quote (vocabulary : List String) (word : String) :
    lexemes vocabulary (Canonical.quote word) =
      [⟨.identifier word, 0, Canonical.quote word⟩] := by
  have read := (@holds_quote vocabulary word "").scan 0
  rw [String.toList_empty, List.append_nil, tokenOfSource_quote, scan_nil] at read
  exact read

end Lexer

namespace Catalog

open Text Lexer Completion

/-- All that could fill the slot at the cursor, whatever was typed of it. -/
def fillers (catalog : Catalog) (text : String) (cursor : Nat) : List Suggestion :=
  let before := Text.before text cursor
  let context := (splitTyped before (lexemes catalog.vocabulary before)).1
  candidates catalog (slotOf (context.map Lexeme.token)).2 (catalog.complete text cursor).slot

/-- A filler that shows what was typed is suggested. -/
def KeepsTyped (catalog : Catalog) (text : String) (cursor : Nat) : Prop :=
  ∀ suggestion ∈ catalog.fillers text cursor,
    suggestion.Shows (catalog.complete text cursor).typed →
      suggestion ∈ (catalog.complete text cursor).suggestions

theorem mem_suggestions {catalog : Catalog} {text : String} {cursor : Nat}
    {suggestion : Suggestion} :
    suggestion ∈ (catalog.complete text cursor).suggestions ↔
      suggestion ∈ catalog.fillers text cursor ∧
        suggestion.isMatch (catalog.complete text cursor).typed = true :=
  List.mem_filter

theorem complete_first {catalog : Catalog} {text name : String} {lexeme : Lexeme}
    (read : lexemes catalog.vocabulary text = [lexeme]) (stop : lexeme.stop = text.utf8ByteSize)
    (token : lexeme.token = .identifier name) (ends : endsInWord text = true) :
    (catalog.complete text text.utf8ByteSize).typed = name ∧
      catalog.fillers text text.utf8ByteSize =
        catalog.categories ++ [.plain "(" .openParen] := by
  have typing : isBeingTyped text lexeme = true := by
    simp [isBeingTyped, stop, token, ends]
  have split : splitTyped text (lexemes catalog.vocabulary text) = ([], some lexeme) := by
    rw [read]
    exact splitTyped_typed [] typing
  constructor
  · rw [(complete_typed (before_size text).symm split).2, typedText, token]
  · simp only [fillers, complete, before_size, split]
    rfl

/-- A catalog of one category, without operators and values. -/
def single (category : Suggestion) : Catalog where
  hasCategory := (· = category.displayText)
  hasOperator := fun _ _ => false
  categories := [category]
  operators := fun _ => []
  values := fun _ => []
  vocabulary := []

/-- Typed in quotes, an exposed word loses a category that shows it. -/
theorem exposed_lost {typed : String} (exposed : Text.Exposed typed.toList) :
    ∃ (catalog : Catalog) (text : String) (cursor : Nat),
      (catalog.complete text cursor).typed = typed ∧ ¬ catalog.KeepsTyped text cursor := by
  obtain ⟨category, stands, unmatched⟩ := Suggestion.exposed_unmatched exposed
  have ends : endsInWord (Canonical.quote typed) = true := by
    have visible : isBlank '"' = false := by decide
    simp [endsInWord, quote_toList, List.getLast?_cons, visible]
  have read := lexemes_quote (single category).vocabulary typed
  obtain ⟨same, fill⟩ := complete_first read (by simp [Lexeme.stop]) rfl ends
  refine ⟨single category, _, _, same, ?_⟩
  intro keeps
  have offered := keeps category (by rw [fill]; exact List.mem_cons_self) (by rwa [same])
  rw [mem_suggestions, same, unmatched] at offered
  cases offered.2

end Catalog

/-- A word finds every suggestion that shows it exactly if it is not exposed, and exactly then no
completion at which it is typed loses such a suggestion. -/
theorem verbatim_match_exact (typed : String) :
    ((∀ suggestion : Suggestion, suggestion.Shows typed → suggestion.isMatch typed = true) ↔
      ¬ Text.Exposed typed.toList) ∧
    ((∀ (catalog : Catalog) (text : String) (cursor : Nat),
        (catalog.complete text cursor).typed = typed → catalog.KeepsTyped text cursor) ↔
      ¬ Text.Exposed typed.toList) := by
  refine ⟨⟨?_, ?_⟩, ?_, ?_⟩
  · intro finds exposed
    obtain ⟨suggestion, stands, unmatched⟩ := Suggestion.exposed_unmatched exposed
    rw [finds suggestion stands] at unmatched
    cases unmatched
  · intro covered suggestion stands
    exact Suggestion.shows_isMatch covered stands
  · intro keeps exposed
    obtain ⟨catalog, text, cursor, same, loses⟩ := Catalog.exposed_lost exposed
    exact loses (keeps catalog text cursor same)
  · rintro covered catalog text cursor rfl suggestion listed stands
    exact Catalog.mem_suggestions.mpr ⟨listed, Suggestion.shows_isMatch covered stands⟩

/-! A name with a sigma in it, typed up to the sigma and past it. -/

def personColumn : Column :=
  ⟨"person", some "ΠΡΟΣΩΠΟ", .text, none⟩

def personGrid : Grid :=
  ⟨[⟨personColumn, []⟩]⟩

def personName : Suggestion :=
  ⟨"ΠΡΟΣΩΠΟ", "ΠΡΟΣΩΠΟ", .category⟩

theorem person_vocabulary : personGrid.catalog.vocabulary = defaultOperators := by decide +kernel

theorem person_categories : personGrid.catalog.categories = [personName] := by
  have bare : Canonical.isBare defaultOperators true "ΠΡΟΣΩΠΟ" = true :=
    (Lexer.isBare_iff true _).mpr
      ⟨⟨'Π', ['Ρ', 'Ο', 'Σ', 'Ω', 'Π', 'Ο'], rfl, by decide +kernel⟩, by decide +kernel⟩
  have literal : categoryLiteral defaultOperators "ΠΡΟΣΩΠΟ" = "ΠΡΟΣΩΠΟ" := if_pos bare
  have categories : personGrid.catalog.categories =
      [Grid.categorySuggestion personGrid.catalog.vocabulary "ΠΡΟΣΩΠΟ"] := rfl
  rw [categories, person_vocabulary, Grid.categorySuggestion, literal]
  rfl

theorem person_completes {text : String}
    (bare : Canonical.isBare defaultOperators true text = true)
    (ends : Completion.endsInWord text = true) :
    (personGrid.catalog.complete text text.utf8ByteSize).typed = text ∧
      personName ∈ personGrid.catalog.fillers text text.utf8ByteSize := by
  rw [← person_vocabulary] at bare
  obtain ⟨lexeme, ⟨read, -, stop⟩, token | ⟨impossible, -⟩⟩ :=
    (Lexer.isBare_opened true text).mp bare
  · obtain ⟨typed, fill⟩ := Catalog.complete_first read stop token ends
    exact ⟨typed, by simp [fill, person_categories]⟩
  · cases impossible

/-- With the next letter the sigma is inside of the typed word, as it is in the name. -/
theorem verbatim_match_exact_person :
    (personGrid.catalog.complete "ΠΡΟΣΩ" 10).typed = "ΠΡΟΣΩ" ∧
      personName ∈ (personGrid.catalog.complete "ΠΡΟΣΩ" 10).suggestions := by
  have bare : Canonical.isBare defaultOperators true "ΠΡΟΣΩ" = true :=
    (Lexer.isBare_iff true _).mpr
      ⟨⟨'Π', ['Ρ', 'Ο', 'Σ', 'Ω'], rfl, by decide +kernel⟩, by decide +kernel⟩
  have size : "ΠΡΟΣΩ".utf8ByteSize = 10 := by decide +kernel
  obtain ⟨typed, listed⟩ := person_completes bare (by decide +kernel)
  rw [size] at typed listed
  refine ⟨typed, ?_⟩
  apply (verbatim_match_exact "ΠΡΟΣΩ").2.mpr (by decide +kernel) _ _ _ typed _ listed
  rw [typed]
  exact .inl ⟨[], ['Π', 'Ο'], by decide +kernel⟩

theorem person_lost :
    Grid.build [personColumn] [] = .ok personGrid ∧
      (personGrid.catalog.complete "ΠΡΟΣ" 8).typed = "ΠΡΟΣ" ∧
      personName ∈ personGrid.catalog.fillers "ΠΡΟΣ" 8 ∧
      "ΠΡΟΣ".toList <:+: personName.displayText.toList ∧
      personName.isMatch "ΠΡΟΣ" = false ∧
      personName ∉ (personGrid.catalog.complete "ΠΡΟΣ" 8).suggestions := by
  have bare : Canonical.isBare defaultOperators true "ΠΡΟΣ" = true :=
    (Lexer.isBare_iff true _).mpr
      ⟨⟨'Π', ['Ρ', 'Ο', 'Σ'], rfl, by decide +kernel⟩, by decide +kernel⟩
  have size : "ΠΡΟΣ".utf8ByteSize = 8 := by decide +kernel
  obtain ⟨typed, listed⟩ := person_completes bare (by decide +kernel)
  rw [size] at typed listed
  have unmatched : personName.isMatch "ΠΡΟΣ" = false := by decide +kernel
  refine ⟨rfl, typed, listed, ⟨[], ['Ω', 'Π', 'Ο'], by decide +kernel⟩, unmatched, ?_⟩
  rw [Catalog.mem_suggestions, typed, unmatched]
  simp

end Sift
