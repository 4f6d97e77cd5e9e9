import Sift.Completion
import Sift.Proofs.Spelling

/-!
Words with a space behind each. If no operator has a space in it, the space ends every word that is
typed as a literal, a keyword or a parenthesis, so a text of such words is read word by word. And
since the text ends in a space, no word is being typed at its end.
-/

namespace Sift

open Text

namespace Lexer

variable {vocabulary : List String}

/-- In front of a space the word is one piece, whatever stands behind the space. -/
def StandsAlone (vocabulary : List String) (word : String) : Prop :=
  ∃ c cs, word.toList = c :: cs ∧ isBlank c = false ∧
    ∀ rest, tail vocabulary c (cs ++ ' ' :: rest) = cs.length

theorem scan_alone {word : String} (alone : StandsAlone vocabulary word) (start : Nat)
    (rest : List Char) :
    scan vocabulary start (word.toList ++ ' ' :: rest) =
      ⟨tokenOfSource vocabulary word, start, word⟩ ::
        scan vocabulary (start + word.utf8ByteSize + 1) rest := by
  obtain ⟨c, cs, chars, visible, whole⟩ := alone
  have piece : String.ofList (c :: cs) = word := by rw [← chars, String.ofList_toList]
  have space : ' '.utf8Size = 1 := by decide
  rw [chars, List.cons_append, scan_piece _ _ visible, whole, List.take_left, List.drop_left, piece,
    scan_blank _ _ (by decide), space]
  simp [tokenOfSource, chars]

theorem defaults_unspaced : ∀ operator ∈ defaultOperators, ' ' ∉ operator.toList := by decide

theorem space_ends (unspaced : ∀ operator ∈ vocabulary, ' ' ∉ operator.toList)
    (rest : List Char) : EndsWord vocabulary (' ' :: rest) := by
  apply endsWord_cons rest (by decide)
  intro operator member
  rcases List.mem_append.mp member with default | listed
  · exact defaults_unspaced operator default
  · exact unspaced operator listed

theorem alone_word {c : Char} {cs : List Char} {word : String} (chars : word.toList = c :: cs)
    (reads : ReadsWhole vocabulary c cs)
    (unspaced : ∀ operator ∈ vocabulary, ' ' ∉ operator.toList) :
    StandsAlone vocabulary word := by
  refine ⟨c, cs, chars, reads.visible, fun rest => ?_⟩
  rw [reads.starts.tail_eq, wordTail_append _ _ (space_ends unspaced rest), reads.whole]

theorem alone_quote (word : String) : StandsAlone vocabulary (Canonical.quote word) := by
  refine ⟨'"', _, quote_toList word, by decide, fun rest => ?_⟩
  simp [tail, isQuote, quotedTail_escape]

theorem alone_literal (category : Bool) (word : String)
    (unspaced : ∀ operator ∈ vocabulary, ' ' ∉ operator.toList) :
    StandsAlone vocabulary (Canonical.literal vocabulary category word) := by
  unfold Canonical.literal
  split
  next bare =>
    obtain ⟨⟨c, cs, chars, reads⟩, -⟩ := (isBare_iff category word).mp bare
    exact alone_word chars reads unspaced
  next => exact alone_quote word

theorem alone_paren {word : String} (paren : word = "(" ∨ word = ")") :
    StandsAlone vocabulary word := by
  rcases paren with rfl | rfl
  · exact ⟨'(', [], rfl, by decide, fun rest => rfl⟩
  · exact ⟨')', [], rfl, by decide, fun rest => rfl⟩

/-! Letters and digits. An operator that starts such a word has one of them in it, so it cannot
end inside the word. -/

structure InWord (c : Char) : Prop where
  alphanumeric : isAlphanumeric c = true
  inside : isDelimiter c = false
  uncompared : isComparison c = false

instance (c : Char) : Decidable (InWord c) :=
  decidable_of_iff (isAlphanumeric c = true ∧ isDelimiter c = false ∧ isComparison c = false)
    ⟨fun ⟨alphanumeric, inside, uncompared⟩ => ⟨alphanumeric, inside, uncompared⟩,
      fun within => ⟨within.alphanumeric, within.inside, within.uncompared⟩⟩

theorem plainTail_letters {cs : List Char} (letters : ∀ c ∈ cs, InWord c) :
    plainTail vocabulary cs = cs.length := by
  induction cs with
  | nil => rfl
  | cons c cs ih =>
      obtain ⟨⟨alphanumeric, inside, uncompared⟩, others⟩ := List.forall_mem_cons.mp letters
      simp [plainTail, alphanumeric, inside, uncompared, ih others]

theorem standsAt_letters {cs operator : List Char} (letters : ∀ c ∈ cs, InWord c)
    (stands : standsAt cs operator = true) : operator.length = cs.length := by
  simp only [standsAt, Bool.and_eq_true, List.isPrefixOf_iff_prefix] at stands
  obtain ⟨⟨nonempty, rest, rfl⟩, ends⟩ := stands
  rw [List.drop_left] at ends
  cases rest with
  | nil => simp
  | cons next rest =>
      cases operator with
      | nil => cases nonempty
      | cons first operator =>
          have inside := (letters next (by simp)).inside
          have letter := (letters first (by simp)).alphanumeric
          simp [mayPrecede, inside, letter] at ends

theorem wordTail_letters {c : Char} {cs : List Char} (letters : ∀ d ∈ c :: cs, InWord d) :
    wordTail vocabulary c cs = cs.length := by
  unfold wordTail
  split
  next length found =>
    obtain ⟨operator, -, stands, rfl⟩ := operatorLength_found found
    rw [standsAt_letters letters stands]
    rfl
  next =>
    obtain ⟨first, others⟩ := List.forall_mem_cons.mp letters
    simp [first.uncompared, plainTail_letters others]

theorem keyword_reads (connective : Connective) :
    ∃ c cs, connective.keyword.toList = c :: cs ∧ ReadsWhole vocabulary c cs := by
  cases connective with
  | and =>
      have letters : ∀ d ∈ ['A', 'N', 'D'], InWord d := by
        simp only [List.forall_mem_cons]
        exact ⟨by decide, by decide, by decide, nofun⟩
      exact ⟨'A', _, rfl, by decide, by decide, wordTail_letters letters⟩
  | or =>
      have letters : ∀ d ∈ ['O', 'R'], InWord d := by
        simp only [List.forall_mem_cons]
        exact ⟨by decide, by decide, nofun⟩
      exact ⟨'O', _, rfl, by decide, by decide, wordTail_letters letters⟩

theorem alone_keyword (connective : Connective)
    (unspaced : ∀ operator ∈ vocabulary, ' ' ∉ operator.toList) :
    StandsAlone vocabulary connective.keyword := by
  obtain ⟨c, cs, chars, reads⟩ := @keyword_reads vocabulary connective
  exact alone_word chars reads unspaced

/-! Many words. -/

def spaced (words : List String) : List Char :=
  words.flatMap fun word => word.toList ++ [' ']

theorem spaced_cons (word : String) (words : List String) :
    spaced (word :: words) = word.toList ++ ' ' :: spaced words := by
  simp [spaced]

theorem scan_spaced {words : List String} (alone : ∀ word ∈ words, StandsAlone vocabulary word)
    (start : Nat) :
    (scan vocabulary start (spaced words)).map Lexeme.token =
      words.map (tokenOfSource vocabulary) := by
  induction words generalizing start with
  | nil => simp [spaced, scan]
  | cons word words ih =>
      obtain ⟨first, others⟩ := List.forall_mem_cons.mp alone
      rw [spaced_cons, scan_alone first, List.map_cons, List.map_cons, ih others]

theorem stop_spaced {words : List String} (alone : ∀ word ∈ words, StandsAlone vocabulary word)
    (start : Nat) : ∀ lexeme ∈ scan vocabulary start (spaced words),
      lexeme.stop < start + size (spaced words) := by
  induction words generalizing start with
  | nil => simp [spaced, scan]
  | cons word words ih =>
      obtain ⟨first, others⟩ := List.forall_mem_cons.mp alone
      have space : ' '.utf8Size = 1 := by decide
      have bytes : size (spaced (word :: words)) =
          word.utf8ByteSize + 1 + size (spaced words) := by
        rw [spaced_cons, size_append, size_toList, size, space, Nat.add_assoc]
      intro lexeme member
      rw [spaced_cons, scan_alone first] at member
      rcases List.mem_cons.mp member with rfl | later
      · rw [Lexeme.stop, bytes]
        simp only
        omega
      · have bound := ih others _ lexeme later
        omega

end Lexer

open Lexer Completion

theorem tokens_spaced {vocabulary : List String} {text : String} {words : List String}
    (typed : text.toList = spaced words) (alone : ∀ word ∈ words, StandsAlone vocabulary word) :
    tokens vocabulary text = words.map (tokenOfSource vocabulary) := by
  rw [tokens, lexemes, typed, scan_spaced alone]

theorem splitTyped_none {before : String} {all : List Lexeme}
    (done : ∀ lexeme ∈ all, lexeme.stop < before.utf8ByteSize) :
    splitTyped before all = (all, none) := by
  unfold splitTyped
  split
  next last found =>
    have short := done last (List.mem_of_getLast? found)
    have idle : isBeingTyped before last = false := by
      simp [isBeingTyped, Nat.ne_of_lt short]
    rw [idle]
    rfl
  next => rfl

/-- Behind the last space nothing is being typed: the words decide the slot, and every candidate for
it is offered. -/
theorem complete_spaced (catalog : Catalog) {text : String} {words : List String}
    (typed : text.toList = spaced words)
    (alone : ∀ word ∈ words, StandsAlone catalog.vocabulary word) :
    catalog.complete text text.utf8ByteSize =
      { slot := (slotOf (words.map (tokenOfSource catalog.vocabulary))).1
        typed := ""
        start := text.utf8ByteSize
        stop := text.utf8ByteSize
        suggestions := candidates catalog
          (slotOf (words.map (tokenOfSource catalog.vocabulary))).2
          (slotOf (words.map (tokenOfSource catalog.vocabulary))).1 } := by
  have done : ∀ lexeme ∈ lexemes catalog.vocabulary text, lexeme.stop < text.utf8ByteSize := by
    have bound := stop_spaced alone 0
    rwa [← typed, Nat.zero_add, size_toList] at bound
  have read : (lexemes catalog.vocabulary text).map Lexeme.token =
      words.map (tokenOfSource catalog.vocabulary) := tokens_spaced typed alone
  have offered (suggestion : Suggestion) : suggestion.isMatch "" = true := rfl
  simp only [Catalog.complete, before_size, splitTyped_none done, read]
  simp [offered]

end Sift
