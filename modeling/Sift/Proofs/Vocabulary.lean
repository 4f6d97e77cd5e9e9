import Sift.Distinct
import Sift.Proofs.Lexing
import Sift.Query.Parser
import Sift.Text.Search

/-!
What a vocabulary does to a text. A reader asks only which words are operators: in what order they
are listed, how often, and whether the default ones are listed again makes no difference. So a
vocabulary of default operators is as good as none. And it asks only about words that stand in the
text: what else a vocabulary holds does not come into it.

With the default operators alone words have a simple shape. A run of comparison characters is one
word, a run of other characters is one, and a `!` goes with the letters behind it.
-/

namespace Sift

namespace Lexer

open Text

variable {left right : List String}

/-- The two vocabularies know the same operators. -/
def KnowSame (left right : List String) : Prop :=
  ∀ operator, operator ∈ defaultOperators ++ left ↔ operator ∈ defaultOperators ++ right

theorem knowSame_distinct (vocabulary : List String) :
    KnowSame (distinct vocabulary) vocabulary := by
  intro operator
  simp

theorem knowSame_defaults {vocabulary : List String}
    (defaults : ∀ operator ∈ vocabulary, operator ∈ defaultOperators) :
    KnowSame vocabulary [] := by
  intro operator
  rw [List.append_nil, List.mem_append]
  exact ⟨fun known => known.elim id (defaults operator), Or.inl⟩

/-- The two vocabularies know the same operators among the parts of a text. The empty word is no
operator, whoever lists it. -/
def AgreeOn (left right : List String) (cs : List Char) : Prop :=
  ∀ operator, operator ≠ "" → operator.toList <:+: cs →
    (operator ∈ defaultOperators ++ left ↔ operator ∈ defaultOperators ++ right)

theorem KnowSame.agree (same : KnowSame left right) (cs : List Char) : AgreeOn left right cs :=
  fun operator _ _ => same operator

theorem AgreeOn.part {part cs : List Char} (agree : AgreeOn left right cs) (inside : part <:+: cs) :
    AgreeOn left right part :=
  fun operator filled found => agree operator filled (found.trans inside)

theorem AgreeOn.behind {c : Char} {cs : List Char} (agree : AgreeOn left right (c :: cs)) :
    AgreeOn left right cs :=
  agree.part (List.suffix_cons c cs).isInfix

theorem standsAt_known {cs : List Char} {operator : String} (agree : AgreeOn left right cs)
    (stands : standsAt cs operator.toList = true) :
    operator ∈ defaultOperators ++ left ↔ operator ∈ defaultOperators ++ right := by
  simp only [standsAt, Bool.and_eq_true, List.isPrefixOf_iff_prefix] at stands
  apply agree operator
  · rintro rfl
    simp at stands
  · exact stands.1.2.isInfix

-- The longest operator is the greatest of some lengths, and the same lengths have the same
-- greatest. Only an operator that stands in the text adds its length.
theorem operatorLength_congr {cs : List Char} (agree : AgreeOn left right cs) :
    operatorLength? left cs = operatorLength? right cs := by
  have standing (letters : List Char) :
      (∃ operator ∈ defaultOperators ++ left, operator.toList = letters) ∧
          standsAt cs letters = true ↔
        (∃ operator ∈ defaultOperators ++ right, operator.toList = letters) ∧
          standsAt cs letters = true := by
    apply and_congr_left
    intro stands
    constructor
    · rintro ⟨operator, listed, rfl⟩
      exact ⟨operator, (standsAt_known agree stands).mp listed, rfl⟩
    · rintro ⟨operator, listed, rfl⟩
      exact ⟨operator, (standsAt_known agree stands).mpr listed, rfl⟩
  apply Option.ext
  intro length
  simp only [operatorLength?, List.max?_eq_some_iff, List.mem_map, List.mem_filter, standing]

theorem plainTail_congr {cs : List Char} (agree : AgreeOn left right cs) :
    plainTail left cs = plainTail right cs := by
  induction cs with
  | nil => rfl
  | cons c cs ih => simp only [plainTail, operatorLength_congr agree, ih agree.behind]

theorem tail_congr {c : Char} {cs : List Char} (agree : AgreeOn left right (c :: cs)) :
    tail left c cs = tail right c cs := by
  simp only [tail, wordTail, operatorLength_congr agree, plainTail_congr agree.behind]

theorem tokenOf_congr {c : Char} {cs : List Char} (agree : AgreeOn left right (c :: cs)) :
    tokenOf left c cs = tokenOf right c cs := by
  have known : (defaultOperators ++ left).contains (String.ofList (c :: cs)) =
      (defaultOperators ++ right).contains (String.ofList (c :: cs)) := by
    rw [Bool.eq_iff_iff, List.contains_iff_mem, List.contains_iff_mem]
    apply agree
    · simp [← String.toList_inj]
    · simp
  simp only [tokenOf, classify, known]

theorem scan_congr {cs : List Char} (agree : AgreeOn left right cs) (start : Nat) :
    scan left start cs = scan right start cs := by
  induction cs using pieces_induction left generalizing start with
  | empty => simp [scan]
  | blank c cs blank ih => rw [scan_blank _ _ blank, scan_blank _ _ blank, ih agree.behind]
  | piece c cs visible ih =>
      have whole : c :: cs.take (tail left c cs) ++ cs.drop (tail left c cs) = c :: cs := by simp
      have read : AgreeOn left right (c :: cs.take (tail left c cs)) :=
        agree.part ⟨[], _, whole⟩
      have unread : AgreeOn left right (cs.drop (tail left c cs)) :=
        agree.part (List.IsSuffix.isInfix ⟨_, whole⟩)
      rw [scan_piece _ _ visible, scan_piece _ _ visible, ih unread, tokenOf_congr read,
        tail_congr agree]

/-! Words of the default vocabulary. -/

def isPlain (c : Char) : Bool :=
  !isDelimiter c && !isComparison c

/-- A `!` that goes with the letters behind it does not compare. -/
def compares (c : Char) (cs : List Char) : Bool :=
  isComparison c && !(c = '!' && cs.head?.any isAlphabetic)

theorem wordTail_unknown {vocabulary : List String} {c : Char} {cs : List Char}
    (unknown : operatorLength? vocabulary (c :: cs) = none) :
    wordTail vocabulary c cs =
      if compares c cs then (cs.takeWhile isComparison).length else plainTail vocabulary cs := by
  rw [wordTail, unknown]
  rfl

theorem takeWhile_ends {p : Char → Bool} {word rest : List Char} (inside : ∀ c ∈ word, p c = true)
    (ends : ∀ c ∈ rest.head?, p c = false) : (word ++ rest).takeWhile p = word := by
  rw [List.takeWhile_append_of_pos inside]
  cases rest with
  | nil => simp
  | cons c rest => simp [ends c rfl]

theorem not_comparison_of_alphanumeric {c : Char} (letter : isAlphanumeric c = true) :
    isComparison c = false := by
  cases compares : isComparison c with
  | false => rfl
  | true =>
      simp only [isComparison, Bool.or_eq_true, decide_eq_true_eq] at compares
      rcases compares with ((rfl | rfl) | rfl) | rfl <;> exact absurd letter (by decide)

theorem standsAt_split {cs operator : List Char} (stands : standsAt cs operator = true) :
    ∃ rest, cs = operator ++ rest ∧ mayPrecede operator rest = true := by
  simp only [standsAt, Bool.and_eq_true, List.isPrefixOf_iff_prefix] at stands
  obtain ⟨⟨-, rest, rfl⟩, ends⟩ := stands
  rw [List.drop_left] at ends
  exact ⟨rest, rfl, ends⟩

theorem symbol_ends {operator rest : List Char} (ends : mayPrecede operator rest = true) :
    ∀ c ∈ rest.head?, isComparison c = false := by
  intro c first
  obtain ⟨later, rfl⟩ := List.head?_eq_some_iff.mp first
  simp only [mayPrecede, Bool.or_eq_true, Bool.and_eq_true] at ends
  rcases ends with delimits | ⟨letter, -⟩
  · exact not_comparison_of_delimiter delimits
  · exact not_comparison_of_alphanumeric letter

theorem word_ends {operator rest : List Char} (worded : operator.any isAlphanumeric = true)
    (ends : mayPrecede operator rest = true) : ∀ c ∈ rest.head?, isPlain c = false := by
  intro c first
  obtain ⟨later, rfl⟩ := List.head?_eq_some_iff.mp first
  simp only [mayPrecede, worded, Bool.not_true, Bool.and_false, Bool.or_false] at ends
  simp [isPlain, ends]

/-- What a reader makes of a word when it knows the default operators only. -/
def defaultTail (c : Char) (cs : List Char) : Nat :=
  if compares c cs then (cs.takeWhile isComparison).length else (cs.takeWhile isPlain).length

theorem defaultTail_operator {operator : String} (default : operator ∈ defaultOperators) {c : Char}
    {cs : List Char} (stands : standsAt (c :: cs) operator.toList = true) :
    operator.toList.length - 1 = defaultTail c cs := by
  obtain ⟨rest, split, ends⟩ := standsAt_split stands
  have symbol (run : List Char) (spelt : operator.toList = c :: run)
      (first : compares c (run ++ rest) = true) (inside : run.all isComparison = true) :
      operator.toList.length - 1 = defaultTail c (run ++ rest) := by
    rw [defaultTail, if_pos first, takeWhile_ends (List.all_eq_true.mp inside) (symbol_ends ends),
      spelt]
    rfl
  have word (letters : List Char) (spelt : operator.toList = c :: letters)
      (first : compares c (letters ++ rest) = false) (inside : letters.all isPlain = true)
      (worded : operator.toList.any isAlphanumeric = true) :
      operator.toList.length - 1 = defaultTail c (letters ++ rest) := by
    rw [defaultTail, first, if_neg Bool.false_ne_true,
      takeWhile_ends (List.all_eq_true.mp inside) (word_ends worded ends), spelt]
    rfl
  simp only [defaultOperators, List.mem_cons, List.not_mem_nil, or_false] at default
  rcases default with rfl | rfl | rfl | rfl | rfl | rfl <;> cases split
  · exact symbol ['='] rfl rfl (by decide)
  · exact symbol ['='] rfl rfl (by decide)
  · exact symbol ['>'] rfl rfl (by decide)
  · exact word ['o', 'n', 't', 'a', 'i', 'n', 's'] rfl rfl (by decide) (by decide)
  · exact word ['c', 'o', 'n', 't', 'a', 'i', 'n', 's'] rfl rfl (by decide) (by decide)
  · exact word ['n'] rfl rfl (by decide) (by decide)

-- A default operator starts with a comparison or with a letter, so it never stops a plain word.
theorem plainTail_default (cs : List Char) :
    plainTail [] cs = (cs.takeWhile isPlain).length := by
  induction cs with
  | nil => rfl
  | cons c cs ih =>
      have starts : ∀ operator ∈ defaultOperators,
          operator.toList.head?.all (fun first => isComparison first || isAlphanumeric first) =
            true := by decide
      have unstopped : isComparison c = false → isAlphanumeric c = false →
          operatorLength? [] (c :: cs) = none := by
        intro plain unlettered
        cases found : operatorLength? [] (c :: cs) with
        | none => rfl
        | some length =>
            obtain ⟨operator, listed, stands, -⟩ := operatorLength_found found
            obtain ⟨rest, split, -⟩ := standsAt_split stands
            cases spelt : operator.toList with
            | nil => simp [standsAt, spelt] at stands
            | cons first letters =>
                rw [spelt] at split
                cases split
                have known := starts operator (by simpa using listed)
                simp [spelt, plain, unlettered] at known
      cases delimits : isDelimiter c with
      | true => simp [plainTail, isPlain, delimits]
      | false =>
          cases compares : isComparison c with
          | true => simp [plainTail, isPlain, compares]
          | false =>
              cases letter : isAlphanumeric c with
              | true => simp [plainTail, isPlain, delimits, compares, letter, ih]
              | false =>
                  simp [plainTail, isPlain, delimits, compares, ih, unstopped compares letter]

theorem wordTail_default (c : Char) (cs : List Char) :
    wordTail [] c cs = defaultTail c cs := by
  cases found : operatorLength? [] (c :: cs) with
  | some length =>
      obtain ⟨operator, listed, stands, rfl⟩ := operatorLength_found found
      rw [wordTail, found]
      exact defaultTail_operator (by simpa using listed) stands
  | none => rw [wordTail_unknown found, plainTail_default, defaultTail]

end Lexer

open Lexer

theorem read_agreed {left right : List String} {text : String}
    (agree : AgreeOn left right text.toList) :
    lexemes left text = lexemes right text ∧ listing left text = listing right text ∧
      parse left text = parse right text := by
  have same : lexemes left text = lexemes right text := scan_congr agree 0
  refine ⟨same, ?_, ?_⟩
  · rw [listing, listing, same]
  · rw [parse, parse, same]

theorem lexemes_congr {left right : List String} (same : KnowSame left right) (text : String) :
    lexemes left text = lexemes right text :=
  (read_agreed (same.agree text.toList)).1

theorem parse_congr {left right : List String} (same : KnowSame left right) (text : String) :
    parse left text = parse right text :=
  (read_agreed (same.agree text.toList)).2.2

/-! Operators that a text does not hold. -/

/-- One of the two vocabularies knows the operator, and the other one does not. -/
def KnowApart (left right : List String) (operator : String) : Prop :=
  ¬ (operator ∈ defaultOperators ++ left ↔ operator ∈ defaultOperators ++ right)

theorem agree_unseen {left right : List String} {text : String}
    (unseen : ∀ operator, operator ≠ "" → KnowApart left right operator →
      ¬ operator.toList <:+: text.toList) : AgreeOn left right text.toList := by
  intro operator filled seen
  by_cases same : operator ∈ defaultOperators ++ left ↔ operator ∈ defaultOperators ++ right
  · exact same
  · exact absurd seen (unseen operator filled same)

/-- An operator that stands nowhere in a text has no say in how the text is read. So order and
repetition of a vocabulary, and the empty and the default operators in it, make no difference. -/
theorem unseen_operators_exact (left right : List String) :
    (∀ text : String,
      (∀ operator, operator ≠ "" → KnowApart left right operator →
        ¬ operator.toList <:+: text.toList) →
      lexemes left text = lexemes right text ∧ listing left text = listing right text ∧
        parse left text = parse right text) ∧
    ((∀ operator, operator ≠ "" → operator ∉ defaultOperators →
        (operator ∈ left ↔ operator ∈ right)) →
      ∀ text : String, lexemes left text = lexemes right text ∧
        listing left text = listing right text ∧ parse left text = parse right text) := by
  constructor
  · intro text unseen
    exact read_agreed (agree_unseen unseen)
  · intro same text
    apply read_agreed
    intro operator filled _
    rw [List.mem_append, List.mem_append]
    by_cases default : operator ∈ defaultOperators
    · simp [default]
    · simp [default, same operator filled default]

-- A longer operator shares its front with the one in the text, and is still not to be seen there.
theorem unseen_operators_is :
    KnowApart ["is", "is not"] ["", "is", "==", "is"] "is not" ∧
      lexemes ["is", "is not"] "a is b" = lexemes ["", "is", "==", "is"] "a is b" ∧
      parse ["is", "is not"] "a is b" = parse ["", "is", "==", "is"] "a is b" := by
  have apart : KnowApart ["is", "is not"] ["", "is", "==", "is"] "is not" := by
    unfold KnowApart
    decide
  have unseen : ∀ operator, operator ≠ "" →
      KnowApart ["is", "is not"] ["", "is", "==", "is"] operator →
      ¬ operator.toList <:+: "a is b".toList := by
    intro operator filled known
    by_cases longer : operator = "is not"
    · rw [longer, ← Text.occursIn_iff]
      decide
    · exact absurd (by grind [defaultOperators]) known
  obtain ⟨same, -, read⟩ := (unseen_operators_exact _ _).1 "a is b" unseen
  exact ⟨apart, same, read⟩

end Sift
