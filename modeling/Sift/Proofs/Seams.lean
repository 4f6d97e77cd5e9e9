import Sift.Proofs.RoundTrip
import Sift.Proofs.Routes
import Sift.Proofs.Vocabulary

/-!
Words that meet. A literal is typed so that it is read as one word when it stands alone. In a query
there is more behind it, and a reader that looks for an operator in the literal may find one that
begins there and ends further on. With a space behind the literal this is the only thing that can go
wrong, and it takes an operator with a space in it.
-/

namespace Sift

namespace Lexer

open Text

variable {vocabulary : List String}

/-- In front of `rest` the piece is read to its end, and no further. -/
def Holds (vocabulary : List String) (piece rest : String) : Prop :=
  ∃ c cs, piece.toList = c :: cs ∧ isBlank c = false ∧
    tail vocabulary c (cs ++ rest.toList) = cs.length

theorem holds_word {c : Char} {cs : List Char} {word : String} (rest : String)
    (chars : word.toList = c :: cs) (starts : StartsWord c) (visible : isBlank c = false) :
    Holds vocabulary word rest ↔ wordTail vocabulary c (cs ++ rest.toList) = cs.length := by
  rw [← starts.tail_eq]
  constructor
  · rintro ⟨_, _, same, -, whole⟩
    cases chars.symm.trans same
    exact whole
  · intro whole
    exact ⟨c, cs, chars, visible, whole⟩

theorem holds_quote (word rest : String) : Holds vocabulary (Canonical.quote word) rest := by
  refine ⟨'"', _, quote_toList word, by decide, ?_⟩
  simp [tail, isQuote, quotedTail_escape]

theorem Holds.scan {piece rest : String} (holds : Holds vocabulary piece rest) (start : Nat) :
    scan vocabulary start (piece.toList ++ rest.toList) =
      ⟨tokenOfSource vocabulary piece, start, piece⟩ ::
        Lexer.scan vocabulary (start + piece.utf8ByteSize) rest.toList := by
  obtain ⟨c, cs, chars, visible, whole⟩ := holds
  have same : String.ofList (c :: cs) = piece := by rw [← chars, String.ofList_toList]
  rw [chars, List.cons_append, scan_piece _ _ visible, whole, List.take_left, List.drop_left, same]
  simp [tokenOfSource, chars]

theorem Holds.sources {piece rest : String} (holds : Holds vocabulary piece rest) :
    sources vocabulary (piece.toList ++ rest.toList) =
      piece :: Lexer.sources vocabulary rest.toList := by
  rw [Lexer.sources, holds.scan, List.map_cons, scan_sources]

/-- Whether an operator begins with `place`, goes on in `rest` and may end there. -/
def straddles (vocabulary : List String) (rest place : List Char) : Bool :=
  (defaultOperators ++ vocabulary).any fun operator =>
    place.length < operator.toList.length && standsAt (place ++ rest) operator.toList

/-- The symbols in a text, each given by what is left of the text there. -/
def symbols : List Char → List (List Char)
  | [] => []
  | c :: cs => if isAlphanumeric c then symbols cs else (c :: cs) :: symbols cs

/-- Where a reader looks for an operator in a word: at the start of a bare word and, if it is a
plain one, at every symbol behind it. -/
def lookups (vocabulary : List String) : List Char → List (List Char)
  | [] => []
  | c :: cs =>
      if StartsWord c then
        (c :: cs) ::
          (if compares c cs || (operatorLength? vocabulary (c :: cs)).isSome then []
            else symbols cs)
      else []

/-- Whether a reader that looks for an operator in the word finds one that goes past its end. -/
def overruns (vocabulary : List String) (word rest : String) : Bool :=
  (lookups vocabulary word.toList).any (straddles vocabulary rest.toList)

theorem standsAt_within {place operator : List Char} (rest : List Char)
    (short : operator.length ≤ place.length) :
    standsAt (place ++ ' ' :: rest) operator = standsAt place operator := by
  have delimits : ∀ c ∈ (' ' :: rest).head?, isDelimiter c = true := by
    intro c first
    cases first
    decide
  have inside : operator <+: place ++ ' ' :: rest ↔ operator <+: place :=
    ⟨fun found => List.prefix_of_prefix_length_le found (List.prefix_append _ _) short,
      fun found => found.trans (List.prefix_append _ _)⟩
  rw [Bool.eq_iff_iff]
  simp only [standsAt, Bool.and_eq_true, List.isPrefixOf_iff_prefix, inside]
  apply and_congr_right
  intro _
  rw [List.drop_append_of_le_length short, mayPrecede_append _ _ delimits]

theorem standsAt_beyond {place operator : List Char} (long : place.length < operator.length) :
    standsAt place operator = false := by
  cases stands : standsAt place operator with
  | false => rfl
  | true =>
      simp only [standsAt, Bool.and_eq_true, List.isPrefixOf_iff_prefix] at stands
      have bound := stands.1.2.length_le
      omega

theorem operatorLength_seam {rest place : List Char}
    (apart : straddles vocabulary (' ' :: rest) place = false) :
    operatorLength? vocabulary (place ++ ' ' :: rest) = operatorLength? vocabulary place := by
  have same : ((defaultOperators ++ vocabulary).map String.toList).filter
      (standsAt (place ++ ' ' :: rest)) =
      ((defaultOperators ++ vocabulary).map String.toList).filter (standsAt place) := by
    apply List.filter_congr
    intro operator member
    obtain ⟨known, listed, rfl⟩ := List.mem_map.mp member
    by_cases long : place.length < known.toList.length
    · have missed := List.any_eq_false.mp apart known listed
      rw [standsAt_beyond long]
      simpa [long] using missed
    · exact standsAt_within rest (Nat.le_of_not_lt long)
  rw [operatorLength?, same, operatorLength?]

theorem operatorLength_straddled {rest place : List Char}
    (crossed : straddles vocabulary rest place = true) :
    ∃ length, operatorLength? vocabulary (place ++ rest) = some length ∧ place.length < length := by
  obtain ⟨operator, listed, found⟩ := List.any_eq_true.mp crossed
  simp only [Bool.and_eq_true, decide_eq_true_eq] at found
  obtain ⟨long, stands⟩ := found
  have member : operator.toList.length ∈
      (((defaultOperators ++ vocabulary).map String.toList).filter
        (standsAt (place ++ rest))).map List.length :=
    List.mem_map_of_mem (List.mem_filter.mpr ⟨List.mem_map_of_mem listed, stands⟩)
  cases greatest : operatorLength? vocabulary (place ++ rest) with
  | none =>
      rw [operatorLength?, List.max?_eq_none_iff] at greatest
      rw [greatest] at member
      cases member
  | some length =>
      have bound := (List.max?_eq_some_iff.mp greatest).2 _ member
      exact ⟨length, rfl, by omega⟩

theorem plainTail_seam {cs : List Char} (rest : List Char)
    (whole : plainTail vocabulary cs = cs.length) :
    plainTail vocabulary (cs ++ ' ' :: rest) = cs.length ↔
      (symbols cs).any (straddles vocabulary (' ' :: rest)) = false := by
  induction cs with
  | nil =>
      have space : isDelimiter ' ' = true := by decide
      simp [plainTail, symbols, space]
  | cons c cs ih =>
      rw [plainTail] at whole
      split at whole
      next => cases whole
      next goesOn =>
        have later := ih (Nat.succ.inj whole)
        simp only [Bool.or_eq_true, Bool.and_eq_true, Bool.not_eq_true', not_or, not_and,
          Bool.not_eq_true, Option.isSome_eq_false_iff, Option.isNone_iff_eq_none] at goesOn
        obtain ⟨⟨inside, uncompared⟩, unstopped⟩ := goesOn
        cases letter : isAlphanumeric c with
        | true => simpa [plainTail, symbols, inside, uncompared, letter] using later
        | false =>
            cases crossed : straddles vocabulary (' ' :: rest) (c :: cs) with
            | true =>
                obtain ⟨length, found, -⟩ := operatorLength_straddled crossed
                rw [List.cons_append] at found
                simp [plainTail, symbols, letter, found, crossed]
            | false =>
                have same := operatorLength_seam crossed
                rw [unstopped letter, List.cons_append] at same
                simpa [plainTail, symbols, inside, uncompared, letter, same, crossed] using later

theorem compares_space (c : Char) (cs rest : List Char) :
    compares c (cs ++ ' ' :: rest) = compares c cs := by
  have letterless : isAlphabetic ' ' = false := by decide
  cases cs <;> simp [compares, letterless]

/-- In front of a space a word is read as it is read alone exactly if no operator overruns it. -/
theorem wordTail_seam {c : Char} {cs : List Char} (rest : List Char)
    (reads : ReadsWhole vocabulary c cs) :
    wordTail vocabulary c (cs ++ ' ' :: rest) = cs.length ↔
      (lookups vocabulary (c :: cs)).any (straddles vocabulary (' ' :: rest)) = false := by
  have whole := reads.whole
  rw [lookups, if_pos reads.starts, List.any_cons]
  cases crossed : straddles vocabulary (' ' :: rest) (c :: cs) with
  | true =>
      obtain ⟨length, found, long⟩ := operatorLength_straddled crossed
      rw [List.cons_append] at found
      simp only [List.length_cons] at long
      have longer : length - 1 ≠ cs.length := by omega
      simp [wordTail, found, longer]
  | false =>
      have same := operatorLength_seam crossed
      have run := @takeWhile_comparison_append (' ' :: rest) cs (by simp; decide)
      rw [List.cons_append] at same
      cases found : operatorLength? vocabulary (c :: cs) with
      | some length =>
          rw [wordTail, found] at whole
          rw [wordTail, same, found]
          simpa using whole
      | none =>
          rw [wordTail_unknown found] at whole
          rw [wordTail_unknown (same.trans found), compares_space, run]
          cases comparing : compares c cs with
          | true =>
              rw [comparing] at whole
              simpa using whole
          | false =>
              rw [comparing] at whole
              simpa using plainTail_seam rest whole

/-! Literals with a space behind them. -/

theorem space_toList (rest : String) : (" " ++ rest).toList = ' ' :: rest.toList := by
  rw [String.toList_append]
  rfl

theorem sources_behind (rest : String) :
    sources vocabulary (" " ++ rest).toList = sources vocabulary rest.toList := by
  rw [space_toList, sources_space]

theorem word_seam {c : Char} {cs : List Char} {word : String} (rest : String)
    (chars : word.toList = c :: cs) (reads : ReadsWhole vocabulary c cs) :
    Holds vocabulary word (" " ++ rest) ↔ overruns vocabulary word (" " ++ rest) = false := by
  rw [holds_word _ chars reads.starts reads.visible, overruns, chars, space_toList,
    wordTail_seam rest.toList reads]

theorem quote_overruns (word rest : String) :
    overruns vocabulary (Canonical.quote word) rest = false := by
  have quoted : ¬ StartsWord '"' := by decide
  rw [overruns, quote_toList, lookups, if_neg quoted]
  rfl

theorem literal_seam (category : Bool) (word rest : String) :
    Holds vocabulary (Canonical.literal vocabulary category word) (" " ++ rest) ↔
      overruns vocabulary (Canonical.literal vocabulary category word) (" " ++ rest) = false := by
  unfold Canonical.literal
  split
  next bare =>
    obtain ⟨⟨c, cs, chars, reads⟩, -⟩ := (isBare_iff category word).mp bare
    exact word_seam rest chars reads
  next => exact iff_of_true (holds_quote word _) (quote_overruns word _)

theorem straddles_unspaced (unspaced : ∀ operator ∈ vocabulary, ' ' ∉ operator.toList)
    (rest place : List Char) : straddles vocabulary (' ' :: rest) place = false := by
  apply List.any_eq_false.mpr
  intro operator listed crossed
  simp only [Bool.and_eq_true, decide_eq_true_eq] at crossed
  obtain ⟨long, stands⟩ := crossed
  obtain ⟨after, split, -⟩ := standsAt_split stands
  -- The operator has more characters than the place, so the space is one of them.
  have space : ' ' ∈ operator.toList := by
    have inside : operator.toList <+: place ++ ' ' :: rest := ⟨after, split.symm⟩
    rcases List.prefix_or_prefix_of_prefix inside (List.prefix_append place (' ' :: rest)) with
      early | ⟨beyond, spelt⟩
    · have short := early.length_le
      omega
    · rw [← spelt] at inside long ⊢
      have onward := (List.prefix_append_right_inj place).mp inside
      cases beyond with
      | nil => simp at long
      | cons c beyond =>
          obtain ⟨rfl, -⟩ := List.cons_prefix_cons.mp onward
          simp
  rcases List.mem_append.mp listed with default | added
  · exact defaults_unspaced operator default space
  · exact unspaced operator added space

theorem overruns_unspaced (unspaced : ∀ operator ∈ vocabulary, ' ' ∉ operator.toList)
    (word rest : String) : overruns vocabulary word (" " ++ rest) = false := by
  rw [overruns, space_toList]
  apply List.any_eq_false.mpr
  intro place _
  rw [straddles_unspaced unspaced]
  exact Bool.false_ne_true

/-! What a text says. -/

def said (vocabulary : List String) (cs : List Char) : List Token :=
  ((sources vocabulary cs).map (tokenOfSource vocabulary)).filterMap plain?

theorem said_literal (printed : List String) (category : Bool) (word : String) :
    plain? (tokenOfSource vocabulary (Canonical.literal printed category word)) =
      some (.identifier word) := by
  obtain ⟨isWord, same⟩ := literal_word vocabulary printed category word
  rw [plain_word isWord, same]

theorem said_first {c : Char} {cs : List Char} {word : String} {more : List Token}
    (starts : StartsWord c) (visible : isBlank c = false)
    (spoken : said vocabulary (c :: cs) = .identifier word :: more) :
    word = String.ofList (c :: cs.take (tail vocabulary c cs)) := by
  rw [said, sources_piece _ visible, List.map_cons, tokenOfSource_cons, starts.tokenOf_eq,
    List.filterMap_cons, classify_plain] at spoken
  cases keyword : Connective.ofKeyword? (String.ofList (c :: cs.take (tail vocabulary c cs))) with
  | some connective =>
      simp only [keyword, List.cons.injEq, reduceCtorEq, false_and] at spoken
  | none =>
      simp only [keyword, List.cons.injEq, Token.identifier.injEq] at spoken
      exact spoken.1.symm

/-- A text that starts with a literal says its word first only if the literal holds. -/
theorem said_holds {category : Bool} {word : String} {rest : String} {more : List Token}
    (spoken : said vocabulary ((Canonical.literal vocabulary category word).toList ++ rest.toList) =
      .identifier word :: more) :
    Holds vocabulary (Canonical.literal vocabulary category word) rest := by
  unfold Canonical.literal at spoken ⊢
  split at spoken
  next bare =>
    rw [if_pos bare]
    obtain ⟨⟨c, cs, chars, reads⟩, -⟩ := (isBare_iff category word).mp bare
    rw [chars, List.cons_append] at spoken
    have spelt := said_first reads.starts reads.visible spoken
    rw [← String.toList_inj, chars, String.toList_ofList, List.cons.injEq] at spelt
    refine ⟨c, cs, chars, reads.visible, ?_⟩
    have length := congrArg List.length spelt.2
    have bound := tail_le vocabulary c (cs ++ rest.toList)
    rw [List.length_take] at length
    omega
  next quoted =>
    rw [if_neg quoted]
    exact holds_quote word rest

theorem said_rest {category : Bool} {word : String} {rest : String}
    (holds : Holds vocabulary (Canonical.literal vocabulary category word) rest) :
    said vocabulary ((Canonical.literal vocabulary category word).toList ++ rest.toList) =
      .identifier word :: said vocabulary rest.toList := by
  rw [said, holds.sources, List.map_cons, List.filterMap_cons, said_literal]
  rfl

end Lexer

open Lexer

theorem typed_sources {vocabulary : List String} {category operator value : String}
    (first : Holds vocabulary (categoryLiteral vocabulary category)
      (" " ++ (wordLiteral vocabulary operator ++ (" " ++ wordLiteral vocabulary value))))
    (second : Holds vocabulary (wordLiteral vocabulary operator)
      (" " ++ wordLiteral vocabulary value)) :
    sources vocabulary (categoryLiteral vocabulary category ++
        (" " ++ (wordLiteral vocabulary operator ++ (" " ++ wordLiteral vocabulary value)))).toList =
      [categoryLiteral vocabulary category, wordLiteral vocabulary operator,
        wordLiteral vocabulary value] := by
  have last := sources_literal false value (endsWord_nil vocabulary)
  rw [List.append_nil, sources_nil] at last
  rw [String.toList_append, first.sources, sources_behind, String.toList_append, second.sources,
    sources_behind]
  exact congrArg _ (congrArg _ last)

theorem typed_parse (vocabulary : List String) (category operator value : String) :
    parse vocabulary (categoryLiteral vocabulary category ++
        (" " ++ (wordLiteral vocabulary operator ++ (" " ++ wordLiteral vocabulary value)))) =
        .ok [.leaf ⟨category, operator, some value⟩] ↔
      Holds vocabulary (categoryLiteral vocabulary category)
          (" " ++ (wordLiteral vocabulary operator ++ (" " ++ wordLiteral vocabulary value))) ∧
        Holds vocabulary (wordLiteral vocabulary operator)
          (" " ++ wordLiteral vocabulary value) := by
  constructor
  · intro read
    have words := parse_words read
    rw [tokens_eq, words_leaf, String.toList_append] at words
    have first := @said_holds vocabulary true category _ _ words
    have later := (said_rest first).symm.trans words
    rw [List.cons.injEq, said, sources_behind, String.toList_append] at later
    exact ⟨first, said_holds later.2⟩
  · rintro ⟨first, second⟩
    obtain ⟨word, text⟩ := literal_word vocabulary vocabulary false operator
    obtain ⟨word', text'⟩ := literal_word vocabulary vocabulary false value
    have cut := typed_sources first second
    have read := parse_comparison category
      (tokenOfSource vocabulary (wordLiteral vocabulary operator))
      (tokenOfSource vocabulary (wordLiteral vocabulary value)) word word'
      (by rw [tokens_eq, cut]; simp [Grid.token_own_category])
    rwa [wordLiteral, text, wordLiteral, text'] at read

/-- A predicate that is typed literal by literal is read back exactly if no operator begins in one
of its first two literals and ends in what follows. -/
theorem typed_read_back_exact (vocabulary : List String) (category operator value : String) :
    (parse vocabulary (categoryLiteral vocabulary category ++ " " ++
        wordLiteral vocabulary operator ++ " " ++ wordLiteral vocabulary value) =
        .ok [.leaf ⟨category, operator, some value⟩] ↔
      overruns vocabulary (categoryLiteral vocabulary category)
          (" " ++ wordLiteral vocabulary operator ++ " " ++ wordLiteral vocabulary value) = false ∧
        overruns vocabulary (wordLiteral vocabulary operator)
          (" " ++ wordLiteral vocabulary value) = false) ∧
    ((∀ operator ∈ vocabulary, ' ' ∉ operator.toList) →
      parse vocabulary (categoryLiteral vocabulary category ++ " " ++
        wordLiteral vocabulary operator ++ " " ++ wordLiteral vocabulary value) =
        .ok [.leaf ⟨category, operator, some value⟩]) := by
  have first := @literal_seam vocabulary true category
    (wordLiteral vocabulary operator ++ (" " ++ wordLiteral vocabulary value))
  have second := @literal_seam vocabulary false operator (wordLiteral vocabulary value)
  have exactly := (typed_parse vocabulary category operator value).trans (and_congr first second)
  simp only [String.append_assoc]
  refine ⟨exactly, ?_⟩
  intro unspaced
  apply exactly.mpr
  exact ⟨overruns_unspaced unspaced _ _, overruns_unspaced unspaced _ _⟩

/-! Two operators, of which one goes on where the other ends. -/

theorem is_not_literals :
    categoryLiteral ["is", "is not"] "x" = "x" ∧ wordLiteral ["is", "is not"] "is" = "is" ∧
      wordLiteral ["is", "is not"] "not" = "not" := by
  have bare (category : Bool) (c : Char) (cs : List Char)
      (reads : ReadsWhole ["is", "is not"] c cs)
      (token : classify ["is", "is not"] (String.ofList (c :: cs)) =
          .identifier (String.ofList (c :: cs)) ∨
        category = false ∧ classify ["is", "is not"] (String.ofList (c :: cs)) =
          .operator (String.ofList (c :: cs))) :
      Canonical.literal ["is", "is not"] category (String.ofList (c :: cs)) =
        String.ofList (c :: cs) :=
    if_pos ((isBare_iff category _).mpr ⟨⟨c, cs, String.toList_ofList, reads⟩, token⟩)
  exact ⟨bare true 'x' [] (by decide) (by decide), bare false 'i' ['s'] (by decide) (by decide),
    bare false 'n' ['o', 't'] (by decide) (by decide)⟩

theorem is_not_typed_apart :
    "is" ∈ ["is", "is not"] ∧
      parse ["is", "is not"] (categoryLiteral ["is", "is not"] "x" ++ " " ++
          wordLiteral ["is", "is not"] "is" ++ " " ++ wordLiteral ["is", "is not"] "not") ≠
        .ok [.leaf ⟨"x", "is", some "not"⟩] := by
  have crossed : overruns ["is", "is not"] "is" (" " ++ "not") = true := by decide
  obtain ⟨-, operator, value⟩ := is_not_literals
  refine ⟨.head _, ?_⟩
  intro read
  simp only [String.append_assoc] at read
  have apart := (literal_seam false "is" _).mp ((typed_parse _ _ _ _).mp read).2
  rw [value, ← wordLiteral, operator, crossed] at apart
  cases apart

end Sift
