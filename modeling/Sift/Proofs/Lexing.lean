import Sift.Query.Lexer

/-!
How a text falls into pieces. A lexeme is its piece of text and where that piece starts: the
token can be read off the piece alone. So what follows speaks of the pieces, and positions
come back only where they are asked for.

A word is read to its end by looking at what comes after it. The middle part says when that
does not matter: before a delimiter that no operator contains, a word is read the way it is
read alone.
-/

namespace Sift

namespace Lexer

open Text

variable {vocabulary : List String}

/-- The pieces of text that the lexemes are read from. -/
def sources (vocabulary : List String) (cs : List Char) : List String :=
  (scan vocabulary 0 cs).map Lexeme.source

def tokenOfSource (vocabulary : List String) (source : String) : Token :=
  match source.toList with
  | [] => classify vocabulary ""
  | c :: cs => tokenOf vocabulary c cs

theorem tokenOfSource_cons (vocabulary : List String) (c : Char) (cs : List Char) :
    tokenOfSource vocabulary (String.ofList (c :: cs)) = tokenOf vocabulary c cs := by
  simp [tokenOfSource]

theorem scan_nil (start : Nat) : scan vocabulary start [] = [] := by
  rw [scan]

theorem scan_blank {c : Char} (start : Nat) (cs : List Char) (blank : isBlank c = true) :
    scan vocabulary start (c :: cs) = scan vocabulary (start + c.utf8Size) cs := by
  rw [scan, if_pos blank]

theorem scan_piece {c : Char} (start : Nat) (cs : List Char) (visible : isBlank c = false) :
    scan vocabulary start (c :: cs) =
      ⟨tokenOf vocabulary c (cs.take (tail vocabulary c cs)), start,
        String.ofList (c :: cs.take (tail vocabulary c cs))⟩ ::
      scan vocabulary (start + (String.ofList (c :: cs.take (tail vocabulary c cs))).utf8ByteSize)
        (cs.drop (tail vocabulary c cs)) := by
  rw [scan, if_neg (by simp [visible])]

/-- A text is empty, or starts with a blank, or starts with a piece. -/
theorem pieces_induction (vocabulary : List String) {motive : List Char → Prop} (empty : motive [])
    (blank : ∀ c cs, isBlank c = true → motive cs → motive (c :: cs))
    (piece : ∀ c cs, isBlank c = false → motive (cs.drop (tail vocabulary c cs)) → motive (c :: cs))
    (cs : List Char) : motive cs :=
  scan.induct vocabulary (fun _ cs => motive cs) (fun _ => empty) (fun _ => blank)
    (fun _ c cs visible => piece c cs (by simpa using visible)) 0 cs

theorem scan_sources (start : Nat) (cs : List Char) :
    (scan vocabulary start cs).map Lexeme.source = sources vocabulary cs := by
  unfold sources
  generalize 0 = other
  induction cs using pieces_induction vocabulary generalizing start other with
  | empty => simp [scan]
  | blank c cs blank ih => rw [scan_blank _ _ blank, scan_blank _ _ blank, ih]
  | piece c cs visible ih =>
      rw [scan_piece _ _ visible, scan_piece _ _ visible, List.map_cons, List.map_cons, ih]

theorem sources_nil : sources vocabulary [] = [] := by
  simp [sources, scan]

theorem sources_blank {c : Char} (cs : List Char) (blank : isBlank c = true) :
    sources vocabulary (c :: cs) = sources vocabulary cs := by
  rw [sources, scan_blank _ _ blank, scan_sources]

theorem sources_piece {c : Char} (cs : List Char) (visible : isBlank c = false) :
    sources vocabulary (c :: cs) =
      String.ofList (c :: cs.take (tail vocabulary c cs)) ::
        sources vocabulary (cs.drop (tail vocabulary c cs)) := by
  rw [sources, scan_piece _ _ visible, List.map_cons, scan_sources]

theorem scan_tokens (start : Nat) (cs : List Char) :
    (scan vocabulary start cs).map Lexeme.token =
      (sources vocabulary cs).map (tokenOfSource vocabulary) := by
  induction cs using pieces_induction vocabulary generalizing start with
  | empty => simp [scan, sources]
  | blank c cs blank ih => rw [scan_blank _ _ blank, sources_blank _ blank, ih]
  | piece c cs visible ih =>
      rw [scan_piece _ _ visible, sources_piece _ visible, List.map_cons, List.map_cons, ih,
        tokenOfSource_cons]

theorem sources_eq_nil (cs : List Char) :
    sources vocabulary cs = [] ↔ cs.all isBlank = true := by
  induction cs using pieces_induction vocabulary with
  | empty => simp [sources_nil]
  | blank c cs blank ih => simp [sources_blank _ blank, ih, blank]
  | piece c cs visible ih => simp [sources_piece _ visible, visible]

theorem scan_start_le {start : Nat} {cs : List Char} {lexeme : Lexeme}
    (member : lexeme ∈ scan vocabulary start cs) : start ≤ lexeme.start := by
  induction cs using pieces_induction vocabulary generalizing start with
  | empty => simp [scan] at member
  | blank c cs blank ih =>
      rw [scan_blank _ _ blank] at member
      exact Nat.le_trans (Nat.le_add_right _ _) (ih member)
  | piece c cs visible ih =>
      rw [scan_piece _ _ visible] at member
      rcases List.mem_cons.mp member with rfl | later
      · exact Nat.le_refl _
      · exact Nat.le_trans (Nat.le_add_right _ _) (ih later)

/-! Words in front of a delimiter. -/

/-- A word may end where `rest` begins, and no operator reaches from it into `rest`. -/
def EndsWord (vocabulary : List String) (rest : List Char) : Prop :=
  ∀ c ∈ rest.head?, isDelimiter c = true ∧
    ∀ operator ∈ defaultOperators ++ vocabulary, c ∉ operator.toList

theorem EndsWord.delimits {rest : List Char} (ends : EndsWord vocabulary rest) :
    ∀ c ∈ rest.head?, isDelimiter c = true :=
  fun c first => (ends c first).1

theorem operator_prefix_append {rest operator : List Char} (cs : List Char)
    (ends : ∀ c ∈ rest.head?, c ∉ operator) :
    operator <+: cs ++ rest ↔ operator <+: cs := by
  constructor
  · intro inside
    rcases List.prefix_or_prefix_of_prefix inside (List.prefix_append cs rest) with
      early | ⟨beyond, rfl⟩
    · exact early
    · have onward := (List.prefix_append_right_inj cs).mp inside
      cases beyond with
      | nil => simp
      | cons c beyond =>
          obtain ⟨after, rfl⟩ := onward
          exact absurd (by simp) (ends c (by simp))
  · intro inside
    exact inside.trans (List.prefix_append cs rest)

theorem mayPrecede_append {rest : List Char} (operator cs : List Char)
    (ends : ∀ c ∈ rest.head?, isDelimiter c = true) :
    mayPrecede operator (cs ++ rest) = mayPrecede operator cs := by
  cases cs with
  | cons c cs => rfl
  | nil =>
      cases rest with
      | nil => rfl
      | cons c rest => simp [mayPrecede, ends c (by simp)]

theorem standsAt_append {rest operator : List Char} (cs : List Char)
    (ends : ∀ c ∈ rest.head?, isDelimiter c = true ∧ c ∉ operator) :
    standsAt (cs ++ rest) operator = standsAt cs operator := by
  have delimits : ∀ c ∈ rest.head?, isDelimiter c = true := fun c first => (ends c first).1
  have inside := operator_prefix_append cs fun c first => (ends c first).2
  rw [Bool.eq_iff_iff]
  simp only [standsAt, Bool.and_eq_true, List.isPrefixOf_iff_prefix, inside]
  refine and_congr_right fun ⟨_, found⟩ => ?_
  rw [List.drop_append_of_le_length found.length_le, mayPrecede_append _ _ delimits]

theorem operatorLength_append {rest : List Char} (cs : List Char)
    (ends : EndsWord vocabulary rest) :
    operatorLength? vocabulary (cs ++ rest) = operatorLength? vocabulary cs := by
  have same : ((defaultOperators ++ vocabulary).map String.toList).filter (standsAt (cs ++ rest)) =
      ((defaultOperators ++ vocabulary).map String.toList).filter (standsAt cs) := by
    apply List.filter_congr
    intro operator member
    obtain ⟨known, listed, rfl⟩ := List.mem_map.mp member
    exact standsAt_append cs fun c first => ⟨(ends c first).1, (ends c first).2 known listed⟩
  rw [operatorLength?, same, operatorLength?]

theorem operatorLength_found {cs : List Char} {length : Nat}
    (found : operatorLength? vocabulary cs = some length) :
    ∃ operator ∈ defaultOperators ++ vocabulary, standsAt cs operator.toList = true ∧
      operator.toList.length = length := by
  have member := List.max?_mem found
  simp only [List.mem_map, List.mem_filter] at member
  obtain ⟨_, ⟨⟨operator, listed, rfl⟩, stands⟩, same⟩ := member
  exact ⟨operator, listed, stands, same⟩

theorem plainTail_append {rest : List Char} (cs : List Char) (ends : EndsWord vocabulary rest) :
    plainTail vocabulary (cs ++ rest) = plainTail vocabulary cs := by
  induction cs with
  | nil =>
      cases rest with
      | nil => rfl
      | cons c rest => simp [plainTail, ends.delimits c (by simp)]
  | cons c cs ih =>
      have length := operatorLength_append (c :: cs) ends
      simp only [List.cons_append] at length ⊢
      simp only [plainTail, length, ih]

theorem not_comparison_of_delimiter {c : Char} (delimits : isDelimiter c = true) :
    isComparison c = false := by
  cases compares : isComparison c with
  | false => rfl
  | true =>
      simp only [isComparison, Bool.or_eq_true, decide_eq_true_eq] at compares
      rcases compares with ((rfl | rfl) | rfl) | rfl <;> exact absurd delimits (by decide)

theorem takeWhile_comparison_append {rest : List Char} (cs : List Char)
    (ends : ∀ c ∈ rest.head?, isDelimiter c = true) :
    (cs ++ rest).takeWhile isComparison = cs.takeWhile isComparison := by
  induction cs with
  | nil =>
      cases rest with
      | nil => rfl
      | cons c rest => simp [not_comparison_of_delimiter (ends c (by simp))]
  | cons c cs ih => simp [List.takeWhile_cons, ih]

theorem wordTail_append {rest : List Char} (c : Char) (cs : List Char)
    (ends : EndsWord vocabulary rest) :
    wordTail vocabulary c (cs ++ rest) = wordTail vocabulary c cs := by
  have length := operatorLength_append (c :: cs) ends
  simp only [List.cons_append] at length
  simp only [wordTail, length, plainTail_append cs ends,
    takeWhile_comparison_append cs ends.delimits]
  cases cs with
  | cons d cs => rfl
  -- What follows a lone `!` may be a letter or not: either way nothing more is taken.
  | nil => simp [plainTail]

theorem plainTail_le (cs : List Char) : plainTail vocabulary cs ≤ cs.length := by
  induction cs with
  | nil => simp [plainTail]
  | cons c cs ih =>
      simp only [plainTail]
      split
      · exact Nat.zero_le _
      · simpa using ih

theorem wordTail_le (c : Char) (cs : List Char) : wordTail vocabulary c cs ≤ cs.length := by
  unfold wordTail
  split
  next length found =>
    obtain ⟨operator, -, stands, rfl⟩ := operatorLength_found found
    simp only [standsAt, Bool.and_eq_true, List.isPrefixOf_iff_prefix] at stands
    have bound := stands.1.2.length_le
    simp only [List.length_cons] at bound
    omega
  next =>
    split
    · exact (List.takeWhile_sublist isComparison).length_le
    · exact plainTail_le cs

/-! Strings in quotes. -/

theorem quotedTail_close (quote : Char) (rest : List Char) :
    quotedTail quote (quote :: rest) = 1 := by
  cases rest <;> simp [quotedTail]

theorem quotedTail_plain {quote c : Char} (cs : List Char) (inside : c ≠ quote)
    (plain : c ≠ '\\') : quotedTail quote (c :: cs) = quotedTail quote cs + 1 := by
  cases cs <;> simp [quotedTail, inside, plain]

theorem quotedTail_le (quote : Char) (cs : List Char) : quotedTail quote cs ≤ cs.length := by
  fun_induction quotedTail quote cs with
  | case1 => exact Nat.le_refl 0
  | case2 rest => simp
  | case3 => simp
  | case4 c rest _ ih =>
      simp only [List.length_cons]
      omega
  | case5 c rest _ _ ih =>
      simp only [List.length_cons]
      omega

theorem unescape_close (quote : Char) (rest : List Char) :
    unescape quote (quote :: rest) = [] := by
  cases rest <;> simp [unescape]

theorem unescape_plain {quote c : Char} (cs : List Char) (inside : c ≠ quote)
    (plain : c ≠ '\\') : unescape quote (c :: cs) = c :: unescape quote cs := by
  cases cs <;> simp [unescape, inside, plain]

theorem unescape_length_le (quote : Char) (cs : List Char) :
    (unescape quote cs).length ≤ cs.length := by
  fun_induction unescape quote cs with
  | case1 => exact Nat.le_refl 0
  | case2 rest => exact Nat.zero_le _
  | case3 => exact Nat.zero_le _
  | case4 c rest _ ih =>
      simp only [List.length_cons]
      omega
  | case5 c rest _ _ ih =>
      simp only [List.length_cons]
      omega

/-! Pieces by their first character. -/

theorem tail_le (vocabulary : List String) (c : Char) (cs : List Char) :
    tail vocabulary c cs ≤ cs.length := by
  unfold tail
  split
  · exact Nat.zero_le _
  · split
    · exact quotedTail_le c cs
    · exact wordTail_le c cs

/-- The first character of a bare word. -/
structure StartsWord (c : Char) : Prop where
  unquoted : isQuote c = false
  notOpen : c ≠ '('
  notClose : c ≠ ')'

instance (c : Char) : Decidable (StartsWord c) :=
  decidable_of_iff (isQuote c = false ∧ c ≠ '(' ∧ c ≠ ')')
    ⟨fun ⟨unquoted, notOpen, notClose⟩ => ⟨unquoted, notOpen, notClose⟩,
      fun starts => ⟨starts.unquoted, starts.notOpen, starts.notClose⟩⟩

theorem StartsWord.tail_eq {c : Char} (starts : StartsWord c) (cs : List Char) :
    tail vocabulary c cs = wordTail vocabulary c cs := by
  simp [tail, starts.unquoted, starts.notOpen, starts.notClose]

theorem StartsWord.tokenOf_eq {c : Char} (starts : StartsWord c) (cs : List Char) :
    tokenOf vocabulary c cs = classify vocabulary (String.ofList (c :: cs)) := by
  simp [tokenOf, starts.unquoted, starts.notOpen, starts.notClose]

/-- What does not start a bare word is a parenthesis or a quote. -/
theorem startsWord_or (c : Char) : StartsWord c ∨ (c = '(' ∨ c = ')') ∨ isQuote c = true := by
  by_cases paren : c = '(' ∨ c = ')'
  · exact .inr (.inl paren)
  · rw [not_or] at paren
    cases quoted : isQuote c with
    | true => exact .inr (.inr rfl)
    | false => exact .inl ⟨quoted, paren.1, paren.2⟩

theorem tail_paren {c : Char} (paren : c = '(' ∨ c = ')') (cs : List Char) :
    tail vocabulary c cs = 0 := by
  simp [tail, paren]

theorem quote_not_paren {c : Char} (quoted : isQuote c = true) : c ≠ '(' ∧ c ≠ ')' := by
  constructor
  · rintro rfl
    exact absurd quoted (by decide)
  · rintro rfl
    exact absurd quoted (by decide)

theorem tail_quote {c : Char} (quoted : isQuote c = true) (cs : List Char) :
    tail vocabulary c cs = quotedTail c cs := by
  simp [tail, quote_not_paren quoted, quoted]

theorem tokenOf_quote {c : Char} (quoted : isQuote c = true) (cs : List Char) :
    tokenOf vocabulary c cs = .identifier (String.ofList (unescape c cs)) := by
  simp [tokenOf, quote_not_paren quoted, quoted]

-- Only bare words depend on the vocabulary.
theorem tail_independent {c : Char} (special : ¬ StartsWord c) (left right : List String)
    (cs : List Char) : tail left c cs = tail right c cs := by
  rcases startsWord_or c with starts | paren | quoted
  · exact absurd starts special
  · rw [tail_paren paren, tail_paren paren]
  · rw [tail_quote quoted, tail_quote quoted]

theorem tokenOf_independent {c : Char} (special : ¬ StartsWord c) (left right : List String)
    (cs : List Char) : tokenOf left c cs = tokenOf right c cs := by
  rcases startsWord_or c with starts | (rfl | rfl) | quoted
  · exact absurd starts special
  · rfl
  · rfl
  · rw [tokenOf_quote quoted, tokenOf_quote quoted]

theorem sources_paren {c : Char} (paren : c = '(' ∨ c = ')') (rest : List Char) :
    sources vocabulary (c :: rest) = String.ofList [c] :: sources vocabulary rest := by
  have visible : isBlank c = false := by
    rcases paren with rfl | rfl <;> decide
  rw [sources_piece _ visible, tail_paren paren]
  simp

/-- A word that is read as one piece when it stands alone. -/
structure ReadsWhole (vocabulary : List String) (c : Char) (cs : List Char) : Prop where
  starts : StartsWord c
  visible : isBlank c = false
  whole : wordTail vocabulary c cs = cs.length

instance (c : Char) (cs : List Char) : Decidable (ReadsWhole vocabulary c cs) :=
  decidable_of_iff
    (StartsWord c ∧ isBlank c = false ∧ wordTail vocabulary c cs = cs.length)
    ⟨fun ⟨starts, visible, whole⟩ => ⟨starts, visible, whole⟩,
      fun reads => ⟨reads.starts, reads.visible, reads.whole⟩⟩

theorem sources_word {c : Char} {cs rest : List Char} (reads : ReadsWhole vocabulary c cs)
    (ends : EndsWord vocabulary rest) :
    sources vocabulary (c :: cs ++ rest) = String.ofList (c :: cs) :: sources vocabulary rest := by
  have whole : tail vocabulary c (cs ++ rest) = cs.length := by
    rw [reads.starts.tail_eq, wordTail_append c cs ends, reads.whole]
  rw [List.cons_append, sources_piece _ reads.visible, whole, List.take_left, List.drop_left]

/-! What a piece says, whatever the vocabulary: a word or a connective. Two vocabularies that
make the same of a text in this sense have cut it at the same places. -/

def plain? : Token → Option Token
  | .identifier text | .operator text => some (.identifier text)
  | .conjunction connective => some (.conjunction connective)
  | _ => none

theorem classify_plain (vocabulary : List String) (word : String) :
    plain? (classify vocabulary word) =
      some (match Connective.ofKeyword? word with
        | some connective => .conjunction connective
        | none => .identifier word) := by
  unfold classify
  cases Connective.ofKeyword? word with
  | some connective => rfl
  | none =>
      simp only
      split <;> rfl

theorem keyword_length {word : String} {connective : Connective}
    (keyword : Connective.ofKeyword? word = some connective) :
    word.toList.length = connective.keyword.toList.length := by
  simp only [Connective.ofKeyword?] at keyword
  rw [← List.length_map (f := Char.toLower)]
  split at keyword
  next letters =>
    cases keyword
    rw [letters]
    rfl
  next =>
    split at keyword
    next letters =>
      cases keyword
      rw [letters]
      rfl
    next => cases keyword

-- Words start at the same place here, so a keyword can differ from another only in its length.
theorem take_eq_of_plain (left right : List String) {cs : List Char} {m n : Nat}
    (same : plain? (classify left (String.ofList (cs.take m))) =
      plain? (classify right (String.ofList (cs.take n)))) : cs.take m = cs.take n := by
  rw [classify_plain, classify_plain] at same
  cases first : Connective.ofKeyword? (String.ofList (cs.take m)) with
  | none =>
      cases second : Connective.ofKeyword? (String.ofList (cs.take n)) with
      | none =>
          simpa only [first, second, Option.some.injEq, Token.identifier.injEq,
            String.ofList_inj] using same
      | some connective => simp [first, second] at same
  | some connective =>
      cases second : Connective.ofKeyword? (String.ofList (cs.take n)) with
      | none => simp [first, second] at same
      | some other =>
          simp only [first, second, Option.some.injEq, Token.conjunction.injEq] at same
          subst same
          have length := (keyword_length first).trans (keyword_length second).symm
          simp only [String.toList_ofList, List.length_take] at length
          exact List.take_eq_take_iff.mpr length

theorem tail_eq_of_plain {left right : List String} {c : Char} {cs : List Char} {xs ys : List Token}
    (same : (tokenOf left c (cs.take (tail left c cs)) :: xs).filterMap plain? =
      (tokenOf right c (cs.take (tail right c cs)) :: ys).filterMap plain?) :
    tail left c cs = tail right c cs ∧ xs.filterMap plain? = ys.filterMap plain? := by
  by_cases starts : StartsWord c
  · simp only [starts.tokenOf_eq, ← List.take_succ_cons, List.filterMap_cons, classify_plain,
      List.cons.injEq] at same
    obtain ⟨word, rest⟩ := same
    have pieces : (c :: cs).take (tail left c cs + 1) = (c :: cs).take (tail right c cs + 1) := by
      apply take_eq_of_plain left right
      rw [classify_plain, classify_plain, word]
    rw [List.take_eq_take_iff, List.length_cons] at pieces
    have shortLeft := tail_le left c cs
    have shortRight := tail_le right c cs
    exact ⟨by omega, rest⟩
  · have length := tail_independent starts left right cs
    rw [length, tokenOf_independent starts left right] at same
    refine ⟨length, ?_⟩
    simp only [List.filterMap_cons] at same
    split at same
    · exact same
    · exact (List.cons.inj same).2

theorem sources_eq_of_plain {left right : List String} {cs : List Char}
    (same : ((sources left cs).map (tokenOfSource left)).filterMap plain? =
      ((sources right cs).map (tokenOfSource right)).filterMap plain?) :
    sources left cs = sources right cs := by
  induction cs using pieces_induction left with
  | empty => rw [sources_nil, sources_nil]
  | blank c cs blank ih =>
      rw [sources_blank _ blank, sources_blank _ blank] at same ⊢
      exact ih same
  | piece c cs visible ih =>
      rw [sources_piece _ visible, sources_piece _ visible] at same ⊢
      simp only [List.map_cons, tokenOfSource_cons] at same
      obtain ⟨length, rest⟩ := tail_eq_of_plain same
      rw [← length] at rest ⊢
      rw [ih rest]

end Lexer

/-- The tokens of a text. -/
def tokens (vocabulary : List String) (text : String) : List Token :=
  (lexemes vocabulary text).map Lexeme.token

theorem tokens_eq (vocabulary : List String) (text : String) :
    tokens vocabulary text =
      (Lexer.sources vocabulary text.toList).map (Lexer.tokenOfSource vocabulary) :=
  Lexer.scan_tokens 0 text.toList

theorem tokens_eq_nil (vocabulary : List String) (text : String) :
    tokens vocabulary text = [] ↔ Text.isBlankText text = true := by
  rw [tokens_eq, List.map_eq_nil_iff, Lexer.sources_eq_nil, Text.isBlankText]

end Sift
