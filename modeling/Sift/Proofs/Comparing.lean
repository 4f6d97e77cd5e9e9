import Sift.Proofs.Gluing

/-!
Comparisons without spaces. For a reader with the default operators a plain word ends where a
comparison character stands, and a run of comparison characters ends where none does. So a name, a
run and a value need no spaces between them. The one exception is a run of a single `!`, which goes
with a letter behind it.
-/

namespace Sift

open Text Lexer

namespace Lexer

/-- Alone, the text is read as one bare word that stands for the token. -/
def IsWord (word : String) (token : Token) : Prop :=
  lexemes [] word = [⟨token, 0, word⟩] ∧ Bare word

theorem isWord_iff {word : String} {token : Token} :
    IsWord word token ↔
      ∃ c cs, word.toList = c :: cs ∧ ReadsWhole [] c cs ∧ token = classify [] word := by
  constructor
  · rintro ⟨single, c, cs, chars, starts⟩
    obtain ⟨_, _, same, visible, whole, lexeme⟩ :=
      (lexemes_single [] word _).mp ⟨single, rfl, by simp [Lexeme.stop]⟩
    cases chars.symm.trans same
    rw [starts.tail_eq] at whole
    rw [Lexeme.mk.injEq, starts.tokenOf_eq, ← chars, String.ofList_toList] at lexeme
    exact ⟨c, cs, chars, ⟨starts, visible, whole⟩, lexeme.1⟩
  · rintro ⟨c, cs, chars, reads, rfl⟩
    have single := (lexemes_single [] word _).mpr
      ⟨c, cs, chars, reads.visible, by rw [reads.starts.tail_eq, reads.whole], rfl⟩
    rw [reads.starts.tokenOf_eq, ← chars, String.ofList_toList] at single
    exact ⟨single.1, c, cs, chars, reads.starts⟩

theorem IsWord.token {word : String} {token : Token} (isWord : IsWord word token) :
    tokenOfSource [] word = token := by
  obtain ⟨c, cs, chars, reads, rfl⟩ := isWord_iff.mp isWord
  rw [tokenOfSource, chars]
  simp only [reads.starts.tokenOf_eq, ← chars, String.ofList_toList]

/-- A bare word in front of other text, for a reader with the default operators. -/
theorem holds_default {c : Char} {cs : List Char} {word : String} (rest : String)
    (chars : word.toList = c :: cs) (starts : StartsWord c) (visible : isBlank c = false) :
    Holds [] word rest ↔ (∀ x ∈ cs, inWord c (cs ++ rest.toList) x = true) ∧
      ∀ d ∈ rest.toList.head?, inWord c (cs ++ rest.toList) d = false := by
  rw [holds_word _ chars starts visible, wordTail_default, defaultTail_whole]

theorem ReadsWhole.inWord {c : Char} {cs : List Char} (reads : ReadsWhole [] c cs) :
    ∀ x ∈ cs, inWord c cs x = true := by
  have whole := reads.whole
  have opened := defaultTail_whole c cs []
  rw [List.append_nil, ← wordTail_default] at opened
  exact (opened.mp whole).1

theorem comparison_cases {c : Char} :
    isComparison c = true ↔ c = '=' ∨ c = '!' ∨ c = '<' ∨ c = '>' := by
  simp [isComparison, or_assoc]

theorem classify_symbols {word : String} (symbols : ∀ c ∈ word.toList, isComparison c = true) :
    classify [] word = .operator word := by
  have letterless : word.toList.any isAlphanumeric = false := by
    rw [List.any_eq_false]
    intro c member letter
    have plain := not_comparison_of_alphanumeric letter
    rw [symbols c member] at plain
    cases plain
  have joins : Connective.ofKeyword? word = none := by
    unfold Connective.ofKeyword?
    cases chars : word.toList with
    | nil => rfl
    | cons c cs =>
        rw [chars] at symbols
        rcases comparison_cases.mp (symbols c (by simp)) with rfl | rfl | rfl | rfl <;> rfl
  simp [classify, joins, letterless]

-- What compares is an operator, so a name is a plain word.
theorem IsWord.plain {c : Char} {cs : List Char} {word : String}
    (isWord : IsWord word (.identifier word)) (chars : word.toList = c :: cs) :
    compares c cs = false := by
  obtain ⟨_, _, same, reads, named⟩ := isWord_iff.mp isWord
  cases chars.symm.trans same
  cases comparing : compares c cs with
  | false => rfl
  | true =>
      have inside : ∀ x ∈ cs, isComparison x = true := by
        simpa [inWord, comparing] using reads.inWord
      have first : isComparison c = true := (Bool.and_eq_true_iff.mp comparing).1
      rw [classify_symbols (by simpa [chars] using ⟨first, inside⟩)] at named
      cases named

/-- A name is read to its end in front of what no plain word goes on with. -/
theorem IsWord.holds_name {name : String} (isWord : IsWord name (.identifier name)) {rest : String}
    (ends : ∀ d ∈ rest.toList.head?, isPlain d = false) : Holds [] name rest := by
  obtain ⟨c, cs, chars, reads, -⟩ := isWord_iff.mp isWord
  have plain := isWord.plain chars
  have inside := reads.inWord
  rw [inWord, plain] at inside
  -- One more character changes the kind of a lone `!` only, which is no name.
  have still : compares c (cs ++ rest.toList) = false := by
    cases cs with
    | cons d cs => exact plain
    | nil =>
        have uncompared : isComparison c = false := by simpa [compares] using plain
        simp [compares, uncompared]
  rw [holds_default _ chars reads.starts reads.visible, inWord, still]
  exact ⟨inside, ends⟩

/-! Runs of comparison characters. -/

theorem startsWord_comparison {c : Char} (comparing : isComparison c = true) :
    StartsWord c ∧ isBlank c = false := by
  rcases comparison_cases.mp comparing with rfl | rfl | rfl | rfl <;> decide

theorem token_run {run : String} (nonempty : run ≠ "")
    (symbols : ∀ c ∈ run.toList, isComparison c = true) :
    tokenOfSource [] run = .operator run := by
  cases chars : run.toList with
  | nil => exact absurd (String.toList_eq_nil_iff.mp chars) nonempty
  | cons r rs =>
      have starts := (startsWord_comparison (symbols r (by simp [chars]))).1
      rw [tokenOfSource, chars]
      simp only [starts.tokenOf_eq, ← chars, String.ofList_toList, classify_symbols symbols]

/-- A run of comparison characters is read to its end in front of what does not compare, unless it
is a `!` in front of a letter. -/
theorem holds_run {run rest : String} (nonempty : run ≠ "")
    (symbols : ∀ c ∈ run.toList, isComparison c = true)
    (ends : ∀ d ∈ rest.toList.head?, isComparison d = false)
    (unlettered : run = "!" → rest.toList.head?.any isAlphabetic = false) :
    Holds [] run rest := by
  cases chars : run.toList with
  | nil => exact absurd (String.toList_eq_nil_iff.mp chars) nonempty
  | cons r rs =>
      rw [chars] at symbols
      obtain ⟨first, others⟩ := List.forall_mem_cons.mp symbols
      have comparing : compares r (rs ++ rest.toList) = true := by
        cases rs with
        | cons next rs =>
            have letterless : isAlphabetic next = false := by
              rcases comparison_cases.mp (others next (by simp)) with rfl | rfl | rfl | rfl <;>
                decide
            simp [compares, first, letterless]
        | nil =>
            have lone : r = '!' → run = "!" := by
              rintro rfl
              rw [← String.toList_inj, chars]
              rfl
            by_cases bang : r = '!'
            · simp [compares, first, unlettered (lone bang)]
            · simp [compares, first, bang]
      obtain ⟨starts, visible⟩ := startsWord_comparison first
      rw [holds_default _ chars starts visible, inWord, comparing]
      exact ⟨others, ends⟩

theorem IsWord.alone {word : String} {token : Token} (isWord : IsWord word token) :
    sources [] word.toList = [word] := by
  have read := congrArg (List.map Lexeme.source) isWord.1
  exact read

/-- A `!` takes the word behind it along if that begins with a letter. -/
theorem IsWord.bang {word : String} {token : Token} (isWord : IsWord word token)
    (lettered : word.toList.head?.any isAlphabetic = true) :
    sources [] ("!" ++ word).toList = ["!" ++ word] := by
  obtain ⟨c, cs, chars, reads, -⟩ := isWord_iff.mp isWord
  have letter : isAlphabetic c = true := by simpa [chars] using lettered
  have plain : isComparison c = false :=
    not_comparison_of_alphanumeric (by simp [isAlphanumeric, letter])
  have visible : isDelimiter c = false := by
    simp [isDelimiter, reads.visible, reads.starts.unquoted, reads.starts.notOpen,
      reads.starts.notClose]
  have inside : ∀ x ∈ cs, isPlain x = true := by
    simpa [inWord, compares, plain] using reads.inWord
  have joined : ("!" ++ word).toList = '!' :: c :: cs := by
    rw [String.toList_append, chars]
    rfl
  have whole : Holds [] ("!" ++ word) "" := by
    have loose : compares '!' (c :: cs) = false := by simp [compares, letter]
    rw [holds_default _ joined (by decide) (by decide), String.toList_empty, List.append_nil,
      inWord, loose]
    exact ⟨List.forall_mem_cons.mpr ⟨by simp [isPlain, plain, visible], inside⟩, by simp⟩
  have read := whole.sources
  simpa [sources_nil] using read

theorem IsWord.name_sources {name rest : String} (isWord : IsWord name (.identifier name))
    (ends : ∀ d ∈ rest.toList.head?, isPlain d = false) :
    sources [] (name ++ rest).toList = name :: sources [] rest.toList := by
  rw [String.toList_append, (isWord.holds_name ends).sources]

theorem run_sources {run rest : String} (nonempty : run ≠ "")
    (symbols : ∀ c ∈ run.toList, isComparison c = true)
    (ends : ∀ d ∈ rest.toList.head?, isComparison d = false)
    (unlettered : run = "!" → rest.toList.head?.any isAlphabetic = false) :
    sources [] (run ++ rest).toList = run :: sources [] rest.toList := by
  rw [String.toList_append, (holds_run nonempty symbols ends unlettered).sources]

end Lexer

/-- Around a run of comparison characters spaces are optional: with and without them the name, the
run and the value are read as three tokens. Only a lone `!` in front of a letter needs its space. -/
theorem comparison_spacing_exact (name run value : String) (token : Token)
    (named : IsWord name (.identifier name)) (nonempty : run ≠ "")
    (symbols : ∀ c ∈ run.toList, c = '=' ∨ c = '!' ∨ c = '<' ∨ c = '>')
    (valued : IsWord value token)
    (apart : ∀ c ∈ value.toList.head?, ¬ (c = '=' ∨ c = '!' ∨ c = '<' ∨ c = '>')) :
    tokens [] (name ++ " " ++ run ++ " " ++ value) = [.identifier name, .operator run, token] ∧
      (tokens [] (name ++ run ++ value) = [.identifier name, .operator run, token] ↔
        ¬ (run = "!" ∧ ∃ c ∈ value.toList.head?, isAlphabetic c = true)) := by
  simp only [← comparison_cases, Bool.not_eq_true] at symbols apart
  have lettered : (∃ c ∈ value.toList.head?, isAlphabetic c = true) ↔
      value.toList.head?.any isAlphabetic = true := by
    cases value.toList.head? <;> simp
  have compared : ∀ d ∈ (run ++ value).toList.head?, isPlain d = false := by
    intro d first
    obtain ⟨r, rs, chars⟩ := List.exists_cons_of_ne_nil (mt String.toList_eq_nil_iff.mp nonempty)
    rw [String.toList_append, chars] at first
    cases first
    simp [isPlain, symbols d (by simp [chars])]
  have three : [name, run, value].map (tokenOfSource []) =
      [.identifier name, .operator run, token] := by
    rw [List.map_cons, List.map_cons, List.map_singleton, named.token, token_run nonempty symbols,
      valued.token]
  constructor
  · have spaced : sources [] (name ++ (" " ++ (run ++ (" " ++ value)))).toList =
        [name, run, value] := by
      have first (rest : String) : (" " ++ rest).toList.head? = some ' ' := by simp
      have ends {kind : Char → Bool} (outside : kind ' ' = false) (rest : String) :
          ∀ d ∈ (" " ++ rest).toList.head?, kind d = false := by
        rw [first]
        rintro d ⟨⟩
        exact outside
      have run_alone : sources [] (run ++ (" " ++ value)).toList = [run, value] := by
        rw [run_sources nonempty symbols (ends (by decide) value) (by rw [first]; intro; decide),
          sources_behind, valued.alone]
      rw [named.name_sources (ends (by decide) _), sources_behind, run_alone]
    rw [tokens_eq, String.append_assoc, String.append_assoc, String.append_assoc, spaced, three]
  · rw [tokens_eq, String.append_assoc, named.name_sources compared, lettered]
    constructor
    · rintro same ⟨rfl, letter⟩
      rw [valued.bang letter] at same
      have lengths := congrArg List.length same
      simp at lengths
    · intro usual
      rw [run_sources nonempty symbols apart fun bang => by simpa [bang] using usual, valued.alone,
        three]

-- The name starts with a `!`, the run ends in one, and the value is an operator of its own.
theorem comparison_spacing_exact_bang :
    IsWord "!é" (.identifier "!é") ∧ IsWord "contains" (.operator "contains") ∧
      tokens [] "!é =! contains" = [.identifier "!é", .operator "=!", .operator "contains"] ∧
      tokens [] "!é=!contains" = [.identifier "!é", .operator "=!", .operator "contains"] := by
  have named : IsWord "!é" (.identifier "!é") := isWord_iff.mpr ⟨'!', ['é'], rfl, by decide, rfl⟩
  have valued : IsWord "contains" (.operator "contains") :=
    isWord_iff.mpr ⟨'c', "ontains".toList, rfl, by decide, rfl⟩
  have symbols : ∀ c ∈ "=!".toList, c = '=' ∨ c = '!' ∨ c = '<' ∨ c = '>' := by
    have chars : "=!".toList = ['=', '!'] := rfl
    simp [chars]
  have apart : ∀ c ∈ "contains".toList.head?, ¬ (c = '=' ∨ c = '!' ∨ c = '<' ∨ c = '>') := by
    rintro c ⟨⟩
    decide
  obtain ⟨spaced, glued⟩ :=
    comparison_spacing_exact "!é" "=!" "contains" _ named (by decide) symbols valued apart
  exact ⟨named, valued, spaced, glued.mpr fun lone => absurd lone.1 (by decide)⟩

end Sift
