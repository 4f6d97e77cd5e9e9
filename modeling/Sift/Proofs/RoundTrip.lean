import Sift.Proofs.Rereading

/-!
Reading canonical text back.

Canonical text is typed for the default reader, and that reader either takes it for the tree it
was printed from or rejects it. It rejects trees that no query spells, and trees whose branches
nest deeper than parentheses may: canonical text puts every branch below the root in parentheses,
and the text a tree was read from need not have done so. Another vocabulary may also cut the text
differently, or take a category for an operator.
-/

namespace Sift

open Lexer Grammar

/-! Canonical text and the default reader. -/

theorem readable_default (expr : Expr) : Readable [] expr ↔ expr.isComplete = true := by
  constructor
  · intro readable
    exact readable.complete
  · intro complete
    exact ⟨complete, fun predicate _ _ => List.not_mem_nil⟩

theorem parse_canonical (expr found : Expr) :
    parse [] expr.canonical = .ok [found] ↔
      (expr.isComplete = true ∧ expr.nesting ≤ 64) ∧ found = expr.collapse := by
  rw [parse_pieces (canonical_sources expr), readable_default]

theorem forest_canonical (first second : Expr) (others : List Expr) :
    Forest.canonical (first :: second :: others) =
      (Expr.branch .and (first :: second :: others)).canonical := by
  rw [Expr.canonical_branch]
  rfl

theorem reading_canonical (expr : Expr) :
    (parse [] expr.canonical).toOption =
      if expr.isComplete = true ∧ expr.nesting ≤ 64 then some [expr.collapse]
      else if expr.isEmptyBranch = true then some []
      else none := by
  have tree := parse_canonical expr
  have nothing := parse_no_pieces (canonical_sources expr)
  by_cases readable : expr.isComplete = true ∧ expr.nesting ≤ 64
  · have read := (tree expr.collapse).mpr ⟨readable, rfl⟩
    rw [if_pos readable, read]
    rfl
  rw [if_neg readable]
  by_cases empty : expr.isEmptyBranch = true
  · rw [if_pos empty, nothing.mpr empty]
    rfl
  rw [if_neg empty]
  cases result : parse [] expr.canonical with
  | error error => rfl
  | ok forest =>
      rcases parse_roots result with rfl | ⟨found, rfl⟩
      · exact absurd (nothing.mp result) empty
      · exact absurd ((tree found).mp result).1 readable

/-- Canonical text is read as the tree it was printed from, up to branches of one child, and not
at all if the tree is not complete or nests too deep; only an empty branch is printed as nothing
and read as nothing. Several roots are printed, and read, as one conjunction. -/
theorem canonical_read_back :
    (∀ expr : Expr, (parse [] expr.canonical).toOption =
      if expr.isComplete = true ∧ expr.nesting ≤ 64 then some [expr.collapse]
      else if expr.isEmptyBranch = true then some []
      else none) ∧
    ∀ (first second : Expr) (others : List Expr),
      Forest.canonical (first :: second :: others) =
          (Expr.branch .and (first :: second :: others)).canonical ∧
        (parse [] (Forest.canonical (first :: second :: others))).toOption =
          if Expr.areComplete (first :: second :: others) = true ∧
              Expr.heightAll (first :: second :: others) ≤ 64 then
            some [.branch .and ((first :: second :: others).map Expr.collapse)]
          else none := by
  refine ⟨reading_canonical, fun first second others => ⟨forest_canonical first second others, ?_⟩⟩
  rw [forest_canonical, reading_canonical]
  simp [Expr.isComplete, Expr.isEmptyBranch, Expr.nesting, Expr.collapse, Expr.collapseAll_eq]

/-! Trees that were read from a text. -/

theorem spells_shape {phrase : Phrase} {tokens : List Token} {expr : Expr}
    (spells : Spells phrase tokens expr) : expr.isComplete = true ∧ expr.collapse = expr := by
  induction spells with
  | comparison first second => exact ⟨rfl, rfl⟩
  | group inner ih => exact ih
  | only member ih => exact ih
  | @several connective parts two each ih =>
      have collapsed : (parts.map Prod.snd).map Expr.collapse = parts.map Prod.snd := by
        rw [List.map_map]
        exact List.map_congr_left fun part listed => (ih part listed).2
      constructor
      · simp only [Expr.isComplete, Bool.and_eq_true, Bool.not_eq_true', List.isEmpty_eq_false_iff,
          Expr.areComplete_iff, List.forall_mem_map]
        exact ⟨several_filled Prod.snd two, fun part listed => (ih part listed).1⟩
      · rw [Expr.collapse_several connective (by simpa using two), collapsed]

theorem parse_shape {vocabulary : List String} {text : String} {expr : Expr}
    (read : parse vocabulary text = .ok [expr]) :
    expr.isComplete = true ∧ expr.collapse = expr :=
  spells_shape ((parse_spells vocabulary text expr).mp read).1

theorem reparse_default {vocabulary : List String} {text : String} {expr : Expr}
    (read : parse vocabulary text = .ok [expr]) :
    parse [] expr.canonical = .ok [expr] ↔ expr.nesting ≤ 64 := by
  obtain ⟨complete, collapsed⟩ := parse_shape read
  rw [parse_canonical, collapsed]
  simp [complete]

/-- The canonical text of a query is read as that query again exactly if no more than 64
branches of the query stand inside of each other below its root. -/
theorem canonical_round_trip {text : String} {forest : Forest} (read : parse [] text = .ok forest) :
    parse [] forest.canonical = .ok forest ↔ forest.nesting ≤ 64 := by
  rcases parse_roots read with rfl | ⟨expr, rfl⟩
  · have empty : parse [] "" = .ok [] := parse_blank [] rfl
    simp [Forest.canonical, Forest.nesting, empty]
  · exact reparse_default read

/-! Ladders. A rung is typed with one pair of parentheses, since `AND` binds tighter than `OR`, and
printed with two. -/

def ladder (step : Predicate) : Nat → String
  | 0 => step.canonical
  | n + 1 => step.canonical ++ " OR " ++ step.canonical ++ " AND (" ++ ladder step n ++ ")"

def ladderPieces (step : Predicate) : Nat → List String
  | 0 => step.pieces
  | n + 1 =>
      step.pieces ++ Connective.or.keyword ::
        (step.pieces ++ Connective.and.keyword :: "(" :: (ladderPieces step n ++ [")"]))

def ladderTree (step : Predicate) : Nat → Expr
  | 0 => .leaf step
  | n + 1 => .branch .or [.leaf step, .branch .and [.leaf step, ladderTree step n]]

theorem ladder_sources {rest : List Char} (step : Predicate) (n : Nat) (ends : EndsWord [] rest) :
    sources [] ((ladder step n).toList ++ rest) = ladderPieces step n ++ sources [] rest := by
  induction n generalizing rest with
  | zero => exact predicate_sources step ends
  | succ n ih =>
      have between : " OR ".toList = ' ' :: Connective.or.keyword.toList ++ [' '] := rfl
      have inside : " AND (".toList = ' ' :: Connective.and.keyword.toList ++ [' ', '('] := rfl
      have closing : ")".toList = [')'] := rfl
      simp only [ladder, String.toList_append, between, inside, closing, List.append_assoc,
        List.cons_append, List.nil_append]
      rw [predicate_sources _ (endsWord_space _), sources_space,
        sources_keyword _ (endsWord_space _), sources_space,
        predicate_sources _ (endsWord_space _), sources_space,
        sources_keyword _ (endsWord_space _), sources_space, sources_paren (Or.inl rfl),
        ih (endsWord_close rest), sources_paren (Or.inr rfl)]
      simp only [ladderPieces, List.append_assoc, List.cons_append, List.nil_append]

theorem ladder_tokens (step : Predicate) (n : Nat) :
    tokens [] (ladder step n) = (ladderPieces step n).map (tokenOfSource []) := by
  have read := ladder_sources step n (endsWord_nil [])
  rw [sources_nil, List.append_nil, List.append_nil] at read
  rw [tokens_eq, read]

theorem predicate_spells {step : Predicate} (complete : step.value.isSome = true) :
    Spells .predicate (step.pieces.map (tokenOfSource [])) (.leaf step) ∧
      ∀ limit, NestsWithin limit (step.pieces.map (tokenOfSource [])) := by
  obtain ⟨category, operator, value⟩ := step
  obtain ⟨value, rfl⟩ := Option.isSome_iff_exists.mp complete
  obtain ⟨first, operatorText⟩ := literal_word [] [] false operator
  obtain ⟨second, valueText⟩ := literal_word [] [] false value
  have named := (literal_category [] [] category).mpr (fun _ => List.not_mem_nil)
  have pieces : (Predicate.pieces ⟨category, operator, some value⟩).map (tokenOfSource []) =
      [.identifier category, tokenOfSource [] (wordLiteral [] operator),
        tokenOfSource [] (wordLiteral [] value)] :=
    congrArg (· :: _) named
  rw [pieces]
  refine ⟨?_, fun limit => nests_comparison limit category first second⟩
  have spells := @Spells.comparison category _ _ first second
  simpa only [wordLiteral, operatorText, valueText] using spells

theorem ladder_spells {step : Predicate} (complete : step.value.isSome = true) (n : Nat) :
    Query ((ladderPieces step n).map (tokenOfSource [])) (ladderTree step n) ∧
      NestsWithin n ((ladderPieces step n).map (tokenOfSource [])) := by
  obtain ⟨spells, shallow⟩ := predicate_spells complete
  induction n with
  | zero => exact ⟨.only (.only spells), shallow 0⟩
  | succ n ih =>
      obtain ⟨inner, nests⟩ := ih
      have group := Spells.group inner
      have rung := spells_pair .and spells group
      have both := spells_pair .or (.only spells) rung
      have pieces : (ladderPieces step (n + 1)).map (tokenOfSource []) =
          step.pieces.map (tokenOfSource []) ++ .conjunction .or ::
            (step.pieces.map (tokenOfSource []) ++ .conjunction .and ::
              .openParen :: ((ladderPieces step n).map (tokenOfSource []) ++ [.closeParen])) := by
        simp only [ladderPieces, List.map_append, List.map_cons, List.map_nil, token_keyword]
        rfl
      rw [pieces]
      refine ⟨both, ?_⟩
      rw [nests_pair _ _ (spells_balanced spells) (spells_balanced rung),
        nests_pair _ _ (spells_balanced spells) (spells_balanced group),
        nests_group _ (spells_balanced inner)]
      exact ⟨shallow _, shallow _, n, rfl, nests⟩

theorem ladder_read {step : Predicate} {n : Nat} (complete : step.value.isSome = true)
    (fits : n ≤ 64) : parse [] (ladder step n) = .ok [ladderTree step n] := by
  obtain ⟨query, nests⟩ := ladder_spells complete n
  rw [parse_spells, ladder_tokens]
  refine ⟨query, fun front inside => ?_⟩
  have bound := nests front inside
  omega

theorem ladder_height (step : Predicate) (n : Nat) : (ladderTree step n).height = 2 * n := by
  induction n with
  | zero => rfl
  | succ n ih =>
      have height : (ladderTree step (n + 1)).height = (ladderTree step n).height + 2 := by
        simp [ladderTree, Expr.height, Expr.heightAll]
      omega

theorem ladder_nesting (step : Predicate) (n : Nat) :
    (ladderTree step (n + 1)).nesting = 2 * n + 1 := by
  simp [ladderTree, Expr.nesting, Expr.height, Expr.heightAll, ladder_height]

theorem ladder_round_trip {step : Predicate} {n : Nat} (complete : step.value.isSome = true)
    (fits : n + 1 ≤ 64) :
    parse [] (Forest.canonical [ladderTree step (n + 1)]) = .ok [ladderTree step (n + 1)] ↔
      2 * n + 1 ≤ 64 := by
  rw [← ladder_nesting step n]
  exact reparse_default (ladder_read complete fits)

theorem canonical_round_trip_ladder :
    parse [] (ladder ⟨"a", "==", some "b"⟩ 32) = .ok [ladderTree ⟨"a", "==", some "b"⟩ 32] ∧
      parse [] (Forest.canonical [ladderTree ⟨"a", "==", some "b"⟩ 32]) =
        .ok [ladderTree ⟨"a", "==", some "b"⟩ 32] := by
  have read := @ladder_read ⟨"a", "==", some "b"⟩ 32 rfl (by decide)
  have nesting : (ladderTree ⟨"a", "==", some "b"⟩ 32).nesting = 63 :=
    ladder_nesting ⟨"a", "==", some "b"⟩ 31
  refine ⟨read, (canonical_round_trip read).mpr ?_⟩
  rw [Forest.nesting, nesting]
  decide

theorem ladder_not_read_back :
    parse [] (ladder ⟨"a", "==", some "b"⟩ 33) = .ok [ladderTree ⟨"a", "==", some "b"⟩ 33] ∧
      parse [] (Forest.canonical [ladderTree ⟨"a", "==", some "b"⟩ 33]) ≠
        .ok [ladderTree ⟨"a", "==", some "b"⟩ 33] := by
  have again := @ladder_round_trip ⟨"a", "==", some "b"⟩ 32 rfl (by decide)
  refine ⟨ladder_read rfl (by decide), fun read => ?_⟩
  exact absurd (again.mp read) (by decide)

/-! The words and connectives of a tree, in the order of its canonical text. Every text that
spells the tree has the same ones, wherever it has parentheses and whatever it quotes. -/

theorem plain_word {token : Token} (word : token.isWord = true) :
    plain? token = some (.identifier token.text) := by
  cases token with
  | identifier text => rfl
  | operator text => rfl
  | _ => cases word

def Expr.words (expr : Expr) : List Token :=
  expr.memberPieces.filterMap fun piece => plain? (tokenOfSource [] piece)

theorem words_leaf (category operator value : String) :
    (Expr.leaf ⟨category, operator, some value⟩).words =
      [.identifier category, .identifier operator, .identifier value] := by
  have word (category : Bool) (text : String) :
      plain? (tokenOfSource [] (Canonical.literal [] category text)) = some (.identifier text) := by
    obtain ⟨isWord, same⟩ := literal_word [] [] category text
    rw [plain_word isWord, same]
  simp [Expr.words, Expr.memberPieces, Predicate.pieces, categoryLiteral, wordLiteral, word]

theorem words_branch (connective : Connective) (children : List Expr) :
    (Expr.branch connective children).words =
      [.conjunction connective].intercalate (children.map Expr.words) := by
  have opening : plain? (tokenOfSource [] "(") = none := rfl
  have closing : plain? (tokenOfSource [] ")") = none := rfl
  have separator : plain? (tokenOfSource [] connective.keyword) =
      some (.conjunction connective) := by
    rw [token_keyword]
    rfl
  have joined : (Expr.joinedPieces connective children).filterMap
      (fun piece => plain? (tokenOfSource [] piece)) =
      [.conjunction connective].intercalate (children.map Expr.words) := by
    rw [Expr.joinedPieces, filterMap_intercalate, List.map_map]
    simp only [List.filterMap_cons, List.filterMap_nil, separator]
    rfl
  simp [Expr.words, Expr.memberPieces_branch, opening, closing, joined]

theorem spells_words {phrase : Phrase} {tokens : List Token} {expr : Expr}
    (spells : Spells phrase tokens expr) : tokens.filterMap plain? = expr.words := by
  induction spells with
  | comparison first second =>
      simp only [words_leaf, List.filterMap_cons, List.filterMap_nil, plain_word first,
        plain_word second]
      rfl
  | group inner ih => simp [List.filterMap_cons, plain?, ih]
  | only member ih => exact ih
  | @several connective parts two each ih =>
      have same : (parts.map Prod.fst).map (List.filterMap plain?) =
          (parts.map Prod.snd).map Expr.words := by
        simpa using ih
      rw [filterMap_intercalate, same, words_branch]
      rfl

/-! Other vocabularies. -/

theorem parse_words {vocabulary : List String} {text : String} {expr : Expr}
    (read : parse vocabulary text = .ok [expr]) :
    (tokens vocabulary text).filterMap plain? = expr.words :=
  spells_words ((parse_spells vocabulary text expr).mp read).1

theorem parse_same_pieces {left right : List String} {text : String} {expr : Expr}
    (first : parse left text = .ok [expr]) (second : parse right text = .ok [expr]) :
    sources left text.toList = sources right text.toList := by
  have same := (parse_words first).trans (parse_words second).symm
  rw [tokens_eq, tokens_eq] at same
  exact sources_eq_of_plain same

theorem reparse_vocabulary {vocabulary : List String} {text : String} {expr : Expr}
    (read : parse vocabulary text = .ok [expr]) (fits : expr.nesting ≤ 64) :
    parse vocabulary expr.canonical = .ok [expr] ↔
      sources vocabulary expr.canonical.toList = sources [] expr.canonical.toList ∧
        ∀ predicate ∈ expr.leaves, predicate.Nameable vocabulary := by
  obtain ⟨complete, collapsed⟩ := parse_shape read
  have default := (reparse_default read).mpr fits
  constructor
  · intro again
    have cut := parse_same_pieces again default
    have readable := (parse_pieces (cut.trans (canonical_sources expr)) expr).mp again
    exact ⟨cut, readable.1.1.nameable⟩
  · rintro ⟨cut, nameable⟩
    rw [parse_pieces (cut.trans (canonical_sources expr))]
    exact ⟨⟨⟨complete, nameable⟩, fits⟩, collapsed.symm⟩

/-- With operators besides the default ones, the canonical text of a query is read as that query
again exactly if these operators leave its pieces as they are, and none of them is the name of a
category that stands bare in the text. -/
theorem canonical_round_trip_vocabulary {vocabulary : List String} {text : String}
    {forest : Forest} (read : parse vocabulary text = .ok forest)
    (fits : forest.nesting ≤ 64) :
    parse vocabulary forest.canonical = .ok forest ↔
      (lexemes vocabulary forest.canonical).map Lexeme.source =
          (lexemes [] forest.canonical).map Lexeme.source ∧
        ∀ predicate ∈ Expr.leavesList forest,
          Canonical.isBare [] true predicate.category = true →
            predicate.category ∉ vocabulary := by
  rcases parse_roots read with rfl | ⟨expr, rfl⟩
  · have empty : parse vocabulary "" = .ok [] := parse_blank vocabulary rfl
    simp [Forest.canonical, lexemes, scan, Expr.leavesList, empty]
  · have single : Expr.leavesList [expr] = expr.leaves := List.append_nil expr.leaves
    rw [single]
    exact reparse_vocabulary read fits

theorem parse_comparison {vocabulary : List String} {text : String} (category : String)
    (operator value : Token) (first : operator.isWord = true) (second : value.isWord = true)
    (cut : tokens vocabulary text = [.identifier category, operator, value]) :
    parse vocabulary text = .ok [.leaf ⟨category, operator.text, some value.text⟩] := by
  rw [parse_spells, cut]
  exact ⟨.only (.only (.comparison first second)),
    nests_comparison 64 category first second⟩

/-! One operator besides the default ones. A category of the same name is typed in quotes, and
printed without. -/

theorem startswith_space (rest : List Char) : EndsWord ["startswith"] (' ' :: rest) :=
  endsWord_cons rest (by decide) (by decide)

theorem quoted_startswith_read :
    parse ["startswith"] "\"startswith\" == x" = .ok [.leaf ⟨"startswith", "==", some "x"⟩] := by
  have equals : ReadsWhole ["startswith"] '=' ['='] := by decide
  have value : ReadsWhole ["startswith"] 'x' [] := by decide
  have chars : "\"startswith\" == x".toList =
      (Canonical.quote "startswith").toList ++ ' ' :: (['=', '='] ++ ' ' :: (['x'] ++ [])) := rfl
  have cut : sources ["startswith"] "\"startswith\" == x".toList =
      [Canonical.quote "startswith", "==", "x"] := by
    rw [chars, sources_quote, sources_space, sources_word equals (startswith_space _),
      sources_space, sources_word value (endsWord_nil _), sources_nil]
  apply parse_comparison "startswith" (.operator "==") (.identifier "x") rfl rfl
  rw [tokens_eq, cut, List.map_cons, tokenOfSource_quote]
  decide

theorem quoted_startswith_not_read_back :
    parse ["startswith"] "\"startswith\" == x" = .ok [.leaf ⟨"startswith", "==", some "x"⟩] ∧
      Forest.nesting [.leaf ⟨"startswith", "==", some "x"⟩] ≤ 64 ∧
      parse ["startswith"] (Forest.canonical [.leaf ⟨"startswith", "==", some "x"⟩]) ≠
        .ok [.leaf ⟨"startswith", "==", some "x"⟩] := by
  have reads : ReadsWhole [] 's' "tartswith".toList := by decide
  have bare : Canonical.isBare [] true "startswith" = true :=
    (isBare_iff true "startswith").mpr ⟨⟨_, _, rfl, reads⟩, Or.inl (by decide)⟩
  refine ⟨quoted_startswith_read, Nat.zero_le _, fun again => ?_⟩
  obtain ⟨-, nameable⟩ := (reparse_vocabulary quoted_startswith_read (Nat.zero_le _)).mp again
  have unlisted := nameable ⟨"startswith", "==", some "x"⟩ (by simp [Expr.leaves]) bare
  exact absurd (List.mem_singleton_self "startswith") unlisted

theorem startswith_sources {vocabulary : List String} (rest : List Char)
    (space : ∀ rest, EndsWord vocabulary (' ' :: rest)) (name : ReadsWhole vocabulary 'x' [])
    (operator : ReadsWhole vocabulary 's' "tartswith".toList) :
    sources vocabulary ("x startswith ".toList ++ rest) =
      "x" :: "startswith" :: sources vocabulary rest := by
  have chars : "x startswith ".toList ++ rest =
      ['x'] ++ ' ' :: ('s' :: "tartswith".toList ++ ' ' :: rest) := rfl
  rw [chars, sources_word name (space _), sources_space, sources_word operator (space _),
    sources_space]
  rfl

theorem startswith_canonical :
    Forest.canonical [.leaf ⟨"x", "startswith", some "y"⟩] = "x startswith y" := by
  have bare (category : Bool) (c : Char) (cs : List Char) (reads : ReadsWhole [] c cs)
      (named : classify [] (String.ofList (c :: cs)) = .identifier (String.ofList (c :: cs))) :
      Canonical.literal [] category (String.ofList (c :: cs)) = String.ofList (c :: cs) :=
    if_pos ((isBare_iff category _).mpr ⟨⟨c, cs, String.toList_ofList, reads⟩, Or.inl named⟩)
  have name : categoryLiteral [] "x" = "x" := bare true 'x' [] (by decide) (by decide)
  have operator : wordLiteral [] "startswith" = "startswith" :=
    bare false 's' "tartswith".toList (by decide) (by decide)
  have value : wordLiteral [] "y" = "y" := bare false 'y' [] (by decide) (by decide)
  simp [Forest.canonical, Expr.canonical, Predicate.canonical, name, operator, value]

theorem canonical_round_trip_startswith :
    parse ["startswith"] "x startswith \"y\"" = .ok [.leaf ⟨"x", "startswith", some "y"⟩] ∧
      parse ["startswith"] (Forest.canonical [.leaf ⟨"x", "startswith", some "y"⟩]) =
        .ok [.leaf ⟨"x", "startswith", some "y"⟩] := by
  have typed : "x startswith \"y\"".toList =
      "x startswith ".toList ++ ((Canonical.quote "y").toList ++ []) := rfl
  have printed : "x startswith y".toList = "x startswith ".toList ++ (['y'] ++ []) := rfl
  have read : parse ["startswith"] "x startswith \"y\"" =
      .ok [.leaf ⟨"x", "startswith", some "y"⟩] := by
    apply parse_comparison "x" (.operator "startswith") (.identifier "y") rfl rfl
    rw [tokens_eq, typed, startswith_sources _ startswith_space (by decide) (by decide),
      sources_quote, sources_nil]
    simp only [List.map_cons, List.map_nil, tokenOfSource_quote]
    decide
  refine ⟨read, (canonical_round_trip_vocabulary read (Nat.zero_le _)).mpr ⟨?_, ?_⟩⟩
  · have value : ReadsWhole ["startswith"] 'y' [] := by decide
    have plain : ReadsWhole [] 'y' [] := by decide
    have first : sources ["startswith"] "x startswith y".toList = ["x", "startswith", "y"] := by
      rw [printed, startswith_sources _ startswith_space (by decide) (by decide),
        sources_word value (endsWord_nil _), sources_nil]
    have second : sources [] "x startswith y".toList = ["x", "startswith", "y"] := by
      rw [printed, startswith_sources _ endsWord_space (by decide) (by decide),
        sources_word plain (endsWord_nil _), sources_nil]
    rw [startswith_canonical]
    exact first.trans second.symm
  · simp [Expr.leavesList, Expr.leaves]

end Sift
