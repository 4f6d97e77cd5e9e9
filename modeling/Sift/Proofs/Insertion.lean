import Sift.Proofs.Gluing

/-!
Suggestions, inserted. A suggestion takes the place of the word being typed, and it is typed so that
it is read as one word when it stands alone. But the word may be glued to its context, and what is
put in its place may be read together with the context then. Nothing else can go wrong: if each
lexeme of the context is still read to its end, and no operator reaches from the suggestion past the
space behind it, the text is read as the context and the suggestion.
-/

namespace Sift

open Text Lexer Completion

namespace Grid

variable {grid : Grid}

/-- Every way in which a suggestion is offered for a slot. -/
inductive Offers (vocabulary : List String) : Slot → Suggestion → Prop where
  | category (name : String) : Offers vocabulary .category (categorySuggestion vocabulary name)
  | opening : Offers vocabulary .category (.plain "(" .openParen)
  | operator (category operator : String) :
      Offers vocabulary (.operator category) (operatorSuggestion vocabulary operator)
  | value (category value : String) :
      Offers vocabulary (.value category) (valueSuggestion vocabulary value)
  | conjunction (connective : Connective) :
      Offers vocabulary .conjunction (.plain connective.keyword .conjunction)
  | closing : Offers vocabulary .conjunction (.plain ")" .closeParen)

/-- The tokens that a suggestion of some kind may become in a slot. -/
inductive Fills : Slot → SuggestionKind → Token → Prop where
  | category (name : String) : Fills .category .category (.identifier name)
  | opening : Fills .category .openParen .openParen
  | operator {category : String} {token : Token} (word : token.isWord = true) :
      Fills (.operator category) .operator token
  | value {category : String} {token : Token} (word : token.isWord = true) :
      Fills (.value category) .value token
  | conjunction (connective : Connective) :
      Fills .conjunction .conjunction (.conjunction connective)
  | closing : Fills .conjunction .closeParen .closeParen

theorem candidate_offers {pick : Suggestion} {slot : Slot} {depth : Nat}
    (offered : pick ∈ candidates grid.catalog depth slot) : Offers grid.vocabulary slot pick := by
  cases slot with
  | category =>
      rcases List.mem_append.mp offered with named | paren
      · obtain ⟨column, -, rfl⟩ := List.mem_map.mp named
        exact .category column.name
      · cases List.mem_singleton.mp paren
        exact .opening
  | operator category =>
      obtain ⟨operator, -, rfl⟩ := List.mem_map.mp offered
      exact .operator category operator
  | value category =>
      obtain ⟨value, -, rfl⟩ := List.mem_map.mp offered
      exact .value category value
  | conjunction =>
      rcases conjunction_offered offered with ⟨connective, rfl⟩ | ⟨-, rfl⟩
      · exact .conjunction connective
      · exact .closing
  | unknown => cases offered

theorem Offers.fills {vocabulary : List String} {slot : Slot} {pick : Suggestion}
    (offers : Offers vocabulary slot pick) :
    Fills slot pick.kind (tokenOfSource vocabulary pick.value) ∧
      (tokenOfSource vocabulary pick.value).text = pick.displayText := by
  cases offers with
  | category name =>
      rw [categorySuggestion, token_own_category]
      exact ⟨.category name, rfl⟩
  | opening => exact ⟨.opening, rfl⟩
  | operator category operator =>
      obtain ⟨word, text⟩ := literal_word vocabulary vocabulary false operator
      exact ⟨.operator word, text⟩
  | value category value =>
      obtain ⟨word, text⟩ := literal_word vocabulary vocabulary false value
      exact ⟨.value word, text⟩
  | conjunction connective =>
      rw [Suggestion.plain, token_keyword]
      exact ⟨.conjunction connective, rfl⟩
  | closing => exact ⟨.closing, rfl⟩

theorem Offers.settled {vocabulary : List String} {slot : Slot} {pick : Suggestion}
    (offers : Offers vocabulary slot pick) : Settled vocabulary pick.value := by
  cases offers with
  | category name => exact settled_literal true name
  | opening => exact .inr fun rest => ⟨'(', [], rfl, by decide, rfl⟩
  | operator category operator => exact settled_literal false operator
  | value category value => exact settled_literal false value
  | conjunction connective =>
      obtain ⟨c, cs, chars, reads⟩ := @keyword_reads vocabulary connective
      exact settled_word chars reads
  | closing => exact .inr fun rest => ⟨')', [], rfl, by decide, rfl⟩

theorem Offers.seam {vocabulary : List String} {slot : Slot} {pick : Suggestion}
    (offers : Offers vocabulary slot pick) :
    Holds vocabulary pick.value " " ↔ overruns vocabulary pick.value " " = false := by
  have nothing : " " = " " ++ "" := rfl
  rw [nothing]
  cases offers with
  | category name => exact literal_seam true name ""
  | opening => exact iff_of_true ⟨'(', [], rfl, by decide, rfl⟩ rfl
  | operator category operator => exact literal_seam false operator ""
  | value category value => exact literal_seam false value ""
  | conjunction connective =>
      obtain ⟨c, cs, chars, reads⟩ := @keyword_reads vocabulary connective
      exact word_seam "" chars reads
  | closing => exact iff_of_true ⟨')', [], rfl, by decide, rfl⟩ rfl

theorem Fills.plain {slot : Slot} {kind : SuggestionKind} {left right : Token}
    (first : Fills slot kind left) (second : Fills slot kind right)
    (same : left.text = right.text) : plain? left = plain? right := by
  cases first with
  | category name =>
      cases second
      cases same
      rfl
  | opening =>
      cases second
      rfl
  | operator word =>
      cases second with
      | operator other => rw [plain_word word, plain_word other, same]
  | value word =>
      cases second with
      | value other => rw [plain_word word, plain_word other, same]
  | conjunction connective =>
      cases second with
      | conjunction other =>
          have decided : connective.keyword = other.keyword → connective = other := by
            cases connective <;> cases other <;> decide
          rw [decided same]
  | closing =>
      cases second
      rfl

/-- The lexemes before the cursor, without the one that is being typed. -/
def context (grid : Grid) (text : String) (cursor : Nat) : List Lexeme :=
  (splitTyped (Text.before text cursor)
    (lexemes grid.vocabulary (Text.before text cursor))).1

/-- The text up to the cursor with a suggestion in the place of the word being typed. -/
def inserted (grid : Grid) (text : String) (cursor : Nat) (suggestion : Suggestion) : String :=
  Text.before text (grid.catalog.complete text cursor).start ++ suggestion.value ++ " "

/-- The suggestion changes the word being typed and nothing else: the text is read as the context
and one token, which is what the suggestion shows and fills the slot. -/
def Lands (grid : Grid) (text : String) (cursor : Nat) (suggestion : Suggestion) : Prop :=
  ∃ token, tokens grid.vocabulary (grid.inserted text cursor suggestion) =
      (grid.context text cursor).map Lexeme.token ++ [token] ∧
    token.text = suggestion.displayText ∧
    Fills (grid.catalog.complete text cursor).slot suggestion.kind token

theorem offered_offers {text : String} {cursor : Nat} {suggestion : Suggestion}
    (offered : suggestion ∈ (grid.catalog.complete text cursor).suggestions) :
    Offers grid.vocabulary (grid.catalog.complete text cursor).slot suggestion :=
  candidate_offers (List.mem_filter.mp offered).1

theorem context_covers (grid : Grid) (text : String) (cursor : Nat) :
    ∃ front typed, (Text.before text cursor).toList = front ++ typed ∧
      Covers 0 front (grid.context text cursor) ∧
      (grid.catalog.complete text cursor).start = size front ∧
      Text.before text (grid.catalog.complete text cursor).start = String.ofList front := by
  obtain ⟨front, typed, whole, covers, offset⟩ :=
    splitTyped_covers grid.vocabulary (Text.before text cursor)
  have start : (grid.catalog.complete text cursor).start = size front := offset.symm
  refine ⟨front, typed, whole, covers, start, ?_⟩
  have split := takeBytes_append_dropBytes cursor text.toList
  rw [Text.before, String.toList_ofList] at whole
  rw [whole, List.append_assoc] at split
  rw [start, Text.before, ← split, takeBytes_append]

theorem context_settled (grid : Grid) (text : String) (cursor : Nat) :
    ∀ lexeme ∈ grid.context text cursor,
      lexeme.token = tokenOfSource grid.vocabulary lexeme.source ∧
        Settled grid.vocabulary lexeme.source ∧
        Holds grid.vocabulary lexeme.source (Text.after (Text.before text cursor) lexeme.stop) := by
  intro lexeme member
  have listed := splitTyped_subset _ _ member
  obtain ⟨token, holds⟩ := scan_holds [] (Text.before text cursor).toList lexeme listed
  have means := splitTyped_means grid.vocabulary (Text.before text cursor) lexeme member
  rw [List.nil_append, ← Text.after] at holds
  exact ⟨token, settled_means means holds, holds⟩

/-- The lexeme that a suggestion is meant to become. -/
def picked (grid : Grid) (text : String) (cursor : Nat) (suggestion : Suggestion) : Lexeme :=
  ⟨tokenOfSource grid.vocabulary suggestion.value, (grid.catalog.complete text cursor).start,
    suggestion.value⟩

theorem inserted_covers {suggestion : Suggestion} (text : String) (cursor : Nat)
    (settled : Settled grid.vocabulary suggestion.value) :
    ∃ cs, (grid.inserted text cursor suggestion).toList = cs ++ [' '] ∧
      Covers 0 cs (grid.context text cursor ++ [grid.picked text cursor suggestion]) ∧
      (grid.picked text cursor suggestion).stop = size cs := by
  obtain ⟨front, typed, -, covers, start, before⟩ := context_covers grid text cursor
  obtain ⟨c, cs, chars, -⟩ := settled.chars
  have whole := @Covers.concat _ _ _ covers (tokenOfSource grid.vocabulary suggestion.value)
    suggestion.value (by simp [chars])
  rw [Nat.zero_add, ← start] at whole
  refine ⟨front ++ suggestion.value.toList, ?_, whole, ?_⟩
  · simp [inserted, before]
  · rw [stop_eq, size_append, picked, start]

/-- The text is read as the context and the suggestion exactly if each of them is read to its
end. -/
theorem lands_holds {text : String} {cursor : Nat} {suggestion : Suggestion}
    (offers : Offers grid.vocabulary (grid.catalog.complete text cursor).slot suggestion) :
    grid.Lands text cursor suggestion ↔
      (∀ lexeme ∈ grid.context text cursor, Holds grid.vocabulary lexeme.source
        (Text.after (grid.inserted text cursor suggestion) lexeme.stop)) ∧
      Holds grid.vocabulary suggestion.value " " := by
  obtain ⟨fills, shown⟩ := offers.fills
  obtain ⟨cs, chars, covers, stop⟩ := inserted_covers text cursor offers.settled
  -- The suggestion is one more lexeme behind the context.
  have known : ∀ lexeme ∈ grid.context text cursor ++ [grid.picked text cursor suggestion],
      lexeme.token = tokenOfSource grid.vocabulary lexeme.source ∧
        Settled grid.vocabulary lexeme.source := by
    intro lexeme member
    rcases List.mem_append.mp member with early | final
    · obtain ⟨token, settled, -⟩ := context_settled grid text cursor lexeme early
      exact ⟨token, settled⟩
    · cases List.mem_singleton.mp final
      exact ⟨rfl, offers.settled⟩
  have last : Text.after (grid.inserted text cursor suggestion)
      (grid.picked text cursor suggestion).stop = " " := by
    rw [Text.after, chars, stop, dropBytes_append]
  have each : (∀ lexeme ∈ grid.context text cursor ++ [grid.picked text cursor suggestion],
      Holds grid.vocabulary lexeme.source
        (Text.after (grid.inserted text cursor suggestion) lexeme.stop)) ↔ _ :=
    List.forall_mem_append
  rw [List.forall_mem_singleton, last] at each
  apply Iff.trans ?_ each
  simp only [Text.after, chars]
  constructor
  · rintro ⟨token, read, same, filled⟩
    have plainly := filled.plain fills (same.trans shown.symm)
    have spoken := congrArg (List.map plain?) read
    apply @Covers.holds grid.vocabulary [] _ _ _ covers [' '] rfl
      (fun lexeme member => (known lexeme member).1)
      (fun lexeme member => (known lexeme member).2) []
    simpa [tokens, lexemes, chars, plainly, picked, Function.comp_def] using spoken
  · intro holds
    have read := @Covers.reread grid.vocabulary [] _ _ _ covers [' '] rfl
      (fun lexeme member => (known lexeme member).1) holds
    refine ⟨_, ?_, shown, fills⟩
    rw [tokens, lexemes, chars, read, scan_blank _ _ (by decide), scan_nil]
    simp [picked]

/-- Between a lexeme of the context and the word being typed there is a gap, and it stays when a
suggestion is inserted behind it. -/
theorem context_gap {text : String} {cursor : Nat} {lexeme : Lexeme} (suggestion : Suggestion)
    (member : lexeme ∈ grid.context text cursor) :
    ∃ gap typed, Holds grid.vocabulary lexeme.source (String.ofList (gap ++ typed)) ∧
      Text.after (grid.inserted text cursor suggestion) lexeme.stop =
        String.ofList (gap ++ (suggestion.value.toList ++ [' '])) ∧
      (lexeme.stop = (grid.catalog.complete text cursor).start ↔ gap = []) ∧
      ∀ c ∈ (lexeme.source.toList ++ gap).getLast?,
        c ∈ (Text.before text (grid.catalog.complete text cursor).start).toList.getLast? := by
  obtain ⟨front, typed, whole, covers, start, before⟩ := context_covers grid text cursor
  obtain ⟨-, -, holds⟩ := context_settled grid text cursor lexeme member
  obtain ⟨nonempty, left, gap, rfl, offset⟩ := covers.slice lexeme member
  rw [Nat.zero_add] at offset
  have inserted : (grid.inserted text cursor suggestion).toList =
      left ++ (lexeme.source.toList ++ gap) ++ (suggestion.value.toList ++ [' ']) := by
    simp [inserted, before]
  refine ⟨gap, typed, ?_, ?_, ?_, ?_⟩
  · rwa [Text.after, whole, List.append_assoc left, (piece_offset offset gap typed).2] at holds
  · rw [Text.after, inserted, (piece_offset offset gap _).2]
  · rw [start, stop_eq, offset, size_append, size_append]
    constructor
    · intro same
      exact eq_nil_of_size (by omega)
    · rintro rfl
      rfl
  · intro c final
    rw [before, String.toList_ofList, List.append_assoc, List.getLast?_append,
      Option.mem_def.mp final]
    rfl

theorem context_apart {text : String} {cursor : Nat} {lexeme : Lexeme} (suggestion : Suggestion)
    (ends : ∀ c ∈ (Text.before text (grid.catalog.complete text cursor).start).toList.getLast?,
      isDelimiter c = true ∧
        ∀ operator ∈ defaultOperators ++ grid.vocabulary, c ∉ operator.toList)
    (member : lexeme ∈ grid.context text cursor) :
    Holds grid.vocabulary lexeme.source
      (Text.after (grid.inserted text cursor suggestion) lexeme.stop) := by
  obtain ⟨-, settled, -⟩ := context_settled grid text cursor lexeme member
  obtain ⟨gap, typed, holds, behind, -, last⟩ := context_gap suggestion member
  rw [behind]
  apply Holds.behind _ settled holds
  intro c final rest
  obtain ⟨delimits, apart⟩ := ends c (last c final)
  exact endsWord_cons rest delimits apart

theorem context_joined {text : String} {cursor : Nat} {lexeme : Lexeme} {suggestion : Suggestion}
    (defaults : ∀ operator ∈ grid.vocabulary, operator ∈ defaultOperators)
    (filled : Settled grid.vocabulary suggestion.value)
    (member : lexeme ∈ grid.context text cursor) :
    Holds grid.vocabulary lexeme.source
        (Text.after (grid.inserted text cursor suggestion) lexeme.stop) ↔
      (lexeme.stop = (grid.catalog.complete text cursor).start →
        joins lexeme.source suggestion.value = false) := by
  have same := knowSame_defaults defaults
  obtain ⟨-, settled, -⟩ := context_settled grid text cursor lexeme member
  obtain ⟨gap, typed, holds, behind, glued, -⟩ := context_gap suggestion member
  obtain ⟨c, cs, chars, -⟩ := filled.chars
  rw [settled_congr same] at settled
  rw [holds_congr same] at holds
  rw [behind, glued, holds_congr same, Holds.joined _ settled holds (by simp [chars])]

end Grid

open Grid

/-- A suggestion that is inserted changes the word being typed and nothing else exactly if every
lexeme of the context is still read to its end, and no operator begins in the suggestion and ends
behind it. It is safe behind a delimiter; and with the default operators alone it goes wrong exactly
if a word is glued to it that goes on into it. -/
theorem insertion_exact (grid : Grid) (text : String) (cursor : Nat) (suggestion : Suggestion)
    (offered : suggestion ∈ (grid.catalog.complete text cursor).suggestions) :
    (grid.Lands text cursor suggestion ↔
      (∀ lexeme ∈ grid.context text cursor, Holds grid.vocabulary lexeme.source
        (Text.after (grid.inserted text cursor suggestion) lexeme.stop)) ∧
      overruns grid.vocabulary suggestion.value " " = false) ∧
    ((∀ operator ∈ grid.vocabulary, ' ' ∉ operator.toList) →
      (∀ c ∈ (Text.before text (grid.catalog.complete text cursor).start).toList.getLast?,
        isDelimiter c = true ∧
          ∀ operator ∈ defaultOperators ++ grid.vocabulary, c ∉ operator.toList) →
      grid.Lands text cursor suggestion) ∧
    ((∀ operator ∈ grid.vocabulary, operator ∈ defaultOperators) →
      (grid.Lands text cursor suggestion ↔
        ∀ lexeme ∈ grid.context text cursor,
          lexeme.stop = (grid.catalog.complete text cursor).start →
          joins lexeme.source suggestion.value = false)) := by
  have offers := offered_offers offered
  have exactly := lands_holds offers
  rw [offers.seam] at exactly
  refine ⟨exactly, ?_, ?_⟩
  · intro unspaced ends
    apply exactly.mpr
    refine ⟨?_, overruns_unspaced unspaced suggestion.value ""⟩
    intro lexeme member
    exact context_apart suggestion ends member
  · intro defaults
    have unspaced : ∀ operator ∈ grid.vocabulary, ' ' ∉ operator.toList := by
      intro operator listed
      exact defaults_unspaced operator (defaults operator listed)
    have apart : overruns grid.vocabulary suggestion.value " " = false :=
      overruns_unspaced unspaced suggestion.value ""
    rw [exactly, and_iff_left apart]
    apply forall_congr'
    intro lexeme
    apply forall_congr'
    intro member
    exact context_joined defaults offers.settled member

/-! A value that begins with a comparison character, typed apart from the operator and glued to
it. -/

def bangColumn : Column :=
  ⟨"a", none, .text, none⟩

def bangGrid : Grid :=
  ⟨[⟨bangColumn, ["!xy"]⟩]⟩

def bangPick : Suggestion :=
  ⟨"!xy", "!xy", .value⟩

theorem bang_vocabulary : bangGrid.vocabulary = defaultOperators := by decide

theorem bang_values : bangGrid.catalog.values "a" = [bangPick] := by
  have reads : ReadsWhole defaultOperators '!' ['x', 'y'] := by decide
  have bare : Canonical.isBare defaultOperators false "!xy" = true :=
    (isBare_iff false _).mpr ⟨⟨'!', ['x', 'y'], rfl, reads⟩, by decide⟩
  have literal : wordLiteral defaultOperators "!xy" = "!xy" := if_pos bare
  have values : bangGrid.catalog.values "a" = [valueSuggestion bangGrid.vocabulary "!xy"] := rfl
  rw [values, bang_vocabulary, valueSuggestion, literal]
  rfl

theorem bang_word (start : Nat) :
    scan defaultOperators start "x".toList = [⟨.identifier "x", start, "x"⟩] := by
  have alone : Holds defaultOperators "x" "" := ⟨'x', [], rfl, by decide, by decide⟩
  apply (alone.scan start).trans
  exact congrArg (List.cons _) (scan_nil _)

theorem bang_completes {text : String} {middle last : Nat}
    (read : lexemes defaultOperators text =
      [⟨.identifier "a", 0, "a"⟩, ⟨.operator "==", middle, "=="⟩, ⟨.identifier "x", last, "x"⟩])
    (stop : last + 1 = text.utf8ByteSize) (ends : endsInWord text = true) :
    bangGrid.context text text.utf8ByteSize =
        [⟨.identifier "a", 0, "a"⟩, ⟨.operator "==", middle, "=="⟩] ∧
      (bangGrid.catalog.complete text text.utf8ByteSize).start = last ∧
      bangPick ∈ (bangGrid.catalog.complete text text.utf8ByteSize).suggestions := by
  have typed : isBeingTyped text ⟨.identifier "x", last, "x"⟩ = true := by
    have size : "x".utf8ByteSize = 1 := by decide
    simp [isBeingTyped, Lexeme.stop, stop, ends, size]
  have split : splitTyped text (lexemes bangGrid.vocabulary text) =
      ([⟨.identifier "a", 0, "a"⟩, ⟨.operator "==", middle, "=="⟩],
        some ⟨.identifier "x", last, "x"⟩) := by
    rw [bang_vocabulary, read, splitTyped]
    simp [typed]
  have same : bangGrid.catalog.vocabulary = bangGrid.vocabulary := rfl
  refine ⟨by rw [context, before_size, split], ?_, ?_⟩
  · simp only [Catalog.complete, before_size, same, split]
    rfl
  · have found : bangPick.isMatch "x" = true := by decide
    have listed : bangPick ∈ bangGrid.catalog.values "a" := by simp [bang_values]
    simp only [Catalog.complete, before_size, same, split]
    exact List.mem_filter.mpr ⟨listed, found⟩

theorem insertion_exact_apart :
    bangPick ∈ (bangGrid.catalog.complete "a == x" 6).suggestions ∧
      bangGrid.Lands "a == x" 6 bangPick := by
  have read : lexemes defaultOperators "a == x" =
      [⟨.identifier "a", 0, "a"⟩, ⟨.operator "==", 2, "=="⟩, ⟨.identifier "x", 5, "x"⟩] := by
    have first : Holds defaultOperators "a" " == x" := ⟨'a', [], rfl, by decide, by decide⟩
    have second : Holds defaultOperators "==" " x" := ⟨'=', ['='], rfl, by decide, by decide⟩
    apply (first.scan 0).trans
    apply congrArg (List.cons _)
    apply (scan_blank _ _ (by decide)).trans
    apply (second.scan 2).trans
    apply congrArg (List.cons _)
    apply (scan_blank _ _ (by decide)).trans
    exact bang_word 5
  obtain ⟨-, start, offered⟩ := bang_completes read (by decide) (by decide)
  have size : "a == x".utf8ByteSize = 6 := by decide
  rw [size] at start offered
  refine ⟨offered, (insertion_exact bangGrid "a == x" 6 bangPick offered).2.1 ?_ ?_⟩
  · rw [bang_vocabulary]
    decide
  · have last : (Text.before "a == x" 5).toList.getLast? = some ' ' := by decide
    rw [bang_vocabulary, start, last]
    intro c same
    cases same
    decide

theorem bang_glued :
    Grid.build [bangColumn] [.object [("a", .string "!xy")]] = .ok bangGrid ∧
      bangPick ∈ (bangGrid.catalog.complete "a==x" 4).suggestions ∧
      ¬ bangGrid.Lands "a==x" 4 bangPick := by
  have read : lexemes defaultOperators "a==x" =
      [⟨.identifier "a", 0, "a"⟩, ⟨.operator "==", 1, "=="⟩, ⟨.identifier "x", 3, "x"⟩] := by
    have first : Holds defaultOperators "a" "==x" := ⟨'a', [], rfl, by decide, by decide⟩
    have second : Holds defaultOperators "==" "x" := ⟨'=', ['='], rfl, by decide, by decide⟩
    apply (first.scan 0).trans
    apply congrArg (List.cons _)
    apply (second.scan 1).trans
    apply congrArg (List.cons _)
    exact bang_word 3
  obtain ⟨context, start, offered⟩ := bang_completes read (by decide) (by decide)
  have size : "a==x".utf8ByteSize = 4 := by decide
  rw [size] at context start offered
  refine ⟨rfl, offered, ?_⟩
  intro lands
  have holds := ((lands_holds (offered_offers offered)).mp lands).1
  rw [context, bang_vocabulary] at holds
  -- The comparison characters make one run, so the operator takes the `!` with it.
  obtain ⟨c, cs, chars, -, whole⟩ := holds ⟨.operator "==", 1, "=="⟩ (by simp)
  cases chars
  rw [inserted, start] at whole
  revert whole
  decide

end Sift
