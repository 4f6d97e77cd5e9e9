import Sift.Buffer
import Sift.Proofs.Judging
import Sift.Proofs.Routes

/-!
Queries that are put together from suggestions alone. The text of such a session is read back pick
by pick, so the session is a route through the slots. Whenever it stands behind a predicate with no
group open, its text is a query, and its predicates are those that were picked.
-/

namespace Sift

open Lexer Pushdown Completion Grammar

namespace Grid

variable {grid : Grid}

/-- The field that takes queries for the grid and rejects those that make no sense to it. -/
def strictField (grid : Grid) : QueryField :=
  ⟨grid.catalog, true⟩

/-- What can be inserted behind a text. -/
def completionAfter (grid : Grid) (text : String) : Completion :=
  grid.strictField.complete text text.utf8ByteSize

/-- The picks made so far, and the text that they make. -/
inductive Session (grid : Grid) : List Suggestion → Buffer → Prop where
  | empty : Session grid [] .empty
  | pick {picks : List Suggestion} {buffer : Buffer} {suggestion : Suggestion}
      (earlier : Session grid picks buffer)
      (offered : suggestion ∈ (grid.completionAfter buffer.text).suggestions) :
      Session grid (picks ++ [suggestion])
        (buffer.replace (grid.completionAfter buffer.text).start
          (grid.completionAfter buffer.text).stop suggestion)

/-- What holds of picks and their text after every step. -/
structure Reaches (grid : Grid) (picks : List Suggestion) (text : String) (place : Slot × Nat) :
    Prop where
  route : Route grid (.category, 0) picks place
  alone : ∀ word ∈ picks.map Suggestion.value, StandsAlone grid.vocabulary word
  typed : text.toList = spaced (picks.map Suggestion.value)

theorem Reaches.empty (grid : Grid) : Reaches grid [] "" (.category, 0) :=
  ⟨.nil _, nofun, rfl⟩

theorem Reaches.pick {picks : List Suggestion} {text : String} {place after : Slot × Nat}
    {pick : Suggestion} (reaches : Reaches grid picks text place)
    (leads : Leads grid place pick after) (alone : StandsAlone grid.vocabulary pick.value) :
    Reaches grid (picks ++ [pick]) (text ++ pick.value ++ " ") after := by
  obtain ⟨route, earlier, typed⟩ := reaches
  have space : " ".toList = [' '] := rfl
  refine ⟨route.concat leads, ?_, by simp [typed, spaced, space]⟩
  intro word member
  rw [List.map_append, List.mem_append] at member
  rcases member with before | last
  · exact earlier word before
  · cases List.mem_singleton.mp last
    exact alone

theorem Reaches.tokens_eq {picks : List Suggestion} {text : String} {place : Slot × Nat}
    (reaches : Reaches grid picks text place) :
    tokens grid.vocabulary text = picks.map grid.tokenOfPick := by
  rw [tokens_spaced reaches.typed reaches.alone, List.map_map]
  rfl

theorem Reaches.completion {picks : List Suggestion} {text : String} {place : Slot × Nat}
    (reaches : Reaches grid picks text place) :
    grid.completionAfter text =
      ⟨place.1, "", text.utf8ByteSize, text.utf8ByteSize,
        candidates grid.catalog place.2 place.1⟩ := by
  have slot : slotOf ((picks.map Suggestion.value).map (tokenOfSource grid.catalog.vocabulary)) =
      place := by
    rw [List.map_map]
    exact reaches.route.slot
  have completed := complete_spaced grid.catalog reaches.typed reaches.alone
  rw [slot] at completed
  exact completed

theorem replace_end (buffer : Buffer) (suggestion : Suggestion) :
    buffer.replace buffer.text.utf8ByteSize buffer.text.utf8ByteSize suggestion =
      .ofText (buffer.text ++ suggestion.value ++ " ") := by
  simp [Buffer.replace, Buffer.ofText, Text.before_size, Text.after_size]

theorem Session.reaches {picks : List Suggestion} {buffer : Buffer}
    (session : Session grid picks buffer)
    (unspaced : ∀ operator ∈ grid.vocabulary, ' ' ∉ operator.toList) :
    ∃ place, Reaches grid picks buffer.text place := by
  induction session with
  | empty => exact ⟨_, .empty grid⟩
  | @pick picks buffer suggestion earlier offered ih =>
      obtain ⟨place, reaches⟩ := ih
      rw [reaches.completion] at offered ⊢
      obtain ⟨alone, after, leads⟩ := candidate_leads unspaced offered
      rw [replace_end]
      exact ⟨after, reaches.pick leads alone⟩

/-- A route that ends behind a predicate, with no group open, has made a query. -/
theorem Reaches.parses {picks : List Suggestion} {text : String} {place : Slot × Nat}
    (reaches : Reaches grid picks text place) (closed : place.1 = .conjunction)
    (balanced : opens picks = closes picks) (shallow : OpensWithin 64 picks) :
    ∃ expr, parse grid.vocabulary text = .ok [expr] ∧ expr.leaves = pickedPredicates picks := by
  obtain ⟨slot, depth⟩ := place
  cases closed
  -- The route and the picks count the same groups, so the depth at its end is zero.
  have none : depth = 0 := by
    have counted := reaches.route.depth
    simp only at counted
    omega
  subst none
  have read := reaches.tokens_eq
  have early : ∀ front, front <+: picks → 0 + opens front ≤ closes front + 64 := by
    intro front inside
    rw [Nat.zero_add]
    exact shallow front inside
  obtain ⟨final, ran, agrees⟩ := reaches.route.runs (.category []) read early
  have complete : final = ⟨.conjunction, []⟩ := by
    generalize same : 0 = count at agrees
    cases agrees with
    | conjunction opened => rw [List.eq_nil_of_length_eq_zero same.symm]
  obtain ⟨expr, found⟩ := (@expression_complete 0 _).mpr (complete ▸ ran)
  obtain ⟨query, nests⟩ := (Parser.expression_spells _ _ _).mp found
  refine ⟨expr, (parse_spells _ _ _).mpr ⟨query, nests⟩, ?_⟩
  -- The leaves have the words of the text, and so have the predicates that were picked.
  obtain ⟨words, valued, -⟩ := reaches.route.tells rfl (.inl rfl)
  apply words_injective (spells_valued query) valued
  rw [← spells_leaves query, ← words, ← read]
  rfl

theorem strictField_parse {text : String} :
    grid.strictField.parse text = parse grid.vocabulary text := by
  have same : grid.strictField.vocabulary = grid.vocabulary :=
    distinct_of_nodup (nodup_distinct _)
  rw [QueryField.parse, same]

/-- The operators of a grid that is built are those of the columns it is built from. -/
theorem build_vocabulary {columns : List Column} {rows : List Json}
    (built : Grid.build columns rows = .ok grid) {operator : String}
    (listed : operator ∈ grid.vocabulary) :
    ∃ column ∈ columns, operator ∈ column.operators column.name :=
  (mem_vocabulary built).mp listed

end Grid

open Grid

/-- After every pick nothing is being typed and something can follow, and behind the last predicate
the text is taken, with the predicates that were picked. -/
theorem picked_query_accepted {columns : List Column} {rows : List Json} {grid : Grid}
    (built : Grid.build columns rows = .ok grid)
    (unspaced : ∀ column ∈ columns, ∀ operator ∈ column.operators column.name,
      ∀ c ∈ operator.toList, Text.isBlank c = false)
    {picks : List Suggestion} {buffer : Buffer} (session : Session grid picks buffer)
    (shallow : OpensWithin 64 picks) :
    (∃ slot suggestions, slot ≠ .unknown ∧
      grid.completionAfter buffer.text =
        ⟨slot, "", buffer.text.utf8ByteSize, buffer.text.utf8ByteSize, suggestions⟩) ∧
    ((grid.completionAfter buffer.text).slot = .conjunction → opens picks = closes picks →
      ∃ expr, grid.strictField.submit buffer.text = .ok [expr] ∧
        expr.leaves = pickedPredicates picks) := by
  have visible : ∀ operator ∈ grid.vocabulary, ' ' ∉ operator.toList := by
    intro operator listed space
    obtain ⟨column, declared, takes⟩ := build_vocabulary built listed
    exact absurd (unspaced column declared operator takes ' ' space) (by decide)
  obtain ⟨place, reaches⟩ := session.reaches visible
  refine ⟨⟨place.1, _, reaches.route.fits (by simp), reaches.completion⟩, ?_⟩
  rw [reaches.completion]
  intro closed balanced
  obtain ⟨expr, read, leaves⟩ := reaches.parses closed balanced shallow
  have accepted : ∀ leaf ∈ Forest.leaves [expr], grid.catalog.accepts leaf = true := by
    rw [Forest.leaves, Expr.leavesList, Expr.leavesList, List.append_nil, leaves]
    exact (reaches.route.tells closed (.inl rfl)).accepted
  exact ⟨expr, QueryField.submit_valid (strictField_parse.trans read) accepted, leaves⟩

/-! A table with one column, which goes by a name with a space in it. -/

def doneColumn : Column :=
  ⟨"done", some "all done", .boolean, some fun _ => ["is"]⟩

def doneGrid : Grid :=
  ⟨[⟨doneColumn, ["true", "false"]⟩]⟩

def donePicks : List Suggestion :=
  [⟨"all done", "\"all done\"", .category⟩, ⟨"is", "is", .operator⟩, ⟨"true", "true", .value⟩]

theorem done_literals :
    categoryLiteral ["is"] "all done" = "\"all done\"" ∧ wordLiteral ["is"] "is" = "is" ∧
      wordLiteral ["is"] "true" = "true" := by
  have spaceless : ¬ ReadsWhole ["is"] 'a' "ll done".toList := by decide
  have quoted : ¬ Canonical.isBare ["is"] true "all done" = true := by
    rw [isBare_iff]
    rintro ⟨⟨c, cs, chars, reads⟩, -⟩
    cases chars
    exact spaceless reads
  have bare {c : Char} {cs : List Char} {word : String} (chars : word.toList = c :: cs)
      (reads : ReadsWhole ["is"] c cs)
      (token : classify ["is"] word = .identifier word ∨
        false = false ∧ classify ["is"] word = .operator word) :
      wordLiteral ["is"] word = word :=
    if_pos ((isBare_iff false word).mpr ⟨⟨c, cs, chars, reads⟩, token⟩)
  exact ⟨if_neg quoted, @bare 'i' ['s'] "is" rfl (by decide) (by decide),
    @bare 't' ['r', 'u', 'e'] "true" rfl (by decide) (by decide)⟩

theorem done_offers :
    ⟨"all done", "\"all done\"", .category⟩ ∈ candidates doneGrid.catalog 0 .category ∧
      ⟨"is", "is", .operator⟩ ∈ candidates doneGrid.catalog 0 (.operator "all done") ∧
      ⟨"true", "true", .value⟩ ∈ candidates doneGrid.catalog 0 (.value "all done") := by
  obtain ⟨first, second, third⟩ := done_literals
  have categories : candidates doneGrid.catalog 0 .category =
      [⟨"all done", categoryLiteral ["is"] "all done", .category⟩, .plain "(" .openParen] := rfl
  have operators : candidates doneGrid.catalog 0 (.operator "all done") =
      [⟨"is", wordLiteral ["is"] "is", .operator⟩] := rfl
  have values : candidates doneGrid.catalog 0 (.value "all done") =
      [⟨"true", wordLiteral ["is"] "true", .value⟩,
        ⟨"false", wordLiteral ["is"] "false", .value⟩] := rfl
  rw [categories, first, operators, second, values, third]
  exact ⟨.head _, .head _, .head _⟩

theorem done_step {picks : List Suggestion} {text longer : String} {place after : Slot × Nat}
    {pick : Suggestion} (session : Session doneGrid picks (.ofText text))
    (reaches : Reaches doneGrid picks text place)
    (offered : pick ∈ candidates doneGrid.catalog place.2 place.1)
    (leads : Leads doneGrid place pick after) (typed : text ++ pick.value ++ " " = longer) :
    Session doneGrid (picks ++ [pick]) (.ofText longer) ∧
      Reaches doneGrid (picks ++ [pick]) longer after := by
  have unspaced : ∀ operator ∈ doneGrid.vocabulary, ' ' ∉ operator.toList := by decide
  have next := @Session.pick doneGrid picks (.ofText text) pick session
  have completed : doneGrid.completionAfter (Buffer.ofText text).text = _ := reaches.completion
  have replaced := replace_end (.ofText text) pick
  rw [completed] at next
  subst typed
  exact ⟨replaced ▸ next offered, reaches.pick leads (candidate_leads unspaced offered).1⟩

theorem done_reaches :
    Session doneGrid donePicks (.ofText "\"all done\" is true ") ∧
      Reaches doneGrid donePicks "\"all done\" is true " (.conjunction, 0) := by
  obtain ⟨first, second, third⟩ := done_offers
  have token : doneGrid.tokenOfPick ⟨"all done", "\"all done\"", .category⟩ =
      .identifier "all done" := by
    have own := token_own_category ["is"] "all done"
    rwa [done_literals.1] at own
  obtain ⟨session, reaches⟩ := @done_step _ _ "\"all done\" " _ _ _ .empty (.empty doneGrid) first
    (.category rfl (by decide) token) (by decide)
  obtain ⟨session, reaches⟩ := @done_step _ _ "\"all done\" is " _ _ _ session reaches second
    (.operator rfl (by decide) (by decide) (by decide)) (by decide)
  exact done_step session reaches third (.value rfl (by decide) (by decide)) (by decide)

theorem picked_query_accepted_done :
    Grid.build [doneColumn] [] = .ok doneGrid ∧
      Session doneGrid donePicks (.ofText "\"all done\" is true ") ∧
      ∃ expr, doneGrid.strictField.submit "\"all done\" is true " = .ok [expr] ∧
        expr.leaves = [⟨"all done", "is", some "true"⟩] := by
  have built : Grid.build [doneColumn] [] = .ok doneGrid := rfl
  have unspaced : ∀ column ∈ [doneColumn], ∀ operator ∈ column.operators column.name,
      ∀ c ∈ operator.toList, Text.isBlank c = false := by
    have letters : ∀ c ∈ ['i', 's'], Text.isBlank c = false := by
      simp only [List.forall_mem_cons]
      exact ⟨by decide, by decide, nofun⟩
    intro column listed operator takes
    cases List.mem_singleton.mp listed
    cases List.mem_singleton.mp takes
    exact letters
  obtain ⟨session, reaches⟩ := done_reaches
  have shallow : OpensWithin 64 donePicks := by
    intro front inside
    have bound : opens front ≤ opens donePicks := inside.sublist.countP_le
    exact Nat.le_trans bound (Nat.zero_le _)
  obtain ⟨-, taken⟩ := picked_query_accepted built unspaced session shallow
  exact ⟨built, session, taken (congrArg Completion.slot reaches.completion) rfl⟩

end Sift
