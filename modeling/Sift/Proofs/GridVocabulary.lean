import Sift.Proofs.Naming
import Sift.Proofs.Spelling

/-!
The operators that queries for a grid are read with. They are collected column by column, each under
the name it shows. This is what a catalog collects from its categories in general, because every
name that is shown leads back to the column that shows it.

A column may take other operators when it is called by its field. Those are read as operators only
if some column takes them under the name it shows.
-/

namespace Sift

/-! Operators that a reader knows. -/

namespace Lexer

variable {vocabulary : List String}

theorem operatorLength_known {cs : List Char} {operator : String} (chars : operator.toList = cs)
    (filled : cs ≠ []) (known : operator ∈ defaultOperators ++ vocabulary) :
    operatorLength? vocabulary cs = some cs.length := by
  rw [operatorLength?, List.max?_eq_some_iff]
  constructor
  · have stands : standsAt cs cs = true := by
      simp [standsAt, mayPrecede, filled]
    exact List.mem_map_of_mem
      (List.mem_filter.mpr ⟨List.mem_map.mpr ⟨operator, known, chars⟩, stands⟩)
  · intro length found
    obtain ⟨other, standing, rfl⟩ := List.mem_map.mp found
    have stands := (List.mem_filter.mp standing).2
    simp only [standsAt, Bool.and_eq_true, List.isPrefixOf_iff_prefix] at stands
    exact stands.1.2.length_le

/-- Alone, a known operator is read as an operator unless it starts with a delimiter or spells a
connective. -/
theorem lexemes_known {operator : String} (known : operator ∈ defaultOperators ++ vocabulary) :
    lexemes vocabulary operator = [⟨.operator operator, 0, operator⟩] ↔
      (∃ c ∈ operator.toList.head?, isDelimiter c = false) ∧
        Connective.ofKeyword? operator = none := by
  constructor
  · intro read
    obtain ⟨c, cs, chars, visible, -, same⟩ :=
      (lexemes_single vocabulary operator _).mp ⟨read, rfl, by simp [Lexeme.stop]⟩
    have token : tokenOf vocabulary c cs = .operator operator :=
      (congrArg Lexeme.token same).symm
    have starts := startsWord_of_tokenOf chars (.inr token)
    rw [starts.tokenOf_eq, ← chars, String.ofList_toList] at token
    constructor
    · have inside : isDelimiter c = false := by
        simp [isDelimiter, visible, starts.unquoted, starts.notOpen, starts.notClose]
      exact ⟨c, by simp [chars], inside⟩
    · cases keyword : Connective.ofKeyword? operator with
      | none => rfl
      | some connective => simp [classify, keyword] at token
  · rintro ⟨⟨c, first, inside⟩, plain⟩
    obtain ⟨cs, chars⟩ := List.head?_eq_some_iff.mp first
    simp only [isDelimiter, Bool.or_eq_false_iff, decide_eq_false_iff_not] at inside
    obtain ⟨⟨⟨visible, notOpen⟩, notClose⟩, unquoted⟩ := inside
    have starts : StartsWord c := ⟨unquoted, notOpen, notClose⟩
    have whole : wordTail vocabulary c cs = cs.length := by
      simp [wordTail, operatorLength_known chars (by simp) known]
    have token : tokenOf vocabulary c cs = .operator operator := by
      rw [starts.tokenOf_eq, ← chars, String.ofList_toList, classify, plain]
      exact if_pos (by rw [List.contains_iff_mem.mpr known, Bool.true_or])
    refine ((lexemes_single vocabulary operator _).mpr ⟨c, cs, chars, visible, ?_, ?_⟩).1
    · rw [starts.tail_eq, whole]
    · rw [token]

end Lexer

namespace Grid

variable {columns : List Column} {rows : List Json} {grid : Grid}

theorem called_of_category (built : build columns rows = .ok grid) {name : String}
    (known : grid.catalog.hasCategory name = true) :
    ∃ column ∈ columns, column.isCalled name = true := by
  obtain ⟨-, rfl⟩ := build_iff.mp built
  simpa [catalog, entry?, entryOf] using known

-- Both lists go through the columns in their order, so it is enough to look at one column.
theorem vocabularyOf_built (built : build columns rows = .ok grid) :
    Catalog.vocabularyOf grid.catalog.categories grid.catalog.operators =
      grid.catalog.vocabulary := by
  have named : grid.catalog.categories =
      columns.map fun column => categorySuggestion grid.vocabulary column.name := by
    simp only [catalog, columns_built built]
  have collected : grid.catalog.vocabulary =
      distinct (columns.flatMap fun column => column.operators column.name) := by
    simp only [catalog, vocabulary, columns_built built]
  have shown : ∀ column ∈ columns,
      (grid.catalog.operators column.name).map Suggestion.displayText =
        column.operators column.name := by
    intro column listed
    simp [catalog, operatorsOf_built built listed column.isCalled_name, operatorSuggestion,
      Function.comp_def]
  rw [Catalog.vocabularyOf, named, collected, List.flatMap_map, List.flatMap_def, List.flatMap_def]
  exact congrArg (distinct ·.flatten) (List.map_congr_left shown)

/-- Only what a column takes under its field can be missing from the vocabulary. -/
theorem complete_iff (built : build columns rows = .ok grid) :
    (∀ name operator, grid.catalog.hasCategory name = true →
      grid.catalog.hasOperator name operator = true → operator ∈ grid.catalog.vocabulary) ↔
    ∀ column ∈ columns, ∀ operator ∈ column.operators column.field,
      ∃ other ∈ columns, operator ∈ other.operators other.name := by
  constructor
  · intro complete column listed operator takes
    have selects := selects_built built listed column.isCalled_field
    have legal := (selects.operator operator).mpr takes
    exact (mem_vocabulary built).mp (complete column.field operator selects.category legal)
  · intro covered name operator known legal
    obtain ⟨column, listed, called⟩ := called_of_category built known
    have takes := ((selects_built built listed called).operator operator).mp legal
    apply (mem_vocabulary built).mpr
    rcases Column.isCalled_cases called with rfl | rfl
    · exact covered column listed operator takes
    · exact ⟨column, listed, takes⟩

end Grid

open Grid Lexer

variable {columns : List Column} {rows : List Json} {grid : Grid}

/-- The operators of a grid are what its categories take, in the order first seen, each once. -/
theorem grid_vocabulary_exact (built : Grid.build columns rows = .ok grid) :
    Catalog.vocabularyOf grid.catalog.categories grid.catalog.operators =
        grid.catalog.vocabulary ∧
      grid.catalog.vocabulary.Nodup :=
  ⟨vocabularyOf_built built, nodup_distinct _⟩

/-- The operators of a grid are those that its columns take under the names they show. They are all
that any category takes exactly if no column takes others under its field. Each of them is read as
an operator unless it starts with a delimiter or spells a connective. -/
theorem vocabulary_complete_exact (built : Grid.build columns rows = .ok grid) :
    (∀ operator, operator ∈ grid.catalog.vocabulary ↔
      ∃ column ∈ columns, grid.catalog.hasOperator column.name operator = true) ∧
    ((∀ name operator, grid.catalog.hasCategory name = true →
        grid.catalog.hasOperator name operator = true → operator ∈ grid.catalog.vocabulary) ↔
      ∀ column ∈ columns, ∀ operator ∈ column.operators column.field,
        ∃ other ∈ columns, operator ∈ other.operators other.name) ∧
    ∀ operator ∈ grid.catalog.vocabulary,
      lexemes grid.catalog.vocabulary operator = [⟨.operator operator, 0, operator⟩] ↔
        (∃ c ∈ operator.toList.head?, isDelimiter c = false) ∧
          Connective.ofKeyword? operator = none := by
  refine ⟨?_, complete_iff built, ?_⟩
  · intro operator
    apply (mem_vocabulary built).trans
    apply exists_congr
    intro column
    apply and_congr_right
    intro listed
    exact ((selects_built built listed column.isCalled_name).operator operator).symm
  · intro operator listed
    exact lexemes_known (List.mem_append_right _ listed)

/-! A column that takes one operator under the name it shows and another one under its field, alone
and beside a column that takes the other one under its only name. -/

def priceColumn : Column :=
  ⟨"price", some "Price", .number, some fun name => if name = "Price" then [">"] else ["is not"]⟩

def statusColumn : Column :=
  ⟨"status", none, .text, some fun _ => ["is", "is not"]⟩

def priceGrid : Grid :=
  ⟨[⟨priceColumn, []⟩]⟩

def statusGrid : Grid :=
  ⟨[⟨priceColumn, []⟩, ⟨statusColumn, []⟩]⟩

theorem grid_vocabulary_exact_status :
    Grid.build [priceColumn, statusColumn] [] = .ok statusGrid ∧
      Catalog.vocabularyOf statusGrid.catalog.categories statusGrid.catalog.operators =
        [">", "is", "is not"] ∧
      statusGrid.catalog.vocabulary.Nodup := by
  have built : Grid.build [priceColumn, statusColumn] [] = .ok statusGrid := rfl
  obtain ⟨same, nodup⟩ := grid_vocabulary_exact built
  exact ⟨built, same.trans (by decide), nodup⟩

theorem vocabulary_complete_exact_status :
    Grid.build [priceColumn, statusColumn] [] = .ok statusGrid ∧
      (∀ name operator, statusGrid.catalog.hasCategory name = true →
        statusGrid.catalog.hasOperator name operator = true →
        operator ∈ statusGrid.catalog.vocabulary) ∧
      lexemes statusGrid.catalog.vocabulary "is not" = [⟨.operator "is not", 0, "is not"⟩] := by
  have built : Grid.build [priceColumn, statusColumn] [] = .ok statusGrid := rfl
  obtain ⟨-, complete, reads⟩ := vocabulary_complete_exact built
  refine ⟨built, complete.mpr ?_, (reads "is not" (by decide)).mpr ⟨⟨'i', rfl, ?_⟩, ?_⟩⟩
  · simp [priceColumn, statusColumn, Column.operators, Column.name]
  · decide
  · decide

theorem price_operator_unread :
    Grid.build [priceColumn] [] = .ok priceGrid ∧
      priceGrid.catalog.hasCategory "price" = true ∧
      priceGrid.catalog.hasOperator "price" "is not" = true ∧
      "is not" ∉ priceGrid.catalog.vocabulary ∧
      tokens priceGrid.catalog.vocabulary "is not" = [.identifier "is", .identifier "not"] := by
  have space (rest : List Char) : EndsWord [">"] (' ' :: rest) :=
    endsWord_cons rest (by decide) (by decide)
  have first : ReadsWhole [">"] 'i' ['s'] := by decide
  have second : ReadsWhole [">"] 'n' ['o', 't'] := by decide
  have chars : "is not".toList = ['i', 's'] ++ ' ' :: (['n', 'o', 't'] ++ []) := rfl
  have cut : sources [">"] "is not".toList = ["is", "not"] := by
    rw [chars, sources_word first (space _), sources_space, sources_word second (endsWord_nil _),
      sources_nil]
  have vocabulary : priceGrid.catalog.vocabulary = [">"] := by decide
  refine ⟨rfl, by decide, by decide, by decide, ?_⟩
  rw [vocabulary, tokens_eq, cut]
  decide

end Sift
