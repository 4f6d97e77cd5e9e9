import Sift.Proofs.Naming
import Sift.Proofs.Rereading
import Sift.Proofs.Slots
import Sift.Proofs.Spacing
import Sift.Verdict

/-!
Routes of suggestions. A suggestion is offered for a slot; read back, it leads from this slot to the
next one. Along a route of such picks the pass over a query never gets stuck as long as groups do
not nest too deep, and a route that ends behind a predicate picks whole predicates only.
-/

namespace Sift

open Lexer Pushdown Completion Grammar

namespace Grid

variable {grid : Grid}

def tokenOfPick (grid : Grid) (pick : Suggestion) : Token :=
  tokenOfSource grid.vocabulary pick.value

/-- Every way in which a pick leads on. -/
inductive Leads (grid : Grid) : Slot × Nat → Suggestion → Slot × Nat → Prop where
  | category {depth : Nat} {pick : Suggestion} (kind : pick.kind = .category)
      (known : grid.catalog.hasCategory pick.displayText = true)
      (token : grid.tokenOfPick pick = .identifier pick.displayText) :
      Leads grid (.category, depth) pick (.operator pick.displayText, depth)
  | opening {depth : Nat} {pick : Suggestion} (kind : pick.kind = .openParen)
      (token : grid.tokenOfPick pick = .openParen) :
      Leads grid (.category, depth) pick (.category, depth + 1)
  | operator {category : String} {depth : Nat} {pick : Suggestion} (kind : pick.kind = .operator)
      (takes : grid.catalog.hasOperator category pick.displayText = true)
      (word : (grid.tokenOfPick pick).isWord = true)
      (text : (grid.tokenOfPick pick).text = pick.displayText) :
      Leads grid (.operator category, depth) pick (.value category, depth)
  | value {category : String} {depth : Nat} {pick : Suggestion} (kind : pick.kind = .value)
      (word : (grid.tokenOfPick pick).isWord = true)
      (text : (grid.tokenOfPick pick).text = pick.displayText) :
      Leads grid (.value category, depth) pick (.conjunction, depth)
  | conjunction {connective : Connective} {depth : Nat} {pick : Suggestion}
      (kind : pick.kind = .conjunction)
      (token : grid.tokenOfPick pick = .conjunction connective) :
      Leads grid (.conjunction, depth) pick (.category, depth)
  | closing {depth : Nat} {pick : Suggestion} (kind : pick.kind = .closeParen)
      (token : grid.tokenOfPick pick = .closeParen) :
      Leads grid (.conjunction, depth + 1) pick (.conjunction, depth)

theorem hasCategory_name {column : Column} (listed : column ∈ grid.columns) :
    grid.catalog.hasCategory column.name = true := by
  obtain ⟨entry, member, rfl⟩ := List.mem_map.mp listed
  exact List.find?_isSome.mpr ⟨entry, member, entry.column.isCalled_name⟩

theorem token_own_category (vocabulary : List String) (name : String) :
    tokenOfSource vocabulary (categoryLiteral vocabulary name) = .identifier name := by
  refine (literal_category vocabulary vocabulary name).mpr ?_
  intro bare listed
  have token := ((isBare_iff true name).mp bare).2
  cases keyword : Connective.ofKeyword? name <;> simp [classify, keyword, listed] at token

theorem conjunction_offered {catalog : Catalog} {depth : Nat} {pick : Suggestion}
    (offered : pick ∈ candidates catalog depth .conjunction) :
    (∃ connective : Connective, pick = .plain connective.keyword .conjunction) ∨
      0 < depth ∧ pick = .plain ")" .closeParen := by
  rcases List.mem_append.mp offered with keyword | paren
  · rcases List.mem_cons.mp keyword with rfl | keyword
    · exact .inl ⟨.and, rfl⟩
    · exact .inl ⟨.or, List.mem_singleton.mp keyword⟩
  · split at paren
    next opened => exact .inr ⟨opened, List.mem_singleton.mp paren⟩
    next => cases paren

theorem candidate_leads {pick : Suggestion} {slot : Slot} {depth : Nat}
    (unspaced : ∀ operator ∈ grid.vocabulary, ' ' ∉ operator.toList)
    (offered : pick ∈ candidates grid.catalog depth slot) :
    StandsAlone grid.vocabulary pick.value ∧ ∃ after, Leads grid (slot, depth) pick after := by
  cases slot with
  | category =>
      rcases List.mem_append.mp offered with named | paren
      · obtain ⟨column, listed, rfl⟩ := List.mem_map.mp named
        exact ⟨alone_literal true column.name unspaced, _,
          .category rfl (hasCategory_name listed) (token_own_category _ _)⟩
      · cases List.mem_singleton.mp paren
        exact ⟨alone_paren (.inl rfl), _, .opening rfl rfl⟩
  | operator category =>
      obtain ⟨operator, listed, rfl⟩ := List.mem_map.mp offered
      obtain ⟨word, text⟩ := literal_word grid.vocabulary grid.vocabulary false operator
      exact ⟨alone_literal false operator unspaced, _,
        .operator rfl (List.contains_iff_mem.mpr listed) word text⟩
  | value category =>
      obtain ⟨value, -, rfl⟩ := List.mem_map.mp offered
      obtain ⟨word, text⟩ := literal_word grid.vocabulary grid.vocabulary false value
      exact ⟨alone_literal false value unspaced, _, .value rfl word text⟩
  | conjunction =>
      rcases conjunction_offered offered with ⟨connective, rfl⟩ | ⟨opened, rfl⟩
      · exact ⟨alone_keyword connective unspaced, _, .conjunction rfl (token_keyword _ connective)⟩
      · obtain ⟨outer, rfl⟩ := Nat.exists_eq_add_of_lt opened
        rw [Nat.zero_add]
        exact ⟨alone_paren (.inr rfl), _, .closing rfl rfl⟩
  | unknown => cases offered

/-- Picks one behind the other. -/
inductive Route (grid : Grid) : Slot × Nat → List Suggestion → Slot × Nat → Prop where
  | nil (place : Slot × Nat) : Route grid place [] place
  | cons {place next last : Slot × Nat} {pick : Suggestion} {picks : List Suggestion}
      (first : Leads grid place pick next) (rest : Route grid next picks last) :
      Route grid place (pick :: picks) last

theorem Route.concat {place last after : Slot × Nat} {picks : List Suggestion} {pick : Suggestion}
    (route : Route grid place picks last) (leads : Leads grid last pick after) :
    Route grid place (picks ++ [pick]) after := by
  induction route with
  | nil place => exact .cons leads (.nil after)
  | cons first rest ih => exact .cons first (ih leads)

theorem Leads.advances {place after : Slot × Nat} {pick : Suggestion}
    (leads : Leads grid place pick after) :
    advance place.1 place.2 (grid.tokenOfPick pick) = some after := by
  cases leads with
  | category kind known token => rw [token]; rfl
  | opening kind token => rw [token]; rfl
  | operator kind takes word text => exact advance_operator word _ _
  | value kind word text => exact advance_value word _ _
  | conjunction kind token => rw [token]; rfl
  | closing kind token => simp [token, advance]

theorem Route.slot {place last : Slot × Nat} {picks : List Suggestion}
    (route : Route grid place picks last) :
    slotAfter place.1 place.2 (picks.map grid.tokenOfPick) = last := by
  induction route with
  | nil place => rfl
  | cons first rest ih =>
      simp only [List.map_cons, slotAfter, first.advances]
      exact ih

theorem Route.fits {place last : Slot × Nat} {picks : List Suggestion}
    (route : Route grid place picks last) (fits : place.1 ≠ .unknown) : last.1 ≠ .unknown := by
  induction route with
  | nil place => exact fits
  | cons first rest ih =>
      apply ih
      cases first <;> simp

/-! Groups. -/

def opens (picks : List Suggestion) : Nat :=
  picks.countP (·.kind = .openParen)

def closes (picks : List Suggestion) : Nat :=
  picks.countP (·.kind = .closeParen)

theorem Leads.depth {place after : Slot × Nat} {pick : Suggestion}
    (leads : Leads grid place pick after) (picks : List Suggestion) :
    after.2 + opens picks + closes (pick :: picks) =
      place.2 + opens (pick :: picks) + closes picks := by
  cases leads <;> simp [opens, closes, *] <;> omega

theorem Route.depth {place last : Slot × Nat} {picks : List Suggestion}
    (route : Route grid place picks last) : last.2 + closes picks = place.2 + opens picks := by
  induction route with
  | nil place => rfl
  | @cons place next last pick picks first rest ih =>
      have counted := first.depth picks
      omega

/-- At no point of the session are more than `limit` groups open. -/
def OpensWithin (limit : Nat) (picks : List Suggestion) : Prop :=
  ∀ front, front <+: picks → opens front ≤ closes front + limit

theorem Leads.moves {place after : Slot × Nat} {pick : Suggestion} {state : State} {lexeme : Lexeme}
    (leads : Leads grid place pick after) (agrees : Agrees state place)
    (read : lexeme.token = grid.tokenOfPick pick) (shallow : after.2 ≤ 64) :
    ∃ next, Moves state lexeme next ∧ Agrees next after := by
  cases leads with
  | category kind known token =>
      cases agrees
      exact ⟨_, .category (read.trans token), .operator _ _⟩
  | opening kind token =>
      cases agrees
      exact ⟨_, .opening (read.trans token) shallow, .category (lexeme.start :: _)⟩
  | operator kind takes word text =>
      cases agrees
      exact ⟨_, .operator (read ▸ word), .value _ _⟩
  | value kind word text =>
      cases agrees
      exact ⟨_, .value (read ▸ word), .conjunction _⟩
  | conjunction kind token =>
      cases agrees
      exact ⟨_, .conjunction (read.trans token), .category _⟩
  | @closing depth pick kind token =>
      generalize same : depth + 1 = count at agrees
      cases agrees with
      | conjunction opened =>
          cases opened with
          | nil => cases same
          | cons innermost outer =>
              cases Nat.succ.inj same
              exact ⟨_, .closing (read.trans token), .conjunction outer⟩

theorem Route.runs {place last : Slot × Nat} {picks : List Suggestion} {state : State}
    {input : List Lexeme} (route : Route grid place picks last) (agrees : Agrees state place)
    (read : input.map Lexeme.token = picks.map grid.tokenOfPick)
    (shallow : ∀ front, front <+: picks → place.2 + opens front ≤ closes front + 64) :
    ∃ final, run state input = .ok final ∧ Agrees final last := by
  induction route generalizing state input with
  | nil place =>
      cases List.map_eq_nil_iff.mp read
      exact ⟨state, rfl, agrees⟩
  | @cons place next last pick picks first rest ih =>
      obtain ⟨lexeme, later, rfl, token, others⟩ := List.map_eq_cons_iff.mp read
      have inside (front : List Suggestion) (early : front <+: picks) :
          next.2 + opens front ≤ closes front + 64 := by
        have bound := shallow (pick :: front) (List.cons_prefix_cons.mpr ⟨rfl, early⟩)
        have counted := first.depth front
        omega
      have bound : next.2 ≤ 64 := inside [] List.nil_prefix
      obtain ⟨middle, moves, agreed⟩ := first.moves agrees token bound
      obtain ⟨final, ran, done⟩ := ih agreed others inside
      refine ⟨final, ?_, done⟩
      rw [run_cons, step_moves.mpr moves]
      exact ran

/-! Predicates. A predicate is picked by three picks in a row, and it is read from three words in a
row. -/

def pickedPredicates : List Suggestion → List Predicate
  | ⟨category, _, .category⟩ :: ⟨operator, _, .operator⟩ :: ⟨value, _, .value⟩ :: rest =>
      ⟨category, operator, some value⟩ :: pickedPredicates rest
  | _ :: rest => pickedPredicates rest
  | [] => []

theorem pickedPredicates_skip {pick : Suggestion} (picks : List Suggestion)
    (other : pick.kind ≠ .category) :
    pickedPredicates (pick :: picks) = pickedPredicates picks := by
  rw [pickedPredicates]
  rintro category typed operator _ value _ rest rfl
  exact absurd rfl other

theorem pickedPredicates_triple {category operator value : Suggestion} (picks : List Suggestion)
    (first : category.kind = .category) (second : operator.kind = .operator)
    (third : value.kind = .value) :
    pickedPredicates (category :: operator :: value :: picks) =
      ⟨category.displayText, operator.displayText, some value.displayText⟩ ::
        pickedPredicates picks := by
  obtain ⟨_, _, _⟩ := category
  obtain ⟨_, _, _⟩ := operator
  obtain ⟨_, _, _⟩ := value
  cases first
  cases second
  cases third
  rfl

theorem word?_pick {pick : Suggestion} (word : (grid.tokenOfPick pick).isWord = true)
    (text : (grid.tokenOfPick pick).text = pick.displayText) :
    (grid.tokenOfPick pick).word? = some pick.displayText :=
  text ▸ word?_of_isWord word

/-- A route that ends behind a predicate goes on from a category to an operator and a value. -/
theorem Route.comparison {category : String} {depth : Nat} {last : Slot × Nat}
    {picks : List Suggestion} (route : Route grid (.operator category, depth) picks last)
    (closed : last.1 = .conjunction) :
    ∃ operator value rest, picks = operator :: value :: rest ∧
      operator.kind = .operator ∧ grid.catalog.hasOperator category operator.displayText = true ∧
      (grid.tokenOfPick operator).word? = some operator.displayText ∧
      value.kind = .value ∧ (grid.tokenOfPick value).word? = some value.displayText ∧
      Route grid (.conjunction, depth) rest last := by
  cases route with
  | nil => cases closed
  | cons second rest =>
      cases second with
      | operator kind takes word text =>
          cases rest with
          | nil => cases closed
          | cons third rest =>
              cases third with
              | value kind' word' text' =>
                  exact ⟨_, _, _, rfl, kind, takes, word?_pick word text, kind',
                    word?_pick word' text', rest⟩

/-- The words and the predicates that were picked tell the same, and the catalog knows them. -/
structure Tells (grid : Grid) (picks : List Suggestion) : Prop where
  words : (picks.map grid.tokenOfPick).filterMap Token.word? =
    (pickedPredicates picks).flatMap Predicate.words
  valued : ∀ predicate ∈ pickedPredicates picks, predicate.value.isSome = true
  accepted : ∀ predicate ∈ pickedPredicates picks, grid.catalog.accepts predicate = true

theorem Tells.skip {pick : Suggestion} {picks : List Suggestion} (tells : Tells grid picks)
    (other : pick.kind ≠ .category) (wordless : (grid.tokenOfPick pick).word? = none) :
    Tells grid (pick :: picks) := by
  obtain ⟨words, valued, accepted⟩ := tells
  have skipped := pickedPredicates_skip picks other
  refine ⟨?_, skipped ▸ valued, skipped ▸ accepted⟩
  rw [skipped, List.map_cons, List.filterMap_cons_none wordless, words]

-- The recursion is on the picks and takes a whole predicate at a time, so it stays between
-- predicates.
theorem Route.tells {place last : Slot × Nat} {picks : List Suggestion}
    (route : Route grid place picks last) (closed : last.1 = .conjunction)
    (between : place.1 = .category ∨ place.1 = .conjunction) : Tells grid picks := by
  cases route with
  | nil => exact ⟨rfl, nofun, nofun⟩
  | @cons _ _ _ pick picks first rest =>
      cases first with
      | category kind known token =>
          obtain ⟨operator, value, later, rfl, kind', takes, word', kind'', word'', onwards⟩ :=
            rest.comparison closed
          obtain ⟨words, valued, accepted⟩ := Route.tells onwards closed (.inr rfl)
          have word : (grid.tokenOfPick pick).word? = some pick.displayText := by rw [token]; rfl
          have triple := pickedPredicates_triple later kind kind' kind''
          refine ⟨?_, ?_, ?_⟩
          · simp only [triple, List.map_cons, List.filterMap_cons_some word,
              List.filterMap_cons_some word', List.filterMap_cons_some word'', words]
            rfl
          · rw [triple]
            exact List.forall_mem_cons.mpr ⟨rfl, valued⟩
          · rw [triple]
            exact List.forall_mem_cons.mpr ⟨by simp [Catalog.accepts, known, takes], accepted⟩
      | opening kind token =>
          exact (Route.tells rest closed (.inl rfl)).skip (by simp [kind]) (by rw [token]; rfl)
      | operator => simp at between
      | value => simp at between
      | conjunction kind token =>
          exact (Route.tells rest closed (.inl rfl)).skip (by simp [kind]) (by rw [token]; rfl)
      | closing kind token =>
          exact (Route.tells rest closed (.inr rfl)).skip (by simp [kind]) (by rw [token]; rfl)
  termination_by picks.length

end Grid

end Sift
