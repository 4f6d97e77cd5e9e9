import Sift.Proofs.Roles
import Sift.Proofs.Typing
import Sift.Proofs.Vocabulary

/-!
The cursor inside of a query. With the default operators a text can be cut at any place: the lexemes
before the cut stay as they are, and what is cut off one of them is read as one piece. So the word
at the cursor is the one being typed, the words before it are its context, and the slot is the role
that the word plays in the query.
-/

namespace Sift

open Text Lexer Completion Grammar

namespace Lexer

/-! How much of a word is left in front of a cut. -/

theorem quotedTail_cut (quote : Char) (front rest : List Char) :
    quotedTail quote front = min (quotedTail quote (front ++ rest)) front.length := by
  fun_induction quotedTail quote front with
  | case1 => simp
  | case2 front =>
      rw [List.cons_append, quotedTail_close, List.length_cons]
      omega
  | case3 inside =>
      cases rest with
      | nil => simp [quotedTail, inside]
      | cons c rest =>
          simp only [List.singleton_append, quotedTail, inside, ↓reduceIte, List.length_singleton]
          omega
  | case4 c front inside ih =>
      simp only [List.cons_append, quotedTail, inside, ↓reduceIte, List.length_cons, ih]
      omega
  | case5 c front inside plain ih =>
      rw [List.cons_append, quotedTail_plain _ inside plain, List.length_cons, ih]
      omega

theorem takeWhile_cut (p : Char → Bool) (front rest : List Char) :
    (front.takeWhile p).length = min ((front ++ rest).takeWhile p).length front.length := by
  induction front with
  | nil => simp
  | cons c front ih =>
      cases inside : p c with
      | true =>
          simp only [List.cons_append, List.takeWhile_cons, inside, ↓reduceIte, List.length_cons,
            ih]
          omega
      | false => simp [inside]

theorem tail_cut (c : Char) (front rest : List Char) :
    tail [] c front = min (tail [] c (front ++ rest)) front.length := by
  rcases startsWord_or c with starts | paren | quoted
  · rw [starts.tail_eq, starts.tail_eq, wordTail_default, wordTail_default]
    cases front with
    -- Whether a lone `!` compares depends on what follows, but there is nothing left to take.
    | nil => simp [defaultTail]
    | cons d front =>
        have same : compares c (d :: front ++ rest) = compares c (d :: front) := rfl
        rw [defaultTail, defaultTail, same]
        split
        · exact takeWhile_cut isComparison (d :: front) rest
        · exact takeWhile_cut isPlain (d :: front) rest
  · rw [tail_paren paren, tail_paren paren, Nat.zero_min]
  · rw [tail_quote quoted, tail_quote quoted]
    exact quotedTail_cut c front rest

theorem tokenOf_word {vocabulary : List String} {c : Char} (cs : List Char) (notOpen : c ≠ '(')
    (notClose : c ≠ ')') :
    tokenOf vocabulary c cs ≠ .openParen ∧ tokenOf vocabulary c cs ≠ .closeParen := by
  have classified (word : String) :
      classify vocabulary word ≠ .openParen ∧ classify vocabulary word ≠ .closeParen := by
    unfold classify
    split
    · simp
    · split <;> simp
  rw [tokenOf, if_neg notOpen, if_neg notClose]
  split
  · simp
  · exact classified _

/-- The cursor at byte `place` is inside of a word or right behind it. -/
structure Touches (place : Nat) (lexeme : Lexeme) : Prop where
  notOpen : lexeme.token ≠ .openParen
  notClose : lexeme.token ≠ .closeParen
  behind : lexeme.start < place
  within : place ≤ lexeme.stop

/-- `Cut place whole front`: a text of the lexemes `whole` that is cut at a byte has the lexemes
`front` before it. -/
inductive Cut (place : Nat) : List Lexeme → List Lexeme → Prop where
  | between {front back : List Lexeme} (behind : ∀ lexeme ∈ back, place ≤ lexeme.start) :
      Cut place (front ++ back) front
  | within {front back : List Lexeme} {lexeme part : Lexeme} (touches : Touches place lexeme)
      (starts : part.start = lexeme.start) (stops : part.stop = place)
      (notOpen : part.token ≠ .openParen) (notClose : part.token ≠ .closeParen) :
      Cut place (front ++ lexeme :: back) (front ++ [part])

theorem Cut.cons {place : Nat} {whole front : List Lexeme} (first : Lexeme)
    (cut : Cut place whole front) : Cut place (first :: whole) (first :: front) := by
  cases cut with
  | @between front back behind => exact @Cut.between place (first :: front) back behind
  | @within front back lexeme part touches starts stops notOpen notClose =>
      exact @Cut.within place (first :: front) back lexeme part touches starts stops notOpen
        notClose

theorem scan_cut (start : Nat) (front rest : List Char) :
    Cut (start + size front) (scan [] start (front ++ rest)) (scan [] start front) := by
  induction front using pieces_induction [] generalizing start with
  | empty =>
      rw [scan_nil]
      exact @Cut.between _ [] _ fun lexeme member => scan_start_le member
  | blank c front blank ih =>
      rw [List.cons_append, scan_blank _ _ blank, scan_blank _ _ blank, size, ← Nat.add_assoc]
      exact ih _
  | piece c front visible ih =>
      have length := tail_cut c front rest
      have bound := tail_le [] c (front ++ rest)
      rw [List.cons_append, scan_piece _ _ visible, scan_piece _ _ visible]
      by_cases inside : tail [] c (front ++ rest) ≤ front.length
      · have same : tail [] c (front ++ rest) = tail [] c front := by omega
        have later := ih (start + size (c :: front.take (tail [] c front)))
        have bytes : size (c :: front) = size (c :: front.take (tail [] c front)) +
            size (front.drop (tail [] c front)) := by
          rw [← size_append, List.cons_append, List.take_append_drop]
        rw [Nat.add_assoc, ← bytes] at later
        rw [same, List.take_append_of_le_length (by omega),
          List.drop_append_of_le_length (by omega), size_ofList]
        exact later.cons _
      · -- The piece goes on behind the cut, and all of it that stands before is one piece.
        have whole : tail [] c front = front.length := by omega
        have word : c ≠ '(' ∧ c ≠ ')' := by
          constructor
          · rintro rfl
            exact inside (Nat.zero_le _)
          · rintro rfl
            exact inside (Nat.zero_le _)
        obtain ⟨beyond, taken⟩ : ∃ beyond, tail [] c (front ++ rest) = front.length + beyond :=
          Nat.exists_eq_add_of_le (by omega)
        have part : (front ++ rest).take (front.length + beyond) = front ++ rest.take beyond :=
          List.take_length_add_append beyond
        obtain ⟨notOpen, notClose⟩ := @tokenOf_word [] c front word.1 word.2
        obtain ⟨notOpen', notClose'⟩ := @tokenOf_word [] c (front ++ rest.take beyond) word.1 word.2
        have positive := c.utf8Size_pos
        rw [whole, List.take_length, List.drop_length, taken, part]
        rw [scan_nil]
        refine @Cut.within _ [] _ _ _ ⟨notOpen', notClose', ?_, ?_⟩ rfl ?_ notOpen notClose
        · simp only [size]
          omega
        · simp only [Lexeme.stop, size_ofList, size, size_append]
          omega
        · rw [Lexeme.stop, size_ofList]

/-! The last character of a piece. -/

theorem endsInWord_append (front : List Char) {piece : String} (ends : endsInWord piece = true) :
    endsInWord (String.ofList (front ++ piece.toList)) = true := by
  unfold endsInWord at ends ⊢
  cases last : piece.toList.getLast? with
  | none => simp [last] at ends
  | some c =>
      rw [last] at ends
      simpa [List.getLast?_append, last] using ends

theorem endsInWord_visible {c : Char} {cs : List Char}
    (visible : ∀ d ∈ c :: cs, isBlank d = false) :
    endsInWord (String.ofList (c :: cs)) = true := by
  rw [endsInWord, String.toList_ofList, List.getLast?_cons]
  simp only [Option.any_some, Bool.not_eq_true']
  apply visible
  cases last : cs.getLast? with
  | none => simp
  | some d => simp [List.mem_of_getLast? last]

theorem quoted_last {quote : Char} {written meant : List Char}
    (string : Quoted quote true written meant) : written.getLast? = some quote := by
  generalize closes : true = closed at string
  induction string with
  | closing => rfl
  | missing => cases closes
  | dangling => cases closes
  | plain inside unescaped rest ih => simp [List.getLast?_cons, ih closes]
  | escaped rest ih => simp [List.getLast?_cons, ih closes]

theorem defaultTail_visible (c : Char) (cs : List Char) :
    ∀ d ∈ cs.take (defaultTail c cs), isBlank d = false := by
  have within {p : Char → Bool} (inside : ∀ d, p d = true → isBlank d = false) :
      ∀ d ∈ cs.take (cs.takeWhile p).length, isBlank d = false := by
    intro d member
    rw [← List.prefix_iff_eq_take.mp (List.takeWhile_prefix p)] at member
    exact inside d (List.all_eq_true.mp List.all_takeWhile d member)
  unfold defaultTail
  split
  · apply within
    intro d compares
    cases blank : isBlank d with
    | false => rfl
    | true => simp [not_comparison_of_delimiter (c := d) (by simp [isDelimiter, blank])] at compares
  · apply within
    intro d plain
    cases blank : isBlank d with
    | false => rfl
    | true => simp [isPlain, isDelimiter, blank] at plain

/-- A piece ends in something else than white space, unless it is a string that is left open. -/
theorem piece_ends {c : Char} (cs : List Char) (visible : isBlank c = false) :
    (endsInWord (String.ofList (c :: cs.take (tail [] c cs))) ||
      leavesQuoteOpen (String.ofList (c :: cs.take (tail [] c cs)))) = true := by
  rw [Bool.or_eq_true]
  rcases startsWord_or c with starts | paren | quoted
  · apply Or.inl
    rw [starts.tail_eq, wordTail_default]
    apply endsInWord_visible
    intro d member
    rcases List.mem_cons.mp member with rfl | later
    · exact visible
    · exact defaultTail_visible c cs d later
  · rw [tail_paren paren]
    exact .inl (endsInWord_visible (by simpa using visible))
  · have plain : c ≠ '\\' := quote_not_backslash (by simpa [isQuote] using quoted)
    obtain ⟨closed, string, -⟩ := quoted_reads c cs
    rw [tail_quote quoted]
    cases closed with
    | false =>
        have isOpen := staysOpen_quoted plain string
        exact .inr (by simp [leavesQuoteOpen, quoted, isOpen])
    | true =>
        have last := quoted_last string
        exact .inl (by simp [endsInWord, List.getLast?_cons, last, visible])

theorem scan_finishes (start : Nat) (cs : List Char) : ∀ lexeme ∈ scan [] start cs,
    (endsInWord lexeme.source || leavesQuoteOpen lexeme.source) = true := by
  induction cs using pieces_induction [] generalizing start with
  | empty => simp [scan]
  | blank c cs blank ih =>
      rw [scan_blank _ _ blank]
      exact ih _
  | piece c cs visible ih =>
      rw [scan_piece _ _ visible]
      intro lexeme member
      rcases List.mem_cons.mp member with rfl | later
      · exact piece_ends cs visible
      · exact ih _ lexeme later

/-- A word that reaches up to the cursor is being typed. -/
theorem typed_default {before : String} {lexeme : Lexeme} (listed : lexeme ∈ lexemes [] before)
    (stops : lexeme.stop = before.utf8ByteSize) (notOpen : lexeme.token ≠ .openParen)
    (notClose : lexeme.token ≠ .closeParen) : isBeingTyped before lexeme = true := by
  obtain ⟨-, front, rest, whole, offset⟩ := (lexemes_covers [] before).slice lexeme listed
  have ends := scan_finishes 0 before.toList lexeme listed
  have none : rest = [] := by
    apply eq_nil_of_size
    rw [← size_toList, whole, stop_eq, size_append, size_append] at stops
    omega
  subst none
  rw [List.append_nil] at whole
  have same : before = String.ofList (front ++ lexeme.source.toList) := by
    rw [← whole, String.ofList_toList]
  have typed : (endsInWord before || leavesQuoteOpen lexeme.source) = true := by
    rw [Bool.or_eq_true] at ends ⊢
    exact ends.imp (fun word => same ▸ endsInWord_append front word) id
  simp [isBeingTyped, stops, notOpen, notClose, typed]

end Lexer

/-! The word at the cursor. -/

/-- Either the cursor touches a word of the text, and this word is being typed, or it touches none,
and none is being typed. -/
theorem cursor_cases (text : String) (cursor : Nat) :
    (∃ front lexeme back part, lexemes [] text = front ++ lexeme :: back ∧
      Touches (clamp text cursor) lexeme ∧ part.start = lexeme.start ∧
      splitTyped (before text cursor) (lexemes [] (before text cursor)) = (front, some part)) ∨
    ∃ front back, lexemes [] text = front ++ back ∧
      (∀ lexeme ∈ front, lexeme.stop ≤ clamp text cursor ∧ ¬ Touches (clamp text cursor) lexeme) ∧
      (∀ lexeme ∈ back, clamp text cursor ≤ lexeme.start) ∧
      splitTyped (before text cursor) (lexemes [] (before text cursor)) = (front, none) := by
  have cut := scan_cut 0 (takeBytes cursor text.toList) (dropBytes cursor text.toList)
  have bytes : (before text cursor).utf8ByteSize = clamp text cursor := by
    rw [before, size_ofList, clamp]
  have covers := lexemes_covers [] (before text cursor)
  have typed := @typed_default (before text cursor)
  have read : scan [] 0 (takeBytes cursor text.toList) = lexemes [] (before text cursor) := by
    rw [lexemes, before, String.toList_ofList]
  rw [takeBytes_append_dropBytes, ← lexemes, read, Nat.zero_add, ← clamp] at cut
  rw [bytes] at typed
  generalize lexemes [] text = whole at cut ⊢
  generalize lexemes [] (before text cursor) = early at cut covers typed ⊢
  cases cut with
  | @within front back lexeme part touches starts stops notOpen notClose =>
      refine .inl ⟨front, lexeme, back, part, rfl, touches, starts, ?_⟩
      exact splitTyped_typed front (typed (by simp) stops notOpen notClose)
  | @between front back behind =>
      have inside := covers.stop_le
      have ordered := covers.ordered
      rw [Nat.zero_add, size_toList, bytes] at inside
      rcases List.eq_nil_or_concat early with rfl | ⟨front, last, split⟩
      · exact .inr ⟨[], back, rfl, by simp, behind, rfl⟩
      rw [List.concat_eq_append] at split
      subst split
      have final := inside last (by simp)
      by_cases touches : Touches (clamp text cursor) last
      · refine .inl ⟨front, last, back, last, by simp, touches, rfl, ?_⟩
        have stops : last.stop = clamp text cursor := Nat.le_antisymm final.2 touches.within
        exact splitTyped_typed front (typed (by simp) stops touches.notOpen touches.notClose)
      · refine .inr ⟨front ++ [last], back, rfl, ?_, behind, ?_⟩
        · intro lexeme member
          refine ⟨(inside lexeme member).2, ?_⟩
          rcases List.mem_append.mp member with before | same
          · -- Another lexeme lies between this one and the cursor.
            have order := (List.pairwise_append.mp ordered).2.2 lexeme before last (by simp)
            intro reached
            have close := reached.within
            omega
          · cases List.mem_singleton.mp same
            exact touches
        · apply splitTyped_idle
          cases idle : isBeingTyped (before text cursor) last with
          | false => rfl
          | true =>
              simp only [isBeingTyped, bytes, Bool.and_eq_true, decide_eq_true_eq] at idle
              obtain ⟨⟨⟨stops, notOpen⟩, notClose⟩, -⟩ := idle
              exact absurd ⟨notOpen, notClose, stops ▸ final.1, Nat.le_of_eq stops.symm⟩ touches

theorem touches_unique {place : Nat} {front front' back back' : List Lexeme}
    {lexeme lexeme' : Lexeme}
    (ordered : (front ++ lexeme :: back).Pairwise fun left right => left.stop ≤ right.start)
    (same : front ++ lexeme :: back = front' ++ lexeme' :: back')
    (first : Touches place lexeme) (second : Touches place lexeme') :
    front = front' ∧ lexeme = lexeme' := by
  -- The one that comes first ends before the other starts, so it does not reach the cursor.
  have apart {left right : Lexeme} (order : left.stop ≤ right.start) (close : Touches place left)
      (far : Touches place right) : False := by
    have within := close.within
    have behind := far.behind
    omega
  have reordered := same ▸ ordered
  rcases split_at_char same with ⟨gap, rfl, later⟩ | ⟨inner, rfl⟩
  · cases gap with
    | nil =>
        cases later
        exact ⟨by simp, rfl⟩
    | cons head gap =>
        cases later
        have order := (List.pairwise_append.mp reordered).2.2 lexeme (by simp) lexeme' (by simp)
        exact (apart order first second).elim
  · have order := (List.pairwise_append.mp ordered).2.2 lexeme' (by simp) lexeme (by simp)
    exact (apart order second first).elim

theorem complete_split {catalog : Catalog} {text : String} {cursor : Nat} {context : List Lexeme}
    {last : Option Lexeme} (split : splitTyped (before text cursor)
      (lexemes catalog.vocabulary (before text cursor)) = (context, last)) :
    (catalog.complete text cursor).start = (last.map Lexeme.start).getD (clamp text cursor) ∧
      (catalog.complete text cursor).stop = clamp text cursor ∧
      (catalog.complete text cursor).slot = (slotOf (context.map Lexeme.token)).1 := by
  have bytes : (before text cursor).utf8ByteSize = clamp text cursor := by
    rw [before, size_ofList, clamp]
  simp only [Catalog.complete, split, bytes, and_self]

theorem filter_before {place : Nat} {front back : List Lexeme}
    (early : ∀ lexeme ∈ front, lexeme.stop ≤ place)
    (late : ∀ lexeme ∈ back, place < lexeme.stop) :
    (front ++ back).filter (·.stop ≤ place) = front := by
  rw [List.filter_append, List.filter_eq_self.mpr, List.filter_eq_nil_iff.mpr, List.append_nil]
  · intro lexeme member
    simpa using late lexeme member
  · intro lexeme member
    simpa using early lexeme member

/-- In a query the completion knows what it completes. At a word it replaces the part of the word
before the cursor, and the slot is the role that the word plays; elsewhere it replaces nothing, and
the slot is what the query expects there. -/
theorem cursor_role_exact {catalog : Catalog} {text : String} {forest : Forest}
    (defaults : ∀ operator ∈ catalog.vocabulary, operator ∈ defaultOperators)
    (visible : isBlankText text = false) (read : parse catalog.vocabulary text = .ok forest)
    (cursor : Nat) :
    ∃ expr, forest = [expr] ∧
      (∀ front lexeme back, lexemes catalog.vocabulary text = front ++ lexeme :: back →
        Touches (clamp text cursor) lexeme →
        (catalog.complete text cursor).start = lexeme.start ∧
        (catalog.complete text cursor).stop = clamp text cursor ∧
        ∀ slot, Plays expr (front.map Lexeme.token) lexeme.token (back.map Lexeme.token) slot ↔
          slot = (catalog.complete text cursor).slot) ∧
      ((∀ lexeme ∈ lexemes catalog.vocabulary text, ¬ Touches (clamp text cursor) lexeme) →
        (catalog.complete text cursor).start = clamp text cursor ∧
        (catalog.complete text cursor).stop = clamp text cursor ∧
        ∀ slot, Expects (((lexemes catalog.vocabulary text).filter
            (·.stop ≤ clamp text cursor)).map Lexeme.token) slot ↔
          slot = (catalog.complete text cursor).slot) ∧
      (catalog.complete text cursor).slot ≠ .unknown := by
  obtain ⟨expr, rfl, query, -⟩ := (parse_visible _ visible forest).mp read
  refine ⟨expr, rfl, ?_⟩
  have same := lexemes_congr (knowSame_defaults defaults)
  have ordered := (lexemes_covers catalog.vocabulary text).ordered
  have nonempty := (lexemes_covers catalog.vocabulary text).stop_le
  have cases := cursor_cases text cursor
  rw [← same, ← same] at cases
  rw [tokens] at query
  rcases cases with ⟨front, lexeme, back, part, whole, touches, starts, split⟩ |
    ⟨front, back, whole, early, late, split⟩
  -- The words before the one at the cursor are the context, so they are the tokens before it.
  · obtain ⟨start, stop, slot⟩ := complete_split split
    rw [whole, List.map_append] at query
    refine ⟨?_, ?_, slot ▸ (query_traces query).1⟩
    · intro front' lexeme' back' whole' touches'
      rw [whole] at ordered whole'
      obtain ⟨rfl, rfl⟩ := touches_unique ordered whole' touches touches'
      cases List.append_cancel_left whole'
      refine ⟨start.trans starts, stop, ?_⟩
      rw [slot]
      exact plays_iff query
    · intro untouched
      exact absurd touches (untouched lexeme (by simp [whole]))
  -- No word is at the cursor: the context is all that ends before it.
  · obtain ⟨start, stop, slot⟩ := complete_split split
    rw [whole, List.map_append] at query
    refine ⟨?_, ?_, slot ▸ (query_traces query).1⟩
    · intro front' lexeme back' whole' touches
      have member : lexeme ∈ front ++ back := by rw [← whole, whole']; simp
      rcases List.mem_append.mp member with before | after
      · exact absurd touches (early lexeme before).2
      · exact absurd touches.behind (Nat.not_lt.mpr (late lexeme after))
    · rintro -
      have kept : (front ++ back).filter (·.stop ≤ clamp text cursor) = front := by
        apply filter_before
        · intro lexeme before
          exact (early lexeme before).1
        · intro lexeme after
          have filled := nonempty lexeme (by simp [whole, after])
          exact Nat.lt_of_le_of_lt (late lexeme after) filled.1
      refine ⟨start, stop, ?_⟩
      rw [whole, kept, slot]
      exact expects_iff query

/-! A query with the cursor inside of its operator. -/

def planCatalog : Catalog :=
  .ofLists ["plan"] (fun _ => ["=="]) (fun _ => ["pro"])

theorem plan_lexemes :
    lexemes ["=="] "plan == pro " =
      [⟨.identifier "plan", 0, "plan"⟩, ⟨.operator "==", 5, "=="⟩,
        ⟨.identifier "pro", 8, "pro"⟩] := by
  have alone (c : Char) (cs : List Char) (reads : ReadsWhole ["=="] c cs) :
      StandsAlone ["=="] (String.ofList (c :: cs)) :=
    alone_word String.toList_ofList reads (by decide)
  have first := scan_alone (alone 'p' ['l', 'a', 'n'] (by decide)) 0 "== pro ".toList
  have second := scan_alone (alone '=' ['='] (by decide)) 5 "pro ".toList
  have third := scan_alone (alone 'p' ['r', 'o'] (by decide)) 8 []
  apply first.trans
  apply congrArg (List.cons _)
  apply second.trans
  apply congrArg (List.cons _)
  apply third.trans
  exact congrArg (List.cons _) (scan_nil 12)

theorem cursor_role_exact_plan :
    parse planCatalog.vocabulary "plan == pro " = .ok [.leaf ⟨"plan", "==", some "pro"⟩] ∧
      (planCatalog.complete "plan == pro " 6).start = 5 ∧
      (planCatalog.complete "plan == pro " 6).stop = 6 ∧
      (planCatalog.complete "plan == pro " 6).slot = .operator "plan" := by
  have vocabulary : planCatalog.vocabulary = ["=="] := by decide
  have place : clamp "plan == pro " 6 = 6 := by decide
  have cast : Cast (.run .or) _ _ :=
    .only (.only (@Cast.comparison "plan" (.operator "==") (.identifier "pro") rfl rfl))
  have cut : tokens planCatalog.vocabulary "plan == pro " =
      [.identifier "plan", .operator "==", .identifier "pro"] := by
    rw [vocabulary, tokens, plan_lexemes]
    rfl
  have read := parse_comparison "plan" (.operator "==") (.identifier "pro") rfl rfl cut
  obtain ⟨expr, same, word, -, -⟩ :=
    cursor_role_exact (by rw [vocabulary]; decide) (by decide) read 6
  cases same
  rw [vocabulary, place] at word
  obtain ⟨start, stop, slot⟩ := word [⟨.identifier "plan", 0, "plan"⟩] ⟨.operator "==", 5, "=="⟩
    [⟨.identifier "pro", 8, "pro"⟩] plan_lexemes
    ⟨by decide, by decide, by decide, by decide⟩
  have plays : Plays _ [.identifier "plan"] (.operator "==") [.identifier "pro"]
      (.operator "plan") := ⟨[_], [_], cast, rfl, rfl⟩
  exact ⟨read, start, stop, ((slot _).mp plays).symm⟩

end Sift
