import Mathlib.Data.List.Forall2
import Sift.Proofs.Literals

/-!
Nothing of a text is lost or made up when it is cut into lexemes. `Covers` says that a text is made
of blanks and of the pieces of a list of lexemes, each where its lexeme says; order, distance and
gaps of the pieces follow from it. `Means` tells what a piece stands for, without a reader.
-/

namespace Sift

open Text

namespace Lexer

variable {vocabulary : List String}

/-- The text from byte `start` on is made of blanks and of the pieces of the lexemes. -/
inductive Covers : Nat → List Char → List Lexeme → Prop where
  | nil (start : Nat) : Covers start [] []
  | blank {start : Nat} {c : Char} {cs : List Char} {lexemes : List Lexeme}
      (blank : isBlank c = true) (rest : Covers (start + c.utf8Size) cs lexemes) :
      Covers start (c :: cs) lexemes
  | piece {lexeme : Lexeme} {cs : List Char} {lexemes : List Lexeme}
      (nonempty : lexeme.source.toList ≠ []) (rest : Covers lexeme.stop cs lexemes) :
      Covers lexeme.start (lexeme.source.toList ++ cs) (lexeme :: lexemes)

theorem scan_covers (start : Nat) (cs : List Char) :
    Covers start cs (scan vocabulary start cs) := by
  induction cs using pieces_induction vocabulary generalizing start with
  | empty =>
      rw [scan]
      exact .nil start
  | blank c cs blank ih =>
      rw [scan_blank _ _ blank]
      exact .blank blank (ih _)
  | piece c cs visible ih =>
      rw [scan_piece _ _ visible]
      generalize tail vocabulary c cs = length at ih ⊢
      have split : c :: cs = (String.ofList (c :: cs.take length)).toList ++ cs.drop length := by
        simp
      have nonempty : (String.ofList (c :: cs.take length)).toList ≠ [] := by
        rw [String.toList_ofList]
        exact List.cons_ne_nil _ _
      rw [split]
      exact @Covers.piece ⟨_, start, _⟩ _ _ nonempty (ih _)

theorem stop_eq (lexeme : Lexeme) : lexeme.stop = lexeme.start + size lexeme.source.toList := by
  rw [size_toList, Lexeme.stop]

theorem size_pos {cs : List Char} (nonempty : cs ≠ []) : 0 < size cs :=
  Nat.pos_of_ne_zero fun empty => nonempty (eq_nil_of_size empty)

theorem Covers.start_le {start : Nat} {cs : List Char} {lexemes : List Lexeme}
    (covers : Covers start cs lexemes) : ∀ lexeme ∈ lexemes, start ≤ lexeme.start := by
  induction covers with
  | nil start => simp
  | blank blank rest ih =>
      intro lexeme member
      have later := ih lexeme member
      omega
  | @piece first cs lexemes nonempty rest ih =>
      intro lexeme member
      rcases List.mem_cons.mp member with rfl | member
      · exact Nat.le_refl _
      · have later := ih lexeme member
        rw [stop_eq] at later
        omega

theorem Covers.ordered {start : Nat} {cs : List Char} {lexemes : List Lexeme}
    (covers : Covers start cs lexemes) :
    lexemes.Pairwise fun left right => left.stop ≤ right.start := by
  induction covers with
  | nil start => exact .nil
  | blank blank rest ih => exact ih
  | piece nonempty rest ih => exact .cons rest.start_le ih

/-- The piece of a lexeme is the part of the text between its offsets. -/
theorem Covers.slice {start : Nat} {cs : List Char} {lexemes : List Lexeme}
    (covers : Covers start cs lexemes) :
    ∀ lexeme ∈ lexemes, lexeme.source.toList ≠ [] ∧ ∃ before after,
      cs = before ++ lexeme.source.toList ++ after ∧ lexeme.start = start + size before := by
  induction covers with
  | nil start => simp
  | @blank start c cs lexemes blank rest ih =>
      intro lexeme member
      obtain ⟨nonempty, before, after, rfl, offset⟩ := ih lexeme member
      refine ⟨nonempty, c :: before, after, by simp, ?_⟩
      rw [offset, size, Nat.add_assoc]
  | @piece first cs lexemes nonempty rest ih =>
      intro lexeme member
      rcases List.mem_cons.mp member with rfl | member
      · exact ⟨nonempty, [], cs, by simp, by simp [size]⟩
      · obtain ⟨nonempty, before, after, rfl, offset⟩ := ih lexeme member
        refine ⟨nonempty, first.source.toList ++ before, after, by simp, ?_⟩
        rw [offset, stop_eq, size_append, Nat.add_assoc]

theorem split_at_char {α : Type} {left right before after : List α} {a : α}
    (place : left ++ right = before ++ a :: after) :
    (∃ gap, before = left ++ gap ∧ right = gap ++ a :: after) ∨
      ∃ inner, left = before ++ a :: inner := by
  rcases List.append_eq_append_iff.mp place with ⟨gap, rfl, later⟩ | ⟨inner, whole, later⟩
  · exact .inl ⟨gap, rfl, later⟩
  · cases inner with
    | nil => exact .inl ⟨[], by simpa using whole.symm, by simpa using later.symm⟩
    | cons head inner =>
        cases later
        exact .inr ⟨inner, whole⟩

theorem Covers.outside {start : Nat} {cs : List Char} {lexemes : List Lexeme}
    (covers : Covers start cs lexemes) (before after : List Char) (c : Char)
    (place : cs = before ++ c :: after)
    (outside : ∀ lexeme ∈ lexemes,
      ¬ (lexeme.start ≤ start + size before ∧ start + size before < lexeme.stop)) :
    isBlank c = true := by
  induction covers generalizing before with
  | nil start => simp at place
  | @blank start first cs lexemes blank rest ih =>
      cases before with
      | nil =>
          cases place
          exact blank
      | cons head before =>
          cases place
          apply ih before rfl
          simpa [size, Nat.add_assoc] using outside
  | @piece first cs lexemes nonempty rest ih =>
      rcases split_at_char place with ⟨gap, rfl, later⟩ | ⟨inner, whole⟩
      · apply ih gap later
        intro lexeme member
        have missed := outside lexeme (List.mem_cons_of_mem _ member)
        rwa [size_append, ← Nat.add_assoc, ← stop_eq] at missed
      · refine absurd ⟨Nat.le_add_right _ _, ?_⟩ (outside first List.mem_cons_self)
        have positive := c.utf8Size_pos
        rw [stop_eq, whole, size_append, size]
        omega

/-! What a piece says. -/

/-- `Quoted quote closed written meant`: behind the opening quote stands `written`, up to the
closing quote if the string is closed, and the string says `meant`. -/
inductive Quoted (quote : Char) : Bool → List Char → List Char → Prop where
  | closing : Quoted quote true [quote] []
  | missing : Quoted quote false [] []
  | dangling : Quoted quote false ['\\'] []
  | plain {closed : Bool} {c : Char} {written meant : List Char} (inside : c ≠ quote)
      (plain : c ≠ '\\') (rest : Quoted quote closed written meant) :
      Quoted quote closed (c :: written) (c :: meant)
  | escaped {closed : Bool} {c : Char} {written meant : List Char}
      (rest : Quoted quote closed written meant) :
      Quoted quote closed ('\\' :: c :: written) (c :: meant)

theorem quoted_reads (quote : Char) (cs : List Char) :
    ∃ closed, Quoted quote closed (cs.take (quotedTail quote cs))
        (unescape quote (cs.take (quotedTail quote cs))) ∧
      (closed = false → quotedTail quote cs = cs.length) := by
  fun_induction quotedTail quote cs with
  | case1 => exact ⟨false, .missing, fun _ => rfl⟩
  | case2 rest =>
      refine ⟨true, ?_, by simp⟩
      rw [List.take_succ_cons, List.take_zero, unescape_close]
      exact .closing
  | case3 inside =>
      refine ⟨false, ?_, fun _ => rfl⟩
      have nothing : unescape quote ['\\'] = [] := by simp [unescape]
      rw [List.take_succ_cons, List.take_nil, nothing]
      exact .dangling
  | case4 c rest inside ih =>
      obtain ⟨closed, string, whole⟩ := ih
      refine ⟨closed, ?_, fun cut => by rw [whole cut]; rfl⟩
      have taken (cs : List Char) : unescape quote ('\\' :: c :: cs) = c :: unescape quote cs := by
        simp [unescape, inside]
      rw [List.take_succ_cons, List.take_succ_cons, taken]
      exact .escaped string
  | case5 c rest inside plain ih =>
      obtain ⟨closed, string, whole⟩ := ih
      refine ⟨closed, ?_, fun cut => by rw [whole cut]; rfl⟩
      rw [List.take_succ_cons, unescape_plain _ inside plain]
      exact .plain inside plain string

def SameLetters (word keyword : String) : Prop :=
  word.toList.map Char.toLower = keyword.toList.map Char.toLower

def Known (vocabulary : List String) (word : String) : Prop :=
  word ∈ defaultOperators ∨ word ∈ vocabulary

def Symbolic (word : String) : Prop :=
  ∀ c ∈ word.toList, isAlphanumeric c = false

def Bare (word : String) : Prop :=
  ∃ c cs, word.toList = c :: cs ∧ StartsWord c

/-- The token that a piece stands for. Only at the end of the text may a string lack its closing
quote. -/
inductive Means (vocabulary : List String) (atEnd : Prop) : String → Token → Prop where
  | opening : Means vocabulary atEnd "(" .openParen
  | closing : Means vocabulary atEnd ")" .closeParen
  | quoted {quote : Char} {closed : Bool} {written meant : List Char}
      (opens : quote = '"' ∨ quote = '\x27') (string : Quoted quote closed written meant)
      (cut : closed = false → atEnd) :
      Means vocabulary atEnd (String.ofList (quote :: written)) (.identifier (String.ofList meant))
  | conjunction {word : String} {connective : Connective} (bare : Bare word)
      (joins : SameLetters word connective.keyword) :
      Means vocabulary atEnd word (.conjunction connective)
  | operator {word : String} (bare : Bare word)
      (apart : ∀ connective : Connective, ¬ SameLetters word connective.keyword)
      (compares : Known vocabulary word ∨ Symbolic word) :
      Means vocabulary atEnd word (.operator word)
  | identifier {word : String} (bare : Bare word)
      (apart : ∀ connective : Connective, ¬ SameLetters word connective.keyword)
      (names : ¬ (Known vocabulary word ∨ Symbolic word)) :
      Means vocabulary atEnd word (.identifier word)

theorem ofKeyword_iff (word : String) (connective : Connective) :
    Connective.ofKeyword? word = some connective ↔ SameLetters word connective.keyword := by
  have and : Connective.and.keyword.toList.map Char.toLower = ['a', 'n', 'd'] := rfl
  have or : Connective.or.keyword.toList.map Char.toLower = ['o', 'r'] := rfl
  unfold Connective.ofKeyword? SameLetters
  cases connective <;> grind

theorem classify_means {word : String} (atEnd : Prop) (bare : Bare word) :
    Means vocabulary atEnd word (classify vocabulary word) := by
  unfold classify
  cases keyword : Connective.ofKeyword? word with
  | some connective => exact .conjunction bare ((ofKeyword_iff word connective).mp keyword)
  | none =>
      have apart (connective : Connective) : ¬ SameLetters word connective.keyword := by
        rw [← ofKeyword_iff, keyword]
        exact Option.some_ne_none connective |>.symm
      have compares : ((defaultOperators ++ vocabulary).contains word ||
          !word.toList.any isAlphanumeric) = true ↔ Known vocabulary word ∨ Symbolic word := by
        simp [Known, Symbolic]
      by_cases known : Known vocabulary word ∨ Symbolic word
      · simp only [compares.mpr known, ↓reduceIte]
        exact .operator bare apart known
      · simp only [mt compares.mp known]
        exact .identifier bare apart known

theorem piece_means {atEnd : Prop} (c : Char) (cs : List Char)
    (last : tail vocabulary c cs = cs.length → atEnd) :
    Means vocabulary atEnd (String.ofList (c :: cs.take (tail vocabulary c cs)))
      (tokenOf vocabulary c (cs.take (tail vocabulary c cs))) := by
  rcases startsWord_or c with starts | (rfl | rfl) | quoted
  · rw [starts.tokenOf_eq]
    exact classify_means atEnd ⟨c, _, String.toList_ofList, starts⟩
  · exact .opening
  · exact .closing
  · obtain ⟨closed, string, whole⟩ := quoted_reads c cs
    rw [tail_quote quoted] at last ⊢
    rw [tokenOf_quote quoted]
    exact .quoted (by simpa [isQuote] using quoted) string fun cut => last (whole cut)

theorem scan_means (start : Nat) (cs : List Char) :
    ∀ lexeme ∈ scan vocabulary start cs,
      Means vocabulary (lexeme.stop = start + size cs) lexeme.source lexeme.token := by
  induction cs using pieces_induction vocabulary generalizing start with
  | empty => simp [scan]
  | blank c cs blank ih =>
      rw [scan_blank _ _ blank, size, ← Nat.add_assoc]
      exact ih _
  | piece c cs visible ih =>
      have bytes : size (c :: cs) = size (c :: cs.take (tail vocabulary c cs)) +
          size (cs.drop (tail vocabulary c cs)) := by
        rw [← size_append, List.cons_append, List.take_append_drop]
      rw [scan_piece _ _ visible]
      intro lexeme member
      rcases List.mem_cons.mp member with rfl | member
      · apply piece_means
        intro whole
        rw [Lexeme.stop, whole, List.take_length, size_ofList]
      · have later := ih _ lexeme member
        rwa [size_ofList, Nat.add_assoc, ← bytes] at later

end Lexer

open Lexer

/-- What lies between two byte offsets of a text, both at the edge of a character. -/
def IsSlice (text : String) (start stop : Nat) (source : String) : Prop :=
  ∃ before after, text = before ++ source ++ after ∧ before.utf8ByteSize = start ∧
    (before ++ source).utf8ByteSize = stop

theorem lexeme_slice {text : String} {lexeme : Lexeme} {before after : List Char}
    (whole : text.toList = before ++ lexeme.source.toList ++ after)
    (offset : lexeme.start = size before) :
    IsSlice text lexeme.start lexeme.stop lexeme.source := by
  refine ⟨String.ofList before, String.ofList after, ?_, ?_, ?_⟩
  · rw [← String.toList_inj, whole]
    simp
  · rw [size_ofList, offset]
  · rw [String.utf8ByteSize_append, size_ofList, ← offset, Lexeme.stop]

/-- How a token is shown: under which kind, and as which text. -/
inductive Shown : Token → Listing.Kind → String → Prop where
  | identifier (name : String) : Shown (.identifier name) .identifier name
  | operator (word : String) : Shown (.operator word) .operator word
  | opening : Shown .openParen .openParen "("
  | closing : Shown .closeParen .closeParen ")"
  | and : Shown (.conjunction .and) .conjunction "AND"
  | or : Shown (.conjunction .or) .conjunction "OR"

/-- The row shows the token of the lexeme, at the place of the lexeme. -/
structure Lists (row : Listing.Row) (lexeme : Lexeme) : Prop where
  shown : Shown lexeme.token row.kind row.text
  start : row.start = lexeme.start
  stop : row.stop = lexeme.stop

theorem ofLexeme_lists (lexeme : Lexeme) : Lists (Listing.Row.ofLexeme lexeme) lexeme := by
  refine ⟨?_, rfl, rfl⟩
  obtain ⟨token, start, source⟩ := lexeme
  cases token with
  | identifier name => exact .identifier name
  | operator word => exact .operator word
  | openParen => exact .opening
  | closeParen => exact .closing
  | conjunction connective =>
      cases connective with
      | and => exact .and
      | or => exact .or

/-- Lexing loses nothing of a text and makes nothing up: the lexemes are pieces of it, one behind
the other, only blanks lie outside of them, and each stands for what its piece means. The listing
has a row for each of them and ends with the end of the text. -/
theorem lexemes_exact (vocabulary : List String) (text : String) :
    ((∀ lexeme ∈ lexemes vocabulary text, lexeme.start < lexeme.stop ∧
        IsSlice text lexeme.start lexeme.stop lexeme.source ∧
        Means vocabulary (lexeme.stop = text.utf8ByteSize) lexeme.source lexeme.token) ∧
      (lexemes vocabulary text).Pairwise (fun left right => left.stop ≤ right.start) ∧
      ∀ before c after, text.toList = before ++ c :: after →
        (∀ lexeme ∈ lexemes vocabulary text,
          ¬ (lexeme.start ≤ size before ∧ size before < lexeme.stop)) → isBlank c = true) ∧
    ∃ rows, listing vocabulary text =
        rows ++ [⟨.eof, "end of input", text.utf8ByteSize, text.utf8ByteSize⟩] ∧
      rows = (lexemes vocabulary text).map Listing.Row.ofLexeme ∧
      List.Forall₂ Lists rows (lexemes vocabulary text) ∧
      ∀ row ∈ rows, row.kind ≠ .eof := by
  have covers : Covers 0 text.toList (lexemes vocabulary text) := scan_covers 0 text.toList
  refine ⟨⟨?_, covers.ordered, ?_⟩, _, rfl, rfl, ?_, ?_⟩
  · intro lexeme member
    obtain ⟨nonempty, before, after, whole, offset⟩ := covers.slice lexeme member
    have meant := scan_means 0 text.toList lexeme member
    rw [Nat.zero_add, size_toList] at meant
    rw [Nat.zero_add] at offset
    refine ⟨?_, lexeme_slice whole offset, meant⟩
    have positive := size_pos nonempty
    rw [stop_eq]
    omega
  · intro before c after place outside
    apply covers.outside before after c place
    simpa using outside
  · rw [List.forall₂_map_left_iff, List.forall₂_same]
    exact fun lexeme _ => ofLexeme_lists lexeme
  · intro row member
    obtain ⟨lexeme, -, rfl⟩ := List.mem_map.mp member
    cases kind : lexeme.token <;> simp [Listing.Row.ofLexeme, Listing.kindOf, kind]

end Sift
