import Sift.Proofs.Typing

/-!
Where a string ends. Backslashes pair up from the left with what stands behind them, and the string
that a quote has opened goes up to the first quote of its kind that is not in such a pair. The lexer
steps over a pair at once. A look at a piece alone goes character by character and keeps in mind
whether a backslash stands before. Both are held against the same places where a string may end.
-/

namespace Sift

open Text Lexer Completion

namespace Lexer

variable {quote : Char} {vocabulary : List String}

/-- From the left, each backslash is paired with the character behind it, and none is left over. -/
inductive Paired : List Char → Prop where
  | nil : Paired []
  | plain {c : Char} {cs : List Char} (plain : c ≠ '\\') (rest : Paired cs) : Paired (c :: cs)
  | escape {c : Char} {cs : List Char} (rest : Paired cs) : Paired ('\\' :: c :: cs)

/-- Behind `inner` stands the quote, and no backslash escapes it. -/
structure EndsAt (quote : Char) (body inner : List Char) : Prop where
  unescaped : Paired inner
  stands : inner ++ [quote] <+: body

/-- `inner` is what stands between an opening quote and the first one that ends its string. -/
structure FirstEnd (quote : Char) (body inner : List Char) : Prop where
  ends : EndsAt quote body inner
  first : ∀ other, EndsAt quote body other → inner.length ≤ other.length

/-- What belongs to the string that the quote has opened in front of `body`, and whether the string
is left open. -/
inductive Extent (quote : Char) (body : List Char) : List Char → Bool → Prop where
  | closed {inner : List Char} (first : FirstEnd quote body inner) :
      Extent quote body (inner ++ [quote]) false
  | unclosed (never : ∀ inner, ¬ EndsAt quote body inner) : Extent quote body body true

/-! Places where a string may end. -/

theorem not_endsAt_nil (inner : List Char) : ¬ EndsAt quote [] inner := by
  rintro ⟨-, stands⟩
  simp at stands

theorem endsAt_quote (rest : List Char) : EndsAt quote (quote :: rest) [] :=
  ⟨.nil, by simp⟩

theorem not_endsAt_dangling (apart : quote ≠ '\\') (inner : List Char) :
    ¬ EndsAt quote ['\\'] inner := by
  rintro ⟨unescaped, stands⟩
  cases unescaped with
  | nil => simp [apart] at stands
  | plain plain rest => simp at stands
  | escape rest => simp at stands

/-- The string does not end in `front`, and behind it goes on as if it were opened there. -/
def Passes (quote : Char) (front : List Char) : Prop :=
  ∀ cs inner, EndsAt quote (front ++ cs) inner ↔
    ∃ later, inner = front ++ later ∧ EndsAt quote cs later

theorem passes_plain {c : Char} (inside : c ≠ quote) (plain : c ≠ '\\') : Passes quote [c] := by
  intro cs inner
  constructor
  · rintro ⟨unescaped, stands⟩
    cases unescaped with
    | nil =>
        simp only [List.nil_append, List.singleton_append, List.cons_prefix_cons] at stands
        exact absurd stands.1.symm inside
    | plain _ rest =>
        simp only [List.cons_append, List.cons_prefix_cons] at stands
        obtain ⟨rfl, stands⟩ := stands
        exact ⟨_, rfl, rest, stands⟩
    | escape rest =>
        simp only [List.cons_append, List.cons_prefix_cons] at stands
        exact absurd stands.1.symm plain
  · rintro ⟨later, rfl, unescaped, stands⟩
    exact ⟨.plain plain unescaped, by simpa using stands⟩

theorem passes_escape (apart : quote ≠ '\\') (c : Char) : Passes quote ['\\', c] := by
  intro cs inner
  constructor
  · rintro ⟨unescaped, stands⟩
    cases unescaped with
    | nil =>
        simp only [List.nil_append, List.cons_append, List.cons_prefix_cons] at stands
        exact absurd stands.1 apart
    | plain plain rest =>
        simp only [List.cons_append, List.cons_prefix_cons] at stands
        exact absurd stands.1 plain
    | escape rest =>
        simp only [List.cons_append, List.nil_append, List.cons_prefix_cons, true_and] at stands
        obtain ⟨rfl, stands⟩ := stands
        exact ⟨_, rfl, rest, stands⟩
  · rintro ⟨later, rfl, unescaped, stands⟩
    exact ⟨.escape unescaped, by simpa using stands⟩

theorem Passes.never {front : List Char} (passes : Passes quote front) (cs : List Char) :
    (∀ inner, ¬ EndsAt quote (front ++ cs) inner) ↔ ∀ inner, ¬ EndsAt quote cs inner := by
  constructor
  · intro never inner ends
    exact never _ ((passes cs _).mpr ⟨inner, rfl, ends⟩)
  · intro never inner ends
    obtain ⟨later, -, ends⟩ := (passes cs inner).mp ends
    exact never later ends

theorem Passes.extent {front cs written : List Char} {isOpen : Bool} (passes : Passes quote front)
    (extent : Extent quote cs written isOpen) :
    Extent quote (front ++ cs) (front ++ written) isOpen := by
  cases extent with
  | @closed inner first =>
      rw [← List.append_assoc]
      refine .closed ⟨(passes cs _).mpr ⟨inner, rfl, first.ends⟩, ?_⟩
      intro other ends
      obtain ⟨later, rfl, behind⟩ := (passes cs other).mp ends
      simpa using first.first later behind
  | unclosed never => exact .unclosed ((passes.never cs).mpr never)

/-! The two ways to look for the end. -/

/-- The lexer takes just what belongs to the string. -/
theorem quotedTail_extent (apart : quote ≠ '\\') (cs : List Char) :
    ∃ isOpen, Extent quote cs (cs.take (quotedTail quote cs)) isOpen := by
  fun_induction quotedTail quote cs with
  | case1 => exact ⟨true, .unclosed not_endsAt_nil⟩
  | case2 rest => exact ⟨false, .closed ⟨endsAt_quote rest, fun _ _ => Nat.zero_le _⟩⟩
  | case3 inside => exact ⟨true, .unclosed (not_endsAt_dangling apart)⟩
  | case4 c rest inside ih =>
      obtain ⟨isOpen, extent⟩ := ih
      exact ⟨isOpen, (passes_escape apart c).extent extent⟩
  | case5 c rest inside plain ih =>
      obtain ⟨isOpen, extent⟩ := ih
      exact ⟨isOpen, (passes_plain inside plain).extent extent⟩

-- The induction is on the pairs that the lexer steps over, at the end of which the flag is down.
theorem staysOpen_iff (apart : quote ≠ '\\') (cs : List Char) :
    staysOpen quote false cs = true ↔ ∀ inner, ¬ EndsAt quote cs inner := by
  induction cs using quotedTail.induct quote with
  | case1 => simp [staysOpen, not_endsAt_nil]
  | case2 rest =>
      have shut : staysOpen quote false (quote :: rest) = false := by simp [staysOpen, apart]
      simp only [shut, Bool.false_eq_true, false_iff]
      exact fun never => never [] (endsAt_quote rest)
  | case3 inside => simp [staysOpen, not_endsAt_dangling apart]
  | case4 c rest inside ih =>
      have flag : staysOpen quote false ('\\' :: c :: rest) = staysOpen quote false rest := by
        simp [staysOpen]
      rw [flag, ih]
      exact ((passes_escape apart c).never rest).symm
  | case5 c rest inside plain ih =>
      have flag : staysOpen quote false (c :: rest) = staysOpen quote false rest := by
        simp [staysOpen, inside, plain]
      rw [flag, ih]
      exact ((passes_plain inside plain).never rest).symm

theorem Extent.staysOpen {body written : List Char} {isOpen : Bool} (apart : quote ≠ '\\')
    (extent : Extent quote body written isOpen) : staysOpen quote false written = isOpen := by
  cases extent with
  | @closed inner first =>
      have ends : EndsAt quote (inner ++ [quote]) inner :=
        ⟨first.ends.unescaped, List.prefix_refl _⟩
      rw [Bool.eq_false_iff, ne_eq, staysOpen_iff apart]
      exact fun never => never inner ends
  | unclosed never => exact (staysOpen_iff apart body).mpr never

/-- A piece that starts with a quote is the string opened there, and shows whether it is left
open. -/
theorem piece_extent (opens : quote = '"' ∨ quote = '\x27') (body : List Char) :
    Extent quote body (body.take (tail vocabulary quote body))
      (leavesQuoteOpen (String.ofList (quote :: body.take (tail vocabulary quote body)))) := by
  have apart := quote_not_backslash opens
  have quotes : isQuote quote = true := by simpa [isQuote] using opens
  obtain ⟨isOpen, extent⟩ := quotedTail_extent apart body
  have leaves : leavesQuoteOpen (String.ofList (quote :: body.take (quotedTail quote body))) =
      isOpen := by
    simp [leavesQuoteOpen, quotes, extent.staysOpen apart]
  rw [tail_quote quotes, leaves]
  exact extent

theorem Holds.extent {piece rest : String} {written : List Char}
    (holds : Holds vocabulary piece rest) (chars : piece.toList = quote :: written)
    (opens : quote = '"' ∨ quote = '\x27') :
    Extent quote (written ++ rest.toList) written (leavesQuoteOpen piece) := by
  obtain ⟨_, _, same, -, whole⟩ := holds
  cases chars.symm.trans same
  have extent := @piece_extent quote vocabulary opens (written ++ rest.toList)
  rwa [whole, List.take_left, ← chars, String.ofList_toList] at extent

end Lexer

/-- The lexer and a look at the piece alone agree on where a string ends and on whether it is left
open, for the string that a text starts with and for each other one in the text. A piece that does
not start with a quote leaves none open. -/
theorem open_strings_exact (vocabulary : List String) (text : String) :
    (∀ quote body, text.toList = quote :: body → quote = '"' ∨ quote = '\x27' →
      ∃ first others written, lexemes vocabulary text = first :: others ∧ first.start = 0 ∧
        first.source.toList = quote :: written ∧
        Extent quote body written (leavesQuoteOpen first.source)) ∧
    (∀ lexeme ∈ lexemes vocabulary text, ∀ quote written,
      lexeme.source.toList = quote :: written → quote = '"' ∨ quote = '\x27' →
        Extent quote (written ++ (after text lexeme.stop).toList) written
          (leavesQuoteOpen lexeme.source)) ∧
    ∀ source : String, (∀ c ∈ source.toList.head?, c ≠ '"' ∧ c ≠ '\x27') →
      leavesQuoteOpen source = false := by
  refine ⟨?_, ?_, ?_⟩
  · intro quote body chars opens
    have visible : isBlank quote = false := by
      rcases opens with rfl | rfl <;> decide
    rw [lexemes, chars, scan_piece _ _ visible]
    exact ⟨_, _, _, rfl, rfl, String.toList_ofList, piece_extent opens body⟩
  · intro lexeme listed quote written chars opens
    exact (scan_holds [] text.toList lexeme listed).2.extent chars opens
  · intro source unquoted
    cases chars : source.toList with
    | nil => simp [leavesQuoteOpen, chars]
    | cons c cs =>
        have plain := unquoted c (by simp [chars])
        simp [leavesQuoteOpen, chars, isQuote, plain]

/-! An escaped quote, the other kind of quote and an escaped backslash stand before the quote that
ends the first string. The second string ends in a backslash that has nothing behind it. -/

def escapedText : String := "\"a\\\"\x27\\\\\" \x27\\"

theorem escapedText_lexemes : lexemes [] escapedText =
    [⟨.identifier "a\"\x27\\", 0, "\"a\\\"\x27\\\\\""⟩, ⟨.identifier "", 9, "\x27\\"⟩] := by
  decide +kernel

theorem open_strings_exact_escaped :
    Extent '"' "a\\\"\x27\\\\\" \x27\\".toList "a\\\"\x27\\\\\"".toList false ∧
      Extent '\x27' ['\\'] ['\\'] true ∧ leavesQuoteOpen ")" = false := by
  obtain ⟨starts, each, bare⟩ := open_strings_exact [] escapedText
  refine ⟨?_, ?_, bare ")" (by simp)⟩
  · obtain ⟨first, others, written, read, -, chars, extent⟩ := starts '"' _ rfl (.inl rfl)
    rw [escapedText_lexemes] at read
    cases read
    cases chars
    exact extent
  · exact each ⟨.identifier "", 9, "\x27\\"⟩ (by simp [escapedText_lexemes]) '\x27' ['\\'] rfl
      (.inr rfl)

end Sift
