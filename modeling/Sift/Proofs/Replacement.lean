import Sift.Proofs.Typing

/-!
What a completion replaces. Wherever the cursor is set, only the text before it counts: the longest
part of the front that does not reach past the cursor. The completion replaces the last lexeme of
that part, or nothing, so both ends of what is replaced lie between two characters, and it shows
what that lexeme says.
-/

namespace Sift

open Text Lexer Completion

/-- A byte offset at which the text can be cut. -/
def IsBoundary (text : String) (offset : Nat) : Prop :=
  ∃ front rest, text = front ++ rest ∧ front.utf8ByteSize = offset

/-- The part of a text before the cursor ends at the last boundary that is not behind it. -/
structure StandsBefore (text : String) (cursor : Nat) (front : String) : Prop where
  begins : ∃ rest, text = front ++ rest
  fits : front.utf8ByteSize ≤ cursor
  longest : ∀ offset, IsBoundary text offset → offset ≤ cursor → offset ≤ front.utf8ByteSize

namespace Text

theorem size_le_takeBytes (limit : Nat) (left right : List Char) (fits : size left ≤ limit) :
    size left ≤ size (takeBytes limit (left ++ right)) := by
  induction left generalizing limit with
  | nil => exact Nat.zero_le _
  | cons c left ih =>
      rw [size] at fits
      have inside : c.utf8Size ≤ limit := by omega
      have rest := ih (limit - c.utf8Size) (by omega)
      rw [List.cons_append, takeBytes, if_pos inside, size, size]
      omega

theorem before_stands (text : String) (cursor : Nat) :
    StandsBefore text cursor (before text cursor) where
  begins := by
    refine ⟨after text cursor, ?_⟩
    rw [before, after, ← String.ofList_append, takeBytes_append_dropBytes, String.ofList_toList]
  fits := by
    rw [before, size_ofList]
    exact size_takeBytes_le cursor text.toList
  longest := by
    rintro offset ⟨front, rest, rfl, rfl⟩ fits
    rw [before, size_ofList, String.toList_append, ← size_toList front]
    exact size_le_takeBytes _ _ _ (by rwa [size_toList])

end Text

theorem StandsBefore.boundary {text front : String} {cursor : Nat}
    (stands : StandsBefore text cursor front) : IsBoundary text front.utf8ByteSize := by
  obtain ⟨rest, whole⟩ := stands.begins
  exact ⟨front, rest, whole, rfl⟩

theorem front_unique {text front other rest rest' : String} (first : text = front ++ rest)
    (second : text = other ++ rest') (same : front.utf8ByteSize = other.utf8ByteSize) :
    front = other := by
  have chars : front.toList ++ rest.toList = other.toList ++ rest'.toList := by
    rw [← String.toList_append, ← String.toList_append, ← first, ← second]
  have left := takeBytes_append front.toList rest.toList
  rw [chars, size_toList, same, ← size_toList, takeBytes_append] at left
  exact String.toList_inj.mp left.symm

theorem StandsBefore.eq_before {text front : String} {cursor : Nat}
    (stands : StandsBefore text cursor front) : front = before text cursor := by
  have other := before_stands text cursor
  obtain ⟨rest, whole⟩ := stands.begins
  obtain ⟨rest', whole'⟩ := other.begins
  apply front_unique whole whole'
  apply Nat.le_antisymm
  · exact other.longest _ stands.boundary stands.fits
  · exact stands.longest _ other.boundary other.fits

theorem StandsBefore.own_size (front : String) :
    StandsBefore front front.utf8ByteSize front := by
  have stands := before_stands front front.utf8ByteSize
  rwa [before_size] at stands

/-- What a completion replaces, and what it shows of it: nothing at all, or the last lexeme before
the cursor. Of a name or a string it shows what it says, of anything else what is written. -/
inductive Replaces (vocabulary : List String) (text front : String) (completion : Completion) :
    Prop where
  | nothing (empty : completion.start = completion.stop) (untyped : completion.typed = "")
  | name {earlier : List Lexeme} {last : Lexeme} {content : String}
      (read : lexemes vocabulary front = earlier ++ [last])
      (start : completion.start = last.start) (forward : completion.start < completion.stop)
      (slice : IsSlice text completion.start completion.stop last.source)
      (means : Means vocabulary (last.stop = front.utf8ByteSize) last.source (.identifier content))
      (typed : completion.typed = content)
  | other {earlier : List Lexeme} {last : Lexeme}
      (read : lexemes vocabulary front = earlier ++ [last])
      (start : completion.start = last.start) (forward : completion.start < completion.stop)
      (slice : IsSlice text completion.start completion.stop last.source)
      (unnamed : ∀ content, last.token ≠ .identifier content)
      (typed : completion.typed = last.source)

/-! Pieces of a text. -/

theorem lexemes_slice (vocabulary : List String) (text : String) :
    ∀ lexeme ∈ lexemes vocabulary text, IsSlice text lexeme.start lexeme.stop lexeme.source := by
  intro lexeme listed
  obtain ⟨-, before, after, whole, offset⟩ :=
    (lexemes_covers vocabulary text).slice lexeme listed
  exact lexeme_slice whole (by rw [offset, Nat.zero_add])

theorem lexemes_mean (vocabulary : List String) (text : String) :
    ∀ lexeme ∈ lexemes vocabulary text,
      Means vocabulary (lexeme.stop = text.utf8ByteSize) lexeme.source lexeme.token := by
  intro lexeme listed
  have means := scan_means 0 text.toList lexeme listed
  rwa [Nat.zero_add, size_toList] at means

theorem IsSlice.append {text source : String} {start stop : Nat}
    (slice : IsSlice text start stop source) (rest : String) :
    IsSlice (text ++ rest) start stop source := by
  obtain ⟨before, after, rfl, first, second⟩ := slice
  exact ⟨before, after ++ rest, by rw [String.append_assoc], first, second⟩

theorem IsSlice.boundary {text source : String} {start stop : Nat}
    (slice : IsSlice text start stop source) : IsBoundary text start := by
  obtain ⟨before, after, rfl, rfl, -⟩ := slice
  exact ⟨before, source ++ after, String.append_assoc, rfl⟩

theorem Replaces.start_le {vocabulary : List String} {text front : String} {completion : Completion}
    (replaces : Replaces vocabulary text front completion) :
    completion.start ≤ completion.stop := by
  cases replaces with
  | nothing empty => exact Nat.le_of_eq empty
  | name read start forward => exact Nat.le_of_lt forward
  | other read start forward => exact Nat.le_of_lt forward

theorem Replaces.boundary {vocabulary : List String} {text front : String} {completion : Completion}
    (replaces : Replaces vocabulary text front completion)
    (ends : IsBoundary text completion.stop) : IsBoundary text completion.start := by
  cases replaces with
  | nothing empty =>
      rw [empty]
      exact ends
  | name read start forward slice => exact slice.boundary
  | other read start forward slice => exact slice.boundary

namespace Catalog

variable {catalog : Catalog} {text other : String} {cursor place : Nat}

theorem complete_congr (same : before text cursor = before other place) :
    catalog.complete text cursor = catalog.complete other place := by
  simp only [complete, same]

theorem complete_idle {front : String} (same : front = before text cursor)
    (split : splitTyped front (lexemes catalog.vocabulary front) =
      (lexemes catalog.vocabulary front, none)) :
    (catalog.complete text cursor).start = (catalog.complete text cursor).stop ∧
      (catalog.complete text cursor).typed = "" := by
  simp only [complete, ← same, split, Option.map_none, Option.getD_none, and_self]

theorem complete_typed {front : String} {earlier : List Lexeme} {last : Lexeme}
    (same : front = before text cursor)
    (split : splitTyped front (lexemes catalog.vocabulary front) = (earlier, some last)) :
    (catalog.complete text cursor).start = last.start ∧
      (catalog.complete text cursor).typed = typedText last := by
  simp only [complete, ← same, split, Option.map_some, Option.getD_some, and_self]

theorem complete_stop {front : String} (same : front = before text cursor) :
    (catalog.complete text cursor).stop = front.utf8ByteSize := by
  simp only [complete, ← same]

theorem complete_replaces {front : String} (stands : StandsBefore text cursor front) :
    Replaces catalog.vocabulary text front (catalog.complete text cursor) := by
  have same := stands.eq_before
  rcases splitTyped_cases front (lexemes catalog.vocabulary front) with
    ⟨earlier, last, read, typing, split⟩ | ⟨-, split⟩
  · obtain ⟨start, typed⟩ := complete_typed same split
    have listed : last ∈ lexemes catalog.vocabulary front := by simp [read]
    have ends : last.stop = (catalog.complete text cursor).stop := by
      rw [complete_stop same]
      simp only [isBeingTyped, Bool.and_eq_true, decide_eq_true_eq] at typing
      exact typing.1.1.1
    obtain ⟨rest, whole⟩ := stands.begins
    have slice : IsSlice text (catalog.complete text cursor).start
        (catalog.complete text cursor).stop last.source := by
      rw [start, ← ends, whole]
      exact (lexemes_slice catalog.vocabulary front last listed).append rest
    have forward : (catalog.complete text cursor).start < (catalog.complete text cursor).stop := by
      rw [start, ← ends]
      exact ((lexemes_covers catalog.vocabulary front).stop_le last listed).1
    cases kind : last.token with
    | identifier content =>
        have means := lexemes_mean catalog.vocabulary front last listed
        rw [kind] at means
        exact .name read start forward slice means (by rw [typed, typedText, kind])
    | operator text | openParen | closeParen | conjunction connective =>
        exact .other read start forward slice (by simp [kind]) (by rw [typed, typedText, kind])
  · obtain ⟨empty, untyped⟩ := complete_idle same split
    exact .nothing empty untyped

end Catalog

open Catalog

/-- Wherever the cursor is, a completion looks at the text before it only. It replaces the last
lexeme of that text or nothing, from one boundary to another, and shows what it replaces. -/
theorem completion_range_exact (catalog : Catalog) (text : String) (cursor : Nat) :
    ∃ front, StandsBefore text cursor front ∧
      (catalog.complete text cursor).stop = front.utf8ByteSize ∧
      (catalog.complete text cursor).start ≤ (catalog.complete text cursor).stop ∧
      IsBoundary text (catalog.complete text cursor).start ∧
      IsBoundary text (catalog.complete text cursor).stop ∧
      Replaces catalog.vocabulary text front (catalog.complete text cursor) ∧
      catalog.complete front front.utf8ByteSize = catalog.complete text cursor ∧
      ∀ other place, StandsBefore other place front →
        catalog.complete other place = catalog.complete text cursor := by
  have stands := before_stands text cursor
  have stop : (catalog.complete text cursor).stop = (before text cursor).utf8ByteSize :=
    complete_stop rfl
  have replaces : Replaces catalog.vocabulary text _ (catalog.complete text cursor) :=
    complete_replaces stands
  have ends : IsBoundary text (catalog.complete text cursor).stop := by
    rw [stop]
    exact stands.boundary
  have alike {other : String} {place : Nat}
      (other_stands : StandsBefore other place (before text cursor)) :
      catalog.complete other place = catalog.complete text cursor :=
    complete_congr other_stands.eq_before.symm
  exact ⟨_, stands, stop, replaces.start_le, replaces.boundary ends, ends, replaces,
    alike (.own_size _), fun _ _ => alike⟩

end Sift
