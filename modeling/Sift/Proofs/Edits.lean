import Sift.Text.EditDistance

/-!
The edit distance is what it says: the least number of single characters to insert, delete or
replace on the way from one text to another. The rows are compared with a recursion on the last
characters of the two texts, and the recursion with chains of edits: it tells the length of one
chain, and an edit changes what it tells by one at most.
-/

namespace Sift.Text

/-- One character is inserted, deleted or replaced. -/
inductive Edit : List Char → List Char → Prop where
  | insert (front back : List Char) (c : Char) : Edit (front ++ back) (front ++ c :: back)
  | delete (front back : List Char) (c : Char) : Edit (front ++ c :: back) (front ++ back)
  | replace (front back : List Char) (c d : Char) :
      Edit (front ++ c :: back) (front ++ d :: back)

/-- A number of edits, one after the other. -/
inductive Edits : Nat → List Char → List Char → Prop where
  | none (text : List Char) : Edits 0 text text
  | step {count : Nat} {text next last : List Char} (first : Edit text next)
      (rest : Edits count next last) : Edits (count + 1) text last

/-- The least number of edits between two texts. -/
structure LeastEdits (count : Nat) (text other : List Char) : Prop where
  reached : Edits count text other
  least : ∀ more, Edits more text other → count ≤ more

theorem Edit.cons {text next : List Char} (edit : Edit text next) (c : Char) :
    Edit (c :: text) (c :: next) := by
  cases edit with
  | insert front back d => exact .insert (c :: front) back d
  | delete front back d => exact .delete (c :: front) back d
  | replace front back d e => exact .replace (c :: front) back d e

theorem Edit.reverse {text next : List Char} (edit : Edit text next) :
    Edit text.reverse next.reverse := by
  cases edit with
  | insert front back c => simpa using Edit.insert back.reverse front.reverse c
  | delete front back c => simpa using Edit.delete back.reverse front.reverse c
  | replace front back c d => simpa using Edit.replace back.reverse front.reverse c d

theorem Edits.cons {count : Nat} {text last : List Char} (edits : Edits count text last)
    (c : Char) : Edits count (c :: text) (c :: last) := by
  induction edits with
  | none text => exact .none (c :: text)
  | step first rest ih => exact .step (first.cons c) ih

theorem Edits.reverse {count : Nat} {text last : List Char} (edits : Edits count text last) :
    Edits count text.reverse last.reverse := by
  induction edits with
  | none text => exact .none text.reverse
  | step first rest ih => exact .step first.reverse ih

/-! The distance by recursion. Texts are given from their ends, since rows grow there. -/

def endDistance : List Char → List Char → Nat
  | [], ys => ys.length
  | x :: xs, [] => xs.length + 1
  | x :: xs, y :: ys =>
      min (min (endDistance (x :: xs) ys + 1) (endDistance xs (y :: ys) + 1))
        (if x = y then endDistance xs ys else endDistance xs ys + 1)

theorem endDistance_nil_right (xs : List Char) : endDistance xs [] = xs.length := by
  cases xs <;> simp [endDistance]

theorem endDistance_cons (x y : Char) (xs ys : List Char) :
    endDistance (x :: xs) (y :: ys) =
      min (min (endDistance (x :: xs) ys + 1) (endDistance xs (y :: ys) + 1))
        (if x = y then endDistance xs ys else endDistance xs ys + 1) := by
  rw [endDistance]

/-! The recursion tells the length of a chain of edits. -/

theorem insert_edits (ys : List Char) : Edits ys.length [] ys := by
  induction ys with
  | nil => exact .none []
  | cons y ys ih => exact .step (.insert [] [] y) (ih.cons y)

theorem delete_edits (xs : List Char) : Edits xs.length xs [] := by
  induction xs with
  | nil => exact .none []
  | cons x xs ih => exact .step (.delete [] xs x) ih

theorem Edits.min {left right : Nat} {text last : List Char} (first : Edits left text last)
    (second : Edits right text last) : Edits (min left right) text last := by
  rcases Nat.le_total left right with less | less
  · rwa [Nat.min_eq_left less]
  · rwa [Nat.min_eq_right less]

theorem endDistance_edits (xs ys : List Char) : Edits (endDistance xs ys) xs ys := by
  fun_induction endDistance xs ys with
  | case1 ys => exact insert_edits ys
  | case2 x xs => exact delete_edits (x :: xs)
  | case3 x xs y ys inserted deleted kept =>
      have replaced : Edits (if x = y then endDistance xs ys else endDistance xs ys + 1) (x :: xs)
          (y :: ys) := by
        split
        next same => exact same ▸ kept.cons x
        next => exact .step (.replace [] xs x y) (kept.cons y)
      exact .min (.min (.step (.insert [] (x :: xs) y) (inserted.cons y))
        (.step (.delete [] xs x) deleted)) replaced

/-! An edit changes what the recursion tells by one at most. -/

theorem endDistance_cons_left (x : Char) (xs ys : List Char) :
    endDistance (x :: xs) ys ≤ endDistance xs ys + 1 := by
  cases ys with
  | nil => simp [endDistance_nil_right]
  | cons y ys =>
      rw [endDistance_cons]
      omega

theorem endDistance_cons_right (xs : List Char) (y : Char) (ys : List Char) :
    endDistance xs (y :: ys) ≤ endDistance xs ys + 1 := by
  cases xs with
  | nil => simp [endDistance]
  | cons x xs =>
      rw [endDistance_cons]
      omega

theorem endDistance_replace (x y : Char) (xs ys : List Char) :
    endDistance (x :: xs) (y :: ys) ≤ endDistance xs ys + 1 := by
  rw [endDistance_cons]
  split <;> omega

theorem endDistance_head_le {text next : List Char} (x : Char) (ys : List Char)
    (below : ∀ ys, endDistance text ys ≤ endDistance next ys + 1) :
    endDistance (x :: text) ys ≤ endDistance (x :: next) ys + 1 := by
  induction ys with
  | nil => simpa [endDistance_nil_right] using below []
  | cons y ys ih =>
      have tail := below ys
      have whole := below (y :: ys)
      rw [endDistance_cons, endDistance_cons]
      split <;> omega

theorem endDistance_insert (c : Char) (back ys : List Char) :
    endDistance back ys ≤ endDistance (c :: back) ys + 1 := by
  induction ys with
  | nil => simp [endDistance_nil_right]; omega
  | cons y ys ih =>
      have grown := endDistance_cons_right back y ys
      rw [endDistance_cons]
      split <;> omega

theorem endDistance_change (c d : Char) (back ys : List Char) :
    endDistance (c :: back) ys ≤ endDistance (d :: back) ys + 1 := by
  induction ys with
  | nil => simp [endDistance_nil_right]
  | cons y ys ih =>
      have grown := endDistance_cons_right (c :: back) y ys
      have shrunk := endDistance_cons_left c back (y :: ys)
      have replaced := endDistance_replace c y back ys
      rw [endDistance_cons d]
      split <;> omega

theorem Edit.endDistance_le {text next : List Char} (edit : Edit text next) (ys : List Char) :
    endDistance text ys ≤ endDistance next ys + 1 := by
  cases edit with
  | insert front back c =>
      induction front generalizing ys with
      | nil => exact endDistance_insert c back ys
      | cons x front ih => exact endDistance_head_le x ys ih
  | delete front back c =>
      induction front generalizing ys with
      | nil => exact endDistance_cons_left c back ys
      | cons x front ih => exact endDistance_head_le x ys ih
  | replace front back c d =>
      induction front generalizing ys with
      | nil => exact endDistance_change c d back ys
      | cons x front ih => exact endDistance_head_le x ys ih

theorem endDistance_self (text : List Char) : endDistance text text = 0 := by
  induction text with
  | nil => exact endDistance_nil_right []
  | cons c text ih =>
      rw [endDistance_cons, if_pos rfl, ih]
      exact Nat.min_zero _

theorem Edits.endDistance_le {count : Nat} {text last : List Char} (edits : Edits count text last) :
    endDistance text last ≤ count := by
  induction edits with
  | none text => exact Nat.le_of_eq (endDistance_self text)
  | step first rest ih => exact Nat.le_trans (first.endDistance_le _) (Nat.succ_le_succ ih)

/-! Rows. The row of a text holds its distances to the fronts of the other text. -/

/-- The entries of a row behind the first one: `seen` is the front so far, from its end. -/
def entriesAfter (text seen : List Char) : List Char → List Nat
  | [] => []
  | d :: ds => endDistance text (d :: seen) :: entriesAfter text (d :: seen) ds

/-- The row of a text that is given from its end. -/
def rowOf (text target : List Char) : List Nat :=
  endDistance text [] :: entriesAfter text [] target

theorem editRow_entries (c : Char) (text seen target : List Char) :
    editRow c target (endDistance (c :: text) seen) (endDistance text seen)
      (entriesAfter text seen target) = entriesAfter (c :: text) seen target := by
  induction target generalizing seen with
  | nil => rfl
  | cons d target ih =>
      rw [entriesAfter, entriesAfter, editRow, ← endDistance_cons, ih]

theorem nextEditRow_row (c : Char) (text target : List Char) :
    nextEditRow target (rowOf text target) c = rowOf (c :: text) target := by
  have first : endDistance text [] + 1 = endDistance (c :: text) [] := by
    simp [endDistance_nil_right]
  rw [rowOf, nextEditRow]
  simp only [first, editRow_entries, rowOf]

theorem foldl_row (source text target : List Char) :
    source.foldl (nextEditRow target) (rowOf text target) =
      rowOf (source.reverse ++ text) target := by
  induction source generalizing text with
  | nil => rfl
  | cons c source ih => simp [nextEditRow_row, ih]

theorem entriesAfter_nil (seen target : List Char) :
    entriesAfter [] seen target = List.range' (seen.length + 1) target.length := by
  induction target generalizing seen with
  | nil => rfl
  | cons d target ih => simp [entriesAfter, endDistance, ih, List.range'_succ]

theorem rowOf_nil (target : List Char) : rowOf [] target = List.range (target.length + 1) := by
  simp [rowOf, entriesAfter_nil, endDistance, List.range_eq_range', List.range'_succ]

theorem row_last (text seen target : List Char) :
    (endDistance text seen :: entriesAfter text seen target).getLastD 0 =
      endDistance text (target.reverse ++ seen) := by
  induction target generalizing seen with
  | nil => rfl
  | cons d target ih =>
      have later := ih (d :: seen)
      simpa [entriesAfter] using later

theorem editDistance_eq (source target : List Char) :
    editDistance source target = endDistance source.reverse target.reverse := by
  have last := row_last source.reverse [] target
  rw [editDistance, ← rowOf_nil, foldl_row, List.append_nil, rowOf, last, List.append_nil]

/-- The distance that is computed row by row is the least number of edits. -/
theorem editDistance_least (source target : List Char) :
    LeastEdits (editDistance source target) source target := by
  rw [editDistance_eq]
  constructor
  · simpa using (endDistance_edits source.reverse target.reverse).reverse
  · intro more edits
    exact edits.reverse.endDistance_le

end Sift.Text
