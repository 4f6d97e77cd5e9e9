/-!
Byte offsets into a text. Positions count the bytes of the UTF-8 form, but a text is only
ever cut between characters: an offset inside a character counts as the start of it, one past
the end as the end.
-/

namespace Sift.Text

/-- The number of bytes of a text. -/
def size : List Char → Nat
  | [] => 0
  | c :: cs => c.utf8Size + size cs

@[simp] theorem size_append (left right : List Char) :
    size (left ++ right) = size left + size right := by
  induction left with
  | nil => simp [size]
  | cons c cs ih => simp [size, ih, Nat.add_assoc]

theorem size_ofList (cs : List Char) : (String.ofList cs).utf8ByteSize = size cs := by
  induction cs with
  | nil => simp [size]
  | cons c cs ih =>
      have split : String.ofList (c :: cs) = String.ofList [c] ++ String.ofList cs := by
        rw [← String.ofList_append]
        rfl
      have single : (String.ofList [c]).utf8ByteSize = c.utf8Size := by
        rw [← String.singleton_eq_ofList, String.utf8ByteSize_singleton]
      rw [split, String.utf8ByteSize_append, single, ih, size]

/-- The bytes of a text are those of its characters. -/
theorem size_toList (text : String) : size text.toList = text.utf8ByteSize := by
  rw [← size_ofList, String.ofList_toList]

/-- The longest part of the front that has at most `limit` bytes. -/
def takeBytes : Nat → List Char → List Char
  | _, [] => []
  | limit, c :: cs =>
      if c.utf8Size ≤ limit then c :: takeBytes (limit - c.utf8Size) cs else []

/-- What `takeBytes` leaves. -/
def dropBytes : Nat → List Char → List Char
  | _, [] => []
  | limit, c :: cs =>
      if c.utf8Size ≤ limit then dropBytes (limit - c.utf8Size) cs else c :: cs

theorem takeBytes_append_dropBytes (limit : Nat) (cs : List Char) :
    takeBytes limit cs ++ dropBytes limit cs = cs := by
  induction cs generalizing limit with
  | nil => rfl
  | cons c cs ih =>
      simp only [takeBytes, dropBytes]
      split <;> simp [ih]

theorem size_takeBytes_le (limit : Nat) (cs : List Char) : size (takeBytes limit cs) ≤ limit := by
  induction cs generalizing limit with
  | nil => simp [takeBytes, size]
  | cons c cs ih =>
      simp only [takeBytes]
      split
      next fits =>
        have := ih (limit - c.utf8Size)
        simp only [size]
        omega
      next => simp [size]

theorem takeBytes_size (cs : List Char) : takeBytes (size cs) cs = cs := by
  induction cs with
  | nil => rfl
  | cons c cs ih => simp [takeBytes, size, ih]

theorem dropBytes_size (cs : List Char) : dropBytes (size cs) cs = [] := by
  have split := takeBytes_append_dropBytes (size cs) cs
  rw [takeBytes_size] at split
  exact List.append_right_eq_self.1 split

/-- The text before a byte offset. -/
def before (text : String) (offset : Nat) : String :=
  String.ofList (takeBytes offset text.toList)

/-- The text from a byte offset on. -/
def after (text : String) (offset : Nat) : String :=
  String.ofList (dropBytes offset text.toList)

theorem before_size (text : String) : before text text.utf8ByteSize = text := by
  rw [before, ← size_toList, takeBytes_size, String.ofList_toList]

theorem after_size (text : String) : after text text.utf8ByteSize = "" := by
  rw [after, ← size_toList, dropBytes_size, String.ofList_nil]

/-- The byte offset brought back to the nearest place at or before it where the text can be
cut. -/
def clamp (text : String) (offset : Nat) : Nat :=
  size (takeBytes offset text.toList)

end Sift.Text
