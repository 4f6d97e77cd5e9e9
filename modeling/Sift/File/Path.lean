/-!
Paths as text. A path is kept as it was written; only joining two paths and taking the parent of
one look at its parts. Slashes divide the parts, repeated slashes count as one, and a part
that is a single dot stands for nothing unless it comes first.
-/

namespace Sift.Path

def isAbsolute (path : String) : Bool :=
  path.toList.head? = some '/'

def endsInSlash (path : String) : Bool :=
  path.toList.getLast? = some '/'

/-- The path of `rest` seen from the directory `base`. -/
def join (base rest : String) : String :=
  if isAbsolute rest then rest
  else if base.isEmpty || endsInSlash base then base ++ rest
  else base ++ "/" ++ rest

/-- The parts between slashes, without empty ones. -/
def names (path : String) : List String :=
  ((path.toList.splitOnP (· = '/')).map String.ofList).filter (!·.isEmpty)

/-- How many characters at the front are no part of their own: the slash of an absolute path, or
the dot of a path that begins with one. -/
def frontLength : List Char → Nat
  | '/' :: _ => 1
  | ['.'] => 1
  | '.' :: '/' :: _ => 1
  | _ => 0

/-- The last part, without its slash, and what stands before it. -/
def splitLast (body : List Char) : List Char × List Char :=
  let last := (body.reverse.takeWhile (· ≠ '/')).reverse
  (body.take (body.length - last.length - 1), last)

/-- Whether a part stands for nothing. -/
def isVoid (part : List Char) : Bool :=
  part = [] || part = ['.']

/-- The body of a path without parts at its end that stand for nothing. -/
def trimBody : (fuel : Nat) → List Char → List Char
  | 0, body => body
  | fuel + 1, body =>
      let (before, last) := splitLast body
      if !body.isEmpty && isVoid last then trimBody fuel before else body

/-- The directory that a path stands in, as far as the text tells; there is none for the root
and for the empty path. -/
def parent? (path : String) : Option String :=
  let front := path.toList.take (frontLength path.toList)
  let body := trimBody path.length (path.toList.drop (frontLength path.toList))
  if !body.isEmpty then
    some (String.ofList (front ++ trimBody path.length (splitLast body).1))
  else if front = ['.'] then some ""
  else none

end Sift.Path
