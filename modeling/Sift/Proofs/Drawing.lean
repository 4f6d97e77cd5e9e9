import Sift.Proofs.Gluing
import Sift.Proofs.Punctuation
import Sift.Report.Query

/-!
Drawn trees. A tree is drawn one node a line: strokes that say where the node hangs, then its
label, which is the canonical text of a predicate or a connective. The strokes of a line are told
from its label, since no label starts with strokes, and labels are told from each other. So the
drawing can be taken apart again. What is drawn below a node are the lines that follow it as long as
they go on with its indent, and there is one forest for each drawing, if no text breaks a line.
-/

namespace Sift

open Text Lexer

namespace Report

/-- The strokes in front of a child, the last one or another. -/
def elbow (last : Bool) : List Char :=
  (if last then "└── " else "├── ").toList

/-- The strokes in front of what is below a child. -/
def rail (last : Bool) : List Char :=
  (if last then "    " else "│   ").toList

def label : Expr → List Char
  | .leaf predicate => predicate.canonical.toList
  | .branch connective _ => connective.keyword.toList

mutual

/-- The lines of a node without their line breaks. -/
def lines (branch indent : List Char) : Expr → List (List Char)
  | .leaf predicate => [branch ++ label (.leaf predicate)]
  | .branch connective children =>
      (branch ++ label (.branch connective children)) :: linesBelow indent children

/-- The lines of the children of a node. -/
def linesBelow (indent : List Char) : List Expr → List (List Char)
  | [] => []
  | expr :: rest =>
      lines (indent ++ elbow rest.isEmpty) (indent ++ rail rest.isEmpty) expr ++
        linesBelow indent rest

end

theorem lines_eq (branch indent : List Char) (expr : Expr) :
    lines branch indent expr = (branch ++ label expr) :: linesBelow indent expr.children := by
  cases expr <;> simp [lines, linesBelow, Expr.children]

/-- Lines as a text, each with a line break behind it. -/
def broken (lines : List (List Char)) : List Char :=
  lines.flatMap (· ++ ['\n'])

theorem broken_cons (line : List Char) (lines : List (List Char)) :
    broken (line :: lines) = line ++ '\n' :: broken lines := by
  simp [broken]

theorem broken_append (left right : List (List Char)) :
    broken (left ++ right) = broken left ++ broken right := by
  simp [broken]

mutual

theorem node_broken (branch indent : String) (expr : Expr) :
    (node false branch indent expr).toList =
      broken (lines branch.toList indent.toList expr) := by
  cases expr with
  | leaf predicate => simp [node, Style.paint, lines, label, broken]
  | branch connective children =>
      simp [node, Style.paint, lines, label, broken_cons, nodes_broken indent children]

theorem nodes_broken (indent : String) (exprs : List Expr) :
    (nodes false indent exprs).toList = broken (linesBelow indent.toList exprs) := by
  match exprs with
  | [] => rfl
  | [last] =>
      simp [nodes, linesBelow, elbow, rail, node_broken _ _ last]
  | first :: next :: rest =>
      simp [nodes, linesBelow, elbow, rail, broken_append, node_broken _ _ first,
        nodes_broken indent (next :: rest)]

end

/-! Lines and line breaks. -/

theorem line_unique {line other rest more : List Char} (whole : '\n' ∉ line)
    (unbroken : '\n' ∉ other) (same : line ++ '\n' :: rest = other ++ '\n' :: more) :
    line = other ∧ rest = more := by
  rcases split_at_char same with ⟨gap, rfl, later⟩ | ⟨inner, rfl⟩
  · cases gap with
    | nil => simpa using later
    | cons c gap =>
        cases later
        simp at unbroken
  · simp at whole

theorem broken_unique {left right : List (List Char)} (whole : ∀ line ∈ left, '\n' ∉ line)
    (unbroken : ∀ line ∈ right, '\n' ∉ line) (same : broken left = broken right) :
    left = right := by
  induction left generalizing right with
  | nil =>
      cases right with
      | nil => rfl
      | cons other right => simp [broken] at same
  | cons line left ih =>
      cases right with
      | nil => simp [broken] at same
      | cons other right =>
          rw [broken_cons, broken_cons] at same
          obtain ⟨first, others⟩ := List.forall_mem_cons.mp whole
          obtain ⟨second, more⟩ := List.forall_mem_cons.mp unbroken
          obtain ⟨rfl, later⟩ := line_unique first second same
          rw [ih others more later]

/-! Labels. -/

theorem predicate_texts (predicate : Predicate) :
    predicate.pieces.map (fun piece => (tokenOfSource [] piece).text) =
      predicate.category :: predicate.operator :: predicate.value.toList := by
  have said (category : Bool) (word : String) := (literal_word [] [] category word).2
  cases value : predicate.value <;>
    simp [Predicate.pieces, categoryLiteral, wordLiteral, said, value]

theorem canonical_injective {predicate other : Predicate}
    (same : predicate.canonical = other.canonical) : predicate = other := by
  have pieces : predicate.pieces = other.pieces := by
    have first := predicate_sources predicate (endsWord_nil [])
    have second := predicate_sources other (endsWord_nil [])
    rw [same, second] at first
    simpa [sources_nil] using first.symm
  have texts := congrArg (List.map fun piece => (tokenOfSource [] piece).text) pieces
  rw [predicate_texts, predicate_texts] at texts
  simp only [List.cons.injEq] at texts
  obtain ⟨category, operator, values⟩ := texts
  have value : predicate.value = other.value := by simpa using congrArg List.head? values
  cases predicate
  cases other
  simp_all

-- There is a space behind the category of a predicate, and none in a connective.
theorem canonical_keyword (predicate : Predicate) (connective : Connective) :
    predicate.canonical ≠ connective.keyword := by
  intro same
  have space : ' ' ∈ connective.keyword.toList := by
    rw [← same]
    simp [Predicate.canonical]
  cases connective <;> exact absurd space (by decide)

theorem label_unique {expr other : Expr} (same : label expr = label other) :
    (∃ predicate, expr = .leaf predicate ∧ other = .leaf predicate) ∨
      ∃ connective children more,
        expr = .branch connective children ∧ other = .branch connective more := by
  cases expr with
  | leaf predicate =>
      cases other with
      | leaf second =>
          obtain rfl := canonical_injective (String.toList_inj.mp same)
          exact .inl ⟨predicate, rfl, rfl⟩
      | branch connective more =>
          exact absurd (String.toList_inj.mp same) (canonical_keyword predicate connective)
  | branch connective children =>
      cases other with
      | leaf second =>
          exact absurd (String.toList_inj.mp same).symm (canonical_keyword second connective)
      | branch second more =>
          have equal : connective = second := by
            cases connective <;> cases second <;> first | rfl | cases same
          exact .inr ⟨connective, children, more, rfl, equal ▸ rfl⟩

/-! Strokes. -/

theorem elbow_unique {last final : Bool} {left right : List Char}
    (same : elbow last ++ left = elbow final ++ right) : last = final ∧ left = right := by
  cases last <;> cases final <;> simp_all [elbow]

theorem elbow_rail (last final : Bool) (left right : List Char) :
    elbow last ++ left ≠ rail final ++ right := by
  cases last <;> cases final <;> simp [elbow, rail]

/-- The line is drawn below the indent: more strokes follow it. -/
def Inside (indent line : List Char) : Prop :=
  ∃ last more, line = indent ++ (elbow last ++ more) ∨ line = indent ++ (rail last ++ more)

/-- The lines, if there are any, go on outside of what is drawn below the indent. -/
def Outside (indent : List Char) (lines : List (List Char)) : Prop :=
  ∀ line ∈ lines.head?, ¬ Inside indent line

theorem Outside.deeper {indent : List Char} {rest : List (List Char)}
    (outside : Outside indent rest) (last : Bool) : Outside (indent ++ rail last) rest := by
  rintro line first ⟨final, more, same⟩
  apply outside line first
  simp only [List.append_assoc] at same
  rcases same with same | same
  · exact ⟨last, _, .inr same⟩
  · exact ⟨last, _, .inr same⟩

theorem below_outside {indent : List Char} {rest : List (List Char)} (exprs : List Expr)
    (outside : Outside indent rest) (last : Bool) :
    Outside (indent ++ rail last) (linesBelow indent exprs ++ rest) := by
  cases exprs with
  | nil => exact outside.deeper last
  | cons expr exprs =>
      rintro line first ⟨final, more, same⟩
      rw [linesBelow, lines_eq] at first
      simp only [List.cons_append, List.head?_cons, Option.mem_def, Option.some.injEq] at first
      subst first
      simp only [List.append_assoc, List.append_cancel_left_eq] at same
      rcases same with same | same
      · exact elbow_rail _ _ _ _ same
      · exact elbow_rail _ _ _ _ same

theorem below_inside (indent : List Char) (expr : Expr) (exprs : List Expr)
    (rest : List (List Char)) : ¬ Outside indent (linesBelow indent (expr :: exprs) ++ rest) := by
  intro outside
  rw [linesBelow, lines_eq] at outside
  exact outside _ rfl ⟨_, _, .inl (List.append_assoc _ _ _)⟩

/-! Trees from lines. -/

/-- The lines of the expression are the lines of no other one, whatever follows outside of them. -/
def Determined (expr : Expr) : Prop :=
  ∀ (other : Expr) (branch indent : List Char) (rest more : List (List Char)),
    Outside indent rest → Outside indent more →
    lines branch indent expr ++ rest = lines branch indent other ++ more →
    expr = other ∧ rest = more

-- The strokes of the first child tell whether it is the last one, and its indent with it.
theorem below_unique {exprs others : List Expr} {indent : List Char} {rest more : List (List Char)}
    (each : ∀ expr ∈ exprs, Determined expr) (outside : Outside indent rest)
    (beyond : Outside indent more)
    (same : linesBelow indent exprs ++ rest = linesBelow indent others ++ more) :
    exprs = others ∧ rest = more := by
  induction exprs generalizing others with
  | nil =>
      cases others with
      | nil => exact ⟨rfl, same⟩
      | cons other others =>
          have drawn : rest = linesBelow indent (other :: others) ++ more := same
          exact absurd (drawn ▸ outside) (below_inside indent other others more)
  | cons expr exprs ih =>
      cases others with
      | nil =>
          have drawn : more = linesBelow indent (expr :: exprs) ++ rest := same.symm
          exact absurd (drawn ▸ beyond) (below_inside indent expr exprs rest)
      | cons other others =>
          obtain ⟨first, later⟩ := List.forall_mem_cons.mp each
          have heads := congrArg List.head? same
          simp only [linesBelow, lines_eq, List.cons_append, List.head?_cons, Option.some.injEq,
            List.append_assoc, List.append_cancel_left_eq] at heads
          obtain ⟨last, -⟩ := elbow_unique heads
          simp only [linesBelow, last, List.append_assoc] at same
          obtain ⟨rfl, onward⟩ := first _ _ _ _ _ (below_outside exprs outside _)
            (below_outside others beyond _) same
          obtain ⟨rfl, rest⟩ := ih later onward
          exact ⟨rfl, rest⟩

theorem lines_split {expr other : Expr} {branch indent : List Char} {rest more : List (List Char)}
    (same : lines branch indent expr ++ rest = lines branch indent other ++ more) :
    label expr = label other ∧
      linesBelow indent expr.children ++ rest = linesBelow indent other.children ++ more := by
  rwa [lines_eq, lines_eq, List.cons_append, List.cons_append, List.cons.injEq,
    List.append_cancel_left_eq] at same

theorem determined (expr : Expr) : Determined expr := by
  induction expr using Expr.children_induction with
  | leaf predicate =>
      intro other branch indent rest more outside beyond same
      obtain ⟨labels, below⟩ := lines_split same
      rcases label_unique labels with ⟨_, equal, rfl⟩ | ⟨_, _, _, impossible, -⟩
      · exact ⟨equal, below⟩
      · cases impossible
  | branch connective children ih =>
      intro other branch indent rest more outside beyond same
      obtain ⟨labels, below⟩ := lines_split same
      rcases label_unique labels with ⟨_, impossible, -⟩ | ⟨_, _, _, equal, rfl⟩
      · cases impossible
      · cases equal
        obtain ⟨rfl, rest⟩ := below_unique ih outside beyond below
        exact ⟨rfl, rest⟩

/-! Roots have no strokes, and their labels do not look like strokes either. -/

theorem canonical_unstroked (predicate : Predicate) (c : Char) (cs more : List Char)
    (reads : ReadsWhole [] c cs)
    (symbolic : tokenOfSource [] (String.ofList (c :: cs)) = .operator (String.ofList (c :: cs))) :
    predicate.canonical.toList ≠ c :: cs ++ ' ' :: more := by
  intro same
  have whole := predicate_sources predicate (endsWord_nil [])
  rw [List.append_nil, same, sources_word reads (endsWord_space more), Predicate.pieces] at whole
  have named := (literal_category [] [] predicate.category).mpr (by simp)
  rw [← categoryLiteral, ← (List.cons.inj whole).1, symbolic] at named
  cases named

theorem canonical_visible (predicate : Predicate) (more : List Char) :
    predicate.canonical.toList ≠ ' ' :: more := by
  intro same
  obtain ⟨c, cs, chars, visible⟩ := (@settled_literal [] true predicate.category).chars
  rw [Predicate.canonical, categoryLiteral] at same
  simp only [String.toList_append, chars, List.cons_append, List.cons.injEq] at same
  rw [same.1] at visible
  exact absurd visible (by decide)

theorem label_outside (expr : Expr) : ¬ Inside [] (label expr) := by
  rintro ⟨last, more, same⟩
  cases expr with
  | leaf predicate =>
      rcases same with same | same <;> cases last
      · exact canonical_unstroked predicate '├' ['─', '─'] more (by decide +kernel)
          (by decide +kernel) same
      · exact canonical_unstroked predicate '└' ['─', '─'] more (by decide +kernel)
          (by decide +kernel) same
      · exact canonical_unstroked predicate '│' [] _ (by decide +kernel) (by decide +kernel) same
      · exact canonical_visible predicate _ same
  | branch connective children =>
      rcases same with same | same <;> cases last <;> cases connective <;>
        simp [label, elbow, rail, Connective.keyword] at same

theorem roots_outside (forest : Forest) : Outside [] (forest.flatMap (lines [] [])) := by
  cases forest with
  | nil => nofun
  | cons expr forest =>
      intro line first
      rw [List.flatMap_cons, lines_eq] at first
      cases first
      exact label_outside expr

theorem roots_unique {forest other : Forest}
    (same : forest.flatMap (lines [] []) = other.flatMap (lines [] [])) : forest = other := by
  induction forest generalizing other with
  | nil =>
      cases other with
      | nil => rfl
      | cons expr other => simp [lines_eq] at same
  | cons expr forest ih =>
      cases other with
      | nil => simp [lines_eq] at same
      | cons second other =>
          rw [List.flatMap_cons, List.flatMap_cons] at same
          obtain ⟨rfl, rest⟩ := determined expr second [] [] _ _ (roots_outside forest)
            (roots_outside other) same
          rw [ih rest]

end Report

/-! Texts that stay on one line. -/

/-- No text in the predicate breaks a line. -/
structure Predicate.OneLine (predicate : Predicate) : Prop where
  category : '\n' ∉ predicate.category.toList
  operator : '\n' ∉ predicate.operator.toList
  value : ∀ value ∈ predicate.value, '\n' ∉ value.toList

theorem Predicate.OneLine.lacks {predicate : Predicate} (oneLine : predicate.OneLine) :
    predicate.Lacks '\n' :=
  ⟨oneLine.category, oneLine.operator, oneLine.value⟩

theorem break_apart : '\n' ∉ Canonical.punctuation := by decide

/-- No text below the expression breaks a line. -/
def Expr.OneLine (expr : Expr) : Prop :=
  ∀ predicate ∈ expr.leaves, predicate.OneLine

theorem Expr.OneLine.child {connective : Connective} {children : List Expr} {child : Expr}
    (oneLine : (Expr.branch connective children).OneLine) (member : child ∈ children) :
    child.OneLine := by
  intro predicate listed
  apply oneLine
  rw [Expr.leaves, Expr.leavesList_eq]
  exact List.mem_flatMap_of_mem member listed

theorem forest_oneLine {forest : Forest} (oneLine : ∀ expr ∈ forest, expr.OneLine) :
    '\n' ∉ forest.canonical.toList := by
  apply forest_lacks break_apart
  intro predicate listed
  rw [Forest.leaves, Expr.leavesList_eq] at listed
  obtain ⟨expr, member, below⟩ := List.mem_flatMap.mp listed
  exact (oneLine expr member predicate below).lacks

namespace Report

theorem strokes_oneLine (last : Bool) : '\n' ∉ elbow last ∧ '\n' ∉ rail last := by
  cases last <;> decide

theorem below_oneLine {exprs : List Expr} {indent : List Char}
    (each : ∀ expr ∈ exprs, ∀ branch indent : List Char, '\n' ∉ branch → '\n' ∉ indent →
      ∀ line ∈ lines branch indent expr, '\n' ∉ line) (plain : '\n' ∉ indent) :
    ∀ line ∈ linesBelow indent exprs, '\n' ∉ line := by
  induction exprs with
  | nil => nofun
  | cons expr exprs ih =>
      obtain ⟨first, others⟩ := List.forall_mem_cons.mp each
      have strokes := strokes_oneLine exprs.isEmpty
      rw [linesBelow, List.forall_mem_append]
      refine ⟨first _ _ ?_ ?_, ih others⟩
      · simp [plain, strokes]
      · simp [plain, strokes]

theorem lines_oneLine {expr : Expr} (oneLine : expr.OneLine) (branch indent : List Char)
    (plain : '\n' ∉ branch) (bare : '\n' ∉ indent) :
    ∀ line ∈ lines branch indent expr, '\n' ∉ line := by
  induction expr using Expr.children_induction generalizing branch indent with
  | leaf predicate =>
      have text := (oneLine predicate (by simp [Expr.leaves])).lacks.canonical break_apart
      simp [lines, label, plain, text]
  | branch connective children ih =>
      rw [lines, List.forall_mem_cons]
      refine ⟨by simp [label, plain, keyword_lacks break_apart], below_oneLine ?_ bare⟩
      intro child member branch indent plain bare
      exact ih child member (oneLine.child member) branch indent plain bare

theorem tree_broken {forest : Forest} (nonempty : forest ≠ []) :
    (tree forest false).toList =
      forest.canonical.toList ++ '\n' :: '\n' :: broken (forest.flatMap (lines [] [])) := by
  simp [tree, nonempty, node_broken, broken, List.flatMap_map, List.flatMap_assoc]

theorem tree_nonempty {forest : Forest} (nonempty : forest ≠ [])
    (oneLine : ∀ expr ∈ forest, expr.OneLine) : tree forest false ≠ tree [] false := by
  intro same
  have texts := congrArg String.toList same
  have empty : (tree [] false).toList = "Empty query.".toList ++ '\n' :: [] := rfl
  rw [tree_broken nonempty, empty] at texts
  obtain ⟨-, rest⟩ := line_unique (forest_oneLine oneLine) (by decide) texts
  cases rest

theorem tree_unique {forest other : Forest} (oneLine : ∀ expr ∈ forest, expr.OneLine)
    (unbroken : ∀ expr ∈ other, expr.OneLine) (same : tree forest false = tree other false) :
    forest = other := by
  by_cases empty : forest = []
  · by_cases none : other = []
    · rw [empty, none]
    · exact absurd (empty ▸ same).symm (tree_nonempty none unbroken)
  · by_cases none : other = []
    · exact absurd (none ▸ same) (tree_nonempty empty oneLine)
    · have drawn {forest : Forest} (oneLine : ∀ expr ∈ forest, expr.OneLine) :
          ∀ line ∈ forest.flatMap (lines [] []), '\n' ∉ line := by
        intro line listed
        obtain ⟨expr, member, below⟩ := List.mem_flatMap.mp listed
        exact lines_oneLine (oneLine expr member) [] [] nofun nofun line below
      have texts := congrArg String.toList same
      rw [tree_broken empty, tree_broken none] at texts
      obtain ⟨-, rest⟩ := line_unique (forest_oneLine oneLine) (forest_oneLine unbroken) texts
      apply roots_unique
      exact broken_unique (drawn oneLine) (drawn unbroken) (List.cons.inj rest).2

end Report

open Report

/-- A drawing shows one forest only, as long as no text in it breaks a line. -/
theorem drawing_exact (forest other : Forest)
    (oneLine : ∀ predicate ∈ forest.leaves, predicate.OneLine)
    (unbroken : ∀ predicate ∈ other.leaves, predicate.OneLine) :
    tree forest false = tree other false ↔ forest = other := by
  have below {forest : Forest} (oneLine : ∀ predicate ∈ forest.leaves, predicate.OneLine) :
      ∀ expr ∈ forest, expr.OneLine := by
    intro expr member predicate listed
    apply oneLine
    rw [Forest.leaves, Expr.leavesList_eq]
    exact List.mem_flatMap_of_mem member listed
  constructor
  · exact tree_unique (below oneLine) (below unbroken)
  · rintro rfl
    rfl

/-! Two roots have the canonical text of one branch, and are drawn apart from it. A category of
strokes does not pass for strokes. -/

def strokedLeaves : List Expr :=
  [.leaf ⟨"├──", "==", some ""⟩, .leaf ⟨"│", "in", none⟩]

theorem drawing_exact_roots :
    (∀ predicate ∈ Forest.leaves strokedLeaves, predicate.OneLine) ∧
      Forest.canonical strokedLeaves = Forest.canonical [.branch .and strokedLeaves] ∧
      tree strokedLeaves false ≠ tree [.branch .and strokedLeaves] false := by
  have oneLine : ∀ predicate ∈ Forest.leaves strokedLeaves, predicate.OneLine := by
    intro predicate member
    have listed : predicate = ⟨"├──", "==", some ""⟩ ∨ predicate = ⟨"│", "in", none⟩ := by
      simpa [Forest.leaves, strokedLeaves, Expr.leavesList, Expr.leaves] using member
    rcases listed with rfl | rfl
    · exact ⟨by decide, by decide, by rintro _ ⟨⟩; decide⟩
    · exact ⟨by decide, by decide, by simp⟩
  have apart := drawing_exact strokedLeaves [.branch .and strokedLeaves] oneLine (by
    simpa [Forest.leaves, Expr.leavesList, Expr.leaves] using oneLine)
  exact ⟨oneLine, forest_canonical _ _ _, mt apart.mp (by decide)⟩

end Sift
