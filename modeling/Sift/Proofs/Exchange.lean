import Sift.Proofs.Tree
import Sift.Query.Exchange

/-!
Expressions in exchange. What a JSON value stands for is said here without any reader: an object
that holds all parts of a predicate stands for that predicate, another one for a branch if it names
a connective and lists nothing but values that stand for expressions. Other members do not matter.

Reading finds exactly this. What is written for an expression stands for that expression, so it is
read back, whatever the shape of the tree.
-/

namespace Sift

/-- What the member `value` says. If it is absent or null there is no value. -/
inductive DenotesValue : Option Json → Option String → Prop where
  | absent : DenotesValue none none
  | null : DenotesValue (some .null) none
  | given (text : String) : DenotesValue (some (.string text)) (some text)

/-- The members hold all parts of the predicate. -/
structure DenotesPredicate (members : List (String × Json)) (predicate : Predicate) : Prop where
  category : members.lookup "category" = some (.string predicate.category)
  operator : members.lookup "operator" = some (.string predicate.operator)
  value : DenotesValue (members.lookup "value") predicate.value

mutual

/-- The JSON value stands for the expression. A branch may not hold the parts of a predicate. -/
inductive Denotes : Json → Expr → Prop where
  | leaf {members : List (String × Json)} {predicate : Predicate}
      (parts : DenotesPredicate members predicate) : Denotes (.object members) (.leaf predicate)
  | branch {members : List (String × Json)} {connective : Connective} {items : List Json}
      {children : List Expr} (other : ∀ predicate, ¬ DenotesPredicate members predicate)
      (joined : members.lookup "conditionType" = some (.string connective.keyword))
      (listed : members.lookup "expressions" = some (.array items))
      (each : DenotesAll items children) : Denotes (.object members) (.branch connective children)

/-- The JSON values stand for the expressions, one for one. -/
inductive DenotesAll : List Json → List Expr → Prop where
  | nil : DenotesAll [] []
  | cons {item : Json} {items : List Json} {expr : Expr} {exprs : List Expr}
      (first : Denotes item expr) (rest : DenotesAll items exprs) :
      DenotesAll (item :: items) (expr :: exprs)

end

/-! The parts of an object. -/

theorem valueOfJson_iff {member : Option Json} {value : Option String} :
    Predicate.valueOfJson? member = some value ↔ DenotesValue member value := by
  constructor
  · intro read
    unfold Predicate.valueOfJson? at read
    split at read
    next => cases read; exact .absent
    next => cases read; exact .null
    next text => cases read; exact .given text
    next => cases read
  · intro denotes
    cases denotes <;> rfl

theorem string_iff {json : Json} {text : String} :
    json.string? = some text ↔ json = .string text := by
  cases json <;> simp [Json.string?]

theorem ofMembers_iff {members : List (String × Json)} {predicate : Predicate} :
    Predicate.ofMembers? members = some predicate ↔ DenotesPredicate members predicate := by
  constructor
  · intro read
    simp only [Predicate.ofMembers?, Option.bind_eq_bind, Option.bind_eq_some_iff,
      string_iff] at read
    obtain ⟨_, category, _, rfl, _, operator, _, rfl, _, value, same⟩ := read
    cases same
    exact ⟨category, operator, valueOfJson_iff.mp value⟩
  · rintro ⟨category, operator, value⟩
    simp [Predicate.ofMembers?, category, operator, valueOfJson_iff.mpr value, Json.string?]

theorem ofExactKeyword_iff {word : String} {connective : Connective} :
    Connective.ofExactKeyword? word = some connective ↔ word = connective.keyword := by
  unfold Connective.ofExactKeyword?
  constructor
  · intro spelled
    split at spelled
    next same => cases spelled; exact same
    next =>
      split at spelled
      next same => cases spelled; exact same
      next => cases spelled
  · rintro rfl
    cases connective <;> rfl

theorem childrenOf_eq (members : List (String × Json)) :
    Expr.childrenOf? members =
      ((members.lookup "expressions").bind Json.array?).bind Expr.ofJsonList? := by
  induction members with
  | nil => rfl
  | cons member members ih =>
      obtain ⟨key, value⟩ := member
      by_cases same : key = "expressions"
      · subst same
        cases value <;> simp [Expr.childrenOf?, Json.array?]
      · have differs : ("expressions" == key) = false := by simpa using Ne.symm same
        cases value <;> simp [Expr.childrenOf?, same, List.lookup_cons, differs, ih]

theorem childrenOf_iff {members : List (String × Json)} {children : List Expr} :
    Expr.childrenOf? members = some children ↔
      ∃ items, members.lookup "expressions" = some (.array items) ∧
        Expr.ofJsonList? items = some children := by
  have array_iff (json : Json) (items : List Json) :
      json.array? = some items ↔ json = .array items := by
    cases json <;> simp [Json.array?]
  simp only [childrenOf_eq, Option.bind_eq_some_iff, array_iff, exists_eq_right]

/-! Reading. -/

theorem ofJson_leaf {json : Json} {predicate : Predicate} :
    Expr.ofJson? json = some (.leaf predicate) ↔
      ∃ members, json = .object members ∧ DenotesPredicate members predicate := by
  cases json with
  | object members =>
      cases read : Predicate.ofMembers? members with
      | some found => simp [Expr.ofJson?, read, ← ofMembers_iff]
      | none => simp [Expr.ofJson?, read, ← ofMembers_iff, Option.bind_eq_some_iff]
  | _ => simp [Expr.ofJson?]

theorem ofJson_branch {json : Json} {connective : Connective} {children : List Expr} :
    Expr.ofJson? json = some (.branch connective children) ↔
      ∃ members items, json = .object members ∧
        (∀ predicate, ¬ DenotesPredicate members predicate) ∧
        members.lookup "conditionType" = some (.string connective.keyword) ∧
        members.lookup "expressions" = some (.array items) ∧
        Expr.ofJsonList? items = some children := by
  cases json with
  | object members =>
      cases read : Predicate.ofMembers? members with
      | some found =>
          simp only [Expr.ofJson?, read, Option.some.injEq, reduceCtorEq, false_iff]
          rintro ⟨_, _, same, other, -⟩
          cases same
          exact other found (ofMembers_iff.mp read)
      | none =>
          have other : ∀ predicate, ¬ DenotesPredicate members predicate := by
            intro predicate parts
            simp [ofMembers_iff.mpr parts] at read
          simp only [Expr.ofJson?, read, Option.bind_eq_bind, Option.bind_eq_some_iff, string_iff,
            ofExactKeyword_iff, childrenOf_iff]
          constructor
          · rintro ⟨_, joined, _, rfl, _, rfl, _, ⟨items, listed, each⟩, same⟩
            cases same
            exact ⟨members, items, rfl, other, joined, listed, each⟩
          · rintro ⟨_, items, same, -, joined, listed, each⟩
            cases same
            exact ⟨_, joined, _, rfl, _, rfl, _, ⟨items, listed, each⟩, rfl⟩
  | _ => simp [Expr.ofJson?]

theorem ofJsonList_iff {children : List Expr}
    (each : ∀ child ∈ children, ∀ json, Expr.ofJson? json = some child ↔ Denotes json child)
    (items : List Json) :
    Expr.ofJsonList? items = some children ↔ DenotesAll items children := by
  induction items generalizing children with
  | nil =>
      constructor
      · intro read
        cases read
        exact .nil
      · rintro ⟨⟩
        rfl
  | cons item items ih =>
      simp only [Expr.ofJsonList?, Option.bind_eq_bind, Option.bind_eq_some_iff]
      constructor
      · rintro ⟨expr, first, exprs, rest, same⟩
        cases same
        obtain ⟨head, others⟩ := List.forall_mem_cons.mp each
        exact .cons ((head item).mp first) ((ih others).mp rest)
      · rintro (_ | ⟨first, rest⟩)
        obtain ⟨head, others⟩ := List.forall_mem_cons.mp each
        exact ⟨_, (head item).mpr first, _, (ih others).mpr rest, rfl⟩

/-- Reading gives the expression that the value stands for. -/
theorem ofJson_iff (expr : Expr) (json : Json) :
    Expr.ofJson? json = some expr ↔ Denotes json expr := by
  induction expr using Expr.children_induction generalizing json with
  | leaf predicate =>
      rw [ofJson_leaf]
      constructor
      · rintro ⟨members, rfl, parts⟩
        exact .leaf parts
      · rintro ⟨parts⟩
        exact ⟨_, rfl, parts⟩
  | branch connective children ih =>
      rw [ofJson_branch]
      constructor
      · rintro ⟨members, items, rfl, other, joined, listed, read⟩
        exact .branch other joined listed ((ofJsonList_iff ih items).mp read)
      · rintro (_ | ⟨other, joined, listed, each⟩)
        exact ⟨_, _, rfl, other, joined, listed, (ofJsonList_iff ih _).mpr each⟩

/-! Writing. -/

theorem toJson_predicate (predicate : Predicate) :
    Denotes predicate.toJson (.leaf predicate) := by
  refine .leaf ⟨rfl, rfl, ?_⟩
  cases predicate.value with
  | none => exact .absent
  | some text => exact .given text

theorem toJsonList_denotes {children : List Expr}
    (each : ∀ child ∈ children, Denotes child.toJson child) :
    DenotesAll (Expr.toJsonList children) children := by
  induction children with
  | nil => exact .nil
  | cons child children ih =>
      obtain ⟨first, others⟩ := List.forall_mem_cons.mp each
      exact .cons first (ih others)

/-- What is written for an expression stands for it. -/
theorem toJson_denotes (expr : Expr) : Denotes expr.toJson expr := by
  induction expr using Expr.children_induction with
  | leaf predicate => exact toJson_predicate predicate
  | branch connective children ih =>
      -- A branch has no category, so it is never taken for a predicate.
      have other (predicate : Predicate) :
          ¬ DenotesPredicate [("conditionType", .string connective.keyword),
            ("expressions", .array (Expr.toJsonList children))] predicate := by
        intro parts
        cases parts.category
      exact .branch other rfl rfl (toJsonList_denotes ih)

theorem forest_ofJson_iff {json : Json} {forest : Forest} :
    Forest.ofJson? json = some forest ↔ ∃ items, json = .array items ∧ DenotesAll items forest := by
  have each (items : List Json) :
      Expr.ofJsonList? items = some forest ↔ DenotesAll items forest :=
    ofJsonList_iff (fun child _ => ofJson_iff child) items
  cases json with
  | array items => simp [Forest.ofJson?, each]
  | _ => simp [Forest.ofJson?]

/-- What is written for an expression is read back as that expression. Reading finds what a value
stands for, and writing that down again does not change it. Whatever else an object holds, if it
holds all parts of a predicate it is one. And a list is read only if all of its items are. -/
theorem exchange_exact :
    (∀ expr : Expr, Expr.ofJson? expr.toJson = some expr) ∧
    (∀ json expr, Expr.ofJson? json = some expr ↔ Denotes json expr) ∧
    (∀ json expr, Expr.ofJson? json = some expr → Expr.ofJson? expr.toJson = some expr) ∧
    (∀ members predicate, DenotesPredicate members predicate →
      Expr.ofJson? (.object members) = some (.leaf predicate)) ∧
    (∀ forest : Forest, Forest.ofJson? forest.toJson = some forest) ∧
    ∀ json forest, Forest.ofJson? json = some forest ↔
      ∃ items, json = .array items ∧ DenotesAll items forest := by
  have written (expr : Expr) : Expr.ofJson? expr.toJson = some expr :=
    (ofJson_iff expr _).mpr (toJson_denotes expr)
  refine ⟨written, fun json expr => ofJson_iff expr json, fun _ expr _ => written expr, ?_, ?_,
    fun _ _ => forest_ofJson_iff⟩
  · intro members predicate parts
    exact (ofJson_iff _ _).mpr (.leaf parts)
  · intro forest
    exact forest_ofJson_iff.mpr ⟨_, rfl, toJsonList_denotes fun child _ => toJson_denotes child⟩

example : Expr.ofJson? (.object [("conditionType", .string "AND"), ("expressions", .array []),
    ("category", .string "a"), ("operator", .string "in"), ("value", .null)]) =
      some (.leaf ⟨"a", "in", none⟩) := by rfl

end Sift
