import Sift.Proofs.Acceptance
import Sift.Proofs.Naming

/-!
The order of columns. A grid is built only from columns whose names tell them apart, so a name leads
to the same column wherever the column stands. The operators of all columns are the same operators
in any order, and a reader asks no more of them. So whatever order the columns come in, every query
gets the same verdict.
-/

namespace Sift

open Lexer

namespace Grid

theorem Sound.reordered {columns reordered : List Column} {rows : List Json}
    (sound : Sound columns rows) (order : columns.Perm reordered) : Sound reordered rows where
  nonempty := by
    rintro rfl
    exact sound.nonempty order.eq_nil
  filled := fun column listed => sound.filled column (order.mem_iff.mpr listed)
  apart := (order.flatMap_right Column.allNames).nodup_iff.mp sound.apart
  objects := sound.objects

theorem TellsApart.entry_reordered {grid other : Grid} (apart : grid.TellsApart)
    (apart' : other.TellsApart) (order : grid.entries.Perm other.entries) (name : String) :
    grid.entry? name = other.entry? name := by
  apply Option.ext
  intro entry
  rw [apart.entry_iff, apart'.entry_iff, order.mem_iff]

theorem vocabulary_reordered {grid other : Grid} (order : grid.entries.Perm other.entries) :
    KnowSame grid.vocabulary other.vocabulary := by
  have columns : grid.columns.Perm other.columns := order.map GridEntry.column
  intro operator
  simp [vocabulary, columns.mem_iff]

end Grid

/-! What a verdict depends on. -/

namespace Catalog

/-- The catalogs accept the same predicates and know the same operators. -/
structure Alike (left right : Catalog) : Prop where
  category : ∀ name, left.hasCategory name = right.hasCategory name
  operator : ∀ name operator, left.hasOperator name operator = right.hasOperator name operator
  vocabulary : KnowSame left.vocabulary right.vocabulary

variable {left right : Catalog}

theorem Alike.judge (alike : Alike left right) (forest : Forest) :
    left.judge forest = right.judge forest := by
  have accepts : left.accepts = right.accepts := by
    funext predicate
    rw [Catalog.accepts, Catalog.accepts, alike.category, alike.operator]
  have complaint : left.complaint = right.complaint := by
    funext predicate
    rw [Catalog.complaint, Catalog.complaint, alike.category]
  rw [Catalog.judge, Catalog.judge, firstRejected_eq, firstRejected_eq, accepts, complaint]

theorem Alike.parse (alike : Alike left right) (text : String) :
    left.parse text = right.parse text := by
  rw [parse_vocabulary, parse_vocabulary, parse_congr alike.vocabulary]

theorem Alike.judgeText (alike : Alike left right) (text : String) :
    left.judgeText text = right.judgeText text := by
  simp only [Catalog.judgeText, alike.parse text, alike.judge]

theorem Alike.submit (alike : Alike left right) (strict : Bool) (text : String) :
    QueryField.submit ⟨left, strict⟩ text = QueryField.submit ⟨right, strict⟩ text := by
  have read : QueryField.parse ⟨left, strict⟩ text = QueryField.parse ⟨right, strict⟩ text :=
    alike.parse text
  have judged (forest : Forest) :
      QueryField.judge ⟨left, strict⟩ forest = QueryField.judge ⟨right, strict⟩ forest := by
    simp only [QueryField.judge, alike.judge]
  simp only [QueryField.submit, read, judged]

end Catalog

theorem Grid.catalog_reordered {grid other : Grid} (apart : grid.TellsApart)
    (apart' : other.TellsApart) (order : grid.entries.Perm other.entries) :
    Catalog.Alike grid.catalog other.catalog := by
  have same := apart.entry_reordered apart' order
  refine ⟨?_, ?_, vocabulary_reordered order⟩
  · intro name
    simp only [catalog, same]
  · intro name operator
    simp only [catalog, operatorsOf, column?, same]

/-- Columns in another order make up a grid again, and every query is judged and taken or rejected
as it was. -/
theorem column_order_exact {columns reordered : List Column} {rows : List Json} {grid : Grid}
    (order : columns.Perm reordered) (built : Grid.build columns rows = .ok grid) :
    ∃ other, Grid.build reordered rows = .ok other ∧ ∀ text,
      grid.catalog.judgeText text = other.catalog.judgeText text ∧
      ∀ strict, QueryField.submit ⟨grid.catalog, strict⟩ text =
        QueryField.submit ⟨other.catalog, strict⟩ text := by
  obtain ⟨sound, rfl⟩ := Grid.build_iff.mp built
  have sound' := sound.reordered order
  refine ⟨_, Grid.build_iff.mpr ⟨sound', rfl⟩, ?_⟩
  have alike := Grid.catalog_reordered sound.tellsApart sound'.tellsApart
    (order.map (Grid.entryOf rows))
  intro text
  exact ⟨alike.judgeText text, fun strict => alike.submit strict text⟩

/-! Two columns, one with operators of its own. Their order decides which operators come first. -/

def ownerColumn : Column :=
  ⟨"owner", some "Owner", .text, some fun _ => ["is", "is not"]⟩

def ageColumn : Column :=
  ⟨"age", none, .number, none⟩

def ownerGrid : Grid :=
  ⟨[⟨ownerColumn, ["ann"]⟩, ⟨ageColumn, []⟩]⟩

def ageGrid : Grid :=
  ⟨[⟨ageColumn, []⟩, ⟨ownerColumn, ["ann"]⟩]⟩

theorem column_order_exact_owner :
    Grid.build [ownerColumn, ageColumn] [.object [("owner", .string "ann")]] = .ok ownerGrid ∧
      ownerGrid.vocabulary ≠ ageGrid.vocabulary ∧
      ∀ text, ownerGrid.catalog.judgeText text = ageGrid.catalog.judgeText text ∧
        QueryField.submit ⟨ownerGrid.catalog, true⟩ text =
          QueryField.submit ⟨ageGrid.catalog, true⟩ text := by
  have built : Grid.build [ownerColumn, ageColumn] [.object [("owner", .string "ann")]] =
      .ok ownerGrid := rfl
  obtain ⟨other, reordered, same⟩ := column_order_exact (.swap ageColumn ownerColumn []) built
  cases reordered
  refine ⟨built, by decide, ?_⟩
  intro text
  exact ⟨(same text).1, (same text).2 true⟩

end Sift
