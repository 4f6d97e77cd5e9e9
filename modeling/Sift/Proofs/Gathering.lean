import Sift.Grid.Basic

/-!
Values of columns, gathered row by row. Every row is brought to all columns before the next one is
looked at. The columns do not see each other, so each ends up with what it would have gathered
alone: the values of its type and those of the rows, in the order first seen.
-/

namespace Sift.Grid

/-- The values of a column: those of its type, then those of the rows, each once. -/
def foundValues (rows : List Json) (column : Column) : List String :=
  distinct (column.type.knownValues
    ++ rows.filterMap fun row => (row.get? column.field).bind Json.scalarText?)

def entryOf (rows : List Json) (column : Column) : GridEntry :=
  ⟨column, foundValues rows column⟩

theorem seed_eq (column : Column) : seed column = entryOf [] column := by
  have known : column.type.knownValues.Nodup := by
    cases column.type <;> decide
  simp [seed, entryOf, foundValues, distinct_of_nodup known]

-- What is in the list already is what stands earlier among all that was found.
theorem absorb_entryOf (rows : List Json) (row : Json) (column : Column) :
    absorb (entryOf rows column) row = entryOf (rows ++ [row]) column := by
  unfold absorb entryOf
  cases held : (row.get? column.field).bind Json.scalarText? with
  | none => simp [foundValues, held]
  | some text =>
      have gathered : foundValues (rows ++ [row]) column =
          if text ∈ foundValues rows column then foundValues rows column
          else foundValues rows column ++ [text] := by
        simp only [foundValues, List.filterMap_append, List.filterMap_cons, held,
          List.filterMap_nil, ← List.append_assoc, distinct_concat, mem_distinct]
      rw [gathered]
      by_cases listed : text ∈ foundValues rows column <;> simp [listed]

theorem harvest_from (columns : List Column) (before rows : List Json) :
    rows.foldl (fun entries row => entries.map (absorb · row)) (columns.map (entryOf before)) =
      columns.map (entryOf (before ++ rows)) := by
  induction rows generalizing before with
  | nil => simp
  | cons row rest ih =>
      have taken : (columns.map (entryOf before)).map (absorb · row) =
          columns.map (entryOf (before ++ [row])) := by
        rw [List.map_map]
        exact List.map_congr_left fun column _ => absorb_entryOf before row column
      rw [List.foldl_cons, taken, ih, List.append_assoc, List.singleton_append]

theorem harvest_eq (columns : List Column) (rows : List Json) :
    harvest columns rows = columns.map (entryOf rows) := by
  have seeds : columns.map seed = columns.map (entryOf []) :=
    List.map_congr_left fun column _ => seed_eq column
  rw [harvest, seeds, harvest_from, List.nil_append]

end Sift.Grid
