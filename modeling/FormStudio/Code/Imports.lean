import FormStudio.Code.Literal
import FormStudio.Text.Sorted
import FormStudio.Variant.Handler

/-!
# Import statements

Generated code imports each name once. The names of a module stand in one statement, in order, and a
statement that is too wide takes a line for each name.

Main statement: `ImportGroup.mem_insert`, grouping keeps every import.
-/
namespace FormStudio

/-- The names that are imported from one module. -/
structure ImportGroup where
  source : String
  names : List String
  deriving DecidableEq, Repr

namespace ImportGroup

/-- Puts an import into groups that are sorted by module. -/
def insert (item : Import) : List ImportGroup → List ImportGroup
  | [] => [⟨item.source, [item.name]⟩]
  | group :: rest =>
    if item.source < group.source then ⟨item.source, [item.name]⟩ :: group :: rest
    else if item.source = group.source then
      ⟨group.source, Sorted.insert item.name group.names⟩ :: rest
    else group :: insert item rest

/-- Groups imports by module, all sorted. -/
def ofImports (imports : List Import) : List ImportGroup := imports.foldr insert []

def Holds (groups : List ImportGroup) (item : Import) : Prop :=
  ∃ group ∈ groups, group.source = item.source ∧ item.name ∈ group.names

theorem holds_cons {group : ImportGroup} {rest : List ImportGroup} {item : Import} :
    Holds (group :: rest) item ↔
      (group.source = item.source ∧ item.name ∈ group.names) ∨ Holds rest item := by
  simp [Holds]

theorem mem_insert {item x : Import} {groups : List ImportGroup} :
    Holds (insert item groups) x ↔ x = item ∨ Holds groups x := by
  have single : ∀ x : Import,
      (item.source = x.source ∧ x.name ∈ [item.name]) ↔ x = item := by
    intro x
    cases x
    cases item
    simp only [List.mem_singleton, Import.mk.injEq]
    exact and_congr_left' eq_comm
  induction groups with
  | nil => rw [insert, holds_cons, single]
  | cons group rest ih =>
    unfold insert
    split
    · rw [holds_cons, single]
    · split
      · rename_i h
        rw [holds_cons, holds_cons, Sorted.mem_insert, and_or_left, or_assoc]
        refine or_congr ?_ Iff.rfl
        rw [← single x, h, List.mem_singleton]
      · rw [holds_cons, holds_cons]
        exact (or_congr Iff.rfl ih).trans or_left_comm

/-- The widest statement on one line. -/
def statementWidth : Nat := 80

def lines (group : ImportGroup) : List String :=
  let ending := "\x7d from " ++ textLiteral group.source ++ ";"
  let statement := "import \x7b " ++ ", ".intercalate group.names ++ " " ++ ending
  if statement.length ≤ statementWidth then [statement]
  else ["import \x7b"] ++ group.names.map (fun name => "  " ++ name ++ ",") ++ [ending]

end ImportGroup

end FormStudio
