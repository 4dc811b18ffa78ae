import LevelPrep.Json.Basic

/-!
# Registries

A registry knows things by name, which is a text as a rule but may be any value that can be a key.  A
name that is registered again keeps its place and stands for the new thing from then on.
-/

namespace LevelPrep

structure Registry (α : Type) where
  entries : List (Json × α) := []

namespace Registry

variable {α : Type}

/-- Registers a thing under a name. -/
def register (r : Registry α) (name : Json) (thing : α) : Registry α :=
  { entries := Json.setEntry name thing r.entries }

/-- The thing that was last registered under a name. -/
def get? (r : Registry α) (name : Json) : Option α :=
  r.entries.lookup name

/-- The names, in the order in which they were first registered. -/
def names (r : Registry α) : List Json :=
  r.entries.map (·.1)

/-- The names in a report. -/
def shownNames (r : Registry α) : String :=
  (Json.arr r.names).quoted

@[simp] theorem get?_register_self (r : Registry α) (name : String) (thing : α) :
    (r.register (.str name) thing).get? (.str name) = some thing :=
  Json.lookup_setEntry_str_self name thing r.entries

theorem get?_register_of_ne {name : Json} {word : String} (h : name ≠ .str word) (r : Registry α) (thing : α) :
    (r.register name thing).get? (.str word) = r.get? (.str word) :=
  Json.lookup_setEntry_of_ne_str h thing r.entries

end Registry

end LevelPrep
