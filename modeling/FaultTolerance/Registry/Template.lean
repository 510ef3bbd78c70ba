import FaultTolerance.Catalog
import FaultTolerance.Error

/-!
Shared configurations by name.

A template is a complete configuration or a change on top of another one, its base. Resolving a
name follows the bases down to a complete configuration and then applies the changes from there
back up. A name that is missing is an error, and so is a name that comes up twice on the way.
-/

namespace FaultTolerance.Registry

/-- `κ` is the type of configurations. -/
inductive Template (κ : Type) where
  | complete (config : κ)
  | derived (base : String) (change : κ → κ)

variable {κ : Type}

/-- Resolves a name after the names in `seen`, each of which is the base of the one before. -/
def resolveAfter (templates : Catalog (Template κ)) (seen : List String) (name : String) :
    Except Error κ :=
  if _fresh : name ∈ seen then .error (.configurationCycle (seen ++ [name]))
  else
    match _found : templates.find? name with
    | none => .error (.unknownConfiguration name)
    | some (.complete config) => .ok config
    | some (.derived base change) =>
      (resolveAfter templates (seen ++ [name]) base).map change
termination_by templates.unseen seen
decreasing_by exact Catalog.unseen_lt _fresh _found

/-- The configuration of the given name. -/
def resolve (templates : Catalog (Template κ)) (name : String) : Except Error κ :=
  resolveAfter templates [] name

end FaultTolerance.Registry
