import CustomModels.Lib.Run

/-!
# Handles that are held

A program opens handles, uses them and closes them. In a run that is tidy it uses only what is open, and closes what it
has opened, the last one first.
-/

namespace CustomModels.Lib

variable {κ : Type*}

inductive Holding (κ : Type*) where
  | opens (handle : κ)
  | uses (handle : κ)
  | closes (handle : κ)
  deriving DecidableEq

/-- What is open before and after an action, the last one first. -/
inductive Holds : List κ → Holding κ → List κ → Prop where
  | opens {held : List κ} {handle : κ} (new : handle ∉ held) : Holds held (.opens handle) (handle :: held)
  | uses {held : List κ} {handle : κ} (open' : handle ∈ held) : Holds held (.uses handle) held
  | closes {held : List κ} {handle : κ} : Holds (handle :: held) (.closes handle) held

/-- The run begins and ends with nothing open. -/
def Tidy (actions : List (Holding κ)) : Prop := Walk Holds [] actions []

variable {held last : List κ} {handle : κ} {actions : List (Holding κ)}

theorem walk_uses (h : handle ∈ held) (rest : Walk Holds held actions last) :
    Walk Holds held (.uses handle :: actions) last := .cons (.uses h) rest

/-- Actions that only use what is open. -/
theorem walk_all_uses (h : ∀ action ∈ actions, ∃ handle ∈ held, action = .uses handle) :
    Walk Holds held actions held := by
  induction actions with
  | nil => exact .nil
  | cons action actions ih =>
      obtain ⟨handle, hh, rfl⟩ := h action List.mem_cons_self
      exact walk_uses hh (ih fun other ho => h other (List.mem_cons_of_mem _ ho))

/-- A handle that is opened and closed around something tidy. -/
theorem walk_scope (new : handle ∉ held) (body : Walk Holds (handle :: held) actions (handle :: held)) :
    Walk Holds held (.opens handle :: (actions ++ [.closes handle])) held :=
  .cons (.opens new) (body.append (.single .closes))

end CustomModels.Lib
