import Mathlib.Tactic.Common

/-!
# Walks over regions

Positions lie in regions, or in none. A walk from a position on looks at the region there, goes on at the end of it, and
so forth: it sees a range as a whole, though it looks at a few positions only.
-/

namespace CustomModels.Lib

structure Region (κ : Type*) where
  lower : Nat
  upper : Nat
  kind : κ

/-- Which region a position lies in. -/
structure Regions (κ : Type*) where
  find : Nat → Option (Region κ)
  covers : ∀ {position region}, find position = some region → region.lower ≤ position ∧ position < region.upper
  uniform : ∀ {position region other}, find position = some region → region.lower ≤ other → other < region.upper →
    find other = some region

namespace Regions

variable {κ : Type*} (regions : Regions κ) (good : κ → Bool)

/-- The position lies in a good region. -/
def IsGood (position : Nat) : Prop := ∃ region, regions.find position = some region ∧ good region.kind = true

/-- The walk up to a position, `none` if it does not end with the fuel. -/
def walk (stop : Nat) : (fuel current : Nat) → Option Bool
  | 0, _ => none
  | fuel + 1, current =>
      if current < stop then
        match regions.find current with
        | none => some false
        | some region => if good region.kind then walk stop fuel region.upper else some false
      else some true

variable {regions good} {stop fuel current : Nat}

/-- A walk looks at no more regions than there are positions, and finds that all of these are good, or that one is
not. -/
theorem walk_eq (h : stop ≤ current + fuel) : ∃ verdict, regions.walk good stop (fuel + 1) current = some verdict ∧
    (verdict = true ↔ ∀ position, current ≤ position → position < stop → regions.IsGood good position) := by
  induction fuel generalizing current with
  | zero =>
      refine ⟨true, by rw [walk, if_neg (by omega)], iff_of_true rfl fun position hlower hupper => ?_⟩
      omega
  | succ fuel ih =>
      rw [walk]
      by_cases hstop : current < stop
      · rw [if_pos hstop]
        cases hfind : regions.find current with
        | none =>
            refine ⟨false, rfl, iff_of_false nofun fun hall => ?_⟩
            obtain ⟨region, hregion, -⟩ := hall current (Nat.le_refl _) hstop
            cases hfind.symm.trans hregion
        | some region =>
            have hcovers := regions.covers hfind
            cases hgood : good region.kind with
            | false =>
                refine ⟨false, by simp [hgood], iff_of_false nofun fun hall => ?_⟩
                obtain ⟨other, hother, hkind⟩ := hall current (Nat.le_refl _) hstop
                cases hfind.symm.trans hother
                cases hgood.symm.trans hkind
            | true =>
                obtain ⟨verdict, hwalk, hverdict⟩ := @ih region.upper (by omega)
                refine ⟨verdict, by simp [hgood, hwalk], hverdict.trans ⟨fun hall position hlower hupper => ?_,
                  fun hall position hlower => hall position (by omega)⟩⟩
                -- up to its end the region is good itself
                by_cases hinside : position < region.upper
                · exact ⟨region, regions.uniform hfind (by omega) hinside, hgood⟩
                · exact hall position (by omega) hupper
      · refine ⟨true, if_neg hstop, iff_of_true rfl fun position hlower hupper => ?_⟩
        omega

end Regions

end CustomModels.Lib
