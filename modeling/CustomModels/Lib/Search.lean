import Mathlib.Data.List.Perm.Basic
import Mathlib.Data.List.TakeDrop
import Mathlib.Data.List.TakeWhile

/-!
# First occurrences, pieces and partial maps

Where a search cuts a list: in front of the first element with a property, or at all of them. What a partial map
makes of a list: the elements correspond one by one, so the order of the list is the order of the result.
-/

namespace CustomModels.Lib

variable {α β : Type*} {p : α → Bool} {xs : List α}

/-- The index that a search finds is the length of what stands in front of the first hit. -/
theorem findIdx?_eq_some_iff_append {index : Nat} :
    xs.findIdx? p = some index ↔ ∃ front hit back, xs = front ++ hit :: back ∧ front.length = index ∧
      p hit = true ∧ ∀ x ∈ front, p x = false := by
  constructor
  · intro h
    obtain ⟨hlt, hhit, hbefore⟩ := List.findIdx?_eq_some_iff_getElem.mp h
    refine ⟨xs.take index, xs[index], xs.drop (index + 1), ?_, by simp; omega, hhit, fun x hx => ?_⟩
    · rw [← List.drop_eq_getElem_cons hlt, List.take_append_drop]
    · obtain ⟨j, hj, rfl⟩ := List.mem_iff_getElem.mp hx
      rw [List.length_take] at hj
      rw [List.getElem_take]
      simpa using hbefore j (by omega)
  · rintro ⟨front, hit, back, rfl, rfl, hhit, hfront⟩
    induction front with
    | nil => simp [List.findIdx?_cons, hhit]
    | cons x front ih =>
        have hx := hfront x List.mem_cons_self
        have hrest := ih fun y hy => hfront y (List.mem_cons_of_mem x hy)
        rw [List.cons_append, List.findIdx?_cons, hx, hrest]
        rfl

/-- Cutting in front of the first hit, or not at all where there is none. -/
theorem take_findIdx? : ((xs.findIdx? p).elim xs fun index => xs.take index) = xs.takeWhile (!p ·) := by
  cases h : xs.findIdx? p with
  | none =>
      rw [List.findIdx?_eq_none_iff] at h
      exact (List.takeWhile_eq_self_iff.mpr fun x hx => by simp [h x hx]).symm
  | some index =>
      obtain ⟨front, hit, back, rfl, rfl, hhit, hfront⟩ := findIdx?_eq_some_iff_append.mp h
      rw [List.takeWhile_append_of_pos fun x hx => by simp [hfront x hx], List.takeWhile_cons_of_neg (by simp [hhit]),
        List.append_nil]
      exact List.take_left

/-- A run of elements with `p` in front of one without is what `takeWhile` takes and `dropWhile` drops. -/
theorem takeWhile_dropWhile_of_head {front back : List α} (hfront : ∀ x ∈ front, p x = true)
    (hback : ∀ x ∈ back.head?, p x = false) :
    (front ++ back).takeWhile p = front ∧ (front ++ back).dropWhile p = back := by
  rw [List.takeWhile_append_of_pos hfront, List.dropWhile_append_of_pos hfront]
  cases back with
  | nil => simp
  | cons x back =>
      have hx := hback x rfl
      simp [hx]

/-- Where a list is cut behind its front elements with `p`. -/
theorem span_eq_iff {front back : List α} :
    xs.span p = (front, back) ↔
      xs = front ++ back ∧ (∀ x ∈ front, p x = true) ∧ ∀ x ∈ back.head?, p x = false := by
  rw [List.span_eq_takeWhile_dropWhile, Prod.mk.injEq]
  constructor
  · rintro ⟨rfl, rfl⟩
    refine ⟨List.takeWhile_append_dropWhile.symm, fun x hx => List.mem_takeWhile_imp hx, fun x hx => ?_⟩
    have hhead := List.head?_dropWhile_not p xs
    rwa [Option.mem_def.mp hx] at hhead
  · rintro ⟨rfl, hfront, hback⟩
    exact takeWhile_dropWhile_of_head hfront hback

/-- The pieces have elements of the list only, and none that it is cut at. -/
theorem of_mem_splitOnP {piece : List α} (h : piece ∈ xs.splitOnP p) : ∀ x ∈ piece, x ∈ xs ∧ p x = false := by
  induction xs generalizing piece with
  | nil => simp_all
  | cons first xs ih =>
      have hpieces : ∀ other ∈ xs.splitOnP p, ∀ x ∈ other, x ∈ first :: xs ∧ p x = false :=
        fun other ho x hx => ⟨List.mem_cons_of_mem first (ih ho x hx).1, (ih ho x hx).2⟩
      rw [List.splitOnP_cons_eq_if_modifyHead] at h
      split at h
      · rcases List.mem_cons.mp h with rfl | h
        · simp
        · exact hpieces piece h
      · rename_i hfirst
        obtain ⟨head, tail, heq⟩ := List.exists_cons_of_ne_nil (List.splitOnP_ne_nil p xs)
        rw [heq] at h hpieces
        rcases List.mem_cons.mp h with rfl | h
        · intro x hx
          rcases List.mem_cons.mp hx with rfl | hx
          · exact ⟨List.mem_cons_self, by simpa using hfirst⟩
          · exact hpieces head List.mem_cons_self x hx
        · exact hpieces piece (List.mem_cons_of_mem head h)

/-- An element that the list is not cut at is in one of the pieces. -/
theorem exists_mem_splitOnP {x : α} (h : x ∈ xs) (hx : p x = false) : ∃ piece ∈ xs.splitOnP p, x ∈ piece := by
  induction xs with
  | nil => simp at h
  | cons first xs ih =>
      rw [List.splitOnP_cons_eq_if_modifyHead]
      rcases List.mem_cons.mp h with rfl | h
      · obtain ⟨head, tail, heq⟩ := List.exists_cons_of_ne_nil (List.splitOnP_ne_nil p xs)
        rw [if_neg (by simp [hx]), heq]
        exact ⟨x :: head, List.mem_cons_self, List.mem_cons_self⟩
      · obtain ⟨piece, hpiece, hmem⟩ := ih h
        split
        · exact ⟨piece, List.mem_cons_of_mem [] hpiece, hmem⟩
        · obtain ⟨head, tail, heq⟩ := List.exists_cons_of_ne_nil (List.splitOnP_ne_nil p xs)
          rw [heq] at hpiece ⊢
          rcases List.mem_cons.mp hpiece with rfl | hpiece
          · exact ⟨first :: piece, List.mem_cons_self, List.mem_cons_of_mem first hmem⟩
          · exact ⟨piece, List.mem_cons_of_mem _ hpiece, hmem⟩

/-! ## Fields -/

/-- The maximal runs of elements without `p`, in order. -/
def fieldsOnP (p : α → Bool) (xs : List α) : List (List α) := (xs.splitOnP p).filter (!·.isEmpty)

@[simp] theorem fieldsOnP_nil : fieldsOnP p [] = [] := rfl

theorem fieldsOnP_append_cons (xs : List α) {x : α} (hx : p x = true) (ys : List α) :
    fieldsOnP p (xs ++ x :: ys) = fieldsOnP p xs ++ fieldsOnP p ys := by
  rw [fieldsOnP, List.splitOnP_append_cons xs ys hx, List.filter_append]
  rfl

theorem fieldsOnP_cons {x : α} (hx : p x = true) (xs : List α) : fieldsOnP p (x :: xs) = fieldsOnP p xs :=
  fieldsOnP_append_cons [] hx xs

theorem fieldsOnP_append_left {spaces : List α} (h : ∀ x ∈ spaces, p x = true) (xs : List α) :
    fieldsOnP p (spaces ++ xs) = fieldsOnP p xs := by
  induction spaces with
  | nil => rfl
  | cons x spaces ih =>
      rw [List.cons_append, fieldsOnP_cons (h x List.mem_cons_self)]
      exact ih fun y hy => h y (List.mem_cons_of_mem x hy)

theorem fieldsOnP_append_right {spaces : List α} (h : ∀ x ∈ spaces, p x = true) (xs : List α) :
    fieldsOnP p (xs ++ spaces) = fieldsOnP p xs := by
  cases spaces with
  | nil => rw [List.append_nil]
  | cons x spaces =>
      have hspaces := fieldsOnP_append_left (fun y hy => h y (List.mem_cons_of_mem x hy)) []
      rw [List.append_nil] at hspaces
      rw [fieldsOnP_append_cons xs (h x List.mem_cons_self), hspaces, fieldsOnP_nil, List.append_nil]

theorem fieldsOnP_dropWhile : fieldsOnP p (xs.dropWhile p) = fieldsOnP p xs := by
  have htake : ∀ x ∈ xs.takeWhile p, p x = true := fun x hx => List.mem_takeWhile_imp hx
  have h := fieldsOnP_append_left htake (xs.dropWhile p)
  rw [List.takeWhile_append_dropWhile] at h
  exact h.symm

/-- A field in front of an element with `p`, or of nothing. -/
theorem fieldsOnP_append {field rest : List α} (hne : field ≠ []) (hfield : ∀ x ∈ field, p x = false)
    (hrest : ∀ x ∈ rest.head?, p x = true) : fieldsOnP p (field ++ rest) = field :: fieldsOnP p rest := by
  have hsingle : fieldsOnP p field = [field] := by
    rw [fieldsOnP, List.splitOnP_eq_singleton hfield]
    cases field with
    | nil => exact absurd rfl hne
    | cons x field => rfl
  cases rest with
  | nil => rw [List.append_nil, hsingle, fieldsOnP_nil]
  | cons x rest =>
      have hx := hrest x rfl
      rw [fieldsOnP_append_cons field hx, hsingle, fieldsOnP_cons hx]
      rfl

/-- What is left behind the elements with `p` starts with a field, if there is anything. -/
theorem exists_field (h : xs.dropWhile p ≠ []) :
    ∃ field rest, xs.dropWhile p = field ++ rest ∧ field ≠ [] ∧ (∀ x ∈ field, p x = false) ∧
      ∀ x ∈ rest.head?, p x = true := by
  obtain ⟨hd, hfield, hrest⟩ := span_eq_iff.mp (List.span_eq_takeWhile_dropWhile (!p ·) (xs.dropWhile p))
  refine ⟨_, _, hd, ?_, fun x hx => by simpa using hfield x hx, fun x hx => by simpa using hrest x hx⟩
  cases hx : xs.dropWhile p with
  | nil => exact absurd hx h
  | cons first text =>
      have hfirst := List.head?_dropWhile_not p xs
      rw [hx] at hfirst
      simp [show p first = false from hfirst]

/-- The first field is what stands behind the elements with `p`, up to the next one. -/
theorem fieldsOnP_eq_cons_iff {field : List α} {fields : List (List α)} :
    fieldsOnP p xs = field :: fields ↔
      ∃ rest, xs.dropWhile p = field ++ rest ∧ field ≠ [] ∧ (∀ x ∈ field, p x = false) ∧
        (∀ x ∈ rest.head?, p x = true) ∧ fieldsOnP p rest = fields := by
  rw [← fieldsOnP_dropWhile]
  constructor
  · intro h
    have hne : xs.dropWhile p ≠ [] := by
      intro hd
      rw [hd] at h
      cases h
    obtain ⟨first, rest, hd, hfirst⟩ := exists_field hne
    rw [hd, fieldsOnP_append hfirst.1 hfirst.2.1 hfirst.2.2] at h
    obtain ⟨rfl, rfl⟩ := List.cons.inj h
    exact ⟨rest, hd, hfirst.1, hfirst.2.1, hfirst.2.2, rfl⟩
  · rintro ⟨rest, hd, hne, hfield, hrest, rfl⟩
    rw [hd]
    exact fieldsOnP_append hne hfield hrest

theorem fieldsOnP_eq_nil_iff : fieldsOnP p xs = [] ↔ xs.dropWhile p = [] := by
  rw [← fieldsOnP_dropWhile]
  constructor
  · intro h
    by_contra hne
    obtain ⟨field, rest, hd, hfield⟩ := exists_field hne
    rw [hd, fieldsOnP_append hfield.1 hfield.2.1 hfield.2.2] at h
    cases h
  · intro h
    rw [h, fieldsOnP_nil]

/-! ## Partial maps -/

variable {f : α → Option β} {ys : List β}

theorem mapM_eq_some_iff_forall₂ : xs.mapM f = some ys ↔ List.Forall₂ (fun x y => f x = some y) xs ys := by
  induction xs generalizing ys with
  | nil => simp [eq_comm]
  | cons x xs ih =>
      rw [List.mapM_cons, List.forall₂_cons_left_iff]
      cases hx : f x with
      | none => simp
      | some y =>
          simp only [Option.bind_eq_bind, Option.bind_some, Option.pure_def, Option.bind_eq_some_iff, Option.some.injEq,
            ih, exists_eq_left', exists_and_left]
          exact ⟨fun ⟨ys, h, heq⟩ => ⟨ys, h, heq.symm⟩, fun ⟨ys, h, heq⟩ => ⟨ys, h, heq.symm⟩⟩

theorem exists_mem_of_forall₂ {R : α → β → Prop} (h : List.Forall₂ R xs ys) {x : α} (hx : x ∈ xs) :
    ∃ y ∈ ys, R x y := by
  induction h with
  | nil => cases hx
  | cons hr _ ih =>
      rcases List.mem_cons.mp hx with rfl | hx
      · exact ⟨_, List.mem_cons_self, hr⟩
      · obtain ⟨y, hy, hr⟩ := ih hx
        exact ⟨y, List.mem_cons_of_mem _ hy, hr⟩

/-- Another order of the list gives another order of the result. -/
theorem exists_mapM_perm {xs' : List α} (hp : xs'.Perm xs) (h : xs.mapM f = some ys) :
    ∃ ys', xs'.mapM f = some ys' ∧ ys'.Perm ys := by
  obtain ⟨ys', hforall, hperm⟩ := List.perm_comp_forall₂ hp (mapM_eq_some_iff_forall₂.mp h)
  exact ⟨ys', mapM_eq_some_iff_forall₂.mpr hforall, hperm⟩

end CustomModels.Lib
