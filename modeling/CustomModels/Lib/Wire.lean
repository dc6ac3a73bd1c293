import Mathlib.Data.List.Basic

/-!
# Wire formats

Readers that take a value off the front of a byte list, bounded buffers that values are appended to,
and the two properties that tie such code to a layout function: `Reads` and `Appends`. Each is an
equivalence, so that one lemma for a primitive serves the encoder, the decoder and their round trips.
-/

namespace CustomModels.Lib

/-! ## Readers -/

/-- A reader takes a value off the front of the unread bytes, or fails. -/
abbrev Reader (α : Type) := StateT (List UInt8) Option α

namespace Reader

variable {α β : Type}

theorem bind_eq_some {r : Reader α} {f : α → Reader β} {bytes : List UInt8} {b : β} {rest : List UInt8} :
    (r >>= f) bytes = some (b, rest) ↔
      ∃ a mid, r bytes = some (a, mid) ∧ f a mid = some (b, rest) := by
  simp only [bind, StateT.bind, Option.bind_eq_some_iff, Prod.exists]

theorem pure_eq_some {a b : α} {bytes rest : List UInt8} :
    (pure a : Reader α) bytes = some (b, rest) ↔ a = b ∧ bytes = rest := by
  show some (a, bytes) = some (b, rest) ↔ _
  rw [Option.some.injEq, Prod.mk.injEq]

/-- `r` accepts exactly the layouts of the values with `P`, and leaves what follows them unread. -/
def Reads (r : Reader α) (P : α → Prop) (layout : α → List UInt8) : Prop :=
  ∀ bytes a rest, r bytes = some (a, rest) ↔ P a ∧ bytes = layout a ++ rest

namespace Reads

variable {r : Reader α} {P : α → Prop} {layout : α → List UInt8}

theorem complete (h : Reads r P layout) {a : α} (ha : P a) (rest : List UInt8) :
    r (layout a ++ rest) = some (a, rest) := (h _ _ _).mpr ⟨ha, rfl⟩

/-- No layout is the beginning of another one: a layout that is cut short is not read at all. -/
theorem none_of_cut (h : Reads r P layout) {a : α} (ha : P a) {front back : List UInt8}
    (hcut : layout a = front ++ back) (hb : back ≠ []) : r front = none := by
  cases hr : r front with
  | none => rfl
  | some read =>
      obtain ⟨b, rest⟩ := read
      obtain ⟨hp, rfl⟩ := (h _ _ _).mp hr
      have hlonger := (h (layout b ++ rest ++ back) b (rest ++ back)).mpr ⟨hp, List.append_assoc ..⟩
      have hwhole := h.complete ha []
      rw [List.append_nil, hcut, hlonger] at hwhole
      have hrest : rest ++ back = [] := (Prod.mk.inj (Option.some.inj hwhole)).2
      exact absurd (List.append_eq_nil_iff.mp hrest).2 hb

end Reads

end Reader

/-! ## Bounded buffers -/

/-- A byte buffer that never grows past `limit`. -/
@[ext] structure Buffer (limit : Nat) where
  bytes : List UInt8
  bounded : bytes.length ≤ limit

namespace Buffer

variable {limit : Nat}

def empty : Buffer limit := ⟨[], Nat.zero_le _⟩

@[simp] theorem empty_bytes : (empty : Buffer limit).bytes = [] := rfl

/-- `write` appends exactly `bytes`, and fails exactly when they do not fit. -/
def Appends (write : Buffer limit → Option (Buffer limit)) (bytes : List UInt8) : Prop :=
  ∀ w w', write w = some w' ↔ w'.bytes = w.bytes ++ bytes

namespace Appends

variable {f g : Buffer limit → Option (Buffer limit)} {a b : List UInt8}

/-- What was appended piecewise fits in between, since it fits at the end. -/
theorem bind (hf : Appends f a) (hg : Appends g b) : Appends (fun w => f w >>= g) (a ++ b) := by
  intro w w'
  simp only [Option.bind_eq_bind, Option.bind_eq_some_iff, hf w, hg _]
  constructor
  · intro ⟨m, hm, hw⟩
    rw [hw, hm, List.append_assoc]
  · intro hw
    have hl := w'.bounded
    rw [hw, List.length_append, List.length_append] at hl
    exact ⟨⟨w.bytes ++ a, by rw [List.length_append]; omega⟩, rfl, by rw [hw, List.append_assoc]⟩

theorem fits (hf : Appends f a) {w : Buffer limit} (h : w.bytes.length + a.length ≤ limit) :
    ∃ w', f w = some w' ∧ w'.bytes = w.bytes ++ a :=
  ⟨⟨w.bytes ++ a, by rwa [List.length_append]⟩, (hf _ _).mpr rfl, rfl⟩

end Appends

end Buffer

end CustomModels.Lib
