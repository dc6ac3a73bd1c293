import CustomModels.Lib.Run

/-!
# Progress

Only some events of a run take work away. As long as no event adds any, the work that there is bounds how many of them
it takes until nothing is left, whatever comes in between.
-/

namespace CustomModels.Lib

variable {σ ε : Type*} {step : σ → ε → σ} {tick : ε → Bool} {work : σ → Nat} {I : σ → Prop} {C : σ → ε → Prop}

/-- A condition on events alone holds along every run of such events. -/
theorem along_of_forall {P : ε → Prop} {s : σ} {events : List ε} (h : ∀ e ∈ events, P e) :
    Along step (fun _ e => P e) s events := by
  induction events generalizing s with
  | nil => trivial
  | cons e events ih => exact ⟨h e List.mem_cons_self, ih fun other ho => h other (List.mem_cons_of_mem _ ho)⟩

/-- Every tick of a run takes some work away. -/
theorem run_progress (hstep : ∀ s e, I s → C s e → I (step s e))
    (hwork : ∀ s e, I s → C s e → work (step s e) ≤ work s - if tick e then 1 else 0) {s : σ} (h : I s)
    {events : List ε} (hc : Along step C s events) :
    work (run step s events) ≤ work s - events.countP tick := by
  induction events generalizing s with
  | nil => simp
  | cons e events ih =>
      have hfirst := hwork s e h hc.1
      have hrest := ih (hstep s e h hc.1) hc.2
      rw [run_cons, List.countP_cons]
      omega

/-- As many ticks as there is work leave none. -/
theorem run_done (hstep : ∀ s e, I s → C s e → I (step s e))
    (hwork : ∀ s e, I s → C s e → work (step s e) ≤ work s - if tick e then 1 else 0) {s : σ} (h : I s)
    {events : List ε} (hc : Along step C s events) (ht : work s ≤ events.countP tick) :
    work (run step s events) = 0 := by
  have hprogress := run_progress hstep hwork h hc
  omega

/-! ## Ways on -/

section Leads

variable {A : ε → Prop} {P Q : σ → Prop} {s : σ}

/-- Some events of a kind lead from the state to one with the property. -/
def Leads (step : σ → ε → σ) (A : ε → Prop) (s : σ) (P : σ → Prop) : Prop :=
  ∃ events, (∀ e ∈ events, A e) ∧ P (run step s events)

theorem Leads.refl (h : P s) : Leads step A s P := ⟨[], by simp, h⟩

theorem Leads.single {e : ε} (ha : A e) (h : P (step s e)) : Leads step A s P := ⟨[e], by simpa using ha, h⟩

theorem Leads.trans (h : Leads step A s P) (hrest : ∀ s, P s → Leads step A s Q) : Leads step A s Q := by
  obtain ⟨events, ha, hp⟩ := h
  obtain ⟨more, hmore, hq⟩ := hrest _ hp
  refine ⟨events ++ more, fun e he => ?_, ?_⟩
  · exact (List.mem_append.mp he).elim (ha e) (hmore e)
  · rwa [run_append]

/-- Where some way on takes work away, there is a way to no work. -/
theorem leads_of_work (h : ∀ s, P s → work s ≠ 0 → Leads step A s fun next => P next ∧ work next < work s)
    (hp : P s) : Leads step A s fun next => P next ∧ work next = 0 := by
  induction hn : work s using Nat.strongRecOn generalizing s with
  | ind n ih =>
      by_cases hzero : work s = 0
      · exact .refl ⟨hp, hzero⟩
      · refine (h s hp hzero).trans fun next hnext => ?_
        exact ih _ (hn ▸ hnext.2) hnext.1 rfl

end Leads

end CustomModels.Lib
