import ContainerConstruction.Program

/-!
# What a program does whatever is answered

`Program.Meets` says two things of a program for every answer that its calls can get: it makes no forbidden
call, and it returns a value as described.  It follows the syntax of the program, so that what is known of the
parts of a program is known of the whole.
-/

namespace ContainerConstruction

namespace Program

variable {I : Interface} {σ α β : Type}

/-- Whatever is answered, a program makes no forbidden call and returns, and `post` holds of its value. -/
def Meets (forbidden : I.Call → Bool) (post : α → Prop) : Program I α → Prop
  | .done value => post value
  | .panics _ => False
  | .call question next => forbidden question = false ∧ ∀ answer, (next answer).Meets forbidden post

variable {forbidden : I.Call → Bool} {post : α → Prop} {program : Program I α}

theorem Meets.mono {weaker : α → Prop} (h : program.Meets forbidden post)
    (hweaker : ∀ value, post value → weaker value) : program.Meets forbidden weaker := by
  induction program with
  | done value => exact hweaker value h
  | panics panic => exact h
  | call question next ih => exact ⟨h.1, fun answer ↦ ih answer (h.2 answer)⟩

/-- Fewer calls are forbidden. -/
theorem Meets.allow {fewer : I.Call → Bool} (h : program.Meets forbidden post)
    (hfewer : ∀ call, forbidden call = false → fewer call = false) : program.Meets fewer post := by
  induction program with
  | done value => exact h
  | panics panic => exact h
  | call question next ih => exact ⟨hfewer question h.1, fun answer ↦ ih answer (h.2 answer)⟩

theorem Meets.bind {final : β → Prop} {next : α → Program I β} (h : program.Meets forbidden post)
    (hnext : ∀ value, post value → (next value).Meets forbidden final) :
    (program.bind next).Meets forbidden final := by
  induction program with
  | done value => exact hnext value h
  | panics panic => exact h.elim
  | call question after ih => exact ⟨h.1, fun answer ↦ ih answer (h.2 answer)⟩

theorem Meets.attempt (h : program.Meets forbidden post) :
    program.attempt.Meets forbidden fun outcome ↦ ∃ value, outcome = .returned value ∧ post value := by
  induction program with
  | done value => exact ⟨value, rfl, h⟩
  | panics panic => exact h.elim
  | call question next ih => exact ⟨h.1, fun answer ↦ ih answer (h.2 answer)⟩

/-- On every machine the program returns. -/
theorem Meets.run (h : program.Meets forbidden post) (machine : Machine I σ) (state : σ) :
    ∃ value after, program.run machine state = (.returned value, after) ∧ post value := by
  induction program generalizing state with
  | done value => exact ⟨value, state, rfl, h⟩
  | panics panic => exact h.elim
  | call question next ih => exact ih _ (h.2 _) _

end Program

end ContainerConstruction
