import Calculator.Report.Reporter

/-!
# Laws of turns and traces

What is printed before a turn stays in front of all that follows, and a turn that has raised
something ends there. Of several changes to the line of one path only the last counts. A report
shows the one line that it is about.
-/

namespace Calculator

namespace Turn

variable {σ α β : Type}

@[simp] theorem after_nil (turn : Turn σ α) : turn.after [] = turn := rfl

@[simp] theorem after_after (before outputs : List Output) (turn : Turn σ α) :
    (turn.after outputs).after before = turn.after (before ++ outputs) := by
  simp [after]

@[simp] theorem done_andThen (state : σ) (a : α) (next : σ → α → Turn σ β) :
    (done state a).andThen next = next state a := rfl

@[simp] theorem raise_andThen (state : σ) (raised : Raised) (next : σ → α → Turn σ β) :
    (raise state raised).andThen next = raise state raised := rfl

@[simp] theorem ok_andThen (outputs : List Output) (state : σ) (a : α)
    (next : σ → α → Turn σ β) :
    (⟨outputs, state, .ok a⟩ : Turn σ α).andThen next = (next state a).after outputs := rfl

@[simp] theorem error_andThen (outputs : List Output) (state : σ) (raised : Raised)
    (next : σ → α → Turn σ β) :
    (⟨outputs, state, .error raised⟩ : Turn σ α).andThen next = ⟨outputs, state, .error raised⟩ :=
  rfl

end Turn

namespace Trace

theorem set_set (trace : Trace) (path : String) (line line' : Option Line) :
    (trace.set path line).set path line' = trace.set path line' := by
  induction trace with
  | nil => simp [set]
  | cons entry trace ih =>
    obtain ⟨other, old⟩ := entry
    by_cases h : other = path <;> simp [set, h, ih]

end Trace

theorem Output.linesText_singleton {path : String} {line : Line} (h : line.text ≠ "") :
    linesText [(path, line)] = lineText (path, line) := by
  simp [linesText, h]

theorem Output.renderAll_eq (color : Bool) (outputs : List Output) :
    renderAll color outputs = renderSpans color (outputs.flatMap spans) := by
  induction outputs with
  | nil => rfl
  | cons output outputs ih =>
    calc
      renderAll color (output :: outputs) = output.render color ++ renderAll color outputs := by
        simp [renderAll]
      _ = renderSpans color (output.spans ++ outputs.flatMap spans) := by
        simp [ih, render, renderSpans]
      _ = renderSpans color ((output :: outputs).flatMap spans) := by rw [List.flatMap_cons]

end Calculator
