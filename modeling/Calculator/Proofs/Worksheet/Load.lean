import Calculator.Proofs.Worksheet.Answer

/-!
# Taking lines

Lines that can be read, each under a number of its own, all wait in their order (`addLines_append`). In
any list of lines these are all, or those before the first that is refused.
-/

namespace Calculator.Worksheet

theorem add_of_parse {sheet : Worksheet} (hreleased : sheet.Released)
    (hshow : sheet.showTree = false) {entry : Entry}
    (htree : parse entry.source sheet.limits.reading = .ok (some entry.expr))
    (hnew : ∀ e ∈ sheet.queue, e.line ≠ entry.line) :
    sheet.add entry.source entry.line =
      .done (sheet.holding (sheet.queue ++ [entry]) sheet.results) () := by
  have hkept : (sheet.holding (sheet.queue ++ [entry]) sheet.results).release =
      sheet.holding (sheet.queue ++ [entry]) sheet.results := hreleased.holding ..
  simp only [add, htree, shown_of_hidden hshow, enqueue_of_new hnew]
  exact congrArg (Turn.mk _ · _) hkept

theorem addLines_append {sheet : Worksheet} (hreleased : sheet.Released)
    (hshow : sheet.showTree = false) {entries : List Entry}
    (htrees : ∀ entry ∈ entries,
      parse entry.source sheet.limits.reading = .ok (some entry.expr))
    (hnew : (sheet.queue ++ entries).Pairwise fun e e' => e.line ≠ e'.line)
    (rest : List (String × Int)) :
    sheet.addLines (entries.map Entry.label ++ rest) =
      (sheet.holding (sheet.queue ++ entries) sheet.results).addLines rest := by
  induction entries generalizing sheet with
  | nil => rw [List.append_nil]; rfl
  | cons entry entries ih =>
    obtain ⟨htree, htrees⟩ := List.forall_mem_cons.mp htrees
    have hfirst : ∀ e ∈ sheet.queue, e.line ≠ entry.line := fun e he =>
      (List.pairwise_append.mp hnew).2.2 e he entry List.mem_cons_self
    have hrest : ((sheet.holding (sheet.queue ++ [entry]) sheet.results).queue ++
        entries).Pairwise fun e e' => e.line ≠ e'.line := by
      rwa [holding_queue, List.append_assoc]
    have hadded := add_of_parse hreleased hshow htree hfirst
    calc
      sheet.addLines ((entry :: entries).map Entry.label ++ rest)
          = (sheet.add entry.source entry.line).andThen
              fun sheet _ => sheet.addLines (entries.map Entry.label ++ rest) := rfl
      _ = (sheet.holding (sheet.queue ++ [entry]) sheet.results).addLines
            (entries.map Entry.label ++ rest) := by rw [hadded, Turn.done_andThen]
      _ = (sheet.holding (sheet.queue ++ entry :: entries) sheet.results).addLines rest := by
        rw [ih (hreleased.holding (sheet.queue ++ [entry]) sheet.results) hshow htrees hrest]
        simp

theorem readable_labels {entries : List Entry} {limit : Nat}
    (htrees : ∀ entry ∈ entries, parse entry.source limit = .ok (some entry.expr)) :
    ∀ line ∈ entries.map Entry.label, ∃ e, parse line.1 limit = .ok (some e) := by
  intro line hline
  obtain ⟨entry, hentry, rfl⟩ := List.mem_map.mp hline
  exact ⟨entry.expr, htrees entry hentry⟩

theorem readable_or_first_error (lines : List (String × Int)) (limit : Nat)
    (h : ∀ line ∈ lines, parse line.1 limit ≠ .ok none) :
    ∃ entries : List Entry, (∀ entry ∈ entries, parse entry.source limit = .ok (some entry.expr)) ∧
      (lines = entries.map Entry.label ∨
        ∃ source number after problem, lines = entries.map Entry.label ++ (source, number) :: after ∧
          parse source limit = .error problem) := by
  induction lines with
  | nil => exact ⟨[], List.forall_mem_nil _, .inl rfl⟩
  | cons line lines ih =>
    obtain ⟨source, number⟩ := line
    obtain ⟨hline, hlines⟩ := List.forall_mem_cons.mp h
    cases hparse : parse source limit with
    | error problem =>
      exact ⟨[], List.forall_mem_nil _, .inr ⟨source, number, lines, problem, rfl, hparse⟩⟩
    | ok tree =>
      cases tree with
      | none => exact absurd hparse hline
      | some e =>
        obtain ⟨entries, htrees, hentries⟩ := ih hlines
        refine ⟨⟨number, source, e⟩ :: entries, List.forall_mem_cons.mpr ⟨hparse, htrees⟩, ?_⟩
        rcases hentries with rfl | ⟨source', number', after, problem, rfl, hproblem⟩
        · exact .inl rfl
        · exact .inr ⟨source', number', after, problem, rfl, hproblem⟩

end Calculator.Worksheet
