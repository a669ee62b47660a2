import Calculator.Proofs.Console.History
import Calculator.Proofs.Expr.Height
import Calculator.Proofs.Nesting.Calculation
import Calculator.Proofs.Text.SourceLine
import Calculator.Proofs.Value.Display

/-!
# Consoles go on

`Console.Said` lists what a console says to a line. Whatever is wrong with the line is reported and over,
and the console goes on with the next one. Only a value that cannot be displayed, which takes a precision
that is out of range, and a tree that is too high raise a fault after the report
(`Console.respond_goes_on`), and both do happen (`Console.respond_goes_on_not_always`).
-/

namespace Calculator

namespace Console

/-- The source that a command has evaluated, if any. What follows the word for the end belongs to it. -/
def Command.source? : Command → Option String
  | .evaluate line => some line
  | .exit rest => if rest.isEmpty then none else some ("exit" ++ rest)
  | .blank | .help _ | .endOfInput => none

def Command.answer : Command → Option Bool
  | .exit _ => some false
  | _ => none

/-- The worksheet as a command finds it. What follows the word for the end is evaluated one call
deeper. -/
def Command.sheet (sheet : Worksheet) : Command → Worksheet
  | .exit _ => sheet.withLimits sheet.limits.inner
  | _ => sheet

section

variable (sheet : Worksheet) (command : Command)

@[simp] theorem Command.sheet_precision : (command.sheet sheet).precision = sheet.precision := by
  cases command <;> rfl

@[simp] theorem Command.sheet_showTree : (command.sheet sheet).showTree = sheet.showTree := by
  cases command <;> rfl

end

/-- What a console says to a command that finds this worksheet. -/
inductive Said (sheet : Worksheet) : Command → Reply (Option Bool) → Prop
  | exit : Said sheet (.exit "") ⟨[], .ok (some true)⟩
  | endOfInput : Said sheet .endOfInput ⟨[.newLine], .ok (some true)⟩
  | nothing : Said sheet .blank ⟨[.report [] .noInput], .ok none⟩
  | welcome : Said sheet (.help "") ⟨[.welcome], .ok none⟩
  | usage {topic : String} {f : Builtin} : Builtin.named? topic = some f →
      Said sheet (.help topic) ⟨[.usage f], .ok none⟩
  | unknown {topic : String} : Builtin.named? topic = none → topic ≠ "" →
      Said sheet (.help topic)
        ⟨[.report [] (.unlocated .general (EvalError.unknownFunction topic).message)], .ok none⟩
  | blank {command : Command} {source : String} : command.source? = some source →
      calculate sheet.functions source sheet.limits = .ok none →
      Said sheet command ⟨[.report [] .noInput], .ok command.answer⟩
  | unshown {command : Command} {source : String} {fault : Fault} :
      command.source? = some source → sheet.trees source = .error fault →
      Said sheet command
        ⟨[.report [] (Reporter.internalProblem fault)], .error (.fault fault)⟩
  | refused {command : Command} {source : String} {trees : List Output} {problem : Problem} :
      command.source? = some source → sheet.trees source = .ok trees →
      calculate sheet.functions source sheet.limits = .error problem →
      Said sheet command ⟨trees ++ [.report [] problem], .ok command.answer⟩
  | shown {command : Command} {source text : String} {trees : List Output} {value : Value} :
      command.source? = some source → sheet.trees source = .ok trees →
      calculate sheet.functions source sheet.limits = .ok (some value) →
      value.display sheet.precision = .ok text →
      Said sheet command
        ⟨trees ++ Worksheet.nonFinite none source value ++ [.result text], .ok command.answer⟩
  | undisplayed {command : Command} {source : String} {trees : List Output} {value : Value}
      {fault : Fault} : command.source? = some source → sheet.trees source = .ok trees →
      calculate sheet.functions source sheet.limits = .ok (some value) →
      value.display sheet.precision = .error fault →
      Said sheet command
        ⟨trees ++ Worksheet.nonFinite none source value ++
          [.report [] (Reporter.internalProblem fault)], .error (.fault fault)⟩

/-- A command asks for a tree that is too high to be shown. -/
inductive TooHigh (sheet : Worksheet) (command : Command) : Prop
  | intro {source : String} {e : Expr} : command.source? = some source → sheet.showTree = true →
      parse source sheet.limits.reading = .ok (some e) → sheet.limits.display < e.outlineHeight →
      TooHigh sheet command

/-! ## Commands -/

section

variable {sheet : Worksheet} {command : Command}

theorem said_source (hidle : sheet.Idle) {source : String} (h : command.source? = some source) :
    Said sheet command ((sheet.reply source).settle.map fun _ => command.answer) := by
  cases htrees : sheet.trees source with
  | error fault =>
    rw [Worksheet.reply_of_unshown htrees]
    exact .unshown h htrees
  | ok trees =>
    cases hcalculate : calculate sheet.functions source sheet.limits with
    | error problem =>
      rw [Worksheet.reply_of_refused htrees hcalculate]
      exact .refused h htrees hcalculate
    | ok value =>
      cases value with
      | none =>
        rw [Worksheet.reply_of_blank hcalculate]
        exact .blank h hcalculate
      | some value =>
        cases hdisplay : value.display sheet.precision with
        | ok text =>
          rw [hidle.reply_of_text htrees hcalculate hdisplay]
          exact .shown h htrees hcalculate hdisplay
        | error fault =>
          rw [hidle.reply_of_fault htrees hcalculate hdisplay]
          exact .undisplayed h htrees hcalculate hdisplay

theorem tooHigh_of_trees {source : String} {fault : Fault} (h : command.source? = some source)
    (htrees : sheet.trees source = .error fault) :
    TooHigh sheet command ∧ Expr.OfHeight fault := by
  obtain ⟨e, hparse, hshown⟩ := Worksheet.exists_of_trees htrees
  cases hshow : sheet.showTree with
  | false =>
    rw [Worksheet.shown_of_hidden hshow] at hshown
    cases hshown
  | true =>
    rw [Worksheet.shown_of_showing hshow] at hshown
    cases hcheck : e.checkOutline sheet.limits.display with
    | ok _ =>
      rw [hcheck] at hshown
      cases hshown
    | error fault' =>
      rw [hcheck] at hshown
      cases hshown
      have hheight := mt (e.checkOutline_eq_ok_iff sheet.limits.display).mpr (by simp [hcheck])
      exact ⟨.intro h hshow hparse (Nat.lt_of_not_le hheight), Expr.ofHeight_of_checkOutline hcheck⟩

theorem TooHigh.exists_trees (h : TooHigh sheet command) :
    ∃ source fault, command.source? = some source ∧ sheet.trees source = .error fault := by
  obtain @⟨source, e, hsource, hshow, hparse, hheight⟩ := h
  cases hcheck : e.checkOutline sheet.limits.display with
  | ok _ =>
    have := (e.checkOutline_eq_ok_iff _).mp hcheck
    omega
  | error fault =>
    refine ⟨source, fault, hsource, ?_⟩
    simp only [Worksheet.trees, hparse, Worksheet.shown_of_showing hshow, hcheck]
    rfl

theorem Said.ends_iff {reply : Reply (Option Bool)} (h : Said sheet command reply) :
    reply.result = .ok (some true) ↔ command = .exit "" ∨ command = .endOfInput := by
  have hsource {source : String} (hsource : command.source? = some source) :
      command.answer ≠ some true ∧ command ≠ .exit "" ∧ command ≠ .endOfInput := by
    refine ⟨by cases command <;> simp [Command.answer], ?_, ?_⟩ <;> rintro rfl <;> cases hsource
  cases h with
  | exit | endOfInput => simp
  | nothing | welcome | usage | unknown => simp
  | blank h | refused h | shown h => simp [hsource h]
  | unshown h | undisplayed h => simp [hsource h]

/-- Nothing makes the console raise anything but a precision that is out of range or a tree that is too
high. -/
theorem Said.fault {count : Int} (hprecision : sheet.precision = .places count)
    {reply : Reply (Option Bool)} (h : Said sheet command reply) {raised : Raised}
    (hraised : reply.result = .error raised) :
    ∃ fault, raised = .fault fault ∧
      (OutOfRange count fault ∨ TooHigh sheet command ∧ Expr.OfHeight fault) := by
  cases h with
  | unshown hsource htrees =>
    cases hraised
    exact ⟨_, rfl, .inr (tooHigh_of_trees hsource htrees)⟩
  | undisplayed _ _ _ hdisplay =>
    cases hraised
    rw [hprecision] at hdisplay
    exact ⟨_, rfl, .inl (Value.display_eq_error hdisplay)⟩
  | _ => cases hraised

theorem Said.raises {reply : Reply (Option Bool)} (h : Said sheet command reply)
    (hhigh : TooHigh sheet command) : ∃ fault, reply.result = .error (.fault fault) := by
  obtain ⟨source, fault, hsource, htrees⟩ := hhigh.exists_trees
  have hsame {source' : String} (h : command.source? = some source') : source' = source :=
    Option.some.inj (h.symm.trans hsource)
  cases h with
  | unshown => exact ⟨_, rfl⟩
  | undisplayed => exact ⟨_, rfl⟩
  | refused h htrees' | shown h htrees' =>
    rw [hsame h, htrees] at htrees'
    cases htrees'
  | blank h hcalculate =>
    rw [hsame h] at hcalculate
    rw [Worksheet.trees, calculate_eq_none hcalculate] at htrees
    cases htrees
  | exit | endOfInput | nothing | welcome | usage | unknown => cases hsource

end

variable {console : Console}

theorem said_help (hidle : console.worksheet.Idle) (topic : String) :
    Said console.worksheet (.help topic) (console.perform (.help topic)).reply := by
  rw [perform, help]
  cases hnamed : Builtin.named? topic with
  | some f => exact .usage hnamed
  | none =>
    by_cases htopic : topic = ""
    · subst htopic
      exact .welcome
    · have hempty : ¬topic.isEmpty = true := by simpa using htopic
      simp only [if_neg hempty]
      rw [complain_of_idle hidle, Reply.turn_andThen]
      exact .unknown hnamed htopic

theorem said_perform (hidle : console.worksheet.Idle) (command : Command) :
    Said (command.sheet console.worksheet) command (console.perform command).reply := by
  cases command with
  | blank =>
    rw [perform, complain_of_idle hidle, Reply.turn_andThen]
    exact .nothing
  | help topic => exact said_help hidle topic
  | exit rest =>
    by_cases hrest : rest.isEmpty = true
    · obtain rfl : rest = "" := by simpa using hrest
      exact .exit
    · rw [perform, if_neg hrest, evaluateInner_of_idle hidle, Reply.turn_andThen]
      exact said_source (hidle.withLimits _) (if_neg hrest)
  | endOfInput => exact .endOfInput
  | evaluate line =>
    rw [perform, evaluate_of_idle hidle, Reply.turn_andThen]
    exact said_source hidle rfl

/-! ## Lines -/

/-- The first word of a line, without the blanks in front of it. -/
def firstWord (line : String) : String :=
  String.ofList ((Text.trim line.toList).takeWhile isCommandPart)

theorem dropWhile_isCommandPart_eq_nil {cs : List Char} (hlast : ∀ c ∈ cs.getLast?, Text.isBlank c = false)
    (h : Text.trim (cs.dropWhile isCommandPart) = []) : cs.dropWhile isCommandPart = [] := by
  refine List.getLast?_eq_none_iff.mp (Option.eq_none_iff_forall_not_mem.mpr fun c hc => ?_)
  have hsuffix : c ∈ cs.getLast? := by
    rw [← List.takeWhile_append_dropWhile (p := isCommandPart) (l := cs)]
    exact List.mem_getLast?_append_of_mem_getLast? hc
  have hblank := Text.isBlank_of_trim h c (List.mem_of_getLast? hc)
  rw [hlast c hsuffix] at hblank
  cases hblank

theorem Command.ofWords_eq_exit {cs : List Char} (hlast : ∀ c ∈ cs.getLast?, Text.isBlank c = false)
    (h : ofWords cs = .exit "") : cs = "exit".toList := by
  unfold ofWords at h
  split at h
  · cases h
  · next hword =>
    injection h with hrest
    have hnothing := dropWhile_isCommandPart_eq_nil hlast (by simpa using hrest)
    calc
      cs = cs.takeWhile isCommandPart ++ cs.dropWhile isCommandPart :=
        List.takeWhile_append_dropWhile.symm
      _ = "exit".toList := by rw [hnothing, List.append_nil, ← hword, String.toList_ofList]
  · cases h
  · cases h

theorem Command.ofWords_eq_endOfInput {cs : List Char} :
    ofWords cs = .endOfInput ↔ String.ofList (cs.takeWhile isCommandPart) = "EOF" := by
  unfold ofWords
  split <;> simp_all

theorem Command.ofLine_eq_exit {line : String} :
    ofLine line = .exit "" ↔ Text.trim line.toList = "exit".toList := by
  constructor
  · intro h
    unfold ofLine at h
    split at h
    · cases h
    · cases h
    · exact ofWords_eq_exit (fun c hc => Text.not_isBlank_of_getLast? hc) h
  · intro h
    rw [ofLine, h]
    rfl

theorem Command.ofLine_eq_endOfInput {line : String} :
    ofLine line = .endOfInput ↔ firstWord line = "EOF" := by
  unfold ofLine firstWord
  split
  · next h => simp [h]
  · next rest h =>
    have hmark : isCommandPart '?' = false := by decide
    rw [h]
    exact iff_of_false nofun (by simp [hmark])
  · exact ofWords_eq_endOfInput

/-! ## Trees that are too high -/

def sumOfOnes (count : Nat) : List Char :=
  '1' :: (List.replicate count ['+', '1']).flatten

theorem sumOfOnes_succ (count : Nat) : sumOfOnes (count + 1) = sumOfOnes count ++ ['+', '1'] := by
  simp [sumOfOnes, List.replicate_succ']

/-- A sum goes no deeper for any number of terms, while its tree is higher for each of them. -/
theorem exists_sum (count : Nat) : ∃ ls e, Cursor.SpellsAll (sumOfOnes count) ls ∧
    Reader.Derives .expression ls e ∧ Reader.Phrase.Reaches .expression ls 0 ∧
      count < e.outlineHeight := by
  obtain ⟨literal, value, hone⟩ := spellsAll_one
  have hd : Reader.Derives .term [.number literal value] (.number value) := .factor (.number ..)
  have hreach : Reader.Phrase.Reaches .term [.number literal value] 0 :=
    .term (.operand fun _ _ => rfl)
  induction count with
  | zero => exact ⟨_, _, hone, .term hd, hreach.expression, Expr.outlineHeight_pos _⟩
  | succ count ih =>
    obtain ⟨ls, e, hspells, hsum, hdepth, hheight⟩ := ih
    have hplus := Cursor.SpellsAll.symbol_cons (Reader.symbol?_sign .plus) hone
    have hall := hspells.append hplus fun l _ => Reader.mayPrecede_operator (.sum .plus) l ['1']
    refine ⟨_, _, ?_, hsum.sum .plus hd, hdepth.sum .plus hsum hreach, ?_⟩
    · rw [sumOfOnes_succ]
      exact hall
    · rw [Expr.outlineHeight]
      omega

theorem trim_sumOfOnes (count : Nat) : Text.trim (sumOfOnes count) = sumOfOnes count := by
  have hlast : (sumOfOnes count).getLast?.any Text.isBlank = false := by
    cases count with
    | zero => rfl
    | succ count =>
      rw [sumOfOnes_succ, List.getLast?_append_cons]
      rfl
  exact Text.trim_eq_self rfl hlast

theorem takeWhile_sumOfOnes (count : Nat) : (sumOfOnes count).takeWhile isCommandPart = ['1'] := by
  cases count <;> rfl

theorem Command.ofLine_sumOfOnes (count : Nat) :
    ofLine (String.ofList (sumOfOnes count)) = .evaluate (String.ofList (sumOfOnes count)) := by
  rw [ofLine, String.toList_ofList, trim_sumOfOnes]
  change ofWords (sumOfOnes count) = _
  rw [ofWords, takeWhile_sumOfOnes]
  rfl

theorem tooHigh_sumOfOnes {sheet : Worksheet} (hshow : sheet.showTree = true)
    (hreading : 0 < sheet.limits.reading) :
    TooHigh sheet (.evaluate (String.ofList (sumOfOnes sheet.limits.display))) := by
  obtain ⟨ls, e, hspells, hd, hreach, hheight⟩ := exists_sum sheet.limits.display
  rw [← @String.toList_ofList (sumOfOnes _)] at hspells
  have hread := Reader.read_of_derives (some sheet.limits.reading) hspells hd hreach
  rw [if_neg (by simpa [tooDeepAt] using Nat.ne_of_gt hreading)] at hread
  exact .intro rfl hshow (parse_eq_some_iff.mpr hread) hheight

/-! ## The next line -/

theorem interact_cons {console : Console} {line : String} {answer : Option Bool}
    (h : (console.respond line).result = .ok answer) (hanswer : answer ≠ some true)
    (lines : List String) :
    console.interact (line :: lines) =
      ((console.respond line).state.interact lines).after
        (.prompt :: (console.respond line).outputs) := by
  rw [interact, Turn.andThen]
  simp only [Turn.after, h, if_neg hanswer]
  rfl

/-- Whatever a console was told before, a line has it say what `Said` lists. It ends with the word for
the end alone, and with the word for the end of the input whatever follows. It raises a fault for a
value that cannot be displayed, which takes a precision that numbers cannot be written with, and for a
tree that is too high to be shown. After any other line the next one is answered. -/
theorem respond_goes_on {reporter : Reporter} (count : Int) (showTree : Bool) (functions : Registry)
    (limits : NestingLimits) (lines : List String) (line : String)
    (hlines : reporter.trace.lines = []) :
    let fresh := new (.blank reporter (.places count) showTree functions limits)
    let now := fresh.history lines
    let turn := now.respond line
    let command := Command.ofLine line
    let sheet := command.sheet fresh.worksheet
    Said sheet command turn.reply ∧
      (turn.result = .ok (some true) ↔
        Text.trim line.toList = "exit".toList ∨ firstWord line = "EOF") ∧
      (∀ raised, turn.result = .error raised → ∃ fault, raised = .fault fault ∧
        (OutOfRange count fault ∨ TooHigh sheet command ∧ Expr.OfHeight fault)) ∧
      (TooHigh sheet command → ∃ fault, turn.result = .error (.fault fault)) ∧
      (0 ≤ count → count < 2 ^ 31 → ¬TooHigh sheet command → ∃ answer, turn.result = .ok answer) ∧
      ∀ answer, turn.result = .ok answer → answer ≠ some true → ∀ rest,
        now.interact (line :: rest) =
          (turn.state.interact rest).after (.prompt :: turn.outputs) := by
  intro fresh now turn command sheet
  have hfresh : fresh.worksheet.Idle := idle_new hlines (.places count) showTree functions limits
  have hnow : now.worksheet = fresh.worksheet := worksheet_history hfresh lines
  have hsaid : Said sheet command turn.reply := by
    have := said_perform (hnow ▸ hfresh : now.worksheet.Idle) command
    rwa [hnow] at this
  have hprecision : sheet.precision = .places count := command.sheet_precision fresh.worksheet
  have hends := hsaid.ends_iff
  rw [Command.ofLine_eq_exit, Command.ofLine_eq_endOfInput] at hends
  have hfault := fun raised => @Said.fault _ _ _ hprecision _ hsaid raised
  refine ⟨hsaid, hends, hfault, hsaid.raises, fun hcount hformat hhigh => ?_, fun answer =>
    interact_cons⟩
  cases hresult : turn.result with
  | ok answer => exact ⟨answer, rfl⟩
  | error raised =>
    obtain ⟨fault, -, hrange | ⟨hhigh', -⟩⟩ := hfault raised hresult
    · cases hrange <;> omega
    · exact absurd hhigh' hhigh

/-- A call of the word for the end is an expression. -/
theorem respond_goes_on_exit_call :
    let reporter : Reporter := ⟨true, []⟩
    let now := (new (.blank reporter (.places 4) false .builtins)).history ["1 +", ""]
    reporter.trace.lines = [] ∧ (now.respond " exit(1)").result ≠ .ok (some true) ∧
      now.interact [" exit(1)"] =
        ((now.respond " exit(1)").state.interact []).after
          (.prompt :: (now.respond " exit(1)").outputs) := by
  have hexit : Text.trim " exit(1)".toList ≠ "exit".toList := by decide
  have hword : firstWord " exit(1)" ≠ "EOF" := by decide
  have hlines : (⟨true, []⟩ : Reporter).trace.lines = [] := rfl
  obtain ⟨-, hends, -, -, hanswer, hnext⟩ :=
    respond_goes_on 4 false .builtins .usual ["1 +", ""] " exit(1)" hlines
  have hhigh : ¬TooHigh ((Command.ofLine " exit(1)").sheet
      (new (.blank ⟨true, []⟩ (.places 4) false .builtins)).worksheet) (.ofLine " exit(1)") := by
    rintro ⟨-, hshow, -, -⟩
    rw [Command.sheet_showTree] at hshow
    cases hshow
  obtain ⟨answer, hresult⟩ := hanswer (by decide) (by decide) hhigh
  have hgoes : answer ≠ some true := fun h => (hends.mp (h ▸ hresult)).elim hexit hword
  exact ⟨hlines, fun h => (hends.mp h).elim hexit hword, hnext answer hresult hgoes []⟩

/-- A number that has no neighbour at the precision raises a fault, and the word for the end of the input
ends a console whatever follows it. With trees a long sum raises a fault too, however high they may be. -/
theorem respond_goes_on_not_always :
    let shell (count : Int) (showTree : Bool) (limits : NestingLimits) : Console :=
      new (.blank ⟨true, []⟩ (.places count) showTree .builtins limits)
    let Ends (line : String) : Prop :=
      Text.trim line.toList = "exit".toList ∨ Text.trim line.toList = "EOF".toList
    (¬Ends "1.7e308" ∧
      ((shell (-308) false .usual).respond "1.7e308").result = .error (.fault .roundedTooLarge)) ∧
    (¬Ends "EOF 1" ∧ ((shell 4 false .usual).respond "EOF 1").result = .ok (some true)) ∧
    ∀ (count : Int) (limits : NestingLimits), 0 < limits.reading → ∃ line fault,
      ¬Ends line ∧ ((shell count true limits).respond line).result = .error (.fault fault) := by
  intro shell Ends
  refine ⟨⟨by decide, by decide +kernel⟩, ⟨by decide, by decide +kernel⟩, ?_⟩
  intro count limits hreading
  let line := String.ofList (sumOfOnes limits.display)
  have hidle : (shell count true limits).worksheet.Idle :=
    idle_new rfl (.places count) true .builtins limits
  have hsaid := said_perform hidle (.ofLine line)
  rw [Command.ofLine_sumOfOnes] at hsaid
  obtain ⟨fault, hfault⟩ := hsaid.raises (tooHigh_sumOfOnes rfl hreading)
  have hperform : (shell count true limits).respond line =
      (shell count true limits).perform (.evaluate line) := by
    rw [respond, Command.ofLine_sumOfOnes]
  refine ⟨line, fault, ?_, hperform ▸ hfault⟩
  rintro (h | h)
  all_goals
    rw [String.toList_ofList, trim_sumOfOnes] at h
    cases h

end Console

end Calculator
