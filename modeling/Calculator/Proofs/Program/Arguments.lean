import Calculator.CommandLine

/-!
# An expression among the arguments

Arguments that give no expression mean the same behind one: the expression is set besides, and nothing
else changes (`CommandLine.read_expression`). Two dashes alone cannot be attached to the switch, where they
stand for no value.
-/

namespace Calculator.CommandLine

theorem ofString_expression (source : String) :
    Argument.ofString ("--expr=" ++ source) = .ok (.switch .expression (some source)) := by
  have htext : ("--expr=" ++ source).toList = '-' :: '-' :: ("expr=".toList ++ source.toList) := by
    simp
  have hlong : spelledOut? ('-' :: '-' :: ("expr=".toList ++ source.toList)) = none := by
    simp [spelledOut?, switches, Switch.long, Switch.short?]
  have hbefore : beforeEquals ('-' :: '-' :: ("expr=".toList ++ source.toList)) =
      "--expr".toList := rfl
  have hspelled : spelledOut? "--expr".toList = some .expression := by decide
  have hattached : attachment? ('-' :: '-' :: ("expr=".toList ++ source.toList)) =
      some source := by
    simp [attachment?]
  simp only [Argument.ofString, htext, hlong, hbefore, hspelled, hattached]

theorem arguments_expression (source : String) (texts : List String) :
    arguments (("--expr=" ++ source) :: texts) =
      (arguments texts).map (.switch .expression (some source) :: ·) := by
  have hne : "--expr=" ++ source ≠ "--" := by
    intro h
    simpa using congrArg String.toList h
  rw [arguments, if_neg hne, ofString_expression]
  cases arguments texts <;> rfl

/-- From these options a step comes to those, and it does the same behind an expression. -/
structure Overlooks (step : Options → Except Refusal Options) (options options' : Options) :
    Prop where
  kept : options'.expression = options.expression
  behind : ∀ source, step { options with expression := some source } =
    .ok { options' with expression := some source }

section

variable {options options' : Options} {s : Switch} {value : Option String} {args : List Argument}

theorem overlooks_set (h : options.set s value = .ok options') :
    options'.expression ≠ none ∨ Overlooks (·.set s value) options options' := by
  unfold Options.set at h
  split at h
  · cases h
    exact .inl (Option.some_ne_none _)
  · cases h
    exact .inr ⟨rfl, fun _ => rfl⟩
  · next text =>
    split at h
    · next n hn =>
      cases h
      exact .inr ⟨rfl, fun _ => by simp only [Options.set, hn]⟩
    · cases h
  · cases h
  · cases h

theorem overlooks_readRest (h : readRest options args = .ok options') :
    Overlooks (readRest · args) options options' := by
  unfold readRest at h
  split at h
  · split at h
    · next hfile =>
      cases h
      exact ⟨rfl, fun _ => if_pos hfile⟩
    · cases h
  · split at h
    · next hfile =>
      cases h
      exact ⟨rfl, fun _ => if_pos hfile⟩
    · cases h
  · cases h

theorem overlooks_set_readFrom
    (ih : ∀ set, readFrom set args = .ok options' → Overlooks (readFrom · args) set options')
    (hnone : options'.expression = none)
    (h : (do readFrom (← options.set s value) args) = .ok options') :
    Overlooks (fun options => do readFrom (← options.set s value) args) options options' := by
  cases hset : options.set s value with
  | error refusal =>
    rw [hset] at h
    cases h
  | ok set =>
    rw [hset] at h
    have hrest := ih set h
    rcases overlooks_set hset with hsome | hswitch
    · exact absurd (hrest.kept ▸ hnone) hsome
    · refine ⟨hrest.kept.trans hswitch.kept, fun source => ?_⟩
      have hbehind := hswitch.behind source
      simp only [hbehind]
      exact hrest.behind source

theorem overlooks_readFrom (h : readFrom options args = .ok options')
    (hnone : options'.expression = none) : Overlooks (readFrom · args) options options' := by
  fun_induction readFrom options args with
  | case1 options =>
    cases h
    exact ⟨rfl, fun _ => rfl⟩
  | case2 options file rest hfile ih =>
    cases hrest : readFrom options rest <;> rw [hrest] at h <;> cases h
  | case3 options file hfile =>
    cases h
    exact ⟨rfl, fun _ => by simp [readFrom, hfile]⟩
  | case4 options file rest hfile hrest ih =>
    obtain ⟨hkept, hbehind⟩ := ih h
    exact ⟨hkept, fun source => by simp [readFrom, hfile, hrest, hbehind]⟩
  | case5 options rest ih =>
    cases hrest : readFrom options rest <;> rw [hrest] at h <;> cases h
  | case6 options rest => exact overlooks_readRest h
  | case7 | case8 => cases h
  | case9 options rest ih =>
    obtain ⟨hkept, hbehind⟩ := ih h
    exact ⟨hkept, hbehind⟩
  | case10 options s text rest ih =>
    obtain ⟨hkept, hbehind⟩ := overlooks_set_readFrom ih hnone h
    exact ⟨hkept, fun source => by rw [readFrom, hbehind source]⟩
  | case11 options s text rest hhelp htree ih =>
    obtain ⟨hkept, hbehind⟩ := overlooks_set_readFrom ih hnone h
    refine ⟨hkept, fun source => ?_⟩
    rw [readFrom, hbehind source]
    · exact hhelp
    · exact htree
  | case12 options s rest hhelp htree hvalue => cases h

end

/-- Arguments that give no expression, behind one that is attached to its switch. -/
theorem read_expression {texts : List String} {options : Options} {source : String}
    (h : read texts = .ok options) (hnone : options.expression = none) (hdashes : source ≠ "--") :
    read (("--expr=" ++ source) :: texts) = .ok { options with expression := some source } := by
  have hvalue : attachedValue? source = some source := if_neg hdashes
  unfold read at h ⊢
  rw [arguments_expression]
  cases harguments : arguments texts with
  | error refusal =>
    rw [harguments] at h
    cases h
  | ok args =>
    rw [harguments] at h
    change readFrom .initial (.switch .expression (some source) :: args) = _
    rw [readFrom, hvalue]
    exact (overlooks_readFrom h hnone).behind source

end Calculator.CommandLine
