import Calculator.Proofs.Evaluation.Reduction

/-!
# The first failure

`checks` lists all that evaluation can fail at in an expression, in the order of evaluation. A check
is about values that parts of the expression have, so it can be made when these parts are reduced.
Evaluation fails with the error of the first check that does not pass, whatever stands behind it.
That is also where the expression splits into a part that fails of itself and a context that is
reduced in front of this part (`evaluate_first_failure`).
-/

namespace Calculator

/-! ## Checks -/

inductive Check where
  | lookup (name : String) (arguments : List Expr)
  | unary (sign : Sign) (operand : Expr)
  | binary (left : Expr) (operator : Operator) (right : Expr)
  | body (name : String) (arguments : List Expr)
  | bare

namespace Check

def node : Check → Expr
  | .lookup name arguments | .body name arguments => .call name arguments
  | .unary sign operand => .signed sign operand
  | .binary left op right => .binary left op right
  | .bare => .bare

inductive Passes (functions : Registry) : Check → Prop
  | lookup {name : String} {arguments : List Expr} {f : Builtin}
      (registered : functions.lookup name = some f) : Passes functions (.lookup name arguments)
  | unary {sign : Sign} {operand : Expr} {x : Binary64}
      (operand_reduces : operand.Reduces functions (.number x)) :
      Passes functions (.unary sign operand)
  | binary {left right : Expr} {op : Operator} {x y : Binary64}
      (left_reduces : left.Reduces functions (.number x))
      (right_reduces : right.Reduces functions (.number y)) :
      Passes functions (.binary left op right)
  | body {name : String} {arguments : List Expr} {f : Builtin} {values : List Value}
      {result : Value} (registered : functions.lookup name = some f)
      (arguments_reduce : Expr.ReducesAll functions arguments values)
      (applied : f.apply values = .ok result) :
      Passes functions (.body name arguments)

inductive FailsWith (functions : Registry) : Check → EvalError → Prop
  | lookup {name : String} {arguments : List Expr} (unregistered : functions.lookup name = none) :
      FailsWith functions (.lookup name arguments) (.unknownFunction name)
  | unary {sign : Sign} {operand : Expr} {content : String}
      (operand_reduces : operand.Reduces functions (.text content)) :
      FailsWith functions (.unary sign operand) (.signOperand sign)
  | binary {left right : Expr} {op : Operator} {x y : Value}
      (left_reduces : left.Reduces functions x) (right_reduces : right.Reduces functions y)
      (one_text : x.kind = .text ∨ y.kind = .text) :
      FailsWith functions (.binary left op right) (.operands op x.kind y.kind)
  | body {name : String} {arguments : List Expr} {f : Builtin} {values : List Value}
      {error : EvalError} (registered : functions.lookup name = some f)
      (arguments_reduce : Expr.ReducesAll functions arguments values)
      (applied : f.apply values = .error error) :
      FailsWith functions (.body name arguments) error
  | bare : FailsWith functions .bare .bareNode

variable {functions : Registry} {check : Check} {error error' : EvalError}

theorem Passes.not_failsWith (hpass : check.Passes functions) :
    ¬ check.FailsWith functions error := by
  intro hfail
  cases hpass with
  | lookup hname =>
    cases hfail with
    | lookup hnone => simp [hname] at hnone
  | unary hoperand =>
    cases hfail with
    | unary htext => cases hoperand.unique htext
  | binary hleft hright =>
    cases hfail with
    | binary hleft' hright' htext =>
      cases hleft.unique hleft'
      cases hright.unique hright'
      simp [Value.kind] at htext
  | body hname hvalues happlied =>
    cases hfail with
    | body hname' hvalues' hfailed =>
      cases hname.symm.trans hname'
      cases hvalues.unique hvalues'
      cases happlied.symm.trans hfailed

theorem FailsWith.unique (h : check.FailsWith functions error)
    (h' : check.FailsWith functions error') : error = error' := by
  cases h with
  | lookup | unary | bare =>
    cases h'
    rfl
  | binary hleft hright =>
    cases h' with
    | binary hleft' hright' => rw [hleft.unique hleft', hright.unique hright']
  | body hname hvalues hfailed =>
    cases h' with
    | body hname' hvalues' hfailed' =>
      cases hname.symm.trans hname'
      cases hvalues.unique hvalues'
      exact Except.error.inj (hfailed.symm.trans hfailed')

end Check

namespace Expr

mutual

/-- The checks in an expression, in the order of evaluation. -/
def checks : Expr → List Check
  | .number _ | .text _ => []
  | .signed sign operand => operand.checks ++ [.unary sign operand]
  | .binary left op right => left.checks ++ (right.checks ++ [.binary left op right])
  | .call name arguments =>
    .lookup name arguments :: (checksAll arguments ++ [.body name arguments])
  | .bare => [.bare]

def checksAll : List Expr → List Check
  | [] => []
  | e :: es => e.checks ++ checksAll es

end

end Expr

/-! ## The order of evaluation -/

/-- All checks pass up to one that fails with this error, whatever comes behind it. -/
inductive FirstFails (functions : Registry) : List Check → EvalError → Prop
  | here {check : Check} {later : List Check} {error : EvalError}
      (fails : check.FailsWith functions error) : FirstFails functions (check :: later) error
  | later {check : Check} {later : List Check} {error : EvalError}
      (passes : check.Passes functions) (fails : FirstFails functions later error) :
      FirstFails functions (check :: later) error

/-- Checks that are made one after the other lead to this result. -/
inductive LeadTo (functions : Registry) {α : Type} (checks : List Check) :
    Except EvalError α → Prop
  | ok {a : α} (pass : ∀ check ∈ checks, check.Passes functions) : LeadTo functions checks (.ok a)
  | error {error : EvalError} (fails : FirstFails functions checks error) :
      LeadTo functions checks (.error error)

section

variable {functions : Registry} {α β : Type} {checks later : List Check} {error : EvalError}

theorem FirstFails.append (h : FirstFails functions checks error) (later : List Check) :
    FirstFails functions (checks ++ later) error := by
  induction h with
  | here hfails => exact .here hfails
  | later hpasses _ ih => exact .later hpasses ih

theorem FirstFails.behind (hpass : ∀ check ∈ checks, check.Passes functions)
    (h : FirstFails functions later error) : FirstFails functions (checks ++ later) error := by
  induction checks with
  | nil => exact h
  | cons check checks ih =>
    rw [List.forall_mem_cons] at hpass
    exact .later hpass.1 (ih hpass.2)

theorem FirstFails.unique {error' : EvalError} (h : FirstFails functions checks error)
    (h' : FirstFails functions checks error') : error = error' := by
  induction h with
  | here hfails =>
    cases h' with
    | here hfails' => exact hfails.unique hfails'
    | later hpasses => exact absurd hfails hpasses.not_failsWith
  | later hpasses _ ih =>
    cases h' with
    | here hfails => exact absurd hfails hpasses.not_failsWith
    | later _ hfails => exact ih hfails

theorem FirstFails.not_pass (h : FirstFails functions checks error) :
    ¬ ∀ check ∈ checks, check.Passes functions := by
  intro hpass
  induction h with
  | here hfails => exact (hpass _ List.mem_cons_self).not_failsWith hfails
  | later _ _ ih => exact ih (List.forall_mem_cons.mp hpass).2

theorem firstFails_iff : FirstFails functions checks error ↔
    ∃ before check after, checks = before ++ check :: after ∧
      (∀ passed ∈ before, passed.Passes functions) ∧ check.FailsWith functions error := by
  constructor
  · intro h
    induction h with
    | @here check later _ hfails => exact ⟨[], check, later, rfl, nofun, hfails⟩
    | @later first _ _ hpasses _ ih =>
      obtain ⟨before, check, after, rfl, hbefore, hfails⟩ := ih
      exact ⟨first :: before, check, after, rfl,
        List.forall_mem_cons.mpr ⟨hpasses, hbefore⟩, hfails⟩
  · rintro ⟨before, check, after, rfl, hbefore, hfails⟩
    exact .behind hbefore (.here hfails)

theorem LeadTo.behind {x : Except EvalError α} (hpass : ∀ check ∈ checks, check.Passes functions)
    (h : LeadTo functions later x) : LeadTo functions (checks ++ later) x := by
  cases h with
  | ok hlater => exact .ok (List.forall_mem_append.mpr ⟨hpass, hlater⟩)
  | error hfails => exact .error (hfails.behind hpass)

theorem LeadTo.bind {x : Except EvalError α} {f : α → Except EvalError β}
    (hx : LeadTo functions checks x) (hf : ∀ a, x = .ok a → LeadTo functions later (f a)) :
    LeadTo functions (checks ++ later) (x >>= f) := by
  cases hx with
  | ok hpass => exact (hf _ rfl).behind hpass
  | error hfails => exact .error (hfails.append later)

theorem LeadTo.eq_error_iff {x : Except EvalError α} (h : LeadTo functions checks x) :
    x = .error error ↔ FirstFails functions checks error := by
  cases h with
  | ok hpass => exact ⟨nofun, fun hfails => absurd hpass hfails.not_pass⟩
  | error hfails =>
    constructor
    · rintro ⟨⟩
      exact hfails
    · intro h
      rw [hfails.unique h]

end

/-! ## Evaluation makes its checks in this order -/

section

variable {functions : Registry}

theorem LeadTo.lookup (name : String) (arguments : List Expr) :
    LeadTo functions [.lookup name arguments] (functions.find name) := by
  cases h : functions.find name with
  | ok f => exact .ok (List.forall_mem_singleton.mpr (.lookup (Registry.find_eq_ok.mp h)))
  | error error =>
    obtain ⟨hnone, rfl⟩ := Registry.find_eq_error.mp h
    exact .error (.here (.lookup hnone))

theorem LeadTo.unary {operand : Expr} {x : Value} (sign : Sign)
    (hx : operand.Reduces functions x) :
    LeadTo functions [.unary sign operand] (sign.applyTo x) := by
  cases x with
  | number => exact .ok (List.forall_mem_singleton.mpr (.unary hx))
  | text => exact .error (.here (.unary hx))

theorem LeadTo.binary {left right : Expr} {x y : Value} (op : Operator)
    (hx : left.Reduces functions x) (hy : right.Reduces functions y) :
    LeadTo functions [.binary left op right] (op.applyTo x y) := by
  cases h : op.applyTo x y with
  | ok =>
    obtain ⟨x, y, rfl, rfl, -⟩ := Operator.applyTo_eq_ok.mp h
    exact .ok (List.forall_mem_singleton.mpr (.binary hx hy))
  | error =>
    obtain ⟨htext, rfl⟩ := Operator.applyTo_eq_error.mp h
    exact .error (.here (.binary hx hy htext))

theorem LeadTo.body {name : String} {arguments : List Expr} {f : Builtin} {values : List Value}
    (hname : functions.lookup name = some f)
    (hvalues : Expr.ReducesAll functions arguments values) :
    LeadTo functions [.body name arguments] (f.apply values) := by
  cases h : f.apply values with
  | ok => exact .ok (List.forall_mem_singleton.mpr (.body hname hvalues h))
  | error => exact .error (.here (.body hname hvalues h))

end

namespace Expr

variable {functions : Registry}

mutual

theorem checks_leadTo (e : Expr) : LeadTo functions e.checks (e.value functions) := by
  cases e with
  | number | text => exact .ok nofun
  | bare => exact .error (.here .bare)
  | signed sign operand =>
    rw [checks, value_signed]
    exact (checks_leadTo operand).bind fun x hx => .unary sign (value_eq_ok.mp hx)
  | binary left op right =>
    rw [checks, value_binary]
    exact (checks_leadTo left).bind fun x hx => (checks_leadTo right).bind fun y hy =>
      .binary op (value_eq_ok.mp hx) (value_eq_ok.mp hy)
  | call name arguments =>
    rw [checks, value_call]
    exact (LeadTo.lookup name arguments).bind fun f hf =>
      (checksAll_leadTo arguments).bind fun values hvalues =>
        .body (Registry.find_eq_ok.mp hf) (valueAll_eq_ok.mp hvalues)

theorem checksAll_leadTo (es : List Expr) :
    LeadTo functions (checksAll es) (valueAll functions es) := by
  cases es with
  | nil => exact .ok nofun
  | cons e es =>
    rw [checksAll, valueAll_cons]
    refine (checks_leadTo e).bind fun x _ => ?_
    rw [← List.append_nil (checksAll es)]
    exact (checksAll_leadTo es).bind fun xs _ => .ok nofun

end

end Expr

/-! ## Contexts -/

/-- A node with a hole in place of one of its parts. -/
inductive Frame where
  | signed (sign : Sign)
  | leftOf (operator : Operator) (right : Expr)
  | rightOf (left : Expr) (operator : Operator)
  | argumentOf (name : String) (before after : List Expr)

namespace Frame

def fill : Frame → Expr → Expr
  | .signed sign, e => .signed sign e
  | .leftOf op right, e => .binary e op right
  | .rightOf left op, e => .binary left op e
  | .argumentOf name before after, e => .call name (before ++ e :: after)

/-- Evaluation comes to the hole: the parts in front of it have values, and the function of a call
is there. What stands behind the hole is not looked at. -/
inductive IsReduced (functions : Registry) : Frame → Prop
  | signed {sign : Sign} : IsReduced functions (.signed sign)
  | leftOf {op : Operator} {right : Expr} : IsReduced functions (.leftOf op right)
  | rightOf {left : Expr} {op : Operator} {x : Value} (left_reduces : left.Reduces functions x) :
      IsReduced functions (.rightOf left op)
  | argumentOf {name : String} {before after : List Expr} {f : Builtin} {values : List Value}
      (registered : functions.lookup name = some f)
      (before_reduce : Expr.ReducesAll functions before values) :
      IsReduced functions (.argumentOf name before after)

end Frame

abbrev Context := List Frame

def Context.fill (context : Context) (e : Expr) : Expr :=
  context.foldr Frame.fill e

def Context.IsReduced (functions : Registry) (context : Context) : Prop :=
  ∀ frame ∈ context, frame.IsReduced functions

section

variable {functions : Registry} {error : EvalError}

theorem Check.FailsWith.value_node {check : Check} (h : check.FailsWith functions error) :
    check.node.value functions = .error error := by
  cases h with
  | lookup hname =>
    rw [node, Expr.value_call, Registry.find_eq_error.mpr ⟨hname, rfl⟩]
    rfl
  | unary htext =>
    rw [node, Expr.value_signed, Expr.value_eq_ok.mpr htext]
    rfl
  | binary hleft hright htext =>
    rw [node, Expr.value_binary, Expr.value_eq_ok.mpr hleft, Expr.value_eq_ok.mpr hright]
    exact Operator.applyTo_eq_error.mpr ⟨htext, rfl⟩
  | body hname hvalues hfailed =>
    rw [node, Expr.value_call, Registry.find_eq_ok.mpr hname, Expr.valueAll_eq_ok.mpr hvalues]
    exact hfailed
  | bare => exact Expr.value_bare functions

theorem Expr.valueAll_append {before : List Expr} {values : List Value}
    (hbefore : ReducesAll functions before values) {e : Expr} (after : List Expr)
    (he : e.value functions = .error error) :
    valueAll functions (before ++ e :: after) = .error error := by
  induction before generalizing values with
  | nil =>
    rw [List.nil_append, valueAll_cons, he]
    rfl
  | cons b before ih =>
    cases hbefore with
    | cons hfirst hrest =>
      rw [List.cons_append, valueAll_cons, value_eq_ok.mpr hfirst, ih hrest]
      rfl

theorem Frame.IsReduced.value_fill {frame : Frame} (h : frame.IsReduced functions) {e : Expr}
    (he : e.value functions = .error error) : (frame.fill e).value functions = .error error := by
  cases h with
  | signed =>
    rw [fill, Expr.value_signed, he]
    rfl
  | leftOf =>
    rw [fill, Expr.value_binary, he]
    rfl
  | rightOf hleft =>
    rw [fill, Expr.value_binary, Expr.value_eq_ok.mpr hleft, he]
    rfl
  | argumentOf hname hbefore =>
    rw [fill, Expr.value_call, Registry.find_eq_ok.mpr hname, Expr.valueAll_append hbefore _ he]
    rfl

theorem Context.IsReduced.value_fill {context : Context} (h : context.IsReduced functions)
    {e : Expr} (he : e.value functions = .error error) :
    (context.fill e).value functions = .error error := by
  induction context with
  | nil => exact he
  | cons frame context ih =>
    rw [IsReduced, List.forall_mem_cons] at h
    exact h.1.value_fill (ih h.2)

/-- An expression is a reduced context around a node with a check that fails. -/
def Expr.FailsWithin (functions : Registry) (e : Expr) (error : EvalError) : Prop :=
  ∃ (context : Context) (check : Check), e = context.fill check.node ∧
    context.IsReduced functions ∧ check.FailsWith functions error

theorem Expr.FailsWithin.of_check {check : Check} (h : check.FailsWith functions error) :
    check.node.FailsWithin functions error :=
  ⟨[], check, rfl, nofun, h⟩

theorem Expr.FailsWithin.under {e : Expr} (h : e.FailsWithin functions error) {frame : Frame}
    (hframe : frame.IsReduced functions) : (frame.fill e).FailsWithin functions error := by
  obtain ⟨context, check, rfl, hcontext, hfails⟩ := h
  exact ⟨frame :: context, check, rfl, List.forall_mem_cons.mpr ⟨hframe, hcontext⟩, hfails⟩

end

namespace Expr

variable {functions : Registry} {error : EvalError}

mutual

theorem failsWithin_of_value {e : Expr} (h : e.value functions = .error error) :
    e.FailsWithin functions error := by
  cases e with
  | number | text => simp at h
  | bare =>
    rw [value_bare] at h
    cases h
    exact .of_check .bare
  | signed sign operand =>
    rw [value_signed, bind_eq_error] at h
    obtain hoperand | ⟨x, hx, hsign⟩ := h
    · exact (failsWithin_of_value hoperand).under .signed
    · obtain ⟨⟨content, rfl⟩, rfl⟩ := Sign.applyTo_eq_error.mp hsign
      exact .of_check (.unary (value_eq_ok.mp hx))
  | binary left op right =>
    rw [value_binary, bind_eq_error] at h
    obtain hleft | ⟨x, hx, h⟩ := h
    · exact (failsWithin_of_value hleft).under .leftOf
    · rw [bind_eq_error] at h
      obtain hright | ⟨y, hy, hop⟩ := h
      · exact (failsWithin_of_value hright).under (.rightOf (value_eq_ok.mp hx))
      · obtain ⟨htext, rfl⟩ := Operator.applyTo_eq_error.mp hop
        exact .of_check (.binary (value_eq_ok.mp hx) (value_eq_ok.mp hy) htext)
  | call name arguments =>
    rw [value_call, bind_eq_error] at h
    obtain hname | ⟨f, hf, h⟩ := h
    · obtain ⟨hnone, rfl⟩ := Registry.find_eq_error.mp hname
      exact .of_check (.lookup hnone)
    · rw [Registry.find_eq_ok] at hf
      rw [bind_eq_error] at h
      obtain harguments | ⟨values, hvalues, happly⟩ := h
      · obtain ⟨before, e, after, values, rfl, hbefore, he⟩ := failsWithin_of_valueAll harguments
        exact he.under (.argumentOf hf hbefore)
      · exact .of_check (.body hf (valueAll_eq_ok.mp hvalues) happly)

theorem failsWithin_of_valueAll {es : List Expr} (h : valueAll functions es = .error error) :
    ∃ before e after values, es = before ++ e :: after ∧
      ReducesAll functions before values ∧ e.FailsWithin functions error := by
  cases es with
  | nil => cases h
  | cons e es =>
    rw [valueAll_cons, bind_eq_error] at h
    obtain he | ⟨x, hx, h⟩ := h
    · exact ⟨[], e, es, [], rfl, .nil, failsWithin_of_value he⟩
    · rw [bind_eq_error] at h
      obtain hes | ⟨xs, -, hok⟩ := h
      · obtain ⟨before, e', after, values, rfl, hbefore, he'⟩ := failsWithin_of_valueAll hes
        exact ⟨e :: before, e', after, x :: values, rfl, .cons (value_eq_ok.mp hx) hbefore, he'⟩
      · cases hok

end

/-! ## The first failure -/

/-- Within the limit evaluation finds the value that an expression has, or fails. It fails with the
error of the first check that does not pass in the order of evaluation. That is where the expression
is a reduced context around the node of this check. -/
theorem evaluate_first_failure (functions : Registry) {limit : Option Nat} (e : Expr)
    (hlimit : tooDeepAt limit e.height = false) :
    (∀ result, e.evaluate functions limit 0 = .ok result ↔ e.Reduces functions result) ∧
      ∀ error, (e.evaluate functions limit 0 = .error error ↔
          ∃ before check after, e.checks = before ++ check :: after ∧
            (∀ passed ∈ before, passed.Passes functions) ∧ check.FailsWith functions error) ∧
        (e.evaluate functions limit 0 = .error error ↔
          ∃ (context : Context) (check : Check), e = context.fill check.node ∧
            context.IsReduced functions ∧ check.FailsWith functions error) := by
  rw [← Nat.zero_add e.height] at hlimit
  rw [evaluate_eq_value functions hlimit]
  refine ⟨fun result => value_eq_ok, fun error => ⟨?_, ?_⟩⟩
  · rw [(checks_leadTo e).eq_error_iff, firstFails_iff]
  · constructor
    · exact failsWithin_of_value
    · rintro ⟨context, check, rfl, hcontext, hfails⟩
      exact hcontext.value_fill hfails.value_node

/-- The left operand is reduced and a name is not found. Nothing looks at the bare node behind it. -/
theorem evaluate_first_failure_name :
    tooDeepAt (some nestingLimit) (binary (call "f" [text "a"]) (.sum .plus)
        (call "g" [bare])).height = false ∧
      (binary (call "f" [text "a"]) (.sum .plus) (call "g" [bare])).evaluate [("f", .reverse)]
        (some nestingLimit) 0 = .error (.unknownFunction "g") := by
  have hlimit : tooDeepAt (some nestingLimit) (binary (call "f" [text "a"]) (.sum .plus)
      (call "g" [bare])).height = false := by decide
  refine ⟨hlimit, ((evaluate_first_failure _ _ hlimit).2 _).2.mpr ?_⟩
  refine ⟨[.rightOf (call "f" [text "a"]) (.sum .plus)], .lookup "g" [bare], rfl, ?_, .lookup rfl⟩
  have hleft : (call "f" [text "a"]).Reduces [("f", .reverse)]
      (.text (String.ofList "a".toList.reverse)) :=
    .call rfl (.cons .text .nil) rfl
  exact List.forall_mem_singleton.mpr (.rightOf hleft)

end Expr

end Calculator
