/-
# The rule engine (`axg/rules.py`)

A rule matches a request when all of its `all` conditions and one of its `any` conditions hold
of the request's data.  Conditions are evaluated from left to right and evaluation stops at the
first one that decides, so an exception is raised exactly by the conditions that are reached.

Two exceptions can leave a condition: `float` of an integer past the largest double, which the
numeric comparison does not catch, and `str` of an integer with more digits than the
interpreter prints.  Section 3 says where.
-/
import Axg.Models
import Axg.Python.JsonDumps

namespace Axg

open Python

/-! ## 1. Python operations on JSON values -/

/-- What the interpreter does with text and is not modelled: case mapping, the grammar of
`float(str)` (`none` for `ValueError`), and `str` of a value that is not a string. -/
structure Interpreter where
  lower : Str → Str
  floatOfStr : Str → Option F64
  strOf : Json → Str

/-- `float(i)`, for an integer that a double may not hold. -/
def orOverflow : Option F64 → Except PyError F64
  | some x => .ok x
  | none => .error .overflowError

section Interpreter

variable (py : Interpreter)

/-- `float(v)` -/
def pyFloat : Json → Except PyError F64
  | .int i => orOverflow (floatOfInt i)
  | .bool b => orOverflow (floatOfInt (if b then 1 else 0))
  | .float x => .ok x
  | .str s =>
    match py.floatOfStr s with
    | some x => .ok x
    | none => .error .valueError
  | .null => .error .typeError
  | .arr _ => .error .typeError
  | .obj _ => .error .typeError

/-- `str(v)` -/
def pyStr : Json → Except PyError Str
  | .str s => .ok s
  | v => if v.hasShortInts then .ok (py.strOf v) else .error .valueError

/-- `_numeric_compare` -/
def numericCompare (actual expected : Json) (comparator : F64 → F64 → Bool) :
    Except PyError Bool :=
  let result := do
    let a ← pyFloat py actual
    let b ← pyFloat py expected
    return comparator a b
  match result with
  | .ok b => .ok b
  | .error e => if e = .typeError ∨ e.isValueError = true then .ok false else .error e

/-- `_contains` -/
def contains (actual expected : Json) : Except PyError Bool :=
  match actual with
  | .str s => do
    let t ← pyStr py expected
    return decide (py.lower t <:+: py.lower s)
  | .arr items => .ok (items.any (fun v => v.pyEq expected))
  | _ => .ok false

/-! ## 2. Conditions, groups and rules -/

/-- `_field_value`; `none` is `MISSING`. -/
def fieldValue (data : Json) (path : Str) : Option Json :=
  (path.splitOn 0x2E).foldlM (fun current part =>
    match current with
    | .obj members => members.lookup part
    | _ => none) data

/-- `isinstance(expected, list) and actual in expected`, or `not in`. -/
def memberOf (actual expected : Json) (wanted : Bool) : Bool :=
  match expected with
  | .arr items => items.any (fun v => v.pyEq actual) == wanted
  | _ => false

/-- `evaluate_condition` past the test for `MISSING`. -/
def evaluateOperator (operator : RuleOperator) (actual expected : Json) : Except PyError Bool :=
  match operator with
  | .exists => .ok true
  | .eq => .ok (actual.pyEq expected)
  | .neq => .ok (!actual.pyEq expected)
  | .gt => numericCompare py actual expected (F64.compare (fun x y => y < x))
  | .gte => numericCompare py actual expected (F64.compare (fun x y => y ≤ x))
  | .lt => numericCompare py actual expected (F64.compare (fun x y => x < y))
  | .lte => numericCompare py actual expected (F64.compare (fun x y => x ≤ y))
  | .isIn => .ok (memberOf actual expected true)
  | .notIn => .ok (memberOf actual expected false)
  | .contains => contains py actual expected

def evaluateCondition (condition : RuleCondition) (data : Json) : Except PyError Bool :=
  match fieldValue data condition.field with
  | none => .ok false
  | some actual => evaluateOperator py condition.operator actual condition.value

/-- `all(evaluate_condition(..) for ..)` -/
def allMatch (data : Json) : List RuleCondition → Except PyError Bool
  | [] => .ok true
  | c :: cs => do
    if ← evaluateCondition py c data then allMatch data cs else return false

/-- `any(evaluate_condition(..) for ..)` -/
def anyMatch (data : Json) : List RuleCondition → Except PyError Bool
  | [] => .ok false
  | c :: cs => do
    if ← evaluateCondition py c data then return true else anyMatch data cs

/-- `all_matches` -/
def allMatches (data : Json) (allConditions : List RuleCondition) : Except PyError Bool :=
  if allConditions = [] then .ok true else allMatch py data allConditions

/-- `any_matches` -/
def anyMatches (data : Json) (anyConditions : List RuleCondition) : Except PyError Bool :=
  if anyConditions = [] then .ok true else anyMatch py data anyConditions

def evaluateGroup (group : ConditionGroup) (data : Json) : Except PyError Bool := do
  let all ← allMatches py data (group.all.getD [])
  let any ← anyMatches py data (group.any.getD [])
  return all && any

/-- The rules that match, in their order. -/
def evaluateRules (data : Json) : List PolicyRule → Except PyError (List PolicyRule)
  | [] => .ok []
  | rule :: rules => do
    let matched ← evaluateGroup py rule.condition data
    let triggered ← evaluateRules data rules
    return if matched then rule :: triggered else triggered

/-! ## 3. Exceptions -/

/-- An integer past the largest double: `float` raises `OverflowError`. -/
def isHuge : Json → Bool
  | .int i => (floatOfInt i).isNone
  | _ => false

/-- A value that `str` cannot print. -/
def isUnprintable : Json → Bool
  | .str _ => false
  | v => !v.hasShortInts

/-- Evaluating the condition raises: a numeric comparison that reaches an integer past the
largest double, or a text that is searched for a value that `str` cannot print. -/
def raises (data : Json) (condition : RuleCondition) : Bool :=
  match fieldValue data condition.field with
  | none => false
  | some actual =>
    match condition.operator with
    | .gt | .gte | .lt | .lte =>
      isHuge actual || ((pyFloat py actual).isOk && isHuge condition.value)
    | .contains =>
      match actual with
      | .str _ => isUnprintable condition.value
      | _ => false
    | _ => false

/-- The conditions of an `all` list that are evaluated. -/
def reachedAll (data : Json) : List RuleCondition → List RuleCondition
  | [] => []
  | c :: cs =>
    c :: (if evaluateCondition py c data = .ok true then reachedAll data cs else [])

/-- The conditions of an `any` list that are evaluated. -/
def reachedAny (data : Json) : List RuleCondition → List RuleCondition
  | [] => []
  | c :: cs =>
    c :: (if evaluateCondition py c data = .ok true then [] else reachedAny data cs)

/-- The conditions of a rule. -/
def PolicyRule.conditions (rule : PolicyRule) : List RuleCondition :=
  rule.condition.all.getD [] ++ rule.condition.any.getD []

/-- The conditions of a policy's rules that a request reaches, unless one raises before. -/
def reachedConditions (data : Json) (rules : List PolicyRule) : List RuleCondition :=
  rules.flatMap (fun rule =>
    reachedAll py data (rule.condition.all.getD []) ++
      reachedAny py data (rule.condition.any.getD []))

variable {py}

theorem orOverflow_eq_error {x : Option F64} {e : PyError} (h : orOverflow x = .error e) :
    e = .overflowError ∧ x = none := by
  cases x with
  | none => cases h; exact ⟨rfl, rfl⟩
  | some x => cases h

/-- A boolean has a float. -/
theorem exists_floatOfBool (b : Bool) : ∃ x, floatOfInt (if b then 1 else 0) = some x := by
  have hlt : (if b then 1 else 0 : Int).natAbs < 2 ^ 53 := by cases b <;> decide
  generalize (if b then 1 else 0 : Int) = i at hlt ⊢
  obtain ⟨m, hm⟩ := exists_mag_of_lt hlt
  exact ⟨.finite (i < 0) m, by rw [floatOfInt, magOfNat_of_units hm]; rfl⟩

/-- `float` raises nothing else that `_numeric_compare` lets through. -/
theorem pyFloat_eq_error {v : Json} {e : PyError} (h : pyFloat py v = .error e) :
    e = .typeError ∨ e = .valueError ∨ e = .overflowError ∧ isHuge v = true := by
  cases v with
  | int i =>
    rw [pyFloat] at h
    obtain ⟨he, hx⟩ := orOverflow_eq_error h
    exact Or.inr (Or.inr ⟨he, by rw [isHuge, hx]; rfl⟩)
  | bool b =>
    obtain ⟨x, hx⟩ := exists_floatOfBool b
    rw [pyFloat, hx] at h
    cases h
  | str s =>
    rw [pyFloat] at h
    generalize py.floatOfStr s = x at h
    cases x with
    | some x => cases h
    | none => cases h; simp
  | float x => cases h
  | null => cases h; simp
  | arr xs => cases h; simp
  | obj ms => cases h; simp

theorem pyFloat_of_isHuge {v : Json} (h : isHuge v = true) :
    pyFloat py v = .error .overflowError := by
  cases v with
  | int i =>
    rw [isHuge, Option.isNone_iff_eq_none] at h
    rw [pyFloat, h]; rfl
  | _ => simp [isHuge] at h

/-- What is no integer past the largest double converts, or raises what the handler covers. -/
theorem pyFloat_cases (v : Json) :
    (∃ x, pyFloat py v = .ok x) ∨ isHuge v = true ∨
      isHuge v = false ∧ ∃ e, pyFloat py v = .error e ∧ (e = .typeError ∨ e = .valueError) := by
  cases hv : isHuge v with
  | true => exact Or.inr (Or.inl rfl)
  | false =>
    cases h : pyFloat py v with
    | ok x => exact Or.inl ⟨x, rfl⟩
    | error e =>
      rcases pyFloat_eq_error h with he | he | ⟨-, hh⟩
      · exact Or.inr (Or.inr ⟨rfl, e, rfl, Or.inl he⟩)
      · exact Or.inr (Or.inr ⟨rfl, e, rfl, Or.inr he⟩)
      · rw [hv] at hh; cases hh

theorem numericCompare_isOk (actual expected : Json) (comparator : F64 → F64 → Bool) :
    (numericCompare py actual expected comparator).isOk =
      !(isHuge actual || ((pyFloat py actual).isOk && isHuge expected)) := by
  have hcaught : ∀ e : PyError, e = .typeError ∨ e = .valueError →
      e = .typeError ∨ e.isValueError = true := by
    rintro e (rfl | rfl)
    · exact Or.inl rfl
    · exact Or.inr rfl
  have hhuge : ∀ {v : Json} {x : F64}, pyFloat py v = .ok x → isHuge v = false := by
    intro v x h
    by_contra hv
    rw [pyFloat_of_isHuge (by simpa using hv)] at h
    cases h
  rcases @pyFloat_cases py actual with ⟨x, hx⟩ | ha | ⟨ha, e, he, hc⟩
  · rcases @pyFloat_cases py expected with ⟨y, hy⟩ | hb | ⟨hb, e, he, hc⟩
    · simp [numericCompare, hx, hy, hhuge hx, hhuge hy, Except.isOk, Except.toBool, pure,
        Except.pure]
    · simp [numericCompare, hx, pyFloat_of_isHuge hb, hhuge hx, hb, Except.isOk, Except.toBool,
        PyError.isValueError]
    · simp [numericCompare, hx, he, hcaught e hc, hhuge hx, hb, Except.isOk, Except.toBool]
  · simp [numericCompare, pyFloat_of_isHuge ha, ha, Except.isOk, Except.toBool,
      PyError.isValueError]
  · simp [numericCompare, he, hcaught e hc, ha, Except.isOk, Except.toBool]

theorem pyStr_isOk (v : Json) : (pyStr py v).isOk = !isUnprintable v := by
  cases v with
  | str s => rfl
  | _ =>
    simp only [pyStr, isUnprintable, Bool.not_not]
    split <;> simp_all [Except.isOk, Except.toBool]

theorem evaluateCondition_isOk (condition : RuleCondition) (data : Json) :
    (evaluateCondition py condition data).isOk = !raises py data condition := by
  unfold evaluateCondition raises
  cases fieldValue data condition.field with
  | none => rfl
  | some actual =>
    simp only
    cases condition.operator with
    | gt => exact numericCompare_isOk _ _ _
    | gte => exact numericCompare_isOk _ _ _
    | lt => exact numericCompare_isOk _ _ _
    | lte => exact numericCompare_isOk _ _ _
    | contains =>
      have hstr := @pyStr_isOk py condition.value
      cases actual with
      | str s =>
        simp only [evaluateOperator, contains]
        cases h : pyStr py condition.value with
        | ok t => rw [h] at hstr; exact hstr
        | error e => rw [h] at hstr; exact hstr
      | _ => rfl
    | _ => rfl

theorem evaluateCondition_eq_ok {condition : RuleCondition} {data : Json}
    (h : raises py data condition = false) :
    ∃ b, evaluateCondition py condition data = .ok b := by
  have hok := @evaluateCondition_isOk py condition data
  rw [h] at hok
  cases hc : evaluateCondition py condition data with
  | ok b => exact ⟨b, rfl⟩
  | error e => rw [hc] at hok; cases hok

theorem evaluateCondition_eq_error {condition : RuleCondition} {data : Json}
    (h : raises py data condition = true) :
    ∃ e, evaluateCondition py condition data = .error e := by
  have hok := @evaluateCondition_isOk py condition data
  rw [h] at hok
  cases hc : evaluateCondition py condition data with
  | ok b => rw [hc] at hok; cases hok
  | error e => exact ⟨e, rfl⟩

theorem allMatch_isOk (data : Json) (cs : List RuleCondition) :
    (allMatch py data cs).isOk = (reachedAll py data cs).all (fun c => !raises py data c) := by
  induction cs with
  | nil => rfl
  | cons c cs ih =>
    rw [reachedAll, allMatch]
    cases hc : raises py data c with
    | true =>
      obtain ⟨e, he⟩ := evaluateCondition_eq_error hc
      simp [he, hc, Except.isOk, Except.toBool]
    | false =>
      obtain ⟨b, hb⟩ := evaluateCondition_eq_ok hc
      cases b with
      | true => simp [hb, hc, ih]
      | false => simp [hb, hc, Except.isOk, Except.toBool, pure, Except.pure]

theorem anyMatch_isOk (data : Json) (cs : List RuleCondition) :
    (anyMatch py data cs).isOk = (reachedAny py data cs).all (fun c => !raises py data c) := by
  induction cs with
  | nil => rfl
  | cons c cs ih =>
    rw [reachedAny, anyMatch]
    cases hc : raises py data c with
    | true =>
      obtain ⟨e, he⟩ := evaluateCondition_eq_error hc
      simp [he, hc, Except.isOk, Except.toBool]
    | false =>
      obtain ⟨b, hb⟩ := evaluateCondition_eq_ok hc
      cases b with
      | true => simp [hb, hc, Except.isOk, Except.toBool, pure, Except.pure]
      | false => simp [hb, hc, ih]

theorem evaluateGroup_isOk (group : ConditionGroup) (data : Json) :
    (evaluateGroup py group data).isOk =
      (reachedAll py data (group.all.getD []) ++ reachedAny py data (group.any.getD [])).all
        (fun c => !raises py data c) := by
  have hall : (allMatches py data (group.all.getD [])).isOk =
      (reachedAll py data (group.all.getD [])).all (fun c => !raises py data c) := by
    unfold allMatches
    split
    · rename_i h; rw [h]; rfl
    · exact allMatch_isOk data _
  have hany : (anyMatches py data (group.any.getD [])).isOk =
      (reachedAny py data (group.any.getD [])).all (fun c => !raises py data c) := by
    unfold anyMatches
    split
    · rename_i h; rw [h]; rfl
    · exact anyMatch_isOk data _
  rw [List.all_append, ← hall, ← hany, evaluateGroup]
  cases allMatches py data (group.all.getD []) with
  | error e => rfl
  | ok a => cases anyMatches py data (group.any.getD []) <;> rfl

/-- Rule evaluation returns exactly when no condition that is reached raises. -/
theorem evaluateRules_isOk (data : Json) (rules : List PolicyRule) :
    (evaluateRules py data rules).isOk =
      (reachedConditions py data rules).all (fun c => !raises py data c) := by
  induction rules with
  | nil => rfl
  | cons rule rules ih =>
    rw [reachedConditions, List.flatMap_cons, List.all_append, ← evaluateGroup_isOk,
      ← reachedConditions, ← ih, evaluateRules]
    cases evaluateGroup py rule.condition data with
    | error e => rfl
    | ok a => cases evaluateRules py data rules <;> rfl

/-- A condition that raises for no request: it compares no numbers, and searches for text alone. -/
def RuleCondition.isQuiet (condition : RuleCondition) : Bool :=
  match condition.operator with
  | .gt | .gte | .lt | .lte => false
  | .contains => !isUnprintable condition.value
  | _ => true

theorem raises_of_isQuiet {condition : RuleCondition} (h : condition.isQuiet = true) (data : Json) :
    raises py data condition = false := by
  unfold raises
  unfold RuleCondition.isQuiet at h
  cases fieldValue data condition.field with
  | none => rfl
  | some actual =>
    cases hop : condition.operator with
    | contains =>
      rw [hop] at h
      cases actual with
      | str s => simpa using h
      | _ => rfl
    | gt => rw [hop] at h; cases h
    | gte => rw [hop] at h; cases h
    | lt => rw [hop] at h; cases h
    | lte => rw [hop] at h; cases h
    | _ => rfl

theorem mem_of_mem_reachedAll {data : Json} {c : RuleCondition} {cs : List RuleCondition}
    (h : c ∈ reachedAll py data cs) : c ∈ cs := by
  induction cs with
  | nil => exact h
  | cons d ds ih =>
    rw [reachedAll] at h
    rcases List.mem_cons.mp h with rfl | h
    · exact List.mem_cons_self
    · split at h
      · exact List.mem_cons_of_mem _ (ih h)
      · cases h

theorem mem_of_mem_reachedAny {data : Json} {c : RuleCondition} {cs : List RuleCondition}
    (h : c ∈ reachedAny py data cs) : c ∈ cs := by
  induction cs with
  | nil => exact h
  | cons d ds ih =>
    rw [reachedAny] at h
    rcases List.mem_cons.mp h with rfl | h
    · exact List.mem_cons_self
    · split at h
      · cases h
      · exact List.mem_cons_of_mem _ (ih h)

/-- Rules of quiet conditions are evaluated for every request. -/
theorem evaluateRules_of_isQuiet {rules : List PolicyRule}
    (h : ∀ rule ∈ rules, ∀ c ∈ rule.conditions, c.isQuiet = true) (data : Json) :
    ∃ triggered, evaluateRules py data rules = .ok triggered := by
  refine exists_ok_of_isOk ((evaluateRules_isOk data rules).trans (List.all_eq_true.mpr ?_))
  intro c hc
  obtain ⟨rule, hrule, hc⟩ := List.mem_flatMap.mp hc
  have hmem : c ∈ rule.conditions := by
    rcases List.mem_append.mp hc with hc | hc
    · exact List.mem_append_left _ (mem_of_mem_reachedAll hc)
    · exact List.mem_append_right _ (mem_of_mem_reachedAny hc)
  rw [raises_of_isQuiet (h rule hrule c hmem) data]
  rfl

/-- The triggered rules are the ones whose condition holds, in the order of the policy. -/
theorem evaluateRules_eq_filter {data : Json} {rules triggered : List PolicyRule}
    (h : evaluateRules py data rules = .ok triggered) :
    triggered = rules.filter (fun r => evaluateGroup py r.condition data = .ok true) := by
  induction rules generalizing triggered with
  | nil => cases h; rfl
  | cons rule rules ih =>
    rw [evaluateRules] at h
    obtain ⟨matched, hm, h⟩ := bind_eq_ok h
    obtain ⟨rest, hr, h⟩ := bind_eq_ok h
    cases h
    cases matched with
    | true => rw [List.filter_cons_of_pos (by simpa using hm), ih hr]; rfl
    | false => rw [List.filter_cons_of_neg (by simp [hm]), ih hr]; rfl

/-! ## 4. What the rules read -/

theorem allMatch_congr {data data' : Json} {cs : List RuleCondition}
    (h : ∀ c ∈ cs, evaluateCondition py c data = evaluateCondition py c data') :
    allMatch py data cs = allMatch py data' cs := by
  induction cs with
  | nil => rfl
  | cons c cs ih =>
    rw [allMatch, allMatch, h c (by simp), ih (fun d hd => h d (List.mem_cons_of_mem _ hd))]

theorem anyMatch_congr {data data' : Json} {cs : List RuleCondition}
    (h : ∀ c ∈ cs, evaluateCondition py c data = evaluateCondition py c data') :
    anyMatch py data cs = anyMatch py data' cs := by
  induction cs with
  | nil => rfl
  | cons c cs ih =>
    rw [anyMatch, anyMatch, h c (by simp), ih (fun d hd => h d (List.mem_cons_of_mem _ hd))]

/-- A field is looked up by the first part of its path. -/
theorem fieldValue_congr {ms ms' : Dict Json} {path : Str}
    (h : ∀ part ∈ (path.splitOn 0x2E).head?, ms.lookup part = ms'.lookup part) :
    fieldValue (.obj ms) path = fieldValue (.obj ms') path := by
  unfold fieldValue
  cases hp : path.splitOn 0x2E with
  | nil => exact absurd hp (List.splitOnP_ne_nil _ _)
  | cons part parts =>
    have hpart : ms.lookup part = ms'.lookup part := h part (by rw [hp]; rfl)
    simp only [List.foldlM_cons, hpart]

/-- Rules see the data through the fields of their conditions. -/
theorem evaluateRules_congr {data data' : Json} {rules : List PolicyRule}
    (h : ∀ rule ∈ rules, ∀ c ∈ rule.conditions,
      fieldValue data c.field = fieldValue data' c.field) :
    evaluateRules py data rules = evaluateRules py data' rules := by
  induction rules with
  | nil => rfl
  | cons rule rules ih =>
    have hcond : ∀ c ∈ rule.conditions,
        evaluateCondition py c data = evaluateCondition py c data' := by
      intro c hc
      rw [evaluateCondition, evaluateCondition, h rule (by simp) c hc]
    have hall := allMatch_congr (fun c hc => hcond c (List.mem_append_left _ hc))
    have hany := anyMatch_congr (fun c hc => hcond c (List.mem_append_right _ hc))
    rw [evaluateRules, evaluateRules, ih (fun r hr => h r (List.mem_cons_of_mem _ hr)),
      evaluateGroup, evaluateGroup, allMatches, allMatches, anyMatches, anyMatches, hall, hany]

end Interpreter

end Axg
