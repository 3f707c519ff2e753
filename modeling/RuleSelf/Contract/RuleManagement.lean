import RuleSelf.Contract.RuleEngine
import RuleSelf.Library.Journal
import RuleSelf.Library.Roster
import RuleSelf.Library.Run

/-!
# Management of the Rules

The functions of `RuleEngine` with which its operators add, remove, set and clear rules, from
`RuleInternal`, `RuleEngineValidationCommon` and `RuleEngineOperation`. The engine has an
array of validation rules and one of operation rules, which the same code manages.
-/

namespace RuleSelf

open Evm Revert

namespace RuleEngine

/-! ## Storage -/

/-- The two arrays of rules. -/
inductive Family where
  | validation
  | operation
  deriving DecidableEq

/-- The events of the engine. -/
inductive RuleEvent where
  | addRule (rule : Address)
  | removeRule (rule : Address)
  | clearRules (rulesRemoved : List Address)
  deriving DecidableEq

/-- What a management call reverts with. -/
inductive ManagementError where
  | ruleAddressZeroNotAllowed
  | ruleAlreadyExists
  | ruleDoNotMatch
  | adminWithAddressZeroNotAllowed
  | arrayIsEmpty
  /-- A missing role, or an index out of bounds. -/
  | other (e : Error)
  deriving DecidableEq

/-- Storage of the engine with what its management needs, and the events it has logged, oldest
first; `ruleEngineOperatorRole` is the constant `RULE_ENGINE_OPERATOR_ROLE`. -/
structure Engine (Roles : Type) extends Storage Roles where
  ruleEngineOperatorRole : Word
  ruleIsPresent : Address → Bool
  events : List RuleEvent

variable {Roles : Type}

namespace Engine

/-- An array of rules. -/
def rules (e : Engine Roles) : Family → List Address
  | .validation => e.rulesValidation
  | .operation => e.rulesOperation

def setArray (e : Engine Roles) (rules : List Address) : Family → Engine Roles
  | .validation => { e with rulesValidation := rules }
  | .operation => { e with rulesOperation := rules }

def setPresent (e : Engine Roles) (rule : Address) (present : Bool) : Engine Roles :=
  { e with ruleIsPresent := Function.update e.ruleIsPresent rule present }

/-- `emit` -/
def emit (e : Engine Roles) (event : RuleEvent) : Engine Roles :=
  { e with events := e.events ++ [event] }

variable (e : Engine Roles) (rules' : List Address) (f : Family) (rule : Address) (present : Bool)
  (event : RuleEvent)

@[simp] theorem rules_setArray :
    (e.setArray rules' f).rules = Function.update e.rules f rules' := by
  funext g
  cases f <;> cases g <;> simp [rules, setArray]

@[simp] theorem rules_setPresent : (e.setPresent rule present).rules = e.rules := by
  funext g
  cases g <;> rfl

@[simp] theorem rules_emit : (e.emit event).rules = e.rules := by
  funext g
  cases g <;> rfl

@[simp] theorem ruleIsPresent_setArray :
    (e.setArray rules' f).ruleIsPresent = e.ruleIsPresent := by
  cases f <;> rfl

@[simp] theorem ruleIsPresent_setPresent : (e.setPresent rule present).ruleIsPresent =
    Function.update e.ruleIsPresent rule present := rfl

@[simp] theorem ruleIsPresent_emit : (e.emit event).ruleIsPresent = e.ruleIsPresent := rfl

@[simp] theorem events_setArray : (e.setArray rules' f).events = e.events := by
  cases f <;> rfl

@[simp] theorem events_setPresent : (e.setPresent rule present).events = e.events := rfl

@[simp] theorem events_emit : (e.emit event).events = e.events ++ [event] := rfl

end Engine

/-- A call that reverts with an error of the packages or with a panic. -/
def other {α : Type} (x : Except Error α) : Except ManagementError α := x.mapError .other

@[simp] theorem other_eq_ok {α : Type} {x : Except Error α} {a : α} :
    other x = .ok a ↔ x = .ok a := by
  cases x <;> simp [other, Except.mapError]

/-! ## RuleInternal -/

namespace RuleInternal

/-- The loop of `_setRules`. -/
def setRulesLoop : List Address → Engine Roles → Except ManagementError (Engine Roles)
  | [], e => return e
  | rule :: rules, e => do
    revertIf (rule = 0) .ruleAddressZeroNotAllowed
    revertIf (e.ruleIsPresent rule = true) .ruleAlreadyExists
    setRulesLoop rules ((e.setPresent rule true).emit (.addRule rule))

/-- `_setRules`: marks all the rules as present. -/
def setRules (rules : List Address) (e : Engine Roles) : Except ManagementError (Engine Roles) := do
  revertIf (rules.length = 0) .arrayIsEmpty
  setRulesLoop rules e

/-- `_addRule`: add a rule to an array of rules. -/
def addRule (f : Family) (rule : Address) (e : Engine Roles) :
    Except ManagementError (Engine Roles) := do
  revertIf (rule = 0) .ruleAddressZeroNotAllowed
  revertIf (e.ruleIsPresent rule = true) .ruleAlreadyExists
  return (e.setArray (e.rules f ++ [rule]) f).setPresent rule true

/-- `_removeRule`: remove a rule from an array of rules; the last rule is moved to its place. -/
def removeRule (f : Family) (rule : Address) (index : ℕ) (e : Engine Roles) :
    Except ManagementError (Engine Roles) := do
  let found ← other (orRevert (e.rules f)[index]? (.panic 0x32))
  revertIf (found ≠ rule) .ruleDoNotMatch
  return ((e.setArray (Roster.swapPop (e.rules f) index) f).setPresent rule false).emit
    (.removeRule rule)

/-- `_getRuleIndex`: the index of a rule inside an array, or its length. -/
def getRuleIndex (rule : Address) : List Address → ℕ
  | [] => 0
  | found :: rules => if found = rule then 0 else getRuleIndex rule rules + 1

end RuleInternal

/-! ## The two families -/

/-- `_removeRuleValidation` and `_removeRuleOperation` -/
def removeRuleOf (f : Family) (rule : Address) (index : ℕ) (e : Engine Roles) :
    Except ManagementError (Engine Roles) := do
  let e ← RuleInternal.removeRule f rule index e
  return e.emit (.removeRule rule)

/-- The loop that removes the last rule as long as there is one. -/
def clearLoop (f : Family) : ℕ → Engine Roles → Except ManagementError (Engine Roles)
  | 0, e => return e
  | index + 1, e => do
    let rule ← other (orRevert (e.rules f)[index]? (.panic 0x32))
    let e ← removeRuleOf f rule index e
    clearLoop f index e

/-- `_clearRulesValidation` and `_clearRulesOperation` -/
def clearRulesOf (f : Family) (e : Engine Roles) : Except ManagementError (Engine Roles) := do
  let e ← clearLoop f (e.rules f).length e
  return e.emit (.clearRules (e.rules f))

/-- The clearing in front of new rules, which is skipped when there are none. -/
def clearIfAny (f : Family) (e : Engine Roles) : Except ManagementError (Engine Roles) :=
  if (e.rules f).length > 0 then clearRulesOf f e else return e

section Calls

variable (ac : AccessControl Roles) (sender : Address)

/-- The modifier `onlyRole(RULE_ENGINE_OPERATOR_ROLE)`. -/
def onlyOperator (e : Engine Roles) : Except ManagementError Unit :=
  other <| require (hasRole ac e.roles e.ruleEngineOperatorRole sender = true)
    (.accessControlUnauthorizedAccount sender e.ruleEngineOperatorRole)

/-- Set all the rules, will overwrite all the previous rules. -/
def setRules (f : Family) (rules : List Address) (e : Engine Roles) :
    Except ManagementError (Engine Roles) := do
  onlyOperator ac sender e
  let e ← clearIfAny f e
  let e ← RuleInternal.setRules rules e
  return e.setArray rules f

/-- Clear all the rules of an array. -/
def clearRules (f : Family) (e : Engine Roles) : Except ManagementError (Engine Roles) := do
  onlyOperator ac sender e
  clearRulesOf f e

/-- Add a rule to an array. -/
def addRule (f : Family) (rule : Address) (e : Engine Roles) :
    Except ManagementError (Engine Roles) := do
  onlyOperator ac sender e
  let e ← RuleInternal.addRule f rule e
  return e.emit (.addRule rule)

/-- Remove a rule from an array. -/
def removeRule (f : Family) (rule : Address) (index : ℕ) (e : Engine Roles) :
    Except ManagementError (Engine Roles) := do
  onlyOperator ac sender e
  removeRuleOf f rule index e

def setRulesValidation := setRules ac sender .validation
def setRulesOperation := setRules ac sender .operation
def clearRulesValidation := clearRules ac sender .validation
def clearRulesOperation := clearRules ac sender .operation
def addRuleValidation := addRule ac sender .validation
def addRuleOperation := addRule ac sender .operation
def removeRuleValidation := removeRule ac sender .validation
def removeRuleOperation := removeRule ac sender .operation

/-- The package's functions for roles, with the engine's `hasRole`. -/
def setRoles (roles : Except Error Roles) (e : Engine Roles) :
    Except ManagementError (Engine Roles) := do
  let roles ← other roles
  return { e with roles := roles }

end Calls

/-- The constructor. -/
def construct (ac : AccessControl Roles) (admin tokenContract : Address)
    (ruleEngineOperatorRole tokenContractRole : Word) : Except ManagementError (Engine Roles) := do
  revertIf (admin = 0) .adminWithAddressZeroNotAllowed
  let roles := if tokenContract ≠ 0
    then ac.assign (hasRole ac) ac.unassigned tokenContractRole tokenContract else ac.unassigned
  return {
    rulesValidation := []
    rulesOperation := []
    tokenContractRole
    roles := ac.assign (hasRole ac) roles defaultAdminRole admin
    ruleEngineOperatorRole
    ruleIsPresent := fun _ => false
    events := [] }

/-- The calls that manage the rules. -/
inductive RuleCall where
  | setRules (f : Family) (rules : List Address)
  | clearRules (f : Family)
  | addRule (f : Family) (rule : Address)
  | removeRule (f : Family) (rule : Address) (index : ℕ)

/-- The management calls of the engine. -/
inductive ManagementCall where
  | rules (call : RuleCall)
  | grantRole (role : Word) (account : Address)
  | revokeRole (role : Word) (account : Address)
  | renounceRole (role : Word) (callerConfirmation : Address)

/-- Executes a call that manages the rules. -/
def manageRules (ac : AccessControl Roles) (sender : Address) (e : Engine Roles) :
    RuleCall → Except ManagementError (Engine Roles)
  | .setRules f rules => setRules ac sender f rules e
  | .clearRules f => clearRules ac sender f e
  | .addRule f rule => addRule ac sender f rule e
  | .removeRule f rule index => removeRule ac sender f rule index e

/-- Executes a management call of an account. -/
def manage (ac : AccessControl Roles) (e : Engine Roles) (tx : Address × ManagementCall) :
    Except ManagementError (Engine Roles) :=
  match tx.2 with
  | .rules call => manageRules ac tx.1 e call
  | .grantRole role account => setRoles (ac.grantRole (hasRole ac) e.roles tx.1 role account) e
  | .revokeRole role account => setRoles (ac.revokeRole (hasRole ac) e.roles tx.1 role account) e
  | .renounceRole role callerConfirmation =>
    setRoles (ac.renounceRole (hasRole ac) e.roles tx.1 role callerConfirmation) e

section Specs

variable {ac : AccessControl Roles} {sender : Address} {e e' : Engine Roles}
  {f : Family} {rule : Address} {rules : List Address} {index : ℕ}

/-! ## What the functions do -/

namespace Engine

/-- The engine after rules have been marked as present, one after the other. -/
def mark (e : Engine Roles) (rules : List Address) : Engine Roles :=
  { e with
    ruleIsPresent := fun a => if a ∈ rules then true else e.ruleIsPresent a
    events := e.events ++ rules.map .addRule }

/-- The engine after an array has been cleared, from its end. -/
def clear (e : Engine Roles) (f : Family) : Engine Roles :=
  { e.setArray [] f with
    ruleIsPresent := fun a => if a ∈ e.rules f then false else e.ruleIsPresent a
    events := e.events ++
      (e.rules f).reverse.flatMap (fun rule => [.removeRule rule, .removeRule rule]) ++
        [.clearRules []] }

end Engine

namespace RuleInternal

theorem setRulesLoop_eq_ok : setRulesLoop rules e = .ok e' ↔
    (0 ∉ rules ∧ rules.Nodup ∧ ∀ rule ∈ rules, e.ruleIsPresent rule = false) ∧
      e.mark rules = e' := by
  induction rules generalizing e with
  | nil => simp [setRulesLoop, Engine.mark]
  | cons rule rules ih =>
    -- marking the first rule and then the rest is marking them all
    have hmark : ((e.setPresent rule true).emit (.addRule rule)).mark rules =
        e.mark (rule :: rules) := by
      simp only [Engine.mark, Engine.ruleIsPresent_emit, Engine.ruleIsPresent_setPresent,
        Engine.events_emit, Engine.events_setPresent, List.map_cons, List.append_assoc,
        List.singleton_append, List.mem_cons]
      congr 1
      funext a
      by_cases ha : a = rule
      · simp [ha]
      · simp [ha]
    unfold setRulesLoop
    rw [List.forall_mem_cons]
    simp only [check_bind_eq_ok, revertIf_eq_ok, ih, hmark, Bool.not_eq_true,
      Engine.ruleIsPresent_emit, Engine.ruleIsPresent_setPresent, List.mem_cons, not_or,
      List.nodup_cons]
    constructor
    · rintro ⟨hzero, habsent, ⟨hzeros, hnodup, hrest⟩, rfl⟩
      -- a second occurrence of the rule would find it marked by the first
      have hnot : rule ∉ rules := fun hmem => by simpa using hrest rule hmem
      refine ⟨⟨⟨Ne.symm hzero, hzeros⟩, ⟨hnot, hnodup⟩, habsent, fun a ha => ?_⟩, rfl⟩
      have hne : a ≠ rule := fun heq => hnot (heq ▸ ha)
      simpa [hne] using hrest a ha
    · rintro ⟨⟨⟨hzero, hzeros⟩, ⟨hnot, hnodup⟩, habsent, hrest⟩, rfl⟩
      refine ⟨Ne.symm hzero, habsent, ⟨hzeros, hnodup, fun a ha => ?_⟩, rfl⟩
      have hne : a ≠ rule := fun heq => hnot (heq ▸ ha)
      simpa [hne] using hrest a ha

theorem setRules_eq_ok : setRules rules e = .ok e' ↔
    rules ≠ [] ∧ (0 ∉ rules ∧ rules.Nodup ∧ ∀ rule ∈ rules, e.ruleIsPresent rule = false) ∧
      e.mark rules = e' := by
  unfold setRules
  simp only [check_bind_eq_ok, revertIf_eq_ok, setRulesLoop_eq_ok, List.length_eq_zero_iff, ne_eq]

theorem addRule_eq_ok : addRule f rule e = .ok e' ↔
    rule ≠ 0 ∧ e.ruleIsPresent rule = false ∧
      (e.setArray (e.rules f ++ [rule]) f).setPresent rule true = e' := by
  simp [addRule]

theorem removeRule_eq_ok : removeRule f rule index e = .ok e' ↔
    (e.rules f)[index]? = some rule ∧
      ((e.setArray (Roster.swapPop (e.rules f) index) f).setPresent rule false).emit
        (.removeRule rule) = e' := by
  unfold removeRule
  simp only [↓check_bind_eq_ok, bind_eq_ok, other_eq_ok, orRevert_eq_ok, revertIf_eq_ok, not_not,
    pure_eq_ok]
  constructor
  · rintro ⟨_, hfound, rfl, rfl⟩
    exact ⟨hfound, rfl⟩
  · rintro ⟨hfound, rfl⟩
    exact ⟨rule, hfound, rfl, rfl⟩

/-- The index of a rule that stands in an array. -/
theorem getElem?_getRuleIndex (h : rule ∈ rules) :
    rules[getRuleIndex rule rules]? = some rule := by
  induction rules with
  | nil => exact absurd h List.not_mem_nil
  | cons found rules ih =>
    unfold getRuleIndex
    split
    · -- the loop stops at the first rule that is the one it looks for
      rename_i hfound
      rw [hfound]
      rfl
    · rename_i hne
      rw [List.getElem?_cons_succ]
      exact ih (List.mem_of_ne_of_mem (Ne.symm hne) h)

end RuleInternal

theorem removeRuleOf_eq_ok : removeRuleOf f rule index e = .ok e' ↔
    (e.rules f)[index]? = some rule ∧
      (((e.setArray (Roster.swapPop (e.rules f) index) f).setPresent rule false).emit
        (.removeRule rule)).emit (.removeRule rule) = e' := by
  unfold removeRuleOf
  simp only [bind_eq_ok, RuleInternal.removeRule_eq_ok, pure_eq_ok]
  constructor
  · rintro ⟨_, ⟨hfound, rfl⟩, rfl⟩
    exact ⟨hfound, rfl⟩
  · rintro ⟨hfound, rfl⟩
    exact ⟨_, ⟨hfound, rfl⟩, rfl⟩

/-- The loop removes an array from its end, and never reverts. -/
theorem clearLoop_eq (h : e.rules f = rules) :
    clearLoop f rules.length e = .ok { e.setArray [] f with
      ruleIsPresent := fun a => if a ∈ rules then false else e.ruleIsPresent a
      events := e.events ++
        rules.reverse.flatMap fun rule => [.removeRule rule, .removeRule rule] } := by
  induction rules using List.reverseRecOn generalizing e with
  | nil =>
    have hsame : e.setArray [] f = e := by
      rw [← h]
      cases f <;> rfl
    simp only [List.length_nil, clearLoop, hsame, List.not_mem_nil, if_false, List.reverse_nil,
      List.flatMap_nil, List.append_nil]
    rfl
  | append_singleton rules rule ih =>
    -- the loop counts down, so that it always removes the last rule of the array
    have hlast : (e.rules f)[rules.length]? = some rule := by
      rw [h, List.getElem?_concat_length]
    have hpop : Roster.swapPop (e.rules f) rules.length = rules := by
      rw [h, Roster.swapPop_concat_last]
    -- a removal is announced by both of its layers
    have hremove := removeRuleOf_eq_ok.mpr ⟨hlast, rfl⟩
    rw [hpop] at hremove
    have hrest := ih (e := (((e.setArray rules f).setPresent rule false).emit
      (.removeRule rule)).emit (.removeRule rule)) (by simp)
    rw [List.length_append, List.length_singleton, clearLoop, hlast]
    simp only [orRevert, other, Except.mapError, ok_bind, hremove, hrest]
    -- the flags of the rest and of the rule are cleared, in either order
    have hflag : (fun a => if a ∈ rules then false
        else Function.update e.ruleIsPresent rule false a) =
        fun a => if a ∈ rules ++ [rule] then false else e.ruleIsPresent a := by
      funext a
      simp only [Function.update_apply, List.mem_append, List.mem_singleton]
      by_cases hmem : a ∈ rules
      · simp [hmem]
      · simp [hmem]
    simp only [Engine.ruleIsPresent_emit, Engine.ruleIsPresent_setPresent,
      Engine.ruleIsPresent_setArray, hflag, Engine.events_emit, Engine.events_setPresent,
      Engine.events_setArray, List.reverse_append, List.reverse_singleton, List.singleton_append,
      List.flatMap_cons, List.append_assoc]
    cases f <;> rfl

/-- Clearing never reverts. -/
theorem clearRulesOf_eq (f : Family) (e : Engine Roles) : clearRulesOf f e = .ok (e.clear f) := by
  unfold clearRulesOf
  rw [clearLoop_eq rfl, ok_bind]
  cases f <;> rfl

/-- The engine after an array has been cleared if there is anything in it. -/
def Engine.emptied (e : Engine Roles) (f : Family) : Engine Roles :=
  if (e.rules f).length > 0 then e.clear f else e

theorem onlyOperator_eq_ok {u : Unit} : onlyOperator ac sender e = .ok u ↔
    hasRole ac e.roles e.ruleEngineOperatorRole sender = true := by
  rw [onlyOperator, other_eq_ok, require_eq_ok]

theorem clearIfAny_eq (f : Family) (e : Engine Roles) : clearIfAny f e = .ok (e.emptied f) := by
  unfold clearIfAny Engine.emptied
  split
  · exact clearRulesOf_eq f e
  · rfl

theorem setRules_eq_ok : setRules ac sender f rules e = .ok e' ↔
    hasRole ac e.roles e.ruleEngineOperatorRole sender = true ∧ rules ≠ [] ∧
      (0 ∉ rules ∧ rules.Nodup ∧
        ∀ rule ∈ rules, (e.emptied f).ruleIsPresent rule = false) ∧
      ((e.emptied f).mark rules).setArray rules f = e' := by
  unfold setRules
  simp only [↓check_bind_eq_ok, onlyOperator_eq_ok, clearIfAny_eq, ok_bind, bind_eq_ok,
    RuleInternal.setRules_eq_ok, pure_eq_ok]
  constructor
  · rintro ⟨hoperator, _, ⟨hne, hrules, rfl⟩, rfl⟩
    exact ⟨hoperator, hne, hrules, rfl⟩
  · rintro ⟨hoperator, hne, hrules, rfl⟩
    exact ⟨hoperator, _, ⟨hne, hrules, rfl⟩, rfl⟩

theorem clearRules_eq_ok : clearRules ac sender f e = .ok e' ↔
    hasRole ac e.roles e.ruleEngineOperatorRole sender = true ∧ e.clear f = e' := by
  unfold clearRules
  rw [check_bind_eq_ok, onlyOperator_eq_ok, clearRulesOf_eq, Except.ok.injEq]

theorem addRule_eq_ok : addRule ac sender f rule e = .ok e' ↔
    hasRole ac e.roles e.ruleEngineOperatorRole sender = true ∧ rule ≠ 0 ∧
      e.ruleIsPresent rule = false ∧
      ((e.setArray (e.rules f ++ [rule]) f).setPresent rule true).emit (.addRule rule) = e' := by
  unfold addRule
  simp only [↓check_bind_eq_ok, onlyOperator_eq_ok, bind_eq_ok, RuleInternal.addRule_eq_ok,
    pure_eq_ok]
  constructor
  · rintro ⟨hoperator, _, ⟨hzero, habsent, rfl⟩, rfl⟩
    exact ⟨hoperator, hzero, habsent, rfl⟩
  · rintro ⟨hoperator, hzero, habsent, rfl⟩
    exact ⟨hoperator, _, ⟨hzero, habsent, rfl⟩, rfl⟩

theorem removeRule_eq_ok : removeRule ac sender f rule index e = .ok e' ↔
    hasRole ac e.roles e.ruleEngineOperatorRole sender = true ∧
      (e.rules f)[index]? = some rule ∧
      (((e.setArray (Roster.swapPop (e.rules f) index) f).setPresent rule false).emit
        (.removeRule rule)).emit (.removeRule rule) = e' := by
  unfold removeRule
  rw [check_bind_eq_ok, onlyOperator_eq_ok, removeRuleOf_eq_ok]

theorem setRoles_eq_ok {roles : Except Error Roles} : setRoles roles e = .ok e' ↔
    ∃ r, roles = .ok r ∧ { e with roles := r } = e' := by
  unfold setRoles
  simp only [bind_eq_ok, other_eq_ok, pure_eq_ok]

end Specs

end RuleEngine

end RuleSelf
