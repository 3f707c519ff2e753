import RuleSelf.Contract.RuleManagement

/-!
# The Rules of an Engine

Two sets of rules that share none, under operators who add to them, remove from them, set and
clear them: what the engine keeps in two arrays, a flag for each address and a log.
-/

namespace RuleSelf

open Evm Revert

namespace RuleEngine

variable {Roles : Type} {ac : AccessControl Roles} {sender : Address} {e e' : Engine Roles}
  {f : Family} {rule : Address} {rules : List Address} {index : ℕ} {call : RuleCall}

/-! ## The log -/

/-- Whether an address is a rule, after one more event. -/
def RuleEvent.apply (present : Address → Bool) : RuleEvent → Address → Bool
  | .addRule rule => Function.update present rule true
  | .removeRule rule => Function.update present rule false
  | .clearRules _ => present

/-- Which addresses the events of a log leave as rules. -/
def announced (events : List RuleEvent) : Address → Bool :=
  Journal.replay RuleEvent.apply (fun _ => false) events

theorem replay_addRules (present : Address → Bool) (rules : List Address) :
    Journal.replay RuleEvent.apply present (rules.map .addRule) =
      fun a => if a ∈ rules then true else present a := by
  induction rules generalizing present with
  | nil => simp
  | cons rule rules ih =>
    rw [List.map_cons, Journal.replay_cons, ih]
    funext a
    simp only [RuleEvent.apply, Function.update_apply, List.mem_cons]
    -- the last word about a rule is the one that counts, and it is always the same
    by_cases hmem : a ∈ rules
    · simp [hmem]
    · simp [hmem]

theorem replay_removeRules (present : Address → Bool) (rules : List Address) :
    Journal.replay RuleEvent.apply present
      (rules.flatMap fun rule => [.removeRule rule, .removeRule rule]) =
      fun a => if a ∈ rules then false else present a := by
  induction rules generalizing present with
  | nil => simp
  | cons rule rules ih =>
    rw [List.flatMap_cons, Journal.replay_append, ih]
    funext a
    simp only [Journal.replay_cons, Journal.replay_nil, RuleEvent.apply, Function.update_apply,
      List.mem_cons]
    -- every rule is struck twice, which is no different from once
    by_cases hmem : a ∈ rules
    · simp [hmem]
    · by_cases ha : a = rule
      · simp [ha]
      · simp [hmem, ha]

/-! ## The invariant -/

/-- What an engine keeps: no rule stands in its arrays twice, none is the zero address, the flag of
an address says whether it stands in one of them, so does the log, and no event says that
clearing has removed anything. -/
structure WellFormed (e : Engine Roles) : Prop where
  divided : Roster.Divided e.rules e.ruleIsPresent
  nonzero : ∀ f, 0 ∉ e.rules f
  announced_eq : announced e.events = e.ruleIsPresent
  cleared : ∀ rules, .clearRules rules ∈ e.events → rules = []

/-- More events without a `ClearRules` that has removed something. -/
theorem WellFormed.of_events (h : WellFormed e) (events : List RuleEvent)
    (hdivided : Roster.Divided e'.rules e'.ruleIsPresent) (hnonzero : ∀ f, 0 ∉ e'.rules f)
    (hevents : e'.events = e.events ++ events)
    (hreplay : Journal.replay RuleEvent.apply e.ruleIsPresent events = e'.ruleIsPresent)
    (hcleared : ∀ rules, .clearRules rules ∈ events → rules = []) : WellFormed e' where
  divided := hdivided
  nonzero := hnonzero
  announced_eq := by
    rw [hevents, announced, Journal.replay_append, ← announced, h.announced_eq, hreplay]
  cleared rules hmem := by
    rw [hevents, List.mem_append] at hmem
    exact hmem.elim (h.cleared rules) (hcleared rules)

/-- An array that is replaced has no zero address when the new one has none. -/
theorem WellFormed.nonzero_update (h : WellFormed e) {rules : List Address} (hzero : 0 ∉ rules)
    (g : Family) : 0 ∉ Function.update e.rules f rules g := by
  rw [Roster.mem_update]
  split
  · exact hzero
  · exact h.nonzero g

theorem rules_clear (e : Engine Roles) (f : Family) :
    (e.clear f).rules = Function.update e.rules f [] := by
  rw [← Engine.rules_setArray]
  funext g
  cases g <;> rfl

theorem WellFormed.clear (h : WellFormed e) (f : Family) : WellFormed (e.clear f) := by
  have hflag (a : Address) : (e.clear f).ruleIsPresent a = true ↔
      a ∈ ([] : List Address) ∨ ∃ g, g ≠ f ∧ a ∈ e.rules g := by
    have hclear : (e.clear f).ruleIsPresent a =
        if a ∈ e.rules f then false else e.ruleIsPresent a := rfl
    rw [hclear, or_iff_right List.not_mem_nil]
    split
    · rename_i hmem
      -- a rule of the array is in no other one
      refine iff_of_false Bool.false_ne_true ?_
      rintro ⟨g, hne, hg⟩
      exact hne (h.divided.disjoint g f a hg hmem)
    · rename_i hnot
      rw [h.divided.flag_iff]
      constructor
      · rintro ⟨g, hg⟩
        exact ⟨g, fun heq => hnot (heq ▸ hg), hg⟩
      · rintro ⟨g, -, hg⟩
        exact ⟨g, hg⟩
  refine h.of_events ((e.rules f).reverse.flatMap
    (fun rule => [.removeRule rule, .removeRule rule]) ++ [.clearRules []]) ?_ ?_ ?_ ?_ ?_
  · rw [rules_clear]
    exact h.divided.replace List.nodup_nil (fun a ha => absurd ha List.not_mem_nil) hflag
  · rw [rules_clear]
    exact h.nonzero_update List.not_mem_nil
  · simp [Engine.clear]
  · -- the events clear the flags as the call does
    rw [Journal.replay_append, replay_removeRules]
    simp [Engine.clear, RuleEvent.apply]
  · intro rules hmem
    simpa using hmem

theorem WellFormed.emptied (h : WellFormed e) (f : Family) : WellFormed (e.emptied f) := by
  unfold Engine.emptied
  split
  · exact h.clear f
  · exact h

/-- Either way the array is empty then, and the other one as it was. -/
theorem rules_emptied (e : Engine Roles) (f : Family) :
    (e.emptied f).rules = Function.update e.rules f [] := by
  unfold Engine.emptied
  split
  · exact rules_clear e f
  · rename_i hempty
    have hnil : e.rules f = [] := List.length_eq_zero_iff.mp (Nat.eq_zero_of_not_pos hempty)
    rw [← hnil, Function.update_eq_self]

theorem WellFormed.setRules (h : WellFormed e) (hzero : 0 ∉ rules) (hnodup : rules.Nodup)
    (habsent : ∀ rule ∈ rules, (e.emptied f).ruleIsPresent rule = false) :
    WellFormed (((e.emptied f).mark rules).setArray rules f) := by
  have hemptied := h.emptied f
  have hrules : (((e.emptied f).mark rules).setArray rules f).rules =
      Function.update (e.emptied f).rules f rules := by
    rw [Engine.rules_setArray]
    congr 1
  have hempty : (e.emptied f).rules f = [] := by rw [rules_emptied, Function.update_self]
  refine hemptied.of_events (rules.map .addRule) ?_ ?_ ?_ ?_ ?_
  · rw [hrules, Engine.ruleIsPresent_setArray]
    refine hemptied.divided.replace hnodup ?_ ?_
    · intro a ha g _
      exact hemptied.divided.flag_eq_false.mp (habsent a ha) g
    · intro a
      -- a marked rule is in the new array; any other was in another array before
      have hmark : ((e.emptied f).mark rules).ruleIsPresent a =
          if a ∈ rules then true else (e.emptied f).ruleIsPresent a := rfl
      rw [hmark]
      split
      · rename_i hmem
        exact iff_of_true rfl (.inl hmem)
      · rename_i hnot
        rw [hemptied.divided.flag_iff, or_iff_right hnot]
        refine exists_congr fun g => ⟨fun hg => ⟨fun heq => ?_, hg⟩, And.right⟩
        rw [heq, hempty] at hg
        exact List.not_mem_nil hg
  · rw [hrules]
    exact hemptied.nonzero_update hzero
  · rw [Engine.events_setArray]
    rfl
  · rw [replay_addRules, Engine.ruleIsPresent_setArray]
    rfl
  · intro rules' hmem
    simp at hmem

theorem WellFormed.addRule (h : WellFormed e) (hzero : rule ≠ 0)
    (habsent : e.ruleIsPresent rule = false) :
    WellFormed (((e.setArray (e.rules f ++ [rule]) f).setPresent rule true).emit
      (.addRule rule)) := by
  -- the division, the zero address, the events, their replay, the announced clearings
  refine h.of_events [.addRule rule] ?_ ?_ ?_ ?_ ?_
  · simpa using h.divided.enlist habsent
  · simp only [Engine.rules_emit, Engine.rules_setPresent, Engine.rules_setArray]
    refine h.nonzero_update fun hmem => ?_
    rcases List.mem_append.mp hmem with hmem | hmem
    · exact h.nonzero f hmem
    · exact hzero (List.mem_singleton.mp hmem).symm
  · simp
  · simp [RuleEvent.apply]
  · intro rules hmem
    simp at hmem

theorem WellFormed.removeRule (h : WellFormed e) (hfound : (e.rules f)[index]? = some rule) :
    WellFormed ((((e.setArray (Roster.swapPop (e.rules f) index) f).setPresent rule false).emit
      (.removeRule rule)).emit (.removeRule rule)) := by
  -- as for an added rule, with the rule struck from its array
  refine h.of_events [.removeRule rule, .removeRule rule] ?_ ?_ ?_ ?_ ?_
  · simpa using h.divided.strike hfound
  · simp only [Engine.rules_emit, Engine.rules_setPresent, Engine.rules_setArray]
    refine h.nonzero_update fun hmem => ?_
    exact h.nonzero f ((Roster.mem_swapPop (h.divided.nodup f) hfound).mp hmem).1
  · simp
  · simp [RuleEvent.apply]
  · intro rules hmem
    simp at hmem

/-- Every call that commits keeps the invariant. -/
theorem WellFormed.manageRules (h : WellFormed e) (hcall : manageRules ac sender e call = .ok e') :
    WellFormed e' := by
  -- each function, by what it makes of the engine when it commits
  cases call with
  | setRules f rules =>
    obtain ⟨-, -, ⟨hzero, hnodup, habsent⟩, rfl⟩ := setRules_eq_ok.mp hcall
    exact h.setRules hzero hnodup habsent
  | clearRules f =>
    obtain ⟨-, rfl⟩ := clearRules_eq_ok.mp hcall
    exact h.clear f
  | addRule f rule =>
    obtain ⟨-, hzero, habsent, rfl⟩ := addRule_eq_ok.mp hcall
    exact h.addRule hzero habsent
  | removeRule f rule index =>
    obtain ⟨-, hfound, rfl⟩ := removeRule_eq_ok.mp hcall
    exact h.removeRule hfound

theorem WellFormed.withRoles (h : WellFormed e) (roles : Roles) :
    WellFormed { e with roles := roles } := by
  have hrules : ({ e with roles := roles } : Engine Roles).rules = e.rules := by
    funext g
    cases g <;> rfl
  exact ⟨hrules ▸ h.divided, hrules ▸ h.nonzero, h.announced_eq, h.cleared⟩

/-- A call of the package's functions for roles changes nothing else. -/
theorem manage_cases {tx : Address × ManagementCall} (h : manage ac e tx = .ok e') :
    (∃ call, tx.2 = .rules call ∧ manageRules ac tx.1 e call = .ok e') ∨
      ∃ roles, e' = { e with roles := roles } := by
  obtain ⟨sender, call⟩ := tx
  cases call with
  | rules call => exact .inl ⟨call, rfl, h⟩
  | grantRole | revokeRole | renounceRole =>
    obtain ⟨roles, -, rfl⟩ := setRoles_eq_ok.mp h
    exact .inr ⟨roles, rfl⟩

theorem WellFormed.manage {tx : Address × ManagementCall} (h : WellFormed e)
    (htx : manage ac e tx = .ok e') : WellFormed e' := by
  rcases manage_cases htx with ⟨call, -, hcall⟩ | ⟨roles, rfl⟩
  · exact h.manageRules hcall
  · exact h.withRoles roles

theorem wellFormed_construct {admin tokenContract : Address} {operatorRole tokenRole : Word}
    (h : construct ac admin tokenContract operatorRole tokenRole = .ok e) : WellFormed e := by
  unfold construct at h
  simp only [check_bind_eq_ok, pure_eq_ok] at h
  obtain ⟨-, rfl⟩ := h
  refine ⟨?_, ?_, rfl, ?_⟩
  · -- both arrays are empty
    convert Roster.divided_empty using 1
    funext g
    cases g <;> rfl
  · intro g
    cases g <;> exact List.not_mem_nil
  · exact fun rules hmem => absurd hmem List.not_mem_nil

/-! ## Two sets -/

/-- The rules of an engine, as two sets. -/
def Engine.sets (e : Engine Roles) (f : Family) : Set Address := { rule | rule ∈ e.rules f }

/-- What the two sets admit: new rules are not the zero address and in neither set, and only what
is in a set is removed from it. -/
def RuleCall.Admitted (sets : Family → Set Address) : RuleCall → Prop
  | .setRules f rules =>
    rules ≠ [] ∧ rules.Nodup ∧ 0 ∉ rules ∧ ∀ rule ∈ rules, ∀ g, g ≠ f → rule ∉ sets g
  | .clearRules _ => True
  | .addRule _ rule => rule ≠ 0 ∧ ∀ g, rule ∉ sets g
  | .removeRule f rule _ => rule ∈ sets f

/-- What becomes of the two sets. -/
def RuleCall.result (sets : Family → Set Address) : RuleCall → Family → Set Address
  | .setRules f rules => Function.update sets f { rule | rule ∈ rules }
  | .clearRules f => Function.update sets f ∅
  | .addRule f rule => Function.update sets f (insert rule (sets f))
  | .removeRule f rule _ => Function.update sets f (sets f \ {rule})

/-- A removal points at the place of the rule in the array. -/
def RuleCall.Points (e : Engine Roles) : RuleCall → Prop
  | .removeRule f rule index => (e.rules f)[index]? = some rule
  | _ => True

/-- New rules find no flag set when they are in no other array than the one they replace. -/
theorem WellFormed.absent_iff (h : WellFormed e) :
    (e.emptied f).ruleIsPresent rule = false ↔ ∀ g, g ≠ f → rule ∉ e.sets g := by
  rw [(h.emptied f).divided.flag_eq_false, rules_emptied]
  refine forall_congr' fun g => ?_
  rw [Roster.mem_update]
  split
  · rename_i hg
    exact iff_of_true List.not_mem_nil fun hne => absurd hg hne
  · rename_i hne
    exact ⟨fun hnot _ => hnot, fun hnot => hnot hne⟩

/-- **When a call commits**: when an operator makes it, the sets admit it, and a removal points at
the rule. -/
theorem WellFormed.commits_iff (h : WellFormed e) :
    (∃ e', RuleEngine.manageRules ac sender e call = .ok e') ↔
      hasRole ac e.roles e.ruleEngineOperatorRole sender = true ∧ call.Admitted e.sets ∧
        call.Points e := by
  -- the flags are read as sets, and the checks become conditions on these
  cases call with
  | setRules f rules =>
    simp only [RuleEngine.manageRules, setRules_eq_ok, h.absent_iff, RuleCall.Admitted,
      RuleCall.Points, and_true]
    constructor
    · rintro ⟨_, hoperator, hne, ⟨hzero, hnodup, habsent⟩, rfl⟩
      exact ⟨hoperator, hne, hnodup, hzero, habsent⟩
    · rintro ⟨hoperator, hne, hnodup, hzero, habsent⟩
      exact ⟨_, hoperator, hne, ⟨hzero, hnodup, habsent⟩, rfl⟩
  | clearRules f =>
    simp [RuleEngine.manageRules, clearRules_eq_ok, RuleCall.Admitted, RuleCall.Points]
  | addRule f rule =>
    simp only [RuleEngine.manageRules, addRule_eq_ok, h.divided.flag_eq_false, RuleCall.Admitted,
      RuleCall.Points, and_true]
    constructor
    · rintro ⟨_, hoperator, hzero, habsent, rfl⟩
      exact ⟨hoperator, hzero, habsent⟩
    · rintro ⟨hoperator, hzero, habsent⟩
      exact ⟨_, hoperator, hzero, habsent, rfl⟩
  | removeRule f rule index =>
    simp only [RuleEngine.manageRules, removeRule_eq_ok, RuleCall.Admitted, RuleCall.Points]
    constructor
    · rintro ⟨_, hoperator, hfound, rfl⟩
      exact ⟨hoperator, List.mem_of_getElem? hfound, hfound⟩
    · rintro ⟨hoperator, -, hfound⟩
      exact ⟨_, hoperator, hfound, rfl⟩

/-- The sets, after an array has been replaced. -/
theorem sets_update {rules : List Address} (hrules : e'.rules = Function.update e.rules f rules) :
    e'.sets = Function.update e.sets f { rule | rule ∈ rules } := by
  funext g
  ext rule
  have hmem : rule ∈ e'.sets g ↔ rule ∈ e'.rules g := Iff.rfl
  rw [hmem, hrules, Roster.mem_update, Function.update_apply]
  split
  · exact Iff.rfl
  · exact Iff.rfl

/-- **What a call does**: to the sets what the call says. -/
theorem WellFormed.sets_eq (h : WellFormed e)
    (hcall : RuleEngine.manageRules ac sender e call = .ok e') :
    e'.sets = call.result e.sets := by
  cases call with
  | setRules f rules =>
    obtain ⟨-, -, -, rfl⟩ := setRules_eq_ok.mp hcall
    have hmark : ((e.emptied f).mark rules).rules = (e.emptied f).rules := by
      funext g
      cases g <;> rfl
    refine sets_update ?_
    rw [Engine.rules_setArray, hmark, rules_emptied, Function.update_idem]
  | clearRules f =>
    obtain ⟨-, rfl⟩ := clearRules_eq_ok.mp hcall
    rw [sets_update (rules_clear e f)]
    simp [RuleCall.result]
  | addRule f rule =>
    obtain ⟨-, -, -, rfl⟩ := addRule_eq_ok.mp hcall
    have hset : { a | a ∈ e.rules f ++ [rule] } = insert rule (e.sets f) := by
      ext a
      simp [Engine.sets, or_comm]
    rw [RuleCall.result, ← hset]
    exact sets_update (by simp)
  | removeRule f rule index =>
    obtain ⟨-, hfound, rfl⟩ := removeRule_eq_ok.mp hcall
    -- the last rule takes the place of the removed one, which a set does not see
    have hset : { a | a ∈ Roster.swapPop (e.rules f) index } = e.sets f \ {rule} := by
      ext a
      exact Roster.mem_swapPop (h.divided.nodup f) hfound
    rw [RuleCall.result, ← hset]
    exact sets_update (by simp)

/-! ## Leaving a set -/

/-- The call takes a rule out of a set. -/
def RuleCall.TakesOut (f : Family) (rule : Address) : RuleCall → Prop
  | .setRules g rules => g = f ∧ rule ∉ rules
  | .clearRules g => g = f
  | .addRule _ _ => False
  | .removeRule g found _ => g = f ∧ found = rule

/-- The invariant after a run. -/
theorem WellFormed.run (h : WellFormed e) (txs : List (Address × ManagementCall)) :
    WellFormed (Run.run (RuleEngine.manage ac) e txs) :=
  Run.run_invariant (A := fun _ => True) (fun _ _ _ _ h htx => h.manage htx) h
    fun _ _ => trivial

/-- **The rules of an engine are two sets**: after every sequence of management calls by any
accounts, the arrays, the flags and the log agree, a call that manages the rules commits if and
only if an operator makes it, the two sets admit it and a removal points at the rule, and it
does to the sets what it says. -/
theorem rules_are_sets {admin tokenContract : Address} {operatorRole tokenRole : Word}
    {new : Engine Roles}
    (hnew : construct ac admin tokenContract operatorRole tokenRole = .ok new)
    (txs : List (Address × ManagementCall)) :
    let e := Run.run (manage ac) new txs
    WellFormed e ∧ ∀ sender (call : RuleCall),
      ((∃ e', manageRules ac sender e call = .ok e') ↔
        hasRole ac e.roles e.ruleEngineOperatorRole sender = true ∧ call.Admitted e.sets ∧
          call.Points e) ∧
      ∀ e', manageRules ac sender e call = .ok e' → e'.sets = call.result e.sets := by
  have hkept : WellFormed (Run.run (manage ac) new txs) := (wellFormed_construct hnew).run txs
  exact ⟨hkept, fun sender call => ⟨hkept.commits_iff, fun _ hcall => hkept.sets_eq hcall⟩⟩

/-- An engine constructed by administrator 3 for the token at address 8. -/
def freshEngine : Engine AccessControl.RoleFlags where
  rulesValidation := []
  rulesOperation := []
  tokenContractRole := 2
  roles := AccessControl.setFlag (AccessControl.setFlag (fun _ _ => false) 2 8 true) 0 3 true
  ruleEngineOperatorRole := 1
  ruleIsPresent _ := false
  events := []

theorem construct_freshEngine : construct .flags 3 8 1 2 = .ok freshEngine := rfl

/-- Rules 7 and 5 replace rule 5, and are not admitted as operation rules. -/
theorem rules_are_sets_fresh :
    let e := Run.run (manage .flags) freshEngine
      [(3, .rules (.addRule .validation 5)), (4, .rules (.clearRules .validation)),
        (3, .rules (.setRules .validation [7, 5]))]
    announced e.events = e.ruleIsPresent ∧ e.rulesValidation = [7, 5] ∧
      ¬ ∃ e', manageRules .flags 3 e (.addRule .operation 5) = .ok e' := by
  obtain ⟨hkept, hcalls⟩ := rules_are_sets construct_freshEngine
    [(3, .rules (.addRule .validation 5)), (4, .rules (.clearRules .validation)),
      (3, .rules (.setRules .validation [7, 5]))]
  refine ⟨hkept.announced_eq, rfl, fun hcommits => ?_⟩
  -- rule 5 is a validation rule already, so it cannot become an operation rule
  obtain ⟨-, hadmitted, -⟩ := (hcalls 3 (.addRule .operation 5)).1.mp hcommits
  exact hadmitted.2 .validation (List.mem_cons_of_mem 7 List.mem_cons_self)

/-- A rule is always removed from the place where it is found. -/
theorem WellFormed.removes (h : WellFormed e)
    (hoperator : hasRole ac e.roles e.ruleEngineOperatorRole sender = true)
    (hrule : rule ∈ e.rules f) : ∃ e', RuleEngine.manageRules ac sender e
      (.removeRule f rule (RuleInternal.getRuleIndex rule (e.rules f))) = .ok e' ∧
        rule ∉ e'.rules f := by
  have hadmitted : (RuleCall.removeRule f rule
      (RuleInternal.getRuleIndex rule (e.rules f))).Admitted e.sets := hrule
  obtain ⟨e', hcommits⟩ := h.commits_iff.mpr
    ⟨hoperator, hadmitted, RuleInternal.getElem?_getRuleIndex hrule⟩
  refine ⟨e', hcommits, fun hmem => ?_⟩
  have hsets : rule ∈ e'.sets f := hmem
  rw [h.sets_eq hcommits, RuleCall.result, Function.update_self] at hsets
  exact hsets.2 rfl

end RuleEngine

end RuleSelf
