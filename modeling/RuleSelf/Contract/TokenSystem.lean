import RuleSelf.Contract.RuleManagement
import RuleSelf.Contract.System

/-!
# A Token's Rules

RuleSelf as a rule of an engine in operation: operators manage the rules, a token announces
transfers, and everything the deployed system allows goes on in between. The other rules
are any contracts; an operation rule changes their state only.
-/

namespace RuleSelf

open Evm Revert RuleEngine

/-! ## Transactions -/

/-- What is fixed of the system: the deployment of RuleSelf, the package's `AccessControl` under
the engine, and the other rules. -/
structure TokenDeployment (Roles EngineRoles σ : Type) extends Deployment Roles where
  engineAccess : AccessControl EngineRoles
  others : RuleContracts σ

/-- RuleSelf with the hub and the registries, the engine, and the state of the other rules. -/
@[ext] structure TokenSystem (Roles EngineRoles σ : Type) where
  world : World Roles
  engine : Engine EngineRoles
  others : σ

/-- A transaction of the system. -/
inductive TokenTransaction (σ : Type) where
  /-- A transaction of RuleSelf, the hub or the registries. -/
  | world (tx : Transaction)
  /-- A management call of the engine. -/
  | engine (tx : Address × ManagementCall)
  | transferred (msgSender sender recipient : Address) (amount : Word)
  | transferredFrom (msgSender spender sender recipient : Address) (amount : Word)
  /-- Whatever happens to the other rules. -/
  | others (state : σ)

/-- An account announces a transfer, by one of the two overloads of `transferred`. -/
inductive TokenTransaction.Announces {σ : Type} (msgSender sender recipient : Address)
    (amount : Word) : TokenTransaction σ → Prop where
  | transferred : Announces msgSender sender recipient amount
    (.transferred msgSender sender recipient amount)
  | transferredFrom (spender : Address) : Announces msgSender sender recipient amount
    (.transferredFrom msgSender spender sender recipient amount)

variable {Roles EngineRoles σ : Type}

namespace TokenSystem

/-- RuleSelf just constructed, next to an engine and other rules. -/
def deploy (dep : TokenDeployment Roles EngineRoles σ) (hub : IdentityVerificationHub.Storage)
    (registries : Registries) (engine : Engine EngineRoles) (others : σ) :
    TokenSystem Roles EngineRoles σ where
  world := World.deploy dep.toDeployment hub registries
  engine := engine
  others := others

/-- The contracts the engine calls. RuleSelf is no operation rule: a call of the
`operateOnTransfer` it does not have reverts. -/
def contracts (dep : TokenDeployment Roles EngineRoles σ) (w : TokenSystem Roles EngineRoles σ) :
    RuleContracts σ where
  rule state := withRuleSelf dep.ruleSelf w.world.ruleSelf (dep.others.rule state)
  operateOnTransfer a sender recipient amount state :=
    if a = dep.ruleSelf then .error .abiDecode
    else dep.others.operateOnTransfer a sender recipient amount state

/-- Executes a transaction. -/
def exec (dep : TokenDeployment Roles EngineRoles σ) (w : TokenSystem Roles EngineRoles σ) :
    TokenTransaction σ → Except ManagementError (TokenSystem Roles EngineRoles σ)
  | .world tx => do
    let world ← other (w.world.exec dep.toDeployment tx)
    return { w with world }
  | .engine tx => do
    let engine ← manage dep.engineAccess w.engine tx
    return { w with engine }
  | .transferred msgSender sender recipient amount => do
    let others ← other (transferred w.engine.toStorage dep.engineAccess (w.contracts dep)
      msgSender sender recipient amount w.others)
    return { w with others }
  | .transferredFrom msgSender spender sender recipient amount => do
    let others ← other (transferredFrom w.engine.toStorage dep.engineAccess (w.contracts dep)
      msgSender spender sender recipient amount w.others)
    return { w with others }
  | .others others => return { w with others }

/-- The system after a list of transactions, reverting ones included. -/
def run (dep : TokenDeployment Roles EngineRoles σ) (w : TokenSystem Roles EngineRoles σ)
    (txs : List (TokenTransaction σ)) : TokenSystem Roles EngineRoles σ :=
  Run.run (exec dep) w txs

/-! ## Components -/

variable {dep : TokenDeployment Roles EngineRoles σ} {w w' : TokenSystem Roles EngineRoles σ}
  {tx : TokenTransaction σ}

end TokenSystem

end RuleSelf
