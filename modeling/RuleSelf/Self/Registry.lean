import RuleSelf.Library.Words

/-!
# Identity Registries

The part of the two identity registries the pipeline can consult:
`IdentityRegistryImplV1` for passports and `IdentityRegistryIdCardImplV1` for ID
cards, with the roots of their commitment trees and of the OFAC trees.
-/

namespace RuleSelf

open Evm

namespace IdentityRegistryImplV1

/-- Storage of the passport registry. -/
structure Storage where
  rootTimestamps : Word → Word
  passportNoOfacRoot : Word
  nameAndDobOfacRoot : Word
  nameAndYobOfacRoot : Word

/-- Checks if the identity commitment Merkle tree had the given root. -/
def checkIdentityCommitmentRoot (s : Storage) (root : Word) : Bool :=
  s.rootTimestamps root ≠ 0

/-- Validates whether the provided OFAC roots match the stored values. -/
def checkOfacRoots (s : Storage) (passportNoRoot nameAndDobRoot nameAndYobRoot : Word) : Bool :=
  s.passportNoOfacRoot == passportNoRoot && s.nameAndDobOfacRoot == nameAndDobRoot &&
    s.nameAndYobOfacRoot == nameAndYobRoot

end IdentityRegistryImplV1

namespace IdentityRegistryIdCardImplV1

/-- Storage of the ID card registry. -/
structure Storage where
  rootTimestamps : Word → Word
  nameAndDobOfacRoot : Word
  nameAndYobOfacRoot : Word

/-- Checks if the identity commitment Merkle tree had the given root. -/
def checkIdentityCommitmentRoot (s : Storage) (root : Word) : Bool :=
  s.rootTimestamps root ≠ 0

/-- Validates whether the provided OFAC roots match the stored values. -/
def checkOfacRoots (s : Storage) (nameAndDobRoot nameAndYobRoot : Word) : Bool :=
  s.nameAndDobOfacRoot == nameAndDobRoot && s.nameAndYobOfacRoot == nameAndYobRoot

end IdentityRegistryIdCardImplV1

/-- The registry contracts, by their addresses. -/
structure Registries where
  passport : Address → IdentityRegistryImplV1.Storage
  idCard : Address → IdentityRegistryIdCardImplV1.Storage

end RuleSelf
