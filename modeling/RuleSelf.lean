import RuleSelf.Contract.Registrable
import RuleSelf.Library.Abi
import RuleSelf.Library.Matching
import RuleSelf.Library.Revert
import RuleSelf.Library.Run
import RuleSelf.Properties.Addresses
import RuleSelf.Properties.Binding
import RuleSelf.Properties.Compliance
import RuleSelf.Properties.Enforcement
import RuleSelf.Properties.Nationality
import RuleSelf.Properties.Provenance
import RuleSelf.Properties.Registry
import RuleSelf.Properties.Uniqueness
import RuleSelf.Properties.Acceptance
import RuleSelf.Properties.Transfers
import RuleSelf.Library.Calendar
import RuleSelf.Self.CurrentDate
import RuleSelf.Properties.Freshness
import RuleSelf.Contract.Roles
import RuleSelf.Properties.Authority
import RuleSelf.Properties.RoleHistory
import RuleSelf.Properties.Competition
import RuleSelf.Properties.EventOrigin
import RuleSelf.Properties.Evasion
import RuleSelf.Properties.Disclosure
import RuleSelf.Properties.Screening
import RuleSelf.Properties.Hubs
import RuleSelf.Properties.Countries
import RuleSelf.Contract.RuleManagement
import RuleSelf.Properties.Rules
import RuleSelf.Library.Roster
import RuleSelf.Contract.TokenSystem
import RuleSelf.Properties.Holders
