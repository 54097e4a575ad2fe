import Dunning.Overdue.RefreshHandler

/-!
# The handler of billing dates

On a billing date the invoices of the account are generated, and then the account is looked at with
its new balance.
-/

namespace Dunning.BillingDate

/-- Have an account looked at after its invoices were generated. -/
def lookAfter (item : Item) (now : Instant) : HandlerProgram :=
  (Program.enqueue (refreshItem item.owner now "invoices generated")).bind fun
    | .ok _ => pure (.ok .done)
    | .error error => pure (.error (.transient error.message))

/-- Generate the invoices of an account. -/
def generate (item : Item) (account : AccountId) (targetDate now : Instant) : HandlerProgram :=
  (Program.generateInvoices account targetDate).bind fun
    | .ok _ => lookAfter item now
    | .error error => pure (.error (.transient error.message))

/-- Handle an item of the queue of billing dates. Nothing is done for a closed account. -/
def handle (item : Item) (context : HandlerContext) : HandlerProgram :=
  if context.ownerCancelled then pure (.ok .done)
  else
    match BillingDatePayload.decode? item.payload.toNode, ownerAccount? item.owner with
    | none, _ => pure (.error (.permanent "malformed billing date payload: no target date"))
    | some _, none => pure (.error (.permanent (notAnAccount item.owner)))
    | some payload, some account => generate item account payload.targetDate context.now

end Dunning.BillingDate
