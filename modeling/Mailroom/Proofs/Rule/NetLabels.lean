import Mailroom.Proofs.Rule.RowOrder

/-!
# The labels after a rule

An action assigns to a label or leaves it alone: a move sets the label that its name
stands for, and clears that of the inbox unless the two are the same; reading clears
the label of messages not read, and marking unread sets it. Actions may contradict
each other, and a name may stand for one of the system's labels. On each message
that a rule is about, the last action that assigns to a label decides about it, and a
label that none assigns to is as it was. That is the whole effect on the mailbox,
and the message's row is that of the message as it is now.
-/

namespace Mailroom

namespace Rule

open Mailroom.Mailbox (provider Found)
open Mailroom.Store (Row Tables)

/-! ## One action -/

end Rule

end Mailroom
