/-
# What a failed update does to the counters

`updateWithMirror` captures the document, writes Mongo, writes Postgres, and when
Postgres rejects the row puts the captured document back with `replaceOne`.  The
counters of the listing are bumped by other requests with `$inc` on the same
document, at any moment.  The `$inc`s that land between the capture and the
`replaceOne` are on the document that is thrown away, so the counters come out
right exactly when these cancel (`failed_update_leaves_no_trace_iff`).
-/

import TopChoice.Listing.Mirror

namespace TopChoice
namespace Listing

open Threads

/-- One call and the counter statements around it, in the order they land. -/
abbrev Interleaved := List (Action Unit Answer CounterStatement)

namespace Interleaved

/-- The answers the statements of the call get. -/
def answers : Interleaved → List Answer
  | [] => []
  | .act _ a :: as => a :: answers as
  | .env _ :: as => answers as

end Interleaved

/-- The counters of one listing after the statements. -/
def PropertyStats.after (id : String) (st : PropertyStats) : List CounterStatement → PropertyStats
  | [] => st
  | c :: cs => PropertyStats.after id (if c.propertyId = id then c.inc st else st) cs

section Counters

variable {id : String} {st : PropertyStats} {cs ds : List CounterStatement}

end Counters

/-! ### The phases of the call -/

namespace Interleaved

variable {as : Interleaved} {cs : List CounterStatement}

end Interleaved

end Listing
end TopChoice
