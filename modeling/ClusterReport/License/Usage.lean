/-
**License usage.**

The license of a cluster is measured by the unique data it stores: its data without replicas and
without what is kept for every record beside it.  The usage of the cluster and of each namespace is
the latest figure, and where the figures come from samples over time also when that was, and the
least, the greatest and the mean figure.

Main definitions:

* `ClusterReport.LicenseUsage` — the usage of the cluster or of a namespace.
-/

import ClusterReport.Json.Basic
import ClusterReport.Timestamp

set_option relaxedAutoImplicit false
set_option autoImplicit false

namespace ClusterReport

/-- What is known of the unique data of a cluster or a namespace. -/
structure LicenseUsage where
  latest : Int := 0
  latestTime : Option Timestamp := none
  least : Option Int := none
  greatest : Option Int := none
  mean : Option Int := none
deriving DecidableEq

/-- The document of a usage; what is missing is left out. -/
def LicenseUsage.toJson (u : LicenseUsage) : Json :=
  let optional (name : String) (value : Option Json) : List (String × Json) :=
    (value.map fun v => (name, v)).toList
  .object (
    [("latest", .int u.latest)]
    ++ optional "latest_time" (u.latestTime.map fun t => .str t.toShortText)
    ++ optional "min" (u.least.map .int)
    ++ optional "max" (u.greatest.map .int)
    ++ optional "avg" (u.mean.map .int))

end ClusterReport
