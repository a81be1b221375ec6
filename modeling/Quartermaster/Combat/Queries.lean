import Quartermaster.Api.Platform
import Quartermaster.Combat.Log

/-!
What can be asked of the platform about combat logs.
-/

namespace Quartermaster.Combat.Endpoints

open Api (Endpoint)
open Http (Draft)

def analysis (log : String) : Endpoint Log where
  label := "Error analizing log"
  draft := .post "/api/combatlog/" .plainText (Text.utf8 log.toList)
  explains := false
  answer := Log.codec

/-- Analyses a compressed log, of a fitting or a fleet if their numbers are positive. -/
def zippedAnalysis (log : Text.Bytes) (fitting fleet : Option Int64) : Endpoint Log where
  label := "Error analizing log"
  draft :=
    (Draft.post "/api/combatlog" .gzip log).withQuery
      (Api.positiveQuery [("fitting_id", fitting), ("fleet_id", fleet)])
  explains := false
  answer := Log.codec

end Quartermaster.Combat.Endpoints
