import StateLint.Checks.CrossReference
import StateLint.Checks.Declaration
import StateLint.Checks.Graph

namespace StateLint.Checks

def battery (settings : Settings) (sources : Sources) (states : List StateDefinition) :
    List Diagnostic :=
  duplicateIds states ++
  brokenTransitions settings states ++
  unreachableStates settings states ++
  missingZombies states ++
  classNameMismatches states ++
  reservedNames settings states ++
  actionFindings sources states ++
  notificationFindings settings sources ++
  progressionFindings sources ++
  missingImports sources ++
  missingMethods sources states

end StateLint.Checks
