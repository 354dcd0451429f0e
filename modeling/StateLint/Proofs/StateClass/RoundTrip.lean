import StateLint.Proofs.StateClass.Member
import StateLint.Proofs.Transitions

namespace StateLint.StateClass

open Text

variable {c : Content} {style : Style}

end StateLint.StateClass
