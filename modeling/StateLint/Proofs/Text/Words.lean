import StateLint.Text.Basic

namespace StateLint.Text

variable {s t w b : List Char}

end StateLint.Text
