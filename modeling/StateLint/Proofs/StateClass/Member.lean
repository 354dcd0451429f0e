import StateLint.Proofs.StateClass.Argument
import StateLint.Proofs.Text.Words

namespace StateLint.StateClass

open List (not_mem_append)
open Text Reader

variable {s t : List Char} {c : Content} {style : Style}

theorem Style.blank_line : ∀ c ∈ '\n' :: style.gap .method, isBlank c :=
  List.forall_mem_cons.mpr ⟨rfl, style.blank .method⟩

end StateLint.StateClass
