import StateLint.CommandLine.Invocation
import StateLint.Failure

namespace StateLint.CommandLine

inductive Tone where
  | success
  | failure
  | warning
  | info
  deriving DecidableEq, Repr

namespace Tone

def word : Tone → String
  | success => "PASS"
  | failure => "FAIL"
  | warning => "WARN"
  | info => "INFO"

def symbol : Tone → String
  | success => "✓"
  | failure => "✗"
  | warning => "⚠"
  | info => "ℹ"

def colorCode : Tone → String
  | success => "32"
  | failure => "31"
  | warning => "33"
  | info => "34"

def painted (t : Tone) : String :=
  s!"\x1b[{t.colorCode}m\x1b[1m{t.symbol}\x1b[0m"

end Tone

inductive Notice where
  | status (tone : Tone) (text : String)
  -- Why the run failed.
  | reason (f : Failure)
  deriving DecidableEq, Repr

namespace Notice

def isLoud : Notice → Bool
  | status tone _ => tone = .failure
  | reason _ => true

def line (painted : Bool) : Notice → String
  | status tone text => s!"{if painted then tone.painted else tone.word} {text}\n"
  | reason f => s!"Error: {f.message}\n"

end Notice

structure Transcript where
  output : String
  notices : List Notice
  failed : Bool
  deriving DecidableEq, Repr

namespace Transcript

def nothing : Transcript := ⟨"", [], false⟩

def printed (text : String) : Transcript :=
  ⟨if text.toList.getLast? = some '\n' then text else text ++ "\n", [], false⟩

def told (tone : Tone) (text : String) : Transcript :=
  ⟨"", [.status tone text], false⟩

def stopped (f : Failure) : Transcript :=
  ⟨"", [.reason f], true⟩

def append (s t : Transcript) : Transcript :=
  ⟨s.output ++ t.output, s.notices ++ t.notices, s.failed || t.failed⟩

instance : Append Transcript := ⟨append⟩

def after {α : Type} (result : Except Failure α) (next : α → Transcript) : Transcript :=
  match result with
  | .ok a => next a
  | .error f => stopped f

-- What is told, as it looks in this presentation. No output is taken for a terminal, so only
-- `always` paints.
def telling (t : Transcript) (p : Presentation) : String :=
  String.join
    ((t.notices.filter fun n => n.isLoud || !p.quiet).map (Notice.line (p.color = .always)))

end Transcript
end StateLint.CommandLine
