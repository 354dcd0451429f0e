import StateLint.Text.Basic

namespace StateLint.ClientScript

open Text Reader

def actionCall : Reader String := do
  literal "bgaPerformAction"
  blanks
  literal "("
  blanks
  return .ofList (← quotedName)

def actionAddress : Reader String := do
  literal "/"
  let _ ← name
  literal "/"
  let _ ← name
  literal "/"
  let n ← name
  literal ".html"
  return .ofList n

-- The object that registers handlers, `bgaSetupPromiseNotifications({ ... })`, as what stands
-- between its braces. It ends with the first closing brace before a closing parenthesis.
def registration : Reader (List Char) := do
  literal "bgaSetupPromiseNotifications"
  blanks
  literal "("
  blanks
  literal "\x7b"
  upTo closing
where
  closing := do
    literal "\x7d"
    blanks
    literal ")"

def objectKey : Reader String := do
  let _ ← optional quote
  let n ← name
  let _ ← optional quote
  blanks
  literal ":"
  return .ofList n

def subscription : Reader String := do
  literal "notifqueue.subscribe"
  blanks
  literal "("
  blanks
  return .ofList (← quotedName)

def handlerMethod : Reader String := do
  literal "notif_"
  let n ← name
  blanks
  let _ ← one fun c => c == ':' || c == '('
  return .ofList n

-- The actions that a script calls, as they are written: the calls first, then the addresses.
-- Neither shape can start within another one of its kind.
def calledActions (text : String) : List String :=
  let chars := text.toList
  (actionCall.anywhere.places chars ++ actionAddress.anywhere.places chars).eraseDups

-- The notifications that a script handles: those of the first registration that is complete, then
-- those registered by themselves, then those with a method.
def handledNotifications (text : String) : List String :=
  let chars := text.toList
  let registered :=
    match registration.anywhere.find? chars with
    | some (members, _) => objectKey.anywhere.findAll members
    | none => []
  (registered ++ subscription.anywhere.places chars ++
    handlerMethod.atWordStart.places chars).eraseDups

end StateLint.ClientScript
