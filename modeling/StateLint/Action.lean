namespace StateLint.Action

-- An action goes by several names: the method `actPlayCard` implements `playCard`, and client code
-- may call either. So `act` is stripped before an ASCII capital, which becomes lower-case, for as
-- long as there is one.
def normalize (name : List Char) : List Char :=
  match name with
  | 'a' :: 'c' :: 't' :: c :: cs => if c.isUpper then normalize (c.toLower :: cs) else name
  | _ => name
termination_by name.length

def methodName (name : List Char) : List Char :=
  match normalize name with
  | [] => ['a', 'c', 't']
  | c :: cs => 'a' :: 'c' :: 't' :: c.toUpper :: cs

def normalName (name : String) : String :=
  .ofList (normalize name.toList)

def method (name : String) : String :=
  .ofList (methodName name.toList)

end StateLint.Action
