namespace StateLint

inductive Json where
  | null
  | bool (b : Bool)
  | int (n : Int)
  -- A number that is not written as an integer, as its text.
  | real (text : String)
  | str (s : String)
  | arr (items : List Json)
  | obj (members : List (String × Json))
  deriving Inhabited, Repr

namespace Json

def member? (members : List (String × Json)) (key : String) : Option Json :=
  (members.reverse.find? (·.1 = key)).map (·.2)

def get? (j : Json) (key : String) : Option Json :=
  match j with
  | obj members => member? members key
  | _ => none

def strs (xs : List String) : Json :=
  arr (xs.map str)

def str? (x : Option String) : Json :=
  x.elim null str

def nat (n : Nat) : Json :=
  int n

end Json
end StateLint
