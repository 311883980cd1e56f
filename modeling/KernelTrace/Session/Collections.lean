import KernelTrace.Session.Basic

namespace KernelTrace

namespace Session

variable {S H K : Type} [DecidableEq K]

def removeCollection (session : Session S H K) (key : CollectionSpec K) :
    Except Fault (Session S H K) :=
  (session.collections.remove key).map fun collections => { session with collections }

def resetCollection (session : Session S H K) (key : CollectionSpec K) :
    Except Fault (Session S H K) :=
  (session.collections.reset key).map fun collections => { session with collections }

def dropDense (session : Session S H K) : Nat × Session S H K :=
  let (released, collections) := session.collections.dropDense
  (released, { session with collections })

variable [Condition K]

def addCollection (session : Session S H K) (key : CollectionSpec K) (entries : List Entry) :
    Except Fault (Session S H K) :=
  (session.stream key.stream).map fun _ =>
    { session with collections := session.collections.add key entries }

def firstFrom (session : Session S H K) (key : CollectionSpec K) (entries : List Entry)
    (window : Window) : Except Fault (Option Nat × Session S H K) :=
  (session.collections.firstFrom key entries window).map fun (found, collections) =>
    (found, { session with collections })

def lastUpTo (session : Session S H K) (key : CollectionSpec K) (entries : List Entry)
    (window : Window) : Except Fault (Option Nat × Session S H K) :=
  (session.collections.lastUpTo key entries window).map fun (found, collections) =>
    (found, { session with collections })

end Session

end KernelTrace
