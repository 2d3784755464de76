import StackCall.Binding

set_option autoImplicit false

namespace StackCall

structure Profile where
  since : String := ""
  deprecated : String := ""
  deleted : String := ""
  version : String := ""
  tags : List String := []
  related : List String := []
  examples : List String := []
  conf : List String := []

-- A function may stand under another name than the one that its faults give.
structure Function where
  signature : Signature
  body : Arguments → StackM Unit
  name : String := signature.function
  description : String := ""
  unitTests : List String := []
  outputs : List Parameter := []
  profile : Profile := {}

namespace Function

def call (function : Function) : StackM Unit := do
  let arguments ← function.signature.bind
  function.body arguments

end Function

end StackCall
