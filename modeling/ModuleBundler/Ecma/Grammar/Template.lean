import ModuleBundler.Ecma.Grammar.Basic

namespace ModuleBundler.Ecma.Grammar

open Reader

def templatePart : Reader TemplatePart := do
  check ((← token).isMark .closeBrace)
  match readTemplate true .plain (← rest) with
  | some (part, cs) =>
    jump cs
    return part
  | none => failure

/-- Reads a template, and what stands between braces in it with the given reader. Where a
function takes the template, its escapes may be wrong. -/
def template (limit : Nat) (tagged : Bool) (inner : Reader Node) : Reader Node := do
  match (← token).kind with
  | .template first =>
    check (tagged || first.valid)
    advance
    if first.closed then return Node.leaf
    else
      let read : List Node × Bool → Reader (Option (List Node × Bool)) := fun (seen, closed) => do
        if closed then return none
        else
          let node ← enclosed inner
          let part ← templatePart
          check (tagged || part.valid)
          return some (node :: seen, part.closed)
      let (seen, _) ← iterate read limit ([], false)
      return Node.group seen.reverse
  | _ => failure

end ModuleBundler.Ecma.Grammar
