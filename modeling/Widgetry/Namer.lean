import Widgetry.Tree.Place
import Widgetry.Text.Identifier

/-! Names of runtime instances. An author may declare a name in the `instance` attribute; every
other instance is numbered. No name is given out twice: numbers skip names that are taken, and
declaring a taken name is a fault. -/

namespace Widgetry

/-- The names given out so far and the number to try next. -/
structure Namer where
  next : Nat := 0
  taken : List String := []
  deriving DecidableEq

namespace Namer

/-- The attribute in which a name is declared. -/
def declaration : String := "instance"

def numbered (n : Nat) : String := "rt" ++ toString n

/-- The first number from `n` on whose name is free, looked for at most `fuel` times. -/
def freeFrom (taken : List String) : Nat → Nat → Nat
  | 0, n => n
  | fuel + 1, n => if taken.contains (numbered n) then freeFrom taken fuel (n + 1) else n

/-- The number that the next instance without a declared name gets. Of the numbers tried at most as
many are taken as there are names. -/
def free (m : Namer) : Nat := freeFrom m.taken m.taken.length m.next

/-- The name of an instance, and the namer that knows it. -/
def name (m : Namer) (p : Place) : Except Fault (String × Namer) :=
  let declared := (p.attribute? declaration).getD ""
  if declared.isEmpty then
    .ok (numbered m.free, ⟨m.free + 1, m.taken ++ [numbered m.free]⟩)
  else
    let name := Text.camelCase declared
    if !Text.isIdentifier name then .error (p.fault (.badName declared))
    else if m.taken.contains name then .error (p.fault (.takenName declared name))
    else .ok (name, { m with taken := m.taken ++ [name] })

/-- The names of several instances in turn; a fault leaves the namer as it was. -/
def names : Namer → List Place → List (Except Fault String)
  | _, [] => []
  | m, p :: ps =>
    match m.name p with
    | .ok (name, m) => .ok name :: names m ps
    | .error fault => .error fault :: names m ps

end Namer

end Widgetry
