/-
  What is done about signals: `trap`.
-/
import FlowLens.Shell.Builtin.Jobs

namespace FlowLens

namespace Shell

/-! ## Traps -/

/-- Sets or shows what is done at signals. -/
def trapCommand (args : List Octets) : Act Nat := do
  let (_, words) ← splitOptions [] args
  let s ← get
  let setAll (action : Option Octets) (signals : List Octets) : Act Nat :=
    signals.foldlM
      (fun status t => do
        if status ≠ 0 then return status
        else
          match signalOf? 0 t with
          | none =>
            discard (emit 2 ("trap: " ++ t ++ ": bad trap\n"))
            return 1
          | some n =>
            modify fun s =>
              { s with
                traps := s.traps.filter (·.1 ≠ n) ++ (action.map fun a => (n, a)).toList }
            return 0)
      0
  match words with
  | [] =>
    (List.range signalLimit).forM fun n =>
      match s.traps.lookup n with
      | some action => put ("trap -- " ++ inQuotes action ++ " " ++ signalName n ++ "\n")
      | none => pure ()
    return 0
  | [only] => setAll none [only]
  | first :: rest =>
    if (Octets.toNat? first).any (· < signalLimit) then setAll none words
    else setAll (if first = "-" then none else some first) rest

end Shell

end FlowLens
