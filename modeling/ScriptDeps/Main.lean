import ScriptDeps.Json.Reader
import ScriptDeps.Program
import Std.Time.DateTime.Timestamp

open ScriptDeps

/-! # Running the program

The words come from the command line. What else a run finds around it comes from the first line of
standard input, as a JSON object: the variables of the environment under `environment` and the
contents of files under `files`, both by name, and the reply of the cluster under `status` and
`body`. What is left out is empty; without a body, every request fails.
-/

namespace ScriptDeps.Program

/-- The texts of an object by their names. -/
def textMembers (j : Json) (name : String) : List (Text × Text) :=
  match j.get? name with
  | some (.object members) => members.filterMap fun (k, v) =>
    match v with
    | .string t => some (k, t)
    | _ => none
  | _ => []

/-- The reply of the cluster. -/
def replyOfJson (j : Json) : Cluster.Reply :=
  let status := match j.get? "status" with
    | some (.int n) => n
    | _ => 200
  match j.get? "body" with
  | some (.string t) => .response status (Text.encode t)
  | _ => .failure (.network "ConnectError" (Text.lit "no reply was given"))

/-- The surroundings that an object describes. -/
def Surroundings.ofJson (j : Json) : Surroundings :=
  let files := (textMembers j "files").map fun f => (Path.ofText f.1, Text.encode f.2)
  let tree := Entry.ofFiles files
  let profilePath := Text.lit ".webtask"
  { environment := textMembers j "environment"
    profilePath
    profiles := match tree.find (.ofText profilePath) with
      | .entry (.file content) => .bytes content
      | .entry (.directory _) => .directory
      | _ => .missing
    find := tree.find
    reply := replyOfJson j }

/-- The code that the program ends with. -/
def Run.exitCode (r : Run) : Nat := r.ending.code?.getD 1

/-- What the program writes for a fault. -/
def Run.faultText (r : Run) : Text :=
  match r.ending with
  | .fault f => f.message ++ [0x0A]
  | _ => []

end ScriptDeps.Program

/-- Runs the program. -/
def main (args : List String) : IO UInt32 := do
  let line ← (← IO.getStdin).getLine
  let around := (Json.read (Text.lit line)).toOption.getD .null
  let run := Program.run (.ofJson around) (args.map Text.lit)
  let now := (← Std.Time.Timestamp.now).toMillisecondsSinceUnixEpoch.val
  let time : Log.Moment := ⟨Int.fdiv now 1000, Int.fmod now 1000⟩
  let stderr ← IO.getStderr
  IO.print run.ending.output.asString
  stderr.putStr (run.messages (← stderr.isTty) time.text ++ run.faultText).asString
  return UInt32.ofNat run.exitCode
