import ComponentViews.Shell.Utility.Backwards
import ComponentViews.Shell.Utility.Beside
import ComponentViews.Shell.Utility.Columns
import ComponentViews.Shell.Utility.Compare
import ComponentViews.Shell.Utility.Copying
import ComponentViews.Shell.Utility.Counting
import ComponentViews.Shell.Utility.Date
import ComponentViews.Shell.Utility.Diff
import ComponentViews.Shell.Utility.Digest
import ComponentViews.Shell.Utility.Dump
import ComponentViews.Shell.Utility.Ends
import ComponentViews.Shell.Utility.Expr
import ComponentViews.Shell.Utility.Grep
import ComponentViews.Shell.Utility.Listing
import ComponentViews.Shell.Utility.Merge
import ComponentViews.Shell.Utility.Naming
import ComponentViews.Shell.Utility.Numbering
import ComponentViews.Shell.Utility.Permission
import ComponentViews.Shell.Utility.Printing
import ComponentViews.Shell.Utility.Repeats
import ComponentViews.Shell.Utility.Scale
import ComponentViews.Shell.Utility.Sed.Run
import ComponentViews.Shell.Utility.Transfer
import ComponentViews.Shell.Utility.Translation
import ComponentViews.Shell.Utility.Verdict

/-! The programs that every system has and that start no others, by their names. -/

namespace ComponentViews.Shell.Utility

/-- Variables that programs see, each with its value. -/
def environment (state : State) : List (Octets × Octets) :=
  state.process.bindings.entries.filterMap fun (name, held) =>
    if held.exported then held.value.map (name, ·) else none

def printEnvironment (arguments : List Octets) (state : State) : State :=
  match arguments with
  | [] => state.succeed.print (Octets.ofLines ((environment state).map fun (name, value) => name ++ '=' :: value))
  | names => names.foldl (fun state name =>
      match (environment state).lookup name with
      | some value => state.print (value ++ ['\n'])
      | none => state.withStatus 1) state.succeed

/-- What a program says when its output could not be written, with the status that it ends with. -/
def tellUnwritten (program : String) (trouble : Trouble) (state : State) : State :=
  let say (text : String) (state : State) : State := complain program (.ofText text) state
  let reason := ": " ++ trouble.message
  let told := match program with
    | "cat" => if trouble = Trouble.closed then say ("standard output" ++ reason) state else say ("write error" ++ reason) state
    | "sed" => say ("couldn't " ++ (if trouble = Trouble.closed then "close" else "flush") ++ " stdout" ++ reason) state
    | "sort" => say "write error" (say ("fflush failed: 'standard output'" ++ reason) state)
    | "find" =>
      say ("write error" ++ if trouble = Trouble.closed then reason else "") (say ("'standard output'" ++ reason) state)
    | "awk" => say ("close failed on file /dev/stdout (" ++ trouble.message ++ ")") state
    | "tee" => say ("'standard output'" ++ reason) state
    | "dd" => say ("error writing 'standard output'" ++ reason) state
    | "rev" => if trouble = Trouble.closed then state else say ("write error" ++ reason) state
    | program =>
      if ["diff", "cmp", "yes"].contains program then say ("standard output" ++ reason) state
      else if trouble ≠ Trouble.closed && counting.contains program then
        say "write error" state
      else say ("write error" ++ reason) state
  match program with
  | "rev" => if trouble = Trouble.closed then state else told.withStatus 1
  | "awk" => told.withStatus 2
  | program => told.withStatus ((statuses.lookup program).getD 1)
where
  /-- Programs that do not tell why. -/
  counting : List String := ["wc", "sum", "cksum", "md5sum", "sha1sum", "sha224sum", "sha256sum", "sha384sum", "sha512sum",
    "b2sum", "du"]
  statuses : List (String × Nat) :=
    [("ls", 2), ("dir", 2), ("vdir", 2), ("sort", 2), ("grep", 2), ("egrep", 2), ("fgrep", 2), ("sed", 4), ("diff", 2),
      ("cmp", 2), ("expr", 3), ("env", 125), ("nice", 125), ("printenv", 2), ("tty", 3)]

/-- Programs by their names. -/
def programs : List (String × (List Octets → State → State)) :=
  [("true", fun _ state => state.succeed), ("false", fun _ state => state.withStatus 1), ("echo", echo),
    ("printf", printf), ("test", judge "test"), ("[", judgeBracketed),
    ("cat", cat), ("head", head), ("wc", wordCount),
    ("tac", tac), ("rev", rev), ("nl", number), ("paste", paste), ("seq", sequence), ("cut", cut),
    ("tr", translate), ("sort", sort), ("uniq", unique), ("basename", basename), ("dirname", dirname),
    ("realpath", realpath), ("readlink", readlink), ("pwd", fun _ => workingDirectory),
    ("mkdir", makeDirectories), ("rmdir", removeDirectories), ("rm", remove), ("unlink", removeFile), ("mkfifo", makeQueues), ("ln", linkFiles), ("link", linkFile),
    ("install", install), ("stat", status), ("chown", changeOwner "chown"), ("chgrp", changeOwner "chgrp"),
    ("touch", touch), ("cp", copy), ("mv", move), ("chmod", changeMode), ("ls", list),
    ("mktemp", makeTemporary), ("expr", expr), ("od", dump), ("base64", encodeAs "base64"), ("base32", encodeAs "base32"),
    ("basenc", encodeAny), ("cmp", compareFiles),
    ("grep", grep), ("sed", Utility.sed), ("printenv", printEnvironment),
    ("fold", fold), ("expand", expandTabs), ("unexpand", unexpandTabs), ("fmt", fillLines), ("comm", commonLines),
    ("join", joinLines), ("tsort", sortByPairs), ("factor", factor), ("shuf", shuffle), ("numfmt", formatNumbers),
    ("truncate", truncate), ("dd", copyBlocks), ("split", splitFile), ("diff", diff), ("date", date),
    ("sync", fun _ state => state.succeed)] ++ digests

def program? (name : String) : Option (List Octets → State → State) := programs.lookup name

end ComponentViews.Shell.Utility
