import ComponentViews.Shell.Utility.Tree

/-! Utilities that copy, move and link files, and put them where they are to be used. -/

namespace ComponentViews.Shell.Utility

/-! ### Sources and targets -/

/-- Where a copy of a source goes: into a target that is a directory, else to the target. -/
def destination (source target : Octets) (state : State) : Octets :=
  if state.isDirectory target then joined target (lastName [] source) else target

/-- Sources and the paths that they go to. -/
def pairsOf (command : String) (options : Options) (state : State) : Except State (List (Octets × Octets)) :=
  let operands := options.operands
  let into (directory : Octets) (sources : List Octets) : Except State (List (Octets × Octets)) :=
    if state.isDirectory directory then
      .ok (sources.map fun source => (source, joined directory (lastName [] source)))
    else
      let trouble := if (state.entry? directory).isSome then Trouble.noDirectory else .missing
      .error (if options.has 't' then refuse command "target directory" directory trouble state
        else refuse command "target" directory trouble state)
  match options.value? 't', operands.dropLast, operands.getLast? with
  | _, _, none => .error (hinted command (.ofText "missing file operand") state)
  | some directory, _, _ => into directory operands
  | none, [], some target =>
    .error (hinted command (.ofText "missing destination file operand after " ++ named target) state)
  | none, [source], some target =>
    .ok [(source, if options.has 'T' then target else destination source target state)]
  | none, sources, some target =>
    if options.has 'T' then
      .error (hinted command (.ofText "extra operand " ++ quoted target) state)
    else into target sources

/-- A remark about what has been done, if remarks are asked for. -/
def remark (options : Options) (text : Octets) (state : State) : State :=
  if options.has 'v' then state.print (text ++ ['\n']) else state

/-! ### Copying -/

def copyUsage : Usage where
  alone := ['r', 'R', 'a', 'f', 'p', 'n', 'v', 'T', 'i', 'u', 'd', 'P', 'L', 'H', 'l', 's', 'x', 'b', 'ρ', 'σ', 'Z']
  valued := ['t', 'S', 'ν']
  words := [("recursive", 'r'), ("archive", 'a'), ("force", 'f'), ("no-clobber", 'n'), ("verbose", 'v'),
    ("no-target-directory", 'T'), ("interactive", 'i'), ("update", 'u'), ("no-dereference", 'P'), ("dereference", 'L'),
    ("link", 'l'), ("symbolic-link", 's'), ("target-directory", 't'), ("parents", 'ρ'), ("preserve", 'p'),
    ("backup", 'b'), ("suffix", 'S'), ("no-preserve", 'ν'), ("one-file-system", 'x'),
    ("strip-trailing-slashes", 'σ')]
  anywhere := true
  optional := ['p', 'b', 'u']

/-- Whether what a path names is newer than what another one does. -/
def isNewer (source target : Location) (state : State) : Bool := state.changedAt source > state.changedAt target

/-- Lets the copy of something keep its time. -/
def keepTime (options : Options) (source target : Location) (state : State) : State :=
  if options.has 'p' ∨ options.has 'a' then
    (state.setChanged target (state.changedAt source)).setModeAt target (state.modeAt source)
  else state

/-- Copies a file to a path, and tells if that fails. -/
def copyFile (command : String) (options : Options) (source target : Octets) (location : Location) (content : Content)
    (state : State) : State :=
  let place : Except Trouble Location := match state.reached target with
    | .ok (location, _) => .ok location
    | .error _ => if target.getLast? = some '/' then .error .noDirectory else state.vacancy target
  let arrow := named source ++ .ofText " -> " ++ named target
  let answered : Bool × State := match state.standing target with
    | .ok (old, _) =>
      if options.has 'n' then (false, state)
      else if options.has 'u' ∧ !isNewer location old state then (false, state)
      else if options.has 'i' then askedFirst command (.ofText "overwrite " ++ named target) state
      else (true, state)
    | .error _ => (true, state)
  let state := answered.2
  if !answered.1 then state
  else match place with
    | .error trouble => refuse command "cannot create regular file" target trouble state
    | .ok reached =>
      if reached = location then
        fault command (named source ++ .ofText " and " ++ named target ++ .ofText " are the same file") state
      else if state.files.tree.get? reached = some .directory then
        fault command (.ofText "cannot overwrite directory " ++ named target ++ .ofText " with non-directory") state
      else if options.has 's' ∨ options.has 'l' then
        if (state.standing target).toOption.isSome ∧ !options.has 'f' then
          refuse command (if options.has 's' then "cannot create symbolic link" else "cannot create hard link")
            target .present state
        else remark options arrow (state.setLink reached (if options.has 's' then .path source else .same location))
      else
        let isNew := (state.entryAt? reached).isNone
        let mode := Mode.without (state.modeAt location &&& 0o777) state.process.mask
        let written := state.put reached (.file content (Mode.isExecutable (if isNew then mode else state.modeAt reached)))
        let written := if isNew then written.setModeAt reached mode else written
        remark options arrow (keepTime options location reached written)

/-- Copies what a path names. Of a directory all is copied that it holds. -/
def copyPath (options : Options) : Nat → Bool → Octets → Octets → State → State
  | 0, _, _, _, state => state
  | fuel + 1, atTop, source, target, state =>
    let recursive := options.has 'r' || options.has 'R' || options.has 'a'
    let follows := options.has 'L' || (atTop && options.has 'H') ||
      !(options.has 'P' || options.has 'd' || options.has 'a' || (recursive && !atTop) || recursive)
    match if follows then state.reached source else state.standing source with
    | .error trouble => refuse "cp" "cannot stat" source trouble state
    | .ok (location, .directory) =>
      if !recursive then fault "cp" (.ofText "-r not specified; omitting directory " ++ named source) state
      else
        let place : Except Trouble Location := match state.reached target with
          | .ok (reached, .directory) => .ok reached
          | .ok _ => .error .present
          | .error _ => state.vacancy (if target.length > 1 then target.dropEndWhile isSlash else target)
        match place with
        | .error .present =>
          fault "cp" (.ofText "cannot overwrite non-directory " ++ named target ++ .ofText " with directory " ++
            named source) state
        | .error trouble => refuse "cp" "cannot create directory" target trouble state
        | .ok reached =>
          if (FileTree.relative? location reached).isSome then
            fault "cp" (.ofText "cannot copy a directory, " ++ named source ++ .ofText ", into itself, " ++
              named target) state
          else
            let isNew := (state.files.tree.get? reached).isNone
            let names := state.namesIn source
            let made := if isNew then
                remark options (named source ++ .ofText " -> " ++ named target)
                  ((state.makeDirectory reached).setModeAt reached (state.modeAt location))
              else state
            let copied := names.foldl (fun state name =>
              copyPath options fuel false (joined source (.ofText name)) (joined target (.ofText name)) state) made
            if options.has 'p' ∨ options.has 'a' then keepTime options location reached copied else copied
    | .ok (_, .link path) =>
      match state.vacancy target with
      | .error trouble => refuse "cp" "cannot create symbolic link" target trouble state
      | .ok reached =>
        remark options (named source ++ .ofText " -> " ++ named target)
          ((state.discard reached).setLink reached (.path path))
    | .ok (location, .file content _) => copyFile "cp" options source target location content state
    | .ok (location, _) =>
      match state.read source with
      | .ok (content, state) =>
        copyFile "cp" options source target location (.ofBytes content.toBytes) state
      | .error trouble => refuse "cp" "cannot open" source trouble state

def copy (arguments : List Octets) (state : State) : State :=
  withOptions "cp" copyUsage 1 arguments state fun options state =>
    let state := if options.has 'n' then
        complain "cp" (.ofText "warning: behavior of -n is non-portable and may change in future; use --update=none instead")
          state
      else state
    match pairsOf "cp" options state with
    | .error state => state
    | .ok pairs =>
      let start := state
      pairs.foldl (fun state (source, target) =>
        if options.has 'ρ' then
          let base := (options.value? 't').getD (options.operands.getLast?.getD [])
          if !start.isDirectory base then
            refuse "cp" "with --parents, the destination must be a directory" target .noDirectory state
          else
            let target := joined base source
            match makeStages "" false ((stages target).dropLast) state with
            | .ok state => copyPath options greatestDepth true source target state
            | .error (path, trouble) => refuse "cp" "cannot make directory" path trouble state
        else copyPath options greatestDepth true source target state) state

/-! ### Moving -/

/-- Moves what a path names to another one. -/
def movePath (options : Options) (source target : Octets) (state : State) : State :=
  match state.standing source with
  | .error trouble => refuse "mv" "cannot stat" source trouble state
  | .ok (location, standing) =>
    let old := state.standing target
    let place : Except Trouble Location := match old with
      | .ok (location, _) => .ok location
      | .error _ =>
        if target.getLast? = some '/' ∧ standing ≠ .directory then .error .noDirectory
        else state.vacancy (if target.length > 1 then target.dropEndWhile isSlash else target)
    match place with
    | .error trouble =>
      fault "mv" (.ofText "cannot move " ++ named source ++ .ofText " to " ++ named target ++
        .ofText (": " ++ trouble.message)) state
    | .ok reached =>
      let oldStanding := old.toOption.map Prod.snd
      if reached = location ∧ standing ≠ .directory then
        fault "mv" (named source ++ .ofText " and " ++ named target ++ .ofText " are the same file") state
      else if standing = .directory ∧ (FileTree.relative? location reached).isSome then
        fault "mv" (.ofText "cannot move " ++ named source ++ .ofText " to a subdirectory of itself, " ++
          named (if reached = location then joined target (lastName [] source) else target)) state
      else if options.has 'n' ∧ oldStanding.isSome then
        fault "mv" (.ofText "not replacing " ++ named target) state
      else if options.has 'u' ∧ oldStanding.isSome ∧ !isNewer location reached state then state
      else if oldStanding = some .directory ∧ standing ≠ .directory then
        fault "mv" (.ofText "cannot overwrite directory " ++ named target ++ .ofText " with non-directory") state
      else if standing = .directory ∧ oldStanding.any (· ≠ .directory) then
        fault "mv" (.ofText "cannot overwrite non-directory " ++ named target ++ .ofText " with directory " ++
          named source) state
      else if oldStanding = some .directory ∧ state.namesIn target ≠ [] then
        refuse "mv" "cannot overwrite" target .notEmpty state
      else
        let asks := options.has 'i' && oldStanding.isSome && !options.has 'f'
        let (goes, state) := if asks then askedFirst "mv" (.ofText "overwrite " ++ named target) state else (true, state)
        if !goes then state
        else remark options (.ofText "renamed " ++ named source ++ .ofText " -> " ++ named target)
          (state.relocate location reached)

def move (arguments : List Octets) (state : State) : State :=
  withOptions "mv" copyUsage 1 arguments state fun options state =>
    match pairsOf "mv" options state with
    | .error state => state
    | .ok pairs => pairs.foldl (fun state (source, target) => movePath options source target state) state

/-! ### Links -/

def linkUsage : Usage where
  alone := ['s', 'f', 'n', 'v', 'T', 'r', 'i', 'b', 'L', 'P', 'd', 'F']
  valued := ['t', 'S']
  words := [("symbolic", 's'), ("force", 'f'), ("no-dereference", 'n'), ("verbose", 'v'), ("no-target-directory", 'T'),
    ("relative", 'r'), ("interactive", 'i'), ("backup", 'b'), ("logical", 'L'), ("physical", 'P'),
    ("target-directory", 't'), ("suffix", 'S'), ("directory", 'd')]
  anywhere := true
  optional := ['b']

/-- Makes one link. -/
def linkPath (options : Options) (source target : Octets) (state : State) : State :=
  let symbolic := options.has 's'
  let kind := if symbolic then "failed to create symbolic link" else "failed to create hard link"
  let hard : Except Trouble (Location × Standing) := if options.has 'L' then state.reached source else state.standing source
  match symbolic, hard with
  | false, .error trouble => refuse "ln" "failed to access" source trouble state
  | false, .ok (_, .directory) => fault "ln" (source ++ .ofText ": hard link not allowed for directory") state
  | symbolic, hard =>
    match state.standing target, state.vacancy target with
    | .ok (_, .directory), _ =>
      if options.has 'f' then
        fault "ln" (target ++ .ofText ": cannot overwrite directory") state
      else refuse "ln" kind target .present state
    | .ok (old, _), _ =>
      if options.has 'f' then make symbolic hard old (state.discard old)
      else refuse "ln" kind target .present state
    | .error _, .error trouble => refuse "ln" kind target trouble state
    | .error _, .ok location => make symbolic hard location state
where
  make (symbolic : Bool) (hard : Except Trouble (Location × Standing)) (location : Location) (state : State) : State :=
    let arrow := named target ++ .ofText (if symbolic then " -> " else " => ") ++ named source
    if symbolic then
      let path := match options.has 'r', state.vacancy source with
        | true, .ok reached => relativePath location.dropLast reached
        | _, _ => source
      remark options arrow (state.setLink location (.path path))
    else match hard with
      | .ok (_, .link path) => remark options arrow (state.setLink location (.path path))
      | .ok (reached, _) => remark options arrow (state.setLink location (.same reached))
      | .error _ => state

def linkFiles (arguments : List Octets) (state : State) : State :=
  withOptions "ln" linkUsage 1 arguments state fun options state =>
    let isPlace (path : Octets) : Bool := state.isDirectory path && !(options.has 'n' && (state.link? path).isSome)
    match options.operands, options.value? 't' with
    | [], _ => hinted "ln" (.ofText "missing file operand") state
    | [source], none =>
      linkPath options source (.ofText "./" ++ lastName [] source) state
    | [source, target], none =>
      let target := if isPlace target ∧ !options.has 'T' then joined target (lastName [] source) else target
      linkPath options source target state
    | operands, none =>
      let directory := operands.getLast?.getD []
      if !isPlace directory then
        let trouble := if (state.entry? directory).isSome then Trouble.noDirectory else .missing
        refuse "ln" "target" directory trouble state
      else operands.dropLast.foldl (fun state source =>
        linkPath options source (joined directory (lastName [] source)) state) state
    | operands, some directory =>
      if !isPlace directory then
        let trouble := if (state.entry? directory).isSome then Trouble.noDirectory else .missing
        refuse "ln" "target directory" directory trouble state
      else operands.foldl (fun state source =>
        linkPath options source (joined directory (lastName [] source)) state) state

/-- Gives a file another name. -/
def linkFile (arguments : List Octets) (state : State) : State :=
  withOptions "link" { alone := [], valued := [], words := [], anywhere := true } 1 arguments state
    fun options state =>
      let fail (target source : Octets) (trouble : Trouble) : State :=
        fault "link" (.ofText "cannot create link " ++ named target ++ .ofText " to " ++ named source ++
          .ofText (": " ++ trouble.message)) state
      match options.operands with
      | [] => missingOperand "link" state
      | [source] => hinted "link" (.ofText "missing operand after " ++ quoted source) state
      | [source, target] =>
        match state.reached source, state.standing target, state.vacancy target with
        | .error trouble, _, _ => fail target source trouble
        | .ok _, .ok _, _ => fail target source .present
        | .ok _, .error _, .error trouble => fail target source trouble
        | .ok (location, _), .error _, .ok place => state.setLink place (.same location)
      | _ :: _ :: extra :: _ => hinted "link" (.ofText "extra operand " ++ quoted extra) state

/-! ### Putting files where they are used -/

def installUsage : Usage where
  alone := ['d', 'D', 'v', 'T', 'c', 'p', 's', 'b', 'C', 'Z']
  valued := ['m', 't', 'o', 'g', 'S']
  words := [("directory", 'd'), ("verbose", 'v'), ("no-target-directory", 'T'), ("preserve-timestamps", 'p'),
    ("strip", 's'), ("mode", 'm'), ("target-directory", 't'), ("owner", 'o'), ("group", 'g'), ("backup", 'b'),
    ("compare", 'C')]
  anywhere := true
  optional := ['b']

/-- Copies files and sets their permissions, or makes directories. -/
def install (arguments : List Octets) (state : State) : State :=
  withOptions "install" installUsage 1 arguments state fun options state =>
    let mode := match options.value? 'm' with
      | some text => Mode.changed? 0 options.operands.isEmpty text 0
      | none => some 0o755
    match mode with
    | none => fault "install" (.ofText "invalid mode " ++ quoted ((options.value? 'm').getD [])) state
    | some mode =>
      if options.has 'd' then
        if options.operands = [] then hinted "install" (.ofText "missing file operand") state
        else options.operands.foldl (fun state operand =>
          match makeStages "install: creating directory " (options.has 'v') (stages operand) state with
          | .ok state => state.setMode operand mode
          | .error (path, trouble) => refuse "install" "cannot create directory" path trouble state) state
      else
        let made := match options.has 'D', options.value? 't', options.operands.getLast? with
          | true, some directory, _ => makeStages "" false (stages directory) state
          | true, none, some target => makeStages "" false ((stages target).dropLast) state
          | _, _, _ => .ok state
        let state := made.toOption.getD state
        match pairsOf "install" options state with
        | .error state => state
        | .ok pairs => pairs.foldl (fun state (source, target) =>
          match state.reached source with
          | .error trouble => refuse "install" "cannot stat" source trouble state
          | .ok (_, .directory) => fault "install" (.ofText "omitting directory " ++ named source) state
          | .ok (location, .file content _) =>
            (copyFile "install" { options with found := options.found.filter fun option => option.1 ∈ ['v', 'p'] } source target
              location content state).setMode target mode
          | .ok _ => fault "install" (.ofText "cannot open " ++ named source) state) state

end ComponentViews.Shell.Utility
