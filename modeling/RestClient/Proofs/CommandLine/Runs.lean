import RestClient.Proofs.Client.Servers
import RestClient.Proofs.Disk.Files

/-! # What a run does to the files

A run reads its input, makes the directory of its output, and writes the output. On a lawful disk
only the last of these changes a file, and only if it succeeds, which is then the end of the run.

* `exists_ofArguments_eq_generate`: every input, output and server can be asked for;
* `Fails` and `RunsTo` say how a run can go, step by step; `exists_runsTo` and `run_of_runsTo` say
  that there is no other way, and what comes of each;
* `failed_run_changes_nothing`: a run that fails prints nothing and changes no file, and it fails
  just where one of its steps does;
* `run_output_agrees`: a run prints the client, or makes it the content of the output file, and
  changes nothing else. -/

namespace RestClient.CommandLine

/-! ### Arguments -/

theorem ofString_output (path : String) :
    Argument.ofString ("--output=" ++ path) = .option Draft.setOutput? (some path) := by
  simp [Argument.ofString, longOption]

theorem ofString_server (server : String) :
    Argument.ofString ("--server=" ++ server) = .option Draft.setServer? (some server) := by
  simp [Argument.ofString, longOption]

theorem ofString_separator : Argument.ofString "--" = .separator := by
  simp [Argument.ofString]

/-- Every input, output and server can be asked for, if the paths are not empty. -/
theorem exists_ofArguments_eq_generate {arguments : Arguments} (hinput : arguments.input ≠ "")
    (houtput : arguments.output ≠ some "") :
    ∃ argv, Command.ofArguments argv = .generate arguments := by
  obtain ⟨input, output, server⟩ := arguments
  obtain ⟨first, hfirst⟩ : ∃ first, ∀ rest,
      commandOf .empty (first ++ rest) = commandOf ⟨none, output, none⟩ rest := by
    cases output with
    | none => exact ⟨[], fun _ => rfl⟩
    | some path =>
      have hpath : path ≠ "" := fun h => houtput (congrArg some h)
      refine ⟨["--output=" ++ path], fun rest => ?_⟩
      simp [commandOf, ofString_output, Draft.setOutput?, Draft.empty, hpath]
  obtain ⟨second, hsecond⟩ : ∃ second, ∀ rest,
      commandOf ⟨none, output, none⟩ (second ++ rest) = commandOf ⟨none, output, server⟩ rest := by
    cases server with
    | none => exact ⟨[], fun _ => rfl⟩
    | some server =>
      refine ⟨["--server=" ++ server], fun rest => ?_⟩
      simp [commandOf, ofString_server, Draft.setServer?]
  have hlast : commandOf ⟨none, output, server⟩ ["--", input] =
      .generate { input, output, server } := by
    have hinput : input ≠ "" := hinput
    simp [commandOf, ofString_separator, commandOfValues, Draft.setInput?, Draft.command, hinput]
  refine ⟨first ++ (second ++ ["--", input]), ?_⟩
  rw [Command.ofArguments, hfirst, hsecond, hlast]

/-! ### The parts of a run -/

variable {σ ι : Type} {disk : Disk (StateM σ)} {content : σ → ι → Option ByteArray}
variable {arguments : Arguments} {ops : List Operation} {path text : String} {s s₀ s₁ s' : σ}

theorem run_loadFrom_of_error {fault : FileFault}
    (hread : (disk.read path).run s = (.error fault, s')) :
    (Operation.loadFrom disk path).run s = (.error (.unreadable path fault), s') := by
  rw [Operation.loadFrom, run_bind_of_run hread]
  rfl

theorem run_loadFrom_of_ok {loaded : Except LoadFault (List Operation)}
    (hread : (disk.read path).run s = (.ok text, s')) (hload : Operation.load text = loaded) :
    (Operation.loadFrom disk path).run s = (loaded, s') := by
  rw [Operation.loadFrom, run_bind_of_run hread, ← hload]
  rfl

theorem keeps_createParent (hdisk : disk.Lawful content) (path : String) :
    Keeps content (createParent disk path) := by
  unfold createParent
  split
  · exact .pure _
  · refine (hdisk.keeps_createDirectories _).bind fun result => ?_
    cases result with
    | ok _ => exact .pure _
    | error fault => exact .pure _

/-- The directory that a path lies in is made, if the path names one. -/
theorem run_createParent_of_ok
    (hsome : ∀ parent, Path.parent? path = some parent →
      (disk.createDirectories parent).run s = (.ok (), s'))
    (hnone : Path.parent? path = none → s' = s) :
    (createParent disk path).run s = (.ok (), s') := by
  unfold createParent
  cases hparent : Path.parent? path with
  | none =>
    rw [hnone hparent]
    rfl
  | some parent => exact (run_bind_of_run (hsome parent hparent)).trans rfl

theorem run_deliver_of_uncreatable {failure : Failure}
    (hparent : (createParent disk path).run s = (.error failure, s')) :
    (deliver disk path text).run s = (.error failure, s') := by
  rw [deliver, run_bind_of_run hparent]
  rfl

theorem run_deliver_of_unwritable {fault : FileFault}
    (hparent : (createParent disk path).run s = (.ok (), s₁))
    (hwrite : (disk.write path text).run s₁ = (.error fault, s')) :
    (deliver disk path text).run s = (.error (.write path fault), s') := by
  rw [deliver, run_bind_of_run hparent]
  exact (run_bind_of_run hwrite).trans rfl

theorem run_deliver_of_ok (hparent : (createParent disk path).run s = (.ok (), s₁))
    (hwrite : (disk.write path text).run s₁ = (.ok (), s')) :
    (deliver disk path text).run s = (.ok (), s') := by
  rw [deliver, run_bind_of_run hparent]
  exact (run_bind_of_run hwrite).trans rfl

/-! ### Generation -/

/-- The client that arguments ask for, given the operations that were loaded: each of them has the
server that the arguments name, or its own if they name none. -/
def Arguments.client (arguments : Arguments) (ops : List Operation) : String :=
  (clientModule standardPhrase
    (ops.map fun op => { op with server := arguments.server.getD op.server })).value

theorem value_clientModule_overrideServer (arguments : Arguments) (ops : List Operation) :
    (clientModule standardPhrase (overrideServer arguments.server ops)).value =
      arguments.client ops := by
  rw [overrideServer_eq_map]
  rfl

/-- A generation ends where loading fails. -/
theorem run_generateClient_of_fault {fault : LoadFault}
    (hload : (Operation.loadFrom disk arguments.input).run s = (.error fault, s')) :
    (generateClient disk arguments).run s = (.silent (.error (.load fault)), s') := by
  rw [generateClient, run_bind_of_run hload]
  rfl

/-- Without an output file, the client is there to be printed. -/
theorem exists_run_generateClient_of_none
    (hload : (Operation.loadFrom disk arguments.input).run s = (.ok ops, s'))
    (houtput : arguments.output = none) :
    ∃ result, (generateClient disk arguments).run s = (result, s') ∧
      result.value = .ok (arguments.client ops) := by
  rw [generateClient, run_bind_of_run hload]
  simp only [houtput]
  exact ⟨_, rfl, congrArg Except.ok (value_clientModule_overrideServer arguments ops)⟩

/-- With an output file, the client is delivered there. -/
theorem exists_run_generateClient_of_some {delivered : Except Failure Unit}
    (hload : (Operation.loadFrom disk arguments.input).run s = (.ok ops, s₀))
    (houtput : arguments.output = some path)
    (hdeliver : (deliver disk path (arguments.client ops)).run s₀ = (delivered, s')) :
    ∃ result, (generateClient disk arguments).run s = (result, s') ∧
      result.value = delivered.map fun _ => "" := by
  rw [generateClient, run_bind_of_run hload]
  rw [← value_clientModule_overrideServer] at hdeliver
  simp only [houtput, Logged.value_after]
  rw [run_bind_of_run hdeliver]
  cases delivered with
  | error failure => exact ⟨_, rfl, rfl⟩
  | ok _ => exact ⟨_, rfl, rfl⟩

/-! ### The ways of a run -/

/-- How a run that generates can fail: at the first of its steps that does. The steps before it were
taken, and what the failing one leaves behind is what the run does. -/
inductive Fails (disk : Disk (StateM σ)) (arguments : Arguments) (s : σ) : σ → Prop
  /-- The input cannot be read. -/
  | unreadable {fault : FileFault} {s' : σ}
    (hread : (disk.read arguments.input).run s = (.error fault, s')) : Fails disk arguments s s'
  /-- The text of the input holds no operations. -/
  | invalid {text : String} {fault : LoadFault} {s' : σ}
    (hread : (disk.read arguments.input).run s = (.ok text, s'))
    (hload : Operation.load text = .error fault) : Fails disk arguments s s'
  /-- The directory of the output cannot be made. -/
  | uncreatable {text path : String} {ops : List Operation} {failure : Failure} {s₀ s' : σ}
    (hread : (disk.read arguments.input).run s = (.ok text, s₀))
    (hload : Operation.load text = .ok ops) (houtput : arguments.output = some path)
    (hparent : (createParent disk path).run s₀ = (.error failure, s')) :
    Fails disk arguments s s'
  /-- The output cannot be written. -/
  | unwritable {text path : String} {ops : List Operation} {fault : FileFault} {s₀ s₁ s' : σ}
    (hread : (disk.read arguments.input).run s = (.ok text, s₀))
    (hload : Operation.load text = .ok ops) (houtput : arguments.output = some path)
    (hparent : (createParent disk path).run s₀ = (.ok (), s₁))
    (hwrite : (disk.write path (arguments.client ops)).run s₁ = (.error fault, s')) :
    Fails disk arguments s s'

/-- How a run that generates goes: what it exits with, what it prints, and what it leaves behind. -/
inductive RunsTo (disk : Disk (StateM σ)) (arguments : Arguments) (s : σ) : Nat → String → σ → Prop
  | failed {s' : σ} (h : Fails disk arguments s s') : RunsTo disk arguments s 1 "" s'
  | printed {text : String} {ops : List Operation} {s' : σ}
    (hread : (disk.read arguments.input).run s = (.ok text, s'))
    (hload : Operation.load text = .ok ops) (houtput : arguments.output = none) :
    RunsTo disk arguments s 0 (arguments.client ops) s'
  | written {text path : String} {ops : List Operation} {s₀ s₁ s' : σ}
    (hread : (disk.read arguments.input).run s = (.ok text, s₀))
    (hload : Operation.load text = .ok ops) (houtput : arguments.output = some path)
    (hparent : (createParent disk path).run s₀ = (.ok (), s₁))
    (hwrite : (disk.write path (arguments.client ops)).run s₁ = (.ok (), s')) :
    RunsTo disk arguments s 0 "" s'

/-- **A run goes in one of these ways.** -/
theorem exists_runsTo (disk : Disk (StateM σ)) (arguments : Arguments) (s : σ) :
    ∃ code output s', RunsTo disk arguments s code output s' := by
  rcases hread : (disk.read arguments.input).run s with ⟨fault | text, s₀⟩
  · exact ⟨1, "", s₀, .failed (.unreadable hread)⟩
  · cases hload : Operation.load text with
    | error fault => exact ⟨1, "", s₀, .failed (.invalid hread hload)⟩
    | ok ops =>
      cases houtput : arguments.output with
      | none => exact ⟨0, _, s₀, .printed hread hload houtput⟩
      | some path =>
        rcases hparent : (createParent disk path).run s₀ with ⟨failure | _, s₁⟩
        · exact ⟨1, "", s₁, .failed (.uncreatable hread hload houtput hparent)⟩
        · rcases hwrite : (disk.write path (arguments.client ops)).run s₁ with ⟨fault | _, s'⟩
          · exact ⟨1, "", s', .failed (.unwritable hread hload houtput hparent hwrite)⟩
          · exact ⟨0, "", s', .written hread hload houtput hparent hwrite⟩

theorem Fails.exists_run_generateClient (h : Fails disk arguments s s') :
    ∃ result failure, (generateClient disk arguments).run s = (result, s') ∧
      result.value = .error failure := by
  cases h with
  | unreadable hread =>
    exact ⟨_, _, run_generateClient_of_fault (run_loadFrom_of_error hread), rfl⟩
  | invalid hread hload =>
    exact ⟨_, _, run_generateClient_of_fault (run_loadFrom_of_ok hread hload), rfl⟩
  | uncreatable hread hload houtput hparent =>
    have hloaded := run_loadFrom_of_ok hread hload
    obtain ⟨result, hgenerate, hvalue⟩ :=
      exists_run_generateClient_of_some hloaded houtput (run_deliver_of_uncreatable hparent)
    exact ⟨result, _, hgenerate, hvalue⟩
  | unwritable hread hload houtput hparent hwrite =>
    have hloaded := run_loadFrom_of_ok hread hload
    obtain ⟨result, hgenerate, hvalue⟩ :=
      exists_run_generateClient_of_some hloaded houtput (run_deliver_of_unwritable hparent hwrite)
    exact ⟨result, _, hgenerate, hvalue⟩

/-- The exit code and what is printed come from the generation alone. -/
theorem exists_run_of_generate {argv : List String} {result : Logged (Except Failure String)}
    (setting : Option String) (hargv : Command.ofArguments argv = .generate arguments)
    (hgenerate : (generateClient disk arguments).run s = (result, s')) :
    ∃ outcome, (run disk argv setting).run s = (outcome, s') ∧
      (∀ output, result.value = .ok output → outcome.code = 0 ∧ outcome.output = output) ∧
      ∀ failure, result.value = .error failure → outcome.code = 1 ∧ outcome.output = "" := by
  have houtcome (filter : Filter) : (outcomeOf disk filter (Command.ofArguments argv)).run s =
      (.ofResult filter result, s') := by
    rw [hargv, outcomeOf, run_bind_of_run hgenerate]
    rfl
  rw [run, run_bind_of_run (houtcome _)]
  refine ⟨_, rfl, fun output hvalue => ?_, fun failure hvalue => ?_⟩
  · simp only [Outcome.ofResult, hvalue, and_self]
  · simp only [Outcome.ofResult, hvalue, and_self]

/-- **What comes of a run in each of its ways.** -/
theorem run_of_runsTo {argv : List String} {setting : Option String} {outcome : Outcome}
    {code : Nat} {output : String} {s₂ : σ} (hargv : Command.ofArguments argv = .generate arguments)
    (h : RunsTo disk arguments s code output s₂)
    (hrun : (run disk argv setting).run s = (outcome, s')) :
    outcome.code = code ∧ outcome.output = output ∧ s' = s₂ := by
  have hend {result} (hgenerate : (generateClient disk arguments).run s = (result, s₂)) :
      s' = s₂ ∧
      (∀ output, result.value = .ok output → outcome.code = 0 ∧ outcome.output = output) ∧
      ∀ failure, result.value = .error failure → outcome.code = 1 ∧ outcome.output = "" := by
    obtain ⟨outcome', hrun', hvalue⟩ := exists_run_of_generate setting hargv hgenerate
    obtain ⟨rfl, rfl⟩ := Prod.mk.inj (hrun.symm.trans hrun')
    exact ⟨rfl, hvalue⟩
  cases h with
  | failed hfails =>
    obtain ⟨result, failure, hgenerate, hvalue⟩ := hfails.exists_run_generateClient
    obtain ⟨hstate, -, herror⟩ := hend hgenerate
    obtain ⟨hcode, houtput⟩ := herror _ hvalue
    exact ⟨hcode, houtput, hstate⟩
  | printed hread hload houtput =>
    have hloaded := run_loadFrom_of_ok hread hload
    obtain ⟨result, hgenerate, hvalue⟩ := exists_run_generateClient_of_none hloaded houtput
    obtain ⟨hstate, hok, -⟩ := hend hgenerate
    obtain ⟨hcode, hprinted⟩ := hok _ hvalue
    exact ⟨hcode, hprinted, hstate⟩
  | written hread hload houtput hparent hwrite =>
    have hloaded := run_loadFrom_of_ok hread hload
    obtain ⟨result, hgenerate, hvalue⟩ :=
      exists_run_generateClient_of_some hloaded houtput (run_deliver_of_ok hparent hwrite)
    obtain ⟨hstate, hok, -⟩ := hend hgenerate
    obtain ⟨hcode, hprinted⟩ := hok _ hvalue
    exact ⟨hcode, hprinted, hstate⟩

/-! ### Runs -/

/-- **Where a run fails, no file has changed.** -/
theorem Fails.content_eq (hdisk : disk.Lawful content) (h : Fails disk arguments s s') :
    content s' = content s := by
  cases h with
  | unreadable hread => exact (hdisk.keeps_read _).content_eq hread
  | invalid hread _ => exact (hdisk.keeps_read _).content_eq hread
  | uncreatable hread _ _ hparent =>
    rw [(keeps_createParent hdisk _).content_eq hparent, (hdisk.keeps_read _).content_eq hread]
  | unwritable hread _ _ hparent hwrite =>
    rw [hdisk.content_write_of_error _ _ _ _ _ hwrite,
      (keeps_createParent hdisk _).content_eq hparent, (hdisk.keeps_read _).content_eq hread]

/-- **A failed run changes nothing.** It prints nothing and leaves every file as it was, at whatever
step it fails, and it is the failure of a step that makes it fail. So no run fails that has only to
print the client for an input that can be read and loaded. -/
theorem failed_run_changes_nothing (hdisk : disk.Lawful content) {argv : List String}
    {setting : Option String} {outcome : Outcome}
    (hrun : (run disk argv setting).run s = (outcome, s')) :
    (outcome.code = 1 → outcome.output = "" ∧ content s' = content s) ∧
    (∀ arguments, Command.ofArguments argv = .generate arguments →
      (outcome.code = 1 ↔ Fails disk arguments s s')) ∧
    ∀ input server text ops,
      Command.ofArguments argv = .generate { input, output := none, server } →
      ((disk.read input).run s).1 = .ok text → Operation.load text = .ok ops →
      outcome.code = 0 := by
  have hfails {arguments} (hargv : Command.ofArguments argv = .generate arguments)
      (hcode : outcome.code = 1) : Fails disk arguments s s' ∧ outcome.output = "" := by
    obtain ⟨code, output, s₂, hruns⟩ := exists_runsTo disk arguments s
    obtain ⟨rfl, rfl, rfl⟩ := run_of_runsTo hargv hruns hrun
    rw [hcode] at hruns
    generalize outcome.output = output at hruns ⊢
    cases hruns with
    | failed h => exact ⟨h, rfl⟩
  refine ⟨fun hcode => ?_, fun arguments hargv => ⟨fun hcode => (hfails hargv hcode).1, ?_⟩,
    fun input server text ops hargv hread hload => ?_⟩
  · cases hcommand : Command.ofArguments argv with
    | generate arguments =>
      obtain ⟨h, houtput⟩ := hfails hcommand hcode
      exact ⟨houtput, h.content_eq hdisk⟩
    | version | help | misuse =>
      rw [run, hcommand] at hrun
      obtain ⟨rfl, -⟩ := Prod.mk.inj hrun
      cases hcode
  · intro h
    exact (run_of_runsTo hargv (.failed h) hrun).1
  · have hinput : (disk.read input).run s = (.ok text, ((disk.read input).run s).2) :=
      Prod.ext hread rfl
    exact (run_of_runsTo hargv (.printed hinput hload rfl) hrun).1

theorem eq_ok_of_toOption {ε α : Type} {result : Except ε α} {a : α}
    (h : result.toOption = some a) : result = .ok a := by
  cases result with
  | error e => cases h
  | ok a' => exact congrArg Except.ok (Option.some.inj h)

/-- A file system with one file, at its root. -/
def singleFile (name text : String) : FileSystem :=
  (FileSystem.emptyAt []).put [name] (.file text.toUTF8)

/-- An output that would lie below the input, which is a file. Without it, the run succeeds. -/
theorem output_below_input_changes_nothing :
    let fs := singleFile "ops.json" "[]"
    let failed := (run FileSystem.disk ["ops.json", "-o", "ops.json/client.ts"] none).run fs
    let printed := (run FileSystem.disk ["ops.json"] none).run fs
    failed.1.code = 1 ∧ failed.1.output = "" ∧ failed.2.content ["ops.json"] = some "[]".toUTF8 ∧
    printed.1.code = 0 := by
  intro fs failed printed
  have hfailed := failed_run_changes_nothing FileSystem.lawful_disk
    (show (run FileSystem.disk ["ops.json", "-o", "ops.json/client.ts"] none).run fs =
      (failed.1, failed.2) from rfl)
  have hprinted := failed_run_changes_nothing FileSystem.lawful_disk
    (show (run FileSystem.disk ["ops.json"] none).run fs = (printed.1, printed.2) from rfl)
  have hcode : ((run FileSystem.disk ["ops.json", "-o", "ops.json/client.ts"] none).run
      (singleFile "ops.json" "[]")).1.code = 1 := by
    decide +kernel
  obtain ⟨houtput, hcontent⟩ := hfailed.1 hcode
  have hargv : Command.ofArguments ["ops.json"] =
      .generate { input := "ops.json", output := none, server := none } := by
    decide +kernel
  have hlocate : fs.locate "ops.json" = .ok ["ops.json"] := rfl
  have hread : ((FileSystem.disk.read "ops.json").run fs).1 = .ok "[]" :=
    FileSystem.read_of_locate hlocate (FileSystem.node_put_self _ _ _)
  have hload : Operation.load "[]" = .ok [] := eq_ok_of_toOption (by decide +kernel)
  refine ⟨hcode, houtput, ?_, hprinted.2.2 _ _ _ _ hargv hread hload⟩
  rw [hcontent]
  exact FileSystem.content_put_file _

/-- **A run prints the client or makes it the content of the output file**, and changes no other
file. The client depends on the operations in the input and on the server alone. A run with an output
needs the directory that this is to lie in, if its path names one, and that it can be written there. -/
theorem run_output_agrees (hdisk : disk.Lawful content) {argv : List String}
    {setting : Option String} {outcome : Outcome}
    (hargv : Command.ofArguments argv = .generate arguments)
    (hread : (disk.read arguments.input).run s = (.ok text, s₀))
    (hload : Operation.load text = .ok ops)
    (hrun : (run disk argv setting).run s = (outcome, s')) :
    (arguments.output = none →
      outcome.code = 0 ∧ outcome.output = arguments.client ops ∧ content s' = content s) ∧
    ∀ path s₁, arguments.output = some path →
      (∀ parent, Path.parent? path = some parent →
        (disk.createDirectories parent).run s₀ = (.ok (), s₁)) →
      (Path.parent? path = none → s₁ = s₀) →
      ((disk.write path (arguments.client ops)).run s₁).1 = .ok () →
      outcome.code = 0 ∧ outcome.output = "" ∧
      ((disk.read path).run s').1 = .ok (arguments.client ops) ∧
      ∃ place, content s' place = some (arguments.client ops).toUTF8 ∧
        ∀ other, other ≠ place → content s' other = content s other := by
  have hloaded : content s₀ = content s := (hdisk.keeps_read _).content_eq hread
  refine ⟨fun houtput => ?_, fun path s₁ houtput hsome hnone hwritten => ?_⟩
  · obtain ⟨hcode, hprinted, rfl⟩ := run_of_runsTo hargv (.printed hread hload houtput) hrun
    exact ⟨hcode, hprinted, hloaded⟩
  · have hparent := run_createParent_of_ok hsome hnone
    have hwrite : (disk.write path (arguments.client ops)).run s₁ =
        (.ok (), ((disk.write path (arguments.client ops)).run s₁).2) :=
      Prod.ext hwritten rfl
    obtain ⟨hcode, hprinted, rfl⟩ :=
      run_of_runsTo hargv (.written hread hload houtput hparent hwrite) hrun
    obtain ⟨hagain, place, hplace, hother⟩ := hdisk.content_write_of_ok _ _ _ _ hwrite
    have hcreated : content s₁ = content s₀ := (keeps_createParent hdisk _).content_eq hparent
    refine ⟨hcode, hprinted, hagain, place, hplace, fun other hne => ?_⟩
    rw [hother other hne, hcreated, hloaded]

/-- One input with its server replaced by an empty one: printed, written over the input, and written
to a directory that is not there yet. -/
theorem three_outputs_agree :
    let input := "[\x7b\"path\":\"/a\",\"verb\":\"get\",\"server\":\"b\"\x7d]"
    let op : Operation :=
      { path := "/a", verb := .get, server := "b", positionalParams := [], queryParams := [],
        headerParams := [], bodyParam := none, responses := [] }
    let client := (clientModule standardPhrase [{ op with server := "" }]).value
    let fs := singleFile "ops.json" input
    let done (output : List String) :=
      (run FileSystem.disk ("ops.json" :: "--server" :: "" :: output) none).run fs
    (done []).1.code = 0 ∧ (done []).1.output = client ∧
    (done ["-o", "ops.json"]).1.code = 0 ∧ (done ["-o", "ops.json"]).1.output = "" ∧
    (done ["-o", "ops.json"]).2.read "ops.json" = .ok client ∧
    fs.isDirectory "out" = false ∧
    (done ["-o", "out/ts/a.ts"]).1.code = 0 ∧ (done ["-o", "out/ts/a.ts"]).1.output = "" ∧
    (done ["-o", "out/ts/a.ts"]).2.read "out/ts/a.ts" = .ok client := by
  intro input op client fs done
  have hlocate : fs.locate "ops.json" = .ok ["ops.json"] := rfl
  have htext := FileSystem.read_of_locate hlocate
    (FileSystem.node_put_self _ _ (.file input.toUTF8))
  have hread : (FileSystem.disk.read "ops.json").run fs = (.ok input, fs) := Prod.ext htext rfl
  have hload : Operation.load input = .ok [op] := eq_ok_of_toOption (by decide +kernel)
  have hagrees (output : List String) (path : Option String)
      (hargv : Command.ofArguments ("ops.json" :: "--server" :: "" :: output) =
        .generate { input := "ops.json", output := path, server := some "" }) :=
    run_output_agrees FileSystem.lawful_disk hargv hread hload
      (show (run FileSystem.disk _ none).run fs = ((done output).1, (done output).2) from rfl)
  obtain ⟨hprinted, -⟩ := hagrees [] none (by decide +kernel)
  obtain ⟨-, hover⟩ := hagrees ["-o", "ops.json"] (some "ops.json") (by decide +kernel)
  obtain ⟨-, hapart⟩ := hagrees ["-o", "out/ts/a.ts"] (some "out/ts/a.ts") (by decide +kernel)
  have hmade : ((FileSystem.disk.createDirectories "out/ts").run fs).1 = .ok () := rfl
  have hparent : ∀ parent, Path.parent? "out/ts/a.ts" = some parent →
      (FileSystem.disk.createDirectories parent).run fs =
        (.ok (), ((FileSystem.disk.createDirectories "out/ts").run fs).2) := by
    intro parent h
    obtain rfl : "out/ts" = parent := Option.some.inj h
    exact Prod.ext hmade rfl
  obtain ⟨hcode, houtput, -⟩ := hprinted rfl
  obtain ⟨hcode', houtput', hwritten', -⟩ :=
    hover "ops.json" fs rfl (fun _ h => nomatch h) (fun _ => rfl) rfl
  obtain ⟨hcode'', houtput'', hwritten'', -⟩ :=
    hapart "out/ts/a.ts" _ rfl hparent (fun h => nomatch h) rfl
  exact ⟨hcode, houtput, hcode', houtput', hwritten', rfl, hcode'', houtput'', hwritten''⟩

end RestClient.CommandLine
