import RestClient.CommandLine.Run
import RestClient.Proofs.Client.Address
import RestClient.Proofs.Client.Framing

/-! # Where a server stands in a module

The server of an operation goes into the address of its request, and nowhere else: the code of the
operation is one text before the server and one behind it. Operations that differ in their servers
only have the same names, types and events.

* `HoldsServer`: texts that hold a server at one place, and `holdsServer_body`: the body of a
  request function is one;
* `code_withServer`: the code of an operation at another server;
* `exists_clientModule_overrideServer`: the places of the servers in a module. -/

namespace RestClient

open RestClient.Text RestClient.TypeScript RestClient.CommandLine

/-! ### Texts with a server in them -/

/-- A text as static text of a template literal. -/
def staticText (s : String) : String := String.ofList (escapeTemplate s.toList)

/-- Texts that hold a server at one place and are the same for all servers before and behind it. -/
def HoldsServer (text : String → String) : Prop :=
  ∃ before behind, ∀ server, text server = before ++ staticText server ++ behind

theorem HoldsServer.between {text text' : String → String} (s t : String) (h : HoldsServer text)
    (heq : ∀ server, text' server = s ++ text server ++ t) : HoldsServer text' := by
  obtain ⟨before, behind, h⟩ := h
  refine ⟨s ++ before, behind ++ t, fun server => ?_⟩
  rw [heq, h]
  simp only [String.append_assoc]

theorem holdsServer_urlTemplate (path : String) (hasQuery : Bool) :
    HoldsServer fun server => Expr.print (.template (urlTemplate server path hasQuery)) := by
  refine ⟨"\x60", String.ofList (pathCode (placeholders path.toList).2
    (placeholders path.toList).1 ++ addressEnd hasQuery), fun server => ?_⟩
  rw [← String.toList_inj, toList_print_urlTemplate]
  simp [staticText]

theorem printAll_append (depth : Nat) (stmts stmts' : List Stmt) :
    Stmt.printAll depth (stmts ++ stmts') =
      Stmt.printAll depth stmts ++ Stmt.printAll depth stmts' := by
  induction stmts with
  | nil => rw [List.nil_append, Stmt.printAll, String.empty_append]
  | cons stmt stmts ih =>
    rw [List.cons_append, Stmt.printAll, ih, Stmt.printAll, String.append_assoc]

/-- The statement that sends a request to an address. -/
theorem print_fetch (depth : Nat) (address init : Expr) :
    Stmt.print depth (.constant "response" (.await (.call (.identifier "fetch") [address, init]))) =
      indentation depth ++ "const response = await fetch(" ++ address.print ++
        (", " ++ init.print ++ ");\n") := by
  have hparens : ", ".intercalate (Expr.printAll [address, init]) =
      address.print ++ ", " ++ init.print := by
    simp [Expr.printAll]
  rw [Stmt.constant, Stmt.print, Expr.print, Expr.print, hparens, Expr.print]
  simp [← String.toList_inj, VariableKind.keyword]

/-- **A request function holds the server in its address**, and nowhere else. -/
theorem holdsServer_body (op : Operation) (names : Names) :
    HoldsServer fun server =>
      Stmt.printAll 1 ((op.withServer server).requestFunction names).body := by
  refine (holdsServer_urlTemplate op.path (!op.queryParams.isEmpty)).between
    (Stmt.printAll 1 (if !op.queryParams.isEmpty then queryStatements else []) ++
      (indentation 1 ++ "const response = await fetch("))
    (", " ++ op.requestInit.print ++ ");\n" ++ Stmt.printAll 1 (op.bodyReading.statements ++
      [.result (.cast (.object op.bodyReading.resultEntries) (.named names.resultType))]))
    fun server => ?_
  have hbody : ((op.withServer server).requestFunction names).body =
      (if !op.queryParams.isEmpty then queryStatements else []) ++
        (.constant "response" (.await (.call (.identifier "fetch")
          [.template (urlTemplate server op.path (!op.queryParams.isEmpty)), op.requestInit])) ::
        (op.bodyReading.statements ++
          [.result (.cast (.object op.bodyReading.resultEntries) (.named names.resultType))])) :=
    List.append_assoc _ _ _
  rw [hbody, printAll_append, Stmt.printAll, print_fetch]
  simp only [String.append_assoc]

/-! ### The code of an operation -/

section Code

variable (op : Operation) (server : String)

theorem names_withServer : (op.withServer server).names = op.names := rfl

theorem responses_withServer : (op.withServer server).responses = op.responses := rfl

theorem paramsDeclaration_withServer (names : Names) :
    (op.withServer server).paramsDeclaration names = op.paramsDeclaration names := rfl

theorem resultDeclarations_withServer (names : Names) (phrases : PhraseTable) :
    (op.withServer server).resultDeclarations names phrases =
      op.resultDeclarations names phrases := rfl

/-- **Of the code of an operation only the function depends on the server.** -/
theorem code_withServer (phrases : PhraseTable) :
    (op.withServer server).code phrases =
      (op.code phrases).map fun code =>
        { code with function := ((op.withServer server).requestFunction op.names).print } := by
  have hpath : (op.withServer server).path = op.path := rfl
  have hverb : (op.withServer server).verb = op.verb := rfl
  simp only [Operation.code, names_withServer, responses_withServer, paramsDeclaration_withServer,
    resultDeclarations_withServer, hpath, hverb, Logged.map, Logged.after]

end Code

/-- The request function of an operation at every server. -/
theorem exists_print_requestFunction (op : Operation) (names : Names) :
    ∃ before behind, ∀ server, ((op.withServer server).requestFunction names).print =
      before ++ staticText server ++ behind ++ "\x7d\n" := by
  obtain ⟨before, behind, (hbody : ∀ server, Stmt.printAll 1 _ = _)⟩ :=
    holdsServer_body op names
  refine ⟨"export async function " ++ (op.requestFunction names).name ++ "(" ++
    ", ".intercalate ((op.requestFunction names).parameters.map Parameter.print) ++ "): " ++
    (op.requestFunction names).returnType.print ++ " \x7b\n" ++ before, behind, fun server => ?_⟩
  have hname : ((op.withServer server).requestFunction names).name =
      (op.requestFunction names).name := rfl
  have hparameters : ((op.withServer server).requestFunction names).parameters =
      (op.requestFunction names).parameters := rfl
  have htype : ((op.withServer server).requestFunction names).returnType =
      (op.requestFunction names).returnType := rfl
  unfold Function.print
  rw [hbody, hname, hparameters, htype]
  simp only [String.append_assoc]

/-- The code of an operation at another server, as one text. -/
theorem source_withServer {op : Operation} {server function : String} (phrases : PhraseTable)
    (h : ((op.withServer server).requestFunction op.names).print = function ++ "\x7d\n") :
    ((op.withServer server).code phrases).value.source =
      (op.code phrases).value.params ++ "\n\n" ++ (op.code phrases).value.result ++ "\n\n" ++
        function ++ "\x7d" := by
  obtain ⟨function', hfunction, hsource⟩ := exists_source_eq phrases (op.withServer server)
  simp only [code_withServer, Logged.value_map, h, String.append_left_inj] at hfunction hsource ⊢
  rw [hsource, ← hfunction]
  simp only [String.append_assoc]

/-! ### Modules -/

theorem overrideServer_eq_map (server : Option String) (ops : List Operation) :
    overrideServer server ops = ops.map fun op => op.withServer (server.getD op.server) := by
  cases server with
  | none => exact (List.map_id' ops).symm
  | some server => rfl

/-- A module with a server for all operations, or with the server of each. -/
theorem clientModule_overrideServer_eq_join (phrases : PhraseTable) (server : Option String)
    (ops : List Operation) :
    (clientModule phrases (overrideServer server ops)).value =
      preamble ++ String.join (ops.map fun op => "\n\n" ++
        ((op.withServer (server.getD op.server)).code phrases).value.source) ++ "\n" := by
  obtain ⟨front, hfront, happend⟩ :=
    exists_clientModule_append phrases [] (overrideServer server ops)
  rw [clientModule_nil, String.append_left_inj] at hfront
  rw [List.nil_append, ← hfront, overrideServer_eq_map, List.map_map] at happend
  rw [overrideServer_eq_map, happend, Function.comp_def]

theorem events_clientModule_overrideServer (phrases : PhraseTable) (server : Option String)
    (ops : List Operation) :
    (clientModule phrases (overrideServer server ops)).events =
      (clientModule phrases ops).events := by
  simp only [overrideServer_eq_map, clientModule, Logged.events_andThen, Logged.events_map,
    Logged.events_traverse, List.flatMap_map, List.length_map, code_withServer]

/-- Two operations that differ in nothing but the server. -/
def Operation.SameButServer (op op' : Operation) : Prop := op.withServer op'.server = op'

/-- Operations that differ in their servers only are the same once one server replaces them all. -/
theorem overrideServer_congr {ops ops' : List Operation} (server : String)
    (h : List.Forall₂ Operation.SameButServer ops ops') :
    overrideServer (some server) ops = overrideServer (some server) ops' := by
  induction h with
  | nil => rfl
  | cons hop _ ih =>
    rw [Operation.SameButServer] at hop
    have hhead := congrArg (Operation.withServer server) hop
    exact congrArg₂ List.cons hhead ih

/-- **The server of an operation goes into one place of its function**, and nothing else of its code
depends on it. So a server for all operations changes a module at these places only, one for each
operation, and makes modules the same that differ in their servers only. -/
theorem exists_clientModule_overrideServer :
    ∃ before behind : Operation → String,
      (∀ (phrases : PhraseTable) (op : Operation) (server : String),
        ((op.withServer server).code phrases).value.function =
          before op ++ staticText server ++ (behind op ++ "\n") ∧
        ((op.withServer server).code phrases).value.names = (op.code phrases).value.names ∧
        ((op.withServer server).code phrases).value.params = (op.code phrases).value.params ∧
        ((op.withServer server).code phrases).value.result = (op.code phrases).value.result ∧
        ((op.withServer server).code phrases).events = (op.code phrases).events) ∧
      (∀ (phrases : PhraseTable) (ops : List Operation) (server : Option String),
        (clientModule phrases (overrideServer server ops)).value =
          preamble ++ String.join (ops.map fun op =>
            "\n\n" ++ (op.code phrases).value.params ++
            "\n\n" ++ (op.code phrases).value.result ++
            "\n\n" ++ before op ++ staticText (server.getD op.server) ++ behind op) ++ "\n" ∧
        (clientModule phrases (overrideServer server ops)).events =
          (clientModule phrases ops).events) ∧
      (∀ (phrases : PhraseTable) (server : String) (ops ops' : List Operation),
        List.Forall₂ Operation.SameButServer ops ops' →
        clientModule phrases (overrideServer (some server) ops) =
          clientModule phrases (overrideServer (some server) ops')) := by
  choose before behind hprint using fun op : Operation => exists_print_requestFunction op op.names
  refine ⟨before, fun op => behind op ++ "\x7d", fun phrases op server => ?_,
    fun phrases ops server => ⟨?_, events_clientModule_overrideServer phrases server ops⟩,
    fun phrases server ops ops' h => ?_⟩
  · rw [code_withServer, Logged.value_map, Logged.events_map]
    refine ⟨?_, rfl, rfl, rfl, rfl⟩
    have hend : behind op ++ "\x7d" ++ "\n" = behind op ++ "\x7d\n" := String.append_assoc
    rw [hprint, hend, String.append_assoc]
  · have hsource (op : Operation) := source_withServer phrases (hprint op (server.getD op.server))
    rw [clientModule_overrideServer_eq_join]
    simp only [hsource, String.append_assoc]
  · rw [overrideServer_congr server h]

theorem readNote_overrideServer :
    List.Forall₂ Operation.SameButServer [readNote, readNote.withServer "https://old.example/$"]
      [readNote.withServer "\x60", readNote] ∧
    clientModule standardPhrase
        (overrideServer (some "") [readNote, readNote.withServer "https://old.example/$"]) =
      clientModule standardPhrase
        (overrideServer (some "") [readNote.withServer "\x60", readNote]) := by
  have hsame : List.Forall₂ Operation.SameButServer
      [readNote, readNote.withServer "https://old.example/$"]
      [readNote.withServer "\x60", readNote] := .cons rfl (.cons rfl .nil)
  obtain ⟨_, _, -, -, hmodule⟩ := exists_clientModule_overrideServer
  exact ⟨hsame, hmodule standardPhrase "" _ _ hsame⟩

end RestClient
