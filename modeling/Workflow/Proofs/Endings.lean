import Workflow.Cli.Report
import Workflow.Proofs.Fate
import Workflow.Proofs.Printing

/-!
# Workflow.Proofs.Endings

How a command ends that runs a graph.

1. A run with executors for nodes of all kinds comes to an end, and its failure, if
   there is one, is that of a node.  The one exception is a loop whose payload is no
   mapping: nobody can tell how many branches it waits for (`Launch.ends`).
2. A command that gets as far as running its graph prints the heading, the records of
   the run and its outcome, and ends with a code (`Reports`).  It ends with 0 or 1
   unless the result has no JSON text or the run met such a loop; a key that is
   none in JSON, and the loop, are trouble that nobody reports.
-/

namespace Workflow.Run

open Machine

variable {σ : Type}

/-! ## Who is to blame for a failure -/

/-- The failure is that of a dispatch, or nobody could tell how many branches a node
waits for. -/
def Blameable (g : Graph) (F : Failure → Prop) (f : Failure) : Prop :=
  F f ∨ ∃ k fault, g.required k = .error fault ∧ f = .own (.fault fault)

/-- All failures that are passed on or have ended the run can be blamed on someone. -/
def Blamed (s : Setup σ) (F : Failure → Prop) (h : Hand) (m : Machine σ) : Prop :=
  ∀ f, h.passes? = some f ∨ f ∈ m.failures → Blameable s.plan.graph F f

section

variable {s : Setup σ} {F : Failure → Prop} {start : Node} {h h' : Hand} {m m' : Machine σ} {e : Event}
  {piles piles' : Nat → List Node}

theorem Blamed.takes (htakes : Takes m e m') (hblamed : Blamed s F .idle m) : Blamed s F (.holds e) m' :=
  fun f hf => hblamed f (.inr (htakes.failures hf))

/-- A failure that comes up in the work in hand is that of a dispatch. -/
theorem Blamed.move (hmove : Move s h m h' m') (hsound : Sound s start h m)
    (hadds : Adds s.plan F piles h m.world piles' h' m'.world) (hblamed : Blamed s F h m) : Blamed s F h' m' := by
  have hhand : ∀ f, h.failure? = some f → Blameable s.plan.graph F f := by
    intro f hf
    rcases Hand.failure?_cases hf with hpasses | ⟨t, u, rfl⟩
    · exact hblamed f (.inl hpasses)
    · cases hadds with
      | whisper hnone => cases hnone
      | deeds _ hnone => cases hnone
      | lapse hh hfailure =>
        cases hh
        exact .inl hfailure
  rintro f (hf | hf)
  · rcases hmove.passes hf with hfailure | ⟨_, k, fault, _, hfault, heq⟩
    · exact hhand f hfailure
    · exact .inr ⟨k, fault, hfault, heq⟩
  · exact (hmove.failures hsound hf).elim (hhand f) fun hmem => hblamed f (.inr hmem)

end

/-- How a run can end: with a result, with the failure of a node, or because nobody can
tell how many branches a loop waits for, since its payload is no mapping. -/
inductive Concludes (g : Graph) : Except RunError Value → Prop
  | result (v : Value) : Concludes g (.ok v)
  | failed (error : NodeError) : Concludes g (.error (.failure (.node error)))
  | shapeless {n : Node} (hn : n ∈ g.nodes) (hkind : n.kind = .loop) (hpayload : ∀ id es, n.payload ≠ .dict id es) :
      Concludes g (.error (.failure (.own (.fault (.noAttribute n.payload.typeName "get")))))

namespace Launch

/-- Whatever fails in a run can be blamed on someone. -/
theorem blamed (l : Launch σ) {F : Failure → Prop} (hacts : ActingDispatch l.setup F) (k : Nat) :
    (∃ piles, Acting l.given F piles .idle (l.state k)) ∧ Blamed l.setup F .idle (l.state k) := by
  induction k with
  | zero =>
    refine ⟨⟨fun _ => [], .single ..⟩, ?_⟩
    rintro f (hf | hf) <;> cases hf
  | succ k ih =>
    rw [l.state_succ]
    cases hstep : step l.setup (l.state k) with
    | none => exact ih
    | some m' =>
      refine (step_induct
        (I := fun h m => Sound l.setup l.start h m ∧ (∃ piles, Acting l.given F piles h m) ∧ Blamed l.setup F h m)
        (fun h => h.1.shape.plain) (fun htakes ⟨hsound, ⟨piles, hacting⟩, hblamed⟩ => ?_)
        (fun hmove ⟨hsound, ⟨piles, hacting⟩, hblamed⟩ => ?_) hstep ⟨l.sound k, ih⟩).2
      · exact ⟨hsound.takes htakes, ⟨piles, hacting.takes (s := l.setup) htakes⟩, hblamed.takes htakes⟩
      · obtain ⟨piles', hadds, hacting'⟩ := hacting.move hmove hacts hsound
        exact ⟨hsound.move hmove l.keptDispatch, ⟨piles', hacting'⟩, hblamed.move hmove hsound hadds⟩

/-- A run in which nodes of all kinds can be executed comes to such an end. -/
theorem ends (l : Launch σ) (hkinds : ∀ kind, kind ∈ l.plan.kinds) :
    ∃ N, l.Halted N ∧ Concludes l.graph (l.state N).ended.outcome := by
  obtain ⟨N, hhalt⟩ := l.halts
  have hacts := l.actingDispatch_of_kinds hkinds
  obtain ⟨piles, hfate⟩ := l.fate hacts N
  refine ⟨N, hhalt, ?_⟩
  unfold Machine.ended
  rcases hhalt.ended hfate with ⟨v, houtcome, -⟩ | ⟨f, houtcome, -⟩
  · rw [houtcome]
    exact .result _
  · rw [houtcome]
    rcases (l.blamed hacts N).2 f (.inr (mem_failures.mpr (.inr houtcome))) with ⟨error, rfl⟩ | ⟨k, fault, hfault, rfl⟩
    · exact .failed error
    · obtain ⟨n, hn, hkind, hpayload, rfl⟩ := Graph.required_error hfault
      exact .shapeless (Graph.node?_some hn).1 hkind hpayload

end Launch
end Workflow.Run

namespace Workflow.Cli

open Run

/-! ## Sessions -/

namespace Console

/-- The console after more lines of output. -/
def say (c : Console) (ls : List String) : Console := { c with output := c.output ++ joinLines ls }

/-- The console after more lines where errors go. -/
def complain (c : Console) (ls : List String) : Console := { c with errors := c.errors ++ joinLines ls }

theorem say_nil (c : Console) : c.say [] = c := by
  simp [say, joinLines, String.join]

theorem complain_nil (c : Console) : c.complain [] = c := by
  simp [complain, joinLines, String.join]

theorem say_say (c : Console) (l : String) (ls : List String) : (c.say [l]).say ls = c.say (l :: ls) := by
  simp [say, joinLines, String.join_cons, String.append_assoc]

theorem complain_complain (c : Console) (l : String) (ls : List String) :
    (c.complain [l]).complain ls = c.complain (l :: ls) := by
  simp [complain, joinLines, String.join_cons, String.append_assoc]

end Console

section

variable {α β : Type} {x : Session α} {c c' : Console}

/-- What is done after something that goes well begins where that leaves the console. -/
theorem run_bind_ok {f : α → Session β} {a : α} (h : x.run.run c = (.ok a, c')) :
    (x >>= f).run.run c = (f a).run.run c' := by
  simp only [ExceptT.run_bind, StateT.run_bind, h]
  rfl

/-- Nothing is done after trouble. -/
theorem run_bind_error {f : α → Session β} {t : Trouble} (h : x.run.run c = (.error t, c')) :
    (x >>= f).run.run c = (.error t, c') := by
  simp only [ExceptT.run_bind, StateT.run_bind, h]
  rfl

theorem run_print (l : String) (c : Console) : (Session.print l).run.run c = (.ok (), c.say [l]) := by
  change (Except.ok (), { c with output := c.output ++ l ++ "\n" }) = _
  simp [Console.say, joinLines, String.join_cons, String.append_assoc]

theorem run_complain (l : String) (c : Console) : (Session.complain l).run.run c = (.ok (), c.complain [l]) := by
  change (Except.ok (), { c with errors := c.errors ++ l ++ "\n" }) = _
  simp [Console.complain, joinLines, String.join_cons, String.append_assoc]

theorem run_lift {ε : Type} {r : Except ε α} {a : α} (h : r = .ok a) (trouble : ε → Trouble) (c : Console) :
    (Session.lift trouble r).run.run c = (.ok a, c) := by
  subst h
  rfl

theorem run_lift_error {ε : Type} {r : Except ε α} {f : ε} (h : r = .error f) (trouble : ε → Trouble) (c : Console) :
    (Session.lift trouble r).run.run c = (.error (trouble f), c) := by
  subst h
  rfl

theorem run_modify (f : Console → Console) (c : Console) :
    (modify f : Session Unit).run.run c = (.ok (), f c) := rfl

/-- Telling one line after the other tells them all. -/
theorem run_forIn {act : α → Session Unit} {line : α → String} {tell : Console → List String → Console}
    (hnil : ∀ c, tell c [] = c) (hcons : ∀ c l ls, tell (tell c [l]) ls = tell c (l :: ls))
    (hact : ∀ a c, (act a).run.run c = (.ok (), tell c [line a])) (as : List α) (c : Console) :
    (forIn as PUnit.unit fun a _ => do act a; pure (ForInStep.yield PUnit.unit) : Session PUnit).run.run c =
      (.ok (), tell c (as.map line)) := by
  induction as generalizing c with
  | nil =>
    rw [List.map_nil, hnil]
    rfl
  | cons a as ih =>
    rw [List.map_cons, ← hcons, ← ih, List.forIn_cons]
    simp only [bind_assoc, pure_bind, ExceptT.run_bind, StateT.run_bind, hact]
    rfl

/-- The lines that show the log of a run. -/
def logLines (log : List LogEntry) : List String := "\nExecution log:" :: log.map logLine

theorem run_printLog (log : List LogEntry) (c : Console) :
    (Session.printLog log).run.run c = (.ok (), c.say (logLines log)) := by
  unfold Session.printLog logLines
  rw [run_bind_ok (run_print ..), run_bind_ok (run_forIn Console.say_nil Console.say_say
    (fun e c => run_print (logLine e) c) log _), Console.say_say]
  rfl

end

/-! ## Reports -/

/-- The lines of a log that are shown. -/
def shownLines (showLog : Bool) (log : List LogEntry) : List String := if showLog then logLines log else []

/-- How a run that has ended is reported, on a console on which the heading and the
records of the run are told. -/
inductive Reports (g : Graph) (showLog : Bool) (e : Ended Service.Host) (c : Console) : Report → Prop
  | unreached (houtcome : e.outcome = .ok .null) :
      Reports g showLog e c ⟨.exit 0, c.say ("\nNo end node was reached." :: shownLines showLog e.world.log)⟩
  | result {v : Value} {text : String} (houtcome : e.outcome = .ok v) (hv : v ≠ .null) (hprintable : Json.Printable v)
      (htext : Json.write .indentedAny v = .ok text) :
      Reports g showLog e c ⟨.exit 0, c.say (text :: shownLines showLog e.world.log)⟩
  | failed {n : NodeError} (houtcome : e.outcome = .error (.failure (.node n))) :
      Reports g showLog e c ⟨.exit 1, (c.complain ["\nRun failed: " ++ n.message]).say (shownLines showLog e.world.log)⟩
  /-- The result is refused, as a file is that cannot be read. -/
  | refused {v : Value} {f : Fault} (houtcome : e.outcome = .ok v) (hprintable : ¬Json.Printable v)
      (herror : Json.write .indentedAny v = .error f) (hf : f = .tooManyDigits ∨ f = .circular) :
      Reports g showLog e c ⟨.exit 2, c.complain ["Error: " ++ f.message]⟩
  /-- A key of the result is none in JSON. -/
  | unnamed {v : Value} {t : String} (houtcome : e.outcome = .ok v) (hprintable : ¬Json.Printable v)
      (herror : Json.write .indentedAny v = .error (.keyType t)) :
      Reports g showLog e c ⟨.leave (.fault (.keyType t)), c⟩
  /-- The payload of a loop is no mapping. -/
  | shapeless {n : Node} {r : RunError} (hn : n ∈ g.nodes) (hkind : n.kind = .loop)
      (hpayload : ∀ id es, n.payload ≠ .dict id es)
      (hr : r = .failure (.own (.fault (.noAttribute n.payload.typeName "get")))) (houtcome : e.outcome = .error r) :
      Reports g showLog e c ⟨.leave (.run r), c⟩

section

variable {g : Graph} {session : Session Nat} {showLog : Bool} {e : Ended Service.Host} {code : Nat} {t : Trouble}
  {c₀ c c' : Console}

theorem ofSession_ok (h : session.run.run c₀ = (.ok code, c)) : Report.ofSession c₀ session = ⟨.exit code, c⟩ := by
  unfold Report.ofSession
  rw [h]

theorem ofSession_reported (h : session.run.run c₀ = (.error t, c)) (ht : t.isReported = true) :
    Report.ofSession c₀ session = ⟨.exit 2, c.complain ["Error: " ++ t.message]⟩ := by
  unfold Report.ofSession
  rw [h]
  simp [ht, Console.complain, joinLines, String.append_assoc]

theorem ofSession_left (h : session.run.run c₀ = (.error t, c)) (ht : t.isReported = false) :
    Report.ofSession c₀ session = ⟨.leave t, c⟩ := by
  unfold Report.ofSession
  rw [h]
  simp [ht]

/-- Where the outcome is printed, the log may follow. -/
theorem run_printRun_ok (h : (Session.printOutcome e.outcome).run.run c = (.ok code, c')) :
    (Session.printRun showLog e).run.run c = (.ok code, c'.say (shownLines showLog e.world.log)) := by
  unfold Session.printRun shownLines
  rw [run_bind_ok h]
  cases showLog with
  | false => exact congrArg (Except.ok code, ·) (Console.say_nil c').symm
  | true => exact run_bind_ok (run_printLog ..)

/-- Where it is not, nothing follows. -/
theorem run_printRun_error (h : (Session.printOutcome e.outcome).run.run c = (.error t, c')) :
    (Session.printRun showLog e).run.run c = (.error t, c') := run_bind_error h

/-- A result is printed, or leaves nothing behind but its fault. -/
theorem run_printOutcome_ok {v : Value} (hv : v ≠ .null) (c : Console) :
    (Session.printOutcome (.ok v)).run.run c = match Json.write .indentedAny v with
      | .ok text => (.ok 0, c.say [text])
      | .error f => (.error (.fault f), c) := by
  have houtcome : Session.printOutcome (.ok v) = (do Session.printJson .indentedAny v; return 0 : Session Nat) := by
    cases v <;> first | rfl | exact absurd rfl hv
  rw [houtcome, Session.printJson, bind_assoc]
  cases htext : Json.write .indentedAny v with
  | ok text =>
    rw [run_bind_ok (run_lift rfl ..), run_bind_ok (run_print ..)]
    rfl
  | error f => exact run_bind_error (run_lift_error rfl ..)

/-- A run that has ended as runs do is reported. -/
theorem reports_of_concludes (hrun : session.run.run c₀ = (Session.printRun showLog e).run.run c)
    (hends : Concludes g e.outcome) : Reports g showLog e c (.ofSession c₀ session) := by
  generalize houtcome : e.outcome = outcome at hends
  cases hends with
  | result v =>
    by_cases hv : v = .null
    · subst hv
      have hprint : (Session.printOutcome e.outcome).run.run c = (.ok 0, c.say ["\nNo end node was reached."]) := by
        rw [houtcome]
        exact run_bind_ok (run_print ..)
      rw [ofSession_ok (hrun.trans (run_printRun_ok hprint)), Console.say_say]
      exact .unreached houtcome
    -- whether the result has a text, and if not why, decides between the endings that are left
    have hprint := run_printOutcome_ok hv c
    rw [← houtcome] at hprint
    have hwritten : (Json.write .indentedAny v).isOk = true ↔ Json.Printable v := Json.write_isOk rfl rfl v
    cases htext : Json.write .indentedAny v with
    | ok text =>
      rw [htext] at hprint hwritten
      rw [ofSession_ok (hrun.trans (run_printRun_ok hprint)), Console.say_say]
      exact .result houtcome hv (hwritten.mp rfl) htext
    | error f =>
      rw [htext] at hprint hwritten
      have hsession := hrun.trans (run_printRun_error hprint)
      have hprintable : ¬Json.Printable v := fun h => Bool.false_ne_true (hwritten.mpr h)
      rcases Json.write_error rfl rfl htext with hf | hf | ⟨t, rfl⟩
      · rw [ofSession_reported hsession (by rw [hf]; rfl)]
        exact .refused houtcome hprintable htext (.inl hf)
      · rw [ofSession_reported hsession (by rw [hf]; rfl)]
        exact .refused houtcome hprintable htext (.inr hf)
      · rw [ofSession_left hsession rfl]
        exact .unnamed houtcome hprintable htext
  | failed n =>
    have hprint : (Session.printOutcome e.outcome).run.run c = (.ok 1, c.complain ["\nRun failed: " ++ n.message]) := by
      rw [houtcome]
      exact run_bind_ok (run_complain ..)
    rw [ofSession_ok (hrun.trans (run_printRun_ok hprint))]
    exact .failed houtcome
  | @shapeless n hn hkind hpayload =>
    have hprint : (Session.printOutcome e.outcome).run.run c =
        (.error (.run (.failure (.own (.fault (.noAttribute n.payload.typeName "get"))))), c) := by
      rw [houtcome]
      rfl
    rw [ofSession_left (hrun.trans (run_printRun_error hprint)) rfl]
    exact .shapeless hn hkind hpayload rfl houtcome

end

/-! ## Commands -/

/-- The console on which the heading of a graph and the records of a run are told,
with the outside world as the run leaves it. -/
def told (path : String) (g : Graph) (verbose : Bool) (e : Ended Service.Host) : Console where
  output := joinLines [heading path g]
  errors := joinLines (e.world.records.filterMap (recordLine? verbose))
  network := e.services.network
  api := e.services.api

section

variable {s : Surroundings} {o : RunOptions} {settings : Settings} {g : Graph} {inputs : Entries}

theorem perform_run {line : List String} {verbose : Bool} (hline : Invocation.read line = .ok ⟨verbose, .run o⟩)
    (fuel : Nat) : perform s fuel line = .ofSession ⟨"", "", s.network, s.api⟩ (runCommand s verbose fuel o) := by
  unfold perform
  rw [hline]

theorem folderReader_single (path text : String) : folderReader [(path, text)] path = .ok text := by
  simp [folderReader]

/-- A file that ends in `.json` and holds an object holds the graph of the document in it. -/
theorem graphInFile_json {read : Reader} {path text : String} {id : Option MapId} {es : Entries}
    (hread : read path = .ok text) (hsuffix : suffixOf path = ".json")
    (hvalue : Json.read (unifyLines text) = .ok (.dict id es)) :
    graphInFile read path = GraphError.lift (unwrapData (unwrapRecord (.dict id es))) >>= Graph.ofDocument := by
  unfold graphInFile documentOfText Markup.read
  rw [hread, hsuffix]
  simp only [GraphError.lift, Except.mapError, bind, Except.bind, Markup.ofSuffix, if_pos, hvalue]

/-- A command that gets as far as running its graph reports the run. -/
theorem runCommand_run (hsettings : Settings.ofEnvironment s.environment = .ok settings)
    (hgraph : graphInFile s.read o.path = .ok g) (hinputs : initialInputs (o.inputObject.getD "") o.inputs = .ok inputs)
    {e : Ended Service.Host} {verbose : Bool} {fuel : Nat}
    (he : runOf s settings o g inputs fuel = e) :
    (runCommand s verbose fuel o).run.run ⟨"", "", s.network, s.api⟩ =
      (Session.printRun o.showLog e).run.run (told o.path g verbose e) := by
  subst he
  unfold runCommand
  rw [run_bind_ok (run_lift hsettings ..), run_bind_ok (run_lift hgraph ..), run_bind_ok (run_lift hinputs ..),
    Session.printHeading, run_bind_ok (run_print ..), run_bind_ok (run_modify ..),
    run_bind_ok (run_forIn Console.complain_nil Console.complain_complain run_complain ..), List.map_id']
  simp only [told, Console.say, Console.complain, String.empty_append]

/-- The mapping of initial inputs is one that a run takes. -/
theorem initialInputs_dict (es : Entries) : ∃ v, Run.initialInputs (.dict none es) = .ok v := by
  unfold Run.initialInputs
  split
  · exact ⟨_, rfl⟩
  · exact ⟨_, rfl⟩

/-- What is said of the trouble that a command leaves with. -/
def Ending.trouble? : Ending → Option String
  | .exit _ => none
  | .leave t => some t.message

/-- A graph that binds a mapping with a pair for a key. -/
def pairDocument : Value := .record
  [("nodes", .list
    [.record [("id", .str "s"), ("type", .str "start")],
      .record [("id", .str "e"), ("type", .str "end"), ("data", .record
        [("nodeData", .record [("output_type", .str "JSON")]),
          ("inputBindings", .record [("x", .str "\x7b(1, 2): 3\x7d")])])]]),
    ("edges", .list [.record [("source", .str "s"), ("target", .str "e")]])]

/-- The text of that document. -/
def pairText : String := "\x7b\"nodes\": [
  \x7b\"id\": \"s\", \"type\": \"start\"\x7d,
  \x7b\"id\": \"e\", \"type\": \"end\", \"data\": \x7b
    \"nodeData\": \x7b\"output_type\": \"JSON\"\x7d,
    \"inputBindings\": \x7b\"x\": \"\x7b(1, 2): 3\x7d\"\x7d\x7d\x7d],
\"edges\": [\x7b\"source\": \"s\", \"target\": \"e\"\x7d]\x7d"

/-- A folder with that graph. -/
def pairKeyed : Surroundings := ⟨[], folderReader [("pair.json", pairText)], ⟨[], [], ""⟩, ⟨[], [], ""⟩⟩

/-- The command to run it. -/
def pairOptions : RunOptions := ⟨"pair.json", [], none, none, none, false, none, false⟩

/-- The settings where nothing is set. -/
def pairSettings : Settings := ⟨none, none, Service.defaultModel, Settings.defaultTimeout⟩

/-- The graph itself. -/
def pairGraph : Graph := (Graph.ofDocument pairDocument).toOption.getD .empty

set_option maxRecDepth 10000 in
theorem unifyLines_pairText : unifyLines pairText = pairText := by
  unfold unifyLines pairText
  rw [String.toList_ofList]
  rfl

set_option maxRecDepth 10000 in
theorem read_pairText : Json.read pairText = .ok pairDocument := by
  unfold Json.read pairText
  rw [String.toList_ofList]
  rfl

theorem pairKeyed_graph : graphInFile pairKeyed.read "pair.json" = .ok pairGraph := by
  have hread : Json.read (unifyLines pairText) = .ok pairDocument := by rw [unifyLines_pairText, read_pairText]
  have hok : (Graph.ofDocument pairDocument).isOk = true := by decide +kernel
  have hgraph : Graph.ofDocument pairDocument = .ok pairGraph := by
    obtain ⟨g, hg⟩ := isOk_iff.mp hok
    rw [pairGraph, hg]
    rfl
  exact (graphInFile_json (folderReader_single ..) (by decide +kernel) hread).trans hgraph

theorem pairKeyed_line : Invocation.read ["run", "pair.json"] = .ok ⟨false, .run pairOptions⟩ := by
  decide +kernel

end

end Workflow.Cli
