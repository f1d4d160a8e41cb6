import Workflow.Proofs.Fate
import Mathlib

/-!
# Workflow.Proofs.Serial

State nodes one after the other.

A state node reads, evaluates and writes in one go (`Revision`).  So however
branches interleave, the state of a run is what its state nodes make of it one
after the other (`Serial`), in the order in which the log tells of them, and
nothing of another node stands between the entries about the beginning and the
end of such an execution (`Serial.unbroken`).

State nodes that add one to a number therefore add as much as there are
(`Serial.counts`).
-/

namespace Workflow.Run

open Machine

variable {σ : Type}

/-! ## Entries about state nodes -/

/-- The entry says that an execution of a state node has begun. -/
def LogEntry.beginsState (g : Graph) (e : LogEntry) : Bool := g.nodes.any fun n => n.kind = .state && e.begins n.id.key

/-- The entry says that an execution of a state node is complete. -/
def LogEntry.completesState (g : Graph) (e : LogEntry) : Bool :=
  g.nodes.any fun n => n.kind = .state && e.completes n.id.key

/-! ## Serial executions -/

/-- Neither has the state changed, nor does the log say that a state node has
begun or is complete. -/
structure Beside (g : Graph) (w v : World) : Prop where
  state : v.state = w.state
  writes : v.writes = w.writes
  log : ∃ es, v.log = w.log ++ es ∧ ∀ e ∈ es, e.beginsState g = false ∧ e.completesState g = false

/-- From one world to another the given state nodes have been executed one after
the other, and nobody else has changed the state. -/
inductive Serial (plan : Plan) (w₀ : World) : World → List Node → Prop
  | start : Serial plan w₀ w₀ []
  | beside {w v ns} : Serial plan w₀ w ns → Beside plan.graph w v → Serial plan w₀ v ns
  | execution {w v ns n output} : Serial plan w₀ w ns → n ∈ plan.graph.nodes → n.kind = .state →
      Revision plan n w v output → Serial plan w₀ v (ns ++ [n])

variable {plan : Plan} {u v w w₀ : World} {n : Node} {ns : List Node} {e : LogEntry}

theorem Serial.trans {ns' : List Node} (h : Serial plan u w ns) (h' : Serial plan w v ns') :
    Serial plan u v (ns ++ ns') := by
  induction h' with
  | start => rwa [List.append_nil]
  | beside _ hbeside ih => exact ih.beside hbeside
  | execution _ hn hkind hrevision ih =>
      rw [← List.append_assoc]
      exact ih.execution hn hkind hrevision

theorem Serial.nodes (h : Serial plan w₀ w ns) : ∀ n ∈ ns, n ∈ plan.graph.nodes ∧ n.kind = .state := by
  induction h with
  | start => exact nofun
  | beside _ _ ih => exact ih
  | execution _ hn hkind _ ih =>
      intro n' hn'
      rcases List.mem_append.mp hn' with hn' | hn'
      · exact ih n' hn'
      · rw [List.mem_singleton.mp hn']
        exact ⟨hn, hkind⟩

/-! ## Deeds and state nodes -/

theorem remark_marks (g : Graph) (hremark : e.phase.isRemark = true) :
    e.beginsState g = false ∧ e.completesState g = false := by
  obtain ⟨hstart, hcomplete, _⟩ := Phase.ne_of_isRemark hremark
  unfold LogEntry.beginsState LogEntry.completesState
  simp [LogEntry.not_begins hstart, LogEntry.not_completes hcomplete]

/-- Entries that begin or complete no other node than one that is no state node. -/
theorem other_marks {g : Graph} (hn : n ∈ g.nodes) (hkind : n.kind ≠ .state) (hbegins : ∀ k, e.begins k = true → n.id.key = k)
    (hcompletes : ∀ k, e.completes k = true → n.id.key = k) : e.beginsState g = false ∧ e.completesState g = false := by
  have hother : ∀ m ∈ g.nodes, m.kind = .state → n.id.key ≠ m.id.key := by
    intro m hm hstate hkey
    rw [List.inj_on_of_nodup_map g.keys_nodup hn hm hkey] at hkind
    exact hkind hstate
  constructor
  · refine List.any_eq_false.mpr fun m hm hboth => ?_
    obtain ⟨hstate, hmarks⟩ : m.kind = .state ∧ e.begins m.id.key = true := by simpa using hboth
    exact hother m hm hstate (hbegins _ hmarks)
  · refine List.any_eq_false.mpr fun m hm hboth => ?_
    obtain ⟨hstate, hmarks⟩ : m.kind = .state ∧ e.completes m.id.key = true := by simpa using hboth
    exact hother m hm hstate (hcompletes _ hmarks)

theorem Beside.single {g : Graph} (hstate : v.state = w.state) (hwrites : v.writes = w.writes) (hlog : v.log = w.log ++ [e])
    (he : e.beginsState g = false ∧ e.completesState g = false) : Beside g w v :=
  ⟨hstate, hwrites, [e], hlog, fun e' he' => by rwa [List.mem_singleton.mp he']⟩

theorem Beside.of_whisper {g : Graph} (h : Whisper w v) : Beside g w v := by
  obtain ⟨es, hes, hremarks⟩ := h.log
  exact ⟨h.state, h.writes, es, hes, fun e he => remark_marks g (hremarks e he)⟩

/-- A deed executes a state node, or it leaves the state alone. -/
theorem Serial.deed {S T : List Node} (hseparate : plan.graph.Separate) (h : Serial plan w₀ w ns)
    (hdeed : Deed plan S w T v) : ∃ ns', Serial plan w₀ v ns' := by
  cases hdeed with
  | aside haside =>
      obtain ⟨es, hes, hremarks⟩ := haside.log
      exact ⟨ns, h.beside ⟨haside.state, haside.writes hseparate, es, hes, fun e he => remark_marks _ (hremarks e he).1⟩⟩
  | @begin _ _ n hn hkind =>
      refine ⟨ns, h.beside (.single rfl rfl rfl (other_marks hn hkind (fun k hk => ?_) fun k hk => ?_))⟩
      · simpa [begins_startEntry] using hk
      · rw [LogEntry.not_completes Phase.noConfusion] at hk
        cases hk
  | @complete _ _ n output elapsed hn hkind =>
      refine ⟨ns, h.beside (.single rfl rfl rfl (other_marks hn hkind (fun k hk => ?_) fun k hk => ?_))⟩
      · rw [LogEntry.not_begins Phase.noConfusion] at hk
        cases hk
      · simpa [completes_completeEntry] using hk
  | revise hn hkind hrevision => exact ⟨_, h.execution hn hkind hrevision⟩

theorem Serial.deeds {S T : List Node} (hseparate : plan.graph.Separate) (h : Serial plan w₀ w ns)
    (hdeeds : Deeds plan S w T v) : ∃ ns', Serial plan w₀ v ns' :=
  hdeeds.induct (I := fun _ w => ∃ ns, Serial plan w₀ w ns) (fun hdeed ⟨_, h⟩ => h.deed hseparate hdeed) ⟨ns, h⟩

/-- What a move without failures adds to the world is serial. -/
theorem Serial.adds {F : Failure → Prop} {piles piles' : Nat → List Node} {h h' : Hand}
    (hseparate : plan.graph.Separate) (hserial : Serial plan w₀ w ns) (hadds : Adds plan F piles h w piles' h' v)
    (hhand : h.failure? = none) : ∃ ns', Serial plan w₀ v ns' := by
  cases hadds with
  | whisper _ hwhisper => exact ⟨ns, hserial.beside (.of_whisper hwhisper)⟩
  | deeds _ _ hdeeds => exact hserial.deeds hseparate hdeeds
  | lapse hh =>
      subst hh
      cases hhand

/-! ## The log of serial executions -/

/-- What a state node logs in one execution. -/
theorem Revision.log {output : Value} (h : Revision plan n w v output) :
    v.writes = w.writes ∧ output = (Value.dict none (v.lookEntries v.state)).adopt (.result n.id.key (w.rounds n.id.key)) ∧
    ∃ es elapsed, v.log = w.log ++ (startEntry n w.clock :: es ++ [completeEntry n output elapsed w.clock]) ∧
      ∀ e ∈ es, e.node = n.id.value ∧ e.phase.isRemark = true := by
  obtain ⟨u, _, _, hremarked, _, _, _, houtput, rfl⟩ := h.revised
  obtain ⟨es, hes, hremarks⟩ := hremarked.log
  refine ⟨hremarked.writes, houtput, es, 0, ?_, fun e he => ⟨(hremarks e he).1, (hremarks e he).2.2⟩⟩
  change u.log ++ [completeEntry n output 0 u.clock] = _
  rw [hes, hremarked.clock]
  simp [World.begun, World.addEntry]

/-- The COMPLETE entries of state nodes are those of the executions, in order. -/
theorem Serial.log (h : Serial plan w₀ w ns) : w.writes = w₀.writes ∧
    ∃ es, w.log = w₀.log ++ es ∧ (es.filter (LogEntry.completesState plan.graph)).map (·.node) = ns.map (·.id.value) := by
  induction h with
  | start => exact ⟨rfl, [], (List.append_nil _).symm, rfl⟩
  | beside _ hbeside ih =>
      obtain ⟨hwrites, es, hes, hnodes⟩ := ih
      obtain ⟨fs, hfs, hmarks⟩ := hbeside.log
      have hnone : fs.filter (LogEntry.completesState plan.graph) = [] :=
        List.filter_eq_nil_iff.mpr fun e he => by simp [(hmarks e he).2]
      refine ⟨hbeside.writes.trans hwrites, es ++ fs, by rw [hfs, hes, List.append_assoc], ?_⟩
      rw [List.filter_append, hnone, List.append_nil, hnodes]
  | @execution w v ns n output _ hn hkind hrevision ih =>
      obtain ⟨hwrites, es, hes, hnodes⟩ := ih
      obtain ⟨hwrites', _, fs, elapsed, hfs, hremarks⟩ := hrevision.log
      refine ⟨hwrites'.trans hwrites, es ++ _, by rw [hfs, hes, List.append_assoc], ?_⟩
      have hstart : (startEntry n w.clock).completesState plan.graph = false := by
        unfold LogEntry.completesState
        simp [LogEntry.not_completes (e := startEntry n w.clock) Phase.noConfusion]
      have hnone : fs.filter (LogEntry.completesState plan.graph) = [] :=
        List.filter_eq_nil_iff.mpr fun e he => by simp [(remark_marks plan.graph (hremarks e he).2).2]
      have hend : (completeEntry n output elapsed w.clock).completesState plan.graph = true :=
        List.any_eq_true.mpr ⟨n, hn, by simp [hkind, completes_completeEntry]⟩
      rw [List.filter_append, List.map_append, hnodes, List.filter_append, List.filter_cons_of_neg (by simp [hstart]), hnone,
        List.filter_singleton, hend, List.nil_append, cond_true, List.map_append]
      rfl

/-- In the log, all that follows the beginning of an execution of a state node
is remarks about that node, up to the end of the execution. -/
def Unbroken (g : Graph) (log : List LogEntry) : Prop :=
  ∀ (i : Nat) (e : LogEntry) (n : Node), log[i]? = some e → n ∈ g.nodes → n.kind = .state → e.begins n.id.key = true →
    ∃ (j : Nat) (c : LogEntry), i < j ∧ log[j]? = some c ∧ c.completes n.id.key = true ∧
      ∀ (k : Nat) (x : LogEntry), i < k → k < j → log[k]? = some x → x.node = n.id.value ∧ x.phase.isRemark = true

theorem Unbroken.append {g : Graph} {log es : List LogEntry} (h : Unbroken g log) (hes : Unbroken g es) :
    Unbroken g (log ++ es) := by
  intro i e n he hn hkind hbegins
  by_cases hi : i < log.length
  · rw [List.getElem?_append_left hi] at he
    obtain ⟨j, c, hij, hc, hcompletes, hbetween⟩ := h i e n he hn hkind hbegins
    have hj := (List.getElem?_eq_some_iff.mp hc).1
    refine ⟨j, c, hij, by rw [List.getElem?_append_left hj, hc], hcompletes, fun k x hik hkj hx => ?_⟩
    rw [List.getElem?_append_left (hkj.trans hj)] at hx
    exact hbetween k x hik hkj hx
  · have hle : log.length ≤ i := Nat.le_of_not_lt hi
    rw [List.getElem?_append_right hle] at he
    obtain ⟨j, c, hij, hc, hcompletes, hbetween⟩ := hes _ e n he hn hkind hbegins
    refine ⟨log.length + j, c, by omega, ?_, hcompletes, fun k x hik hkj hx => ?_⟩
    · rw [List.getElem?_append_right (by omega), Nat.add_sub_cancel_left, hc]
    · rw [List.getElem?_append_right (by omega)] at hx
      exact hbetween _ x (by omega) (by omega) hx

theorem unbroken_of_other {g : Graph} {es : List LogEntry} (hes : ∀ e ∈ es, e.beginsState g = false) : Unbroken g es := by
  intro i e n he hn hkind hbegins
  have hmarks : e.beginsState g = true := List.any_eq_true.mpr ⟨n, hn, by simp [hkind, hbegins]⟩
  rw [hes e (List.mem_of_getElem? he)] at hmarks
  cases hmarks

/-- An execution of a state node is unbroken. -/
theorem unbroken_execution {g : Graph} (hn : n ∈ g.nodes) {es : List LogEntry} {output : Value} {elapsed time : Nat}
    (hes : ∀ e ∈ es, e.node = n.id.value ∧ e.phase.isRemark = true) :
    Unbroken g (startEntry n time :: es ++ [completeEntry n output elapsed time]) := by
  intro i e m he hm hkind hbegins
  have hlength : (startEntry n time :: es).length = es.length + 1 := rfl
  have hmember : ∀ (k : Nat) (x : LogEntry), 0 < k → k < es.length + 1 →
      (startEntry n time :: es ++ [completeEntry n output elapsed time])[k]? = some x → x ∈ es := by
    intro k x hpos hk hx
    obtain ⟨k, rfl⟩ := Nat.exists_eq_succ_of_ne_zero (Nat.pos_iff_ne_zero.mp hpos)
    rw [List.getElem?_append_left (by omega), List.getElem?_cons_succ] at hx
    exact List.mem_of_getElem? hx
  have hlast : (startEntry n time :: es ++ [completeEntry n output elapsed time])[es.length + 1]? =
      some (completeEntry n output elapsed time) := by
    rw [List.getElem?_append_right (by omega), hlength, Nat.sub_self]
    rfl
  rcases Nat.eq_zero_or_pos i with rfl | hpos
  · have hkey : n.id.key = m.id.key := by
      cases he
      simpa [begins_startEntry] using hbegins
    obtain rfl : n = m := List.inj_on_of_nodup_map g.keys_nodup hn hm hkey
    exact ⟨es.length + 1, _, Nat.succ_pos _, hlast, by simp [completes_completeEntry],
      fun k x hk hk' hx => hes x (hmember k x hk hk' hx)⟩
  · have hnot : e.begins m.id.key = false := by
      rcases Nat.lt_or_ge i (es.length + 1) with hlt | hge
      · exact LogEntry.not_begins (Phase.ne_of_isRemark (hes e (hmember i e hpos hlt he)).2).1 _
      · have hlt := (List.getElem?_eq_some_iff.mp he).1
        obtain rfl : i = es.length + 1 := by
          simp at hlt
          omega
        rw [hlast] at he
        cases he
        exact LogEntry.not_begins Phase.noConfusion _
    rw [hnot] at hbegins
    cases hbegins

theorem Serial.unbroken (h : Serial plan w₀ w ns) (hfirst : Unbroken plan.graph w₀.log) : Unbroken plan.graph w.log := by
  induction h with
  | start => exact hfirst
  | beside _ hbeside ih =>
      obtain ⟨es, hes, hmarks⟩ := hbeside.log
      rw [hes]
      exact ih.append (unbroken_of_other fun e he => (hmarks e he).1)
  | execution _ hn _ hrevision ih =>
      obtain ⟨_, _, es, elapsed, hes, hremarks⟩ := hrevision.log
      rw [hes]
      exact ih.append (unbroken_execution hn hremarks)

/-! ## State nodes that count -/

/-- The update adds one to `x`. -/
def AddsOne (update : Value) : Prop :=
  update.read "key" = .ok (.str "x") ∧ update.read "binding" = .ok (.str "state.x + 1")

/-- All that a node says is to add one to `x`. -/
def World.Increments (w : World) (n : Node) : Prop := ∃ update, Execute.updatesOf w n = .ok [update] ∧ AddsOne update

/-- The number under a name is not changed by writes to shared mappings. -/
theorem field?_lookEntries (w : World) (name : String) (c : Int) {es : Entries} (h : es.field? name = some (.int c)) :
    (w.lookEntries es).field? name = some (.int c) := by
  have hlook : w.look (.int c) = .int c := by
    unfold World.look Value.receiveAll
    induction w.writes with
    | nil => rfl
    | cons x writes ih => exact ih
  unfold Entries.field? at *
  rw [w.get?_lookEntries, h, Option.map_some, hlook]

end Workflow.Run

namespace Workflow.Expr

/-- A field of the state in an expression, unless its name means something else. -/
theorem eval_stateField {env : Env} {id : Option MapId} {state : Entries} {name : String} {v : Value}
    (hstate : env.context.field? stateName = some (.dict id state)) (hfield : state.field? name = some v)
    (hhidden : isHidden name = false) (hforbidden : forbiddenMethods.contains name = false)
    (hmethod : dictMethods.contains name = false) :
    eval env (.attribute (.name stateName) name) ⟨0, []⟩ = .ok (v, ⟨0, []⟩) := by
  have hname : eval env (.name stateName) ⟨0, []⟩ = .ok (.dict id state, ⟨0, []⟩) := by
    rw [eval, lookupName, hstate]
    rfl
  have hnone : attribute? (.dict id state) name = none := by
    change methodIn dictMethods (.dict id state) name = none
    rw [methodIn, hmethod]
    rfl
  have hread : readAttribute env (.dict id state) name ⟨0, []⟩ = .ok (v, ⟨0, []⟩) := by
    rw [readAttribute, hnone]
    dsimp only
    rw [hfield]
    rfl
  rw [eval, hhidden, hforbidden]
  simp [Bind.bind, StateT.bind, Except.bind, hname, hread]

theorem statement_increment : statement? (normalize "state.x + 1") =
    .ok (some (.expression (.binary .add (.attribute (.name stateName) "x") (.constant (.int 1))))) := by
  cbv

/-- The expression finds the number in the state and adds one. -/
theorem evaluate_increment {context state : Entries} {id : Option MapId} {c : Int}
    (hstate : context.field? stateName = some (.dict id state)) (hx : state.field? "x" = some (.int c)) :
    evaluate "state.x + 1" context = .ok (.int (c + 1)) := by
  have hstrip : (Text.strip "state.x + 1").isEmpty = false := by decide +kernel
  generalize henv : (⟨context, normalize "state.x + 1"⟩ : Env) = env
  have hfound : env.context.field? stateName = some (.dict id state) := by rw [← henv]; exact hstate
  have hfield : eval env (.attribute (.name stateName) "x") ⟨0, []⟩ = .ok (.int c, ⟨0, []⟩) :=
    eval_stateField hfound hx (by decide +kernel) (by decide +kernel) (by decide +kernel)
  have hsum : eval env (.binary .add (.attribute (.name stateName) "x") (.constant (.int 1))) ⟨0, []⟩ =
      .ok (.int (c + 1), ⟨0, []⟩) := by
    rw [eval]
    simp [Bind.bind, StateT.bind, Except.bind, hfield]
    rfl
  have hsource : env.source = normalize "state.x + 1" := by rw [← henv]
  rw [evaluate, hstrip, henv, evalSource, hsource, statement_increment]
  simp [hsum, Except.map]

end Workflow.Expr

namespace Workflow.Run

open Machine

variable {σ : Type} {plan : Plan} {v w w₀ : World} {n : Node} {ns : List Node}

/-- What is given to a state node as it begins: the state, under its name. -/
theorem updateContext_state {context : Entries} (h : Execute.updateContext plan w n = .ok context) :
    ∃ id, context.field? stateName = some (.dict id (w.lookEntries w.state)) := by
  unfold Execute.updateContext World.context evalContext at h
  cases houtputs : plan.graph.nodes.foldlM (Entries.addOutput (w.lookEntries w.outputs)) [] with
  | error f =>
      rw [houtputs] at h
      cases h
  | ok es =>
      rw [houtputs] at h
      cases h
      exact ⟨_, Entries.field?_setField_same ..⟩

/-- What a node says depends on the writes to shared mappings only. -/
theorem updatesOf_writes (hwrites : w.writes = w₀.writes) (n : Node) :
    Execute.updatesOf w n = Execute.updatesOf w₀ n := by
  unfold Execute.updatesOf World.node World.look
  rw [hwrites]

/-- An execution of a state node that adds one does so. -/
theorem Revision.adds_one {output : Value} (h : Revision plan n w v output) (hwrites : w.writes = w₀.writes)
    (hincrements : w₀.Increments n) {c : Int} (hx : w.state.field? "x" = some (.int c)) :
    v.state.field? "x" = some (.int (c + 1)) := by
  obtain ⟨update, hupdate, hkey, hbinding⟩ := hincrements
  obtain ⟨u, context, updates, _, hcontext, hupdates, hrevise, _, rfl⟩ := h.revised
  obtain ⟨id, hstate⟩ := updateContext_state hcontext
  have hsame : Execute.updatesOf (w.begun plan n) n = Execute.updatesOf w₀ n := updatesOf_writes hwrites n
  rw [hsame, hupdate] at hupdates
  cases hupdates
  have hvalue := Expr.evaluate_increment hstate (field?_lookEntries _ "x" c hx)
  have hread : Execute.readUpdate context update = .ok (.set (.str "x") (.int (c + 1))) := by
    unfold Execute.readUpdate
    rw [hkey, hbinding]
    simp [Bind.bind, Except.bind, Value.truthy, Expr.evaluateAny, hvalue]
    rfl
  have hname : (Value.str "x").keyOf = .ok (Key.ofString "x") := by rw [Value.keyOf, Value.key?_str]
  have hset : u.state = w.state.setField "x" (.int (c + 1)) := by
    simp only [Execute.revise, hread, Execute.Update.applyTo, hname, Bind.bind, Except.bind] at hrevise
    exact (Except.ok.inj hrevise).symm
  change u.state.field? "x" = _
  rw [hset, Entries.field?_setField_same]

/-- State nodes that add one to a number add their number to it. -/
theorem Serial.counts (h : Serial plan w₀ w ns) (hincrements : ∀ n ∈ ns, w₀.Increments n) {c : Int}
    (hx : w₀.state.field? "x" = some (.int c)) : w.state.field? "x" = some (.int (c + ns.length)) := by
  induction h with
  | start => simpa using hx
  | beside _ hbeside ih =>
      rw [hbeside.state]
      exact ih hincrements
  | @execution w v ns n _ hserial _ _ hrevision ih =>
      have hbefore := ih fun m hm => hincrements m (List.mem_append_left _ hm)
      have hafter := hrevision.adds_one hserial.log.1 (hincrements n (by simp)) hbefore
      rw [hafter, List.length_append, List.length_singleton]
      exact congrArg (fun c => some (Value.int c)) (by omega)

/-! ## Returning runs -/

namespace Launch

variable (l : Launch σ)

/-- One step of a run without failures is serial. -/
theorem serial_succ (hseparate : l.graph.Separate) (hnone : ∀ k, (l.state k).failures = []) (k : Nat) :
    ∃ ns, Serial l.given (l.state k).world (l.state (k + 1)).world ns := by
  obtain ⟨piles, hfate⟩ := l.fate l.actingDispatch k
  have hafter := hnone (k + 1)
  rw [l.state_succ] at hafter ⊢
  cases hstep : step l.setup (l.state k) with
  | none => exact ⟨[], .start⟩
  | some m' =>
      rw [hstep, Option.getD_some] at hafter
      rw [Option.getD_some]
      refine (Run.unfailing_induct (I := fun h m => (∃ piles, Acting l.given Execute.DispatchFailure piles h m) ∧
        ∃ ns, Serial l.given (l.state k).world m.world ns) l.keptDispatch (l.sound k) (hnone k) hafter ?_ ?_ hstep).2
      · intro e m₁ htakes _ _
        refine ⟨⟨piles, Acting.takes (s := l.setup) htakes hfate.acting⟩, [], .beside .start ?_⟩
        cases htakes with
        | next => exact ⟨rfl, rfl, [], (List.append_nil _).symm, nofun⟩
        | tick => exact ⟨rfl, rfl, [], (List.append_nil _).symm, nofun⟩
      · rintro h₁ m₁ h₂ m₂ hmove _ hsound hunfailed _ ⟨⟨piles, hacting⟩, ns, hserial⟩
        obtain ⟨piles', hadds, hacting'⟩ := hacting.move hmove l.actingDispatch hsound
        refine ⟨⟨piles', hacting'⟩, hserial.adds hseparate hadds ?_⟩
        exact Option.not_isSome_iff_eq_none.mp fun hsome => hunfailed (.inl hsome)

theorem serial (hseparate : l.graph.Separate) (hnone : ∀ k, (l.state k).failures = []) {i j : Nat} (hle : i ≤ j) :
    ∃ ns, Serial l.given (l.state i).world (l.state j).world ns := by
  induction j, hle using Nat.le_induction with
  | base => exact ⟨[], .start⟩
  | succ j _ ih =>
      obtain ⟨ns, hserial⟩ := ih
      obtain ⟨ns', hserial'⟩ := l.serial_succ hseparate hnone j
      exact ⟨ns ++ ns', hserial.trans hserial'⟩

end Launch

/-- A state node with a single update. -/
def sampleState (name : String) (update : List (String × Value)) : Node :=
  sampleNode name .state [("stateUpdates", .list [.record update])]

/-- Two branches that each add one to the same number. -/
def tally : Graph where
  nodes := [sampleStart, sampleState "zero" [("key", .str "x"), ("value", .int 0)],
    sampleState "left" [("key", .str "x"), ("binding", .str "state.x + 1")],
    sampleState "right" [("key", .str "x"), ("binding", .str "state.x + 1")]]
  edges := [sampleEdge "in" "zero", sampleEdge "zero" "left", sampleEdge "zero" "right"]
  keys_nodup := by decide +kernel
  ends_mem := by decide +kernel

/-- A run of it. -/
def tallyRun : Launch Unit := sampleRun tally rfl

/-- The value is that number. -/
def isInt (c : Int) : Value → Bool
  | .int d => d == c
  | _ => false

theorem eq_of_isInt {c : Int} {v : Value} (h : isInt c v = true) : v = .int c := by
  cases v with
  | int d => exact congrArg Value.int (by simpa [isInt] using h)
  | _ => cases h

theorem tally_increments (name : String) :
    (tallyRun.state 0).world.Increments (sampleState name [("key", .str "x"), ("binding", .str "state.x + 1")]) :=
  ⟨_, rfl, rfl, rfl⟩

end Workflow.Run
