import Workflow.Proofs.Graph
import Workflow.Proofs.Machine

/-!
# Workflow.Proofs.Moves

The handling of one event, cut into moves.

Between two looks at the queue the scheduler has one thing in hand: an event,
the work of a visit, or a visit that is about to end.  A `Move` is what it does
before it has something else in hand, or nothing.  While a visit is in hand its
task counts as over; whoever puts it back says at which stage.

`step_induct` is what the moves are for: an invariant of the hand and the
machine that every move preserves is preserved by every step.
-/

namespace Workflow.Run

/-! ## What is in hand -/

/-- What the scheduler has in hand. -/
inductive Hand where
  | idle
  /-- An event that has been taken out of the queue. -/
  | holds (e : Event)
  /-- A visit whose work goes on. -/
  | works (t : Nat) (work : Step Value)
  /-- A visit that is about to end. -/
  | ends (t : Nat) (failure : Option Failure)

/-- A visit, or a tool call that does not wait for anything but its answer. -/
def Task.Plain : Task → Prop
  | ⟨.visit _ _, _⟩ => True
  | ⟨.tool _ _ _, .queued⟩ => True
  | ⟨.tool _ _ _, .over⟩ => True
  | _ => False

namespace Machine

variable {σ : Type}

/-- Nothing comes of the event. -/
def Stale (m : Machine σ) : Event → Prop
  | .start t => m.tasks[t]? = none
  | .pass t => ∀ id parent stage, ¬m.Visits t id parent stage
  | .answer t _ => (∀ parent index task stage, ¬m.Tools t parent index task stage) ∧
      ∀ id parent next, ¬m.Visits t id parent (.calling next)
  | .ended t _ => ∀ id parent left, ¬m.Visits t id parent (.waiting left)
  | .settled t _ _ => ∀ id parent slots next, ¬m.Visits t id parent (.gathering slots next)

/-- There are only visits and tool calls, and tool calls do not wait for
anything but their answer. -/
def Plain (m : Machine σ) : Prop := ∀ task ∈ m.tasks, task.Plain

/-- The machine after a node has begun to be executed. -/
def visit (m : Machine σ) (k : Key) : Machine σ := { m with visited := k :: m.visited }

/-- The machine with other records. -/
def withRecords (m : Machine σ) (records : List Record) : Machine σ :=
  { m with world := { m.world with records } }

end Machine

/-! ## Moves -/

variable {σ : Type}

/-- What the scheduler does with what it has in hand. -/
inductive Move (s : Setup σ) : Hand → Machine σ → Hand → Machine σ → Prop where
  | drop {m e} : m.Stale e → Move s (.holds e) m .idle m
  /-- The node has been executed by another visit. -/
  | skip {m t id parent stage} : m.Visits t id parent stage → id.key ∈ m.visited →
      Move s (.holds (.start t)) m (.ends t none) (m.setStage t .over)
  /-- It cannot be told how many branches the node waits for. -/
  | refuse {m t id parent stage f} : m.Visits t id parent stage → id.key ∉ m.visited →
      s.plan.graph.required id.key = .error f →
      Move s (.holds (.start t)) m (.ends t (some (.own (.fault f)))) (m.setStage t .over)
  /-- There is no such node. -/
  | absent {m t id parent stage} : m.Visits t id parent stage → s.plan.graph.node? id.key = none →
      Move s (.holds (.start t)) m (.ends t none) (m.setStage t .over)
  /-- The node is executed without any gate. -/
  | enter {m t id parent stage required n} : m.Visits t id parent stage → id.key ∉ m.visited →
      s.plan.graph.required id.key = .ok required → (parent = none ∨ required ≤ 1) →
      s.plan.graph.node? id.key = some n →
      Move s (.holds (.start t)) m (.works t (s.dispatch n m.world))
        ((m.visit id.key).setStage t .over)
  /-- The last branch goes through the gate. -/
  | release {m t id parent stage required gate records n} : m.Visits t id (some parent) stage →
      id.key ∉ m.visited → s.plan.graph.required id.key = .ok required → 1 < required →
      (m.join id required).gate.arrive = (true, gate) → s.plan.graph.node? id.key = some n →
      Move s (.holds (.start t)) m
        (.works t (s.dispatch n ((m.wake { m.join id required with gate }).withRecords records).world))
        (((m.wake { m.join id required with gate }).withRecords records |>.visit id.key).setStage t .over)
  /-- A branch waits at the gate. -/
  | park {m t id parent stage required gate} : m.Visits t id (some parent) stage →
      id.key ∉ m.visited → s.plan.graph.required id.key = .ok required → 1 < required →
      (m.join id required).gate.arrive = (false, gate) →
      (m.turnAway s.plan { m.join id required with gate }).isOpen id = false →
      Move s (.holds (.start t)) m .idle
        ((m.turnAway s.plan { m.join id required with gate }).addParked t id)
  /-- A branch finds the gate open, or has it abandoned by its arrival. -/
  | turn {m t id parent stage required gate records} : m.Visits t id (some parent) stage →
      id.key ∉ m.visited → s.plan.graph.required id.key = .ok required → 1 < required →
      (m.join id required).gate.arrive = (false, gate) →
      (m.turnAway s.plan { m.join id required with gate }).isOpen id = true →
      Move s (.holds (.start t)) m (.ends t none)
        ((((m.turnAway s.plan { m.join id required with gate }).addActive 1).withRecords records).setStage t .over)
  | pass {m t id parent stage records} : m.Visits t id parent stage →
      Move s (.holds (.pass t)) m (.ends t none) (((m.addActive 1).withRecords records).setStage t .over)
  /-- The call of a visit has been answered. -/
  | answer {m t id parent next outcome} : m.Visits t id parent (.calling next) →
      Move s (.holds (.answer t outcome)) m (.works t (next outcome m.world)) (m.setStage t .over)
  /-- The last of the visits that a visit waits for has ended, or one has failed. -/
  | resume {m t id parent left failure} : m.Visits t id parent (.waiting left) →
      (failure.isSome ∨ left ≤ 1) →
      Move s (.holds (.ended t failure)) m (.ends t failure) ((m.addActive 1).setStage t .over)
  /-- One of the visits that a visit waits for has ended. -/
  | count {m t id parent left} : m.Visits t id parent (.waiting left) → 1 < left →
      Move s (.holds (.ended t none)) m .idle (m.setStage t (.waiting (left - 1)))
  /-- A tool call of a visit has failed. -/
  | spoil {m t id parent slots next index p} : m.Visits t id parent (.gathering slots next) →
      Move s (.holds (.settled t index (.error p))) m (.works t (next (.error p) m.world)) (m.setStage t .over)
  /-- The last tool call of a visit has ended. -/
  | gather {m t id parent slots next index v vs} : m.Visits t id parent (.gathering slots next) →
      Machine.filled? (slots.set index (some v)) = some vs →
      Move s (.holds (.settled t index (.ok v))) m (.works t (next (.ok vs) m.world)) (m.setStage t .over)
  /-- A tool call of a visit has ended. -/
  | fill {m t id parent slots next index v} : m.Visits t id parent (.gathering slots next) →
      Machine.filled? (slots.set index (some v)) = none →
      Move s (.holds (.settled t index (.ok v))) m .idle
        (m.setStage t (.gathering (slots.set index (some v)) next))
  /-- A tool call finds nothing to call. -/
  | toolError {m t parent index task stage w p} : m.Tools t parent index task stage →
      task.start m.world = (w, .error p) →
      Move s (.holds (.start t)) m .idle ({ m with world := w }.settle t parent index (.error p))
  /-- A tool call is answered at once. -/
  | toolReply {m t parent index task stage w c services served} : m.Tools t parent index task stage →
      task.start m.world = (w, .ok c) → s.serve m.services w.clock c = (services, served) → served.delay = 0 →
      Move s (.holds (.start t)) m .idle
        ({ m with world := { w with records := w.records ++ served.records }, services }.settle
          t parent index (served.outcome >>= task.finish))
  /-- A tool call is answered later. -/
  | toolCall {m t parent index task stage w c services served} : m.Tools t parent index task stage →
      task.start m.world = (w, .ok c) → s.serve m.services w.clock c = (services, served) → served.delay ≠ 0 →
      Move s (.holds (.start t)) m .idle
        ({ m with world := { w with records := w.records ++ served.records }, services }.sleep
          t served.delay served.outcome)
  /-- A tool call has been answered. -/
  | toolAnswer {m t parent index task stage outcome} : m.Tools t parent index task stage →
      Move s (.holds (.answer t outcome)) m .idle (m.settle t parent index (outcome >>= task.finish))
  /-- From a node that is done the run goes on to the nodes behind it. -/
  | spread {m t id parent stage n w v} : m.Visits t id parent stage →
      s.plan.graph.node? id.key = some n →
      s.plan.graph.targets n (w.look (Machine.selectedHandle v)) ≠ [] →
      Move s (.works t (.done w v)) m .idle
        ({ m with world := w }.fanOut t (s.plan.graph.targets n (w.look (Machine.selectedHandle v))))
  /-- From a node that is done there is nowhere to go.  An end node leaves its
  output as the result of the run. -/
  | stop {m t id parent stage w v log records result} : m.Visits t id parent stage →
      (∀ n, s.plan.graph.node? id.key = some n →
        s.plan.graph.targets n (w.look (Machine.selectedHandle v)) = []) →
      (∀ e ∈ log, e.phase = Phase.warning ∧ ∃ text, e.message = "Selected handle " ++ text) →
      (result = if (s.plan.graph.node? id.key).any (·.kind = .finish) then v else m.result) →
      Move s (.works t (.done w v)) m (.ends t none)
        { m with world := { w with log := w.log ++ log, records }, result }
  | fail {m t w f} : Move s (.works t (.fail w f)) m (.ends t (some f)) { m with world := w }
  /-- A call is answered at once. -/
  | reply {m t w c next services served} : s.serve m.services w.clock c = (services, served) → served.delay = 0 →
      Move s (.works t (.call w c next)) m
        (.works t (next served.outcome { w with records := w.records ++ served.records }))
        { m with world := { w with records := w.records ++ served.records }, services }
  /-- A call is answered later. -/
  | call {m t w c next services served} : s.serve m.services w.clock c = (services, served) → served.delay ≠ 0 →
      Move s (.works t (.call w c next)) m .idle
        (({ m with world := { w with records := w.records ++ served.records }, services }.sleep
          t served.delay served.outcome).setStage t (.calling next))
  | noTools {m t w next} : Move s (.works t (.tools w [] next)) m (.works t (next (.ok []) w)) m
  /-- Tool calls of a visit begin. -/
  | tools {m t w tasks next} : tasks ≠ [] →
      Move s (.works t (.tools w tasks next)) m .idle
        ({ m with world := w }.beginTools t tasks next)
  /-- A visit ends and tells the one that began it. -/
  | tell {m t id parent stage failure} : m.Visits t id (some parent) stage →
      Move s (.ends t failure) m .idle
        (((m.addActive (-1)).checkStalled s.plan).push [.ended parent failure])
  /-- The first visit ends, and with it the run. -/
  | conclude {m t id stage failure} : m.Visits t id none stage →
      Move s (.ends t failure) m .idle (((m.addActive (-1)).checkStalled s.plan).conclude failure)

/-- From what is in hand, the moves lead to the given machine with an empty hand. -/
inductive Moves (s : Setup σ) : Hand → Machine σ → Machine σ → Prop where
  | idle {m} : Moves s .idle m m
  | move {h m h' m' m''} : Move s h m h' m' → Moves s h' m' m'' → Moves s h m m''

/-- Only one move is left. -/
theorem Moves.last {s : Setup σ} {h : Hand} {m m' : Machine σ} (hmove : Move s h m .idle m') :
    Moves s h m m' := .move hmove .idle

/-- An event has been taken out of the queue, or a call is answered. -/
inductive Takes : Machine σ → Event → Machine σ → Prop where
  | next {m e rest} : m.outcome = none → m.ready = e :: rest → Takes m e { m with ready := rest }
  | tick {m x rest} : m.outcome = none → m.ready = [] → Machine.earliest m.sleepers = some (x, rest) →
      Takes m (.answer x.task x.outcome)
        { m with sleepers := rest, world := { m.world with clock := x.time } }

/-! ## What small changes leave alone -/

namespace Machine

variable {m : Machine σ} {t : Nat} {id : NodeId} {parent : Option Nat} {stage : Stage} {plan : Plan}

theorem wake_tasks (m : Machine σ) (j : Join) : (m.wake j).tasks = m.tasks := by
  rw [wake_eq]

theorem abandon_tasks (plan : Plan) (m : Machine σ) (j : Join) : (m.abandon plan j).tasks = m.tasks := by
  unfold abandon
  split
  · rfl
  · rw [wake_tasks]
    rfl

theorem checkStalled_tasks (plan : Plan) (m : Machine σ) : (m.checkStalled plan).tasks = m.tasks := by
  have hfold : ∀ (js : List Join) (m : Machine σ), (js.foldl (abandon plan) m).tasks = m.tasks := by
    intro js
    induction js with
    | nil => exact fun m => rfl
    | cons j js ih => exact fun m => by rw [List.foldl_cons, ih, abandon_tasks]
  unfold checkStalled
  split
  · rfl
  · exact hfold m.joins m

end Machine

/-! ## Every event is handled in moves -/

open Machine

section

variable {s : Setup σ} {m : Machine σ} {t : Nat} {id : NodeId} {parent : Option Nat} {stage : Stage}

theorem moves_endVisit (h : m.Visits t id parent stage) (failure : Option Failure) :
    Moves s (.ends t failure) (m.setStage t .over) (m.endVisit s.plan t failure) := by
  have htasks : (((m.setStage t .over).addActive (-1)).checkStalled s.plan).tasks[t]? =
      some ⟨.visit id parent, .over⟩ := by
    rw [checkStalled_tasks]
    exact h.setStage .over
  unfold endVisit
  dsimp only
  rw [htasks]
  cases parent with
  | none => exact .last (.conclude (h.setStage .over))
  | some parent => exact .last (.tell (h.setStage .over))

theorem moves_fanOut (h : m.Visits t id parent stage) {n : Node} {w : World} {v : Value}
    (hn : s.plan.graph.node? id.key = some n)
    (htargets : s.plan.graph.targets n (w.look (selectedHandle v)) ≠ []) :
    Moves s (.works t (.done w v)) (m.setStage t .over)
      ({ m with world := w }.fanOut t (s.plan.graph.targets n (w.look (selectedHandle v)))) := by
  have hmove := Move.spread (s := s) (h.setStage .over) hn htargets
  have hfanOut : ({ m.setStage t .over with world := w } : Machine σ).fanOut t
      (s.plan.graph.targets n (w.look (selectedHandle v))) =
      { m with world := w }.fanOut t (s.plan.graph.targets n (w.look (selectedHandle v))) := by
    unfold fanOut
    rw [show ({ m.setStage t .over with world := w } : Machine σ) = { m with world := w }.setStage t .over from rfl,
      setStage_setStage]
  exact hfanOut ▸ .last hmove

theorem moves_stop (h : m.Visits t id parent stage) {w : World} {v : Value} {log : List LogEntry}
    {records : List Record} {result : Value}
    (htargets : ∀ n, s.plan.graph.node? id.key = some n →
      s.plan.graph.targets n (w.look (selectedHandle v)) = [])
    (hlog : ∀ e ∈ log, e.phase = Phase.warning ∧ ∃ text, e.message = "Selected handle " ++ text)
    (hresult : result = if (s.plan.graph.node? id.key).any (·.kind = .finish) then v else m.result) :
    Moves s (.works t (.done w v)) (m.setStage t .over)
      ({ m with world := { w with log := w.log ++ log, records }, result }.endVisit s.plan t none) := by
  have hvisits : ({ m with world := { w with log := w.log ++ log, records }, result } : Machine σ).Visits
      t id parent stage := h
  exact .move (.stop (h.setStage .over) htargets hlog hresult) (moves_endVisit hvisits none)

theorem moves_afterNode (h : m.Visits t id parent stage) {n : Node} (w : World) (v : Value)
    (hn : s.plan.graph.node? id.key = some n) :
    Moves s (.works t (.done w v)) (m.setStage t .over)
      ({ m with world := w }.afterNode s.plan t id n v) := by
  have hstop : ∀ (log : List LogEntry) (records : List Record) (result : Value),
      s.plan.graph.targets n (w.look (selectedHandle v)) = [] →
      (∀ e ∈ log, e.phase = Phase.warning ∧ ∃ text, e.message = "Selected handle " ++ text) →
      (result = if n.kind = .finish then v else m.result) →
      Moves s (.works t (.done w v)) (m.setStage t .over)
        ({ m with world := { w with log := w.log ++ log, records }, result }.endVisit s.plan t none) := by
    intro log records result htargets hlog hresult
    refine moves_stop h (fun n' hn' => ?_) hlog (by simpa [hn] using hresult)
    rw [hn] at hn'
    cases hn'
    exact htargets
  by_cases hfinish : n.kind = .finish
  · have htargets : s.plan.graph.targets n (w.look (selectedHandle v)) = [] := by
      simp [Graph.targets, hfinish]
    have := hstop [] w.records v htargets (by simp) (if_pos hfinish).symm
    simpa [afterNode, hfinish] using this
  · by_cases hbranching : n.kind.isBranching
    · cases hedge : s.plan.graph.branchEdge? n (w.look (selectedHandle v)) with
      | some e =>
          have htargets : s.plan.graph.targets n (w.look (selectedHandle v)) = [e.target] := by
            simp [Graph.targets, hfinish, hbranching, hedge]
          have := moves_fanOut (s := s) h hn (w := w) (v := v) (by simp [htargets])
          simpa [afterNode, hfinish, hbranching, hedge, htargets] using this
      | none =>
          have htargets : s.plan.graph.targets n (w.look (selectedHandle v)) = [] := by
            simp [Graph.targets, hfinish, hbranching, hedge]
          simp only [afterNode, hfinish, hbranching, hedge, if_false, if_true]
          refine hstop [_] _ m.result htargets (fun e he => ?_) (if_neg hfinish).symm
          rw [List.mem_singleton.mp he]
          exact ⟨rfl, _, String.append_assoc⟩
    · have hkey : id.key = n.id.key := (Graph.node?_some hn).2.symm
      cases hsuccessors : s.plan.graph.successors n.id.key with
      | nil =>
          have htargets : s.plan.graph.targets n (w.look (selectedHandle v)) = [] := by
            simp [Graph.targets, hfinish, hbranching, hsuccessors]
          have hmoves := hstop []
            (w.record .runner .warning s!"{id.text}: no outgoing edges, branch stops").records
            m.result htargets (by simp) (if_neg hfinish).symm
          rw [List.append_nil] at hmoves
          simp only [afterNode, hfinish, hbranching, hkey, hsuccessors, if_false]
          exact hmoves
      | cons i is =>
          have htargets : s.plan.graph.targets n (w.look (selectedHandle v)) = i :: is := by
            simp [Graph.targets, hfinish, hbranching, hsuccessors]
          have hmoves := moves_fanOut (s := s) h hn (w := w) (v := v) (by simp [htargets])
          simpa [afterNode, hfinish, hbranching, hkey, hsuccessors, htargets] using hmoves

theorem moves_finishWork (h : m.Visits t id parent stage) (w : World) (outcome : Except Failure Value) :
    Moves s (.works t (match outcome with | .ok v => .done w v | .error f => .fail w f)) (m.setStage t .over)
      ({ m with world := w }.finishWork s.plan t outcome) := by
  have hvisits : ({ m with world := w } : Machine σ).Visits t id parent stage := h
  unfold finishWork
  rw [show ({ m with world := w } : Machine σ).tasks[t]? = _ from hvisits]
  cases outcome with
  | error f => exact .move .fail (moves_endVisit hvisits (some f))
  | ok v =>
      dsimp only
      cases hn : s.plan.graph.node? id.key with
      | some n => exact moves_afterNode h w v hn
      | none =>
          have hmoves : Moves s (.works t (.done w v)) (m.setStage t .over)
              ({ m with world := { w with log := w.log ++ [], records := w.records }, result := m.result }.endVisit
                s.plan t none) := moves_stop h (by simp [hn]) (by simp) (by simp [hn])
          rw [List.append_nil] at hmoves
          exact hmoves

theorem moves_proceed (work : Step Value) : ∀ {m : Machine σ}, m.Visits t id parent stage →
    Moves s (.works t work) (m.setStage t .over) (proceed s t work m) := by
  induction work with
  | done w v => exact fun h => moves_finishWork h w (.ok v)
  | fail w f => exact fun h => moves_finishWork h w (.error f)
  | call w c next ih =>
      intro m h
      cases hserve : s.serve m.services w.clock c with
      | mk services served =>
          unfold proceed
          rw [hserve]
          dsimp only
          by_cases hdelay : served.delay = 0
          · rw [if_pos hdelay]
            refine .move (.reply hserve hdelay) ?_
            exact ih _ _ (m := { m with world := { w with records := w.records ++ served.records }, services }) h
          · rw [if_neg hdelay, ← setStage_setStage _ t .over (.calling next)]
            exact .last (.call (m := m.setStage t .over) hserve hdelay)
  | tools w tasks next ih =>
      intro m h
      cases tasks with
      | nil =>
          unfold proceed
          exact .move .noTools (ih _ _ h)
      | cons task tasks =>
          have hmove : Move s (.works t (.tools w (task :: tasks) next)) (m.setStage t .over) .idle
              ({ m.setStage t .over with world := w }.beginTools t (task :: tasks) next) :=
            .tools (List.cons_ne_nil task tasks)
          unfold beginTools at hmove
          rw [show ({ m.setStage t .over with world := w } : Machine σ) = { m with world := w }.setStage t .over from rfl,
            setStage_setStage] at hmove
          exact .last hmove

theorem passGate_eq (plan : Plan) (m : Machine σ) (t : Nat) (id : NodeId) :
    ∃ records, m.passGate plan t id = ((m.addActive 1).withRecords records).endVisit plan t none := by
  unfold passGate
  dsimp only
  split
  · exact ⟨_, rfl⟩
  · exact ⟨m.world.records, rfl⟩

theorem moves_passGate (h : m.Visits t id parent stage) :
    Moves s (.holds (.pass t)) m (m.passGate s.plan t id) := by
  obtain ⟨records, hpass⟩ := passGate_eq s.plan m t id
  have hvisits : ((m.addActive 1).withRecords records).Visits t id parent stage := h
  rw [hpass]
  exact .move (.pass h) (moves_endVisit hvisits none)

theorem turnAway_tasks (plan : Plan) (m : Machine σ) (j : Join) : (m.turnAway plan j).tasks = m.tasks := by
  unfold turnAway
  rw [checkStalled_tasks, setJoin_eq]
  rfl

theorem turned_tasks (plan : Plan) (m : Machine σ) (j : Join) (records : List Record) :
    (((m.turnAway plan j).addActive 1).withRecords records).tasks = m.tasks := by
  rw [← turnAway_tasks plan m j]
  generalize m.turnAway plan j = m'
  rfl

theorem moves_arrive {parent required : Nat} (h : m.Visits t id (some parent) stage)
    (hnew : id.key ∉ m.visited) (hrequired : s.plan.graph.required id.key = .ok required)
    (hmany : 1 < required) {n : Node} (hn : s.plan.graph.node? id.key = some n) :
    Moves s (.holds (.start t)) m (arrive s m t id required) := by
  cases harrive : (m.join id required).gate.arrive with
  | mk through gate =>
      unfold arrive
      dsimp only
      rw [harrive]
      cases through with
      | true =>
          obtain ⟨records, hrecords⟩ : ∃ records, (m.wake { m.join id required with gate }).record .debug
              s!"Join {id.text} released by last of {required} branches" =
              (m.wake { m.join id required with gate }).withRecords records := ⟨_, rfl⟩
          have hvisits : (((m.wake { m.join id required with gate }).withRecords records).visit id.key).Visits
              t id (some parent) stage := by
            unfold Visits visit withRecords
            rw [wake_tasks]
            exact h
          simp only [if_true, enter, hn, hrecords]
          exact .move (.release h hnew hrequired hmany harrive hn) (moves_proceed _ hvisits)
      | false =>
          have hvisits : (m.turnAway s.plan { m.join id required with gate }).Visits t id (some parent) stage := by
            rw [Visits, turnAway_tasks]
            exact h
          simp only [Bool.false_eq_true, if_false, park]
          change Moves s _ m (if (m.turnAway s.plan { m.join id required with gate }).isOpen id then _ else _)
          cases hopen : (m.turnAway s.plan { m.join id required with gate }).isOpen id with
          | true =>
              obtain ⟨records, hpass⟩ := passGate_eq s.plan (m.turnAway s.plan { m.join id required with gate }) t id
              have hturn : Move s (.holds (.start t)) m (.ends t none)
                  ((((m.turnAway s.plan { m.join id required with gate }).addActive 1).withRecords records).setStage
                    t .over) := .turn h hnew hrequired hmany harrive hopen
              have hpassed := hpass ▸ moves_endVisit (s := s)
                (m := ((m.turnAway s.plan { m.join id required with gate }).addActive 1).withRecords records)
                hvisits none
              exact .move hturn hpassed
          | false => exact .last (.park h hnew hrequired hmany harrive hopen)

theorem moves_beginVisit (h : m.Visits t id parent stage) :
    Moves s (.holds (.start t)) m (beginVisit s m t id parent.isSome) := by
  unfold beginVisit
  by_cases hvisited : id.key ∈ m.visited
  · simp only [List.contains_iff_mem, hvisited, if_true]
    exact .move (.skip h hvisited) (moves_endVisit h none)
  · simp only [List.contains_iff_mem, hvisited, if_false]
    cases hrequired : s.plan.graph.required id.key with
    | error f => exact .move (.refuse h hvisited hrequired) (moves_endVisit h _)
    | ok required =>
        dsimp only
        cases hn : s.plan.graph.node? id.key with
        | none =>
            have hzero : required = 0 := by
              rw [Graph.required_of_absent hn] at hrequired
              exact (Except.ok.inj hrequired).symm
            simp only [hzero, enter, hn]
            simpa using Moves.move (.absent h hn) (moves_endVisit h none)
        | some n =>
            have henter (hungated : parent = none ∨ required ≤ 1) :
                Moves s (.holds (.start t)) m (enter s m t id) := by
              have hvisits : (m.visit id.key).Visits t id parent stage := h
              simp only [enter, hn]
              exact .move (.enter h hvisited hrequired hungated hn) (moves_proceed _ hvisits)
            cases parent with
            | none => simpa using henter (.inl rfl)
            | some parent =>
                by_cases hmany : 1 < required
                · simpa [hmany] using moves_arrive h hvisited hrequired hmany hn
                · simpa [hmany] using henter (.inr (Nat.le_of_not_lt hmany))

theorem moves_beginTool {parent index : Nat} {task : ToolTask} (h : m.Tools t parent index task stage) :
    Moves s (.holds (.start t)) m (beginTool s m t parent index task) := by
  unfold beginTool
  cases hstart : task.start m.world with
  | mk w call =>
      cases call with
      | error p => exact .last (.toolError h hstart)
      | ok c =>
          cases hserve : s.serve m.services w.clock c with
          | mk services served =>
              simp only [hserve]
              by_cases hdelay : served.delay = 0
              · rw [if_pos hdelay]
                exact .last (.toolReply h hstart hserve hdelay)
              · rw [if_neg hdelay]
                exact .last (.toolCall h hstart hserve hdelay)

/-- Every event is handled in moves. -/
theorem moves_handle (hplain : m.Plain) (e : Event) : Moves s (.holds e) m (handle s m e) := by
  have htask : ∀ {t : Nat} {task : Task}, m.tasks[t]? = some task → task ∈ m.tasks := fun h =>
    List.mem_of_getElem? h
  cases e with
  | start t =>
      simp only [handle]
      split
      next id parent stage h => exact moves_beginVisit h
      next work stage h => exact absurd (hplain _ (htask h)) (by simp [Task.Plain])
      next parent index task stage h => exact moves_beginTool h
      next h => exact .last (.drop h)
  | pass t =>
      simp only [handle]
      split
      next id parent stage h => exact moves_passGate h
      next h => exact .last (.drop fun id parent stage hvisits => h _ _ _ hvisits)
  | answer t outcome =>
      simp only [handle]
      split
      next parent index task stage h => exact .last (.toolAnswer h)
      next job next hnotTool h =>
        cases job with
        | visit id parent => exact .move (.answer h) (moves_proceed _ h)
        | whole work => exact absurd (hplain _ (htask h)) (by simp [Task.Plain])
        | tool parent index task => exact absurd (hplain _ (htask h)) (by simp [Task.Plain])
      next hnotTool hnotCalling =>
        exact .last (.drop ⟨fun parent index task stage h => hnotTool _ _ _ _ h,
          fun id parent next h => hnotCalling _ _ h⟩)
  | ended t failure =>
      simp only [handle]
      split
      next job left h =>
        cases job with
        | visit id parent =>
            have hvisits : (m.addActive 1).Visits t id parent (.waiting left) := h
            cases hresume : (failure.isSome || decide (left ≤ 1)) with
            | true =>
                rw [if_pos rfl]
                exact .move (.resume h (by simpa using hresume)) (moves_endVisit hvisits failure)
            | false =>
                obtain ⟨hfailure, hleft⟩ : failure = none ∧ 1 < left := by simpa using hresume
                rw [if_neg Bool.false_ne_true, hfailure]
                exact .last (.count h hleft)
        | whole work => exact absurd (hplain _ (htask h)) (by simp [Task.Plain])
        | tool parent index task => exact absurd (hplain _ (htask h)) (by simp [Task.Plain])
      next h => exact .last (.drop fun id parent left hvisits => h _ _ hvisits)
  | settled t index outcome =>
      simp only [handle]
      split
      next job slots next h =>
        cases job with
        | visit id parent =>
            cases outcome with
            | error p => exact .move (.spoil h) (moves_proceed _ h)
            | ok v =>
                dsimp only
                split
                next vs hfilled => exact .move (.gather h hfilled) (moves_proceed _ h)
                next hfilled => exact .last (.fill h hfilled)
        | whole work => exact absurd (hplain _ (htask h)) (by simp [Task.Plain])
        | tool parent index task => exact absurd (hplain _ (htask h)) (by simp [Task.Plain])
      next h => exact .last (.drop fun id parent slots next hvisits => h _ _ _ hvisits)

end

/-! ## Every step is made of moves -/

theorem takes_of_step {s : Setup σ} {m m' : Machine σ} (hplain : m.Plain) (h : step s m = some m') :
    ∃ e m₁, Takes m e m₁ ∧ Moves s (.holds e) m₁ m' := by
  unfold step at h
  split at h
  next => cases h
  next hnone =>
    have houtcome : m.outcome = none := by simpa using hnone
    split at h
    next e rest hready =>
      have hrest : ({ m with ready := rest } : Machine σ).Plain := hplain
      exact ⟨e, _, .next houtcome hready, Option.some.inj h ▸ moves_handle hrest e⟩
    next hready =>
      split at h
      next x rest hearliest =>
        have hrest : ({ m with sleepers := rest, world := { m.world with clock := x.time } } : Machine σ).Plain :=
          hplain
        exact ⟨_, _, .tick houtcome hready hearliest, Option.some.inj h ▸ moves_handle hrest _⟩
      next => cases h

/-- What every move preserves, every step preserves. -/
theorem step_induct {s : Setup σ} {I : Hand → Machine σ → Prop} (hplain : ∀ {m}, I .idle m → m.Plain)
    (htake : ∀ {m e m'}, Takes m e m' → I .idle m → I (.holds e) m')
    (hmove : ∀ {h m h' m'}, Move s h m h' m' → I h m → I h' m')
    {m m' : Machine σ} (hstep : step s m = some m') (hI : I .idle m) : I .idle m' := by
  obtain ⟨e, m₁, htakes, hmoves⟩ := takes_of_step (hplain hI) hstep
  have hrun : ∀ {h m m'}, Moves s h m m' → I h m → I .idle m' := by
    intro h m m' hmoves
    induction hmoves with
    | idle => exact id
    | move hfirst _ ih => exact fun h => ih (hmove hfirst h)
  exact hrun hmoves (htake htakes hI)

end Workflow.Run
