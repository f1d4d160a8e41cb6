import Workflow.Proofs.Carried
import Workflow.Proofs.Growth

/-!
# Workflow.Proofs.Outputs

A node that others follow has an output.

The work of a visit keeps, through all its waits, to what `dispatch_keeps` says
of it (`Kept`).  So when it is done its output is stored, and since outputs
never vanish it is there for everybody who comes later.
-/

namespace Workflow.Run

open Machine

variable {σ : Type}

/-! ## Work under way -/

/-- The work of a node only adds to the world from here on, and its result
will be in its place. -/
def Kept (k : Key) (w : World) (work : Step Value) : Prop :=
  work.Keeps World.Grows (fun v output => Entries.get? v.outputs k = some output)
    (fun _ f => Execute.DispatchFailure f) w

/-- Every dispatch keeps to it. -/
def KeptDispatch (s : Setup σ) : Prop := ∀ n w, Kept n.id.key w (s.dispatch n w)

/-- Is there an output for the key? -/
def HasOutput (m : Machine σ) (k : Key) : Prop := (Entries.get? m.world.outputs k).isSome

/-- All work under way keeps to what was said of it, and nodes that others
follow have outputs. -/
structure Keeping (h : Hand) (m : Machine σ) : Prop where
  works : ∀ {t work id parent stage}, h = .works t work → m.Visits t id parent stage → Kept id.key m.world work
  calling : ∀ {t id parent next}, m.Visits t id parent (.calling next) → ∀ r w, Kept id.key w (next r w)
  gathering : ∀ {t id parent slots next}, m.Visits t id parent (.gathering slots next) →
    ∀ r w, Kept id.key w (next r w)
  tools : ∀ {t p index : Nat} {task : ToolTask}, m.jobs[t]? = some (.tool p index task) → task.Quiet
  output : ∀ {c id p pid}, Follows m.jobs c id p pid → HasOutput m pid.key

theorem checkStalled_outputs (plan : Plan) {m : Machine σ} (hkeys : (m.joins.map (·.id.key)).Nodup) :
    (m.checkStalled plan).world.outputs = m.world.outputs :=
  checkStalled_same plan hkeys (·.world.outputs) fun _ => rfl

theorem turnAway_outputs (plan : Plan) {m : Machine σ} (hkeys : (m.joins.map (·.id.key)).Nodup) (j : Join) :
    (m.turnAway plan j).world.outputs = m.world.outputs :=
  turnAway_same plan hkeys j (·.world.outputs) fun _ => rfl

theorem wake_world (m : Machine σ) (j : Join) : (m.wake j).world = m.world := by
  rw [wake_eq]

/-- Outputs never vanish. -/
theorem Move.outputs {s : Setup σ} {start : Node} {h h' : Hand} {m m' : Machine σ} (hmove : Move s h m h' m')
    (hshape : Shape s.plan.graph start h m) (htokens : Tokens h m) (hkeeping : Keeping h m) {k : Key}
    (hk : HasOutput m k) : HasOutput m' k := by
  have hkeys := htokens.keys
  have hgrows : ∀ {w : World}, m.world.Grows w → (Entries.get? w.outputs k).isSome := fun h => h.outputs k hk
  have hsame : m'.world.outputs = m.world.outputs → HasOutput m' k := fun h => by
    unfold HasOutput
    rw [h]
    exact hk
  have htool : ∀ {t p index task stage} {w : World} {r : Except Problem Call}, m.Tools t p index task stage →
      task.start m.world = (w, r) → (Entries.get? w.outputs k).isSome := by
    intro t p index task stage w r htools hstart
    obtain ⟨records, hquiet⟩ := hkeeping.tools (jobs_getElem?.mpr ⟨_, htools⟩) m.world
    rw [hstart] at hquiet
    cases hquiet
    exact hk
  cases hmove with
  | release => exact hsame (congrArg (·.outputs) (wake_world ..))
  | park => exact hsame (turnAway_outputs _ hkeys _)
  | turn => exact hsame (turnAway_outputs _ hkeys _)
  | tell => exact hsame (checkStalled_outputs s.plan (m := m.addActive (-1)) hkeys)
  | @conclude _ _ _ _ failure =>
      refine hsame (Eq.trans ?_ (checkStalled_outputs s.plan (m := m.addActive (-1)) hkeys))
      cases failure <;> rfl
  | toolError htools hstart | toolReply htools hstart | toolCall htools hstart =>
      have hw := htool htools hstart
      exact hw
  | spread hvisits | stop hvisits =>
      have hw := hgrows (hkeeping.works rfl hvisits).1
      exact hw
  | @fail _ t | @reply _ t | @call _ t | @tools _ t =>
      obtain ⟨id, parent, hvisits⟩ := hshape.hand t rfl
      have hw := hgrows (hkeeping.works rfl hvisits).1
      exact hw
  | _ => exact hsame rfl

namespace Keeping

variable {s : Setup σ} {start : Node} {h h' : Hand} {m m' : Machine σ} {t : Nat}

/-- The tasks stay as they are. -/
theorem of_tasks (hkeeping : Keeping h m)
    (hworks : ∀ {t work id parent stage}, h' = .works t work → m'.Visits t id parent stage → Kept id.key m'.world work)
    (htasks : m'.tasks = m.tasks) (houtputs : ∀ {k}, HasOutput m k → HasOutput m' k) : Keeping h' m' :=
  have hjobs : m'.jobs = m.jobs := congrArg (List.map Task.job) htasks
  { works := hworks
    calling := fun hu => hkeeping.calling (hu.of_tasks htasks.symm)
    gathering := fun hu => hkeeping.gathering (hu.of_tasks htasks.symm)
    tools := fun ht => hkeeping.tools (hjobs ▸ ht)
    output := fun hf => houtputs (hkeeping.output (hjobs ▸ hf)) }

/-- Work under way goes on keeping to what was said of it. -/
theorem carried_move (hmove : Move s h m h' m') (hdispatch : KeptDispatch s) (hshape : Shape s.plan.graph start h m)
    (htokens : Tokens h m) (hkeeping : Keeping h m) : Carried (fun _ id => Kept id.key) h' m' := by
  have hcarried : Carried (fun _ id => Kept id.key) h m := ⟨hkeeping.works, hkeeping.calling, hkeeping.gathering⟩
  refine hcarried.move hmove hshape htokens (fun _ hkept => hkept) (fun w _ hn => ?_) (fun hh hu => ?_)
    (fun hh hu => (hkeeping.works hh hu).2) fun hh _ hu => (hkeeping.works hh hu).2.2
  · rw [← (Graph.node?_some hn).2]
    exact hdispatch _ w
  · have hkept := hkeeping.works hh hu
    exact (hkept.2.2 _ _).after World.Grows.trans hkept.1

/-- The tool calls that a move begins are quiet. -/
theorem tools_move (hmove : Move s h m h' m') (hshape : Shape s.plan.graph start h m) (hkeeping : Keeping h m)
    {p index : Nat} {task : ToolTask} (ht : m'.jobs[t]? = some (.tool p index task)) : task.Quiet := by
  rcases hmove.jobs with hjobs | ⟨u, _, _, _, _, _, _, _, _, _, hjobs⟩ | ⟨u, w, tasks, next, hh, hjobs⟩
  · exact hkeeping.tools (hjobs ▸ ht)
  · rw [hjobs] at ht
    rcases List.mem_append.mp (List.mem_of_getElem? ht) with hmem | hmem
    · obtain ⟨u', hu'⟩ := List.mem_iff_getElem?.mp hmem
      exact hkeeping.tools hu'
    · obtain ⟨_, _, heq⟩ := List.mem_map.mp hmem
      cases heq
  · subst hh
    obtain ⟨id, parent, hover⟩ := hshape.hand u rfl
    rw [hjobs] at ht
    rcases List.mem_append.mp (List.mem_of_getElem? ht) with hmem | hmem
    · obtain ⟨u', hu'⟩ := List.mem_iff_getElem?.mp hmem
      exact hkeeping.tools hu'
    · obtain ⟨i, hi, heq⟩ := List.mem_mapIdx.mp hmem
      cases heq
      exact (hkeeping.works rfl hover).2.1 _ (List.getElem_mem hi)

/-- A node from which a move goes on has an output. -/
theorem output_move (hmove : Move s h m h' m') (hshape : Shape s.plan.graph start h m) (htokens : Tokens h m)
    (hkeeping : Keeping h m) {c p : Nat} {id pid : NodeId} (hf : Follows m'.jobs c id p pid) :
    HasOutput m' pid.key := by
  have hold : Follows m.jobs c id p pid → HasOutput m' pid.key := fun hf =>
    hmove.outputs hshape htokens hkeeping (hkeeping.output hf)
  rcases hmove.jobs with hjobs | ⟨t, id', parent, stage, n, w, v, rfl, hvisits, _, hjobs⟩ | ⟨t, w, tasks, next, _, hjobs⟩
  · exact hold (hjobs ▸ hf)
  · have hlt : t < m.jobs.length := by
      rw [jobs_length]
      exact hvisits.lt
    rw [hjobs] at hf
    rcases follows_branches hshape.tree hlt hf with hf | ⟨_, _, _, pparent, hpid⟩
    · exact hold hf
    · cases hvisits.job.symm.trans hpid
      have houtput := (hkeeping.works rfl hvisits).2
      cases hmove with
      | spread | stop => exact Option.isSome_iff_exists.mpr ⟨v, houtput⟩
  · rw [hjobs] at hf
    exact hold (follows_toolCalls hshape.tree hf)

/-- Every move keeps to it. -/
theorem move (hmove : Move s h m h' m') (hdispatch : KeptDispatch s) (hshape : Shape s.plan.graph start h m)
    (htokens : Tokens h m) (hkeeping : Keeping h m) : Keeping h' m' :=
  have hcarried := hkeeping.carried_move hmove hdispatch hshape htokens
  { works := hcarried.works
    calling := hcarried.calling
    gathering := hcarried.gathering
    tools := hkeeping.tools_move hmove hshape
    output := hkeeping.output_move hmove hshape htokens }

end Keeping
end Workflow.Run
