import Workflow.Proofs.Halting

/-!
# Workflow.Proofs.Abandonment

Joins are abandoned when nobody can reach them any more, and not before.

In a run without failures all closed gates are abandoned at once, when the
last visit that runs by itself ends or arrives in vain.  The reports of that
are the last entries of the log (`Reported`), and from then on no gate and no
entry changes, and no visit begins (`Unmoved.of_move`).
-/

namespace Workflow.Run

open Machine

variable {σ : Type}

/-! ## Reports -/

/-- Does an entry report that the join at the node of the key was abandoned? -/
def LogEntry.reports (k : Key) (e : LogEntry) : Bool := e.tellsAbandonment && e.node.key? == some k

/-- The joins that have been abandoned. -/
def abandonedJoins (js : List Join) : List Join := js.filter fun j => j.gate.abandoned

theorem report_tells (plan : Plan) (clock : Nat) (j : Join) : (report plan clock j).tellsAbandonment = true := by
  have hwords : abandonedWords <+: "Join abandoned: only ".toList := by decide
  unfold LogEntry.tellsAbandonment report
  rw [List.isPrefixOf_iff_prefix]
  simp only [String.toList_append, List.append_assoc]
  exact hwords.trans (List.prefix_append ..)

theorem report_node (plan : Plan) (clock : Nat) (j : Join) : (report plan clock j).node.key? = some j.id.key := j.id.key_eq

theorem report_givenUp (plan : Plan) (clock : Nat) (j : Join) : report plan clock (givenUp j) = report plan clock j := by
  have hgate : (givenUp j).gate.arrived = j.gate.arrived ∧ (givenUp j).gate.required = j.gate.required := by
    unfold givenUp Gate.abandon
    split <;> exact ⟨rfl, rfl⟩
  unfold report
  rw [givenUp_id, hgate.1, hgate.2]

theorem report_reports (plan : Plan) (clock : Nat) (j : Join) (k : Key) :
    (report plan clock j).reports k = (j.id.key == k) := by
  unfold LogEntry.reports
  rw [report_tells, report_node, Bool.true_and]
  exact Option.some_beq_some

/-- What is given up is what was closed. -/
theorem abandonedJoins_givenUp (plan : Plan) (clock : Nat) {js : List Join}
    (hnone : ∀ j ∈ js, j.gate.abandoned = false) :
    (abandonedJoins (js.map givenUp)).map (report plan clock) = (closed js).map (report plan clock) := by
  have hfilter : abandonedJoins (js.map givenUp) = (closed js).map givenUp := by
    unfold abandonedJoins closed
    rw [List.filter_map]
    refine congrArg (List.map givenUp) (List.filter_congr fun j hj => ?_)
    unfold givenUp Gate.abandon
    cases hreleased : j.gate.released with
    | true => simpa [hreleased] using hnone j hj
    | false => simp [hreleased]
  rw [hfilter, List.map_map]
  exact List.map_congr_left fun j _ => report_givenUp plan clock j

/-- The log ends with the reports of all joins that have been abandoned, and
once there is one all gates are open. -/
structure Reported (plan : Plan) (m : Machine σ) : Prop where
  log : ∃ before clock, m.world.log = before ++ (abandonedJoins m.joins).map (report plan clock) ∧
    ∀ e ∈ before, e.tellsAbandonment = false
  sealed : (∃ j ∈ m.joins, j.gate.abandoned = true) → ∀ j ∈ m.joins, j.gate.released = true

/-- No join has been abandoned, and nothing of that kind has been reported. -/
structure Unreported (m : Machine σ) : Prop where
  joins : ∀ j ∈ m.joins, j.gate.abandoned = false
  log : ∀ e ∈ m.world.log, e.tellsAbandonment = false

section

variable {s : Setup σ} {start : Node} {h h' : Hand} {m m' : Machine σ} {plan : Plan}

theorem Unreported.reported (h : Unreported m) (plan : Plan) : Reported plan m := by
  have hnone : abandonedJoins m.joins = [] :=
    List.filter_eq_nil_iff.mpr fun j hj => by rw [h.joins j hj]; exact Bool.false_ne_true
  refine ⟨⟨m.world.log, 0, ?_, h.log⟩, fun ⟨j, hj, htrue⟩ => ?_⟩
  · rw [hnone, List.map_nil, List.append_nil]
  · exact absurd (htrue.symm.trans (h.joins j hj)) nofun

theorem Reported.of_eq (h : Reported plan m) (hjoins : m'.joins = m.joins) (hlog : m'.world.log = m.world.log) :
    Reported plan m' := by
  refine ⟨?_, ?_⟩
  · rw [hlog, hjoins]
    exact h.log
  · rw [hjoins]
    exact h.sealed

theorem Reported.unreported (h : Reported plan m) (hnone : ∀ j ∈ m.joins, j.gate.abandoned = false) : Unreported m := by
  obtain ⟨before, clock, hlog, hbefore⟩ := h.log
  have hempty : abandonedJoins m.joins = [] :=
    List.filter_eq_nil_iff.mpr fun j hj => by rw [hnone j hj]; exact Bool.false_ne_true
  rw [hempty, List.map_nil, List.append_nil] at hlog
  exact ⟨hnone, fun e he => hbefore e (hlog ▸ he)⟩

/-- The log grows without a report, and no join is abandoned. -/
theorem Unreported.grow (h : Unreported m) (hjoins : ∀ j ∈ m'.joins, j.gate.abandoned = false) {es : List LogEntry}
    (hlog : m'.world.log = m.world.log ++ es) (hes : ∀ e ∈ es, e.tellsAbandonment = false) : Unreported m' := by
  refine ⟨hjoins, fun e he => ?_⟩
  rw [hlog] at he
  exact (List.mem_append.mp he).elim (h.log e) (hes e)

/-- All closed gates are abandoned, and that is reported. -/
theorem Unreported.stalled (h : Unreported m) (plan : Plan) (records : List Record) :
    Reported plan (m.stalled plan records) := by
  refine ⟨⟨m.world.log, m.world.clock, ?_, h.log⟩, fun _ j hj => ?_⟩
  · have hreports := abandonedJoins_givenUp plan m.world.clock h.joins
    exact congrArg (m.world.log ++ ·) hreports.symm
  · obtain ⟨i, _, rfl⟩ := List.mem_map.mp hj
    exact givenUp_released i

theorem Unreported.checkStalled (h : Unreported m) (plan : Plan) (hkeys : (m.joins.map (·.id.key)).Nodup) :
    Reported plan (m.checkStalled plan) := by
  obtain ⟨records, heq⟩ := checkStalled_eq plan hkeys
  rw [heq]
  split
  · exact h.reported plan
  · exact h.stalled plan records

/-- Where all gates are open nothing is left to abandon. -/
theorem checkStalled_sealed (plan : Plan) (hkeys : (m.joins.map (·.id.key)).Nodup)
    (hopen : ∀ j ∈ m.joins, j.gate.released = true) :
    (m.checkStalled plan).joins = m.joins ∧ (m.checkStalled plan).world.log = m.world.log := by
  obtain ⟨records, heq⟩ := checkStalled_eq plan hkeys
  have hclosed : closed m.joins = [] := List.filter_eq_nil_iff.mpr fun j hj => by simp [hopen j hj]
  have hjoins : m.joins.map givenUp = m.joins := by
    refine (List.map_congr_left fun j hj => ?_).trans (List.map_id m.joins)
    exact if_pos (hopen j hj)
  rw [heq]
  split
  · exact ⟨rfl, rfl⟩
  · refine ⟨hjoins, ?_⟩
    unfold Machine.stalled
    dsimp only
    rw [hclosed, List.map_nil, List.append_nil]

/-- To begin a tool call logs nothing. -/
theorem Keeping.tool_log (hkeeping : Keeping h m) {t p index : Nat} {task : ToolTask} {stage : Stage} {w : World}
    {r : Except Problem Call} (htools : m.Tools t p index task stage) (hstart : task.start m.world = (w, r)) :
    w.log = m.world.log := by
  obtain ⟨records, hquiet⟩ := hkeeping.tools (jobs_getElem?.mpr ⟨_, htools⟩) m.world
  rw [hstart] at hquiet
  cases hquiet
  rfl

/-- Neither joins nor log have changed, no node has been visited, and no visit
has begun. -/
structure Unmoved (m m' : Machine σ) : Prop where
  joins : m'.joins = m.joins
  log : m'.world.log = m.world.log
  visited : m'.visited = m.visited
  begun : ∀ k, begun m' k = begun m k

theorem Unmoved.trans {m'' : Machine σ} (h : Unmoved m m') (h' : Unmoved m' m'') : Unmoved m m'' :=
  ⟨h'.joins.trans h.joins, h'.log.trans h.log, h'.visited.trans h.visited, fun k => (h'.begun k).trans (h.begun k)⟩

/-- Once a join has been abandoned, nothing moves any more. -/
theorem Unmoved.of_move (hmove : Move s h m h' m') (hsound : Sound s start h m) (hunfailed : ¬Failed h m)
    (hreported : Reported s.plan m) (habandoned : ∃ j ∈ m.joins, j.gate.abandoned = true) : Unmoved m m' := by
  have hh : h ≠ .idle := by
    rintro rfl
    cases hmove
  have hrunning : m.outcome = none := hsound.gated.outcome hh
  obtain ⟨hnobody, hworks⟩ := hsound.gated.stalled (fun f => by rw [hrunning]; exact nofun) habandoned
  have hidle : ∀ {t id parent stage}, m.Visits t id parent stage → stage.isRunning = true → Unmoved m m' :=
    fun hvisits hstage => absurd (Gated.running_pos hvisits hstage) (by omega)
  have hbegun : ∀ k, Run.begun m' k = Run.begun m k := by
    refine (hmove.begun hsound.shape hsound.tokens).resolve_right ?_
    rintro ⟨t, id, parent, _, hvisits, _⟩
    exact absurd (Gated.running_pos hvisits rfl) (by omega)
  have hstalled := checkStalled_sealed s.plan (m := m.addActive (-1)) hsound.tokens.keys (hreported.sealed habandoned)
  have hvisited := checkStalled_visited s.plan (m.addActive (-1))
  cases hmove with
  | skip hvisits | refuse hvisits | absent hvisits | enter hvisits | release hvisits | park hvisits | turn hvisits =>
      obtain ⟨rfl, _⟩ := hsound.tokens.begun hvisits
      exact hidle hvisits rfl
  | answer hvisits | spoil hvisits | gather hvisits | fill hvisits => exact hidle hvisits rfl
  | spread | stop | fail | reply | call | noTools | tools => cases hworks
  | toolError htools hstart | toolReply htools hstart | toolCall htools hstart =>
      have hlog := hsound.keeping.tool_log htools hstart
      exact ⟨rfl, hlog, rfl, hbegun⟩
  | tell => exact ⟨hstalled.1, hstalled.2, hvisited, hbegun⟩
  | @conclude _ t id stage failure =>
      cases failure with
      | none => exact ⟨hstalled.1, hstalled.2, hvisited, hbegun⟩
      | some f => exact absurd (.inl rfl) hunfailed
  | _ => exact ⟨rfl, rfl, rfl, hbegun⟩

/-- Every move without failures keeps the log in order. -/
theorem Reported.move (hmove : Move s h m h' m') (hdispatch : KeptDispatch s) (hsound : Sound s start h m)
    (hunfailed : ¬Failed h m) (hreported : Reported s.plan m) : Reported s.plan m' := by
  by_cases habandoned : ∃ j ∈ m.joins, j.gate.abandoned = true
  · have hunmoved := Unmoved.of_move hmove hsound hunfailed hreported habandoned
    exact hreported.of_eq hunmoved.joins hunmoved.log
  have hnone : ∀ j ∈ m.joins, j.gate.abandoned = false := fun j hj => by
    cases htrue : j.gate.abandoned with
    | false => rfl
    | true => exact absurd ⟨j, hj, htrue⟩ habandoned
  have hbefore := hreported.unreported hnone
  have hsound' := hsound.move hmove hdispatch
  have hkeys := hsound.tokens.keys
  have hworks : ∀ {t work}, h' = .works t work → ∀ j ∈ m'.joins, j.gate.abandoned = false := by
    rintro t work rfl
    exact hsound'.gated.unabandoned nofun (.inr rfl)
  have hsame : m'.joins = m.joins → m'.world.log = m.world.log → Reported s.plan m' := fun hjoins hlog =>
    hreported.of_eq hjoins hlog
  have hgrow : ∀ {w : World}, m.world.Grows w → m'.joins = m.joins → m'.world.log = w.log → Reported s.plan m' := by
    intro w hgrows hjoins hlog
    obtain ⟨es, hes, hapart⟩ := hgrows.log
    exact (hbefore.grow (by rw [hjoins]; exact hnone) (hlog.trans hes) hapart).reported s.plan
  have harrived : ∀ {id : NodeId} {required : Nat} {gate : Gate}, gate.abandoned = (m.join id required).gate.abandoned →
      ∀ j ∈ (m.arrived { m.join id required with gate }).joins, j.gate.abandoned = false := fun {id required _} hgate =>
    forall_putJoin (hgate.trans (Gated.join_unabandoned hnone id required)) hnone
  have hkept : ∀ {t work id parent stage}, h = .works t work → m.Visits t id parent stage →
      Kept id.key m.world work := fun hh hvisits => hsound.keeping.works hh hvisits
  have hstalled := Unreported.checkStalled (m := m.addActive (-1)) ⟨hbefore.joins, hbefore.log⟩ s.plan hkeys
  cases hmove with
  | @release _ t id _ _ required gate =>
      have hlog : (m.wake { m.join id required with gate }).world.log = m.world.log :=
        congrArg World.log (wake_world ..)
      exact Unreported.reported ⟨hworks rfl, hlog ▸ hbefore.log⟩ s.plan
  | @park _ t id _ _ required gate _ _ _ _ hgate hclosed =>
      obtain ⟨_, _, hgate', heq⟩ := Gated.closed_arrival hkeys hgate hclosed
      have habandoned' : gate.abandoned = (m.join id required).gate.abandoned := by rw [hgate']
      rw [heq]
      refine Unreported.reported (m := (m.arrived { m.join id required with gate }).addParked t id)
        ⟨fun j hj => ?_, hbefore.log⟩ s.plan
      obtain ⟨i, hi, ts, rfl⟩ := Gated.addParked_mem hj
      exact harrived habandoned' i hi
  | @turn _ t id _ _ required gate records hvisits hnew hrequired hmany hgate hopen =>
      obtain ⟨_, hgate', records', heq⟩ := hsound.gated.turned hsound.tokens hvisits hnew hrequired hmany hgate hopen
      have habandoned' : gate.abandoned = (m.join id required).gate.abandoned := by rw [hgate']
      have hunreported : Unreported (m.arrived { m.join id required with gate }) := ⟨harrived habandoned', hbefore.log⟩
      have hturned := hunreported.stalled s.plan records'
      rw [heq]
      exact ⟨hturned.log, hturned.sealed⟩
  | spread hvisits => exact hgrow (hkept rfl hvisits).1 rfl rfl
  | @stop _ t id _ _ w v log records result hvisits _ hlog =>
      obtain ⟨es, hes, hapart⟩ := (hkept rfl hvisits).1.log
      have hlog' : w.log ++ log = m.world.log ++ (es ++ log) := (congrArg (· ++ log) hes).trans (List.append_assoc ..)
      refine Unreported.reported (m := { m with world := { w with log := w.log ++ log, records }, result })
        (hbefore.grow hnone hlog' fun e he => ?_) s.plan
      · rcases List.mem_append.mp he with he | he
        · exact hapart e he
        · obtain ⟨_, text, htext⟩ := hlog e he
          unfold LogEntry.tellsAbandonment
          rw [htext]
          exact (Apart.append ⟨_, _, rfl, by decide⟩ text).differs
  | @fail _ t | @reply _ t | @call _ t | @tools _ t =>
      obtain ⟨id, parent, hvisits⟩ := hsound.shape.hand t rfl
      exact hgrow (hkept rfl hvisits).1 rfl rfl
  | toolError htools hstart | toolReply htools hstart | toolCall htools hstart =>
      have hlog := hsound.keeping.tool_log htools hstart
      exact hsame rfl hlog
  | tell => exact ⟨hstalled.log, hstalled.sealed⟩
  | @conclude _ t id stage failure =>
      cases failure with
      | none => exact ⟨hstalled.log, hstalled.sealed⟩
      | some f => exact absurd (.inl rfl) hunfailed
  | _ => exact hsame rfl rfl

/-- What tells of an abandoned join reports one. -/
theorem Reported.mem (h : Reported plan m) {e : LogEntry} (he : e ∈ m.world.log) (htells : e.tellsAbandonment = true) :
    ∃ j ∈ m.joins, j.gate.abandoned = true ∧ ∃ clock, e = report plan clock j := by
  obtain ⟨before, clock, hlog, hbefore⟩ := h.log
  rw [hlog] at he
  rcases List.mem_append.mp he with he | he
  · exact absurd (htells.symm.trans (hbefore e he)) nofun
  · obtain ⟨j, hj, rfl⟩ := List.mem_map.mp he
    obtain ⟨hmem, habandoned⟩ := List.mem_filter.mp hj
    exact ⟨j, hmem, habandoned, clock, rfl⟩

theorem filter_key {js : List Join} (hkeys : (js.map (·.id.key)).Nodup) {j : Join} (hj : j ∈ js) :
    js.filter (fun i => i.id.key == j.id.key) = [j] := by
  induction js with
  | nil => cases hj
  | cons i js ih =>
      obtain ⟨hnew, hrest⟩ := List.nodup_cons.mp hkeys
      rcases List.mem_cons.mp hj with rfl | hj
      · have hnone : js.filter (fun i => i.id.key == j.id.key) = [] := List.filter_eq_nil_iff.mpr fun i hi heq =>
          hnew (List.mem_map.mpr ⟨i, hi, by simpa using heq⟩)
        rw [List.filter_cons, if_pos (beq_self_eq_true _), hnone]
      · have hne : ¬(i.id.key == j.id.key) = true := fun heq =>
          hnew (List.mem_map.mpr ⟨j, hj, by simpa using (beq_iff_eq.mp heq).symm⟩)
        rw [List.filter_cons, if_neg hne, ih hrest hj]

/-- An abandoned join is reported once. -/
theorem Reported.once (h : Reported plan m) (hkeys : (m.joins.map (·.id.key)).Nodup) {j : Join} (hj : j ∈ m.joins)
    (habandoned : j.gate.abandoned = true) :
    ∃ clock, m.world.log.filter (·.reports j.id.key) = [report plan clock j] := by
  obtain ⟨before, clock, hlog, hbefore⟩ := h.log
  refine ⟨clock, ?_⟩
  have hnone : before.filter (·.reports j.id.key) = [] := List.filter_eq_nil_iff.mpr fun e he => by
    unfold LogEntry.reports
    rw [hbefore e he]
    exact Bool.false_ne_true
  have hone : (abandonedJoins m.joins).filter (fun i => i.id.key == j.id.key) = [j] :=
    filter_key (hkeys.sublist (List.filter_sublist.map _)) (List.mem_filter.mpr ⟨hj, habandoned⟩)
  rw [hlog, List.filter_append, hnone, List.nil_append, List.filter_map]
  have hreports : ((fun e : LogEntry => e.reports j.id.key) ∘ report plan clock) = fun i => i.id.key == j.id.key :=
    funext fun i => report_reports plan clock i j.id.key
  rw [hreports, hone, List.map_singleton]

end

/-! ## Runs without failures -/

namespace Launch

theorem reported (l : Launch σ) (hnone : ∀ k, (l.state k).failures = []) (k : Nat) : Reported l.given (l.state k) := by
  refine l.unfailing_induct hnone (I := fun _ m => Reported l.given m) ?_ (fun htakes _ h => ?_)
    (fun hmove hsound hunfailed _ h => h.move hmove l.keptDispatch hsound hunfailed) k
  · have hfirst : Unreported l.first := ⟨fun _ hj => absurd hj List.not_mem_nil, fun _ he => absurd he List.not_mem_nil⟩
    exact hfirst.reported l.given
  · exact h.of_eq htakes.joins htakes.log

/-- After a report of an abandoned join nothing moves any more. -/
theorem unmoved (l : Launch σ) (hnone : ∀ k, (l.state k).failures = []) {i k : Nat} (hle : i ≤ k)
    (hentry : ∃ e ∈ (l.state i).world.log, e.tellsAbandonment = true) : Unmoved (l.state i) (l.state k) := by
  induction k, hle using Nat.le_induction with
  | base => exact ⟨rfl, rfl, rfl, fun _ => rfl⟩
  | succ k _ ih =>
      have habandoned : ∃ j ∈ (l.state k).joins, j.gate.abandoned = true := by
        obtain ⟨e, he, htells⟩ := hentry
        obtain ⟨j, hj, htrue, _⟩ := (l.reported hnone i).mem he htells
        exact ⟨j, ih.joins ▸ hj, htrue⟩
      have hafter := hnone (k + 1)
      rw [l.state_succ] at hafter ⊢
      cases hstep : step l.setup (l.state k) with
      | none => exact ih
      | some m' =>
          rw [hstep] at hafter
          have hsame := Run.unfailing_induct l.keptDispatch (l.sound k) (hnone k) hafter
            (I := fun _ m => Reported l.given m ∧ Unmoved (l.state k) m)
            (fun htakes _ _ => ⟨(l.reported hnone k).of_eq htakes.joins htakes.log, htakes.joins, htakes.log,
              htakes.visited, begun_of_tasks htakes.tasks⟩)
            (fun hmove _ hsound hunfailed _ h => ⟨h.1.move hmove l.keptDispatch hsound hunfailed,
              h.2.trans (.of_move hmove hsound hunfailed h.1 (h.2.joins ▸ habandoned))⟩) hstep
          exact ih.trans hsame.2

/-- When a run without failures is over all gates are open. -/
theorem released (l : Launch σ) (hnone : ∀ k, (l.state k).failures = []) {k : Nat}
    (hover : (l.state k).outcome ≠ none) : ∀ j ∈ (l.state k).joins, j.gate.released = true := by
  refine (l.sound k).gated.idle ?_
  have hnobody : running (l.state k) = 0 := by
    refine List.countP_eq_zero.mpr fun task htask => ?_
    obtain ⟨t, ht⟩ := List.mem_iff_getElem?.mp htask
    obtain ⟨job, stage⟩ := task
    cases job with
    | visit id parent =>
        obtain rfl := (l.alive hnone k).finished hover ht
        exact Bool.false_ne_true
    | _ => exact Bool.false_ne_true
  have hactive := (l.sound k).gated.active
  simp only [Hand.weight] at hactive
  omega

end Launch

/-! ## Abandonment is exact -/

/-- The node waits for more branches than have arrived at its gate, but some
have. -/
def Short (g : Graph) (m : Machine σ) (k : Key) : Prop :=
  ∃ required, g.required k = .ok required ∧ 1 ≤ arrivals m.joins k ∧ arrivals m.joins k < required

/-- When a run without failures is over, exactly the joins that have been
abandoned are short of branches. -/
theorem Launch.short_iff (l : Launch σ) (hnone : ∀ k, (l.state k).failures = []) {N : Nat}
    (hover : (l.state N).outcome ≠ none) (k : Key) :
    Short l.graph (l.state N) k ↔ ∃ j ∈ (l.state N).joins, j.gate.abandoned = true ∧ j.id.key = k := by
  have hsound := l.sound N
  have hgates := hsound.gated.gates
  constructor
  · rintro ⟨required, hrequired, hsome, hfew⟩
    unfold arrivals at hsome hfew
    cases hgate : gateAt (l.state N).joins k with
    | none =>
        rw [hgate] at hsome
        cases hsome
    | some j =>
        rw [hgate] at hsome hfew
        obtain ⟨hj, rfl⟩ := gateAt_some hgate
        refine ⟨j, hj, ?_, rfl⟩
        cases habandoned : j.gate.abandoned with
        | true => rfl
        | false =>
            have hvisited := (hgates j hj).visited_iff.mpr ⟨l.released hnone hover j hj, habandoned⟩
            have hfull := (hgates j hj).full hvisited
            obtain ⟨r, hr, hgate, _⟩ := (hgates j hj).required
            cases hrequired.symm.trans hr
            rw [hgate] at hfull
            exact absurd (Int.ofNat_le.mp hfull) (Nat.not_le_of_lt hfew)
  · rintro ⟨j, hj, habandoned, rfl⟩
    obtain ⟨r, hr, hgate, _⟩ := (hgates j hj).required
    have hnew : j.id.key ∉ (l.state N).visited := fun hmem => by
      have hfalse := ((hgates j hj).visited_iff.mp hmem).2
      exact absurd (habandoned.symm.trans hfalse) nofun
    have hbelow := (hgates j hj).below hnew
    have hreached := hsound.gated.reached j hj
    have hat : arrivals (l.state N).joins j.id.key = j.gate.arrived := by
      unfold arrivals
      rw [gateAt_mem hsound.tokens.keys hj]
      rfl
    rw [hgate] at hbelow
    exact ⟨r, hr, hat ▸ hreached, hat ▸ Int.ofNat_lt.mp hbelow⟩

/-- In a run in which every dispatch succeeds, joins are abandoned if and only
if too few branches can arrive, and only when nothing else can happen.

1. The run is never stranded, and it returns with all gates open.
2. Of every node that some but too few branches have arrived at, the log says
   once that its join was abandoned, and with how many; the node is not
   visited.  It says so of no other node.
3. After such an entry no visit begins, neither to execute its node nor to
   arrive at a gate, and all that follows in the log are such entries. -/
theorem abandonment_exact (l : Launch σ) (hpayload : ∀ n ∈ l.graph.nodes, ∃ id es, n.payload = .dict id es)
    (hsucceeds : l.Succeeds) :
    (∀ k, ¬(l.state k).Stranded) ∧
    (∀ k, ∃ before after, (l.state k).world.log = before ++ after ∧
      (∀ e ∈ before, e.tellsAbandonment = false) ∧ ∀ e ∈ after, e.tellsAbandonment = true) ∧
    (∀ i k, i ≤ k → (∃ e ∈ (l.state i).world.log, e.tellsAbandonment = true) →
      (l.state k).visited = (l.state i).visited ∧ (l.state k).joins = (l.state i).joins ∧
      ∀ key, begun (l.state k) key = begun (l.state i) key) ∧
    (∃ N, l.Halted N) ∧
    ∀ N, l.Halted N →
      (∀ fuel, N ≤ fuel → runGraph l.plan l.services fuel l.world = (l.state N).ended) ∧
      (∃ v, (l.state N).outcome = some (.ok v)) ∧
      (∀ j ∈ (l.state N).joins, j.gate.released = true) ∧
      (∀ k, Short l.graph (l.state N) k → k ∉ (l.state N).visited ∧
        ∃ e required, (l.state N).world.log.filter (·.reports k) = [e] ∧ l.graph.required k = .ok required ∧
          e.payload = .record [("arrived", .int (arrivals (l.state N).joins k)), ("required", .int required)]) ∧
      ∀ e ∈ (l.state N).world.log, e.tellsAbandonment = true → ∃ k, e.reports k = true ∧ Short l.graph (l.state N) k := by
  have hnone := l.unfailing (Graph.required_ok hpayload) hsucceeds
  refine ⟨fun k => (l.alive hnone k).not_stranded (l.sound k), fun k => ?_, fun i k hle hentry => ?_, l.halts,
    fun N hhalt => ?_⟩
  · obtain ⟨before, clock, hlog, hbefore⟩ := (l.reported hnone k).log
    refine ⟨before, _, hlog, hbefore, fun e he => ?_⟩
    obtain ⟨j, _, rfl⟩ := List.mem_map.mp he
    exact report_tells l.given clock j
  · have hunmoved := l.unmoved hnone hle hentry
    exact ⟨hunmoved.visited, hunmoved.joins, hunmoved.begun⟩
  · obtain ⟨v, houtcome⟩ := hhalt.returns hnone
    have hover : (l.state N).outcome ≠ none := by
      rw [houtcome]
      exact nofun
    have hreported := l.reported hnone N
    refine ⟨fun fuel hle => hhalt.runGraph_eq hle, ⟨v, houtcome⟩, l.released hnone hover, fun k hshort => ?_,
      fun e he htells => ?_⟩
    · obtain ⟨j, hj, habandoned, rfl⟩ := (l.short_iff hnone hover k).mp hshort
      obtain ⟨clock, hfilter⟩ := hreported.once (l.sound N).tokens.keys hj habandoned
      obtain ⟨r, hr, hgate, _⟩ := ((l.sound N).gated.gates j hj).required
      have hat : arrivals (l.state N).joins j.id.key = j.gate.arrived := by
        unfold arrivals
        rw [gateAt_mem (l.sound N).tokens.keys hj]
        rfl
      refine ⟨fun hmem => ?_, report l.given clock j, r, hfilter, hr, ?_⟩
      · have hfalse := (((l.sound N).gated.gates j hj).visited_iff.mp hmem).2
        exact absurd (habandoned.symm.trans hfalse) nofun
      · unfold report
        rw [hat, hgate]
    · obtain ⟨j, hj, habandoned, clock, rfl⟩ := hreported.mem he htells
      refine ⟨j.id.key, ?_, (l.short_iff hnone hover _).mpr ⟨j, hj, habandoned, rfl⟩⟩
      rw [report_reports]
      exact beq_self_eq_true _

/-- Two branches of which one ends before they meet. -/
def halfway : Graph where
  nodes := [sampleStart, sampleNode "left" .state [], sampleNode "halt" .finish [], sampleNode "merge" .state []]
  edges := [sampleEdge "in" "left", sampleEdge "in" "halt", sampleEdge "left" "merge", sampleEdge "halt" "merge"]
  keys_nodup := by decide +kernel
  ends_mem := by decide +kernel

/-- A run of it. -/
def halfwayRun : Launch Unit := sampleRun halfway rfl

/-- The join that one branch has reached is abandoned, which is said once, and
the fourth step is the last to begin a visit. -/
theorem halfway_abandons_merge :
    (∀ k, ¬(halfwayRun.state k).Stranded) ∧
    (Key.ofString "merge" ∉ (halfwayRun.state 7).visited ∧
      ∃ e required, (halfwayRun.state 7).world.log.filter (·.reports (Key.ofString "merge")) = [e] ∧
        halfway.required (Key.ofString "merge") = .ok required ∧ e.payload = .record
          [("arrived", .int (arrivals (halfwayRun.state 7).joins (Key.ofString "merge"))), ("required", .int required)]) ∧
    (halfwayRun.state 7).visited = (halfwayRun.state 4).visited := by
  have hhalt : halfwayRun.Halted 7 := Option.isNone_iff_eq_none.mp (by decide +kernel)
  have hsucceeds : halfwayRun.Succeeds := hhalt.succeeds (by decide +kernel)
  have hpayload : ∀ n ∈ halfway.nodes, ∃ id es, n.payload = .dict id es := by
    intro n hn
    simp only [halfway, List.mem_cons, List.not_mem_nil, or_false] at hn
    rcases hn with rfl | rfl | rfl | rfl <;> exact ⟨_, _, rfl⟩
  obtain ⟨hstranded, _, hunmoved, _, hover⟩ := abandonment_exact halfwayRun hpayload hsucceeds
  obtain ⟨_, _, _, hshort, _⟩ := hover 7 hhalt
  exact ⟨hstranded, hshort _ ⟨2, rfl, by decide +kernel, by decide +kernel⟩,
    (hunmoved 4 7 (by decide) (by decide +kernel)).1⟩

end Workflow.Run
