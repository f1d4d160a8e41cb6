import Workflow.Proofs.Fate

/-!
# Workflow.Proofs.Agreement

What a run logs, stores and answers.

When a run comes to a halt, its outputs are those of the last COMPLETE entries,
it has returned if no error is in the log, and otherwise it raises the failure
of a node that the log tells of, in the second of the first error
(`records_agree`).

The result of a run is left by the visits of end nodes.  A loop may execute end
nodes as well, which leave no result.  Where that has happened such a node has
been executed more often than visits have (`Astray`), and otherwise the result
is that of the last COMPLETE entry of an end node.
-/

namespace Workflow.Run

open Machine

variable {σ : Type}

/-! ## Entries about end nodes -/

/-- The entry says that an execution of an end node is complete. -/
def LogEntry.concludes (g : Graph) (e : LogEntry) : Bool := g.nodes.any fun n => n.kind = .finish && e.completes n.id.key

/-- The output in the last entry about a completed execution of an end node, if there is one. -/
def World.conclusion (w : World) (g : Graph) : Value :=
  ((w.log.filter (LogEntry.concludes g)).getLast?).elim .null LogEntry.output

theorem completions_le {w v : World} {es : List LogEntry} (hlog : v.log = w.log ++ es) (k : Key) :
    w.completions k ≤ v.completions k := by
  unfold World.completions
  rw [hlog, List.countP_append]
  omega

theorem completions_lt {w v : World} {es : List LogEntry} (hlog : v.log = w.log ++ es) {e : LogEntry} (he : e ∈ es)
    {k : Key} (hcompletes : e.completes k = true) : w.completions k < v.completions k := by
  have hpos : 0 < es.countP (LogEntry.completes k) := List.countP_pos_iff.mpr ⟨e, he, hcompletes⟩
  unfold World.completions
  rw [hlog, List.countP_append]
  omega

theorem conclusion_same {w v : World} {g : Graph} {es : List LogEntry} (hlog : v.log = w.log ++ es)
    (hes : ∀ e ∈ es, e.concludes g = false) : v.conclusion g = w.conclusion g := by
  have hnone : es.filter (LogEntry.concludes g) = [] := List.filter_eq_nil_iff.mpr fun e he => by simp [hes e he]
  unfold World.conclusion
  rw [hlog, List.filter_append, hnone, List.append_nil]

theorem conclusion_last {w : World} {g : Graph} {e : LogEntry} (hlast : w.log.getLast? = some e)
    (hconcludes : e.concludes g = true) : w.conclusion g = e.output := by
  obtain ⟨es, hes⟩ := List.getLast?_eq_some_iff.mp hlast
  unfold World.conclusion
  rw [hes, List.filter_append, List.filter_singleton, hconcludes, cond_true, List.getLast?_concat]
  rfl

/-- To close an execution completes it. -/
theorem Closes.completions {plan : Plan} {n : Node} {M S : List Node} {w v : World} {output : Value}
    (hcloses : Execute.Closes plan n M S w v output) : w.completions n.id.key < v.completions n.id.key := by
  have hlast : ∀ {u : World} (es : List LogEntry) (elapsed : Nat), u.log = w.log ++ es →
      w.completions n.id.key < (u.completed plan n output elapsed).completions n.id.key := by
    intro u es elapsed hlog
    have hbefore := completions_le hlog n.id.key
    have hafter := (tally_completed plan u n output elapsed n.id.key).2
    rw [beq_self_eq_true, Bool.toNat_true] at hafter
    omega
  obtain ⟨T, u, hdeeds, hend⟩ := hcloses
  obtain ⟨_, es, hes, _⟩ := hdeeds.log
  rcases hend with ⟨_, _, elapsed, rfl⟩ | ⟨_, _, hrevision⟩
  · exact hlast es elapsed hes
  · obtain ⟨u', _, _, hremarked, _, _, _, _, rfl⟩ := hrevision.revised
    obtain ⟨fs, hfs, _⟩ := hremarked.log
    refine hlast (es ++ [startEntry n u.clock] ++ fs) 0 ?_
    rw [hfs, ← List.append_assoc, ← List.append_assoc, ← hes]
    rfl

/-! ## Visits that have executed their node -/

/-- A visit has executed the node, and is done with it. -/
def Finished (h : Hand) (m : Machine σ) (k : Key) : Prop := k ∈ m.visited ∧ ∀ t id, Executing h m t id → id.key ≠ k

section

variable {s : Setup σ} {start : Node} {h h' : Hand} {m m' : Machine σ} {k : Key} {piles : Nat → List Node}
  {F : Failure → Prop}

/-- A visit is done with its node when its work is. -/
theorem Move.finishes (hmove : Move s h m h' m') (hsound : Sound s start h m) (hunfailed : ¬Failed h m)
    (hfinished : Finished h' m' k) : Finished h m k ∨ ∃ t w v id parent stage, h = .works t (.done w v) ∧
      m.Visits t id parent stage ∧ id.key = k := by
  obtain ⟨hvisited, hnobody⟩ := hfinished
  by_cases hold : k ∈ m.visited
  · by_cases hbusy : ∃ t id, Executing h m t id ∧ id.key = k
    · obtain ⟨t, id, hexec, hkey⟩ := hbusy
      rcases hmove.executing_ends hsound.shape hsound.tokens hexec with hstill | ⟨w, v, hh⟩ | ⟨w, f, hh⟩
      · exact absurd hkey (hnobody t id hstill)
      · obtain ⟨parent, stage, hvisits, _⟩ := hexec
        exact .inr ⟨t, w, v, id, parent, stage, hh, hvisits, hkey⟩
      · refine absurd (.inl ?_) hunfailed
        rw [hh]
        rfl
    · exact .inl ⟨hold, fun t id hexec hkey => hbusy ⟨t, id, hexec, hkey⟩⟩
  · rcases hmove.visited hsound.tokens with ⟨t, id, henters⟩ | hsame
    · rw [henters.visited] at hvisited
      have hkey := (List.mem_cons.mp hvisited).resolve_right hold
      obtain ⟨parent, hqueued⟩ := henters.visits
      have hexec : Executing h' m' t id :=
        ⟨parent, .over, (hqueued.setStage .over).of_tasks henters.tasks, .inr henters.works⟩
      exact absurd hkey.symm (hnobody t id hexec)
    · exact absurd (hsame ▸ hvisited) hold

/-! ## The result -/

/-- Some loop has executed an end node. -/
def Astray (g : Graph) (h : Hand) (m : Machine σ) : Prop := ∃ n ∈ g.nodes, n.kind = .finish ∧
  (2 ≤ m.world.completions n.id.key ∨ 1 ≤ m.world.completions n.id.key ∧ ¬Finished h m n.id.key)

/-- What visits have executed is complete, and the last end node left the
result, unless it was executed by a loop. -/
structure Resulting (g : Graph) (h : Hand) (m : Machine σ) : Prop where
  complete : ∀ k, Finished h m k → 1 ≤ m.world.completions k
  result : Astray g h m ∨ m.result = m.world.conclusion g
  outcome : ∀ v, m.outcome = some (.ok v) → v = m.result

/-- The end of work completes its node. -/
theorem Acting.completes {t : Nat} {w : World} {v : Value} {id : NodeId} {parent : Option Nat} {stage : Stage}
    (hacting : Acting s.plan F piles (.works t (.done w v)) m) (hvisits : m.Visits t id parent stage) :
    m.world.completions id.key < w.completions id.key ∧
      ∃ e, w.log.getLast? = some e ∧ e.completes id.key = true ∧ e.output = v := by
  obtain ⟨n, hn, hcloses⟩ := hacting.carried.works rfl hvisits
  obtain ⟨hmem, hkey⟩ := Graph.node?_some hn
  obtain ⟨T, u, _, _, e, hlast, hphase, hnode, houtput⟩ := Execute.Closes.deed hmem hcloses
  refine ⟨hkey ▸ Closes.completions hcloses, e, hlast, ?_, houtput⟩
  unfold LogEntry.completes
  rw [hphase, hnode, n.id.key_eq, hkey]
  simp

theorem checkStalled_result (plan : Plan) {m : Machine σ} (hkeys : (m.joins.map (·.id.key)).Nodup) :
    (m.checkStalled plan).result = m.result :=
  checkStalled_same plan hkeys (·.result) fun _ => rfl

theorem turnAway_result (plan : Plan) {m : Machine σ} (hkeys : (m.joins.map (·.id.key)).Nodup) (j : Join) :
    (m.turnAway plan j).result = m.result :=
  turnAway_same plan hkeys j (·.result) fun _ => rfl

/-- The result changes only as the visit of an end node ends its work. -/
theorem Move.result (hmove : Move s h m h' m') (htokens : Tokens h m) :
    m'.result = m.result ∨ ∃ t w v id parent stage n, h = .works t (.done w v) ∧ m.Visits t id parent stage ∧
      s.plan.graph.node? id.key = some n ∧ n.kind = .finish := by
  have hkeys := htokens.keys
  cases hmove with
  | release => exact .inl (by unfold setStage visit withRecords; rw [wake_eq])
  | park | turn => exact .inl (turnAway_result s.plan hkeys _)
  | tell => exact .inl (checkStalled_result s.plan (m := m.addActive (-1)) hkeys)
  | @conclude _ _ _ _ failure =>
      refine .inl (Eq.trans ?_ (checkStalled_result s.plan (m := m.addActive (-1)) hkeys))
      cases failure <;> rfl
  | @stop _ t id _ _ w v _ _ _ hvisits _ _ hresult =>
      cases hn : s.plan.graph.node? id.key with
      | none => exact .inl (by rw [hn] at hresult; exact hresult)
      | some n =>
          by_cases hkind : n.kind = .finish
          · exact .inr ⟨t, w, v, id, _, _, n, rfl, hvisits, hn, hkind⟩
          · exact .inl (by rw [hn] at hresult; simpa [hkind] using hresult)
  | _ => exact .inl rfl

/-- After the visit of an end node has ended its work, the result is that of the
last entry about an end node. -/
theorem Resulting.of_finish (hmove : Move s h m h' m') {t : Nat} {w : World} {v : Value} {id : NodeId} {parent : Option Nat}
    {stage : Stage} {n : Node} (hacting : Acting s.plan F piles h m) (hh : h = .works t (.done w v))
    (hvisits : m.Visits t id parent stage) (hn : s.plan.graph.node? id.key = some n) (hkind : n.kind = .finish) :
    m'.result = m'.world.conclusion s.plan.graph := by
  subst hh
  obtain ⟨_, e, hlast, hcompletes, houtput⟩ := hacting.completes hvisits
  obtain ⟨hmem, hkey⟩ := Graph.node?_some hn
  have hconcludes : e.concludes s.plan.graph = true :=
    List.any_eq_true.mpr ⟨n, hmem, by simp [hkind, hkey, hcompletes]⟩
  cases hmove with
  | @spread _ _ id' _ _ n' _ _ hvisits' hn' htargets =>
      obtain ⟨rfl, _⟩ := hvisits.unique hvisits'
      cases hn.symm.trans hn'
      exact absurd (by simp [Graph.targets, hkind]) htargets
  | @stop _ _ id' _ _ _ _ log records result hvisits' _ hlog hresult =>
      obtain ⟨rfl, _⟩ := hvisits.unique hvisits'
      rw [hn] at hresult
      have hwarnings : ∀ e ∈ log, e.concludes s.plan.graph = false := fun e he =>
        List.any_eq_false.mpr fun n' _ => by simp [LogEntry.not_completes (e := e) (by rw [(hlog e he).1]; exact Phase.noConfusion)]
      have hsame : World.conclusion { w with log := w.log ++ log, records } s.plan.graph = w.conclusion s.plan.graph :=
        conclusion_same rfl hwarnings
      rw [Option.any_some, if_pos (by simpa using hkind)] at hresult
      rw [hsame, conclusion_last hlast hconcludes, houtput]
      exact hresult

/-- What every move without failures makes of the result. -/
theorem Resulting.move (hmove : Move s h m h' m') (hsound : Sound s start h m) (hunfailed : ¬Failed h m)
    (hacting : Acting s.plan F piles h m) {piles' : Nat → List Node}
    (hadds : Adds s.plan F piles h m.world piles' h' m'.world) (hresulting : Resulting s.plan.graph h m) :
    Resulting s.plan.graph h' m' := by
  obtain ⟨_, es, hlog⟩ := hadds.log
  have hmono := completions_le hlog
  have hrunning : m.outcome = none := hsound.gated.outcome (by rintro rfl; cases hmove)
  -- Whoever is done with a node has completed it just now, or had done so before.
  have hdone : ∀ k, Finished h' m' k → Finished h m k ∨ m.world.completions k < m'.world.completions k := by
    intro k hfinished
    refine (hmove.finishes hsound hunfailed hfinished).imp_right ?_
    rintro ⟨t, w, v, id, parent, stage, rfl, hvisits, rfl⟩
    refine (hacting.completes hvisits).1.trans_le ?_
    cases hmove with
    | spread => exact le_rfl
    | stop => exact completions_le rfl _
  refine ⟨fun k hfinished => ?_, ?_, fun v hv => ?_⟩
  · rcases hdone k hfinished with hold | hnew
    · exact (hresulting.complete k hold).trans (hmono k)
    · omega
  · by_cases hfinish : ∃ t w v id parent stage n, h = .works t (.done w v) ∧ m.Visits t id parent stage ∧
        s.plan.graph.node? id.key = some n ∧ n.kind = .finish
    · obtain ⟨t, w, v, id, parent, stage, n, hh, hvisits, hn, hkind⟩ := hfinish
      exact .inr (Resulting.of_finish hmove hacting hh hvisits hn hkind)
    rcases hresulting.result with ⟨n, hn, hkind, htwice | ⟨hcomplete, hopen⟩⟩ | hresult
    · exact .inl ⟨n, hn, hkind, .inl (htwice.trans (hmono _))⟩
    · refine .inl ⟨n, hn, hkind, ?_⟩
      by_cases hfinished : Finished h' m' n.id.key
      · have hmore := (hdone _ hfinished).resolve_left hopen
        exact .inl (by omega)
      · exact .inr ⟨hcomplete.trans (hmono _), hfinished⟩
    · by_cases hend : ∃ e ∈ es, e.concludes s.plan.graph = true
      · obtain ⟨e, he, hconcludes⟩ := hend
        obtain ⟨n, hn, hboth⟩ := List.any_eq_true.mp hconcludes
        obtain ⟨hkind, hcompletes⟩ : n.kind = .finish ∧ e.completes n.id.key = true := by simpa using hboth
        have hmore := completions_lt hlog he hcompletes
        refine .inl ⟨n, hn, hkind, ?_⟩
        by_cases hfinished : Finished h' m' n.id.key
        · have hold := (hmove.finishes hsound hunfailed hfinished).resolve_right
            fun ⟨t, w, v, id, parent, stage, hh, hvisits, hkey⟩ =>
              hfinish ⟨t, w, v, id, parent, stage, n, hh, hvisits, hkey ▸ Graph.node?_mem hn, hkind⟩
          have hcomplete := hresulting.complete _ hold
          exact .inl (by omega)
        · exact .inr ⟨by omega, hfinished⟩
      · have hsame := (hmove.result hsound.tokens).resolve_right hfinish
        refine .inr ?_
        rw [hsame, hresult]
        exact (conclusion_same hlog fun e he => Bool.eq_false_iff.mpr fun hconcludes => hend ⟨e, he, hconcludes⟩).symm
  · rcases Gated.outcome_move hmove hsound.tokens with hsame | ⟨t, id, stage, failure, rfl, _, _, rfl⟩
    · rw [hsame, hrunning] at hv
      cases hv
    · cases failure with
      | none =>
          cases hv
          rfl
      | some f => cases hv

theorem Resulting.takes {e : Event} (htakes : Takes m e m') {g : Graph} (hresulting : Resulting g .idle m) :
    Resulting g (.holds e) m' := by
  have hfinished : ∀ k, Finished (.holds e) m' k ↔ Finished .idle m k := by
    intro k
    unfold Finished
    rw [htakes.visited]
    refine and_congr_right fun _ => ⟨fun hnobody t id hexec => hnobody t id ?_, fun hnobody t id hexec => hnobody t id ?_⟩
    · exact hexec.of_tasks htakes.tasks.symm nofun
    · exact hexec.of_tasks htakes.tasks nofun
  have hlog := htakes.log
  have hcompletions : ∀ k, m'.world.completions k = m.world.completions k := fun k => by
    unfold World.completions
    rw [hlog]
  have hconclusion : m'.world.conclusion g = m.world.conclusion g := by
    unfold World.conclusion
    rw [hlog]
  have hresult : m'.result = m.result := by cases htakes <;> rfl
  refine ⟨fun k hk => ?_, ?_, fun v hv => ?_⟩
  · rw [hcompletions]
    exact hresulting.complete k ((hfinished k).mp hk)
  · rw [hconclusion, hresult]
    refine hresulting.result.imp_left fun ⟨n, hn, hkind, hmany⟩ => ⟨n, hn, hkind, ?_⟩
    rw [hcompletions, hfinished]
    exact hmany
  · rw [htakes.outcome.2] at hv
    cases hv

end

/-! ## Whole runs -/

namespace Launch

variable (l : Launch σ)

/-- In a run without failures the result is that of the last entry about an end
node, as long as no loop executes one. -/
theorem resulting (hnone : ∀ k, (l.state k).failures = []) (k : Nat) : Resulting l.graph .idle (l.state k) := by
  refine (l.unfailing_induct hnone
    (I := fun h m => (∃ piles, Acting l.given Execute.DispatchFailure piles h m) ∧ Resulting l.graph h m)
    ⟨⟨_, .single ..⟩, ?_⟩ (fun htakes _ ⟨⟨piles, hacting⟩, hresulting⟩ => ?_)
    (fun hmove hsound hunfailed _ ⟨⟨piles, hacting⟩, hresulting⟩ => ?_) k).2
  · exact ⟨fun k hk => absurd hk.1 List.not_mem_nil, .inr rfl, fun v hv => by cases hv⟩
  · exact ⟨⟨piles, Acting.takes (s := l.setup) htakes hacting⟩, hresulting.takes htakes⟩
  · obtain ⟨piles', hadds, hacting'⟩ := hacting.move hmove l.actingDispatch hsound
    exact ⟨⟨piles', hacting'⟩, hresulting.move hmove hsound hunfailed hacting hadds⟩

end Launch

/-- No loop has dispatched an end node: whenever the execution of one has begun,
a visit has begun it, and there is one visit of a node at most. -/
def EndsUnlooped (g : Graph) (m : Machine σ) : Prop :=
  ∀ n ∈ g.nodes, n.kind = .finish → m.world.rounds n.id.key ≤ m.visited.count n.id.key

/-- The log of a run tells of its outputs, of its result, and of why there is none. -/
structure Agreement (g : Graph) (m : Machine σ) : Prop where
  stored : ∀ k, (Entries.get? m.world.outputs k).isSome ↔ ∃ e ∈ m.world.log, e.completes k = true
  output : ∀ k e, m.world.lastCompletion? k = some e → Entries.get? m.world.outputs k = some e.output
  returned : (∃ v, m.ended.outcome = .ok v) ↔ ∀ e ∈ m.world.log, e.phase ≠ .error
  completed : ∀ v, m.ended.outcome = .ok v → ∀ k, m.world.rounds k = m.world.completions k
  raised : ∀ error, m.ended.outcome = .error error → ∃ err, error = .failure (.node err) ∧
    (∃ e ∈ m.world.log, e.Blames err) ∧ ∃ e, m.world.firstError? = some e ∧ e.time = m.world.clock
  result : ∀ v, m.ended.outcome = .ok v → EndsUnlooped g m → v = m.world.look (m.world.conclusion g)

/-- Nothing is astray where no loop has dispatched an end node. -/
theorem EndsUnlooped.not_astray {g : Graph} {start : Node} {s : Setup σ} {m : Machine σ} (hsound : Sound s start .idle m)
    (hover : ∀ {t id parent stage}, m.Visits t id parent stage → stage = .over)
    (htally : ∀ k, m.world.rounds k = m.world.completions k) (hunlooped : EndsUnlooped g m) : ¬Astray g .idle m := by
  rintro ⟨n, hn, hkind, hmany⟩
  have hfew := hunlooped n hn hkind
  have honce := List.nodup_iff_count_le_one.mp hsound.ran.nodup n.id.key
  rw [htally] at hfew
  rcases hmany with htwice | ⟨hcomplete, hopen⟩
  · omega
  · have hvisited : n.id.key ∈ m.visited := List.count_pos_iff.mp (by omega)
    refine hopen ⟨hvisited, fun t id ⟨parent, stage, hvisits, hexec⟩ => ?_⟩
    obtain rfl := hover hvisits
    rcases hexec with hexec | hexec <;> cases hexec

/-- What a run agrees on that returns a result. -/
theorem Launch.Halted.agrees_on_return {l : Launch σ} {N : Nat} {F : Failure → Prop} {piles : Nat → List Node}
    (hhalt : l.Halted N) (hfate : Fate l.setup F l.first.world piles .idle (l.state N)) {v : Value}
    (houtcome : (l.state N).outcome = some (.ok v))
    (hcalm : Calm l.given l.first.world piles .idle (l.state N)) :
    (l.state N).ended.outcome = .ok ((l.state N).world.look v) ∧ (∀ e ∈ (l.state N).world.log, e.phase ≠ .error) ∧
    (∀ k, (l.state N).world.rounds k = (l.state N).world.completions k) ∧
    (EndsUnlooped l.graph (l.state N) → v = (l.state N).world.conclusion l.graph) := by
  have htally : ∀ k, (l.state N).world.rounds k = (l.state N).world.completions k :=
    (hhalt.history hfate.acting hcalm).settled rfl
  refine ⟨?_, hcalm.history.unblamed nofun, htally, fun hunlooped => ?_⟩
  · unfold Machine.ended
    rw [houtcome]
  · have hresulting := l.resulting (hhalt.unfailing houtcome) N
    have hover : (l.state N).outcome ≠ none := by
      rw [houtcome]
      exact nofun
    rw [hresulting.outcome v houtcome]
    exact hresulting.result.resolve_left (hunlooped.not_astray (l.sound N) (hcalm.alive.finished hover) htally)

/-- What a run has logged, stored and answered when it comes to a halt, as every
run does, agrees. -/
theorem records_agree (l : Launch σ) (hpayload : ∀ n ∈ l.graph.nodes, ∃ id es, n.payload = .dict id es)
    (hkinds : l.plan.kinds = NodeKind.all) :
    (∃ N, l.Halted N) ∧ ∀ N, l.Halted N →
      (∀ fuel, N ≤ fuel → runGraph l.plan l.services fuel l.world = (l.state N).ended) ∧
      Agreement l.graph (l.state N) := by
  have hall : ∀ kind, kind ∈ l.plan.kinds := fun kind => by rw [hkinds]; exact NodeKind.mem_all kind
  have hnodes : NodesFail l.setup Failure.OfNode := ⟨fun _ hf => hf, Graph.required_ok hpayload⟩
  refine ⟨l.halts, fun N hhalt => ⟨fun fuel hle => hhalt.runGraph_eq hle, ?_⟩⟩
  obtain ⟨piles, hfate⟩ := l.fate (l.actingDispatch_of_kinds hall) N
  have hstored : ∀ k, (Entries.get? (l.state N).world.outputs k).isSome ↔
      ∃ e ∈ (l.state N).world.log, e.completes k = true := fun k => by
    rw [hfate.mirrors.stored k]
    simp [World.lastCompletion?]
  have houtput : ∀ k e, (l.state N).world.lastCompletion? k = some e →
      Entries.get? (l.state N).world.outputs k = some e.output := fun k e he => by
    rw [hfate.mirrors.stored k, he]
    rfl
  rcases hhalt.ended hfate with ⟨v, houtcome, hcalm⟩ | ⟨f, houtcome, hdoomed⟩
  · obtain ⟨hended, hunblamed, htally, hresult⟩ := hhalt.agrees_on_return hfate houtcome hcalm
    refine ⟨hstored, houtput, ⟨fun _ => hunblamed, fun _ => ⟨_, hended⟩⟩, fun _ _ => htally, fun error herror => ?_,
      fun v' hv' hunlooped => ?_⟩
    · rw [hended] at herror
      cases herror
    · rw [hended] at hv'
      cases hv'
      exact congrArg _ (hresult hunlooped)
  · have hended : (l.state N).ended.outcome = .error (.failure f) := by
      unfold Machine.ended
      rw [houtcome]
    have hnever : ∀ v, (l.state N).ended.outcome ≠ .ok v := fun v hv => by
      rw [hended] at hv
      cases hv
    have htold := hdoomed.told hnodes
    refine ⟨hstored, houtput, ⟨fun ⟨v, hv⟩ => absurd hv (hnever v), fun hnone => ?_⟩, fun v hv => absurd hv (hnever v),
      fun error herror => ?_, fun v hv => absurd hv (hnever v)⟩
    · obtain ⟨e, he, _⟩ := htold.first
      exact absurd (by simpa using List.find?_some he) (hnone e (List.mem_of_find?_eq_some he))
    · rw [hended] at herror
      cases herror
      obtain ⟨err, rfl, hblamed⟩ := htold.blamed f (.inr (mem_failures.mpr (.inr houtcome)))
      exact ⟨err, rfl, hblamed, htold.first⟩

/-- A node that cannot be executed, since nobody has told it what to do. -/
def idleTool : Graph where
  nodes := [sampleStart, sampleNode "idle" .tool []]
  edges := [sampleEdge "in" "idle"]
  keys_nodup := by decide +kernel
  ends_mem := by decide +kernel

/-- A run of it. -/
def idleToolRun : Launch Unit := sampleRun idleTool rfl

/-- It raises the failure of a node that the log tells of. -/
theorem idleTool_raises : ∃ err, (runGraph idleToolRun.plan idleToolRun.services 9 idleToolRun.world).outcome =
    .error (.failure (.node err)) ∧
    ∃ e ∈ (runGraph idleToolRun.plan idleToolRun.services 9 idleToolRun.world).world.log, e.Blames err := by
  have hhalt : idleToolRun.Halted 9 := Option.isNone_iff_eq_none.mp (by decide +kernel)
  have hpayload : ∀ n ∈ idleTool.nodes, ∃ id es, n.payload = .dict id es := by
    intro n hn
    simp only [idleTool, List.mem_cons, List.not_mem_nil, or_false] at hn
    rcases hn with rfl | rfl <;> exact ⟨_, _, rfl⟩
  obtain ⟨heq, hagreement⟩ := (records_agree idleToolRun hpayload rfl).2 9 hhalt
  have herror : ∃ e ∈ (idleToolRun.state 9).world.log, e.phase = .error := by decide +kernel
  rw [heq 9 le_rfl]
  cases houtcome : (idleToolRun.state 9).ended.outcome with
  | ok v =>
      obtain ⟨e, he, hphase⟩ := herror
      exact absurd hphase (hagreement.returned.mp ⟨v, houtcome⟩ e he)
  | error error =>
      obtain ⟨err, rfl, hblames, _⟩ := hagreement.raised error houtcome
      exact ⟨err, rfl, hblames⟩

end Workflow.Run
