import Mathlib.Algebra.BigOperators.Group.Finset.Basic
import Workflow.Proofs.Deeds

/-!
# Workflow.Proofs.History

The world of a run, as deeds have made it.

Every visit has a pile of executions that are open, and takes its own forward
only.  So the world of a run is made by deeds, each of one visit, with remarks of
the scheduler in between and a clock that goes on (`History`).

What is in the log and what is stored agree in the end because they agree after
every deed: an output is that of the last COMPLETE entry (`Mirrors`), and the
executions that have begun are those that are complete and those on the piles
(`History.tally`).
-/

namespace Workflow.Run

/-! ## Remarks of the scheduler -/

/-- Only remarks and records have been added. -/
structure Whisper (w v : World) : Prop where
  outputs : v.outputs = w.outputs
  state : v.state = w.state
  clock : v.clock = w.clock
  writes : v.writes = w.writes
  log : ∃ es, v.log = w.log ++ es ∧ ∀ e ∈ es, e.phase.isRemark = true

namespace Whisper

theorem refl (w : World) : Whisper w w := ⟨rfl, rfl, rfl, rfl, [], (List.append_nil _).symm, nofun⟩

/-- Adding records, and nothing else. -/
theorem records (w : World) (records : List Record) : Whisper w { w with records } :=
  ⟨rfl, rfl, rfl, rfl, [], (List.append_nil _).symm, nofun⟩

theorem note (w : World) (sink : Sink) (node : Value) (kind : String) {phase : Phase} (message : String)
    (payload : Value) (hphase : phase.isRemark = true) : Whisper w (w.note sink node kind phase message payload) := by
  refine ⟨rfl, rfl, rfl, rfl, [⟨node, kind, phase, message, payload, w.clock⟩], rfl, fun e he => ?_⟩
  rw [List.mem_singleton.mp he]
  exact hphase

theorem withRecords {w v : World} (h : Whisper w v) (records : List Record) : Whisper w { v with records } :=
  ⟨h.outputs, h.state, h.clock, h.writes, h.log⟩

end Whisper

/-! ## Histories -/

/-- From the world `w₀` on, deeds of visits have led to the given world, and to
the given piles of open executions. -/
inductive History (plan : Plan) (w₀ : World) : (Nat → List Node) → World → Prop
  | start : History plan w₀ (fun _ => []) w₀
  | deed {piles w t S v} : History plan w₀ piles w → Deed plan (piles t) w S v →
      History plan w₀ (Function.update piles t S) v
  | whisper {piles w v} : History plan w₀ piles w → Whisper w v → History plan w₀ piles v
  | tick {piles w clock} : History plan w₀ piles w → History plan w₀ piles { w with clock }

variable {plan : Plan} {w₀ w v u : World} {piles : Nat → List Node} {S T : List Node} {n : Node} {k : Key}

/-- One deed after the other, all of one visit. -/
theorem History.deeds {t : Nat} (h : History plan w₀ piles w) (hdeeds : Deeds plan (piles t) w S v) :
    History plan w₀ (Function.update piles t S) v := by
  generalize hT : piles t = T at hdeeds
  induction hdeeds with
  | refl =>
      rw [← hT, Function.update_eq_self]
      exact h
  | @tail T' u S v _ hlast ih =>
      have hdeed : Deed plan (Function.update piles t T' t) u S v := by
        rw [Function.update_self]
        exact hlast
      simpa only [Function.update_idem] using ih.deed hdeed

/-! ## What deeds log -/

/-- The entry says that an execution of the node of the key is complete. -/
def LogEntry.completes (k : Key) (e : LogEntry) : Bool := e.phase = .complete && e.node.key? = some k

/-- The entry says that an execution of the node of the key has begun. -/
def LogEntry.begins (k : Key) (e : LogEntry) : Bool := e.phase = .start && e.node.key? = some k

/-- How often the execution of a node has come to its end. -/
def World.completions (w : World) (k : Key) : Nat := w.log.countP (LogEntry.completes k)

theorem World.rounds_eq (w : World) (k : Key) : w.rounds k = w.log.countP (LogEntry.begins k) := rfl

theorem LogEntry.not_completes {e : LogEntry} (h : e.phase ≠ .complete) (k : Key) : e.completes k = false := by
  simp [LogEntry.completes, h]

theorem LogEntry.not_begins {e : LogEntry} (h : e.phase ≠ .start) (k : Key) : e.begins k = false := by
  simp [LogEntry.begins, h]

theorem Phase.ne_of_isRemark {phase : Phase} (h : phase.isRemark = true) :
    phase ≠ .start ∧ phase ≠ .complete ∧ phase ≠ .error := by
  refine ⟨?_, ?_, ?_⟩ <;> rintro rfl <;> cases h

theorem completes_completeEntry (n : Node) (output : Value) (elapsed time : Nat) (k : Key) :
    (completeEntry n output elapsed time).completes k = (n.id.key == k) := by
  simp [LogEntry.completes, completeEntry, n.id.key_eq, beq_eq_decide]

theorem begins_startEntry (n : Node) (time : Nat) (k : Key) : (startEntry n time).begins k = (n.id.key == k) := by
  simp [LogEntry.begins, startEntry, n.id.key_eq, beq_eq_decide]

/-- Deeds log no errors and leave the clock alone. -/
theorem Deed.log (h : Deed plan S w T v) :
    v.clock = w.clock ∧ ∃ es, v.log = w.log ++ es ∧ ∀ e ∈ es, e.phase ≠ .error := by
  cases h with
  | aside haside =>
      obtain ⟨es, hes, hremarks⟩ := haside.log
      exact ⟨haside.clock, es, hes, fun e he => (Phase.ne_of_isRemark (hremarks e he).1).2.2⟩
  | begin => exact ⟨rfl, _, rfl, fun e he => by cases List.mem_singleton.mp he; exact nofun⟩
  | complete => exact ⟨rfl, _, rfl, fun e he => by cases List.mem_singleton.mp he; exact nofun⟩
  | @revise _ _ _ n output _ _ hrevision =>
      obtain ⟨u, _, _, hremarked, _, _, _, _, rfl⟩ := hrevision.revised
      obtain ⟨es, hes, hremarks⟩ := hremarked.log
      refine ⟨hremarked.clock, [startEntry n w.clock] ++ es ++ [completeEntry n output 0 u.clock], ?_, fun e he => ?_⟩
      · change u.log ++ _ = _
        rw [hes, ← List.append_assoc, ← List.append_assoc]
        rfl
      · rcases List.mem_append.mp he with he | he
        · rcases List.mem_append.mp he with he | he
          · cases List.mem_singleton.mp he
            exact nofun
          · exact (Phase.ne_of_isRemark (hremarks e he).2.2).2.2
        · cases List.mem_singleton.mp he
          exact nofun

theorem Deeds.log (h : Deeds plan S w T v) :
    v.clock = w.clock ∧ ∃ es, v.log = w.log ++ es ∧ ∀ e ∈ es, e.phase ≠ .error := by
  induction h with
  | refl => exact ⟨rfl, [], (List.append_nil _).symm, nofun⟩
  | tail _ hlast ih =>
      obtain ⟨hclock, es, hes, hnone⟩ := ih
      obtain ⟨hclock', fs, hfs, hnone'⟩ := hlast.log
      refine ⟨hclock'.trans hclock, es ++ fs, ?_, fun e he => (List.mem_append.mp he).elim (hnone e) (hnone' e)⟩
      rw [hfs, hes, List.append_assoc]

/-- In the log of a history there are no errors but those that it began with. -/
theorem History.unblamed (h : History plan w₀ piles w) (hfirst : ∀ e ∈ w₀.log, e.phase ≠ .error) :
    ∀ e ∈ w.log, e.phase ≠ .error := by
  induction h with
  | start => exact hfirst
  | deed _ hdeed ih =>
      obtain ⟨_, es, hes, hnone⟩ := hdeed.log
      intro e he
      rw [hes] at he
      exact (List.mem_append.mp he).elim (ih e) (hnone e)
  | whisper _ hwhisper ih =>
      obtain ⟨es, hes, hremarks⟩ := hwhisper.log
      intro e he
      rw [hes] at he
      exact (List.mem_append.mp he).elim (ih e) fun he => (Phase.ne_of_isRemark (hremarks e he)).2.2
  | tick _ ih => exact ih

/-! ## Outputs and COMPLETE entries -/

/-- The last entry about a completed execution of a node. -/
def World.lastCompletion? (w : World) (k : Key) : Option LogEntry := (w.log.filter (LogEntry.completes k)).getLast?

/-- What is stored for a node is what the log says of its last execution. -/
structure Mirrors (w : World) : Prop where
  stored : ∀ k, Entries.get? w.outputs k = (w.lastCompletion? k).map LogEntry.output

namespace Mirrors

/-- Entries of other phases make no difference. -/
theorem other (h : Mirrors w) (houtputs : v.outputs = w.outputs) {es : List LogEntry} (hlog : v.log = w.log ++ es)
    (hes : ∀ e ∈ es, e.phase ≠ .complete) : Mirrors v := by
  refine ⟨fun k => ?_⟩
  have hnone : es.filter (LogEntry.completes k) = [] :=
    List.filter_eq_nil_iff.mpr fun e he => by simp [LogEntry.not_completes (hes e he) k]
  rw [houtputs, h.stored k]
  unfold World.lastCompletion?
  rw [hlog, List.filter_append, hnone, List.append_nil]

/-- An output is stored along with the entry about it. -/
theorem completed (h : Mirrors w) (plan : Plan) (n : Node) (output : Value) (elapsed : Nat) :
    Mirrors (w.completed plan n output elapsed) := by
  refine ⟨fun k => ?_⟩
  have hlog : (w.completed plan n output elapsed).log = w.log ++ [completeEntry n output elapsed w.clock] := rfl
  have houtputs : (w.completed plan n output elapsed).outputs = w.outputs.set n.id.value n.id.key output := rfl
  unfold World.lastCompletion?
  rw [hlog, houtputs, List.filter_append]
  by_cases hk : k = n.id.key
  · subst hk
    have hone : [completeEntry n output elapsed w.clock].filter (LogEntry.completes n.id.key) =
        [completeEntry n output elapsed w.clock] := by simp [completes_completeEntry]
    rw [hone, List.getLast?_concat, Entries.get?_set_same n.id.key_eq]
    rfl
  · have hnone : [completeEntry n output elapsed w.clock].filter (LogEntry.completes k) = [] := by
      simp [completes_completeEntry, Ne.symm hk]
    rw [hnone, List.append_nil, Entries.get?_set_other n.id.key_eq hk]
    exact h.stored k

theorem whisper (h : Mirrors w) (hwhisper : Whisper w v) : Mirrors v := by
  obtain ⟨es, hes, hremarks⟩ := hwhisper.log
  exact h.other hwhisper.outputs hes fun e he => (Phase.ne_of_isRemark (hremarks e he)).2.1

theorem deed (h : Mirrors w) (hdeed : Deed plan S w T v) : Mirrors v := by
  cases hdeed with
  | aside haside =>
      obtain ⟨es, hes, hremarks⟩ := haside.log
      exact h.other haside.outputs hes fun e he => (Phase.ne_of_isRemark (hremarks e he).1).2.1
  | begin => exact h.other rfl rfl fun e he => by cases List.mem_singleton.mp he; exact nofun
  | complete => exact h.completed ..
  | @revise _ _ _ n _ _ _ hrevision =>
      obtain ⟨u, _, _, hremarked, _, _, _, _, rfl⟩ := hrevision.revised
      obtain ⟨es, hes, hremarks⟩ := hremarked.log
      have hbegun : Mirrors (w.begun plan n) :=
        h.other rfl rfl fun e he => by cases List.mem_singleton.mp he; exact nofun
      exact (hbegun.other hremarked.outputs hes fun e he => (Phase.ne_of_isRemark (hremarks e he).2.2).2.1).completed ..

theorem deeds (h : Mirrors w) (hdeeds : Deeds plan S w T v) : Mirrors v :=
  hdeeds.induct (I := fun _ w => Mirrors w) (fun hdeed h => h.deed hdeed) h

theorem lapse {f : Failure} (h : Mirrors w) (hlapse : Lapse w v f) : Mirrors v := by
  obtain ⟨es, hes, hlog, _⟩ := hlapse.log
  exact h.other hlapse.outputs hes fun e he => (hlog e he).1

end Mirrors

/-! ## Executions that have begun -/

/-- How often a node is on a pile. -/
def openings (k : Key) (S : List Node) : Nat := S.countP fun n => n.id.key == k

/-- How often a node is on the piles of the first tasks. -/
def openingsOf (k : Key) (piles : Nat → List Node) (tasks : Nat) : Nat := ∑ t ∈ Finset.range tasks, openings k (piles t)

theorem openingsOf_update {t tasks : Nat} (ht : t < tasks) (S : List Node) :
    openingsOf k (Function.update piles t S) tasks + openings k (piles t) = openingsOf k piles tasks + openings k S := by
  have hmem := Finset.mem_range.mpr ht
  unfold openingsOf
  rw [← Finset.add_sum_erase _ _ hmem, ← Finset.add_sum_erase _ (fun t => openings k (piles t)) hmem,
    Function.update_self, Finset.sum_congr rfl fun u hu => by rw [Function.update_of_ne (Finset.ne_of_mem_erase hu)]]
  omega

/-- Remarks do not tell of executions. -/
theorem tally_of_remarks {es : List LogEntry} (hlog : v.log = w.log ++ es) (hes : ∀ e ∈ es, e.phase.isRemark = true)
    (k : Key) : v.rounds k = w.rounds k ∧ v.completions k = w.completions k := by
  have hbegins : es.countP (LogEntry.begins k) = 0 := List.countP_eq_zero.mpr fun e he => by
    simp [LogEntry.not_begins (Phase.ne_of_isRemark (hes e he)).1 k]
  have hcompletes : es.countP (LogEntry.completes k) = 0 := List.countP_eq_zero.mpr fun e he => by
    simp [LogEntry.not_completes (Phase.ne_of_isRemark (hes e he)).2.1 k]
  unfold World.completions
  rw [World.rounds_eq, World.rounds_eq, hlog, List.countP_append, List.countP_append, hbegins, hcompletes]
  exact ⟨rfl, rfl⟩

theorem tally_begun (plan : Plan) (w : World) (n : Node) (k : Key) :
    (w.begun plan n).rounds k = w.rounds k + (n.id.key == k).toNat ∧
    (w.begun plan n).completions k = w.completions k := by
  have hlog : (w.begun plan n).log = w.log ++ [startEntry n w.clock] := rfl
  have hcompletes : (startEntry n w.clock).completes k = false := LogEntry.not_completes Phase.noConfusion k
  unfold World.completions
  rw [World.rounds_eq, World.rounds_eq, hlog, List.countP_append, List.countP_append, List.countP_singleton,
    List.countP_singleton, begins_startEntry, hcompletes]
  refine ⟨congrArg _ ?_, rfl⟩
  cases n.id.key == k <;> rfl

theorem tally_completed (plan : Plan) (w : World) (n : Node) (output : Value) (elapsed : Nat) (k : Key) :
    (w.completed plan n output elapsed).rounds k = w.rounds k ∧
    (w.completed plan n output elapsed).completions k = w.completions k + (n.id.key == k).toNat := by
  have hlog : (w.completed plan n output elapsed).log = w.log ++ [completeEntry n output elapsed w.clock] := rfl
  have hbegins : (completeEntry n output elapsed w.clock).begins k = false := LogEntry.not_begins Phase.noConfusion k
  unfold World.completions
  rw [World.rounds_eq, World.rounds_eq, hlog, List.countP_append, List.countP_append, List.countP_singleton,
    List.countP_singleton, completes_completeEntry, hbegins]
  refine ⟨rfl, congrArg _ ?_⟩
  cases n.id.key == k <;> rfl

theorem openings_cons (n : Node) (S : List Node) (k : Key) :
    openings k (n :: S) = openings k S + (n.id.key == k).toNat := by
  unfold openings
  rw [List.countP_cons]
  cases n.id.key == k <;> rfl

/-- A deed begins as many executions as it opens or ends. -/
theorem Deed.tally (h : Deed plan S w T v) (k : Key) :
    v.rounds k + w.completions k + openings k S = w.rounds k + v.completions k + openings k T := by
  cases h with
  | aside haside =>
      obtain ⟨es, hes, hremarks⟩ := haside.log
      obtain ⟨hrounds, hcompletions⟩ := tally_of_remarks hes (fun e he => (hremarks e he).1) k
      omega
  | @begin _ _ n =>
      obtain ⟨hrounds, hcompletions⟩ := tally_begun plan w n k
      rw [hrounds, hcompletions, openings_cons]
      omega
  | @complete _ _ n output elapsed =>
      obtain ⟨hrounds, hcompletions⟩ := tally_completed plan w n output elapsed k
      rw [hrounds, hcompletions, openings_cons]
      omega
  | @revise _ _ _ n output _ _ hrevision =>
      obtain ⟨u, _, _, hremarked, _, _, _, _, rfl⟩ := hrevision.revised
      obtain ⟨es, hes, hremarks⟩ := hremarked.log
      obtain ⟨hrounds, hcompletions⟩ := tally_begun plan w n k
      obtain ⟨hrounds', hcompletions'⟩ := tally_of_remarks hes (fun e he => (hremarks e he).2.2) k
      obtain ⟨hrounds'', hcompletions''⟩ := tally_completed plan u n output 0 k
      omega

/-- Of every node as many executions have begun as are complete or still open. -/
theorem History.tally (h : History plan w₀ piles w) (k : Key) :
    ∃ bound, ∀ tasks, bound ≤ tasks → (∀ t, tasks ≤ t → piles t = []) ∧
      w.rounds k + w₀.completions k = w₀.rounds k + w.completions k + openingsOf k piles tasks := by
  induction h with
  | start => exact ⟨0, fun tasks _ => ⟨fun _ _ => rfl, by simp [openingsOf, openings, Nat.add_comm]⟩⟩
  | @deed piles w t S v _ hdeed ih =>
      obtain ⟨bound, ih⟩ := ih
      refine ⟨max bound (t + 1), fun tasks hle => ?_⟩
      obtain ⟨hempty, htally⟩ := ih tasks (le_of_max_le_left hle)
      have ht : t < tasks := le_of_max_le_right hle
      refine ⟨fun u hu => ?_, ?_⟩
      · rw [Function.update_of_ne (Nat.ne_of_gt (Nat.lt_of_lt_of_le ht hu))]
        exact hempty u hu
      · have hdeed := hdeed.tally k
        have hupdate : openingsOf k (Function.update piles t S) tasks + openings k (piles t) =
            openingsOf k piles tasks + openings k S := openingsOf_update ht S
        omega
  | @whisper piles w v _ hwhisper ih =>
      obtain ⟨es, hes, hremarks⟩ := hwhisper.log
      obtain ⟨hrounds, hcompletions⟩ := tally_of_remarks hes hremarks k
      rw [hrounds, hcompletions]
      exact ih
  | tick _ ih => exact ih

/-- Where nothing is open, as many executions have begun as are complete. -/
theorem History.settled (h : History plan w₀ (fun _ => []) w) (hfirst : w₀.log = []) (k : Key) :
    w.rounds k = w.completions k := by
  obtain ⟨bound, htally⟩ := h.tally k
  obtain ⟨_, htally⟩ := htally bound le_rfl
  have hrounds : w₀.rounds k = 0 := by rw [World.rounds_eq, hfirst]; rfl
  have hcompletions : w₀.completions k = 0 := by unfold World.completions; rw [hfirst]; rfl
  have hopenings : openingsOf k (fun _ => []) bound = 0 := by simp [openingsOf, openings]
  omega

end Workflow.Run
