import Workflow.Proofs.Awaited
import Workflow.Run.Runner

/-!
# Workflow.Proofs.Errands

A computation by itself, and the tool calls it has made side by side.

Services that only remember what they have been asked (`remember`) answer the k-th
question in any way and after any while.  Between two waits of the computation the
machine does nothing else (`Poised`).

An `Errand` is a tool call with what is asked for it and what it comes to.  All
errands of a computation are begun before one of them ends, each of them once and in
order.  They end in any order, and their values are put together in the order in which
they were called (`Poised.gather`).
-/

namespace Workflow.Run

/-! ## Services that remember -/

/-- Takes a call as the answers say for a call of its number, and remembers it. -/
def remember (answers : Nat → Nat → Call → Served) (asked : List Call) (time : Nat) (c : Call) : List Call × Served :=
  (asked ++ [c], answers asked.length time c)

/-- Time has passed, and records have been added. -/
def World.Elapsed (w v : World) : Prop := ∃ records clock, v = { w with records, clock }

namespace World.Elapsed

theorem refl (w : World) : w.Elapsed w := ⟨w.records, w.clock, rfl⟩

theorem trans {u v w : World} (h₁ : u.Elapsed v) (h₂ : v.Elapsed w) : u.Elapsed w := by
  obtain ⟨_, _, rfl⟩ := h₁
  obtain ⟨records, clock, rfl⟩ := h₂
  exact ⟨records, clock, rfl⟩

end World.Elapsed

namespace Machine

/-! ## Steps in a row -/

section

variable {σ : Type} {s : Setup σ} {m m' m'' : Machine σ}

/-- After some steps the machine is another one. -/
def Leads (s : Setup σ) (m m' : Machine σ) : Prop := ∃ k, ∀ fuel, run s (k + fuel) m = run s fuel m'

theorem Leads.refl (s : Setup σ) (m : Machine σ) : Leads s m m := ⟨0, fun fuel => by rw [Nat.zero_add]⟩

theorem Leads.trans (h₁ : Leads s m m') (h₂ : Leads s m' m'') : Leads s m m'' := by
  obtain ⟨k₁, h₁⟩ := h₁
  obtain ⟨k₂, h₂⟩ := h₂
  refine ⟨k₁ + k₂, fun fuel => ?_⟩
  rw [Nat.add_assoc, h₁, h₂]

theorem leads_of_step (h : step s m = some m') : Leads s m m' := by
  refine ⟨1, fun fuel => ?_⟩
  rw [Nat.add_comm, run, h]

/-- What comes first in the queue is handled. -/
theorem leads_handle {e : Event} {rest : List Event} (houtcome : m.outcome = none) (hready : m.ready = e :: rest) :
    Leads s m (handle s { m with ready := rest } e) := by
  refine leads_of_step ?_
  unfold step
  simp [houtcome, hready]

/-- With an empty queue the earliest sleeper is woken. -/
theorem leads_wake {x : Sleeper} {rest : List Sleeper} (houtcome : m.outcome = none) (hready : m.ready = [])
    (hearliest : earliest m.sleepers = some (x, rest)) :
    Leads s m (handle s { m with sleepers := rest, world := { m.world with clock := x.time } } (.answer x.task x.outcome)) := by
  refine leads_of_step ?_
  unfold step
  simp [houtcome, hready, hearliest]

/-- Once the machine has come to an outcome nothing more happens. -/
theorem Leads.halts (h : Leads s m m') (houtcome : m'.outcome.isSome = true) : ∃ N, ∀ fuel ≥ N, run s fuel m = m' := by
  obtain ⟨k, h⟩ := h
  have hhalt : ∀ fuel, run s fuel m' = m' := by
    intro fuel
    cases fuel with
    | zero => rfl
    | succ fuel =>
        have hstep : step s m' = none := by
          unfold step
          rw [if_pos houtcome]
        rw [run, hstep]
  refine ⟨k, fun fuel hfuel => ?_⟩
  obtain ⟨more, rfl⟩ := Nat.exists_eq_add_of_le hfuel
  rw [h, hhalt]

end

/-! ## Errands -/

/-- A tool call, what is asked for it, and what it comes to. -/
structure Errand where
  task : ToolTask
  call : Call
  value : Value

/-- As long as nothing but time passes the tool call begins by asking this, and the
answer to the question of that number, whenever it is asked, comes to the value. -/
structure Errand.Succeeds (answers : Nat → Nat → Call → Served) (w : World) (number : Nat) (e : Errand) : Prop where
  start : ∀ v, w.Elapsed v → ∃ records, e.task.start v = ({ v with records }, .ok e.call)
  finish : ∀ time, ((answers number time e.call).outcome >>= e.task.finish) = .ok e.value

/-- The value of an errand. -/
def valueAt (errands : List Errand) (i : Nat) : Value := (errands[i]?.map Errand.value).getD .null

/-- The results that have come in, while those of the given errands are awaited. -/
def slotsOf (errands : List Errand) (awaited : List Nat) : List (Option Value) :=
  errands.mapIdx fun i e => if i ∈ awaited then none else some e.value

theorem slotsOf_set {errands : List Errand} {i : Nat} {awaited : List Nat} (hi : i ∉ awaited) :
    (slotsOf errands (i :: awaited)).set i (some (valueAt errands i)) = slotsOf errands awaited := by
  refine List.ext_getElem? fun j => ?_
  rw [List.getElem?_set, slotsOf, slotsOf, List.getElem?_mapIdx, List.getElem?_mapIdx, List.length_mapIdx]
  by_cases hij : i = j
  · subst hij
    cases he : errands[i]? with
    | none =>
        have hlen : ¬ i < errands.length := by simpa using he
        simp [hlen]
    | some e =>
        obtain ⟨hlen, hvalue⟩ := List.getElem?_eq_some_iff.mp he
        simp [hlen, hi, valueAt, hvalue]
  · simp [hij, Ne.symm hij]

theorem slotsOf_congr {errands : List Errand} {awaited awaited' : List Nat} (h : ∀ i, i ∈ awaited ↔ i ∈ awaited') :
    slotsOf errands awaited = slotsOf errands awaited' := by
  simp only [slotsOf, h]

/-- All results have come in. -/
theorem filled?_slotsOf_nil (errands : List Errand) : filled? (slotsOf errands []) = some (errands.map Errand.value) := by
  have hslots : slotsOf errands [] = (errands.map Errand.value).map some := by
    refine List.ext_getElem? fun i => ?_
    cases he : errands[i]? <;> simp [slotsOf, he]
  rw [hslots, filled?]
  induction errands.map Errand.value with
  | nil => rfl
  | cons v vs ih => simp [List.mapM_cons, ih]

theorem filled?_of_mem {slots : List (Option Value)} (h : none ∈ slots) : filled? slots = none := by
  unfold filled?
  induction slots with
  | nil => cases h
  | cons slot slots ih =>
      rw [List.mapM_cons]
      cases slot with
      | none => rfl
      | some v =>
          have hrest : none ∈ slots := by simpa using h
          simp [ih hrest]

/-- A result that is awaited is missing. -/
theorem filled?_slotsOf {errands : List Errand} {awaited : List Nat} {i : Nat} (hi : i ∈ awaited)
    (hlt : i < errands.length) : filled? (slotsOf errands awaited) = none := by
  refine filled?_of_mem (List.mem_of_getElem? (i := i) ?_)
  rw [slotsOf, List.getElem?_mapIdx, List.getElem?_eq_getElem hlt]
  simp [hi]

/-! ## Errands under way -/

/-- A tool call begins and asks its question.  If the answer is there at once, it ends. -/
theorem leads_start {σ : Type} {s : Setup σ} {m : Machine σ} {rest : List Event} {t p i : Nat} {task : ToolTask}
    {stage : Stage} {w : World} {c : Call} {services : σ} {served : Served} (houtcome : m.outcome = none)
    (hready : m.ready = .start t :: rest) (htask : m.tasks[t]? = some ⟨.tool p i task, stage⟩)
    (hstart : task.start m.world = (w, .ok c)) (hserved : s.serve m.services w.clock c = (services, served)) :
    Leads s m
      (let m' := { m with ready := rest, world := { w with records := w.records ++ served.records }, services }
      if served.delay = 0 then m'.settle t p i (served.outcome >>= task.finish)
      else m'.sleep t served.delay served.outcome) := by
  have hlead := leads_handle (s := s) houtcome hready
  simp only [handle, htask, beginTool, hstart, hserved] at hlead
  exact hlead

variable {s : Setup (List Call)} {m : Machine (List Call)} {answers : Nat → Nat → Call → Served} {work : Work Value}
  {next : Except Problem (List Value) → World → Step Value} {errands : List Errand} {w : World} {b : Nat}
  {starting settled : List Nat}

/-- The errands whose results are still to come in: those that are to begin, those
whose end is about to be told, and those that wait for an answer. -/
def awaited (b : Nat) (starting settled : List Nat) (m : Machine (List Call)) : List Nat :=
  starting ++ settled ++ m.sleepers.map fun x => x.task - b

/-- The computation waits for its errands, whose tasks are those from the `b`-th on.
The queue holds the errands that are to begin, and then the ends of others. -/
structure Gathering (work : Work Value) (next : Except Problem (List Value) → World → Step Value) (w : World)
    (errands : List Errand) (b : Nat) (starting settled : List Nat) (m : Machine (List Call)) : Prop where
  running : m.outcome = none
  elapsed : w.Elapsed m.world
  parent : m.tasks[0]? = some ⟨.whole work, .gathering (slotsOf errands (awaited b starting settled m)) next⟩
  tasks : 0 < b ∧ ∀ i e, errands[i]? = some e → ∃ stage, m.tasks[b + i]? = some ⟨.tool 0 i e.task, stage⟩
  ready : m.ready = starting.map (fun i => .start (b + i)) ++
    settled.map fun i => .settled 0 i (.ok (valueAt errands i))
  sleepers : ∀ x ∈ m.sleepers, ∃ i e, errands[i]? = some e ∧ x.task = b + i ∧ (x.outcome >>= e.task.finish) = .ok e.value
  nodup : (awaited b starting settled m).Nodup
  lt : ∀ i ∈ awaited b starting settled m, i < errands.length

namespace Gathering

/-- What has been said of a machine holds of another one that awaits the same errands,
if it has been said of its queue and its sleepers as well. -/
theorem move {starting' settled' : List Nat} {m' : Machine (List Call)}
    (h : Gathering work next w errands b starting settled m)
    (hperm : (awaited b starting' settled' m').Perm (awaited b starting settled m)) (hrunning : m'.outcome = none)
    (helapsed : m.world.Elapsed m'.world)
    (htasks : m'.tasks = m.tasks ∨ ∃ i, m'.tasks = (m.setStage (b + i) .over).tasks)
    (hready : m'.ready = starting'.map (fun i => .start (b + i)) ++
      settled'.map fun i => .settled 0 i (.ok (valueAt errands i)))
    (hsleepers : ∀ x ∈ m'.sleepers, ∃ i e, errands[i]? = some e ∧ x.task = b + i ∧
      (x.outcome >>= e.task.finish) = .ok e.value) : Gathering work next w errands b starting' settled' m' := by
  obtain ⟨hb, hchildren⟩ := h.tasks
  have hparent : m'.tasks[0]? = m.tasks[0]? := by
    obtain htasks | ⟨i, htasks⟩ := htasks
    · rw [htasks]
    · rw [htasks, getElem?_setStage, if_neg (by omega)]
  refine ⟨hrunning, h.elapsed.trans helapsed, ?_, ⟨hb, fun j e he => ?_⟩, hready, hsleepers, hperm.nodup_iff.mpr h.nodup,
    fun j hj => h.lt j (hperm.mem_iff.mp hj)⟩
  · rw [hparent, h.parent, slotsOf_congr fun j => hperm.mem_iff.symm]
  · obtain ⟨stage, hstage⟩ := hchildren j e he
    obtain htasks | ⟨i, htasks⟩ := htasks
    · exact ⟨stage, by rw [htasks, hstage]⟩
    · rw [htasks, getElem?_setStage, hstage]
      split
      · exact ⟨.over, rfl⟩
      · exact ⟨stage, rfl⟩

/-- The next errand begins.  Its question is the next one that is asked. -/
theorem begin {i : Nat} {e : Errand} (h : Gathering work next w errands b (i :: starting) settled m)
    (hserve : s.serve = remember answers) (he : errands[i]? = some e)
    (hsucceeds : e.Succeeds answers w m.services.length) :
    ∃ settled' m', Leads s m m' ∧ Gathering work next w errands b starting settled' m' ∧
      (awaited b starting settled' m').Perm (awaited b (i :: starting) settled m) ∧
      m'.services = m.services ++ [e.call] := by
  obtain ⟨stage, htask⟩ := h.tasks.2 i e he
  have hready := h.ready
  rw [List.map_cons, List.cons_append] at hready
  obtain ⟨records, hstart⟩ := hsucceeds.start _ h.elapsed
  have hfinish := hsucceeds.finish m.world.clock
  have hvalue : valueAt errands i = e.value := by simp [valueAt, he]
  have hserved : s.serve m.services m.world.clock e.call =
      (m.services ++ [e.call], answers m.services.length m.world.clock e.call) := by rw [hserve, remember]
  generalize answers m.services.length m.world.clock e.call = served at hfinish hserved
  have hlead := leads_start h.running hready htask hstart hserved
  by_cases hdelay : served.delay = 0
  · rw [if_pos hdelay, hfinish, ← hvalue] at hlead
    have hperm : (starting ++ (settled ++ [i]) ++ m.sleepers.map fun x => x.task - b).Perm
        (awaited b (i :: starting) settled m) := by
      simp only [awaited]
      grind
    refine ⟨settled ++ [i], _, hlead, h.move hperm h.running ⟨_, _, rfl⟩ (.inr ⟨i, rfl⟩) ?_ h.sleepers, hperm, rfl⟩
    simp [settle, push, setStage]
  · rw [if_neg hdelay] at hlead
    have hperm : (starting ++ settled ++
        (m.sleepers ++ [Sleeper.mk (m.world.clock + served.delay) (b + i) served.outcome]).map fun x => x.task - b).Perm
        (awaited b (i :: starting) settled m) := by
      simp only [awaited, List.map_append, List.map_cons, List.map_nil, Nat.add_sub_cancel_left]
      grind
    refine ⟨settled, _, hlead, h.move hperm h.running ⟨_, _, rfl⟩ (.inl rfl) rfl fun x hx => ?_, hperm, rfl⟩
    rcases List.mem_append.mp hx with hx | hx
    · exact h.sleepers x hx
    · rw [List.mem_singleton.mp hx]
      exact ⟨i, e, he, rfl, hfinish⟩

/-- All errands begin, and each of them asks its question once. -/
theorem begin_all {asked : List Call} {n i : Nat} (h : Gathering work next w errands b (List.range' i n) settled m)
    (hserve : s.serve = remember answers) (hlen : i + n = errands.length)
    (hservices : m.services = asked ++ (errands.take i).map Errand.call)
    (hsucceeds : ∀ (j : Nat) (e : Errand), errands[j]? = some e → e.Succeeds answers w (asked.length + j)) :
    ∃ settled' m', Leads s m m' ∧ Gathering work next w errands b [] settled' m' ∧
      (awaited b [] settled' m').Perm (awaited b (List.range' i n) settled m) ∧
      m'.services = asked ++ errands.map Errand.call := by
  induction n generalizing i settled m with
  | zero =>
      refine ⟨settled, m, .refl s m, h, .refl _, ?_⟩
      rw [hservices, List.take_of_length_le (by omega)]
  | succ n ih =>
      rw [List.range'_succ] at h
      have hi : i < errands.length := by omega
      have he : errands[i]? = some errands[i] := List.getElem?_eq_getElem hi
      have hnumber : m.services.length = asked.length + i := by
        rw [hservices, List.length_append, List.length_map, List.length_take, Nat.min_eq_left hi.le]
      obtain ⟨settled₁, m₁, hlead₁, h₁, hperm₁, hservices₁⟩ := h.begin hserve he (hnumber ▸ hsucceeds i _ he)
      have hasked : m₁.services = asked ++ (errands.take (i + 1)).map Errand.call := by
        rw [hservices₁, hservices, List.append_assoc, List.take_add_one, List.map_append, he]
        rfl
      obtain ⟨settled', m', hlead', h', hperm', hservices'⟩ := ih h₁ (by omega) hasked
      rw [List.range'_succ]
      exact ⟨settled', m', hlead₁.trans hlead', h', hperm'.trans hperm₁, hservices'⟩

/-- The errand whose answer comes first ends. -/
theorem wake {x : Sleeper} {rest : List Sleeper} (h : Gathering work next w errands b [] [] m)
    (hearliest : earliest m.sleepers = some (x, rest)) :
    ∃ i m', Leads s m m' ∧ Gathering work next w errands b [] [i] m' ∧ m'.sleepers = rest ∧
      m'.services = m.services := by
  have hperm := earliest_perm hearliest
  obtain ⟨i, e, he, htask, hfinish⟩ := h.sleepers x (hperm.mem_iff.mpr List.mem_cons_self)
  obtain ⟨stage, hstage⟩ := h.tasks.2 i e he
  have hvalue : valueAt errands i = e.value := by simp [valueAt, he]
  have hlead := leads_wake (s := s) h.running h.ready hearliest
  simp only [handle, htask, hstage, hfinish] at hlead
  refine ⟨i, _, hlead, h.move ?_ h.running ⟨_, _, rfl⟩ (.inr ⟨i, rfl⟩) ?_ fun y hy => ?_, rfl, rfl⟩
  · have hmap := (hperm.map fun y => y.task - b).symm
    rw [List.map_cons, htask, Nat.add_sub_cancel_left] at hmap
    exact hmap
  · simp [settle, push, setStage, h.ready, hvalue]
  · exact h.sleepers y (hperm.mem_iff.mpr (List.mem_cons_of_mem _ hy))

/-- What the machine does with the end of an errand. -/
theorem leads_settled {i : Nat} (h : Gathering work next w errands b [] (i :: settled) m) :
    Leads s m
      (let m' := { m with ready := settled.map fun j => .settled 0 j (.ok (valueAt errands j)) }
      let slots := slotsOf errands (awaited b [] settled m)
      match filled? slots with
      | some vs => proceed s 0 (next (.ok vs) m.world) m'
      | none => m'.setStage 0 (.gathering slots next)) := by
  have hi : i ∉ awaited b [] settled m := (List.nodup_cons.mp h.nodup).1
  have hslots : (slotsOf errands (awaited b [] (i :: settled) m)).set i (some (valueAt errands i)) =
      slotsOf errands (awaited b [] settled m) := slotsOf_set hi
  have hlead := leads_handle (s := s) h.running h.ready
  simp only [handle, h.parent, hslots] at hlead
  exact hlead

/-- An errand has ended while others have not: its value is kept. -/
theorem keep {i : Nat} (h : Gathering work next w errands b [] (i :: settled) m)
    (hothers : awaited b [] settled m ≠ []) :
    ∃ m', Leads s m m' ∧ Gathering work next w errands b [] settled m' ∧ m'.sleepers = m.sleepers ∧
      m'.services = m.services := by
  obtain ⟨hb, hchildren⟩ := h.tasks
  obtain ⟨j, hj⟩ := List.exists_mem_of_ne_nil _ hothers
  have hlead := h.leads_settled (s := s)
  simp only [filled?_slotsOf hj (h.lt j (List.mem_cons_of_mem _ hj))] at hlead
  refine ⟨_, hlead, ⟨h.running, h.elapsed, ?_, ⟨hb, fun k e he => ?_⟩, rfl, h.sleepers, (List.nodup_cons.mp h.nodup).2,
    fun k hk => h.lt k (List.mem_cons_of_mem _ hk)⟩, rfl, rfl⟩
  · rw [getElem?_setStage, if_pos rfl, h.parent]
    rfl
  · rw [getElem?_setStage, if_neg (by omega)]
    exact hchildren k e he

end Gathering

/-- The computation that is the machine's only task is carried on, and nothing else is going on. -/
structure Poised (work : Work Value) (asked : List Call) (m : Machine (List Call)) : Prop where
  running : m.outcome = none
  task : ∃ stage, m.tasks[0]? = some ⟨.whole work, stage⟩
  ready : m.ready = []
  sleepers : m.sleepers = []
  services : m.services = asked

/-- Once all errands have begun all of them end, and the computation gets their values
in the order in which they were called. -/
theorem Gathering.finish {n : Nat} (hn : 2 * m.sleepers.length + settled.length ≤ n)
    (h : Gathering work next w errands b [] settled m) (hsome : awaited b [] settled m ≠ []) :
    ∃ w' m', Leads s m (proceed s 0 (next (.ok (errands.map Errand.value)) w') m') ∧ w.Elapsed w' ∧
      Poised work m.services m' := by
  induction n generalizing settled m with
  | zero =>
      refine absurd ?_ hsome
      rw [awaited, List.length_eq_zero_iff.mp (by omega : m.sleepers.length = 0),
        List.length_eq_zero_iff.mp (by omega : settled.length = 0)]
      rfl
  | succ n ih =>
      cases settled with
      | nil =>
          cases hearliest : earliest m.sleepers with
          | none =>
              rw [awaited, earliest_none hearliest] at hsome
              exact absurd rfl hsome
          | some found =>
              obtain ⟨x, rest⟩ := found
              have hlen := (earliest_perm hearliest).length_eq
              obtain ⟨i, m₁, hlead₁, h₁, hsleepers, hservices⟩ := h.wake (s := s) hearliest
              rw [List.length_cons] at hlen
              obtain ⟨w', m', hlead, helapsed, hpoised⟩ :=
                ih (by rw [hsleepers, List.length_singleton]; simp only [List.length_nil] at hn; omega) h₁ (by simp [awaited])
              exact ⟨w', m', hlead₁.trans hlead, helapsed, hservices ▸ hpoised⟩
      | cons i settled =>
          by_cases hothers : awaited b [] settled m = []
          · have hlead := h.leads_settled (s := s)
            rw [hothers] at hlead
            simp only [filled?_slotsOf_nil] at hlead
            obtain ⟨rfl, hsleepers⟩ : settled = [] ∧ m.sleepers = [] := by simpa [awaited] using hothers
            exact ⟨_, _, hlead, h.elapsed, h.running, ⟨_, h.parent⟩, rfl, hsleepers, rfl⟩
          · obtain ⟨m₁, hlead₁, h₁, hsleepers, hservices⟩ := h.keep (s := s) hothers
            rw [List.length_cons] at hn
            obtain ⟨w', m', hlead, helapsed, hpoised⟩ := ih (by rw [hsleepers]; omega) h₁ (by
              rw [awaited, hsleepers]; exact hothers)
            exact ⟨w', m', hlead₁.trans hlead, helapsed, hservices ▸ hpoised⟩

/-! ## Between two waits -/

namespace Poised

/-- A question is asked, and some time later the computation goes on with the answer. -/
theorem call {asked : List Call} {c : Call} {k : Except Problem Reply → World → Step Value}
    {outcome : Except Problem Reply} (h : Poised work asked m) (hserve : s.serve = remember answers)
    (hanswer : ∀ time, (answers asked.length time c).outcome = outcome) :
    ∃ w' m', Leads s (proceed s 0 (.call w c k) m) (proceed s 0 (k outcome w') m') ∧ w.Elapsed w' ∧
      Poised work (asked ++ [c]) m' := by
  obtain ⟨stage, htask⟩ := h.task
  have houtcome := hanswer w.clock
  have hserved : s.serve m.services w.clock c = (asked ++ [c], answers asked.length w.clock c) := by
    rw [hserve, h.services, remember]
  generalize answers asked.length w.clock c = served at hserved houtcome
  rw [proceed]
  simp only [hserved]
  by_cases hdelay : served.delay = 0
  · rw [if_pos hdelay, houtcome]
    exact ⟨_, _, .refl .., ⟨_, _, rfl⟩, h.running, h.task, h.ready, h.sleepers, rfl⟩
  · rw [if_neg hdelay]
    generalize hslept : setStage (sleep _ 0 served.delay served.outcome) 0 (.calling k) = slept
    have hstage : slept.tasks[0]? = some ⟨.whole work, .calling k⟩ := by
      rw [← hslept, getElem?_setStage, if_pos rfl, sleep, htask]
      rfl
    have hearliest : earliest slept.sleepers = some (⟨w.clock + served.delay, 0, outcome⟩, []) := by
      rw [← hslept, ← houtcome, setStage, sleep, h.sleepers]
      rfl
    have hlead := leads_wake (s := s) (by rw [← hslept]; exact h.running) (by rw [← hslept]; exact h.ready) hearliest
    simp only [handle, hstage] at hlead
    refine ⟨_, _, hlead, ?_, ?_, ⟨_, hstage⟩, ?_, rfl, ?_⟩
    all_goals rw [← hslept]
    · exact ⟨_, _, rfl⟩
    · exact h.running
    · exact h.ready
    · rfl

/-- The computation has called its errands, and none of them has begun. -/
theorem gathering {asked : List Call} {k : Except Problem (List Value) → World → Step Value} (h : Poised work asked m) :
    Gathering work k w errands m.tasks.length (List.range' 0 errands.length) []
      (addTasks (setStage { m with world := w } 0 (.gathering (errands.map fun _ => none) k))
        (errands.mapIdx fun i e => .tool 0 i e.task)) := by
  obtain ⟨stage, htask⟩ := h.task
  have hb : 0 < m.tasks.length := (List.getElem?_eq_some_iff.mp htask).1
  generalize hm' : addTasks _ (errands.mapIdx fun i e => Job.tool 0 i e.task) = m'
  have hsleepers : m'.sleepers = [] := by rw [← hm', addTasks, setStage, h.sleepers]
  have hawaited : awaited m.tasks.length (List.range' 0 errands.length) [] m' = List.range' 0 errands.length := by
    rw [awaited, hsleepers, List.map_nil, List.append_nil, List.append_nil]
  refine ⟨by rw [← hm']; exact h.running, by rw [← hm']; exact .refl w, ?_, ⟨hb, fun i e he => ⟨.queued, ?_⟩⟩, ?_,
    by simp [hsleepers], by rw [hawaited]; exact List.nodup_range' .., fun i hi => ?_⟩
  · have hslots : slotsOf errands (List.range' 0 errands.length) = errands.map fun _ => none := by
      refine List.ext_getElem (by simp [slotsOf]) fun i hi _ => ?_
      have hlt : i < errands.length := by simpa [slotsOf] using hi
      simp [slotsOf, hlt]
    rw [hawaited, hslots, ← hm', getElem?_addTasks, if_pos (by rwa [length_setStage]), getElem?_setStage, if_pos rfl]
    simp only [htask, Option.map_some]
  · rw [← hm', getElem?_addTasks, length_setStage, if_neg (by simp)]
    simp [he]
  · rw [← hm', addTasks, List.length_mapIdx, length_setStage, ← List.range_eq_range']
    simp [setStage, h.ready]
  · rw [hawaited] at hi
    simpa using hi

/-- Errands are begun all at once.  The computation goes on once the last one has ended. -/
theorem gather {asked : List Call} {k : Except Problem (List Value) → World → Step Value} (h : Poised work asked m)
    (hserve : s.serve = remember answers) (hsome : errands ≠ [])
    (hsucceeds : ∀ (j : Nat) (e : Errand), errands[j]? = some e → e.Succeeds answers w (asked.length + j)) :
    ∃ w' m', Leads s (proceed s 0 (.tools w (errands.map Errand.task) k) m)
        (proceed s 0 (k (.ok (errands.map Errand.value)) w') m') ∧ w.Elapsed w' ∧
      Poised work (asked ++ errands.map Errand.call) m' := by
  have hproceed : proceed s 0 (.tools w (errands.map Errand.task) k) m =
      addTasks (setStage { m with world := w } 0 (.gathering (errands.map fun _ => none) k))
        (errands.mapIdx fun i e => .tool 0 i e.task) := by
    have hjobs : (errands.map Errand.task).mapIdx (fun i task => Job.tool 0 i task) =
        errands.mapIdx fun i e => .tool 0 i e.task := List.ext_getElem (by simp) fun i _ _ => by simp
    rw [proceed, hjobs, List.map_map]
    · rfl
    · simpa using hsome
  have hlen : 0 < errands.length := List.length_pos_iff.mpr hsome
  obtain ⟨settled, m₁, hlead₁, h₁, hperm₁, hservices₁⟩ := (h.gathering (k := k) (w := w)).begin_all hserve (Nat.zero_add _)
    (by rw [List.take_zero, List.map_nil, List.append_nil]; exact h.services) hsucceeds
  have hawaited : awaited m.tasks.length [] settled m₁ ≠ [] := by
    refine List.ne_nil_of_length_pos ?_
    rw [hperm₁.length_eq, awaited, List.length_append, List.length_append, List.length_range']
    omega
  obtain ⟨w', m', hlead, helapsed, hpoised⟩ := h₁.finish le_rfl hawaited
  rw [hproceed]
  exact ⟨w', m', hlead₁.trans hlead, helapsed, hservices₁ ▸ hpoised⟩

end Poised

end Machine
end Workflow.Run
