import Workflow.Run.Gate

/-!
# Workflow.Proofs.Passage

Who goes through a gate.

1. An open gate stays as it is, whatever is asked of it, and nobody goes through any
   more (`after_of_released`).
2. What a gate is like, and what everybody who arrived was told, can be read off the
   calls (`Story`).  Either all wait, or the last of the required number has gone
   through, or the gate was abandoned before.  Each call goes on with the story
   (`Story.arrive`, `Story.abandon`), and so do any number of calls (`Story.run`).
3. So the calls before an arrival tell whether it goes through, and of all arrivals it
   is the only one (`lets_one_through`).
-/

namespace Workflow.Run.Gate

/-! ## Calls -/

/-- What a gate is asked to do. -/
inductive Call where
  | arrive
  | abandon
deriving DecidableEq

/-- The gate after calls, one after the other. -/
def after (g : Gate) : List Call → Gate
  | [] => g
  | .arrive :: calls => g.arrive.2.after calls
  | .abandon :: calls => g.abandon.after calls

/-- What those that arrive are told, in the order in which they arrive. -/
def answers (g : Gate) : List Call → List Bool
  | [] => []
  | .arrive :: calls => g.arrive.1 :: g.arrive.2.answers calls
  | .abandon :: calls => g.abandon.answers calls

variable {g : Gate} {required : Int} {calls before later : List Call} {told : List Bool}

theorem after_append (g : Gate) (before later : List Call) :
    g.after (before ++ later) = (g.after before).after later := by
  induction before generalizing g with
  | nil => rfl
  | cons c before ih => cases c <;> exact ih _

/-- An open gate never changes again, and lets nobody through. -/
theorem after_of_released (h : g.released = true) (calls : List Call) :
    g.after calls = g ∧ true ∉ g.answers calls := by
  induction calls with
  | nil => exact ⟨rfl, List.not_mem_nil⟩
  | cons c calls ih =>
    cases c with
    | arrive =>
      rw [after, answers, arrive_of_released h]
      exact ⟨ih.1, List.not_mem_cons_of_ne_of_not_mem nofun ih.2⟩
    | abandon =>
      rw [after, answers, abandon_of_released h]
      exact ih

/-- Who goes through is the one who makes up the number at a closed gate. -/
theorem arrive_fst_eq_true_iff (g : Gate) :
    g.arrive.1 = true ↔ g.released = false ∧ g.required ≤ ((g.arrived + 1 : Nat) : Int) := by
  obtain ⟨through, g', harrive⟩ : ∃ through g', g.arrive = (through, g') := ⟨_, _, rfl⟩
  rw [harrive]
  cases through with
  | false =>
    obtain ⟨hopen, -⟩ | ⟨-, -, hfew⟩ := arrive_false harrive
    · exact iff_of_false nofun fun h => by simp [hopen] at h
    · exact iff_of_false nofun fun h => absurd h.2 (Int.not_le.mpr hfew)
  | true =>
    obtain ⟨hclosed, -, henough⟩ := arrive_true harrive
    exact iff_of_true rfl ⟨hclosed, henough⟩

/-! ## What calls make of a gate -/

/-- What calls make of a gate that was closed, and what those that arrived were told.
The required number is made up by a last arrival, and the gate can be abandoned only
before it; what comes later does not matter. -/
inductive Story (required : Int) : List Call → List Bool → Gate → Prop
  | waiting {calls : List Call} : Call.abandon ∉ calls → (calls.count .arrive : Int) < required →
      Story required calls (List.replicate (calls.count .arrive) false)
        ⟨required, calls.count .arrive, false, false⟩
  | passed {before later : List Call} : Call.abandon ∉ before → ((before.count .arrive + 1 : Nat) : Int) = required →
      Story required (before ++ .arrive :: later)
        (List.replicate (before.count .arrive) false ++ true :: List.replicate (later.count .arrive) false)
        ⟨required, before.count .arrive + 1, false, true⟩
  | abandoned {before later : List Call} : Call.abandon ∉ before → (before.count .arrive : Int) < required →
      Story required (before ++ .abandon :: later)
        (List.replicate (before.count .arrive + later.count .arrive) false)
        ⟨required, before.count .arrive, true, true⟩

namespace Story

/-- Nobody has called yet. -/
theorem closed (hrequired : 1 ≤ required) : Story required [] [] (closed required) :=
  waiting List.not_mem_nil (show (0 : Int) < required from hrequired)

/-- Once the gate is open, whoever arrives is turned away. -/
theorem late (h : Story required calls told g) (hopen : g.released = true) (c : Call) :
    Story required (calls ++ [c]) (told ++ List.replicate ([c].count .arrive) false) g := by
  cases h with
  | waiting => cases hopen
  | @passed before later hno hlast =>
    have hlater : Story required (before ++ .arrive :: (later ++ [c])) _ _ := passed hno hlast
    simpa [List.count_append, ← List.replicate_append_replicate] using hlater
  | @abandoned before later hno hfew =>
    have hlater : Story required (before ++ .abandon :: (later ++ [c])) _ _ := abandoned hno hfew
    simpa [List.count_append, ← List.replicate_append_replicate] using hlater

/-- The next to arrive waits as well, goes through, or comes too late. -/
theorem arrive (h : Story required calls told g) :
    Story required (calls ++ [.arrive]) (told ++ [g.arrive.1]) g.arrive.2 := by
  have hlate := h.late
  cases h with
  | waiting hno hfew =>
    -- Only here the number decides: it is still short, or made up by this arrival.
    obtain ⟨through, g', harrive⟩ : ∃ through g',
        Gate.arrive ⟨required, calls.count .arrive, false, false⟩ = (through, g') := ⟨_, _, rfl⟩
    rw [harrive]
    cases through with
    | false =>
      obtain ⟨hopen, -⟩ | ⟨-, rfl, hstill⟩ := arrive_false harrive
      · cases hopen
      · have hcount : (calls ++ [Call.arrive]).count .arrive = calls.count .arrive + 1 := by simp
        have hwaiting : Story required (calls ++ [.arrive]) _ _ := waiting (by simp [hno]) (hcount ▸ hstill)
        rwa [hcount, List.replicate_succ'] at hwaiting
    | true =>
      obtain ⟨-, rfl, henough⟩ := arrive_true harrive
      exact passed hno (Int.le_antisymm hfew henough)
  | passed | abandoned =>
    rw [arrive_of_released rfl]
    exact hlate rfl .arrive

/-- The gate is abandoned, or it is too late for that. -/
theorem abandon (h : Story required calls told g) : Story required (calls ++ [.abandon]) told g.abandon := by
  have hlate := h.late
  cases h with
  | waiting hno hfew => exact abandoned hno hfew
  | passed | abandoned =>
    rw [abandon_of_released rfl]
    simpa using hlate rfl .abandon

/-- Any number of calls go on with the story. -/
theorem run (h : Story required before told g) (calls : List Call) :
    Story required (before ++ calls) (told ++ g.answers calls) (g.after calls) := by
  induction calls generalizing before told g with
  | nil => simpa only [answers, after, List.append_nil] using h
  | cons c calls ih =>
    rw [List.append_cons]
    cases c with
    | arrive =>
      rw [answers, List.append_cons told]
      exact ih h.arrive
    | abandon => exact ih h.abandon

/-- Once the last of the required number has arrived, enough have. -/
theorem required_le_count (hlast : ((before.count .arrive + 1 : Nat) : Int) = required) (later : List Call) :
    required ≤ (before ++ .arrive :: later).count Call.arrive := by
  have hmany : before.count .arrive + 1 ≤ (before ++ .arrive :: later).count Call.arrive := by simp
  omega

/-- Whoever arrives next goes through if that makes up the number, and nobody has
abandoned the gate. -/
theorem next (h : Story required calls told g) :
    g.arrive.1 = true ↔ ((calls.count .arrive + 1 : Nat) : Int) = required ∧ Call.abandon ∉ calls := by
  rw [arrive_fst_eq_true_iff]
  cases h with
  | waiting hno hfew =>
    exact ⟨fun henough => ⟨Int.le_antisymm hfew henough.2, hno⟩, fun hnext => ⟨rfl, Int.le_of_eq hnext.1.symm⟩⟩
  | @passed before later _ hlast =>
    refine iff_of_false (fun hclosed => nomatch hclosed.1) fun hnext => ?_
    have henough := required_le_count hlast later
    omega
  | abandoned => exact iff_of_false (fun hclosed => nomatch hclosed.1) fun hnext => hnext.2 (by simp)

/-- At most one of those that arrived went through. -/
theorem count_told_le_one (h : Story required calls told g) : told.count true ≤ 1 := by
  cases h <;> simp [List.count_replicate]

/-- A gate is opened by being abandoned, or by enough arrivals. -/
theorem released_iff (h : Story required calls told g) :
    g.released = true ↔ Call.abandon ∈ calls ∨ required ≤ calls.count .arrive := by
  cases h with
  | waiting hno hfew => simp [hno, hfew]
  | passed _ hlast => exact iff_of_true rfl (.inr (required_le_count hlast _))
  | abandoned => simp

theorem arrived_le (h : Story required calls told g) : (g.arrived : Int) ≤ required := by
  cases h with
  | waiting _ hfew | abandoned _ hfew => exact Int.le_of_lt hfew
  | passed _ hlast => exact Int.le_of_eq hlast

/-- If the number has not been made up, abandoning the gate leaves it abandoned. -/
theorem abandon_of_few (h : Story required calls told g) (hfew : (calls.count .arrive : Int) < required) :
    g.abandon.abandoned = true := by
  cases h with
  | waiting | abandoned => rfl
  | passed _ hlast => exact absurd (required_le_count hlast _) (Int.not_le.mpr hfew)

/-- A gate that has been abandoned was abandoned short of the number, and nobody has gone
through. -/
theorem of_abandoned (h : Story required calls told g) (habandoned : g.abandoned = true) :
    g.released = true ∧ true ∉ told ∧ (g.arrived : Int) < required ∧
      ∃ before later, calls = before ++ .abandon :: later ∧ (before.count .arrive : Int) < required := by
  cases h with
  | waiting | passed => cases habandoned
  | abandoned hno hfew => exact ⟨rfl, by simp [List.mem_replicate], hfew, _, _, rfl, hfew⟩

end Story

/-- What calls make of a gate that nobody has reached. -/
theorem story (hrequired : 1 ≤ required) (calls : List Call) :
    Story required calls ((closed required).answers calls) ((closed required).after calls) :=
  (Story.closed hrequired).run calls

/-! ## Who goes through -/

/-- Of all that arrive at a gate at most one goes through. -/
structure OneThrough (required : Int) (calls : List Call) : Prop where
  /-- Nobody goes through after another. -/
  once : ((closed required).answers calls).count true ≤ 1
  /-- Who goes through is the last of the required number, where the gate has not been
  abandoned before. -/
  last : ∀ {before later}, calls = before ++ .arrive :: later →
    (((closed required).after before).arrive.1 = true ↔
      ((before.count .arrive + 1 : Nat) : Int) = required ∧ Call.abandon ∉ before)
  opens : ((closed required).after calls).released = true ↔ Call.abandon ∈ calls ∨ required ≤ calls.count .arrive
  /-- An open gate never changes again, and whoever comes later is turned away. -/
  stays : ∀ {before later}, calls = before ++ later → ((closed required).after before).released = true →
    (closed required).after calls = (closed required).after before ∧
      true ∉ ((closed required).after before).answers later
  /-- It has been abandoned if that came before the last of the required number. -/
  abandoned_iff : ((closed required).after calls).abandoned = true ↔
    ∃ before later, calls = before ++ .abandon :: later ∧ (before.count .arrive : Int) < required
  /-- Nobody goes through a gate that has been abandoned, neither before nor after. -/
  nobody : ((closed required).after calls).abandoned = true →
    ∀ later, true ∉ (closed required).answers (calls ++ later)
  arrived_le : (((closed required).after calls).arrived : Int) ≤ required
  arrived_lt : ((closed required).after calls).abandoned = true →
    (((closed required).after calls).arrived : Int) < required

/-- Whatever is asked of a gate, and in whatever order, at most one of those that arrive
goes through. -/
theorem lets_one_through (hrequired : 1 ≤ required) (calls : List Call) : OneThrough required calls where
  once := (story hrequired calls).count_told_le_one
  last := fun _ => (story hrequired _).next
  opens := (story hrequired calls).released_iff
  stays := by
    rintro before later rfl hreleased
    obtain ⟨hsame, hnobody⟩ := after_of_released hreleased later
    exact ⟨by rw [after_append, hsame], hnobody⟩
  abandoned_iff := by
    refine ⟨fun h => ((story hrequired calls).of_abandoned h).2.2.2, ?_⟩
    rintro ⟨before, later, rfl, hfew⟩
    -- The call abandons the gate if no earlier one has, and later calls leave it so.
    have habandoned := (story hrequired before).abandon_of_few hfew
    rw [after_append, after, (after_of_released (abandon_released _) later).1]
    exact habandoned
  nobody := by
    intro habandoned later
    obtain ⟨hreleased, -⟩ := (story hrequired calls).of_abandoned habandoned
    have hsame := (after_of_released hreleased later).1
    refine ((story hrequired (calls ++ later)).of_abandoned ?_).2.1
    rwa [after_append, hsame]
  arrived_le := (story hrequired calls).arrived_le
  arrived_lt := fun habandoned => ((story hrequired calls).of_abandoned habandoned).2.2.1

/-- The second to arrive at a gate for two goes through, but not if the gate is abandoned
in between. -/
theorem gate_for_two :
    (1 : Int) ≤ 2 ∧ OneThrough 2 [.arrive, .arrive, .abandon, .arrive] ∧
      (closed 2).answers [.arrive, .arrive, .abandon, .arrive] = [false, true, false] ∧
      OneThrough 2 [.arrive, .abandon, .arrive, .arrive] ∧
      (closed 2).answers [.arrive, .abandon, .arrive, .arrive] = [false, false, false] :=
  ⟨by decide, lets_one_through (by decide) _, by decide, lets_one_through (by decide) _, by decide⟩

end Workflow.Run.Gate
