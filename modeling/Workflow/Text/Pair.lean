/-!
# Workflow.Text.Pair

A name and a value that are joined by an equals sign.
-/

namespace Workflow.Text

/-- What stands before and behind the first equals sign, if there is one. -/
def splitPair? (s : String) : Option (String × String) :=
  let cs := s.toList
  match cs.dropWhile (· != '=') with
  | [] => none
  | _ :: value => some (String.ofList (cs.takeWhile (· != '=')), String.ofList value)

/-- A pair is the text that it was split from. -/
theorem join_splitPair? {s name value : String} (h : splitPair? s = some (name, value)) :
    name ++ "=" ++ value = s := by
  simp only [splitPair?] at h
  split at h
  · simp at h
  · next c rest hd =>
    obtain ⟨rfl, rfl⟩ := by simpa using h
    have hc : c = '=' := by
      have := List.head?_dropWhile_not (· != '=') s.toList
      rw [hd] at this
      simpa using this
    subst hc
    apply String.toList_inj.mp
    simp only [String.toList_append, String.toList_ofList]
    rw [show "=".toList = ['='] from rfl, List.append_assoc, List.singleton_append, ← hd,
      List.takeWhile_append_dropWhile]

end Workflow.Text
