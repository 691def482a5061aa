import Workbench.Proofs.Json.Reading
import Workbench.Proofs.Scanner.Frame
import Workbench.Riff.Saved

/-!
# Saved stacks are read back

A stack whose bottom is not that of a comment is what reading its saved text gives, as it is what
its list of states gives (`load_save`, `ofList_toList_of_bottom`).
-/

namespace Workbench.Riff

open Json (Gives ReadsBack)
open Scanner (StateStack)

namespace State

theorem isPlain_name (s : State) : ∀ c ∈ s.name.toList, Json.isPlain c = true := by
  have hall : s.name.toList.all Json.isPlain = true := by cases s <;> decide
  exact List.all_eq_true.1 hall

theorem quote_name (s : State) : Json.quote s.name.toList = '"' :: (s.name.toList ++ ['"']) := by
  cases s <;> decide

theorem find?_name (s : State) :
    (all.map fun s => (s.name, s)).find? (fun k => k.1.toList == s.name.toList)
      = some (s.name, s) := by
  cases s <;> decide

/-- the name of a state is read as the state -/
theorem readsBack : ReadsBack read fun s => Json.quote s.name.toList where
  front s := ⟨'"', s.name.toList ++ ['"'], s.quote_name, by decide, by decide⟩
  back s t := by
    rw [quote_name, List.cons_append, List.append_assoc]
    exact Json.gives_choice s.isPlain_name s.find?_name t

end State

namespace Stack

@[simp] theorem savedNames_cons (s : State) (ss : List State) :
    savedNames (s :: ss) = Json.quote s.name.toList
      ++ ss.flatMap fun s => ',' :: Json.quote s.name.toList := by
  induction ss generalizing s with
  | nil => rw [savedNames, List.flatMap_nil, List.append_nil]
  | cons s' ss ih =>
    have hcons : savedNames (s :: s' :: ss)
        = Json.quote s.name.toList ++ ',' :: savedNames (s' :: ss) := rfl
    rw [hcons, ih, List.flatMap_cons, List.cons_append]

/-- a saved stack is read as the list of its states -/
theorem gives_list_save (st : Stack) : Gives (Json.list State.read st.save) st.toList [] := by
  obtain ⟨s, ss, hlist⟩ := List.exists_cons_of_ne_nil st.toList_ne_nil
  rw [save, hlist, savedNames_cons, List.cons_append, List.append_assoc]
  exact State.readsBack.gives_list s ss []

theorem ofList_toList_of_bottom {st : Stack} (h : st.bottom ≠ .comment) :
    StateStack.ofList st.toList = .ok st :=
  StateStack.ofList_eq_ok_iff.2 ⟨rfl, beq_false_of_ne h⟩

theorem load_save {st : Stack} (h : st.bottom ≠ .comment) : load st.save = .ok st := by
  obtain ⟨_, hread⟩ := gives_list_save st
  simp only [load, read, hread, ofList_toList_of_bottom h]
  rfl

end Stack

end Workbench.Riff
