import Mathlib
import Multichain.Json.Value

/-!
The order of members. Values whose members have been put in order stay as they are when that is done
again. Main statement: `sorted_sorted`.
-/

set_option autoImplicit false

namespace Multichain.Json

@[elab_as_elim]
theorem Value.nested_induction {motive : Value → Prop} (null : motive .null)
    (bool : ∀ value, motive (.bool value)) (number : ∀ value, motive (.number value))
    (text : ∀ value, motive (.text value))
    (array : ∀ items, (∀ item ∈ items, motive item) → motive (.array items))
    (object : ∀ members, (∀ member ∈ members, motive member.2) → motive (.object members)) :
    ∀ value, motive value
  | .null => null
  | .bool value => bool value
  | .number value => number value
  | .text value => text value
  | .array items => array items fun item _ =>
    nested_induction null bool number text array object item
  | .object members => object members fun member _ =>
    nested_induction null bool number text array object member.2
termination_by value => sizeOf value
decreasing_by
  · have smaller := List.sizeOf_lt_of_mem ‹item ∈ items›
    simp only [Value.array.sizeOf_spec]
    omega
  · have smaller := List.sizeOf_lt_of_mem ‹member ∈ members›
    have part : sizeOf member.2 < sizeOf member := by
      cases member
      simp only [Prod.mk.sizeOf_spec]
      omega
    simp only [Value.object.sizeOf_spec]
    omega

theorem sortedItems_eq_map (items : List Value) : sortedItems items = items.map Value.sorted := by
  induction items with
  | nil => rfl
  | cons item rest ih => rw [sortedItems, ih, List.map_cons]

theorem sortedMembers_eq_map (members : List (String × Value)) :
    sortedMembers members = members.map fun member => (member.1, member.2.sorted) := by
  induction members with
  | nil => rfl
  | cons member rest ih => rw [sortedMembers, ih, List.map_cons]

theorem map_eq_of_map_eq {α β γ : Type} (f : α → β) (g : α → γ) (first second : List α)
    (each : ∀ value ∈ first, ∀ other ∈ second, f value = f other → g value = g other)
    (same : first.map f = second.map f) : first.map g = second.map g := by
  induction first generalizing second with
  | nil => rw [List.map_eq_nil_iff.mp same.symm]
  | cons value rest ih =>
    cases second with
    | nil => cases same
    | cons other others =>
      obtain ⟨sameHead, sameTail⟩ := List.cons.inj same
      have head := each value (by simp) other (by simp) sameHead
      have tail := ih others (fun value present other found =>
        each value (by simp [present]) other (by simp [found])) sameTail
      rw [List.map_cons, List.map_cons, head, tail]

theorem map_injective_of_mem {α β : Type} (f : α → β) (first second : List α)
    (each : ∀ value ∈ first, ∀ other ∈ second, f value = f other → value = other)
    (same : first.map f = second.map f) : first = second := by
  simpa using map_eq_of_map_eq f id first second each same

def Ascending (members : List (String × Value)) : Prop :=
  members.Pairwise fun first second => first.1 < second.1

theorem mem_insertMember (name : String) (value : Value) (members : List (String × Value))
    (member : String × Value) (found : member ∈ insertMember name value members) :
    member = (name, value) ∨ member ∈ members := by
  induction members with
  | nil => simpa [insertMember] using found
  | cons head rest ih =>
    simp only [insertMember] at found
    split_ifs at found <;> simp only [List.mem_cons] at found ⊢ <;> tauto

theorem insertMember_ascending (name : String) (value : Value) (members : List (String × Value))
    (ascending : Ascending members) : Ascending (insertMember name value members) := by
  induction members with
  | nil => simp [insertMember, Ascending]
  | cons head rest ih =>
    obtain ⟨above, tail⟩ := List.pairwise_cons.mp ascending
    simp only [insertMember]
    split_ifs with before same
    · refine List.pairwise_cons.mpr ⟨?_, ascending⟩
      intro member found
      rcases List.mem_cons.mp found with rfl | later
      · exact before
      · exact before.trans (above member later)
    · exact List.pairwise_cons.mpr ⟨same ▸ above, tail⟩
    · refine List.pairwise_cons.mpr ⟨?_, ih tail⟩
      intro member found
      rcases mem_insertMember name value rest member found with rfl | later
      · exact lt_of_le_of_ne (not_lt.mp before) (Ne.symm same)
      · exact above member later

theorem insertMember_last (name : String) (value : Value) (members : List (String × Value))
    (below : ∀ member ∈ members, member.1 < name) :
    insertMember name value members = members ++ [(name, value)] := by
  induction members with
  | nil => rfl
  | cons head rest ih =>
    have first := below head (by simp)
    rw [insertMember, if_neg first.not_gt, if_neg first.ne', ih fun member found =>
      below member (by simp [found])]
    rfl

-- Sorting, with some members already in place: what the fold carries along.
def insertMembers (front members : List (String × Value)) : List (String × Value) :=
  members.foldl (fun sorted member => insertMember member.1 member.2 sorted) front

theorem insertMembers_ascending (front members : List (String × Value))
    (ascending : Ascending front) : Ascending (insertMembers front members) := by
  induction members generalizing front with
  | nil => exact ascending
  | cons member rest ih => exact ih _ (insertMember_ascending member.1 member.2 front ascending)

theorem mem_insertMembers (front members : List (String × Value)) (member : String × Value)
    (found : member ∈ insertMembers front members) : member ∈ front ∨ member ∈ members := by
  induction members generalizing front with
  | nil => exact .inl found
  | cons head rest ih =>
    rcases ih _ found with early | late
    · rcases mem_insertMember head.1 head.2 front member early with rfl | before
      · exact .inr (by simp)
      · exact .inl before
    · exact .inr (List.mem_cons_of_mem head late)

theorem insertMembers_of_ascending (front members : List (String × Value))
    (ascending : Ascending (front ++ members)) : insertMembers front members = front ++ members := by
  induction members generalizing front with
  | nil => simp [insertMembers]
  | cons member rest ih =>
    have below : ∀ other ∈ front, other.1 < member.1 := fun other found =>
      (List.pairwise_append.mp ascending).2.2 other found member (by simp)
    have appended := insertMember_last member.1 member.2 front below
    have after := ih (front ++ [member]) (by simpa using ascending)
    rw [insertMembers, List.foldl_cons, appended]
    simpa [insertMembers] using after

theorem sortMembers_of_ascending (members : List (String × Value)) (ascending : Ascending members) :
    sortMembers members = members :=
  insertMembers_of_ascending [] members ascending

theorem sortMembers_ascending (members : List (String × Value)) : Ascending (sortMembers members) :=
  insertMembers_ascending [] members List.Pairwise.nil

theorem mem_sortMembers (members : List (String × Value)) (member : String × Value)
    (found : member ∈ sortMembers members) : member ∈ members := by
  simpa using mem_insertMembers [] members member found

theorem mem_sortedMembers (members : List (String × Value)) (member : String × Value)
    (found : member ∈ sortMembers (sortedMembers members)) :
    ∃ original ∈ members, member = (original.1, original.2.sorted) := by
  have source := mem_sortMembers _ member found
  rw [sortedMembers_eq_map, List.mem_map] at source
  obtain ⟨original, present, same⟩ := source
  exact ⟨original, present, same.symm⟩

theorem sorted_object (members : List (String × Value))
    (each : ∀ member ∈ members, member.2.sorted = member.2) :
    (Value.object (sortMembers members)).sorted = .object (sortMembers members) := by
  have settled : sortedMembers (sortMembers members) = sortMembers members := by
    rw [sortedMembers_eq_map]
    refine (List.map_congr_left ?_).trans (List.map_id _)
    intro member found
    simp only [each member (mem_sortMembers members member found), id]
  rw [Value.sorted, settled, sortMembers_of_ascending _ (sortMembers_ascending members)]

theorem sorted_sorted (value : Value) : value.sorted.sorted = value.sorted := by
  induction value using Value.nested_induction with
  | null | bool | number | text => simp only [Value.sorted]
  | array items ih =>
    have each : items.map (Value.sorted ∘ Value.sorted) = items.map Value.sorted :=
      List.map_congr_left ih
    simp only [Value.sorted, sortedItems_eq_map, List.map_map, each]
  | object members ih =>
    rw [Value.sorted]
    refine sorted_object _ fun member found => ?_
    rw [sortedMembers_eq_map, List.mem_map] at found
    obtain ⟨original, present, rfl⟩ := found
    exact ih original present

end Multichain.Json
