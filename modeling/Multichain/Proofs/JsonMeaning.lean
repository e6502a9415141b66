import Mathlib
import Multichain.Proofs.JsonOrder

/-!
What a value means, whatever the order in which its members stand. Putting the members in order
leaves the meaning as it is and all that depends on the order away. Main statement:
`sorted_eq_iff_meaning`.
-/

set_option autoImplicit false

namespace Multichain.Json

inductive Meaning where
  | null
  | bool (value : Bool)
  | number (number : Number)
  | text (value : String)
  | array (items : List Meaning)
  | object (members : String → Option Meaning)

mutual

def Value.meaning : Value → Meaning
  | .null => .null
  | .bool value => .bool value
  | .number number => .number number
  | .text value => .text value
  | .array items => .array (itemMeanings items)
  | .object members => .object (memberMeanings members)

def itemMeanings : List Value → List Meaning
  | [] => []
  | item :: rest => item.meaning :: itemMeanings rest

-- A member outweighs those of the same name before it.
def memberMeanings : List (String × Value) → String → Option Meaning
  | [], _ => none
  | (name, value) :: rest, wanted =>
    (memberMeanings rest wanted).or (if wanted = name then some value.meaning else none)

end

theorem itemMeanings_eq_map (items : List Value) : itemMeanings items = items.map Value.meaning := by
  induction items with
  | nil => rfl
  | cons item rest ih => rw [itemMeanings, ih, List.map_cons]

theorem lookup_cons {α : Type} (wanted : String) (member : String × α) (rest : List (String × α)) :
    (member :: rest).lookup wanted =
      if wanted = member.1 then some member.2 else rest.lookup wanted := by
  by_cases same : wanted = member.1
  · simp [List.lookup, same]
  · have other : (wanted == member.1) = false := beq_eq_false_iff_ne.mpr same
    rw [List.lookup, other, if_neg same]

theorem lookup_map {α β : Type} (f : α → β) (members : List (String × α)) (wanted : String) :
    (members.map fun member => (member.1, f member.2)).lookup wanted =
      (members.lookup wanted).map f := by
  induction members with
  | nil => rfl
  | cons member rest ih =>
    rw [List.map_cons, lookup_cons, lookup_cons, ih]
    split_ifs <;> rfl

theorem mem_of_lookup {α : Type} (members : List (String × α)) (wanted : String) (value : α)
    (found : members.lookup wanted = some value) : (wanted, value) ∈ members := by
  induction members with
  | nil => simp at found
  | cons member rest ih =>
    rw [lookup_cons] at found
    split_ifs at found with same
    · obtain rfl := Option.some.inj found
      simp [same]
    · exact List.mem_cons_of_mem _ (ih found)

theorem memberMeanings_eq_lookup (members : List (String × Value)) (wanted : String) :
    memberMeanings members wanted = (members.reverse.lookup wanted).map Value.meaning := by
  induction members with
  | nil => rfl
  | cons member rest ih =>
    rw [memberMeanings, ih, List.reverse_cons, List.lookup_append, Option.map_or, lookup_cons]
    split_ifs <;> rfl

theorem lookup_insertMember (name : String) (value : Value) (members : List (String × Value))
    (wanted : String) :
    (insertMember name value members).lookup wanted =
      if wanted = name then some value else members.lookup wanted := by
  induction members with
  | nil => rw [insertMember, lookup_cons]
  | cons head rest ih =>
    obtain ⟨other, held⟩ := head
    by_cases before : name < other
    · rw [insertMember, if_pos before, lookup_cons]
    · by_cases same : name = other
      · rw [insertMember, if_neg before, if_pos same, lookup_cons, lookup_cons, ← same]
        split_ifs <;> rfl
      · rw [insertMember, if_neg before, if_neg same, lookup_cons, ih, lookup_cons]
        by_cases own : wanted = other
        · have apart : wanted ≠ name := fun found => same (found.symm.trans own)
          rw [if_pos own, if_neg apart, if_pos own]
        · rw [if_neg own, if_neg own]

theorem lookup_insertMembers (front members : List (String × Value)) (wanted : String) :
    (insertMembers front members).lookup wanted =
      (members.reverse.lookup wanted).or (front.lookup wanted) := by
  induction members generalizing front with
  | nil => rfl
  | cons member rest ih =>
    have step : insertMembers front (member :: rest) =
        insertMembers (insertMember member.1 member.2 front) rest := rfl
    rw [step, ih, lookup_insertMember, List.reverse_cons, List.lookup_append, Option.or_assoc,
      lookup_cons]
    split_ifs <;> rfl

theorem lookup_sortMembers (members : List (String × Value)) (wanted : String) :
    (sortMembers members).lookup wanted = members.reverse.lookup wanted := by
  have placed := lookup_insertMembers [] members wanted
  rw [List.lookup_nil, Option.or_none] at placed
  exact placed

theorem lookup_sortedMembers (members : List (String × Value)) (wanted : String) :
    (sortMembers (sortedMembers members)).lookup wanted =
      (members.reverse.lookup wanted).map Value.sorted := by
  rw [lookup_sortMembers, sortedMembers_eq_map, ← List.map_reverse, lookup_map]

theorem lookup_eq_some_iff (members : List (String × Value)) (ascending : Ascending members)
    (name : String) (value : Value) :
    members.lookup name = some value ↔ (name, value) ∈ members := by
  refine ⟨mem_of_lookup members name value, fun found => ?_⟩
  induction members with
  | nil => simp at found
  | cons head rest ih =>
    obtain ⟨above, tail⟩ := List.pairwise_cons.mp ascending
    rw [lookup_cons]
    cases List.mem_cons.mp found with
    | inl first => simp [← first]
    | inr later =>
      have other : name ≠ head.1 := (above _ later).ne'
      rw [if_neg other, ih tail later]

theorem ascending_ext (first second : List (String × Value)) (firstAscending : Ascending first)
    (secondAscending : Ascending second)
    (same : ∀ name, first.lookup name = second.lookup name) : first = second := by
  let before (one other : String × Value) : Prop := one.1 < other.1
  have : Std.Irrefl before := ⟨fun one => lt_irrefl one.1⟩
  have : Std.Antisymm before := ⟨fun one other below above => absurd above (lt_asymm below)⟩
  refine List.Pairwise.eq_of_mem_iff (r := before) firstAscending secondAscending fun member => ?_
  rw [← lookup_eq_some_iff first firstAscending member.1 member.2, same,
    lookup_eq_some_iff second secondAscending]

theorem lookup_reverse (members : List (String × Value)) (ascending : Ascending members)
    (wanted : String) : members.reverse.lookup wanted = members.lookup wanted := by
  rw [← lookup_sortMembers, sortMembers_of_ascending members ascending]

theorem meaning_sorted (value : Value) : value.sorted.meaning = value.meaning := by
  induction value using Value.nested_induction with
  | null | bool | number | text => rfl
  | array items ih =>
    rw [Value.sorted, Value.meaning, Value.meaning, itemMeanings_eq_map, itemMeanings_eq_map,
      sortedItems_eq_map, List.map_map]
    exact congrArg _ (List.map_congr_left ih)
  | object members ih =>
    rw [Value.sorted, Value.meaning, Value.meaning]
    congr 1
    funext wanted
    rw [memberMeanings_eq_lookup, memberMeanings_eq_lookup,
      lookup_reverse _ (sortMembers_ascending _), lookup_sortedMembers, Option.map_map]
    refine Option.map_congr fun value found => ?_
    exact ih _ (List.mem_reverse.mp (mem_of_lookup _ _ _ found))

theorem sorted_of_meaning (first second : Value) (same : first.meaning = second.meaning) :
    first.sorted = second.sorted := by
  induction first using Value.nested_induction generalizing second with
  | null => cases second <;> simp_all [Value.meaning]
  | bool value => cases second <;> simp_all [Value.meaning]
  | number value => cases second <;> simp_all [Value.meaning]
  | text value => cases second <;> simp_all [Value.meaning]
  | array items ih =>
    cases second with
    | array others =>
      rw [Value.meaning, Value.meaning, Meaning.array.injEq, itemMeanings_eq_map,
        itemMeanings_eq_map] at same
      rw [Value.sorted, Value.sorted, sortedItems_eq_map, sortedItems_eq_map]
      exact congrArg _ (map_eq_of_map_eq _ _ items others (fun item present other _ =>
        ih item present other) same)
    | null | bool | number | text | object => cases same
  | object members ih =>
    cases second with
    | object others =>
      rw [Value.meaning, Value.meaning, Meaning.object.injEq] at same
      rw [Value.sorted, Value.sorted]
      refine congrArg _ (ascending_ext _ _ (sortMembers_ascending _) (sortMembers_ascending _) ?_)
      intro wanted
      have found := congrFun same wanted
      rw [memberMeanings_eq_lookup, memberMeanings_eq_lookup] at found
      rw [lookup_sortedMembers, lookup_sortedMembers]
      cases own : members.reverse.lookup wanted with
      | none =>
        rw [own, Option.map_none] at found
        rw [Option.map_eq_none_iff.mp found.symm]
      | some value =>
        rw [own, Option.map_some, eq_comm, Option.map_eq_some_iff] at found
        obtain ⟨other, held, alike⟩ := found
        have member := List.mem_reverse.mp (mem_of_lookup _ _ _ own)
        rw [held, Option.map_some, Option.map_some, ih _ member other alike.symm]
    | null | bool | number | text | array => cases same

theorem sorted_eq_iff_meaning (first second : Value) :
    first.sorted = second.sorted ↔ first.meaning = second.meaning := by
  constructor
  · intro same
    rw [← meaning_sorted first, same, meaning_sorted]
  · exact sorted_of_meaning first second

end Multichain.Json
