import ModuleBridge.Json.Value

/-!
# The keys in a value

`Json.AllKeys` is a property of every key of every object in a value. Putting the members of all
objects in the order of their keys adds no key (`allKeys_sorted`) and makes no object empty
(`sortedMembers_ne_nil`).
-/

namespace ModuleBridge.Json

mutual

/-- Every key in the value has the property. -/
def AllKeys (p : String → Prop) : Json → Prop
  | .array items => ItemsKeys p items
  | .object members => MembersKeys p members
  | _ => True

/-- Every key in the items has the property. -/
def ItemsKeys (p : String → Prop) : List Json → Prop
  | [] => True
  | v :: rest => AllKeys p v ∧ ItemsKeys p rest

/-- Every key of the members, and in their values, has the property. -/
def MembersKeys (p : String → Prop) : List (String × Json) → Prop
  | [] => True
  | (key, v) :: rest => p key ∧ AllKeys p v ∧ MembersKeys p rest

end

section
variable {p : String → Prop} {items : List Json} {members done : List (String × Json)}

/-- A property of all keys in items is one of the keys in each of them. -/
theorem itemsKeys_iff : ItemsKeys p items ↔ ∀ v ∈ items, AllKeys p v := by
  induction items with
  | nil => simp [ItemsKeys]
  | cons v rest ih => rw [ItemsKeys, ih, List.forall_mem_cons]

/-- A property of all keys in members is one of their own keys and those in their values. -/
theorem membersKeys_iff : MembersKeys p members ↔ ∀ m ∈ members, p m.1 ∧ AllKeys p m.2 := by
  induction members with
  | nil => simp [MembersKeys]
  | cons m rest ih => rw [MembersKeys, ih, List.forall_mem_cons, and_assoc]

@[simp] theorem allKeys_array : AllKeys p (.array items) ↔ ∀ v ∈ items, AllKeys p v :=
  itemsKeys_iff

@[simp] theorem allKeys_object :
    AllKeys p (.object members) ↔ ∀ m ∈ members, p m.1 ∧ AllKeys p m.2 :=
  membersKeys_iff

/-! ## Putting keys in order -/

/-- What is put among the members is the only one that may be new. -/
theorem mem_insert {α : Type} {key : String} {x : α} {done : List (String × α)} {m : String × α}
    (h : m ∈ insert key x done) : m = (key, x) ∨ m ∈ done := by
  induction done with
  | nil => exact .inl (List.mem_singleton.1 h)
  | cons m' done ih =>
    rw [insert] at h
    split at h
    · exact List.mem_cons.1 h
    · split at h
      · exact (List.mem_cons.1 h).imp_right (.tail _)
      · rcases List.mem_cons.1 h with rfl | h
        · exact .inr List.mem_cons_self
        · exact (ih h).imp_right (.tail _)

theorem insert_ne_nil {α : Type} {key : String} {x : α} (done : List (String × α)) :
    insert key x done ≠ [] := by
  cases done with
  | nil => exact List.cons_ne_nil _ _
  | cons m done =>
    rw [insert]
    split
    · exact List.cons_ne_nil _ _
    · split <;> exact List.cons_ne_nil _ _

/-- An object does not become empty when its members are put in order. -/
theorem sortedMembers_ne_nil (hdone : done ≠ []) : sortedMembers members done ≠ [] := by
  induction members generalizing done with
  | nil =>
    rw [sortedMembers]
    exact hdone
  | cons m rest ih =>
    rw [sortedMembers]
    exact ih (insert_ne_nil done)

mutual

/-- Putting the members of all objects in order adds no key. -/
theorem allKeys_sorted : (v : Json) → AllKeys p v → AllKeys p v.sorted
  | .null, _ | .bool _, _ | .number _, _ | .string _, _ => trivial
  | .array items, h => itemsKeys_sorted items h
  | .object members, h => membersKeys_sorted members [] h trivial

/-- The order of members does not matter for the keys in items. -/
theorem itemsKeys_sorted : (items : List Json) → ItemsKeys p items →
    ItemsKeys p (sortedItems items)
  | [], _ => trivial
  | v :: rest, h => ⟨allKeys_sorted v h.1, itemsKeys_sorted rest h.2⟩

/-- Members that are put in order keep their keys. -/
theorem membersKeys_sorted : (members done : List (String × Json)) → MembersKeys p members →
    MembersKeys p done → MembersKeys p (sortedMembers members done)
  | [], _, _, hdone => by rwa [sortedMembers]
  | (key, v) :: rest, done, h, hdone => by
    rw [sortedMembers]
    refine membersKeys_sorted rest _ h.2.2 (membersKeys_iff.2 fun m hm => ?_)
    rcases mem_insert hm with rfl | hm
    · exact ⟨h.1, allKeys_sorted v h.2.1⟩
    · exact membersKeys_iff.1 hdone m hm

end

end

end ModuleBridge.Json
